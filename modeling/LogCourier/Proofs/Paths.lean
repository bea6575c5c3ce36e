import LogCourier.Adapter.CursorFile
import Mathlib.Data.String.Basic
import Mathlib.Tactic.Common

/-!
# The last name of a path

The text of a path is cut at its slashes (`FilePath.splitOn_eq`). The name of a file is the last
part (`FilePath.fileName?_eq_getLast?`), and after joining a name to a path it is the last part
(`FilePath.getLast?_splitOn_join`). So the neighbour to which a cursor is written first has a name
of its own, `CursorFile.temporaryName`, which is never the name of the file of the cursor.
-/

namespace LogCourier

open String (ofList utf8Len)

namespace FilePath

/-- The character between the segments of a path. -/
def isSlash (c : Char) : Bool :=
  c == '/'

/-! ### Cutting a text at its slashes -/

/-- The loop behind `splitOn` goes through the characters `r`, of which the current segment begins
with `m`. -/
theorem splitOnAux_eq (l m r : List Char) (acc : List String) :
  (ofList (l ++ m ++ r)).splitOnAux "/" ⟨utf8Len l⟩ ⟨utf8Len l + utf8Len m⟩ 0 acc
    = acc.reverse ++ (List.splitOnPPrepend isSlash r m.reverse).map ofList
  := by
  have hslash : String.Pos.Raw.get "/" 0 = '/' := by decide
  have hone : String.Pos.Raw.next "/" 0 = ⟨1⟩ := by decide
  have hend : String.Pos.Raw.atEnd "/" ⟨1⟩ = true := by decide
  induction r generalizing l m acc with
  | nil =>
      have h := (String.atEnd_of_valid (l ++ m) []).mpr rfl
      rw [String.utf8Len_append] at h
      rw [String.splitOnAux.eq_1, if_pos h, String.extract_of_valid, List.reverse_cons,
        List.splitOnPPrepend_nil, List.reverse_reverse, List.map_singleton]
  | cons c r ih =>
      have h := mt (String.atEnd_of_valid (l ++ m) (c :: r)).mp (List.cons_ne_nil c r)
      have hget := String.get_of_valid (l ++ m) (c :: r)
      have hnext := String.next_of_valid (l ++ m) c r
      have hlen : utf8Len [c] = c.utf8Size := by simp
      rw [String.utf8Len_append] at h hget hnext
      rw [String.splitOnAux.eq_1, if_neg h, hget, hslash, hone, List.headD_cons]
      by_cases hc : c = '/'
      · -- the segment ends, and the next one begins after the slash
        subst hc
        have hback : String.Pos.Raw.unoffsetBy ⟨utf8Len l + utf8Len m + Char.utf8Size '/'⟩ ⟨1⟩
            = ⟨utf8Len l + utf8Len m⟩ := rfl
        have hp : isSlash '/' = true := rfl
        have hstep := ih (l ++ m ++ ['/']) [] (ofList m :: acc)
        rw [String.utf8Len_append, String.utf8Len_append, List.append_nil, List.append_assoc, hlen]
          at hstep
        rw [if_pos (beq_self_eq_true '/'), hnext, List.splitOnPPrepend_cons_pos hp]
        dsimp only
        rw [if_pos hend, hback, String.extract_of_valid]
        apply hstep.trans
        rw [List.reverse_cons, List.append_assoc, List.reverse_nil, List.splitOnPPrepend_nil_right,
          List.reverse_reverse]
        rfl
      · have hback : String.Pos.Raw.unoffsetBy ⟨utf8Len l + utf8Len m⟩ 0
            = ⟨utf8Len l + utf8Len m⟩ := rfl
        have hp : isSlash c = false := beq_eq_false_iff_ne.mpr hc
        have hstep := ih l (m ++ [c]) acc
        rw [String.utf8Len_append, hlen, ← List.append_assoc l, List.append_assoc, ← Nat.add_assoc,
          List.reverse_append] at hstep
        rw [if_neg (mt beq_iff_eq.mp hc), hback, hnext, List.splitOnPPrepend_cons_neg hp]
        apply hstep

/-- The text of a path is cut at its slashes. -/
theorem splitOn_eq (path : String) :
  path.splitOn "/" = (path.toList.splitOnP isSlash).map ofList
  := by
  have h := splitOnAux_eq [] [] path.toList []
  rw [List.nil_append, List.nil_append, String.ofList_toList] at h
  apply h

/-- No part of a list that is cut at some elements has one of these. -/
theorem forall_not_of_mem_splitOnP {α : Type} {p : α → Bool} {l part : List α}
    (h : part ∈ l.splitOnP p) :
  ∀ a ∈ part, p a = false
  := by
  induction l generalizing part with
  | nil =>
      rw [List.splitOnP_nil, List.mem_singleton] at h
      rw [h]
      apply List.forall_mem_nil
  | cons b l ih =>
      rw [List.splitOnP_cons_eq_if_modifyHead] at h
      split at h
      · rcases List.mem_cons.mp h with rfl | h
        · apply List.forall_mem_nil
        · apply ih h
      · next hb =>
        cases hl : l.splitOnP p with
        | nil =>
            rw [hl] at h
            cases h
        | cons first rest =>
            rw [hl] at h ih
            rcases List.mem_cons.mp h with rfl | h
            · exact List.forall_mem_cons.mpr
                ⟨Bool.eq_false_of_not_eq_true hb, ih List.mem_cons_self⟩
            · apply ih (List.mem_cons_of_mem first h)

/-- The text has no slash. -/
def IsName (name : String) : Prop :=
  ∀ c ∈ name.toList, isSlash c = false

instance (name : String) : Decidable (IsName name) :=
  List.decidableBAll (fun c => isSlash c = false) name.toList

/-- The parts of a path have no slashes. -/
theorem isName_of_mem_splitOn {path part : String} (h : part ∈ path.splitOn "/") :
  IsName part
  := by
  rw [splitOn_eq] at h
  obtain ⟨cs, hcs, rfl⟩ := List.mem_map.mp h
  rw [IsName, String.toList_ofList]
  apply forall_not_of_mem_splitOnP hcs

theorem IsName.append {s t : String} (hs : IsName s) (ht : IsName t) :
  IsName (s ++ t)
  := by
  rw [IsName, String.toList_append]
  exact List.forall_mem_append.mpr ⟨hs, ht⟩

/-! ### The last part -/

theorem splitOn_name {name : String} (h : IsName name) :
  name.splitOn "/" = [name]
  := by
  rw [splitOn_eq, List.splitOnP_eq_singleton h, List.map_singleton, String.ofList_toList]

theorem splitOn_append_slash {path name : String} (h : IsName name) :
  (path ++ "/" ++ name).splitOn "/" = path.splitOn "/" ++ [name]
  := by
  have hlist : (path ++ "/" ++ name).toList = path.toList ++ '/' :: name.toList := by
    rw [String.toList_append, String.toList_append, List.append_assoc]
    rfl
  have hslash : isSlash '/' = true := rfl
  rw [splitOn_eq, hlist, List.splitOnP_append_cons _ _ hslash, List.map_append, ← splitOn_eq,
    ← splitOn_eq, splitOn_name h]

/-- The name that is joined to a path is its last part. -/
theorem getLast?_splitOn_join (path : String) {name : String} (h : IsName name) :
  ((join path name).splitOn "/").getLast? = some name
  := by
  rw [join]
  split
  · next hend =>
    rcases hend with hempty | hslash
    · rw [String.isEmpty_iff.mp hempty, String.empty_append, splitOn_name h]
      rfl
    · obtain ⟨front, hfront⟩ := List.getLast?_eq_some_iff.mp hslash
      have hpath : path = ofList front ++ "/" := by
        apply Eq.trans String.ofList_toList.symm
        rw [hfront, String.ofList_append]
      rw [hpath, splitOn_append_slash h, List.getLast?_concat]
  · rw [splitOn_append_slash h, List.getLast?_concat]

theorem getLast?_splitOn_withFileName (path : String) {name : String} (h : IsName name) :
  ((withFileName path name).splitOn "/").getLast? = some name
  := by
  rw [withFileName]
  split <;> apply getLast?_splitOn_join _ h

/-! ### Names of files -/

theorem mem_of_mem_trim {s : String} {ss : List String} (h : s ∈ segments.trim ss) :
  s ∈ ss
  := by
  induction ss with
  | nil => apply h
  | cons a before ih =>
      rw [segments.trim] at h
      split at h
      · apply List.mem_cons_of_mem a (ih h)
      · apply h

/-- The name of a file has no slash. -/
theorem isName_of_fileName? {path name : String} (h : fileName? path = some name) :
  IsName name
  := by
  rw [fileName?] at h
  split at h
  · next s hs =>
    split at h
    · cases h
    · cases h
      have hmem : name ∈ path.splitOn "/" := by
        apply List.mem_reverse.mp
        apply mem_of_mem_trim
        apply List.mem_reverse.mp
        apply List.mem_of_getLast? hs
      apply isName_of_mem_splitOn hmem
  · cases h

/-- The name of a file is the last part of its path, if this part says something. -/
theorem fileName?_eq_getLast? {path name : String}
    (h : (path.splitOn "/").getLast? = some name) (hempty : name ≠ "") (hdot : name ≠ ".")
    (hdots : name ≠ "..") :
  fileName? path = some name
  := by
  obtain ⟨front, hfront⟩ := List.getLast?_eq_some_iff.mp h
  have hsegments : segments path = front ++ [name] := by
    rw [segments, hfront, List.reverse_append, List.reverse_singleton, List.singleton_append,
      segments.trim, if_neg, List.reverse_cons, List.reverse_reverse]
    rintro ⟨hs | hs, -⟩
    · exact hempty hs
    · exact hdot hs
  rw [fileName?, hsegments, List.getLast?_concat]
  apply if_neg
  simp [hempty, hdot, hdots]

end FilePath

namespace CursorFile

/-- The name of the neighbour that is written first. -/
def temporaryName (path : String) : String :=
  (FilePath.fileName? path).getD "cursor" ++ ".tmp"

/-- The neighbour has the name that is reserved for it. -/
theorem getLast?_splitOn_temporary (path : String) :
  ((temporary path).splitOn "/").getLast? = some (temporaryName path)
  := by
  apply FilePath.getLast?_splitOn_withFileName
  have htmp : FilePath.IsName ".tmp" := by decide
  cases h : FilePath.fileName? path with
  | none =>
      have hcursor : FilePath.IsName "cursor" := by decide
      apply hcursor.append htmp
  | some name => apply (FilePath.isName_of_fileName? h).append htmp

/-- The file of the cursor does not have the name of the neighbour. -/
theorem ne_temporaryName {path name : String} (h : FilePath.fileName? path = some name) :
  name ≠ temporaryName path
  := by
  rw [temporaryName, h, Option.getD_some]
  intro heq
  have hlength := congrArg String.length heq
  rw [String.length_append] at hlength
  have htmp : (".tmp" : String).length = 4 := by decide
  omega

end CursorFile

end LogCourier
