import LogCourier.Proofs.CursorStore

/-!
# The history of the file of the cursor

Cursors are read from a tree of files and stored in it; each step may fail, and the work may be cut
off anywhere (`CursorFile.History`). What is read is the cursor of the last store whose rename took
effect, and until there is one, what the tree held in the beginning
(`CursorFile.gets_iff_of_history`).

A store makes directories, and a path such as `a/../b` may come to lead to a file only when a
directory is there. Then a store that fails changes what is read
(`CursorFile.exists_error_changing_get`). `FileTree.Steady` excludes such paths: every path that
leads somewhere from the beginning (`FileTree.steady_of_place?`) and every path without a part `..`
(`FileTree.IsTree.steady`) is steady.
-/

namespace LogCourier

open Dialogue (Begins Exchange Yields)

namespace CursorFile

variable {t t' t₀ : FileTree} {path : String} {c : Cursor} {s : List (Exchange Device.Answer)}

/-! ### Histories -/

/-- From the first tree on cursors are read from the file and stored in it, one after the other, and
each time the work may fail or be cut off. The history tells the cursor of the last store whose
rename took effect, if there was one, and the tree in the end. -/
inductive History (path : String) (t₀ : FileTree) : Option Cursor → FileTree → Prop
  | start : History path t₀ none t₀
  | get {last : Option Cursor} {t t' : FileTree} {s : List (Exchange Device.Answer)}
      (h : History path t₀ last t) (hget : Begins (load path) s) (hs : t.Evolves s t') :
      History path t₀ last t'
  | renamed {last : Option Cursor} {t t' : FileTree} {c : Cursor}
      {s : List (Exchange Device.Answer)} (h : History path t₀ last t)
      (hset : Begins (store path c) s) (hs : t.Evolves s t') (hrenamed : Renamed path s) :
      History path t₀ (some c) t'
  | unrenamed {last : Option Cursor} {t t' : FileTree} {c : Cursor}
      {s : List (Exchange Device.Answer)} (h : History path t₀ last t)
      (hset : Begins (store path c) s) (hs : t.Evolves s t') (hrenamed : ¬ Renamed path s) :
      History path t₀ last t'

variable {last : Option Cursor}

/-- What a history leaves: a tree, with the last cursor in the file, or with nothing touched but
spare places. -/
def Leaves (path : String) (t₀ : FileTree) (last : Option Cursor) (t : FileTree) : Prop :=
  t.IsTree ∧ last.elim (t₀.Touches (IsSpare path) t) (IsKept t path)

theorem Leaves.of_touches (h : Leaves path t₀ last t) (htouches : t.Touches (IsSpare path) t')
    (ht' : t'.IsTree) :
  Leaves path t₀ last t'
  := by
  use ht'
  cases last with
  | none => exact h.2.trans htouches
  | some c => exact IsKept.of_touches h.2 htouches

theorem History.leaves (h : History path t₀ last t) (ht₀ : t₀.IsTree) :
  Leaves path t₀ last t
  := by
  induction h with
  | start => exact ⟨ht₀, .refl t₀⟩
  | get _ hget hs ih =>
      rw [eq_of_load hget hs]
      apply ih
  | renamed _ hset hs hrenamed ih =>
      rcases begins_store hset with hprepares | hreplaces
      · exact absurd hrenamed (not_renamed_of_prepares hprepares)
      · obtain ⟨hkept, ht', -⟩ := hreplaces.isKept hs ih.1
        exact ⟨ht', hkept⟩
  | unrenamed _ hset hs hrenamed ih =>
      rcases begins_store hset with hprepares | hreplaces
      · obtain ⟨htouches, ht'⟩ := touches_of_prepares hprepares hs ih.1
        exact ih.of_touches htouches ht'
      · exact absurd hreplaces.renamed hrenamed

/-- Reading the file of the path may give the cursor. -/
def Gets (t : FileTree) (path : String) (c : Cursor) : Prop :=
  ∃ s t', Yields (load path) s c ∧ t.Evolves s t'

theorem gets_iff :
  Gets t path c ↔ c = t.held path
  := by
  constructor
  · rintro ⟨s, t', h, hs⟩
    apply held_of_load h hs
  · rintro rfl
    obtain ⟨s, h, hs⟩ := exists_load t path
    exact ⟨s, t, h, hs⟩

/-- What is held is the last cursor, and without one what the first tree held where the path leads
now. -/
theorem Leaves.held_eq (h : Leaves path t₀ last t) :
  t.held path = last.getD (t₀.cursorAt? (t.place? path))
  := by
  obtain ⟨-, h⟩ := h
  cases last with
  | some c => exact IsKept.held_eq h
  | none =>
      rw [Option.getD_none, FileTree.held]
      cases hplace : t.place? path with
      | none => rfl
      | some p => exact FileTree.Touches.cursorAt_eq h (not_isSpare_of_place? hplace)

end CursorFile

/-! ### Paths that stay where they lead -/

namespace FileTree

variable {t t' t₀ : FileTree} {p q : Place} {path : String}

/-- Wherever the path may come to lead when nothing is removed, the tree holds the same cursor. -/
def Steady (t : FileTree) (path : String) : Prop :=
  ∀ t' p, t.Widens t' → t'.place? path = some p → t.cursorAt p = t.held path

/-- What is held where a steady path leads now is what was held in the beginning. -/
theorem Steady.cursorAt?_eq (h : t.Steady path) (hwidens : t.Widens t') :
  t.cursorAt? (t'.place? path) = t.held path
  := by
  cases hplace' : t'.place? path with
  | some p => exact h t' p hwidens hplace'
  | none =>
      cases hplace : t.place? path with
      | none =>
          rw [held, hplace]
      | some p => cases hplace'.symm.trans (hwidens.place?_eq_some hplace)

/-- A path that leads to a place goes on to lead there. -/
theorem steady_of_place? (h : t.place? path = some p) :
  t.Steady path
  := by
  intro t' p' hwidens hplace'
  cases hplace'.symm.trans (hwidens.place?_eq_some h)
  rw [held_of_place? h]

/-- Without going up one gets further down. -/
theorem isPrefix_of_walk {ss : List String} (hup : ".." ∉ ss) (h : t.walk p ss = .ok q) :
  p <+: q
  := by
  induction ss generalizing p with
  | nil =>
      cases h
      apply List.prefix_rfl
  | cons s ss ih =>
      obtain ⟨hs, hss⟩ := List.ne_and_not_mem_of_not_mem_cons hup
      rcases walk_cons_eq_ok h with ⟨-, h⟩ | ⟨heq, -⟩ | ⟨-, h⟩
      · apply ih hss h
      · exact absurd heq.symm hs
      · exact (List.prefix_append p [s]).trans (ih hss h)

/-- Without going up a way through a tree with more directories is the way that there was, or goes
through a place where nothing was. -/
theorem Widens.walk_cases {ss : List String} (h : t.Widens t') (hup : ".." ∉ ss)
    (hw : t'.walk p ss = .ok q) :
  t.walk p ss = .ok q ∨ ∃ m, m <+: q ∧ t.get? m = none
  := by
  induction ss generalizing p with
  | nil => exact .inl hw
  | cons s ss ih =>
      obtain ⟨hs, hss⟩ := List.ne_and_not_mem_of_not_mem_cons hup
      rw [walk] at hw ⊢
      by_cases hstay : s = "" ∨ s = "."
      · rw [if_pos hstay] at hw ⊢
        apply ih hss hw
      · rw [if_neg hstay, if_neg (Ne.symm hs)] at hw ⊢
        by_cases hlong : 255 < s.utf8ByteSize
        · rw [if_pos hlong] at hw
          cases hw
        · rw [if_neg hlong] at hw ⊢
          split at hw
          · next hdirectory =>
            cases hp : t.get? (p ++ [s]) with
            | none => exact .inr ⟨p ++ [s], isPrefix_of_walk hss hw, hp⟩
            | some e =>
                cases e with
                | directory => apply ih hss hw
                | file content =>
                    obtain ⟨content', hfile⟩ := h.file _ content hp
                    cases hdirectory.symm.trans hfile
          · cases hw
          · cases hw

/-- A path that does not go up is steady. -/
theorem IsTree.steady (ht : t.IsTree) (hup : ".." ∉ path.splitOn "/") :
  t.Steady path
  := by
  cases hplace : t.place? path with
  | some p => exact steady_of_place? hplace
  | none =>
      intro t' p hwidens hplace'
      obtain ⟨pre, name, parent, hnames, hw, rfl⟩ := place?_eq_some.mp hplace'
      rw [start, hwidens.here, ← start] at hw
      rw [hnames.splitOn_eq] at hup
      have hpre : ".." ∉ pre := fun hmem => hup (List.mem_append_left [name] hmem)
      rcases hwidens.walk_cases hpre hw with hw' | ⟨m, hm, hnone⟩
      · have hsome := place?_eq_some.mpr ⟨pre, name, parent, hnames, hw', rfl⟩
        cases hplace.symm.trans hsome
      · -- nothing stands below a place where nothing is
        have hbelow : t.get? (parent ++ [name]) = none := by
          by_contra hsome
          have hne : m ≠ parent ++ [name] := by
            rintro rfl
            exact hsome hnone
          have hdirectory := ht.directory_of_isPrefix (Option.isSome_iff_ne_none.mpr hsome)
            (hm.trans (List.prefix_append parent [name])) hne
          cases hnone.symm.trans hdirectory
        rw [cursorAt, hbelow, held, hplace]
        rfl

end FileTree

namespace CursorFile

variable {t t₀ : FileTree} {path : String} {last : Option Cursor}

theorem Leaves.held_of_steady (h : Leaves path t₀ last t) (hsteady : t₀.Steady path) :
  t.held path = last.getD (t₀.held path)
  := by
  rw [h.held_eq]
  obtain ⟨-, h⟩ := h
  cases last with
  | some c => rfl
  | none => exact hsteady.cursorAt?_eq (FileTree.Touches.toWidens h)

/-- After any history reading gives the cursor of the last store whose rename took effect; without
one it gives what the first tree held where the path leads now, which for a steady path is what it
held in the beginning. Then a store without a rename changes nothing for the reader. A store that
returns has come to its rename exactly if it returns no error, and then has left no neighbour. -/
theorem gets_iff_of_history (ht₀ : t₀.IsTree) (h : History path t₀ last t) :
  (∀ c, Gets t path c ↔ c = last.getD (t₀.cursorAt? (t.place? path)))
    ∧ (t₀.Steady path →
      (∀ c, Gets t path c ↔ c = last.getD (t₀.held path))
      ∧ ∀ c s t', Begins (store path c) s → t.Evolves s t' → ¬ Renamed path s →
        ∀ c', Gets t' path c' ↔ Gets t path c')
    ∧ ∀ c s t' r, Yields (store path c) s r → t.Evolves s t' →
      (r = .ok () ↔ Renamed path s)
      ∧ (r = .ok () → t'.readFile (temporary path) = .error .notFound)
  := by
  have hleaves := h.leaves ht₀
  refine ⟨?_, ?_, ?_⟩
  · intro c
    rw [gets_iff, hleaves.held_eq]
  · intro hsteady
    have hheld := hleaves.held_of_steady hsteady
    constructor
    · intro c
      rw [gets_iff, hheld]
    · intro c s t' hset hs hrenamed c'
      have hleaves' := (History.unrenamed h hset hs hrenamed).leaves ht₀
      rw [gets_iff, gets_iff, hheld, hleaves'.held_of_steady hsteady]
  · intro c s t' r hset hs
    have hiff := yields_store hset
    use hiff
    intro hr
    rcases begins_store hset.begins with hprepares | hreplaces
    · exact absurd (hiff.mp hr) (not_renamed_of_prepares hprepares)
    · exact (hreplaces.isKept hs hleaves.1).2.2

/-! ### Sample trees -/

/-- A directory to work in, with a file `last_row.txt` in it. -/
def workTree (content : List UInt8) : FileTree :=
  ⟨[(["work"], .directory), (["work", "last_row.txt"], .file content)], ["work"]⟩

/-- The digit of five. -/
def five : List UInt8 :=
  [53]

theorem isTree_workTree (content : List UInt8) :
  (workTree content).IsTree
  := by
  apply FileTree.isTree_of_entries
  · rintro e (_ | ⟨_, _ | ⟨_, ⟨⟩⟩⟩) <;> rfl
  · rfl

theorem steady_workTree (content : List UInt8) :
  (workTree content).Steady "last_row.txt"
  := by
  apply (isTree_workTree content).steady
  rw [FilePath.splitOn_eq]
  decide

theorem held_workTree :
  (workTree five).held "last_row.txt" = ⟨5⟩
  := by
  have hread : (workTree five).readFile "last_row.txt" = .ok five := by
    simp only [FileTree.readFile, FileTree.locate, FilePath.splitOn_eq]
    rfl
  rw [FileTree.held_of_readFile hread]
  decide +kernel

theorem parent?_last_row :
  FilePath.parent? "last_row.txt" = some ""
  := by
  simp only [FilePath.parent?, FilePath.segments, FilePath.splitOn_eq]
  decide +kernel

theorem temporary_last_row :
  temporary "last_row.txt" = "last_row.txt.tmp"
  := by
  simp only [temporary, FilePath.withFileName, FilePath.fileName?, FilePath.parent?,
    FilePath.segments, FilePath.splitOn_eq]
  decide +kernel

/-- The neighbour is written beside the file, over another one too. -/
theorem writeFile_workTree (a b : List UInt8) :
  (workTree a).writeFile (temporary "last_row.txt") b
      = .ok ((workTree a).put ["work", "last_row.txt.tmp"] (.file b))
    ∧ ((workTree a).put ["work", "last_row.txt.tmp"] (.file [])).writeFile
      (temporary "last_row.txt") b = .ok ((workTree a).put ["work", "last_row.txt.tmp"] (.file b))
  := by
  rw [temporary_last_row]
  simp only [FileTree.writeFile, FileTree.locate, FilePath.splitOn_eq]
  exact ⟨rfl, rfl⟩

theorem rename_workTree (a b : List UInt8) :
  ((workTree a).put ["work", "last_row.txt.tmp"] (.file b)).rename (temporary "last_row.txt")
    "last_row.txt" = .ok (workTree b)
  := by
  rw [temporary_last_row]
  simp only [FileTree.rename, FileTree.locate, FilePath.splitOn_eq]
  rfl

/-- A store in the directory to work in may succeed. -/
theorem exists_store_workTree (content : List UInt8) (c : Cursor) :
  ∃ s, Yields (store "last_row.txt" c) s (.ok ())
    ∧ (workTree content).Evolves s (workTree (Utf8.bytes c.text))
  := by
  refine ⟨[⟨.writeFile (temporary "last_row.txt") (Utf8.bytes c.text), .ok ()⟩,
    ⟨.rename (temporary "last_row.txt") "last_row.txt", .ok ()⟩,
    ⟨.note (.metric (.lastRowUpdated c.row)), ()⟩,
    ⟨.note (.log ⟨.debug, "Cursor persisted", [("cursor", .text c.text)]⟩), ()⟩], ?_, ?_⟩
  · rw [store, prepare, parent?_last_row]
    exact .ask _ (.ask _ (.ask _ (.ask _ (.done _))))
  · exact .cons (.written (writeFile_workTree _ _).1) (.cons (.renamed (rename_workTree _ _))
      (.cons (.other _ rfl) (.cons (.other _ rfl) (.nil _))))

/-- A store fails when it has begun to write, and the next one is cut off after its rename. -/
theorem gets_iff_of_history_after_failure :
  ∃ t₁ t₂, History "last_row.txt" (workTree five) none t₁
    ∧ History "last_row.txt" (workTree five) (some ⟨9⟩) t₂
    ∧ (∀ c, Gets t₁ "last_row.txt" c ↔ c = ⟨5⟩) ∧ ∀ c, Gets t₂ "last_row.txt" c ↔ c = ⟨9⟩
  := by
  let nine := Utf8.bytes (Cursor.text ⟨9⟩)
  have h₁ : History "last_row.txt" (workTree five) none
      ((workTree five).put ["work", "last_row.txt.tmp"] (.file [])) := by
    have hset : Begins (store "last_row.txt" ⟨7⟩)
        [⟨.writeFile (temporary "last_row.txt") (Utf8.bytes (Cursor.text ⟨7⟩)),
          .error ⟨false, ""⟩⟩] := by
      rw [store, prepare, parent?_last_row]
      exact .ask _ (.stop _)
    apply History.unrenamed .start hset
      (.cons (.writingFailed 0 _ (writeFile_workTree _ _).1) (.nil _))
    intro hrenamed
    cases List.mem_singleton.mp hrenamed
  have h₂ : History "last_row.txt" (workTree five) (some ⟨9⟩) (workTree nine) := by
    have hset : Begins (store "last_row.txt" ⟨9⟩)
        [⟨.writeFile (temporary "last_row.txt") nine, .ok ()⟩,
          ⟨.rename (temporary "last_row.txt") "last_row.txt", .ok ()⟩] := by
      rw [store, prepare, parent?_last_row]
      exact .ask _ (.ask _ (.stop _))
    apply History.renamed h₁ hset (.cons (.written (writeFile_workTree _ _).2)
      (.cons (.renamed (rename_workTree _ _)) (.nil _)))
    exact List.mem_cons_of_mem _ (List.mem_singleton_self _)
  have hgets₁ := ((gets_iff_of_history (isTree_workTree five) h₁).2.1 (steady_workTree five)).1
  have hgets₂ := ((gets_iff_of_history (isTree_workTree five) h₂).2.1 (steady_workTree five)).1
  rw [held_workTree] at hgets₁ hgets₂
  exact ⟨_, _, h₁, h₂, hgets₁, hgets₂⟩

/-! ### A path that goes through a directory and back -/

/-- The path goes through the place of its own neighbour, and back. -/
def roundabout : String :=
  "last_row.txt.tmp/../last_row.txt"

/-- The tree in which the directory on the way has been made. -/
def madeTree : FileTree :=
  (workTree five).put ["work", "last_row.txt.tmp"] .directory

theorem makeDirectories_workTree :
  (workTree five).makeDirectories "last_row.txt.tmp/.." = (madeTree, .ok ())
  := by
  have hmissing : (workTree five).makeDirectory "last_row.txt.tmp/.." = .error .notFound := by
    simp only [FileTree.makeDirectory, FileTree.locate, FilePath.splitOn_eq]
    rfl
  have hparent : FilePath.parent? "last_row.txt.tmp/.." = some "last_row.txt.tmp" := by
    simp only [FilePath.parent?, FilePath.segments, FilePath.splitOn_eq]
    decide +kernel
  have hmade : (workTree five).makeDirectory "last_row.txt.tmp" = .ok madeTree := by
    simp only [FileTree.makeDirectory, FileTree.locate, FilePath.splitOn_eq]
    rfl
  have hback : madeTree.makeDirectory "last_row.txt.tmp/.." = .error .exists_ := by
    simp only [FileTree.makeDirectory, FileTree.locate, FilePath.splitOn_eq]
    rfl
  have hdirectory : madeTree.isDirectory "last_row.txt.tmp/.." = true := by
    simp only [FileTree.isDirectory, FileTree.locate, FilePath.splitOn_eq]
    rfl
  have hlength : "last_row.txt.tmp/..".length = 19 := by decide
  rw [FileTree.makeDirectories, hlength]
  simp [FileTree.makeDirectoriesWithin, hmissing, hparent, hmade, hback, hdirectory]

/-- At first the path leads nowhere, and with the directory on the way it leads to the file. -/
theorem held_roundabout :
  (workTree five).held roundabout = ⟨0⟩ ∧ madeTree.held roundabout = ⟨5⟩
  := by
  have hmissing : (workTree five).readFile roundabout = .error .notFound := by
    rw [roundabout]
    simp only [FileTree.readFile, FileTree.locate, FilePath.splitOn_eq]
    rfl
  have hread : madeTree.readFile roundabout = .ok five := by
    rw [roundabout]
    simp only [FileTree.readFile, FileTree.locate, FilePath.splitOn_eq]
    rfl
  constructor
  · apply FileTree.held_of_forall_ne
    intro content hread
    cases hmissing.symm.trans hread
  · rw [FileTree.held_of_readFile hread]
    decide +kernel

theorem temporary_roundabout :
  temporary roundabout = "last_row.txt.tmp/../last_row.txt.tmp"
  := by
  simp only [roundabout, temporary, FilePath.withFileName, FilePath.fileName?, FilePath.parent?,
    FilePath.segments, FilePath.splitOn_eq]
  decide +kernel

/-- No neighbour can be written where the directory stands. -/
theorem writeFile_madeTree (content : List UInt8) :
  madeTree.writeFile (temporary roundabout) content = .error .isDirectory
  := by
  rw [temporary_roundabout]
  simp only [FileTree.writeFile, FileTree.locate, FilePath.splitOn_eq]
  rfl

/-- A store makes the directory on the way of the path, and then fails, since the neighbour would
have to be written in its place. -/
theorem exists_store_roundabout (c : Cursor) :
  ∃ s, Yields (store roundabout c) s (.error (.io
      "Failed to write last_row.txt.tmp/../last_row.txt.tmp: Is a directory (os error 21)"))
    ∧ (workTree five).Evolves s madeTree
  := by
  have hparent : FilePath.parent? roundabout = some "last_row.txt.tmp/.." := by
    simp only [roundabout, FilePath.parent?, FilePath.segments, FilePath.splitOn_eq]
    decide +kernel
  have hfailure : failure "write" (temporary roundabout) ⟨false, FileFault.isDirectory.message⟩ =
      .io "Failed to write last_row.txt.tmp/../last_row.txt.tmp: Is a directory (os error 21)" := by
    rw [temporary_roundabout]
    decide +kernel
  refine ⟨[⟨.makeDirectories "last_row.txt.tmp/..", .ok ()⟩,
    ⟨.writeFile (temporary roundabout) (Utf8.bytes c.text),
      .error ⟨false, FileFault.isDirectory.message⟩⟩], ?_, ?_⟩
  · rw [← hfailure, store, prepare, hparent]
    exact .ask _ (.ask _ (.done _))
  · exact .cons (.made makeDirectories_workTree) (.cons (.unwritten ..) (.nil _))

/-- The store fails, and no answer could let it succeed; but now the path leads to a file. -/
theorem exists_error_changing_get :
  ∃ s t' e, Yields (store "last_row.txt.tmp/../last_row.txt" ⟨7⟩) s (.error e)
    ∧ (workTree five).IsTree ∧ (workTree five).Evolves s t'
    ∧ (∀ content, t'.writeFile (temporary "last_row.txt.tmp/../last_row.txt") content
      = .error .isDirectory)
    ∧ Gets (workTree five) "last_row.txt.tmp/../last_row.txt" ⟨0⟩
    ∧ Gets t' "last_row.txt.tmp/../last_row.txt" ⟨5⟩
  := by
  obtain ⟨s, hstore, hs⟩ := exists_store_roundabout ⟨7⟩
  refine ⟨s, madeTree, _, hstore, isTree_workTree five, hs, ?_, ?_, ?_⟩
  · exact fun content => writeFile_madeTree content
  · exact gets_iff.mpr held_roundabout.1.symm
  · exact gets_iff.mpr held_roundabout.2.symm

end CursorFile

end LogCourier
