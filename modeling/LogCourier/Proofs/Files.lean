import LogCourier.Proofs.Lookup
import LogCourier.Proofs.Paths
import LogCourier.Storage.FileTree
import Mathlib.Data.List.DropRight
import Mathlib.Data.List.Induction

/-!
# Trees of files

In a tree of files (`FileTree.IsTree`) everything stands in a directory. A path that names a file
leads to a place (`FileTree.place?`), and reading, writing and renaming succeed at such places only
(`readFile_eq_ok`, `writeFile_eq_ok`, `rename_eq_ok`).

While nothing is removed (`FileTree.Widens`) directories stay directories, so a path that leads to
a place goes on to lead there (`Widens.place?_eq_some`); a path that leads nowhere may come to lead
to a place when directories are made. `FileTree.Touches` tells besides that files are written at
certain places only. Making directories touches no file (`touches_makeDirectories`).
-/

namespace LogCourier

namespace FileTree

variable {t t' t'' : FileTree} {p q : Place} {e : FileEntry} {path : String}

/-! ### Looking up places -/

@[simp]
theorem get?_nil :
  t.get? [] = some .directory
  := if_pos rfl

theorem get?_of_ne_nil (h : p ≠ []) :
  t.get? p = t.entries.lookup p
  := if_neg h

theorem ne_nil_of_get?_ne (h : t.get? p ≠ some .directory) :
  p ≠ []
  := by
  rintro rfl
  exact h get?_nil

@[simp]
theorem here_put :
  (t.put p e).here = t.here
  := rfl

@[simp]
theorem here_remove :
  (t.remove p).here = t.here
  := rfl

theorem get?_put (hp : p ≠ []) :
  (t.put p e).get? q = if q = p then some e else t.get? q
  := by
  by_cases hq : q = []
  · rw [hq, get?_nil, get?_nil, if_neg (Ne.symm hp)]
  · have hfilter := lookup_filter (fun x => decide (x ≠ p)) q t.entries
    rw [get?_of_ne_nil hq, get?_of_ne_nil hq, put]
    dsimp only at hfilter ⊢
    rw [List.lookup_append, hfilter, lookup_cons_eq_ite]
    by_cases heq : q = p
    · rw [heq, if_pos rfl, if_pos rfl, if_neg (by simp), Option.none_or]
    · rw [if_neg heq, if_neg heq, if_pos (by simpa using heq)]
      exact Option.or_none

theorem get?_remove (hp : p ≠ []) :
  (t.remove p).get? q = if p <+: q then none else t.get? q
  := by
  by_cases hq : q = []
  · rw [hq, get?_nil, get?_nil, if_neg]
    rw [List.prefix_nil]
    apply hp
  · have hfilter := lookup_filter (fun x => decide ¬ p.isPrefixOf x) q t.entries
    rw [get?_of_ne_nil hq, get?_of_ne_nil hq, remove]
    dsimp only at hfilter ⊢
    rw [hfilter]
    by_cases h : p <+: q
    · rw [if_pos h, if_neg (by simpa using h)]
    · rw [if_neg h, if_pos (by simpa using h)]

/-! ### Trees -/

/-- Everything stands in a directory, and there is a directory to work in. -/
structure IsTree (t : FileTree) : Prop where
  parent : ∀ p, (t.get? p).isSome → t.get? p.dropLast = some .directory
  here : t.get? t.here = some .directory

/-- A list of places each of which stands in a directory makes a tree. -/
theorem isTree_of_entries (h : ∀ e ∈ t.entries, t.get? e.1.dropLast = some .directory)
    (hhere : t.get? t.here = some .directory) :
  t.IsTree
  where
  parent := by
    intro p hp
    by_cases hne : p = []
    · rw [hne, List.dropLast_nil, get?_nil]
    · rw [get?_of_ne_nil hne] at hp
      obtain ⟨x, hx⟩ := Option.isSome_iff_exists.mp hp
      obtain ⟨l₁, l₂, hentries, -⟩ := List.lookup_eq_some_iff.mp hx
      apply h (p, x)
      rw [hentries]
      simp
  here := hhere

namespace IsTree

/-- On the way to something there are directories only. -/
theorem directory_of_isPrefix (h : t.IsTree) (hq : (t.get? q).isSome) (hp : p <+: q)
    (hne : p ≠ q) :
  t.get? p = some .directory
  := by
  induction q using List.reverseRecOn with
  | nil => exact absurd (List.prefix_nil.mp hp) hne
  | append_singleton front name ih =>
      have hparent := h.parent _ hq
      rw [List.dropLast_concat] at hparent
      rcases List.prefix_concat_iff.mp hp with heq | hfront
      · exact absurd heq hne
      · by_cases heq : p = front
        · rw [heq, hparent]
        · apply ih _ hfront heq
          rw [hparent]
          rfl

/-- What is put into a directory, not in place of one, keeps a tree. -/
theorem put {parent : Place} {name : String} (h : t.IsTree)
    (hparent : t.get? parent = some .directory)
    (hp : t.get? (parent ++ [name]) ≠ some .directory) :
  (t.put (parent ++ [name]) e).IsTree
  := by
  have hne : parent ++ [name] ≠ [] := List.concat_ne_nil name parent
  constructor
  · intro q hq
    rw [get?_put hne] at hq ⊢
    by_cases heq : q = parent ++ [name]
    · rw [heq, List.dropLast_concat, if_neg, hparent]
      intro hloop
      have hlength := congrArg List.length hloop
      rw [List.length_append, List.length_singleton] at hlength
      omega
    · rw [if_neg heq] at hq
      have hdirectory := h.parent q hq
      rw [if_neg, hdirectory]
      intro hinside
      rw [hinside] at hdirectory
      exact hp hdirectory
  · rw [get?_put hne, here_put, if_neg, h.here]
    intro hinside
    have hhere := h.here
    rw [hinside] at hhere
    exact hp hhere

/-- Removing a file empties its place, and no other. -/
theorem get?_remove_file {content : List UInt8} (h : t.IsTree)
    (hp : t.get? p = some (.file content)) :
  (t.remove p).get? q = if q = p then none else t.get? q
  := by
  have hne : p ≠ [] := by
    rintro rfl
    cases hp
  rw [get?_remove hne]
  by_cases heq : q = p
  · rw [heq, if_pos List.prefix_rfl, if_pos rfl]
  · rw [if_neg heq]
    split
    · next hprefix =>
      cases hq : t.get? q with
      | none => rfl
      | some x =>
          have hsome : (t.get? q).isSome := by
            rw [hq]
            rfl
          cases hp.symm.trans (h.directory_of_isPrefix hsome hprefix (Ne.symm heq))
    · rfl

theorem remove_file {content : List UInt8} (h : t.IsTree)
    (hp : t.get? p = some (.file content)) :
  (t.remove p).IsTree
  := by
  have hplace : ∀ q, t.get? q = some .directory → q ≠ p := by
    rintro q hq rfl
    cases hp.symm.trans hq
  constructor
  · intro q hq
    rw [h.get?_remove_file hp] at hq ⊢
    split at hq
    · cases hq
    · have hdirectory := h.parent q hq
      rw [if_neg (hplace _ hdirectory), hdirectory]
  · rw [h.get?_remove_file hp, here_remove, if_neg (hplace _ h.here), h.here]

end IsTree

/-! ### Following paths -/

/-- Where the path begins. -/
def start (t : FileTree) (path : String) : Place :=
  if (path.splitOn "/").head? = some "" then [] else t.here

theorem IsTree.directory_start (h : t.IsTree) (path : String) :
  t.get? (t.start path) = some .directory
  := by
  rw [start]
  split
  · apply get?_nil
  · apply h.here

/-- A segment that is followed stays, goes up, or goes down into a directory. -/
theorem walk_cons_eq_ok {s : String} {ss : List String} (h : t.walk p (s :: ss) = .ok q) :
  ((s = "" ∨ s = ".") ∧ t.walk p ss = .ok q)
    ∨ (s = ".." ∧ t.walk p.dropLast ss = .ok q)
    ∨ (t.get? (p ++ [s]) = some .directory ∧ t.walk (p ++ [s]) ss = .ok q)
  := by
  rw [walk] at h
  split at h
  · next hs => exact .inl ⟨hs, h⟩
  · split at h
    · next hs => exact .inr (.inl ⟨hs, h⟩)
    · split at h
      · cases h
      · split at h
        · next hdirectory => exact .inr (.inr ⟨hdirectory, h⟩)
        · cases h
        · cases h

/-- A path followed through directories leads to a directory. -/
theorem IsTree.directory_of_walk {ss : List String} (h : t.IsTree) (hw : t.walk p ss = .ok q)
    (hp : t.get? p = some .directory) :
  t.get? q = some .directory
  := by
  induction ss generalizing p with
  | nil =>
      cases hw
      apply hp
  | cons s ss ih =>
      rcases walk_cons_eq_ok hw with ⟨-, hw⟩ | ⟨-, hw⟩ | ⟨hdirectory, hw⟩
      · apply ih hw hp
      · apply ih hw (h.parent p _)
        rw [hp]
        rfl
      · apply ih hw hdirectory

/-- A path that can be followed can be followed wherever these directories are. -/
theorem walk_mono {ss : List String} (h : t.walk p ss = .ok q)
    (hd : ∀ p, t.get? p = some .directory → t'.get? p = some .directory) :
  t'.walk p ss = .ok q
  := by
  induction ss generalizing p with
  | nil => apply h
  | cons s ss ih =>
      rw [walk] at h ⊢
      split
      · next hs =>
        rw [if_pos hs] at h
        apply ih h
      · next hs =>
        rw [if_neg hs] at h
        split
        · next hs =>
          rw [if_pos hs] at h
          apply ih h
        · next hs =>
          rw [if_neg hs] at h
          split
          · next hs =>
            rw [if_pos hs] at h
            cases h
          · next hs =>
            rw [if_neg hs] at h
            split at h
            · next hdirectory =>
              rw [hd _ hdirectory]
              apply ih h
            · cases h
            · cases h

end FileTree

/-! ### Paths that name a file -/

namespace FilePath

/-- The segments of a path up to its last name. -/
def named (path : String) : List String :=
  ((path.splitOn "/").reverse.dropWhile (· = "")).reverse

/-- The path has a name at its end, after the segments `pre`; the flag tells of slashes at the
end. -/
structure Names (path : String) (pre : List String) (name : String) (slash : Bool) : Prop where
  nonempty : path ≠ ""
  readable : path.toList.contains (Char.ofNat 0) = false
  named_eq : named path = pre ++ [name]
  not_dots : ¬ (name = "." ∨ name = "..")
  short : ¬ 255 < name.utf8ByteSize
  slash_eq : slash = decide ((named path).length < (path.splitOn "/").length)

variable {path name : String} {pre : List String}

/-- A name without slashes after it is the last part of the path. -/
theorem Names.splitOn_eq (h : Names path pre name false) :
  path.splitOn "/" = pre ++ [name]
  := by
  have hprefix : named path <+: path.splitOn "/" :=
    List.rdropWhile_prefix (fun s : String => decide (s = "")) (path.splitOn "/")
  have hlength : ¬ (named path).length < (path.splitOn "/").length :=
    of_decide_eq_false h.slash_eq.symm
  rw [← h.named_eq]
  apply Eq.symm
  apply hprefix.eq_of_length_le
  omega

/-- Such a name is the name of the file. -/
theorem Names.fileName?_eq (h : Names path pre name false) :
  fileName? path = some name
  := by
  have hempty : name ≠ "" := by
    have hne : named path ≠ [] := by
      rw [h.named_eq]
      apply List.concat_ne_nil
    have hnot := List.rdropWhile_last_not (fun s : String => decide (s = "")) (path.splitOn "/") hne
    change ¬ decide ((named path).getLast hne = "") = true at hnot
    simpa [h.named_eq] using hnot
  apply fileName?_eq_getLast? _ hempty
  · intro hdot
    exact h.not_dots (.inl hdot)
  · intro hdots
    exact h.not_dots (.inr hdots)
  · rw [h.splitOn_eq, List.getLast?_concat]

end FilePath

namespace FileTree

open FilePath (Names)

variable {t t' t'' : FileTree} {p q parent : Place} {e : FileEntry} {path name : String}
  {content : List UInt8}

/-- Only a path that can be read and has a last segment leads to a name. -/
theorem exists_named_of_locate {slash : Bool} (h : t.locate path = .ok (.name parent name slash)) :
  path ≠ "" ∧ path.toList.contains (Char.ofNat 0) = false
    ∧ ∃ pre last, FilePath.named path = pre ++ [last]
  := by
  rw [locate] at h
  split at h
  · cases h
  · next hnonempty =>
    dsimp only at h
    split at h
    · cases h
    · next hreadable =>
      split at h
      · cases h
      · next last hlast =>
        obtain ⟨pre, hpre⟩ := List.getLast?_eq_some_iff.mp hlast
        exact ⟨hnonempty, Bool.eq_false_of_not_eq_true hreadable, pre, last, hpre⟩

/-- The segments before the last one are followed; this one is followed too if it is made of dots,
and else it is the name. -/
theorem locate_of_named {pre : List String} (hnonempty : path ≠ "")
    (hreadable : path.toList.contains (Char.ofNat 0) = false)
    (hnamed : FilePath.named path = pre ++ [name]) :
  t.locate path = t.walk (t.start path) pre >>= fun place =>
    if name = "." ∨ name = ".." then t.walk place [name] >>= fun p => .ok (.directory p)
    else if 255 < name.utf8ByteSize then .error .nameTooLong
    else .ok (.name place name
      (decide ((FilePath.named path).length < (path.splitOn "/").length)))
  := by
  have hreadable' : ¬ path.toList.contains (Char.ofNat 0) = true := by
    rw [hreadable]
    exact Bool.false_ne_true
  rw [hnamed]
  rw [FilePath.named] at hnamed
  rw [locate, if_neg hnonempty]
  dsimp only
  rw [if_neg hreadable', hnamed, List.getLast?_concat, List.dropLast_concat]
  rfl

/-- A path leads to a name if it has one, and if what comes before can be followed. -/
theorem locate_eq_name {slash : Bool} :
  t.locate path = .ok (.name parent name slash)
    ↔ ∃ pre, Names path pre name slash ∧ t.walk (t.start path) pre = .ok parent
  := by
  constructor
  · intro h
    obtain ⟨hnonempty, hreadable, pre, last, hnamed⟩ := exists_named_of_locate h
    rw [locate_of_named hnonempty hreadable hnamed] at h
    obtain ⟨place, hw, h⟩ := bind_eq_ok_iff.mp h
    split at h
    · obtain ⟨place', -, h⟩ := bind_eq_ok_iff.mp h
      cases h
    · next hdots =>
      split at h
      · cases h
      · next hshort =>
        cases h
        exact ⟨pre, ⟨hnonempty, hreadable, hnamed, hdots, hshort, rfl⟩, hw⟩
  · rintro ⟨pre, hnames, hw⟩
    rw [locate_of_named hnames.nonempty hnames.readable hnames.named_eq, hw, hnames.slash_eq]
    change (if name = "." ∨ name = ".." then _ else _) = _
    rw [if_neg hnames.not_dots, if_neg hnames.short]

/-- The place of the file that a path names. -/
def place? (t : FileTree) (path : String) : Option Place :=
  match t.locate path with
  | .ok (.name parent name false) => some (parent ++ [name])
  | _ => none

theorem place?_eq_some :
  t.place? path = some p
    ↔ ∃ pre name parent, Names path pre name false ∧ t.walk (t.start path) pre = .ok parent
      ∧ p = parent ++ [name]
  := by
  rw [place?]
  constructor
  · intro h
    split at h
    · next parent name hlocate =>
      obtain ⟨pre, hnames, hw⟩ := locate_eq_name.mp hlocate
      exact ⟨pre, name, parent, hnames, hw, (Option.some.inj h).symm⟩
    · cases h
  · rintro ⟨pre, name, parent, hnames, hw, rfl⟩
    rw [locate_eq_name.mpr ⟨pre, hnames, hw⟩]

/-- The last name on the way to a place is the last part of the path. -/
theorem getLast?_of_place? (h : t.place? path = some p) :
  p.getLast? = (path.splitOn "/").getLast?
  := by
  obtain ⟨pre, name, parent, hnames, -, rfl⟩ := place?_eq_some.mp h
  rw [hnames.splitOn_eq, List.getLast?_concat, List.getLast?_concat]

/-- The last name on the way to a place is the name of the file. -/
theorem fileName?_of_place? (h : t.place? path = some p) :
  FilePath.fileName? path = p.getLast?
  := by
  obtain ⟨pre, name, parent, hnames, -, rfl⟩ := place?_eq_some.mp h
  rw [hnames.fileName?_eq, List.getLast?_concat]

/-- A path that leads to a place leads there wherever these directories are. -/
theorem place?_mono (h : t.place? path = some p) (hhere : t'.here = t.here)
    (hd : ∀ p, t.get? p = some .directory → t'.get? p = some .directory) :
  t'.place? path = some p
  := by
  obtain ⟨pre, name, parent, hnames, hw, rfl⟩ := place?_eq_some.mp h
  apply place?_eq_some.mpr
  refine ⟨pre, name, parent, hnames, ?_, rfl⟩
  rw [start, hhere]
  apply walk_mono hw hd

/-! ### Reading, writing and renaming files -/

/-- The place of the file is where the file is looked for. -/
theorem place?_of_locate {slash : Bool} (h : t.locate path = .ok (.name parent name slash)) :
  t.place? path = if slash then none else some (parent ++ [name])
  := by
  rw [place?, h]
  cases slash <;> rfl

theorem place?_of_locate_directory (h : t.locate path = .ok (.directory p)) :
  t.place? path = none
  := by
  rw [place?, h]

theorem place?_of_locate_error {f : FileFault} (h : t.locate path = .error f) :
  t.place? path = none
  := by
  rw [place?, h]

/-- A file is read at its place. -/
theorem readFile_eq_ok :
  t.readFile path = .ok content ↔ ∃ p, t.place? path = some p ∧ t.get? p = some (.file content)
  := by
  rw [readFile]
  cases hlocate : t.locate path with
  | error f =>
      rw [place?_of_locate_error hlocate]
      exact ⟨nofun, nofun⟩
  | ok target =>
      cases target with
      | directory place =>
          rw [place?_of_locate_directory hlocate]
          exact ⟨nofun, nofun⟩
      | name parent name slash =>
          rw [place?_of_locate hlocate]
          cases slash <;> rcases hp : t.get? (parent ++ [name]) with _ | _ | _ <;>
            simp [hp, bind, Except.bind, throw, throwThe, MonadExceptOf.throw, pure, Except.pure]

/-- Where nothing stands nothing is found. -/
theorem readFile_of_get?_eq_none (h : t.place? path = some p) (hp : t.get? p = none) :
  t.readFile path = .error .notFound
  := by
  obtain ⟨pre, name, parent, hnames, hw, rfl⟩ := place?_eq_some.mp h
  simp only [readFile, locate_eq_name.mpr ⟨pre, hnames, hw⟩, bind, Except.bind, hp]
  rfl

/-- A file is written at its place, unless a directory stands there. -/
theorem writeFile_eq_ok :
  t.writeFile path content = .ok t'
    ↔ ∃ p, t.place? path = some p ∧ t.get? p ≠ some .directory ∧ t' = t.put p (.file content)
  := by
  rw [writeFile]
  cases hlocate : t.locate path with
  | error f =>
      rw [place?_of_locate_error hlocate]
      exact ⟨nofun, nofun⟩
  | ok target =>
      cases target with
      | directory place =>
          rw [place?_of_locate_directory hlocate]
          exact ⟨nofun, nofun⟩
      | name parent name slash =>
          rw [place?_of_locate hlocate]
          cases slash <;> rcases hp : t.get? (parent ++ [name]) with _ | _ | _ <;>
            simp [hp, bind, Except.bind, throw, throwThe, MonadExceptOf.throw, pure, Except.pure,
              eq_comm]

/-- The file at one place is put to another, unless a directory stands there. -/
theorem rename_eq_ok {source target : String} :
  t.rename source target = .ok t'
    ↔ ∃ p q content, t.place? source = some p ∧ t.place? target = some q
        ∧ t.get? p = some (.file content) ∧ t.get? q ≠ some .directory
        ∧ t' = (t.remove p).put q (.file content)
  := by
  rw [rename]
  cases hsource : t.locate source with
  | error f =>
      rw [place?_of_locate_error hsource]
      exact ⟨nofun, nofun⟩
  | ok origin =>
      cases htarget : t.locate target with
      | error f =>
          rw [place?_of_locate_error htarget]
          exact ⟨by cases origin <;> exact nofun, nofun⟩
      | ok result =>
          cases origin with
          | directory place =>
              rw [place?_of_locate_directory hsource]
              exact ⟨nofun, nofun⟩
          | name parent name slash =>
              cases result with
              | directory place =>
                  rw [place?_of_locate_directory htarget]
                  exact ⟨nofun, nofun⟩
              | name newParent newName newSlash =>
                  rw [place?_of_locate hsource, place?_of_locate htarget]
                  cases slash <;> cases newSlash <;>
                    rcases hp : t.get? (parent ++ [name]) with _ | _ | _ <;>
                    rcases hq : t.get? (newParent ++ [newName]) with _ | _ | _ <;>
                    simp [hp, hq, bind, Except.bind, throw, throwThe, MonadExceptOf.throw, pure,
                      Except.pure, eq_comm]

/-- What a path leads to stands in a directory. -/
theorem IsTree.directory_of_locate {slash : Bool} (h : t.IsTree)
    (hlocate : t.locate path = .ok (.name parent name slash)) :
  t.get? parent = some .directory
  := by
  obtain ⟨pre, -, hw⟩ := locate_eq_name.mp hlocate
  apply h.directory_of_walk hw (h.directory_start path)

theorem IsTree.exists_of_place? (h : t.IsTree) (hp : t.place? path = some p) :
  ∃ parent name, p = parent ++ [name] ∧ t.get? parent = some .directory
  := by
  obtain ⟨pre, name, parent, -, hw, rfl⟩ := place?_eq_some.mp hp
  exact ⟨parent, name, rfl, h.directory_of_walk hw (h.directory_start path)⟩

/-- A file that is written at its place keeps a tree. -/
theorem IsTree.put_file (h : t.IsTree) (hplace : t.place? path = some p)
    (hp : t.get? p ≠ some .directory) :
  (t.put p (.file content)).IsTree
  := by
  obtain ⟨parent, name, rfl, hparent⟩ := h.exists_of_place? hplace
  apply h.put hparent hp

/-! ### Trees from which nothing is removed -/

/-- Directories stay, and files stay files. -/
structure Widens (t t' : FileTree) : Prop where
  here : t'.here = t.here
  directory : ∀ p, t.get? p = some .directory → t'.get? p = some .directory
  file : ∀ p content, t.get? p = some (.file content) →
    ∃ content', t'.get? p = some (.file content')

/-- Nothing is removed, and files are written at spare places only; elsewhere directories are
made where nothing was. -/
structure Touches (spare : Place → Prop) (t t' : FileTree) : Prop extends Widens t t' where
  beyond : ∀ p, ¬ spare p → t'.get? p = t.get? p ∨ t.get? p = none ∧ t'.get? p = some .directory

variable {spare spare' : Place → Prop}

@[refl]
theorem Widens.refl (t : FileTree) :
  t.Widens t
  where
  here := rfl
  directory := fun _ h => h
  file := fun _ content h => ⟨content, h⟩

theorem Widens.trans (h : t.Widens t') (h' : t'.Widens t'') :
  t.Widens t''
  where
  here := h'.here.trans h.here
  directory := fun p hp => h'.directory p (h.directory p hp)
  file := fun p _ hp => by
    obtain ⟨content', hp'⟩ := h.file p _ hp
    apply h'.file p content' hp'

/-- A path goes on to lead to the place to which it leads. -/
theorem Widens.place?_eq_some (h : t.Widens t') (hp : t.place? path = some p) :
  t'.place? path = some p
  := place?_mono hp h.here h.directory

@[refl]
theorem Touches.refl (t : FileTree) :
  t.Touches spare t
  := ⟨.refl t, fun _ _ => .inl rfl⟩

theorem Touches.trans (h : t.Touches spare t') (h' : t'.Touches spare t'') :
  t.Touches spare t''
  := by
  use h.toWidens.trans h'.toWidens
  intro p hp
  rcases h'.beyond p hp with hsame' | ⟨hnone, hmade⟩
  · rw [hsame']
    apply h.beyond p hp
  · rcases h.beyond p hp with hsame | ⟨-, hmade'⟩
    · exact .inr ⟨hsame.symm.trans hnone, hmade⟩
    · cases hnone.symm.trans hmade'

theorem Touches.mono (h : t.Touches spare t') (hspare : ∀ p, spare p → spare' p) :
  t.Touches spare' t'
  := by
  use h.toWidens
  intro p hp
  apply h.beyond p
  intro hp'
  exact hp (hspare p hp')

/-- A file that is written touches its place. -/
theorem touches_put_file (hp : t.get? p ≠ some .directory) :
  t.Touches (· = p) (t.put p (.file content))
  := by
  have hne := ne_nil_of_get?_ne hp
  refine ⟨⟨here_put, ?_, ?_⟩, ?_⟩
  · intro q hq
    rw [get?_put hne, if_neg, hq]
    rintro rfl
    exact hp hq
  · intro q content' hq
    rw [get?_put hne]
    split
    · exact ⟨content, rfl⟩
    · exact ⟨content', hq⟩
  · intro q hq
    rw [get?_put hne, if_neg hq]
    exact .inl rfl

theorem touches_put_directory (hp : t.get? p = none) :
  t.Touches spare (t.put p .directory)
  := by
  have hne : p ≠ [] := by
    rintro rfl
    cases hp.symm.trans get?_nil
  refine ⟨⟨here_put, ?_, ?_⟩, ?_⟩
  · intro q hq
    rw [get?_put hne]
    split
    · rfl
    · apply hq
  · intro q content hq
    rw [get?_put hne, if_neg, hq]
    · exact ⟨content, rfl⟩
    · rintro rfl
      cases hp.symm.trans hq
  · intro q hq
    rw [get?_put hne]
    split
    · next heq =>
      rw [heq]
      exact .inr ⟨hp, rfl⟩
    · exact .inl rfl

/-! ### Making directories -/

theorem makeDirectory_eq_ok (h : t.makeDirectory path = .ok t') :
  ∃ parent name slash, t.locate path = .ok (.name parent name slash)
    ∧ t.get? (parent ++ [name]) = none ∧ t' = t.put (parent ++ [name]) .directory
  := by
  rw [makeDirectory] at h
  cases hlocate : t.locate path with
  | error f =>
      rw [hlocate] at h
      cases h
  | ok target =>
      rw [hlocate] at h
      cases target with
      | directory place => cases h
      | name parent name slash =>
          cases hp : t.get? (parent ++ [name]) with
          | some e => simp [hp, bind, Except.bind, throw, throwThe, MonadExceptOf.throw] at h
          | none =>
              simp [hp, bind, Except.bind, pure, Except.pure] at h
              exact ⟨parent, name, slash, rfl, hp, h.symm⟩

theorem touches_makeDirectory (h : t.makeDirectory path = .ok t') (ht : t.IsTree) :
  t.Touches spare t' ∧ t'.IsTree
  := by
  obtain ⟨parent, name, slash, hlocate, hp, rfl⟩ := makeDirectory_eq_ok h
  constructor
  · apply touches_put_directory hp
  · apply ht.put (ht.directory_of_locate hlocate)
    rw [hp]
    nofun

/-- Making directories makes nothing but directories, whether it gets to the end or not. -/
theorem touches_makeDirectoriesWithin (ht : t.IsTree) (depth : Nat) (path : String) :
  t.Touches spare (t.makeDirectoriesWithin depth path).1
    ∧ (t.makeDirectoriesWithin depth path).1.IsTree
  := by
  fun_induction makeDirectoriesWithin t depth path with
  | case1 | case2 | case4 | case9 | case10 => exact ⟨.refl t, ht⟩
  | case3 depth path _ made hmade => exact touches_makeDirectory hmade ht
  | case5 depth path _ _ parent _ made f hmade ih
  | case7 depth path _ _ parent _ made hmade _ _ _ ih
  | case8 depth path _ _ parent _ made hmade _ _ _ ih =>
      rw [hmade] at ih
      exact ih
  | case6 depth path _ _ parent _ above habove made hmade ih =>
      rw [habove] at ih
      obtain ⟨hmade, htree⟩ : above.Touches spare made ∧ made.IsTree :=
        touches_makeDirectory hmade ih.2
      exact ⟨ih.1.trans hmade, htree⟩

theorem touches_makeDirectories (ht : t.IsTree) (path : String) :
  t.Touches spare (t.makeDirectories path).1 ∧ (t.makeDirectories path).1.IsTree
  := touches_makeDirectoriesWithin ht _ path

/-! ### Putting a file in the place of another -/

/-- A file that is renamed is found in its new place, and no longer in the old one. -/
theorem IsTree.rename {source target : String} (h : t.IsTree)
    (hrename : t.rename source target = .ok t') (hne : t.place? source ≠ t.place? target) :
  t'.IsTree
    ∧ ∃ p q content, t.place? source = some p ∧ t.get? p = some (.file content)
      ∧ t'.place? source = some p ∧ t'.get? p = none
      ∧ t'.place? target = some q ∧ t'.get? q = some (.file content)
  := by
  obtain ⟨p, q, content, hsource, htarget, hp, hq, rfl⟩ := rename_eq_ok.mp hrename
  have hpq : q ≠ p := by
    rintro rfl
    exact hne (hsource.trans htarget.symm)
  have hdirectory : ∀ d, t.get? d = some .directory → (t.remove p).get? d = some .directory := by
    intro d hd
    rw [h.get?_remove_file hp, if_neg, hd]
    rintro rfl
    cases hp.symm.trans hd
  have hremoved := h.remove_file hp
  have htarget' := place?_mono htarget here_remove hdirectory
  have hq' : (t.remove p).get? q ≠ some .directory := by
    rw [h.get?_remove_file hp, if_neg hpq]
    apply hq
  have hne' := ne_nil_of_get?_ne hq
  have hwidens : (t.remove p).Widens ((t.remove p).put q (.file content)) :=
    (touches_put_file hq').toWidens
  use hremoved.put_file htarget' hq', p, q, content, hsource, hp
  refine ⟨?_, ?_, ?_, ?_⟩
  · apply hwidens.place?_eq_some
    apply place?_mono hsource here_remove hdirectory
  · rw [get?_put hne', if_neg (Ne.symm hpq), h.get?_remove_file hp, if_pos rfl]
  · apply hwidens.place?_eq_some htarget'
  · rw [get?_put hne', if_pos rfl]

end FileTree

end LogCourier
