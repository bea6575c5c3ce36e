import LogCourier.Proofs.CursorText
import LogCourier.Proofs.FileWorld
import LogCourier.Proofs.Utf8Text

/-!
# Loading and storing the cursor in a tree of files

Loading reads what the tree holds (`FileTree.held`, `CursorFile.held_of_load`) and changes nothing.
A store that may fail or be cut off anywhere either has replaced the file (`CursorFile.Replaces`)
or has made nothing but preparations (`CursorFile.begins_store`). In the first case the cursor is in
the file and no neighbour is left (`Replaces.isKept`). In the second case only spare places are
touched, those with the name of the neighbour (`CursorFile.touches_of_prepares`). Which of the two
it is shows in the result (`CursorFile.yields_store`).
-/

namespace LogCourier

open Dialogue (Begins Exchange Yields)

/-! ### The cursor in a tree -/

/-- The cursor that a content stands for. -/
def CursorFile.cursorOf (content : List UInt8) : Cursor :=
  ((Utf8.decode? content).bind Cursor.parse?).getD .zero

/-- What is written for a cursor stands for it. -/
theorem CursorFile.cursorOf_bytes (c : Cursor) :
  cursorOf (Utf8.bytes c.text) = c
  := by
  rw [cursorOf, Utf8.decode?_bytes, Option.bind_some, Cursor.parse?_text, Option.getD_some]

namespace FileTree

variable {t t' : FileTree} {p : Place} {path : String} {c : Cursor} {content : List UInt8}

/-- The cursor that a place of the tree stands for; without a file it is zero. -/
def cursorAt (t : FileTree) (p : Place) : Cursor :=
  match t.get? p with
  | some (.file content) => CursorFile.cursorOf content
  | _ => .zero

/-- The cursor at the place to which a path leads, if it leads to one. -/
def cursorAt? (t : FileTree) (place : Option Place) : Cursor :=
  (place.map t.cursorAt).getD .zero

/-- The cursor that the file of a path stands for. -/
def held (t : FileTree) (path : String) : Cursor :=
  t.cursorAt? (t.place? path)

theorem cursorAt_of_file (h : t.get? p = some (.file content)) :
  t.cursorAt p = CursorFile.cursorOf content
  := by
  rw [cursorAt, h]

theorem held_of_place? (h : t.place? path = some p) :
  t.held path = t.cursorAt p
  := by
  rw [held, cursorAt?, h]
  rfl

theorem held_of_readFile (h : t.readFile path = .ok content) :
  t.held path = CursorFile.cursorOf content
  := by
  obtain ⟨p, hplace, hp⟩ := readFile_eq_ok.mp h
  rw [held_of_place? hplace, cursorAt_of_file hp]

theorem held_of_forall_ne (h : ∀ content, t.readFile path ≠ .ok content) :
  t.held path = .zero
  := by
  cases hplace : t.place? path with
  | none =>
      rw [held, cursorAt?, hplace]
      rfl
  | some p =>
      rw [held_of_place? hplace, cursorAt]
      split
      · next content hp => exact absurd (readFile_eq_ok.mpr ⟨p, hplace, hp⟩) (h content)
      · rfl

/-- Away from the spare places the same cursor is read. -/
theorem Touches.cursorAt_eq {spare : Place → Prop} (h : t.Touches spare t') (hp : ¬ spare p) :
  t'.cursorAt p = t.cursorAt p
  := by
  rcases h.beyond p hp with hsame | ⟨hnone, hmade⟩
  · rw [cursorAt, hsame, cursorAt]
  · rw [cursorAt, hmade, cursorAt, hnone]

end FileTree

/-! ### Reading -/

namespace CursorFile

variable {t t' t₀ : FileTree} {path : String} {c : Cursor} {s : List (Exchange Device.Answer)}
  {x : Exchange Device.Answer}

/-- The cursor that an answer to reading the file stands for. -/
def cursorRead : Except FileError (List UInt8) → Cursor
  | .ok content => cursorOf content
  | .error _ => .zero

/-- What is told of an answer to reading the file. -/
def tell (path : String) : Except FileError (List UInt8) → DeviceWork Unit
  | .ok content =>
    match (Utf8.decode? content).map Cursor.parse? with
    | none => noteUnreadable path "stream did not contain valid UTF-8"
    | some none =>
      DeviceWork.log .warn "State file does not hold a row number; starting from row 0"
        [("path", .text path)]
    | some (some _) => return ()
  | .error e =>
    if e.isMissing then
      DeviceWork.log .debug "No state file yet; starting from row 0" [("path", .text path)]
    else noteUnreadable path e.reason

/-- Loading is reading the file, and telling of it. -/
theorem load_eq (path : String) :
  load path = do
    let r ← DeviceWork.readFile path
    tell path r
    return cursorRead r
  := by
  rw [load]
  congr 1
  funext r
  cases r with
  | error e =>
      rw [tell, cursorRead]
      dsimp only
      split <;> rfl
  | ok content =>
      rw [tell, cursorRead, cursorOf]
      dsimp only
      rw [readContent]
      cases Utf8.decode? content with
      | none => rfl
      | some text =>
          rw [Option.map_some, Option.bind_some]
          dsimp only
          cases Cursor.parse? text <;> rfl

theorem confined_log {level : LogLevel} {message : String} {fields : List (String × FieldValue)} :
  (DeviceWork.log level message fields).Confined (·.isAboutFiles = false)
  := Dialogue.confined_question.mpr rfl

theorem confined_tell (path : String) (r : Except FileError (List UInt8)) :
  (tell path r).Confined (·.isAboutFiles = false)
  := by
  cases r with
  | error e =>
      rw [tell]
      split <;> apply confined_log
  | ok content =>
      rw [tell]
      split
      · apply confined_log
      · apply confined_log
      · apply Dialogue.confined_pure

/-- What is read is what the tree holds. -/
theorem held_of_load (h : Yields (load path) s c) (hs : t.Evolves s t') :
  c = t.held path
  := by
  rw [load_eq] at h
  obtain ⟨r, s', rfl, hrest⟩ := Dialogue.yields_question_bind.mp h
  obtain ⟨_, _, _, -, -, hc⟩ := Dialogue.yields_bind.mp hrest
  obtain ⟨-, rfl⟩ := Dialogue.yields_pure.mp hc
  obtain ⟨t₁, hread, -⟩ := FileTree.evolves_cons.mp hs
  cases hread with
  | read hread => exact (FileTree.held_of_readFile hread).symm
  | unread e hunread => exact (FileTree.held_of_forall_ne hunread).symm
  | other x hx => cases hx

/-- What the tree holds can be read. -/
theorem exists_load (t : FileTree) (path : String) :
  ∃ s, Yields (load path) s (t.held path) ∧ t.Evolves s t
  := by
  obtain ⟨r, hr, hread⟩ : ∃ r : Except FileError (List UInt8),
      cursorRead r = t.held path ∧ t.Answers ⟨.readFile path, r⟩ t := by
    by_cases h : ∃ content, t.readFile path = .ok content
    · obtain ⟨content, h⟩ := h
      exact ⟨.ok content, (FileTree.held_of_readFile h).symm, .read h⟩
    · have hunread := not_exists.mp h
      exact ⟨.error ⟨true, ""⟩, (FileTree.held_of_forall_ne hunread).symm, .unread _ hunread⟩
  obtain ⟨s, _, htell⟩ := Dialogue.exists_yields Device.nonempty_answer (confined_tell path r).total
  use ⟨.readFile path, r⟩ :: s
  constructor
  · rw [load_eq, ← hr]
    apply Dialogue.yields_question_bind.mpr
    refine ⟨r, s, rfl, Dialogue.yields_bind.mpr ?_⟩
    exact ⟨s, _, [], (List.append_nil s).symm, htell, .done _⟩
  · apply FileTree.Evolves.cons hread
    apply FileTree.evolves_of_isAboutFiles
    apply htell.of_confined (confined_tell path r)

/-- Reading leaves the tree as it is, also when it is cut off. -/
theorem eq_of_load (h : Begins (load path) s) (hs : t.Evolves s t') :
  t' = t
  := by
  have hread : (DeviceWork.readFile path).Confined (·.changesFiles = false) :=
    Dialogue.confined_question.mpr rfl
  have hload : (load path).Confined (·.changesFiles = false) := by
    rw [load_eq]
    apply hread.bind
    intro r
    apply Dialogue.Confined.bind ((confined_tell path r).mono Device.changesFiles_of_isAboutFiles)
    intro _
    apply Dialogue.confined_pure
  apply hs.eq_of_changesFiles
  exact h.of_confined hload

/-! ### Storing -/

/-- The rename that a store ends with has taken effect. -/
def Renamed (path : String) (s : List (Exchange Device.Answer)) : Prop :=
  ⟨.rename (temporary path) path, .ok ()⟩ ∈ s

/-- An exchange of a store before its rename takes effect. -/
inductive Prepares (path : String) : Exchange Device.Answer → Prop
  | makeDirectories (parent : String) (r : Except FileError Unit) :
      Prepares path ⟨.makeDirectories parent, r⟩
  | writeFile (content : List UInt8) (r : Except FileError Unit) :
      Prepares path ⟨.writeFile (temporary path) content, r⟩
  | rename (e : FileError) : Prepares path ⟨.rename (temporary path) path, .error e⟩

/-- The store writes the neighbour whole and puts it in the place of the file. -/
def Replaces (path : String) (c : Cursor) (s : List (Exchange Device.Answer)) : Prop :=
  ∃ before after, s = before ++ ⟨.writeFile (temporary path) (Utf8.bytes c.text), .ok ()⟩
      :: ⟨.rename (temporary path) path, .ok ()⟩ :: after
    ∧ (∀ x ∈ before, Prepares path x) ∧ ∀ x ∈ after, x.1.isAboutFiles = false

theorem Replaces.renamed (h : Replaces path c s) :
  Renamed path s
  := by
  obtain ⟨before, after, rfl, -, -⟩ := h
  rw [Renamed]
  simp

theorem Replaces.prepend {s' : List (Exchange Device.Answer)} (h : Replaces path c s)
    (hs' : ∀ x ∈ s', Prepares path x) :
  Replaces path c (s' ++ s)
  := by
  obtain ⟨before, after, rfl, hbefore, hafter⟩ := h
  refine ⟨s' ++ before, after, (List.append_assoc ..).symm, ?_, hafter⟩
  exact List.forall_mem_append.mpr ⟨hs', hbefore⟩

theorem Replaces.append {s' : List (Exchange Device.Answer)} (h : Replaces path c s)
    (hs' : ∀ x ∈ s', x.1.isAboutFiles = false) :
  Replaces path c (s ++ s')
  := by
  obtain ⟨before, after, rfl, hbefore, hafter⟩ := h
  refine ⟨before, after ++ s', List.append_assoc .., hbefore, ?_⟩
  exact List.forall_mem_append.mpr ⟨hafter, hs'⟩

theorem not_renamed_of_prepares (h : ∀ x ∈ s, Prepares path x) :
  ¬ Renamed path s
  := by
  intro hs
  cases h _ hs

theorem prepares_of_prepare (h : Begins (prepare path) s) :
  ∀ x ∈ s, Prepares path x
  := by
  have hprepare : (prepare path).Confined fun d => ∃ parent, d = .makeDirectories parent := by
    rw [prepare]
    split
    · apply Dialogue.confined_pure
    · apply Dialogue.confined_pure
    · next parent _ _ =>
      apply Dialogue.Confined.bind (Dialogue.confined_question.mpr ⟨parent, rfl⟩)
      intro _
      apply Dialogue.confined_pure
  intro x hx
  obtain ⟨parent, hparent⟩ := h.of_confined hprepare x hx
  obtain ⟨d, r⟩ := x
  cases hparent
  apply Prepares.makeDirectories

theorem begins_replace (h : Begins (replace path c) s) :
  (∀ x ∈ s, Prepares path x) ∨ Replaces path c s
  := by
  rw [replace] at h
  rcases Dialogue.begins_question_bind.mp h with rfl | ⟨r, s', rfl, hs'⟩
  · exact .inl (List.forall_mem_nil _)
  · have hwrite : Prepares path ⟨.writeFile (temporary path) (Utf8.bytes c.text), r⟩ :=
      .writeFile _ r
    cases r with
    | error e =>
        rw [Dialogue.begins_pure.mp hs']
        exact .inl (List.forall_mem_singleton.mpr hwrite)
    | ok _ =>
        rcases Dialogue.begins_question_bind.mp hs' with rfl | ⟨r, s'', rfl, hs''⟩
        · exact .inl (List.forall_mem_singleton.mpr hwrite)
        · rw [Dialogue.begins_pure.mp hs'']
          cases r with
          | error e =>
              left
              rw [List.forall_mem_cons, List.forall_mem_singleton]
              exact ⟨hwrite, .rename e⟩
          | ok _ =>
              right
              exact ⟨[], [], rfl, List.forall_mem_nil _, List.forall_mem_nil _⟩

theorem renamed_append {s' : List (Exchange Device.Answer)} :
  Renamed path (s ++ s') ↔ Renamed path s ∨ Renamed path s'
  := List.mem_append

theorem renamed_cons {x : Exchange Device.Answer}
    (hx : ∀ source target, x.1 ≠ .rename source target) :
  Renamed path (x :: s) ↔ Renamed path s
  := by
  rw [Renamed, Renamed, List.mem_cons]
  constructor
  · rintro (rfl | h)
    · exact absurd rfl (hx _ _)
    · apply h
  · exact .inr

theorem yields_replace {r : Except Failure Unit} (h : Yields (replace path c) s r) :
  r = .ok () ↔ Renamed path s
  := by
  rw [replace] at h
  obtain ⟨w, s', rfl, hs'⟩ := Dialogue.yields_question_bind.mp h
  rw [renamed_cons (by rintro _ _ ⟨⟩)]
  cases w with
  | error e =>
      obtain ⟨rfl, rfl⟩ := Dialogue.yields_pure.mp hs'
      exact ⟨nofun, nofun⟩
  | ok _ =>
      obtain ⟨w, s'', rfl, hs''⟩ := Dialogue.yields_question_bind.mp hs'
      obtain ⟨rfl, rfl⟩ := Dialogue.yields_pure.mp hs''
      cases w with
      | error e => exact ⟨nofun, fun hs => by cases List.mem_singleton.mp hs⟩
      | ok _ => exact ⟨fun _ => List.mem_singleton_self _, fun _ => rfl⟩

theorem confined_noteStored (c : Cursor) :
  (do
    DeviceWork.record (.lastRowUpdated c.row)
    DeviceWork.log .debug "Cursor persisted" [("cursor", .text c.text)]
    return (.ok () : Except Failure Unit) : DeviceWork (Except Failure Unit)).Confined
      (·.isAboutFiles = false)
  := by
  have hrecord : (DeviceWork.record (.lastRowUpdated c.row)).Confined (·.isAboutFiles = false) :=
    Dialogue.confined_question.mpr rfl
  apply hrecord.bind
  intro _
  apply Dialogue.Confined.bind confined_log
  intro _
  apply Dialogue.confined_pure

/-- The store has replaced the file, or nothing has happened but preparations. -/
theorem begins_store (h : Begins (store path c) s) :
  (∀ x ∈ s, Prepares path x) ∨ Replaces path c s
  := by
  rw [store] at h
  rcases Dialogue.begins_bind.mp h with h | ⟨s₁, r₁, s', rfl, h₁, hs'⟩
  · exact .inl (prepares_of_prepare h)
  · have hprepares := prepares_of_prepare h₁.begins
    cases r₁ with
    | error e =>
        rw [Dialogue.begins_pure.mp hs', List.append_nil]
        exact .inl hprepares
    | ok _ =>
        rcases Dialogue.begins_bind.mp hs' with h₂ | ⟨s₂, r₂, s₃, rfl, h₂, h₃⟩
        · rcases begins_replace h₂ with hprepares₂ | hreplaces
          · exact .inl (List.forall_mem_append.mpr ⟨hprepares, hprepares₂⟩)
          · exact .inr (hreplaces.prepend hprepares)
        · rcases begins_replace h₂.begins with hprepares₂ | hreplaces
          · -- without the rename there is an error, and nothing follows
            have hr₂ := mt (yields_replace h₂).mp (not_renamed_of_prepares hprepares₂)
            cases r₂ with
            | error e =>
                rw [Dialogue.begins_pure.mp h₃, List.append_nil]
                exact .inl (List.forall_mem_append.mpr ⟨hprepares, hprepares₂⟩)
            | ok _ => exact absurd rfl hr₂
          · refine .inr ((hreplaces.append ?_).prepend hprepares)
            cases r₂ with
            | error e =>
                rw [Dialogue.begins_pure.mp h₃]
                apply List.forall_mem_nil
            | ok _ => exact h₃.of_confined (confined_noteStored c)

/-- The store returns an error exactly if it has not come to the rename. -/
theorem yields_store {r : Except Failure Unit} (h : Yields (store path c) s r) :
  r = .ok () ↔ Renamed path s
  := by
  rw [store] at h
  obtain ⟨s₁, r₁, s', rfl, h₁, hs'⟩ := Dialogue.yields_bind.mp h
  have hs₁ := not_renamed_of_prepares (prepares_of_prepare h₁.begins)
  rw [renamed_append, or_iff_right hs₁]
  cases r₁ with
  | error e =>
      obtain ⟨rfl, rfl⟩ := Dialogue.yields_pure.mp hs'
      exact ⟨nofun, nofun⟩
  | ok _ =>
      obtain ⟨s₂, r₂, s₃, rfl, h₂, h₃⟩ := Dialogue.yields_bind.mp hs'
      rw [renamed_append, ← yields_replace h₂]
      cases r₂ with
      | error e =>
          obtain ⟨rfl, rfl⟩ := Dialogue.yields_pure.mp h₃
          exact ⟨nofun, fun hor => by rcases hor with h | h <;> cases h⟩
      | ok _ =>
          obtain ⟨_, _, s₄, -, -, h₄⟩ := Dialogue.yields_bind.mp h₃
          obtain ⟨_, _, s₅, -, -, h₅⟩ := Dialogue.yields_bind.mp h₄
          obtain ⟨-, rfl⟩ := Dialogue.yields_pure.mp h₅
          exact iff_of_true rfl (.inl rfl)

/-! ### What a store does to the tree -/

/-- The places with the name of the neighbour. -/
def IsSpare (path : String) (p : Place) : Prop :=
  p.getLast? = some (temporaryName path)

theorem isSpare_of_place? {p : Place} (h : t.place? (temporary path) = some p) :
  IsSpare path p
  := by
  rw [IsSpare, FileTree.getLast?_of_place? h, getLast?_splitOn_temporary]

theorem not_isSpare_of_place? {p : Place} (h : t.place? path = some p) :
  ¬ IsSpare path p
  := by
  intro hspare
  rw [IsSpare, ← FileTree.fileName?_of_place? h] at hspare
  exact ne_temporaryName hspare rfl

theorem touches_of_write {content : List UInt8}
    (h : t.writeFile (temporary path) content = .ok t') (ht : t.IsTree) :
  t.Touches (IsSpare path) t' ∧ t'.IsTree
  := by
  obtain ⟨p, hplace, hp, rfl⟩ := FileTree.writeFile_eq_ok.mp h
  constructor
  · apply (FileTree.touches_put_file hp).mono
    rintro _ rfl
    apply isSpare_of_place? hplace
  · apply ht.put_file hplace hp

/-- Before its rename takes effect a store touches spare places only. -/
theorem Prepares.touches (hx : Prepares path x) (h : t.Answers x t') (ht : t.IsTree) :
  t.Touches (IsSpare path) t' ∧ t'.IsTree
  := by
  cases hx with
  | makeDirectories parent r =>
      cases h with
      | made hmade =>
          have hall : t.Touches (IsSpare path) (t.makeDirectories parent).1
              ∧ (t.makeDirectories parent).1.IsTree :=
            FileTree.touches_makeDirectories ht parent
          rw [hmade] at hall
          exact hall
      | makingFailed e hmade htree => exact ⟨hmade.mono fun _ hfalse => hfalse.elim, htree⟩
      | other _ hd => cases hd
  | writeFile content r =>
      cases h with
      | written hwrite => exact touches_of_write hwrite ht
      | unwritten => exact ⟨.refl t, ht⟩
      | writingFailed n e hwrite => exact touches_of_write hwrite ht
      | other _ hd => cases hd
  | rename e =>
      cases h with
      | unrenamed => exact ⟨.refl t, ht⟩
      | other _ hd => cases hd

theorem touches_of_prepares (hs : ∀ x ∈ s, Prepares path x) (h : t.Evolves s t') (ht : t.IsTree) :
  t.Touches (IsSpare path) t' ∧ t'.IsTree
  := by
  induction h with
  | nil t => exact ⟨.refl t, ht⟩
  | cons hx _ ih =>
      obtain ⟨hprepares, hrest⟩ := List.forall_mem_cons.mp hs
      obtain ⟨htouches, ht'⟩ := hprepares.touches hx ht
      obtain ⟨htouches', ht''⟩ := ih hrest ht'
      exact ⟨htouches.trans htouches', ht''⟩

/-- The file of the path is there, with what is written for the cursor. -/
def IsKept (t : FileTree) (path : String) (c : Cursor) : Prop :=
  ∃ p, t.place? path = some p ∧ t.get? p = some (.file (Utf8.bytes c.text))

theorem IsKept.held_eq (h : IsKept t path c) :
  t.held path = c
  := by
  obtain ⟨p, hplace, hp⟩ := h
  rw [FileTree.held_of_place? hplace, FileTree.cursorAt_of_file hp, cursorOf_bytes]

/-- What touches spare places only keeps the file. -/
theorem IsKept.of_touches (h : IsKept t path c) (htouches : t.Touches (IsSpare path) t') :
  IsKept t' path c
  := by
  obtain ⟨p, hplace, hp⟩ := h
  refine ⟨p, htouches.toWidens.place?_eq_some hplace, ?_⟩
  rcases htouches.beyond p (not_isSpare_of_place? hplace) with hsame | ⟨hnone, -⟩
  · rw [hsame, hp]
  · cases hnone.symm.trans hp

/-- A store that replaces the file leaves the cursor in it, and no neighbour. -/
theorem Replaces.isKept (hs : Replaces path c s) (h : t.Evolves s t') (ht : t.IsTree) :
  IsKept t' path c ∧ t'.IsTree ∧ t'.readFile (temporary path) = .error .notFound
  := by
  obtain ⟨before, after, rfl, hbefore, hafter⟩ := hs
  obtain ⟨t₁, h₁, hrest⟩ := FileTree.evolves_append.mp h
  obtain ⟨t₂, hwritten, hrest⟩ := FileTree.evolves_cons.mp hrest
  obtain ⟨t₃, hrenamed, hrest⟩ := FileTree.evolves_cons.mp hrest
  have hend : t' = t₃ :=
    hrest.eq_of_changesFiles fun x hx => x.1.changesFiles_of_isAboutFiles (hafter x hx)
  obtain ⟨-, ht₁⟩ := touches_of_prepares hbefore h₁ ht
  cases hwritten with
  | other _ hd => cases hd
  | written hwrite =>
  cases hrenamed with
  | other _ hd => cases hd
  | renamed hrename =>
  obtain ⟨r, hr, hdirectory, ht₂⟩ := FileTree.writeFile_eq_ok.mp hwrite
  have hr₂ : t₂.place? (temporary path) = some r := by
    rw [ht₂]
    exact (FileTree.touches_put_file hdirectory).toWidens.place?_eq_some hr
  have hcontent : t₂.get? r = some (.file (Utf8.bytes c.text)) := by
    rw [ht₂, FileTree.get?_put (FileTree.ne_nil_of_get?_ne hdirectory), if_pos rfl]
  have hne : t₂.place? (temporary path) ≠ t₂.place? path := by
    intro heq
    apply not_isSpare_of_place? (heq.symm.trans hr₂)
    apply isSpare_of_place? hr₂
  have htree₂ : t₂.IsTree := by
    rw [ht₂]
    apply ht₁.put_file hr hdirectory
  obtain ⟨ht₃, p, q, content, hp, hfile, hp₃, hnone, hq, hkept⟩ := htree₂.rename hrename hne
  obtain rfl := Option.some.inj (hp.symm.trans hr₂)
  obtain ⟨⟩ := hfile.symm.trans hcontent
  rw [hend]
  exact ⟨⟨q, hq, hkept⟩, ht₃, FileTree.readFile_of_get?_eq_none hp₃ hnone⟩

end CursorFile

end LogCourier
