import LogCourier.Json.Record
import LogCourier.Proofs.JsonRoundTrip
import Mathlib.Data.List.Forall2
import Mathlib.Data.List.Nodup

/-!
# Records are read back

Strings, lists and records that are read back from the trees that hold them: the fields of a
record are the values of its members, if no two members have the same name
(`Json.fields_record`), and an optional field holds nothing if it is absent or null
(`Json.Holds`). With `Json.read_print` this carries over to printed documents
(`Json.decode_print`).
-/

namespace LogCourier.Json

variable {α : Type} {read : Json → Except Misfit α}

theorem string_ofString (s : String) :
  string (.ofString s) = .ok s
  := by
  rw [ofString, string, Text.ofString, Utf8.text?_map_some]

theorem ofString_injective {s t : String} (h : Text.ofString s = Text.ofString t) :
  s = t
  := by
  apply String.toList_inj.mp
  exact List.map_injective_iff.mpr (Option.some_injective Char) h

/-- A list is read from another one element by element. -/
theorem mapM_eq_ok {β ε : Type} {f : β → Except ε α} {bs : List β} {l : List α}
    (h : List.Forall₂ (fun b a => f b = .ok a) bs l) :
  bs.mapM f = .ok l
  := by
  induction h with
  | nil => rfl
  | cons hfirst hrest ih =>
      rw [List.mapM_cons, hfirst, ih]
      rfl

/-- A list is read back if its elements are. -/
theorem mapM_map_eq_ok {β ε : Type} {f : β → Except ε α} {g : α → β} {l : List α}
    (h : ∀ a ∈ l, f (g a) = .ok a) :
  (l.map g).mapM f = .ok l
  := by
  apply mapM_eq_ok
  rw [List.forall₂_map_left_iff, List.forall₂_same]
  exact h

theorem list_array {write : α → Json} {l : List α}
    (h : ∀ a ∈ l, read (write a) = .ok a) :
  list read (.array (l.map write)) = .ok l
  := mapM_map_eq_ok h

/-! ### The fields of a record -/

theorem beq_ofString (s t : String) :
  (Text.ofString s == Text.ofString t) = (s == t)
  := by
  rw [Bool.eq_iff_iff, beq_iff_eq, beq_iff_eq]
  exact ⟨ofString_injective, congrArg Text.ofString⟩

theorem member?_record (name : String) (members : List (String × Json)) :
  member? name (members.map fun m => (.ofString m.1, m.2)) = members.lookup name
  := by
  induction members with
  | nil => rfl
  | cons m members ih =>
      rw [member?] at ih
      rw [member?, List.map_cons, List.lookup_cons, List.lookup_cons, beq_ofString, ih]

theorem occurrences_record (name : String) (members : List (String × Json)) :
  occurrences name (members.map fun m => (.ofString m.1, m.2)) = (members.map Prod.fst).count name
  := by
  rw [occurrences, List.countP_map, List.count, List.countP_map]
  apply List.countP_congr
  intro m _
  rw [Function.comp, Function.comp, beq_ofString]

theorem characters?_isNone_iff {t : Text} :
  (Utf8.characters? t).isNone = false ↔ ∃ s, t = .ofString s
  := by
  constructor
  · intro h
    obtain ⟨cs, hcs⟩ := Option.isSome_iff_exists.mp (Option.isNone_eq_false_iff.mp h)
    use String.ofList cs
    rw [Text.ofString, String.toList_ofList]
    exact Utf8.characters?_eq_some_iff.mp hcs
  · rintro ⟨s, rfl⟩
    rw [Text.ofString, Utf8.characters?_map_some]
    rfl

/-- An object has fields if its keys are strings and it has no field twice. -/
theorem fields_object_iff {shape : Shape} {members : List (Text × Json)}
    {fs : List (Option Json)} :
  fields shape (.object members) = .ok fs
    ↔ (∀ m ∈ members, ∃ s, m.1 = .ofString s)
      ∧ (∀ name ∈ shape.names, occurrences name members ≤ 1)
      ∧ shape.names.map (member? · members) = fs
  := by
  have hcharacters : (members.any fun m => (Utf8.characters? m.1).isNone) = false
      ↔ ∀ m ∈ members, ∃ s, m.1 = .ofString s := by
    simp only [List.any_eq_false, Bool.not_eq_true, characters?_isNone_iff]
  have htwice : (shape.names.find? fun name => 1 < occurrences name members) = none
      ↔ ∀ name ∈ shape.names, occurrences name members ≤ 1 := by
    simp only [List.find?_eq_none, decide_eq_true_eq, Nat.not_lt]
  rw [fields, ← hcharacters, ← htwice]
  cases members.any fun m => (Utf8.characters? m.1).isNone with
  | true => simp [throw, throwThe, MonadExceptOf.throw, bind, Except.bind]
  | false =>
      cases shape.names.find? fun name => 1 < occurrences name members with
      | some name => simp [throw, throwThe, MonadExceptOf.throw]
      | none => simp [pure, Except.pure]

/-- The fields of a record whose members have different names are the values of its members. -/
theorem fields_record {shape : Shape} {members : List (String × Json)}
    (h : (members.map Prod.fst).Nodup) :
  fields shape (.record members) = .ok (shape.names.map fun name => members.lookup name)
  := by
  apply fields_object_iff.mpr
  refine ⟨?_, ?_, ?_⟩
  · intro m hm
    obtain ⟨m, -, rfl⟩ := List.mem_map.mp hm
    exact ⟨m.1, rfl⟩
  · intro name _
    rw [occurrences_record]
    exact List.nodup_iff_count_le_one.mp h name
  · simp only [member?_record]

theorem occurrences_cons (name : String) (m : Text × Json) (members : List (Text × Json)) :
  occurrences name (m :: members)
    = occurrences name members + if m.1 = .ofString name then 1 else 0
  := by
  rw [occurrences, List.countP_cons, occurrences]
  simp only [beq_iff_eq]

theorem occurrences_eq_zero_iff {name : String} {members : List (Text × Json)} :
  occurrences name members = 0 ↔ ∀ m ∈ members, m.1 ≠ .ofString name
  := by
  rw [occurrences, List.countP_eq_zero]
  simp only [beq_iff_eq, ne_eq]

theorem member?_eq_none_iff {name : String} {members : List (Text × Json)} :
  member? name members = none ↔ occurrences name members = 0
  := by
  rw [member?, List.lookup_eq_none_iff, occurrences_eq_zero_iff]
  exact forall₂_congr fun _ _ => bne_iff_ne.trans ne_comm

/-- Where a field is not repeated, its value is the one that the object has. -/
theorem member?_eq_some_iff {name : String} {members : List (Text × Json)} {v : Json}
    (honce : occurrences name members ≤ 1) :
  member? name members = some v ↔ (Text.ofString name, v) ∈ members
  := by
  constructor
  · intro h
    obtain ⟨l₁, l₂, rfl, -⟩ := List.lookup_eq_some_iff.mp h
    simp
  · intro h
    obtain ⟨l₁, l₂, rfl⟩ := List.append_of_mem h
    apply List.lookup_eq_some_iff.mpr
    refine ⟨l₁, l₂, rfl, ?_⟩
    intro p hp
    rw [occurrences, List.countP_append, List.countP_cons_of_pos (by simp)] at honce
    have hzero : occurrences name l₁ = 0 := by
      rw [occurrences]
      omega
    exact bne_iff_ne.mpr (Ne.symm (occurrences_eq_zero_iff.mp hzero p hp))

/-! ### Optional fields -/

/-- What an optional field holds: nothing if it is absent or null, and else what is read from
it. -/
inductive Holds (read : Json → Except Misfit α) : Option Json → Option α → Prop
  | absent : Holds read none none
  | null : Holds read (some .null) none
  | value {v : Json} {a : α} (hv : v ≠ .null) (h : read v = .ok a) : Holds read (some v) (some a)

theorem optional_of_ne_null {v : Json} (hv : v ≠ .null) :
  optional read (some v) = (read v).map some
  := by
  cases v with
  | null => exact absurd rfl hv
  | _ => rfl

theorem optional_eq_ok_iff {field : Option Json} {o : Option α} :
  optional read field = .ok o ↔ Holds read field o
  := by
  constructor
  · intro h
    cases field with
    | none =>
        cases h
        exact .absent
    | some v =>
        by_cases hv : v = .null
        · subst hv
          cases h
          exact .null
        · rw [optional_of_ne_null hv] at h
          cases hread : read v with
          | error m =>
              rw [hread] at h
              cases h
          | ok a =>
              rw [hread] at h
              cases h
              exact .value hv hread
  · rintro (_ | _ | ⟨hv, h⟩)
    · rfl
    · rfl
    · rw [optional_of_ne_null hv, h]
      rfl

/-! ### Documents -/

/-- A value is read from bytes that are a document, by reading it from the tree of the document. -/
theorem decode_eq_ok_iff {document : List UInt8} {a : α} :
  decode read document = .ok a ↔ ∃ v, Json.read document = .ok v ∧ read v = .ok a
  := by
  rw [decode]
  cases Json.read document with
  | error f => simp
  | ok v => cases h : read v <;> simp [Except.mapError, h]

/-- A value is read back from the printed tree that holds it. -/
theorem decode_print {v : Json} {a : α} (hv : Plain v)
    (h : read v = .ok a) :
  decode read (Utf8.bytes v.print) = .ok a
  := decode_eq_ok_iff.mpr ⟨v, read_print hv, h⟩

end LogCourier.Json
