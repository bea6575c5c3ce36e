import LogCourier.Json.Record
import LogCourier.Json.Printer

/-!
# Labels of a stream

A set of labels: each key has one value, and the keys are kept in the order of their
characters, so that equal sets have the same identity `canonical`.
-/

namespace LogCourier

/-- Put a key with its value into a list of labels that is sorted by key, in place of an
equal key. -/
def LabelSet.insertPair (key value : String) : List (String × String) → List (String × String)
  | [] => [(key, value)]
  | (k, v) :: rest =>
    if key < k then (key, value) :: (k, v) :: rest
    else if key = k then (key, value) :: rest
    else (k, v) :: insertPair key value rest

/-- Keys after an insertion are the inserted one or earlier ones. -/
theorem LabelSet.mem_insertPair {key value : String} {l : List (String × String)}
  {p : String × String} (h : p ∈ insertPair key value l) :
  p = (key, value) ∨ p ∈ l
  := by
  induction l with
  | nil => simpa [insertPair] using h
  | cons q rest ih =>
    obtain ⟨k, v⟩ := q
    simp only [insertPair] at h
    split at h
    · simpa using h
    · split at h
      · rcases List.mem_cons.1 h with rfl | h
        · exact .inl rfl
        · exact .inr (List.mem_cons_of_mem _ h)
      · rcases List.mem_cons.1 h with rfl | h
        · exact .inr List.mem_cons_self
        · rcases ih h with rfl | h
          · exact .inl rfl
          · exact .inr (List.mem_cons_of_mem _ h)

/-- An insertion keeps the keys in strictly ascending order. -/
theorem LabelSet.insertPair_sorted {key value : String} {l : List (String × String)}
  (h : l.Pairwise (·.1 < ·.1)) :
  (insertPair key value l).Pairwise (·.1 < ·.1)
  := by
  induction l with
  | nil => simp [insertPair]
  | cons q rest ih =>
    obtain ⟨k, v⟩ := q
    obtain ⟨first, sorted⟩ := List.pairwise_cons.1 h
    simp only [insertPair]
    split
    next below =>
      refine List.pairwise_cons.2 ⟨fun p hp => ?_, h⟩
      rcases List.mem_cons.1 hp with rfl | hp
      · exact below
      · exact String.lt_trans below (first p hp)
    next notBelow =>
      split
      next same => subst same; exact List.pairwise_cons.2 ⟨first, sorted⟩
      next different =>
        refine List.pairwise_cons.2 ⟨fun p hp => ?_, ih sorted⟩
        rcases mem_insertPair hp with rfl | hp
        · exact Std.lt_of_le_of_ne (String.not_lt.1 notBelow) (Ne.symm different)
        · exact first p hp

/-- Labels with their values, in strictly ascending order of the keys. -/
structure LabelSet where
  pairs : List (String × String)
  sorted : pairs.Pairwise (·.1 < ·.1)

namespace LabelSet

instance : DecidableEq LabelSet := fun a b =>
  decidable_of_iff (a.pairs = b.pairs)
    ⟨fun h => by cases a; cases b; cases h; rfl, fun h => h ▸ rfl⟩

/-- The set without labels. -/
def empty : LabelSet := ⟨[], .nil⟩

instance : Inhabited LabelSet := ⟨empty⟩

/-- The set with the given value for a key. -/
def insert (l : LabelSet) (key value : String) : LabelSet :=
  ⟨insertPair key value l.pairs, insertPair_sorted l.sorted⟩

/-- The set of a list of labels; a later value of a key replaces an earlier one. -/
def ofList (pairs : List (String × String)) : LabelSet :=
  pairs.foldl (fun l p => l.insert p.1 p.2) empty

/-- The value of a key. -/
def get? (l : LabelSet) (key : String) : Option String :=
  l.pairs.lookup key

/-- The number of labels. -/
def size (l : LabelSet) : Nat :=
  l.pairs.length

/-- Whether there are no labels. -/
def isEmpty (l : LabelSet) : Bool :=
  l.pairs.isEmpty

/-- The identity of the set: its labels in order, with their values in quotes. -/
def canonical (l : LabelSet) : String :=
  let part := fun (p : String × String) => p.1.toList ++ ['=', '"'] ++ p.2.toList ++ ['"']
  String.ofList ('\x7b' :: Json.separated (l.pairs.map part) ++ ['\x7d'])

/-- The object whose members are the labels. -/
def toJson (l : LabelSet) : Json :=
  .record (l.pairs.map fun p => (p.1, .ofString p.2))

/-- Read labels from the members of an object; a later value of a key replaces an earlier
one. -/
def ofJson : Json → Except Json.Misfit LabelSet
  | .object members => do
    let pairs ← members.mapM fun (key, value) => do
      pure (← Json.string (.text key), ← Json.string value)
    pure (ofList pairs)
  | v => .error (.wrongType v.kind "a map")

end LabelSet

end LogCourier
