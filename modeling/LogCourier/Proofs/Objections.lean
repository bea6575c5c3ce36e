import LogCourier.Proofs.Wants

/-!
# Nothing is objected to what is wanted

A document is the text of a value that is wanted exactly if nothing is found wrong with it
(`Json.Want.wrong?_eq_none_iff`). So a reply of the source that cannot be decoded is met with an
objection, and one that can be is not (`Envelope.wrong?_eq_none_iff`).

While the builder puts a document together, what is complete of its open containers is as wanted
(`Json.Want.Suits`) exactly if it was before the last unit and nothing is objected to that unit
(`Json.Want.suits_step_iff`). The equivalence goes through a whole document by induction on its
units, and at the end it says that the value fits.
-/

namespace LogCourier

namespace Json

/-- No open container is waiting for a key. -/
def Nested (stack : List Frame) : Prop :=
  ∀ before, .object before ∉ stack

theorem nested_nil :
  Nested []
  := fun _ => List.not_mem_nil

theorem nested_array_iff {before : List Json} {stack : List Frame} :
  Nested (.array before :: stack) ↔ Nested stack
  := by
  simp [Nested]

theorem nested_member_iff {before : List (Text × Json)} {key : Text} {stack : List Frame} :
  Nested (.member before key :: stack) ↔ Nested stack
  := by
  simp [Nested]

/-- What may come next agrees with the innermost open container. -/
def Builder.Coherent (b : Builder) : Prop :=
  match b.expecting, b.stack with
  | .value, stack => Nested stack
  | .itemOrEnd, .array _ :: stack | .item, .array _ :: stack
  | .commaOrArrayEnd, .array _ :: stack => Nested stack
  | .keyOrEnd, .object _ :: stack | .key, .object _ :: stack
  | .commaOrObjectEnd, .object _ :: stack => Nested stack
  | .colon, .member _ _ :: stack => Nested stack
  | .nothing _, stack => stack = []
  | _, _ => False

namespace Want

variable {w top : Want} {u : Placed}

/-! ### Values by their start -/

theorem misfit?_eq_none_iff {α : Type} {r : Except Misfit α} :
  misfit? r = none ↔ ∃ a, r = .ok a
  := by
  cases r <;> simp [misfit?]

theorem fits_optional_iff {v : Json} (hv : v ≠ .null) :
  (optional w).Fits v ↔ w.Fits v
  := by
  constructor
  · rintro (_ | _ | _ | _ | h)
    · exact absurd rfl hv
    · exact h
  · exact .optional

/-- A value that is no container fits if nothing is wrong with its start. -/
theorem fits_leaf_iff {v : Json} (harray : ∀ items, v ≠ .array items)
    (hobject : ∀ members, v ≠ .object members) (w : Want) :
  w.Fits v ↔ w.refusal? v = none
  := by
  match w with
  | anything => exact ⟨fun _ => rfl, fun _ => .anything v⟩
  | text => rw [refusal?, misfit?_eq_none_iff, describes_string]
  | natural limit width => rw [refusal?, misfit?_eq_none_iff, describes_naturalBelow]
  | optional w =>
      by_cases hv : v = .null
      · subst hv
        exact ⟨fun _ => rfl, fun _ => .null w⟩
      · rw [fits_optional_iff hv, fits_leaf_iff harray hobject w]
        cases v <;> first | rfl | exact absurd rfl hv
  | Want.list w =>
      cases v with
      | array items => exact absurd rfl (harray items)
      | _ => exact ⟨nofun, nofun⟩
  | record shape wants =>
      cases v with
      | array items => exact absurd rfl (harray items)
      | object members => exact absurd rfl (hobject members)
      | _ => exact ⟨nofun, nofun⟩

/-! ### Values by their parts -/

/-- There is room for so many items. -/
def Room (w : Want) (n : Nat) : Prop :=
  ∀ shape wants, w.core = record shape wants → n ≤ shape.names.length

/-- The items of an array are as wanted, as far as it goes. -/
structure HoldsItems (w : Want) (items : List Json) : Prop where
  array : w.refusal? (.array []) = none
  room : w.Room items.length
  fits : ∀ i v, items[i]? = some v → (w.item i).Fits v

/-- A key is a string if it may be the one of a field. -/
def TakesKey (w : Want) (key : Text) : Prop :=
  ∀ shape wants, w.core = record shape wants → ∃ s, key = .ofString s

/-- A key is not the one of a field that an object has already. -/
def New (w : Want) (key : Text) (members : List (Text × Json)) : Prop :=
  ∀ shape wants, w.core = record shape wants →
    ∀ name ∈ shape.names, key = .ofString name → occurrences name members = 0

/-- The members of an object are as wanted, as far as it goes. -/
structure HoldsMembers (w : Want) (members : List (Text × Json)) : Prop where
  object : w.refusal? (.object []) = none
  keys : ∀ m ∈ members, w.TakesKey m.1
  once : ∀ shape wants, w.core = record shape wants →
    ∀ name ∈ shape.names, occurrences name members ≤ 1
  fits : ∀ m ∈ members, (w.member m.1).Fits m.2

/-- An array is as wanted if its items are, and there are as many as must be there. -/
theorem fits_array_iff {items : List Json} (w : Want) :
  w.Fits (.array items)
    ↔ w.HoldsItems items
      ∧ ∀ shape wants, w.core = record shape wants → shape.needed ≤ items.length
  := by
  match w with
  | anything =>
      constructor
      · exact fun _ => ⟨⟨rfl, nofun, fun _ v _ => .anything v⟩, nofun⟩
      · exact fun _ => .anything _
  | text | natural .. => exact ⟨nofun, fun h => nomatch h.1.array⟩
  | optional w =>
      rw [fits_optional_iff (v := .array items) nofun, fits_array_iff w]
      constructor
      · rintro ⟨⟨harray, hroom, hfits⟩, hneeded⟩
        exact ⟨⟨harray, hroom, hfits⟩, hneeded⟩
      · rintro ⟨⟨harray, hroom, hfits⟩, hneeded⟩
        exact ⟨⟨harray, hroom, hfits⟩, hneeded⟩
  | Want.list w =>
      constructor
      · rintro (_ | _ | _ | _ | _ | h)
        exact ⟨⟨rfl, nofun, fun i v hv => h v (List.mem_of_getElem? hv)⟩, nofun⟩
      · rintro ⟨⟨-, -, hfits⟩, -⟩
        apply Fits.list
        intro v hv
        obtain ⟨i, hi⟩ := List.getElem?_of_mem hv
        exact hfits i v hi
  | record shape wants =>
      constructor
      · rintro (_ | _ | _ | _ | _ | _ | ⟨hneeded, hroom, h⟩)
        refine ⟨⟨rfl, ?_, h⟩, ?_⟩
        · rintro _ _ ⟨⟩
          exact hroom
        · rintro _ _ ⟨⟩
          exact hneeded
      · rintro ⟨⟨-, hroom, hfits⟩, hneeded⟩
        exact .array (hneeded shape wants rfl) (hroom shape wants rfl) hfits

/-- An object is as wanted if its members are, and the ones that must be there are. -/
theorem fits_object_iff {members : List (Text × Json)} (w : Want) :
  w.Fits (.object members)
    ↔ w.HoldsMembers members
      ∧ ∀ shape wants, w.core = record shape wants →
        ∀ name ∈ shape.names.take shape.needed, occurrences name members ≠ 0
  := by
  match w with
  | anything =>
      constructor
      · exact fun _ => ⟨⟨rfl, fun _ _ => nofun, nofun, fun m _ => .anything m.2⟩, nofun⟩
      · exact fun _ => .anything _
  | text | natural .. | Want.list _ => exact ⟨nofun, fun h => nomatch h.1.object⟩
  | optional w =>
      rw [fits_optional_iff (v := .object members) nofun, fits_object_iff w]
      constructor
      · rintro ⟨⟨hobject, hkeys, honce, hfits⟩, hneeded⟩
        exact ⟨⟨hobject, hkeys, honce, hfits⟩, hneeded⟩
      · rintro ⟨⟨hobject, hkeys, honce, hfits⟩, hneeded⟩
        exact ⟨⟨hobject, hkeys, honce, hfits⟩, hneeded⟩
  | record shape wants =>
      constructor
      · rintro (_ | _ | _ | _ | _ | _ | _ | ⟨htext, honce, hneeded, h⟩)
        refine ⟨⟨rfl, fun m hm _ _ _ => htext m hm, ?_, h⟩, ?_⟩
        · rintro _ _ ⟨⟩
          exact honce
        · rintro _ _ ⟨⟩
          exact hneeded
      · rintro ⟨⟨-, hkeys, honce, hfits⟩, hneeded⟩
        exact .object (fun m hm => hkeys m hm shape wants rfl) (honce shape wants rfl)
          (hneeded shape wants rfl) hfits

theorem holdsItems_concat_iff {items : List Json} {v : Json} :
  w.HoldsItems (items ++ [v])
    ↔ w.HoldsItems items ∧ w.Room (items.length + 1) ∧ (w.item items.length).Fits v
  := by
  constructor
  · rintro ⟨harray, hroom, hfits⟩
    rw [List.length_append, List.length_singleton] at hroom
    refine ⟨⟨harray, ?_, ?_⟩, hroom, ?_⟩
    · intro shape wants hcore
      have := hroom shape wants hcore
      omega
    · intro i v' hv'
      apply hfits i v'
      rw [List.getElem?_append_left (List.getElem?_eq_some_iff.mp hv').1, hv']
    · exact hfits items.length v List.getElem?_concat_length
  · rintro ⟨⟨harray, -, hfits⟩, hroom, hv⟩
    refine ⟨harray, ?_, ?_⟩
    · rwa [List.length_append, List.length_singleton]
    · intro i v' hv'
      by_cases hi : i < items.length
      · rw [List.getElem?_append_left hi] at hv'
        exact hfits i v' hv'
      · rw [List.getElem?_append_right (Nat.le_of_not_lt hi), List.getElem?_singleton] at hv'
        split at hv'
        · obtain rfl : i = items.length := by omega
          rwa [← Option.some.inj hv']
        · cases hv'

theorem holdsMembers_cons_iff {members : List (Text × Json)} {key : Text} {v : Json} :
  w.HoldsMembers ((key, v) :: members)
    ↔ w.HoldsMembers members ∧ w.TakesKey key ∧ w.New key members ∧ (w.member key).Fits v
  := by
  have honce_iff (name : String) : occurrences name ((key, v) :: members) ≤ 1
      ↔ occurrences name members ≤ 1 ∧ (key = .ofString name → occurrences name members = 0) := by
    rw [occurrences_cons]
    by_cases hkey : key = .ofString name
    · simp only [hkey, if_true, forall_const]
      omega
    · simp only [hkey, if_false, false_implies, and_true, Nat.add_zero]
  constructor
  · rintro ⟨hobject, hkeys, honce, hfits⟩
    rw [List.forall_mem_cons] at hkeys hfits
    refine ⟨⟨hobject, hkeys.2, ?_, hfits.2⟩, hkeys.1, ?_, hfits.1⟩
    · intro shape wants hcore name hname
      exact ((honce_iff name).mp (honce shape wants hcore name hname)).1
    · intro shape wants hcore name hname
      exact ((honce_iff name).mp (honce shape wants hcore name hname)).2
  · rintro ⟨⟨hobject, hkeys, honce, hfits⟩, hkey, hnew, hv⟩
    refine ⟨hobject, List.forall_mem_cons.mpr ⟨hkey, hkeys⟩, ?_,
      List.forall_mem_cons.mpr ⟨hv, hfits⟩⟩
    intro shape wants hcore name hname
    apply (honce_iff name).mpr
    exact ⟨honce shape wants hcore name hname, hnew shape wants hcore name hname⟩

/-! ### Open containers -/

/-- The open containers are as wanted, as far as they go, and another value may follow. -/
def Awaits (top : Want) : List Frame → Prop
  | [] => True
  | .array before :: stack =>
    top.Awaits stack ∧ (top.within stack).HoldsItems before.reverse
      ∧ (top.within stack).Room (before.length + 1)
  | .object _ :: _ => False
  | .member before key :: stack =>
    top.Awaits stack ∧ (top.within stack).HoldsMembers before
      ∧ (top.within stack).TakesKey key ∧ (top.within stack).New key before

/-- What is complete of a document is as wanted. -/
def Suits (top : Want) (b : Builder) : Prop :=
  match b.expecting, b.stack with
  | .value, stack => top.Awaits stack
  | .itemOrEnd, .array before :: stack | .item, .array before :: stack
  | .commaOrArrayEnd, .array before :: stack =>
    top.Awaits stack ∧ (top.within stack).HoldsItems before.reverse
  | .keyOrEnd, .object before :: stack | .key, .object before :: stack
  | .commaOrObjectEnd, .object before :: stack =>
    top.Awaits stack ∧ (top.within stack).HoldsMembers before
  | .colon, .member before key :: stack =>
    top.Awaits stack ∧ (top.within stack).HoldsMembers before ∧ (top.within stack).TakesKey key
  | .nothing v, _ => top.Fits v
  | _, _ => False

/-- A value that is complete leaves everything as wanted if it fits its place. -/
theorem suits_complete_iff {v : Json} {stack : List Frame} (h : Nested stack) :
  top.Suits (.complete v stack) ↔ top.Awaits stack ∧ (top.within stack).Fits v
  := by
  cases stack with
  | nil => exact (true_and _).symm ▸ Iff.rfl
  | cons f stack =>
      cases f with
      | array before =>
          have hlength : before.reverse.length = before.length := List.length_reverse
          change _ ∧ (top.within stack).HoldsItems (v :: before).reverse ↔ _
          rw [List.reverse_cons, holdsItems_concat_iff, hlength]
          simp only [Awaits, within, and_assoc]
      | object before => exact absurd List.mem_cons_self (h before)
      | member before key =>
          change _ ∧ (top.within stack).HoldsMembers ((key, v) :: before) ↔ _
          rw [holdsMembers_cons_iff]
          simp only [Awaits, within, and_assoc]

theorem coherent_complete {v : Json} {stack : List Frame} (h : Nested stack) :
  (Builder.complete v stack).Coherent
  := by
  cases stack with
  | nil => rfl
  | cons f stack =>
      cases f with
      | array before => exact nested_array_iff.mp h
      | object before => exact absurd List.mem_cons_self (h before)
      | member before key => exact nested_member_iff.mp h

/-! ### What the builder does with a unit, and what is objected to it -/

/-- A unit that starts a value opens a container, or it is a value of its own. -/
theorem startValue_cases {stack : List Frame} {b : Builder}
    (h : Builder.startValue stack u = .ok b) :
  u.lexeme = .openArray ∧ b = ⟨.array [] :: stack, .itemOrEnd⟩
    ∨ u.lexeme = .openObject ∧ b = ⟨.object [] :: stack, .keyOrEnd⟩
    ∨ ∃ v, u.lexeme.start? = some v ∧ (∀ items, v ≠ .array items)
      ∧ (∀ members, v ≠ .object members) ∧ b = .complete v stack
  := by
  rw [Builder.startValue] at h
  cases hl : u.lexeme with
  | openArray =>
      rw [hl] at h
      exact .inl ⟨rfl, (Except.ok.inj h).symm⟩
  | openObject =>
      rw [hl] at h
      exact .inr (.inl ⟨rfl, (Except.ok.inj h).symm⟩)
  | null | bool _ | natural _ | numeral _ | text _ =>
      rw [hl] at h
      exact .inr (.inr ⟨_, rfl, nofun, nofun, (Except.ok.inj h).symm⟩)
  | closeArray | closeObject | comma | colon | stray | broken _ =>
      rw [hl] at h
      cases h

theorem takeKey_eq_ok {before : List (Text × Json)} {stack : List Frame} {b : Builder}
    (h : Builder.takeKey (.object before :: stack) u = .ok b) :
  ∃ t, u.lexeme = .text t ∧ b = ⟨.member before t :: stack, .colon⟩
  := by
  unfold Builder.takeKey at h
  cases hl : u.lexeme with
  | text t =>
      rw [hl] at h
      exact ⟨t, rfl, (Except.ok.inj h).symm⟩
  | broken f =>
      rw [hl] at h
      split at h
      · exact nomatch ‹Lexeme.broken f = .text _›
      all_goals cases h
  | _ =>
      rw [hl] at h
      cases h

theorem value?_eq_none_iff {v : Json} (h : u.lexeme.start? = some v) :
  w.value? u = none ↔ w.refusal? v = none
  := by
  have hvalue : w.value? u = (u.lexeme.start?.bind w.refusal?).map u.refused := by
    rw [value?]
    cases hl : u.lexeme with
    | broken f =>
        rw [hl] at h
        cases h
    | _ => rfl
  rw [hvalue, h, Option.bind_some, Option.map_eq_none_iff]

theorem core_of_object (w : Want) (h : w.refusal? (.object []) = none) :
  w.core = anything ∨ ∃ shape wants, w.core = record shape wants
  := by
  match w with
  | optional w => exact core_of_object w h
  | anything => exact .inl rfl
  | record shape wants => exact .inr ⟨shape, wants, rfl⟩
  | text | natural .. | Want.list _ => cases h

theorem key?_eq_none_iff {key : Text} (hobject : w.refusal? (.object []) = none)
    (h : u.lexeme = .text key) :
  w.key? u = none ↔ w.TakesKey key
  := by
  rw [key?, skips, TakesKey, h]
  rcases core_of_object w hobject with hcore | ⟨shape, wants, hcore⟩
  · simp [hcore]
  · simp [hcore, ← characters?_isNone_iff, Option.isSome_iff_ne_none]

section Innermost

variable {stack : List Frame}

theorem short?_eq_none_iff {before : List Json} :
  top.short? (.array before :: stack) u = none
    ↔ ∀ shape wants, (top.within stack).core = record shape wants → shape.needed ≤ before.length
  := by
  unfold short? inside
  cases (top.within stack).core <;> simp

theorem surplus?_eq_none_iff {before : List Json} :
  top.surplus? (.array before :: stack) u = none ↔ (top.within stack).Room (before.length + 1)
  := by
  unfold surplus? isFull inside Room
  cases (top.within stack).core with
  | record shape wants =>
      simp only [decide_eq_true_eq, ite_eq_right_iff, reduceCtorEq, imp_false, not_le,
        record.injEq, and_imp, forall_apply_eq_imp_iff, forall_eq']
      exact Nat.lt_iff_add_one_le
  | _ => simp

theorem lacking?_eq_none_iff {before : List (Text × Json)} :
  top.lacking? (.object before :: stack) u = none
    ↔ ∀ shape wants, (top.within stack).core = record shape wants →
      ∀ name ∈ shape.names.take shape.needed, occurrences name before ≠ 0
  := by
  unfold lacking? inside
  cases (top.within stack).core <;> simp

theorem repeated?_eq_none_iff {before : List (Text × Json)} {key : Text} {place : Nat} :
  top.repeated? (.member before key :: stack) place = none
    ↔ (top.within stack).New key before
  := by
  unfold repeated? inside New
  cases (top.within stack).core <;> simp

end Innermost

/-! ### One unit -/

theorem holdsItems_nil_iff :
  w.HoldsItems [] ↔ w.refusal? (.array []) = none
  := ⟨HoldsItems.array, fun h => ⟨h, fun _ _ _ => Nat.zero_le _, nofun⟩⟩

theorem holdsMembers_nil_iff :
  w.HoldsMembers [] ↔ w.refusal? (.object []) = none
  := ⟨HoldsMembers.object, fun h => ⟨h, nofun, fun _ _ _ _ _ => Nat.zero_le _, nofun⟩⟩

theorem suits_startValue_iff (top : Want) {stack : List Frame} {b : Builder}
    (hstack : Nested stack) (h : Builder.startValue stack u = .ok b) :
  b.Coherent ∧ (top.Suits b ↔ top.Awaits stack ∧ (top.within stack).value? u = none)
  := by
  rcases startValue_cases h with ⟨hu, rfl⟩ | ⟨hu, rfl⟩ | ⟨v, hv, harray, hobject, rfl⟩
  · refine ⟨hstack, and_congr_right fun _ => ?_⟩
    rw [value?_eq_none_iff (v := .array []) (by rw [hu]; rfl)]
    exact holdsItems_nil_iff
  · refine ⟨hstack, and_congr_right fun _ => ?_⟩
    rw [value?_eq_none_iff (v := .object []) (by rw [hu]; rfl)]
    exact holdsMembers_nil_iff
  · refine ⟨coherent_complete hstack, ?_⟩
    rw [suits_complete_iff hstack, fits_leaf_iff harray hobject, value?_eq_none_iff hv]

theorem suits_close_array_iff {before : List Json} {stack : List Frame} (hstack : Nested stack) :
  top.Suits (.close (.array before :: stack))
    ↔ (top.Awaits stack ∧ (top.within stack).HoldsItems before.reverse)
      ∧ top.short? (.array before :: stack) u = none
  := by
  rw [Builder.close, suits_complete_iff hstack, fits_array_iff, short?_eq_none_iff,
    List.length_reverse, and_assoc]

/-- The order of the members does not matter. -/
theorem holdsMembers_reverse_iff {members : List (Text × Json)} :
  w.HoldsMembers members.reverse ↔ w.HoldsMembers members
  := by
  have hoccurrences (name : String) : occurrences name members.reverse = occurrences name members :=
    List.countP_reverse
  constructor
  · rintro ⟨hobject, hkeys, honce, hfits⟩
    simp only [List.mem_reverse, hoccurrences] at hkeys honce hfits
    exact ⟨hobject, hkeys, honce, hfits⟩
  · rintro ⟨hobject, hkeys, honce, hfits⟩
    refine ⟨hobject, ?_, ?_, ?_⟩
    all_goals simpa only [List.mem_reverse, hoccurrences]

theorem suits_close_object_iff {before : List (Text × Json)} {stack : List Frame}
    (hstack : Nested stack) :
  top.Suits (.close (.object before :: stack))
    ↔ (top.Awaits stack ∧ (top.within stack).HoldsMembers before)
      ∧ top.lacking? (.object before :: stack) u = none
  := by
  rw [Builder.close, suits_complete_iff hstack, fits_object_iff, lacking?_eq_none_iff,
    holdsMembers_reverse_iff, and_assoc]
  simp only [occurrences, List.countP_reverse]

theorem suits_startItem_iff {before : List Json} {stack : List Frame} {b : Builder}
    (hstack : Nested stack) (h : Builder.startValue (.array before :: stack) u = .ok b) :
  b.Coherent
    ∧ (top.Suits b
      ↔ (top.Awaits stack ∧ (top.within stack).HoldsItems before.reverse)
        ∧ (top.surplus? (.array before :: stack) u
          <|> (top.within (.array before :: stack)).value? u) = none)
  := by
  obtain ⟨hb, hsuits⟩ := suits_startValue_iff top (nested_array_iff.mpr hstack) h
  refine ⟨hb, ?_⟩
  rw [hsuits, Option.orElse_eq_orElse, Option.orElse_eq_or, Option.or_eq_none_iff,
    surplus?_eq_none_iff]
  simp only [Awaits, and_assoc]

theorem suits_takeKey_iff {before : List (Text × Json)} {stack : List Frame} {b : Builder}
    (hstack : Nested stack) (h : Builder.takeKey (.object before :: stack) u = .ok b) :
  b.Coherent
    ∧ (top.Suits b
      ↔ (top.Awaits stack ∧ (top.within stack).HoldsMembers before)
        ∧ (top.within stack).key? u = none)
  := by
  obtain ⟨key, hu, rfl⟩ := takeKey_eq_ok h
  refine ⟨hstack, ?_⟩
  rw [and_assoc]
  refine and_congr_right fun _ => and_congr_right fun hmembers => ?_
  exact (key?_eq_none_iff hmembers.object hu).symm

/-- A unit that is taken inside an array. -/
theorem suits_step_array_iff (top : Want) {before : List Json} {stack : List Frame} {e : Expecting}
    {b : Builder} (hb : Builder.Coherent ⟨.array before :: stack, e⟩) (hvalue : e ≠ .value)
    (h : Builder.step ⟨.array before :: stack, e⟩ u = .ok b) :
  b.Coherent
    ∧ (top.Suits b
      ↔ top.Suits ⟨.array before :: stack, e⟩
        ∧ top.objection? ⟨.array before :: stack, e⟩ u = none)
  := by
  cases e with
  | itemOrEnd =>
      cases hu : u.lexeme with
      | closeArray =>
          simp only [Builder.step, objection?, hu] at h ⊢
          obtain rfl := Except.ok.inj h
          exact ⟨coherent_complete hb, suits_close_array_iff hb⟩
      | _ =>
          simp only [Builder.step, objection?, hu] at h ⊢
          exact suits_startItem_iff hb h
  | item =>
      cases hu : u.lexeme with
      | closeArray =>
          simp only [Builder.step, hu] at h
          cases h
      | _ =>
          simp only [Builder.step, objection?, hu] at h ⊢
          exact suits_startItem_iff hb h
  | commaOrArrayEnd =>
      cases hu : u.lexeme with
      | comma =>
          simp only [Builder.step, objection?, hu] at h ⊢
          obtain rfl := Except.ok.inj h
          exact ⟨hb, (and_iff_left trivial).symm⟩
      | closeArray =>
          simp only [Builder.step, objection?, hu] at h ⊢
          obtain rfl := Except.ok.inj h
          exact ⟨coherent_complete hb, suits_close_array_iff hb⟩
      | _ =>
          simp only [Builder.step, hu] at h
          cases h
  | value => exact absurd rfl hvalue
  | nothing v => cases hb
  | _ => exact hb.elim

/-- A unit that is taken between the members of an object. -/
theorem suits_step_object_iff (top : Want) {before : List (Text × Json)} {stack : List Frame}
    {e : Expecting} {b : Builder} (hb : Builder.Coherent ⟨.object before :: stack, e⟩)
    (hvalue : e ≠ .value) (h : Builder.step ⟨.object before :: stack, e⟩ u = .ok b) :
  b.Coherent
    ∧ (top.Suits b
      ↔ top.Suits ⟨.object before :: stack, e⟩
        ∧ top.objection? ⟨.object before :: stack, e⟩ u = none)
  := by
  cases e with
  | keyOrEnd =>
      cases hu : u.lexeme with
      | closeObject =>
          simp only [Builder.step, objection?, hu] at h ⊢
          obtain rfl := Except.ok.inj h
          exact ⟨coherent_complete hb, suits_close_object_iff hb⟩
      | _ =>
          simp only [Builder.step, objection?, hu] at h ⊢
          exact suits_takeKey_iff hb h
  | key =>
      cases hu : u.lexeme with
      | closeObject =>
          simp only [Builder.step, hu] at h
          cases h
      | _ =>
          simp only [Builder.step, objection?, hu] at h ⊢
          exact suits_takeKey_iff hb h
  | commaOrObjectEnd =>
      cases hu : u.lexeme with
      | comma =>
          simp only [Builder.step, objection?, hu] at h ⊢
          obtain rfl := Except.ok.inj h
          exact ⟨hb, (and_iff_left trivial).symm⟩
      | closeObject =>
          simp only [Builder.step, objection?, hu] at h ⊢
          obtain rfl := Except.ok.inj h
          exact ⟨coherent_complete hb, suits_close_object_iff hb⟩
      | _ =>
          simp only [Builder.step, hu] at h
          cases h
  | value => exact absurd rfl hvalue
  | nothing v => cases hb
  | _ => exact hb.elim

/-- A unit that is taken behind a key. -/
theorem suits_step_member_iff (top : Want) {before : List (Text × Json)} {key : Text}
    {stack : List Frame} {e : Expecting} {b : Builder}
    (hb : Builder.Coherent ⟨.member before key :: stack, e⟩) (hvalue : e ≠ .value)
    (h : Builder.step ⟨.member before key :: stack, e⟩ u = .ok b) :
  b.Coherent
    ∧ (top.Suits b
      ↔ top.Suits ⟨.member before key :: stack, e⟩
        ∧ top.objection? ⟨.member before key :: stack, e⟩ u = none)
  := by
  cases e with
  | colon =>
      cases hu : u.lexeme with
      | colon =>
          simp only [Builder.step, objection?, hu] at h ⊢
          obtain rfl := Except.ok.inj h
          refine ⟨nested_member_iff.mpr hb, ?_⟩
          rw [repeated?_eq_none_iff]
          simp only [Suits, Awaits, and_assoc]
      | _ =>
          simp only [Builder.step, hu] at h
          cases h
  | value => exact absurd rfl hvalue
  | nothing v => cases hb
  | _ => exact hb.elim

/-- A unit that the builder takes leaves everything as wanted if everything was before and nothing
is objected to the unit. -/
theorem suits_step_iff (top : Want) {b b' : Builder} (hb : b.Coherent) (h : b.step u = .ok b') :
  b'.Coherent ∧ (top.Suits b' ↔ top.Suits b ∧ top.objection? b u = none)
  := by
  obtain ⟨stack, e⟩ := b
  by_cases hvalue : e = .value
  · subst hvalue
    exact suits_startValue_iff top hb h
  match stack with
  | .array before :: stack => exact suits_step_array_iff top hb hvalue h
  | .object before :: stack => exact suits_step_object_iff top hb hvalue h
  | .member before key :: stack => exact suits_step_member_iff top hb hvalue h
  | [] =>
      cases e with
      | value => exact absurd rfl hvalue
      | nothing v => cases h
      | _ => exact hb.elim

/-! ### A whole document -/

theorem suits_end_iff {length : Nat} {b : Builder} (hb : b.Coherent) :
  top.Suits b ∧ top.end? length b = none ↔ ∃ v, b.finish length = .ok v ∧ top.Fits v
  := by
  obtain ⟨stack, e⟩ := b
  cases e with
  | nothing v => simp [Suits, end?, Builder.finish]
  | _ => simp [end?, Builder.finish]

/-- The units that come next complete a value that fits if what is there is as wanted and nothing
is found wrong with them. -/
theorem suits_first_iff {length : Nat} {us : List Placed} {b : Builder} (hb : b.Coherent) :
  top.Suits b ∧ top.first? length b us = none
    ↔ ∃ v, (us.foldlM Builder.step b >>= (·.finish length)) = .ok v ∧ top.Fits v
  := by
  induction us generalizing b with
  | nil => exact suits_end_iff hb
  | cons u us ih =>
      rw [first?, List.foldlM_cons, bind_assoc]
      cases hstep : b.step u with
      | error f => cases top.objection? b u <;> simp [bind, Except.bind]
      | ok b' =>
          obtain ⟨hb', hsuits⟩ := suits_step_iff top hb hstep
          change _ ↔ ∃ v, (us.foldlM Builder.step b' >>= (·.finish length)) = .ok v ∧ top.Fits v
          rw [← ih hb', hsuits, and_assoc]
          cases top.objection? b u <;> simp

/-- Nothing is wrong with a document exactly if it is the text of a value that fits. -/
theorem wrong?_eq_none_iff {document : List UInt8} :
  top.wrong? document = none ↔ ∃ v, Json.read document = .ok v ∧ top.Fits v
  := by
  refine Iff.trans ?_ (suits_first_iff nested_nil)
  exact (and_iff_right trivial).symm

end Want

end Json

open Json (Want)

/-- The reader of envelopes takes exactly the documents that nothing is wrong with. -/
theorem Envelope.wrong?_eq_none_iff {document : List UInt8} :
  want.wrong? document = none ↔ ∃ e, Json.decode ofJson document = .ok e
  := by
  rw [Want.wrong?_eq_none_iff]
  simp only [Json.decode_eq_ok_iff]
  constructor
  · rintro ⟨v, hv, hfits⟩
    obtain ⟨e, he⟩ := (describes_ofJson v).mpr hfits
    exact ⟨e, v, hv, he⟩
  · rintro ⟨e, v, hv, he⟩
    exact ⟨v, hv, (describes_ofJson v).mp ⟨e, he⟩⟩

/-- A status that is no string is pointed out with its value, behind it. -/
example :
  Envelope.want.complaint "\x7b\"status\":5\x7d".toUTF8.toList
    = "invalid type: integer \x605\x60, expected a string at line 1 column 11"
  := by
  decide +kernel

end LogCourier
