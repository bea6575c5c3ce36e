import LogCourier.Proofs.JsonRecords

/-!
# Trees in revision

A tree may be revised without those who read records from it taking notice
(`Json.Revision`): the members of an object may come in another order, some that are null may be
left out, and others with names that the object does not have may come in (`Json.Regrouped`). The
same may have been done to the items of an array and to the values of members, at any depth.

If a record has all the fields of a shape, then the fields of a revision of it are revisions of
its values, or absent where these are null (`Json.exists_fields_of_revision`). So strings, numbers,
and lists of what can be read in revision are read as before.
-/

namespace LogCourier.Json

/-- The first members are those that are kept and those that are dropped, which are null. The second
members are those that are kept, perhaps with other values, and extra ones with other names. Both
may come in any order. -/
structure Regrouped (old new : List (Text × Json)) (kept : List (Text × Json × Json))
    (dropped : List Text) (extra : List (String × Json)) : Prop where
  old_perm : old.Perm (kept.map (fun k => (k.1, k.2.1)) ++ dropped.map fun key => (key, .null))
  new_perm : new.Perm
    (kept.map (fun k => (k.1, k.2.2)) ++ extra.map fun m => (Text.ofString m.1, m.2))
  extra_ne : ∀ m ∈ extra, ∀ m' ∈ old, m'.1 ≠ Text.ofString m.1

/-- The second tree is a revision of the first. -/
inductive Revision : Json → Json → Prop
  | same (v : Json) : Revision v v
  | array {items : List (Json × Json)} (h : ∀ i ∈ items, Revision i.1 i.2) :
      Revision (.array (items.map Prod.fst)) (.array (items.map Prod.snd))
  | object {old new : List (Text × Json)} {kept : List (Text × Json × Json)} {dropped : List Text}
      {extra : List (String × Json)} (h : Regrouped old new kept dropped extra)
      (hkept : ∀ k ∈ kept, Revision k.2.1 k.2.2) : Revision (.object old) (.object new)

/-- What has become of a field with the given value: it is kept, in revision, or dropped if it was
null. -/
inductive Revision.OfField (v : Json) : Option Json → Prop
  | kept {w : Json} (h : Revision v w) : OfField v (some w)
  | dropped (h : v = .null) : OfField v none

/-! ### Members -/

namespace Regrouped

variable {old new : List (Text × Json)} {kept : List (Text × Json × Json)} {dropped : List Text}
  {extra : List (String × Json)}

theorem refl (members : List (Text × Json)) :
  Regrouped members members (members.map fun m => (m.1, m.2, m.2)) [] []
  := by
  constructor
  · simp [Function.comp_def]
  · simp [Function.comp_def]
  · exact List.forall_mem_nil _

theorem mem_old_of_kept (h : Regrouped old new kept dropped extra) {k : Text × Json × Json}
    (hk : k ∈ kept) :
  (k.1, k.2.1) ∈ old
  := h.old_perm.mem_iff.mpr (List.mem_append_left _ (List.mem_map_of_mem hk))

/-- A second member is one that is kept, or an extra one. -/
theorem mem_new_cases (h : Regrouped old new kept dropped extra) {m : Text × Json} (hm : m ∈ new) :
  (∃ k ∈ kept, (k.1, k.2.2) = m) ∨ ∃ x ∈ extra, (Text.ofString x.1, x.2) = m
  := by
  rw [h.new_perm.mem_iff, List.mem_append, List.mem_map, List.mem_map] at hm
  exact hm

/-- A name of a first member does not occur more often than before. -/
theorem occurrences_le (h : Regrouped old new kept dropped extra) {name : String}
    (hname : ∃ m ∈ old, m.1 = Text.ofString name) :
  occurrences name new ≤ occurrences name old
  := by
  obtain ⟨m, hm, hname⟩ := hname
  have hextra : (extra.map fun m => (Text.ofString m.1, m.2)).countP
      (fun m => m.1 == Text.ofString name) = 0 := by
    rw [List.countP_eq_zero, List.forall_mem_map]
    intro x hx
    rw [beq_iff_eq, ← hname]
    exact (h.extra_ne x hx m hm).symm
  rw [occurrences, occurrences, h.new_perm.countP_eq, h.old_perm.countP_eq, List.countP_append,
    List.countP_append, hextra, List.countP_map, List.countP_map]
  exact Nat.le_add_right _ _

/-- What becomes of a first member whose name no other one has. -/
theorem ofField (h : Regrouped old new kept dropped extra)
    (hkept : ∀ k ∈ kept, Revision k.2.1 k.2.2) {m : Text × Json} (hm : m ∈ old)
    (hunique : ∀ m' ∈ old, m'.1 = m.1 → m'.2 = m.2) :
  Revision.OfField m.2 (new.lookup m.1)
  := by
  cases hlookup : new.lookup m.1 with
  | some w =>
      obtain ⟨l₁, l₂, hnew, -⟩ := List.lookup_eq_some_iff.mp hlookup
      have hmem : (m.1, w) ∈ new := by
        rw [hnew]
        exact List.mem_append_right _ List.mem_cons_self
      rcases h.mem_new_cases hmem with ⟨k, hk, heq⟩ | ⟨x, hx, heq⟩
      · obtain ⟨hkey, rfl⟩ := Prod.mk.inj heq
        rw [← hunique _ (h.mem_old_of_kept hk) hkey]
        exact .kept (hkept k hk)
      · exact absurd (Prod.mk.inj heq).1.symm (h.extra_ne x hx m hm)
  | none =>
      have habsent : ∀ m' ∈ new, m'.1 ≠ m.1 := by
        intro m' hm'
        have hne := List.lookup_eq_none_iff.mp hlookup m' hm'
        rw [bne_iff_ne] at hne
        exact hne.symm
      rw [h.old_perm.mem_iff, List.mem_append, List.mem_map, List.mem_map] at hm
      rcases hm with ⟨k, hk, rfl⟩ | ⟨key, -, rfl⟩
      · -- a member that is kept can be looked up
        have hmem : (k.1, k.2.2) ∈ new :=
          h.new_perm.mem_iff.mpr (List.mem_append_left _ (List.mem_map_of_mem hk))
        exact absurd rfl (habsent (k.1, k.2.2) hmem)
      · exact .dropped rfl

end Regrouped

/-! ### Trees -/

namespace Revision

variable {v w : Json} {vs : List Json} {old : List (Text × Json)}

theorem eq_null (h : Revision .null w) :
  w = .null
  := by
  cases h
  rfl

theorem eq_natural {n : Nat} (h : Revision (.natural n) w) :
  w = .natural n
  := by
  cases h
  rfl

theorem eq_text {t : Text} (h : Revision (.text t) w) :
  w = .text t
  := by
  cases h
  rfl

theorem exists_items (h : Revision (.array vs) w) :
  ∃ ws, w = .array ws ∧ List.Forall₂ Revision vs ws
  := by
  cases h with
  | same => exact ⟨vs, rfl, List.forall₂_same.mpr fun v _ => .same v⟩
  | @array items h =>
      refine ⟨_, rfl, ?_⟩
      rw [List.forall₂_map_left_iff, List.forall₂_map_right_iff, List.forall₂_same]
      exact h

theorem exists_regrouped (h : Revision (.object old) w) :
  ∃ new kept dropped extra, w = .object new ∧ Regrouped old new kept dropped extra
    ∧ ∀ k ∈ kept, Revision k.2.1 k.2.2
  := by
  cases h with
  | same =>
      refine ⟨old, _, _, _, rfl, .refl old, ?_⟩
      rw [List.forall_mem_map]
      intro m _
      exact .same m.2
  | object h hkept => exact ⟨_, _, _, _, rfl, h, hkept⟩

end Revision

/-- A record with members in another order, without some that are null, and with extra ones. -/
theorem revision_record {old new extra : List (String × Json)} {kept : List (String × Json × Json)}
    {dropped : List String}
    (hold : old.Perm (kept.map (fun k => (k.1, k.2.1)) ++ dropped.map fun name => (name, .null)))
    (hnew : new.Perm (kept.map (fun k => (k.1, k.2.2)) ++ extra))
    (hkept : ∀ k ∈ kept, Revision k.2.1 k.2.2) (hextra : ∀ m ∈ extra, m.1 ∉ old.map Prod.fst) :
  Revision (.record old) (.record new)
  := by
  let key : String × Json → Text × Json := fun m => (.ofString m.1, m.2)
  have hregrouped : Regrouped (old.map key) (new.map key)
      (kept.map fun k => (Text.ofString k.1, k.2)) (dropped.map Text.ofString) extra := by
    constructor
    · have hperm := hold.map key
      simp only [List.map_append, List.map_map] at hperm ⊢
      exact hperm
    · have hperm := hnew.map key
      simp only [List.map_append, List.map_map] at hperm ⊢
      exact hperm
    · intro m hm
      rw [List.forall_mem_map]
      intro m' hm' hname
      apply hextra m hm
      rw [← ofString_injective hname]
      exact List.mem_map_of_mem hm'
  exact .object hregrouped (List.forall_mem_map.mpr hkept)

/-- The fields of a revision of a record are revisions of its values, or absent where these are
null. -/
theorem exists_fields_of_revision {shape : Shape} {members : List (String × Json)} {w : Json}
    (h : Revision (.record members) w) (hnames : members.map Prod.fst = shape.names)
    (hnodup : shape.names.Nodup) :
  ∃ fs, fields shape w = .ok fs ∧ List.Forall₂ (fun m f => Revision.OfField m.2 f) members fs
  := by
  obtain ⟨new, kept, dropped, extra, rfl, hregrouped, hkept⟩ := h.exists_regrouped
  have hmem : ∀ m ∈ members,
      (Text.ofString m.1, m.2) ∈ members.map fun m => (Text.ofString m.1, m.2) :=
    fun m hm => List.mem_map_of_mem hm
  refine ⟨_, fields_object_iff.mpr ⟨?_, ?_, rfl⟩, ?_⟩
  · intro m hm
    rcases hregrouped.mem_new_cases hm with ⟨k, hk, rfl⟩ | ⟨x, -, rfl⟩
    · obtain ⟨m, -, hkey⟩ := List.mem_map.mp (hregrouped.mem_old_of_kept hk)
      exact ⟨m.1, (Prod.mk.inj hkey).1.symm⟩
    · exact ⟨x.1, rfl⟩
  · intro name hname
    rw [← hnames, List.mem_map] at hname
    obtain ⟨m, hm, rfl⟩ := hname
    apply Nat.le_trans (hregrouped.occurrences_le ⟨_, hmem m hm, rfl⟩)
    rw [occurrences_record, hnames]
    exact List.nodup_iff_count_le_one.mp hnodup m.1
  · rw [← hnames, List.map_map, List.forall₂_map_right_iff, List.forall₂_same]
    intro m hm
    apply hregrouped.ofField hkept (hmem m hm)
    rw [List.forall_mem_map]
    intro m' hm' hkey
    rw [← hnames] at hnodup
    rw [List.inj_on_of_nodup_map hnodup hm' hm (ofString_injective hkey)]

/-! ### Reading from a revision -/

section Reading

variable {α : Type} {read : Json → Except Misfit α} {v w : Json} {field : Option Json}

theorem required_of_revision {name : String} {a : α} (h : Revision.OfField v field) (hv : v ≠ .null)
    (hread : ∀ w, Revision v w → read w = .ok a) :
  required name read field = .ok a
  := by
  cases h with
  | kept hw => exact hread _ hw
  | dropped hnull => exact absurd hnull hv

theorem string_of_revision {s : String} (h : Revision (.ofString s) w) :
  string w = .ok s
  := by
  rw [h.eq_text]
  exact string_ofString s

theorem naturalBelow_of_revision {limit n : Nat} {width : String} (hn : n < limit)
    (h : Revision (.natural n) w) :
  naturalBelow limit width w = .ok n
  := by
  rw [h.eq_natural, naturalBelow, if_pos hn]

/-- An optional field is read as before if its value is. -/
theorem optional_of_revision (write : α → Json) {o : Option α}
    (h : Revision.OfField ((o.map write).getD .null) field)
    (hwrite : ∀ a ∈ o, write a ≠ .null)
    (hread : ∀ a ∈ o, ∀ w, Revision (write a) w → w ≠ .null ∧ read w = .ok a) :
  optional read field = .ok o
  := by
  rw [optional_eq_ok_iff]
  cases o with
  | none =>
      cases h with
      | kept hw =>
          rw [hw.eq_null]
          exact .null
      | dropped => exact .absent
  | some a =>
      cases h with
      | kept hw =>
          obtain ⟨hne, hok⟩ := hread a rfl _ hw
          exact .value hne hok
      | dropped hnull => exact absurd hnull (hwrite a rfl)

theorem optional_string_of_revision {o : Option String}
    (h : Revision.OfField (.ofString? o) field) :
  optional string field = .ok o
  := by
  apply optional_of_revision Json.ofString
  · cases o <;> exact h
  · nofun
  · intro s _ w hw
    refine ⟨?_, string_of_revision hw⟩
    rw [hw.eq_text]
    nofun

theorem optional_natural_of_revision (value : α → Nat) {o : Option α} {limit : Nat} {width : String}
    (hvalue : ∀ a, value a < limit) (h : Revision.OfField (.ofNat? (o.map value)) field) :
  optional (naturalBelow limit width) field = .ok (o.map value)
  := by
  apply optional_of_revision Json.natural
  · cases o <;> exact h
  · nofun
  · intro n hn w hw
    obtain ⟨a, -, rfl⟩ := Option.mem_map.mp hn
    refine ⟨?_, naturalBelow_of_revision (hvalue a) hw⟩
    rw [hw.eq_natural]
    nofun

/-- A list is read as before if its elements are. -/
theorem list_of_revision {write : α → Json} {l : List α} (h : Revision (.array (l.map write)) w)
    (hread : ∀ a w, Revision (write a) w → read w = .ok a) :
  list read w = .ok l
  := by
  obtain ⟨ws, rfl, hitems⟩ := h.exists_items
  rw [List.forall₂_map_left_iff] at hitems
  exact mapM_eq_ok (hitems.imp hread).flip

end Reading

end LogCourier.Json
