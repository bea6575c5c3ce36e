import LogCourier.Adapter.Source
import LogCourier.Proofs.JsonRecords

/-!
# Values that are wanted

What it means that a value is of the kind that is wanted (`Json.Want.Fits`), and that a reader
takes exactly such values (`Json.Want.Describes`). The fields of a record are wanted if those that
are there fit and those that must be there are (`Json.Want.fits_record_iff`). So what is said to be
wanted of an envelope is what is read as one (`Envelope.describes_ofJson`).
-/

namespace LogCourier

namespace Json

variable {α : Type} {read : Json → Except Misfit α}

namespace Want

/-- The value is of the kind that is wanted. -/
inductive Fits : Want → Json → Prop
  | anything (v : Json) : Fits .anything v
  | text (s : String) : Fits .text (.ofString s)
  | natural {limit n : Nat} {width : String} (h : n < limit) :
      Fits (.natural limit width) (.natural n)
  | null (w : Want) : Fits (.optional w) .null
  | optional {w : Want} {v : Json} (h : Fits w v) : Fits (.optional w) v
  | list {w : Want} {items : List Json} (h : ∀ v ∈ items, Fits w v) : Fits (.list w) (.array items)
  | array {shape : Shape} {wants : List Want} {items : List Json}
      (hneeded : shape.needed ≤ items.length) (hroom : items.length ≤ shape.names.length)
      (h : ∀ i v, items[i]? = some v → Fits ((record shape wants).item i) v) :
      Fits (.record shape wants) (.array items)
  | object {shape : Shape} {wants : List Want} {members : List (Text × Json)}
      (htext : ∀ m ∈ members, ∃ s, m.1 = .ofString s)
      (honce : ∀ name ∈ shape.names, occurrences name members ≤ 1)
      (hneeded : ∀ name ∈ shape.names.take shape.needed, occurrences name members ≠ 0)
      (h : ∀ m ∈ members, Fits ((record shape wants).member m.1) m.2) :
      Fits (.record shape wants) (.object members)

/-- The reader takes exactly the values that are wanted. -/
def Describes (w : Want) (read : Json → Except Misfit α) : Prop :=
  ∀ v, (∃ a, read v = .ok a) ↔ w.Fits v

/-! ### Strings, numbers and lists -/

theorem describes_string :
  Describes .text string
  := by
  intro v
  constructor
  · rintro ⟨s, h⟩
    cases v with
    | text t =>
        rw [string] at h
        cases ht : Utf8.text? t with
        | none =>
            rw [ht] at h
            cases h
        | some s =>
            rw [Utf8.text?_eq_some_iff.mp ht]
            exact .text s
    | _ => cases h
  · rintro (_ | s)
    exact ⟨s, string_ofString s⟩

theorem describes_naturalBelow (limit : Nat) (width : String) :
  Describes (.natural limit width) (naturalBelow limit width)
  := by
  intro v
  constructor
  · rintro ⟨n, h⟩
    cases v with
    | natural m =>
        rw [naturalBelow] at h
        by_cases hm : m < limit
        · exact .natural hm
        · rw [if_neg hm] at h
          cases h
    | _ => cases h
  · rintro (_ | _ | h)
    exact ⟨_, if_pos h⟩

/-- A list is read if each element is. -/
theorem exists_mapM_iff {β ε : Type} {f : β → Except ε α} {bs : List β} :
  (∃ l, bs.mapM f = .ok l) ↔ ∀ b ∈ bs, ∃ a, f b = .ok a
  := by
  induction bs with
  | nil => exact ⟨nofun, fun _ => ⟨[], rfl⟩⟩
  | cons b bs ih =>
      rw [List.forall_mem_cons, ← ih, List.mapM_cons]
      cases f b with
      | error e => simp [bind, Except.bind]
      | ok a => cases bs.mapM f <;> simp [bind, Except.bind, pure, Except.pure]

theorem Describes.list {w : Want} (h : w.Describes read) :
  Describes (.list w) (Json.list read)
  := by
  intro v
  constructor
  · rintro ⟨l, hl⟩
    cases v with
    | array items =>
        apply Fits.list
        intro v hv
        exact (h v).mp (exists_mapM_iff.mp ⟨l, hl⟩ v hv)
    | _ => cases hl
  · rintro (_ | _ | _ | _ | _ | hitems)
    exact exists_mapM_iff.mpr fun v hv => (h v).mpr (hitems v hv)

/-! ### Records -/

/-- A field with its place in a record is as wanted: it fits, or it may be absent. -/
def FitsField (shape : Shape) (w : Want × Nat) : Option Json → Prop
  | none => shape.needed ≤ w.2
  | some v => w.1.Fits v

/-- A reader that goes on with what another one has read reads something if both do. -/
theorem exists_bind_iff {β ε : Type} {x : Except ε α} {f : α → Except ε β} :
  (∃ b, (x >>= f) = .ok b) ↔ ∃ a, x = .ok a ∧ ∃ b, f a = .ok b
  := by
  cases x <;> simp [bind, Except.bind]

theorem exists_pure {ε : Type} (a : α) :
  (∃ b, (pure a : Except ε α) = .ok b) ↔ True
  := ⟨fun _ => trivial, fun _ => ⟨a, rfl⟩⟩

section Record

variable {shape : Shape} {wants : List Want}

theorem member_record {name : String} {i : Nat} (hnodup : shape.names.Nodup)
    (hname : shape.names[i]? = some name) :
  (record shape wants).member (.ofString name) = wants.getD i .anything
  := by
  obtain ⟨hi, rfl⟩ := List.getElem?_eq_some_iff.mp hname
  have hi' : i < (shape.names.map Text.ofString).length := by rwa [List.length_map]
  have hindex := (hnodup.map fun _ _ => ofString_injective).idxOf_getElem i hi'
  rw [List.getElem_map] at hindex
  change wants.getD ((shape.names.map Text.ofString).idxOf _) .anything = _
  rw [hindex]

/-- Of a member that is no field nothing is wanted. -/
theorem member_record_of_notMem {name : String} (hlength : wants.length ≤ shape.names.length)
    (hname : name ∉ shape.names) :
  (record shape wants).member (.ofString name) = .anything
  := by
  have hkey : Text.ofString name ∉ shape.names.map Text.ofString := by
    rintro hmem
    obtain ⟨other, hother, heq⟩ := List.mem_map.mp hmem
    rw [ofString_injective heq] at hother
    exact hname hother
  change wants.getD ((shape.names.map Text.ofString).idxOf _) .anything = _
  rw [List.idxOf_of_notMem hkey, List.length_map, List.getD_eq_getElem?_getD,
    List.getElem?_eq_none hlength, Option.getD_none]

/-- The fields of a record are as wanted, said place by place. -/
theorem forall₂_fitsField_iff {fs : List (Option Json)} :
  List.Forall₂ (FitsField shape) wants.zipIdx fs
    ↔ fs.length = wants.length
      ∧ ∀ i f, fs[i]? = some f → FitsField shape (wants.getD i .anything, i) f
  := by
  rw [List.forall₂_iff_get]
  have hcount : wants.zipIdx.length = wants.length := List.length_zipIdx
  constructor
  · rintro ⟨hlength, h⟩
    refine ⟨by omega, ?_⟩
    intro i f hf
    obtain ⟨hi, rfl⟩ := List.getElem?_eq_some_iff.mp hf
    have hfits := h i (by omega) hi
    simp only [List.get_eq_getElem, List.getElem_zipIdx, Nat.zero_add] at hfits
    rwa [List.getD_eq_getElem?_getD, List.getElem?_eq_getElem (by omega), Option.getD_some]
  · rintro ⟨hlength, h⟩
    refine ⟨by omega, ?_⟩
    intro i hi hi'
    have hfits := h i _ (List.getElem?_eq_getElem hi')
    rw [List.getD_eq_getElem?_getD, List.getElem?_eq_getElem (by omega), Option.getD_some] at hfits
    simpa only [List.get_eq_getElem, List.getElem_zipIdx, Nat.zero_add] using hfits

theorem fits_record_array_iff {items : List Json} (hlength : wants.length = shape.names.length)
    (hneeded : shape.needed ≤ shape.names.length) :
  (record shape wants).Fits (.array items)
    ↔ ∃ fs, fields shape (.array items) = .ok fs
      ∧ List.Forall₂ (FitsField shape) wants.zipIdx fs
  := by
  constructor
  · rintro (_ | _ | _ | _ | _ | _ | ⟨hleast, hroom, h⟩)
    refine ⟨_, if_pos hroom, forall₂_fitsField_iff.mpr ⟨?_, ?_⟩⟩
    · simp only [List.length_append, List.length_map, List.length_replicate]
      omega
    · intro i f hf
      by_cases hi : i < items.length
      · rw [List.getElem?_append_left (by rwa [List.length_map]), List.getElem?_map] at hf
        obtain ⟨v, hv, rfl⟩ := Option.map_eq_some_iff.mp hf
        exact h i v hv
      · rw [List.getElem?_append_right (by rw [List.length_map]; omega)] at hf
        obtain rfl := List.eq_of_mem_replicate (List.mem_of_getElem? hf)
        exact Nat.le_trans hleast (Nat.le_of_not_lt hi)
  · rintro ⟨fs, hfs, hfits⟩
    rw [fields] at hfs
    by_cases hroom : items.length ≤ shape.names.length
    · rw [if_pos hroom] at hfs
      obtain rfl := Except.ok.inj hfs
      obtain ⟨-, h⟩ := forall₂_fitsField_iff.mp hfits
      apply Fits.array _ hroom
      · intro i v hv
        apply h i (some v)
        rw [List.getElem?_append_left, List.getElem?_map, hv, Option.map_some]
        rw [List.length_map]
        exact (List.getElem?_eq_some_iff.mp hv).1
      · by_contra hshort
        have habsent := h items.length none ?_
        · exact hshort habsent
        · rw [List.getElem?_append_right (by rw [List.length_map]), List.length_map,
            Nat.sub_self, List.getElem?_replicate, if_pos (by omega)]
    · rw [if_neg hroom] at hfs
      cases hfs

theorem fits_record_object_iff {members : List (Text × Json)} (hnodup : shape.names.Nodup)
    (hlength : wants.length = shape.names.length) :
  (record shape wants).Fits (.object members)
    ↔ ∃ fs, fields shape (.object members) = .ok fs
      ∧ List.Forall₂ (FitsField shape) wants.zipIdx fs
  := by
  simp only [fields_object_iff]
  constructor
  · rintro (_ | _ | _ | _ | _ | _ | _ | ⟨htext, honce, hneeded, h⟩)
    refine ⟨_, ⟨htext, honce, rfl⟩, forall₂_fitsField_iff.mpr ⟨?_, ?_⟩⟩
    · rw [List.length_map, hlength]
    · intro i f hf
      rw [List.getElem?_map] at hf
      obtain ⟨name, hname, rfl⟩ := Option.map_eq_some_iff.mp hf
      have hmem := List.mem_of_getElem? hname
      cases hvalue : member? name members with
      | none =>
          by_contra hi
          apply hneeded name _ (member?_eq_none_iff.mp hvalue)
          rw [FitsField, Nat.not_le] at hi
          apply List.mem_of_getElem? (i := i)
          rw [List.getElem?_take_of_lt hi, hname]
      | some v =>
          have hv := h _ ((member?_eq_some_iff (honce name hmem)).mp hvalue)
          rwa [member_record hnodup hname] at hv
  · rintro ⟨fs, ⟨htext, honce, rfl⟩, hfits⟩
    obtain ⟨-, h⟩ := forall₂_fitsField_iff.mp hfits
    apply Fits.object htext honce
    · intro name hname hzero
      obtain ⟨i, hi⟩ := List.getElem?_of_mem hname
      have hlt : i < shape.needed := by
        by_contra hge
        rw [List.getElem?_take, if_neg hge] at hi
        cases hi
      rw [List.getElem?_take_of_lt hlt] at hi
      have habsent := h i (member? name members) (by rw [List.getElem?_map, hi, Option.map_some])
      rw [member?_eq_none_iff.mpr hzero] at habsent
      exact absurd habsent (Nat.not_le_of_lt hlt)
    · intro m hm
      obtain ⟨key, v⟩ := m
      obtain ⟨name, rfl⟩ := htext _ hm
      by_cases hname : name ∈ shape.names
      · obtain ⟨i, hi⟩ := List.getElem?_of_mem hname
        have hv := h i (member? name members) (by rw [List.getElem?_map, hi, Option.map_some])
        rw [(member?_eq_some_iff (honce name hname)).mpr hm] at hv
        rwa [member_record hnodup hi]
      · rw [member_record_of_notMem hlength.le hname]
        apply Fits.anything

/-- A value is a record that is wanted if it has the fields and each of them is as wanted. -/
theorem fits_record_iff {v : Json} (hnodup : shape.names.Nodup)
    (hlength : wants.length = shape.names.length) (hneeded : shape.needed ≤ shape.names.length) :
  (record shape wants).Fits v
    ↔ ∃ fs, fields shape v = .ok fs ∧ List.Forall₂ (FitsField shape) wants.zipIdx fs
  := by
  cases v with
  | array items => exact fits_record_array_iff hlength hneeded
  | object members => exact fits_record_object_iff hnodup hlength
  | _ =>
      constructor
      · nofun
      · rintro ⟨fs, hfs, -⟩
        cases hfs

theorem length_of_fields {v : Json} {fs : List (Option Json)} (h : fields shape v = .ok fs) :
  fs.length = shape.names.length
  := by
  cases v with
  | array items =>
      rw [fields] at h
      split at h
      · rw [← Except.ok.inj h, List.length_append, List.length_map, List.length_replicate]
        omega
      · cases h
  | object members => rw [← (fields_object_iff.mp h).2.2, List.length_map]
  | _ => cases h

/-- A reader that goes on with the fields of a record takes the records that are wanted if it
takes the fields that are. -/
theorem describes_record {k : List (Option Json) → Except Misfit α} (hnodup : shape.names.Nodup)
    (hlength : wants.length = shape.names.length) (hneeded : shape.needed ≤ shape.names.length)
    (h : ∀ fs, fs.length = wants.length →
      ((∃ a, k fs = .ok a) ↔ List.Forall₂ (FitsField shape) wants.zipIdx fs)) :
  Describes (.record shape wants) (fun v => fields shape v >>= k)
  := by
  intro v
  rw [fits_record_iff hnodup hlength hneeded]
  refine exists_bind_iff.trans (exists_congr fun fs => and_congr_right fun hfs => ?_)
  apply h fs
  rw [length_of_fields hfs, hlength]

theorem exists_required_iff {w : Want} {i : Nat} {name : String} {f : Option Json}
    (h : w.Describes read) (hi : i < shape.needed) :
  (∃ a, required name read f = .ok a) ↔ FitsField shape (w, i) f
  := by
  cases f with
  | none => exact ⟨nofun, fun hle => absurd hle (Nat.not_le_of_lt hi)⟩
  | some v => exact h v

theorem exists_optional_iff {w : Want} {i : Nat} {f : Option Json} (h : w.Describes read)
    (hi : shape.needed ≤ i) :
  (∃ a, Json.optional read f = .ok a) ↔ FitsField shape (.optional w, i) f
  := by
  simp only [optional_eq_ok_iff]
  cases f with
  | none => exact ⟨fun _ => hi, fun _ => ⟨_, .absent⟩⟩
  | some v =>
      constructor
      · rintro ⟨a, _ | _ | ⟨-, ha⟩⟩
        · exact .null w
        · exact .optional ((h v).mp ⟨_, ha⟩)
      · rintro (_ | _ | _ | _ | hfits)
        · exact ⟨_, .null⟩
        · by_cases hv : v = .null
          · subst hv
            exact ⟨_, .null⟩
          · obtain ⟨a, ha⟩ := (h v).mpr hfits
            exact ⟨_, .value hv ha⟩

theorem exists_defaulted_iff {w : Want} {i : Nat} {value : α} {f : Option Json}
    (h : w.Describes read) (hi : shape.needed ≤ i) :
  (∃ a, defaulted value read f = .ok a) ↔ FitsField shape (w, i) f
  := by
  cases f with
  | none => exact ⟨fun _ => hi, fun _ => ⟨_, rfl⟩⟩
  | some v => exact h v

end Record

end Want

end Json

open Json (Want)
open Json.Want

/-! ### The records of the source -/

theorem LogEntry.describes_ofJson :
  Want.Describes want ofJson
  := by
  apply describes_record (by decide) rfl (by decide)
  intro fs hlength
  match fs, hlength with
  | [row, timestamp, clientIp, protocol, responseType, rcode, qname, qtype, qclass, answer], _ =>
    simp only [exists_bind_iff, exists_pure, and_true, exists_and_right, List.replicate,
      List.cons_append, List.nil_append, List.zipIdx_cons, List.zipIdx_nil, List.forall₂_cons,
      List.Forall₂.nil]
    refine and_congr (exists_required_iff (describes_naturalBelow _ _) (by decide)) ?_
    iterate 8 refine and_congr (exists_required_iff describes_string (by decide)) ?_
    exact exists_optional_iff describes_string (by decide)

theorem QueryLogPage.describes_ofJson :
  Want.Describes want ofJson
  := by
  apply describes_record (by decide) rfl (by decide)
  intro fs hlength
  match fs, hlength with
  | [pageNumber, totalPages, totalEntries, entries], _ =>
    simp only [exists_bind_iff, exists_pure, and_true, exists_and_right, List.zipIdx_cons,
      List.zipIdx_nil, List.forall₂_cons, List.Forall₂.nil]
    iterate 3
      refine and_congr (exists_optional_iff (describes_naturalBelow _ _) (by decide)) ?_
    exact exists_defaulted_iff LogEntry.describes_ofJson.list (by decide)

/-- What is wanted of an envelope is what is read as one. -/
theorem Envelope.describes_ofJson :
  Want.Describes want ofJson
  := by
  apply describes_record (by decide) rfl (by decide)
  intro fs hlength
  match fs, hlength with
  | [status, errorMessage, response], _ =>
    simp only [exists_bind_iff, exists_pure, and_true, exists_and_right, List.zipIdx_cons,
      List.zipIdx_nil, List.forall₂_cons, List.Forall₂.nil]
    refine and_congr (exists_required_iff describes_string (by decide)) ?_
    refine and_congr (exists_optional_iff describes_string (by decide)) ?_
    exact exists_optional_iff QueryLogPage.describes_ofJson (by decide)

end LogCourier
