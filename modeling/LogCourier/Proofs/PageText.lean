import LogCourier.Proofs.JsonRevisions
import LogCourier.Proofs.Lookup
import LogCourier.QueryLog.Page

/-!
# Pages are read back

A page of the log is read back from every document of every revision of the record that holds it
(`QueryLogPage.reads_back`): its entries may have any strings in them and any numbers that fit, the
fields of the records may come in any order, those that are null may be left out, others with
names that are not known may come in, and the document may have white space around its parts and
other spellings of its texts.
-/

namespace LogCourier

open Json (Plain Revision)

theorem Json.plain_ofString? (o : Option String) :
  Plain (.ofString? o)
  := by
  cases o with
  | none => exact .null
  | some s => exact .string s

theorem Json.plain_ofNat? (o : Option Nat) :
  Plain (.ofNat? o)
  := by
  cases o with
  | none => exact .null
  | some n => exact .natural n

/-! ### Entries -/

namespace LogEntry

theorem plain_toJson (e : LogEntry) :
  e.toJson.Plain
  := by
  apply Json.Plain.record
  simp only [List.forall_mem_cons]
  exact ⟨.natural _, .string _, .string _, .string _, .string _, .string _, .string _, .string _,
    .string _, Json.plain_ofString? _, List.forall_mem_nil _⟩

/-- An entry is read from every revision of the record that holds it. -/
theorem ofJson_of_revision (e : LogEntry) {w : Json} (h : Revision e.toJson w) :
  ofJson w = .ok e
  := by
  have hnumber {field : Option Json} (h : Revision.OfField (.natural e.row.toNat) field) :
      Json.required "rowNumber" (Json.naturalBelow UInt64.size "u64") field = .ok e.row.toNat :=
    Json.required_of_revision h nofun fun _ => Json.naturalBelow_of_revision e.row.toNat_lt
  have htext {name s : String} {field : Option Json} (h : Revision.OfField (.ofString s) field) :
      Json.required name Json.string field = .ok s :=
    Json.required_of_revision h nofun fun _ => Json.string_of_revision
  obtain ⟨fs, hfields, hall⟩ : ∃ fs, Json.fields shape w = .ok fs ∧ List.Forall₂ _ _ fs :=
    Json.exists_fields_of_revision h rfl (by decide)
  -- there are ten fields, in the order of the record
  obtain _ | ⟨hrow, _ | ⟨htimestamp, _ | ⟨hclient, _ | ⟨hprotocol, _ | ⟨hresponse, _ | ⟨hrcode,
    _ | ⟨hqname, _ | ⟨hqtype, _ | ⟨hqclass, _ | ⟨hanswer, _ | _⟩⟩⟩⟩⟩⟩⟩⟩⟩⟩ := hall
  rw [ofJson]
  refine bind_eq_ok_iff.mpr ⟨_, hfields, ?_⟩
  refine bind_eq_ok_iff.mpr ⟨_, hnumber hrow, ?_⟩
  refine bind_eq_ok_iff.mpr ⟨_, htext htimestamp, ?_⟩
  refine bind_eq_ok_iff.mpr ⟨_, htext hclient, ?_⟩
  refine bind_eq_ok_iff.mpr ⟨_, htext hprotocol, ?_⟩
  refine bind_eq_ok_iff.mpr ⟨_, htext hresponse, ?_⟩
  refine bind_eq_ok_iff.mpr ⟨_, htext hrcode, ?_⟩
  refine bind_eq_ok_iff.mpr ⟨_, htext hqname, ?_⟩
  refine bind_eq_ok_iff.mpr ⟨_, htext hqtype, ?_⟩
  refine bind_eq_ok_iff.mpr ⟨_, htext hqclass, ?_⟩
  refine bind_eq_ok_iff.mpr ⟨_, Json.optional_string_of_revision hanswer, ?_⟩
  rw [UInt64.ofNat_toNat]
  rfl

end LogEntry

/-! ### Pages -/

namespace QueryLogPage

theorem plain_toJson (p : QueryLogPage) :
  p.toJson.Plain
  := by
  apply Json.Plain.record
  simp only [List.forall_mem_cons]
  refine ⟨Json.plain_ofNat? _, Json.plain_ofNat? _, Json.plain_ofNat? _, .array ?_,
    List.forall_mem_nil _⟩
  rw [List.forall_mem_map]
  intro e _
  exact e.plain_toJson

/-- A page is read from every revision of the record that holds it. -/
theorem ofJson_of_revision (p : QueryLogPage) {w : Json} (h : Revision p.toJson w) :
  ofJson w = .ok p
  := by
  obtain ⟨fs, hfields, hall⟩ : ∃ fs, Json.fields shape w = .ok fs ∧ List.Forall₂ _ _ fs :=
    Json.exists_fields_of_revision h rfl (by decide)
  obtain _ | ⟨hnumber, _ | ⟨hpages, _ | ⟨htotal, _ | ⟨hentries, _ | _⟩⟩⟩⟩ := hall
  have hlist {w : Json} (h : Revision (.array (p.entries.map LogEntry.toJson)) w) :
      Json.list LogEntry.ofJson w = .ok p.entries :=
    Json.list_of_revision h fun e _ => e.ofJson_of_revision
  rw [ofJson]
  refine bind_eq_ok_iff.mpr ⟨_, hfields, ?_⟩
  refine bind_eq_ok_iff.mpr
    ⟨_, Json.optional_natural_of_revision UInt32.toNat UInt32.toNat_lt hnumber, ?_⟩
  refine bind_eq_ok_iff.mpr
    ⟨_, Json.optional_natural_of_revision UInt32.toNat UInt32.toNat_lt hpages, ?_⟩
  refine bind_eq_ok_iff.mpr
    ⟨_, Json.optional_natural_of_revision UInt64.toNat UInt64.toNat_lt htotal, ?_⟩
  cases hentries with
  | dropped hnull => cases hnull
  | kept hw =>
      refine bind_eq_ok_iff.mpr ⟨_, hlist hw, ?_⟩
      simp only [Option.map_map, Function.comp_def, UInt32.ofNat_toNat, UInt64.ofNat_toNat,
        Option.map_id']
      rfl

/-- Decode a document, and encode the page again. -/
def reencode (document : List UInt8) : Except Json.Undecodable (List UInt8) :=
  (Json.decode ofJson document).map fun p => Utf8.bytes p.toJson.print

/-- **Pages are read back.** A page is read back from the document that is printed for it. It is
read back from every document of every revision of its record too: the members of the record, and of
the records of its entries, may come in any order, members that are null may be left out, and
members with other names and any values may come in, with white space wherever it may stand. So once
a document has been decoded and encoded, doing it again changes nothing. -/
theorem reads_back :
  (∀ p : QueryLogPage, Json.decode ofJson (Utf8.bytes p.toJson.print) = .ok p)
    ∧ (∀ (p : QueryLogPage) (w : Json) (document : List Char), Revision p.toJson w →
        Json.Written document w → Json.decode ofJson (Utf8.encode document) = .ok p)
    ∧ ∀ document printed, reencode document = .ok printed → reencode printed = .ok printed
  := by
  have hprinted : ∀ p : QueryLogPage, Json.decode ofJson (Utf8.bytes p.toJson.print) = .ok p :=
    fun p => Json.decode_print p.plain_toJson (p.ofJson_of_revision (.same _))
  refine ⟨hprinted, ?_, ?_⟩
  · intro p w document hrevision hwritten
    exact Json.decode_eq_ok_iff.mpr
      ⟨w, Json.read_of_written hwritten, p.ofJson_of_revision hrevision⟩
  · intro document printed h
    rw [reencode] at h
    cases hpage : Json.decode ofJson document with
    | error m =>
        rw [hpage] at h
        cases h
    | ok p =>
        rw [hpage] at h
        cases h
        rw [reencode, hprinted p]
        rfl

/-- A page with an entry that has the largest row number, and a client with a quote, a line feed and
a character beyond U+FFFF. -/
def samplePage : QueryLogPage where
  pageNumber := some 1
  totalPages := none
  totalEntries := some 1
  entries := [⟨18446744073709551615, "2024-01-01T00:00:00Z", "\"\n😀", "Udp", "Recursive", "NoError",
    "example.com", "A", "IN", none⟩]

/-- The members of the record of that entry, but for the one that is null. -/
def sampleMembers : List (String × Json) := [
  ("rowNumber", .natural 18446744073709551615),
  ("timestamp", .ofString "2024-01-01T00:00:00Z"),
  ("clientIpAddress", .ofString "\"\n😀"),
  ("protocol", .ofString "Udp"),
  ("responseType", .ofString "Recursive"),
  ("rcode", .ofString "NoError"),
  ("qname", .ofString "example.com"),
  ("qtype", .ofString "A"),
  ("qclass", .ofString "IN")]

/-- The record of that entry, as a source that has grown may have it. -/
def grownEntry : Json :=
  .record (sampleMembers.reverse ++ [("zone", .array [.null, .natural 1])])

/-- The record of that page, as a source that has grown may have it. -/
def grownPage : Json :=
  .record [("pageNumber", .natural 1), ("totalPages", .null), ("totalEntries", .natural 1),
    ("entries", .array [grownEntry]), ("hasMore", .bool false)]

theorem revision_grownEntry :
  Revision (.record (sampleMembers ++ [("answer", .null)])) grownEntry
  := by
  let kept : List (String × Json × Json) := sampleMembers.map fun m => (m.1, m.2, m.2)
  have hold : (sampleMembers ++ [("answer", Json.null)]).Perm
      (kept.map (fun k => (k.1, k.2.1)) ++ ["answer"].map fun name => (name, .null)) := .refl _
  have hnew : (sampleMembers.reverse ++ [("zone", Json.array [.null, .natural 1])]).Perm
      (kept.map (fun k => (k.1, k.2.2)) ++ [("zone", .array [.null, .natural 1])]) :=
    (List.reverse_perm sampleMembers).append_right _
  have hkept : ∀ k ∈ kept, Revision k.2.1 k.2.2 := by
    rw [List.forall_mem_map]
    exact fun m _ => .same m.2
  exact Json.revision_record hold hnew hkept (by decide)

theorem revision_grownPage :
  Revision samplePage.toJson grownPage
  := by
  let entry : Json := .record (sampleMembers ++ [("answer", .null)])
  have hitems : ∀ i ∈ [(entry, grownEntry)], Revision i.1 i.2 :=
    List.forall_mem_singleton.mpr revision_grownEntry
  let kept : List (String × Json × Json) := [
    ("pageNumber", .natural 1, .natural 1),
    ("totalPages", .null, .null),
    ("totalEntries", .natural 1, .natural 1),
    ("entries", .array [entry], .array [grownEntry])]
  let old : List (String × Json) := [("pageNumber", .natural 1), ("totalPages", .null),
    ("totalEntries", .natural 1), ("entries", .array [entry])]
  have hold : old.Perm (kept.map (fun k => (k.1, k.2.1)) ++ [].map fun name => (name, .null)) :=
    .refl _
  have hkept : ∀ k ∈ kept, Revision k.2.1 k.2.2 := by
    simp only [kept, List.forall_mem_cons]
    exact ⟨.same _, .same _, .same _, .array hitems, List.forall_mem_nil _⟩
  have hnew := List.Perm.refl (kept.map (fun k => (k.1, k.2.2)) ++ [("hasMore", .bool false)])
  exact Json.revision_record hold hnew hkept (by decide)

theorem plain_grownPage :
  grownPage.Plain
  := by
  have hmembers : ∀ m ∈ sampleMembers, m.2.Plain := by
    simp only [sampleMembers, List.forall_mem_cons]
    exact ⟨.natural _, .string _, .string _, .string _, .string _, .string _, .string _, .string _,
      .string _, List.forall_mem_nil _⟩
  have hentry : grownEntry.Plain := by
    apply Json.Plain.record
    rw [List.forall_mem_append, List.forall_mem_singleton]
    refine ⟨fun m hm => hmembers m (List.mem_reverse.mp hm), .array ?_⟩
    rw [List.forall_mem_cons, List.forall_mem_singleton]
    exact ⟨.null, .natural 1⟩
  apply Json.Plain.record
  simp only [List.forall_mem_cons]
  exact ⟨.natural _, .null, .natural _, .array (List.forall_mem_singleton.mpr hentry), .bool _,
    List.forall_mem_nil _⟩

theorem reads_back_of_grown :
  Revision samplePage.toJson grownPage
    ∧ Json.Written (['\n', ' '] ++ grownPage.chars ++ ['\t']) grownPage
    ∧ Json.decode ofJson (Utf8.encode (['\n', ' '] ++ grownPage.chars ++ ['\t'])) = .ok samplePage
  := by
  have hwritten : Json.Written (['\n', ' '] ++ grownPage.chars ++ ['\t']) grownPage :=
    .spaced (by simp [Json.IsSpaces]) plain_grownPage.written (by simp [Json.IsSpaces])
  obtain ⟨-, hreads, -⟩ := reads_back
  exact ⟨revision_grownPage, hwritten, hreads _ _ _ revision_grownPage hwritten⟩

end QueryLogPage

end LogCourier
