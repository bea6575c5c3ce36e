import LogCourier.Adapter.Sink
import LogCourier.Proofs.Grouping
import LogCourier.Proofs.JsonRecords
import LogCourier.Proofs.Rehearsals

/-!
# What goes on the wire

A push request is read back from the body that is sent for it (`PushRequest.decode_body`): labels
come back in their order, and texts as they were, whatever characters they have. The line of an
entry is a document of its own, from which what was asked and answered is read back
(`Formatting.read_line`).

So whatever the entries are and whatever names are looked up, the log store can read the request
and the lines in it, and each line stands next to the time of its entry (`Formatting.body_decodes`).
-/

namespace LogCourier

open Dialogue

/-! ### Labels -/

namespace LabelSet

/-- A key after all others is put at the end. -/
theorem insertPair_eq_append {key value : String} {l : List (String × String)}
    (h : ∀ p ∈ l, p.1 < key) :
  insertPair key value l = l ++ [(key, value)]
  := by
  induction l with
  | nil => rfl
  | cons p l ih =>
      rw [List.forall_mem_cons] at h
      obtain ⟨k, v⟩ := p
      have hlt : ¬ key < k := fun hlt => String.lt_irrefl _ (String.lt_trans hlt h.1)
      have hne : key ≠ k := by
        rintro rfl
        exact String.lt_irrefl _ h.1
      rw [insertPair, if_neg hlt, if_neg hne, ih h.2, List.cons_append]

/-- A set of labels is the set of its labels. -/
theorem ofList_pairs (l : LabelSet) :
  ofList l.pairs = l
  := by
  have hfold : ∀ (pairs : List (String × String)) (s : LabelSet),
      (s.pairs ++ pairs).Pairwise (·.1 < ·.1) →
      (pairs.foldl (fun l p => l.insert p.1 p.2) s).pairs = s.pairs ++ pairs := by
    intro pairs
    induction pairs with
    | nil =>
        intro s _
        exact (List.append_nil s.pairs).symm
    | cons p pairs ih =>
        intro s hs
        have hinsert : (s.insert p.1 p.2).pairs = s.pairs ++ [p] := by
          apply insertPair_eq_append
          intro q hq
          exact (List.pairwise_append.mp hs).2.2 q hq p List.mem_cons_self
        rw [List.foldl_cons, ih, hinsert, List.append_assoc, List.singleton_append]
        rwa [hinsert, List.append_assoc]
  have hpairs : (ofList l.pairs).pairs = l.pairs := hfold l.pairs empty l.sorted
  obtain ⟨pairs, sorted⟩ := l
  generalize ofList pairs = l at hpairs
  obtain ⟨pairs', sorted'⟩ := l
  obtain rfl : pairs' = pairs := hpairs
  rfl

theorem ofJson_toJson (l : LabelSet) :
  ofJson l.toJson = .ok l
  := by
  let write : String × String → Json.Text × Json := fun p => (.ofString p.1, .ofString p.2)
  let read : Json.Text × Json → Except Json.Misfit (String × String) :=
    fun m => do pure (← Json.string (.text m.1), ← Json.string m.2)
  have hmembers : (l.pairs.map write).mapM read = .ok l.pairs := by
    apply Json.mapM_map_eq_ok
    intro p _
    change (do pure (← Json.string (.ofString p.1), ← Json.string (.ofString p.2))) = _
    rw [Json.string_ofString, Json.string_ofString]
    rfl
  rw [toJson, Json.record, List.map_map, ofJson]
  change (do pure (ofList (← (l.pairs.map write).mapM read))) = _
  rw [hmembers]
  exact congrArg Except.ok l.ofList_pairs

theorem plain_toJson (l : LabelSet) :
  l.toJson.Plain
  := by
  apply Json.Plain.record
  intro m hm
  obtain ⟨p, -, rfl⟩ := List.mem_map.mp hm
  apply Json.Plain.string

end LabelSet

/-! ### Requests -/

namespace LogStream

theorem ofJson_toJson (s : LogStream) :
  ofJson s.toJson = .ok s
  := by
  have hnames : ["stream", "values"].Nodup := by decide
  let write : String × String → Json := fun v => .array [.ofString v.1, .ofString v.2]
  have hvalues : Json.list valueOfJson (.array (s.values.map write)) = .ok s.values := by
    apply Json.list_array
    intro v _
    change (do pure (← Json.string (.ofString v.1), ← Json.string (.ofString v.2))) = _
    rw [Json.string_ofString, Json.string_ofString]
    rfl
  have hfields : Json.fields shape s.toJson
      = .ok [some s.labels.toJson, some (.array (s.values.map write))] :=
    Json.fields_record hnames
  rw [ofJson, hfields]
  change (do
    let labels ← LabelSet.ofJson s.labels.toJson
    let values ← Json.list valueOfJson (.array (s.values.map write))
    return LogStream.mk labels values) = _
  rw [LabelSet.ofJson_toJson, hvalues]
  rfl

theorem plain_toJson (s : LogStream) :
  s.toJson.Plain
  := by
  have hvalue : ∀ v : String × String, (Json.array [.ofString v.1, .ofString v.2]).Plain := by
    intro v
    apply Json.Plain.array
    rw [List.forall_mem_cons, List.forall_mem_singleton]
    exact ⟨.string v.1, .string v.2⟩
  apply Json.Plain.record
  rw [List.forall_mem_cons, List.forall_mem_singleton]
  exact ⟨s.labels.plain_toJson, .array (List.forall_mem_map.mpr fun v _ => hvalue v)⟩

end LogStream

namespace PushRequest

theorem ofJson_toJson (r : PushRequest) :
  ofJson r.toJson = .ok r
  := by
  have hstreams : Json.list LogStream.ofJson (.array (r.streams.map LogStream.toJson))
      = .ok r.streams := Json.list_array fun s _ => s.ofJson_toJson
  have hfields : Json.fields shape r.toJson
      = .ok [some (.array (r.streams.map LogStream.toJson))] :=
    Json.fields_record (List.nodup_singleton "streams")
  rw [ofJson, hfields]
  change (do
    return PushRequest.mk
      (← Json.list LogStream.ofJson (.array (r.streams.map LogStream.toJson)))) = _
  rw [hstreams]
  rfl

theorem plain_toJson (r : PushRequest) :
  r.toJson.Plain
  := by
  apply Json.Plain.record
  rw [List.forall_mem_singleton]
  exact .array (List.forall_mem_map.mpr fun s _ => s.plain_toJson)

/-- A request is read back from its body. -/
theorem decode_body (r : PushRequest) :
  Json.decode ofJson (Utf8.bytes r.body) = .ok r
  := Json.decode_print r.plain_toJson r.ofJson_toJson

end PushRequest

/-! ### Requests that are sent -/

namespace SinkAdapter

theorem body_of_request? {s : SinkSettings} {r : PushRequest} {q : Http.Request}
    (h : request? s r = some q) :
  q.body = Utf8.bytes r.body
  := by
  rw [request?] at h
  cases hurl : Http.Url.parse? (endpoint s) with
  | none =>
      rw [hurl] at h
      cases h
  | some url =>
      rw [hurl] at h
      cases h
      rfl

/-- Whatever is sent to hand over a request has the body of the request. -/
theorem body_of_yields_push {s : SinkSettings} {r : PushRequest}
    {t : Dialogue.Transcript Device.Answer} {o : Except Failure Unit}
    (h : (push s r).Yields t o) {q : Http.Request} {x : Http.Outcome} (hx : ⟨.http q, x⟩ ∈ t) :
  q.body = Utf8.bytes r.body
  := by
  rw [push] at h
  obtain ⟨t₁, outcome, t₂, rfl, hsend, hnote⟩ := yields_bind.mp h
  rcases List.mem_append.mp hx with hx | hx
  · cases hrequest : request? s r with
    | none =>
        rw [hrequest] at hsend
        obtain ⟨rfl, -⟩ := yields_pure.mp hsend
        cases hx
    | some request =>
        rw [hrequest] at hsend
        obtain rfl := yields_question.mp hsend
        cases List.mem_singleton.mp hx
        exact body_of_request? hrequest
  · -- what follows the request is a note at most
    cases hread : readOutcome s outcome with
    | error e =>
        rw [hread] at hnote
        obtain ⟨rfl, -⟩ := yields_pure.mp hnote
        cases hx
    | ok u =>
        rw [hread] at hnote
        obtain ⟨y, t', rfl, hpure⟩ := yields_question_bind.mp hnote
        obtain ⟨rfl, -⟩ := yields_pure.mp hpure
        cases List.mem_singleton.mp hx

end SinkAdapter

namespace Formatting

/-- The line of an entry is a document from which what was asked and answered is read back. -/
theorem read_line (e : LogEntry) :
  Json.read (Utf8.bytes (line e))
    = .ok (.record [
        ("domain", .ofString e.qname),
        ("answer", .ofString? e.answer),
        ("qclass", .ofString e.qclass)])
  := by
  have hanswer : (Json.ofString? e.answer).Plain := by
    cases e.answer with
    | none => exact .null
    | some a => exact .string a
  apply Json.read_print
  apply Json.Plain.record
  rw [List.forall_mem_cons, List.forall_mem_cons, List.forall_mem_singleton]
  exact ⟨.string e.qname, hanswer, .string e.qclass⟩

variable {job : String} {cache cache' : HostnameCache} {entries : List LogEntry}
  {t : Work.Transcript} {request : PushRequest}

/-- What goes on the wire for some entries can be read back, whatever characters they have and
whatever names are looked up: every body that is sent decodes to the request, and every value in
it is the time of an entry with a line that decodes to what this entry asked and was answered. -/
theorem body_decodes (h : (format job cache entries).Yields t (request, cache'))
    (s : SinkSettings) :
  (∀ t' o, (SinkAdapter.push s request).Yields t' o → ∀ q x, ⟨.http q, x⟩ ∈ t' →
      Json.decode PushRequest.ofJson q.body = .ok request)
    ∧ ∀ stream ∈ request.streams, ∀ v ∈ stream.values, ∃ e ∈ entries, ∃ n,
        e.nanos = .ok n ∧ v.1 = Decimal.intText n
          ∧ Json.read (Utf8.bytes v.2) = .ok (.record [
              ("domain", .ofString e.qname),
              ("answer", .ofString? e.answer),
              ("qclass", .ofString e.qclass)])
  := by
  constructor
  · intro t' o ho q x hx
    rw [SinkAdapter.body_of_yields_push ho hx]
    apply PushRequest.decode_body
  · obtain ⟨ns, hns, rfl⟩ := exists_named_of_yields_format h
    intro stream hstream v hv
    obtain ⟨n, hn, rfl⟩ := exists_named_of_mem_values hstream hv
    exact ⟨n.entry, hns.mem hn, n.nanos, n.readable, rfl, read_line n.entry⟩

/-- An entry that asks for a name with a quote, a backslash, a control character and a letter
beyond ASCII. -/
def quotedEntry : LogEntry :=
  { Pipeline.sampleEntry 7 with qname := "a\"\\\x00é", answer := some "\"\"" }

theorem body_decodes_of_quotes :
  ∃ t request cache', (format "dns" .empty [quotedEntry]).Yields t (request, cache')
    ∧ ∃ t' o q x, (SinkAdapter.push {} request).Yields t' o ∧ ⟨.http q, x⟩ ∈ t'
      ∧ Json.decode PushRequest.ofJson q.body = .ok request
      ∧ ∃ stream ∈ request.streams, ∃ v ∈ stream.values, v.1 = "1704067200000000000"
        ∧ Json.read (Utf8.bytes v.2) = .ok (.record [
            ("domain", .ofString "a\"\\\x00é"),
            ("answer", .ofString? (some "\"\"")),
            ("qclass", .ofString "")])
  := by
  obtain ⟨⟨request, cache'⟩, h, hlines, hsent⟩ := exists_yields_of_any Rehearsal.World.answer
    (format "dns" .empty [quotedEntry]) (Rehearsal.World.new ⟨0⟩)
    (P := fun x => x.1.streams.flatMap LogStream.values ≠ []
      ∧ (SinkAdapter.request? {} x.1).isSome = true) (by decide +kernel)
  have hnanos : quotedEntry.nanos = .ok 1704067200000000000 := rfl
  obtain ⟨hbody, hvalues⟩ := body_decodes h {}
  obtain ⟨q, hq⟩ := Option.isSome_iff_exists.mp hsent
  have hpush : (SinkAdapter.push {} request).Yields [⟨.http q, .none .noUrl⟩]
      (SinkAdapter.readOutcome {} (.none .noUrl)) := by
    rw [SinkAdapter.push, hq]
    exact .ask _ (.done _)
  refine ⟨_, request, cache', h, _, _, q, _, hpush, List.mem_cons_self,
    hbody _ _ hpush q _ List.mem_cons_self, ?_⟩
  obtain ⟨v, hv⟩ := List.exists_mem_of_ne_nil _ hlines
  obtain ⟨stream, hstream, hv⟩ := List.mem_flatMap.mp hv
  obtain ⟨e, he, n, hn, htime, hline⟩ := hvalues stream hstream v hv
  obtain rfl := List.mem_singleton.mp he
  cases hnanos.symm.trans hn
  exact ⟨stream, hstream, v, hv, htime, hline⟩

end Formatting

end LogCourier
