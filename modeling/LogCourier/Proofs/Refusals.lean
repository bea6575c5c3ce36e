import LogCourier.Proofs.Errands
import LogCourier.Proofs.Governing
import LogCourier.Proofs.JsonRecords
import LogCourier.Proofs.Secrecy
import Mathlib

/-!
# Refusals

The source refuses the credentials by an envelope that arrives with a reply of success, and in no
other way. What the envelope says is told by relations that do not mention how it is read
(`Envelope.Arrives`, `Envelope.Refuses`), and so is a failure of the transport
(`Http.Outcome.Fails`). The outcome of a fetch is characterised by them, and as only a refusal of
the credentials opens the circuit, the reply to the last request for a page is one wherever the
circuit opens in a run of the job (`Wiring.only_refusals_trip`).
-/

namespace LogCourier

open Dialogue
open Rehearsal (Site)

/-! ### Envelopes -/

namespace Envelope

variable {e : Envelope} {v : Json}

/-- The tree is the record of the envelope. -/
def Fits (e : Envelope) (v : Json) : Prop :=
  ∃ status message response, Json.fields shape v = .ok [some status, message, response]
    ∧ Json.string status = .ok e.status
    ∧ Json.Holds Json.string message e.errorMessage
    ∧ Json.Holds QueryLogPage.ofJson response e.response

theorem ofJson_eq_ok_iff :
  ofJson v = .ok e ↔ e.Fits v
  := by
  simp only [Fits, ← Json.optional_eq_ok_iff]
  constructor
  · intro h
    rw [ofJson] at h
    obtain ⟨fields, hfields, h⟩ := bind_eq_ok_iff.mp h
    match fields, h with
    | [none, _, _], h => cases h
    | [some status, message, response], h =>
        obtain ⟨s, hstatus, h⟩ := bind_eq_ok_iff.mp h
        obtain ⟨m, hmessage, h⟩ := bind_eq_ok_iff.mp h
        obtain ⟨r, hresponse, h⟩ := bind_eq_ok_iff.mp h
        cases h
        exact ⟨status, message, response, hfields, hstatus, hmessage, hresponse⟩
    | [], h | [_], h | [_, _], h | _ :: _ :: _ :: _ :: _, h => cases h
  · rintro ⟨status, message, response, hfields, hstatus, hmessage, hresponse⟩
    refine bind_eq_ok_iff.mpr ⟨_, hfields, ?_⟩
    refine bind_eq_ok_iff.mpr ⟨_, hstatus, ?_⟩
    refine bind_eq_ok_iff.mpr ⟨_, hmessage, ?_⟩
    exact bind_eq_ok_iff.mpr ⟨_, hresponse, rfl⟩

end Envelope

theorem Http.isSuccess_iff {code : Nat} :
  isSuccess code = true ↔ 200 ≤ code ∧ code < 300
  := by
  rw [isSuccess, decide_eq_true_iff]

namespace Envelope

variable {e : Envelope} {x : Http.Outcome}

/-- The envelope has arrived: there is a reply of success, and its body is a document whose tree
is the record of the envelope. -/
inductive Arrives (e : Envelope) : Http.Outcome → Prop
  | mk {code : Nat} {body : List UInt8} {v : Json} (hcode : 200 ≤ code ∧ code < 300)
      (hbody : Json.read body = .ok v) (hv : e.Fits v) : Arrives e (.reply code (.ok body))

theorem arrives_reply_iff {code : Nat} {body : List UInt8} :
  e.Arrives (.reply code (.ok body))
    ↔ (200 ≤ code ∧ code < 300) ∧ Json.decode ofJson body = .ok e
  := by
  rw [Json.decode_eq_ok_iff]
  constructor
  · rintro ⟨hcode, hbody, hv⟩
    exact ⟨hcode, _, hbody, ofJson_eq_ok_iff.mpr hv⟩
  · rintro ⟨hcode, v, hbody, hv⟩
    exact ⟨hcode, hbody, ofJson_eq_ok_iff.mp hv⟩

/-- What the envelope complains of. -/
def complaint (e : Envelope) : String :=
  e.errorMessage.getD ("status '" ++ e.status ++ "'")

/-- The text points at the credentials: in lower case it has one of these words in it. -/
def Blames (text : String) : Prop :=
  ∃ mark ∈ ["token", "session expired", "invalid"], mark.toList <:+: (Text.lower text).toList

/-- The envelope refuses the credentials. -/
structure Refuses (e : Envelope) : Prop where
  status : e.status ≠ "ok"
  blames : e.status = "invalid-token" ∨ Blames e.complaint

theorem occursIn_iff {α : Type} [DecidableEq α] {part l : List α} :
  SourceError.occursIn part l = true ↔ part <:+: l
  := by
  induction l with
  | nil => rw [SourceError.occursIn, List.isEmpty_iff, List.infix_nil]
  | cons a l ih =>
      rw [SourceError.occursIn, Bool.or_eq_true, List.isPrefixOf_iff_prefix, ih,
        List.infix_cons_iff]

theorem any_occursIn_iff {text : String} :
  (SourceError.credentialMarks.any fun mark =>
      SourceError.occursIn mark.toList (Text.lower text).toList) = true ↔ Blames text
  := by
  simp only [List.any_eq_true, occursIn_iff, Blames, SourceError.credentialMarks]

theorem page_of_ok (h : e.status = "ok") :
  e.page = .ok (e.response.getD .empty)
  := by
  rw [page, if_pos h]

theorem page_of_ne_ok (h : e.status ≠ "ok") :
  e.page = if e.status = "invalid-token" then .error ⟨.authentication, e.complaint⟩
    else .error (.ofMessage e.complaint)
  := by
  rw [page, if_neg h]
  rfl

theorem page_of_refuses (h : e.Refuses) :
  e.page = .error ⟨.authentication, e.complaint⟩
  := by
  rw [page_of_ne_ok h.status]
  split
  · rfl
  · next hstatus =>
    rw [SourceError.ofMessage, if_pos (any_occursIn_iff.mpr (h.blames.resolve_left hstatus))]

theorem page_of_not_refuses (hstatus : e.status ≠ "ok") (h : ¬ e.Refuses) :
  e.page = .error ⟨.other, e.complaint⟩
  := by
  rw [page_of_ne_ok hstatus, if_neg fun hinvalid => h ⟨hstatus, .inl hinvalid⟩,
    SourceError.ofMessage, if_neg fun hany => h ⟨hstatus, .inr (any_occursIn_iff.mp hany)⟩]

end Envelope

/-! ### The outcome of a fetch -/

/-- The transport has failed with a fault: there is no reply, or the body of a reply of success
breaks off. -/
inductive Http.Outcome.Fails : Http.Outcome → Http.Fault → Prop
  | unanswered (f : Http.Fault) : Fails (.none f) f
  | brokenOff {code : Nat} (hcode : 200 ≤ code ∧ code < 300) (f : Http.Fault) :
      Fails (.reply code (.error f)) f

namespace SourceAdapter

open DeviceWork (Asks)

variable {s : SourceSettings} {r : PageRequest} {x x' : Http.Outcome} {xs : DeviceWork.Transcript}
  {o : Except SourceError QueryLogPage} {detail : String}

/-- What an outcome of the transport is taken for. -/
inductive Taken (x : Http.Outcome) : Except SourceError QueryLogPage → Prop
  | page {e : Envelope} (h : e.Arrives x) (hok : e.status = "ok") :
      Taken x (.ok (e.response.getD .empty))
  | refusal {e : Envelope} (h : e.Arrives x) (hrefuses : e.Refuses) :
      Taken x (.error ⟨.authentication, e.complaint⟩)
  | complaint {e : Envelope} (h : e.Arrives x) (hok : e.status ≠ "ok") (hrefuses : ¬ e.Refuses) :
      Taken x (.error ⟨.other, e.complaint⟩)
  | fault {f : Http.Fault} (h : x.Fails f) : Taken x (.error (errorOf f))
  | unusable {detail : String} (h : ∀ e : Envelope, ¬ e.Arrives x) (hf : ∀ f, ¬ x.Fails f) :
      Taken x (.error ⟨.other, detail⟩)

theorem taken_page {e : Envelope} (h : e.Arrives x) :
  Taken x e.page
  := by
  by_cases hok : e.status = "ok"
  · rw [Envelope.page_of_ok hok]
    exact .page h hok
  · by_cases hrefuses : e.Refuses
    · rw [Envelope.page_of_refuses hrefuses]
      exact .refusal h hrefuses
    · rw [Envelope.page_of_not_refuses hok hrefuses]
      exact .complaint h hok hrefuses

theorem readOutcome_of_not_success {code : Nat} {body : Except Http.Fault (List UInt8)}
    (h : ¬ (200 ≤ code ∧ code < 300)) :
  readOutcome (.reply code body)
    = .error ⟨.other, "HTTP " ++ Decimal.text code ++ ": " ++ Http.reason code⟩
  := by
  have hsuccess : Http.isSuccess code = false := Bool.eq_false_iff.mpr (mt Http.isSuccess_iff.mp h)
  cases body <;> rw [readOutcome, hsuccess] <;> rfl

/-- Every outcome of the transport is taken for what is read off it. -/
theorem taken_readOutcome (x : Http.Outcome) :
  Taken x (readOutcome x)
  := by
  cases x with
  | none f => exact .fault (.unanswered f)
  | reply code body =>
      by_cases hcode : 200 ≤ code ∧ code < 300
      · cases body with
        | error f =>
            rw [readOutcome, Http.isSuccess_iff.mpr hcode]
            exact .fault (.brokenOff hcode f)
        | ok bytes =>
            rw [readOutcome, Http.isSuccess_iff.mpr hcode]
            cases hbody : Json.decode Envelope.ofJson bytes with
            | error m =>
                refine .unusable (fun e h => ?_) nofun
                cases hbody.symm.trans (Envelope.arrives_reply_iff.mp h).2
            | ok e => exact taken_page (Envelope.arrives_reply_iff.mpr ⟨hcode, hbody⟩)
      · rw [readOutcome_of_not_success hcode]
        refine .unusable (fun e h => ?_) (fun f h => ?_)
        · cases h with
          | mk hcode' hbody hv => exact hcode hcode'
        · cases h with
          | brokenOff hcode' => exact hcode hcode'

theorem readOutcome_of_arrives {e : Envelope} (h : e.Arrives x) :
  readOutcome x = e.page
  := by
  cases x with
  | none f => cases h
  | reply code body =>
      cases body with
      | error f => cases h
      | ok bytes =>
          obtain ⟨hcode, hbody⟩ := Envelope.arrives_reply_iff.mp h
          rw [readOutcome, Http.isSuccess_iff.mpr hcode, hbody]
          rfl

theorem readOutcome_of_fails {f : Http.Fault} (h : x.Fails f) :
  readOutcome x = .error (errorOf f)
  := by
  cases h with
  | unanswered => rfl
  | brokenOff hcode =>
      rw [readOutcome, Http.isSuccess_iff.mpr hcode]
      rfl

theorem errorOf_ne_authentication {f : Http.Fault} :
  errorOf f ≠ ⟨.authentication, detail⟩
  := by
  intro h
  cases (isAuthentication_errorOf f).symm.trans (congrArg SourceError.isAuthentication h)

/-- Failures of these kinds have their cause in the transport. -/
inductive IsCause : Http.FaultKind → SourceError.Kind → Prop
  | timeout : IsCause .timeout .timeout
  | network : IsCause .connect .network

theorem errorOf_eq_iff {f : Http.Fault} {cause : Http.FaultKind} {kind : SourceError.Kind}
    (h : IsCause cause kind) :
  errorOf f = ⟨kind, detail⟩ ↔ f = ⟨cause, detail⟩
  := by
  obtain ⟨k, text⟩ := f
  cases h <;> cases k <;> simp [errorOf]

/-- The credentials are refused by an envelope, and in no other way. -/
theorem readOutcome_eq_refusal_iff :
  readOutcome x = .error ⟨.authentication, detail⟩
    ↔ ∃ e : Envelope, e.Arrives x ∧ e.Refuses ∧ detail = e.complaint
  := by
  constructor
  · intro h
    have htaken := taken_readOutcome x
    generalize readOutcome x = o at h htaken
    cases htaken with
    | refusal ha hrefuses =>
        cases h
        exact ⟨_, ha, hrefuses, rfl⟩
    | fault hf => exact absurd (Except.error.inj h) errorOf_ne_authentication
    | page | complaint | unusable => cases h
  · rintro ⟨e, ha, hrefuses, rfl⟩
    rw [readOutcome_of_arrives ha, Envelope.page_of_refuses hrefuses]

/-- A page comes with an envelope whose status is good, and in no other way. -/
theorem readOutcome_eq_page_iff {page : QueryLogPage} :
  readOutcome x = .ok page
    ↔ ∃ e : Envelope, e.Arrives x ∧ e.status = "ok" ∧ page = e.response.getD .empty
  := by
  constructor
  · intro h
    have htaken := taken_readOutcome x
    generalize readOutcome x = o at h htaken
    cases htaken with
    | page ha hok =>
        cases h
        exact ⟨_, ha, hok, rfl⟩
    | refusal | complaint | fault | unusable => cases h
  · rintro ⟨e, ha, hok, rfl⟩
    rw [readOutcome_of_arrives ha, Envelope.page_of_ok hok]

/-- What is put down to the time or to the network is a fault of the transport. -/
theorem readOutcome_eq_fault_iff {cause : Http.FaultKind} {kind : SourceError.Kind}
    (hcause : IsCause cause kind) :
  readOutcome x = .error ⟨kind, detail⟩ ↔ x.Fails ⟨cause, detail⟩
  := by
  constructor
  · intro h
    have htaken := taken_readOutcome x
    generalize readOutcome x = o at h htaken
    cases htaken with
    | page => cases h
    | fault hf =>
        rw [← (errorOf_eq_iff hcause).mp (Except.error.inj h)]
        exact hf
    | refusal | complaint | unusable =>
        cases h
        cases hcause
  · intro h
    rw [readOutcome_of_fails h, (errorOf_eq_iff hcause).mpr rfl]

/-! ### The requests of a fetch -/

/-- What the transport has for a fetch of a page, and the exchanges that tell of it: the outcome of
the request, or that the address is none. -/
inductive Transports (s : SourceSettings) (r : PageRequest) :
    DeviceWork.Transcript → Http.Outcome → Prop
  | sent {q : Http.Request} (h : request? s r = some q) (x : Http.Outcome) :
      Transports s r [⟨.http q, x⟩] x
  | unsent (h : request? s r = none) : Transports s r [] (.none .noUrl)

theorem Transports.unique (h : Transports s r xs x) (h' : Transports s r xs x') :
  x = x'
  := by
  cases h <;> cases h' <;> rfl

/-- A fetch does no more than the transport, and what comes of it is read off what the transport
has. -/
theorem asks_fetch_iff_transports :
  Asks (fetch s r) xs o ↔ ∃ x, Transports s r xs x ∧ o = readOutcome x
  := by
  cases hurl : Http.Url.parse? (endpoint s) with
  | none =>
      have hnone : request? s r = none := by rw [request?_eq, hurl, Option.map_none]
      rw [fetch_of_parse_none hurl, asks_receive_iff]
      constructor
      · rintro ⟨rfl, rfl⟩
        exact ⟨_, .unsent hnone, rfl⟩
      · rintro ⟨x, h, rfl⟩
        cases h with
        | sent hsome => cases hnone.symm.trans hsome
        | unsent => exact ⟨rfl, rfl⟩
  | some url =>
      have hsome : request? s r = some (requestTo s r url) := by
        rw [request?_eq, hurl, Option.map_some]
      rw [asks_fetch_iff hurl]
      constructor
      · rintro ⟨x, rfl, rfl⟩
        exact ⟨x, .sent hsome x, rfl⟩
      · rintro ⟨x, h, rfl⟩
        cases h with
        | sent hsome' =>
            cases hsome.symm.trans hsome'
            exact ⟨x, rfl, rfl⟩
        | unsent hnone => cases hsome.symm.trans hnone

end SourceAdapter

/-! ### The requests for pages in a run -/

namespace DeviceWork

variable {α : Type} {d : DeviceWork α} {a : α} {ks : List Device.Kind} {t t₁ t₂ : Transcript}

/-- What came of a request, if it is one that gets something. -/
def got? : Exchange → Option Http.Outcome
  | ⟨.http q, x⟩ => if q.method = "GET" then some x else none
  | _ => none

/-- What came of the requests that get something. In the work of a pipeline these are the requests
for pages. -/
def got (t : Transcript) : List Http.Outcome :=
  t.filterMap got?

theorem got_append :
  got (t₁ ++ t₂) = got t₁ ++ got t₂
  := List.filterMap_append

theorem got_of_get {q : Http.Request} {x : Http.Outcome} (h : q.method = "GET") :
  got [⟨.http q, x⟩] = [x]
  := by
  have hgot : got? ⟨.http q, x⟩ = some x := if_pos h
  rw [got, List.filterMap_cons_some hgot, List.filterMap_nil]

theorem Uses.got_eq_nil (hd : Uses ks d) (h : d.Yields t a)
    (hks : Device.Kind.get ∉ ks := by decide) :
  got t = []
  := by
  apply List.filterMap_eq_nil_iff.mpr
  rintro ⟨q, x⟩ hx
  have hq := h.of_confined hd.confined _ hx
  cases q with
  | http q =>
      apply if_neg
      intro hget
      rw [Device.kind_http_of_get hget] at hq
      exact hks hq
  | _ => rfl

/-- Notes do not get anything. -/
theorem got_filter :
  got (t.filter fun x => (note? x).isNone) = got t
  := by
  rw [got, List.filterMap_filter]
  apply List.filterMap_congr
  rintro ⟨q, x⟩ -
  cases q <;> rfl

end DeviceWork

namespace Wiring

open DeviceWork (Asks Uses got got_append)
open SourceAdapter (Transports readOutcome)
open Work (outcomes)

variable {w : Wiring} {α : Type} {d : Work α} {a : α} {s : DeviceWork.Transcript}

/-- What came of the requests for some pages, each of which may be missing for want of an
address, and what is read off it. -/
structure Answers (xs : List (Option Http.Outcome)) (s : DeviceWork.Transcript)
    (os : List SourceOutcome) : Prop where
  got : DeviceWork.got s = xs.reduceOption
  read : os = xs.map fun x => readOutcome (x.getD (.none .noUrl))

theorem Answers.append {xs xs' : List (Option Http.Outcome)} {s' : DeviceWork.Transcript}
    {os os' : List SourceOutcome} (h : Answers xs s os) (h' : Answers xs' s' os') :
  Answers (xs ++ xs') (s ++ s') (os ++ os')
  := by
  constructor
  · rw [got_append, h.got, h'.got, List.reduceOption_append]
  · rw [h.read, h'.read, List.map_append]

/-- A call that fetches a page makes a request if there is an address, and every other call makes
none. -/
theorem answers_of_answer {c : Call} {x : c.Answer} (h : (w.answer c).Yields s x) :
  ∃ xs, Answers xs s (outcomes [⟨c, x⟩])
  := by
  have hnone {ks : List Device.Kind} (hc : Uses ks (w.answer c)) (hks : Device.Kind.get ∉ ks)
      (ho : outcomes [⟨c, x⟩] = []) : ∃ xs, Answers xs s (outcomes [⟨c, x⟩]) :=
    ⟨[], hc.got_eq_nil h hks, ho⟩
  cases c with
  | fetch r =>
      obtain ⟨y, htransports, rfl⟩ := SourceAdapter.asks_fetch_iff_transports.mp ⟨s, h, rfl⟩
      have hgot : got (s.filter fun x => (note? x).isNone) = got s :=
        DeviceWork.got_filter
      generalize s.filter _ = ys at htransports hgot
      cases htransports with
      | @sent q hq _ =>
          refine ⟨[some y], ?_, rfl⟩
          rw [← hgot, DeviceWork.got_of_get (SourceAdapter.method_of_request? hq)]
          rfl
      | unsent => exact ⟨[none], hgot.symm, rfl⟩
  | push r => exact hnone SinkAdapter.uses_push (by decide) rfl
  | lookup ip => exact hnone (w.uses_answer_lookup ip) (by decide) rfl
  | load => exact hnone (CursorFile.uses_load _) (by decide) rfl
  | store c => exact hnone (CursorFile.uses_store _ c) (by decide) rfl
  | clock => exact hnone (.question (.head [])) (by decide) rfl
  | note n =>
      cases n with
      | log l => exact hnone (.question (.head [] : _ ∈ [Device.Kind.line])) (by decide) rfl
      | metric e => exact hnone (.question (.head [] : _ ∈ [Device.Kind.event])) (by decide) rfl
  | pause => exact hnone uses_pause (by decide) rfl

/-- In wired work what the source has for the pipeline is read off what came of the requests. -/
theorem answers_of_yields (h : (w.wire d).Yields s a) :
  ∃ u xs, d.Yields u a ∧ Answers xs s (outcomes u)
  := by
  induction d generalizing s with
  | done b =>
      rw [wire_done] at h
      cases h
      exact ⟨[], [], .done _, rfl, rfl⟩
  | ask q next ih =>
      rw [wire_ask] at h
      obtain ⟨s₁, x, s₂, rfl, hfirst, hrest⟩ := yields_bind.mp h
      obtain ⟨xs, hxs⟩ := answers_of_answer hfirst
      obtain ⟨u, xs', hu, hxs'⟩ := ih x hrest
      refine ⟨⟨q, x⟩ :: u, xs ++ xs', .ask x hu, ?_⟩
      rw [← List.singleton_append, Work.outcomes_append]
      exact hxs.append hxs'
  | abort => cases h

/-- If the last page is refused for the credentials, the last request got an envelope that refuses
them. -/
theorem Answers.refused_of_last {xs : List (Option Http.Outcome)} {os : List SourceOutcome}
    {e : SourceError} (h : Answers xs s (os ++ [.error e])) (he : e.isAuthentication = true) :
  ∃ earlier x, DeviceWork.got s = earlier ++ [x] ∧ ∃ e : Envelope, e.Arrives x ∧ e.Refuses
  := by
  obtain ⟨hgot, hread⟩ := h
  obtain ⟨earlier, last, rfl, -, hlast⟩ := List.map_eq_append_iff.mp hread.symm
  obtain ⟨y, rfl, hy⟩ := List.map_eq_singleton_iff.mp hlast
  rw [List.reduceOption_append] at hgot
  cases y with
  | none =>
      -- without an address the failure is of another kind
      cases hy
      cases he
  | some x =>
      refine ⟨earlier.reduceOption, x, hgot, ?_⟩
      obtain ⟨kind, detail⟩ := e
      obtain rfl : kind = .authentication := of_decide_eq_true he
      obtain ⟨envelope, harrives, hrefuses, -⟩ :=
        SourceAdapter.readOutcome_eq_refusal_iff.mp hy
      exact ⟨envelope, harrives, hrefuses⟩

/-- **Only refusals open the circuit.** Whatever the transport has for a fetch of a page, one thing
comes of it. The credentials are refused if and only if an envelope arrives that refuses them, with
its complaint as the detail; a page comes if and only if an envelope with a good status arrives, and
it is the page of the envelope, or the empty one; and what is put down to the time or to the network
is a fault of the transport. So wherever a run of the job opens the circuit, the last request for a
page got an envelope that refuses the credentials. -/
theorem only_refusals_trip :
  (∀ (s : SourceSettings) (r : PageRequest) (xs : DeviceWork.Transcript) (x : Http.Outcome),
    Transports s r xs x →
      ∃ o, (∀ o', Asks (SourceAdapter.fetch s r) xs o' ↔ o' = o)
        ∧ (∀ detail, o = .error ⟨.authentication, detail⟩
            ↔ ∃ e : Envelope, e.Arrives x ∧ e.Refuses ∧ detail = e.complaint)
        ∧ (∀ page, o = .ok page
            ↔ ∃ e : Envelope, e.Arrives x ∧ e.status = "ok" ∧ page = e.response.getD .empty)
        ∧ (∀ detail, o = .error ⟨.timeout, detail⟩ ↔ x.Fails ⟨.timeout, detail⟩)
        ∧ (∀ detail, o = .error ⟨.network, detail⟩ ↔ x.Fails ⟨.connect, detail⟩))
    ∧ ∀ (w : Wiring) (j : Job) (rounds : Nat) (m m' : Memory) (t : DeviceWork.Transcript)
        (o : Job.End), m.governor.terminated = false →
      (w.wire (j.run rounds m)).Yields t (o, m') → m'.governor.terminated = true →
        ∃ earlier x, got t = earlier ++ [x] ∧ ∃ e : Envelope, e.Arrives x ∧ e.Refuses
  := by
  constructor
  · intro s r xs x h
    refine ⟨readOutcome x, fun o' => ?_, fun _ => SourceAdapter.readOutcome_eq_refusal_iff,
      fun _ => SourceAdapter.readOutcome_eq_page_iff,
      fun _ => SourceAdapter.readOutcome_eq_fault_iff .timeout,
      fun _ => SourceAdapter.readOutcome_eq_fault_iff .network⟩
    rw [SourceAdapter.asks_fetch_iff_transports]
    constructor
    · rintro ⟨x', h', rfl⟩
      rw [h.unique h']
    · rintro rfl
      exact ⟨x, h, rfl⟩
  · intro w j rounds m m' t o hm hrun hm'
    obtain ⟨u, xs, hu, hanswers⟩ := answers_of_yields hrun
    obtain ⟨front, e, hlast, he⟩ := Job.refused_of_terminated hu hm hm'
    rw [hlast] at hanswers
    exact hanswers.refused_of_last he

/-- A reply of success with an envelope that refuses the credentials: in the message there stands a
kelvin sign, whose lower-case form is a letter. -/
def kelvinRefusal : List UInt8 :=
  Utf8.bytes "\x7b\"status\":\"error\",\"errorMessage\":\"No such to\u212aen\"\x7d"

theorem arrives_kelvinRefusal :
  Envelope.Arrives ⟨"error", some "No such to\u212aen", none⟩ (.reply 200 (.ok kelvinRefusal))
  := Envelope.arrives_reply_iff.mpr ⟨by decide, by cbv⟩

theorem refuses_kelvinRefusal :
  Envelope.Refuses ⟨"error", some "No such to\u212aen", none⟩
  := by
  refine ⟨by decide, .inr ?_⟩
  refine ⟨"token", by decide, ?_⟩
  decide +kernel

/-- Wired work can end as the work does in a world, if devices can answer its calls as the world
does. -/
theorem exists_yields_wire {σ : Type} {answer : (c : Call) → σ → c.Answer × σ}
    (h : ∀ c s, ∃ t, (w.answer c).Yields t (answer c s).1) {d : Work α} {s : σ} {a : α}
    (ha : (d.run answer s).1 = some a) :
  ∃ t, (w.wire d).Yields t a
  := by
  induction d generalizing s with
  | done b =>
      cases ha
      exact ⟨[], .done a⟩
  | ask q next ih =>
      obtain ⟨t₁, hfirst⟩ := h q s
      obtain ⟨t₂, hrest⟩ := ih (answer q s).1 ha
      rw [wire_ask]
      exact ⟨_, yields_bind.mpr ⟨t₁, _, t₂, rfl, hfirst, hrest⟩⟩
  | abort => cases ha

/-- What calls come to where there is nothing but a source that refuses the credentials. -/
def kelvinAnswer : (c : Call) → Unit → c.Answer × Unit
  | .fetch _, _ => (.error ⟨.authentication, "No such to\u212aen"⟩, ())
  | c, _ => ((sample.total_answer c).result Site.answer {}, ())

theorem exists_yields_kelvinAnswer (c : Call) (s : Unit) :
  ∃ t, (sample.answer c).Yields t (kelvinAnswer c s).1
  := by
  cases c with
  | fetch r =>
      have hq : (SourceAdapter.request? sample.source r).isSome = true := by
        rw [SourceAdapter.request?_eq, Option.isSome_map]
        decide +kernel
      obtain ⟨q, hq⟩ := Option.isSome_iff_exists.mp hq
      obtain ⟨t, ht, -⟩ := SourceAdapter.asks_fetch_iff_transports.mpr
        ⟨_, .sent hq (.reply 200 (.ok kelvinRefusal)), rfl⟩
      rw [SourceAdapter.readOutcome_eq_refusal_iff.mpr
        ⟨_, arrives_kelvinRefusal, refuses_kelvinRefusal, rfl⟩] at ht
      exact ⟨t, ht⟩
  | _ => exact ⟨_, (sample.total_answer _).yields_result Site.answer {}⟩

theorem only_refusals_trip_of_kelvin :
  (∃ q, Asks (SourceAdapter.fetch sample.source ⟨1, 1⟩)
      [⟨.http q, .reply 200 (.ok kelvinRefusal)⟩]
      (.error ⟨.authentication, "No such to\u212aen"⟩))
    ∧ ∃ t o m', (sample.wire (Job.run ⟨⟨.new 1 1 1, "dns"⟩, 1000⟩ 1 (.new 1))).Yields t (o, m')
      ∧ m'.governor.terminated = true
      ∧ ∃ earlier x, got t = earlier ++ [x] ∧ ∃ e : Envelope, e.Arrives x ∧ e.Refuses
  := by
  obtain ⟨hfetch, hrun⟩ := only_refusals_trip
  constructor
  · obtain ⟨q, hq⟩ : ∃ q, SourceAdapter.request? sample.source ⟨1, 1⟩ = some q :=
      Option.isSome_iff_exists.mp (by decide +kernel)
    obtain ⟨o, ho, hrefusal, -⟩ := hfetch _ _ _ _ (.sent hq (.reply 200 (.ok kelvinRefusal)))
    refine ⟨q, (ho _).mpr ?_⟩
    exact ((hrefusal _).mpr ⟨_, arrives_kelvinRefusal, refuses_kelvinRefusal, rfl⟩).symm
  · let work : Work (Job.End × Memory) := Job.run ⟨⟨.new 1 1 1, "dns"⟩, 1000⟩ 1 (.new 1)
    have hwork : (work.run kelvinAnswer ()).1.map (fun x => x.2.governor.terminated)
        = some true := by
      decide +kernel
    obtain ⟨⟨o, m'⟩, hend, hopen⟩ := Option.map_eq_some_iff.mp hwork
    obtain ⟨t, ht⟩ := exists_yields_wire exists_yields_kelvinAnswer hend
    exact ⟨t, o, m', ht, hopen, hrun _ _ _ _ _ _ _ rfl ht hopen⟩

end Wiring

end LogCourier
