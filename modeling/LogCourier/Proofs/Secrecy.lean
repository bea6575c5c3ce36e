import LogCourier.Adapter.Wiring
import LogCourier.Proofs.FormText
import LogCourier.Proofs.Notes
import LogCourier.Proofs.Polling
import LogCourier.Rehearsal.Site
import Mathlib.Data.List.Forall2

/-!
# What the credential shows in

The credential of the source stands in the address of every request for a page. As long as the
requests come out the same, nothing that is returned or noted depends on it, over any work of the
pipeline (`Wiring.parallel_of_yields`). But the wording of a request that got no reply has the
address of the request in it. So two sources that differ in their credentials only are told apart
by what is returned and noted if and only if a request is made and gets no reply
(`Wiring.fetch_same_iff`).
-/

namespace LogCourier

open Dialogue
open Rehearsal (Site)

/-- What becomes of a request for a page: there is no reply, or a reply whose body breaks off, or
a reply. -/
inductive Fate
  | unsent (kind : Http.FaultKind)
  | broken (status : Nat) (kind : Http.FaultKind)
  | replied (status : Nat) (body : List UInt8)

/-- What comes of a request to an address with this fate. -/
def Fate.outcome (url : Http.Url) : Fate → Http.Outcome
  | unsent kind => .none (.unsent kind url)
  | broken status kind => .reply status (.error (.brokenBody kind))
  | replied status body => .reply status (.ok body)

/-- Only the wording of a request without a reply has its address in it. -/
theorem Fate.outcome_eq {f : Fate} (h : ∀ kind, f ≠ .unsent kind) (u v : Http.Url) :
  f.outcome u = f.outcome v
  := by
  cases f with
  | unsent kind => exact absurd rfl (h kind)
  | broken status kind => rfl
  | replied status body => rfl

/-- The device is a web server, the clock, or whoever takes notes. -/
def Device.IsPlain : Device → Prop
  | http _ | clock | note _ => True
  | _ => False

namespace DeviceWork

/-- A question to a device with its answer. -/
abbrev Exchange := Dialogue.Exchange Device.Answer

/-- The questions of some work to devices, in order, with their answers. -/
abbrev Transcript := Dialogue.Transcript Device.Answer

variable {α : Type} {t t₁ t₂ : Transcript} {f : Fate} {time : Nat}

/-! ### Work apart from its notes -/

section Asks

variable {β : Type} {a : α} {b : β} {s : Transcript}

/-- Apart from what it notes, the work can have the exchanges `s`, and then it ends with `a`. -/
def Asks (d : DeviceWork α) (s : Transcript) (a : α) : Prop :=
  ∃ t, d.Yields t a ∧ t.filter (fun x => (note? x).isNone) = s

theorem asks_pure {a' : α} :
  Asks (pure a) s a' ↔ s = [] ∧ a' = a
  := by
  constructor
  · rintro ⟨t, h, rfl⟩
    obtain ⟨rfl, rfl⟩ := Dialogue.yields_pure.mp h
    exact ⟨rfl, rfl⟩
  · rintro ⟨rfl, rfl⟩
    exact ⟨[], .done a', rfl⟩

theorem asks_question_bind {q : Device} {f : q.Answer → DeviceWork β}
    (hq : ∀ x : q.Answer, note? (A := Device.Answer) ⟨q, x⟩ = none) :
  Asks (.question q >>= f) s b ↔ ∃ x s', s = ⟨q, x⟩ :: s' ∧ Asks (f x) s' b
  := by
  constructor
  · rintro ⟨t, h, rfl⟩
    obtain ⟨x, t', rfl, hx⟩ := Dialogue.yields_question_bind.mp h
    refine ⟨x, _, List.filter_cons_of_pos ?_, t', hx, rfl⟩
    rw [hq, Option.isNone_none]
  · rintro ⟨x, s', rfl, t', hx, rfl⟩
    refine ⟨⟨q, x⟩ :: t', Dialogue.yields_question_bind.mpr ⟨x, t', rfl, hx⟩, ?_⟩
    rw [List.filter_cons_of_pos]
    rw [hq, Option.isNone_none]

theorem asks_log_bind {level : LogLevel} {message : String} {fields : List (String × FieldValue)}
    {f : Unit → DeviceWork β} :
  Asks (log level message fields >>= f) s b ↔ Asks (f ()) s b
  := by
  constructor
  · rintro ⟨t, h, rfl⟩
    obtain ⟨x, t', rfl, hx⟩ := Dialogue.yields_question_bind.mp h
    exact ⟨t', hx, rfl⟩
  · rintro ⟨t', h, rfl⟩
    exact ⟨_, Dialogue.yields_question_bind.mpr ⟨(), t', rfl, h⟩, rfl⟩

end Asks

/-! ### Requests with a fate -/

/-- A request meets the fate, and the clock shows the time. -/
def Suits (f : Fate) (time : Nat) : Exchange → Prop
  | ⟨.http q, x⟩ => x = f.outcome q.url
  | ⟨.clock, x⟩ => x = time
  | _ => True

/-- Every request meets the fate, at the given time. -/
def Meets (f : Fate) (time : Nat) (t : Transcript) : Prop :=
  ∀ x ∈ t, Suits f time x

/-- Work with web servers, the clock and notes goes in one way only, if every request meets the
same fate at the same time. -/
theorem unique_of_meets {d : DeviceWork α} {a b : α} (hd : d.Confined Device.IsPlain)
    (h₁ : d.Yields t₁ a) (hm₁ : Meets f time t₁) (h₂ : d.Yields t₂ b) (hm₂ : Meets f time t₂) :
  t₁ = t₂ ∧ a = b
  := by
  induction h₁ generalizing t₂ with
  | done a =>
      cases h₂
      exact ⟨rfl, rfl⟩
  | @ask q next t₁ a x h₁ ih =>
      cases h₂ with
      | @ask _ _ t₂ b y h₂ =>
          obtain ⟨hx, hrest₁⟩ := List.forall_mem_cons.mp hm₁
          obtain ⟨hy, hrest₂⟩ := List.forall_mem_cons.mp hm₂
          have heq : x = y := by
            cases q <;> first | exact hx.trans hy.symm | rfl | cases hd.1
          subst heq
          obtain ⟨rfl, rfl⟩ := ih (hd.2 x) hrest₁ h₂ hrest₂
          exact ⟨rfl, rfl⟩

/-! ### Transcripts up to requests -/

/-- Two exchanges are the same, or they are requests that come out the same. -/
inductive Alike : Exchange → Exchange → Prop
  | same (x : Exchange) : Alike x x
  | request {q q' : Http.Request} (x : Http.Outcome) : Alike ⟨.http q, x⟩ ⟨.http q', x⟩

/-- Two transcripts are the same up to requests that come out the same. -/
abbrev Parallel (t₁ t₂ : Transcript) : Prop :=
  List.Forall₂ Alike t₁ t₂

theorem parallel_refl (t : Transcript) :
  Parallel t t
  := List.forall₂_same.mpr fun x _ => Alike.same x

theorem Parallel.notes_eq (h : Parallel t₁ t₂) :
  notes t₁ = notes t₂
  := by
  induction h with
  | nil => rfl
  | cons hx h ih =>
      cases hx with
      | same x => rw [notes, notes, List.filterMap_cons, List.filterMap_cons, ← notes, ← notes, ih]
      | request x => apply ih

/-- If every request gets a reply, then the same holds of a parallel transcript. -/
theorem Parallel.meets (h : Parallel t₁ t₂) (hf : ∀ kind, f ≠ .unsent kind) (hm : Meets f time t₁) :
  Meets f time t₂
  := by
  induction h with
  | nil => apply List.forall_mem_nil
  | cons hx h ih =>
      obtain ⟨hfirst, hrest⟩ := List.forall_mem_cons.mp hm
      refine List.forall_mem_cons.mpr ⟨?_, ih hrest⟩
      cases hx with
      | same x => apply hfirst
      | request x => exact hfirst.trans (Fate.outcome_eq hf _ _)

end DeviceWork

open DeviceWork

/-- The source with another credential. -/
def SourceSettings.withToken (s : SourceSettings) (token : String) : SourceSettings :=
  { s with token }

namespace SourceAdapter

variable {s : SourceSettings} {r : PageRequest} {url : Http.Url} {t : DeviceWork.Transcript}
  {o : Except SourceError QueryLogPage}

/-- The request for a page from an address. -/
def requestTo (s : SourceSettings) (r : PageRequest) (url : Http.Url) : Http.Request :=
  ⟨"GET", url.addQuery (parameters s r), none, [], s.timeoutSecs⟩

theorem request?_eq :
  request? s r = (Http.Url.parse? (endpoint s)).map (requestTo s r)
  := by
  rw [request?]
  cases Http.Url.parse? (endpoint s) <;> rfl

theorem detail_errorOf (f : Http.Fault) :
  (errorOf f).detail = f.detail
  := by
  rw [errorOf]
  split <;> rfl

theorem isAuthentication_errorOf (f : Http.Fault) :
  (errorOf f).isAuthentication = false
  := by
  rw [errorOf]
  split <;> rfl

/-- What is done with the outcome of a request. -/
def receive (r : PageRequest) (outcome : Http.Outcome) :
  DeviceWork (Except SourceError QueryLogPage) :=
  match readOutcome outcome with
  | .error e => return .error e
  | .ok page => do
    DeviceWork.log .debug "Query log API page received"
      [("page_number", .nat r.page.toNat), ("entries_per_page", .nat r.size.toNat),
        ("entries", .nat page.entries.length)]
    return .ok page

theorem fetch_of_parse (h : Http.Url.parse? (endpoint s) = some url) :
  fetch s r = Dialogue.question (Device.http (requestTo s r url)) >>= receive r
  := by
  rw [fetch, request?_eq, h]
  rfl

theorem fetch_of_parse_none (h : Http.Url.parse? (endpoint s) = none) :
  fetch s r = receive r (.none .noUrl)
  := by
  rw [fetch, request?_eq, h]
  rfl

/-- What is received is read off the outcome, and noted if it is a page. -/
theorem asks_receive_iff {xs : DeviceWork.Transcript} {outcome : Http.Outcome} :
  Asks (receive r outcome) xs o ↔ xs = [] ∧ o = readOutcome outcome
  := by
  rw [receive]
  cases readOutcome outcome with
  | error e => apply asks_pure
  | ok page => exact asks_log_bind.trans asks_pure

/-- A fetch from an address is one request, and what comes of it is read off the outcome. -/
theorem asks_fetch_iff {xs : DeviceWork.Transcript} (h : Http.Url.parse? (endpoint s) = some url) :
  Asks (fetch s r) xs o
    ↔ ∃ x, xs = [⟨.http (requestTo s r url), x⟩] ∧ o = readOutcome x
  := by
  rw [fetch_of_parse h, asks_question_bind fun _ => rfl]
  simp only [asks_receive_iff]
  constructor
  · rintro ⟨x, xs', rfl, rfl, ho⟩
    exact ⟨x, rfl, ho⟩
  · rintro ⟨x, rfl, ho⟩
    exact ⟨x, [], rfl, rfl, ho⟩

theorem plain_receive (outcome : Http.Outcome) :
  (receive r outcome).Confined Device.IsPlain
  := by
  rw [receive]
  split
  · apply confined_pure
  · apply Confined.bind
    · exact confined_question.mpr trivial
    · intro _
      apply confined_pure

/-- A fetch whose request gets no reply fails, and the wording has the address of the request in
it. -/
theorem fetch_of_unsent {kind : Http.FaultKind} {time : Nat}
    (hurl : Http.Url.parse? (endpoint s) = some url) (h : (fetch s r).Yields t o)
    (hm : Meets (.unsent kind) time t) :
  o = .error (errorOf (.unsent kind (requestTo s r url).url))
  := by
  rw [fetch_of_parse hurl] at h
  obtain ⟨x, t', rfl, hx⟩ := yields_question_bind.mp h
  obtain rfl : x = _ := (List.forall_mem_cons.mp hm).1
  obtain ⟨-, rfl⟩ := yields_pure.mp hx
  rfl

/-- What is fetched and noted depends on the credential by what comes of the request only. -/
theorem parallel_fetch {a b : String} (h : (fetch (s.withToken a) r).Yields t o) :
  ∃ t', (fetch (s.withToken b) r).Yields t' o ∧ Parallel t t'
  := by
  have hsame (token : String) :
      Http.Url.parse? (endpoint (s.withToken token)) = Http.Url.parse? (endpoint s) := rfl
  cases hurl : Http.Url.parse? (endpoint s) with
  | none =>
      rw [fetch_of_parse_none ((hsame _).trans hurl)] at h ⊢
      exact ⟨t, h, parallel_refl t⟩
  | some url =>
      rw [fetch_of_parse ((hsame _).trans hurl)] at h ⊢
      obtain ⟨x, t', rfl, hx⟩ := yields_question_bind.mp h
      refine ⟨_, yields_question_bind.mpr ⟨x, t', rfl, hx⟩, ?_⟩
      apply List.Forall₂.cons (.request x) (parallel_refl t')

/-- The address of a request determines the credential. -/
theorem token_of_requestTo {a b : String}
    (h : (requestTo (s.withToken a) r url).url.text = (requestTo (s.withToken b) r url).url.text) :
  a = b
  := Http.form_injective (Http.Url.text_addQuery h)

end SourceAdapter

namespace Wiring

variable {w : Wiring} {α : Type} {t t₁ t₂ : DeviceWork.Transcript}

/-- A wiring with another credential. -/
def withToken (w : Wiring) (token : String) : Wiring :=
  { w with source := w.source.withToken token }

theorem wire_done {x : α} :
  w.wire (.done x) = .done x
  := rfl

theorem wire_ask {c : Call} {next : c.Answer → Work α} :
  w.wire (.ask c next) = w.answer c >>= fun x => w.wire (next x)
  := rfl

theorem wire_bind {β : Type} {d : Work α} {k : α → Work β} :
  w.wire (d >>= k) = w.wire d >>= fun x => w.wire (k x)
  := relay_bind

theorem wire_fetch {r : PageRequest} :
  w.wire (Work.fetch r) = SourceAdapter.fetch w.source r
  := bind_pure_right _

/-- What answers a call depends on the credential by what comes of the requests only. -/
theorem parallel_answer {a b : String} {c : Call} {x : c.Answer}
    (h : ((w.withToken a).answer c).Yields t x) :
  ∃ t', ((w.withToken b).answer c).Yields t' x ∧ Parallel t t'
  := by
  cases c with
  | fetch r => exact SourceAdapter.parallel_fetch h
  | push r => exact ⟨t, h, parallel_refl t⟩
  | lookup ip => exact ⟨t, h, parallel_refl t⟩
  | load => exact ⟨t, h, parallel_refl t⟩
  | store c => exact ⟨t, h, parallel_refl t⟩
  | clock => exact ⟨t, h, parallel_refl t⟩
  | note n => exact ⟨t, h, parallel_refl t⟩
  | pause => exact ⟨t, h, parallel_refl t⟩

/-- Any work of the pipeline goes the same way with another credential, as long as the requests
come out the same: it ends with the same result, and the same is noted. -/
theorem parallel_of_yields {a b : String} {d : Work α} {o : α}
    (h : ((w.withToken a).wire d).Yields t o) :
  ∃ t', ((w.withToken b).wire d).Yields t' o ∧ Parallel t t'
  := by
  induction d generalizing t with
  | done x =>
      rw [wire_done] at h
      use t
      rw [wire_done]
      exact ⟨h, parallel_refl t⟩
  | ask q next ih =>
      rw [wire_ask] at h
      obtain ⟨u, x, v, rfl, hu, hv⟩ := yields_bind.mp h
      obtain ⟨u', hu', hfirst⟩ := parallel_answer (b := b) hu
      obtain ⟨v', hv', hrest⟩ := ih x hv
      refine ⟨u' ++ v', ?_, List.rel_append hfirst hrest⟩
      rw [wire_ask]
      exact yields_bind.mpr ⟨u', x, v', rfl, hu', hv'⟩
  | abort => cases h

/-- Where the address of the source is none, the credential plays no part. -/
theorem wire_of_parse_none {a b : String} {d : Work α}
    (hurl : Http.Url.parse? (SourceAdapter.endpoint w.source) = none) :
  (w.withToken a).wire d = (w.withToken b).wire d
  := by
  have hsame : (w.withToken a).answer = (w.withToken b).answer := by
    funext c
    cases c with
    | fetch r =>
        have hfetch (token : String) :
            (w.withToken token).answer (.fetch r) = SourceAdapter.receive r (.none .noUrl) :=
          SourceAdapter.fetch_of_parse_none hurl
        rw [hfetch a, hfetch b]
    | _ => rfl
  rw [wire, wire, hsame]

/-! ### A fetch under the eyes of the governor -/

variable {g : Governor} {r : PageRequest} {f : Fate} {time : Nat}
  {o o₁ o₂ : Except Failure QueryLogPage × Governor}

theorem plain_wire_fetch :
  (w.wire (Polling.fetch g r)).Confined Device.IsPlain
  := by
  apply Confined.relay (Confined.mono Polling.uses_fetch (fun _ hc => hc) (by decide))
  intro c hc
  cases c with
  | fetch r =>
      change (SourceAdapter.fetch w.source r).Confined Device.IsPlain
      cases h : Http.Url.parse? (SourceAdapter.endpoint w.source) with
      | none =>
          rw [SourceAdapter.fetch_of_parse_none h]
          apply SourceAdapter.plain_receive
      | some url =>
          rw [SourceAdapter.fetch_of_parse h]
          apply Confined.bind
          · exact confined_question.mpr trivial
          · apply SourceAdapter.plain_receive
  | clock => exact confined_question.mpr trivial
  | note n => exact confined_question.mpr trivial
  | push r => simp [Call.kind] at hc
  | lookup ip => simp [Call.kind] at hc
  | load => simp [Call.kind] at hc
  | store c => simp [Call.kind] at hc
  | pause => simp [Call.kind] at hc

/-- While the circuit is closed, a request that gets no reply makes for a failure whose wording
has the address of the request in it. -/
theorem failure_of_unsent {kind : Http.FaultKind} {url : Http.Url} (hg : g.terminated = false)
    (hurl : Http.Url.parse? (SourceAdapter.endpoint w.source) = some url)
    (h : (w.wire (Polling.fetch g r)).Yields t o) (hm : Meets (.unsent kind) time t) :
  o.1 = .error (.source
    (SourceAdapter.errorOf (.unsent kind (SourceAdapter.requestTo w.source r url).url)))
  := by
  rw [Polling.fetch, hg, if_neg Bool.false_ne_true, wire_bind, wire_fetch] at h
  obtain ⟨t₁, x, t₂, rfl, hx, hrest⟩ := yields_bind.mp h
  obtain rfl := SourceAdapter.fetch_of_unsent hurl hx (List.forall_mem_append.mp hm).1
  generalize hfault : Http.Fault.unsent kind _ = fault at hrest ⊢
  have hverdict : (g.failure (SourceAdapter.errorOf fault)).1
      = .retry (Governor.countAfter g.failures) := by
    rw [Governor.failure, hg, SourceAdapter.isAuthentication_errorOf]
    rfl
  dsimp only at hrest
  rw [wire_bind] at hrest
  obtain ⟨t₃, u, t₄, rfl, hn, hend⟩ := yields_bind.mp hrest
  obtain ⟨rfl, rfl⟩ := yields_pure.mp hend
  rw [hverdict, Polling.failureOf]

/-- Take two sources that differ in their credentials only, and one fetch from each of them, where
the requests meet the same fate. The same is returned and noted if and only if the credentials are
equal, or no request is made, as the circuit is open or the address is none, or the requests get a
reply. -/
theorem fetch_same_iff {a b : String}
    (h₁ : ((w.withToken a).wire (Polling.fetch g r)).Yields t₁ o₁) (hm₁ : Meets f time t₁)
    (h₂ : ((w.withToken b).wire (Polling.fetch g r)).Yields t₂ o₂) (hm₂ : Meets f time t₂) :
  (o₁ = o₂ ∧ notes t₁ = notes t₂)
    ↔ (a = b ∨ g.terminated = true ∨ Http.Url.parse? (SourceAdapter.endpoint w.source) = none
      ∨ ∀ kind, f ≠ .unsent kind)
  := by
  constructor
  · -- without a reply the failure has the address in it, and the address the credential
    rintro ⟨ho, -⟩
    by_contra! hcon
    obtain ⟨hne, hg, haddress, kind, rfl⟩ := hcon
    rw [ne_eq, Bool.not_eq_true] at hg
    obtain ⟨url, hurl⟩ := Option.ne_none_iff_exists'.mp haddress
    have he₁ := failure_of_unsent (w := w.withToken a) hg hurl h₁ hm₁
    have he₂ := failure_of_unsent (w := w.withToken b) hg hurl h₂ hm₂
    rw [ho, he₂, Except.error.injEq, Failure.source.injEq] at he₁
    have hdetail := congrArg SourceError.detail he₁
    rw [SourceAdapter.detail_errorOf, SourceAdapter.detail_errorOf] at hdetail
    apply hne
    exact (SourceAdapter.token_of_requestTo (Http.Fault.text_unsent hdetail)).symm
  · rintro (rfl | hg | hurl | hf)
    · obtain ⟨rfl, rfl⟩ := unique_of_meets plain_wire_fetch h₁ hm₁ h₂ hm₂
      exact ⟨rfl, rfl⟩
    · rw [Polling.fetch, if_pos hg] at h₁ h₂
      obtain ⟨rfl, rfl⟩ := yields_pure.mp h₁
      obtain ⟨rfl, rfl⟩ := yields_pure.mp h₂
      exact ⟨rfl, rfl⟩
    · rw [wire_of_parse_none hurl] at h₁
      obtain ⟨rfl, rfl⟩ := unique_of_meets plain_wire_fetch h₁ hm₁ h₂ hm₂
      exact ⟨rfl, rfl⟩
    · obtain ⟨t', h', hparallel⟩ := parallel_of_yields (b := b) h₁
      obtain ⟨rfl, rfl⟩ := unique_of_meets plain_wire_fetch h' (hparallel.meets hf hm₁) h₂ hm₂
      exact ⟨rfl, hparallel.notes_eq⟩

/-! ### Sites without servers -/

theorem servers_changeFiles (site : Site) (r : Except FileFault FileTree) :
  (site.changeFiles r).2.servers = site.servers
  := by
  cases r <;> rfl

/-- At a site without servers every connection is refused. -/
theorem suits_answer {site : Site} (h : site.servers = []) (q : Device) :
  Suits (.unsent .connect) 0 ⟨q, (Site.answer q site).1⟩ ∧ (Site.answer q site).2.servers = []
  := by
  cases q with
  | http r =>
      have hrefused : Site.answer (.http r) site = (.none (.unsent .connect r.url), site) := by
        rw [Site.answer, Site.http, h]
        rfl
      rw [hrefused]
      exact ⟨rfl, h⟩
  | datagram server bytes timeoutMs =>
      refine ⟨trivial, ?_⟩
      rw [Site.answer, Site.datagram]
      split
      · apply h
      · split
        · split <;> apply h
        · apply h
  | makeDirectories path => exact ⟨trivial, h⟩
  | writeFile path content => exact ⟨trivial, (servers_changeFiles _ _).trans h⟩
  | rename source target => exact ⟨trivial, (servers_changeFiles _ _).trans h⟩
  | chance => exact ⟨trivial, h⟩
  | readFile path => exact ⟨trivial, h⟩
  | clock => exact ⟨rfl, h⟩
  | note n => exact ⟨trivial, h⟩
  | listen address => exact ⟨trivial, h⟩
  | pause => exact ⟨trivial, h⟩

theorem meets_transcript {site : Site} (h : site.servers = []) (d : DeviceWork α) :
  Meets (.unsent .connect) 0 (d.transcript Site.answer site)
  := by
  induction d generalizing site with
  | done a => apply List.forall_mem_nil
  | ask q next ih =>
      obtain ⟨hfirst, hrest⟩ := suits_answer h q
      exact List.forall_mem_cons.mpr ⟨hfirst, ih _ hrest⟩
  | abort => apply List.forall_mem_nil

/-- A wiring with a source that is not there. -/
def sample : Wiring :=
  ⟨{ url := "http://127.0.0.1:1" }, {}, "cursor", none⟩

/-- A fetch from the source that is not there. -/
def sampleFetch (token : String) : DeviceWork (Except Failure QueryLogPage × Governor) :=
  (sample.withToken token).wire (Polling.fetch (.new 3) ⟨1, 1⟩)

/-- Where connections are refused, different credentials are told apart. -/
theorem fetch_same_iff_of_refusal :
  ∃ t₁ t₂ o₁ o₂, (sampleFetch "first").Yields t₁ o₁ ∧ Meets (.unsent .connect) 0 t₁
    ∧ (sampleFetch "second").Yields t₂ o₂ ∧ Meets (.unsent .connect) 0 t₂
    ∧ ¬ (o₁ = o₂ ∧ notes t₁ = notes t₂)
  := by
  have hurl : Http.Url.parse? (SourceAdapter.endpoint sample.source)
      = some ⟨false, "127.0.0.1", some 1, "/api/logs/query".toList, none⟩ := by
    decide +kernel
  have hnone : ({} : Site).servers = [] := rfl
  have htotal (token : String) : (sampleFetch token).Total := plain_wire_fetch.total
  have h₁ := (htotal "first").yields_result Site.answer {}
  have h₂ := (htotal "second").yields_result Site.answer {}
  have hm₁ := meets_transcript hnone (sampleFetch "first")
  have hm₂ := meets_transcript hnone (sampleFetch "second")
  refine ⟨_, _, _, _, h₁, hm₁, h₂, hm₂, ?_⟩
  rw [fetch_same_iff h₁ hm₁ h₂ hm₂]
  rintro (htoken | hopen | haddress | hreply)
  · revert htoken
    decide
  · cases hopen
  · cases hurl.symm.trans haddress
  · exact hreply .connect rfl

/-- The log lines of a fetch from the source that is not there, the last one first: that of the
fetch, and that of the job whose cycle fails with it. -/
def sampleLog (token : String) : List LogLine :=
  let work : Work Unit := do
    match ← Polling.fetch (.new 3) ⟨1, 1⟩ with
    | (.error e, _) => Job.noteFailure e
    | (.ok _, _) => return
  (Site.hold {} ((sample.withToken token).wire work)).2.journal.lines

/-- Where connections are refused, the credential is in the log lines. -/
theorem credential_in_log :
  (sampleLog "s3cret").map (fun l => (l.message, l.fields.lookup "error")) = [
      ("Ship cycle failed; retrying next interval",
        some (.text ("Network error reaching query log source: error sending request for url ("
          ++ "http://127.0.0.1:1/api/logs/query?token=s3cret&name=Query+Logs+%28Sqlite%29"
          ++ "&classPath=QueryLogsSqlite.App&pageNumber=1&entriesPerPage=1)"))),
      ("Query log fetch failed",
        some (.text ("Network error reaching query log source: error sending request for url ("
          ++ "http://127.0.0.1:1/api/logs/query?token=s3cret&name=Query+Logs+%28Sqlite%29"
          ++ "&classPath=QueryLogsSqlite.App&pageNumber=1&entriesPerPage=1)")))]
    ∧ sampleLog "s3cret" ≠ sampleLog "other"
  := by
  decide +kernel

end Wiring

end LogCourier
