import LogCourier.Proofs.Grouping
import LogCourier.Proofs.Rehearsals
import LogCourier.Proofs.Trimming

/-!
# Names are looked up once

A history of questions for the names of clients (`HostnameCache.Visits`), along which whoever
resolves addresses may answer as it likes, and otherwise from one moment to the next. A client that
was asked for before gets the name it got then, and nobody is asked
(`HostnameCache.Visits.middle`). Any other client is looked up if its text is an address, and goes
by what the answer makes of it (`HostnameCache.Visit.Opens`).

So the addresses that are looked up are those of the different clients, in the order in which they
were first asked for, and the names that are remembered are theirs
(`HostnameCache.looks_up_once`).
-/

namespace LogCourier

open Dialogue Work
open Rehearsal (World)

namespace Work

variable {t t' : Transcript}

/-- The lookup in an exchange, if it is one. -/
def lookup? : Exchange → Option (IpAddress × Except Failure (Option String))
  | ⟨.lookup ip, answer⟩ => some (ip, answer)
  | _ => none

/-- The addresses that were looked up, with the answers. -/
def lookups (t : Transcript) : List (IpAddress × Except Failure (Option String)) :=
  t.filterMap lookup?

@[simp]
theorem lookups_append :
  lookups (t ++ t') = lookups t ++ lookups t'
  := List.filterMap_append

theorem lookups_of_note {w : Work Unit} (hw : Uses [.note] w) (h : w.Yields t ()) :
  lookups t = []
  := by
  apply filterMap_of_within (k := .lookup) _ (hw.within h) (by decide)
  rintro ⟨q, x⟩ hne
  cases q with
  | lookup ip => exact absurd rfl hne
  | _ => rfl

end Work

namespace HostnameCache

variable {cache cache₁ cache' : HostnameCache} {client name : String} {t : Transcript}

/-- The name that a client goes by after the answer to a lookup: the name in the answer without the
dots at its end, if anything else is in it, and the client itself in every other case. -/
inductive GoesBy (client : String) : Except Failure (Option String) → String → Prop
  | host {full name : String} (h : Text.IsStem '.' full name) (hne : name ≠ "") :
      GoesBy client (.ok (some full)) name
  | dots {full : String} (h : Text.IsStem '.' full "") : GoesBy client (.ok (some full)) client
  | nameless : GoesBy client (.ok none) client
  | failed (e : Failure) : GoesBy client (.error e) client

theorem goesBy_nameOf (answer : Option String) :
  GoesBy client (.ok answer) (nameOf client answer)
  := by
  cases answer with
  | none => apply GoesBy.nameless
  | some full =>
      have hstem := Text.isStem_iff.mpr (Eq.refl (Text.dropTrailing '.' full))
      rw [nameOf]
      split
      · next h =>
        rw [String.isEmpty_iff.mp h] at hstem
        apply GoesBy.dots hstem
      · next h =>
        apply GoesBy.host hstem
        intro hnil
        exact h (String.isEmpty_iff.mpr hnil)

/-! ### One question -/

/-- A question for the name of a client, with what was asked of the outside world meanwhile, and the
name that was told. -/
structure Visit where
  client : String
  transcript : Transcript
  name : String

/-- The question is the first one for its client: an address is looked up, once, and the answer
gives the name, and any other text is its own name. -/
inductive Visit.Opens (v : Visit) : Prop
  | address {ip : IpAddress} {answer : Except Failure (Option String)}
      (hip : IpAddress.parse? v.client = some ip) (hlookup : lookups v.transcript = [(ip, answer)])
      (hname : GoesBy v.client answer v.name)
  | text (hip : IpAddress.parse? v.client = none) (hlookup : lookups v.transcript = [])
      (hname : v.name = v.client)

/-- A lookup of a client is the first question for it. -/
theorem opens_of_yields_lookup (h : (lookup client).Yields t name) {n : Transcript}
    (hn : lookups n = []) :
  Visit.Opens ⟨client, t ++ n, name⟩
  := by
  rw [lookup] at h
  split at h
  · next hip =>
    obtain ⟨n', u, t', rfl, hn', hr⟩ := yields_bind.mp h
    obtain ⟨rfl, rfl⟩ := yields_pure.mp hr
    refine .text hip ?_ rfl
    rw [lookups_append, lookups_append, lookups_of_note (uses_log _ _ _) hn', hn]
    rfl
  · next ip hip =>
    obtain ⟨answer, t', rfl, hx⟩ := yields_question_bind.mp h
    have hlookup : lookups t' = [] →
        lookups (⟨.lookup ip, answer⟩ :: t' ++ n) = [(ip, answer)] := by
      intro hnone
      change (ip, answer) :: lookups (t' ++ n) = _
      rw [lookups_append, hnone, hn]
      rfl
    cases answer with
    | ok answer =>
        obtain ⟨rfl, rfl⟩ := yields_pure.mp hx
        exact .address hip (hlookup rfl) (goesBy_nameOf answer)
    | error e =>
        obtain ⟨n', u, t'', rfl, hn', hr⟩ := yields_bind.mp hx
        obtain ⟨rfl, rfl⟩ := yields_pure.mp hr
        refine .address hip (hlookup ?_) (.failed e)
        rw [lookups_append, lookups_of_note (uses_log _ _ _) hn']
        rfl

/-- The addresses that the first question for a client looks up. -/
theorem Visit.Opens.addresses {v : Visit} (h : v.Opens) :
  (lookups v.transcript).map Prod.fst = (IpAddress.parse? v.client).toList
  := by
  cases h with
  | address hip hlookup hname =>
      rw [hip, hlookup]
      rfl
  | text hip hlookup hname =>
      rw [hip, hlookup]
      rfl

/-- How a question goes: the client has a name, and nobody is asked, or the question is the first
one for it, and its name is remembered. -/
inductive Visit.Goes (cache : HostnameCache) (v : Visit) : HostnameCache → Prop
  | recalls (hknown : cache.get? v.client = some v.name) (hlookup : lookups v.transcript = []) :
      v.Goes cache cache
  | learns (hnew : cache.get? v.client = none) (hopens : v.Opens) :
      v.Goes cache (cache.insert v.client v.name)

theorem goes_of_yields {v : Visit}
    (h : (cache.hostname v.client).Yields v.transcript (v.name, cache')) :
  v.Goes cache cache'
  := by
  obtain ⟨client, t, name⟩ := v
  cases resolved_of_yields h with
  | remembered hknown => exact .recalls hknown rfl
  | learnt hnew hl hn =>
      exact .learns hnew (opens_of_yields_lookup hl (lookups_of_note (uses_record _) hn))

/-! ### Histories -/

/-- Questions one after the other, from some remembered names to others. -/
inductive Visits : HostnameCache → List Visit → HostnameCache → Prop
  | nil {cache : HostnameCache} : Visits cache [] cache
  | cons {cache cache₁ cache' : HostnameCache} {v : Visit} {vs : List Visit}
      (h : (cache.hostname v.client).Yields v.transcript (v.name, cache₁))
      (hs : Visits cache₁ vs cache') : Visits cache (v :: vs) cache'

/-- The clients that have no name yet, each of them once. -/
def fresh (cache : HostnameCache) (clients : List String) : List String :=
  (clients.filter fun client => (cache.get? client).isNone).eraseDups

theorem size_insert :
  (cache.insert client name).size = cache.size + 1
  := rfl

theorem fresh_empty (clients : List String) :
  empty.fresh clients = clients.eraseDups
  := congrArg List.eraseDups (List.filter_eq_self.mpr fun _ _ => rfl)

theorem fresh_cons_of_some {clients : List String} (h : cache.get? client = some name) :
  cache.fresh (client :: clients) = cache.fresh clients
  := by
  rw [fresh, List.filter_cons_of_neg, fresh]
  rw [h]
  exact Bool.false_ne_true

theorem fresh_cons_of_none {clients : List String} (h : cache.get? client = none) (name : String) :
  cache.fresh (client :: clients) = client :: (cache.insert client name).fresh clients
  := by
  rw [fresh, List.filter_cons_of_pos (by rw [h]; rfl), List.eraseDups_cons, fresh,
    List.filter_filter]
  congr 2
  apply List.filter_congr
  intro c _
  rw [get?_insert]
  by_cases hc : c = client
  · rw [if_pos hc, hc, beq_self_eq_true]
    rfl
  · rw [if_neg hc, beq_eq_false_iff_ne.mpr hc]
    rfl

namespace Visits

variable {v : Visit} {vs vs' : List Visit}

theorem split (h : Visits cache (vs ++ vs') cache') :
  ∃ cache₁, Visits cache vs cache₁ ∧ Visits cache₁ vs' cache'
  := by
  induction vs generalizing cache with
  | nil => exact ⟨cache, .nil, h⟩
  | cons v vs ih =>
      cases h with
      | cons hv hs =>
          obtain ⟨cache₁, hfirst, hrest⟩ := ih hs
          exact ⟨cache₁, .cons hv hfirst, hrest⟩

/-- What is remembered after a history: the names from before, and for any other client that was
asked for the name that was told. -/
theorem get?_eq (h : Visits cache vs cache') (client : String) :
  cache'.get? client
    = (cache.get? client).or ((vs.find? fun v => v.client = client).map Visit.name)
  := by
  induction h with
  | nil => rw [List.find?_nil, Option.map_none, Option.or_none]
  | @cons cache cache₁ cache' v vs hv hs ih =>
      rw [ih]
      by_cases hclient : v.client = client
      · have hfind : (v :: vs).find? (fun v => v.client = client) = some v :=
          List.find?_cons_of_pos (decide_eq_true hclient)
        rw [hfind, Option.map_some, ← hclient]
        cases goes_of_yields hv with
        | recalls hknown hlookup => rw [hknown, Option.some_or, Option.some_or]
        | learns hnew hopens =>
            rw [hnew, Option.none_or, get?_insert, if_pos rfl, Option.some_or]
      · rw [List.find?_cons_of_neg (by simpa using hclient)]
        cases goes_of_yields hv with
        | recalls hknown hlookup => rfl
        | learns hnew hopens => rw [get?_insert, if_neg (Ne.symm hclient)]

/-- The clients that are looked up and whose names are learnt are those without a name, each of them
once. -/
theorem looks_up (h : Visits cache vs cache') :
  (vs.flatMap fun v => lookups v.transcript).map Prod.fst
      = (cache.fresh (vs.map Visit.client)).filterMap IpAddress.parse?
    ∧ cache'.size = cache.size + (cache.fresh (vs.map Visit.client)).length
  := by
  induction h with
  | nil => exact ⟨rfl, rfl⟩
  | @cons cache cache₁ cache' v vs hv hs ih =>
      obtain ⟨hlookups, hsize⟩ := ih
      rw [List.flatMap_cons, List.map_append, hlookups, hsize, List.map_cons]
      cases goes_of_yields hv with
      | recalls hknown hlookup =>
          rw [fresh_cons_of_some hknown]
          constructor
          · rw [hlookup, List.map_nil, List.nil_append]
          · rfl
      | learns hnew hopens =>
          rw [fresh_cons_of_none hnew v.name, hopens.addresses, List.filterMap_cons,
            List.length_cons]
          constructor
          · cases IpAddress.parse? v.client <;> rfl
          · rw [size_insert]
            omega

/-- How a question in a history goes: a client that was asked for before has the name that it got
then, and the first question for a client is told apart by its lookup. -/
theorem middle {front rest : List Visit} (h : Visits .empty (front ++ v :: rest) cache') :
  (∀ u, front.find? (fun u => u.client = v.client) = some u →
      v.name = u.name ∧ lookups v.transcript = [])
    ∧ ((∀ u ∈ front, u.client ≠ v.client) → v.Opens)
  := by
  obtain ⟨cache₁, hfront, hrest⟩ := h.split
  have hget := hfront.get?_eq v.client
  cases hrest with
  | cons hv hs =>
      constructor
      · intro u hu
        rw [hu] at hget
        cases goes_of_yields hv with
        | recalls hknown hlookup =>
            rw [hknown] at hget
            exact ⟨Option.some.inj hget, hlookup⟩
        | learns hnew hopens => cases hnew.symm.trans hget
      · intro hother
        have hnone : front.find? (fun u => u.client = v.client) = none := by
          simpa using hother
        rw [hnone] at hget
        cases goes_of_yields hv with
        | recalls hknown hlookup => cases hknown.symm.trans hget
        | learns hnew hopens => exact hopens

end Visits

/-- The names of clients, over any history of questions and whoever answers the lookups, in
whatever way at each moment. A question for a client that was asked for before gets the name that
its first question got, and looks nothing up. The first question for a client looks up its address
once, if its text is one, and gets the name in the answer without the dots at its end; if nothing is
left of it, or there is none, or the lookup fails, and for every text that is no address, the client
is its own name. So the lookups are those of the different clients, each once, in the order in which
they come up, and as many names are remembered as there are different clients. -/
theorem looks_up_once {vs : List Visit} (h : Visits .empty vs cache) :
  (∀ front v rest, vs = front ++ v :: rest →
      (∀ u, front.find? (fun u => u.client = v.client) = some u →
        v.name = u.name ∧ lookups v.transcript = [])
      ∧ ((∀ u ∈ front, u.client ≠ v.client) → v.Opens))
    ∧ (vs.flatMap fun v => lookups v.transcript).map Prod.fst
      = (vs.map Visit.client).eraseDups.filterMap IpAddress.parse?
    ∧ cache.size = (vs.map Visit.client).eraseDups.length
  := by
  obtain ⟨hlookups, hsize⟩ := h.looks_up
  rw [fresh_empty] at hlookups hsize
  refine ⟨?_, hlookups, by rw [hsize, empty, size, List.length_nil, Nat.zero_add]⟩
  rintro front v rest rfl
  exact h.middle

/-! ### Histories in scripted worlds -/

/-- Questions for the names of clients, each in a scripted world of its own. -/
def rehearse : HostnameCache → List (String × World) → List Visit × HostnameCache
  | cache, [] => ([], cache)
  | cache, (client, w) :: questions =>
    let (name, cache₁) := (uses_hostname cache client).total.result World.answer w
    let (vs, cache') := cache₁.rehearse questions
    (⟨client, (cache.hostname client).transcript World.answer w, name⟩ :: vs, cache')

theorem visits_rehearse (cache : HostnameCache) (questions : List (String × World)) :
  Visits cache (cache.rehearse questions).1 (cache.rehearse questions).2
  := by
  induction questions generalizing cache with
  | nil => apply Visits.nil
  | cons question questions ih =>
      apply Visits.cons
      · exact (uses_hostname cache _).total.yields_result World.answer _
      · apply ih

/-- Two spellings of an address are two clients. The one that was named keeps its name when lookups
begin to fail, and the one whose lookup failed keeps none when there is a name. -/
theorem looks_up_once_of_spellings :
  let world := fun (cue : Rehearsal.HostCue) => { World.new .zero with hosts := [("::1", cue)] }
  let questions := [("::1", world (.name "router..")), ("0::1", world (.fail .queryTimeout)),
    ("printer", world (.name "router")), ("0::1", world (.name "router")),
    ("::1", world (.name "other")), ("::01", world (.name "..."))]
  let vs := (empty.rehearse questions).1
  vs.map Visit.name = ["router", "0::1", "printer", "0::1", "router", "::01"]
    ∧ (vs.flatMap fun v => lookups v.transcript).length = 3
    ∧ (empty.rehearse questions).2.size = 4
  := by
  intro world questions vs
  obtain ⟨-, hlookups, hsize⟩ := looks_up_once (visits_rehearse empty questions)
  have hclients : vs.map Visit.client = ["::1", "0::1", "printer", "0::1", "::1", "::01"] := rfl
  rw [hclients] at hlookups hsize
  refine ⟨?_, ?_, ?_⟩
  · decide +kernel
  · rw [← List.length_map Prod.fst, hlookups]
    decide +kernel
  · rw [hsize]
    decide +kernel

end HostnameCache

end LogCourier
