import LogCourier.Proofs.SubBatches

/-!
# Streams group the entries

The entries with readable times are grouped by the identity of their labels. The stream of the
first entry takes up all entries with its identity, and the others are grouped as if these were not
there (`Formatting.streamsOf_cons`). So the streams are what a grouping is declared to be
(`Formatting.Grouped`): there is one stream for each identity, in the order in which the identities
come up, and it has the lines of the entries with this identity, in their order
(`Formatting.groups_readable`).
-/

namespace LogCourier

open Dialogue Work
open Rehearsal (World)

/-- The identity of a stream. -/
def LogStream.identity (s : LogStream) : String :=
  s.labels.canonical

namespace NamedEntry

/-- The labels of an entry. -/
def labels (job : String) (n : NamedEntry) : LabelSet :=
  Formatting.labels job n.entry n.name

/-- The identity of the stream that an entry belongs to. -/
def identity (job : String) (n : NamedEntry) : String :=
  (n.labels job).canonical

end NamedEntry

namespace Formatting

variable {job : String} {cache cache' : HostnameCache} {entries : List LogEntry}
  {streams : List LogStream} {n : NamedEntry} {ns : List NamedEntry} {t : Transcript}

/-! ### Grouping by identity -/

theorem file_cons (n : NamedEntry) (s : LogStream) (streams : List LogStream) :
  n.file job (s :: streams)
    = if s.identity = n.identity job then { s with values := s.values ++ [n.value] } :: streams
      else s :: n.file job streams
  := by
  rw [NamedEntry.file, file, LogStream.identity, NamedEntry.identity, NamedEntry.labels]
  rfl

/-- The first stream takes up the entries with its identity, and the others go on as if these
were not there. -/
theorem streamsOf_cons (s : LogStream) (streams : List LogStream) (ns : List NamedEntry) :
  streamsOf job (s :: streams) ns
    = ⟨s.labels, s.values ++ (ns.filter fun n => n.identity job = s.identity).map NamedEntry.value⟩
      :: streamsOf job streams (ns.filter fun n => n.identity job ≠ s.identity)
  := by
  induction ns generalizing s streams with
  | nil =>
      rw [List.filter_nil, List.map_nil, List.append_nil]
      rfl
  | cons n ns ih =>
      rw [streamsOf, List.foldl_cons, ← streamsOf, file_cons, List.filter_cons, List.filter_cons]
      by_cases h : n.identity job = s.identity
      · rw [if_pos h.symm, ih, if_pos (decide_eq_true h), if_neg (by simpa using h), List.map_cons,
          List.append_cons _ _ (List.map _ _)]
        rfl
      · rw [if_neg (Ne.symm h), ih, if_neg (by simpa using h), if_pos (decide_eq_true h)]
        rfl

/-- The stream of the first entry, in front of those of the entries with other identities. -/
theorem streamsOf_nil_cons (n : NamedEntry) (ns : List NamedEntry) :
  streamsOf job [] (n :: ns)
    = ⟨n.labels job,
        ((n :: ns).filter fun n' => n'.identity job = n.identity job).map NamedEntry.value⟩
      :: streamsOf job [] (ns.filter fun n' => n'.identity job ≠ n.identity job)
  := by
  rw [List.filter_cons, if_pos (decide_eq_true (Eq.refl (n.identity job))), List.map_cons]
  exact streamsOf_cons ⟨n.labels job, [n.value]⟩ [] ns

/-- The streams group the entries: there is one stream for each identity, in the order in which the
identities come up. It has the lines of the entries with this identity, in their order, under the
labels of the first of them. -/
structure Grouped (job : String) (ns : List NamedEntry) (streams : List LogStream) : Prop where
  identities : streams.map LogStream.identity = (ns.map (NamedEntry.identity job)).eraseDups
  distinct : streams.Pairwise fun s s' => s.identity ≠ s'.identity
  values : ∀ s ∈ streams,
    s.values = (ns.filter fun n => n.identity job = s.identity).map NamedEntry.value
  labels : ∀ s ∈ streams, ∃ n, ns.find? (fun n => n.identity job = s.identity) = some n
    ∧ s.labels = n.labels job

namespace Grouped

theorem nil :
  Grouped job [] []
  where
  identities := rfl
  distinct := .nil
  values := List.forall_mem_nil _
  labels := List.forall_mem_nil _

/-- The identity of a stream is that of an entry. -/
theorem exists_mem_of_mem (h : Grouped job ns streams) {s : LogStream} (hs : s ∈ streams) :
  ∃ n ∈ ns, n.identity job = s.identity
  := by
  obtain ⟨n, hn, -⟩ := h.labels s hs
  use n, List.mem_of_find?_eq_some hn
  simpa using List.find?_some hn

/-- No stream is without lines. -/
theorem values_ne_nil (h : Grouped job ns streams) {s : LogStream} (hs : s ∈ streams) :
  s.values ≠ []
  := by
  obtain ⟨n, hn, hidentity⟩ := h.exists_mem_of_mem hs
  have hmem : n ∈ ns.filter fun n => n.identity job = s.identity := by
    apply List.mem_filter.mpr
    use hn
    apply decide_eq_true hidentity
  rw [h.values s hs]
  intro hnil
  rw [List.map_eq_nil_iff.mp hnil] at hmem
  cases hmem

/-- One more stream, of the first entry and the others with its identity, in front of the streams
of the entries without them. -/
theorem cons {s : LogStream} (hlabels : s.labels = n.labels job)
    (hvalues : s.values
      = ((n :: ns).filter fun n' => n'.identity job = n.identity job).map NamedEntry.value)
    (h : Grouped job (ns.filter fun n' => n'.identity job ≠ n.identity job) streams) :
  Grouped job (n :: ns) (s :: streams)
  := by
  have hfirst : n.identity job = s.identity := by
    rw [LogStream.identity, hlabels, NamedEntry.identity]
  rw [hfirst] at hvalues h
  have hother : ∀ s' ∈ streams, s.identity ≠ s'.identity := by
    intro s' hs'
    obtain ⟨n', hn', hidentity⟩ := h.exists_mem_of_mem hs'
    rw [← hidentity]
    exact (of_decide_eq_true (List.mem_filter.mp hn').2).symm
  -- without the entries of the first stream the other streams lack nothing
  have hkept : ∀ s' ∈ streams,
      (ns.filter fun n' => n'.identity job ≠ s.identity).filter
        (fun n' => n'.identity job = s'.identity)
      = (n :: ns).filter fun n' => n'.identity job = s'.identity := by
    intro s' hs'
    have hne := hother s' hs'
    rw [List.filter_cons_of_neg (by rw [hfirst]; simpa using hne), List.filter_filter]
    apply List.filter_congr
    intro n' _
    by_cases hidentity : n'.identity job = s'.identity
    · rw [hidentity, decide_eq_true hne.symm, Bool.and_true]
    · rw [decide_eq_false hidentity, Bool.false_and]
  constructor
  · have hne : (ns.filter fun n' => n'.identity job ≠ s.identity)
        = ns.filter ((fun identity => !identity == s.identity) ∘ NamedEntry.identity job) := by
      apply List.filter_congr
      intro n' _
      simp [Function.comp, beq_eq_decide]
    rw [List.map_cons, List.map_cons, List.eraseDups_cons, h.identities, List.filter_map, hfirst,
      hne]
  · exact List.pairwise_cons.mpr ⟨hother, h.distinct⟩
  · intro s' hs'
    rcases List.mem_cons.mp hs' with rfl | hs'
    · exact hvalues
    · rw [h.values s' hs', hkept s' hs']
  · intro s' hs'
    rcases List.mem_cons.mp hs' with rfl | hs'
    · exact ⟨n, List.find?_cons_of_pos (decide_eq_true hfirst), hlabels⟩
    · obtain ⟨n', hn', hlabels'⟩ := h.labels s' hs'
      use n'
      rw [← List.head?_filter, ← hkept s' hs', List.head?_filter]
      exact ⟨hn', hlabels'⟩

end Grouped

/-- The streams of any entries group them. -/
theorem grouped_streamsOf (ns : List NamedEntry) :
  Grouped job ns (streamsOf job [] ns)
  := by
  cases ns with
  | nil => exact Grouped.nil
  | cons n ns =>
      rw [streamsOf_nil_cons]
      apply Grouped.cons
      · rfl
      · dsimp only
      · apply grouped_streamsOf
termination_by ns.length
decreasing_by exact Nat.lt_succ_of_le (List.length_filter_le _ ns)

/-! ### Whom a lookup is about -/

/-- If the call looks up an address, then it is the one of a client in the entries. -/
def Seeks (es : List LogEntry) : Call → Prop
  | .lookup ip => ∃ e ∈ es, IpAddress.parse? e.clientIp = some ip
  | _ => True

theorem Seeks.mono {es es' : List LogEntry} {q : Call} (h : Seeks es q) (hsub : es ⊆ es') :
  Seeks es' q
  := by
  cases q with
  | lookup ip =>
      obtain ⟨e, he, hip⟩ := h
      exact ⟨e, hsub he, hip⟩
  | _ => trivial

theorem seeks_of_note {α : Type} {es : List LogEntry} {w : Work α} (h : Uses [.note] w) :
  w.Confined (Seeks es)
  := by
  apply Confined.mono h _ (by decide)
  intro q hq
  cases q <;> trivial

theorem seeks_hostname (e : LogEntry) :
  (cache.hostname e.clientIp).Confined (Seeks [e])
  := by
  rw [HostnameCache.hostname]
  split
  · apply confined_pure
  · apply Confined.bind
    · rw [HostnameCache.lookup]
      split
      · exact seeks_of_note ((uses_log _ _ _).bind fun _ => confined_pure)
      · next ip hip =>
        apply Confined.bind
        · exact confined_question.mpr ⟨e, List.mem_cons_self, hip⟩
        · rintro (error | name)
          · exact seeks_of_note ((uses_log _ _ _).bind fun _ => confined_pure)
          · apply confined_pure
    · intro name
      exact seeks_of_note ((uses_record _).bind fun _ => confined_pure)

theorem seeks_group :
  (group job entries cache streams).Confined (Seeks (readable entries))
  := by
  induction entries generalizing cache streams with
  | nil => apply confined_pure
  | cons e entries ih =>
      rw [group]
      split
      · next m hm =>
        rw [readable_cons_of_error hm]
        apply Confined.bind (seeks_of_note (uses_noteMalformed e m))
        intro _
        exact ih
      · next nanos hnanos =>
        rw [readable_cons_of_ok hnanos]
        apply Confined.bind
        · apply (seeks_hostname e).mono
          intro q hq
          apply hq.mono (List.cons_subset_cons e (List.nil_subset _))
        · rintro ⟨name, cache₁⟩
          apply Confined.bind (seeks_of_note (uses_record _))
          intro _
          apply ih.mono
          intro q hq
          apply hq.mono (List.subset_cons_self e _)

/-- Only names of clients in readable entries are looked up. -/
theorem seeks_format :
  (format job cache entries).Confined (Seeks (readable entries))
  := seeks_group.bind fun _ => confined_pure

/-! ### What formatting makes of entries -/

/-- A sub-batch is pushed if and only if it has a readable time. -/
theorem pushes_ne_nil_iff {outcome : Except Failure Unit}
    (h : (Shipping.deliver job cache entries).Yields t (outcome, cache')) :
  pushes t ≠ [] ↔ readable entries ≠ []
  := by
  have hpushed := Shipping.pushed_of_yields h
  rw [Ne, Ne, readable_eq_nil_iff]
  generalize pushes t = ps at hpushed
  cases hpushed with
  | nothing hbad => exact iff_of_false (not_not_intro rfl) (not_not_intro hbad)
  | request hgood hns => exact iff_of_true (List.cons_ne_nil _ _) hgood

/-- What formatting makes of entries, for every resolver and all names remembered. The entries with
a readable time are named, by the names that are remembered then, and grouped by the identities of
their labels, so that every one has its line in one stream and nothing else has. A sub-batch is
pushed if and only if there are such entries, and names are looked up and learnt only for them. -/
theorem groups_readable {request : PushRequest}
    (h : (format job cache entries).Yields t (request, cache')) :
  ∃ ns, ns.map NamedEntry.entry = readable entries
    ∧ (∀ n ∈ ns, cache'.get? n.entry.clientIp = some n.name)
    ∧ Grouped job ns request.streams ∧ (∀ s ∈ request.streams, s.values ≠ [])
    ∧ request.entryCount = (readable entries).length
    ∧ (∀ u outcome cache'', (Shipping.deliver job cache entries).Yields u (outcome, cache'') →
      (pushes u ≠ [] ↔ readable entries ≠ []))
    ∧ (∀ ip name, ⟨.lookup ip, name⟩ ∈ t →
      ∃ e ∈ readable entries, IpAddress.parse? e.clientIp = some ip)
    ∧ (∀ client, cache'.get? client ≠ cache.get? client →
      ∃ e ∈ readable entries, e.clientIp = client)
  := by
  have hcount := entryCount_of_yields_format h
  obtain ⟨ns, hns, hlearns, rfl⟩ := exists_learnt_of_yields_format h
  have hgrouped : Grouped job ns (streamsOf job [] ns) := grouped_streamsOf ns
  refine ⟨ns, hns, hlearns.knows, hgrouped, fun s hs => hgrouped.values_ne_nil hs, hcount, ?_, ?_,
    ?_⟩
  · intro u outcome cache'' hu
    apply pushes_ne_nil_iff hu
  · intro ip name hmem
    exact h.of_confined seeks_format _ hmem
  · intro client hne
    obtain ⟨n, hn, rfl⟩ := hlearns.learnt client hne
    refine ⟨n.entry, ?_, rfl⟩
    have hmem : n.entry ∈ ns.map NamedEntry.entry := List.mem_map_of_mem hn
    rwa [hns] at hmem

/-- Entries of two streams come in turns, with one between them that has no readable time, whose
client is not looked up. -/
theorem groups_readable_of_turns :
  let entry := fun (row : UInt64) (client qtype : String) =>
    { Pipeline.sampleEntry row with clientIp := client, qtype := qtype }
  let entries := [entry 1 "10.0.0.1" "a", entry 2 "10.0.0.1" "AAAA",
    { entry 3 "10.0.0.3" "A" with timestamp := "?" }, entry 4 "10.0.0.1" "A"]
  ∃ t request cache', (format "dns" .empty entries).Yields t (request, cache')
    ∧ request.streams.map (fun s => s.values.length) = [2, 1] ∧ request.entryCount = 3
    ∧ (request.streams.Pairwise fun s s' => s.identity ≠ s'.identity)
    ∧ cache'.get? "10.0.0.1" = some "router"
    ∧ (∀ client, cache'.get? client ≠ none → ∃ e ∈ readable entries, e.clientIp = client)
  := by
  intro entry entries
  let w := { World.new .zero with hosts := [("10.0.0.1", .name "router.")] }
  obtain ⟨⟨request, cache'⟩, h, hlengths, hname⟩ := exists_yields_of_any World.answer
    (format "dns" .empty entries) w
    (P := fun x => x.1.streams.map (fun s => s.values.length) = [2, 1]
      ∧ x.2.get? "10.0.0.1" = some "router") (by decide +kernel)
  obtain ⟨ns, -, -, hgrouped, -, hcount, -, -, hlearnt⟩ := groups_readable h
  have hthree : (readable entries).length = 3 := by
    decide +kernel
  exact ⟨_, request, cache', h, hlengths, hcount.trans hthree, hgrouped.distinct, hname, hlearnt⟩

end Formatting

end LogCourier
