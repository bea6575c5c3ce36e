import LogCourier.Proofs.Formatting
import LogCourier.Proofs.Lookup

/-!
# What a request is made of

Once the names of clients are known a request is determined: it has the streams of the named
entries (`Formatting.streamsOf`), where the entries without a readable time are left out
(`Formatting.exists_named_of_yields_format`). The names are those remembered afterwards, and none
else are learnt (`HostnameCache.Learns`). Whatever the names, the lines of the request are those of
the entries, up to their order (`Formatting.perm_lines`).
-/

namespace LogCourier

open Dialogue Work

/-- An entry with a readable time, and the name of its client. -/
structure NamedEntry where
  entry : LogEntry
  nanos : Int
  readable : entry.nanos = .ok nanos
  name : String

namespace NamedEntry

/-- The time and the line of an entry, as a stream has them. -/
def value (n : NamedEntry) : String × String :=
  (Decimal.intText n.nanos, Formatting.line n.entry)

/-- Add an entry to the streams. -/
def file (job : String) (streams : List LogStream) (n : NamedEntry) : List LogStream :=
  Formatting.file (Formatting.labels job n.entry n.name) n.value.1 n.value.2 streams

end NamedEntry

namespace Formatting

variable {job : String} {cache cache' : HostnameCache} {entries : List LogEntry}
  {streams streams' : List LogStream} {t : Transcript}

/-- The streams of some entries, after the streams that are there already. -/
def streamsOf (job : String) (streams : List LogStream) (ns : List NamedEntry) :
  List LogStream :=
  ns.foldl (NamedEntry.file job) streams

/-- The entries with a readable time. -/
def readable (entries : List LogEntry) : List LogEntry :=
  entries.filter fun e => e.nanos.isOk

theorem readable_cons_of_error {e : LogEntry} {m : Timestamp.Malformed} (h : e.nanos = .error m) :
  readable (e :: entries) = readable entries
  := by
  rw [readable, List.filter_cons_of_neg]
  · rfl
  · rw [h]
    exact Bool.false_ne_true

theorem readable_cons_of_ok {e : LogEntry} {nanos : Int} (h : e.nanos = .ok nanos) :
  readable (e :: entries) = e :: readable entries
  := by
  rw [readable, List.filter_cons_of_pos]
  · rfl
  · rw [h]
    rfl

theorem readable_eq_nil_iff :
  readable entries = [] ↔ ∀ e ∈ entries, e.IsMalformed
  := by
  rw [readable, List.filter_eq_nil_iff]
  apply forall₂_congr
  intro e _
  rw [LogEntry.isMalformed_iff, Bool.not_eq_true]

/-- The entries are those of the list that have a readable time, in order. -/
def Names (entries : List LogEntry) (ns : List NamedEntry) : Prop :=
  ns.map NamedEntry.entry = entries.filter fun e => e.nanos.isOk

theorem Names.mem {ns : List NamedEntry} {n : NamedEntry} (h : Names entries ns) (hn : n ∈ ns) :
  n.entry ∈ entries
  := by
  have hmem : n.entry ∈ ns.map NamedEntry.entry := List.mem_map_of_mem hn
  rw [h] at hmem
  exact (List.mem_filter.mp hmem).1

theorem Names.cons_of_error {ns : List NamedEntry} {e : LogEntry} {m : Timestamp.Malformed}
    (h : Names entries ns) (he : e.nanos = .error m) :
  Names (e :: entries) ns
  := h.trans (readable_cons_of_error he).symm

theorem Names.cons {ns : List NamedEntry} (h : Names entries ns) (n : NamedEntry) :
  Names (n.entry :: entries) (n :: ns)
  := (congrArg (n.entry :: ·) h).trans (readable_cons_of_ok n.readable).symm

end Formatting

/-! ### The names of clients -/

namespace HostnameCache

variable {cache cache₁ cache' : HostnameCache} {ns : List NamedEntry} {t : Transcript}

theorem get?_insert (client name c : String) :
  (cache.insert client name).get? c = if c = client then some name else cache.get? c
  := lookup_cons_eq_ite c (client, name) cache.names

/-- What is remembered once some entries are named: what was remembered before, and the names of
these entries. -/
structure Learns (cache cache' : HostnameCache) (ns : List NamedEntry) : Prop where
  keeps : ∀ client name, cache.get? client = some name → cache'.get? client = some name
  knows : ∀ n ∈ ns, cache'.get? n.entry.clientIp = some n.name
  learnt : ∀ client, cache'.get? client ≠ cache.get? client → ∃ n ∈ ns, n.entry.clientIp = client

theorem Learns.nil :
  Learns cache cache []
  where
  keeps _ _ h := h
  knows := List.forall_mem_nil _
  learnt _ h := absurd rfl h

/-- One more entry is named before the others. -/
theorem Learns.cons {n : NamedEntry}
    (hn : (cache.hostname n.entry.clientIp).Yields t (n.name, cache₁))
    (h : Learns cache₁ cache' ns) :
  Learns cache cache' (n :: ns)
  := by
  have hname : cache₁.get? n.entry.clientIp = some n.name := by
    cases resolved_of_yields hn with
    | remembered hknown => exact hknown
    | learnt hnew hl hn => rw [get?_insert, if_pos rfl]
  have hother : ∀ client, client ≠ n.entry.clientIp → cache₁.get? client = cache.get? client := by
    intro client hne
    cases resolved_of_yields hn with
    | remembered hknown => rfl
    | learnt hnew hl hn => rw [get?_insert, if_neg hne]
  constructor
  · intro client name hget
    apply h.keeps
    cases resolved_of_yields hn with
    | remembered hknown => exact hget
    | learnt hnew hl hn =>
        rwa [hother]
        rintro rfl
        cases hnew.symm.trans hget
  · exact List.forall_mem_cons.mpr ⟨h.keeps _ _ hname, h.knows⟩
  · intro client hne
    by_cases hclient : client = n.entry.clientIp
    · exact ⟨n, List.mem_cons_self, hclient.symm⟩
    · rw [← hother client hclient] at hne
      obtain ⟨n', hn', hclient'⟩ := h.learnt client hne
      exact ⟨n', List.mem_cons_of_mem n hn', hclient'⟩

end HostnameCache

namespace Formatting

/-- Grouping looks up names, and all else about its streams depends on the entries only. -/
theorem exists_named_of_yields_group
    (h : (group job entries cache streams).Yields t (streams', cache')) :
  ∃ ns, Names entries ns ∧ cache.Learns cache' ns ∧ streams' = streamsOf job streams ns
  := by
  induction entries generalizing cache streams t with
  | nil =>
      obtain ⟨-, ho⟩ := yields_pure.mp h
      obtain ⟨rfl, rfl⟩ := Prod.mk.inj ho
      exact ⟨[], rfl, .nil, rfl⟩
  | cons e entries ih =>
      rw [group] at h
      split at h
      · next m hm =>
        obtain ⟨n, u, t', rfl, -, hr⟩ := yields_bind.mp h
        obtain ⟨ns, hns, hlearns, rfl⟩ := ih hr
        exact ⟨ns, hns.cons_of_error hm, hlearns, rfl⟩
      · next nanos hnanos =>
        obtain ⟨t₁, ⟨name, cache₁⟩, t', rfl, hname, hr⟩ := yields_bind.mp h
        obtain ⟨t₂, u, t'', rfl, -, hr⟩ := yields_bind.mp hr
        obtain ⟨ns, hns, hlearns, rfl⟩ := ih hr
        let n : NamedEntry := ⟨e, nanos, hnanos, name⟩
        exact ⟨n :: ns, hns.cons n, .cons (n := n) hname hlearns, rfl⟩

/-- A request has the streams of the entries under the names that are remembered then. -/
theorem exists_learnt_of_yields_format {request : PushRequest}
    (h : (format job cache entries).Yields t (request, cache')) :
  ∃ ns, Names entries ns ∧ cache.Learns cache' ns ∧ request = ⟨streamsOf job [] ns⟩
  := by
  obtain ⟨t₁, x, t₂, rfl, hg, hr⟩ := yields_bind.mp h
  obtain ⟨-, ho⟩ := yields_pure.mp hr
  obtain ⟨rfl, rfl⟩ := Prod.mk.inj ho
  obtain ⟨ns, hns, hlearns, hstreams⟩ := exists_named_of_yields_group hg
  exact ⟨ns, hns, hlearns, congrArg PushRequest.mk hstreams⟩

/-- A request has the streams of the entries under some names. -/
theorem exists_named_of_yields_format {request : PushRequest}
    (h : (format job cache entries).Yields t (request, cache')) :
  ∃ ns, Names entries ns ∧ request = ⟨streamsOf job [] ns⟩
  := by
  obtain ⟨ns, hns, -, hrequest⟩ := exists_learnt_of_yields_format h
  exact ⟨ns, hns, hrequest⟩

end Formatting

namespace LabelSet

/-- An inserted label has its value, and other labels keep theirs. -/
theorem lookup_insertPair (key value k : String) (l : List (String × String)) :
  (insertPair key value l).lookup k = if k = key then some value else l.lookup k
  := by
  induction l with
  | nil => rw [insertPair, lookup_cons_eq_ite]
  | cons p l ih =>
      obtain ⟨k', v⟩ := p
      rw [insertPair]
      split
      · rw [lookup_cons_eq_ite]
      · split
        · next heq =>
          subst heq
          rw [lookup_cons_eq_ite, lookup_cons_eq_ite]
          split <;> rfl
        · next hne =>
          rw [lookup_cons_eq_ite, lookup_cons_eq_ite, ih]
          split
          · next hk =>
            subst hk
            rw [if_neg (Ne.symm hne)]
          · rfl

theorem get?_insert (l : LabelSet) (key value k : String) :
  (l.insert key value).get? k = if k = key then some value else l.get? k
  := lookup_insertPair key value k l.pairs

end LabelSet

namespace Formatting

/-- The name of the client stands in one label only. -/
theorem get?_labels {key : String} (h : key ≠ "client_hostname") (e : LogEntry) (x y : String) :
  (labels job e x).get? key = (labels job e y).get? key
  := by
  simp only [labels, LabelSet.ofList, List.foldl_cons, List.foldl_nil, LabelSet.get?_insert,
    if_neg h]

/-! ### The lines of streams -/

theorem perm_lines_file (l : LabelSet) (nanos line : String) (streams : List LogStream) :
  ((file l nanos line streams).flatMap LogStream.values).Perm
    ((nanos, line) :: streams.flatMap LogStream.values)
  := by
  induction streams with
  | nil => apply List.Perm.refl
  | cons s streams ih =>
      rw [file]
      split
      · rw [List.flatMap_cons, List.flatMap_cons, LogStream.push, List.append_assoc]
        apply List.perm_middle
      · rw [List.flatMap_cons, List.flatMap_cons]
        exact (ih.append_left s.values).trans List.perm_middle

/-- The lines of the streams are those that were there and those of the entries. -/
theorem perm_lines (streams : List LogStream) (ns : List NamedEntry) :
  ((streamsOf job streams ns).flatMap LogStream.values).Perm
    (ns.map NamedEntry.value ++ streams.flatMap LogStream.values)
  := by
  induction ns generalizing streams with
  | nil => apply List.Perm.refl
  | cons n ns ih =>
      apply (ih (n.file job streams)).trans
      apply ((perm_lines_file _ _ _ _).append_left _).trans
      apply List.perm_middle

theorem entryCount_eq_length (streams : List LogStream) :
  (PushRequest.mk streams).entryCount = (streams.flatMap LogStream.values).length
  := by
  induction streams with
  | nil => rfl
  | cons s streams ih =>
      rw [List.flatMap_cons, List.length_append, ← ih]
      rfl

/-- A request has a line for every entry with a readable time. -/
theorem entryCount_of_yields_format {request : PushRequest}
    (h : (format job cache entries).Yields t (request, cache')) :
  request.entryCount = (readable entries).length
  := by
  obtain ⟨ns, hns, rfl⟩ := exists_named_of_yields_format h
  have hlength : ns.length = (readable entries).length := by
    rw [← List.length_map NamedEntry.entry, hns]
    rfl
  rw [entryCount_eq_length, (perm_lines [] ns).length_eq, List.flatMap_nil, List.append_nil,
    List.length_map, hlength]

/-- Every line of a request is that of an entry. -/
theorem exists_named_of_mem_values {ns : List NamedEntry} {s : LogStream} {v : String × String}
    (hs : s ∈ streamsOf job [] ns) (hv : v ∈ s.values) :
  ∃ n ∈ ns, v = n.value
  := by
  have hmem : v ∈ (streamsOf job [] ns).flatMap LogStream.values :=
    List.mem_flatMap.mpr ⟨s, hs, hv⟩
  rw [(perm_lines [] ns).mem_iff, List.flatMap_nil, List.append_nil] at hmem
  obtain ⟨n, hn, rfl⟩ := List.mem_map.mp hmem
  exact ⟨n, hn, rfl⟩

end Formatting

end LogCourier
