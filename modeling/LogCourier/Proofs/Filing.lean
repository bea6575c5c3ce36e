import LogCourier.Proofs.JsonRoundTrip
import LogCourier.Proofs.Streams

/-!
# Entries under their own labels

The identity of a set of labels has their values as they are, so a value may have in it what opens
the next label. A set with such a value shares its identity with another set
(`LabelSet.exists_other_of_not_isUnforged`), and sets without such values have different identities
if they differ (`LabelSet.IsUnforged.eq_of_canonical_eq`).

So the streams hold the entries under their own labels if and only if no identity is that of
different labels of two entries, as is the case when no label is forged (`Formatting.filed_iff`).
-/

namespace LogCourier

open Dialogue
open Rehearsal (World)

namespace LabelSet

variable {key : String} {pairs pairs' : List (String × String)} {l l' : LabelSet}

/-! ### Identities as they are spelled -/

/-- A label with its value in quotes. -/
def quoted (p : String × String) : List Char :=
  p.1.toList ++ ['=', '"'] ++ p.2.toList ++ ['"']

/-- What stands between the value of a label and that of the one before. -/
def opening (key : String) : List Char :=
  '"' :: ',' :: key.toList ++ ['=', '"']

/-- The labels as they stand in an identity, each with its opening before the value. -/
def spelling (pairs : List (String × String)) : List Char :=
  pairs.flatMap fun p => opening p.1 ++ p.2.toList

theorem canonical_eq (l : LabelSet) :
  l.canonical = String.ofList ('\x7b' :: Json.separated (l.pairs.map quoted) ++ ['\x7d'])
  := rfl

theorem opening_append_value (p : String × String) :
  opening p.1 ++ p.2.toList ++ ['"'] = '"' :: ',' :: quoted p
  := by
  simp only [opening, quoted, List.cons_append, List.append_assoc]

theorem spelling_cons (p : String × String) (pairs : List (String × String)) :
  spelling (p :: pairs) = opening p.1 ++ p.2.toList ++ spelling pairs
  := List.flatMap_cons

/-- The quote that closes a value moves from the end to the front. -/
theorem spelling_append_quote (pairs : List (String × String)) :
  spelling pairs ++ ['"'] = '"' :: (pairs.map quoted).flatMap fun cs => ',' :: cs
  := by
  induction pairs with
  | nil => rfl
  | cons p pairs ih =>
      rw [spelling_cons, List.append_assoc, ih, List.append_cons, opening_append_value,
        List.map_cons, List.flatMap_cons]
      rfl

/-- Labels are spelled as they are with commas between them. -/
theorem spelling_eq_separated (hne : pairs ≠ []) :
  spelling pairs ++ ['"'] = '"' :: ',' :: Json.separated (pairs.map quoted)
  := by
  rw [spelling_append_quote]
  cases pairs with
  | nil => exact absurd rfl hne
  | cons p pairs =>
      rw [List.map_cons, List.flatMap_cons, Json.separated_cons]
      rfl

/-- Sets with the same keys have the same identity if they are spelled alike. -/
theorem canonical_eq_iff (hkeys : l.pairs.map Prod.fst = l'.pairs.map Prod.fst) :
  l.canonical = l'.canonical ↔ spelling l.pairs = spelling l'.pairs
  := by
  rw [canonical_eq, canonical_eq, String.ofList_inj, List.append_left_inj, List.cons_inj_right]
  by_cases hnil : l.pairs = []
  · have hnil' : l'.pairs = [] := by
      rwa [hnil, List.map_nil, eq_comm, List.map_eq_nil_iff] at hkeys
    rw [hnil, hnil']
    exact iff_of_true rfl rfl
  · have hnil' : l'.pairs ≠ [] := by
      intro hnil'
      rw [hnil', List.map_nil, List.map_eq_nil_iff] at hkeys
      exact hnil hkeys
    apply Iff.trans _ (List.append_left_inj ['"'])
    rw [spelling_eq_separated hnil, spelling_eq_separated hnil', List.cons_inj_right,
      List.cons_inj_right]

/-! ### Forged labels -/

/-- The label opens in the value before it, or with the quote that closes this value. -/
def Forges (value key : String) : Prop :=
  opening key <:+: value.toList ++ ['"']

instance (value key : String) : Decidable (Forges value key) :=
  inferInstanceAs (Decidable (opening key <:+: value.toList ++ ['"']))

/-- No value forges the label after it. -/
def IsUnforged (l : LabelSet) : Prop :=
  l.pairs.IsChain fun p q => ¬ Forges p.2 q.1

instance (l : LabelSet) : Decidable l.IsUnforged :=
  inferInstanceAs (Decidable (l.pairs.IsChain fun p q : String × String => ¬ Forges p.2 q.1))

/-- No label opens after a part of a value only, if it does not open in the value. -/
theorem eq_nil_of_opening_append {v cs r r' : List Char} (hkey : '"' ∉ key.toList)
    (hv : ¬ opening key <:+: v ++ cs ++ ['"'])
    (h : opening key ++ r = cs ++ (opening key ++ r')) :
  cs = []
  := by
  have hcs : ¬ opening key <:+: cs ++ ['"'] := by
    intro hopens
    apply hv
    rw [List.append_assoc]
    exact hopens.trans (List.suffix_append v _).isInfix
  rcases List.append_eq_append_iff.mp h with ⟨cs', rfl, -⟩ | ⟨cs', hopening, hrest⟩
  · rw [List.append_assoc] at hcs
    exact absurd (List.prefix_append _ _).isInfix hcs
  · cases cs with
    | nil => rfl
    | cons c cs =>
        exfalso
        apply hcs
        cases cs' with
        | nil =>
            rw [List.append_nil] at hopening
            rw [hopening]
            exact (List.prefix_append _ _).isInfix
        | cons c' cs' =>
            -- where two openings overlap, they have one quote in common
            obtain rfl : '"' = c' := (List.cons.inj hrest).1
            have htail : ',' :: key.toList ++ ['='] ++ '"' :: [] = cs ++ '"' :: cs' :=
              (List.append_assoc _ _ _).trans (List.cons.inj hopening).2
            have hnot : '"' ∉ ',' :: key.toList ++ ['='] := by
              simp [hkey]
            obtain ⟨-, -, rfl⟩ := (List.append_cons_inj_of_notMem hnot (by simp)).mp htail
            rw [hopening]

/-- A value ends where the next label opens, if this one is not forged. -/
theorem value_eq_of_append_eq {v v' r r' : List Char} (hkey : '"' ∉ key.toList)
    (hv : ¬ opening key <:+: v ++ ['"']) (hv' : ¬ opening key <:+: v' ++ ['"'])
    (h : v ++ (opening key ++ r) = v' ++ (opening key ++ r')) :
  v = v'
  := by
  rcases List.append_eq_append_iff.mp h with ⟨cs, rfl, hrest⟩ | ⟨cs, rfl, hrest⟩
  · rw [eq_nil_of_opening_append hkey hv' hrest, List.append_nil]
  · rw [eq_nil_of_opening_append hkey hv hrest, List.append_nil]

/-- Labels without forged ones among them are told apart by how they are spelled. -/
theorem eq_of_spelling_eq (hquotes : ∀ p ∈ pairs, '"' ∉ p.1.toList)
    (hkeys : pairs.map Prod.fst = pairs'.map Prod.fst)
    (hu : pairs.IsChain fun p q => ¬ Forges p.2 q.1)
    (hu' : pairs'.IsChain fun p q => ¬ Forges p.2 q.1)
    (h : spelling pairs = spelling pairs') :
  pairs = pairs'
  := by
  induction pairs generalizing pairs' with
  | nil => exact (List.map_eq_nil_iff.mp hkeys.symm).symm
  | cons p pairs ih =>
      obtain ⟨k, v⟩ := p
      rw [List.map_cons, eq_comm, List.map_eq_cons_iff] at hkeys
      obtain ⟨⟨k', v'⟩, pairs', rfl, hkey, hkeys⟩ := hkeys
      obtain rfl : k' = k := hkey
      rw [spelling_cons, spelling_cons, List.append_assoc, List.append_assoc,
        List.append_cancel_left_eq] at h
      rw [List.forall_mem_cons] at hquotes
      have hvalue : v = v' := by
        apply String.toList_inj.mp
        cases pairs with
        | nil =>
            obtain rfl := List.map_eq_nil_iff.mp hkeys
            exact List.append_cancel_right h
        | cons q pairs =>
            obtain ⟨q', pairs', rfl, hnext, -⟩ := List.map_eq_cons_iff.mp hkeys
            rw [spelling_cons, spelling_cons, hnext, List.append_assoc, List.append_assoc] at h
            rw [List.isChain_cons_cons] at hu hu'
            rw [hnext] at hu'
            exact value_eq_of_append_eq (hquotes.2 q List.mem_cons_self) hu.1 hu'.1 h
      subst hvalue
      rw [ih hquotes.2 hkeys.symm hu.of_cons hu'.of_cons (List.append_cancel_left h)]

/-- Sets of labels with the same keys and without forged labels have different identities if they
differ. -/
theorem IsUnforged.eq_of_canonical_eq (hu : l.IsUnforged) (hu' : l'.IsUnforged)
    (hquotes : ∀ p ∈ l.pairs, '"' ∉ p.1.toList)
    (hkeys : l.pairs.map Prod.fst = l'.pairs.map Prod.fst) (h : l.canonical = l'.canonical) :
  l = l'
  := by
  have hpairs := eq_of_spelling_eq hquotes hkeys hu hu' ((canonical_eq_iff hkeys).mp h)
  obtain ⟨pairs, sorted⟩ := l
  obtain ⟨pairs', sorted'⟩ := l'
  obtain rfl : pairs = pairs' := hpairs
  rfl

/-- A value that forges the next label can be cut where this opens, with the rest of it moved to the
value of the forged label. -/
theorem Forges.exists_cut {p q : String × String} (h : Forges p.2 q.1)
    (pairs : List (String × String)) :
  ∃ v w, v ≠ p.2 ∧ spelling ((p.1, v) :: (q.1, w) :: pairs) = spelling (p :: q :: pairs)
  := by
  obtain ⟨front, rest, hvalue⟩ := h
  have hspelled : front ++ opening q.1 ++ (rest ++ (opening q.1).tail ++ q.2.toList)
      = p.2.toList ++ opening q.1 ++ q.2.toList := by
    calc front ++ opening q.1 ++ (rest ++ (opening q.1).tail ++ q.2.toList)
    _ = front ++ opening q.1 ++ rest ++ ((opening q.1).tail ++ q.2.toList) := by
      simp only [List.append_assoc]
    _ = p.2.toList ++ ['"'] ++ ((opening q.1).tail ++ q.2.toList) := by
      rw [hvalue]
    _ = p.2.toList ++ opening q.1 ++ q.2.toList := by
      rw [List.append_assoc, List.append_assoc]
      rfl
  use String.ofList front, String.ofList (rest ++ (opening q.1).tail ++ q.2.toList)
  constructor
  · intro hfront
    have hlength := congrArg List.length hvalue
    rw [← hfront, String.toList_ofList] at hlength
    simp only [List.length_append, opening, List.length_cons, List.length_nil] at hlength
    omega
  · have hpairs := congrArg (opening p.1 ++ · ++ spelling pairs) hspelled
    simpa only [spelling_cons, String.toList_ofList, List.append_assoc] using hpairs

/-- Labels with a forged one among them are spelled like others. -/
theorem exists_other_of_not_isChain (h : ¬ pairs.IsChain fun p q => ¬ Forges p.2 q.1) :
  ∃ pairs' ≠ pairs, pairs'.map Prod.fst = pairs.map Prod.fst ∧ spelling pairs' = spelling pairs
  := by
  induction pairs with
  | nil => exact absurd .nil h
  | cons p pairs ih =>
      cases pairs with
      | nil => exact absurd (.singleton p) h
      | cons q pairs =>
          by_cases hforges : Forges p.2 q.1
          · obtain ⟨v, w, hne, hspelling⟩ := hforges.exists_cut pairs
            refine ⟨(p.1, v) :: (q.1, w) :: pairs, ?_, rfl, hspelling⟩
            intro heq
            exact hne (congrArg Prod.snd (List.cons.inj heq).1)
          · rw [List.isChain_cons_cons, and_iff_right hforges] at h
            obtain ⟨pairs', hne, hkeys, hspelling⟩ := ih h
            refine ⟨p :: pairs', fun heq => hne (List.cons.inj heq).2, ?_, ?_⟩
            · exact congrArg (p.1 :: ·) hkeys
            · rw [spelling_cons, hspelling, ← spelling_cons]

/-- A set of labels with a forged one among them shares its identity with another set of labels
with the same keys. -/
theorem exists_other_of_not_isUnforged (h : ¬ l.IsUnforged) :
  ∃ l' ≠ l, l'.pairs.map Prod.fst = l.pairs.map Prod.fst ∧ l'.canonical = l.canonical
  := by
  obtain ⟨pairs, hne, hkeys, hspelling⟩ := exists_other_of_not_isChain h
  have hsorted : pairs.Pairwise (·.1 < ·.1) := by
    have hsorted : (l.pairs.map Prod.fst).Pairwise (· < ·) := List.pairwise_map.mpr l.sorted
    rw [← hkeys] at hsorted
    exact List.pairwise_map.mp hsorted
  refine ⟨⟨pairs, hsorted⟩, ?_, hkeys, (canonical_eq_iff hkeys).mpr hspelling⟩
  rintro rfl
  exact hne rfl

end LabelSet

namespace Formatting

variable {job : String} {cache cache' : HostnameCache} {entries : List LogEntry}
  {streams : List LogStream} {ns : List NamedEntry} {t : Work.Transcript}

/-! ### Entries and their labels -/

theorem pairs_labels (job : String) (e : LogEntry) (name : String) :
  (labels job e name).pairs
    = [("client_hostname", name), ("client_ip", e.clientIp), ("job", job),
        ("protocol", Text.lower e.protocol), ("qtype", Text.upper e.qtype),
        ("rcode", Text.lower e.rcode), ("response_type", Text.lower e.responseType)]
  := by
  simp only [labels, LabelSet.ofList, List.foldl_cons, List.foldl_nil, LabelSet.insert,
    LabelSet.insertPair, LabelSet.empty, String.reduceLT, String.reduceEq, ↓reduceIte]

/-- No key of a label has a quote in it. -/
theorem quote_notMem_key (job : String) (e : LogEntry) (name : String) :
  ∀ p ∈ (labels job e name).pairs, '"' ∉ p.1.toList
  := by
  rw [pairs_labels]
  simp only [List.forall_mem_cons]
  decide

/-- Labels of entries that are not forged are told apart by their identity. -/
theorem labels_eq_of_identity_eq {n n' : NamedEntry} (hu : (n.labels job).IsUnforged)
    (hu' : (n'.labels job).IsUnforged) (h : n.identity job = n'.identity job) :
  n.labels job = n'.labels job
  := by
  apply hu.eq_of_canonical_eq hu' (quote_notMem_key job n.entry n.name) _ h
  rw [NamedEntry.labels, NamedEntry.labels, pairs_labels, pairs_labels]
  rfl

/-- The streams hold the entries by their labels: there is one stream for the labels of each entry,
and it has the lines of the entries with these labels, in their order. -/
structure FiledByLabels (job : String) (ns : List NamedEntry) (streams : List LogStream) :
    Prop where
  distinct : streams.Pairwise fun s s' => s.labels ≠ s'.labels
  exists_stream : ∀ n ∈ ns, ∃ s ∈ streams, s.labels = n.labels job
  values : ∀ s ∈ streams,
    s.values = (ns.filter fun n => n.labels job = s.labels).map NamedEntry.value

namespace Grouped

/-- There is a stream with the identity of each entry. -/
theorem exists_stream (h : Grouped job ns streams) {n : NamedEntry} (hn : n ∈ ns) :
  ∃ s ∈ streams, s.identity = n.identity job
  := by
  have hmem : n.identity job ∈ streams.map LogStream.identity := by
    rw [h.identities, List.mem_eraseDups]
    exact List.mem_map_of_mem hn
  exact List.mem_map.mp hmem

/-- Entries with different labels share no stream, if and only if they share no identity. -/
theorem filedByLabels_iff (h : Grouped job ns streams) :
  FiledByLabels job ns streams
    ↔ ∀ n ∈ ns, ∀ n' ∈ ns, n.identity job = n'.identity job → n.labels job = n'.labels job
  := by
  constructor
  · intro hfiled n hn n' hn' heq
    obtain ⟨s, hs, hlabels⟩ := hfiled.exists_stream n hn
    obtain ⟨s', hs', hlabels'⟩ := hfiled.exists_stream n' hn'
    have hidentity : s.identity = s'.identity := by
      rw [LogStream.identity, LogStream.identity, hlabels, hlabels']
      exact heq
    have hdistinct : (streams.map LogStream.identity).Nodup := List.pairwise_map.mpr h.distinct
    obtain rfl := List.inj_on_of_nodup_map hdistinct hs hs' hidentity
    exact hlabels.symm.trans hlabels'
  · intro hinj
    have hlabels : ∀ s ∈ streams, ∀ n ∈ ns,
        n.identity job = s.identity ↔ n.labels job = s.labels := by
      intro s hs n hn
      obtain ⟨n', hfind, heq⟩ := h.labels s hs
      have hn' := List.mem_of_find?_eq_some hfind
      rw [LogStream.identity, heq]
      exact ⟨hinj n hn n' hn', congrArg LabelSet.canonical⟩
    constructor
    · exact h.distinct.imp fun hne heq => hne (congrArg LabelSet.canonical heq)
    · intro n hn
      obtain ⟨s, hs, heq⟩ := h.exists_stream hn
      exact ⟨s, hs, ((hlabels s hs n hn).mp heq.symm).symm⟩
    · intro s hs
      have hfilter : (ns.filter fun n => n.identity job = s.identity)
          = ns.filter fun n => n.labels job = s.labels := by
        apply List.filter_congr
        intro n hn
        exact decide_eq_decide.mpr (hlabels s hs n hn)
      rw [h.values s hs, hfilter]

end Grouped

/-- Whether the entries are filed under their own labels, for all texts in them and whatever names
are looked up: they are if and only if no two entries with different labels have one identity, so
they are if no label of theirs is forged. -/
theorem filed_iff {request : PushRequest}
    (h : (format job cache entries).Yields t (request, cache')) :
  ∃ ns, ns.map NamedEntry.entry = readable entries
    ∧ (∀ n ∈ ns, cache'.get? n.entry.clientIp = some n.name)
    ∧ (FiledByLabels job ns request.streams
        ↔ ∀ n ∈ ns, ∀ n' ∈ ns, n.identity job = n'.identity job → n.labels job = n'.labels job)
    ∧ ((∀ n ∈ ns, (n.labels job).IsUnforged) → FiledByLabels job ns request.streams)
  := by
  obtain ⟨ns, hns, hlearns, rfl⟩ := exists_learnt_of_yields_format h
  have hgrouped : Grouped job ns (streamsOf job [] ns) := grouped_streamsOf ns
  have hiff := hgrouped.filedByLabels_iff
  refine ⟨ns, hns, hlearns.knows, hiff, ?_⟩
  intro hunforged
  rw [hiff]
  intro n hn n' hn' heq
  exact labels_eq_of_identity_eq (hunforged n hn) (hunforged n' hn') heq

/-- Quotes, commas and equals signs that forge no label: the entries are in two streams. -/
theorem filed_iff_of_quotes :
  let entry := fun (row : UInt64) (rcode : String) =>
    { Pipeline.sampleEntry row with clientIp := "10.0.0.1", rcode := rcode }
  let entries := [entry 1 "\",qtype=\"", entry 2 "=\",", entry 3 "\",QTYPE=\""]
  ∃ t request cache' ns, (format "dns" .empty entries).Yields t (request, cache')
    ∧ ns.map NamedEntry.entry = entries ∧ FiledByLabels "dns" ns request.streams
    ∧ request.streams.map (fun s => s.values.length) = [2, 1]
  := by
  intro entry entries
  let w := { World.new .zero with hosts := [("10.0.0.1", .name "router.")] }
  obtain ⟨⟨request, cache'⟩, h, hlengths, hname⟩ := exists_yields_of_any World.answer
    (format "dns" .empty entries) w
    (P := fun x => x.1.streams.map (fun s => s.values.length) = [2, 1]
      ∧ x.2.get? "10.0.0.1" = some "router") (by decide +kernel)
  have hunforged : ∀ e ∈ entries,
      e.clientIp = "10.0.0.1" ∧ (labels "dns" e "router").IsUnforged := by
    decide +kernel
  have hreadable : readable entries = entries := by
    decide +kernel
  obtain ⟨ns, hns, hnames, -, hfiled⟩ := filed_iff h
  rw [hreadable] at hns
  refine ⟨_, request, cache', ns, h, hns, hfiled ?_, hlengths⟩
  intro n hn
  have hmem : n.entry ∈ entries := by
    rw [← hns]
    exact List.mem_map_of_mem hn
  obtain ⟨hclient, hu⟩ := hunforged n.entry hmem
  have hrouter := hnames n hn
  rw [hclient, hname, Option.some_inj] at hrouter
  rw [NamedEntry.labels, ← hrouter]
  exact hu

/-- The result code of the first entry forges the kind of its response, and what follows is in the
kind of response of the second entry. So this one, with other labels, has its line in the stream of
the first one. -/
theorem line_under_other_labels :
  let entry := fun (row : UInt64) (rcode responseType : String) =>
    { Pipeline.sampleEntry row with
      clientIp := "10.0.0.1", rcode := rcode, responseType := responseType }
  let e := entry 1 "NoError\",response_type=\"Blocked" "Recursive"
  let e' := entry 2 "NoError" "Blocked\",response_type=\"Recursive"
  ∃ t request cache', (format "dns" .empty [e, e']).Yields t (request, cache')
    ∧ labels "dns" e "10.0.0.1" ≠ labels "dns" e' "10.0.0.1"
    ∧ request.streams.map (fun s => (s.labels, s.values.length))
      = [(labels "dns" e "10.0.0.1", 2)]
    ∧ ∀ ns, ns.map NamedEntry.entry = readable [e, e'] →
        (∀ n ∈ ns, cache'.get? n.entry.clientIp = some n.name) →
        ¬ FiledByLabels "dns" ns request.streams
  := by
  intro entry e e'
  let w := World.new .zero
  obtain ⟨⟨request, cache'⟩, h, hstreams, hname⟩ := exists_yields_of_any World.answer
    (format "dns" .empty [e, e']) w
    (P := fun x => x.1.streams.map (fun s => (s.labels, s.values.length))
        = [(labels "dns" e "10.0.0.1", 2)]
      ∧ x.2.get? "10.0.0.1" = some "10.0.0.1") (by decide +kernel)
  have hne : labels "dns" e "10.0.0.1" ≠ labels "dns" e' "10.0.0.1" := by
    decide +kernel
  have hreadable : readable [e, e'] = [e, e'] := by
    decide +kernel
  refine ⟨_, request, cache', h, hne, hstreams, ?_⟩
  intro ns hns hnames hfiled
  -- the only stream has the labels of the first entry, and the second one has none
  have hmem : e' ∈ ns.map NamedEntry.entry := by
    rw [hns, hreadable]
    exact List.mem_cons_of_mem e List.mem_cons_self
  obtain ⟨n, hn, hentry⟩ := List.mem_map.mp hmem
  have hknown := hnames n hn
  rw [hentry] at hknown
  have hclient : n.name = "10.0.0.1" := Option.some_inj.mp (hknown.symm.trans hname)
  obtain ⟨s, hs, hother⟩ := hfiled.exists_stream n hn
  have hfirst : (s.labels, s.values.length) ∈ [(labels "dns" e "10.0.0.1", 2)] := by
    rw [← hstreams]
    exact List.mem_map_of_mem hs
  have hsame := congrArg Prod.fst (List.mem_singleton.mp hfirst)
  rw [hother, NamedEntry.labels, hentry, hclient] at hsame
  exact hne hsame.symm

end Formatting

end LogCourier
