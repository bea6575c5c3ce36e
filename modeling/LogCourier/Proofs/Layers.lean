import LogCourier.Proofs.Numerals
import LogCourier.Settings.Environment

/-!
# Layers of settings

What the settings are once the environment and the command line have been laid over a base.
`Environment.Variable` has the six variables that are read, each with the values it can have and
the texts that mean them, and `Settings.overlaid` is the outcome field by field.

Laying one over the other works out if and only if every one of the six that is set has a text
with a meaning. Otherwise the first of them without one is named, with its text as it is set, and
the settings that are left behind have the variables before it and no others
(`Settings.layers_overlaid`).
-/

namespace LogCourier

namespace Environment

/-! ### The variables that are read -/

/-- The variables that are read as numbers or as a truth value. -/
inductive Variable
  | pollInterval
  | batchSize
  | maxPagesPerCycle
  | subBatchSize
  | metricsPort
  | hostnameLookup
  deriving DecidableEq, Repr

namespace Variable

/-- All of the variables, in the order in which they are read. -/
def all : List Variable :=
  [pollInterval, batchSize, maxPagesPerCycle, subBatchSize, metricsPort, hostnameLookup]

/-- The name by which the environment has a variable. -/
def name : Variable → String
  | pollInterval => "POLL_INTERVAL"
  | batchSize => "BATCH_SIZE"
  | maxPagesPerCycle => "MAX_PAGES_PER_CYCLE"
  | subBatchSize => "SUB_BATCH_SIZE"
  | metricsPort => "METRICS_PORT"
  | hostnameLookup => "HOSTNAME_LOOKUP"

/-- The number of variables that are read before a variable. -/
def rank : Variable → Nat
  | pollInterval => 0
  | batchSize => 1
  | maxPagesPerCycle => 2
  | subBatchSize => 3
  | metricsPort => 4
  | hostnameLookup => 5

/-- The values of a variable: those of the setting that it changes. -/
@[reducible]
def Value : Variable → Type
  | pollInterval => UInt64
  | batchSize => UInt32
  | maxPagesPerCycle => UInt32
  | subBatchSize => UInt64
  | metricsPort => UInt16
  | hostnameLookup => Bool

/-- The text is a numeral of `n`, with blank characters around it. -/
def Counts (text : String) (n : Nat) : Prop :=
  Decimal.Spells (Text.trimChars text.toList) n

/-- What a text says as the value of a variable. A numeral of a number that is too large for the
variable has no meaning. -/
def Means : (v : Variable) → String → v.Value → Prop
  | pollInterval, text, x => Counts text x.toNat
  | batchSize, text, x => Counts text x.toNat
  | maxPagesPerCycle, text, x => Counts text x.toNat
  | subBatchSize, text, x => Counts text x.toNat
  | metricsPort, text, x => Counts text x.toNat
  | hostnameLookup, text, true =>
    Text.lowerAscii (Text.trim text) ∈ ["1", "true", "yes", "on"]
  | hostnameLookup, text, false =>
    Text.lowerAscii (Text.trim text) ∈ ["0", "false", "no", "off"]

/-- Settings with the value of a variable, if there is one. -/
def put : (v : Variable) → Option v.Value → Settings → Settings
  | pollInterval, x, s =>
    { s with shipper.pollIntervalSecs := x.getD s.shipper.pollIntervalSecs }
  | batchSize, x, s => { s with source.pageSize := x.getD s.source.pageSize }
  | maxPagesPerCycle, x, s =>
    { s with source.maxPagesPerCycle := x.getD s.source.maxPagesPerCycle }
  | subBatchSize, x, s => { s with sink.subBatchSize := x.getD s.sink.subBatchSize }
  | metricsPort, x, s => { s with metrics.port := x.getD s.metrics.port }
  | hostnameLookup, x, s => { s with resolver.enabled := x.getD s.resolver.enabled }

end Variable

/-- The environment says what the value of a variable is: nothing if the variable is not set. -/
def Says (env : Environment) (v : Variable) : Option v.Value → Prop
  | none => env.lookup v.name = none
  | some x => ∃ text, env.lookup v.name = some text ∧ v.Means text x

/-- Everything that the environment says about a variable has a meaning. -/
def Clear (env : Environment) (v : Variable) : Prop :=
  ∀ text, env.lookup v.name = some text → ∃ x, v.Means text x

/-- The variable is the first that is set to a text without a meaning, and this is the text. -/
structure Spoilt (env : Environment) (v : Variable) (text : String) : Prop where
  lookup : env.lookup v.name = some text
  meaningless : ∀ x, ¬ v.Means text x
  before : ∀ w : Variable, w.rank < v.rank → env.Clear w

variable {env : Environment} {v : Variable} {text : String} {limit n : Nat}

theorem clear_iff :
  env.Clear v ↔ ∃ x, env.Says v x
  := by
  cases hlookup : env.lookup v.name with
  | none =>
      apply iff_of_true
      · intro text htext
        cases hlookup.symm.trans htext
      · exact ⟨none, hlookup⟩
  | some text =>
      constructor
      · intro hclear
        obtain ⟨x, hx⟩ := hclear text hlookup
        exact ⟨some x, text, hlookup, hx⟩
      · rintro ⟨x | x, hx⟩ text' htext'
        · cases hlookup.symm.trans hx
        · obtain ⟨text'', htext'', hx⟩ := hx
          cases htext'.symm.trans htext''
          exact ⟨x, hx⟩

/-- Unless everything has a meaning, there is a first variable without one. -/
theorem exists_spoilt (h : ¬ ∀ v, env.Clear v) :
  ∃ v text, env.Spoilt v text
  := by
  have hfirst : ∀ k, (∀ v : Variable, v.rank < k → env.Clear v) ∨ ∃ v text, env.Spoilt v text := by
    intro k
    induction k with
    | zero => exact .inl nofun
    | succ k ih =>
        rcases ih with ih | ih
        · by_cases hk : ∀ v : Variable, v.rank = k → env.Clear v
          · left
            intro v hv
            rcases Nat.lt_succ_iff_lt_or_eq.mp hv with hv | hv
            · exact ih v hv
            · exact hk v hv
          · right
            simp only [Clear, not_forall, not_exists] at hk
            obtain ⟨v, rfl, text, hlookup, hmeaning⟩ := hk
            exact ⟨v, text, hlookup, hmeaning, ih⟩
        · exact .inr ih
  have hrank : ∀ v : Variable, v.rank < 6 := by
    intro v
    cases v <;> decide
  rcases hfirst 6 with hall | hspoilt
  · exact absurd (fun v => hall v (hrank v)) h
  · exact hspoilt

/-- Up to the first variable without a meaning there are values. -/
theorem Spoilt.exists_values (h : env.Spoilt v text) :
  ∃ r : (w : Variable) → Option w.Value,
    (∀ w : Variable, w.rank < v.rank → env.Says w (r w))
      ∧ ∀ w : Variable, v.rank ≤ w.rank → r w = none
  := by
  have hvalue : ∀ w : Variable, ∃ x : Option w.Value,
      (w.rank < v.rank → env.Says w x) ∧ (v.rank ≤ w.rank → x = none) := by
    intro w
    rcases Nat.lt_or_ge w.rank v.rank with hlt | hge
    · obtain ⟨x, hx⟩ := clear_iff.mp (h.before w hlt)
      exact ⟨x, fun _ => hx, fun hle => absurd hle (Nat.not_le_of_lt hlt)⟩
    · exact ⟨none, fun hlt => absurd hge (Nat.not_le_of_lt hlt), fun _ => rfl⟩
  obtain ⟨r, hr⟩ := Classical.axiomOfChoice hvalue
  exact ⟨r, fun w => (hr w).1, fun w => (hr w).2⟩

/-! ### How the variables are read -/

theorem number_of_counts {set : Nat → Settings → Settings} (h : Variable.Counts text n)
    (hn : n < limit) :
  number limit set text = .ok (set n)
  := by
  rw [number, (Decimal.readBelow_eq_ok_iff (Nat.zero_lt_of_lt hn)).mpr ⟨h, hn⟩]

theorem exists_number_eq_error {set : Nat → Settings → Settings} (hlimit : 0 < limit)
    (h : ∀ n < limit, ¬ Variable.Counts text n) :
  ∃ reason, number limit set text = .error reason
  := by
  rw [number]
  cases hread : Decimal.readBelow limit (Text.trimChars text.toList) with
  | error fault => exact ⟨_, rfl⟩
  | ok n =>
      obtain ⟨hcounts, hn⟩ := (Decimal.readBelow_eq_ok_iff hlimit).mp hread
      exact absurd hcounts (h n hn)

namespace Variable

/-- How a variable is read: under its name, a text becomes the change to its meaning, and a text
without a meaning is refused. -/
structure Reads (v : Variable)
    (entry : String × (String → Except String (Settings → Settings))) : Prop where
  name : entry.1 = v.name
  accepts : ∀ text x, v.Means text x → entry.2 text = .ok (v.put (some x))
  refuses : ∀ text, (∀ x, ¬ v.Means text x) → ∃ reason, entry.2 text = .error reason

/-- A number is read as the values of a variable that numbers stand for. -/
theorem reads_number {v : Variable} {limit : Nat} {set : Nat → Settings → Settings}
    {ofNat : Nat → v.Value} {toNat : v.Value → Nat}
    (hmeans : ∀ text x, v.Means text x ↔ Counts text (toNat x))
    (hlt : ∀ x, toNat x < limit) (hofNat : ∀ x, ofNat (toNat x) = x)
    (htoNat : ∀ n < limit, toNat (ofNat n) = n)
    (hset : ∀ n, set n = v.put (some (ofNat n))) :
  v.Reads (v.name, number limit set)
  where
  name := rfl
  accepts text x hx := by
    have hread : number limit set text = .ok (set (toNat x)) :=
      number_of_counts ((hmeans text x).mp hx) (hlt x)
    rwa [hset, hofNat] at hread
  refuses text h := by
    apply exists_number_eq_error (Nat.zero_lt_of_lt (hlt (ofNat 0)))
    intro n hn hcounts
    apply h (ofNat n)
    rwa [hmeans, htoNat n hn]

theorem reads_truth :
  hostnameLookup.Reads ("HOSTNAME_LOOKUP", truth fun v s => { s with resolver.enabled := v })
  where
  name := rfl
  accepts text x hx := by
    cases x <;> simp only [Means, List.mem_cons, List.not_mem_nil, or_false] at hx <;>
      rcases hx with hx | hx | hx | hx <;> simp only [truth, hx] <;> rfl
  refuses text h := by
    have htrue := h true
    have hfalse := h false
    simp only [Means, List.mem_cons, List.not_mem_nil, or_false, not_or] at htrue hfalse
    refine ⟨"expected a boolean", ?_⟩
    have hlookup : truthWords.lookup (Text.lowerAscii (Text.trim text)) = none := by
      simp [truthWords, htrue, hfalse]
    simp only [truth, hlookup]

/-- The variables are read in their order. -/
theorem forall₂_reads :
  List.Forall₂ Reads all readVariables
  := by
  refine .cons ?_ (.cons ?_ (.cons ?_ (.cons ?_ (.cons ?_ (.cons reads_truth .nil)))))
  · exact reads_number (v := pollInterval) (fun _ _ => .rfl) UInt64.toNat_lt
      (fun _ => UInt64.ofNat_toNat) (fun _ => UInt64.toNat_ofNat_of_lt) fun _ => rfl
  · exact reads_number (v := batchSize) (fun _ _ => .rfl) UInt32.toNat_lt
      (fun _ => UInt32.ofNat_toNat) (fun _ => UInt32.toNat_ofNat_of_lt) fun _ => rfl
  · exact reads_number (v := maxPagesPerCycle) (fun _ _ => .rfl) UInt32.toNat_lt
      (fun _ => UInt32.ofNat_toNat) (fun _ => UInt32.toNat_ofNat_of_lt) fun _ => rfl
  · exact reads_number (v := subBatchSize) (fun _ _ => .rfl) UInt64.toNat_lt
      (fun _ => UInt64.ofNat_toNat) (fun _ => UInt64.toNat_ofNat_of_lt) fun _ => rfl
  · exact reads_number (v := metricsPort) (fun _ _ => .rfl) UInt16.toNat_lt
      (fun _ => UInt16.ofNat_toNat) (fun _ => UInt16.toNat_ofNat_of_lt) fun _ => rfl

theorem pairwise_all :
  all.Pairwise fun v w => v.rank < w.rank
  := by
  decide

theorem mem_all (v : Variable) :
  v ∈ all
  := by
  cases v <;> decide

end Variable

end Environment

namespace Settings

open Environment

variable {env : Environment} {r : (v : Variable) → Option v.Value} {v : Variable}
  {vs : List Variable}
  {entries : List (String × (String → Except String (Settings → Settings)))}

/-- Settings with the values of several variables, one after the other. -/
def putAll (r : (v : Variable) → Option v.Value) (vs : List Variable) (s : Settings) : Settings :=
  vs.foldl (fun s v => v.put (r v) s) s

@[simp]
theorem put_none (v : Variable) (s : Settings) :
  v.put none s = s
  := by
  cases v <;> rfl

theorem putAll_of_none (h : ∀ v ∈ vs, r v = none) (s : Settings) :
  putAll r vs s = s
  := by
  induction vs with
  | nil => rfl
  | cons v vs ih =>
      rw [List.forall_mem_cons] at h
      rw [putAll, List.foldl_cons, h.1, put_none]
      apply ih h.2

/-- What a variable is said to be is put into the settings, and the work goes on. -/
theorem applyRead_cons {entry : String × (String → Except String (Settings → Settings))}
    (hentry : v.Reads entry) (h : env.Says v (r v)) (s : Settings) :
  applyRead env (entry :: entries) s = applyRead env entries (v.put (r v) s)
  := by
  obtain ⟨name, read⟩ := entry
  obtain ⟨rfl, haccepts, -⟩ := hentry
  cases hr : r v with
  | none =>
      rw [hr] at h
      rw [applyRead, show env.lookup v.name = none from h, put_none]
  | some x =>
      rw [hr] at h
      obtain ⟨text, hlookup, hmeans⟩ := h
      have hread : read text = .ok (v.put (some x)) := haccepts text x hmeans
      simp only [applyRead, hlookup, hread]

theorem applyRead_of_values (hentries : List.Forall₂ Variable.Reads vs entries)
    (h : ∀ v ∈ vs, env.Says v (r v)) (s : Settings) :
  applyRead env entries s = (putAll r vs s, .ok ())
  := by
  induction hentries generalizing s with
  | nil => rfl
  | cons hentry hentries ih =>
      rw [List.forall_mem_cons] at h
      rw [applyRead_cons hentry h.1]
      apply ih h.2

/-- The first variable without a meaning is the last that is looked at. -/
theorem applyRead_of_spoilt {text : String} (hentries : List.Forall₂ Variable.Reads vs entries)
    (hsorted : vs.Pairwise fun v w => v.rank < w.rank) (hv : v ∈ vs) (h : env.Spoilt v text)
    (hbefore : ∀ w : Variable, w.rank < v.rank → env.Says w (r w))
    (hafter : ∀ w : Variable, v.rank ≤ w.rank → r w = none) (s : Settings) :
  ∃ reason,
    applyRead env entries s = (putAll r vs s, .error (.invalidVariable v.name text reason))
  := by
  induction hentries generalizing s with
  | nil => cases hv
  | @cons w entry ws entries hentry hentries ih =>
      rw [List.pairwise_cons] at hsorted
      rw [List.mem_cons] at hv
      rcases hv with rfl | hv
      · obtain ⟨reason, hrefused⟩ := hentry.refuses text h.meaningless
        refine ⟨reason, ?_⟩
        obtain ⟨name, read⟩ := entry
        obtain rfl : name = v.name := hentry.name
        have hread : read text = .error reason := hrefused
        have hnone : ∀ w ∈ v :: ws, r w = none := by
          intro w hw
          rw [List.mem_cons] at hw
          rcases hw with rfl | hw
          · exact hafter w (Nat.le_refl _)
          · exact hafter w (Nat.le_of_lt (hsorted.1 w hw))
        simp only [applyRead, h.lookup, hread, putAll_of_none hnone]
      · rw [applyRead_cons hentry (hbefore w (hsorted.1 v hv))]
        apply ih hsorted.2 hv

/-! ### The settings field by field -/

/-- A base with an environment and a command line laid over it, if `r` has the values of the
variables that are read: the command line goes before the environment, and the environment
before the base. -/
def overlaid (base : Settings) (env : Environment) (r : (v : Variable) → Option v.Value)
    (o : Overrides) : Settings where
  source := { base.source with
    url := (env.lookup "TECHNITIUM_URL").getD base.source.url
    token := (env.lookup "TECHNITIUM_TOKEN").getD base.source.token
    pageSize := (r .batchSize).getD base.source.pageSize
    maxPagesPerCycle := (r .maxPagesPerCycle).getD base.source.maxPagesPerCycle }
  sink := { base.sink with
    url := (env.lookup "LOKI_URL").getD base.sink.url
    subBatchSize := (r .subBatchSize).getD base.sink.subBatchSize }
  shipper := { base.shipper with
    pollIntervalSecs :=
      (o.pollIntervalSecs.or (r .pollInterval)).getD base.shipper.pollIntervalSecs
    stateFile := (o.stateFile.or (env.lookup "STATE_FILE")).getD base.shipper.stateFile }
  metrics := {
    bindAddress := (env.lookup "METRICS_BIND").getD base.metrics.bindAddress
    port := (o.metricsPort.or (r .metricsPort)).getD base.metrics.port }
  resolver := { base.resolver with
    enabled := (r .hostnameLookup).getD base.resolver.enabled
    dnsServer := (env.lookup "HOSTNAME_DNS_SERVER").getD base.resolver.dnsServer }
  logging := {
    level := (o.logLevel.or (env.lookup "LOG_LEVEL")).getD base.logging.level
    format := (env.lookup "LOG_FORMAT").getD base.logging.format }

/-- Settings with a text in the place of another, if there is one. -/
def fill (set : String → Settings → Settings) (o : Option String) (s : Settings) : Settings :=
  match o with
  | some value => set value s
  | none => s

theorem fill_eq_getD {set : String → Settings → Settings} {g : Settings → String}
    (o : Option String) (s : Settings) (h : ∀ s, set (g s) s = s) :
  fill set o s = set (o.getD (g s)) s
  := by
  cases o with
  | none => exact (h s).symm
  | some value => rfl

theorem applyTexts_eq_foldl (base : Settings) (env : Environment) :
  base.applyTexts env
    = textVariables.foldl (fun s entry => fill entry.2 (env.lookup entry.1) s) base
  := rfl

theorem putAll_applyTexts (base : Settings) (env : Environment)
    (r : (v : Variable) → Option v.Value) :
  putAll r Variable.all (base.applyTexts env) = base.overlaid env r {}
  := by
  rw [applyTexts_eq_foldl, textVariables]
  simp only [List.foldl_cons, List.foldl_nil]
  rw [fill_eq_getD (g := (·.source.url)) (env.lookup "TECHNITIUM_URL") _ fun _ => rfl,
    fill_eq_getD (g := (·.source.token)) (env.lookup "TECHNITIUM_TOKEN") _ fun _ => rfl,
    fill_eq_getD (g := (·.sink.url)) (env.lookup "LOKI_URL") _ fun _ => rfl,
    fill_eq_getD (g := (·.shipper.stateFile)) (env.lookup "STATE_FILE") _ fun _ => rfl,
    fill_eq_getD (g := (·.metrics.bindAddress)) (env.lookup "METRICS_BIND") _ fun _ => rfl,
    fill_eq_getD (g := (·.logging.level)) (env.lookup "LOG_LEVEL") _ fun _ => rfl,
    fill_eq_getD (g := (·.logging.format)) (env.lookup "LOG_FORMAT") _ fun _ => rfl,
    fill_eq_getD (g := (·.resolver.dnsServer)) (env.lookup "HOSTNAME_DNS_SERVER") _ fun _ => rfl]
  rfl

theorem applyOverrides_overlaid (base : Settings) (env : Environment)
    (r : (v : Variable) → Option v.Value) (o : Overrides) :
  (base.overlaid env r {}).applyOverrides o = base.overlaid env r o
  := by
  simp only [applyOverrides, overlaid, Option.none_or, Option.getD_or]

theorem applyEnvironment_of_values (base : Settings) (h : ∀ v, env.Says v (r v)) :
  base.applyEnvironment env = (base.overlaid env r {}, .ok ())
  := by
  rw [applyEnvironment, applyRead_of_values Variable.forall₂_reads fun v _ => h v,
    putAll_applyTexts]

theorem applyEnvironment_of_spoilt {text : String} (base : Settings) (h : env.Spoilt v text)
    (hbefore : ∀ w : Variable, w.rank < v.rank → env.Says w (r w))
    (hafter : ∀ w : Variable, v.rank ≤ w.rank → r w = none) :
  ∃ reason, base.applyEnvironment env
    = (base.overlaid env r {}, .error (.invalidVariable v.name text reason))
  := by
  rw [applyEnvironment, ← putAll_applyTexts]
  exact applyRead_of_spoilt Variable.forall₂_reads Variable.pairwise_all (Variable.mem_all v) h
    hbefore hafter _

theorem layer_of_values (base : Settings) (o : Overrides) (h : ∀ v, env.Says v (r v)) :
  base.layer env o = .ok (base.overlaid env r o)
  := by
  simp only [layer, applyEnvironment_of_values base h, applyOverrides_overlaid]

theorem layer_of_error {base s : Settings} {e : SettingsError} (o : Overrides)
    (h : base.applyEnvironment env = (s, .error e)) :
  base.layer env o = .error e
  := by
  simp only [layer, h]

/-- An environment and a command line can be laid over a base if and only if every variable that
is read and set has a text with a meaning, whatever the command line says. The settings are then
those of the command line, where it has them not those of the environment, and where that has
them not those of the base. Otherwise the first variable without a meaning is named with its text
as it is set, and the settings left behind have the texts of the environment and the variables
before that one over the base, and nothing else. -/
theorem layers_overlaid (base : Settings) (env : Environment) (o : Overrides) :
  ((∃ s, base.layer env o = .ok s) ↔ ∀ v, env.Clear v)
    ∧ (∀ r, (∀ v, env.Says v (r v)) → base.layer env o = .ok (base.overlaid env r o))
    ∧ ∀ e, base.layer env o = .error e →
        ∃ v text reason, env.Spoilt v text ∧ e = .invalidVariable v.name text reason
          ∧ ∀ r, (∀ w : Variable, w.rank < v.rank → env.Says w (r w)) →
              (∀ w : Variable, v.rank ≤ w.rank → r w = none) →
              base.applyEnvironment env = (base.overlaid env r {}, .error e)
  := by
  have hvalues : (∀ v, env.Clear v) →
      ∃ r : (v : Variable) → Option v.Value, ∀ v, env.Says v (r v) :=
    fun h => Classical.axiomOfChoice fun v => clear_iff.mp (h v)
  refine ⟨⟨?_, ?_⟩, fun r => layer_of_values base o, ?_⟩
  · rintro ⟨s, hs⟩
    by_contra hclear
    obtain ⟨v, text, hspoilt⟩ := exists_spoilt hclear
    obtain ⟨r, hr⟩ := hspoilt.exists_values
    obtain ⟨reason, hleft⟩ := applyEnvironment_of_spoilt base hspoilt hr.1 hr.2
    cases hs.symm.trans (layer_of_error o hleft)
  · intro hclear
    obtain ⟨r, hr⟩ := hvalues hclear
    exact ⟨_, layer_of_values base o hr⟩
  · intro e he
    have hclear : ¬ ∀ v, env.Clear v := by
      intro hclear
      obtain ⟨r, hr⟩ := hvalues hclear
      cases he.symm.trans (layer_of_values base o hr)
    obtain ⟨v, text, hspoilt⟩ := exists_spoilt hclear
    obtain ⟨r, hr⟩ := hspoilt.exists_values
    obtain ⟨reason, hleft⟩ := applyEnvironment_of_spoilt base hspoilt hr.1 hr.2
    refine ⟨v, text, reason, hspoilt, ?_, ?_⟩
    · cases he.symm.trans (layer_of_error o hleft)
      rfl
    · -- the settings left behind are the same for all values that fit
      intro r' hbefore hafter
      obtain ⟨reason', hleft'⟩ := applyEnvironment_of_spoilt base hspoilt hbefore hafter
      cases he.symm.trans (layer_of_error o hleft')
      exact hleft'

/-- A port that is too large is found after the interval has been read, and the port of the
command line does not help. -/
theorem layers_overlaid_of_large_port :
  let env : Environment :=
    [("TECHNITIUM_URL", "http://10.0.0.1"), ("POLL_INTERVAL", " 7 "), ("METRICS_PORT", " 70000"),
      ("HOSTNAME_LOOKUP", "no")]
  ∃ e, layer {} env { metricsPort := some 9000 } = .error e
    ∧ applyEnvironment env {}
      = ({ source := { url := "http://10.0.0.1" }, shipper := { pollIntervalSecs := 7 } },
          .error e)
  := by
  intro env
  have he : layer {} env { metricsPort := some 9000 }
      = .error (.invalidVariable "METRICS_PORT" " 70000"
          "number too large to fit in target type") := rfl
  obtain ⟨v, text, reason, -, hv, hleft⟩ := (layers_overlaid {} env _).2.2 _ he
  refine ⟨_, he, ?_⟩
  cases v with
  | metricsPort =>
      let r : (v : Variable) → Option v.Value
        | .pollInterval => some 7
        | _ => none
      apply hleft r
      · intro w hw
        cases w with
        | pollInterval =>
            exact ⟨" 7 ", rfl, ['7'], .inl rfl, nofun, List.forall_mem_singleton.mpr rfl, rfl⟩
        | batchSize => rfl
        | maxPagesPerCycle => rfl
        | subBatchSize => rfl
        | metricsPort => exact absurd hw (by decide)
        | hostnameLookup => exact absurd hw (by decide)
      · intro w hw
        cases w with
        | pollInterval => exact absurd hw (by decide)
        | _ => rfl
  | _ =>
      injection hv with hname
      exact absurd hname (by decide)

end Settings

end LogCourier
