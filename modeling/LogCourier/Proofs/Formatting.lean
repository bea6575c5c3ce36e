import LogCourier.Pipeline.Formatting
import LogCourier.Proofs.Traffic

/-!
# What formatting asks and leaves out

The name of a client is remembered, or it is looked up and remembered from then on
(`HostnameCache.Resolved`). Formatting asks name servers and takers of notes only (`uses_format`).
A request is empty if and only if no entry has a readable time (`isEmpty_iff_of_yields_format`).
-/

namespace LogCourier

open Dialogue Work

/-- An entry without a readable time. -/
def LogEntry.IsMalformed (e : LogEntry) : Prop :=
  ∃ m, e.nanos = .error m

theorem LogEntry.isMalformed_iff {e : LogEntry} :
  e.IsMalformed ↔ e.nanos.isOk = false
  := by
  cases h : e.nanos with
  | error m => exact iff_of_true ⟨m, h⟩ rfl
  | ok nanos =>
      apply iff_of_false _ nofun
      rintro ⟨m, hm⟩
      cases hm.symm.trans h

namespace HostnameCache

theorem uses_lookup (client : String) :
  Uses [.lookup, .note] (lookup client)
  := by
  rw [lookup]
  split
  · apply Confined.bind
    · exact (uses_log _ _ _).mono
    · intro _
      apply confined_pure
  · apply Confined.bind
    · apply confined_question.mpr
      apply List.mem_cons_self
    · rintro (e | name)
      · apply Confined.bind
        · exact (uses_log _ _ _).mono
        · intro _
          apply confined_pure
      · apply confined_pure

theorem uses_hostname (cache : HostnameCache) (client : String) :
  Uses [.lookup, .note] (cache.hostname client)
  := by
  rw [hostname]
  split
  · apply confined_pure
  · apply Confined.bind
    · apply uses_lookup
    · intro name
      apply Confined.bind
      · exact (uses_record _).mono
      · intro _
        apply confined_pure

/-- How a client gets its name: the transcript, and the name with the names remembered then. -/
inductive Resolved (cache : HostnameCache) (client : String) :
    Transcript → String × HostnameCache → Prop
  | remembered {name : String} (h : cache.get? client = some name) :
      Resolved cache client [] (name, cache)
  | learnt {name : String} {t n : Transcript} (h : cache.get? client = none)
      (hl : (lookup client).Yields t name)
      (hn : (record (.hostnameCacheSize (cache.insert client name).size)).Yields n ()) :
      Resolved cache client (t ++ n) (name, cache.insert client name)

theorem resolved_of_yields {cache : HostnameCache} {client : String} {t : Transcript}
    {o : String × HostnameCache} (h : (cache.hostname client).Yields t o) :
  Resolved cache client t o
  := by
  rw [hostname] at h
  split at h
  · next hknown =>
    obtain ⟨rfl, rfl⟩ := yields_pure.mp h
    apply Resolved.remembered hknown
  · next hnew =>
    obtain ⟨t₁, name, t₂, rfl, hl, hr⟩ := yields_bind.mp h
    obtain ⟨n, u, t₃, rfl, hn, hr⟩ := yields_bind.mp hr
    obtain ⟨rfl, rfl⟩ := yields_pure.mp hr
    rw [List.append_nil]
    apply Resolved.learnt hnew hl hn

end HostnameCache

namespace Formatting

variable {job : String} {cache cache' : HostnameCache} {entries : List LogEntry}
  {streams streams' : List LogStream} {t : Transcript}

theorem uses_noteMalformed (e : LogEntry) (m : Timestamp.Malformed) :
  Uses [.note] (noteMalformed e m)
  := (uses_log _ _ _).bind fun _ => uses_record _

theorem uses_group :
  Uses [.lookup, .note] (group job entries cache streams)
  := by
  induction entries generalizing cache streams with
  | nil => apply confined_pure
  | cons e entries ih =>
      rw [group]
      split
      · apply Confined.bind
        · exact (uses_noteMalformed _ _).mono
        · intro _
          apply ih
      · apply Confined.bind
        · apply HostnameCache.uses_hostname
        · intro _
          apply Confined.bind
          · exact (uses_record _).mono
          · intro _
            apply ih

theorem uses_format :
  Uses [.lookup, .note] (format job cache entries)
  := uses_group.bind fun _ => confined_pure

/-! ### Empty requests -/

/-- A line is in one of the streams. -/
theorem exists_line_file (l : LabelSet) (nanos line : String) (streams : List LogStream) :
  ((file l nanos line streams).all fun s => s.values.isEmpty) = false
  := by
  induction streams with
  | nil => rfl
  | cons s streams ih =>
      rw [file]
      split
      · simp [LogStream.push]
      · rw [List.all_cons, ih, Bool.and_false]

theorem isEmpty_iff_of_yields_group
    (h : (group job entries cache streams).Yields t (streams', cache')) :
  (streams'.all fun s => s.values.isEmpty) = true
    ↔ (streams.all fun s => s.values.isEmpty) = true ∧ ∀ e ∈ entries, e.IsMalformed
  := by
  induction entries generalizing cache streams t with
  | nil =>
      obtain ⟨-, ho⟩ := yields_pure.mp h
      obtain ⟨rfl, -⟩ := Prod.mk.inj ho
      simp
  | cons e entries ih =>
      rw [group] at h
      split at h
      · next m hm =>
        obtain ⟨n, u, t', rfl, hn, hr⟩ := yields_bind.mp h
        have hbad : e.IsMalformed := ⟨m, hm⟩
        rw [ih hr, List.forall_mem_cons, and_iff_right hbad]
      · next nanos hnanos =>
        obtain ⟨n, x, t', rfl, hn, hr⟩ := yields_bind.mp h
        obtain ⟨n', u, t'', rfl, hn', hr⟩ := yields_bind.mp hr
        have hgood : ¬ e.IsMalformed := by
          rintro ⟨m, hm⟩
          rw [hm] at hnanos
          cases hnanos
        rw [ih hr, exists_line_file, List.forall_mem_cons]
        simp [hgood]

/-- A request is empty if and only if no entry has a readable time. -/
theorem isEmpty_iff_of_yields_format {request : PushRequest}
    (h : (format job cache entries).Yields t (request, cache')) :
  request.isEmpty = true ↔ ∀ e ∈ entries, e.IsMalformed
  := by
  obtain ⟨t₁, x, t₂, rfl, hg, hr⟩ := yields_bind.mp h
  obtain ⟨-, ho⟩ := yields_pure.mp hr
  obtain ⟨rfl, rfl⟩ := Prod.mk.inj ho
  apply Iff.trans (isEmpty_iff_of_yields_group hg)
  exact and_iff_right rfl

end Formatting

end LogCourier
