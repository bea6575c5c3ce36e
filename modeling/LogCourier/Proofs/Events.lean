import LogCourier.Proofs.Delivery
import LogCourier.Proofs.Notes
import LogCourier.Proofs.Reconciliation

/-!
# The events of each part of the work

What each part of the work records, in order. A fetch records whether it got a page, the backlog
is recorded once it is sized, a reset after the cursor has been set to 0, and a sub-batch after it
was delivered or refused. A client whose name is remembered records nothing; otherwise the new
number of remembered names is recorded (`HostnameCache.named_of_yields`).
-/

namespace LogCourier

open Dialogue Work

namespace Work

variable {t : Transcript} {x : Work.Exchange}

theorem events_of_log {level : LogLevel} {message : String} {fields : List (String × FieldValue)}
    (h : (log level message fields).Yields t ()) :
  events t = []
  := by
  obtain rfl := yields_question.mp h
  rfl

theorem events_of_record {e : MetricEvent} (h : (record e).Yields t ()) :
  events t = [e]
  := by
  obtain rfl := yields_question.mp h
  rfl

end Work

namespace Polling

variable {r : PageRequest} {t : Transcript}

theorem events_noteFetched {time : Nat} {page : QueryLogPage}
    (h : (noteFetched time r page).Yields t ()) :
  events t = [.fetchSucceeded (.ratio time 1000)]
  := filterMap_of_bind h events_of_record events_of_log

theorem events_noteFailed {e : SourceError} {failures : UInt32}
    (h : (noteFailed r e failures).Yields t ()) :
  events t = [.fetchFailed e.kind failures]
  := filterMap_of_bind h events_of_record events_of_log

end Polling

namespace Reconciliation

variable {limits : Limits} {cursor : Cursor} {row : UInt64} {t : Transcript}

theorem events_noteBacklog {pending unharvested : UInt64}
    (h : (noteBacklog limits cursor row pending unharvested).Yields t ()) :
  events t = [.backlogObserved pending unharvested]
  := by
  rw [noteBacklog] at h
  split at h <;> split at h
  · exact filterMap_of_bind h events_of_log fun h =>
      filterMap_of_bind h events_of_log events_of_record
  · exact filterMap_of_bind h events_of_log events_of_record
  · exact filterMap_of_bind h events_of_log events_of_record
  · exact events_of_record h

/-- A reset is recorded if the cursor was set to 0. -/
theorem events_resetCursor {o : Except Failure Reconciliation}
    (h : (resetCursor cursor row).Yields t o) :
  events t = if o.isOk then [.sourceReset] else []
  := by
  rw [resetCursor] at h
  obtain ⟨n, u, t', rfl, hn, hr⟩ := yields_bind.mp h
  obtain ⟨x, t'', rfl, hx⟩ := yields_question_bind.mp hr
  rw [events_append, events_of_log hn, events_cons]
  cases x with
  | error e =>
      obtain ⟨rfl, rfl⟩ := yields_pure.mp hx
      rfl
  | ok u =>
      obtain ⟨n', u, t', rfl, hn', hr⟩ := yields_bind.mp hx
      obtain ⟨rfl, rfl⟩ := yields_pure.mp hr
      rw [List.append_nil, events_of_record hn']
      rfl

end Reconciliation

namespace HostnameCache

variable {cache cache' : HostnameCache} {client name : String} {t : Transcript}

theorem events_lookup (h : (lookup client).Yields t name) :
  events t = []
  := by
  rw [lookup] at h
  split at h
  · obtain ⟨n, u, t', rfl, hn, hr⟩ := yields_bind.mp h
    obtain ⟨rfl, -⟩ := yields_pure.mp hr
    rw [List.append_nil, events_of_log hn]
  · obtain ⟨x, t', rfl, hx⟩ := yields_question_bind.mp h
    rw [events_cons]
    cases x with
    | ok name' =>
        obtain ⟨rfl, -⟩ := yields_pure.mp hx
        rfl
    | error e =>
        obtain ⟨n, u, t'', rfl, hn, hr⟩ := yields_bind.mp hx
        obtain ⟨rfl, -⟩ := yields_pure.mp hr
        rw [List.append_nil, events_of_log hn]
        rfl

/-- How a client gets its name: the events, and the names that are remembered then. -/
inductive Named (cache : HostnameCache) (client : String) : List MetricEvent → HostnameCache → Prop
  | remembered {name : String} (h : cache.get? client = some name) : Named cache client [] cache
  | learnt {name : String} (h : cache.get? client = none) :
      Named cache client [.hostnameCacheSize (cache.insert client name).size]
        (cache.insert client name)

theorem named_of_yields (h : (cache.hostname client).Yields t (name, cache')) :
  Named cache client (events t) cache'
  := by
  cases resolved_of_yields h with
  | remembered hknown => apply Named.remembered hknown
  | learnt hnew hl hn =>
      rw [events_append, events_lookup hl, events_of_record hn]
      apply Named.learnt hnew

end HostnameCache

namespace Formatting

variable {job : String} {e : LogEntry} {t : Transcript}

theorem events_noteMalformed {m : Timestamp.Malformed} (h : (noteMalformed e m).Yields t ()) :
  events t = [.malformedEntryDropped]
  := filterMap_of_bind h events_of_log events_of_record

end Formatting

namespace Shipping

variable {index total : Nat} {batch : List LogEntry} {t : Transcript}

theorem events_noteDelivered (h : (noteDelivered index total batch).Yields t ()) :
  events t = [.entriesShipped (.ofNat batch.length)]
  := filterMap_of_bind h events_of_record events_of_log

theorem events_noteRefused {e : Failure} (h : (noteRefused index total e).Yields t ()) :
  events t = [.pushFailed]
  := filterMap_of_bind h events_of_record events_of_log

end Shipping

end LogCourier
