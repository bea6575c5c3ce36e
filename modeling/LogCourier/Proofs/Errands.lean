import LogCourier.Adapter.Wiring
import LogCourier.Proofs.Transcript

/-!
# What the adapters ask of devices

Every call of the pipeline is answered by questions of a few kinds to devices
(`Device.Kind`, `DeviceWork.Uses`): one lemma for each adapter tells of which. What a call leaves
alone can be read off these kinds.
-/

namespace LogCourier

open Dialogue

/-- The kinds of questions to devices. -/
inductive Device.Kind
  /-- A request that gets something. -/
  | get
  /-- Any other request, such as one that hands something over. -/
  | hand
  | datagram
  | chance
  | readFile
  /-- A change of the files. -/
  | change
  | clock
  | line
  | event
  | listen
  | pause
  deriving DecidableEq

/-- The kind of a question to a device. -/
def Device.kind : Device → Device.Kind
  | http q => if q.method = "GET" then .get else .hand
  | datagram .. => .datagram
  | chance => .chance
  | readFile _ => .readFile
  | makeDirectories _ | writeFile .. | rename .. => .change
  | clock => .clock
  | note (.log _) => .line
  | note (.metric _) => .event
  | listen _ => .listen
  | pause => .pause

theorem Device.kind_http_of_get {q : Http.Request} (h : q.method = "GET") :
  (http q).kind = .get
  := if_pos h

theorem Device.kind_http_of_ne_get {q : Http.Request} (h : q.method ≠ "GET") :
  (http q).kind = .hand
  := if_neg h

namespace DeviceWork

variable {α β : Type} {ks ks' : List Device.Kind} {d : DeviceWork α}

/-- The work asks questions of the given kinds only. -/
structure Uses (ks : List Device.Kind) (d : DeviceWork α) : Prop where
  confined : d.Confined fun q => q.kind ∈ ks

namespace Uses

theorem mono (h : Uses ks d) (hks : ks ⊆ ks' := by decide) :
  Uses ks' d
  := ⟨h.confined.mono fun _ hq => hks hq⟩

theorem done {a : α} :
  Uses ks (pure a)
  := ⟨confined_pure⟩

theorem question {q : Device} (h : q.kind ∈ ks) :
  Uses ks (Dialogue.question q)
  := ⟨confined_question.mpr h⟩

theorem log {level : LogLevel} {message : String} {fields : List (String × FieldValue)} :
  Uses (.line :: ks) (log level message fields)
  := .question (.head _)

theorem bind {f : α → DeviceWork β} (hd : Uses ks d) (hf : ∀ a, Uses ks (f a)) :
  Uses ks (d >>= f)
  := ⟨hd.confined.bind fun a => (hf a).confined⟩

/-- Work with questions of some kinds only never aborts. -/
theorem total (h : Uses ks d) :
  d.Total
  := h.confined.total

end Uses

end DeviceWork

open DeviceWork

namespace SourceAdapter

variable {s : SourceSettings} {r : PageRequest} {q : Http.Request}

theorem method_of_request? (h : request? s r = some q) :
  q.method = "GET"
  := by
  rw [request?] at h
  obtain ⟨url, -, hq⟩ := Option.bind_eq_some_iff.mp h
  rw [← Option.some.inj hq]

theorem uses_fetch :
  Uses [.line, .get] (fetch s r)
  := by
  have hsend : Uses [.line, .get] (send (request? s r)) := by
    cases h : request? s r with
    | none => apply Uses.done
    | some q =>
        apply Uses.question
        rw [Device.kind_http_of_get (method_of_request? h)]
        decide
  apply hsend.bind
  intro outcome
  cases readOutcome outcome with
  | error e => apply Uses.done
  | ok page => exact Uses.log.bind fun _ => .done

end SourceAdapter

namespace SinkAdapter

variable {s : SinkSettings} {r : PushRequest} {q : Http.Request}

theorem method_of_request? (h : request? s r = some q) :
  q.method = "POST"
  := by
  rw [request?] at h
  obtain ⟨url, -, hq⟩ := Option.bind_eq_some_iff.mp h
  rw [← Option.some.inj hq]

theorem uses_push :
  Uses [.line, .hand] (push s r)
  := by
  have hsend : Uses [.line, .hand] (send (request? s r)) := by
    cases h : request? s r with
    | none => apply Uses.done
    | some q =>
        apply Uses.question
        rw [Device.kind_http_of_ne_get]
        · decide
        · rw [method_of_request? h]
          decide
  apply hsend.bind
  intro outcome
  cases readOutcome s outcome with
  | error e => apply Uses.done
  | ok _ => exact Uses.log.bind fun _ => .done

end SinkAdapter

namespace Resolver

theorem uses_exchange (r : Resolver) (question : List UInt8) :
  Uses [.line, .datagram] (r.exchange question)
  := by
  have hdatagram : Uses [.line, .datagram] (DeviceWork.datagram r.server question r.timeoutMs) :=
    .question (.tail _ (.head _))
  apply hdatagram.bind
  intro outcome
  cases outcome with
  | silence => apply Uses.done
  | failed step reason => apply Uses.done
  | reply sender bytes =>
      dsimp only
      split
      · exact Uses.log.bind fun _ => .done
      · exact Uses.log.bind fun _ => .done

theorem uses_noteReply (ip : IpAddress) (reply : Dns.Reply) :
  Uses [.line] (noteReply ip reply)
  := by
  cases reply with
  | host name => apply Uses.log
  | noName => apply Uses.log
  | refused code => exact Uses.log.bind fun _ => Uses.log

theorem uses_lookup (r : Resolver) (ip : IpAddress) :
  Uses [.line, .datagram, .chance] (r.lookup ip)
  := by
  have hchance : Uses [.line, .datagram, .chance] DeviceWork.chance :=
    .question (.tail _ (.tail _ (.head _)))
  apply hchance.bind
  intro id
  apply Uses.log.bind
  intro _
  apply (r.uses_exchange _).mono.bind
  intro outcome
  cases outcome with
  | error e => apply Uses.done
  | ok bytes =>
      dsimp only
      split
      · apply Uses.done
      · exact (uses_noteReply ip _).mono.bind fun _ => .done

end Resolver

namespace CursorFile

theorem uses_load (path : String) :
  Uses [.line, .readFile] (load path)
  := by
  have hread : Uses [.line, .readFile] (DeviceWork.readFile path) :=
    .question (.tail _ (.head _))
  apply hread.bind
  intro r
  cases r with
  | error e =>
      dsimp only
      split <;> exact Uses.log.bind fun _ => .done
  | ok content =>
      dsimp only
      rw [readContent]
      split
      · exact Uses.log.bind fun _ => .done
      · split
        · apply Uses.done
        · exact Uses.log.bind fun _ => .done

theorem uses_prepare (path : String) :
  Uses [.change] (prepare path)
  := by
  rw [prepare]
  split
  · apply Uses.done
  · apply Uses.done
  · next parent _ _ =>
    have hmake : Uses [.change] (DeviceWork.makeDirectories parent) := .question (.head _)
    exact hmake.bind fun _ => .done

theorem uses_replace (path : String) (c : Cursor) :
  Uses [.change] (replace path c)
  := by
  have hwrite : Uses [.change] (DeviceWork.writeFile (temporary path) (Utf8.bytes c.text)) :=
    .question (.head _)
  have hrename : Uses [.change] (DeviceWork.rename (temporary path) path) :=
    .question (.head _)
  apply hwrite.bind
  intro r
  cases r with
  | error e => apply Uses.done
  | ok _ => exact hrename.bind fun _ => .done

theorem uses_store (path : String) (c : Cursor) :
  Uses [.line, .event, .change] (store path c)
  := by
  have hrecord : Uses [.line, .event, .change] (DeviceWork.record (.lastRowUpdated c.row)) :=
    .question (.tail _ (.head _))
  apply (uses_prepare path).mono.bind
  intro r
  cases r with
  | error e => apply Uses.done
  | ok _ =>
      apply (uses_replace path c).mono.bind
      intro r
      cases r with
      | error e => apply Uses.done
      | ok _ => exact hrecord.bind fun _ => Uses.log.bind fun _ => .done

end CursorFile

namespace Wiring

theorem uses_pause :
  Uses [.line, .pause] pause
  := by
  have hpause : Uses [.line, .pause] DeviceWork.pause := .question (.tail _ (.head _))
  apply hpause.bind
  intro signal
  cases signal with
  | none => apply Uses.done
  | some s => exact Uses.log.bind fun _ => .done

theorem uses_answer_lookup (w : Wiring) (ip : IpAddress) :
  Uses [.line, .datagram, .chance] (w.answer (.lookup ip))
  := by
  rw [answer]
  cases w.resolver with
  | none => apply Uses.done
  | some r => apply r.uses_lookup

/-- What answers a call never aborts. -/
theorem total_answer (w : Wiring) (c : Call) :
  (w.answer c).Total
  := by
  cases c with
  | fetch r => exact SourceAdapter.uses_fetch.total
  | push r => exact SinkAdapter.uses_push.total
  | lookup ip => apply (w.uses_answer_lookup ip).total
  | load => apply (CursorFile.uses_load _).total
  | store c => apply (CursorFile.uses_store _ c).total
  | clock => apply total_question
  | note n => apply total_question
  | pause => exact uses_pause.total

end Wiring

end LogCourier
