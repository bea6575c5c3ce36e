import LogCourier.Job

/-!
# A scripted world

A world for rehearsals of the pipeline: a log that is paged faithfully unless a script says
otherwise, a log store with scripted verdicts, a list of host names, a cursor in memory and
a clock that only pauses move. It keeps a record of what it was asked.
-/

namespace LogCourier.Rehearsal

/-- What the source does at its next request. -/
inductive SourceCue
  | fail (error : SourceError)
  | page (entries : List LogEntry)
  /-- Put entries in front of the log, then answer from it. -/
  | grow (entries : List LogEntry)
  | plain

/-- What is known of an address. -/
inductive HostCue
  | name (name : String)
  | nameless
  | fail (failure : Failure)

/-- What the world was asked, last first, and what it was told. -/
structure Record where
  calls : List (PageRequest × Nat)
  lookups : List IpAddress
  pushes : List (PushRequest × Bool)
  writes : List Cursor
  journal : Journal

/-- Nothing asked yet. -/
def Record.empty : Record := ⟨[], [], [], [], .empty⟩

/-- The record with its lists emptied and the metrics kept. -/
def Record.clear (r : Record) : Record :=
  { Record.empty with journal := ⟨[], r.journal.metrics⟩ }

/-- A scripted world: the log, newest entry first, and the cues for coming requests; the
cues for coming pushes, `none` to accept; the host names by canonical address; the cursor,
and the failure of its writes, if they fail; the clock and the milliseconds of a pause;
the number of requests to the source, and the one that cancels the work. -/
structure World where
  log : List LogEntry
  source : List SourceCue
  sink : List (Option String)
  hosts : List (String × HostCue)
  cursor : Cursor
  storeFailure : Option String
  time : Nat
  interval : Nat
  requests : Nat
  cancelAt : Option Nat
  cancelled : Bool
  record : Record

namespace World

/-- A world with a cursor and nothing else. -/
def new (cursor : Cursor) : World :=
  ⟨[], [], [], [], cursor, none, 0, 0, 0, none, false, .empty⟩

/-- A page of the log. -/
def page (log : List LogEntry) (r : PageRequest) : QueryLogPage :=
  .ofEntries ((log.drop ((r.page.toNat - 1) * r.size.toNat)).take r.size.toNat)

/-- Count and record a request to the source. -/
def arrive (w : World) (r : PageRequest) : World :=
  let requests := w.requests + 1
  { w with
    requests
    cancelled := w.cancelled || w.cancelAt == some requests
    record := { w.record with calls := (r, w.time) :: w.record.calls } }

/-- Answer a request to the source. -/
def fetch (w : World) (r : PageRequest) : Except SourceError QueryLogPage × World :=
  let w := w.arrive r
  match w.source with
  | [] => (.ok (page w.log r), w)
  | cue :: source =>
    let w := { w with source }
    match cue with
    | .fail e => (.error e, w)
    | .page entries => (.ok (.ofEntries entries), w)
    | .grow entries =>
      let w := { w with log := entries ++ w.log }
      (.ok (page w.log r), w)
    | .plain => (.ok (page w.log r), w)

/-- Answer a push. -/
def push (w : World) (r : PushRequest) : Except Failure Unit × World :=
  let outcome := w.sink.head?.getD none
  let record := { w.record with pushes := (r, outcome.isNone) :: w.record.pushes }
  (match outcome with
    | none => .ok ()
    | some detail => .error (.sinkDelivery detail),
    { w with sink := w.sink.tail, record })

/-- Answer a lookup. -/
def lookup (w : World) (ip : IpAddress) : Except Failure (Option String) × World :=
  (match w.hosts.lookup ip.text with
    | none | some .nameless => .ok none
    | some (.name n) => .ok (some n)
    | some (.fail e) => .error e,
    { w with record := { w.record with lookups := ip :: w.record.lookups } })

/-- Write the cursor. -/
def store (w : World) (c : Cursor) : Except Failure Unit × World :=
  match w.storeFailure with
  | some detail => (.error (.io detail), w)
  | none =>
    (.ok (), { w with cursor := c, record := { w.record with writes := c :: w.record.writes } })

/-- Take a note. -/
def tell (w : World) (n : Note) : World :=
  { w with record := { w.record with journal := w.record.journal.tell n } }

/-- Answer a call of the pipeline. -/
def answer : (c : Call) → World → c.Answer × World
  | .fetch r, w => w.fetch r
  | .push r, w => w.push r
  | .lookup ip, w => w.lookup ip
  | .load, w => (w.cursor, w)
  | .store c, w => w.store c
  | .clock, w => (w.time, w)
  | .note n, w => ((), w.tell n)
  | .pause, w => (w.cancelled, if w.cancelled then w else { w with time := w.time + w.interval })

/-- Hold a part of the pipeline's work in the world. -/
def hold {α : Type} (w : World) (d : Work α) : Option α × World :=
  d.run answer w

end World

end LogCourier.Rehearsal
