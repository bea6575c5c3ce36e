import LogCourier.Proofs.Secrecy
import LogCourier.Proofs.Trimming
import Mathlib

/-!
# Which replies are believed

A name server is asked in one datagram, and the one datagram that comes back decides what is made of
the lookup (`Resolver.asks_lookup_iff`). It gives a name if and only if it comes from the server,
has the identifier of the question and can be read as a message without an error, in which the first
pointer record among the answers leads to a name (`Resolver.believes_iff`). What is not from the
server, or has another identifier or none, is an invalid reply, whatever else is in it.
-/

namespace LogCourier

/-! ### What a reply says -/

namespace Dns

/-- The first pointer record among the answers leads to the target. Records of other types, and
pointer records without data, may come before it, and any records after it. -/
def Message.PointsTo (m : Message) (target : Name) : Prop :=
  ∃ before r after, m.answers = before ++ r :: after ∧ (∀ x ∈ before, x.data = .other)
    ∧ r.data = .pointer target

theorem Message.pointer?_eq_some_iff {m : Message} {target : Name} :
  m.pointer? = some target ↔ m.PointsTo target
  := by
  rw [pointer?, List.findSome?_eq_some_iff]
  constructor
  · rintro ⟨before, r, after, hanswers, hr, hbefore⟩
    refine ⟨before, r, after, hanswers, ?_, ?_⟩
    · intro x hx
      cases hdata : x.data with
      | other => rfl
      | pointer target' =>
          have hnone := hbefore x hx
          rw [hdata] at hnone
          cases hnone
    · cases hdata : r.data with
      | other =>
          rw [hdata] at hr
          cases hr
      | pointer target' =>
          rw [hdata] at hr
          rw [Option.some.inj hr]
  · rintro ⟨before, r, after, hanswers, hbefore, hr⟩
    refine ⟨before, r, after, hanswers, ?_, ?_⟩
    · rw [hr]
    · intro x hx
      rw [hbefore x hx]

variable {id : UInt16} {bytes : List UInt8} {host : String}

/-- The first two bytes are the identifier. -/
def HasId (id : UInt16) (bytes : List UInt8) : Prop :=
  ∃ high low rest, bytes = high :: low :: rest ∧ word high low = id.toNat

theorem hasId_iff :
  HasId id bytes ↔ wordAt? bytes 0 = some id.toNat
  := by
  rw [wordAt?, List.drop_zero]
  constructor
  · rintro ⟨high, low, rest, rfl, hid⟩
    exact congrArg some hid
  · intro h
    split at h
    · next high low rest => exact ⟨high, low, rest, rfl, Option.some.inj h⟩
    · cases h

theorem HasId.two_le_length (h : HasId id bytes) :
  2 ≤ bytes.length
  := by
  obtain ⟨high, low, rest, rfl, -⟩ := h
  exact Nat.le_add_left 2 rest.length

/-- A reply to the question with the identifier names the host: it has the identifier in its first
two bytes, it can be read as a message without an error, and the first pointer record among the
answers leads to a name, whose text without the dots at its end is the host, and is not empty. -/
structure Names (id : UInt16) (bytes : List UInt8) (host : String) : Prop where
  identifier : HasId id bytes
  target : ∃ m target, Message.read? bytes = some m ∧ m.code = ⟨0⟩ ∧ m.PointsTo target
    ∧ Text.IsStem '.' (String.ofList target.chars) host
  host_ne : host ≠ ""

/-- A reply without the identifier is at fault. -/
theorem readReply_of_not_hasId (h : ¬ HasId id bytes) :
  ∃ fault, readReply id bytes = .error fault
  := by
  rw [hasId_iff] at h
  rw [readReply]
  cases hid : wordAt? bytes 0 with
  | none => exact ⟨_, rfl⟩
  | some n =>
      have hne : n ≠ id.toNat := by
        rintro rfl
        exact h hid
      use .otherId n id.toNat
      simp only [if_pos hne]
      rfl

/-- What a message says. -/
def Message.reply (m : Message) : Reply :=
  if m.code ≠ ⟨0⟩ then .refused m.code
  else match m.pointer? with
    | none => .noName
    | some target => if target.host.isEmpty then .noName else .host target.host

/-- A reply with the identifier says what its message says. -/
theorem readReply_of_hasId (h : HasId id bytes) :
  readReply id bytes = match Message.read? bytes with
    | none => .error .unreadable
    | some m => .ok m.reply
  := by
  rw [readReply, hasId_iff.mp h]
  simp only [ne_eq, not_true_eq_false, if_false]
  cases Message.read? bytes with
  | none => rfl
  | some m =>
      simp only [Message.reply]
      split
      · rfl
      · cases m.pointer? with
        | none => rfl
        | some target => rfl

theorem Message.name?_reply_iff {m : Message} :
  m.reply.name? = some host
    ↔ m.code = ⟨0⟩ ∧ host ≠ ""
      ∧ ∃ target, m.PointsTo target ∧ Text.IsStem '.' (String.ofList target.chars) host
  := by
  simp only [← pointer?_eq_some_iff, Text.isStem_iff]
  rw [reply]
  split
  · next hcode => exact iff_of_false nofun fun h => hcode h.1
  · next hcode =>
    rw [not_not] at hcode
    cases hpointer : m.pointer? with
    | none => exact iff_of_false nofun fun h => by simpa using h.2.2
    | some target =>
        simp only [hcode, Option.some.injEq, exists_eq_left', true_and, ← Name.host.eq_def]
        split
        · next hempty =>
          refine iff_of_false nofun fun h => h.1 ?_
          rw [h.2, String.isEmpty_iff.mp hempty]
        · next hempty =>
          rw [Reply.name?, Option.some.injEq, eq_comm]
          refine ⟨fun h => ⟨?_, h⟩, And.right⟩
          rintro rfl
          exact hempty (String.isEmpty_iff.mpr h.symm)

/-- The name that is read from a reply is the one that the reply names. -/
theorem names_iff :
  Names id bytes host ↔ ∃ reply, readReply id bytes = .ok reply ∧ reply.name? = some host
  := by
  constructor
  · rintro ⟨hid, ⟨m, target, hread, hcode, hpoints, hstem⟩, hne⟩
    refine ⟨m.reply, ?_, Message.name?_reply_iff.mpr ⟨hcode, hne, target, hpoints, hstem⟩⟩
    rw [readReply_of_hasId hid, hread]
  · rintro ⟨reply, hreply, hname⟩
    have hid : HasId id bytes := by
      by_contra hid
      obtain ⟨fault, hfault⟩ := readReply_of_not_hasId hid
      rw [hfault] at hreply
      cases hreply
    rw [readReply_of_hasId hid] at hreply
    cases hread : Message.read? bytes with
    | none =>
        rw [hread] at hreply
        cases hreply
    | some m =>
        rw [hread] at hreply
        cases hreply
        obtain ⟨hcode, hne, target, hpoints, hstem⟩ := Message.name?_reply_iff.mp hname
        exact ⟨hid, ⟨m, target, hread, hcode, hpoints, hstem⟩, hne⟩

end Dns

/-! ### What is made of a datagram -/

namespace Resolver

open DeviceWork

variable {r : Resolver} {ip : IpAddress} {id : UInt16} {s : Transcript}
  {o : Except Failure (Option String)}

/-- What is made of what becomes of a question. -/
def received (r : Resolver) : DatagramOutcome → Except Failure (List UInt8)
  | .silence => .error .queryTimeout
  | .failed step reason => .error (.io (complaint r.server.text step ++ ": " ++ reason))
  | .reply sender bytes =>
    if sender = r.server then .ok (bytes.take longestReply)
    else .error
      (.invalidResponse ("response came from " ++ sender.text ++ " instead of " ++ r.server.text))

/-- What is made of the bytes of a reply. -/
def understood (id : UInt16) (bytes : List UInt8) : Except Failure (Option String) :=
  match Dns.readReply id bytes with
  | .error fault => .error (.invalidResponse fault.message)
  | .ok reply => .ok reply.name?

theorem asks_exchange_bind {β : Type} {b : β} {question : List UInt8}
    {f : Except Failure (List UInt8) → DeviceWork β} :
  Asks (r.exchange question >>= f) s b
    ↔ ∃ x s', s = ⟨.datagram r.server question r.timeoutMs, x⟩ :: s' ∧ Asks (f (r.received x)) s' b
  := by
  rw [exchange, bind_assoc, DeviceWork.datagram, asks_question_bind fun _ => rfl]
  refine exists_congr fun x => exists_congr fun s' => and_congr_right fun _ => ?_
  cases x with
  | silence => exact Iff.rfl
  | failed step reason => exact Iff.rfl
  | reply sender bytes =>
      by_cases hsender : sender = r.server
      · simp only [received, ne_eq, hsender, not_true_eq_false, if_true, if_false, bind_assoc,
          pure_bind, asks_log_bind]
      · simp only [received, ne_eq, hsender, not_false_eq_true, if_true, if_false, bind_assoc,
          pure_bind, asks_log_bind]

theorem asks_noteReply_bind {β : Type} {b : β} {reply : Dns.Reply} {f : Unit → DeviceWork β} :
  Asks (noteReply ip reply >>= f) s b ↔ Asks (f ()) s b
  := by
  cases reply with
  | host name => apply asks_log_bind
  | noName => apply asks_log_bind
  | refused code =>
      rw [noteReply, bind_assoc, asks_log_bind]
      apply asks_log_bind

/-- Note what the bytes of a reply say, and tell it. -/
def tell (ip : IpAddress) (id : UInt16) :
  Except Failure (List UInt8) → DeviceWork (Except Failure (Option String))
  | .error e => return .error e
  | .ok bytes =>
    match Dns.readReply id bytes with
    | .error fault => return .error (.invalidResponse fault.message)
    | .ok reply => do
      noteReply ip reply
      return .ok reply.name?

theorem lookup_eq :
  r.lookup ip = (do
    let id ← DeviceWork.chance
    DeviceWork.log .debug "Performing PTR lookup"
      [("ip", .text ip.text), ("server", .text r.server.text)]
    r.exchange (Dns.query id ip) >>= tell ip id)
  := rfl

theorem asks_tell_iff {answer : Except Failure (List UInt8)} :
  Asks (tell ip id answer) s o ↔ s = [] ∧ o = answer.bind (understood id)
  := by
  cases answer with
  | error e => apply asks_pure
  | ok bytes =>
      change _ ↔ s = [] ∧ o = understood id bytes
      rw [tell, understood]
      cases Dns.readReply id bytes with
      | error fault => apply asks_pure
      | ok reply => exact asks_noteReply_bind.trans asks_pure

/-- A lookup asks for an identifier and sends the question with it. What becomes of the question
settles what is made of the lookup. -/
theorem asks_lookup_iff :
  Asks (r.lookup ip) s o ↔ ∃ id x,
    s = [⟨.chance, id⟩, ⟨.datagram r.server (Dns.query id ip) r.timeoutMs, x⟩]
      ∧ o = (r.received x).bind (understood id)
  := by
  rw [lookup_eq, DeviceWork.chance, asks_question_bind fun _ => rfl]
  simp only [asks_log_bind, asks_exchange_bind, asks_tell_iff]
  constructor
  · rintro ⟨id, s', rfl, x, s'', rfl, rfl, ho⟩
    exact ⟨id, x, rfl, ho⟩
  · rintro ⟨id, x, rfl, ho⟩
    exact ⟨id, _, rfl, x, [], rfl, rfl, ho⟩

/-- A name is understood from a reply if and only if the reply names it. -/
theorem understood_eq_ok_some_iff {bytes : List UInt8} {host : String} :
  understood id bytes = .ok (some host) ↔ Dns.Names id bytes host
  := by
  rw [Dns.names_iff, understood]
  cases Dns.readReply id bytes with
  | error fault => exact iff_of_false nofun nofun
  | ok reply =>
      constructor
      · intro h
        exact ⟨reply, rfl, Except.ok.inj h⟩
      · rintro ⟨reply', hreply, hname⟩
        cases hreply
        exact congrArg Except.ok hname

theorem understood_of_not_hasId {bytes : List UInt8} (h : ¬ Dns.HasId id bytes) :
  ∃ detail, understood id bytes = .error (.invalidResponse detail)
  := by
  obtain ⟨fault, hfault⟩ := Dns.readReply_of_not_hasId h
  use fault.message
  rw [understood, hfault]

/-- **Which replies are believed.** Whatever datagram of at most 4096 bytes comes back, and whoever
sent it, there is one thing that is made of the lookup. It is a name if and only if the datagram was
sent by the server and names it. If it was sent by another, or has fewer than two bytes, or does not
have the identifier of the question in the first two, it is an invalid response. -/
theorem believes_iff (r : Resolver) (ip : IpAddress) (id : UInt16) (sender : SocketAddress)
    (bytes : List UInt8) (hlength : bytes.length ≤ 4096) :
  ∃ o,
    (∀ o', Asks (r.lookup ip) [⟨.chance, id⟩,
        ⟨.datagram r.server (Dns.query id ip) r.timeoutMs, .reply sender bytes⟩] o' ↔ o' = o)
    ∧ (∀ host, o = .ok (some host) ↔ sender = r.server ∧ Dns.Names id bytes host)
    ∧ (sender ≠ r.server ∨ bytes.length < 2 ∨ ¬ Dns.HasId id bytes →
        ∃ detail, o = .error (.invalidResponse detail))
  := by
  refine ⟨(r.received (.reply sender bytes)).bind (understood id), ?_, ?_⟩
  · intro o'
    rw [asks_lookup_iff]
    constructor
    · rintro ⟨id', x, hs, rfl⟩
      cases hs
      rfl
    · rintro rfl
      exact ⟨id, _, rfl, rfl⟩
  · rw [received, longestReply, List.take_of_length_le hlength]
    split
    · next hsender =>
      change (∀ host, understood id bytes = _ ↔ _) ∧ (_ → ∃ detail, understood id bytes = _)
      refine ⟨fun host => ?_, ?_⟩
      · rw [understood_eq_ok_some_iff, and_iff_right hsender]
      · rintro (hne | hshort | hid)
        · exact absurd hsender hne
        · apply understood_of_not_hasId
          intro hid
          have := hid.two_le_length
          omega
        · apply understood_of_not_hasId hid
    · next hsender =>
      refine ⟨fun host => iff_of_false nofun fun h => hsender h.1, fun _ => ⟨_, rfl⟩⟩

/-- A reply to a question for the name of 10.0.0.1, with an address, a pointer to `host`, and one to
`other`. -/
def mixedReply : List UInt8 :=
  Dns.wordBytes 0x1234 ++ Dns.wordBytes 0x8180 ++ [1, 3, 0, 0].flatMap Dns.wordBytes
    ++ (Dns.query 0x1234 (.v4 10 0 0 1)).drop 12
    ++ [0xc0, 12, 0, 1, 0, 1, 0, 0, 0, 60, 0, 4, 10, 0, 0, 1]
    ++ [0xc0, 12, 0, 12, 0, 1, 0, 0, 0, 60, 0, 6, 4] ++ Dns.asciiLabel "host" ++ [0]
    ++ [0xc0, 12, 0, 12, 0, 1, 0, 0, 0, 60, 0, 7, 5] ++ Dns.asciiLabel "other" ++ [0]

theorem names_mixedReply :
  Dns.Names 0x1234 mixedReply "host"
  := by
  apply Dns.names_iff.mpr
  exact ⟨.host "host", by cbv, rfl⟩

theorem believes_mixedReply :
  let r : Resolver := ⟨⟨.v4 10 0 0 53, 0, 53⟩, 2000⟩
  mixedReply.length ≤ 4096
    ∧ Asks (r.lookup (.v4 10 0 0 1)) [⟨.chance, 0x1234⟩,
        ⟨.datagram r.server (Dns.query 0x1234 (.v4 10 0 0 1)) r.timeoutMs,
          .reply r.server mixedReply⟩] (.ok (some "host"))
  := by
  intro r
  have hlength : mixedReply.length ≤ 4096 := by decide
  obtain ⟨o, hasks, hname, -⟩ :=
    believes_iff r (.v4 10 0 0 1) 0x1234 r.server mixedReply hlength
  obtain rfl := (hname "host").mpr ⟨rfl, names_mixedReply⟩
  exact ⟨hlength, (hasks _).mpr rfl⟩

end Resolver

end LogCourier
