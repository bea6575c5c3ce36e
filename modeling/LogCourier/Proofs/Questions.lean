import LogCourier.Dns.Query
import Mathlib.Data.Nat.Digits.Defs
import Mathlib.Tactic.Common

/-!
# The question for the name of an address

What a reader who knows the format of messages makes of a question: its header (`Dns.Header.read?`),
the one question that follows it (`Dns.Question.read?`), and the address that the name in it spells
(`Dns.Name.address?`). The question for the name of an address is read as such: it has the given
identifier and desires recursion, and the name leads back to the address, so that the questions for
two addresses differ (`Dns.query_decodes`).
-/

namespace LogCourier.Dns

/-! ### Reading questions -/

/-- The header of a message. -/
structure Header where
  id : Nat
  isReply : Bool
  opcode : Nat
  isAuthoritative : Bool
  isTruncated : Bool
  recursionDesired : Bool
  recursionAvailable : Bool
  reserved : Nat
  code : Nat
  questions : Nat
  answers : Nat
  authorities : Nat
  additionals : Nat
  deriving DecidableEq, Repr

/-- Read the header of a message: the identifier, sixteen bits of flags, and how many questions and
records of each section follow. -/
def Header.read? (message : List UInt8) : Option Header := do
  let id ← wordAt? message 0
  let flags ← wordAt? message 2
  let questions ← wordAt? message 4
  let answers ← wordAt? message 6
  let authorities ← wordAt? message 8
  let additionals ← wordAt? message 10
  return {
    id, questions, answers, authorities, additionals
    isReply := flags.testBit 15
    opcode := flags / 2 ^ 11 % 16
    isAuthoritative := flags.testBit 10
    isTruncated := flags.testBit 9
    recursionDesired := flags.testBit 8
    recursionAvailable := flags.testBit 7
    reserved := flags / 2 ^ 4 % 8
    code := flags % 16 }

/-- The header of a query with one question and no records: the opcode is 0, and of the flags one is
set, recursion is desired. -/
def Header.ofQuery (id : UInt16) : Header where
  id := id.toNat
  isReply := false
  opcode := 0
  isAuthoritative := false
  isTruncated := false
  recursionDesired := true
  recursionAvailable := false
  reserved := 0
  code := 0
  questions := 1
  answers := 0
  authorities := 0
  additionals := 0

/-- A question: a name, and the type and the class of what is asked for. -/
structure Question where
  name : Name
  type : Nat
  cls : Nat
  deriving DecidableEq, Repr

/-- Read a question at a position. The result has the position after it. -/
def Question.read? (message : List UInt8) (pos : Nat) : Option (Question × Nat) := do
  let (name, pos) ← readName message pos
  let type ← wordAt? message pos
  let cls ← wordAt? message (pos + 2)
  return (⟨name, type, cls⟩, pos + 4)

/-- The characters of a label. -/
def Label.chars (l : Label) : List Char :=
  l.map fun b => .ofNat b.toNat

/-- The octet that a label spells in decimal. -/
def Label.octet? (l : Label) : Option UInt8 :=
  match IpAddress.readOctet l.chars with
  | some (x, []) => some x
  | _ => none

/-- The hexadecimal digit that a label is. -/
def Label.nibble? (l : Label) : Option Nat :=
  match l.chars with
  | [c] => IpAddress.digit? 16 c
  | _ => none

/-- The groups that labels spell, with four hexadecimal digits each. -/
def groups? : List Label → Option (List UInt16)
  | a :: b :: c :: d :: rest => do
    let high := 16 * (← a.nibble?) + (← b.nibble?)
    let low := 16 * (← c.nibble?) + (← d.nibble?)
    return .ofNat (256 * high + low) :: (← groups? rest)
  | [] => some []
  | _ => none

/-- The address that a name spells. The labels are read from the right: after `arpa` comes `in-addr`
with four octets in decimal, or `ip6` with thirty-two hexadecimal digits. -/
def Name.address? (name : Name) : Option IpAddress :=
  match name.reverse with
  | top :: zone :: digits =>
    if top ≠ asciiLabel "arpa" then none
    else if zone = asciiLabel "in-addr" then
      match digits with
      | [a, b, c, d] => do return .v4 (← a.octet?) (← b.octet?) (← c.octet?) (← d.octet?)
      | _ => none
    else if zone = asciiLabel "ip6" then do return .v6 (← IpAddress.ofGroups (← groups? digits))
    else none
  | _ => none

/-! ### Words and names on the wire -/

variable {front rest bytes message : List UInt8} {n pos : Nat}

theorem wordAt?_of_eq_append (hn : n < 65536) (hmessage : message = front ++ (wordBytes n ++ rest))
    (hpos : front.length = pos) :
  wordAt? message pos = some n
  := by
  subst hmessage hpos
  rw [wordAt?, List.drop_left]
  change some (word (.ofNat (n / 256)) (.ofNat (n % 256))) = some n
  rw [word, UInt8.toNat_ofNat', UInt8.toNat_ofNat']
  congr 1
  omega

theorem slice?_of_eq_append (hmessage : message = front ++ (bytes ++ rest))
    (hpos : front.length = pos) :
  slice? message pos bytes.length = some bytes
  := by
  subst hmessage hpos
  rw [slice?, List.drop_left, List.take_left]
  exact if_pos rfl

/-- The labels of a name have between one and 63 bytes. -/
def Name.Proper (name : Name) : Prop :=
  ∀ l ∈ name, l ≠ [] ∧ l.length < 64

theorem Name.wire_cons (l : Label) (name : Name) :
  Name.wire (l :: name) = .ofNat l.length :: (l ++ name.wire)
  := by
  rw [wire, List.flatMap_cons, List.append_assoc]
  rfl

variable {start limit : Nat}

/-- A zero byte ends a name. -/
theorem readLabels_zero (hmessage : message = front ++ 0 :: rest)
    (hlimit : message.length ≤ limit) :
  readLabels message start limit front.length = some ([], front.length + 1)
  := by
  have hpos : front.length < message.length := by
    rw [hmessage, List.length_append]
    exact Nat.lt_add_of_pos_right (Nat.zero_lt_succ _)
  have hzero : message[front.length] = 0 := List.getElem_of_append hmessage rfl
  rw [readLabels, if_neg (by omega), dif_pos hpos, hzero]
  rfl

/-- A label is read, and the rest of the name after it. -/
theorem readLabels_label {l : Label} (hne : l ≠ []) (hlt : l.length < 64)
    (hmessage : message = front ++ .ofNat l.length :: (l ++ rest))
    (hlimit : message.length ≤ limit) :
  readLabels message start limit front.length
    = (readLabels message start limit (front.length + 1 + l.length)).map
        fun (name, after) => (l :: name, after)
  := by
  have hpos : front.length < message.length := by
    rw [hmessage, List.length_append]
    exact Nat.lt_add_of_pos_right (Nat.zero_lt_succ _)
  have hlength : message[front.length].toNat = l.length := by
    rw [List.getElem_of_append hmessage rfl, UInt8.toNat_ofNat_of_lt']
    exact hlt.trans (by decide)
  have hzero : l.length ≠ 0 := fun h => hne (List.length_eq_zero_iff.mp h)
  have hslice : slice? message (front.length + 1) l.length = some l := by
    rw [← List.singleton_append, ← List.append_assoc] at hmessage
    apply slice?_of_eq_append hmessage
    rw [List.length_append, List.length_singleton]
  rw [readLabels, if_neg (by omega), dif_pos hpos]
  simp only [hlength, if_neg hzero, if_pos hlt, hslice]
  cases readLabels message start limit (front.length + 1 + l.length) <;> rfl

/-- A name without pointers is read back from its wire form, wherever it stands. -/
theorem readLabels_wire {name : Name} (hname : name.Proper)
    (hmessage : message = front ++ (name.wire ++ rest)) (hlimit : message.length ≤ limit) :
  readLabels message start limit front.length = some (name, front.length + name.wire.length)
  := by
  induction name generalizing front with
  | nil => apply readLabels_zero hmessage hlimit
  | cons l name ih =>
      obtain ⟨⟨hne, hlt⟩, hrest⟩ := List.forall_mem_cons.mp hname
      rw [Name.wire_cons, List.cons_append, List.append_assoc] at hmessage
      have hfront : (front ++ .ofNat l.length :: l).length = front.length + 1 + l.length := by
        rw [List.length_append, List.length_cons, Nat.add_right_comm, Nat.add_assoc]
      have hnext : message = front ++ .ofNat l.length :: l ++ (Name.wire name ++ rest) := by
        rw [hmessage, List.append_assoc, List.cons_append]
      have hend : front.length + 1 + l.length + (Name.wire name).length
          = front.length + (Name.wire (l :: name)).length := by
        rw [Name.wire_cons, List.length_cons, List.length_append]
        omega
      rw [readLabels_label hne hlt hmessage hlimit, ← hfront, ih hrest hnext, hfront, hend]
      rfl

theorem readName_wire {name : Name} (hname : name.Proper) (hsize : name.size < 255)
    (hmessage : message = front ++ (name.wire ++ rest)) (hpos : front.length = pos) :
  readName message pos = some (name, pos + name.wire.length)
  := by
  subst hpos
  rw [readName, readLabels_wire hname hmessage (Nat.le_refl _)]
  simp only [Option.bind_eq_bind, Option.bind_some, guard, if_pos hsize]
  rfl

/-! ### The labels of an address -/

/-- A text of ASCII characters other than the point, of which there are at most `k`, and at least
one. -/
structure IsWord (k : Nat) (s : String) : Prop where
  ne_nil : s.toList ≠ []
  length_le : s.toList.length ≤ k
  ascii : ∀ c ∈ s.toList, c.toNat < 128 ∧ c ≠ '.'

variable {k : Nat} {s : String}

instance : Decidable (IsWord k s) :=
  decidable_of_iff
    (s.toList ≠ [] ∧ s.toList.length ≤ k
      ∧ s.toList.all (fun c => c.toNat < 128 ∧ c ≠ '.') = true)
    ⟨fun h => ⟨h.1, h.2.1, fun c hc => of_decide_eq_true (List.all_eq_true.mp h.2.2 c hc)⟩,
      fun h => ⟨h.ne_nil, h.length_le,
        List.all_eq_true.mpr fun c hc => decide_eq_true (h.ascii c hc)⟩⟩

theorem IsWord.mono {k' : Nat} (h : IsWord k s) (hk : k ≤ k') :
  IsWord k' s
  := ⟨h.ne_nil, h.length_le.trans hk, h.ascii⟩

/-- The characters of a label are those of its text. -/
theorem chars_asciiLabel (h : IsWord k s) :
  (asciiLabel s).chars = s.toList
  := by
  rw [asciiLabel, Label.chars, List.map_map]
  conv => rhs; rw [← List.map_id s.toList]
  apply List.map_congr_left
  intro c hc
  have hlt : c.toNat < UInt8.size := (h.ascii c hc).1.trans (by decide)
  rw [Function.comp_apply, UInt8.toNat_ofNat_of_lt' hlt, Char.ofNat_toNat]
  rfl

theorem isWord_octet (x : UInt8) :
  IsWord 3 (Decimal.text x.toNat)
  := by
  refine ⟨?_, ?_, ?_⟩
  all_goals rw [Decimal.text, String.toList_ofList]
  · apply Nat.toDigits_ne_nil
  · exact Nat.toDigits_length 10 _ 3 (by decide) (x.toNat_lt.trans (by decide))
  · intro c hc
    have hdigit := Nat.isDigit_of_mem_toDigits (by decide) (by decide) hc
    constructor
    · have hrange : 48 ≤ c.toNat ∧ c.toNat ≤ 57 := Char.isDigit_iff_toNat.mp hdigit
      omega
    · rintro rfl
      cases hdigit

theorem ascii_digitChar :
  ∀ n < 16, (Nat.digitChar n).toNat < 128 ∧ Nat.digitChar n ≠ '.'
  := by decide

theorem isWord_nibble {n : Nat} (hn : n < 16) :
  IsWord 1 (String.ofList (Nat.toDigits 16 n))
  := by
  rw [Nat.toDigits_of_lt_base hn]
  refine ⟨?_, ?_, ?_⟩
  all_goals rw [String.toList_ofList]
  · nofun
  · exact Nat.le_refl 1
  · intro c hc
    rw [List.mem_singleton.mp hc]
    apply ascii_digitChar n hn

theorem readOctet_digits :
  ∀ n < 256, IpAddress.readOctet (Decimal.digits n) = some (.ofNat n, [])
  := by decide +kernel

/-- An octet is read back from its label. -/
theorem octet?_asciiLabel (x : UInt8) :
  (asciiLabel (Decimal.text x.toNat)).octet? = some x
  := by
  rw [Label.octet?, chars_asciiLabel (isWord_octet x), Decimal.text, String.toList_ofList,
    readOctet_digits _ x.toNat_lt, UInt8.ofNat_toNat]

theorem digit?_digitChar :
  ∀ n < 16, IpAddress.digit? 16 (Nat.digitChar n) = some n
  := by decide

/-- The label of a hexadecimal digit. -/
def nibbleLabel (n : Nat) : Label :=
  asciiLabel (String.ofList (Nat.toDigits 16 n))

/-- A hexadecimal digit is read back from its label. -/
theorem nibble?_nibbleLabel {n : Nat} (hn : n < 16) :
  (nibbleLabel n).nibble? = some n
  := by
  rw [Label.nibble?, nibbleLabel, chars_asciiLabel (isWord_nibble hn), Nat.toDigits_of_lt_base hn,
    String.toList_ofList]
  apply digit?_digitChar n hn

/-- The labels of a group, from its highest digit. -/
def groupLabels (g : UInt16) : List Label :=
  let high := g.toNat / 256
  let low := g.toNat % 256
  [nibbleLabel (high / 16), nibbleLabel (high % 16), nibbleLabel (low / 16), nibbleLabel (low % 16)]

/-- Groups are read back from their labels. -/
theorem groups?_groupLabels (gs : List UInt16) :
  groups? (gs.flatMap groupLabels) = some gs
  := by
  induction gs with
  | nil => rfl
  | cons g gs ih =>
      have hg := g.toNat_lt
      have hgroup : 256 * (16 * (g.toNat / 256 / 16) + g.toNat / 256 % 16)
          + (16 * (g.toNat % 256 / 16) + g.toNat % 256 % 16) = g.toNat := by
        omega
      rw [List.flatMap_cons, groupLabels, List.cons_append, List.cons_append, List.cons_append,
        List.cons_append, List.nil_append, groups?]
      rw [nibble?_nibbleLabel (by omega), nibble?_nibbleLabel (by omega),
        nibble?_nibbleLabel (by omega), nibble?_nibbleLabel (by omega), ih]
      simp only [Option.bind_eq_bind, Option.bind_some, hgroup, UInt16.ofNat_toNat]
      rfl

/-! ### The name of an address -/

variable {ip ip' : IpAddress} {labels labels' : List String}

theorem length_octets_v6 (gs : Vector UInt16 8) :
  (IpAddress.v6 gs).octets.length = 16
  := by
  rw [IpAddress.octets, List.length_flatMap]
  simp [List.map_const']

/-- The labels of an address are short words under a zone. -/
theorem reverseLabels_eq_append (ip : IpAddress) :
  ∃ k labels zone, reverseLabels ip = labels ++ [zone, "arpa"] ∧ k ≤ 7 ∧ IsWord 7 zone
    ∧ (∀ s ∈ labels, IsWord k s) ∧ (k + 1) * labels.length ≤ 64
  := by
  cases ip with
  | v4 a b c d =>
      refine ⟨3, _, _, rfl, by decide, by decide, ?_, Nat.le_of_ble_eq_true rfl⟩
      intro s hs
      obtain ⟨x, -, rfl⟩ := List.mem_map.mp hs
      apply isWord_octet
  | v6 gs =>
      refine ⟨1, _, _, rfl, by decide, by decide, ?_, ?_⟩
      · intro s hs
        obtain ⟨x, -, hs⟩ := List.mem_flatMap.mp hs
        have hx := x.toNat_lt
        rw [List.mem_cons, List.mem_singleton] at hs
        rcases hs with rfl | rfl
        · apply isWord_nibble (by omega)
        · apply isWord_nibble (by omega)
      · rw [List.length_flatMap]
        simp [List.map_const', length_octets_v6]

theorem isWord_of_mem_reverseLabels (h : s ∈ reverseLabels ip) :
  IsWord 7 s
  := by
  obtain ⟨k, labels, zone, heq, hk, hzone, hwords, -⟩ := reverseLabels_eq_append ip
  rw [heq, List.mem_append] at h
  rcases h with h | h
  · apply (hwords s h).mono hk
  · rw [List.mem_cons, List.mem_singleton] at h
    rcases h with rfl | rfl
    · apply hzone
    · decide

theorem proper_ofLabels (h : ∀ s ∈ labels, IsWord k s) (hk : k < 64) :
  (Name.ofLabels labels).Proper
  := by
  intro l hl
  obtain ⟨s, hs, rfl⟩ := List.mem_map.mp hl
  have hs := h s hs
  rw [asciiLabel, ne_eq, List.map_eq_nil_iff, List.length_map]
  exact ⟨hs.ne_nil, hs.length_le.trans_lt hk⟩

theorem size_ofLabels_append :
  (Name.ofLabels (labels ++ labels')).size
    = (Name.ofLabels labels).size + (Name.ofLabels labels').size
  := by
  induction labels with
  | nil => exact (Nat.zero_add _).symm
  | cons s labels ih =>
      change (asciiLabel s).length + 1 + (Name.ofLabels (labels ++ labels')).size
        = (asciiLabel s).length + 1 + (Name.ofLabels labels).size + (Name.ofLabels labels').size
      rw [ih, Nat.add_assoc _ _ (Name.size _)]

theorem size_ofLabels_le (h : ∀ s ∈ labels, IsWord k s) :
  (Name.ofLabels labels).size ≤ (k + 1) * labels.length
  := by
  induction labels with
  | nil => exact Nat.zero_le _
  | cons s labels ih =>
      obtain ⟨hs, hlabels⟩ := List.forall_mem_cons.mp h
      have hlength : (asciiLabel s).length ≤ k := by
        rw [asciiLabel, List.length_map]
        apply hs.length_le
      have hrest := ih hlabels
      change (asciiLabel s).length + 1 + Name.size (Name.ofLabels labels) ≤ _
      rw [List.length_cons, Nat.mul_succ]
      omega

theorem size_ofLabels_reverseLabels :
  (Name.ofLabels (reverseLabels ip)).size < 255
  := by
  obtain ⟨k, labels, zone, heq, -, hzone, hwords, hlength⟩ := reverseLabels_eq_append ip
  have hsize := size_ofLabels_le hwords
  have htail : (Name.ofLabels [zone, "arpa"]).size ≤ 16 := by
    apply size_ofLabels_le (k := 7)
    apply List.forall_mem_cons.mpr ⟨hzone, by decide⟩
  rw [heq, size_ofLabels_append]
  omega

theorem reverse_ofLabels_v6 (gs : Vector UInt16 8) :
  (Name.ofLabels (reverseLabels (.v6 gs))).reverse
    = asciiLabel "arpa" :: asciiLabel "ip6" :: gs.toList.flatMap groupLabels
  := by
  rw [reverseLabels, Name.ofLabels, List.map_append, List.reverse_append, List.map_flatMap,
    List.reverse_flatMap, List.reverse_reverse, IpAddress.octets, List.flatMap_assoc]
  change asciiLabel "arpa" :: asciiLabel "ip6" :: _ = _
  congr 2
  apply congrArg (List.flatMap · gs.toList)
  funext g
  have hg := g.toNat_lt
  have hhigh : (UInt8.ofNat (g.toNat / 256)).toNat = g.toNat / 256 :=
    UInt8.toNat_ofNat_of_lt' (Nat.div_lt_of_lt_mul hg)
  have hlow : (UInt8.ofNat (g.toNat % 256)).toNat = g.toNat % 256 :=
    UInt8.toNat_ofNat_of_lt' (Nat.mod_lt _ (by decide))
  change [nibbleLabel ((UInt8.ofNat (g.toNat / 256)).toNat / 16),
    nibbleLabel ((UInt8.ofNat (g.toNat / 256)).toNat % 16),
    nibbleLabel ((UInt8.ofNat (g.toNat % 256)).toNat / 16),
    nibbleLabel ((UInt8.ofNat (g.toNat % 256)).toNat % 16)] = _
  rw [hhigh, hlow, groupLabels]

/-- The address is read back from the labels that spell it. -/
theorem address?_ofLabels :
  (Name.ofLabels (reverseLabels ip)).address? = some ip
  := by
  cases ip with
  | v4 a b c d =>
      change (do
        let w ← (asciiLabel (Decimal.text a.toNat)).octet?
        let x ← (asciiLabel (Decimal.text b.toNat)).octet?
        let y ← (asciiLabel (Decimal.text c.toNat)).octet?
        let z ← (asciiLabel (Decimal.text d.toNat)).octet?
        return IpAddress.v4 w x y z) = _
      rw [octet?_asciiLabel, octet?_asciiLabel, octet?_asciiLabel, octet?_asciiLabel]
      rfl
  | v6 gs =>
      rw [Name.address?, reverse_ofLabels_v6]
      change (do
        let gs ← groups? (gs.toList.flatMap groupLabels)
        let v ← IpAddress.ofGroups gs
        return IpAddress.v6 v) = _
      rw [groups?_groupLabels, Option.bind_eq_bind, Option.bind_some, IpAddress.ofGroups,
        dif_pos gs.length_toList]
      rfl

example : (Name.ofLabels ["10", "1", "168", "192", "in-addr", "arpa"]).address?
    = some (.v4 192 168 1 10) := by decide +kernel

/-- The labels of the name are the parts of its text between the points. -/
theorem ofLabels_eq_splitOn :
  Name.ofLabels (reverseLabels ip)
    = ((reverseName ip).toList.splitOn '.').map fun part => asciiLabel (.ofList part)
  := by
  have hpoints : ∀ part ∈ (reverseLabels ip).map String.toList, '.' ∉ part := by
    intro part hpart hpoint
    obtain ⟨s, hs, rfl⟩ := List.mem_map.mp hpart
    exact ((isWord_of_mem_reverseLabels hs).ascii _ hpoint).2 rfl
  have hne : (reverseLabels ip).map String.toList ≠ [] := by
    obtain ⟨k, labels, zone, heq, -⟩ := reverseLabels_eq_append ip
    rw [heq, List.map_append]
    apply List.append_ne_nil_of_right_ne_nil
    nofun
  rw [reverseName, String.toList_intercalate]
  change _ = (List.splitOn '.' (['.'].intercalate _)).map _
  rw [List.splitOn_intercalate '.' hpoints hne, List.map_map]
  apply List.map_congr_left
  intro s hs
  rw [Function.comp_apply, String.ofList_toList]

/-! ### The question -/

variable {id id' : UInt16}

/-- The header of a question. -/
def headerBytes (id : UInt16) : List UInt8 :=
  wordBytes id.toNat ++ wordBytes 0x0100 ++ [1, 0, 0, 0].flatMap wordBytes

/-- The part of a question after the header. -/
def questionBytes (ip : IpAddress) : List UInt8 :=
  (Name.ofLabels (reverseLabels ip)).wire ++ (wordBytes 12 ++ wordBytes 1)

theorem query_eq :
  query id ip = headerBytes id ++ questionBytes ip
  := by
  rw [query, questionBytes, List.append_assoc, List.append_assoc]
  rfl

/-- The name is read from a question, whatever stands before it. -/
theorem readName_questionBytes (hmessage : message = front ++ questionBytes ip)
    (hpos : front.length = pos) :
  readName message pos
    = some (Name.ofLabels (reverseLabels ip), pos + (Name.ofLabels (reverseLabels ip)).wire.length)
  := by
  apply readName_wire _ size_ofLabels_reverseLabels hmessage hpos
  apply proper_ofLabels (fun s hs => isWord_of_mem_reverseLabels hs) (by decide)

theorem questionBytes_injective (h : questionBytes ip = questionBytes ip') :
  ip = ip'
  := by
  -- both names are read from the same bytes, with nothing before them
  have hread := readName_questionBytes (List.nil_append (questionBytes ip)).symm rfl
  have hread' := readName_questionBytes (h.trans (List.nil_append (questionBytes ip')).symm) rfl
  rw [hread] at hread'
  have hname : Name.ofLabels (reverseLabels ip) = Name.ofLabels (reverseLabels ip') :=
    congrArg Prod.fst (Option.some.inj hread')
  apply Option.some.inj
  rw [← address?_ofLabels, hname, address?_ofLabels]

theorem header_query :
  Header.read? (query id ip) = some (.ofQuery id)
  := by
  have hid : wordAt? (query id ip) 0 = some id.toNat := by
    rw [query_eq, headerBytes, List.append_assoc, List.append_assoc]
    exact wordAt?_of_eq_append id.toNat_lt (List.nil_append _).symm rfl
  rw [Header.read?, hid]
  rfl

theorem question_query :
  Question.read? (query id ip) 12
    = some (⟨Name.ofLabels (reverseLabels ip), 12, 1⟩, (query id ip).length)
  := by
  let wire := (Name.ofLabels (reverseLabels ip)).wire
  have htype : query id ip = headerBytes id ++ wire ++ (wordBytes 12 ++ wordBytes 1) := by
    rw [query_eq, questionBytes, List.append_assoc]
  have hclass : query id ip = headerBytes id ++ wire ++ wordBytes 12 ++ (wordBytes 1 ++ []) := by
    rw [htype, List.append_nil, ← List.append_assoc]
  have hend : (headerBytes id ++ wire).length = 12 + wire.length := List.length_append
  have hname : readName (query id ip) 12
      = some (Name.ofLabels (reverseLabels ip), 12 + wire.length) :=
    readName_questionBytes query_eq rfl
  rw [Question.read?, hname]
  change (do
    let type ← wordAt? (query id ip) (12 + wire.length)
    let cls ← wordAt? (query id ip) (12 + wire.length + 2)
    return (Question.mk _ type cls, 12 + wire.length + 4)) = _
  rw [wordAt?_of_eq_append (by decide) htype hend, wordAt?_of_eq_append (by decide) hclass, htype,
    List.length_append, hend]
  · rfl
  · rw [List.length_append, hend]
    rfl

/-- **The question for the name of an address.** By the format of messages its header has the
identifier, is not a reply, has the opcode of a query and desires recursion, and one question and no
records follow. The question goes to the end of the message; it is for a pointer, of type 12, in the
class of internet names, 1. The labels of the name in it are the parts of the text of the name, and
read from the right they spell the address. So two addresses never have the same question. -/
theorem query_decodes (id : UInt16) (ip : IpAddress) :
  Header.read? (query id ip) = some (.ofQuery id)
    ∧ (∃ name, Question.read? (query id ip) 12 = some (⟨name, 12, 1⟩, (query id ip).length)
      ∧ name = ((reverseName ip).toList.splitOn '.').map (fun part => asciiLabel (.ofList part))
      ∧ name.address? = some ip)
    ∧ ∀ id' ip', (query id ip).drop 12 = (query id' ip').drop 12 → ip = ip'
  := by
  refine ⟨header_query, ⟨_, question_query, ofLabels_eq_splitOn, address?_ofLabels⟩, ?_⟩
  intro id' ip' h
  rw [query_eq, query_eq] at h
  exact questionBytes_injective h

end LogCourier.Dns
