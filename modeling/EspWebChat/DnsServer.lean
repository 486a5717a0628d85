import EspWebChat.DnsMessages

set_option autoImplicit false

/-!
# The captive DNS server of `network/dns_server.c`

A turn of the loop receives one datagram into the buffer, patches four octets of its header,
appends an address record and sends the result back. The buffer keeps what earlier turns left.
-/
namespace EspWebChat.DnsServer
open DatagramReaders DnsMessages

def dnsPacketBytes : ℕ := 256

def dnsAnswerBytes : ℕ := 16

/-- `uint8_t buffer[DNS_PACKET_BYTES]` -/
structure Buffer where
  bytes : List UInt8
  size : bytes.length = dnsPacketBytes

/-- The octets of an IPv4 address as `esp_netif_get_ip_info` stores them. -/
structure Address where
  octets : List UInt8
  four : octets.length = 4

/-- `buffer[i] = b`; a write outside of the buffer has no result. -/
def Buffer.store (buffer : Buffer) (i : ℕ) (b : UInt8) : Option Buffer :=
  if i < dnsPacketBytes then some ⟨buffer.bytes.set i b, List.length_set.trans buffer.size⟩ else none

/-- `buffer[len++] = b`, for one byte after the other. -/
def Buffer.append (buffer : Buffer) (len : ℕ) : List UInt8 → Option (Buffer × ℕ)
  | [] => some (buffer, len)
  | b :: bs => (buffer.store len b).bind fun buffer => buffer.append (len + 1) bs

/-- `recvfrom` cuts a datagram off at the size of the buffer. -/
def Buffer.receive (buffer : Buffer) (datagram : List UInt8) : Buffer where
  bytes := datagram.take dnsPacketBytes ++ buffer.bytes.drop datagram.length
  size := by
    rw [List.length_append, List.length_take, List.length_drop, buffer.size]
    omega

/-- A pointer to the question's name, type A, class IN, 60 seconds, four octets of data. -/
def answerHead : List UInt8 := [0xc0, 0x0c, 0x00, 0x01, 0x00, 0x01, 0x00, 0x00, 0x00, 0x3c, 0x00, 0x04]

structure Turn where
  buffer : Buffer
  sent : Option (List UInt8)

/-- One turn of the loop. `recvfrom` returns a datagram or fails with -1. -/
def dnsServerTurn (ip : Address) (buffer : Buffer) (received : Option (List UInt8)) : Option Turn :=
  match received with
  | none => some ⟨buffer, none⟩
  | some datagram =>
    let buffer := buffer.receive datagram
    let len := min datagram.length dnsPacketBytes
    if len < 12 ∨ dnsPacketBytes < len + dnsAnswerBytes then some ⟨buffer, none⟩
    else do
      let buffer ← buffer.store 2 0x81
      let buffer ← buffer.store 3 0x80
      let buffer ← buffer.store 6 0x00
      let buffer ← buffer.store 7 0x01
      let headed ← buffer.append len answerHead
      let copied ← headed.1.append headed.2 ip.octets
      return ⟨copied.1, some (copied.1.bytes.take copied.2)⟩

/-- `dns_server_task`, with what it receives turn by turn. -/
def dnsServerTask (buffer : Buffer) : List (Address × Option (List UInt8)) → Option (List Turn)
  | [] => some []
  | (ip, received) :: rest => (dnsServerTurn ip buffer received).bind fun turn =>
      (dnsServerTask turn.buffer rest).map fun turns => turn :: turns

theorem store_some (buffer : Buffer) {i : ℕ} (b : UInt8) (h : i < dnsPacketBytes) :
    ∃ after, buffer.store i b = some after ∧ after.bytes = buffer.bytes.set i b :=
  ⟨_, if_pos h, rfl⟩

theorem take_store (bytes : List UInt8) (i : ℕ) (b : UInt8) (h : i < bytes.length) :
    (bytes.set i b).take (i + 1) = bytes.take i ++ [b] := by
  rw [List.take_add_one, List.take_set_of_le (Nat.le_refl i), List.getElem?_set_self h]
  rfl

theorem append_some (bs : List UInt8) (buffer : Buffer) (len : ℕ) (room : len + bs.length ≤ dnsPacketBytes) :
    ∃ after, buffer.append len bs = some (after, len + bs.length) ∧
      after.bytes.take (len + bs.length) = buffer.bytes.take len ++ bs := by
  induction bs generalizing buffer len with
  | nil => exact ⟨buffer, rfl, (List.append_nil _).symm⟩
  | cons b bs ih =>
    rw [List.length_cons] at room
    obtain ⟨stored, run, bytes⟩ := store_some buffer b (show len < dnsPacketBytes by omega)
    obtain ⟨after, rest, taken⟩ := ih stored (len + 1) (by omega)
    have count : len + (b :: bs).length = len + 1 + bs.length := by
      rw [List.length_cons]
      omega
    refine ⟨after, ?_, ?_⟩
    · rw [Buffer.append, run, Option.bind_some, rest, count]
    · rw [count, taken, bytes, take_store _ _ _ (by rw [buffer.size]; omega), List.append_assoc]
      rfl

/-- The header as the turn leaves it: a response without error, with one answer. -/
def patched (datagram : List UInt8) : List UInt8 := (((datagram.set 2 0x81).set 3 0x80).set 6 0x00).set 7 0x01

def reply (ip : Address) (datagram : List UInt8) : List UInt8 := patched datagram ++ (answerHead ++ ip.octets)

theorem patched_length (datagram : List UInt8) : (patched datagram).length = datagram.length := by
  simp [patched]

theorem reply_length (ip : Address) (datagram : List UInt8) :
    (reply ip datagram).length = datagram.length + dnsAnswerBytes := by
  rw [reply, List.length_append, List.length_append, patched_length, ip.four]
  rfl

theorem turn_sends (ip : Address) (buffer : Buffer) (datagram : List UInt8) (long : 12 ≤ datagram.length)
    (room : datagram.length + dnsAnswerBytes ≤ dnsPacketBytes) :
    ∃ after, dnsServerTurn ip buffer (some datagram) = some ⟨after, some (reply ip datagram)⟩ := by
  have small : datagram.length ≤ dnsPacketBytes := by omega
  have enter : ¬(datagram.length < 12 ∨ dnsPacketBytes < datagram.length + dnsAnswerBytes) := by omega
  have kept : (buffer.receive datagram).bytes.take datagram.length = datagram := by
    change (datagram.take dnsPacketBytes ++ buffer.bytes.drop datagram.length).take datagram.length = datagram
    rw [List.take_of_length_le small, List.take_left]
  obtain ⟨b0, s0, e0⟩ := store_some (buffer.receive datagram) 0x81 (show 2 < dnsPacketBytes by decide)
  obtain ⟨b1, s1, e1⟩ := store_some b0 0x80 (show 3 < dnsPacketBytes by decide)
  obtain ⟨b2, s2, e2⟩ := store_some b1 0x00 (show 6 < dnsPacketBytes by decide)
  obtain ⟨b3, s3, e3⟩ := store_some b2 0x01 (show 7 < dnsPacketBytes by decide)
  have head : answerHead.length = 12 := rfl
  have tail := ip.four
  have total : dnsAnswerBytes = 16 := rfl
  obtain ⟨b4, s4, e4⟩ := append_some answerHead b3 datagram.length (by omega)
  obtain ⟨b5, s5, e5⟩ := append_some ip.octets b4 (datagram.length + answerHead.length) (by omega)
  have bytes : b5.bytes.take (datagram.length + answerHead.length + ip.octets.length) = reply ip datagram := by
    rw [e5, e4, e3, e2, e1, e0, List.take_set, List.take_set, List.take_set, List.take_set, kept, List.append_assoc]
    rfl
  refine ⟨b5, ?_⟩
  simp only [dnsServerTurn, Nat.min_eq_left small, if_neg enter, s0, s1, s2, s3, s4, s5, bytes, Option.bind_eq_bind,
    Option.bind_some, Option.pure_def]

theorem turn_ignores (ip : Address) (buffer : Buffer) {datagram : List UInt8}
    (outside : ¬(12 ≤ datagram.length ∧ datagram.length + dnsAnswerBytes ≤ dnsPacketBytes)) :
    dnsServerTurn ip buffer (some datagram) = some ⟨buffer.receive datagram, none⟩ := by
  have leave : min datagram.length dnsPacketBytes < 12 ∨
      dnsPacketBytes < min datagram.length dnsPacketBytes + dnsAnswerBytes := by
    have total : dnsAnswerBytes = 16 := rfl
    omega
  exact if_pos leave

/-- No turn writes outside of the buffer, -/
theorem turn_within (ip : Address) (buffer : Buffer) (received : Option (List UInt8)) :
    ∃ turn, dnsServerTurn ip buffer received = some turn := by
  cases received with
  | none => exact ⟨_, rfl⟩
  | some datagram =>
    by_cases fits : 12 ≤ datagram.length ∧ datagram.length + dnsAnswerBytes ≤ dnsPacketBytes
    · obtain ⟨after, run⟩ := turn_sends ip buffer datagram fits.1 fits.2
      exact ⟨_, run⟩
    · exact ⟨_, turn_ignores ip buffer fits⟩

/-- and no run does, whatever arrives. -/
theorem task_within (arrivals : List (Address × Option (List UInt8))) (buffer : Buffer) :
    ∃ turns, dnsServerTask buffer arrivals = some turns := by
  induction arrivals generalizing buffer with
  | nil => exact ⟨[], rfl⟩
  | cons arrival arrivals ih =>
    obtain ⟨turn, run⟩ := turn_within arrival.1 buffer arrival.2
    obtain ⟨turns, rest⟩ := ih turn.buffer
    exact ⟨turn :: turns, by rw [dnsServerTask, run, Option.bind_some, rest]; rfl⟩

theorem patched_agree (ip : Address) (datagram : List UInt8) {i : ℕ} (other : i ≠ 2 ∧ i ≠ 3 ∧ i ≠ 6 ∧ i ≠ 7)
    (inside : i < datagram.length) : (reply ip datagram)[i]? = datagram[i]? := by
  obtain ⟨two, three, six, seven⟩ := other
  rw [reply, List.getElem?_append_left (by rw [patched_length]; exact inside), patched, List.getElem?_set_ne seven.symm,
    List.getElem?_set_ne six.symm, List.getElem?_set_ne three.symm, List.getElem?_set_ne two.symm]

theorem patched_at (ip : Address) {datagram : List UInt8} {i : ℕ} {b : UInt8} (h : (patched datagram)[i]? = some b) :
    (reply ip datagram)[i]? = some b := by
  have inside : i < (patched datagram).length := by
    by_contra beyond
    rw [List.getElem?_eq_none (Nat.not_lt.mp beyond)] at h
    cases h
  rw [reply, List.getElem?_append_left inside]
  exact h

theorem patched_new (ip : Address) {datagram : List UInt8} (long : 12 ≤ datagram.length) :
    number16 (reply ip datagram) 2 = some (0x8180, 4) ∧ number16 (reply ip datagram) 6 = some (1, 8) := by
  have two : (reply ip datagram)[2]? = some 0x81 :=
    patched_at ip (by simp [patched, show 2 < datagram.length by omega])
  have three : (reply ip datagram)[3]? = some 0x80 :=
    patched_at ip (by simp [patched, show 3 < datagram.length by omega])
  have six : (reply ip datagram)[6]? = some 0x00 :=
    patched_at ip (by simp [patched, show 6 < datagram.length by omega])
  have seven : (reply ip datagram)[7]? = some 0x01 :=
    patched_at ip (by simp [patched, show 7 < datagram.length by omega])
  rw [number16_eq, number16_eq, two, three, six, seven]
  exact ⟨rfl, rfl⟩

/-- The record that the turn appends to a question about `name`. -/
def answerRecord (ip : Address) (name : Name) : Record := ⟨name, 1, 1, 60, ip.octets⟩

theorem answer_bytes (ip : Address) (name : Name) :
    answerHead ++ ip.octets = [0xc0, 0x0c] ++ writeBody (answerRecord ip name) := by
  simp [writeBody, octets16, octets32, answerRecord, answerHead, ip.four]

theorem answer_read (ip : Address) (front : List UInt8) {name : Name} {e : ℕ} (long : headerOctets < front.length)
    (named : DnsMessages.name (front ++ (answerHead ++ ip.octets)) headerOctets = some (name, e)) :
    record (front ++ (answerHead ++ ip.octets)) front.length =
      some (answerRecord ip name, front.length + dnsAnswerBytes) := by
  have high : (front ++ (answerHead ++ ip.octets))[front.length]? = some 0xc0 := by simp [answerHead]
  have low : (front ++ (answerHead ++ ip.octets))[front.length + 1]? = some 0x0c := by simp [answerHead]
  have points : DnsMessages.name (front ++ (answerHead ++ ip.octets)) front.length = some (name, front.length + 2) :=
    readName_pointer high (by decide) low (Nat.le_refl _) long named
  have small : ip.octets.length < 65536 := by
    have := ip.four
    omega
  have valid : ValidBody (answerRecord ip name) := ⟨show 1 < 65536 by decide, show 1 < 65536 by decide,
    show 60 < 4294967296 by decide, small⟩
  have body := recordBody_take valid (front ++ [0xc0, 0x0c]) []
  rw [List.append_nil, List.append_assoc, ← answer_bytes, List.length_append] at body
  have size : (writeBody (answerRecord ip name)).length = 14 := by
    simp [writeBody, octets16, octets32, answerRecord, ip.four]
  rw [size] at body
  rw [record, bind_run points]
  exact body

/-- The reply to a question without answers. What a decoder takes for the answer is the first
    record behind the question. -/
theorem reply_decoded (ip : Address) {datagram : List UInt8} {id flags : ℕ} {q : Question} {additional : List Record}
    (asked : decode datagram = some ⟨id, flags, [q], [], [], additional⟩) :
    decode (reply ip datagram) = some ⟨id, 0x8180, [q], (additional ++ [answerRecord ip q.name]).take 1, [],
      (additional ++ [answerRecord ip q.name]).drop 1⟩ := by
  have parts := decode_iff.mp asked
  obtain ⟨p, _, _, questioned, -, -, -⟩ := parts.sections
  obtain ⟨_, _, _, _, first, -, same⟩ := many_succ_some questioned
  cases same
  obtain ⟨_, e, named, first⟩ := bind_some first
  obtain ⟨_, _, -, first⟩ := bind_some first
  obtain ⟨_, _, -, first⟩ := bind_some first
  cases first
  have long := name_inside named
  have agree : Agree headerOctets datagram (reply ip datagram) := by
    intro i low inside
    unfold headerOctets at low
    exact patched_agree ip datagram (by omega) inside
  have short : 12 < datagram.length := long
  have same : ∀ i, i ≤ 10 → i ≠ 1 ∧ i ≠ 2 ∧ i ≠ 3 ∧ i ≠ 5 ∧ i ≠ 6 ∧ i ≠ 7 →
      number16 (reply ip datagram) i = number16 datagram i := by
    intro i low other
    exact number16_congr (patched_agree ip datagram (by omega) (by omega))
      (patched_agree ip datagram (by omega) (by omega))
  obtain ⟨named', -⟩ := name_local agree (Nat.le_refl _) named
  have behind := answer_read ip (patched datagram) (by rw [patched_length]; exact long) named'
  rw [patched_length, ← reply_length ip] at behind
  have new := patched_new ip (Nat.le_of_lt short)
  exact decode_iff.mpr (parts.appended rfl rfl agree (same 0 (by omega) (by omega)) new.1 (same 4 (by omega) (by omega))
    new.2 (same 8 (by omega) (by omega)) (same 10 (by omega) (by omega)) behind)

/-- A query for the address of a name, with any additional records. -/
structure IsQuery (datagram : List UInt8) (q : Question) (additional : List Record) : Prop where
  decoded : ∃ id flags, flags.testBit 15 = false ∧ decode datagram = some ⟨id, flags, [q], [], [], additional⟩
  uncompressed : writeName q.name <+: datagram.drop headerOctets
  type : q.type = 1
  cls : q.cls = 1

structure Addresses (r : Record) (name : Name) (ip : Address) : Prop where
  name : SameName r.name name
  type : r.type = 1
  cls : r.cls = 1
  data : r.data = ip.octets

/-- The turn stays in its buffer, and what it sends repeats the id and the question of the query,
    is a response and has one answer, the address of the name asked for. -/
def WellAnswered (ip : Address) (buffer : Buffer) (datagram : List UInt8) : Prop :=
  ∃ turn, dnsServerTurn ip buffer (some datagram) = some turn ∧ ∀ sent, turn.sent = some sent →
    ∃ query answer r, decode datagram = some query ∧ decode sent = some answer ∧ answer.id = query.id ∧
      answer.flags.testBit 15 = true ∧ answer.questions = query.questions ∧ answer.answers = [r] ∧
      ∀ q ∈ query.questions, Addresses r q.name ip

def Ignored (ip : Address) (buffer : Buffer) (datagram : List UInt8) : Prop :=
  ∃ after, dnsServerTurn ip buffer (some datagram) = some ⟨after, none⟩

theorem replied_of_fits {ip : Address} {buffer : Buffer} {datagram : List UInt8} (long : 12 ≤ datagram.length)
    (room : datagram.length + dnsAnswerBytes ≤ dnsPacketBytes) : ¬Ignored ip buffer datagram := by
  rintro ⟨after, ignored⟩
  obtain ⟨_, run⟩ := turn_sends ip buffer datagram long room
  cases run.symm.trans ignored

theorem sends_of_replied {ip : Address} {buffer : Buffer} {datagram : List UInt8} (replied : ¬Ignored ip buffer datagram) :
    ∃ after, dnsServerTurn ip buffer (some datagram) = some ⟨after, some (reply ip datagram)⟩ := by
  by_cases fits : 12 ≤ datagram.length ∧ datagram.length + dnsAnswerBytes ≤ dnsPacketBytes
  · exact turn_sends ip buffer datagram fits.1 fits.2
  · exact absurd ⟨_, turn_ignores ip buffer fits⟩ replied

/-- The answer of a reply to a query: the first additional record, or the appended one. -/
theorem answered_iff {ip : Address} {buffer : Buffer} {datagram : List UInt8} {q : Question} {additional : List Record}
    (asked : IsQuery datagram q additional) (replied : ¬Ignored ip buffer datagram) :
    WellAnswered ip buffer datagram ↔
      ∃ r, (additional ++ [answerRecord ip q.name]).take 1 = [r] ∧ Addresses r q.name ip := by
  obtain ⟨id, flags, -, decoded⟩ := asked.decoded
  obtain ⟨after, run⟩ := sends_of_replied replied
  have read := reply_decoded ip decoded
  constructor
  · rintro ⟨turn, turned, well⟩
    cases run.symm.trans turned
    obtain ⟨query, answer, r, known, found, -, -, -, one, addresses⟩ := well _ rfl
    cases decoded.symm.trans known
    cases read.symm.trans found
    exact ⟨r, one, addresses q List.mem_cons_self⟩
  · rintro ⟨r, one, addresses⟩
    refine ⟨_, run, ?_⟩
    intro sent same
    cases same
    refine ⟨_, _, r, decoded, read, rfl, (by decide : Nat.testBit 0x8180 15 = true), rfl, one, ?_⟩
    intro q' only
    rw [List.mem_singleton.mp only]
    exact addresses

/-- Of the queries that are answered, those are answered well that have no additional record, or
    whose first one happens to be the answer already. -/
theorem answer_well_formed {ip : Address} {buffer : Buffer} {datagram : List UInt8} {q : Question}
    {additional : List Record} (asked : IsQuery datagram q additional) (replied : ¬Ignored ip buffer datagram) :
    WellAnswered ip buffer datagram ↔ ∀ r ∈ additional.head?, Addresses r q.name ip := by
  rw [answered_iff asked replied]
  cases additional with
  | nil =>
    have own : Addresses (answerRecord ip q.name) q.name ip := ⟨rfl, rfl, rfl, rfl⟩
    refine iff_of_true ⟨_, rfl, own⟩ ?_
    intro r none
    cases none
  | cons first rest =>
    constructor
    · rintro ⟨r, one, addresses⟩ r' head
      cases one
      cases head
      exact addresses
    · intro h
      exact ⟨first, rfl, h first rfl⟩

def accessPoint : Address := ⟨[192, 168, 4, 1], rfl⟩

def freshBuffer : Buffer := ⟨List.replicate dnsPacketBytes 0, List.length_replicate⟩

def espQuestion : Question := ⟨[[0x65, 0x73, 0x70]], 1, 1⟩

/-- The OPT record of EDNS: root name, type 41, the size of the resolver's own buffer. -/
def optRecord : Record := ⟨[], 41, 1232, 0, []⟩

def espQuery (additional : List Record) : List UInt8 :=
  writeMessage ⟨0x1234, 0x0100, [espQuestion], [], [], additional⟩

theorem espQuestion_valid : ValidQuestion espQuestion where
  name := ⟨by decide, by decide⟩
  type := by decide
  cls := by decide

theorem optRecord_valid : ValidRecord optRecord where
  name := ⟨by decide, by decide⟩
  body := ⟨by decide, by decide, by decide, by decide⟩

theorem espQuery_asked {additional : List Record} (few : additional.length < 65536)
    (valid : ∀ r ∈ additional, ValidRecord r) : IsQuery (espQuery additional) espQuestion additional where
  decoded := ⟨0x1234, 0x0100, by decide, decode_written
    { header :=
        { id := show 0x1234 < 65536 by decide
          flags := show 0x0100 < 65536 by decide
          questions := show 1 < 65536 by decide
          answers := show 0 < 65536 by decide
          authority := show 0 < 65536 by decide
          additional := few }
      questions := by
        intro q only
        rw [List.mem_singleton.mp only]
        exact espQuestion_valid
      answers := by
        intro r none
        cases none
      authority := by
        intro r none
        cases none
      additional := valid }⟩
  uncompressed := ⟨octets16 1 ++ octets16 1 ++ additional.flatMap writeRecord, rfl⟩
  type := rfl
  cls := rfl

theorem esp_answered : WellAnswered accessPoint freshBuffer (espQuery []) := by
  have asked : IsQuery (espQuery []) espQuestion [] := by
    apply espQuery_asked (by decide)
    intro r none
    cases none
  have replied : ¬Ignored accessPoint freshBuffer (espQuery []) := replied_of_fits (by decide) (by decide)
  refine (answer_well_formed asked replied).mpr ?_
  intro r none
  cases none

/-- With an OPT record in the query, its answer is the OPT record. -/
theorem edns_misplaced : IsQuery (espQuery [optRecord]) espQuestion [optRecord] ∧
    ¬Ignored accessPoint freshBuffer (espQuery [optRecord]) ∧
    ¬WellAnswered accessPoint freshBuffer (espQuery [optRecord]) := by
  have asked : IsQuery (espQuery [optRecord]) espQuestion [optRecord] := by
    apply espQuery_asked (by decide)
    intro r only
    rw [List.mem_singleton.mp only]
    exact optRecord_valid
  have replied : ¬Ignored accessPoint freshBuffer (espQuery [optRecord]) := replied_of_fits (by decide) (by decide)
  refine ⟨asked, replied, ?_⟩
  rw [answered_iff asked replied]
  rintro ⟨r, one, addresses⟩
  cases one
  exact absurd addresses.type (by decide)

end EspWebChat.DnsServer
