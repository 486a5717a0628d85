import EspWebChat.DatagramReaders

set_option autoImplicit false

/-!
# The message format of RFC 1035

A message is a header of twelve octets and four sections whose sizes the header announces. A
name is a sequence of labels; it may end in a pointer to a name that stands earlier in the
message, behind the header. A name takes no more than 255 octets, so reading one comes to an
end: a label uses up octets and a pointer leads back.
-/
namespace EspWebChat.DnsMessages
open DatagramReaders

abbrev Label := List UInt8

abbrev Name := List Label

def headerOctets : ℕ := 12

def maxNameOctets : ℕ := 255

def maxLabelOctets : ℕ := 63

/-- A name of at most `budget` octets, written out, from position `p` on. -/
def readName (m : List UInt8) (budget p : ℕ) : Option (Name × ℕ) :=
  (m[p]?).bind fun b =>
    if b.toNat = 0 then
      if 0 < budget then some ([], p + 1) else none
    else if b.toNat ≤ maxLabelOctets then
      if room : b.toNat < budget then
        (many octet b.toNat m (p + 1)).bind fun label =>
          (readName m (budget - (b.toNat + 1)) label.2).map fun rest => (label.1 :: rest.1, rest.2)
      else none
    else if 192 ≤ b.toNat then
      (m[p + 1]?).bind fun low =>
        if back : headerOctets ≤ (b.toNat - 192) * 256 + low.toNat ∧ (b.toNat - 192) * 256 + low.toNat < p then
          (readName m budget ((b.toNat - 192) * 256 + low.toNat)).map fun rest => (rest.1, p + 2)
        else none
    else none
termination_by (budget, p)
decreasing_by
  · exact Prod.Lex.left _ _ (by omega)
  · exact Prod.Lex.right _ back.2

def name : Reader Name := fun m p => readName m maxNameOctets p

def lower (b : UInt8) : UInt8 := if 0x41 ≤ b ∧ b ≤ 0x5a then b + 0x20 else b

def SameName (a b : Name) : Prop := a.map (List.map lower) = b.map (List.map lower)

instance (a b : Name) : Decidable (SameName a b) := inferInstanceAs (Decidable (_ = _))

structure Question where
  name : Name
  type : ℕ
  cls : ℕ
  deriving DecidableEq, Repr

structure Record where
  name : Name
  type : ℕ
  cls : ℕ
  ttl : ℕ
  data : List UInt8
  deriving DecidableEq, Repr

structure Header where
  id : ℕ
  flags : ℕ
  questions : ℕ
  answers : ℕ
  authority : ℕ
  additional : ℕ
  deriving DecidableEq, Repr

structure Message where
  id : ℕ
  flags : ℕ
  questions : List Question
  answers : List Record
  authority : List Record
  additional : List Record
  deriving DecidableEq, Repr

def question : Reader Question := do
  let name ← name
  let type ← number16
  let cls ← number16
  return { name, type, cls }

/-- What follows the name of a record. -/
def recordBody (name : Name) : Reader Record := do
  let type ← number16
  let cls ← number16
  let ttl ← number32
  let length ← number16
  let data ← many octet length
  return { name, type, cls, ttl, data }

def record : Reader Record := do
  let name ← name
  recordBody name

def header : Reader Header := do
  let id ← number16
  let flags ← number16
  let questions ← number16
  let answers ← number16
  let authority ← number16
  let additional ← number16
  return { id, flags, questions, answers, authority, additional }

/-- The four sections, as many entries each as the header announces. -/
def sections (h : Header) : Reader Message := do
  let questions ← many question h.questions
  let answers ← many record h.answers
  let authority ← many record h.authority
  let additional ← many record h.additional
  return { id := h.id, flags := h.flags, questions, answers, authority, additional }

def message : Reader Message := do
  let h ← header
  sections h

/-- The whole datagram is the message. -/
def decode (m : List UInt8) : Option Message :=
  (message m 0).bind fun r => if r.2 = m.length then some r.1 else none

section names
variable {m : List UInt8} {budget p q e : ℕ} {b low : UInt8} {label : Label} {labels : Name}

theorem readName_root (found : m[p]? = some b) (zero : b.toNat = 0) (room : 0 < budget) :
    readName m budget p = some ([], p + 1) := by
  rw [readName, found, Option.bind_some, if_pos zero, if_pos room]

theorem readName_label (found : m[p]? = some b) (full : b.toNat ≠ 0) (short : b.toNat ≤ maxLabelOctets)
    (room : b.toNat < budget) (taken : many octet b.toNat m (p + 1) = some (label, q))
    (rest : readName m (budget - (b.toNat + 1)) q = some (labels, e)) :
    readName m budget p = some (label :: labels, e) := by
  rw [readName, found, Option.bind_some, if_neg full, if_pos short, dif_pos room, taken, Option.bind_some, rest]
  rfl

theorem readName_pointer (found : m[p]? = some b) (high : 192 ≤ b.toNat) (next : m[p + 1]? = some low)
    (behind : headerOctets ≤ (b.toNat - 192) * 256 + low.toNat) (before : (b.toNat - 192) * 256 + low.toNat < p)
    (rest : readName m budget ((b.toNat - 192) * 256 + low.toNat) = some (labels, e)) :
    readName m budget p = some (labels, p + 2) := by
  have full : b.toNat ≠ 0 := by omega
  have long : ¬b.toNat ≤ maxLabelOctets := by
    unfold maxLabelOctets
    omega
  rw [readName, found, Option.bind_some, if_neg full, if_neg long, if_pos high, next, Option.bind_some,
    dif_pos ⟨behind, before⟩, rest]
  rfl

inductive Begins (m : List UInt8) (budget p : ℕ) : Name → ℕ → Prop where
  | root {b : UInt8} : m[p]? = some b → b.toNat = 0 → 0 < budget → Begins m budget p [] (p + 1)
  | label {b : UInt8} {label : Label} {labels : Name} {q e : ℕ} : m[p]? = some b → b.toNat ≠ 0 →
      b.toNat ≤ maxLabelOctets → b.toNat < budget → many octet b.toNat m (p + 1) = some (label, q) →
      readName m (budget - (b.toNat + 1)) q = some (labels, e) → Begins m budget p (label :: labels) e
  | pointer {b low : UInt8} {labels : Name} {e : ℕ} : m[p]? = some b → 192 ≤ b.toNat → m[p + 1]? = some low →
      headerOctets ≤ (b.toNat - 192) * 256 + low.toNat → (b.toNat - 192) * 256 + low.toNat < p →
      readName m budget ((b.toNat - 192) * 256 + low.toNat) = some (labels, e) → Begins m budget p labels (p + 2)

theorem readName_begins {r : Name × ℕ} (h : readName m budget p = some r) : Begins m budget p r.1 r.2 := by
  rw [readName] at h
  obtain ⟨b, found, h⟩ := Option.bind_eq_some_iff.mp h
  split_ifs at h with zero room short room high
  · cases h
    exact .root found zero room
  · obtain ⟨taken, octets, h⟩ := Option.bind_eq_some_iff.mp h
    obtain ⟨rest, read, h⟩ := Option.map_eq_some_iff.mp h
    cases h
    exact .label found zero short room octets read
  · obtain ⟨low, next, h⟩ := Option.bind_eq_some_iff.mp h
    split_ifs at h with back
    obtain ⟨rest, read, h⟩ := Option.map_eq_some_iff.mp h
    cases h
    exact .pointer found high next back.1 back.2 read

/-- A name stands as it is when the datagram changes in the header or grows. -/
theorem readName_local {m' : List UInt8} (agree : Agree headerOctets m m') (budget p : ℕ) :
    ∀ r, headerOctets ≤ p → readName m budget p = some r → readName m' budget p = some r ∧ p ≤ r.2 := by
  have same : ∀ {i b}, headerOctets ≤ i → m[i]? = some b → m'[i]? = some b := by
    intro i b low found
    rw [agree i low (List.getElem?_eq_some_iff.mp found).1, found]
  induction budget, p using readName.induct with
  | case1 budget p shorter earlier =>
    intro r low h
    obtain ⟨labels, e⟩ := r
    cases readName_begins h with
    | root found zero room => exact ⟨readName_root (same low found) zero room, Nat.le_succ p⟩
    | @label b label labels q _ found full short room taken rest =>
      obtain ⟨taken', forth⟩ := octet_local.many b.toNat agree (Nat.le_succ_of_le low) taken
      obtain ⟨rest', further⟩ := shorter b room (label, q) (labels, e) (by simp only at forth ⊢; omega) rest
      refine ⟨readName_label (same low found) full short room taken' rest', ?_⟩
      simp only at forth further ⊢
      omega
    | @pointer b c _ e' found high next behind before rest =>
      obtain ⟨rest', -⟩ := earlier b c ⟨behind, before⟩ (labels, e') behind rest
      exact ⟨readName_pointer (same low found) high (same (Nat.le_succ_of_le low) next) behind before rest',
        Nat.le_add_right p 2⟩

end names

theorem name_inside {m : List UInt8} {p : ℕ} {r : Name × ℕ} (h : name m p = some r) : p < m.length := by
  obtain ⟨labels, e⟩ := r
  cases readName_begins h with
  | root found | label found | pointer found => exact (List.getElem?_eq_some_iff.mp found).1

theorem name_local : Local headerOctets name := fun _ _ p r agree low h => readName_local agree maxNameOctets p r low h

theorem question_local : Local headerOctets question :=
  name_local.bind fun _ => number16_local.bind fun _ => number16_local.bind fun _ => .pure _

theorem record_local : Local headerOctets record :=
  name_local.bind fun _ => number16_local.bind fun _ => number16_local.bind fun _ => number32_local.bind fun _ =>
    number16_local.bind fun n => (octet_local.many n).bind fun _ => .pure _

def writeName : Name → List UInt8
  | [] => [0]
  | label :: labels => UInt8.ofNat label.length :: (label ++ writeName labels)

structure ValidName (labels : Name) : Prop where
  label : ∀ label ∈ labels, 0 < label.length ∧ label.length ≤ maxLabelOctets
  size : (writeName labels).length ≤ maxNameOctets

theorem writeName_pos (labels : Name) : 0 < (writeName labels).length := by
  cases labels with
  | nil => exact Nat.one_pos
  | cons label labels => exact Nat.succ_pos _

theorem readName_written {labels : Name} (valid : ∀ label ∈ labels, 0 < label.length ∧ label.length ≤ maxLabelOctets)
    (budget : ℕ) (size : (writeName labels).length ≤ budget) (before after : List UInt8) :
    readName (before ++ (writeName labels ++ after)) budget before.length =
      some (labels, before.length + (writeName labels).length) := by
  induction labels generalizing budget before with
  | nil => exact readName_root (b := 0) (by simp [writeName]) rfl (Nat.lt_of_lt_of_le Nat.one_pos size)
  | cons label labels ih =>
    obtain ⟨full, short⟩ := valid label List.mem_cons_self
    have count : (UInt8.ofNat label.length).toNat = label.length := by
      unfold maxLabelOctets at short
      rw [UInt8.toNat_ofNat']
      omega
    have total : (writeName (label :: labels)).length = label.length + 1 + (writeName labels).length := by
      simp only [writeName, List.length_cons, List.length_append]
      omega
    have one := writeName_pos labels
    have found : (before ++ (writeName (label :: labels) ++ after))[before.length]? =
        some (UInt8.ofNat label.length) := by simp [writeName]
    have taken := octets_take label (before ++ [UInt8.ofNat label.length]) (writeName labels ++ after)
    have rest := ih (fun l hl => valid l (List.mem_cons_of_mem _ hl)) (budget - (label.length + 1)) (by omega)
      (before ++ UInt8.ofNat label.length :: label)
    have front : before ++ [UInt8.ofNat label.length] ++ (label ++ (writeName labels ++ after)) =
        before ++ (writeName (label :: labels) ++ after) := by simp [writeName]
    have middle : before ++ UInt8.ofNat label.length :: label ++ (writeName labels ++ after) =
        before ++ (writeName (label :: labels) ++ after) := by simp [writeName]
    rw [front, List.length_append, List.length_singleton] at taken
    rw [middle, List.length_append, List.length_cons] at rest
    have shape : (UInt8.ofNat label.length).toNat ≠ 0 ∧ (UInt8.ofNat label.length).toNat ≤ maxLabelOctets ∧
        (UInt8.ofNat label.length).toNat < budget := by omega
    have bytes : many octet (UInt8.ofNat label.length).toNat (before ++ (writeName (label :: labels) ++ after))
        (before.length + 1) = some (label, before.length + 1 + label.length) := by
      rw [count]
      exact taken
    have tail : readName (before ++ (writeName (label :: labels) ++ after))
        (budget - ((UInt8.ofNat label.length).toNat + 1)) (before.length + 1 + label.length) =
        some (labels, before.length + (label.length + 1) + (writeName labels).length) := by
      rw [count, Nat.add_right_comm before.length]
      exact rest
    rw [total, readName_label found shape.1 shape.2.1 shape.2.2 bytes tail, Nat.add_assoc]

theorem name_take {labels : Name} (valid : ValidName labels) : Takes name (writeName labels) labels :=
  readName_written valid.label maxNameOctets valid.size

def writeQuestion (q : Question) : List UInt8 := writeName q.name ++ (octets16 q.type ++ octets16 q.cls)

def writeBody (r : Record) : List UInt8 :=
  octets16 r.type ++ (octets16 r.cls ++ (octets32 r.ttl ++ (octets16 r.data.length ++ r.data)))

def writeRecord (r : Record) : List UInt8 := writeName r.name ++ writeBody r

structure ValidQuestion (q : Question) : Prop where
  name : ValidName q.name
  type : q.type < 65536
  cls : q.cls < 65536

structure ValidBody (r : Record) : Prop where
  type : r.type < 65536
  cls : r.cls < 65536
  ttl : r.ttl < 4294967296
  data : r.data.length < 65536

structure ValidRecord (r : Record) : Prop where
  name : ValidName r.name
  body : ValidBody r

theorem question_take {q : Question} (valid : ValidQuestion q) : Takes question (writeQuestion q) q := by
  have bytes : writeQuestion q = writeName q.name ++ (octets16 q.type ++ (octets16 q.cls ++ [])) := by
    rw [List.append_nil]
    rfl
  rw [bytes]
  exact (name_take valid.name).bind ((octets16_take valid.type).bind ((octets16_take valid.cls).bind (.pure q)))

theorem recordBody_take {r : Record} (valid : ValidBody r) : Takes (recordBody r.name) (writeBody r) r := by
  have bytes : writeBody r = octets16 r.type ++ (octets16 r.cls ++ (octets32 r.ttl ++ (octets16 r.data.length ++
      (r.data ++ [])))) := by
    rw [List.append_nil]
    rfl
  rw [bytes]
  exact (octets16_take valid.type).bind ((octets16_take valid.cls).bind ((octets32_take valid.ttl).bind
    ((octets16_take valid.data).bind ((octets_take r.data).bind (.pure r)))))

theorem record_take {r : Record} (valid : ValidRecord r) : Takes record (writeRecord r) r :=
  (name_take valid.name).bind (recordBody_take valid.body)

def writeHeader (h : Header) : List UInt8 :=
  octets16 h.id ++ (octets16 h.flags ++ (octets16 h.questions ++ (octets16 h.answers ++
    (octets16 h.authority ++ octets16 h.additional))))

def Message.header (msg : Message) : Header :=
  { id := msg.id
    flags := msg.flags
    questions := msg.questions.length
    answers := msg.answers.length
    authority := msg.authority.length
    additional := msg.additional.length }

def writeSections (msg : Message) : List UInt8 :=
  msg.questions.flatMap writeQuestion ++ (msg.answers.flatMap writeRecord ++
    (msg.authority.flatMap writeRecord ++ msg.additional.flatMap writeRecord))

def writeMessage (msg : Message) : List UInt8 := writeHeader msg.header ++ writeSections msg

structure ValidHeader (h : Header) : Prop where
  id : h.id < 65536
  flags : h.flags < 65536
  questions : h.questions < 65536
  answers : h.answers < 65536
  authority : h.authority < 65536
  additional : h.additional < 65536

structure ValidMessage (msg : Message) : Prop where
  header : ValidHeader msg.header
  questions : ∀ q ∈ msg.questions, ValidQuestion q
  answers : ∀ r ∈ msg.answers, ValidRecord r
  authority : ∀ r ∈ msg.authority, ValidRecord r
  additional : ∀ r ∈ msg.additional, ValidRecord r

theorem header_take {h : Header} (valid : ValidHeader h) : Takes header (writeHeader h) h := by
  have bytes : writeHeader h = octets16 h.id ++ (octets16 h.flags ++ (octets16 h.questions ++ (octets16 h.answers ++
      (octets16 h.authority ++ (octets16 h.additional ++ []))))) := by
    rw [List.append_nil]
    rfl
  rw [bytes]
  exact (octets16_take valid.id).bind ((octets16_take valid.flags).bind ((octets16_take valid.questions).bind
    ((octets16_take valid.answers).bind ((octets16_take valid.authority).bind ((octets16_take valid.additional).bind
      (.pure h))))))

theorem sections_take {msg : Message} (valid : ValidMessage msg) : Takes (sections msg.header) (writeSections msg) msg := by
  have bytes : writeSections msg = msg.questions.flatMap writeQuestion ++ (msg.answers.flatMap writeRecord ++
      (msg.authority.flatMap writeRecord ++ (msg.additional.flatMap writeRecord ++ []))) := by
    rw [List.append_nil]
    rfl
  rw [bytes]
  exact (Takes.many fun q hq => question_take (valid.questions q hq)).bind
    ((Takes.many fun r hr => record_take (valid.answers r hr)).bind
      ((Takes.many fun r hr => record_take (valid.authority r hr)).bind
        ((Takes.many fun r hr => record_take (valid.additional r hr)).bind (.pure msg))))

/-- A message that is written out is decoded to itself. -/
theorem decode_written {msg : Message} (valid : ValidMessage msg) : decode (writeMessage msg) = some msg := by
  have taken := (header_take valid.header).bind (sections_take valid) [] []
  rw [List.nil_append, List.append_nil, List.length_nil, Nat.zero_add] at taken
  change (message (writeMessage msg) 0).bind _ = _
  rw [show message (writeMessage msg) 0 = some (msg, (writeMessage msg).length) from taken, Option.bind_some, if_pos rfl]

/-- Where in a datagram the parts of a message stand. -/
structure Parts (m : List UInt8) (msg : Message) : Prop where
  id : number16 m 0 = some (msg.id, 2)
  flags : number16 m 2 = some (msg.flags, 4)
  questions : number16 m 4 = some (msg.questions.length, 6)
  answers : number16 m 6 = some (msg.answers.length, 8)
  authority : number16 m 8 = some (msg.authority.length, 10)
  additional : number16 m 10 = some (msg.additional.length, headerOctets)
  sections : ∃ p q r, many question msg.questions.length m headerOctets = some (msg.questions, p) ∧
    many record msg.answers.length m p = some (msg.answers, q) ∧
    many record msg.authority.length m q = some (msg.authority, r) ∧
    many record msg.additional.length m r = some (msg.additional, m.length)

theorem decode_iff {m : List UInt8} {msg : Message} : decode m = some msg ↔ Parts m msg := by
  constructor
  · intro h
    obtain ⟨⟨msg', e⟩, read, h⟩ := Option.bind_eq_some_iff.mp h
    split_ifs at h with whole
    cases h
    cases whole
    obtain ⟨hd, start, first, rest⟩ := bind_some read
    obtain ⟨id, p, r0, first⟩ := bind_some first
    cases number16_next r0
    obtain ⟨flags, p, r1, first⟩ := bind_some first
    cases number16_next r1
    obtain ⟨questions, p, r2, first⟩ := bind_some first
    cases number16_next r2
    obtain ⟨answers, p, r3, first⟩ := bind_some first
    cases number16_next r3
    obtain ⟨authority, p, r4, first⟩ := bind_some first
    cases number16_next r4
    obtain ⟨additional, p, r5, first⟩ := bind_some first
    cases number16_next r5
    cases first
    obtain ⟨qs, p, s0, rest⟩ := bind_some rest
    obtain ⟨as, q, s1, rest⟩ := bind_some rest
    obtain ⟨ns, r, s2, rest⟩ := bind_some rest
    obtain ⟨ds, s, s3, rest⟩ := bind_some rest
    cases rest
    cases many_length s0
    cases many_length s1
    cases many_length s2
    cases many_length s3
    exact ⟨r0, r1, r2, r3, r4, r5, p, q, r, s0, s1, s2, s3⟩
  · intro h
    obtain ⟨p, q, r, s0, s1, s2, s3⟩ := h.sections
    have first : header m 0 = some (msg.header, headerOctets) := by
      rw [header, bind_run h.id, bind_run h.flags, bind_run h.questions, bind_run h.answers, bind_run h.authority,
        bind_run h.additional]
      rfl
    have rest : sections msg.header m headerOctets = some (msg, m.length) := by
      rw [sections]
      exact (bind_run s0).trans ((bind_run s1).trans ((bind_run s2).trans ((bind_run s3).trans rfl)))
    rw [decode, message, bind_run first, rest, Option.bind_some, if_pos rfl]

/-- A record put behind the last section belongs to the answers only when nothing stands between:
    with the answer count raised to one, the first record behind the question is the answer. -/
theorem Parts.appended {m m' : List UInt8} {msg : Message} {flags : ℕ} {r : Record} (h : Parts m msg)
    (no_answers : msg.answers = []) (no_authority : msg.authority = []) (agree : Agree headerOctets m m')
    (id : number16 m' 0 = number16 m 0) (patched : number16 m' 2 = some (flags, 4))
    (questions : number16 m' 4 = number16 m 4) (one : number16 m' 6 = some (1, 8))
    (authority : number16 m' 8 = number16 m 8) (additional : number16 m' 10 = number16 m 10)
    (behind : record m' m.length = some (r, m'.length)) :
    Parts m' ⟨msg.id, flags, msg.questions, (msg.additional ++ [r]).take 1, [], (msg.additional ++ [r]).drop 1⟩ := by
  obtain ⟨p, q, e, s0, s1, s2, s3⟩ := h.sections
  rw [no_answers] at s1
  rw [no_authority] at s2
  cases s1
  cases s2
  obtain ⟨s0', past⟩ := question_local.many _ agree (Nat.le_refl _) s0
  obtain ⟨s3', -⟩ := record_local.many _ agree past s3
  have last : many record 1 m' m.length = some ([r], m'.length) := many_succ behind rfl
  have all := many_append s3' last
  rw [Nat.add_comm] at all
  obtain ⟨e, first, others⟩ := many_split all
  have short : ((msg.additional ++ [r]).take 1).length = 1 := many_length first
  have long : ((msg.additional ++ [r]).drop 1).length = msg.additional.length := many_length others
  have none_between : (0 : ℕ) = msg.authority.length := by rw [no_authority, List.length_nil]
  exact
    { id := id.trans h.id
      flags := patched
      questions := questions.trans h.questions
      answers := by rw [short, one]
      authority := by rw [List.length_nil, none_between]; exact authority.trans h.authority
      additional := by rw [long]; exact additional.trans h.additional
      sections := ⟨p, e, e, s0', by rw [short]; exact first, rfl, by rw [long]; exact others⟩ }

end EspWebChat.DnsMessages
