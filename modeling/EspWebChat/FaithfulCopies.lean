import Mathlib.Data.String.Basic
import EspWebChat.WrittenMessages

set_option autoImplicit false

/-!
# What a projection keeps of a message

A message is written into a recovery response by one projection and stored by a second one.
Either leaves the content of a valid message as it was, and `comparableMessage` is equal on
two valid messages exactly when their contents are.
-/
namespace EspWebChat.FaithfulCopies
open JsonTree JsValues ClientMessages ClientStore WrittenMessages

variable {m c : Json} {key : String} {userId : String}

def grouped (m : Json) : Bool := isText "newGroup" (m.lastMember "type") || (m.lastMember "groupId").isSome

/-- The members of `c` are those of `historyMessagePayload m`, and others beside them. -/
structure Copies (m c : Json) : Prop where
  type : c.lastMember "type" = m.lastMember "type"
  sender : c.lastMember "from" = m.lastMember "from"
  name : c.lastMember "name" = m.lastMember "name"
  target : c.lastMember "to" = some (.obj [
    ("all", .bool (targetsAll m)),
    ("users", .arr ((targetUsers m).filter (fun user => validUserId (some user))))])
  data : c.lastMember "data" = some (orElse (m.lastMember "data") (str ""))
  id : c.lastMember "id" = some (nat (numericId m))
  timestamp : c.lastMember "timestamp" = some (.num (orZero (numberOfMember (m.lastMember "timestamp"))))
  groupId : c.lastMember "groupId" = if grouped m then m.lastMember "groupId" else none
  groupName : c.lastMember "groupName" = if grouped m then m.lastMember "groupName" else none

theorem lookup_optionalMember_self (key : String) (o : Option Json) :
    (optionalMember key o).reverse.lookup key = o := by
  cases o with
  | none => rfl
  | some v => simp [optionalMember]

def contentKeys : List String :=
  ["type", "from", "to", "name", "data", "id", "timestamp", "groupId", "groupName"]

/-- The part of the payload that every message has. -/
def plainMembers (m : Json) : Members :=
  optionalMember "type" (m.lastMember "type") ++ optionalMember "from" (m.lastMember "from") ++
    [("to", .obj [
        ("all", .bool (targetsAll m)),
        ("users", .arr ((targetUsers m).filter (fun user => validUserId (some user))))])] ++
    optionalMember "name" (m.lastMember "name") ++
    [("data", orElse (m.lastMember "data") (.str "")),
      ("id", .num (.fin (numericId m))),
      ("timestamp", .num (orZero (numberOfMember (m.lastMember "timestamp"))))]

def groupMetadata (m : Json) : Members :=
  optionalMember "groupId" (m.lastMember "groupId") ++ optionalMember "groupName" (m.lastMember "groupName")

theorem payload_copies (m : Json) (extra : Members)
    (apart : ∀ key ∈ contentKeys, extra.reverse.lookup key = none) : Copies m (.obj (historyMessagePayload m ++ extra)) := by
  have front : ∀ key ∈ contentKeys,
      (Json.obj (historyMessagePayload m ++ extra)).lastMember key = (historyMessagePayload m).reverse.lookup key := by
    intro key hk
    unfold Json.lastMember Json.members
    simp only [reverse_lookup_append, apart key hk]
    rfl
  have whole : historyMessagePayload m = plainMembers m ++ (if grouped m then groupMetadata m else []) := rfl
  have group : ∀ key, (if grouped m then groupMetadata m else []).reverse.lookup key =
      if grouped m then (groupMetadata m).reverse.lookup key else none := by
    intro key
    split_ifs
    · rfl
    · rfl
  have other : ∀ key, key ≠ "groupId" → key ≠ "groupName" →
      (historyMessagePayload m).reverse.lookup key = (plainMembers m).reverse.lookup key := by
    intro key id name
    rw [whole, reverse_lookup_append, group]
    unfold groupMetadata
    simp only [reverse_lookup_append, lookup_optionalMember id, lookup_optionalMember name, Option.or_none,
      ite_self, Option.none_or]
  constructor
  case groupId | groupName =>
    rw [front _ (by simp [contentKeys]), whole, reverse_lookup_append, group]
    unfold plainMembers groupMetadata
    simp only [reverse_lookup_append, lookup_optionalMember_self]
    simp [lookup_optionalMember, lookup_cons, -List.reverse_append]
  all_goals
    rw [front _ (by simp [contentKeys]), other _ (by decide) (by decide)]
    unfold plainMembers
    simp only [reverse_lookup_append, lookup_optionalMember_self]
    simp [lookup_optionalMember, lookup_cons, str, nat, -List.reverse_append]

theorem historyMessagePayload_copies (m : Json) : Copies m (.obj (historyMessagePayload m)) := by
  have copies := payload_copies m [] (fun _ _ => rfl)
  rw [List.append_nil] at copies
  exact copies

theorem recoveredMessagePayload_copies (users : Members) (m source now : Json) :
    Copies m (recoveredMessagePayload users m source now) := by
  unfold recoveredMessagePayload
  simp only [List.append_assoc]
  apply payload_copies
  intro key hk
  simp only [contentKeys, List.mem_cons, List.not_mem_nil, or_false] at hk
  simp only [reverse_lookup_append]
  rcases hk with rfl | rfl | rfl | rfl | rfl | rfl | rfl | rfl | rfl <;>
    simp [lookup_optionalMember, lookup_cons, -List.reverse_append]

/-- What a valid message is known to have. -/
structure Wellformed (m : Json) : Prop where
  id : isSafeMessageId m = true
  type : (isText "text" (m.lastMember "type") || isText "newGroup" (m.lastMember "type")) = true
  sender : validUserId (m.lastMember "from") = true
  name : validText 31 (m.lastMember "name") = true
  target : validMessageTarget (m.lastMember "to") = true
  timestamp : isFinite (numberOfMember (m.lastMember "timestamp")) = true
  data : (stringSize (m.lastMember "data")).any (fun size => decide (size ≤ 256)) = true
  filled : (isText "text" (m.lastMember "type") && isText "" (m.lastMember "data")) = false
  group : (if isText "newGroup" (m.lastMember "type") || (m.lastMember "groupId").isSome ||
    (m.lastMember "groupName").isSome then validGroupMetadata m else true) = true

theorem valid_iff : validHistoryMessage m = true ↔ Wellformed m := by
  unfold validHistoryMessage
  simp only [Bool.and_eq_true, Bool.not_eq_true']
  constructor
  · intro h
    obtain ⟨⟨⟨⟨⟨⟨⟨⟨id, type⟩, sender⟩, name⟩, target⟩, timestamp⟩, data⟩, filled⟩, group⟩ := h
    exact ⟨id, type, sender, name, target, timestamp, data, filled, group⟩
  · intro h
    exact ⟨⟨⟨⟨⟨⟨⟨⟨h.id, h.type⟩, h.sender⟩, h.name⟩, h.target⟩, h.timestamp⟩, h.data⟩, h.filled⟩, h.group⟩

theorem Wellformed.number (h : Wellformed m) :
    messageId m = some (numericId m) ∧ 0 < numericId m ∧ numericId m ≤ maxSafeInteger := by
  obtain ⟨n, hn⟩ := Option.isSome_iff_exists.mp h.id
  unfold numericId
  rw [hn]
  exact ⟨rfl, messageId_bounds hn⟩

theorem Wellformed.kind (h : Wellformed m) :
    ∃ type, m.lastMember "type" = some (.str type) ∧ (type = "text" ∨ type = "newGroup") := by
  rcases Bool.or_eq_true_iff.mp h.type with plain | group
  · exact ⟨_, text_eq_some (beq_iff_eq.mp plain), .inl rfl⟩
  · exact ⟨_, text_eq_some (beq_iff_eq.mp group), .inr rfl⟩

theorem Wellformed.time (h : Wellformed m) : ∃ q, numberOfMember (m.lastMember "timestamp") = .fin q := by
  have finite := h.timestamp
  cases time : numberOfMember (m.lastMember "timestamp") with
  | fin q => exact ⟨q, rfl⟩
  | nan | inf =>
    rw [time] at finite
    cases finite

theorem Wellformed.users (h : Wellformed m) :
    (targetUsers m).filter (fun user => validUserId (some user)) = targetUsers m := by
  have target := h.target
  unfold validMessageTarget at target
  simp only [Bool.and_eq_true] at target
  exact List.filter_eq_self.mpr (List.all_eq_true.mp target.1.2)

theorem Wellformed.metadata (h : Wellformed m) :
    (m.lastMember "groupId" = none ∧ m.lastMember "groupName" = none) ∨
    (grouped m = true ∧ (∃ id, m.lastMember "groupId" = some (.str id) ∧ id ≠ "") ∧
      (stringSize (m.lastMember "groupName")).isSome = true ∧ truthy (m.lastMember "groupName") = true) := by
  have group := h.group
  split_ifs at group with needed
  · unfold validGroupMetadata at group
    simp only [Bool.and_eq_true] at group
    obtain ⟨id, hid, some_id⟩ := text_of_validText group.1
    refine .inr ⟨?_, ⟨id, hid, some_id⟩, string_of_validLabel group.2⟩
    simp [grouped, hid]
  · simp only [Bool.or_eq_true, not_or, Bool.not_eq_true, Option.isSome_eq_false_iff, Option.isNone_iff_eq_none] at needed
    exact .inl ⟨needed.1.2, needed.2⟩

theorem Copies.all (h : Copies m c) : targetsAll c = targetsAll m := by
  unfold targetsAll
  rw [h.target]
  rfl

theorem Copies.users (h : Copies m c) (valid : Wellformed m) : targetUsers c = targetUsers m := by
  have read : targetUsers c = (targetUsers m).filter (fun user => validUserId (some user)) := by
    unfold targetUsers
    rw [h.target]
    rfl
  rw [read, valid.users]

theorem Copies.message (h : Copies m c) (valid : Wellformed m) : messageId c = messageId m := by
  obtain ⟨known, positive, high⟩ := valid.number
  have number : numberOfMember (some (nat (numericId m))) = .fin (numericId m) := rfl
  rw [known]
  unfold messageId
  rw [h.id, number, safeNat_nat high]
  simp [positive]

theorem Copies.numeric (h : Copies m c) (valid : Wellformed m) : numericId c = numericId m := by
  unfold numericId
  rw [h.message valid]

theorem Copies.moment (h : Copies m c) (valid : Wellformed m) :
    numberOfMember (c.lastMember "timestamp") = numberOfMember (m.lastMember "timestamp") := by
  obtain ⟨q, is_time⟩ := valid.time
  rw [h.timestamp, is_time]
  rfl

theorem Copies.words (h : Copies m c) (valid : Wellformed m) : c.lastMember "data" = m.lastMember "data" := by
  obtain ⟨size, found, -⟩ := (Option.any_eq_true _ _).mp valid.data
  rw [h.data]
  exact string_or_empty (by rw [found]; rfl)

theorem Copies.metadata (h : Copies m c) (valid : Wellformed m) :
    c.lastMember "groupId" = m.lastMember "groupId" ∧ c.lastMember "groupName" = m.lastMember "groupName" := by
  rw [h.groupId, h.groupName]
  cases valid.metadata with
  | inl none => simp [none]
  | inr both => simp [both.1]

theorem Copies.validTarget (h : Copies m c) (valid : Wellformed m) : validMessageTarget (c.lastMember "to") = true := by
  have target := valid.target
  have users : itemsOf (property (m.lastMember "to") "users") = targetUsers m := rfl
  have all : truthy (property (m.lastMember "to") "all") = targetsAll m := rfl
  unfold validMessageTarget at target
  simp only [users, all, Bool.and_eq_true] at target
  rw [h.target, valid.users]
  unfold validMessageTarget
  change (true && true && _ && _ && (targetsAll m || _)) = true
  simp only [Bool.and_eq_true]
  exact ⟨⟨⟨⟨trivial, trivial⟩, target.1.1.2⟩, target.1.2⟩, target.2⟩

theorem Copies.wellformed (h : Copies m c) (valid : Wellformed m) : Wellformed c := by
  have metadata := h.metadata valid
  have safe := valid.id
  have group := valid.group
  refine ⟨?_, ?_, ?_, ?_, h.validTarget valid, ?_, ?_, ?_, ?_⟩
  · unfold isSafeMessageId at safe ⊢
    rw [h.message valid]
    exact safe
  · rw [h.type]
    exact valid.type
  · rw [h.sender]
    exact valid.sender
  · rw [h.name]
    exact valid.name
  · rw [h.moment valid]
    exact valid.timestamp
  · rw [h.words valid]
    exact valid.data
  · rw [h.type, h.words valid]
    exact valid.filled
  · unfold validGroupMetadata at group ⊢
    rw [h.type, metadata.1, metadata.2]
    exact group

theorem truthy_of_valid (valid : Wellformed m) : truthyValue m = true := by
  obtain ⟨s, hs, -⟩ := text_of_validText valid.name
  cases m with
  | obj ms => rfl
  | null | bool | num | str | cut | arr => cases hs

theorem Copies.mine (h : Copies m c) (valid : Wellformed m) (userId : String) :
    isMessageForMe userId c = isMessageForMe userId m := by
  unfold isMessageForMe
  rw [truthy_of_valid valid, truthy_of_valid (h.wellformed valid), h.sender, h.all, h.users valid]

theorem Copies.comparable (h : Copies m c) (valid : Wellformed m) : comparableMessage c = comparableMessage m := by
  have metadata := h.metadata valid
  unfold comparableMessage
  rw [h.numeric valid, h.type, h.sender, h.name, h.all, h.users valid, h.words valid, h.moment valid, metadata.1,
    metadata.2]

/-- The same content, read off the members themselves; the targets in any order. -/
structure SameContent (m m' : Json) : Prop where
  type : m.lastMember "type" = m'.lastMember "type"
  sender : m.lastMember "from" = m'.lastMember "from"
  name : m.lastMember "name" = m'.lastMember "name"
  all : property (m.lastMember "to") "all" = property (m'.lastMember "to") "all"
  users : (targetUsers m).Perm (targetUsers m')
  data : m.lastMember "data" = m'.lastMember "data"
  timestamp : numberOfMember (m.lastMember "timestamp") = numberOfMember (m'.lastMember "timestamp")
  groupId : m.lastMember "groupId" = m'.lastMember "groupId"
  groupName : m.lastMember "groupName" = m'.lastMember "groupName"

variable {m' : Json}

theorem sorted_eq_iff {a b : List String} :
    a.insertionSort (· ≤ ·) = b.insertionSort (· ≤ ·) ↔ a.Perm b := by
  constructor
  · intro same
    have left := List.perm_insertionSort (· ≤ ·) a
    rw [same] at left
    exact left.symm.trans (List.perm_insertionSort (· ≤ ·) b)
  · intro perm
    have both : (a.insertionSort (· ≤ ·)).Perm (b.insertionSort (· ≤ ·)) :=
      (List.perm_insertionSort _ a).trans (perm.trans (List.perm_insertionSort _ b).symm)
    exact both.eq_of_pairwise' (List.pairwise_insertionSort _ a) (List.pairwise_insertionSort _ b)

theorem Wellformed.texts (h : Wellformed m) :
    ((targetUsers m).filterMap (fun user => text (some user))).map Json.str = targetUsers m := by
  have valid := List.filter_eq_self.mp h.users
  generalize targetUsers m = users at valid
  induction users with
  | nil => rfl
  | cons user users ih =>
    obtain ⟨s, hs, -⟩ := text_of_validText (valid user List.mem_cons_self)
    obtain rfl := Option.some.inj hs
    have rest := ih (fun u hu => valid u (List.mem_cons_of_mem _ hu))
    simp only [List.filterMap_cons, text, List.map_cons] at rest ⊢
    rw [rest]

theorem users_iff (valid : Wellformed m) (valid' : Wellformed m') :
    (comparableMessage m).users = (comparableMessage m').users ↔ (targetUsers m).Perm (targetUsers m') := by
  unfold comparableMessage
  rw [sorted_eq_iff]
  constructor
  · intro perm
    rw [← valid.texts, ← valid'.texts]
    exact perm.map Json.str
  · intro perm
    exact perm.filterMap _

theorem member_eq_of_text {o o' : Option Json} (some_o : (text o).isSome = true) (same : text o = text o') : o = o' := by
  obtain ⟨s, hs⟩ := Option.isSome_iff_exists.mp some_o
  have hs' : text o' = some s := same ▸ hs
  rw [text_eq_some hs, text_eq_some hs']

theorem boolean_of_valid (valid : Wellformed m) :
    property (m.lastMember "to") "all" = some (.bool (targetsAll m)) := by
  have target := valid.target
  unfold validMessageTarget at target
  simp only [Bool.and_eq_true] at target
  have boolean := target.1.1.1.1
  unfold targetsAll
  cases hp : property (m.lastMember "to") "all" with
  | none =>
    rw [hp] at boolean
    cases boolean
  | some j =>
    cases j with
    | bool b => rfl
    | null | num | str | cut | arr | obj =>
      rw [hp] at boolean
      cases boolean

theorem timestamp_of_valid (valid : Wellformed m) :
    orZero (numberOfMember (m.lastMember "timestamp")) = numberOfMember (m.lastMember "timestamp") := by
  obtain ⟨q, is_time⟩ := valid.time
  rw [is_time]
  rfl

/-- A group id that is missing reads as the empty text, which no valid message has. -/
theorem metadata_eq (valid : Wellformed m) (valid' : Wellformed m')
    (id : orEmpty (m.lastMember "groupId") = orEmpty (m'.lastMember "groupId"))
    (name : spelling (m.lastMember "groupName") = spelling (m'.lastMember "groupName")) :
    m.lastMember "groupId" = m'.lastMember "groupId" ∧ m.lastMember "groupName" = m'.lastMember "groupName" := by
  rcases valid.metadata with none | ⟨-, ⟨i, hi, some_i⟩, hn, -⟩ <;>
    rcases valid'.metadata with none' | ⟨-, ⟨i', hi', some_i'⟩, hn', -⟩
  · rw [none.1, none.2, none'.1, none'.2]
    exact ⟨rfl, rfl⟩
  · rw [none.1, hi'] at id
    exact absurd id.symm some_i'
  · rw [hi, none'.1] at id
    exact absurd id some_i
  · rw [hi, hi'] at id
    have same_id : i = i' := id
    rw [hi, hi', same_id]
    exact ⟨rfl, string_eq hn hn' name⟩

/-- Two valid messages with one id compare equal exactly when their contents are the same. -/
theorem comparable_eq_iff (valid : Wellformed m) (valid' : Wellformed m') (same : numericId m = numericId m') :
    comparableMessage m = comparableMessage m' ↔ SameContent m m' := by
  constructor
  · intro equal
    have data := congrArg Comparable.data equal
    have metadata := metadata_eq valid valid' (congrArg Comparable.groupId equal) (congrArg Comparable.groupName equal)
    have timestamp := congrArg Comparable.timestamp equal
    simp only [comparableMessage, timestamp_of_valid valid, timestamp_of_valid valid'] at timestamp
    refine ⟨?_, ?_, ?_, ?_, (users_iff valid valid').mp (congrArg Comparable.users equal), ?_, timestamp, metadata.1,
      metadata.2⟩
    · apply member_eq_of_text _ (congrArg Comparable.type equal)
      obtain ⟨type, is_type, -⟩ := valid.kind
      rw [is_type]
      rfl
    · exact member_eq_of_text (isSome_of_validText valid.sender) (congrArg Comparable.sender equal)
    · exact member_eq_of_text (isSome_of_validText valid.name) (congrArg Comparable.name equal)
    · rw [boolean_of_valid valid, boolean_of_valid valid']
      exact congrArg (fun b => some (Json.bool b)) (congrArg Comparable.all equal)
    · obtain ⟨size, found, -⟩ := (Option.any_eq_true _ _).mp valid.data
      obtain ⟨size', found', -⟩ := (Option.any_eq_true _ _).mp valid'.data
      exact string_eq (by rw [found]; rfl) (by rw [found']; rfl) data
  · intro content
    have users := (users_iff valid valid').mpr content.users
    have all : targetsAll m = targetsAll m' := by
      unfold targetsAll
      rw [content.all]
    unfold comparableMessage at users ⊢
    simp only at users
    rw [same, content.type, content.sender, content.name, all, users, content.data, content.timestamp,
      content.groupId, content.groupName]

end EspWebChat.FaithfulCopies
