import EspWebChat.ConversationKinds

set_option autoImplicit false

/-!
# The fields a conversation is sent with

A message carries the id of the current conversation and, in a group, its name and its members.
These come from messages and users that the page has checked, or from the page itself.
-/
namespace EspWebChat.ConversationFields
open JsonTree JsValues ClientMessages BrowserWorld ClientStore ClientSocket
open WrittenMessages FaithfulCopies ConversationSummaries StoreEffects StoreRules ConversationKinds

variable {key userId : String} {c m msg : Json} {s : Store}

def validId (id : String) : Prop := validUserId (some (str id)) = true

theorem validId_iff {id : String} : validId id ↔ id ≠ "" ∧ wsDataSize id ≤ 63 := by
  unfold validId validUserId validText
  simp [text, str]

theorem validLabel_str {maxBytes : ℕ} {name : String} (h : validLabel maxBytes (some (str name)) = true) :
    name ≠ "" ∧ wsDataSize name ≤ maxBytes := by
  have size := of_decide_eq_true h
  rw [wsDataSize_eq] at size ⊢
  exact ⟨strlen_pos.mp size.1, size.2⟩

structure Sendable (c : Json) : Prop where
  id : validUserId (c.lastMember "id") = true
  name : isText "group" (c.lastMember "type") = true → validLabel 63 (c.lastMember "name") = true
  members : isText "group" (c.lastMember "type") = true →
    ∀ member ∈ itemsOf (c.lastMember "members"), validUserId (some member) = true

theorem parties_valid (valid : Wellformed m) : ∀ id ∈ parties m, validId id := by
  have known : ∀ user ∈ (m.lastMember "from").toList ++ targetUsers m, validUserId (some user) = true := by
    intro user huser
    cases List.mem_append.mp huser with
    | inl sender =>
      have from_user : m.lastMember "from" = some user := by simpa using sender
      rw [← from_user]
      exact valid.sender
    | inr target =>
      rw [← valid.users] at target
      exact (List.mem_filter.mp target).2
  intro id hid
  obtain ⟨user, huser, named⟩ := List.mem_filterMap.mp hid
  have text_user : some user = some (str id) := text_eq_some named
  unfold validId
  rw [← text_user]
  exact known user huser

theorem groupMembers_valid (valid : Wellformed m) : ∀ member ∈ groupMembers m, validUserId (some member) = true := by
  intro member hmember
  unfold groupMembers at hmember
  obtain ⟨id, hid, rfl⟩ := List.mem_map.mp hmember
  exact parties_valid valid id (List.mem_filter.mp (List.mem_eraseDups.mp hid)).1

theorem Sendable.silent {base overlay : Members} (sendable : Sendable (.obj base)) (silent : Silent overlay)
    {whole : Members} (reads : ∀ key, (Json.obj whole).lastMember key =
      (overlay.reverse.lookup key).or ((Json.obj base).lastMember key)) : Sendable (.obj whole) := by
  have same : ∀ key, key ≠ "lastPreview" → key ≠ "updatedAt" →
      (Json.obj whole).lastMember key = (Json.obj base).lastMember key := by
    intro key preview time
    rw [reads, silent key preview time, Option.none_or]
  have type := same "type" (by decide) (by decide)
  constructor
  · rw [same "id" (by decide) (by decide)]
    exact sendable.id
  · rw [type, same "name" (by decide) (by decide)]
    exact sendable.name
  · rw [type, same "members" (by decide) (by decide)]
    exact sendable.members

theorem sendable_private {c : Json} (id : validUserId (c.lastMember "id") = true)
    (type : isText "group" (c.lastMember "type") = false) : Sendable c := by
  refine ⟨id, ?_, ?_⟩
  · intro group
    rw [type] at group
    cases group
  · intro group
    rw [type] at group
    cases group

theorem sendable_defaults {existing : Option Json} (sendable : ∀ c, existing = some c → Sendable c) :
    Sendable (.obj (spread defaultConversation ((existing.map Json.members).getD []))) := by
  cases existing with
  | none => exact sendable_private rfl rfl
  | some c =>
    have stored := sendable c rfl
    have reads : ∀ key, (Json.obj (spread defaultConversation c.members)).lastMember key =
        (c.lastMember key).or ((Json.obj defaultConversation).lastMember key) := fun key => object_spread _ _
    have group : isText "group" ((Json.obj (spread defaultConversation c.members)).lastMember "type") = true →
        isText "group" (c.lastMember "type") = true := by
      intro type
      rw [reads] at type
      cases found : c.lastMember "type" with
      | none =>
        rw [found] at type
        exact absurd type (by decide)
      | some t =>
        rw [found] at type
        exact type
    change Sendable (.obj (spread defaultConversation c.members))
    constructor
    · obtain ⟨id, found, -⟩ := text_of_validText stored.id
      rw [reads, found, Option.some_or, ← found]
      exact stored.id
    · intro type
      have named := stored.name (group type)
      cases found : c.lastMember "name" with
      | none =>
        rw [found] at named
        cases named
      | some name =>
        rw [reads, found, Option.some_or, ← found]
        exact named
    · intro type member hmember
      rw [reads] at hmember
      cases found : c.lastMember "members" with
      | none =>
        rw [found] at hmember
        exact absurd hmember List.not_mem_nil
      | some members =>
        rw [found] at hmember
        refine stored.members (group type) member ?_
        rw [found]
        exact hmember

theorem entry_sendable (s : Store) (now : Number) (entries : ∀ entry ∈ s.conversations, Sendable entry.2)
    (valid : Wellformed msg) : Sendable (conversationEntry s msg now).2 := by
  have append : ∀ base overlay : Members, ∀ key, (Json.obj (base ++ overlay)).lastMember key =
      (overlay.reverse.lookup key).or ((Json.obj base).lastMember key) := fun base overlay key =>
    reverse_lookup_append base overlay key
  unfold conversationEntry
  dsimp only
  by_cases everyone : conversationForMessage s.userId msg = "global"
  · rw [if_pos everyone, everyone]
    refine Sendable.silent (sendable_defaults ?_) (previewMembers_silent _ _ _) (fun key => object_spread _ _)
    intro c found
    exact entries _ (mem_of_lookup found)
  · rw [if_neg everyone]
    by_cases group : isGroupMessage msg = true
    · rw [if_pos group]
      refine Sendable.silent ?_ (previewMembers_silent _ _ _) (append _ _)
      have checked := group_checked valid group
      unfold validGroupMetadata at checked
      rw [Bool.and_eq_true] at checked
      obtain ⟨id, is_id, -⟩ := text_of_validText checked.1
      have filled := (string_of_validLabel checked.2).2
      have key : conversationForMessage s.userId msg = id := by
        unfold conversationForMessage
        rw [if_pos group, is_id]
        rfl
      have kept : orElse (msg.lastMember "groupName") (orElse
          (property (s.conversations.lookup (conversationForMessage s.userId msg)) "name") (str "Group Chat")) =
          (msg.lastMember "groupName").getD .null := by
        cases is_name : msg.lastMember "groupName" with
        | none =>
          rw [is_name] at filled
          cases filled
        | some name =>
          rw [is_name] at filled
          exact if_pos filled
      rw [kept, key]
      refine ⟨?_, fun _ => ?_, fun _ => groupMembers_valid valid⟩
      · rw [is_id] at checked
        exact checked.1
      · change validLabel 63 (some ((msg.lastMember "groupName").getD .null)) = true
        cases is_name : msg.lastMember "groupName" with
        | none =>
          rw [is_name] at filled
          cases filled
        | some name =>
          rw [is_name] at checked
          exact checked.2
    · rw [if_neg group]
      refine Sendable.silent ?_ (previewMembers_silent _ _ _) (append _ _)
      have place := direct_place s.userId (m := msg) (by simpa using group)
      exact sendable_private (parties_valid valid _ (place.resolve_left everyone).2) rfl

theorem stringified_sendable (sendable : Sendable c) : Sendable (stringified c) := by
  constructor
  · rw [lastMember_stringified]
    exact (validText_stringified 63 _).trans sendable.id
  · rw [lastMember_stringified, lastMember_stringified, isText_stringified, validLabel_stringified]
    exact sendable.name
  · rw [lastMember_stringified, lastMember_stringified, isText_stringified, itemsOf_stringified]
    intro group member hmember
    obtain ⟨x, hx, rfl⟩ := List.mem_map.mp hmember
    exact (validText_stringified 63 (some x)).trans (sendable.members group x hx)

/-- Entries can be sent with, and every user has an id that the server takes. -/
def fieldRules : Rules where
  entry _ c := Sendable c
  online := validId
  own := validId
  message := Wellformed
  writtenEntry _ _ := stringified_sendable
  writtenMessage _ valid := valid_iff.mp (validHistoryMessage_stringified (valid_iff.mpr valid))
  defaults _ := sendable_defaults
  summary s _ now entries valid := entry_sendable s now entries valid
  friend _ _ other := sendable_private other rfl
  chosen _ valid := valid

theorem frame_fits (s : Store) (msg : Json) : Fits fieldRules s msg where
  message accepted := valid_iff.mp accepted.valid
  recovered _ candidate _ valid users now :=
    (recoveredMessagePayload_copies users candidate msg now).wellformed (valid_iff.mp valid)
  presence _ user _ valid _ := by
    obtain ⟨id, found, -⟩ := text_of_validText valid
    rw [found] at valid ⊢
    exact valid

theorem characterBytes_bounds (c : Char) : 1 ≤ characterBytes c ∧ characterBytes c ≤ 4 := by
  unfold characterBytes
  split_ifs <;> omega

theorem wsDataSize_ofList (cs : List Char) : wsDataSize (String.ofList cs) = (cs.map characterBytes).sum := by
  unfold wsDataSize
  rw [String.toList_ofList]

theorem wsDataSize_append (a b : String) : wsDataSize (a ++ b) = wsDataSize a + wsDataSize b := by
  unfold wsDataSize
  rw [String.toList_append, List.map_append, List.sum_append]

theorem pointBytes_bounds (p : Point) : 1 ≤ pointBytes p ∧ pointBytes p ≤ 4 := by
  cases p with
  | char c => exact characterBytes_bounds c
  | half unit => exact ⟨(by decide : 1 ≤ 3), (by decide : 3 ≤ 4)⟩

theorem truncateFrom_size {α : Type} (bytes : α → ℕ) (room : ℕ) (xs : List α) :
    ((truncateFrom bytes room xs).map bytes).sum ≤ room := by
  induction xs generalizing room with
  | nil => exact Nat.zero_le _
  | cons x xs ih =>
    unfold truncateFrom
    split_ifs with full
    · exact Nat.zero_le _
    · have rest := ih (room - bytes x)
      rw [List.map_cons, List.sum_cons]
      omega

theorem truncateFrom_filled {α : Type} {bytes : α → ℕ} {room : ℕ} {xs : List α} (small : ∀ x, bytes x ≤ room)
    (filled : xs ≠ []) : truncateFrom bytes room xs ≠ [] := by
  cases xs with
  | nil => exact absurd rfl filled
  | cons x xs =>
    unfold truncateFrom
    rw [if_neg (Nat.not_lt.mpr (small x))]
    exact List.cons_ne_nil _ _

theorem truncateUtf8_size (s : String) (maxBytes : ℕ) : wsDataSize (truncateUtf8 s maxBytes) ≤ maxBytes := by
  unfold truncateUtf8
  rw [wsDataSize_ofList]
  exact truncateFrom_size characterBytes maxBytes s.toList

theorem truncateUtf8_filled {s : String} {maxBytes : ℕ} (filled : s ≠ "") (room : 4 ≤ maxBytes) :
    truncateUtf8 s maxBytes ≠ "" := by
  have chars : truncateFrom characterBytes maxBytes s.toList ≠ [] :=
    truncateFrom_filled (fun c => (characterBytes_bounds c).2.trans room) (fun none => filled (String.toList_eq_nil_iff.mp none))
  unfold truncateUtf8
  intro empty
  have none := congrArg String.toList empty
  rw [String.toList_ofList] at none
  exact chars none

theorem stringSize_ofPoints (ps : List Point) : stringSize (some (ofPoints ps)) = some (ps.map pointBytes).sum := by
  unfold ofPoints
  split_ifs with cut
  · rfl
  · conv_rhs => rw [← map_toChar cut, List.map_map]
    exact congrArg some (wsDataSize_ofList _)

theorem truncatePoints_label {ps : List Point} {maxBytes : ℕ} (filled : ps ≠ []) (room : 4 ≤ maxBytes) :
    validLabel maxBytes (some (truncatePoints ps maxBytes)) = true := by
  have kept : truncateFrom pointBytes maxBytes ps ≠ [] :=
    truncateFrom_filled (fun p => (pointBytes_bounds p).2.trans room) filled
  unfold validLabel truncatePoints
  rw [stringSize_ofPoints]
  refine decide_eq_true ⟨?_, truncateFrom_size pointBytes maxBytes ps⟩
  cases points : truncateFrom pointBytes maxBytes ps with
  | nil => exact absurd points kept
  | cons p rest =>
    have first := pointBytes_bounds p
    rw [List.map_cons, List.sum_cons]
    omega

/-- What `crypto.randomUUID` yields: 36 characters, all of one byte. -/
def Uuid (id : String) : Prop := wsDataSize id = 36

theorem uuid_valid {id : String} (uuid : Uuid id) : validId id := by
  unfold Uuid at uuid
  apply validId_iff.mpr
  refine ⟨?_, by omega⟩
  intro empty
  rw [empty] at uuid
  exact absurd uuid (by decide)

theorem joined_filled {a : Json} {names : List Json} (more : names ≠ []) : joinedNames (a :: names) ≠ [] := by
  cases names with
  | nil => exact absurd rfl more
  | cons b names =>
    intro empty
    have parts : pointsOf a ++ (pointsOf (str ", ") ++ (joinedNames (b :: names))) = [] := empty
    rw [List.append_eq_nil_iff, List.append_eq_nil_iff] at parts
    exact absurd parts.2.1 (by decide)

/-- The dialog offers other users, by ids the page has checked. -/
structure Offers (e : Event) (env : ℕ → Reply) (w : Page) : Prop where
  others : ∀ ids, e = .createGroup ids → ∀ id ∈ ids, id ≠ w.store.userId ∧ validId id
  uuid : ∀ ids, e = .createGroup ids → Uuid (env 0).uuid

theorem distinct_more {own : String} {ids : List String} (some_id : ids ≠ []) (others : ∀ id ∈ ids, id ≠ own) :
    ∃ rest, rest ≠ [] ∧ (own :: ids).eraseDups = own :: rest := by
  refine ⟨_, ?_, List.eraseDups_cons⟩
  cases ids with
  | nil => exact absurd rfl some_id
  | cons id ids =>
    have kept : (!id == own) = true := by simpa using others id List.mem_cons_self
    rw [List.filter_cons, if_pos kept, List.eraseDups_cons]
    exact List.cons_ne_nil _ _

theorem createdGroup_sendable {ids : List String} {uuid : String} (own : validId s.userId) (some_id : ids ≠ [])
    (others : ∀ id ∈ ids, id ≠ s.userId ∧ validId id) (named : Uuid uuid) (now : Json) :
    Sendable (createdGroup s ids uuid now) := by
  refine ⟨?_, fun _ => ?_, fun _ => ?_⟩
  · have bytes : wsDataSize ("group-" ++ uuid) = 42 := by
      have front : wsDataSize "group-" = 6 := by decide
      rw [wsDataSize_append, front, named]
    apply validId_iff.mpr
    refine ⟨?_, by omega⟩
    intro empty
    rw [empty] at bytes
    exact absurd bytes (by decide)
  · obtain ⟨rest, more, split⟩ := distinct_more some_id (fun id hid => (others id hid).1)
    have filled : joinedNames (((s.userId :: ids).eraseDups).map (memberName s)) ≠ [] := by
      rw [split, List.map_cons]
      exact joined_filled (fun none => more (List.map_eq_nil_iff.mp none))
    have name : (createdGroup s ids uuid now).lastMember "name" =
        some (truncatePoints (joinedNames (((s.userId :: ids).eraseDups).map (memberName s))) 63) := rfl
    rw [name]
    exact truncatePoints_label filled (by decide)
  · intro member hmember
    obtain ⟨id, hid, rfl⟩ := List.mem_map.mp hmember
    cases List.mem_cons.mp (List.mem_eraseDups.mp hid) with
    | inl self =>
      rw [self]
      exact own
    | inr other => exact (others id other).2

theorem offers_follows {e : Event} {env : ℕ → Reply} {w : Page} (own : validId w.store.userId)
    (offers : Offers e env w) : Follows fieldRules e env w where
  frame _ msg _ _ := frame_fits _ msg
  group ids created some_id now :=
    createdGroup_sendable own some_id (offers.others ids created) (offers.uuid ids created) now

end EspWebChat.ConversationFields
