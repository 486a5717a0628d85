import EspWebChat.ConversationFields
import EspWebChat.GateLanguage
import EspWebChat.OutgoingMessages
import EspWebChat.Protocol
import EspWebChat.ResponseSize

set_option autoImplicit false

/-!
# The frame of a composed message

The server limits the whole frame and the number of targets, the page only the single fields.
-/
namespace EspWebChat.ComposedFrames
open JsonTree JsValues JsonText JsonGrammar ClientMessages Interruptible BrowserWorld ClientStore ClientSocket
open JsonGate GateLanguage Protocol WrittenMessages FaithfulCopies ConversationFields ServerWorld

variable {s : Store} {data : String} {now : ℕ} {printer : CjsonPrinter.Printer}

def inGroup (s : Store) : Bool := isText "group" (conversationType s)

def conversationId (s : Store) : String := orEmpty (s.currentConversation.lastMember "id")

def conversationName (s : Store) : String := orEmpty (s.currentConversation.lastMember "name")

/-- The users the current conversation is with; nobody is named for the public chat. -/
def addressees (s : Store) : List String :=
  if isText "global" (conversationType s) then []
  else if inGroup s then (s.userId :: (itemsOf (s.currentConversation.lastMember "members")).filterMap
    (fun member => text (some member))).eraseDups
  else [conversationId s]

/-- The texts of the message that are not the script's own. -/
def words (s : Store) (data : String) : List String :=
  [s.userId, getNickname s, data] ++ addressees s ++ (if inGroup s then [conversationId s, conversationName s] else [])

/-- The bytes of the message once it is written as JSON. -/
def composedBytes (s : Store) (data : String) (now : ℕ) : ℕ :=
  textBytes s.userId + textBytes (getNickname s) + textBytes data + numberBytes (.fin now) +
    ((addressees s).map (fun id => textBytes id + 3)).sum +
    (if inGroup s then textBytes (conversationId s) + textBytes (conversationName s) + 28 else 0) + 87

/-- No character in the name of the group has been cut in two. -/
def Whole (s : Store) : Prop := inGroup s = true → ∃ name, s.currentConversation.lastMember "name" = some (str name)

/-- The nickname is not blank, no character in the name of a group has been cut in two, the targets
    are not too many, no text has the character U+0000, and what the escapes make of the texts is
    short enough. -/
structure Compact (s : Store) (data : String) (now : ℕ) : Prop where
  named : getNickname s ≠ ""
  whole : Whole s
  few : (addressees s).length ≤ 11
  clean : ∀ word ∈ words s data, textNulFree word = true
  short : composedBytes s data now ≤ 1024

def targetOf (s : Store) : Json :=
  .obj [("all", .bool (isText "global" (conversationType s))), ("users", .arr ((addressees s).map str))]

theorem target_eq (sendable : Sendable s.currentConversation) : messageTargetForCurrentConversation s = targetOf s := by
  unfold messageTargetForCurrentConversation targetOf addressees inGroup
  split_ifs with everyone group
  · rw [everyone]
    rfl
  · rw [Bool.eq_false_iff.mpr everyone]
    rfl
  · obtain ⟨id, found, -⟩ := text_of_validText sendable.id
    rw [Bool.eq_false_iff.mpr everyone]
    unfold conversationId
    rw [found]
    rfl

def groupFields (s : Store) : Members :=
  if inGroup s then [("groupId", str (conversationId s)),
    ("groupName", (s.currentConversation.lastMember "name").getD .null)] else []

theorem groupFields_whole (whole : Whole s) : groupFields s =
    if inGroup s then [("groupId", str (conversationId s)), ("groupName", str (conversationName s))] else [] := by
  unfold groupFields conversationName
  split_ifs with group
  · obtain ⟨name, is_name⟩ := whole group
    rw [is_name]
    rfl
  · rfl

theorem frame_eq (sendable : Sendable s.currentConversation) (now : Json) : buildOutgoingMessage s data now =
    .obj ([("type", str "text"), ("from", str s.userId), ("to", targetOf s), ("name", str (getNickname s)),
      ("data", str data), ("timestamp", now)] ++ groupFields s) := by
  unfold buildOutgoingMessage
  rw [target_eq sendable]
  unfold groupFields inGroup
  split_ifs with group
  · obtain ⟨id, is_id, -⟩ := text_of_validText sendable.id
    have named := (string_of_validLabel (sendable.name group)).2
    unfold conversationId
    cases is_name : s.currentConversation.lastMember "name" with
    | none =>
      rw [is_name] at named
      cases named
    | some name =>
      rw [is_id]
      rfl
  · rfl

theorem users_size (ids : List String) : encodedSize (.arr (ids.map str)) =
    (if ids = [] then 2 else 1) + (ids.map (fun id => textBytes id + 3)).sum := by
  have items : itemsSize (ids.map str) = (ids.map (fun id => textBytes id + 3)).sum := by
    induction ids with
    | nil => rfl
    | cons id ids ih =>
      rw [List.map_cons, List.map_cons, List.sum_cons, ← ih]
      change textBytes id + 2 + 1 + _ = _
      omega
  cases ids with
  | nil => rfl
  | cons id ids =>
    rw [if_neg (List.cons_ne_nil _ _), ← items]
    rfl

theorem addressees_none : addressees s = [] ↔ isText "global" (conversationType s) = true := by
  unfold addressees
  split_ifs with everyone group
  · simp [everyone]
  · simp [everyone, List.eraseDups_cons]
  · simp [everyone]

theorem frame_size (sendable : Sendable s.currentConversation) (whole : Whole s) :
    encodedSize (buildOutgoingMessage s data (nat now)) = composedBytes s data now := by
  have keys := ResponseSize.keyBytes
  have target : encodedSize (targetOf s) = 23 + ((addressees s).map (fun id => textBytes id + 3)).sum := by
    unfold targetOf
    rw [encodedSize_obj (by simp)]
    simp only [membersSize_cons, membersSize_nil, encodedSize_bool, users_size, addressees_none]
    split_ifs <;> omega
  have group : membersSize (groupFields s) =
      if inGroup s then textBytes (conversationId s) + textBytes (conversationName s) + 28 else 0 := by
    rw [groupFields_whole whole]
    split_ifs
    · simp only [membersSize_cons, membersSize_nil, str, encodedSize_str]
      omega
    · rfl
  rw [frame_eq sendable, encodedSize_obj (by simp)]
  simp only [membersSize_append, membersSize_cons, membersSize_nil, str, nat, encodedSize_str, encodedSize_num, group]
  rw [target]
  have word : textBytes "text" = 4 := by decide
  unfold composedBytes
  omega

theorem inRange {id : String} {maxLen : ℕ} (filled : id ≠ "") (short : wsDataSize id ≤ maxLen) :
    jsonStringInRange (some (str id)) maxLen false = true := by
  rw [wsDataSize_eq] at short
  unfold jsonStringInRange stringInRange str
  simp [filled, short]

theorem inRange_valid {id : String} (valid : validId id) : jsonStringInRange (some (str id)) 63 false = true :=
  inRange (validId_iff.mp valid).1 (validId_iff.mp valid).2

theorem addressees_valid (own : validId s.userId) (sendable : Sendable s.currentConversation) :
    ∀ id ∈ addressees s, validId id := by
  intro id hid
  unfold addressees at hid
  split_ifs at hid with everyone group
  · cases hid
  · cases List.mem_cons.mp (List.mem_eraseDups.mp hid) with
    | inl self =>
      rw [self]
      exact own
    | inr member =>
      obtain ⟨v, hv, named⟩ := List.mem_filterMap.mp member
      have known := sendable.members group v hv
      rw [text_eq_some named] at known
      exact known
  · obtain ⟨id', found, -⟩ := text_of_validText sendable.id
    have valid := sendable.id
    rw [List.mem_singleton.mp hid]
    unfold conversationId
    rw [found] at valid ⊢
    exact valid

theorem groupFields_valid (sendable : Sendable s.currentConversation) (whole : Whole s) (rest : Members)
    (plain : rest.lookup "groupId" = none ∧ rest.lookup "groupName" = none) :
    validateGroupFields (.obj (rest ++ groupFields s)) false = true := by
  have reads : ∀ key, rest.lookup key = none →
      (Json.obj (rest ++ groupFields s)).member key = (groupFields s).lookup key := by
    intro key absent
    unfold Json.member Json.members
    rw [List.lookup_append, absent, Option.none_or]
  unfold validateGroupFields
  rw [reads _ plain.1, reads _ plain.2, groupFields_whole whole]
  split_ifs with group
  · obtain ⟨id, is_id, -⟩ := text_of_validText sendable.id
    obtain ⟨name, is_name⟩ := whole group
    have id_valid := sendable.id
    have name_valid := sendable.name group
    rw [is_id] at id_valid
    rw [is_name] at name_valid
    unfold conversationId conversationName
    rw [is_id, is_name]
    have first : jsonStringInRange (some (str id)) 63 false = true := inRange_valid id_valid
    have second : jsonStringInRange (some (str name)) 63 false = true :=
      inRange (validLabel_str name_valid).1 (validLabel_str name_valid).2
    change (jsonStringInRange (some (str id)) 63 false && jsonStringInRange (some (str name)) 63 false) = true
    rw [first, second]
    rfl
  · rfl

/-- The frame gets through, whatever connection it comes in on. -/
structure Admitted (frame : Json) : Prop where
  size : ∀ printer, encodedSize frame ≤ (Config.default printer).maxWsPayloadBytes
  parsed : ∀ cJSONParse cs stop, TextOf frame cs stop → cJSONParse (Utf8Texts.encoded cs) = some (frame, stop) →
    chatJsonParseObject cJSONParse (Utf8Texts.encoded cs) = some frame
  passes : ∀ printer fd, (handleChatMessage fd "text" frame : Server (Config.default printer) EspErr) =
    publishMessage fd frame

theorem targets_valid (own : validId s.userId) (sendable : Sendable s.currentConversation)
    (few : (addressees s).length ≤ 11) : validTargets (Config.default printer) (.arr ((addressees s).map str)) = true := by
  unfold validTargets
  simp only [Json.isArray, Json.items, Bool.true_and, Bool.and_eq_true, decide_eq_true_eq, List.length_map, List.all_map]
  refine ⟨few, List.all_eq_true.mpr ?_⟩
  intro id hid
  exact inRange_valid (addressees_valid own sendable id hid)

theorem pure_then {α β : Type} (a : α) (f : α → Server (Config.default printer) β) : (pure a >>= f) = f a := rfl

theorem targets_checked {root : Json} (own : validId s.userId) (sendable : Sendable s.currentConversation)
    (few : (addressees s).length ≤ 11) (found : root.member "to" = some (targetOf s))
    (same : root.set "to" (targetOf s) = root) :
    (validateToObject root : Server (Config.default printer) (Bool × Json)) = pure (true, root) := by
  have all : (targetOf s).member "all" = some (.bool (isText "global" (conversationType s))) := rfl
  have users : (targetOf s).member "users" = some (.arr ((addressees s).map str)) := rfl
  have object : (targetOf s).isObject = true := rfl
  have boolean : isBool (.bool (isText "global" (conversationType s))) = true := rfl
  have known : ∀ object key v default, object.member key = some v →
      (memberOrDefault object key default : Server (Config.default printer) (Option (Json × Json))) = pure (some (v, object)) := by
    intro object key v default h
    unfold memberOrDefault
    rw [h]
  have someone : (isText "global" (conversationType s) || !((addressees s).map str).isEmpty) = true := by
    by_cases everyone : isText "global" (conversationType s) = true
    · rw [everyone]
      rfl
    · have filled : addressees s ≠ [] := fun none => everyone (addressees_none.mp none)
      simp [filled]
  unfold validateToObject
  rw [known _ _ _ _ found, pure_then]
  dsimp only
  rw [object, known _ _ _ _ all, Bool.not_true, if_neg Bool.false_ne_true, pure_then]
  dsimp only
  rw [boolean, known _ _ _ _ users, Bool.not_true, if_neg Bool.false_ne_true, pure_then]
  dsimp only
  rw [targets_valid own sendable few, same, Bool.not_true, if_neg Bool.false_ne_true]
  change pure ((isText "global" (conversationType s) || !((addressees s).map str).isEmpty), root) = _
  rw [someone]

theorem frame_passes (own : validId s.userId) (sendable : Sendable s.currentConversation) (whole : Whole s)
    (filled : data ≠ "") (short : wsDataSize data ≤ 256) (named : getNickname s ≠ "") (few : (addressees s).length ≤ 11)
    (now : Json) (fd : ℤ) : (handleChatMessage fd "text" (buildOutgoingMessage s data now) : Server (Config.default printer) EspErr) =
      publishMessage fd (buildOutgoingMessage s data now) := by
  have nickname : wsDataSize (getNickname s) ≤ 31 := truncateUtf8_size _ _
  have sender : jsonStringInRange (some (str s.userId)) ClientSlots.maxUserIdLen false = true := inRange_valid own
  have name : jsonStringInRange (some (str (getNickname s))) ClientSlots.maxNameLen false = true := inRange named nickname
  have text : jsonStringInRange (some (str data)) (Config.default printer).maxTextBytes false = true := inRange filled short
  rw [frame_eq sendable]
  set root := Json.obj _ with root_def
  have group : validateGroupFields root ("text" == "newGroup") = true :=
    groupFields_valid sendable whole _ ⟨rfl, rfl⟩
  have is_sender : root.member "from" = some (str s.userId) := rfl
  have is_name : root.member "name" = some (str (getNickname s)) := rfl
  have is_data : root.member "data" = some (str data) := rfl
  have checked : (validateToObject root : Server (Config.default printer) (Bool × Json)) = pure (true, root) :=
    targets_checked own sendable few rfl rfl
  unfold handleChatMessage
  rw [is_sender, is_name, is_data, group, sender, name, text, checked, pure_then]
  rfl

theorem texts_flat (ids : List String) : itemsDepth (ids.map str) = 0 ∧ ItemsDistinct (ids.map str) := by
  induction ids with
  | nil => exact ⟨rfl, trivial⟩
  | cons id ids ih =>
    rw [List.map_cons, itemsDepth, ih.1]
    exact ⟨rfl, trivial, ih.2⟩

theorem texts_free {ids : List String} (clean : ∀ id ∈ ids, textNulFree id = true) :
    itemsNulFree (ids.map str) = true := by
  induction ids with
  | nil => rfl
  | cons id ids ih =>
    rw [List.map_cons, itemsNulFree, ih (fun x hx => clean x (List.mem_cons_of_mem _ hx)), Bool.and_true]
    exact clean id List.mem_cons_self

theorem target_intended (clean : ∀ id ∈ addressees s, textNulFree id = true) :
    depth (targetOf s) = 2 ∧ nulFree (targetOf s) = true ∧ DistinctKeys (targetOf s) := by
  have flat := texts_flat (addressees s)
  have free := texts_free clean
  refine ⟨?_, ?_, ?_⟩
  · change 1 + max 0 (max (1 + itemsDepth ((addressees s).map str)) 0) = 2
    rw [flat.1]
    rfl
  · change (true && true && (true && itemsNulFree ((addressees s).map str) && true)) = true
    rw [free]
    rfl
  · have keys : UniqueKeys [("all", Json.bool (isText "global" (conversationType s))),
        ("users", Json.arr ((addressees s).map str))] := by
      change ["all", "users"].Nodup
      decide
    exact ⟨keys, trivial, flat.2, trivial⟩

theorem frame_intended (sendable : Sendable s.currentConversation) (whole : Whole s)
    (clean : ∀ word ∈ words s data, textNulFree word = true) (now : ℕ) : Intended (buildOutgoingMessage s data (nat now)) := by
  obtain ⟨deep, free, distinct⟩ := target_intended (s := s) (fun id hid => clean id (by simp [words, hid]))
  have own : textNulFree s.userId = true := clean _ (by simp [words])
  have name : textNulFree (getNickname s) = true := clean _ (by simp [words])
  have typed : textNulFree data = true := clean _ (by simp [words])
  have keys : ∀ key ∈ ["type", "from", "to", "name", "data", "timestamp", "groupId", "groupName", "text"],
      textNulFree key = true := by decide
  rw [frame_eq sendable, groupFields_whole whole]
  split_ifs with group
  · have id : textNulFree (conversationId s) = true := clean _ (by simp [words, group])
    have title : textNulFree (conversationName s) = true := clean _ (by simp [words, group])
    refine ⟨rfl, ?_, ?_, ?_⟩
    · simp [depth, membersDepth, deep, str, nat, maxJsonNestingDepth]
    · simp [nulFree, membersNulFree, free, str, nat, own, name, typed, id, title, keys]
    · simp [DistinctKeys, MembersDistinct, distinct, str, nat, UniqueKeys]
  · refine ⟨rfl, ?_, ?_, ?_⟩
    · simp [depth, membersDepth, deep, str, nat, maxJsonNestingDepth]
    · simp [nulFree, membersNulFree, free, str, nat, own, name, typed, keys]
    · simp [DistinctKeys, MembersDistinct, distinct, str, nat, UniqueKeys]

end EspWebChat.ComposedFrames
