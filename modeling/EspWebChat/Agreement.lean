import EspWebChat.AdmittedMessages
import EspWebChat.ResponseLimit
import EspWebChat.RingStore
import EspWebChat.WrittenMessages

set_option autoImplicit false

/-!
# What server and browser agree on

The rules for who sees a message and for what is a message at all are written once in C and
once or twice in JavaScript. Here they are compared on everything the server lets through.
-/
namespace EspWebChat.Agreement
open JsonTree CjsonPrinter JsValues ClientMessages Interruptible ServerWorld History JsonGate Protocol
open TargetFields AdmittedMessages ClientSlots

variable {cfg : Config} {m : Json} {all : Bool} {users : List String}

theorem allOf_target (h : Target cfg m all users) : allOf m = all := by
  obtain ⟨target, at_to, -, is_all, -⟩ := h.read
  unfold allOf itemMember
  rw [at_to, Option.bind_some, is_all]
  rfl

theorem usersOf_target (h : Target cfg m all users) : usersOf m = users.map .str := by
  obtain ⟨target, at_to, -, -, is_users⟩ := h.read
  unfold usersOf itemMember
  rw [at_to, Option.bind_some, is_users]
  rfl

theorem property_all (h : Target cfg m all users) (unique : UniqueKeys m.members) :
    property (m.lastMember "to") "all" = some (.bool all) := by
  obtain ⟨target, at_to, plain, is_all, -⟩ := h.read
  unfold property
  rw [lastMember_eq _ unique, at_to, Option.bind_some, lastMember_eq _ plain, is_all]

theorem property_users (h : Target cfg m all users) (unique : UniqueKeys m.members) :
    property (m.lastMember "to") "users" = some (.arr (users.map .str)) := by
  obtain ⟨target, at_to, plain, -, is_users⟩ := h.read
  unfold property
  rw [lastMember_eq _ unique, at_to, Option.bind_some, lastMember_eq _ plain, is_users]

theorem isText_iff {value : String} {j : Option Json} : isText value j = true ↔ j = some (.str value) := by
  unfold isText
  rw [beq_iff_eq]
  cases j with
  | none => simp [text]
  | some j =>
    cases j with
    | str s => simp [text]
    | _ => simp [text]

theorem includesText_iff {items : List Json} {value : String} :
    includesText items value = true ↔ .str value ∈ items := by
  unfold includesText
  rw [List.any_eq_true]
  constructor
  · intro h
    obtain ⟨j, hj, same⟩ := h
    cases isText_iff.mp same
    exact hj
  · intro h
    exact ⟨_, h, isText_iff.mpr rfl⟩

theorem truthy_of_object {j : Json} (object : j.isObject = true) : truthyValue j = true := by
  cases j with
  | obj ms => rfl
  | _ => cases object

theorem sees_iff (admitted : Admitted cfg m) (u : String) :
    (isText u (m.lastMember "from") || targetsAll m || includesText (targetUsers m) u) = true ↔ Entitled m u := by
  obtain ⟨all, users, target⟩ := admitted.target
  have for_all : targetsAll m = allOf m := by
    unfold targetsAll
    rw [property_all target admitted.unique, allOf_target target]
    rfl
  have listed : targetUsers m = usersOf m := by
    unfold targetUsers
    rw [property_users target admitted.unique, usersOf_target target]
    rfl
  rw [for_all, listed, Bool.or_eq_true, Bool.or_eq_true, isText_iff, includesText_iff,
    lastMember_eq _ admitted.unique, or_assoc]
  rfl

theorem isMessageVisibleToUser_iff (admitted : Admitted cfg m) {u : String} (named : u ≠ "") :
    isMessageVisibleToUser m (some (.str u)) = true ↔ Entitled m u := by
  have object := truthy_of_object admitted.object
  have nonempty : (u != "") = true := bne_iff_ne.mpr named
  have read : isMessageVisibleToUser m (some (.str u)) =
      (isText u (m.lastMember "from") || targetsAll m || includesText (targetUsers m) u) := by
    unfold isMessageVisibleToUser
    rw [object, Bool.true_and]
    change (u != "" && _) = _
    rw [nonempty, Bool.true_and]
  rw [read]
  exact sees_iff admitted u

theorem server_visible_iff (admitted : Admitted cfg m) {u : String} (named : u ≠ "") :
    messageVisibleToUser m u = true ↔ Entitled m u := by
  rw [messageVisibleToUser_iff]
  exact ⟨fun h => h.2.2, fun h => ⟨admitted.object, named, h⟩⟩

theorem isMessageForMe_iff (admitted : Admitted cfg m) (u : String) :
    isMessageForMe u m = true ↔ m.member "from" = some (.str "server") ∨ Entitled m u := by
  have object := truthy_of_object admitted.object
  unfold isMessageForMe
  rw [object, Bool.not_true, Bool.false_or, Bool.or_assoc, Bool.or_assoc, Bool.or_eq_true, isText_iff,
    lastMember_eq _ admitted.unique, ← Bool.or_assoc, ← lastMember_eq _ admitted.unique, sees_iff admitted u]

/-- What `handle_chat_message` stores of a frame that has passed the gate. -/
inductive Stored (cfg : Config) (cJSONParse : CJSONParse) : Message → Prop
  | chat {payload : List UInt8} {root : Json} {type : String} {fd : ℤ} {env : ℕ → Reply} {w : World cfg}
      {new : List TraceEvent} {m : Message} (parsed : chatJsonParseObject cJSONParse payload = some root)
      (typed : root.member "type" = some (.str type))
      (trace : (handleChatMessage fd type root env w).world.trace = w.trace ++ new) (stores : .stored m ∈ new) :
      Stored cfg cJSONParse m

/-- The text and group messages the server stores or lets pass in a response, which it prints. -/
inductive Circulates (cfg : Config) (cJSONParse : CJSONParse) : Json → Prop
  | stored {m : Message} (stored : Stored cfg cJSONParse m) : Circulates cfg cJSONParse m.payload
  | recovered {payload : List UInt8} {root message read : Json} {env : ℕ → Reply} {w : World cfg}
      (parsed : chatJsonParseObject cJSONParse payload = some root)
      (valid : (validateHistoryMessageObject (root.member "message") env w).result = some (true, message))
      (form : read = message ∨ read = cfg.printer.printed message) : Circulates cfg cJSONParse read

theorem Stored.issued {cJSONParse : CJSONParse} {m : Message} (h : Stored cfg cJSONParse m) : Issued cfg m := by
  obtain ⟨parsed, typed, trace, stores⟩ := h
  obtain ⟨object, -, distinct⟩ := chatJsonParseObject_spec parsed
  obtain ⟨new', trace', issued⟩ := storesOnly_path (handleChatMessage_stores object distinct typed _).1
  rw [trace] at trace'
  exact issued m (List.append_cancel_left trace' ▸ stores)

theorem validateHistoryMessageObject_any {root : Json} (distinct : jsonHasDuplicateKeys root = false) (w : World cfg) :
    Traces (fun _ _ => True) (validateHistoryMessageObject (root.member "message")) w
      (fun r _ => r.1 = true → Admitted cfg r.2) :=
  validateHistoryMessageObject_admitted distinct

theorem Circulates.admitted {cJSONParse : CJSONParse} (h : Circulates cfg cJSONParse m) : Admitted cfg m := by
  cases h with
  | stored stored =>
    obtain ⟨root, timestamp, payload, -, admitted⟩ := stored.issued.root
    rw [payload]
    exact (admitted.finalized _ timestamp).printed _
  | recovered parsed valid form =>
    obtain ⟨-, -, distinct⟩ := chatJsonParseObject_spec parsed
    have passed : Admitted cfg _ := (validateHistoryMessageObject_any distinct _ _).2 _ valid rfl
    cases form with
    | inl whole => exact whole ▸ passed
    | inr printed => exact printed ▸ passed.printed _

/-- The two rules of the browser and the one of the server give the same answer for `u`. -/
structure AgreeOn (m : Json) (u : String) : Prop where
  forMe : isMessageForMe u m = messageVisibleToUser m u
  toUser : isMessageVisibleToUser m (some (.str u)) = messageVisibleToUser m u

/-- An exemption `S` makes no difference for those who are entitled anyway. -/
theorem exempt_iff {S O V A L : Prop} (own : S → (O ↔ V)) : ((S ∨ O ∨ A ∨ L) ↔ O ∨ A ∨ L) ↔ ¬S ∨ V ∨ A ∨ L := by
  by_cases exempt : S
  · have same := own exempt
    tauto
  · tauto

/-- `isMessageForMe` takes a sender called `server` for the server itself; the answers differ
    exactly on such messages, for users who are neither sender nor target. -/
theorem visibility_agrees (cJSONParse : CJSONParse) :
    (∀ m, Circulates cfg cJSONParse m → ∀ u, u ≠ "" →
      (AgreeOn m u ↔ m.member "from" ≠ some (.str "server") ∨ u = "server" ∨ allOf m = true ∨
        .str u ∈ usersOf m)) ∧
    ∀ m, Circulates cfg cJSONParse m → ∀ u, u ≠ "" →
      isMessageVisibleToUser m (some (.str u)) = messageVisibleToUser m u := by
  have recovery : ∀ m, Circulates cfg cJSONParse m → ∀ u, u ≠ "" →
      isMessageVisibleToUser m (some (.str u)) = messageVisibleToUser m u := by
    intro m circulates u named
    rw [Bool.eq_iff_iff, isMessageVisibleToUser_iff circulates.admitted named,
      server_visible_iff circulates.admitted named]
  refine ⟨?_, recovery⟩
  intro m circulates u named
  have server := server_visible_iff circulates.admitted named
  have client := isMessageForMe_iff circulates.admitted u
  have live : AgreeOn m u ↔ (isMessageForMe u m = true ↔ messageVisibleToUser m u = true) :=
    ⟨fun agree => by rw [agree.forMe], fun same => ⟨Bool.eq_iff_iff.mpr same, recovery m circulates u named⟩⟩
  have own : m.member "from" = some (.str "server") → (m.member "from" = some (.str u) ↔ u = "server") := by
    intro sender
    rw [sender, Option.some.injEq, Json.str.injEq]
    exact eq_comm
  rw [live, client, server]
  exact exempt_iff own

def openedNode (cfg : Config) : WebSocketServer.Node cfg :=
  WebSocketServer.run (fun _ => none) (WebSocketServer.Node.initial ResponseLimit.emptyFlash)
    [.powerOn ResponseLimit.environment, .openSession 1]

/-- What the node stores while it handles `root`. -/
def storing (cfg : Config) (type : String) (root : Json) : List Message :=
  ((handleChatMessage 1 type root ResponseLimit.environment (openedNode cfg).world).world.trace.drop
    (openedNode cfg).world.trace.length).filterMap ResponseLimit.storedOf

theorem stored_of_storing {cJSONParse : CJSONParse} {payload : List UInt8} {root : Json} {type : String} {m : Message}
    (parsed : chatJsonParseObject cJSONParse payload = some root) (typed : root.member "type" = some (.str type))
    (h : m ∈ storing cfg type root) : Stored cfg cJSONParse m := by
  obtain ⟨object, -, distinct⟩ := chatJsonParseObject_spec parsed
  have stores : Traces (StoresOnly (Issued cfg)) (handleChatMessage 1 type root) (openedNode cfg).world
      (fun _ _ => True) := handleChatMessage_stores object distinct typed
  obtain ⟨new, extended, -⟩ := storesOnly_path (stores ResponseLimit.environment).1
  apply Stored.chat parsed typed extended
  unfold storing at h
  rw [extended, List.drop_left, List.mem_filterMap] at h
  obtain ⟨e, he, hm⟩ := h
  cases e with
  | stored x => exact Option.some.inj hm ▸ he
  | _ => cases hm

def knows (payload : List UInt8) (root : Json) : CJSONParse :=
  fun p => if p = payload then some (root, p.length) else none

theorem knows_parsed {cs : List Char} {root : Json} (filled : Utf8Texts.encoded cs ≠ [])
    (scanned : scanFrom (Utf8Texts.encoded cs) 0 false = true) (distinct : jsonHasDuplicateKeys root = false)
    (object : root.isObject = true) :
    chatJsonParseObject (knows (Utf8Texts.encoded cs) root) (Utf8Texts.encoded cs) = some root :=
  ResponseLimit.parsed_whole (if_pos rfl) filled scanned distinct object

open ResponseLimit (field quoted braces)

def privateText : List Char := braces [field "type" (quoted "text".toList), field "from" (quoted "server".toList),
  field "name" (quoted "Mallory".toList),
  field "to" (braces [field "all" "false".toList, field "users" ('[' :: quoted "bob".toList ++ [']'])]),
  field "data" (quoted "secret".toList)]

def privateRoot : Json := .obj [("type", .str "text"), ("from", .str "server"), ("name", .str "Mallory"),
  ("to", .obj [("all", .bool false), ("users", .arr [.str "bob"])]), ("data", .str "secret")]

def leaks (m : Message) : Bool := isMessageForMe "carol" m.payload && !messageVisibleToUser m.payload "carol"

set_option maxRecDepth 100000 in
theorem privateText_parsed : chatJsonParseObject (knows (Utf8Texts.encoded privateText) privateRoot)
    (Utf8Texts.encoded privateText) = some privateRoot :=
  knows_parsed (by decide +kernel) (by decide +kernel) (by decide) rfl

theorem privateRoot_leaks : (storing (Config.default fifteenDigits) "text" privateRoot).any leaks = true := by decide +kernel

/-- Carol keeps what a user called `server` has written to Bob alone. -/
theorem private_text_kept : ¬∀ m, Circulates (Config.default fifteenDigits) (knows (Utf8Texts.encoded privateText) privateRoot) m →
    ∀ u, u ≠ "" → AgreeOn m u := by
  intro agree
  obtain ⟨m, new, kept⟩ := List.any_eq_true.mp privateRoot_leaks
  have stored := stored_of_storing privateText_parsed rfl new
  have same := (agree m.payload (.stored stored) "carol" (by decide)).forMe
  simp only [leaks, Bool.and_eq_true, Bool.not_eq_true'] at kept
  rw [kept.1, kept.2] at same
  cases same

theorem validText_iff {maxBytes : ℕ} {s : String} :
    validText maxBytes (some (.str s)) = true ↔ s ≠ "" ∧ strlen s ≤ maxBytes := by
  unfold validText
  simp only [text, Option.any_some, Bool.and_eq_true, bne_iff_ne, decide_eq_true_eq, wsDataSize_eq]

theorem validLabel_iff {maxBytes : ℕ} {s : String} :
    validLabel maxBytes (some (.str s)) = true ↔ s ≠ "" ∧ strlen s ≤ maxBytes := by
  change decide (0 < wsDataSize s ∧ wsDataSize s ≤ maxBytes) = true ↔ _
  rw [decide_eq_true_iff, wsDataSize_eq, strlen_pos]

theorem validMessageTarget_of (target : Target cfg m all users) (unique : UniqueKeys m.members)
    (kconfig : cfg.maxClients ≤ 16) : validMessageTarget (m.lastMember "to") = true := by
  have few := target.few
  unfold validMessageTarget
  rw [property_all target unique, property_users target unique]
  simp only [isBoolean, isArray, itemsOf, List.length_map, Bool.true_and, Bool.and_eq_true, decide_eq_true_eq,
    List.all_eq_true, Bool.or_eq_true, truthy, truthyValue, Bool.not_eq_true', List.isEmpty_eq_false_iff]
  refine ⟨⟨by omega, ?_⟩, ?_⟩
  · intro user hu
    obtain ⟨s, hs, rfl⟩ := List.mem_map.mp hu
    exact validText_iff.mpr (target.ids s hs)
  · cases target.someone with
    | inl everybody => exact .inl everybody
    | inr some_user => exact .inr (by simpa using some_user)

theorem validGroup_of {type : String} (unique : UniqueKeys m.members)
    (group : validateGroupFields m (type == "newGroup") = true) (is_type : m.member "type" = some (.str type)) :
    (if isText "newGroup" (m.lastMember "type") || (m.lastMember "groupId").isSome || (m.lastMember "groupName").isSome
      then validGroupMetadata m else true) = true := by
  have named : isText "newGroup" (some (.str type)) = (type == "newGroup") := by
    rw [Bool.eq_iff_iff, isText_iff, beq_iff_eq, Option.some.injEq, Json.str.injEq]
  unfold validGroupMetadata
  rw [lastMember_eq _ unique, lastMember_eq _ unique, lastMember_eq _ unique, is_type, named]
  unfold validateGroupFields at group
  dsimp only at group
  split_ifs at group with plain
  · simp only [Bool.and_eq_true, Bool.not_eq_true', Option.isNone_iff_eq_none] at plain
    rw [plain.1.1, plain.1.2, plain.2]
    rfl
  · simp only [Bool.and_eq_true] at group
    obtain ⟨id, is_id, id_valid⟩ := inRange group.1
    obtain ⟨name, is_name, name_valid⟩ := inRange group.2
    split_ifs
    · rw [is_id, is_name, Bool.and_eq_true]
      exact ⟨validText_iff.mpr id_valid, validLabel_iff.mpr name_valid⟩
    · rfl

theorem isSafeMessageId_nat {id : ℕ} (is_id : m.lastMember "id" = some (natJson id)) (positive : 0 < id)
    (safe : id ≤ chatMessageMaxSafeId) : isSafeMessageId m = true := by
  have read : safeNat (.fin id) = some id := WrittenMessages.safeNat_nat safe
  unfold isSafeMessageId messageId
  rw [is_id]
  change ((safeNat (.fin id)).filter _).isSome = true
  rw [read, Option.filter_some, if_pos (decide_eq_true positive)]
  rfl

/-- The script limits the text to 256 bytes, whatever the server was built with. -/
theorem validHistoryMessage_iff (kconfig : cfg.maxClients ≤ 16) (admitted : Admitted cfg m) {id : ℕ} {timestamp : ℚ}
    (is_id : m.lastMember "id" = some (natJson id)) (positive : 0 < id) (safe : id ≤ chatMessageMaxSafeId)
    (is_timestamp : m.lastMember "timestamp" = some (.num (.fin timestamp))) {data : String}
    (is_data : m.member "data" = some (.str data)) : validHistoryMessage m = true ↔ strlen data ≤ 256 := by
  obtain ⟨sender, is_sender, sender_valid⟩ := admitted.sender
  obtain ⟨name, is_name, name_valid⟩ := admitted.name
  obtain ⟨type, data', is_type, known, is_data', -, filled, group⟩ := admitted.content
  obtain ⟨all, users, target⟩ := admitted.target
  have same : data' = data := by simpa [is_data] using is_data'.symm
  subst same
  have unique := admitted.unique
  have grouped := validGroup_of unique group is_type
  have valid_target := validMessageTarget_of target unique kconfig
  have valid_sender : validUserId (some (.str sender)) = true := validText_iff.mpr sender_valid
  have valid_name : validText 31 (some (.str name)) = true := validText_iff.mpr name_valid
  have known_type : (isText "text" (some (.str type)) || isText "newGroup" (some (.str type))) = true := by
    rw [Bool.or_eq_true, isText_iff, isText_iff, Option.some.injEq, Json.str.injEq, Option.some.injEq,
      Json.str.injEq]
    exact known
  have not_blank : (!(isText "text" (some (.str type)) && isText "" (some (.str data')))) = true := by
    rw [Bool.not_eq_true', ← Bool.not_eq_true, Bool.and_eq_true, isText_iff, isText_iff, Option.some.injEq,
      Json.str.injEq, Option.some.injEq, Json.str.injEq]
    exact fun blank => filled blank.1 blank.2
  have short : (stringSize (some (.str data'))).any (fun size => decide (size ≤ 256)) =
      decide (strlen data' ≤ 256) := by
    rw [← wsDataSize_eq]
    rfl
  unfold validHistoryMessage
  dsimp only
  rw [grouped, valid_target, isSafeMessageId_nat is_id positive safe, is_timestamp]
  rw [lastMember_eq _ unique, lastMember_eq _ unique, lastMember_eq _ unique, lastMember_eq _ unique]
  rw [is_type, is_sender, is_name, is_data, valid_sender, valid_name, known_type, not_blank, short]
  simp [isFinite, numberOfMember, numberOf]

/-- The ranges of `Kconfig.projbuild` for the number of clients and the length of a text. -/
structure Kconfig (cfg : Config) : Prop where
  clients : cfg.maxClients ≤ 16
  text : 32 ≤ cfg.maxTextBytes ∧ cfg.maxTextBytes ≤ 1024

theorem stored_data {cJSONParse : CJSONParse} {m : Message} (kconfig : Kconfig cfg) (stored : Stored cfg cJSONParse m) :
    ∃ data, m.payload.member "data" = some (.str data) ∧ strlen data ≤ cfg.maxTextBytes ∧
      (validHistoryMessage m.payload = true ↔ strlen data ≤ 256) := by
  have admitted := (Circulates.stored stored).admitted
  obtain ⟨⟨root, timestamp, payload, bounded, of_root⟩, positive, safe⟩ := stored.issued
  obtain ⟨type, data, -, -, is_data, short, -⟩ := admitted.content
  -- The id in the payload may differ from that of the slot, but it is a safe one.
  obtain ⟨id, id_positive, id_safe, read_id⟩ := cfg.printer.safe m.id positive safe
  have is_id : m.payload.lastMember "id" = some (natJson id) := by
    rw [payload, cfg.printer.printed_lastMember, RingStore.finalized_id of_root.object]
    exact congrArg (fun n => some (Json.num n)) read_id
  obtain ⟨time, read_timestamp⟩ := cfg.printer.finite timestamp bounded
  have is_timestamp : m.payload.lastMember "timestamp" = some (.num (.fin time)) := by
    rw [payload, cfg.printer.printed_lastMember, RingStore.finalized_timestamp of_root.object]
    exact congrArg (fun n => some (Json.num n)) read_timestamp
  exact ⟨data, is_data, short,
    validHistoryMessage_iff kconfig.clients admitted is_id id_positive id_safe is_timestamp is_data⟩

/-- Every stored message is valid in the browser, except for a text of more than 256 bytes. -/
theorem admission_accepted (cJSONParse : CJSONParse) :
    (∀ cfg, Kconfig cfg → ∀ m, Stored cfg cJSONParse m →
      (validHistoryMessage m.payload = true ↔
        ∀ data, m.payload.member "data" = some (.str data) → strlen data ≤ 256)) ∧
    ∀ cfg, Kconfig cfg → cfg.maxTextBytes ≤ 256 → ∀ m, Stored cfg cJSONParse m →
      validHistoryMessage m.payload = true := by
  constructor
  · intro cfg kconfig m stored
    obtain ⟨data, is_data, -, valid⟩ := stored_data kconfig stored
    rw [valid, is_data]
    simp
  · intro cfg kconfig small m stored
    obtain ⟨data, -, short, valid⟩ := stored_data kconfig stored
    exact valid.mpr (short.trans small)

def longTexts : Config := { Config.default fifteenDigits with maxTextBytes := 512, maxWsPayloadBytes := 2048 }

def words : List Char := List.replicate 257 'x'

def longText : List Char := braces [field "type" (quoted "text".toList), field "from" (quoted "alice".toList),
  field "name" (quoted "Alice".toList), field "to" (braces [field "all" "true".toList]),
  field "data" (quoted words)]

def longRoot : Json := .obj [("type", .str "text"), ("from", .str "alice"), ("name", .str "Alice"),
  ("to", .obj [("all", .bool true)]), ("data", .str (String.ofList words))]

set_option maxRecDepth 100000 in
theorem longText_parsed : chatJsonParseObject (knows (Utf8Texts.encoded longText) longRoot)
    (Utf8Texts.encoded longText) = some longRoot :=
  knows_parsed (by decide +kernel) (by decide +kernel) (by decide) rfl

theorem longRoot_dropped :
    (storing longTexts "text" longRoot).any (fun m => !validHistoryMessage m.payload) = true := by
  decide +kernel

/-- 257 letters to everybody are stored by a server built for 512, and valid in no browser. -/
theorem long_text_dropped : ¬∀ cfg, Kconfig cfg →
    ∀ m, Stored cfg (knows (Utf8Texts.encoded longText) longRoot) m → validHistoryMessage m.payload = true := by
  intro accepted
  obtain ⟨m, new, invalid⟩ := List.any_eq_true.mp longRoot_dropped
  have valid := accepted longTexts ⟨by decide, by decide⟩ m (stored_of_storing longText_parsed rfl new)
  rw [valid] at invalid
  cases invalid

end EspWebChat.Agreement
