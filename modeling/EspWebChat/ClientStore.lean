import EspWebChat.BrowserWorld

set_option autoImplicit false

/-! # The stored state of `script.js`: messages, conversations, presence and the outbox -/
namespace EspWebChat.ClientStore
open JsonTree JsValues ClientMessages Interruptible BrowserWorld

def maxLocalMessages : ℕ := 2000
def maxOutboxMessages : ℕ := 30

def str (s : String) : Json := .str s
def nat (n : ℕ) : Json := .num (.fin n)

/-- The comparator of every `sort` in the script. -/
def byId (a b : Json) : Bool := decide (numericId a ≤ numericId b)

def sortById (ms : List Json) : List Json := ms.mergeSort byId

def isRecovered (msg : Json) : Bool := truthy (msg.lastMember "recovered")

/-- `list.slice(-n)` for a positive `n`, and `[]` for zero. -/
def lastOf {α : Type} (n : ℕ) (xs : List α) : List α := xs.drop (xs.length - n)

def regularSlots (regular recovered : ℕ) : ℕ :=
  min regular (max (maxLocalMessages - recovered) ((maxLocalMessages + 1) / 2))

/-- What `saveMessages` keeps of a sorted list, live messages before recovered ones. -/
def kept (sorted : List Json) : List Json :=
  let recovered := sorted.filter isRecovered
  let regular := sorted.filter (fun m => !isRecovered m)
  let slots := regularSlots regular.length recovered.length
  lastOf slots regular ++ lastOf (maxLocalMessages - slots) recovered

def dropped (sorted : List Json) : List Json :=
  let recovered := sorted.filter isRecovered
  let regular := sorted.filter (fun m => !isRecovered m)
  let slots := regularSlots regular.length recovered.length
  regular.take (regular.length - slots) ++ recovered.take (recovered.length - (maxLocalMessages - slots))

/-- The list after the retention rule, and what it dropped. -/
def retain (ms : List Json) : List Json × List Json :=
  let sorted := sortById ms
  if maxLocalMessages < sorted.length then (sortById (kept sorted), dropped sorted) else (sorted, [])

def prune (s : Store) : Store :=
  { s with allMessages := (retain s.allMessages).1, pruned := s.pruned ++ (retain s.allMessages).2 }

/-- The tree of `JSON.stringify(allMessages)`. -/
def snapshot (ms : List Json) : Json := .arr (ms.map stringified)

def saveMessages : Client Store Bool := do
  writes prune
  let ms ← reads Store.allMessages
  writeStoredValue (fun storage => { storage with messages := some (snapshot ms) })

def saveConversations : Client Store Unit := do
  let conversations ← reads Store.conversations
  let _ ← writeStoredValue (fun storage => { storage with conversations := some (stringified (.obj conversations)) })
  pure ()

def saveOutbox : Client Store Unit := do
  writes (fun s => { s with outbox := lastOf maxOutboxMessages s.outbox })
  let outbox ← reads Store.outbox
  let _ ← writeStoredValue (fun storage => { storage with outbox := some (snapshot outbox) })
  pure ()

def storeCursor (id : ℕ) : Client Store Bool :=
  writeStoredValue (fun storage => { storage with lastSeenId := some (.fin id) })

/-- The argument is a safe message id. -/
def rememberSeenId (id : ℕ) : Client Store Unit := do
  let s ← current
  if s.lastSeenId < id then do
    writes (fun s => { s with lastSeenId := id })
    let _ ← storeCursor id
    pure ()
  else pure ()

def defaultConversation : Members :=
  [("id", str "global"), ("name", str "Group Chat"), ("type", str "global"), ("members", .arr []),
    ("lastPreview", str "Everyone connected to this ESP32"), ("updatedAt", nat 0)]

/-- `list.find(...)` over the target ids that are not this user's. -/
def otherTarget (userId : String) (msg : Json) : String :=
  (((targetUsers msg).filterMap (fun user => text (some user))).find? (fun id => id != userId)).getD "global"

def isGroupMessage (msg : Json) : Bool :=
  isText "newGroup" (msg.lastMember "type") || truthy (msg.lastMember "groupId")

def conversationForMessage (userId : String) (msg : Json) : String :=
  if isGroupMessage msg then orEmpty (msg.lastMember "groupId")
  else if targetsAll msg then "global"
  else if isText userId (msg.lastMember "from") then otherTarget userId msg
  else (text (msg.lastMember "from")).getD "global"

def updatedAt (conversation : Option Json) : Number := numberOf (orElse (property conversation "updatedAt") (nat 0))

/-- The two members a newer message replaces. -/
def previewMembers (existing : Option Json) (preview : Json) (now : Number) : Members :=
  if existing.isSome && greater (updatedAt existing) now then
    optionalMember "lastPreview" (property existing "lastPreview") ++
      optionalMember "updatedAt" (property existing "updatedAt")
  else [("lastPreview", preview), ("updatedAt", .num now)]

def groupMembers (msg : Json) : List Json :=
  ((((msg.lastMember "from").toList ++ targetUsers msg).filterMap (fun user => text (some user))).filter
    (fun id => id != "")).eraseDups.map str

def nameOf (users : Members) (id : String) : Option Json := users.lookup id

/-- The entry that `updateConversationFromMessage` writes, `now` being its `updatedAt`. -/
def conversationEntry (s : Store) (msg : Json) (now : Number) : String × Json :=
  let id := conversationForMessage s.userId msg
  let existing := s.conversations.lookup id
  let preview := fun fallback : String => orElse (msg.lastMember "data") (str fallback)
  if id = "global" then
    (id, .obj (spread (spread defaultConversation ((existing.map Json.members).getD []))
      (previewMembers existing (preview "Group Chat") now)))
  else if isGroupMessage msg then
    (id, .obj ([("id", str id),
      ("name", orElse (msg.lastMember "groupName") (orElse (property existing "name") (str "Group Chat"))),
      ("type", str "group"), ("members", .arr (groupMembers msg))] ++
      previewMembers existing (preview "New group") now))
  else
    let known := orElse (property existing "name") (sliceTo 8 id)
    let name :=
      if isText s.userId (msg.lastMember "from") then orElse (nameOf s.onlineUsers id) known
      else orElse (msg.lastMember "name") known
    (id, .obj ([("id", str id), ("name", name), ("type", str "private"),
      ("members", .arr [str s.userId, str id])] ++ previewMembers existing (preview "Private chat") now))

def updateConversationFromMessage (msg : Json) : Client Store Unit :=
  let type := msg.lastMember "type"
  if !truthyValue msg || isText "error" type || isText "onlineUsers" type then pure ()
  else do
    let r ← reply
    let timestamp := numberOfMember (msg.lastMember "timestamp")
    let now := if orZero timestamp = .fin 0 then .fin ((r.nowMs : ℚ) / 1000) else timestamp
    writes (fun s =>
      let entry := conversationEntry s msg now
      { s with conversations := assign entry.1 entry.2 s.conversations })

/-- The id of a conversation, which is a text. -/
def conversationId (conversation : Json) : String := orEmpty (conversation.lastMember "id")

def conversationType (s : Store) : Option Json := s.currentConversation.lastMember "type"

def belongsToCurrentConversation (s : Store) (msg : Json) : Bool :=
  let id := conversationId s.currentConversation
  if isText "global" (conversationType s) then isText "text" (msg.lastMember "type") && targetsAll msg
  else if isText "group" (conversationType s) then
    isText id (msg.lastMember "groupId") || (isText "newGroup" (msg.lastMember "type") && isText id (msg.lastMember "groupId"))
  else if isText "private" (conversationType s) then
    !truthy (msg.lastMember "groupId") && !targetsAll msg &&
      ((isText s.userId (msg.lastMember "from") && includesText (targetUsers msg) id) ||
        (isText id (msg.lastMember "from") && includesText (targetUsers msg) s.userId))
  else false

def visibleMessages (s : Store) : List Json := sortById (s.allMessages.filter (belongsToCurrentConversation s))

/-- Whether `createMessageElement` returns. The label of a recovered message is a template that
    converts the name to a string; what else it shows of a stored message are strings. -/
def createMessageElement (msg : Json) : Bool :=
  !(isRecovered msg && (msg.lastMember "recoveredFromName").any conversionThrows)

/-- The messages `renderMessages` puts on the screen: it throws at the first that it cannot make. -/
def shownMessages (s : Store) : List Json := (visibleMessages s).takeWhile createMessageElement

def canRender (s : Store) : Bool := (visibleMessages s).all createMessageElement

/-- Whether `renderMessages` returns. -/
def renderMessages : Client Store Bool := reads canRender

def hasId (id : ℕ) (ms : List Json) : Bool := ms.any (fun stored => numericId stored == id)

def pushMessage (msg : Json) (s : Store) : Store := { s with allMessages := s.allMessages ++ [msg] }

/-- Save the messages, and only then let the cursor pass `id`. -/
def saveThenRemember (id : ℕ) : Client Store Unit := do
  let saved ← saveMessages
  if saved then rememberSeenId id else pure ()

/-- Whether the message is new. -/
def saveIncomingMessage (msg : Json) : Client Store Bool :=
  if !validHistoryMessage msg then pure false
  else do
    let s ← current
    if !isMessageForMe s.userId msg || hasId (numericId msg) s.allMessages then do
      saveThenRemember (numericId msg)
      pure false
    else do
      writes (pushMessage msg)
      updateConversationFromMessage msg
      saveThenRemember (numericId msg)
      saveConversations
      pure true

/-- `source.name` is a string when this is called, and `source.from` a valid id. -/
def recoverySourceName (users : Members) (source : Json) : Json :=
  orElse (source.lastMember "name")
    (orElse (nameOf users (orEmpty (source.lastMember "from")))
      (sliceTo 8 (orEmpty (source.lastMember "from"))))

def recoveredMessagePayload (users : Members) (msg source nowS : Json) : Json :=
  .obj (historyMessagePayload msg ++ [("recovered", .bool true)] ++
    optionalMember "recoveredFrom" (source.lastMember "from") ++
    [("recoveredFromName", recoverySourceName users source), ("recoveredAt", nowS)])

inductive ImportResult where
  | ignored
  | duplicate
  | conflict
  | imported
  deriving DecidableEq, Repr

/-- `activeRecovery?.restoreBeforeId || historyInfo?.restore_before_id || 0`. -/
def restoreBeforeId (s : Store) : ℕ :=
  match s.activeRecovery with
  | some r => if r.restoreBeforeId = 0 then s.historyInfo.getD 0 else r.restoreBeforeId
  | none => s.historyInfo.getD 0

def importRecoveredMessage (candidate : Option Json) (source : Json) : Client Store ImportResult :=
  match candidate with
  | none => pure .ignored
  | some candidate => do
    let s ← current
    if !validHistoryMessage candidate || !isMessageForMe s.userId candidate then pure .ignored
    else if restoreBeforeId s ≤ 1 ∨ restoreBeforeId s ≤ numericId candidate then pure .ignored
    else
      match s.allMessages.find? (fun stored => numericId stored == numericId candidate) with
      | some existing =>
        pure (if comparableMessage existing = comparableMessage candidate then .duplicate else .conflict)
      | none => do
        let now ← nowS
        let recovered := recoveredMessagePayload s.onlineUsers candidate source now
        writes (pushMessage recovered)
        updateConversationFromMessage recovered
        let _ ← saveMessages
        saveConversations
        pure .imported

def getNickname (s : Store) : String :=
  let nickname :=
    if s.storage.nickname.getD "" ≠ "" then s.storage.nickname.getD ""
    else if s.nicknameInput ≠ "" then s.nicknameInput
    else "Guest"
  truncateUtf8 (trim nickname) 31

def privateEntry (s : Store) (user : String × Json) : Json :=
  let existing := s.conversations.lookup user.1
  .obj [("id", str user.1), ("name", orElse (some user.2) (sliceTo 8 user.1)),
    ("type", str "private"), ("members", .arr [str s.userId, str user.1]),
    ("lastPreview", orElse (property existing "lastPreview") (str "Tap to start a private chat")),
    ("updatedAt", orElse (property existing "updatedAt") (nat 0))]

/-- The loop over the other users; the order in which it is shown does not matter here. -/
def addOnlineConversations (s : Store) : Store :=
  (s.onlineUsers.filter (fun user => user.1 != s.userId)).foldl (fun s user =>
    { s with conversations := assign user.1 (privateEntry s user) s.conversations }) s

def renderConversationList : Client Store Unit := do
  writes addOnlineConversations
  saveConversations

/-- `renderMessages(); renderConversationList();`, and whether the script gets past them. -/
def render : Client Store Bool := do
  let drawn ← renderMessages
  if drawn then do
    renderConversationList
    pure true
  else pure false

/-- `render` at the end of a function: nothing is left that a throw could keep from being done. -/
def renderLast : Client Store Unit := do
  let _ ← render
  pure ()

def presenceName (user : Json) (id : String) : Json :=
  let name := orEmpty (user.lastMember "name")
  if trim name ≠ "" ∧ wsDataSize name ≤ 31 then str name else sliceTo 8 id

def presence (s : Store) (data : List Json) : Members :=
  let users := data.foldl (fun users user =>
    if validUserId (user.lastMember "id") then
      setName (orEmpty (user.lastMember "id")) (presenceName user (orEmpty (user.lastMember "id"))) users
    else users) []
  if users.any (fun user => user.1 == s.userId) then users else setName s.userId (str (getNickname s)) users

def updateOnlineUsers (data : List Json) : Client Store Unit := do
  writes (fun s => { s with onlineUsers := presence s data })
  renderConversationList

/-- The part of `releaseSocket` on presence: nobody is known to be online any more. -/
def resetPresence : Client Store Unit := do
  writes (fun s => { s with onlineUsers := [(s.userId, str (getNickname s))] })
  renderConversationList

def finishHistoryRecovery : Client Store Unit := do
  let s ← current
  match s.activeRecovery with
  | none => pure ()
  | some recovery => do
    writes (fun s => { s with activeRecovery := none })
    if recovery.changed then renderLast else pure ()

def markChanged (s : Store) : Store :=
  { s with activeRecovery := s.activeRecovery.map (fun r => { r with changed := true }) }

def handleHistoryResponse (msg : Json) : Client Store Unit := do
  let s ← current
  match s.activeRecovery with
  | none => pure ()
  | some recovery =>
    if !isText recovery.requestId (msg.lastMember "requestId") || isText s.userId (msg.lastMember "from") ||
        !validUserId (msg.lastMember "from") || (text (msg.lastMember "name")).isNone ||
        !includesText (targetUsers msg) s.userId then pure ()
    else do
      let result ← importRecoveredMessage (msg.lastMember "message") msg
      if result = .imported then writes markChanged else pure ()

/-- The messages a request is answered with. -/
def answers (s : Store) (requester : Option Json) (restoreBeforeId : ℕ) : List Json :=
  sortById (s.allMessages.filter (fun stored => !isRecovered stored && validHistoryMessage stored &&
    decide (numericId stored < restoreBeforeId) && isMessageVisibleToUser stored requester))

def queueMessage (message : Json) : Client Store Unit := do
  writes (fun s => { s with outbox := s.outbox ++ [message] })
  saveOutbox

def validConversation (entry : String × Json) : Bool :=
  let type := entry.2.lastMember "type"
  let members := entry.2.lastMember "members"
  validUserId (some (str entry.1)) && isText entry.1 (entry.2.lastMember "id") &&
    (stringSize (entry.2.lastMember "name")).isSome &&
    (if entry.1 = "global" then isText "global" type else isText "group" type || isText "private" type) &&
    isArray members && (itemsOf members).all (fun m => validUserId (some m))

def loadConversations (stored : Option Json) : Members :=
  let loaded := (spread [] ((stored.map Json.members).getD [])).filter validConversation
  let globalEntry := ((loaded.lookup "global").map Json.members).getD []
  assign "global" (.obj (spread defaultConversation globalEntry)) loaded

def ownMessage (userId : String) (msg : Json) : Bool :=
  validHistoryMessage (.obj (spread msg.members [("id", nat 1)])) && isText userId (msg.lastMember "from")

def storedCursor (storage : LocalStorage) : ℕ := (storage.lastSeenId.bind safeNat).getD 0

def loadMessages (storage : LocalStorage) : List Json := (itemsOf storage.messages).filter validHistoryMessage

def localMaxId (ms : List Json) : ℕ :=
  (ms.filter (fun msg => !isRecovered msg)).foldl (fun maxId msg => max maxId (numericId msg)) 0

def startCursor (storage : LocalStorage) : ℕ := max (storedCursor storage) (localMaxId (loadMessages storage))

def loaded (s : Store) : Store :=
  { s with
    allMessages := loadMessages s.storage
    conversations := loadConversations s.storage.conversations
    outbox := (itemsOf s.storage.outbox).filter (ownMessage s.userId)
    lastSeenId := startCursor s.storage }

def updateConversations : List Json → Client Store Unit
  | [] => pure ()
  | msg :: ms => do
    updateConversationFromMessage msg
    updateConversations ms

def loadState : Client Store Unit := do
  writes loaded
  let saved ← saveMessages
  let s ← current
  if saved then do
    let _ ← storeCursor s.lastSeenId
    updateConversations s.allMessages
  else updateConversations s.allMessages

/-- The variables before the script has run. -/
def freshStore (storage : LocalStorage) (pruned : List Json) : Store where
  userId := storage.userId.getD ""
  nicknameInput := storage.nickname.getD ""
  allMessages := []
  conversations := []
  currentConversation := .obj defaultConversation
  onlineUsers := []
  outbox := []
  lastSeenId := 0
  historyInfo := none
  activeRecovery := none
  storage := storage
  pruned := pruned

def chooseUserId : Client Store Unit := do
  let s ← current
  if validUserId (some (str s.userId)) then pure ()
  else do
    let r ← reply
    writes (fun s => { s with userId := r.uuid })
    let _ ← writeStoredValue (fun storage => { storage with userId := some r.uuid })
    pure ()

def chooseNickname : Client Store Unit := do
  let s ← current
  if s.nicknameInput ≠ "" then pure ()
  else do
    let r ← reply
    writes (fun s => { s with nicknameInput := "User" ++ toString (r.random % 1000) })

/-- The statements of the script that run at once. -/
def startStore : Client Store Unit := do
  chooseUserId
  chooseNickname
  loadState
  writes (fun s => { s with currentConversation := (s.conversations.lookup "global").getD s.currentConversation })
  renderLast

/-! What holds of drawing the list holds of drawing everything. -/
section render
variable {Rel : Store → Store → Prop} {s : Store} {P : Store → Prop}

theorem render_within [Std.Refl Rel] [IsTrans Store Rel] (list : Within Rel renderConversationList) : Within Rel render := by
  apply Within.bind .reads
  intro drawn
  exact .ite (list.bind (fun _ => .pure true)) (.pure false)

theorem renderLast_within [Std.Refl Rel] [IsTrans Store Rel] (list : Within Rel renderConversationList) :
    Within Rel renderLast :=
  (render_within list).bind (fun _ => .pure ())

theorem render_result (P : Bool → Store → Prop) (stays : canRender s = false → P false s)
    (list : canRender s = true → Traces Rel renderConversationList s (fun _ u => P true u)) :
    Traces Rel render s P := by
  apply Traces.bind (P := fun drawn u => drawn = canRender s ∧ u = s) (.reads ⟨rfl, rfl⟩)
  intro drawn u _ h
  obtain ⟨rfl, rfl⟩ := h
  apply Traces.ite
  · intro drawn
    apply (list drawn).bind
    intro _ v _ hv
    exact .pure hv
  · intro undrawn
    exact .pure (stays (Bool.eq_false_iff.mpr undrawn))

theorem render_traces (stays : P s) (list : Traces Rel renderConversationList s (fun _ u => P u)) :
    Traces Rel render s (fun _ u => P u) :=
  render_result (fun _ u => P u) (fun _ => stays) (fun _ => list)

theorem renderLast_traces (stays : P s) (list : Traces Rel renderConversationList s (fun _ u => P u)) :
    Traces Rel renderLast s (fun _ u => P u) := by
  apply (render_traces stays list).bind
  intro _ u _ hu
  exact .pure hu

end render

end EspWebChat.ClientStore
