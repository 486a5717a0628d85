import Mathlib.Tactic.Simps.Basic
import EspWebChat.ClientStore

set_option autoImplicit false

/-! # The connection of `script.js`: sockets, timers and the handling of frames -/
namespace EspWebChat.ClientSocket
open JsonTree JsValues ClientMessages Interruptible BrowserWorld ClientStore

def wsFallbackDelayMs : ℕ := 250
def wsConnectTimeoutMs : ℕ := 10000
def wsJoinTimeoutMs : ℕ := 15000
def wsReconnectMaxDelayMs : ℕ := 15000
def wsHeartbeatMaxIntervalMs : ℕ := 300000
def wsReceiveGraceMs : ℕ := 5000
def historyRecoveryWindowMs : ℕ := 4000
def defaultApHost : String := "192.168.4.1"

/-- A socket that does not exist counts as closed. -/
def readyState (l : Link) (s : ℕ) : ReadyState := (l.sockets[s]?.map Socket.readyState).getD .closed

@[simps] def setSocket (s : ℕ) (f : Socket → Socket) (l : Link) : Link := { l with sockets := l.sockets.modify s f }

def closeSocket (s : ℕ) (l : Link) : Link :=
  setSocket s (fun x => match x.readyState with
    | .connecting | .opened => { x with readyState := .closing }
    | _ => x) l

def nextTimer (callback : Callback) (delayMs : ℕ) (l : Link) : Timer := ⟨l.nextTimer, callback, delayMs⟩

@[simps] def setTimeout (callback : Callback) (delayMs : ℕ) (l : Link) : Link :=
  { l with timers := l.timers ++ [nextTimer callback delayMs l], nextTimer := l.nextTimer + 1 }

@[simps] def clearTimeout (timer : Option Timer) (l : Link) : Link :=
  { l with timers := l.timers.filter (fun t => some t != timer) }

@[simps] def clearJoinTimer (l : Link) : Link := { clearTimeout l.joinTimer l with joinTimer := none }
@[simps] def clearConnectTimer (l : Link) : Link := { clearTimeout l.connectTimer l with connectTimer := none }
@[simps] def clearReceiveTimer (l : Link) : Link := { clearTimeout l.receiveTimer l with receiveTimer := none }
@[simps] def clearReconnectTimer (l : Link) : Link := { clearTimeout l.reconnectTimer l with reconnectTimer := none }

def armReceiveTimer (s : ℕ) (l : Link) : Link :=
  let l := clearReceiveTimer l
  let delayMs := l.heartbeatIntervalMs * 2 + wsReceiveGraceMs
  { setTimeout (.receiveTimeout s) delayMs l with receiveTimer := some (nextTimer (.receiveTimeout s) delayMs l) }

def armJoinTimer (s : ℕ) (l : Link) : Link :=
  let l := clearJoinTimer l
  { setTimeout (.joinTimeout s) wsJoinTimeoutMs l with
    joinTimer := some (nextTimer (.joinTimeout s) wsJoinTimeoutMs l) }

def armConnectTimer (s : ℕ) (l : Link) : Link :=
  let l := clearConnectTimer l
  { setTimeout (.connectTimeout s) wsConnectTimeoutMs l with
    connectTimer := some (nextTimer (.connectTimeout s) wsConnectTimeoutMs l) }

def scheduleReconnect (l : Link) : Link :=
  if l.reconnectBlocked || l.reconnectTimer.isSome then l
  else { setTimeout .reconnect l.reconnectDelayMs l with
    reconnectTimer := some (nextTimer .reconnect l.reconnectDelayMs l) }

def hostName (host : String) : String := String.ofList (host.toList.takeWhile (fun c => c != ':'))

def websocketUrls (location : Location) : List String :=
  let currentHost := if location.host = "" then defaultApHost else location.host
  let hosts := currentHost :: (if hostName currentHost = defaultApHost then [] else [defaultApHost])
  hosts.map (fun host => (if location.secure then "wss" else "ws") ++ "://" ++ host ++ "/ws")

/-- Try the next address after a short delay, or start over later. -/
def tryNextUrl (l : Link) : Link :=
  if l.wsUrlAttempt < (websocketUrls l.location).length - 1 then
    setTimeout .connect wsFallbackDelayMs { l with wsUrlAttempt := l.wsUrlAttempt + 1 }
  else scheduleReconnect { l with wsUrlAttempt := 0 }

def detach (l : Link) : Link :=
  clearReceiveTimer (clearJoinTimer (clearConnectTimer { l with ws := none, wsJoined := false }))

def interruptRecovery (w : Page) : Page :=
  match w.store.activeRecovery with
  | none => w
  | some recovery =>
    { store := { w.store with activeRecovery := none }, link := clearTimeout (some recovery.timer) w.link }

def releaseSocket (s : ℕ) : Client Page Bool := do
  let l ← link
  if l.ws ≠ some s then pure false
  else do
    setLink detach
    onStore resetPresence
    writes interruptRecovery
    pure true

def reconnectSocket (s : ℕ) : Client Page Unit := do
  let released ← releaseSocket s
  if !released then pure ()
  else do
    setLink (closeSocket s)
    setLink scheduleReconnect

def isOpen (l : Link) : Option ℕ → Bool
  | some s => readyState l s == .opened
  | none => false

@[simps] def recordSent (s : ℕ) (payload : Json) (l : Link) : Link := { l with sent := l.sent ++ [(s, payload)] }

def sendRaw (payload : Json) : Client Page Bool := do
  let l ← link
  match l.ws with
  | none => pure false
  | some s =>
    if readyState l s ≠ .opened then pure false
    else do
      let r ← reply
      if r.sends then do
        setLink (recordSent s payload)
        pure true
      else do
        reconnectSocket s
        pure false

def sendControl (type : String) (extra : Members) : Client Page Bool := do
  let s ← store
  let now ← nowS
  sendRaw (.obj ([("type", str type), ("from", str s.userId), ("name", str (getNickname s)),
    ("timestamp", now)] ++ extra))

/-- `message.timestamp = ...` on a queued message. -/
def stamped (message now : Json) : Json := .obj (assign "timestamp" now message.members)

/-- The loop of `flushOutbox`: the messages that remain. -/
def sendPending : List Json → Client Page (List Json)
  | [] => pure []
  | message :: pending => do
    let now ← nowS
    let done ← sendRaw (stamped message now)
    if done then sendPending pending else pure (stamped message now :: pending)

def flushOutbox : Client Page Unit := do
  let w ← reads (fun w => w)
  if !w.link.wsJoined || !isOpen w.link w.link.ws || w.store.outbox.isEmpty then pure ()
  else do
    let remaining ← sendPending w.store.outbox
    setStore (fun s => { s with outbox := remaining })
    onStore saveOutbox

def joinConfirmed (s : ℕ) (l : Link) : Link :=
  armReceiveTimer s
    { clearReconnectTimer (clearJoinTimer { l with wsJoined := true }) with reconnectDelayMs := 1000 }

def confirmSocketJoin : Client Page Unit := do
  let l ← link
  match l.ws with
  | none => pure ()
  | some s =>
    if l.wsJoined || readyState l s ≠ .opened then pure ()
    else do
      setLink (joinConfirmed s)
      flushOutbox

def unblock (l : Link) : Link := clearJoinTimer { l with reconnectBlocked := false, wsJoined := false }

def resetSinceIdAndReconnect : Client Page Unit := do
  setStore (fun s => { s with lastSeenId := 0 })
  let _ ← onStore (storeCursor 0)
  setLink unblock
  let l ← link
  match l.ws with
  | some s => reconnectSocket s
  | none => setLink scheduleReconnect

def rearmReceiveTimer (l : Link) : Link :=
  match l.ws with
  | some s => armReceiveTimer s l
  | none => l

/-- `Number.isInteger(value)` between `low` and `high`. -/
def integerBetween (low high : ℕ) (value : Option Json) : Option ℕ :=
  match value with
  | some (.num n) => (safeNat n).filter (fun k => decide (low ≤ k ∧ k ≤ high))
  | _ => none

def adoptHeartbeat (msg : Json) (l : Link) : Link :=
  match integerBetween 5 300 (msg.lastMember "heartbeat_interval_s") with
  | some seconds =>
    let l := { l with heartbeatIntervalMs := seconds * 1000 }
    if l.wsJoined then rearmReceiveTimer l else l
  | none => l

def throws (value : Option Json) : Bool := value.any conversionThrows

/-- One of the numbers that `historyInfo` is made of cannot be converted. -/
def historyInfoThrows (msg : Json) : Bool :=
  ["boot_start_id", "current_id", "earliest_id", "latest_id", "count", "capacity"].any
    (fun key => throws (msg.lastMember key))

def handleHistoryInfo (msg : Json) : Client Page Unit :=
  match safeNat (numberOfMember (msg.lastMember "restore_before_id")) with
  | none => pure ()
  | some restoreBeforeId => do
    setLink (adoptHeartbeat msg)
    if historyInfoThrows msg then pure ()
    else setStore (fun s => { s with historyInfo := some restoreBeforeId })

def historyResponse (requestId : String) (requester : Json) (stored : Json) : Members :=
  [("requestId", sliceTo 63 requestId),
    ("to", .obj [("all", .bool false), ("users", .arr [requester])]),
    ("message", .obj (historyMessagePayload stored))]

def sendResponses (requestId : String) (requester : Json) : List Json → Client Page Unit
  | [] => pure ()
  | stored :: rest => do
    let _ ← sendControl "historyResponse" (historyResponse requestId requester stored)
    sendResponses requestId requester rest

def validRequestId (value : Option Json) : Option String :=
  (text value).filter (fun s => s != "" && decide (utf16Length s ≤ 63))

def handleHistoryRequest (msg : Json) : Client Page Unit := do
  let s ← store
  match validRequestId (msg.lastMember "requestId"), msg.lastMember "from",
      safeNat (numberOfMember (msg.lastMember "restore_before_id")) with
  | some requestId, some requester, some restoreBeforeId =>
    if isText s.userId (some requester) || !validUserId (some requester) || decide (restoreBeforeId ≤ 1) then pure ()
    else sendResponses requestId requester (answers s (some requester) restoreBeforeId)
  | _, _, _ => pure ()

def beginRecovery (requestId : String) (boundary : ℕ) (w : Page) : Page :=
  let timer := nextTimer .finishRecovery historyRecoveryWindowMs w.link
  { store := { w.store with activeRecovery := some ⟨requestId, boundary, false, timer⟩ }
    link := setTimeout .finishRecovery historyRecoveryWindowMs w.link }

def startHistoryRecovery : Client Page Unit := do
  let w ← reads (fun w => w)
  let boundary := w.store.historyInfo.getD 0
  let others := w.store.onlineUsers.filter (fun user => user.1 != w.store.userId)
  if w.store.activeRecovery.isSome || !isOpen w.link w.link.ws || !w.link.wsJoined ||
      decide (boundary ≤ 1) || others.isEmpty then pure ()
  else do
    let r ← reply
    let requestId := "hist-" ++ r.uuid
    let done ← sendControl "historyRequest" [("requestId", str requestId), ("restore_before_id", nat boundary)]
    if done then writes (beginRecovery requestId boundary) else pure ()

def historyProgress (msg : Json) : Bool :=
  isText "historyInfo" (msg.lastMember "type") &&
    (match msg.lastMember "restore_before_id" with
      | some (.num n) => (safeNat n).isSome
      | _ => false)

/-- A frame that shows progress restarts the join timeout of a socket that has not joined. -/
def noteProgress (msg : Json) (l : Link) : Link :=
  match l.ws with
  | some s => if !l.wsJoined && (historyProgress msg || validHistoryMessage msg) then armJoinTimer s l else l
  | none => l

def listsUser (userId : String) (data : List Json) : Bool :=
  data.any (fun user => isText userId (user.lastMember "id"))

def handlePresence (msg : Json) : Client Page Unit := do
  let s ← store
  let data := msg.lastMember "data"
  if !isArray data || !listsUser s.userId (itemsOf data) then pure ()
  else do
    confirmSocketJoin
    onStore (updateOnlineUsers (itemsOf data))

def sessionReplaced (l : Link) : Link :=
  clearReconnectTimer (clearReceiveTimer (clearJoinTimer
    { l with reconnectBlocked := true, wsJoined := false }))

def errorText (msg : Json) : Json :=
  orElse (msg.lastMember "data") (orElse (msg.lastMember "code") (str "unknown error"))

def handleError (msg : Json) : Client Page Unit :=
  if conversionThrows (errorText msg) then pure ()
  else if isText "bad_since_id" (msg.lastMember "code") then resetSinceIdAndReconnect
  else if isText "session_replaced" (msg.lastMember "code") then setLink sessionReplaced
  else pure ()

/-- A group this user has just been added to becomes the current conversation. -/
def openNewGroup (msg : Json) (s : Store) : Store :=
  if isText "newGroup" (msg.lastMember "type") && truthy (msg.lastMember "groupId") &&
      (isText s.userId (msg.lastMember "from") || includesText (targetUsers msg) s.userId) then
    { s with currentConversation :=
        (s.conversations.lookup (orEmpty (msg.lastMember "groupId"))).getD s.currentConversation }
  else s

def handleChat (msg : Json) : Client Store Unit := do
  let saved ← saveIncomingMessage msg
  if saved then do
    writes (openNewGroup msg)
    renderLast
  else pure ()

/-- `wsMessageSummary` throws at an id, a cursor or a count that cannot be converted. -/
def wsMessageSummaryThrows (msg : Json) : Bool :=
  let type := msg.lastMember "type"
  throws (msg.lastMember "id") ||
    (isText "join" type && throws (msg.lastMember "since_id")) ||
    (isText "historyInfo" type && (throws (msg.lastMember "count") || throws (msg.lastMember "latest_id")))

/-- `handleIncoming` once the summary of the frame is made. On a value that is no object it throws
    before anything is changed. -/
def handleSummarized (msg : Json) : Client Page Unit := do
  let type := msg.lastMember "type"
  setLink (noteProgress msg)
  if isText "ping" type then do
    let s ← store
    let now ← nowS
    let _ ← sendRaw (.obj [("type", str "pong"), ("from", str s.userId), ("timestamp", now)])
    pure ()
  else if isText "historyInfo" type then handleHistoryInfo msg
  else if isText "historyRequest" type then handleHistoryRequest msg
  else if isText "historyResponse" type then onStore (handleHistoryResponse msg)
  else if isText "onlineUsers" type then handlePresence msg
  else if isText "error" type then handleError msg
  else if isText "text" type || isText "newGroup" type then onStore (handleChat msg)
  else pure ()

/-- `none` is a frame that is no JSON text. What throws ends the handling of a frame. -/
def handleIncoming (frame : Option Json) : Client Page Unit :=
  match frame with
  | none => pure ()
  | some msg => if wsMessageSummaryThrows msg then pure () else handleSummarized msg

theorem handleIncoming_summarized {msg : Json} (fine : wsMessageSummaryThrows msg = false) :
    handleIncoming (some msg) = handleSummarized msg :=
  if_neg (Bool.eq_false_iff.mp fine)

def newSocket (l : Link) : Link :=
  armConnectTimer l.sockets.length
    { l with sockets := l.sockets ++ [⟨.connecting, false, false⟩], ws := some l.sockets.length }

def liveState : ReadyState → Bool
  | .connecting | .opened => true
  | _ => false

def liveSocket (l : Link) : Bool := l.ws.any (fun s => liveState (readyState l s))

@[simps] def countConnection (l : Link) : Link := { l with wsConnectionSequence := l.wsConnectionSequence + 1 }

def constructorFailed (l : Link) : Link := tryNextUrl { l with ws := none }

def connect : Client Page Unit := do
  let l ← link
  if l.reconnectBlocked || liveSocket l then pure ()
  else do
    setLink countConnection
    let r ← reply
    if r.constructs then setLink newSocket else setLink constructorFailed

def connectTimedOut (s : ℕ) : Client Page Unit := do
  let l ← link
  if l.ws = some s ∧ readyState l s = .connecting then do
    let _ ← releaseSocket s
    setLink (closeSocket s)
    setLink tryNextUrl
  else pure ()

def joinTimedOut (s : ℕ) : Client Page Unit := do
  let l ← link
  if l.ws = some s ∧ l.wsJoined = false then reconnectSocket s else pure ()

@[simps] def forgetReceiveTimer (l : Link) : Link := { l with receiveTimer := none }

def receiveTimedOut (s : ℕ) : Client Page Unit := do
  setLink forgetReceiveTimer
  let l ← link
  if l.ws = some s ∧ l.wsJoined = true then reconnectSocket s else pure ()

@[simps] def backOff (l : Link) : Link :=
  { l with reconnectTimer := none, reconnectDelayMs := min (l.reconnectDelayMs * 2) wsReconnectMaxDelayMs }

def reconnectNow : Client Page Unit := do
  setLink backOff
  connect

@[simps] def openedNow (s : ℕ) (l : Link) : Link :=
  { setSocket s (fun x => { x with opened := true }) (clearReceiveTimer (clearConnectTimer l)) with
    heartbeatIntervalMs := wsHeartbeatMaxIntervalMs, wsUrlAttempt := 0, wsJoined := false }

def onopen (s : ℕ) : Client Page Unit := do
  let w ← reads (fun w => w)
  if w.link.ws ≠ some s then pure ()
  else do
    setLink (openedNow s)
    let done ← sendControl "join" [("since_id", nat w.store.lastSeenId)]
    if done then setLink (armJoinTimer s) else setLink (closeSocket s)

def noteTraffic (s : ℕ) (l : Link) : Link := if l.wsJoined then armReceiveTimer s l else l

def onmessage (s : ℕ) (frame : Option Json) : Client Page Unit := do
  let l ← link
  if l.ws ≠ some s then pure ()
  else do
    setLink (noteTraffic s)
    handleIncoming frame

def hasOpened (l : Link) (s : ℕ) : Bool := (l.sockets[s]?.map Socket.opened).getD false

/-- An address at which a socket has opened is kept. -/
def afterClose (s : ℕ) (l : Link) : Link :=
  if l.reconnectBlocked then l
  else if hasOpened l s then scheduleReconnect { l with wsUrlAttempt := 0 }
  else tryNextUrl l

def onclose (s : ℕ) : Client Page Unit := do
  let l ← link
  if l.ws ≠ some s then pure ()
  else do
    let _ ← releaseSocket s
    setLink (afterClose s)

/-- It only shows that there was an error. -/
def onerror (_ : ℕ) : Client Page Unit := pure ()

@[simps] def hurry (l : Link) : Link := { clearReconnectTimer l with reconnectDelayMs := 1000 }

def onlineListener : Client Page Unit := do
  let l ← link
  if l.hasJoined && !l.reconnectBlocked && l.ws.all (fun s => readyState l s == .closed) then do
    setLink hurry
    connect
  else pure ()

@[simps] def hideLogin (l : Link) : Link := { l with loginShown := false }

/-- The callback of `enterChat`. -/
def enter : Client Page Unit := do
  setLink hideLogin
  let drawn ← onStore render
  if drawn then connect else pure ()

def runCallback : Callback → Client Page Unit
  | .enter => enter
  | .connect => connect
  | .connectTimeout s => connectTimedOut s
  | .joinTimeout s => joinTimedOut s
  | .receiveTimeout s => receiveTimedOut s
  | .reconnect => reconnectNow
  | .finishRecovery => onStore finishHistoryRecovery

@[simps] def allowConnecting (l : Link) : Link := { l with reconnectBlocked := false, hasJoined := true }

def enteredName (input : String) : String := truncateUtf8 (trim input) 31

def enterChat (input : String) : Client Page Unit :=
  if enteredName input = "" then pure ()
  else do
    setLink allowConnecting
    setStore (fun s => { s with nicknameInput := input })
    let _ ← onStore (writeStoredValue (fun storage => { storage with nickname := some (enteredName input) }))
    setStore (fun s => { s with onlineUsers := setName s.userId (str (enteredName input)) s.onlineUsers })
    setLink (setTimeout .enter 250)

def withUser (userId : String) (ids : List String) : List Json := ((userId :: ids).eraseDups).map str

def messageTargetForCurrentConversation (s : Store) : Json :=
  if isText "global" (conversationType s) then .obj [("all", .bool true), ("users", .arr [])]
  else if isText "group" (conversationType s) then
    .obj [("all", .bool false), ("users", .arr (withUser s.userId
      ((itemsOf (s.currentConversation.lastMember "members")).filterMap (fun m => text (some m)))))]
  else .obj [("all", .bool false), ("users", .arr (s.currentConversation.lastMember "id").toList)]

def buildOutgoingMessage (s : Store) (data : String) (now : Json) : Json :=
  .obj ([("type", str "text"), ("from", str s.userId), ("to", messageTargetForCurrentConversation s),
      ("name", str (getNickname s)), ("data", str data), ("timestamp", now)] ++
    (if isText "group" (conversationType s) then
      optionalMember "groupId" (s.currentConversation.lastMember "id") ++
        optionalMember "groupName" (s.currentConversation.lastMember "name")
    else []))

def sendOrQueue (message : Json) : Client Page Unit := do
  let l ← link
  let done ← (if l.wsJoined then sendRaw message else pure false)
  if done then pure () else onStore (queueMessage message)

def sendMessage (input : String) : Client Page Unit :=
  if trim input = "" then pure ()
  else do
    let s ← store
    let now ← nowS
    sendOrQueue (buildOutgoingMessage s (truncateUtf8 (trim input) 256) now)

def memberName (s : Store) (id : String) : Json :=
  orElse (nameOf s.onlineUsers id) (if id = s.userId then str (getNickname s) else sliceTo 8 id)

def joinedNames (names : List Json) : List Point := List.intercalate (pointsOf (str ", ")) (names.map pointsOf)

def createGroup (selectedIds : List String) : Client Page Unit :=
  if selectedIds = [] then pure ()
  else do
    let s ← store
    let r ← reply
    let now ← nowS
    let members := withUser s.userId selectedIds
    let groupId := "group-" ++ r.uuid
    let names := ((s.userId :: selectedIds).eraseDups).map (memberName s)
    let groupName := truncatePoints (joinedNames names) 63
    let data := ofPoints (pointsOf (str (getNickname s ++ " created ")) ++ pointsOf groupName)
    let conversation := Json.obj [("id", str groupId), ("name", groupName), ("type", str "group"),
      ("members", .arr members), ("lastPreview", data), ("updatedAt", now)]
    setStore (fun s => { s with
      conversations := assign groupId conversation s.conversations
      currentConversation := conversation })
    onStore saveConversations
    -- no stored message is in the group yet, so `renderMessages` has nothing to make and returns
    onStore renderConversationList
    sendOrQueue (.obj [("type", str "newGroup"), ("from", str s.userId), ("name", str (getNickname s)),
      ("groupId", str groupId), ("groupName", groupName),
      ("to", .obj [("all", .bool false), ("users", .arr members)]), ("data", data), ("timestamp", now)])

def openConversation (conversationId : String) : Client Store Unit := do
  writes (fun s => { s with
    currentConversation := (s.conversations.lookup conversationId).getD s.currentConversation })
  renderLast

/-- The end of `saveSettings` when the device restarts. -/
def restarting (l : Link) : Link :=
  match l.ws with
  | some s => closeSocket s { l with hasJoined := false }
  | none => { l with hasJoined := false }

/-- `closing` and `closed` are changes of a socket's state whose event is still to come. The
    browser fires an open event for a connecting socket; one for a socket that is no longer
    the current one may come at any time. -/
inductive Event where
  | callConnect
  | socketOpen (s : ℕ)
  | socketMessage (s : ℕ) (frame : Option Json)
  | socketError (s : ℕ)
  | socketClose (s : ℕ)
  | closing (s : ℕ)
  | closed (s : ℕ)
  | timer (t : Timer)
  | online
  | enterChat (nickname : String)
  | sendMessage (input : String)
  | createGroup (selectedIds : List String)
  | openConversation (conversationId : String)
  | startHistoryRecovery
  | restarting

def setReadyState (state : ReadyState) (s : ℕ) (l : Link) : Link :=
  setSocket s (fun x => { x with readyState := state }) l

def socketOpened (s : ℕ) : Client Page Unit := do
  let l ← link
  if readyState l s = .connecting then do
    setLink (setReadyState .opened s)
    onopen s
  else if l.ws ≠ some s then onopen s
  else pure ()

def closeFires (s : ℕ) (l : Link) : Link :=
  setSocket s (fun x => { x with readyState := .closed, closeFired := true }) l

def socketClosed (s : ℕ) : Client Page Unit := do
  setLink (closeFires s)
  onclose s

def timerFired (t : Timer) : Client Page Unit := do
  let l ← link
  if t ∈ l.timers then do
    setLink (clearTimeout (some t))
    runCallback t.callback
  else pure ()

def handle : Event → Client Page Unit
  | .callConnect => connect
  | .socketOpen s => socketOpened s
  | .socketMessage s frame => onmessage s frame
  | .socketError s => onerror s
  | .socketClose s => socketClosed s
  | .closing s => setLink (closeSocket s)
  | .closed s => setLink (setReadyState .closed s)
  | .timer t => timerFired t
  | .online => onlineListener
  | .enterChat nickname => do
    let l ← link
    if l.loginShown then enterChat nickname else pure ()
  | .sendMessage input => sendMessage input
  | .createGroup ids => createGroup ids
  | .openConversation id => onStore (openConversation id)
  | .startHistoryRecovery => startHistoryRecovery
  | .restarting => setLink restarting

def freshLink (location : Location) : Link where
  location := location
  ws := none
  wsJoined := false
  hasJoined := false
  reconnectTimer := none
  connectTimer := none
  joinTimer := none
  receiveTimer := none
  heartbeatIntervalMs := wsHeartbeatMaxIntervalMs
  reconnectDelayMs := 1000
  wsUrlAttempt := 0
  wsConnectionSequence := 0
  reconnectBlocked := false
  loginShown := true
  sockets := []
  timers := []
  nextTimer := 1
  sent := []

/-- A tab shows a page until it unloads. -/
structure Tab where
  page : Page
  running : Bool

def Tab.exec (m : Client Page Unit) (env : ℕ → Reply) (w : Page) : Tab :=
  ⟨(m env w).world, (m env w).result.isSome⟩

def freshPage (location : Location) (w : Page) : Page :=
  ⟨freshStore w.store.storage w.store.pruned, freshLink location⟩

/-- A page that is loaded finds the storage the page before has left. -/
def load (location : Location) (env : ℕ → Reply) (t : Tab) : Tab :=
  Tab.exec (onStore startStore) env (freshPage location t.page)

def step (e : Event) (env : ℕ → Reply) (t : Tab) : Tab :=
  if t.running then Tab.exec (handle e) env t.page else t

end EspWebChat.ClientSocket
