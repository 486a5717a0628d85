import EspWebChat.History
import EspWebChat.JsonGate

set_option autoImplicit false

/-! # `chat/protocol.c` -/
namespace EspWebChat.Protocol
open JsonTree ClientSlots Interruptible ServerWorld Sessions History JsonGate

variable {cfg : Config}

def maxRequestIdLen : ℕ := 63
def maxGroupIdLen : ℕ := 63
def maxGroupNameLen : ℕ := 63
def maxTypeLen : ℕ := 24

def isTrue : Option Json → Bool
  | some (.bool b) => b
  | _ => false

def isBool : Json → Bool
  | .bool _ => true
  | _ => false

/-- The member of that name, added with a default value when it is missing; the second
    component is the object afterwards. `none`: the allocation of the default failed. -/
def memberOrDefault (object : Json) (key : String) (default : Json) : Server cfg (Option (Json × Json)) :=
  match object.member key with
  | some v => pure (some (v, object))
  | none => do
    let added ← allocates
    pure (if added then some (default, object.append key default) else none)

def validTargets (cfg : Config) (users : Json) : Bool :=
  users.isArray && decide (users.items.length ≤ cfg.maxClients + 1) &&
    users.items.all (fun user => jsonStringInRange (some user) maxUserIdLen false)

/-- `validate_to_object` fills in defaults: the second component is the object it leaves. -/
def validateToObject (root : Json) : Server cfg (Bool × Json) := do
  let found ← memberOrDefault root "to" (.obj [])
  match found with
  | none => pure (false, root)
  | some (target, root) =>
    if !target.isObject then pure (false, root)
    else do
      let found ← memberOrDefault target "all" (.bool false)
      match found with
      | none => pure (false, root)
      | some (all, target) =>
        if !isBool all then pure (false, root.set "to" target)
        else do
          let found ← memberOrDefault target "users" (.arr [])
          match found with
          | none => pure (false, root.set "to" target)
          | some (users, target) =>
            if !validTargets cfg users then pure (false, root.set "to" target)
            else pure (isTrue (some all) || !users.items.isEmpty, root.set "to" target)

def validateGroupFields (message : Json) (required : Bool) : Bool :=
  let groupId := message.member "groupId"
  let groupName := message.member "groupName"
  if !required && groupId.isNone && groupName.isNone then true
  else jsonStringInRange groupId maxGroupIdLen false && jsonStringInRange groupName maxGroupNameLen false

def isObjectItem : Option Json → Bool
  | some j => j.isObject
  | none => false

def itemMember (item : Option Json) (key : String) : Option Json := item.bind (fun j => j.member key)

def messageVisibleToUser (message : Json) (userId : String) : Bool :=
  if !message.isObject || userId == "" then false
  else if (message.member "from").any (isString userId) then true
  else
    let target := message.member "to"
    if !isObjectItem target then false
    else if isTrue (itemMember target "all") then true
    else jsonArrayContainsString (itemMember target "users") userId

/-- The id, when the item is a number the protocol accepts as one. -/
def jsonSafeMessageId (item : Option Json) : Option ℕ := (numberValue item).bind (safeInteger 1)

def sendErrorAndClose (fd : ℤ) (code message : String) : Server cfg EspErr := do
  let ret ← chatWsSendError fd code message
  chatWsCloseClient fd
  pure (if ret = .ok then .invalidState else ret)

/-- The send loop of `relay_payload_to_targets`: the first error, if any. -/
def relayToAll (payload : Json) : List ℤ → Server cfg EspErr
  | [] => pure .ok
  | fd :: fds => do
    let ret ← chatWsSendText fd payload
    if ret = .ok then relayToAll payload fds
    else do
      chatWsCloseClient fd
      let _ ← relayToAll payload fds
      pure ret

def relayTarget (sendAll : Bool) (users : Option Json) (s : ClientSlot) : Bool :=
  s.active && s.joined && s.userId != "" && (sendAll || jsonArrayContainsString users s.userId)

def hasItems : Option Json → Bool
  | some (.arr items) => !items.isEmpty
  | _ => false

def relayPayloadToTargets (target : Json) (payload : Json) : Server cfg EspErr :=
  if !target.isObject then pure .invalidArg
  else
    let sendAll := isTrue (target.member "all")
    let users := target.member "users"
    if !sendAll && !hasItems users then pure .invalidArg
    else do
      let table ← slots
      relayToAll payload ((List.finRange cfg.maxClients).filterMap (fun i =>
        if relayTarget sendAll users (table i) then some (table i).fd else none))

def requireJoinedIdentity (fd : ℤ) (root : Json) : Server cfg EspErr := do
  let sender := stringInRange (root.member "from") maxUserIdLen false
  let identity ← chatSessionsCheckIdentity fd sender
  if identity = .notJoined then
    sendErrorAndClose fd "not_joined" "Join before sending this message"
  else if sender.isNone || identity != .ok then
    sendErrorAndClose fd "bad_identity" "Message sender does not match the joined user"
  else do
    chatSessionsUpdateTimeSample fd root
    pure .ok

/-- What follows a successful `chat_sessions_update_identity`. -/
def syncJoined (fd : ℤ) (root : Json) (sinceId : ℕ) : Server cfg EspErr := do
  chatSessionsUpdateTimeSample fd root
  let replayed ← chatHistorySendToClient fd sinceId
  let informed ← (if replayed = .ok then chatHistorySendInfoToClient fd else pure replayed)
  let synced ← (if informed = .ok then chatSessionsSendOnlineUsersToClient fd else pure informed)
  if synced ≠ .ok then do
    chatWsCloseClient fd
    pure synced
  else do
    let _ ← chatSessionsBroadcastOnlineUsers
    pure .ok

def handleJoinMessage (fd : ℤ) (root : Json) : Server cfg EspErr :=
  match stringInRange (root.member "from") maxUserIdLen false,
      stringInRange (root.member "name") maxNameLen false with
  | some sender, some name =>
    match chatHistoryParseSinceId root with
    | none => sendErrorAndClose fd "bad_since_id" "since_id must be a safe non-negative integer"
    | some sinceId => do
      let identity ← chatSessionsCheckIdentity fd (some sender)
      if identity = .mismatch then
        sendErrorAndClose fd "bad_identity" "Join identity cannot change on an open connection"
      else do
        let ready ← chatHistoryEnsureIdState
        if ready ≠ .ok then
          sendErrorAndClose fd "server_busy" "Message ID storage is temporarily unavailable"
        else do
          let updated ← chatSessionsUpdateIdentity fd sender name
          if !updated then
            sendErrorAndClose fd "not_registered" "WebSocket client slot was not found"
          else syncJoined fd root sinceId
  | _, _ => sendErrorAndClose fd "bad_join" "Join requires valid from and name fields"

/-- Store, broadcast, and announce the new history boundary. -/
def publishMessage (fd : ℤ) (root : Json) : Server cfg EspErr := do
  let (ret, stored) ← chatHistoryFinalizeAndStoreMessage root
  match stored with
  | none =>
    if ret = .invalidSize then chatWsSendError fd "id_exhausted" "Message id space is exhausted"
    else chatWsSendError fd "server_busy" "Unable to persist message id"
  | some payload => do
    let closed ← chatWsBroadcast payload
    let closedToo ← chatHistoryBroadcastInfo
    if closed || closedToo then do
      let _ ← chatSessionsBroadcastOnlineUsers
      pure .ok
    else pure .ok

def handleChatMessage (fd : ℤ) (type : String) (root : Json) : Server cfg EspErr :=
  if !jsonStringInRange (root.member "from") maxUserIdLen false ||
      !jsonStringInRange (root.member "name") maxNameLen false then
    chatWsSendError fd "bad_message" "Message requires valid from and name fields"
  else if !validateGroupFields root (type == "newGroup") then
    chatWsSendError fd "bad_group" "Group metadata requires valid groupId and groupName"
  else if type = "text" then
    if !jsonStringInRange (root.member "data") cfg.maxTextBytes false then
      chatWsSendError fd "bad_text" "Text message is empty or too long"
    else do
      let (valid, root) ← validateToObject root
      if !valid then
        chatWsSendError fd "bad_target" "Message target must be all users or a non-empty user list"
      else publishMessage fd root
  else if type = "newGroup" then
    if !jsonStringInRange (root.member "data") cfg.maxTextBytes true then
      chatWsSendError fd "bad_group" "Group creation requires groupId, groupName, data, and target users"
    else do
      let (valid, root) ← validateToObject root
      if !valid then
        chatWsSendError fd "bad_group" "Group creation requires groupId, groupName, data, and target users"
      else publishMessage fd root
  else chatWsSendError fd "unknown_type" "Unsupported chat message type"

/-- The second component is the message object with its target defaults filled in. -/
def validateHistoryMessageObject (message : Option Json) : Server cfg (Bool × Json) :=
  match message with
  | none => pure (false, .null)
  | some message =>
    if !message.isObject then pure (false, message)
    else
      match jsonSafeMessageId (message.member "id"), numberValue (message.member "timestamp"),
          stringInRange (message.member "type") maxTypeLen false with
      | some _, some _, some type =>
        if !jsonStringInRange (message.member "from") maxUserIdLen false ||
            !jsonStringInRange (message.member "name") maxNameLen false then pure (false, message)
        else do
          let (valid, message) ← validateToObject message
          if !valid || !validateGroupFields message (type == "newGroup") then pure (false, message)
          else if type = "text" then
            pure (jsonStringInRange (message.member "data") cfg.maxTextBytes false, message)
          else if type = "newGroup" then
            pure (jsonStringInRange (message.member "data") cfg.maxTextBytes true, message)
          else pure (false, message)
      | _, _, _ => pure (false, message)

def targetVisible (message : Json) (target : Json) : Bool :=
  match stringInRange (some target) maxUserIdLen false with
  | some userId => messageVisibleToUser message userId
  | none => false

def historyResponseTargetsMatchMessage (root : Json) (message : Json) : Bool :=
  let target := root.member "to"
  let users := if isObjectItem target then itemMember target "users" else none
  match users with
  | some (.arr items) => !items.isEmpty && items.all (targetVisible message)
  | _ => false

def handleHistoryRequestMessage (fd : ℤ) (root : Json) : Server cfg EspErr :=
  match jsonSafeMessageId (root.member "restore_before_id") with
  | none => chatWsSendError fd "bad_history_request" "History request is invalid"
  | some requested =>
    if !jsonStringInRange (root.member "from") maxUserIdLen false ||
        !jsonStringInRange (root.member "name") maxNameLen false ||
        !jsonStringInRange (root.member "requestId") maxRequestIdLen false ||
        decide (requested ≤ 1) then
      chatWsSendError fd "bad_history_request" "History request is invalid"
    else do
      let allowed ← chatHistoryCurrentRestoreBeforeId
      let before := min requested allowed
      if before ≤ 1 then
        chatWsSendError fd "no_restorable_history" "No older server history boundary is available"
      else do
        let added ← allocates
        if !added then chatWsSendError fd "server_busy" "Unable to relay history request"
        else do
          let printed ← printUnformatted
            ((root.delete "restore_before_id").append "restore_before_id" (natJson before))
          match printed with
          | none => chatWsSendError fd "server_busy" "Unable to relay history request"
          | some payload => do
            let closed ← chatWsBroadcast payload
            if closed then do
              let _ ← chatSessionsBroadcastOnlineUsers
              pure .ok
            else pure .ok

def badHistoryResponse (fd : ℤ) (message : String) : Server cfg EspErr :=
  chatWsSendError fd "bad_history_response" message

def handleHistoryResponseMessage (fd : ℤ) (root : Json) : Server cfg EspErr :=
  if !jsonStringInRange (root.member "from") maxUserIdLen false ||
      !jsonStringInRange (root.member "name") maxNameLen false ||
      !jsonStringInRange (root.member "requestId") maxRequestIdLen false then
    badHistoryResponse fd "History response is missing sender fields"
  else do
    let (valid, root) ← validateToObject root
    if !valid then badHistoryResponse fd "History response must target specific users"
    else if isTrue (itemMember (root.member "to") "all") then
      badHistoryResponse fd "History response must target specific users"
    else do
      let (valid, message) ← validateHistoryMessageObject (root.member "message")
      if !valid then badHistoryResponse fd "History response contains an invalid message"
      else do
        let root := root.set "message" message
        let responseId := (jsonSafeMessageId (message.member "id")).getD 0
        let restoreBeforeId ← chatHistoryCurrentRestoreBeforeId
        if restoreBeforeId ≤ responseId then
          badHistoryResponse fd "History response is not older than the server boundary"
        else if !historyResponseTargetsMatchMessage root message then
          badHistoryResponse fd "History response is not visible to the requested user"
        else do
          let printed ← printUnformatted root
          match printed with
          | none => chatWsSendError fd "server_busy" "Unable to relay history response"
          | some payload => do
            let ret ← relayPayloadToTargets ((root.member "to").getD .null) payload
            if ret ≠ .ok then do
              let _ ← chatSessionsBroadcastOnlineUsers
              chatWsSendError fd "relay_failed" "Unable to relay history response"
            else pure .ok

def handleTyped (fd : ℤ) (type : String) (root : Json) : Server cfg EspErr :=
  if type = "getOnlineUser" then chatSessionsSendOnlineUsersToClient fd
  else if type = "text" ∨ type = "newGroup" then handleChatMessage fd type root
  else if type = "historyRequest" then handleHistoryRequestMessage fd root
  else if type = "historyResponse" then handleHistoryResponseMessage fd root
  else chatWsSendError fd "unknown_type" "Unsupported message type"

def chatProtocolHandleJson (fd : ℤ) (root : Json) : Server cfg EspErr :=
  match stringInRange (root.member "type") maxTypeLen false with
  | none => do
    let joined ← chatSessionsIsJoined fd
    if !joined then sendErrorAndClose fd "bad_type" "Message type is required"
    else chatWsSendError fd "bad_type" "Message type is required"
  | some type =>
    if type = "pong" then do
      let ret ← requireJoinedIdentity fd root
      if ret ≠ .ok then pure ret
      else do
        chatSessionsMarkAlive fd
        pure .ok
    else if type = "join" then handleJoinMessage fd root
    else do
      let ret ← requireJoinedIdentity fd root
      if ret ≠ .ok then pure ret
      else handleTyped fd type root

end EspWebChat.Protocol
