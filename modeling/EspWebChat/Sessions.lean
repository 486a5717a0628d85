import EspWebChat.ServerWorld

set_option autoImplicit false

/-!
# Sending, closing and the session operations

The sending half of `server/websocket_server.c` and `chat/sessions.c`. All of it runs on the
HTTP task with a started server, so the branches for other tasks (`httpd_queue_work`,
`httpd_sess_trigger_close`) and for `ctx->server == NULL` are not part of the model.
-/
namespace EspWebChat.Sessions
open JsonTree ClientSlots Interruptible ServerWorld

variable {cfg : Config}

def chatWsSendText (fd : ℤ) (payload : Json) : Server cfg EspErr :=
  if fd < 0 then pure .invalidArg
  else do
    let r ← reply
    if !r.isWebsocket then pure .invalidState
    else do
      writes (fun w => w.record (.sent ⟨fd, payload, decide (r.send = .ok)⟩))
      pure r.send

def chatSessionsMarkClosing (fd : ℤ) : Server cfg Bool := do
  let table ← slots
  writeSlots (markClosing table fd).2
  pure (markClosing table fd).1

/-- On the HTTP task the socket is shut down and its slot stays until the close callback. -/
def chatWsCloseClient (fd : ℤ) : Server cfg Unit :=
  if fd < 0 then pure ()
  else do
    let _ ← chatSessionsMarkClosing fd
    pure ()

def chatWsSendError (fd : ℤ) (code message : String) : Server cfg EspErr := do
  let created ← allocates
  if !created then pure .noMem
  else do
    let ms ← addMember [] "type" (.str "error")
    let ms ← addMember ms "from" (.str "server")
    let ms ← addMember ms "code" (.str code)
    let ms ← addMember ms "data" (.str message)
    let now ← currentTimestampS
    let ms ← addMember ms "timestamp" (intJson now)
    let printed ← printUnformatted (.obj ms)
    match printed with
    | none => pure .noMem
    | some payload => chatWsSendText fd payload

/-- The send loop of `chat_ws_broadcast`: whether a client was closed. -/
def sendToAll (payload : Json) : List ℤ → Server cfg Bool
  | [] => pure false
  | fd :: fds => do
    let ret ← chatWsSendText fd payload
    if ret = .ok then sendToAll payload fds
    else do
      chatWsCloseClient fd
      let _ ← sendToAll payload fds
      pure true

def chatWsBroadcast (payload : Json) : Server cfg Bool := do
  let table ← slots
  sendToAll payload (receiverFds table)

def notifyStale : List ℤ → Server cfg Unit
  | [] => pure ()
  | fd :: fds => do
    let _ ← chatWsSendError fd "session_replaced" "This user connected from another browser session"
    chatWsCloseClient fd
    notifyStale fds

def chatSessionsUpdateIdentity (fd : ℤ) (userId name : String) : Server cfg Bool := do
  let now ← deviceUptimeS
  let table ← slots
  match bindIdentity now table fd userId name with
  | none => pure false
  | some b => do
    writes (fun w => (w.setSlots b.slots).record (.bound fd userId))
    notifyStale b.staleFds
    pure true

def chatSessionsEnsureSlot (fd : ℤ) : Server cfg Bool := do
  let now ← deviceUptimeS
  let table ← slots
  writeSlots (ensureSlot now table fd).2
  pure (ensureSlot now table fd).1

def chatSessionsIsJoined (fd : ℤ) : Server cfg Bool := reads (fun w => isJoined w.ctx.clientSlots fd)

def chatSessionsCheckIdentity (fd : ℤ) (userId : Option String) : Server cfg IdentityStatus :=
  reads (fun w => checkIdentity w.ctx.clientSlots fd userId)

/-- `(int64_t)valuedouble`: truncation towards zero. -/
def truncate (q : ℚ) : ℤ := q.num.tdiv q.den

def chatSessionsUpdateTimeSample (fd : ℤ) (root : Json) : Server cfg Unit :=
  match root.member "timestamp" with
  | some (.num (.fin q)) =>
    if q < validEpochStartS ∨ validEpochEndS < q then pure ()
    else do
      let uptime ← deviceUptimeS
      let table ← slots
      writeSlots (updateTimeSample table fd (truncate q - uptime))
  | _ => pure ()

def chatSessionsMarkAlive (fd : ℤ) : Server cfg Unit := do
  let table ← slots
  writeSlots (markAlive table fd)

def chatSessionsRemoveByFd (fd : ℤ) : Server cfg Bool := do
  let table ← slots
  writeSlots (removeByFd table fd).2
  pure (removeByFd table fd).1

/-! `chat_sessions_build_online_users_payload` -/
def listed (s : ClientSlot) : Bool := receives s && s.userId != ""

/-- One turn of the slot loop: the id for `to.users` and the entry for `data`. -/
def listUser (s : ClientSlot) (users data : List Json) : Server cfg (List Json × List Json) := do
  let idOk ← allocates
  let users := if idOk then users ++ [.str s.userId] else users
  let entryOk ← allocates
  if !entryOk then pure (users, data)
  else do
    let entry ← addMember [] "id" (.str s.userId)
    let entry ← addMember entry "name" (.str (if s.name = "" then "New User" else s.name))
    pure (users, data ++ [.obj entry])

def listUsers : List ClientSlot → List Json → List Json → Server cfg (List Json × List Json)
  | [], users, data => pure (users, data)
  | s :: rest, users, data => do
    let (users, data) ← listUser s users data
    listUsers rest users data

def chatSessionsBuildOnlineUsersPayload : Server cfg (Option Json) := do
  let created ← allocates
  if !created then pure none
  else do
    let ms ← addMember [] "type" (.str "onlineUsers")
    let ms ← addMember ms "from" (.str "server")
    let now ← currentTimestampS
    let ms ← addMember ms "timestamp" (intJson now)
    let toOk ← allocates
    let usersOk ← (if toOk then allocates else pure false)
    let dataOk ← allocates
    if !(toOk && usersOk && dataOk) then pure none
    else do
      let all ← addMember [] "all" (.bool true)
      let table ← slots
      let (users, data) ← listUsers (((List.finRange cfg.maxClients).map table).filter listed) [] []
      printUnformatted (.obj (ms ++
        [("to", .obj (("users", .arr users) :: all)), ("data", .arr data)]))

/-- The first argument counts the attempts left. Zero is the exit "did not converge". -/
def broadcastOnlineUsersAttempts : ℕ → Bool → Server cfg Bool
  | 0, anyClosed => pure anyClosed
  | k + 1, anyClosed => do
    let payload ← chatSessionsBuildOnlineUsersPayload
    match payload with
    | none => pure anyClosed
    | some p => do
      let closedClient ← chatWsBroadcast p
      if closedClient then broadcastOnlineUsersAttempts k true else pure anyClosed

def broadcastOnlineUsersNow : Server cfg Bool := broadcastOnlineUsersAttempts (cfg.maxClients + 1) false

def chatSessionsBroadcastOnlineUsers : Server cfg Bool := broadcastOnlineUsersNow

def chatSessionsSendOnlineUsersToClient (fd : ℤ) : Server cfg EspErr := do
  let payload ← chatSessionsBuildOnlineUsersPayload
  match payload with
  | none => do
    let ret ← chatWsSendError fd "server_busy" "Unable to build online user list"
    pure (if ret = .ok then .noMem else ret)
  | some p => chatWsSendText fd p

/-! `heartbeat_sweep_work` -/
def sweepTable (cfg : Config) (now : ℤ) (delayed : Bool) (table : SlotTable cfg.maxClients)
    (i : Fin cfg.maxClients) : SweepStep :=
  sweepSlot cfg.heartbeatIntervalS now delayed (table i)

def sweepFds (cfg : Config) (now : ℤ) (delayed : Bool) (table : SlotTable cfg.maxClients)
    (verdict : SweepVerdict) : List ℤ :=
  (List.finRange cfg.maxClients).filterMap (fun i =>
    if (sweepTable cfg now delayed table i).verdict = verdict then some (table i).fd else none)

def closeAll : List ℤ → Server cfg Unit
  | [] => pure ()
  | fd :: fds => do
    chatWsCloseClient fd
    closeAll fds

def pingPayload : Json := .obj [("type", .str "ping")]

def heartbeatSweepWork : Server cfg Unit := do
  let now ← deviceUptimeS
  let w ← reads id
  let delayed := decide (cfg.heartbeatIntervalS < now - w.ctx.lastHeartbeatSweepS)
  let table := w.ctx.clientSlots
  writes (fun w => { w with ctx := { w.ctx with
    lastHeartbeatSweepS := now
    clientSlots := fun i => (sweepTable cfg now delayed table i).slot } })
  closeAll (sweepFds cfg now delayed table .close)
  -- A failed ping closes the client like a failed broadcast.
  let closed ← sendToAll pingPayload (sweepFds cfg now delayed table .ping)
  let changed := (List.finRange cfg.maxClients).any (fun i => (sweepTable cfg now delayed table i).changed)
  if changed || closed then do
    let _ ← chatSessionsBroadcastOnlineUsers
    pure ()
  else pure ()

def chatSessionsStartHeartbeat : Server cfg Unit := do
  let now ← deviceUptimeS
  writes (fun w => { w with ctx := { w.ctx with lastHeartbeatSweepS := now } })

end EspWebChat.Sessions
