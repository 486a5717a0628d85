import EspWebChat.Protocol

set_option autoImplicit false

/-!
# The handlers of `server/websocket_server.c` and the start of `main.c`

The entry points the HTTP server calls, and a node that boots, serves sessions and loses
power. A descriptor is open from the session's open callback to its close callback, and is
given out again only after that.
-/
namespace EspWebChat.WebSocketServer
open JsonTree CircularBuffer ClientSlots Interruptible ServerWorld Sessions History JsonGate
open Protocol MessageIdStore

variable {cfg : Config}

inductive FrameType where
  | continuation
  | text
  | binary
  | close
  | ping
  | pong
  deriving DecidableEq, Repr

/-- A frame and the results of the two calls of `httpd_ws_recv_frame` that read it. -/
structure Frame where
  type : FrameType
  final : Bool
  payload : List UInt8
  probe : EspErr
  receive : EspErr

def markBrokenSession (fd : ℤ) : Server cfg Unit := do
  let wasJoined ← chatSessionsMarkClosing fd
  if wasJoined then do
    let _ ← chatSessionsBroadcastOnlineUsers
    pure ()
  else pure ()

def handlePong (fd : ℤ) (final : Bool) : Server cfg EspErr := do
  let joined ← chatSessionsIsJoined fd
  if !final || !joined then do
    chatWsCloseClient fd
    pure .ok
  else do
    chatSessionsMarkAlive fd
    pure .ok

def handleEmpty (fd : ℤ) (isText : Bool) : Server cfg EspErr := do
  let _ ← chatWsSendError fd (if isText then "bad_json" else "bad_frame")
    (if isText then "Invalid JSON object" else "Only text WebSocket frames are supported")
  let joined ← chatSessionsIsJoined fd
  if !isText || !joined then do
    chatWsCloseClient fd
    pure .ok
  else pure .ok

def handleText (cJSONParse : CJSONParse) (fd : ℤ) (payload : List UInt8) : Server cfg EspErr :=
  match chatJsonParseObject cJSONParse payload with
  | none => do
    let _ ← chatWsSendError fd "bad_json" "Invalid JSON object"
    let joined ← chatSessionsIsJoined fd
    if !joined then do
      chatWsCloseClient fd
      pure .ok
    else pure .ok
  | some root => chatProtocolHandleJson fd root

/-- `chat_ws_handler` after the second receive call succeeded. -/
def handleReceived (cJSONParse : CJSONParse) (fd : ℤ) (frame : Frame) : Server cfg EspErr :=
  if frame.type = .close then do
    markBrokenSession fd
    pure .ok
  else if frame.type = .pong then handlePong fd frame.final
  else if frame.type ≠ .text ∨ frame.final = false then do
    let _ ← chatWsSendError fd "bad_frame" "Only text WebSocket frames are supported"
    chatWsCloseClient fd
    pure .ok
  else handleText cJSONParse fd frame.payload

/-- `chat_ws_handler` once the slot is known to be usable. -/
def handleFrame (cJSONParse : CJSONParse) (fd : ℤ) (frame : Frame) : Server cfg EspErr :=
  if frame.probe ≠ .ok then do
    markBrokenSession fd
    pure frame.probe
  else if frame.payload = [] ∧ frame.type = .pong then handlePong fd frame.final
  else if frame.payload = [] then handleEmpty fd (decide (frame.type = .text) && frame.final)
  else if cfg.maxWsPayloadBytes < frame.payload.length then do
    let _ ← chatWsSendError fd "payload_too_large" "WebSocket payload is too large"
    markBrokenSession fd
    pure .fail
  else do
    let buffer ← allocates
    if !buffer then pure .noMem
    else if frame.receive ≠ .ok then do
      markBrokenSession fd
      pure frame.receive
    else handleReceived cJSONParse fd frame

def chatWsHandler (cJSONParse : CJSONParse) (fd : ℤ) (frame : Frame) : Server cfg EspErr := do
  let ready ← chatSessionsEnsureSlot fd
  if !ready then pure .fail
  else handleFrame cJSONParse fd frame

def chatWsPreHandshakeHandler (fd : ℤ) : Server cfg EspErr := do
  let ready ← chatSessionsEnsureSlot fd
  pure (if ready then .ok else .noMem)

def chatWsSessionCloseHandler (fd : ℤ) : Server cfg Unit := do
  let removed ← chatSessionsRemoveByFd fd
  if removed then do
    let _ ← chatSessionsBroadcastOnlineUsers
    pure ()
  else pure ()

/-! The start -/
def startContext (state : MessageIdState) (w : World cfg) : World cfg :=
  let w := { w with ctx := { AppContext.zero cfg with
    messageIdCounter := state.currentId
    messageIdCounterValid := state.counterLoaded
    bootStartId := state.bootStartId } }
  if state.counterLoaded then w.record (.idsLoaded state.currentId) else w

def appMain : Server cfg Unit := do
  let (_, state) ← chatMessageIdsLoad
  writes (startContext state)
  chatSessionsStartHeartbeat

structure Node (cfg : Config) where
  world : World cfg
  powered : Bool
  openFds : List ℤ

/-- What the flash holds when the firmware starts for the first time. -/
structure InitialFlash where
  store : NvsStore
  safe : ∀ v ∈ store.current, v ≤ chatMessageMaxSafeId

def Node.initial (flash : InitialFlash) : Node cfg :=
  ⟨⟨AppContext.zero cfg, ⟨flash.store, flash.store⟩, []⟩, false, []⟩

/-- Every event carries the replies its computation will get; one that cuts the power leaves
    the node off until the next `powerOn`. -/
inductive Event where
  | powerOn (env : ℕ → Reply)
  | openSession (fd : ℕ)
  | handshake (fd : ℤ) (env : ℕ → Reply)
  | frame (fd : ℤ) (frame : Frame) (env : ℕ → Reply)
  | sweep (env : ℕ → Reply)
  | closeSession (fd : ℤ) (env : ℕ → Reply)

def Node.exec {α : Type} (s : Node cfg) (m : Server cfg α) (env : ℕ → Reply) : Node cfg :=
  { s with world := (m env s.world).world, powered := (m env s.world).result.isSome }

/-- RAM is lost, the flash is not. -/
def reset (w : World cfg) : World cfg :=
  { ctx := AppContext.zero cfg
    nvs := ⟨w.nvs.flash, w.nvs.flash⟩
    trace := w.trace ++ [.booted] }

def Node.serves (s : Node cfg) (fd : ℤ) : Prop := s.powered = true ∧ fd ∈ s.openFds

instance (s : Node cfg) (fd : ℤ) : Decidable (s.serves fd) :=
  inferInstanceAs (Decidable (_ ∧ _))

def step (cJSONParse : CJSONParse) (s : Node cfg) : Event → Node cfg
  | .powerOn env => Node.exec ⟨reset s.world, true, []⟩ appMain env
  | .openSession fd =>
    if s.powered ∧ (fd : ℤ) ∉ s.openFds then { s with openFds := (fd : ℤ) :: s.openFds } else s
  | .handshake fd env => if s.serves fd then s.exec (chatWsPreHandshakeHandler fd) env else s
  | .frame fd frame env => if s.serves fd then s.exec (chatWsHandler cJSONParse fd frame) env else s
  | .sweep env => if s.powered then s.exec heartbeatSweepWork env else s
  | .closeSession fd env =>
    if s.serves fd then
      { s.exec (chatWsSessionCloseHandler fd) env with openFds := s.openFds.filter (fun f => f != fd) }
    else s

def run (cJSONParse : CJSONParse) (s : Node cfg) (events : List Event) : Node cfg :=
  events.foldl (step cJSONParse) s

end EspWebChat.WebSocketServer
