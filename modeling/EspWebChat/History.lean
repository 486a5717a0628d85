import EspWebChat.MessageIdStore
import EspWebChat.Sessions

set_option autoImplicit false

/-! # `chat/history.c` -/
namespace EspWebChat.History
open JsonTree CircularBuffer ClientSlots Interruptible ServerWorld Sessions MessageIdStore

variable {cfg : Config}

/-- `(double)(uint64_t)v == v` for a value between `low` and 2^53-1. -/
def safeInteger (low : ℚ) : Number → Option ℕ
  | .fin q => if low ≤ q ∧ q ≤ (chatMessageMaxSafeId : ℚ) ∧ q.den = 1 then some q.num.toNat else none
  | _ => none

def numberValue : Option Json → Option Number
  | some (.num n) => some n
  | _ => none

def chatHistoryParseSinceId (root : Json) : Option ℕ :=
  match (root.member "since_id").or (root.member "last_seen_id") with
  | none => some 0
  | some v => (numberValue (some v)).bind (safeInteger 0)

structure HistoryBounds where
  bootStartId : ℕ
  currentId : ℕ
  earliestId : ℕ
  latestId : ℕ
  restoreBeforeId : ℕ
  count : ℕ
  capacity : ℕ
  hasMoreBefore : Bool

/-- What the loop over the ring has found so far. -/
structure Scan where
  count : ℕ
  earliestId : ℕ
  latestId : ℕ

def scanCell (s : Scan) : Option Message → Scan
  | none => s
  | some m => {
      count := s.count + 1
      earliestId := if s.count = 0 ∨ m.id < s.earliestId then m.id else s.earliestId
      latestId := max s.latestId m.id }

def scanRing {n : ℕ} (ring : Buffer Message n) : Scan :=
  ((List.finRange n).map ring.cell).foldl scanCell ⟨0, 0, 0⟩

def chatHistoryFillBoundsLocked (ctx : AppContext cfg) : HistoryBounds :=
  let s := scanRing ctx.messageBuffer
  let restoreBeforeId := if 0 < s.count then s.earliestId else ctx.bootStartId
  { bootStartId := ctx.bootStartId
    currentId := ctx.messageIdCounter
    earliestId := s.earliestId
    latestId := s.latestId
    restoreBeforeId := restoreBeforeId
    count := s.count
    capacity := cfg.maxMessages
    hasMoreBefore := decide (1 < restoreBeforeId) }

def restoreBeforeId (ctx : AppContext cfg) : ℕ := (chatHistoryFillBoundsLocked ctx).restoreBeforeId

def chatHistoryCurrentRestoreBeforeId : Server cfg ℕ := reads (fun w => restoreBeforeId w.ctx)

def chatHistoryBuildInfoPayload : Server cfg (Option Json) := do
  let created ← allocates
  if !created then pure none
  else do
    let ms ← addMember [] "type" (.str "historyInfo")
    let ms ← addMember ms "from" (.str "server")
    let now ← currentTimestampS
    let ms ← addMember ms "timestamp" (intJson now)
    let ms ← addMember ms "heartbeat_interval_s" (intJson cfg.heartbeatIntervalS)
    let toOk ← allocates
    let usersOk ← (if toOk then allocates else pure false)
    if !(toOk && usersOk) then pure none
    else do
      let all ← addMember [] "all" (.bool true)
      let ms := ms ++ [("to", .obj (("users", .arr []) :: all))]
      let bounds ← reads (fun w => chatHistoryFillBoundsLocked w.ctx)
      let ms ← addMember ms "boot_start_id" (natJson bounds.bootStartId)
      let ms ← addMember ms "current_id" (natJson bounds.currentId)
      let ms ← addMember ms "earliest_id" (natJson bounds.earliestId)
      let ms ← addMember ms "latest_id" (natJson bounds.latestId)
      let ms ← addMember ms "restore_before_id" (natJson bounds.restoreBeforeId)
      let ms ← addMember ms "count" (natJson bounds.count)
      let ms ← addMember ms "capacity" (natJson bounds.capacity)
      let ms ← addMember ms "has_more_before" (.bool bounds.hasMoreBefore)
      printUnformatted (.obj ms)

def chatHistorySendInfoToClient (fd : ℤ) : Server cfg EspErr := do
  let payload ← chatHistoryBuildInfoPayload
  match payload with
  | none => do
    let ret ← chatWsSendError fd "server_busy" "History boundary is temporarily unavailable"
    pure (if ret = .ok then .noMem else ret)
  | some p => chatWsSendText fd p

def chatHistoryBroadcastInfo : Server cfg Bool := do
  let payload ← chatHistoryBuildInfoPayload
  match payload with
  | none => pure false
  | some p => chatWsBroadcast p

/-- The selection under the lock: the least id in `(cursor, replayUntil]`. -/
def nextReplay {n : ℕ} (ring : Buffer Message n) (cursor replayUntil : ℕ) : Option Message :=
  ((List.finRange n).map ring.cell).foldl (fun next cell =>
    match cell with
    | none => next
    | some m =>
      if cursor < m.id ∧ m.id ≤ replayUntil ∧ ∀ best ∈ next, m.id < best.id then some m else next) none

/-- The first argument counts the iterations left of `replayed < MAX_MESSAGES`. -/
def replayFrom (fd : ℤ) (replayUntil : ℕ) : ℕ → ℕ → Server cfg EspErr
  | 0, _ => pure .ok
  | k + 1, cursor =>
    if cursor < replayUntil then do
      let ring ← reads (fun w => w.ctx.messageBuffer)
      match nextReplay ring cursor replayUntil with
      | none => pure .ok
      | some m => do
        let copied ← allocates
        if !copied then do
          let ret ← chatWsSendError fd "server_busy" "Message history is temporarily unavailable"
          pure (if ret = .ok then .noMem else ret)
        else do
          let ret ← chatWsSendText fd m.payload
          if ret ≠ .ok then do
            chatWsCloseClient fd
            pure ret
          else replayFrom fd replayUntil k m.id
    else pure .ok

def chatHistorySendToClient (fd : ℤ) (sinceId : ℕ) : Server cfg EspErr := do
  let replayUntil ← reads (fun w => w.ctx.messageIdCounter)
  replayFrom fd replayUntil cfg.maxMessages sinceId

def adoptIdState (state : MessageIdState) (w : World cfg) : World cfg :=
  { w with ctx := { w.ctx with
      messageIdCounter := state.currentId
      bootStartId := state.bootStartId
      messageIdCounterValid := true } }.record (.idsLoaded state.currentId)

def ensureIdStateLocked : Server cfg EspErr := do
  let valid ← reads (fun w => w.ctx.messageIdCounterValid)
  if valid then pure .ok
  else do
    let (ret, state) ← chatMessageIdsLoad
    if !state.counterLoaded then pure (if ret = .ok then .invalidState else ret)
    else do
      writes (adoptIdState state)
      pure .ok

def chatHistoryEnsureIdState : Server cfg EspErr := ensureIdStateLocked

def storeMessage (m : Message) (w : World cfg) : World cfg :=
  { w with ctx := { w.ctx with
      messageIdCounter := m.id
      messageBuffer := w.ctx.messageBuffer.push m } }.record (.stored m)

/-- The object that is printed and stored: the sender's `id` and `timestamp` are replaced. -/
def finalized (root : Json) (id : ℕ) (timestamp : ℤ) : Json :=
  (((root.delete "id").delete "timestamp").append "id" (natJson id)).append "timestamp" (intJson timestamp)

def chatHistoryFinalizeAndStoreMessage (root : Json) : Server cfg (EspErr × Option Json) := do
  let ret ← ensureIdStateLocked
  if ret ≠ .ok then pure (ret, none)
  else do
    let ctx ← reads (fun w => w.ctx)
    if chatMessageMaxSafeId ≤ ctx.messageIdCounter then pure (.invalidSize, none)
    else do
      let id := ctx.messageIdCounter + 1
      let timestamp ← currentTimestampS
      let idAdded ← allocates
      let timestampAdded ← (if idAdded then allocates else pure false)
      if !timestampAdded then pure (.noMem, none)
      else do
        let printed ← printUnformatted (finalized root id timestamp)
        match printed with
        | none => pure (.noMem, none)
        | some payload => do
          let ret ← chatMessageIdsPersist id ctx.bootStartId
          if ret ≠ .ok then pure (ret, none)
          else do
            writes (storeMessage ⟨payload, id⟩)
            pure (.ok, some payload)

end EspWebChat.History
