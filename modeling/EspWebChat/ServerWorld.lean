import EspWebChat.CircularBuffer
import EspWebChat.CjsonPrinter
import EspWebChat.ClientSlots
import EspWebChat.Interruptible

set_option autoImplicit false

/-!
# The world of the server

`app_context_t`, the NVS partition and a trace of what happened. Everything the firmware
learns from outside comes in `Reply`s, one for each call: results of NVS, sockets and
allocations, the clocks, and whether the device still has power.
All modelled code runs on the HTTP task, so a computation is never interleaved with another.
-/
namespace EspWebChat.ServerWorld
open JsonTree CircularBuffer CjsonPrinter ClientSlots Interruptible

/-- The Kconfig options the modelled code reads, and how its JSON library prints numbers. -/
structure Config where
  maxClients : ℕ
  maxMessages : ℕ
  heartbeatIntervalS : ℤ
  maxTextBytes : ℕ
  maxWsPayloadBytes : ℕ
  printer : Printer
  maxClients_pos : 0 < maxClients
  maxMessages_pos : 0 < maxMessages

/-- The defaults of `Kconfig.projbuild`. -/
def Config.default (printer : Printer) : Config := ⟨10, 100, 30, 256, 1024, printer, by decide, by decide⟩

def chatMessageMaxSafeId : ℕ := 9007199254740991

inductive EspErr where
  | ok
  | fail
  | noMem
  | invalidArg
  | invalidState
  | invalidSize
  | timeout
  | nvsNotFound
  | other (code : ℤ)
  deriving DecidableEq, Repr

/-- A failure of an NVS call. That a key is missing is an answer, not a failure. -/
abbrev NvsError := { e : EspErr // e ≠ .ok ∧ e ≠ .nvsNotFound }

/-- `written`: the new value may be in flash although the call failed or no commit has
    followed yet. -/
structure NvsReply where
  error : Option NvsError
  written : Bool

structure Reply where
  powered : Bool
  nvs : NvsReply
  alloc : Bool
  isWebsocket : Bool
  send : EspErr
  uptimeS : ℤ
  rtcS : ℤ
  locked : Bool
  uptimeS_int64 : |uptimeS| ≤ 2 ^ 63

theorem zero_int64 : |(0 : ℤ)| ≤ 2 ^ 63 := by decide

/-- A device that has just been switched on, where nothing fails. -/
def Reply.calm (rtcS : ℤ) : Reply := ⟨true, ⟨none, true⟩, true, true, .ok, 0, rtcS, true, zero_int64⟩

structure NvsStore where
  current : Option ℕ
  bootStart : Option ℕ
  deriving DecidableEq, Repr

/-- `cached` is what `nvs_get_*` reads, `flash` what a power loss leaves. -/
structure Nvs where
  cached : NvsStore
  flash : NvsStore
  deriving DecidableEq, Repr

structure Message where
  payload : Json
  id : ℕ

/-- An attempt to send a text frame; `delivered` when the send call reported success. -/
structure Delivery where
  fd : ℤ
  payload : Json
  delivered : Bool

inductive TraceEvent where
  | booted
  | idsLoaded (current : ℕ)
  | bound (fd : ℤ) (userId : String)
  | stored (m : Message)
  | sent (d : Delivery)

/-- An empty cell of `messageBuffer` is a slot whose `payload` is NULL. -/
structure AppContext (cfg : Config) where
  clientSlots : SlotTable cfg.maxClients
  lastHeartbeatSweepS : ℤ
  messageBuffer : Buffer Message cfg.maxMessages
  messageIdCounter : ℕ
  messageIdCounterValid : Bool
  bootStartId : ℕ

/-- `memset(&g_app_context, 0, sizeof(g_app_context))`. -/
def AppContext.zero (cfg : Config) : AppContext cfg :=
  ⟨fun _ => zeroSlot, 0, Buffer.empty cfg.maxMessages_pos, 0, false, 0⟩

/-- `trace` is the history of all boots, oldest event first. -/
structure World (cfg : Config) where
  ctx : AppContext cfg
  nvs : Nvs
  trace : List TraceEvent

abbrev Server (cfg : Config) (α : Type) := Comp Reply (World cfg) α

variable {cfg : Config}

def World.record (w : World cfg) (e : TraceEvent) : World cfg := { w with trace := w.trace ++ [e] }

def World.setSlots (w : World cfg) (slots : SlotTable cfg.maxClients) : World cfg :=
  { w with ctx := { w.ctx with clientSlots := slots } }

def reply : Server cfg Reply := ask Reply.powered

/-- Whether one allocation (of an item, a member or a printed payload) succeeded. -/
def allocates : Server cfg Bool := do
  let r ← reply
  pure r.alloc

def slots : Server cfg (SlotTable cfg.maxClients) := reads (fun w => w.ctx.clientSlots)

def writeSlots (s : SlotTable cfg.maxClients) : Server cfg Unit := writes (fun w => w.setSlots s)

def deviceUptimeS : Server cfg ℤ := do
  let r ← reply
  pure r.uptimeS

def inEpoch (t : ℤ) : Bool := decide (validEpochStartS ≤ t) && decide (t ≤ validEpochEndS)

def currentTimestampS : Server cfg ℤ := do
  let r ← reply
  if inEpoch r.rtcS then pure r.rtcS
  else do
    let uptime ← deviceUptimeS
    -- `consensus_offset_s` gives up when the mutex is not free within 20 ms.
    let lock ← reply
    let table ← slots
    match if lock.locked then consensusOffsetS (timeOffsets table) else none with
    | some offset => pure (if inEpoch (uptime + offset) then uptime + offset else uptime)
    | none => pure uptime

/-- `cJSON_Add…ToObject` with the result ignored: a failed allocation drops the member. -/
def addMember (ms : Members) (key : String) (v : Json) : Server cfg Members := do
  let done ← allocates
  pure (if done then ms ++ [(key, v)] else ms)

def natJson (k : ℕ) : Json := .num (.fin k)
def intJson (k : ℤ) : Json := .num (.fin k)

/-- `cJSON_PrintUnformatted`. The printed text is represented by the tree that is read from it. -/
def printUnformatted (j : Json) : Server cfg (Option Json) := do
  let done ← allocates
  pure (if done then some (cfg.printer.printed j) else none)

end EspWebChat.ServerWorld
