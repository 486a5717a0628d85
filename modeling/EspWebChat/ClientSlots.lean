import Mathlib.Data.List.FinRange
import Mathlib.Data.Int.Notation
import Mathlib.Logic.Function.Basic
import EspWebChat.JsonTree

set_option autoImplicit false

/-!
# The client slot table

The parts of `chat/sessions.c` that run under `client_mutex`, as functions of the table.
The loops over the slots keep their order: `firstSlot` is a loop that breaks at its first
match, `lastSlot` one that goes on.
-/
namespace EspWebChat.ClientSlots
open JsonTree (strlen)

/-! `chat_config.h` -/
def timeSyncToleranceS : ℤ := 120
def wsJoinTimeoutS : ℤ := 10
def maxUserIdLen : ℕ := 63
def maxNameLen : ℕ := 31
def validEpochStartS : ℤ := 946684800
def validEpochEndS : ℤ := 4102444800

structure ClientSlot where
  fd : ℤ
  active : Bool
  closing : Bool
  joined : Bool
  isAlive : Bool
  timeOffsetValid : Bool
  timeOffsetS : ℤ
  registeredAtS : ℤ
  lastPingS : ℤ
  userId : String
  name : String
  deriving DecidableEq, Repr

def zeroSlot : ClientSlot := ⟨0, false, false, false, false, false, 0, 0, 0, "", ""⟩

abbrev SlotTable (n : ℕ) := Fin n → ClientSlot

variable {n : ℕ}

/-- `snprintf` into a buffer of `size` bytes. Every caller here has checked the length, so
    where the cut would fall inside a character does not matter. -/
def takeBytes : ℕ → List Char → List Char
  | _, [] => []
  | room, c :: cs => if c.utf8Size ≤ room then c :: takeBytes (room - c.utf8Size) cs else []

def copyBounded (size : ℕ) (s : String) : String := String.ofList (takeBytes (size - 1) s.toList)

theorem takeBytes_of_le (room : ℕ) (cs : List Char) (h : (cs.map Char.utf8Size).sum ≤ room) :
    takeBytes room cs = cs := by
  induction cs generalizing room with
  | nil => rfl
  | cons c cs ih =>
    simp only [List.map_cons, List.sum_cons] at h
    rw [takeBytes, if_pos (by omega), ih _ (by omega)]

theorem copyBounded_of_lt (size : ℕ) (s : String) (h : strlen s < size) : copyBounded size s = s := by
  rw [copyBounded, takeBytes_of_le _ _ (by change strlen s ≤ size - 1; omega), String.ofList_toList]

def firstSlot (p : ClientSlot → Bool) (slots : SlotTable n) : Option (Fin n) :=
  (List.finRange n).find? (fun i => p (slots i))

def lastSlot (p : ClientSlot → Bool) (slots : SlotTable n) : Option (Fin n) :=
  (List.finRange n).reverse.find? (fun i => p (slots i))

def updateFirst (p : ClientSlot → Bool) (f : ClientSlot → ClientSlot) (slots : SlotTable n) :
    SlotTable n :=
  match firstSlot p slots with
  | some i => Function.update slots i (f (slots i))
  | none => slots

def holdsFd (fd : ℤ) (s : ClientSlot) : Bool := s.active && s.fd == fd
def liveOn (fd : ℤ) (s : ClientSlot) : Bool := s.active && !s.closing && s.fd == fd
def joinedOn (fd : ℤ) (s : ClientSlot) : Bool := s.active && !s.closing && s.joined && s.fd == fd

/-- The condition under which a slot receives broadcasts. -/
def receives (s : ClientSlot) : Bool := s.active && !s.closing && s.joined

def clearSlotIdentity (_ : ClientSlot) : ClientSlot :=
  ⟨-1, false, false, false, false, false, 0, 0, 0, "", ""⟩

/-- The first component is `was_joined`. -/
def markSlotClosing (s : ClientSlot) : Bool × ClientSlot :=
  if !s.active then (false, s)
  else (s.joined, { s with
    closing := true, joined := false, isAlive := false, timeOffsetValid := false,
    timeOffsetS := 0, userId := "", name := "" })

def freshSlot (now : ℤ) (fd : ℤ) (s : ClientSlot) : ClientSlot :=
  { s with
    fd := fd, active := true, closing := false, joined := false, isAlive := true,
    timeOffsetValid := false, timeOffsetS := 0, registeredAtS := now, lastPingS := now,
    userId := "", name := copyBounded (maxNameLen + 1) "New User" }

def ensureSlot (now : ℤ) (slots : SlotTable n) (fd : ℤ) : Bool × SlotTable n :=
  match firstSlot (holdsFd fd) slots with
  | some i =>
    if (slots i).closing then (false, slots)
    else (true, Function.update slots i { slots i with isAlive := true })
  | none =>
    match firstSlot (fun s => !s.active) slots with
    | some i => (true, Function.update slots i (freshSlot now fd (slots i)))
    | none => (false, slots)

def boundSlot (now : ℤ) (fd : ℤ) (userId name : String) (s : ClientSlot) : ClientSlot :=
  let identityChanged := s.fd != fd || s.userId == "" || s.userId != userId
  { s with
    fd := fd, active := true, closing := false, joined := true, isAlive := true,
    registeredAtS := now, lastPingS := now,
    timeOffsetValid := if identityChanged then false else s.timeOffsetValid,
    timeOffsetS := if identityChanged then 0 else s.timeOffsetS,
    userId := copyBounded (maxUserIdLen + 1) userId,
    name := copyBounded (maxNameLen + 1) name }

structure Binding (n : ℕ) where
  slots : SlotTable n
  staleFds : List ℤ

/-- The locked part of `chat_sessions_update_identity`; `none` when there is no slot to use. -/
def bindIdentity (now : ℤ) (slots : SlotTable n) (fd : ℤ) (userId name : String) :
    Option (Binding n) :=
  match (lastSlot (liveOn fd) slots).or (firstSlot (fun s => !s.active) slots) with
  | none => none
  | some target =>
    let bound := Function.update slots target (boundSlot now fd userId name (slots target))
    let stale := fun i : Fin n => i != target && (slots i).active &&
      (slots i).userId != "" && (slots i).userId == userId
    some {
      slots := fun i => if stale i then (markSlotClosing (bound i)).2 else bound i
      staleFds := (List.finRange n).filterMap (fun i =>
        if stale i && decide (0 ≤ (slots i).fd) && (slots i).fd != fd then some (slots i).fd else none) }

def isJoined (slots : SlotTable n) (fd : ℤ) : Bool :=
  match firstSlot (liveOn fd) slots with
  | some i => (slots i).joined && (slots i).userId != ""
  | none => false

inductive IdentityStatus where
  | notJoined
  | mismatch
  | ok
  deriving DecidableEq, Repr

def checkIdentity (slots : SlotTable n) (fd : ℤ) (userId : Option String) : IdentityStatus :=
  match firstSlot (liveOn fd) slots with
  | none => .notJoined
  | some i =>
    if !(slots i).joined || (slots i).userId == "" then .notJoined
    else if userId = some (slots i).userId then .ok
    else .mismatch

def updateTimeSample (slots : SlotTable n) (fd : ℤ) (offset : ℤ) : SlotTable n :=
  updateFirst (joinedOn fd) (fun s => { s with timeOffsetS := offset, timeOffsetValid := true }) slots

def markAlive (slots : SlotTable n) (fd : ℤ) : SlotTable n :=
  updateFirst (joinedOn fd) (fun s => { s with isAlive := true }) slots

def markClosing (slots : SlotTable n) (fd : ℤ) : Bool × SlotTable n :=
  ((List.finRange n).any (fun i => holdsFd fd (slots i) && (slots i).joined),
    fun i => if holdsFd fd (slots i) then (markSlotClosing (slots i)).2 else slots i)

def removeByFd (slots : SlotTable n) (fd : ℤ) : Bool × SlotTable n :=
  ((List.finRange n).any (fun i => holdsFd fd (slots i)),
    fun i => if holdsFd fd (slots i) then clearSlotIdentity (slots i) else slots i)

/-- The descriptors a broadcast goes to, in slot order. -/
def receiverFds (slots : SlotTable n) : List ℤ :=
  (List.finRange n).filterMap (fun i => if receives (slots i) then some (slots i).fd else none)

/-! The locked part of `heartbeat_sweep_work`, slot by slot. -/
inductive SweepVerdict where
  | keep
  | close
  | ping
  deriving DecidableEq, Repr

/-- `changed` is set for a joined client only: an unjoined one is not in the presence list. -/
structure SweepStep where
  slot : ClientSlot
  verdict : SweepVerdict
  changed : Bool

def sweepSlot (heartbeatIntervalS now : ℤ) (delayed : Bool) (s : ClientSlot) : SweepStep :=
  if !s.active || s.closing then ⟨s, .keep, false⟩
  else if !s.joined then
    if delayed then ⟨{ s with registeredAtS := now }, .keep, false⟩
    else if now - s.registeredAtS < wsJoinTimeoutS then ⟨s, .keep, false⟩
    else ⟨(markSlotClosing s).2, .close, false⟩
  else
    -- A delayed HTTP task may not have consumed an already queued pong yet.
    let s := if delayed && !s.isAlive then
        { s with isAlive := true, lastPingS := now - heartbeatIntervalS } else s
    if !s.isAlive then
      if now - s.lastPingS < heartbeatIntervalS then ⟨s, .keep, false⟩
      else ⟨(markSlotClosing s).2, .close, true⟩
    else if now - s.lastPingS < heartbeatIntervalS then ⟨s, .keep, false⟩
    else ⟨{ s with isAlive := false, lastPingS := now }, .ping, false⟩

/-! The clock majority of `common/utils.c`. -/
def timeSyncThreshold (count : ℕ) : ℕ := if count = 0 then 0 else (count * 2 + 2) / 3

def timeOffsets (slots : SlotTable n) : List ℤ :=
  (List.finRange n).filterMap (fun i =>
    if (slots i).active && (slots i).joined && (slots i).timeOffsetValid then
      some (slots i).timeOffsetS else none)

def cluster (offsets : List ℤ) (lower : ℤ) : List ℤ :=
  offsets.filter (fun o => decide (lower ≤ o) && decide (o ≤ lower + timeSyncToleranceS))

/-- The selected cluster is the first of the largest ones that reach the threshold. -/
def consensusOffsetS (offsets : List ℤ) : Option ℤ :=
  let required := timeSyncThreshold offsets.length
  if required = 0 then none
  else
    let selected := offsets.foldl (fun best lower =>
      let c := cluster offsets lower
      if required ≤ c.length ∧ best.length < c.length then c else best) []
    if selected = [] then none else some (selected.sum.tdiv selected.length)

end EspWebChat.ClientSlots
