import Mathlib.Data.Nat.Notation
import Mathlib.Data.Int.Notation
import Mathlib.Data.List.Basic
import Mathlib.Data.Nat.Find

set_option autoImplicit false

/-!
# The send function of `server/socket_transport.c`

The clock and `send` answer turn by turn. Whatever they answer, the socket carries a prefix of
the buffer, and one that got less than the whole of it is shut down for good.
-/
namespace EspWebChat.SocketTransport

def httpSendTimeoutS : ℤ := 1
def intMax : ℕ := 2147483647
def httpdSockErrFail : ℤ := -1
def httpdSockErrInvalid : ℤ := -2
def httpdSockErrTimeout : ℤ := -3

/-- Any errno but `EINTR`. -/
inductive Errno where
  | again
  | wouldBlock
  | pipe
  | other (code : ℕ)
  deriving DecidableEq, Repr

/-- `wrote` tells how much the call took beyond the first byte, as far as there was that much. -/
inductive SendResult where
  | wrote (more : ℕ)
  | zero
  | interrupted
  | failed (errno : Errno)
  deriving DecidableEq, Repr

/-- What the clock shows at the head of a turn, and what `send` returns in it. -/
structure Turn where
  nowUs : ℤ
  result : SendResult

inductive Action where
  | sent (bytes : List UInt8)
  | shutdown
  deriving DecidableEq, Repr

structure Buffer (length : ℕ) where
  bytes : List UInt8
  holds : bytes.length = length

/-- `left` is how the loop was left, with the `failure` of that moment. -/
structure Progress where
  sent : ℕ
  actions : List Action
  left : Option Errno

structure Outcome where
  actions : List Action
  returned : Option ℤ
  errno : Option Errno

section loop
variable {length : ℕ} (buffer : Buffer length) (startedAt : ℤ)

def sendTurn (turn : Turn) (p : Progress) : Progress :=
  if httpSendTimeoutS * 1000000 ≤ turn.nowUs - startedAt then { p with left := some .again }
  else match turn.result with
    | .interrupted => p
    | .failed errno => { p with left := some errno }
    | .zero => { p with left := some .pipe }
    | .wrote more =>
      let result := min (more + 1) (length - p.sent)
      { p with
        sent := p.sent + result
        actions := p.actions ++ [.sent ((buffer.bytes.drop p.sent).take result)] }

/-- The loop after at most `k` turns. -/
def sendTurns : ℕ → (ℕ → Turn) → Progress → Progress
  | 0, _, p => p
  | k + 1, turns, p =>
    if p.left.isSome ∨ length ≤ p.sent then p
    else sendTurns k (fun n => turns (n + 1)) (sendTurn buffer startedAt (turns 0) p)

end loop

/-- What follows the loop; while that goes on, the call has not returned. -/
def finish (length : ℕ) (p : Progress) : Outcome :=
  if p.sent = length then ⟨p.actions, some p.sent, none⟩
  else match p.left with
    | none => ⟨p.actions, none, none⟩
    | some failure => ⟨p.actions ++ [.shutdown],
        some (if failure = .again ∨ failure = .wouldBlock then httpdSockErrTimeout else httpdSockErrFail),
        some failure⟩

/-- `none` is the null pointer. -/
def invalid {length : ℕ} (buffer : Option (Buffer length)) : Prop :=
  (buffer.isNone ∧ length ≠ 0) ∨ intMax < length

instance {length : ℕ} (buffer : Option (Buffer length)) : Decidable (invalid buffer) :=
  inferInstanceAs (Decidable (_ ∨ _))

/-- A null buffer of no bytes is as good as an empty one. -/
def Buffer.given {length : ℕ} : Option (Buffer length) → Buffer length
  | some buffer => buffer
  | none => ⟨List.replicate length 0, List.length_replicate⟩

/-- The call of `send_complete` after at most `k` turns. -/
def sendComplete {length : ℕ} (buffer : Option (Buffer length)) (startedAt : ℤ) (turns : ℕ → Turn) (k : ℕ) : Outcome :=
  if invalid buffer then ⟨[], some httpdSockErrInvalid, none⟩
  else finish length (sendTurns (Buffer.given buffer) startedAt k turns ⟨0, [], none⟩)

def payload : Action → List UInt8
  | .sent bytes => bytes
  | .shutdown => []

def wire (actions : List Action) : List UInt8 := actions.flatMap payload

variable {length : ℕ} {buffer : Buffer length} {startedAt : ℤ} {turns : ℕ → Turn} {p : Progress}

/-- The loop has sent the first `sent` bytes, and nothing else. -/
structure Sound (buffer : Buffer length) (p : Progress) : Prop where
  carried : wire p.actions = buffer.bytes.take p.sent
  bounded : p.sent ≤ length
  upright : Action.shutdown ∉ p.actions

theorem sendTurn_sound (turn : Turn) (h : Sound buffer p) : Sound buffer (sendTurn buffer startedAt turn p) := by
  have carried := h.carried
  have bounded := h.bounded
  have upright := h.upright
  unfold sendTurn
  split_ifs
  · exact ⟨carried, bounded, upright⟩
  · cases turn.result with
    | interrupted => exact h
    | failed errno => exact ⟨carried, bounded, upright⟩
    | zero => exact ⟨carried, bounded, upright⟩
    | wrote more =>
      refine ⟨?_, ?_, ?_⟩
      · simp only [wire, List.flatMap_append, List.flatMap_singleton, payload]
        rw [List.take_add]
        exact congrArg (· ++ _) carried
      · simp only
        omega
      · simp [upright]

theorem sendTurns_sound (k : ℕ) (h : Sound buffer p) : Sound buffer (sendTurns buffer startedAt k turns p) := by
  induction k generalizing turns p with
  | zero => exact h
  | succ k ih =>
    unfold sendTurns
    split_ifs
    · exact h
    · exact ih (sendTurn_sound (turns 0) h)

/-- A turn that changes nothing: interrupted before the time is up. -/
def Stalls (startedAt : ℤ) (turn : Turn) : Prop :=
  turn.nowUs - startedAt < httpSendTimeoutS * 1000000 ∧ turn.result = .interrupted

instance (startedAt : ℤ) (turn : Turn) : Decidable (Stalls startedAt turn) := inferInstanceAs (Decidable (_ ∧ _))

def Over (length : ℕ) (p : Progress) : Prop := p.left.isSome ∨ length ≤ p.sent

theorem sendTurn_stalls {turn : Turn} (h : Stalls startedAt turn) : sendTurn buffer startedAt turn p = p := by
  have early : ¬httpSendTimeoutS * 1000000 ≤ turn.nowUs - startedAt := by
    have := h.1
    omega
  unfold sendTurn
  rw [if_neg early, h.2]

theorem sendTurn_advances {turn : Turn} (h : ¬Stalls startedAt turn) (open' : ¬Over length p) :
    Over length (sendTurn buffer startedAt turn p) ∨ p.sent < (sendTurn buffer startedAt turn p).sent := by
  unfold sendTurn
  split_ifs with late
  · exact .inl (.inl rfl)
  · cases hr : turn.result with
    | interrupted => exact absurd ⟨by omega, hr⟩ h
    | failed errno => exact .inl (.inl rfl)
    | zero => exact .inl (.inl rfl)
    | wrote more =>
      refine .inr ?_
      unfold Over at open'
      simp only
      omega

theorem sendTurns_over (k : ℕ) (h : Over length p) : sendTurns buffer startedAt k turns p = p := by
  cases k with
  | zero => rfl
  | succ k => exact if_pos h

theorem sendTurns_add (j k : ℕ) : sendTurns buffer startedAt (j + k) turns p =
    sendTurns buffer startedAt k (fun n => turns (n + j)) (sendTurns buffer startedAt j turns p) := by
  induction j generalizing turns p with
  | zero => rw [Nat.zero_add]; rfl
  | succ j ih =>
    by_cases ended : Over length p
    · rw [sendTurns_over _ ended, sendTurns_over _ ended, sendTurns_over _ ended]
    · rw [Nat.succ_add]
      unfold Over at ended
      rw [sendTurns, if_neg ended, ih, sendTurns, if_neg ended]
      have shift : (fun n => turns (n + j + 1)) = (fun n => turns (n + (j + 1))) := by
        funext n
        rw [Nat.add_assoc]
      rw [shift]

theorem sendTurns_stall (n : ℕ) (h : ∀ m < n, Stalls startedAt (turns m)) :
    sendTurns buffer startedAt n turns p = p := by
  induction n generalizing turns with
  | zero => rfl
  | succ n ih =>
    by_cases ended : Over length p
    · exact sendTurns_over _ ended
    · unfold Over at ended
      rw [sendTurns, if_neg ended, sendTurn_stalls (h 0 (by omega))]
      exact ih (fun m hm => h (m + 1) (by omega))

/-- Each turn that does not stall ends the loop or brings it closer to the end. -/
theorem sendTurns_ends (busy : ∀ N, ∃ n, N ≤ n ∧ ¬Stalls startedAt (turns n)) :
    ∃ k, Over length (sendTurns buffer startedAt k turns p) := by
  generalize hd : length - p.sent = d
  induction d using Nat.strongRecOn generalizing turns p with
  | ind d ih =>
    by_cases ended : Over length p
    · exact ⟨0, ended⟩
    · have some : ∃ n, ¬Stalls startedAt (turns n) := by
        obtain ⟨n, -, hn⟩ := busy 0
        exact ⟨n, hn⟩
      have stalled : sendTurns buffer startedAt (Nat.find some) turns p = p :=
        sendTurns_stall _ (fun m hm => not_not.mp (Nat.find_min some hm))
      have next : sendTurns buffer startedAt (Nat.find some + 1) turns p =
          sendTurn buffer startedAt (turns (Nat.find some)) p := by
        unfold Over at ended
        rw [sendTurns_add, stalled, sendTurns, if_neg ended, sendTurns, Nat.zero_add]
      have moved : Over length (sendTurn buffer startedAt (turns (Nat.find some)) p) ∨
          p.sent < (sendTurn buffer startedAt (turns (Nat.find some)) p).sent :=
        sendTurn_advances (Nat.find_spec some) ended
      cases moved with
      | inl done =>
        refine ⟨Nat.find some + 1, ?_⟩
        rw [next]
        exact done
      | inr more =>
        have later : ∀ N, ∃ n, N ≤ n ∧ ¬Stalls startedAt (turns (n + (Nat.find some + 1))) := by
          intro N
          obtain ⟨n, hn, turn⟩ := busy (N + (Nat.find some + 1))
          refine ⟨n - (Nat.find some + 1), by omega, ?_⟩
          rw [Nat.sub_add_cancel (by omega)]
          exact turn
        have closer : length - (sendTurn buffer startedAt (turns (Nat.find some)) p).sent < d := by
          unfold Over at ended
          omega
        obtain ⟨k, hk⟩ := ih _ closer later rfl
        refine ⟨Nat.find some + 1 + k, ?_⟩
        rw [sendTurns_add, next]
        exact hk

theorem wire_shutdown (actions : List Action) : wire (actions ++ [.shutdown]) = wire actions := by
  simp [wire, payload]

theorem finish_wire (h : Sound buffer p) : wire (finish length p).actions = buffer.bytes.take p.sent := by
  have carried := h.carried
  unfold finish
  split_ifs
  · exact carried
  · cases p.left with
    | none => exact carried
    | some failure => rw [wire_shutdown, carried]

theorem finish_returned (h : Sound buffer p) {r : ℤ} (returned : (finish length p).returned = some r) :
    (r = length ↔ wire (finish length p).actions = buffer.bytes) ∧
      (r = length → Action.shutdown ∉ (finish length p).actions) ∧
      (r ≠ length → r < 0 ∧ ∃ sends, (finish length p).actions = sends ++ [.shutdown] ∧
        Action.shutdown ∉ sends) := by
  have whole : wire (finish length p).actions = buffer.bytes ↔ p.sent = length := by
    have bounded := h.bounded
    have size := buffer.holds
    rw [finish_wire h]
    constructor
    · intro same
      have lengths := congrArg List.length same
      rw [List.length_take] at lengths
      omega
    · intro all
      rw [all, List.take_of_length_le (by omega)]
  rw [whole]
  unfold finish at returned ⊢
  by_cases all : p.sent = length
  · rw [if_pos all] at returned ⊢
    have value : (p.sent : ℤ) = r := Option.some.inj returned
    have same : r = length := by omega
    exact ⟨iff_of_true same all, fun _ => h.upright, fun differs => absurd same differs⟩
  · rw [if_neg all] at returned ⊢
    cases hleft : p.left with
    | none => simp [hleft] at returned
    | some failure =>
      rw [hleft] at returned
      have negative : r < 0 := by
        have value := Option.some.inj returned
        rw [← value]
        split_ifs <;> decide
      have differs : r ≠ length := by omega
      refine ⟨iff_of_false differs all, fun same => absurd same differs, ?_⟩
      intro _
      exact ⟨negative, p.actions, rfl, h.upright⟩

/-- For a valid argument the socket carries a prefix of the buffer. The call returns the length
    when that is all of it; otherwise it returns a negative code, and its last act is the one
    shutdown. It returns unless it is interrupted forever while its time stands still. -/
theorem send_complete_exact {length : ℕ} (buffer : Option (Buffer length)) (startedAt : ℤ) (turns : ℕ → Turn) :
    (invalid buffer → ∀ k, sendComplete buffer startedAt turns k = ⟨[], some httpdSockErrInvalid, none⟩) ∧
    (¬invalid buffer →
      (∀ k, wire (sendComplete buffer startedAt turns k).actions <+: (Buffer.given buffer).bytes) ∧
      (∀ k r, (sendComplete buffer startedAt turns k).returned = some r →
        (r = length ↔ wire (sendComplete buffer startedAt turns k).actions = (Buffer.given buffer).bytes) ∧
        (r = length → Action.shutdown ∉ (sendComplete buffer startedAt turns k).actions) ∧
        (r ≠ length → r < 0 ∧ ∃ sends,
          (sendComplete buffer startedAt turns k).actions = sends ++ [.shutdown] ∧ Action.shutdown ∉ sends)) ∧
      ((∀ N, ∃ n, N ≤ n ∧ ¬Stalls startedAt (turns n)) →
        ∃ k r, (sendComplete buffer startedAt turns k).returned = some r)) := by
  refine ⟨fun bad k => if_pos bad, ?_⟩
  intro valid
  have call : ∀ k, sendComplete buffer startedAt turns k =
      finish length (sendTurns (Buffer.given buffer) startedAt k turns ⟨0, [], none⟩) :=
    fun k => if_neg valid
  have start : Sound (Buffer.given buffer) ⟨0, [], none⟩ := ⟨rfl, Nat.zero_le _, List.not_mem_nil⟩
  refine ⟨?_, ?_, ?_⟩
  · intro k
    rw [call, finish_wire (sendTurns_sound k start)]
    exact List.take_prefix _ _
  · intro k r returned
    rw [call] at returned ⊢
    exact finish_returned (sendTurns_sound k start) returned
  · intro busy
    obtain ⟨k, ended⟩ : ∃ k, Over length (sendTurns (Buffer.given buffer) startedAt k turns ⟨0, [], none⟩) :=
      sendTurns_ends busy
    have sound : Sound (Buffer.given buffer) (sendTurns (Buffer.given buffer) startedAt k turns ⟨0, [], none⟩) :=
      sendTurns_sound k start
    have bounded := sound.bounded
    generalize hp : sendTurns (Buffer.given buffer) startedAt k turns ⟨0, [], none⟩ = p at ended bounded
    have returned : ∃ r, (finish length p).returned = some r := by
      unfold finish
      split_ifs with all
      · exact ⟨_, rfl⟩
      · cases ended with
        | inl left =>
          obtain ⟨failure, hf⟩ := Option.isSome_iff_exists.mp left
          rw [hf]
          exact ⟨_, rfl⟩
        | inr through => exact absurd (by omega) all
    obtain ⟨r, hr⟩ := returned
    refine ⟨k, r, ?_⟩
    rw [call, hp]
    exact hr

end EspWebChat.SocketTransport
