import EspWebChat.CoalescedWork
import EspWebChat.NodeSteps

set_option autoImplicit false

/-!
# The tasks beside the HTTP task

`heartbeat_task` and every task that calls `chat_sessions_broadcast_online_users` from outside
the HTTP task queue work for it: each in a section under the mutex, a call of `httpd_queue_work`
and, where that fails, a second section. Their steps and those of the HTTP task come in any
order. The sections of the work functions that clear the flags come first in them, and nobody
else uses the slots, so a work function is one step.
-/
namespace EspWebChat.TaskQueue
open ClientSlots Interruptible ServerWorld Sessions JsonGate WebSocketServer NodeSteps CoalescedWork

variable {cfg : Config} {C : Type}

inductive Work where
  | presenceBroadcastWork
  | heartbeatSweepWork
  deriving DecidableEq, Repr

def presenceBroadcastWork : Server cfg Unit := do
  let _ ← broadcastOnlineUsersNow
  pure ()

def Work.run : Work → Server cfg Unit
  | .presenceBroadcastWork => EspWebChat.TaskQueue.presenceBroadcastWork
  | .heartbeatSweepWork => Sessions.heartbeatSweepWork

/-- `heartbeatTask` and `callers` are where the tasks stand between their sections. -/
structure Tasks (cfg : Config) (C : Type) where
  node : Node cfg
  presenceBroadcastPending : Bool
  heartbeatSweepPending : Bool
  heartbeatTask : Phase
  callers : C → Phase
  queue : List Work

/-- The tasks when the firmware starts, or before. -/
def Tasks.started (node : Node cfg) : Tasks cfg C := ⟨node, false, false, .idle, fun _ => .idle, []⟩

inductive TaskEvent (C : Type) where
  | http (e : Event)
  | work (env : ℕ → Reply)
  | sweepTick
  | sweepQueued (ret : EspErr)
  | sweepForgotten
  | presenceAsked (c : C)
  | presenceQueued (c : C) (ret : EspErr)
  | presenceForgotten (c : C)

def TaskEvent.boots : TaskEvent C → Bool
  | .http (.powerOn _) => true
  | _ => false

/-- The HTTP task takes the first work of its queue. -/
def doWork (s : Tasks cfg C) (env : ℕ → Reply) : Tasks cfg C :=
  match s.queue with
  | [] => s
  | .presenceBroadcastWork :: queue =>
    { s with node := s.node.exec presenceBroadcastWork env, presenceBroadcastPending := false, queue := queue }
  | .heartbeatSweepWork :: queue =>
    { s with node := s.node.exec heartbeatSweepWork env, heartbeatSweepPending := false, queue := queue }

/-- The loop body of `heartbeat_task` up to `httpd_queue_work`. -/
def heartbeatTick (s : Tasks cfg C) : Tasks cfg C :=
  if s.heartbeatTask = .idle then
    { s with
      heartbeatSweepPending := true
      heartbeatTask := if !s.heartbeatSweepPending then .submitting else .idle }
  else s

def heartbeatQueued (ret : EspErr) (s : Tasks cfg C) : Tasks cfg C :=
  if s.heartbeatTask = .submitting then
    if ret ≠ .ok then { s with heartbeatTask := .refused }
    else { s with heartbeatTask := .idle, queue := s.queue ++ [.heartbeatSweepWork] }
  else s

def heartbeatForgotten (s : Tasks cfg C) : Tasks cfg C :=
  if s.heartbeatTask = .refused then { s with heartbeatTask := .idle, heartbeatSweepPending := false } else s

variable [DecidableEq C]

/-- The branch of `chat_sessions_broadcast_online_users` for other tasks, up to `httpd_queue_work`. -/
def broadcastAsked (c : C) (s : Tasks cfg C) : Tasks cfg C :=
  if s.callers c = .idle then
    if !s.presenceBroadcastPending then
      { s with presenceBroadcastPending := true, callers := Function.update s.callers c .submitting }
    else s
  else s

def broadcastQueued (c : C) (ret : EspErr) (s : Tasks cfg C) : Tasks cfg C :=
  if s.callers c = .submitting then
    if ret = .ok then
      { s with callers := Function.update s.callers c .idle, queue := s.queue ++ [.presenceBroadcastWork] }
    else { s with callers := Function.update s.callers c .refused }
  else s

def broadcastForgotten (c : C) (s : Tasks cfg C) : Tasks cfg C :=
  if s.callers c = .refused then
    { s with callers := Function.update s.callers c .idle, presenceBroadcastPending := false }
  else s

/-- Without power only `powerOn` does anything. Sweeps come from the queue alone. -/
def taskStep (cJSONParse : CJSONParse) (s : Tasks cfg C) (e : TaskEvent C) : Tasks cfg C :=
  match e with
  | .http (.powerOn env) => .started (step cJSONParse s.node (.powerOn env))
  | .http (.sweep _) => s
  | .http e => { s with node := step cJSONParse s.node e }
  | .work env => if s.node.powered then doWork s env else s
  | .sweepTick => if s.node.powered then heartbeatTick s else s
  | .sweepQueued ret => if s.node.powered then heartbeatQueued ret s else s
  | .sweepForgotten => if s.node.powered then heartbeatForgotten s else s
  | .presenceAsked c => if s.node.powered then broadcastAsked c s else s
  | .presenceQueued c ret => if s.node.powered then broadcastQueued c ret s else s
  | .presenceForgotten c => if s.node.powered then broadcastForgotten c s else s

def taskRun (cJSONParse : CJSONParse) (s : Tasks cfg C) (events : List (TaskEvent C)) : Tasks cfg C :=
  events.foldl (taskStep cJSONParse) s

/-- What `f` reads off every step of a run. -/
def along {β : Type} (cJSONParse : CJSONParse) (f : Tasks cfg C → TaskEvent C → List β) :
    Tasks cfg C → List (TaskEvent C) → List β
  | _, [] => []
  | s, e :: events => f s e ++ along cJSONParse f (taskStep cJSONParse s e) events

def worked (s : Tasks cfg C) : TaskEvent C → List Work
  | .work _ => if s.node.powered then s.queue.head?.toList else []
  | _ => []

def sweepActs (s : Tasks cfg C) : TaskEvent C → List (Act Unit)
  | .work _ => if s.node.powered = true ∧ s.queue.head? = some .heartbeatSweepWork then [.serve] else []
  | .sweepTick => if s.node.powered then [.request ()] else []
  | .sweepQueued ret => if s.node.powered then [.submit () (decide (ret = .ok))] else []
  | .sweepForgotten => if s.node.powered then [.withdraw ()] else []
  | _ => []

def presenceActs (s : Tasks cfg C) : TaskEvent C → List (Act C)
  | .work _ => if s.node.powered = true ∧ s.queue.head? = some .presenceBroadcastWork then [.serve] else []
  | .presenceAsked c => if s.node.powered then [.request c] else []
  | .presenceQueued c ret => if s.node.powered then [.submit c (decide (ret = .ok))] else []
  | .presenceForgotten c => if s.node.powered then [.withdraw c] else []
  | _ => []

def sweepDesk (s : Tasks cfg C) : Desk Unit :=
  ⟨s.heartbeatSweepPending, fun _ => s.heartbeatTask, s.queue.count .heartbeatSweepWork⟩

def presenceDesk (s : Tasks cfg C) : Desk C :=
  ⟨s.presenceBroadcastPending, s.callers, s.queue.count .presenceBroadcastWork⟩

section sweeps
variable {s : Tasks cfg C} {ret : EspErr}

omit [DecidableEq C] in
theorem heartbeatTick_sweep : sweepDesk (heartbeatTick s) = (sweepDesk s).act (.request ()) := by
  unfold heartbeatTick sweepDesk
  simp only [Desk.act]
  cases pending : s.heartbeatSweepPending with
  | true => split_ifs <;> simp_all
  | false =>
    split_ifs <;> simp_all
    funext u
    rw [Function.update_self]

omit [DecidableEq C] in
theorem heartbeatQueued_sweep : sweepDesk (heartbeatQueued ret s) = (sweepDesk s).act (.submit () (decide (ret = .ok))) := by
  unfold heartbeatQueued sweepDesk
  simp only [Desk.act]
  split_ifs with mine failed done
  · simp_all
  · simp only [Desk.mk.injEq, true_and, and_true]
    funext u
    rw [Function.update_self]
  · simp only [Desk.mk.injEq, true_and, List.count_append, List.count_singleton_self, and_true]
    funext u
    rw [Function.update_self]
  · simp_all
  · rfl

omit [DecidableEq C] in
theorem heartbeatForgotten_sweep : sweepDesk (heartbeatForgotten s) = (sweepDesk s).act (.withdraw ()) := by
  unfold heartbeatForgotten sweepDesk
  simp only [Desk.act]
  split_ifs with mine
  · simp only [Desk.mk.injEq, true_and, and_true]
    funext u
    rw [Function.update_self]
  · rfl

end sweeps

variable {s : Tasks cfg C} {e : TaskEvent C} {c : C} {ret : EspErr}

theorem broadcastAsked_presence : presenceDesk (broadcastAsked c s) = (presenceDesk s).act (.request c) := by
  unfold broadcastAsked presenceDesk
  simp only [Desk.act]
  cases pending : s.presenceBroadcastPending <;> split_ifs <;> simp_all

theorem broadcastQueued_presence :
    presenceDesk (broadcastQueued c ret s) = (presenceDesk s).act (.submit c (decide (ret = .ok))) := by
  unfold broadcastQueued presenceDesk
  simp only [Desk.act, decide_eq_true_eq]
  split_ifs
  · simp [List.count_append]
  · rfl
  · rfl

theorem broadcastForgotten_presence : presenceDesk (broadcastForgotten c s) = (presenceDesk s).act (.withdraw c) := by
  unfold broadcastForgotten presenceDesk
  simp only [Desk.act]
  split_ifs <;> rfl

theorem broadcast_sweep (c : C) (ret : EspErr) : sweepDesk (broadcastAsked c s) = sweepDesk s ∧
    sweepDesk (broadcastQueued c ret s) = sweepDesk s ∧ sweepDesk (broadcastForgotten c s) = sweepDesk s := by
  unfold broadcastAsked broadcastQueued broadcastForgotten sweepDesk
  refine ⟨?_, ?_, ?_⟩
  · split_ifs <;> rfl
  · split_ifs
    · simp [List.count_append]
    · rfl
    · rfl
  · split_ifs <;> rfl

omit [DecidableEq C] in
theorem heartbeat_presence (ret : EspErr) : presenceDesk (heartbeatTick s) = presenceDesk s ∧
    presenceDesk (heartbeatQueued ret s) = presenceDesk s ∧ presenceDesk (heartbeatForgotten s) = presenceDesk s := by
  unfold heartbeatTick heartbeatQueued heartbeatForgotten presenceDesk
  refine ⟨?_, ?_, ?_⟩
  · split_ifs <;> rfl
  · split_ifs
    · rfl
    · simp [List.count_append]
    · rfl
  · split_ifs <;> rfl

theorem sweep_step (cJSONParse : CJSONParse) (s : Tasks cfg C) {e : TaskEvent C} (stays : e.boots = false) :
    sweepDesk (taskStep cJSONParse s e) = (sweepActs s e).foldl Desk.act (sweepDesk s) := by
  have idle : ∀ {x : Tasks cfg C}, sweepDesk x = sweepDesk s →
      sweepDesk (if s.node.powered then x else s) = sweepDesk s := by
    intro x same
    split_ifs
    · exact same
    · rfl
  cases e with
  | http e =>
    cases e with
    | powerOn env => cases stays
    | _ => rfl
  | work env =>
    simp only [taskStep, sweepActs]
    by_cases powered : s.node.powered = true
    · rw [if_pos powered]
      unfold doWork
      cases queue : s.queue with
      | nil => simp
      | cons work rest =>
        cases work with
        | presenceBroadcastWork => simp [sweepDesk, queue]
        | heartbeatSweepWork => simp [sweepDesk, queue, powered, Desk.act]
    · rw [if_neg powered, if_neg (fun h => powered h.1)]
      rfl
  | sweepTick =>
    simp only [taskStep, sweepActs]
    split_ifs
    · exact heartbeatTick_sweep
    · rfl
  | sweepQueued ret =>
    simp only [taskStep, sweepActs]
    split_ifs
    · exact heartbeatQueued_sweep
    · rfl
  | sweepForgotten =>
    simp only [taskStep, sweepActs]
    split_ifs
    · exact heartbeatForgotten_sweep
    · rfl
  | presenceAsked c => exact idle (broadcast_sweep c .ok).1
  | presenceQueued c ret => exact idle (broadcast_sweep c ret).2.1
  | presenceForgotten c => exact idle (broadcast_sweep c .ok).2.2

theorem presence_step (cJSONParse : CJSONParse) (s : Tasks cfg C) {e : TaskEvent C} (stays : e.boots = false) :
    presenceDesk (taskStep cJSONParse s e) = (presenceActs s e).foldl Desk.act (presenceDesk s) := by
  have idle : ∀ {x : Tasks cfg C}, presenceDesk x = presenceDesk s →
      presenceDesk (if s.node.powered then x else s) = presenceDesk s := by
    intro x same
    split_ifs
    · exact same
    · rfl
  cases e with
  | http e =>
    cases e with
    | powerOn env => cases stays
    | _ => rfl
  | work env =>
    simp only [taskStep, presenceActs]
    by_cases powered : s.node.powered = true
    · rw [if_pos powered]
      unfold doWork
      cases queue : s.queue with
      | nil => simp
      | cons work rest =>
        cases work with
        | presenceBroadcastWork => simp [presenceDesk, queue, powered, Desk.act]
        | heartbeatSweepWork => simp [presenceDesk, queue]
    · rw [if_neg powered, if_neg (fun h => powered h.1)]
      rfl
  | presenceAsked c =>
    simp only [taskStep, presenceActs]
    split_ifs
    · exact broadcastAsked_presence
    · rfl
  | presenceQueued c ret =>
    simp only [taskStep, presenceActs]
    split_ifs
    · exact broadcastQueued_presence
    · rfl
  | presenceForgotten c =>
    simp only [taskStep, presenceActs]
    split_ifs
    · exact broadcastForgotten_presence
    · rfl
  | sweepTick => exact idle (heartbeat_presence .ok).1
  | sweepQueued ret => exact idle (heartbeat_presence ret).2.1
  | sweepForgotten => exact idle (heartbeat_presence .ok).2.2

def Orderly (s : Tasks cfg C) : Prop := (∃ t : Token Unit, sweepDesk s = t.desk) ∧ ∃ t : Token C, presenceDesk s = t.desk

theorem orderly_started (node : Node cfg) : Orderly (Tasks.started node : Tasks cfg C) := ⟨⟨.free, rfl⟩, .free, rfl⟩

theorem orderly_step (cJSONParse : CJSONParse) {s : Tasks cfg C} (h : Orderly s) (e : TaskEvent C) :
    Orderly (taskStep cJSONParse s e) := by
  obtain ⟨⟨sweep, hsweep⟩, presence, hpresence⟩ := h
  cases boots : e.boots with
  | true =>
    cases e with
    | http e =>
      cases e with
      | powerOn env => exact orderly_started _
      | _ => cases boots
    | _ => cases boots
  | false =>
    refine ⟨⟨sweep.run (sweepActs s e), ?_⟩, presence.run (presenceActs s e), ?_⟩
    · rw [sweep_step cJSONParse s boots, hsweep]
      exact desk_run _ _
    · rw [presence_step cJSONParse s boots, hpresence]
      exact desk_run _ _

theorem orderly_run (cJSONParse : CJSONParse) {s : Tasks cfg C} (h : Orderly s) (events : List (TaskEvent C)) :
    Orderly (taskRun cJSONParse s events) := by
  induction events generalizing s with
  | nil => exact h
  | cons e events ih => exact ih (orderly_step cJSONParse h e)

/-- Each flag is set just while one work of its kind is queued, or one task is about to queue it or was
    refused and is about to clear the flag. No work is queued twice. -/
theorem work_queue_sole (cJSONParse : CJSONParse) (flash : InitialFlash) (events : List (TaskEvent C)) :
    let s : Tasks cfg C := taskRun cJSONParse (.started (Node.initial flash)) events
    s.queue.Nodup ∧
    (s.heartbeatSweepPending = true ↔ s.heartbeatTask ≠ .idle ∨ .heartbeatSweepWork ∈ s.queue) ∧
    (s.heartbeatTask ≠ .idle → .heartbeatSweepWork ∉ s.queue) ∧
    (s.presenceBroadcastPending = true ↔ (∃ c, s.callers c ≠ .idle) ∨ .presenceBroadcastWork ∈ s.queue) ∧
    ∀ c, s.callers c ≠ .idle → .presenceBroadcastWork ∉ s.queue ∧ ∀ d, s.callers d ≠ .idle → d = c := by
  intro s
  obtain ⟨⟨sweep, hsweep⟩, presence, hpresence⟩ : Orderly s := orderly_run cJSONParse (orderly_started _) events
  have sweeps : Sole (sweepDesk s) := hsweep ▸ desk_sole sweep
  have lists : Sole (presenceDesk s) := hpresence ▸ desk_sole presence
  refine ⟨?_, ?_, ?_, ?_, ?_⟩
  · rw [List.nodup_iff_count_le_one]
    intro work
    cases work with
    | presenceBroadcastWork => exact lists.waiting
    | heartbeatSweepWork => exact sweeps.waiting
  · rw [← List.count_pos_iff]
    refine sweeps.pending.trans (or_congr_left ?_)
    exact ⟨fun ⟨_, busy⟩ => busy, fun busy => ⟨(), busy⟩⟩
  · intro busy
    exact List.count_eq_zero.mp (sweeps.busy () busy).1
  · rw [← List.count_pos_iff]
    exact lists.pending
  · intro c busy
    exact ⟨List.count_eq_zero.mp (lists.busy c busy).1, (lists.busy c busy).2⟩

/-- One flag of the two: its desk, the acts of a step at it, and the work it stands for. -/
structure Follows {D : Type} [DecidableEq D] (cJSONParse : CJSONParse) (desk : Tasks cfg C → Desk D)
    (acts : Tasks cfg C → TaskEvent C → List (Act D)) (work : Work) : Prop where
  step : ∀ s e, e.boots = false → desk (taskStep cJSONParse s e) = (acts s e).foldl Desk.act (desk s)
  serves : ∀ s e t, desk s = Token.desk t → tally served t (acts s e) = (worked s e).count work

theorem none_served {D : Type} [DecidableEq D] (t : Token D) {acts : List (Act D)} (other : .serve ∉ acts) :
    tally served t acts = 0 := by
  induction acts generalizing t with
  | nil => rfl
  | cons a acts ih =>
    simp only [List.mem_cons, not_or] at other
    have none : served t a = false := by
      cases a with
      | serve => exact absurd rfl other.1
      | _ => rfl
    simp only [tally, none, Bool.false_eq_true, if_false, Nat.zero_add]
    exact ih _ other.2

theorem served_first {D : Type} [DecidableEq D] {t : Token D} (waiting : 0 < t.desk.waiting) :
    tally served t [.serve] = 1 := by
  cases t with
  | waiting => rfl
  | _ => cases waiting

theorem sweeps_follow (cJSONParse : CJSONParse) :
    Follows cJSONParse (sweepDesk : Tasks cfg C → Desk Unit) sweepActs .heartbeatSweepWork := by
  refine ⟨fun s e => sweep_step cJSONParse s, ?_⟩
  intro s e t held
  cases e with
  | work env =>
    simp only [sweepActs, worked]
    by_cases powered : s.node.powered = true
    · cases queue : s.queue with
      | nil => simp [tally]
      | cons work rest =>
        cases work with
        | presenceBroadcastWork => simp [tally, powered]
        | heartbeatSweepWork =>
          have waiting : 0 < t.desk.waiting := by
            rw [← held]
            simp [sweepDesk, queue]
          simpa [powered] using served_first waiting
    · simp [powered, tally]
  | _ =>
    refine none_served t ?_
    simp only [sweepActs]
    try split_ifs
    all_goals simp

theorem presence_follows (cJSONParse : CJSONParse) :
    Follows cJSONParse (presenceDesk : Tasks cfg C → Desk C) presenceActs .presenceBroadcastWork := by
  refine ⟨fun s e => presence_step cJSONParse s, ?_⟩
  intro s e t held
  cases e with
  | work env =>
    simp only [presenceActs, worked]
    by_cases powered : s.node.powered = true
    · cases queue : s.queue with
      | nil => simp [tally]
      | cons work rest =>
        cases work with
        | heartbeatSweepWork => simp [tally, powered]
        | presenceBroadcastWork =>
          have waiting : 0 < t.desk.waiting := by
            rw [← held]
            simp [presenceDesk, queue]
          simpa [powered] using served_first waiting
    · simp [powered, tally]
  | _ =>
    refine none_served t ?_
    simp only [presenceActs]
    try split_ifs
    all_goals simp

section follows
variable {D : Type} [DecidableEq D] {cJSONParse : CJSONParse} {desk : Tasks cfg C → Desk D}
  {acts : Tasks cfg C → TaskEvent C → List (Act D)} {work : Work} {s : Tasks cfg C} {t : Token D}

theorem Follows.next (h : Follows cJSONParse desk acts work) (held : desk s = t.desk) {e : TaskEvent C}
    (stays : e.boots = false) : desk (taskStep cJSONParse s e) = (t.run (acts s e)).desk := by
  rw [h.step s e stays, held]
  exact desk_run t _

theorem Follows.run (h : Follows cJSONParse desk acts work) (held : desk s = t.desk) (events : List (TaskEvent C))
    (stays : ∀ e ∈ events, e.boots = false) :
    desk (taskRun cJSONParse s events) = (t.run (along cJSONParse acts s events)).desk ∧
      tally served t (along cJSONParse acts s events) = (along cJSONParse worked s events).count work := by
  induction events generalizing s t with
  | nil => exact ⟨held, rfl⟩
  | cons e events ih =>
    obtain ⟨final, done⟩ := ih (h.next held (stays e List.mem_cons_self)) (fun b hb => stays b (List.mem_cons_of_mem e hb))
    constructor
    · refine final.trans ?_
      simp only [along, Token.run, List.foldl_append]
    · simp only [along, tally_append, List.count_append]
      rw [h.serves s e t held, done]

/-- A request is answered by work that starts after it, unless a call of `httpd_queue_work` fails. -/
theorem Follows.answered (h : Follows cJSONParse desk acts work) (held : desk s = t.desk) {d : D} {e : TaskEvent C}
    (stays : e.boots = false) (asks : acts s e = [.request d]) (start : ∀ d, t ≠ .refused d)
    (events : List (TaskEvent C)) (later : ∀ e ∈ events, e.boots = false)
    (accepted : ∀ s, ∀ e ∈ events, ∀ a ∈ acts s e, refuses a = false)
    (clear : (desk (taskRun cJSONParse s (e :: events))).pending = false) :
    work ∈ along cJSONParse worked (taskStep cJSONParse s e) events := by
  have asked := h.next held stays
  rw [asks] at asked
  obtain ⟨final, done⟩ := h.run (t := t.act (.request d)) asked events later
  rw [← List.count_pos_iff, ← done]
  refine request_served t d _ start ?_ ?_
  · have all : ∀ s, ∀ a ∈ along cJSONParse acts s events, refuses a = false := by
      clear asked final done clear later
      induction events with
      | nil => exact fun s a ha => absurd ha List.not_mem_nil
      | cons e events ih =>
        intro s a ha
        rcases List.mem_append.mp ha with first | rest
        · exact accepted s e List.mem_cons_self a first
        · exact ih (fun s b hb => accepted s b (List.mem_cons_of_mem e hb)) _ a rest
    exact all _
  · by_contra somewhere
    have set := pending_iff.mpr somewhere
    rw [← final] at set
    exact Bool.false_ne_true (clear.symm.trans set)

end follows

/-! The shipped node, just booted, and a task beside it for each truth value. -/

def steady : ℕ → Reply := fun _ => .calm 0

def unread : CJSONParse := fun _ => none

def newBoard : InitialFlash := ⟨⟨none, none⟩, fun v h => by cases h⟩

def running : Tasks (Config.default CjsonPrinter.fifteenDigits) Bool := taskRun unread (.started (Node.initial newBoard)) [.http (.powerOn steady)]

theorem running_powered : running.node.powered = true := by decide +kernel

/-- A tick is followed by a sweep before the flag is clear, unless a call of `httpd_queue_work` fails. -/
theorem tick_swept (cJSONParse : CJSONParse) (flash : InitialFlash) (events later : List (TaskEvent C)) (s : Tasks cfg C)
    (reached : s = taskRun cJSONParse (.started (Node.initial flash)) events) (powered : s.node.powered = true)
    (outside : s.heartbeatTask = .idle) (stays : ∀ e ∈ later, e.boots = false)
    (accepted : ∀ ret, .sweepQueued ret ∈ later → ret = .ok)
    (clear : (taskRun cJSONParse s (.sweepTick :: later)).heartbeatSweepPending = false) :
    .heartbeatSweepWork ∈ along cJSONParse worked (taskStep cJSONParse s .sweepTick) later := by
  obtain ⟨⟨t, held⟩, -⟩ : Orderly s := reached ▸ orderly_run cJSONParse (orderly_started _) events
  have asks : sweepActs s .sweepTick = [.request ()] := if_pos powered
  refine (sweeps_follow cJSONParse).answered held rfl asks ?_ later stays ?_ clear
  · rintro ⟨⟩ refused
    have phase := phase_refused.mpr refused
    rw [← held] at phase
    exact absurd (outside.symm.trans phase) (by decide)
  · intro x e he a ha
    cases e with
    | sweepQueued ret =>
      obtain rfl := accepted ret he
      simp only [sweepActs] at ha
      split_ifs at ha
      · rw [List.mem_singleton.mp ha]
        rfl
      · cases ha
    | _ =>
      simp only [sweepActs] at ha
      try split_ifs at ha
      all_goals simp only [List.mem_singleton, List.not_mem_nil] at ha
      all_goals rw [ha]; rfl

theorem tick_swept_running : Work.heartbeatSweepWork ∈
    along unread worked (taskStep unread running .sweepTick) [.sweepQueued .ok, .sweepTick, .work steady] := by
  refine tick_swept unread newBoard [.http (.powerOn steady)] [.sweepQueued .ok, .sweepTick, .work steady] running rfl
    running_powered (by decide +kernel) (by simp [TaskEvent.boots]) ?_ (by decide +kernel)
  intro ret among
  simpa using among

/-- The same for the list of users, whichever task asks, as long as none is about to clear the flag
    for another. -/
theorem ask_broadcast (cJSONParse : CJSONParse) (flash : InitialFlash) (events later : List (TaskEvent C)) (c : C)
    (s : Tasks cfg C) (reached : s = taskRun cJSONParse (.started (Node.initial flash)) events)
    (powered : s.node.powered = true) (none_refused : ∀ d, s.callers d ≠ .refused)
    (stays : ∀ e ∈ later, e.boots = false) (accepted : ∀ d ret, .presenceQueued d ret ∈ later → ret = .ok)
    (clear : (taskRun cJSONParse s (.presenceAsked c :: later)).presenceBroadcastPending = false) :
    .presenceBroadcastWork ∈ along cJSONParse worked (taskStep cJSONParse s (.presenceAsked c)) later := by
  obtain ⟨-, t, held⟩ : Orderly s := reached ▸ orderly_run cJSONParse (orderly_started _) events
  have asks : presenceActs s (.presenceAsked c) = [.request c] := if_pos powered
  refine (presence_follows cJSONParse).answered held rfl asks ?_ later stays ?_ clear
  · intro d refused
    have phase := phase_refused.mpr refused
    rw [← held] at phase
    exact none_refused d phase
  · intro x e he a ha
    cases e with
    | presenceQueued d ret =>
      obtain rfl := accepted d ret he
      simp only [presenceActs] at ha
      split_ifs at ha
      · rw [List.mem_singleton.mp ha]
        rfl
      · cases ha
    | _ =>
      simp only [presenceActs] at ha
      try split_ifs at ha
      all_goals simp only [List.mem_singleton, List.not_mem_nil] at ha
      all_goals rw [ha]; rfl

theorem ask_broadcast_running : Work.presenceBroadcastWork ∈
    along unread worked (taskStep unread running (.presenceAsked true)) [.presenceAsked false, .presenceQueued true .ok, .work steady] := by
  refine ask_broadcast unread newBoard [.http (.powerOn steady)] [.presenceAsked false, .presenceQueued true .ok, .work steady]
    true running rfl running_powered (by decide +kernel) (by simp [TaskEvent.boots]) ?_ (by decide +kernel)
  intro d ret among
  simp only [List.mem_cons, TaskEvent.presenceQueued.injEq, reduceCtorEq, List.not_mem_nil, or_false, false_or] at among
  exact among.2

/-- A task that asks while another is about to clear the flag is not heard. -/
example : along unread worked running [.presenceAsked true, .presenceQueued true .fail, .presenceAsked false,
    .presenceForgotten true, .presenceQueued false .ok, .work steady] = [] := by decide +kernel

/-! Every caller in the sources runs on the HTTP task, so nobody is left to queue a list. -/

def isSweep : Event → Bool
  | .sweep _ => true
  | _ => false

def isTick : TaskEvent C → Bool
  | .sweepTick => true
  | _ => false

/-- The event of the HTTP task, where the step is one. -/
def httpEvent : TaskEvent C → Option Event
  | .http e => if isSweep e then none else some e
  | _ => none

def executed (s : Tasks cfg C) : TaskEvent C → List Event
  | .http e => if isSweep e then [] else [e]
  | .work env => if s.node.powered = true ∧ s.queue.head? = some .heartbeatSweepWork then [.sweep env] else []
  | _ => []

omit [DecidableEq C] in
theorem executed_http (s : Tasks cfg C) (e : TaskEvent C) :
    (executed s e).filter (fun h => !isSweep h) = (httpEvent e).toList := by
  cases e with
  | http e =>
    simp only [executed, httpEvent]
    split_ifs with sweep <;> simp [sweep]
  | work env =>
    simp only [executed, httpEvent]
    split_ifs <;> rfl
  | _ => rfl

omit [DecidableEq C] in
theorem executed_sweeps (s : Tasks cfg C) (e : TaskEvent C) :
    (executed s e).countP isSweep = (worked s e).count .heartbeatSweepWork := by
  cases e with
  | http e =>
    simp only [executed, worked]
    split_ifs with sweep <;> simp [sweep]
  | work env =>
    simp only [executed, worked]
    by_cases powered : s.node.powered = true
    · cases queue : s.queue with
      | nil => simp
      | cons work rest => cases work <;> simp [powered, isSweep]
    · simp [powered]
  | _ => rfl

theorem pending_held {D : Type} [DecidableEq D] (t : Token D) : (if t.desk.pending then 1 else 0) = held t := by cases t <;> rfl

omit [DecidableEq C] in
theorem granted_tick (t : Token Unit) (s : Tasks cfg C) (e : TaskEvent C) :
    tally granted t (sweepActs s e) ≤ if isTick e then 1 else 0 := by
  cases e with
  | sweepTick =>
    simp only [sweepActs, isTick]
    split_ifs
    · cases t <;> simp [tally, granted]
    · exact Nat.zero_le _
  | _ =>
    simp only [sweepActs]
    try split_ifs
    all_goals exact Nat.zero_le _

theorem sweeps_step (cJSONParse : CJSONParse) {s : Tasks cfg C} (h : Orderly s) (e : TaskEvent C) :
    (executed s e).countP isSweep + (if (taskStep cJSONParse s e).heartbeatSweepPending then 1 else 0) ≤
      (if s.heartbeatSweepPending then 1 else 0) + (if isTick e then 1 else 0) := by
  obtain ⟨⟨t, before⟩, -⟩ := h
  cases boots : e.boots with
  | true =>
    cases e with
    | http e =>
      cases e with
      | powerOn env => exact Nat.zero_le _
      | _ => cases boots
    | _ => cases boots
  | false =>
    have after := (sweeps_follow cJSONParse).next before boots
    have flag : (if s.heartbeatSweepPending then 1 else 0) = held t := by
      rw [← pending_held, ← before]
      rfl
    have flag' : (if (taskStep cJSONParse s e).heartbeatSweepPending then 1 else 0) = held (t.run (sweepActs s e)) := by
      rw [← pending_held, ← after]
      rfl
    have books := account t (sweepActs s e)
    have ticked := granted_tick t s e
    rw [executed_sweeps, ← (sweeps_follow cJSONParse).serves s e t before, flag, flag']
    omega

/-- At most one more sweep than there are ticks, in any stretch of a run. -/
theorem sweeps_few (cJSONParse : CJSONParse) {s : Tasks cfg C} (h : Orderly s) (events : List (TaskEvent C)) :
    (along cJSONParse executed s events).countP isSweep ≤ (if s.heartbeatSweepPending then 1 else 0) + events.countP isTick := by
  induction events generalizing s with
  | nil => exact Nat.zero_le _
  | cons e events ih =>
    have rest := ih (orderly_step cJSONParse h e)
    have here := sweeps_step cJSONParse h e
    simp only [along, List.countP_append, List.countP_cons]
    omega

theorem queue_sweeps (cJSONParse : CJSONParse) {s : Tasks cfg Empty} (h : ∀ work ∈ s.queue, work = .heartbeatSweepWork)
    (e : TaskEvent Empty) : ∀ work ∈ (taskStep cJSONParse s e).queue, work = .heartbeatSweepWork := by
  have tail : ∀ work ∈ s.queue.tail, work = .heartbeatSweepWork := fun work among => h work (List.mem_of_mem_tail among)
  cases e with
  | http e =>
    cases e with
    | powerOn env => exact fun work among => absurd among List.not_mem_nil
    | _ => exact h
  | work env =>
    simp only [taskStep, doWork]
    split_ifs
    · cases queue : s.queue with
      | nil => exact h
      | cons work rest =>
        rw [queue] at tail
        cases work <;> exact tail
    · exact h
  | sweepQueued ret =>
    simp only [taskStep, heartbeatQueued]
    split_ifs
    · exact h
    · intro work among
      rcases List.mem_append.mp among with before | new
      · exact h work before
      · exact List.mem_singleton.mp new
    all_goals exact h
  | sweepTick =>
    simp only [taskStep, heartbeatTick]
    split_ifs <;> exact h
  | sweepForgotten =>
    simp only [taskStep, heartbeatForgotten]
    split_ifs <;> exact h
  | presenceAsked c => exact c.elim
  | presenceQueued c ret => exact c.elim
  | presenceForgotten c => exact c.elim

theorem executed_step (cJSONParse : CJSONParse) {s : Tasks cfg Empty} (h : ∀ work ∈ s.queue, work = .heartbeatSweepWork)
    (e : TaskEvent Empty) : (taskStep cJSONParse s e).node = run cJSONParse s.node (executed s e) := by
  cases e with
  | http e => cases e <;> rfl
  | work env =>
    simp only [taskStep, executed]
    by_cases powered : s.node.powered = true
    · cases queue : s.queue with
      | nil => simp [powered, doWork, queue, run]
      | cons work rest =>
        obtain rfl := h work (queue ▸ List.mem_cons_self)
        simp [powered, doWork, queue, run, step]
    · rw [if_neg powered, if_neg (fun both => powered both.1)]
      rfl
  | sweepTick =>
    simp only [taskStep, heartbeatTick]
    split_ifs <;> rfl
  | sweepQueued ret =>
    simp only [taskStep, heartbeatQueued]
    split_ifs <;> rfl
  | sweepForgotten =>
    simp only [taskStep, heartbeatForgotten]
    split_ifs <;> rfl
  | presenceAsked c => exact c.elim
  | presenceQueued c ret => exact c.elim
  | presenceForgotten c => exact c.elim

/-- A run of the tasks is a run of the node: the HTTP events as they come, and among them sweeps, not
    more than `heartbeat_task` has ticked. -/
theorem tasks_refine (cJSONParse : CJSONParse) (flash : InitialFlash) (events : List (TaskEvent Empty)) :
    ∃ hs : List Event, (taskRun cJSONParse (.started (Node.initial flash) : Tasks cfg Empty) events).node =
        run cJSONParse (Node.initial flash) hs ∧
      hs.filter (fun h => !isSweep h) = events.filterMap httpEvent ∧ hs.countP isSweep ≤ events.countP isTick := by
  have refined : ∀ (events : List (TaskEvent Empty)) (s : Tasks cfg Empty), (∀ work ∈ s.queue, work = .heartbeatSweepWork) →
      (taskRun cJSONParse s events).node = run cJSONParse s.node (along cJSONParse executed s events) ∧
      (along cJSONParse executed s events).filter (fun h => !isSweep h) = events.filterMap httpEvent := by
    intro events
    induction events with
    | nil => exact fun s _ => ⟨rfl, rfl⟩
    | cons e events ih =>
      intro s h
      obtain ⟨final, http⟩ := ih _ (queue_sweeps cJSONParse h e)
      constructor
      · refine final.trans ?_
        rw [executed_step cJSONParse h e]
        exact (run_append cJSONParse _ _ _).symm
      · simp only [along, List.filter_append, executed_http, http]
        cases found : httpEvent e with
        | none => rw [List.filterMap_cons_none found]; rfl
        | some x => rw [List.filterMap_cons_some found]; rfl
  obtain ⟨final, http⟩ := refined events (.started (Node.initial flash)) (by simp [Tasks.started])
  refine ⟨_, final, http, ?_⟩
  have orderly : Orderly (.started (Node.initial flash) : Tasks cfg Empty) := orderly_started _
  have few := sweeps_few cJSONParse orderly events
  simpa [Tasks.started] using few

end EspWebChat.TaskQueue
