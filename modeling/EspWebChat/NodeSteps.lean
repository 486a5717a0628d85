import EspWebChat.ProtocolSteps
import EspWebChat.WebSocketServer

set_option autoImplicit false

/-!
# What one event can do to a node

`step_steps` sums up the handlers: an event that is served takes the world along the actions
of `eventStep`. Invariants of whole runs follow from what one action preserves.
-/
namespace EspWebChat.NodeSteps
open Relation JsonTree CircularBuffer ClientSlots Interruptible ServerWorld MessageIdStore Sessions
open History JsonGate Protocol WebSocketServer ServerSteps SlotSteps SessionSteps HistorySteps
open TargetFields ProtocolSteps

variable {cfg : Config} {w u : World cfg} {fd : ℤ} {input : Option Json}

theorem markBrokenSession_spec
    (joined : ∀ userId, JoinedAs u.ctx.clientSlots fd userId → JoinedAs w.ctx.clientSlots fd userId) :
    Traces (Steps (FrameStep w fd input)) (markBrokenSession fd) u (fun _ _ => True) := by
  refine (chatSessionsMarkClosing_spec .close).bind ?_
  rintro wasJoined v - ⟨rfl, rfl⟩
  refine .ite (fun hj => ?_) (fun _ => .pure trivial)
  obtain ⟨userId, h⟩ := markClosing_joined hj
  refine Traces.bind (announced chatSessionsBroadcastOnlineUsers_spec (.inl ⟨userId, joined userId h⟩)) ?_
  rintro - v - -
  exact .pure trivial

theorem close_spec : Traces (Steps (FrameStep w fd input)) (chatWsCloseClient fd) u (fun _ _ => True) :=
  (chatWsCloseClient_spec .close).post (fun _ _ _ _ => trivial)

theorem handlePong_spec (h : Underway w u) (final : Bool) :
    Traces (Steps (FrameStep w fd input)) (handlePong fd final) u (fun _ _ => True) := by
  refine Traces.bind (P := fun joined v => v = u ∧ joined = isJoined u.ctx.clientSlots fd)
    (.reads ⟨rfl, rfl⟩) ?_
  rintro joined v - ⟨rfl, rfl⟩
  refine .ite (fun _ => ?_) (fun hj => ?_)
  · refine close_spec.bind ?_
    rintro - x - -
    exact .pure trivial
  · simp only [Bool.or_eq_true, Bool.not_eq_true', not_or, Bool.not_eq_false] at hj
    obtain ⟨userId, hu⟩ := isJoined_joined hj.2
    refine (chatSessionsMarkAlive_spec (.alive (.inl ⟨userId, h.joined _ _ hu⟩))).bind ?_
    rintro - x - -
    exact .pure trivial

theorem handleEmpty_spec (isText : Bool) :
    Traces (Steps (FrameStep w fd input)) (handleEmpty fd isText) u (fun _ _ => True) := by
  refine Traces.bind (answered (chatWsSendError_spec _ _)) ?_
  rintro ret v - -
  refine Traces.bind (P := fun _ x => x = v) (.reads rfl) ?_
  rintro joined x - rfl
  refine .ite (fun _ => ?_) (fun _ => .pure trivial)
  refine close_spec.bind ?_
  rintro - y - -
  exact .pure trivial

theorem handleText_spec (cJSONParse : CJSONParse) (h : Underway w u)
    (live : ∃ i, liveOn fd (u.ctx.clientSlots i) = true) (payload : List UInt8) :
    Traces (Steps (FrameStep w fd (chatJsonParseObject cJSONParse payload)))
      (handleText cJSONParse fd payload) u (fun _ _ => True) := by
  unfold handleText
  cases hroot : chatJsonParseObject cJSONParse payload with
  | none =>
    refine Traces.bind (answered (chatWsSendError_spec _ _)) ?_
    rintro ret v - -
    refine Traces.bind (P := fun _ x => x = v) (.reads rfl) ?_
    rintro joined x - rfl
    refine .ite (fun _ => ?_) (fun _ => .pure trivial)
    refine close_spec.bind ?_
    rintro - y - -
    exact .pure trivial
  | some root =>
    obtain ⟨object, unique, -⟩ := chatJsonParseObject_spec hroot
    exact chatProtocolHandleJson_spec h live object unique

theorem handleFrame_spec (cJSONParse : CJSONParse) (h : Underway w u)
    (live : ∃ i, liveOn fd (u.ctx.clientSlots i) = true) (frame : Frame) :
    Traces (Steps (FrameStep w fd (chatJsonParseObject cJSONParse frame.payload)))
      (handleFrame cJSONParse fd frame) u (fun _ _ => True) := by
  have broken : ∀ {v : World cfg}, v.ctx = u.ctx → ∀ userId,
      JoinedAs v.ctx.clientSlots fd userId → JoinedAs w.ctx.clientSlots fd userId := by
    intro v hv userId hj
    rw [hv] at hj
    exact h.joined _ _ hj
  refine .ite (fun _ => ?_) (fun _ => .ite (fun _ => handlePong_spec h _) (fun _ =>
    .ite (fun _ => handleEmpty_spec _) (fun _ => .ite (fun _ => ?_) (fun _ => ?_))))
  · refine (markBrokenSession_spec (broken rfl)).bind ?_
    rintro - v - -
    exact .pure trivial
  · refine Traces.bind (answered (chatWsSendError_spec _ _)) ?_
    rintro ret v - hv
    refine (markBrokenSession_spec (broken hv)).bind ?_
    rintro - x - -
    exact .pure trivial
  · refine allocates_spec.bind ?_
    rintro buffer v - rfl
    refine .ite (fun _ => .pure trivial) (fun _ => .ite (fun _ => ?_) (fun _ => ?_))
    · refine (markBrokenSession_spec (broken rfl)).bind ?_
      rintro - x - -
      exact .pure trivial
    · refine .ite (fun _ => ?_) (fun _ => .ite (fun _ => handlePong_spec h _) (fun _ =>
        .ite (fun _ => ?_) (fun _ => handleText_spec cJSONParse h live _)))
      · refine (markBrokenSession_spec (broken rfl)).bind ?_
        rintro - x - -
        exact .pure trivial
      · refine Traces.bind (answered (chatWsSendError_spec _ _)) ?_
        rintro ret x - -
        refine close_spec.bind ?_
        rintro - y - -
        exact .pure trivial

theorem chatWsHandler_spec (cJSONParse : CJSONParse) (fd : ℤ) (frame : Frame) (w : World cfg) :
    Traces (Steps (FrameStep w fd (chatJsonParseObject cJSONParse frame.payload)))
      (chatWsHandler cJSONParse fd frame) w (fun _ _ => True) := by
  refine (chatSessionsEnsureSlot_spec (fun now => .register now)).bind ?_
  rintro ready u - ⟨now, rfl, rfl⟩
  refine .ite (fun _ => .pure trivial) (fun hready => ?_)
  exact handleFrame_spec cJSONParse (underway_registered now fd)
    (ensureSlot_ready (by simpa using hready)) frame

def registers (cfg : Config) (fd : ℤ) : Permission cfg := fun _ a => ∃ now, a = .register now fd

theorem chatWsPreHandshakeHandler_spec :
    Traces (Steps (registers cfg fd)) (chatWsPreHandshakeHandler fd) w (fun _ _ => True) := by
  refine (chatSessionsEnsureSlot_spec (fun now => ⟨now, rfl⟩)).bind ?_
  rintro ready u - -
  exact .pure trivial

def sweeps (cfg : Config) : Permission cfg := fun u a =>
  (∃ now delayed, a = .sweep now delayed) ∨ announces cfg u a

theorem closeAll_spec (fds : List ℤ) :
    Traces (Steps (announces cfg)) (closeAll fds) w (fun _ _ => True) := by
  induction fds generalizing w with
  | nil => exact .pure trivial
  | cons fd fds ih =>
    refine (chatWsCloseClient_spec (.inl ⟨fd, rfl⟩)).bind ?_
    rintro - u - -
    exact ih

theorem heartbeatSweepWork_spec :
    Traces (Steps (sweeps cfg)) heartbeatSweepWork w (fun _ _ => True) := by
  have wide : ∀ (u : World cfg) (a : Action), announces cfg u a → sweeps cfg u a := fun _ _ => .inr
  refine deviceUptimeS_spec.bind ?_
  rintro now u - rfl
  refine Traces.bind (P := fun x v => x = u ∧ v = u) (.reads ⟨rfl, rfl⟩) ?_
  rintro x v - ⟨rfl, rfl⟩
  refine Traces.bind (takes (.sweep now _) (.inl ⟨now, _, rfl⟩) rfl) ?_
  rintro - v - -
  refine Traces.bind (permitsAll (closeAll_spec _) wide) ?_
  rintro - y - -
  refine Traces.bind (permitsAll (sendToAll_spec _) (fun u a h => wide u a (announces_of_spreads ?_ u a h))) ?_
  · exact ⟨"ping", by simp [serverTypes], typeIs_append (typeIs_nil "ping") (by simp)⟩
  rintro closed z - -
  refine .ite (fun _ => ?_) (fun _ => .pure trivial)
  refine Traces.bind (permitsAll chatSessionsBroadcastOnlineUsers_spec wide) ?_
  rintro - v - -
  exact .pure trivial

/-- The close callback frees the slot before it does anything else. -/
theorem chatWsSessionCloseHandler_path (env : ℕ → Reply) :
    ReflTransGen (Steps (announces cfg)) (act (.free fd) w)
      (chatWsSessionCloseHandler fd env w).world := by
  have rest : Traces (Steps (announces cfg)) (if (removeByFd w.ctx.clientSlots fd).1 then do
      let _ ← chatSessionsBroadcastOnlineUsers
      pure ()
    else pure () : Server cfg Unit) (act (.free fd) w) (fun _ _ => True) := by
    refine .ite (fun _ => ?_) (fun _ => .pure trivial)
    refine Traces.bind chatSessionsBroadcastOnlineUsers_spec ?_
    rintro - u - -
    exact .pure trivial
  exact (rest env).1

def boots (cfg : Config) : Permission cfg := fun u a =>
  retries cfg u a ∨ (u.ctx.messageIdCounterValid = false ∧ a = .unloaded) ∨ ∃ now, a = .beat now

theorem appMain_spec (blank : w.ctx = AppContext.zero cfg) :
    Traces (Steps (boots cfg)) appMain w (fun _ _ => True) := by
  have invalid : ∀ {u : World cfg}, u.ctx = AppContext.zero cfg → u.ctx.messageIdCounterValid = false := by
    intro u hu
    rw [hu]
    rfl
  refine Traces.bind (permits chatMessageIdsLoad_spec (fun u => u.ctx = AppContext.zero cfg) blank ?_
    (fun u a hu ha => .inl ⟨invalid hu, .inl ha⟩)) ?_
  · rintro u a hu ⟨n, rfl, -⟩
    exact hu
  rintro ⟨ret, state⟩ u - ⟨⟨n, rfl⟩, -, loaded, failed⟩
  have heart : ∀ v : World cfg, Traces (Steps (boots cfg)) chatSessionsStartHeartbeat v (fun _ _ => True) := by
    intro v
    refine deviceUptimeS_spec.bind ?_
    rintro now x - rfl
    exact (takes (.beat now) (.inr (.inr ⟨now, rfl⟩)) rfl).post (fun _ _ _ _ => trivial)
  cases hc : state.counterLoaded with
  | true =>
    have hs : state = loadedState n := loaded hc
    refine Traces.bind (takes (.load state) (.inl ⟨invalid blank, .inr (by rw [hs])⟩) ?_) ?_
    · rw [hs]
      simp only [startContext, loadedState, if_true, act, adoptIdState, blank]
    rintro - v - -
    exact heart v
  | false =>
    have hs : state = ⟨1, 0, false⟩ := failed hc
    refine Traces.bind (takes .unloaded (.inr (.inl ⟨invalid blank, rfl⟩)) ?_) ?_
    · rw [hs]
      simp only [startContext, act, blank, Bool.false_eq_true, if_false, AppContext.zero]
    rintro - v - -
    exact heart v

/-- What may be done while the event is served that found the world as `w`. -/
def eventStep (cJSONParse : CJSONParse) (w : World cfg) : Event → Permission cfg
  | .powerOn _ => boots cfg
  | .openSession _ => fun _ _ => False
  | .handshake fd _ => registers cfg fd
  | .frame fd frame _ => FrameStep w fd (chatJsonParseObject cJSONParse frame.payload)
  | .sweep _ => sweeps cfg
  | .closeSession _ _ => announces cfg

/-- What an event does to the world before its computation starts. -/
def entry (w : World cfg) : Event → World cfg
  | .powerOn _ => reset w
  | .closeSession fd _ => act (.free fd) w
  | _ => w

def served (s : Node cfg) : Event → Prop
  | .powerOn _ => True
  | .openSession _ => False
  | .handshake fd _ => s.serves fd
  | .frame fd _ _ => s.serves fd
  | .sweep _ => s.powered = true
  | .closeSession fd _ => s.serves fd

theorem step_steps (cJSONParse : CJSONParse) (s : Node cfg) (e : Event) :
    ((step cJSONParse s e).world = s.world ∧ ∀ f ∈ s.openFds, f ∈ (step cJSONParse s e).openFds) ∨
    (served s e ∧ ReflTransGen (Steps (eventStep cJSONParse s.world e)) (entry s.world e)
      (step cJSONParse s e).world) := by
  cases e with
  | powerOn env => exact .inr ⟨trivial, (appMain_spec rfl env).1⟩
  | openSession fd =>
    by_cases h : s.powered = true ∧ (fd : ℤ) ∉ s.openFds
    · have e : step cJSONParse s (.openSession fd) = { s with openFds := (fd : ℤ) :: s.openFds } :=
        if_pos h
      rw [e]
      exact .inl ⟨rfl, fun f hf => List.mem_cons_of_mem _ hf⟩
    · have e : step cJSONParse s (.openSession fd) = s := if_neg h
      rw [e]
      exact .inl ⟨rfl, fun f hf => hf⟩
  | handshake fd env =>
    by_cases h : s.serves fd
    · refine .inr ⟨h, ?_⟩
      simp only [step, if_pos h]
      exact (chatWsPreHandshakeHandler_spec env).1
    · have e : step cJSONParse s (.handshake fd env) = s := if_neg h
      rw [e]
      exact .inl ⟨rfl, fun f hf => hf⟩
  | frame fd frame env =>
    by_cases h : s.serves fd
    · refine .inr ⟨h, ?_⟩
      simp only [step, if_pos h]
      exact (chatWsHandler_spec cJSONParse fd frame s.world env).1
    · have e : step cJSONParse s (.frame fd frame env) = s := if_neg h
      rw [e]
      exact .inl ⟨rfl, fun f hf => hf⟩
  | sweep env =>
    by_cases h : s.powered = true
    · refine .inr ⟨h, ?_⟩
      simp only [step, if_pos h]
      exact (heartbeatSweepWork_spec env).1
    · have e : step cJSONParse s (.sweep env) = s := if_neg h
      rw [e]
      exact .inl ⟨rfl, fun f hf => hf⟩
  | closeSession fd env =>
    by_cases h : s.serves fd
    · refine .inr ⟨h, ?_⟩
      simp only [step, if_pos h]
      exact chatWsSessionCloseHandler_path env
    · have e : step cJSONParse s (.closeSession fd env) = s := if_neg h
      rw [e]
      exact .inl ⟨rfl, fun f hf => hf⟩

theorem path_invariant {P : Permission cfg} {u v : World cfg} (path : ReflTransGen (Steps P) u v)
    (I : World cfg → Prop) (keep : ∀ x a, I x → P x a → I (act a x)) (start : I u) : I v := by
  induction path with
  | refl => exact start
  | tail _ s ih =>
    obtain ⟨a, ha, rfl⟩ := s
    exact keep _ a ih ha

/-- An invariant of the world that every entry and every action keeps holds after every run. -/
theorem run_invariant (cJSONParse : CJSONParse) (I : World cfg → Prop)
    (enter : ∀ w e, I w → I (entry w e))
    (keep : ∀ w e u a, I u → eventStep cJSONParse w e u a → I (act a u))
    (s : Node cfg) (start : I s.world) (events : List Event) :
    I (run cJSONParse s events).world := by
  induction events generalizing s with
  | nil => exact start
  | cons e events ih =>
    refine ih _ ?_
    rcases step_steps cJSONParse s e with ⟨h, -⟩ | ⟨-, path⟩
    · rw [h]
      exact start
    · exact path_invariant path I (keep s.world e) (enter _ e start)

theorem run_append (cJSONParse : CJSONParse) (s : Node cfg) (before after : List Event) :
    run cJSONParse s (before ++ after) = run cJSONParse (run cJSONParse s before) after :=
  List.foldl_append ..

end EspWebChat.NodeSteps
