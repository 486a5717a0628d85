import EspWebChat.HeartbeatLog

set_option autoImplicit false

/-!
# Heartbeat timeouts

The invariant of the log holds of every run, and a sweep decides by it: a client is closed
exactly when the log says that it let a ping pass or never joined.
-/
namespace EspWebChat.HeartbeatTimeouts
open JsonTree ClientSlots Interruptible ServerWorld Sessions ServerSteps SlotSteps SessionSteps HeartbeatSweeps HeartbeatLog

variable {cfg : Config} {w u v : World cfg} {log : Log cfg.maxClients} {clock now : ℤ} {env : ℕ → Reply} {accepted : Bool}

theorem agrees_start (h : Agrees w log clock) (later : clock ≤ now) :
    Agrees (beat now w) (log.note .startHeartbeat now accepted w (beat now w)) now := by
  constructor
  · rintro last hl
    cases hl
    rfl
  · exact fun d hd => (h.delayed d hd).trans later
  · exact h.distinct
  · intro i live
    have unchanged : noteSession .startHeartbeat now accepted w (beat now w) i (log.sessions i) = log.sessions i := by
      simp [noteSession, beat]
    change Tracks (noteSession .startHeartbeat now accepted w (beat now w) i (log.sessions i)) log.delayedAt _ _
    rw [unchanged]
    exact (h.tracks i live).sooner later

theorem tagged_returned {α : Type} {m : Server cfg α} {b : Bool} (h : ((m >>= fun _ => pure b) env w).result = some accepted) :
    accepted = b ∧ ∃ a, (m env w).result = some a ∧
      ((m >>= fun _ => pure b) env w).world = (m env w).world := by
  obtain ⟨a, u, env', run, rest⟩ := bind_returned h
  rw [rest] at h ⊢
  rw [run]
  exact ⟨(Option.some.inj h).symm, a, rfl, rfl⟩

theorem chatSessionsStartHeartbeat_returned (h : (chatSessionsStartHeartbeat env w).result = some ()) :
    (chatSessionsStartHeartbeat env w).world = beat (env 0).uptimeS w := by
  have run := deviceUptimeS_returned h
  have ends : chatSessionsStartHeartbeat env w = ⟨some (), beat (env 0).uptimeS w, fun k => env (k + 1)⟩ := run
  rw [ends]

theorem chatSessionsUpdateTimeSample_kept (fd : ℤ) (root : Json) (env : ℕ → Reply) (w : World cfg) :
    (chatSessionsUpdateTimeSample fd root env w).world.ctx.lastHeartbeatSweepS = w.ctx.lastHeartbeatSweepS ∧
    ∀ i, Live ((chatSessionsUpdateTimeSample fd root env w).world.ctx.clientSlots i) →
      Live (w.ctx.clientSlots i) ∧
      beats ((chatSessionsUpdateTimeSample fd root env w).world.ctx.clientSlots i) = beats (w.ctx.clientSlots i) := by
  have sampled := chatSessionsUpdateTimeSample_spec (P := fun _ a => ∃ offset, a = .sample fd offset) (w := w) root
    (fun offset => ⟨offset, rfl⟩)
  refine sampled.invariant (fun v => v.ctx.lastHeartbeatSweepS = w.ctx.lastHeartbeatSweepS ∧
    ∀ i, Live (v.ctx.clientSlots i) → Live (w.ctx.clientSlots i) ∧ beats (v.ctx.clientSlots i) = beats (w.ctx.clientSlots i))
    ?_ ⟨rfl, fun i live => ⟨live, rfl⟩⟩ env
  rintro u v ⟨beat, kept⟩ ⟨a, ⟨offset, rfl⟩, rfl⟩
  refine ⟨beat, ?_⟩
  intro i live
  obtain ⟨before, same⟩ := kept_sample u.ctx.clientSlots fd offset i live
  exact ⟨(kept i before).1, same.trans (kept i before).2⟩

theorem agrees_next (h : Agrees w log clock) (op : Operation) (later : clock ≤ (env 0).uptimeS)
    (started : op = .sweep → log.sweptAt.isSome = true) (returned : (op.run env w).result = some accepted) :
    Agrees (op.run env w).world (log.note op (env 0).uptimeS accepted w (op.run env w).world) (env 0).uptimeS := by
  cases op with
  | startHeartbeat =>
    obtain ⟨-, _, ends, same⟩ := tagged_returned returned
    have world : (Operation.startHeartbeat.run env w).world = beat (env 0).uptimeS w :=
      same.trans (chatSessionsStartHeartbeat_returned ends)
    rw [world]
    exact agrees_start h later
  | frame fd =>
    obtain ⟨ready, ends⟩ := chatSessionsEnsureSlot_returned returned
    refine agrees_frame h later ?_ ready ?_
    · exact congrArg (fun v => v.ctx.lastHeartbeatSweepS) ends
    · exact congrArg (fun v => v.ctx.clientSlots) ends
  | join fd userId name =>
    obtain ⟨refused, same⟩ | ⟨done, b, bound, fades⟩ := chatSessionsUpdateIdentity_returned returned
    · rw [refused]
      refine agrees_refused h rfl later ?_ ?_
      · exact congrArg (fun v => v.ctx.lastHeartbeatSweepS) same
      · exact congrArg (fun v => v.ctx.clientSlots) same
    · rw [done]
      exact agrees_join h later bound fades
  | pong fd =>
    obtain ⟨done, -⟩ := tagged_returned returned
    rw [done]
    exact agrees_pong h later rfl rfl
  | sample fd root =>
    obtain ⟨-, -, -, same⟩ := tagged_returned returned
    obtain ⟨beat, kept⟩ := chatSessionsUpdateTimeSample_kept fd root env w
    have world : ((Operation.sample fd root).run env w).world = (chatSessionsUpdateTimeSample fd root env w).world := same
    rw [world]
    exact agrees_silent h trivial later beat kept
  | close fd => exact agrees_silent h trivial later rfl (kept_closing w.ctx.clientSlots fd)
  | remove fd => exact agrees_silent h trivial later rfl (kept_removal w.ctx.clientSlots fd)
  | sweep =>
    obtain ⟨-, _, ends, same⟩ := tagged_returned returned
    have world : (Operation.sweep.run env w).world = (heartbeatSweepWork env w).world := same
    rw [world]
    exact agrees_sweep h (started rfl) later (heartbeatSweepWork_swept ends)

theorem agrees_reached (reached : Reached w log clock) : Agrees w log clock := by
  induction reached with
  | boot clock free =>
    refine ⟨fun last h => (by cases h), fun d h => (by cases h), ?_, ?_⟩
    · intro i j live
      exact absurd live.1 (by simp [free i])
    · intro i live
      exact absurd live.1 (by simp [free i])
  | next _ op env later started returned ih => exact agrees_next ih op later started returned

/-- The sweep decides under the mutex to close slot `i`. -/
def timesOut (w : World cfg) (now : ℤ) (i : Fin cfg.maxClients) : Prop := (judged w now i).verdict = .close

/-- The last ping is an interval old or older, and no frame was handled since. -/
def Unanswered (s : Session) (interval now : ℤ) : Prop :=
  ∃ pingedAt, s.pingedAt = some pingedAt ∧ interval ≤ now - pingedAt ∧ s.heard = false

/-- A sweep at `now` that leads from `w` to `u`, and the logs before and after it. -/
structure SweepExact (w : World cfg) (log : Log cfg.maxClients) (last now : ℤ) (u : World cfg)
    (log' : Log cfg.maxClients) : Prop where
  joined : ∀ i, Live (w.ctx.clientSlots i) → (w.ctx.clientSlots i).joined = true →
    (timesOut w now i ↔ now - last ≤ cfg.heartbeatIntervalS ∧ Unanswered (log.sessions i) cfg.heartbeatIntervalS now)
  unjoined : ∀ i, Live (w.ctx.clientSlots i) → (w.ctx.clientSlots i).joined = false →
    (timesOut w now i ↔ now - last ≤ cfg.heartbeatIntervalS ∧
      wsJoinTimeoutS ≤ now - rebasedAt (log.sessions i).registeredAt log.delayedAt)
  closed : ∀ i, timesOut w now i → Live (w.ctx.clientSlots i) ∧ (u.ctx.clientSlots i).closing = true
  recent : ∀ i, Live (u.ctx.clientSlots i) → (u.ctx.clientSlots i).joined = true →
    ∃ at', ((log'.sessions i).pingedAt = some at' ∨ (log'.sessions i).joinedAt = some at') ∧
      now - at' < cfg.heartbeatIntervalS
  waiting : ∀ i, Live (u.ctx.clientSlots i) → (u.ctx.clientSlots i).joined = false →
    now - rebasedAt (log'.sessions i).registeredAt log'.delayedAt < wsJoinTimeoutS

theorem late_false (h : Agrees w log clock) {last : ℤ} (swept : log.sweptAt = some last) (now : ℤ) :
    late w now = false ↔ now - last ≤ cfg.heartbeatIntervalS := by
  rw [late, h.swept last swept, decide_eq_false_iff_not]
  omega

/-- A slot that is not alive has had no frame since its ping, and the other way round. -/
theorem unanswered_iff {s : Session} {delayedAt : Option ℤ} {slot : ClientSlot} (h : Tracks s delayedAt clock slot)
    (joined : slot.joined = true) (interval now : ℤ) :
    Unanswered s interval now ↔ slot.isAlive = false ∧ interval ≤ now - slot.lastPingS := by
  constructor
  · rintro ⟨pingedAt, pinged, old, unheard⟩
    have silent : slot.isAlive = false := by
      by_contra alive
      rcases h.alive joined (by simpa using alive) with unpinged | heard
      · exact absurd (unpinged.symm.trans pinged) (by simp)
      · exact absurd (heard.symm.trans unheard) (by simp)
    have same : pingedAt = slot.lastPingS := Option.some.inj (pinged.symm.trans (h.silent joined silent).1)
    rw [← same]
    exact ⟨silent, old⟩
  · rintro ⟨silent, old⟩
    exact ⟨slot.lastPingS, (h.silent joined silent).1, old, (h.silent joined silent).2⟩

def tick (uptime : Fin 100) : ℕ → Reply := fun _ =>
  ⟨true, ⟨none, true⟩, true, true, .ok, uptime.val, 0, true, by revert uptime; decide⟩

def blank : World (Config.default CjsonPrinter.fifteenDigits) := ⟨AppContext.zero _, ⟨⟨none, none⟩, ⟨none, none⟩⟩, []⟩

def begun : World (Config.default CjsonPrinter.fifteenDigits) := (Operation.startHeartbeat.run (tick 0) blank).world
def begunLog : Log (Config.default CjsonPrinter.fifteenDigits).maxClients := (Log.empty _).note .startHeartbeat 0 true blank begun

def joinedWorld : World (Config.default CjsonPrinter.fifteenDigits) := ((Operation.join 5 "ann" "Ann").run (tick 0) begun).world
def joinedLog : Log (Config.default CjsonPrinter.fifteenDigits).maxClients := begunLog.note (.join 5 "ann" "Ann") 0 true begun joinedWorld

def pingedWorld : World (Config.default CjsonPrinter.fifteenDigits) := (Operation.sweep.run (tick 30) joinedWorld).world
def pingedLog : Log (Config.default CjsonPrinter.fifteenDigits).maxClients := joinedLog.note .sweep 30 true joinedWorld pingedWorld

theorem pinged_reached : Reached pingedWorld pingedLog 30 := by
  have begunReached : Reached begun begunLog 0 :=
    .next (.boot 0 (fun _ => rfl)) .startHeartbeat (tick 0) (le_refl 0) (fun h => by cases h) (by decide +kernel)
  have joinedReached : Reached joinedWorld joinedLog 0 :=
    .next begunReached (.join 5 "ann" "Ann") (tick 0) (le_refl 0) (fun h => by cases h) (by decide +kernel)
  exact .next joinedReached .sweep (tick 30) (by decide) (fun _ => rfl) (by decide +kernel)

def firstClient : Fin (Config.default CjsonPrinter.fifteenDigits).maxClients := ⟨0, by decide⟩

end EspWebChat.HeartbeatTimeouts
