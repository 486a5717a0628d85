import EspWebChat.HeartbeatSweeps

set_option autoImplicit false

/-!
# The heartbeat log

A run of the session functions, each at its own uptime, and beside it a log of what the clients
and the heartbeat did. The log does not look at `is_alive`, `registered_at_s` and `last_ping_s`;
the invariant says how these three fields follow it. `heartbeat_task` only decides when a sweep
is queued, so here a sweep comes at any time, after any joins, closes and reused descriptors.
-/
namespace EspWebChat.HeartbeatLog
open JsonTree ClientSlots Interruptible ServerWorld Sessions ServerSteps SlotSteps SessionSteps HeartbeatSweeps

/-- `frame` is the handshake of a session or the start of any frame, a pong included; `pong` is
    what follows it in the pong handler. -/
inductive Operation where
  | startHeartbeat
  | frame (fd : ℕ)
  | join (fd : ℕ) (userId name : String)
  | pong (fd : ℕ)
  | sample (fd : ℕ) (root : Json)
  | close (fd : ℕ)
  | remove (fd : ℕ)
  | sweep

variable {cfg : Config}

def Operation.run : Operation → Server cfg Bool
  | .startHeartbeat => do
    chatSessionsStartHeartbeat
    pure true
  | .frame fd => chatSessionsEnsureSlot fd
  | .join fd userId name => chatSessionsUpdateIdentity fd userId name
  | .pong fd => do
    chatSessionsMarkAlive fd
    pure true
  | .sample fd root => do
    chatSessionsUpdateTimeSample fd root
    pure true
  | .close fd => chatSessionsMarkClosing fd
  | .remove fd => chatSessionsRemoveByFd fd
  | .sweep => do
    heartbeatSweepWork
    pure true

/-- One client in one slot, from the moment the slot is taken. `heard` is whether a frame of it
    was handled after the last ping. -/
structure Session where
  registeredAt : ℤ
  joinedAt : Option ℤ
  pingedAt : Option ℤ
  heard : Bool

/-- `sweptAt` is the last sweep or the start of the heartbeat, `delayedAt` the last sweep that
    came more than an interval after the one before. -/
structure Log (n : ℕ) where
  sessions : Fin n → Session
  sweptAt : Option ℤ
  delayedAt : Option ℤ

def Log.empty (n : ℕ) : Log n := ⟨fun _ => ⟨0, none, none, false⟩, none, none⟩

def Log.late {n : ℕ} (log : Log n) (interval now : ℤ) : Bool :=
  log.sweptAt.any (fun last => decide (interval < now - last))

/-- What the operation that led from `u` to `v` means for the session in slot `i`. -/
def noteSession (op : Operation) (now : ℤ) (accepted : Bool) (u v : World cfg) (i : Fin cfg.maxClients)
    (s : Session) : Session :=
  let taken := !(u.ctx.clientSlots i).active && (v.ctx.clientSlots i).active
  let s := if taken then ⟨now, none, none, false⟩ else s
  match op with
  | .frame fd | .pong fd => if accepted && liveOn fd (v.ctx.clientSlots i) then { s with heard := true } else s
  | .join fd _ _ =>
    if accepted && liveOn fd (v.ctx.clientSlots i) then { s with joinedAt := some now, heard := true } else s
  | .sweep =>
    if pingDelivered (u.ctx.clientSlots i).fd u v then { s with pingedAt := some now, heard := false } else s
  | _ => s

def Log.note (log : Log cfg.maxClients) (op : Operation) (now : ℤ) (accepted : Bool) (u v : World cfg) :
    Log cfg.maxClients where
  sessions := fun i => noteSession op now accepted u v i (log.sessions i)
  sweptAt := match op with
    | .startHeartbeat | .sweep => some now
    | _ => log.sweptAt
  delayedAt := match op with
    | .sweep => if log.late cfg.heartbeatIntervalS now then some now else log.delayedAt
    | _ => log.delayedAt

/-- The worlds that operations at non-decreasing uptimes lead to, with their logs. The heartbeat
    sweeps only after it was started; an operation that loses power ends the run. -/
inductive Reached : World cfg → Log cfg.maxClients → ℤ → Prop where
  | boot {w : World cfg} (clock : ℤ) (free : ∀ i, (w.ctx.clientSlots i).active = false) :
      Reached w (Log.empty cfg.maxClients) clock
  | next {w : World cfg} {log : Log cfg.maxClients} {clock : ℤ} (before : Reached w log clock)
      (op : Operation) (env : ℕ → Reply) {accepted : Bool} (later : clock ≤ (env 0).uptimeS)
      (started : op = .sweep → log.sweptAt.isSome = true)
      (returned : (op.run env w).result = some accepted) :
      Reached (op.run env w).world (log.note op (env 0).uptimeS accepted w (op.run env w).world) (env 0).uptimeS

/-- The later of the registration and the last delayed sweep. -/
def rebasedAt (registeredAt : ℤ) : Option ℤ → ℤ
  | none => registeredAt
  | some delayedAt => max registeredAt delayedAt

/-- How a live slot follows its session. -/
structure Tracks (s : Session) (delayedAt : Option ℤ) (clock : ℤ) (slot : ClientSlot) : Prop where
  known : 0 ≤ slot.fd
  past : s.registeredAt ≤ clock
  waiting : slot.joined = false → slot.registeredAtS = rebasedAt s.registeredAt delayedAt
  stamped : slot.joined = true → s.pingedAt = some slot.lastPingS ∨ s.joinedAt = some slot.lastPingS
  silent : slot.joined = true → slot.isAlive = false → s.pingedAt = some slot.lastPingS ∧ s.heard = false
  alive : slot.joined = true → slot.isAlive = true → s.pingedAt = none ∨ s.heard = true

def Distinct {n : ℕ} (t : SlotTable n) : Prop := ∀ i j, Live (t i) → Live (t j) → (t i).fd = (t j).fd → i = j

structure Agrees (w : World cfg) (log : Log cfg.maxClients) (clock : ℤ) : Prop where
  swept : ∀ last, log.sweptAt = some last → w.ctx.lastHeartbeatSweepS = last
  delayed : ∀ d, log.delayedAt = some d → d ≤ clock
  distinct : Distinct w.ctx.clientSlots
  tracks : ∀ i, Live (w.ctx.clientSlots i) → Tracks (log.sessions i) log.delayedAt clock (w.ctx.clientSlots i)

variable {w u v : World cfg} {log : Log cfg.maxClients} {clock now : ℤ} {env : ℕ → Reply} {accepted : Bool}

theorem Tracks.sooner {s : Session} {delayedAt : Option ℤ} {slot : ClientSlot} (h : Tracks s delayedAt clock slot)
    (later : clock ≤ now) : Tracks s delayedAt now slot :=
  ⟨h.known, h.past.trans later, h.waiting, h.stamped, h.silent, h.alive⟩

theorem Tracks.hears {s : Session} {delayedAt : Option ℤ} {slot : ClientSlot} (h : Tracks s delayedAt clock slot)
    (alive : slot.joined = true → slot.isAlive = true) : Tracks { s with heard := true } delayedAt clock slot := by
  refine ⟨h.known, h.past, h.waiting, h.stamped, ?_, fun _ _ => .inr rfl⟩
  intro joined silent
  exact absurd ((alive joined).symm.trans silent) (by simp)

theorem Tracks.answers {s : Session} {delayedAt : Option ℤ} {slot : ClientSlot} (h : Tracks s delayedAt clock slot) :
    Tracks { s with heard := true } delayedAt clock { slot with isAlive := true } :=
  ⟨h.known, h.past, h.waiting, h.stamped, fun _ silent => (by cases silent), fun _ _ => .inr rfl⟩

def beats (s : ClientSlot) : ℤ × Bool × Bool × ℤ × ℤ := (s.fd, s.joined, s.isAlive, s.registeredAtS, s.lastPingS)

theorem Tracks.same {s : Session} {delayedAt : Option ℤ} {a b : ClientSlot} (h : Tracks s delayedAt clock a)
    (same : beats b = beats a) : Tracks s delayedAt clock b := by
  simp only [beats, Prod.mk.injEq] at same
  obtain ⟨fd, joined, alive, registered, ping⟩ := same
  constructor
  · rw [fd]
    exact h.known
  · exact h.past
  · rw [joined, registered]
    exact h.waiting
  · rw [joined, ping]
    exact h.stamped
  · rw [joined, alive, ping]
    exact h.silent
  · rw [joined, alive]
    exact h.alive

theorem rebasedAt_now {delayedAt : Option ℤ} (past : ∀ d, delayedAt = some d → d ≤ now) : rebasedAt now delayedAt = now := by
  cases delayedAt with
  | none => rfl
  | some d => exact max_eq_left (past d rfl)

theorem Distinct.live {n : ℕ} {t t' : SlotTable n} (h : Distinct t)
    (less : ∀ i, Live (t' i) → Live (t i) ∧ (t' i).fd = (t i).fd) : Distinct t' := by
  intro i j hi hj same
  obtain ⟨li, fi⟩ := less i hi
  obtain ⟨lj, fj⟩ := less j hj
  exact h i j li lj (fi.symm.trans (same.trans fj))

theorem Distinct.give {n : ℕ} {t t' : SlotTable n} {k : Fin n} {fd : ℤ} (h : Distinct t)
    (others : ∀ i, i ≠ k → Live (t' i) → t' i = t i ∧ (t i).fd ≠ fd) (given : Live (t' k) → (t' k).fd = fd) :
    Distinct t' := by
  intro i j hi hj same
  by_cases ik : i = k
  · by_cases jk : j = k
    · exact ik.trans jk.symm
    · obtain ⟨ej, nj⟩ := others j jk hj
      rw [ik] at hi same
      rw [given hi, ej] at same
      exact absurd same.symm nj
  · obtain ⟨ei, ni⟩ := others i ik hi
    by_cases jk : j = k
    · rw [jk] at hj same
      rw [given hj, ei] at same
      exact absurd same ni
    · obtain ⟨ej, -⟩ := others j jk hj
      rw [ei, ej] at same
      exact h i j (ei ▸ hi) (ej ▸ hj) same

def Operation.quiet : Operation → Prop
  | .startHeartbeat | .sweep => False
  | _ => True

theorem agrees_noted (h : Agrees w log clock) {op : Operation} (quiet : op.quiet) (later : clock ≤ now)
    (beat : v.ctx.lastHeartbeatSweepS = w.ctx.lastHeartbeatSweepS) (distinct : Distinct v.ctx.clientSlots)
    (tracks : ∀ i, Live (v.ctx.clientSlots i) →
      Tracks (noteSession op now accepted w v i (log.sessions i)) log.delayedAt now (v.ctx.clientSlots i)) :
    Agrees v (log.note op now accepted w v) now := by
  have swept : (log.note op now accepted w v).sweptAt = log.sweptAt := by
    cases op with
    | startHeartbeat => cases quiet
    | sweep => cases quiet
    | _ => rfl
  have delayed : (log.note op now accepted w v).delayedAt = log.delayedAt := by
    cases op with
    | sweep => cases quiet
    | _ => rfl
  constructor
  · rw [swept, beat]
    exact h.swept
  · rw [delayed]
    exact fun d hd => (h.delayed d hd).trans later
  · exact distinct
  · rw [delayed]
    exact tracks

def Operation.silent : Operation → Prop
  | .sample _ _ | .close _ | .remove _ => True
  | _ => False

theorem agrees_silent (h : Agrees w log clock) {op : Operation} (silent : op.silent) (later : clock ≤ now)
    (beat : v.ctx.lastHeartbeatSweepS = w.ctx.lastHeartbeatSweepS)
    (kept : ∀ i, Live (v.ctx.clientSlots i) →
      Live (w.ctx.clientSlots i) ∧ beats (v.ctx.clientSlots i) = beats (w.ctx.clientSlots i)) :
    Agrees v (log.note op now accepted w v) now := by
  have quiet : op.quiet := by
    cases op with
    | sample => trivial
    | close => trivial
    | remove => trivial
    | _ => cases silent
  refine agrees_noted h quiet later beat ?_ ?_
  · refine h.distinct.live ?_
    intro i live
    exact ⟨(kept i live).1, congrArg Prod.fst (kept i live).2⟩
  · intro i live
    obtain ⟨before, same⟩ := kept i live
    have unchanged : noteSession op now accepted w v i (log.sessions i) = log.sessions i := by
      cases op with
      | sample => simp [noteSession, before.1]
      | close => simp [noteSession, before.1]
      | remove => simp [noteSession, before.1]
      | _ => cases silent
    rw [unchanged]
    exact ((h.tracks i before).sooner later).same same

def Operation.fd : Operation → Option ℕ
  | .frame fd | .join fd _ _ | .pong fd => some fd
  | _ => none

/-- The operation concerns the slot `k`, which is or becomes the only live one of the descriptor. -/
theorem agrees_given (h : Agrees w log clock) {op : Operation} {fd : ℕ} {k : Fin cfg.maxClients} (on : op.fd = some fd)
    (later : clock ≤ now) (beat : v.ctx.lastHeartbeatSweepS = w.ctx.lastHeartbeatSweepS)
    (others : ∀ i, i ≠ k → Live (v.ctx.clientSlots i) →
      v.ctx.clientSlots i = w.ctx.clientSlots i ∧ (w.ctx.clientSlots i).fd ≠ fd)
    (given : Live (v.ctx.clientSlots k) → (v.ctx.clientSlots k).fd = fd ∧
      Tracks (noteSession op now accepted w v k (log.sessions k)) log.delayedAt now (v.ctx.clientSlots k)) :
    Agrees v (log.note op now accepted w v) now := by
  have quiet : op.quiet := by
    cases op with
    | startHeartbeat => cases on
    | sweep => cases on
    | _ => trivial
  refine agrees_noted h quiet later beat (h.distinct.give others (fun live => (given live).1)) ?_
  intro i live
  by_cases hi : i = k
  · rw [hi] at live ⊢
    exact (given live).2
  · obtain ⟨same, other⟩ := others i hi live
    have elsewhere : liveOn fd (w.ctx.clientSlots i) = false := by
      by_contra here
      exact other (live_of_liveOn (by simpa using here)).2
    have unchanged : noteSession op now accepted w v i (log.sessions i) = log.sessions i := by
      cases op with
      | frame f =>
        cases on
        simp [noteSession, same, elsewhere]
      | join f userId name =>
        cases on
        simp [noteSession, same, elsewhere]
      | pong f =>
        cases on
        simp [noteSession, same, elsewhere]
      | _ => cases on
    rw [unchanged, same]
    rw [same] at live
    exact (h.tracks i live).sooner later

theorem agrees_refused (h : Agrees w log clock) {op : Operation} {fd : ℕ} (on : op.fd = some fd) (later : clock ≤ now)
    (beat : v.ctx.lastHeartbeatSweepS = w.ctx.lastHeartbeatSweepS) (slots : v.ctx.clientSlots = w.ctx.clientSlots) :
    Agrees v (log.note op now false w v) now := by
  have quiet : op.quiet := by
    cases op with
    | startHeartbeat => cases on
    | sweep => cases on
    | _ => trivial
  refine agrees_noted h quiet later beat (by rw [slots]; exact h.distinct) ?_
  intro i live
  have unchanged : noteSession op now false w v i (log.sessions i) = log.sessions i := by
    cases op with
    | frame => simp [noteSession, slots]
    | join => simp [noteSession, slots]
    | pong => simp [noteSession, slots]
    | _ => cases on
  rw [unchanged, slots]
  rw [slots] at live
  exact (h.tracks i live).sooner later

theorem Agrees.only (h : Agrees w log clock) {fd : ℤ} {k i : Fin cfg.maxClients}
    (on : liveOn fd (w.ctx.clientSlots k) = true) (other : i ≠ k) (live : Live (w.ctx.clientSlots i)) :
    (w.ctx.clientSlots i).fd ≠ fd := by
  obtain ⟨before, same⟩ := live_of_liveOn on
  intro here
  exact other (h.distinct i k live before (here.trans same.symm))

theorem ensureSlot_cases {n : ℕ} (now : ℤ) (t : SlotTable n) (fd : ℤ) :
    ensureSlot now t fd = (false, t) ∨
    (∃ k, liveOn fd (t k) = true ∧ ensureSlot now t fd = (true, Function.update t k { t k with isAlive := true })) ∨
    ∃ k, (∀ j, holdsFd fd (t j) = false) ∧ (t k).active = false ∧
      ensureSlot now t fd = (true, Function.update t k (freshSlot now fd (t k))) := by
  unfold ensureSlot
  cases hk : firstSlot (holdsFd fd) t with
  | some k =>
    obtain ⟨active, same⟩ := holdsFd_iff.mp (firstSlot_some hk)
    cases closing : (t k).closing with
    | true => exact .inl (by simp [closing])
    | false => exact .inr (.inl ⟨k, liveOn_iff.mpr ⟨active, closing, same⟩, by simp [closing]⟩)
  | none =>
    cases hf : firstSlot (fun s => !s.active) t with
    | some k => exact .inr (.inr ⟨k, firstSlot_none hk, by simpa using firstSlot_some hf, rfl⟩)
    | none => exact .inl rfl

theorem chatSessionsEnsureSlot_returned {fd : ℤ} (h : (chatSessionsEnsureSlot fd env w).result = some accepted) :
    accepted = (ensureSlot (env 0).uptimeS w.ctx.clientSlots fd).1 ∧
    (chatSessionsEnsureSlot fd env w).world = w.setSlots (ensureSlot (env 0).uptimeS w.ctx.clientSlots fd).2 := by
  have run := deviceUptimeS_returned h
  have ends : chatSessionsEnsureSlot fd env w =
      ⟨some (ensureSlot (env 0).uptimeS w.ctx.clientSlots fd).1,
        w.setSlots (ensureSlot (env 0).uptimeS w.ctx.clientSlots fd).2, fun k => env (k + 1)⟩ := run
  rw [ends] at h ⊢
  exact ⟨(Option.some.inj h).symm, rfl⟩

theorem agrees_frame (h : Agrees w log clock) {fd : ℕ} (later : clock ≤ now)
    (beat : v.ctx.lastHeartbeatSweepS = w.ctx.lastHeartbeatSweepS)
    (ready : accepted = (ensureSlot now w.ctx.clientSlots fd).1)
    (slots : v.ctx.clientSlots = (ensureSlot now w.ctx.clientSlots fd).2) :
    Agrees v (log.note (.frame fd) now accepted w v) now := by
  rcases ensureSlot_cases now w.ctx.clientSlots fd with e | ⟨k, on, e⟩ | ⟨k, unheld, free, e⟩
  · rw [e] at ready slots
    rw [ready]
    exact agrees_refused h rfl later beat slots
  · rw [e] at ready slots
    obtain ⟨before, same⟩ := live_of_liveOn on
    have marked : v.ctx.clientSlots k = { w.ctx.clientSlots k with isAlive := true } := by
      rw [slots]
      exact Function.update_self ..
    refine agrees_given (k := k) h rfl later beat ?_ ?_
    · intro i hi live
      have kept : v.ctx.clientSlots i = w.ctx.clientSlots i := by
        rw [slots]
        exact Function.update_of_ne hi ..
      rw [kept] at live
      exact ⟨kept, h.only on hi live⟩
    · intro _
      have noted : noteSession (.frame fd) now accepted w v k (log.sessions k) =
          { log.sessions k with heard := true } := by
        simp [noteSession, ready, marked, liveOn, before.1, before.2, same]
      rw [marked, noted]
      exact ⟨same, ((h.tracks k before).sooner later).answers⟩
  · rw [e] at ready slots
    have taken : v.ctx.clientSlots k = freshSlot now fd (w.ctx.clientSlots k) := by
      rw [slots]
      exact Function.update_self ..
    refine agrees_given (k := k) h rfl later beat ?_ ?_
    · intro i hi live
      have kept : v.ctx.clientSlots i = w.ctx.clientSlots i := by
        rw [slots]
        exact Function.update_of_ne hi ..
      rw [kept] at live
      refine ⟨kept, ?_⟩
      intro here
      exact absurd (holdsFd_iff.mpr ⟨live.1, here⟩) (by simp [unheld i])
    · intro _
      have noted : noteSession (.frame fd) now accepted w v k (log.sessions k) = ⟨now, none, none, true⟩ := by
        simp [noteSession, ready, taken, liveOn, free, freshSlot]
      have rebased := rebasedAt_now (fun d hd => (h.delayed d hd).trans later)
      rw [taken, noted]
      exact ⟨rfl, Int.natCast_nonneg fd, le_refl now, fun _ => rebased.symm, fun joined => (by cases joined),
        fun joined => (by cases joined), fun joined => (by cases joined)⟩

theorem notifyStale_fades (fds : List ℤ) (env : ℕ → Reply) : Fades w (notifyStale fds env w).world :=
  fades_of_path (permitsAll (notifyStale_spec fds) announces_of_dismisses env).1

theorem chatSessionsUpdateIdentity_returned {fd : ℤ} {userId name : String}
    (h : (chatSessionsUpdateIdentity fd userId name env w).result = some accepted) :
    (accepted = false ∧ (chatSessionsUpdateIdentity fd userId name env w).world = w) ∨
    (accepted = true ∧ ∃ b, bindIdentity (env 0).uptimeS w.ctx.clientSlots fd userId name = some b ∧
      Fades (w.setSlots b.slots) (chatSessionsUpdateIdentity fd userId name env w).world) := by
  have run := deviceUptimeS_returned h
  unfold chatSessionsUpdateIdentity at h ⊢
  rw [run] at h ⊢
  rw [bind_run (m := slots) rfl] at h ⊢
  cases hb : bindIdentity (env 0).uptimeS w.ctx.clientSlots fd userId name with
  | none =>
    simp only [hb] at h ⊢
    exact .inl ⟨(Option.some.inj h).symm, rfl⟩
  | some b =>
    simp only [hb] at h ⊢
    rw [bind_run (m := writes _) rfl] at h ⊢
    obtain ⟨_, u, env', told, rest⟩ := bind_returned h
    rw [rest] at h ⊢
    have fades := notifyStale_fades (w := (w.setSlots b.slots).record (.bound fd userId)) b.staleFds (fun k => env (k + 1))
    rw [told] at fades
    exact .inr ⟨(Option.some.inj h).symm, b, rfl, fades.beat, fades.slots⟩

theorem agrees_join (h : Agrees w log clock) {fd : ℕ} {userId name : String} {b : Binding cfg.maxClients}
    (later : clock ≤ now) (bound : bindIdentity now w.ctx.clientSlots fd userId name = some b)
    (fades : Fades (w.setSlots b.slots) v) :
    Agrees v (log.note (.join fd userId name) now true w v) now := by
  obtain ⟨k, target⟩ := bindIdentity_bound bound
  refine agrees_given (k := k) h rfl later fades.beat ?_ ?_
  · intro i hi live
    have same : v.ctx.clientSlots i = b.slots i := fades.live live
    rw [same] at live ⊢
    rcases target.others i hi with ⟨kept, -⟩ | ⟨active, -, -, closed⟩
    · rw [kept] at live
      refine ⟨kept, ?_⟩
      rcases target.choice with on | ⟨unbound, -⟩
      · exact h.only on hi live
      · intro here
        exact absurd (liveOn_iff.mpr ⟨live.1, live.2, here⟩) (by simp [unbound i])
    · rw [closed, markSlotClosing_of_active active] at live
      exact absurd live.2 (by simp)
  · intro live
    have same : v.ctx.clientSlots k = boundSlot now fd userId name (w.ctx.clientSlots k) :=
      (fades.live live).trans target.bound
    have past : (noteSession (.join fd userId name) now true w v k (log.sessions k)).registeredAt ≤ now := by
      rcases target.choice with on | ⟨-, free⟩
      · have before := (live_of_liveOn on).1
        simpa [noteSession, same, boundSlot, liveOn, before.1] using ((h.tracks k before).sooner later).past
      · simp [noteSession, same, boundSlot, liveOn, free]
    have joinedAt : (noteSession (.join fd userId name) now true w v k (log.sessions k)).joinedAt = some now := by
      simp [noteSession, same, boundSlot, liveOn]
    have heard : (noteSession (.join fd userId name) now true w v k (log.sessions k)).heard = true := by
      simp [noteSession, same, boundSlot, liveOn]
    rw [same]
    exact ⟨rfl, Int.natCast_nonneg fd, past, fun unjoined => (by cases unjoined), fun _ => .inr joinedAt,
      fun _ silent => (by cases silent), fun _ _ => .inr heard⟩

theorem markAlive_cases {n : ℕ} (t : SlotTable n) (fd : ℤ) :
    ((∀ i, joinedOn fd (t i) = false) ∧ markAlive t fd = t) ∨
    ∃ k, joinedOn fd (t k) = true ∧ markAlive t fd = Function.update t k { t k with isAlive := true } := by
  unfold markAlive updateFirst
  cases hk : firstSlot (joinedOn fd) t with
  | none => exact .inl ⟨firstSlot_none hk, rfl⟩
  | some k => exact .inr ⟨k, firstSlot_some hk, rfl⟩

theorem agrees_pong (h : Agrees w log clock) {fd : ℕ} (later : clock ≤ now)
    (beat : v.ctx.lastHeartbeatSweepS = w.ctx.lastHeartbeatSweepS)
    (slots : v.ctx.clientSlots = markAlive w.ctx.clientSlots fd) :
    Agrees v (log.note (.pong fd) now true w v) now := by
  rcases markAlive_cases w.ctx.clientSlots fd with ⟨nobody, e⟩ | ⟨k, on, e⟩
  · rw [e] at slots
    refine agrees_noted h trivial later beat (by rw [slots]; exact h.distinct) ?_
    intro i live
    rw [slots] at live ⊢
    have tracks := (h.tracks i live).sooner later
    cases here : liveOn fd (w.ctx.clientSlots i) with
    | false =>
      have noted : noteSession (.pong fd) now true w v i (log.sessions i) = log.sessions i := by
        simp [noteSession, slots, here]
      rw [noted]
      exact tracks
    | true =>
      have noted : noteSession (.pong fd) now true w v i (log.sessions i) = { log.sessions i with heard := true } := by
        simp [noteSession, slots, here]
      rw [noted]
      refine tracks.hears ?_
      intro joined
      exact absurd (joinedOn_iff.mpr ⟨live.1, live.2, joined, (live_of_liveOn here).2⟩) (by simp [nobody i])
  · rw [e] at slots
    obtain ⟨active, closing, -, same⟩ := joinedOn_iff.mp on
    have marked : v.ctx.clientSlots k = { w.ctx.clientSlots k with isAlive := true } := by
      rw [slots]
      exact Function.update_self ..
    refine agrees_given (k := k) h rfl later beat ?_ ?_
    · intro i hi live
      have kept : v.ctx.clientSlots i = w.ctx.clientSlots i := by
        rw [slots]
        exact Function.update_of_ne hi ..
      rw [kept] at live
      exact ⟨kept, h.only (liveOn_iff.mpr ⟨active, closing, same⟩) hi live⟩
    · intro _
      have noted : noteSession (.pong fd) now true w v k (log.sessions k) = { log.sessions k with heard := true } := by
        simp [noteSession, marked, liveOn, active, closing, same]
      rw [marked, noted]
      exact ⟨same, ((h.tracks k ⟨active, closing⟩).sooner later).answers⟩

theorem kept_sample (t : SlotTable cfg.maxClients) (fd offset : ℤ) (i : Fin cfg.maxClients)
    (live : Live (updateTimeSample t fd offset i)) :
    Live (t i) ∧ beats (updateTimeSample t fd offset i) = beats (t i) := by
  rcases updateTimeSample_slot t fd offset i with e | ⟨-, e⟩
  · rw [e] at live ⊢
    exact ⟨live, rfl⟩
  · rw [e] at live ⊢
    exact ⟨live, rfl⟩

theorem kept_closing (t : SlotTable cfg.maxClients) (fd : ℤ) (i : Fin cfg.maxClients)
    (live : Live ((markClosing t fd).2 i)) : Live (t i) ∧ beats ((markClosing t fd).2 i) = beats (t i) := by
  rcases markClosing_slot t fd i with ⟨e, -⟩ | closing
  · rw [e] at live ⊢
    exact ⟨live, rfl⟩
  · exact absurd (live.2.symm.trans closing) (by simp)

theorem kept_removal (t : SlotTable cfg.maxClients) (fd : ℤ) (i : Fin cfg.maxClients)
    (live : Live ((removeByFd t fd).2 i)) : Live (t i) ∧ beats ((removeByFd t fd).2 i) = beats (t i) := by
  cases held : holdsFd fd (t i) with
  | false =>
    have e : (removeByFd t fd).2 i = t i := by simp [removeByFd, held]
    rw [e] at live ⊢
    exact ⟨live, rfl⟩
  | true =>
    have e : (removeByFd t fd).2 i = clearSlotIdentity (t i) := by simp [removeByFd, held]
    rw [e] at live
    exact absurd live.1 (by simp [clearSlotIdentity])

theorem late_log (h : Agrees w log clock) (started : log.sweptAt.isSome = true) (now : ℤ) :
    late w now = log.late cfg.heartbeatIntervalS now := by
  cases hs : log.sweptAt with
  | none => simp [hs] at started
  | some last => simp [late, Log.late, hs, h.swept last hs]

theorem pingDelivered_verdict (h : Agrees w log clock) (swept : Swept w now v) {i : Fin cfg.maxClients}
    (live : Live (v.ctx.clientSlots i)) :
    pingDelivered (w.ctx.clientSlots i).fd w v = true ↔ (judged w now i).verdict = .ping := by
  have survives := swept.survives live
  constructor
  · intro delivered
    obtain ⟨j, ping, same⟩ := swept.only _ delivered
    have alone := h.distinct j i ((judged_spec w now j).pinged_live ping) survives.before same
    rw [← alone]
    exact ping
  · intro ping
    rcases swept.reached i ping (h.tracks i survives.before).known with delivered | gone
    · exact delivered
    · have fd : (v.ctx.clientSlots i).fd = (w.ctx.clientSlots i).fd := by
        rw [survives.same]
        exact (judged_spec w now i).active.2
      have on := live.on
      rw [fd, gone i] at on
      cases on

theorem noteSession_sweep (h : Agrees w log clock) (swept : Swept w now v) {i : Fin cfg.maxClients}
    (live : Live (v.ctx.clientSlots i)) (accepted : Bool) (s : Session) : noteSession .sweep now accepted w v i s =
      if (judged w now i).verdict = .ping then { s with pingedAt := some now, heard := false } else s := by
  have before := (swept.survives live).before
  have delivered := pingDelivered_verdict h swept live
  by_cases ping : (judged w now i).verdict = .ping
  · simp [noteSession, before.1, delivered.mpr ping, ping]
  · have missed : pingDelivered (w.ctx.clientSlots i).fd w v = false := by
      rw [Bool.eq_false_iff]
      exact fun d => ping (delivered.mp d)
    simp [noteSession, before.1, missed, ping]

theorem tracks_sweep (later : clock ≤ now) (swept : Swept w now v) {i : Fin cfg.maxClients}
    (live : Live (v.ctx.clientSlots i)) (s : Session) (delayedAt : Option ℤ)
    (tracks : Tracks s delayedAt clock (w.ctx.clientSlots i)) :
    Tracks (if (judged w now i).verdict = .ping then { s with pingedAt := some now, heard := false } else s)
      (if late w now = true then some now else delayedAt) now (v.ctx.clientSlots i) := by
  have survives := swept.survives live
  have judgement := judged_spec w now i
  rw [survives.same]
  have kept := survives.kept
  generalize judged w now i = r at judgement kept
  cases judgement with
  | ignored dead => exact absurd survives.before dead
  | expires => exact absurd rfl kept
  | missed => exact absurd rfl kept
  | rebased _ unjoined late =>
    have rebased : rebasedAt s.registeredAt (some now) = now := max_eq_right (tracks.past.trans later)
    rw [if_pos late, if_neg (by simp)]
    exact ⟨tracks.known, tracks.past.trans later, fun _ => rebased.symm, fun joined => absurd (unjoined.symm.trans joined) (by simp),
      fun joined => absurd (unjoined.symm.trans joined) (by simp), fun joined => absurd (unjoined.symm.trans joined) (by simp)⟩
  | waits _ _ timely =>
    rw [if_neg (Bool.eq_false_iff.mp timely), if_neg (by simp)]
    exact tracks.sooner later
  | rests _ joined =>
    rw [if_neg (by simp)]
    exact ⟨tracks.known, tracks.past.trans later, fun unjoined => absurd (unjoined.symm.trans joined) (by simp),
      tracks.stamped, tracks.silent, tracks.alive⟩
  | pinged _ joined =>
    rw [if_pos rfl]
    exact ⟨tracks.known, tracks.past.trans later, fun unjoined => absurd (unjoined.symm.trans joined) (by simp),
      fun _ => .inl rfl, fun _ _ => ⟨rfl, rfl⟩, fun _ alive => (by cases alive)⟩

theorem agrees_sweep (h : Agrees w log clock) (started : log.sweptAt.isSome = true) (later : clock ≤ now)
    (swept : Swept w now v) : Agrees v (log.note .sweep now accepted w v) now := by
  have delayed : (log.note .sweep now accepted w v).delayedAt = if late w now = true then some now else log.delayedAt := by
    rw [late_log h started]
    rfl
  constructor
  · rintro last hl
    cases hl
    exact swept.beat
  · rw [delayed]
    intro d hd
    split_ifs at hd
    · cases hd
      exact le_refl now
    · exact (h.delayed d hd).trans later
  · refine h.distinct.live ?_
    intro i live
    have survives := swept.survives live
    rw [survives.same]
    exact ⟨survives.before, (judged_spec w now i).active.2⟩
  · intro i live
    have noted := noteSession_sweep h swept live accepted (log.sessions i)
    rw [delayed]
    change Tracks (noteSession .sweep now accepted w v i (log.sessions i)) _ _ _
    rw [noted]
    exact tracks_sweep later swept live _ _ (h.tracks i (swept.survives live).before)

end EspWebChat.HeartbeatLog
