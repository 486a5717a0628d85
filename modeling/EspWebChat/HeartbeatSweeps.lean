import EspWebChat.NodeSteps

set_option autoImplicit false

/-!
# What one heartbeat sweep does

Under the mutex every slot gets its verdict. After the mutex is released sockets are closed and
pings are sent; this only closes more slots, and a ping that fails closes the slot it was meant for.
-/
namespace EspWebChat.HeartbeatSweeps
open Relation JsonTree ClientSlots Interruptible ServerWorld Sessions ServerSteps SlotSteps SessionSteps NodeSteps

variable {cfg : Config} {w u v : World cfg} {interval now : ℤ} {delayed : Bool}

def Live (s : ClientSlot) : Prop := s.active = true ∧ s.closing = false

theorem live_of_liveOn {fd : ℤ} {s : ClientSlot} (h : liveOn fd s = true) : Live s ∧ s.fd = fd := by
  obtain ⟨active, closing, same⟩ := liveOn_iff.mp h
  exact ⟨⟨active, closing⟩, same⟩

theorem Live.on {s : ClientSlot} (h : Live s) : liveOn s.fd s = true := liveOn_iff.mpr ⟨h.1, h.2, rfl⟩

inductive Judged (interval now : ℤ) (delayed : Bool) (s : ClientSlot) : SweepStep → Prop where
  | ignored (dead : ¬Live s) : Judged interval now delayed s ⟨s, .keep, false⟩
  | rebased (live : Live s) (unjoined : s.joined = false) (late : delayed = true) :
      Judged interval now delayed s ⟨{ s with registeredAtS := now }, .keep, false⟩
  | waits (live : Live s) (unjoined : s.joined = false) (timely : delayed = false)
      (recent : now - s.registeredAtS < wsJoinTimeoutS) : Judged interval now delayed s ⟨s, .keep, false⟩
  | expires (live : Live s) (unjoined : s.joined = false) (timely : delayed = false)
      (old : wsJoinTimeoutS ≤ now - s.registeredAtS) :
      Judged interval now delayed s ⟨(markSlotClosing s).2, .close, false⟩
  | rests (live : Live s) (joined : s.joined = true) (timely : delayed = false ∨ s.isAlive = true)
      (recent : now - s.lastPingS < interval) : Judged interval now delayed s ⟨s, .keep, false⟩
  | missed (live : Live s) (joined : s.joined = true) (timely : delayed = false) (silent : s.isAlive = false)
      (old : interval ≤ now - s.lastPingS) :
      Judged interval now delayed s ⟨(markSlotClosing s).2, .close, true⟩
  | pinged (live : Live s) (joined : s.joined = true)
      (due : delayed = true ∧ s.isAlive = false ∨ s.isAlive = true ∧ interval ≤ now - s.lastPingS) :
      Judged interval now delayed s ⟨{ s with isAlive := false, lastPingS := now }, .ping, false⟩

theorem sweepSlot_judged (interval now : ℤ) (delayed : Bool) (s : ClientSlot) :
    Judged interval now delayed s (sweepSlot interval now delayed s) := by
  by_cases dead : (!s.active || s.closing) = true
  · rw [sweepSlot, if_pos dead]
    refine .ignored ?_
    intro live
    simp [live.1, live.2] at dead
  · have live : Live s := by simpa [Live] using dead
    rw [sweepSlot, if_neg dead]
    by_cases joined : s.joined = true
    · rw [if_neg (by simp [joined])]
      by_cases reprobe : (delayed && !s.isAlive) = true
      · -- The new `last_ping_s` is exactly one interval old, so this slot is pinged at once.
        have due : ¬now - (now - interval) < interval := by omega
        simp only [reprobe, if_true, Bool.not_true, Bool.false_eq_true, if_false, due]
        exact .pinged live joined (.inl (by simpa using reprobe))
      · simp only [Bool.eq_false_iff.mpr reprobe, Bool.false_eq_true, if_false]
        have timely : delayed = false ∨ s.isAlive = true := by
          cases delayed with
          | false => exact .inl rfl
          | true => exact .inr (by simpa using reprobe)
        split_ifs with silent recent recent
        · exact .rests live joined timely recent
        · have off : s.isAlive = false := by simpa using silent
          have onTime : delayed = false := timely.resolve_right (by simp [off])
          exact .missed live joined onTime off (by omega)
        · exact .rests live joined timely recent
        · exact .pinged live joined (.inr ⟨by simpa using silent, by omega⟩)
    · have unjoined : s.joined = false := by simpa using joined
      rw [if_pos (by simp [unjoined])]
      split_ifs with late recent
      · exact .rebased live unjoined late
      · exact .waits live unjoined (by simpa using late) recent
      · exact .expires live unjoined (by simpa using late) (by omega)

theorem closing_not_live {s : ClientSlot} (live : Live s) : ¬Live (markSlotClosing s).2 := by
  rw [markSlotClosing_of_active live.1]
  exact fun h => by cases h.2

theorem Judged.active {s : ClientSlot} {r : SweepStep} (h : Judged interval now delayed s r) :
    r.slot.active = s.active ∧ r.slot.fd = s.fd := by
  cases h with
  | expires live => simp [markSlotClosing_of_active live.1]
  | missed live => simp [markSlotClosing_of_active live.1]
  | _ => exact ⟨rfl, rfl⟩

/-- A slot that is live after the loop was live before and has not timed out. -/
theorem Judged.survives {s : ClientSlot} {r : SweepStep} (h : Judged interval now delayed s r) (after : Live r.slot) :
    Live s ∧ r.verdict ≠ .close := by
  cases h with
  | ignored dead => exact absurd after dead
  | expires live => exact absurd after (closing_not_live live)
  | missed live => exact absurd after (closing_not_live live)
  | rebased live => exact ⟨live, by simp⟩
  | waits live => exact ⟨live, by simp⟩
  | rests live => exact ⟨live, by simp⟩
  | pinged live => exact ⟨live, by simp⟩

theorem Judged.pinged_live {interval now : ℤ} {delayed : Bool} {s : ClientSlot} {r : SweepStep}
    (h : Judged interval now delayed s r) (ping : r.verdict = .ping) : Live s := by
  cases h with
  | pinged live => exact live
  | _ => cases ping

theorem Judged.closes_joined {s : ClientSlot} {r : SweepStep} (h : Judged interval now delayed s r) (live : Live s)
    (joined : s.joined = true) :
    r.verdict = .close ↔ delayed = false ∧ s.isAlive = false ∧ interval ≤ now - s.lastPingS := by
  cases h with
  | ignored dead => exact absurd live dead
  | rebased _ unjoined => simp [unjoined] at joined
  | waits _ unjoined => simp [unjoined] at joined
  | expires _ unjoined => simp [unjoined] at joined
  | rests _ _ _ recent =>
    have early : ¬interval ≤ now - s.lastPingS := by omega
    simp [early]
  | missed _ _ timely silent old => simp [timely, silent, old]
  | pinged _ _ due =>
    rcases due with ⟨late, -⟩ | ⟨alive, -⟩
    · simp [late]
    · simp [alive]

theorem Judged.closes_unjoined {s : ClientSlot} {r : SweepStep} (h : Judged interval now delayed s r) (live : Live s)
    (unjoined : s.joined = false) :
    r.verdict = .close ↔ delayed = false ∧ wsJoinTimeoutS ≤ now - s.registeredAtS := by
  cases h with
  | ignored dead => exact absurd live dead
  | rebased _ _ late => simp [late]
  | waits _ _ _ recent =>
    have early : ¬wsJoinTimeoutS ≤ now - s.registeredAtS := by omega
    simp [early]
  | expires _ _ timely old => simp [timely, old]
  | rests _ joined => simp [unjoined] at joined
  | missed _ joined => simp [unjoined] at joined
  | pinged _ joined => simp [unjoined] at joined

theorem Judged.recent {s : ClientSlot} {r : SweepStep} (h : Judged interval now delayed s r) (positive : 1 ≤ interval)
    (kept : r.verdict ≠ .close) (live : Live s) (joined : r.slot.joined = true) : now - r.slot.lastPingS < interval := by
  cases h with
  | ignored dead => exact absurd live dead
  | rebased _ unjoined => exact absurd (unjoined.symm.trans joined) (by simp)
  | waits _ unjoined => exact absurd (unjoined.symm.trans joined) (by simp)
  | expires => exact absurd rfl kept
  | rests _ _ _ recent => exact recent
  | missed => exact absurd rfl kept
  | pinged =>
    change now - now < interval
    omega

theorem Judged.waiting {s : ClientSlot} {r : SweepStep} (h : Judged interval now delayed s r) (kept : r.verdict ≠ .close)
    (live : Live s) (unjoined : r.slot.joined = false) : now - r.slot.registeredAtS < wsJoinTimeoutS := by
  cases h with
  | ignored dead => exact absurd live dead
  | rebased =>
    change now - now < wsJoinTimeoutS
    simp [wsJoinTimeoutS]
  | waits _ _ _ recent => exact recent
  | expires => exact absurd rfl kept
  | rests _ joined => exact absurd (joined.symm.trans unjoined) (by simp)
  | missed => exact absurd rfl kept
  | pinged _ joined => exact absurd (joined.symm.trans unjoined) (by simp)

theorem Judged.closed {s : ClientSlot} {r : SweepStep} (h : Judged interval now delayed s r) (close : r.verdict = .close) :
    Live s ∧ r.slot.closing = true := by
  cases h with
  | expires live => exact ⟨live, by rw [markSlotClosing_of_active live.1]⟩
  | missed live => exact ⟨live, by rw [markSlotClosing_of_active live.1]⟩
  | _ => cases close

structure Fades (u v : World cfg) : Prop where
  beat : v.ctx.lastHeartbeatSweepS = u.ctx.lastHeartbeatSweepS
  slots : ∀ i, v.ctx.clientSlots i = u.ctx.clientSlots i ∨ (v.ctx.clientSlots i).closing = true

theorem fades_self (w : World cfg) : Fades w w := ⟨rfl, fun _ => .inl rfl⟩

theorem Fades.trans (h : Fades w u) (h' : Fades u v) : Fades w v := by
  refine ⟨h'.beat.trans h.beat, ?_⟩
  intro i
  rcases h'.slots i with same | closing
  · rw [same]
    exact h.slots i
  · exact .inr closing

theorem Fades.live (h : Fades u v) {i : Fin cfg.maxClients} (live : Live (v.ctx.clientSlots i)) :
    v.ctx.clientSlots i = u.ctx.clientSlots i := by
  rcases h.slots i with same | closing
  · exact same
  · exact absurd (live.2.symm.trans closing) (by simp)

theorem markClosing_slot {n : ℕ} (t : SlotTable n) (fd : ℤ) (i : Fin n) :
    ((markClosing t fd).2 i = t i ∧ holdsFd fd (t i) = false) ∨ ((markClosing t fd).2 i).closing = true := by
  cases held : holdsFd fd (t i) with
  | false => exact .inl ⟨by simp [markClosing, held], rfl⟩
  | true => exact .inr (by simp [markClosing, held, markSlotClosing_of_active (holdsFd_iff.mp held).1])

theorem fades_act {a : Action} (h : announces cfg u a) : Fades u (act a u) := by
  rcases h with ⟨fd, rfl⟩ | ⟨d, rfl, -⟩
  · refine ⟨rfl, ?_⟩
    intro i
    exact (markClosing_slot u.ctx.clientSlots fd i).imp And.left id
  · exact ⟨rfl, fun _ => .inl rfl⟩

theorem fades_of_path (path : ReflTransGen (Steps (announces cfg)) u v) : Fades u v := by
  induction path with
  | refl => exact fades_self u
  | tail _ s ih =>
    obtain ⟨a, ha, rfl⟩ := s
    exact ih.trans (fades_act ha)

def isPing : Json → Bool
  | .obj [(key, .str type)] => key == "type" && type == "ping"
  | _ => false

theorem isPing_type {j : Json} (h : isPing j = true) : j.members.lookup "type" = some (.str "ping") := by
  unfold isPing at h
  split at h
  · simp only [Bool.and_eq_true, beq_iff_eq] at h
    rw [h.1, h.2]
    rfl
  · cases h

def isPingTo (fd : ℤ) : TraceEvent → Bool
  | .sent d => d.fd == fd && d.delivered && isPing d.payload
  | _ => false

/-- Between the two worlds the socket `fd` has taken a ping. -/
def pingDelivered (fd : ℤ) (u v : World cfg) : Bool := (v.trace.drop u.trace.length).any (isPingTo fd)

/-- What a sweep still does once it has released the mutex. -/
def pinging (cfg : Config) (fds : List ℤ) : Permission cfg := fun _ a =>
  (∃ fd, a = .closing fd) ∨
  ∃ d, a = .send d ∧ (d.fd ∈ fds ∧ d.payload = pingPayload ∨ TypeIs "onlineUsers" d.payload.members)

theorem announces_of_pinging {fds : List ℤ} (u : World cfg) (a : Action) (h : pinging cfg fds u a) :
    announces cfg u a := by
  rcases h with closing | ⟨d, send, ⟨-, ping⟩ | type⟩
  · exact .inl closing
  · refine .inr ⟨d, send, "ping", by simp [serverTypes], ?_⟩
    rw [ping]
    exact typeIs_append (typeIs_nil "ping") (by simp)
  · exact .inr ⟨d, send, "onlineUsers", by simp [serverTypes], type⟩

theorem announced_path {fds : List ℤ} (path : ReflTransGen (Steps (pinging cfg fds)) u v) :
    ReflTransGen (Steps (announces cfg)) u v := by
  refine ReflTransGen.mono ?_ _ _ path
  rintro x y ⟨a, ha, rfl⟩
  exact ⟨a, announces_of_pinging x a ha, rfl⟩

theorem pingDelivered_iff {new : List TraceEvent} {fd : ℤ} (h : v.trace = u.trace ++ new) :
    pingDelivered fd u v = true ↔ ∃ d, .sent d ∈ new ∧ d.fd = fd ∧ d.delivered = true ∧ isPing d.payload = true := by
  rw [pingDelivered, h, List.drop_left, List.any_eq_true]
  constructor
  · rintro ⟨e, mem, ping⟩
    cases e with
    | sent d =>
      simp only [isPingTo, Bool.and_eq_true, beq_iff_eq] at ping
      exact ⟨d, mem, ping.1.1, ping.1.2, ping.2⟩
    | _ => cases ping
  · rintro ⟨d, mem, same, delivered, ping⟩
    exact ⟨_, mem, by simp [isPingTo, same, delivered, ping]⟩

theorem pinged_path {fds : List ℤ} (path : ReflTransGen (Steps (pinging cfg fds)) u v) :
    ∃ new, v.trace = u.trace ++ new ∧ ∀ d, .sent d ∈ new → isPing d.payload = true → d.fd ∈ fds := by
  induction path with
  | refl => exact ⟨[], (List.append_nil _).symm, by simp⟩
  | @tail x y _ s ih =>
    obtain ⟨a, ha, rfl⟩ := s
    obtain ⟨new, grown, only⟩ := ih
    obtain ⟨more, events, sent, -⟩ := act_events a x
    refine ⟨new ++ more, by rw [events, grown, List.append_assoc], ?_⟩
    intro d mem ping
    rcases List.mem_append.mp mem with old | fresh
    · exact only d old ping
    · rcases ha with ⟨fd, closing⟩ | ⟨d', send, ⟨member, -⟩ | type⟩
      · rw [closing] at sent
        exact absurd (sent d fresh) (by simp)
      · cases send.symm.trans (sent d fresh)
        exact member
      · cases send.symm.trans (sent d fresh)
        exact absurd (type _ (isPing_type ping)) (by simp)

/-- The socket has taken a ping since the trace had `k` events, or has no live slot any more. -/
def Told (k : ℕ) (fd : ℤ) (u : World cfg) : Prop :=
  .sent ⟨fd, pingPayload, true⟩ ∈ u.trace.drop k ∨ ∀ i, liveOn fd (u.ctx.clientSlots i) = false

theorem told_path {k : ℕ} {fd : ℤ} (h : Told k fd u) (path : ReflTransGen (Steps (announces cfg)) u v) :
    Told k fd v := by
  rcases h with taken | gone
  · obtain ⟨new, grown⟩ := steps_trace path
    left
    rw [grown, List.drop_append]
    exact List.mem_append_left _ taken
  · right
    intro i
    by_contra on
    rw [Bool.not_eq_false] at on
    have same := (fades_of_path path).live (live_of_liveOn on).1
    rw [same, gone i] at on
    cases on

theorem chatWsCloseClient_gone {P : Permission cfg} {fd : ℤ} (permit : P w (.closing fd)) :
    Traces (Steps P) (chatWsCloseClient fd) w (fun _ u => 0 ≤ fd → ∀ i, liveOn fd (u.ctx.clientSlots i) = false) := by
  unfold chatWsCloseClient
  split_ifs with negative
  · exact .pure (fun h => absurd h (by omega))
  · refine (chatSessionsMarkClosing_spec permit).bind ?_
    rintro b u - ⟨-, rfl⟩
    refine .pure ?_
    intro _ i
    by_contra on
    rw [Bool.not_eq_false] at on
    have live := live_of_liveOn on
    rcases markClosing_slot w.ctx.clientSlots fd i with ⟨same, free⟩ | closing
    · change liveOn fd ((markClosing w.ctx.clientSlots fd).2 i) = true at on
      rw [same] at on
      have held := live_of_liveOn on
      exact absurd (holdsFd_iff.mpr ⟨held.1.1, held.2⟩) (by simp [free])
    · exact absurd (live.1.2.symm.trans closing) (by simp)

theorem sendToAll_told (all : List ℤ) (k : ℕ) {fds : List ℤ} (sub : ∀ fd ∈ fds, fd ∈ all)
    (long : k ≤ w.trace.length) :
    Traces (Steps (pinging cfg all)) (sendToAll pingPayload fds) w (fun _ u => ∀ fd ∈ fds, 0 ≤ fd → Told k fd u) := by
  induction fds generalizing w with
  | nil => exact .pure (by simp)
  | cons fd fds ih =>
    have here : fd ∈ all := sub fd List.mem_cons_self
    have rest : ∀ {x : World cfg}, k ≤ x.trace.length → (0 ≤ fd → Told k fd x) →
        Traces (Steps (pinging cfg all)) (sendToAll pingPayload fds) x
          (fun _ u => ∀ f ∈ fd :: fds, 0 ≤ f → Told k f u) := by
      intro x longer told
      refine (ih (fun f hf => sub f (List.mem_cons_of_mem _ hf)) longer).post ?_
      intro _ u path others f hf known
      rcases List.mem_cons.mp hf with rfl | later
      · exact told_path (told known) (announced_path path)
      · exact others f later known
    refine (chatWsSendText_spec (fun delivered => .inr ⟨_, rfl, .inl ⟨here, rfl⟩⟩)).bind ?_
    rintro ret x path sent
    obtain ⟨new, grown⟩ := steps_trace path
    have longer : k ≤ x.trace.length := by
      rw [grown, List.length_append]
      omega
    refine .ite (fun ok => ?_) (fun failed => ?_)
    · rcases sent with ⟨-, rfl⟩ | ⟨bad, -⟩
      · refine rest longer (fun _ => .inl ?_)
        change _ ∈ (w.trace ++ [_]).drop k
        rw [List.drop_append_of_le_length long]
        exact List.mem_append_right _ List.mem_cons_self
      · exact absurd ok bad
    · refine (chatWsCloseClient_gone (.inl ⟨fd, rfl⟩)).bind ?_
      intro _ y path' gone
      obtain ⟨new', grown'⟩ := steps_trace path'
      refine (rest ?_ (fun known => .inr (gone known))).bind ?_
      · rw [grown', List.length_append]
        omega
      · intro _ z _ told
        exact .pure told

def late (w : World cfg) (now : ℤ) : Bool := decide (cfg.heartbeatIntervalS < now - w.ctx.lastHeartbeatSweepS)

def judged (w : World cfg) (now : ℤ) (i : Fin cfg.maxClients) : SweepStep :=
  sweepTable cfg now (late w now) w.ctx.clientSlots i

theorem judged_spec (w : World cfg) (now : ℤ) (i : Fin cfg.maxClients) :
    Judged cfg.heartbeatIntervalS now (late w now) (w.ctx.clientSlots i) (judged w now i) :=
  sweepSlot_judged _ _ _ _

structure Swept (w : World cfg) (now : ℤ) (u : World cfg) : Prop where
  beat : u.ctx.lastHeartbeatSweepS = now
  slots : ∀ i, u.ctx.clientSlots i = (judged w now i).slot ∨ (u.ctx.clientSlots i).closing = true
  reached : ∀ i, (judged w now i).verdict = .ping → 0 ≤ (w.ctx.clientSlots i).fd →
    pingDelivered (w.ctx.clientSlots i).fd w u = true ∨
    ∀ k, liveOn (w.ctx.clientSlots i).fd (u.ctx.clientSlots k) = false
  only : ∀ fd, pingDelivered fd w u = true → ∃ i, (judged w now i).verdict = .ping ∧ (w.ctx.clientSlots i).fd = fd

theorem mem_sweepFds {delayed : Bool} {t : SlotTable cfg.maxClients} {verdict : SweepVerdict} {fd : ℤ} :
    fd ∈ sweepFds cfg now delayed t verdict ↔
      ∃ i, (sweepTable cfg now delayed t i).verdict = verdict ∧ (t i).fd = fd := by
  constructor
  · intro h
    obtain ⟨i, -, hi⟩ := List.mem_filterMap.mp h
    split_ifs at hi with same
    exact ⟨i, same, Option.some.inj hi⟩
  · rintro ⟨i, same, rfl⟩
    exact List.mem_filterMap.mpr ⟨i, List.mem_finRange i, if_pos same⟩

/-- The part of `heartbeat_sweep_work` after `xSemaphoreGive`. -/
def unlocked (closes pings : List ℤ) (changed : Bool) : Server cfg Unit := do
  closeAll closes
  let closed ← sendToAll pingPayload pings
  if changed || closed then do
    let _ ← chatSessionsBroadcastOnlineUsers
    pure ()
  else pure ()

theorem unlocked_spec (closes pings : List ℤ) (changed : Bool) {k : ℕ} (long : k ≤ w.trace.length) :
    Traces (Steps (pinging cfg pings)) (unlocked closes pings changed) w
      (fun _ u => ∀ fd ∈ pings, 0 ≤ fd → Told k fd u) := by
  have closing : ∀ fds, ∀ x : World cfg, Traces (Steps (pinging cfg pings)) (closeAll fds) x (fun _ _ => True) := by
    intro fds
    induction fds with
    | nil => exact fun x => .pure trivial
    | cons fd fds ih =>
      intro x
      refine (chatWsCloseClient_spec (.inl ⟨fd, rfl⟩)).bind ?_
      intro _ y _ _
      exact ih y
  refine (closing closes w).bind ?_
  intro _ x path _
  obtain ⟨new, grown⟩ := steps_trace path
  have longer : k ≤ x.trace.length := by
    rw [grown, List.length_append]
    omega
  refine (sendToAll_told pings k (fun _ h => h) longer).bind ?_
  intro closed y _ told
  refine .ite (fun _ => ?_) (fun _ => .pure told)
  have listing : Traces (Steps (pinging cfg pings)) chatSessionsBroadcastOnlineUsers y (fun _ _ => True) := by
    refine permitsAll chatSessionsBroadcastOnlineUsers_lists ?_
    rintro _ a (closes | ⟨d, send, type⟩)
    · exact .inl closes
    · exact .inr ⟨d, send, .inr type⟩
  refine listing.bind ?_
  intro _ z path' _
  exact .pure (fun fd hf known => told_path (told fd hf known) (announced_path path'))

theorem deviceUptimeS_returned {α : Type} {f : ℤ → Server cfg α} {env : ℕ → Reply} {a : α}
    (h : ((deviceUptimeS >>= f) env w).result = some a) :
    (deviceUptimeS >>= f) env w = f (env 0).uptimeS (fun k => env (k + 1)) w := by
  by_cases powered : (env 0).powered = true
  · have read : (deviceUptimeS : Server cfg ℤ) env w = ⟨some (env 0).uptimeS, w, fun k => env (k + 1)⟩ := by
      simp [deviceUptimeS, reply, ask, Bind.bind, powered, Pure.pure]
    exact bind_run read
  · simp [deviceUptimeS, reply, ask, Bind.bind, powered] at h

/-- The world as the sweep leaves it when it releases the mutex. -/
def locked (w : World cfg) (now : ℤ) : World cfg :=
  { w with ctx := { w.ctx with
    lastHeartbeatSweepS := now
    clientSlots := fun i => (judged w now i).slot } }

theorem heartbeatSweepWork_run {env : ℕ → Reply} (returned : (heartbeatSweepWork env w).result = some ()) :
    ∃ closes changed, heartbeatSweepWork env w = unlocked closes
      (sweepFds cfg (env 0).uptimeS (late w (env 0).uptimeS) w.ctx.clientSlots .ping) changed
      (fun k => env (k + 1)) (locked w (env 0).uptimeS) :=
  ⟨_, _, deviceUptimeS_returned returned⟩

theorem heartbeatSweepWork_swept {env : ℕ → Reply} (returned : (heartbeatSweepWork env w).result = some ()) :
    Swept w (env 0).uptimeS (heartbeatSweepWork env w).world := by
  obtain ⟨closes, changed, run⟩ := heartbeatSweepWork_run returned
  rw [run] at returned ⊢
  generalize (env 0).uptimeS = now at returned ⊢
  generalize hp : sweepFds cfg now (late w now) w.ctx.clientSlots .ping = pings at returned ⊢
  obtain ⟨path, told⟩ := unlocked_spec (w := locked w now) closes pings changed (le_refl w.trace.length)
    (fun k => env (k + 1))
  have fades := fades_of_path (announced_path path)
  obtain ⟨new, grown, only⟩ := pinged_path path
  have since : (unlocked closes pings changed (fun k => env (k + 1)) (locked w now)).world.trace = w.trace ++ new := grown
  refine ⟨fades.beat, fades.slots, ?_, ?_⟩
  · intro i ping known
    have member : (w.ctx.clientSlots i).fd ∈ pings := by
      rw [← hp]
      exact mem_sweepFds.mpr ⟨i, ping, rfl⟩
    refine (told () returned _ member known).imp ?_ id
    intro taken
    rw [since, List.drop_left] at taken
    exact (pingDelivered_iff since).mpr ⟨_, taken, rfl, rfl, rfl⟩
  · intro fd delivered
    obtain ⟨d, mem, rfl, -, ping⟩ := (pingDelivered_iff since).mp delivered
    have member := only d mem ping
    rw [← hp] at member
    exact mem_sweepFds.mp member

structure Survives (w : World cfg) (now : ℤ) (v : World cfg) (i : Fin cfg.maxClients) : Prop where
  before : Live (w.ctx.clientSlots i)
  same : v.ctx.clientSlots i = (judged w now i).slot
  kept : (judged w now i).verdict ≠ .close

theorem Swept.survives (h : Swept w now v) {i : Fin cfg.maxClients} (live : Live (v.ctx.clientSlots i)) :
    Survives w now v i := by
  have same : v.ctx.clientSlots i = (judged w now i).slot := by
    rcases h.slots i with same | closing
    · exact same
    · exact absurd (live.2.symm.trans closing) (by simp)
  rw [same] at live
  obtain ⟨before, kept⟩ := (judged_spec w now i).survives live
  exact ⟨before, same, kept⟩

end EspWebChat.HeartbeatSweeps
