import EspWebChat.ServerSteps

set_option autoImplicit false

/-! # What sending, closing and the session operations do -/
namespace EspWebChat.SessionSteps
open JsonTree ClientSlots Interruptible ServerWorld Sessions ServerSteps

variable {cfg : Config} {P : Permission cfg} {w : World cfg} {fd : ℤ} {payload : Json}

/-- A payload of the server's own, to one client. -/
def answers (cfg : Config) (fd : ℤ) : Permission cfg :=
  fun _ a => ∃ d, a = .send d ∧ d.fd = fd ∧ ServerMade d.payload

/-- One payload to some clients; one that cannot be reached is closed. -/
def spreads (cfg : Config) (payload : Json) (fds : List ℤ) : Permission cfg :=
  fun _ a => ∃ fd ∈ fds, a = .closing fd ∨ ∃ delivered, a = .send ⟨fd, payload, delivered⟩

def announces (cfg : Config) : Permission cfg :=
  fun _ a => (∃ fd, a = .closing fd) ∨ ∃ d, a = .send d ∧ ServerMade d.payload

/-- A payload of the server's own to each of some clients, which are closed. -/
def dismisses (cfg : Config) (fds : List ℤ) : Permission cfg :=
  fun _ a => ∃ fd ∈ fds, a = .closing fd ∨ ∃ d, a = .send d ∧ d.fd = fd ∧ ServerMade d.payload

/-- Presence lists to some clients, and clients that are closed. -/
def lists (cfg : Config) : Permission cfg :=
  fun _ a => (∃ fd, a = .closing fd) ∨ ∃ d, a = .send d ∧ TypeIs "onlineUsers" d.payload.members

theorem announces_of_lists (u : World cfg) (a : Action) (h : lists cfg u a) : announces cfg u a := by
  rcases h with ha | ⟨d, ha, type⟩
  · exact .inl ha
  · exact .inr ⟨d, ha, "onlineUsers", by simp [serverTypes], type⟩

theorem announces_of_dismisses {fds : List ℤ} (u : World cfg) (a : Action)
    (h : dismisses cfg fds u a) : announces cfg u a := by
  obtain ⟨fd, -, ha | ⟨d, ha, -, hd⟩⟩ := h
  · exact .inl ⟨fd, ha⟩
  · exact .inr ⟨d, ha, hd⟩

theorem announces_of_answers (u : World cfg) (a : Action) (h : answers cfg fd u a) :
    announces cfg u a := by
  obtain ⟨d, ha, -, hd⟩ := h
  exact .inr ⟨d, ha, hd⟩

theorem announces_of_spreads {fds : List ℤ} (made : ServerMade payload) (u : World cfg) (a : Action)
    (h : spreads cfg payload fds u a) : announces cfg u a := by
  obtain ⟨fd, -, ha | ⟨delivered, ha⟩⟩ := h
  · exact .inl ⟨fd, ha⟩
  · exact .inr ⟨_, ha, made⟩

theorem chatWsSendText_spec (permit : ∀ delivered, P w (.send ⟨fd, payload, delivered⟩)) :
    Traces (Steps P) (chatWsSendText fd payload) w (fun ret u =>
      (ret = .ok ∧ u = act (.send ⟨fd, payload, true⟩) w) ∨
      (ret ≠ .ok ∧ (u = w ∨ u = act (.send ⟨fd, payload, false⟩) w))) := by
  unfold chatWsSendText
  split_ifs
  · exact .pure (.inr ⟨by simp, .inl rfl⟩)
  · refine reply_spec.bind ?_
    rintro r u - rfl
    split_ifs
    · exact .pure (.inr ⟨by simp, .inl rfl⟩)
    · refine Traces.bind (takes _ (permit _) rfl) ?_
      rintro - v - rfl
      refine .pure ?_
      by_cases hs : r.send = .ok
      · exact .inl ⟨hs, by simp [hs]⟩
      · exact .inr ⟨hs, .inr (by simp [hs])⟩

theorem chatSessionsMarkClosing_spec (permit : P w (.closing fd)) :
    Traces (Steps P) (chatSessionsMarkClosing fd) w (fun wasJoined u =>
      wasJoined = (markClosing w.ctx.clientSlots fd).1 ∧ u = act (.closing fd) w) := by
  refine slots_spec.bind ?_
  rintro table u - ⟨rfl, rfl⟩
  refine Traces.bind (takes _ permit rfl) ?_
  rintro - v - rfl
  exact .pure ⟨rfl, rfl⟩

theorem chatWsCloseClient_spec (permit : P w (.closing fd)) :
    Traces (Steps P) (chatWsCloseClient fd) w (fun _ u => u = w ∨ u = act (.closing fd) w) := by
  unfold chatWsCloseClient
  split_ifs
  · exact .pure (.inl rfl)
  · refine (chatSessionsMarkClosing_spec permit).bind ?_
    rintro b u - ⟨-, rfl⟩
    exact .pure (.inr rfl)

theorem chatWsSendError_spec (code message : String) :
    Traces (Steps (answers cfg fd)) (chatWsSendError fd code message) w (fun _ u => u.ctx = w.ctx) := by
  refine allocates_spec.bind ?_
  rintro created u - rfl
  split_ifs
  · exact .pure rfl
  · refine (addMember_type (typeIs_nil "error")).bind ?_
    rintro ms u - ⟨rfl, h⟩
    refine (addMember_type h).bind ?_
    rintro ms u - ⟨rfl, h⟩
    refine (addMember_type h).bind ?_
    rintro ms u - ⟨rfl, h⟩
    refine (addMember_type h).bind ?_
    rintro ms u - ⟨rfl, h⟩
    refine currentTimestampS_spec.bind ?_
    rintro now u - rfl
    refine (addMember_type h).bind ?_
    rintro ms u - ⟨rfl, h⟩
    refine printUnformatted_spec.bind ?_
    rintro printed u - ⟨rfl, hp⟩
    cases printed with
    | none => exact .pure rfl
    | some payload =>
      have made : ServerMade payload := ⟨"error", by simp [serverTypes], by rw [hp payload rfl]; exact typeIs_printed _ h⟩
      refine (chatWsSendText_spec (fun delivered => ⟨_, rfl, rfl, made⟩)).post ?_
      rintro ret v - (⟨-, rfl⟩ | ⟨-, rfl | rfl⟩) <;> rfl

theorem sendToAll_spec (fds : List ℤ) :
    Traces (Steps (spreads cfg payload fds)) (sendToAll payload fds) w (fun _ _ => True) := by
  induction fds generalizing w with
  | nil => exact .pure trivial
  | cons fd fds ih =>
    have rest : ∀ u, Traces (Steps (spreads cfg payload (fd :: fds))) (sendToAll payload fds) u
        (fun _ _ => True) := by
      intro u
      refine permitsAll ih ?_
      rintro v a ⟨f, hf, ha⟩
      exact ⟨f, List.mem_cons_of_mem _ hf, ha⟩
    refine (chatWsSendText_spec (fun b => ⟨fd, List.mem_cons_self, .inr ⟨b, rfl⟩⟩)).bind ?_
    rintro ret u - -
    split_ifs
    · exact rest u
    · refine (chatWsCloseClient_spec ⟨fd, List.mem_cons_self, .inl rfl⟩).bind ?_
      rintro - v - -
      refine (rest v).bind ?_
      rintro - v - -
      exact .pure trivial

theorem chatWsBroadcast_spec :
    Traces (Steps (spreads cfg payload (receiverFds w.ctx.clientSlots))) (chatWsBroadcast payload) w
      (fun _ _ => True) := by
  refine slots_spec.bind ?_
  rintro table u - ⟨rfl, rfl⟩
  exact sendToAll_spec _

theorem chatWsBroadcast_announces (made : ServerMade payload) :
    Traces (Steps (announces cfg)) (chatWsBroadcast payload) w (fun _ _ => True) :=
  permitsAll chatWsBroadcast_spec (announces_of_spreads made)

theorem notifyStale_spec (fds : List ℤ) :
    Traces (Steps (dismisses cfg fds)) (notifyStale fds) w (fun _ _ => True) := by
  induction fds generalizing w with
  | nil => exact .pure trivial
  | cons fd fds ih =>
    refine Traces.bind (permitsAll (chatWsSendError_spec _ _) ?_) ?_
    · rintro u a ⟨d, ha, hfd, made⟩
      exact ⟨fd, List.mem_cons_self, .inr ⟨d, ha, hfd, made⟩⟩
    rintro ret u - -
    refine (chatWsCloseClient_spec ⟨fd, List.mem_cons_self, .inl rfl⟩).bind ?_
    rintro - v - -
    refine permitsAll ih ?_
    rintro u a ⟨f, hf, ha⟩
    exact ⟨f, List.mem_cons_of_mem _ hf, ha⟩

theorem listUser_spec (s : ClientSlot) (users data : List Json) {Step : World cfg → World cfg → Prop} :
    Traces Step (listUser s users data : Server cfg _) w (fun _ u => u = w) := by
  refine allocates_spec.bind ?_
  rintro idOk u - rfl
  refine allocates_spec.bind ?_
  rintro entryOk u - rfl
  refine .ite (fun _ => .pure rfl) (fun _ => ?_)
  refine addMember_spec.bind ?_
  rintro entry u - ⟨rfl, -⟩
  refine addMember_spec.bind ?_
  rintro entry u - ⟨rfl, -⟩
  exact .pure rfl

theorem listUsers_spec (ss : List ClientSlot) (users data : List Json)
    {Step : World cfg → World cfg → Prop} :
    Traces Step (listUsers ss users data : Server cfg _) w (fun _ u => u = w) := by
  induction ss generalizing w users data with
  | nil => exact .pure rfl
  | cons s ss ih =>
    refine (listUser_spec s users data).bind ?_
    rintro ⟨users, data⟩ u - rfl
    exact ih users data

theorem chatSessionsBuildOnlineUsersPayload_type {Step : World cfg → World cfg → Prop} :
    Traces Step (chatSessionsBuildOnlineUsersPayload : Server cfg _) w
      (fun payload u => u = w ∧ ∀ p ∈ payload, TypeIs "onlineUsers" p.members) := by
  refine allocates_spec.bind ?_
  rintro created u - rfl
  split_ifs
  · exact .pure ⟨rfl, by simp⟩
  · refine (addMember_type (typeIs_nil "onlineUsers")).bind ?_
    rintro ms u - ⟨rfl, h⟩
    refine (addMember_type h).bind ?_
    rintro ms u - ⟨rfl, h⟩
    refine currentTimestampS_spec.bind ?_
    rintro now u - rfl
    refine (addMember_type h).bind ?_
    rintro ms u - ⟨rfl, h⟩
    refine allocates_spec.bind ?_
    rintro toOk u - rfl
    refine Traces.bind (P := fun _ v => v = u) ?_ ?_
    · split_ifs
      · exact allocates_spec
      · exact .pure rfl
    rintro usersOk v - rfl
    refine allocates_spec.bind ?_
    rintro dataOk u - rfl
    split_ifs
    · exact .pure ⟨rfl, by simp⟩
    · refine addMember_spec.bind ?_
      rintro all u - ⟨rfl, -⟩
      refine slots_spec.bind ?_
      rintro table u - ⟨rfl, rfl⟩
      refine (listUsers_spec _ _ _).bind ?_
      rintro ⟨users, data⟩ v - rfl
      refine printUnformatted_spec.post ?_
      rintro printed u - ⟨rfl, hp⟩
      refine ⟨rfl, ?_⟩
      intro p hpm
      rw [hp p hpm]
      have target : ∀ ms : Members, ∀ x y : Json, ms ++ [("to", x), ("data", y)] =
          (ms ++ [("to", x)]) ++ [("data", y)] := by
        intro ms x y
        rw [List.append_assoc]
        rfl
      apply typeIs_printed
      rw [target]
      exact typeIs_append (typeIs_append h (by simp)) (by simp)

theorem chatSessionsBuildOnlineUsersPayload_spec {Step : World cfg → World cfg → Prop} :
    Traces Step (chatSessionsBuildOnlineUsersPayload : Server cfg _) w
      (fun payload u => u = w ∧ ∀ p ∈ payload, ServerMade p) := by
  refine chatSessionsBuildOnlineUsersPayload_type.post ?_
  rintro payload u - ⟨same, type⟩
  exact ⟨same, fun p hp => ⟨"onlineUsers", by simp [serverTypes], type p hp⟩⟩

theorem broadcastOnlineUsersAttempts_lists (attempts : ℕ) (anyClosed : Bool) :
    Traces (Steps (lists cfg)) (broadcastOnlineUsersAttempts attempts anyClosed) w
      (fun _ _ => True) := by
  induction attempts generalizing w anyClosed with
  | zero => exact .pure trivial
  | succ k ih =>
    refine chatSessionsBuildOnlineUsersPayload_type.bind ?_
    rintro payload u - ⟨rfl, type⟩
    cases payload with
    | none => exact .pure trivial
    | some p =>
      have listed : Traces (Steps (lists cfg)) (chatWsBroadcast p) u (fun _ _ => True) := by
        refine permitsAll chatWsBroadcast_spec ?_
        rintro x a ⟨f, -, ha | ⟨delivered, ha⟩⟩
        · exact .inl ⟨f, ha⟩
        · exact .inr ⟨_, ha, type p rfl⟩
      refine listed.bind ?_
      rintro closedClient v - -
      split_ifs
      · exact ih true
      · exact .pure trivial

theorem chatSessionsBroadcastOnlineUsers_lists :
    Traces (Steps (lists cfg)) chatSessionsBroadcastOnlineUsers w (fun _ _ => True) :=
  broadcastOnlineUsersAttempts_lists _ _

theorem chatSessionsBroadcastOnlineUsers_spec :
    Traces (Steps (announces cfg)) chatSessionsBroadcastOnlineUsers w (fun _ _ => True) :=
  permitsAll chatSessionsBroadcastOnlineUsers_lists announces_of_lists

theorem chatSessionsSendOnlineUsersToClient_spec :
    Traces (Steps (answers cfg fd)) (chatSessionsSendOnlineUsersToClient fd) w
      (fun _ u => u.ctx = w.ctx) := by
  refine chatSessionsBuildOnlineUsersPayload_spec.bind ?_
  rintro payload u - ⟨rfl, made⟩
  cases payload with
  | none =>
    refine (chatWsSendError_spec _ _).bind ?_
    rintro ret v - hv
    exact .pure hv
  | some p =>
    refine (chatWsSendText_spec (fun b => ⟨_, rfl, rfl, made p rfl⟩)).post ?_
    rintro ret v - (⟨-, rfl⟩ | ⟨-, rfl | rfl⟩) <;> rfl

theorem chatSessionsEnsureSlot_spec (permit : ∀ now, P w (.register now fd)) :
    Traces (Steps P) (chatSessionsEnsureSlot fd) w (fun ready u => ∃ now,
      ready = (ensureSlot now w.ctx.clientSlots fd).1 ∧ u = act (.register now fd) w) := by
  refine deviceUptimeS_spec.bind ?_
  rintro now u - rfl
  refine slots_spec.bind ?_
  rintro table u - ⟨rfl, rfl⟩
  refine Traces.bind (takes _ (permit now) rfl) ?_
  rintro - v - rfl
  exact .pure ⟨now, rfl, rfl⟩

theorem chatSessionsUpdateTimeSample_spec (root : Json) (permit : ∀ offset, P w (.sample fd offset)) :
    Traces (Steps P) (chatSessionsUpdateTimeSample fd root) w (fun _ u =>
      u = w ∨ ∃ offset, u = act (.sample fd offset) w) := by
  unfold chatSessionsUpdateTimeSample
  split
  · split_ifs
    · exact .pure (.inl rfl)
    · refine deviceUptimeS_spec.bind ?_
      rintro uptime u - rfl
      refine slots_spec.bind ?_
      rintro table u - ⟨rfl, rfl⟩
      refine Traces.post (takes (.sample fd _) (permit _) rfl) ?_
      rintro - v - rfl
      exact .inr ⟨_, rfl⟩
  · exact .pure (.inl rfl)

theorem chatSessionsMarkAlive_spec (permit : P w (.alive fd)) :
    Traces (Steps P) (chatSessionsMarkAlive fd) w (fun _ u => u = act (.alive fd) w) := by
  refine slots_spec.bind ?_
  rintro table u - ⟨rfl, rfl⟩
  exact takes _ permit rfl

theorem chatSessionsRemoveByFd_spec (permit : P w (.free fd)) :
    Traces (Steps P) (chatSessionsRemoveByFd fd) w (fun _ u => u = act (.free fd) w) := by
  refine slots_spec.bind ?_
  rintro table u - ⟨rfl, rfl⟩
  refine Traces.bind (takes _ permit rfl) ?_
  rintro - v - rfl
  exact .pure rfl

/-- `fd` has been bound to `userId` between `w` and `u`. -/
def BoundSince (w : World cfg) (fd : ℤ) (userId : String) (u : World cfg) : Prop :=
  ∃ new, u.trace = w.trace ++ new ∧ .bound fd userId ∈ new

/-- The stale sessions are told and closed only once the table has been switched over. -/
def rebinds (w : World cfg) (fd : ℤ) (userId name : String) : Permission cfg := fun u a =>
  (u = w ∧ ∃ now, a = .bind now fd userId name) ∨ (BoundSince w fd userId u ∧ announces cfg u a)

theorem boundSince_act {w u : World cfg} {userId : String} (a : Action) (h : BoundSince w fd userId u) :
    BoundSince w fd userId (act a u) := by
  obtain ⟨new, ht, hm⟩ := h
  obtain ⟨more, hmore⟩ := act_trace a u
  exact ⟨new ++ more, by rw [hmore, ht, List.append_assoc], List.mem_append_left _ hm⟩

theorem chatSessionsUpdateIdentity_spec (userId name : String) :
    Traces (Steps (rebinds w fd userId name)) (chatSessionsUpdateIdentity fd userId name) w
      (fun done u => (done = false ∧ u = w) ∨ (done = true ∧ BoundSince w fd userId u)) := by
  refine deviceUptimeS_spec.bind ?_
  rintro now u - rfl
  refine slots_spec.bind ?_
  rintro table u - ⟨rfl, rfl⟩
  cases hb : bindIdentity now u.ctx.clientSlots fd userId name with
  | none => exact .pure (.inl ⟨rfl, rfl⟩)
  | some b =>
    have switched : (u.setSlots b.slots).record (.bound fd userId) =
        act (.bind now fd userId name) u := by
      simp only [act, bindSlots, hb]
    refine Traces.bind (takes _ (.inl ⟨rfl, now, rfl⟩) switched) ?_
    rintro - v - rfl
    have bound : BoundSince u fd userId (act (.bind now fd userId name) u) :=
      ⟨[.bound fd userId], by rw [← switched]; rfl, List.mem_singleton_self _⟩
    refine Traces.bind (P := fun _ v => BoundSince u fd userId v) ?_ ?_
    · have told := permitsAll (notifyStale_spec b.staleFds) announces_of_dismisses
        (w := act (.bind now fd userId name) u)
      exact permits (told.keeping (BoundSince u fd userId) bound
        (fun _ _ h s => by obtain ⟨a, -, rfl⟩ := s; exact boundSince_act a h))
        (BoundSince u fd userId) bound (fun _ a h _ => boundSince_act a h)
        (fun _ _ h ha => .inr ⟨h, ha⟩)
    · rintro - v - hv
      exact .pure (.inr ⟨rfl, hv⟩)

end EspWebChat.SessionSteps
