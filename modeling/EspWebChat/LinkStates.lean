import EspWebChat.StoreSteps

set_option autoImplicit false

/-!
# Which timers and sockets there are

`Tidy` is about the timer variables and holds in the middle of a handler too. `Orderly` adds
that every socket but the current one is on its way out, `Attended` that something will wake
the client up: this is what holds between two events.
-/
namespace EspWebChat.LinkStates
open JsonTree Interruptible BrowserWorld ClientStore ClientSocket StoreSteps

variable {l l' : Link} {t t' : Timer} {s s' : ℕ} {callback : Callback} {delayMs : ℕ} {p : Prop}

theorem mem_clearTimeout {timer : Option Timer} :
    t ∈ (clearTimeout timer l).timers ↔ t ∈ l.timers ∧ some t ≠ timer := by
  simp [clearTimeout]

theorem mem_setTimeout :
    t ∈ (setTimeout callback delayMs l).timers ↔ t ∈ l.timers ∨ t = nextTimer callback delayMs l := by
  simp [setTimeout]

/-- The timer variables refer to timers of their kind; a set reconnect timer is pending, and
    only the current receive timer is. -/
structure Tidy (l : Link) : Prop where
  reconnectSet : ∀ t, l.reconnectTimer = some t → t ∈ l.timers ∧ t.callback = .reconnect
  connectSet : ∀ t, l.connectTimer = some t → ∃ s, t.callback = .connectTimeout s
  joinSet : ∀ t, l.joinTimer = some t → ∃ s, t.callback = .joinTimeout s
  receiveSet : ∀ t, l.receiveTimer = some t → ∃ s, t.callback = .receiveTimeout s
  receiveOwned : ∀ t ∈ l.timers, ∀ s, t.callback = .receiveTimeout s → l.receiveTimer = some t

theorem Tidy.congr (h : Tidy l) (timers : l'.timers = l.timers) (reconnect : l'.reconnectTimer = l.reconnectTimer)
    (connect : l'.connectTimer = l.connectTimer) (join : l'.joinTimer = l.joinTimer)
    (receive : l'.receiveTimer = l.receiveTimer) : Tidy l' := by
  constructor
  · rw [timers, reconnect]
    exact h.reconnectSet
  · rw [connect]
    exact h.connectSet
  · rw [join]
    exact h.joinSet
  · rw [receive]
    exact h.receiveSet
  · rw [timers, receive]
    exact h.receiveOwned

theorem Tidy.clearTimeout (h : Tidy l) (timer : Option Timer)
    (other : ∀ t, timer = some t → t.callback ≠ .reconnect) : Tidy (clearTimeout timer l) := by
  refine ⟨?_, h.connectSet, h.joinSet, h.receiveSet, ?_⟩
  · intro t ht
    obtain ⟨pending, kind⟩ := h.reconnectSet t ht
    refine ⟨mem_clearTimeout.mpr ⟨pending, ?_⟩, kind⟩
    intro e
    exact other t e.symm kind
  · intro t ht
    exact h.receiveOwned t (mem_clearTimeout.mp ht).1

theorem Tidy.setTimeout (h : Tidy l) (callback : Callback) (delayMs : ℕ)
    (other : ∀ s, callback ≠ .receiveTimeout s) : Tidy (setTimeout callback delayMs l) := by
  refine ⟨?_, h.connectSet, h.joinSet, h.receiveSet, ?_⟩
  · intro t ht
    obtain ⟨pending, kind⟩ := h.reconnectSet t ht
    exact ⟨mem_setTimeout.mpr (.inl pending), kind⟩
  · intro t ht s kind
    cases mem_setTimeout.mp ht with
    | inl old => exact h.receiveOwned t old s kind
    | inr new =>
      subst new
      exact absurd kind (other s)

theorem Tidy.clearJoinTimer (h : Tidy l) : Tidy (clearJoinTimer l) := by
  have cleared : Tidy (ClientSocket.clearTimeout l.joinTimer l) := by
    apply h.clearTimeout
    intro t ht kind
    obtain ⟨s, hs⟩ := h.joinSet t ht
    rw [hs] at kind
    cases kind
  exact ⟨cleared.reconnectSet, cleared.connectSet, (fun _ e => nomatch e), cleared.receiveSet, cleared.receiveOwned⟩

theorem Tidy.clearConnectTimer (h : Tidy l) : Tidy (clearConnectTimer l) := by
  have cleared : Tidy (ClientSocket.clearTimeout l.connectTimer l) := by
    apply h.clearTimeout
    intro t ht kind
    obtain ⟨s, hs⟩ := h.connectSet t ht
    rw [hs] at kind
    cases kind
  exact ⟨cleared.reconnectSet, (fun _ e => nomatch e), cleared.joinSet, cleared.receiveSet, cleared.receiveOwned⟩

theorem Tidy.clearReconnectTimer (h : Tidy l) : Tidy (clearReconnectTimer l) := by
  refine ⟨(fun _ e => nomatch e), h.connectSet, h.joinSet, h.receiveSet, ?_⟩
  intro t ht
  exact h.receiveOwned t (mem_clearTimeout.mp ht).1

theorem noReceive (h : Tidy l) (ht : t ∈ (clearReceiveTimer l).timers) : t.callback ≠ .receiveTimeout s := by
  intro kind
  obtain ⟨old, other⟩ := mem_clearTimeout.mp ht
  exact other (h.receiveOwned t old s kind).symm

theorem Tidy.clearReceiveTimer (h : Tidy l) : Tidy (clearReceiveTimer l) := by
  have cleared : Tidy (ClientSocket.clearTimeout l.receiveTimer l) := by
    apply h.clearTimeout
    intro t ht kind
    obtain ⟨s, hs⟩ := h.receiveSet t ht
    rw [hs] at kind
    cases kind
  refine ⟨cleared.reconnectSet, cleared.connectSet, cleared.joinSet, (fun _ e => nomatch e), ?_⟩
  intro t ht s kind
  exact absurd kind (noReceive h ht)

theorem Tidy.armJoinTimer (h : Tidy l) (s : ℕ) : Tidy (armJoinTimer s l) := by
  have set := h.clearJoinTimer.setTimeout (.joinTimeout s) wsJoinTimeoutMs (by simp)
  refine ⟨set.reconnectSet, set.connectSet, ?_, set.receiveSet, set.receiveOwned⟩
  intro t ht
  cases ht
  exact ⟨s, rfl⟩

theorem Tidy.armConnectTimer (h : Tidy l) (s : ℕ) : Tidy (armConnectTimer s l) := by
  have set := h.clearConnectTimer.setTimeout (.connectTimeout s) wsConnectTimeoutMs (by simp)
  refine ⟨set.reconnectSet, ?_, set.joinSet, set.receiveSet, set.receiveOwned⟩
  intro t ht
  cases ht
  exact ⟨s, rfl⟩

theorem Tidy.armReceiveTimer (h : Tidy l) (s : ℕ) : Tidy (armReceiveTimer s l) := by
  have cleared := h.clearReceiveTimer
  refine ⟨?_, cleared.connectSet, cleared.joinSet, ?_, ?_⟩
  · intro t ht
    obtain ⟨pending, kind⟩ := cleared.reconnectSet t ht
    exact ⟨mem_setTimeout.mpr (.inl pending), kind⟩
  · intro t ht
    cases ht
    exact ⟨s, rfl⟩
  · intro t ht s' kind
    cases mem_setTimeout.mp ht with
    | inl old => exact absurd kind (noReceive h old)
    | inr new =>
      subst new
      rfl

theorem Tidy.scheduleReconnect (h : Tidy l) : Tidy (scheduleReconnect l) := by
  unfold ClientSocket.scheduleReconnect
  split_ifs
  · exact h
  · have set := h.setTimeout .reconnect l.reconnectDelayMs (by simp)
    refine ⟨?_, set.connectSet, set.joinSet, set.receiveSet, set.receiveOwned⟩
    intro t ht
    cases ht
    exact ⟨mem_setTimeout.mpr (.inr rfl), rfl⟩

theorem Tidy.tryNextUrl (h : Tidy l) : Tidy (tryNextUrl l) := by
  unfold ClientSocket.tryNextUrl
  split_ifs
  · apply Tidy.setTimeout _ _ _ (by simp)
    exact h.congr rfl rfl rfl rfl rfl
  · apply Tidy.scheduleReconnect
    exact h.congr rfl rfl rfl rfl rfl

theorem Tidy.detach (h : Tidy l) : Tidy (detach l) := by
  apply Tidy.clearReceiveTimer
  apply Tidy.clearJoinTimer
  apply Tidy.clearConnectTimer
  exact h.congr rfl rfl rfl rfl rfl

/-- Every socket but the current one is closing or closed. -/
def Retired (l : Link) : Prop := ∀ s, l.ws ≠ some s → liveState (readyState l s) = false

theorem readyState_setSocket (f : Socket → Socket) :
    readyState (setSocket s f l) s' =
      if s' = s then (l.sockets[s]?.map (fun x => (f x).readyState)).getD .closed else readyState l s' := by
  unfold readyState setSocket
  rw [List.getElem?_modify]
  by_cases h : s' = s
  · subst h
    cases l.sockets[s']? <;> simp
  · have hs : s ≠ s' := Ne.symm h
    simp [h, hs]

theorem readyState_closeSocket :
    readyState (closeSocket s l) s' =
      if s' = s ∧ liveState (readyState l s) = true then .closing else readyState l s' := by
  unfold closeSocket
  rw [readyState_setSocket]
  by_cases h : s' = s
  · subst h
    unfold readyState
    cases l.sockets[s']? with
    | none => simp [liveState]
    | some x => cases hx : x.readyState <;> simp [hx, liveState]
  · simp [h]

theorem closeSocket_live (h : liveState (readyState (closeSocket s l) s') = true) :
    s' ≠ s ∧ readyState (closeSocket s l) s' = readyState l s' := by
  rw [readyState_closeSocket] at h ⊢
  split_ifs at h ⊢ with hc
  · cases h
  · refine ⟨?_, rfl⟩
    intro e
    subst e
    exact hc ⟨rfl, h⟩

theorem setClosed_live (h : liveState (readyState (setReadyState .closed s l) s') = true) :
    s' ≠ s ∧ readyState (setReadyState .closed s l) s' = readyState l s' := by
  unfold setReadyState at h ⊢
  rw [readyState_setSocket] at h ⊢
  split_ifs at h ⊢ with hc
  · cases hx : l.sockets[s]? with
    | none => rw [hx] at h; cases h
    | some x => rw [hx] at h; cases h
  · exact ⟨hc, rfl⟩

theorem sockets_setSocket (f : Socket → Socket) (keep : ∀ x, (f x).closeFired = x.closeFired)
    (h : ∃ x, l.sockets[s']? = some x ∧ x.closeFired = false) :
    ∃ x, (setSocket s f l).sockets[s']? = some x ∧ x.closeFired = false := by
  obtain ⟨x, hx, hc⟩ := h
  unfold setSocket
  rw [List.getElem?_modify, hx]
  by_cases he : s = s'
  · exact ⟨f x, by simp [he], by rw [keep, hc]⟩
  · exact ⟨x, by simp [he], hc⟩

theorem sockets_closeSocket (h : ∃ x, l.sockets[s']? = some x ∧ x.closeFired = false) :
    ∃ x, (closeSocket s l).sockets[s']? = some x ∧ x.closeFired = false := by
  apply sockets_setSocket _ _ h
  intro x
  cases x.readyState <;> simp

structure Orderly (l : Link) : Prop where
  tidy : Tidy l
  retired : Retired l
  counted : l.ws.isSome = true ∨ l.reconnectBlocked = true → 0 < l.wsConnectionSequence

/-- What will end the present state of the current socket. -/
structure Watched (p : Prop) (l : Link) (s : ℕ) : Prop where
  closeDue : ∃ x, l.sockets[s]? = some x ∧ x.closeFired = false
  connecting : readyState l s = .connecting →
    ∃ t ∈ l.timers, l.connectTimer = some t ∧ t.callback = .connectTimeout s
  joining : readyState l s = .opened → l.wsJoined = false → l.reconnectBlocked = false → p →
    ∃ t ∈ l.timers, l.joinTimer = some t ∧ t.callback = .joinTimeout s
  receiving : readyState l s = .opened → l.wsJoined = true →
    ∃ t ∈ l.timers, l.receiveTimer = some t ∧ t.callback = .receiveTimeout s

/-- What will open the next socket when there is none. -/
def Waiting (p : Prop) (l : Link) : Prop := 0 < l.wsConnectionSequence → l.reconnectBlocked = false → p →
  l.reconnectTimer.isSome = true ∨ ∃ t ∈ l.timers, t.callback = .connect

structure Attended (p : Prop) (l : Link) : Prop where
  orderly : Orderly l
  watched : ∀ s, l.ws = some s → Watched p l s
  waiting : l.ws = none → Waiting p l

structure Core where
  ws : Option ℕ
  wsJoined : Bool
  reconnectTimer : Option Timer
  connectTimer : Option Timer
  joinTimer : Option Timer
  receiveTimer : Option Timer
  wsConnectionSequence : ℕ
  reconnectBlocked : Bool
  sockets : List Socket
  timers : List Timer

def core (l : Link) : Core :=
  ⟨l.ws, l.wsJoined, l.reconnectTimer, l.connectTimer, l.joinTimer, l.receiveTimer,
    l.wsConnectionSequence, l.reconnectBlocked, l.sockets, l.timers⟩

theorem Orderly.congr (h : Orderly l) (e : core l' = core l) : Orderly l' := by
  simp only [core, Core.mk.injEq] at e
  obtain ⟨ws, -, reconnect, connect, join, receive, sequence, blocked, sockets, timers⟩ := e
  refine ⟨h.tidy.congr timers reconnect connect join receive, ?_, ?_⟩
  · intro s hs
    unfold readyState
    rw [sockets]
    exact h.retired s (ws ▸ hs)
  · rw [ws, blocked, sequence]
    exact h.counted

theorem Attended.congr (h : Attended p l) (e : core l' = core l) : Attended p l' := by
  have orderly := h.orderly.congr e
  simp only [core, Core.mk.injEq] at e
  obtain ⟨ws, joined, reconnect, connect, join, receive, sequence, blocked, sockets, timers⟩ := e
  have state : readyState l' = readyState l := by
    unfold readyState
    rw [sockets]
  refine ⟨orderly, ?_, ?_⟩
  · intro s hs
    obtain ⟨closeDue, connecting, joining, receiving⟩ := h.watched s (ws ▸ hs)
    constructor
    · rw [sockets]
      exact closeDue
    · rw [state, timers, connect]
      exact connecting
    · rw [state, timers, join, joined, blocked]
      exact joining
    · rw [state, timers, receive, joined]
      exact receiving
  · intro hs
    have waiting := h.waiting (ws ▸ hs)
    unfold Waiting
    rw [sequence, blocked, reconnect, timers]
    exact waiting

theorem survives (h : t ∈ l.timers) {timer : Option Timer}
    (other : ∀ t', timer = some t' → t'.callback ≠ t.callback) : t ∈ (clearTimeout timer l).timers := by
  rw [mem_clearTimeout]
  refine ⟨h, ?_⟩
  intro e
  exact other t e.symm rfl

theorem Orderly.closeSocket (h : Orderly l) (s : ℕ) : Orderly (closeSocket s l) := by
  refine ⟨h.tidy.congr rfl rfl rfl rfl rfl, ?_, h.counted⟩
  intro s' hs'
  by_contra live
  obtain ⟨-, same⟩ := closeSocket_live (by simpa using live)
  rw [same] at live
  exact live (h.retired s' hs')

theorem Attended.closeSocket (h : Attended p l) (s : ℕ) : Attended p (closeSocket s l) := by
  refine ⟨h.orderly.closeSocket s, ?_, h.waiting⟩
  intro s' hs'
  obtain ⟨closeDue, connecting, joining, receiving⟩ := h.watched s' hs'
  refine ⟨sockets_closeSocket closeDue, ?_, ?_, ?_⟩
  · intro state
    obtain ⟨-, same⟩ := closeSocket_live (l := l) (s := s) (by rw [state]; rfl)
    exact connecting (same ▸ state)
  · intro state
    obtain ⟨-, same⟩ := closeSocket_live (l := l) (s := s) (by rw [state]; rfl)
    exact joining (same ▸ state)
  · intro state
    obtain ⟨-, same⟩ := closeSocket_live (l := l) (s := s) (by rw [state]; rfl)
    exact receiving (same ▸ state)

theorem Attended.setClosed (h : Attended p l) (s : ℕ) : Attended p (setReadyState .closed s l) := by
  refine ⟨⟨h.orderly.tidy.congr rfl rfl rfl rfl rfl, ?_, h.orderly.counted⟩, ?_, h.waiting⟩
  · intro s' hs'
    by_contra live
    obtain ⟨-, same⟩ := setClosed_live (by simpa using live)
    rw [same] at live
    exact live (h.orderly.retired s' hs')
  · intro s' hs'
    obtain ⟨closeDue, connecting, joining, receiving⟩ := h.watched s' hs'
    refine ⟨sockets_setSocket _ (fun _ => rfl) closeDue, ?_, ?_, ?_⟩
    · intro state
      obtain ⟨-, same⟩ := setClosed_live (l := l) (s := s) (by rw [state]; rfl)
      exact connecting (same ▸ state)
    · intro state
      obtain ⟨-, same⟩ := setClosed_live (l := l) (s := s) (by rw [state]; rfl)
      exact joining (same ▸ state)
    · intro state
      obtain ⟨-, same⟩ := setClosed_live (l := l) (s := s) (by rw [state]; rfl)
      exact receiving (same ▸ state)

theorem armReceiveTimer_pending : ∃ t ∈ (armReceiveTimer s l).timers,
    (armReceiveTimer s l).receiveTimer = some t ∧ t.callback = .receiveTimeout s :=
  ⟨_, mem_setTimeout.mpr (.inr rfl), rfl, rfl⟩

theorem armJoinTimer_pending : ∃ t ∈ (armJoinTimer s l).timers,
    (armJoinTimer s l).joinTimer = some t ∧ t.callback = .joinTimeout s :=
  ⟨_, mem_setTimeout.mpr (.inr rfl), rfl, rfl⟩

theorem survives_armReceive (h : Tidy l) (ht : t ∈ l.timers) (other : ∀ s, t.callback ≠ .receiveTimeout s) :
    t ∈ (armReceiveTimer s l).timers := by
  apply mem_setTimeout.mpr (.inl _)
  apply survives ht
  intro t' ht' e
  obtain ⟨s', hs'⟩ := h.receiveSet t' ht'
  exact other s' (e ▸ hs')

theorem survives_armJoin (h : Tidy l) (ht : t ∈ l.timers) (other : ∀ s, t.callback ≠ .joinTimeout s) :
    t ∈ (armJoinTimer s l).timers := by
  apply mem_setTimeout.mpr (.inl _)
  apply survives ht
  intro t' ht' e
  obtain ⟨s', hs'⟩ := h.joinSet t' ht'
  exact other s' (e ▸ hs')

theorem Attended.armReceiveTimer (h : Attended p l) (current : l.ws = some s) : Attended p (armReceiveTimer s l) := by
  have tidy := h.orderly.tidy
  refine ⟨⟨tidy.armReceiveTimer s, h.orderly.retired, h.orderly.counted⟩, ?_, ?_⟩
  · intro s' hs'
    obtain rfl : s = s' := Option.some.inj (current.symm.trans hs')
    obtain ⟨closeDue, connecting, joining, -⟩ := h.watched s current
    refine ⟨closeDue, ?_, ?_, fun _ _ => armReceiveTimer_pending⟩
    · intro state
      obtain ⟨t, ht, set, kind⟩ := connecting state
      exact ⟨t, survives_armReceive tidy ht (by simp [kind]), set, kind⟩
    · intro state joined blocked steady
      obtain ⟨t, ht, set, kind⟩ := joining state joined blocked steady
      exact ⟨t, survives_armReceive tidy ht (by simp [kind]), set, kind⟩
  · intro none
    have hn : l.ws = Option.none := none
    rw [current] at hn
    cases hn

theorem Attended.armJoinTimer (h : Attended p l) (current : l.ws = some s) : Attended p (armJoinTimer s l) := by
  have tidy := h.orderly.tidy
  refine ⟨⟨tidy.armJoinTimer s, h.orderly.retired, h.orderly.counted⟩, ?_, ?_⟩
  · intro s' hs'
    obtain rfl : s = s' := Option.some.inj (current.symm.trans hs')
    obtain ⟨closeDue, connecting, -, receiving⟩ := h.watched s current
    refine ⟨closeDue, ?_, fun _ _ _ _ => armJoinTimer_pending, ?_⟩
    · intro state
      obtain ⟨t, ht, set, kind⟩ := connecting state
      exact ⟨t, survives_armJoin tidy ht (by simp [kind]), set, kind⟩
    · intro state joined
      obtain ⟨t, ht, set, kind⟩ := receiving state joined
      exact ⟨t, survives_armJoin tidy ht (by simp [kind]), set, kind⟩
  · intro none
    have hn : l.ws = Option.none := none
    rw [current] at hn
    cases hn

theorem Watched.clearTimeout (h : Watched p l s) {timer : Option Timer} (other : ∀ t, timer = some t →
      ∀ s, t.callback ≠ .connectTimeout s ∧ t.callback ≠ .joinTimeout s ∧ t.callback ≠ .receiveTimeout s) :
    Watched p (clearTimeout timer l) s := by
  obtain ⟨closeDue, connecting, joining, receiving⟩ := h
  refine ⟨closeDue, ?_, ?_, ?_⟩
  · intro state
    obtain ⟨t, ht, set, kind⟩ := connecting state
    refine ⟨t, survives ht ?_, set, kind⟩
    intro t' ht' e
    exact (other t' ht' s).1 (e.trans kind)
  · intro state joined blocked steady
    obtain ⟨t, ht, set, kind⟩ := joining state joined blocked steady
    refine ⟨t, survives ht ?_, set, kind⟩
    intro t' ht' e
    exact (other t' ht' s).2.1 (e.trans kind)
  · intro state joined
    obtain ⟨t, ht, set, kind⟩ := receiving state joined
    refine ⟨t, survives ht ?_, set, kind⟩
    intro t' ht' e
    exact (other t' ht' s).2.2 (e.trans kind)

theorem Orderly.clearTimeout (h : Orderly l) (timer : Option Timer)
    (other : ∀ t, timer = some t → t.callback ≠ .reconnect) : Orderly (clearTimeout timer l) :=
  ⟨h.tidy.clearTimeout timer other, h.retired, h.counted⟩

/-- Without a socket, scheduling a reconnect attends to the client. -/
theorem Orderly.scheduleReconnect (h : Orderly l) (none : l.ws = none) : Attended p (scheduleReconnect l) := by
  have tidy := h.tidy.scheduleReconnect
  unfold ClientSocket.scheduleReconnect at tidy ⊢
  split_ifs at tidy ⊢ with hc
  · refine ⟨h, ?_, ?_⟩
    · intro s hs
      rw [none] at hs
      cases hs
    · intro _ _ blocked _
      left
      simpa [blocked] using hc
  · refine ⟨⟨tidy, h.retired, h.counted⟩, ?_, ?_⟩
    · intro s hs
      have hn : some s = Option.none := hs.symm.trans none
      cases hn
    · intro _ _ _ _
      exact .inl rfl

theorem Orderly.tryNextUrl (h : Orderly l) (none : l.ws = none) : Attended p (tryNextUrl l) := by
  have tidy := h.tidy.tryNextUrl
  unfold ClientSocket.tryNextUrl at tidy ⊢
  split_ifs at tidy ⊢
  · refine ⟨⟨tidy, h.retired, h.counted⟩, ?_, ?_⟩
    · intro s hs
      have hn : some s = Option.none := hs.symm.trans none
      cases hn
    · intro _ _ _ _
      exact .inr ⟨_, mem_setTimeout.mpr (.inr rfl), rfl⟩
  · apply Orderly.scheduleReconnect
    · exact h.congr rfl
    · exact none

theorem orderly_closed (tidy : Tidy l) (none : l.ws = none)
    (others : ∀ s', s' ≠ s → liveState (readyState l s') = false)
    (counted : l.reconnectBlocked = true → 0 < l.wsConnectionSequence) : Orderly (closeSocket s l) := by
  refine ⟨tidy.congr rfl rfl rfl rfl rfl, ?_, ?_⟩
  · intro s' _
    by_contra live
    obtain ⟨hne, same⟩ := closeSocket_live (by simpa using live)
    rw [same] at live
    exact live (others s' hne)
  · intro h
    cases h with
    | inl some =>
      have hs : l.ws.isSome = true := some
      rw [none] at hs
      cases hs
    | inr blocked => exact counted blocked

theorem Attended.joinConfirmed (h : Attended p l) (current : l.ws = some s) (state : readyState l s = .opened) :
    Attended p (joinConfirmed s l) := by
  have tidy : Tidy { l with wsJoined := true } := h.orderly.tidy.congr rfl rfl rfl rfl rfl
  have cleared := tidy.clearJoinTimer.clearReconnectTimer
  have armed : Tidy (ClientSocket.joinConfirmed s l) :=
    (cleared.congr rfl rfl rfl rfl rfl : Tidy { ClientSocket.clearReconnectTimer
      (ClientSocket.clearJoinTimer { l with wsJoined := true }) with reconnectDelayMs := 1000 }).armReceiveTimer s
  refine ⟨⟨armed, h.orderly.retired, h.orderly.counted⟩, ?_, ?_⟩
  · intro s' hs'
    obtain rfl : s = s' := Option.some.inj (current.symm.trans hs')
    refine ⟨(h.watched s current).closeDue, ?_, ?_, fun _ _ => armReceiveTimer_pending⟩
    · intro e
      have hc : readyState l s = .connecting := e
      rw [state] at hc
      cases hc
    · intro _ e
      cases e
  · intro e
    have hn : some s = none := current.symm.trans e
    cases hn

theorem Attended.sessionReplaced (h : Attended p l) (current : l.ws = some s) : Attended p (sessionReplaced l) := by
  have tidy : Tidy { l with reconnectBlocked := true, wsJoined := false } :=
    h.orderly.tidy.congr rfl rfl rfl rfl rfl
  have counted : 0 < l.wsConnectionSequence := h.orderly.counted (.inl (by rw [current]; rfl))
  refine ⟨⟨tidy.clearJoinTimer.clearReceiveTimer.clearReconnectTimer, h.orderly.retired, fun _ => counted⟩, ?_, ?_⟩
  · intro s' hs'
    obtain rfl : s = s' := Option.some.inj (current.symm.trans hs')
    obtain ⟨closeDue, connecting, -, -⟩ := h.watched s current
    refine ⟨closeDue, ?_, ?_, ?_⟩
    · intro state
      obtain ⟨t, ht, set, kind⟩ := connecting state
      have afterJoin : t ∈ (ClientSocket.clearJoinTimer { l with reconnectBlocked := true, wsJoined := false }).timers := by
        apply survives ht
        intro t' ht' e
        obtain ⟨s', hs'⟩ := tidy.joinSet t' ht'
        rw [hs', kind] at e
        cases e
      have afterReceive : t ∈ (ClientSocket.clearReceiveTimer (ClientSocket.clearJoinTimer
          { l with reconnectBlocked := true, wsJoined := false })).timers := by
        apply survives afterJoin
        intro t' ht' e
        obtain ⟨s', hs'⟩ := tidy.receiveSet t' ht'
        rw [hs', kind] at e
        cases e
      refine ⟨t, ?_, set, kind⟩
      apply survives afterReceive
      intro t' ht' e
      rw [(tidy.reconnectSet t' ht').2, kind] at e
      cases e
    · intro _ _ blocked
      cases blocked
    · intro _ joined
      cases joined
  · intro e
    have hn : some s = none := current.symm.trans e
    cases hn

theorem notLive (idle : liveSocket l = false) (h : l.ws = some s) : liveState (readyState l s) = false := by
  unfold liveSocket at idle
  rw [h] at idle
  simpa using idle

theorem readyState_append (x : Socket) : readyState { l with sockets := l.sockets ++ [x] } s =
    if s = l.sockets.length then x.readyState else readyState l s := by
  unfold readyState
  by_cases h : s = l.sockets.length
  · subst h
    simp
  · rw [if_neg h]
    by_cases hlt : s < l.sockets.length
    · simp [List.getElem?_append_left hlt]
    · have hgt : l.sockets.length < s := by omega
      have hnone : (l.sockets ++ [x])[s]? = none := by
        rw [List.getElem?_eq_none]
        simp only [List.length_append, List.length_singleton]
        omega
      simp only [hnone, List.getElem?_eq_none (le_of_lt hgt)]

theorem Orderly.newSocket (h : Orderly l) (idle : liveSocket l = false) (counted : 0 < l.wsConnectionSequence) :
    Attended p (newSocket l) := by
  have tidy : Tidy { l with sockets := l.sockets ++ [⟨.connecting, false, false⟩], ws := some l.sockets.length } :=
    h.tidy.congr rfl rfl rfl rfl rfl
  refine ⟨⟨tidy.armConnectTimer _, ?_, fun _ => counted⟩, ?_, ?_⟩
  · intro s hs
    have hne : s ≠ l.sockets.length := by
      intro e
      exact hs (congrArg some e.symm)
    have state : readyState (ClientSocket.newSocket l) s = readyState l s :=
      (readyState_append ⟨.connecting, false, false⟩).trans (if_neg hne)
    rw [state]
    by_cases hw : l.ws = some s
    · exact notLive idle hw
    · exact h.retired s hw
  · intro s hs
    obtain rfl : l.sockets.length = s := Option.some.inj hs
    have state : readyState (ClientSocket.newSocket l) l.sockets.length = .connecting :=
      (readyState_append ⟨.connecting, false, false⟩).trans (if_pos rfl)
    refine ⟨⟨⟨.connecting, false, false⟩, ?_, rfl⟩, ?_, ?_, ?_⟩
    · exact List.getElem?_concat_length
    · intro _
      exact ⟨_, mem_setTimeout.mpr (.inr rfl), rfl, rfl⟩
    · intro e
      rw [state] at e
      cases e
    · intro e
      rw [state] at e
      cases e
  · intro e
    cases e

theorem Orderly.countConnection (h : Orderly l) : Orderly (countConnection l) :=
  ⟨h.tidy.congr rfl rfl rfl rfl rfl, h.retired, fun _ => Nat.succ_pos _⟩

theorem Orderly.constructorFailed (h : Orderly l) (idle : liveSocket l = false)
    (counted : 0 < l.wsConnectionSequence) : Attended p (constructorFailed l) := by
  have dropped : Orderly { l with ws := none } := by
    refine ⟨h.tidy.congr rfl rfl rfl rfl rfl, ?_, fun _ => counted⟩
    intro s _
    have dead : liveState (readyState l s) = false := by
      by_cases hw : l.ws = some s
      · exact notLive idle hw
      · exact h.retired s hw
    exact dead
  exact dropped.tryNextUrl rfl

/-- The current socket has opened and has not joined. -/
structure JustOpened (l : Link) (s : ℕ) : Prop where
  orderly : Orderly l
  current : l.ws = some s
  closeDue : ∃ x, l.sockets[s]? = some x ∧ x.closeFired = false
  state : readyState l s = .opened
  joined : l.wsJoined = false

theorem JustOpened.sent (h : JustOpened l s) (sent : List (ℕ × Json)) : JustOpened { l with sent := sent } s :=
  ⟨h.orderly.congr rfl, h.current, h.closeDue, h.state, h.joined⟩

theorem Attended.current (h : Attended p l) (live : liveState (readyState l s) = true) : l.ws = some s := by
  by_contra stale
  have dead := h.orderly.retired s stale
  rw [live] at dead
  cases dead

theorem openedNow_sockets : (openedNow s (setReadyState .opened s l)).sockets[s']? =
    l.sockets[s']?.map (fun x => if s = s' then { x with readyState := .opened, opened := true } else x) := by
  have sockets : (openedNow s (setReadyState .opened s l)).sockets =
      (l.sockets.modify s (fun x => { x with readyState := .opened })).modify s
        (fun x => { x with opened := true }) := by
    simp [setReadyState]
  rw [sockets, List.getElem?_modify, List.getElem?_modify]
  by_cases h : s = s'
  · cases l.sockets[s']? <;> simp [h]
  · cases l.sockets[s']? <;> simp [h]

theorem openedNow_fields : (openedNow s (setReadyState .opened s l)).ws = l.ws ∧
    (openedNow s (setReadyState .opened s l)).wsConnectionSequence = l.wsConnectionSequence ∧
    (openedNow s (setReadyState .opened s l)).wsJoined = false := by
  simp [setReadyState]

theorem Tidy.openedNow (h : Tidy l) (s : ℕ) : Tidy (openedNow s l) := by
  apply h.clearConnectTimer.clearReceiveTimer.congr
  all_goals simp

theorem Attended.justOpened (h : Attended p l) (state : readyState l s = .connecting) :
    JustOpened (openedNow s (setReadyState .opened s l)) s := by
  have current : l.ws = some s := h.current (by rw [state]; rfl)
  obtain ⟨x, hx, hclose⟩ := (h.watched s current).closeDue
  have socket : (openedNow s (setReadyState .opened s l)).sockets[s]? =
      some { x with readyState := .opened, opened := true } := by
    rw [openedNow_sockets, hx]
    simp
  have others : ∀ s', s ≠ s' → (openedNow s (setReadyState .opened s l)).sockets[s']? = l.sockets[s']? := by
    intro s' hne
    rw [openedNow_sockets]
    simp [hne]
  have tidy : Tidy (setReadyState .opened s l) := h.orderly.tidy.congr rfl rfl rfl rfl rfl
  have counted : 0 < l.wsConnectionSequence := h.orderly.counted (.inl (by rw [current]; rfl))
  obtain ⟨ws, sequence, joined⟩ := openedNow_fields (l := l) (s := s)
  have opened := tidy.openedNow s
  generalize openedNow s (setReadyState .opened s l) = m at socket others ws sequence joined opened
  refine ⟨⟨opened, ?_, fun _ => sequence ▸ counted⟩, ws.trans current, ⟨_, socket, hclose⟩, ?_, joined⟩
  · intro s' hs'
    rw [ws] at hs'
    have hne : s ≠ s' := by
      intro e
      exact hs' (e ▸ current)
    have dead := h.orderly.retired s' hs'
    unfold readyState at dead ⊢
    rw [others s' hne]
    exact dead
  · unfold readyState
    rw [socket]
    rfl

theorem JustOpened.armJoinTimer (h : JustOpened l s) : Attended p (armJoinTimer s l) := by
  refine ⟨⟨h.orderly.tidy.armJoinTimer s, h.orderly.retired, h.orderly.counted⟩, ?_, ?_⟩
  · intro s' hs'
    obtain rfl : s = s' := Option.some.inj (h.current.symm.trans hs')
    refine ⟨h.closeDue, ?_, fun _ _ _ _ => armJoinTimer_pending, ?_⟩
    · intro e
      have hc : readyState l s = .connecting := e
      rw [h.state] at hc
      cases hc
    · intro _ e
      have hj : l.wsJoined = true := e
      rw [h.joined] at hj
      cases hj
  · intro e
    have hn : some s = none := h.current.symm.trans e
    cases hn

/-- The join could not be sent: the close event will come. -/
theorem JustOpened.closeSocket (h : JustOpened l s) : Attended p (closeSocket s l) := by
  refine ⟨h.orderly.closeSocket s, ?_, ?_⟩
  · intro s' hs'
    obtain rfl : s = s' := Option.some.inj (h.current.symm.trans hs')
    refine ⟨sockets_closeSocket h.closeDue, ?_, ?_, ?_⟩
    · intro e
      exact absurd rfl (closeSocket_live (l := l) (s := s) (by rw [e]; rfl)).1
    · intro e
      exact absurd rfl (closeSocket_live (l := l) (s := s) (by rw [e]; rfl)).1
    · intro e
      exact absurd rfl (closeSocket_live (l := l) (s := s) (by rw [e]; rfl)).1
  · intro e
    have hn : some s = none := h.current.symm.trans e
    cases hn

theorem Orderly.afterClose (h : Orderly l) (none : l.ws = none) (s : ℕ) : Attended p (afterClose s l) := by
  unfold ClientSocket.afterClose
  split_ifs with blocked
  · refine ⟨h, ?_, ?_⟩
    · intro s' hs'
      rw [none] at hs'
      cases hs'
    · intro _ _ unblocked
      rw [blocked] at unblocked
      cases unblocked
  · apply Orderly.scheduleReconnect
    · exact h.congr rfl
    · exact none
  · exact h.tryNextUrl none

theorem closeFires_live (h : liveState (readyState (closeFires s l) s') = true) :
    s' ≠ s ∧ readyState (closeFires s l) s' = readyState l s' := by
  unfold closeFires at h ⊢
  rw [readyState_setSocket] at h ⊢
  split_ifs at h ⊢ with hc
  · cases hx : l.sockets[s]? with
    | none => rw [hx] at h; cases h
    | some x => rw [hx] at h; cases h
  · exact ⟨hc, rfl⟩

theorem Attended.otherSocket (h : Attended p l) (stale : l.ws ≠ some s) (f : Socket → Socket)
    (dead : ∀ x, liveState (f x).readyState = false) : Attended p (setSocket s f l) := by
  have same : ∀ s', s' ≠ s → readyState (setSocket s f l) s' = readyState l s' := by
    intro s' hs'
    rw [readyState_setSocket, if_neg hs']
  have current : ∀ s', l.ws = some s' → s' ≠ s := by
    intro s' hs' e
    exact stale (e ▸ hs')
  refine ⟨⟨h.orderly.tidy.congr rfl rfl rfl rfl rfl, ?_, h.orderly.counted⟩, ?_, h.waiting⟩
  · intro s' hs'
    by_cases e : s' = s
    · rw [readyState_setSocket, if_pos e]
      cases l.sockets[s]? with
      | none => rfl
      | some x => exact dead x
    · rw [same s' e]
      exact h.orderly.retired s' hs'
  · intro s' hs'
    have hne := current s' hs'
    obtain ⟨⟨x, hx, hc⟩, connecting, joining, receiving⟩ := h.watched s' hs'
    refine ⟨⟨x, ?_, hc⟩, ?_, ?_, ?_⟩
    · unfold setSocket
      rw [List.getElem?_modify, hx]
      simp [Ne.symm hne]
    · rw [same s' hne]
      exact connecting
    · rw [same s' hne]
      exact joining
    · rw [same s' hne]
      exact receiving

theorem Attended.setTimeout (h : Attended p l) (callback : Callback) (delayMs : ℕ)
    (other : ∀ s, callback ≠ .receiveTimeout s) : Attended p (setTimeout callback delayMs l) := by
  refine ⟨⟨h.orderly.tidy.setTimeout callback delayMs other, h.orderly.retired, h.orderly.counted⟩, ?_, ?_⟩
  · intro s hs
    obtain ⟨closeDue, connecting, joining, receiving⟩ := h.watched s hs
    refine ⟨closeDue, ?_, ?_, ?_⟩
    · intro state
      obtain ⟨t, ht, set⟩ := connecting state
      exact ⟨t, mem_setTimeout.mpr (.inl ht), set⟩
    · intro state joined blocked steady
      obtain ⟨t, ht, set⟩ := joining state joined blocked steady
      exact ⟨t, mem_setTimeout.mpr (.inl ht), set⟩
    · intro state joined
      obtain ⟨t, ht, set⟩ := receiving state joined
      exact ⟨t, mem_setTimeout.mpr (.inl ht), set⟩
  · intro none counted blocked steady
    cases h.waiting none counted blocked steady with
    | inl set => exact .inl set
    | inr fallback =>
      obtain ⟨t, ht, kind⟩ := fallback
      exact .inr ⟨t, mem_setTimeout.mpr (.inl ht), kind⟩

theorem Attended.allowConnecting (h : Attended p l) (unused : p → l.wsConnectionSequence = 0) :
    Attended p (allowConnecting l) := by
  refine ⟨⟨h.orderly.tidy.congr rfl rfl rfl rfl rfl, h.orderly.retired, ?_⟩, ?_, ?_⟩
  · intro e
    cases e with
    | inl some => exact h.orderly.counted (.inl some)
    | inr blocked => cases blocked
  · intro s hs
    obtain ⟨closeDue, connecting, -, receiving⟩ := h.watched s hs
    refine ⟨closeDue, connecting, ?_, receiving⟩
    intro _ _ _ steady
    have counted := h.orderly.counted (.inl (Option.isSome_iff_exists.mpr ⟨s, hs⟩))
    rw [unused steady] at counted
    cases counted
  · intro _ counted _ steady
    have hc : 0 < l.wsConnectionSequence := counted
    rw [unused steady] at hc
    cases hc

/-- The firing of a timer that was not the one the client is waiting for. -/
theorem Attended.fired (h : Attended p l) (t : Timer) (reconnect : t.callback ≠ .reconnect)
    (connect : t.callback ≠ .connect)
    (handshake : ∀ s, t.callback = .connectTimeout s → ¬(l.ws = some s ∧ readyState l s = .connecting))
    (join : ∀ s, t.callback = .joinTimeout s → ¬(l.ws = some s ∧ l.wsJoined = false))
    (receive : ∀ s, t.callback = .receiveTimeout s → ¬(l.ws = some s ∧ l.wsJoined = true)) :
    Attended p (clearTimeout (some t) l) := by
  have keep : ∀ t' ∈ l.timers, t'.callback ≠ t.callback → t' ∈ (clearTimeout (some t) l).timers := by
    intro t' ht' hne
    apply survives ht'
    intro t'' e
    cases e
    exact Ne.symm hne
  refine ⟨h.orderly.clearTimeout _ ?_, ?_, ?_⟩
  · intro t' e
    cases e
    exact reconnect
  · intro s hs
    obtain ⟨closeDue, connecting, joining, receiving⟩ := h.watched s hs
    refine ⟨closeDue, ?_, ?_, ?_⟩
    · intro state
      obtain ⟨t', ht', set, kind⟩ := connecting state
      refine ⟨t', keep t' ht' ?_, set, kind⟩
      intro e
      exact handshake s (e ▸ kind) ⟨hs, state⟩
    · intro state joined blocked steady
      obtain ⟨t', ht', set, kind⟩ := joining state joined blocked steady
      refine ⟨t', keep t' ht' ?_, set, kind⟩
      intro e
      exact join s (e ▸ kind) ⟨hs, joined⟩
    · intro state joined
      obtain ⟨t', ht', set, kind⟩ := receiving state joined
      refine ⟨t', keep t' ht' ?_, set, kind⟩
      intro e
      exact receive s (e ▸ kind) ⟨hs, joined⟩
  · intro none counted blocked steady
    cases h.waiting none counted blocked steady with
    | inl set => exact .inl set
    | inr fallback =>
      obtain ⟨t', ht', kind⟩ := fallback
      refine .inr ⟨t', keep t' ht' ?_, kind⟩
      intro e
      exact connect (e ▸ kind)

theorem Tidy.receiveFired (h : Tidy l) (ht : t ∈ l.timers) (kind : t.callback = .receiveTimeout s) :
    Tidy (forgetReceiveTimer (ClientSocket.clearTimeout (some t) l)) := by
  have cleared : Tidy (ClientSocket.clearTimeout (some t) l) := by
    apply h.clearTimeout
    intro t' e
    cases e
    rw [kind]
    simp
  refine ⟨cleared.reconnectSet, cleared.connectSet, cleared.joinSet, (fun _ e => nomatch e), ?_⟩
  intro t' ht' s' kind'
  obtain ⟨old, other⟩ := mem_clearTimeout.mp ht'
  have set := h.receiveOwned t ht s kind
  have set' := h.receiveOwned t' old s' kind'
  exact absurd (set'.symm.trans set) other

theorem Attended.receiveFired (h : Attended p l) (ht : t ∈ l.timers) (kind : t.callback = .receiveTimeout s)
    (stale : ¬(l.ws = some s ∧ l.wsJoined = true)) :
    Attended p (forgetReceiveTimer (clearTimeout (some t) l)) := by
  have fired : Attended p (ClientSocket.clearTimeout (some t) l) := by
    apply h.fired t
    · rw [kind]
      simp
    · rw [kind]
      simp
    · intro s' e
      rw [kind] at e
      cases e
    · intro s' e
      rw [kind] at e
      cases e
    · intro s' e
      rw [kind] at e
      cases e
      exact stale
  refine ⟨⟨h.orderly.tidy.receiveFired ht kind, h.orderly.retired, h.orderly.counted⟩, ?_, fired.waiting⟩
  intro s' hs'
  obtain ⟨closeDue, connecting, joining, -⟩ := fired.watched s' hs'
  refine ⟨closeDue, connecting, joining, ?_⟩
  intro state joined
  -- The timer that is set has fired, so a joined socket would have no timer left.
  obtain ⟨t', ht', set', kind'⟩ := (h.watched s' hs').receiving state joined
  have set := h.orderly.tidy.receiveOwned t ht s kind
  obtain rfl : t' = t := Option.some.inj (set'.symm.trans set)
  rw [kind] at kind'
  cases kind'
  exact absurd ⟨hs', joined⟩ stale

theorem freshLink_attended (location : Location) : Attended p (freshLink location) := by
  refine ⟨⟨⟨?_, ?_, ?_, ?_, ?_⟩, (fun _ _ => rfl), ?_⟩, ?_, ?_⟩
  · intro t e
    cases e
  · intro t e
    cases e
  · intro t e
    cases e
  · intro t e
    cases e
  · intro t ht
    cases ht
  · intro e
    cases e with
    | inl none => cases none
    | inr unblocked => cases unblocked
  · intro s e
    cases e
  · intro _ counted
    cases counted

theorem scheduleReconnect_sequence (l : Link) :
    (scheduleReconnect l).wsConnectionSequence = l.wsConnectionSequence := by
  unfold scheduleReconnect
  split_ifs
  · rfl
  · rfl

theorem tryNextUrl_sequence (l : Link) : (tryNextUrl l).wsConnectionSequence = l.wsConnectionSequence := by
  unfold tryNextUrl
  split_ifs
  · rfl
  · exact scheduleReconnect_sequence _

theorem adoptHeartbeat_sequence (msg : Json) (l : Link) :
    (adoptHeartbeat msg l).wsConnectionSequence = l.wsConnectionSequence := by
  unfold adoptHeartbeat
  split
  · simp only []
    split_ifs
    · unfold rearmReceiveTimer
      split
      · rfl
      · rfl
    · rfl
  · rfl

theorem noteProgress_sequence (msg : Json) (l : Link) :
    (noteProgress msg l).wsConnectionSequence = l.wsConnectionSequence := by
  unfold noteProgress
  split
  · split_ifs
    · rfl
    · rfl
  · rfl

theorem noteTraffic_sequence (s : ℕ) (l : Link) :
    (noteTraffic s l).wsConnectionSequence = l.wsConnectionSequence := by
  unfold noteTraffic
  split_ifs
  · rfl
  · rfl

theorem afterClose_sequence (s : ℕ) (l : Link) :
    (afterClose s l).wsConnectionSequence = l.wsConnectionSequence := by
  unfold afterClose
  split_ifs
  · rfl
  · rw [scheduleReconnect_sequence]
  · exact tryNextUrl_sequence l

theorem restarting_sequence (l : Link) : (restarting l).wsConnectionSequence = l.wsConnectionSequence := by
  unfold restarting
  split
  · rfl
  · rfl

theorem constructorFailed_sequence (l : Link) :
    (constructorFailed l).wsConnectionSequence = l.wsConnectionSequence := by
  unfold constructorFailed
  rw [tryNextUrl_sequence]

theorem armReceiveTimer_sequence (s : ℕ) (l : Link) :
    (armReceiveTimer s l).wsConnectionSequence = l.wsConnectionSequence := by
  simp [armReceiveTimer]

theorem armJoinTimer_sequence (s : ℕ) (l : Link) :
    (armJoinTimer s l).wsConnectionSequence = l.wsConnectionSequence := by
  simp [armJoinTimer]

theorem joinConfirmed_sequence (s : ℕ) (l : Link) :
    (joinConfirmed s l).wsConnectionSequence = l.wsConnectionSequence := by
  unfold joinConfirmed
  rw [armReceiveTimer_sequence]
  simp

theorem sessionReplaced_sequence (l : Link) :
    (sessionReplaced l).wsConnectionSequence = l.wsConnectionSequence := by
  simp [sessionReplaced]

theorem unblock_sequence (l : Link) : (unblock l).wsConnectionSequence = l.wsConnectionSequence := by
  simp [unblock]

theorem detach_sequence (l : Link) : (detach l).wsConnectionSequence = l.wsConnectionSequence := by
  simp [detach]

theorem newSocket_sequence (l : Link) : (newSocket l).wsConnectionSequence = l.wsConnectionSequence := by
  simp [newSocket, armConnectTimer]

/-- A client in this state may connect: at most its reconnect timer or a fallback has fired. -/
structure Startable (p : Prop) (l : Link) : Prop where
  orderly : Orderly l
  watched : ∀ s, l.ws = some s → Watched p l s

theorem Attended.startable (h : Attended p l) : Startable p l := ⟨h.orderly, h.watched⟩

theorem Startable.congr (h : Startable p l) (e : core l' = core l) : Startable p l' := by
  have orderly := h.orderly.congr e
  simp only [core, Core.mk.injEq] at e
  obtain ⟨ws, joined, reconnect, connect, join, receive, sequence, blocked, sockets, timers⟩ := e
  have state : readyState l' = readyState l := by
    unfold readyState
    rw [sockets]
  refine ⟨orderly, ?_⟩
  intro s hs
  obtain ⟨closeDue, connecting, joining, receiving⟩ := h.watched s (ws ▸ hs)
  constructor
  · rw [sockets]
    exact closeDue
  · rw [state, timers, connect]
    exact connecting
  · rw [state, timers, join, joined, blocked]
    exact joining
  · rw [state, timers, receive, joined]
    exact receiving

theorem Attended.fallbackFired (h : Attended p l) (t : Timer) (kind : t.callback = .connect) :
    Startable p (clearTimeout (some t) l) := by
  refine ⟨h.orderly.clearTimeout _ ?_, ?_⟩
  · intro t' e
    cases e
    simp [kind]
  · intro s hs
    apply (h.watched s hs).clearTimeout
    intro t' e s'
    cases e
    simp [kind]

theorem Attended.reconnectFired (h : Attended p l) (t : Timer) (kind : t.callback = .reconnect) :
    Startable p (backOff (clearTimeout (some t) l)) := by
  have tidy := h.orderly.tidy
  refine ⟨⟨⟨(fun _ e => nomatch e), tidy.connectSet, tidy.joinSet, tidy.receiveSet, ?_⟩, h.orderly.retired,
    h.orderly.counted⟩, ?_⟩
  · intro t' ht'
    exact tidy.receiveOwned t' (mem_clearTimeout.mp ht').1
  · intro s hs
    have watched : Watched p (clearTimeout (some t) l) s := by
      apply (h.watched s hs).clearTimeout
      intro t' e s'
      cases e
      simp [kind]
    exact ⟨watched.closeDue, watched.connecting, watched.joining, watched.receiving⟩

theorem Attended.hurry (h : Attended p l) : Startable p (hurry l) := by
  have tidy := h.orderly.tidy
  refine ⟨⟨tidy.clearReconnectTimer.congr rfl rfl rfl rfl rfl, h.orderly.retired, h.orderly.counted⟩, ?_⟩
  intro s hs
  have watched : Watched p (clearTimeout l.reconnectTimer l) s := by
    apply (h.watched s hs).clearTimeout
    intro t ht s'
    rw [(tidy.reconnectSet t ht).2]
    simp
  exact ⟨watched.closeDue, watched.connecting, watched.joining, watched.receiving⟩

theorem live_isSome (live : liveSocket l = true) : l.ws ≠ none := by
  intro none
  unfold liveSocket at live
  rw [none] at live
  cases live

theorem Startable.skip (h : Startable p l) (skip : (l.reconnectBlocked || liveSocket l) = true) : Attended p l := by
  refine ⟨h.orderly, h.watched, ?_⟩
  intro none _ blocked _
  rw [blocked, Bool.false_or] at skip
  exact absurd none (live_isSome skip)

end EspWebChat.LinkStates
