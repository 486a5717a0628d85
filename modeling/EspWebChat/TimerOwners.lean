import EspWebChat.LinkStates

set_option autoImplicit false

/-!
# The timers of a socket and their variables

A pending connect, join or receive timer is the one its variable holds. Clearing the variables
therefore clears the timers.
-/
namespace EspWebChat.TimerOwners
open JsonTree Interruptible BrowserWorld ClientStore ClientSocket LinkStates

variable {l l' : Link} {t : Timer} {s : ℕ} {timer : Option Timer} {callback : Callback} {delayMs : ℕ}

def aboutSocket : Callback → Bool
  | .connectTimeout _ | .joinTimeout _ | .receiveTimeout _ => true
  | _ => false

def variableOf (l : Link) : Callback → Option Timer
  | .connectTimeout _ => l.connectTimer
  | .joinTimeout _ => l.joinTimer
  | .receiveTimeout _ => l.receiveTimer
  | _ => none

def Owned (l : Link) : Prop := ∀ t ∈ l.timers, aboutSocket t.callback = true → variableOf l t.callback = some t

/-- Nothing of a socket is left. -/
structure Cleared (l : Link) : Prop where
  left : l.wsJoined = false
  quiet : ∀ t ∈ l.timers, aboutSocket t.callback = false

/-- A change that gives up no socket, and leaves nothing behind where there is none. -/
structure Steady (l l' : Link) : Prop where
  owned : Owned l → Owned l'
  ws : l'.ws = none → l.ws = none
  cleared : l'.ws = none → Cleared l → Cleared l'

theorem Steady.refl (l : Link) : Steady l l := ⟨id, id, fun _ h => h⟩

theorem Steady.trans {l'' : Link} (h : Steady l l') (k : Steady l' l'') : Steady l l'' :=
  ⟨k.owned ∘ h.owned, h.ws ∘ k.ws, fun none c => k.cleared none (h.cleared (k.ws none) c)⟩

theorem owned_clear (timers : l'.timers = (clearTimeout timer l).timers)
    (same : ∀ c, variableOf l' c = variableOf l c ∨ variableOf l c = timer) (h : Owned l) : Owned l' := by
  intro t ht about
  rw [timers] at ht
  obtain ⟨old, other⟩ := mem_clearTimeout.mp ht
  have owned := h t old about
  cases same t.callback with
  | inl kept => rw [kept, owned]
  | inr cleared => exact absurd (owned.symm.trans cleared) other

theorem steady_clear (timer : Option Timer) (timers : l'.timers = (clearTimeout timer l).timers)
    (same : ∀ c, variableOf l' c = variableOf l c ∨ variableOf l c = timer)
    (joined : l'.wsJoined = true → l.wsJoined = true) (ws : l'.ws = none → l.ws = none) : Steady l l' := by
  refine ⟨owned_clear timers same, ws, ?_⟩
  intro _ h
  refine ⟨?_, ?_⟩
  · by_contra on
    have was := joined (by simpa using on)
    rw [h.left] at was
    cases was
  · intro t ht
    rw [timers] at ht
    exact h.quiet t (mem_clearTimeout.mp ht).1

theorem clearTimeout_steady (timer : Option Timer) (l : Link) : Steady l (clearTimeout timer l) :=
  steady_clear timer rfl (fun _ => .inl rfl) id id

theorem clearJoinTimer_variable (l : Link) (c : Callback) :
    variableOf (clearJoinTimer l) c = variableOf l c ∨ variableOf l c = l.joinTimer := by
  cases c with
  | joinTimeout s => exact .inr rfl
  | _ => exact .inl rfl

theorem clearConnectTimer_variable (l : Link) (c : Callback) :
    variableOf (clearConnectTimer l) c = variableOf l c ∨ variableOf l c = l.connectTimer := by
  cases c with
  | connectTimeout s => exact .inr rfl
  | _ => exact .inl rfl

theorem clearReceiveTimer_variable (l : Link) (c : Callback) :
    variableOf (clearReceiveTimer l) c = variableOf l c ∨ variableOf l c = l.receiveTimer := by
  cases c with
  | receiveTimeout s => exact .inr rfl
  | _ => exact .inl rfl

theorem clearJoinTimer_steady (l : Link) : Steady l (clearJoinTimer l) :=
  steady_clear l.joinTimer rfl (clearJoinTimer_variable l) id id

theorem clearConnectTimer_steady (l : Link) : Steady l (clearConnectTimer l) :=
  steady_clear l.connectTimer rfl (clearConnectTimer_variable l) id id

theorem clearReceiveTimer_steady (l : Link) : Steady l (clearReceiveTimer l) :=
  steady_clear l.receiveTimer rfl (clearReceiveTimer_variable l) id id

theorem clearReconnectTimer_steady (l : Link) : Steady l (clearReconnectTimer l) :=
  steady_clear l.reconnectTimer rfl (fun _ => .inl rfl) id id

theorem steady_same (timers : l'.timers = l.timers) (same : variableOf l' = variableOf l)
    (joined : l'.wsJoined = true → l.wsJoined = true) (ws : l'.ws = none → l.ws = none) : Steady l l' := by
  refine ⟨?_, ws, ?_⟩
  · intro h
    unfold Owned
    rw [timers, same]
    exact h
  · intro _ h
    refine ⟨?_, timers ▸ h.quiet⟩
    by_contra on
    have was := joined (by simpa using on)
    rw [h.left] at was
    cases was

theorem setSocket_steady (s : ℕ) (f : Socket → Socket) (l : Link) : Steady l (setSocket s f l) :=
  steady_same rfl rfl id id

theorem closeSocket_steady (s : ℕ) (l : Link) : Steady l (closeSocket s l) := setSocket_steady s _ l

theorem setTimeout_steady (callback : Callback) (other : aboutSocket callback = false) (delayMs : ℕ) (l : Link) :
    Steady l (setTimeout callback delayMs l) := by
  have new : ∀ t ∈ (setTimeout callback delayMs l).timers, aboutSocket t.callback = true → t ∈ l.timers := by
    intro t ht about
    cases mem_setTimeout.mp ht with
    | inl old => exact old
    | inr fresh =>
      subst fresh
      exact absurd (other.symm.trans about) (by decide)
  refine ⟨fun h t ht about => h t (new t ht about) about, id, ?_⟩
  intro _ h
  refine ⟨h.left, ?_⟩
  intro t ht
  by_contra about
  exact about (h.quiet t (new t ht (by simpa using about)))

theorem scheduleReconnect_steady (l : Link) : Steady l (scheduleReconnect l) := by
  unfold scheduleReconnect
  split_ifs
  · exact .refl l
  · exact (setTimeout_steady .reconnect rfl l.reconnectDelayMs l).trans (steady_same rfl rfl id id)

theorem tryNextUrl_steady (l : Link) : Steady l (tryNextUrl l) := by
  unfold tryNextUrl
  split_ifs
  · have next : Steady l { l with wsUrlAttempt := l.wsUrlAttempt + 1 } := steady_same rfl rfl id id
    exact next.trans (setTimeout_steady .connect rfl wsFallbackDelayMs _)
  · have first : Steady l { l with wsUrlAttempt := 0 } := steady_same rfl rfl id id
    exact first.trans (scheduleReconnect_steady _)

theorem afterClose_steady (s : ℕ) (l : Link) : Steady l (afterClose s l) := by
  unfold afterClose
  split_ifs
  · exact .refl l
  · have first : Steady l { l with wsUrlAttempt := 0 } := steady_same rfl rfl id id
    exact first.trans (scheduleReconnect_steady _)
  · exact tryNextUrl_steady l

theorem unblock_steady (l : Link) : Steady l (unblock l) := by
  have first : Steady l { l with reconnectBlocked := false, wsJoined := false } :=
    steady_same rfl rfl (fun h => nomatch h) id
  exact first.trans (clearJoinTimer_steady _)

theorem sessionReplaced_steady (l : Link) : Steady l (sessionReplaced l) := by
  have first : Steady l { l with reconnectBlocked := true, wsJoined := false } :=
    steady_same rfl rfl (fun h => nomatch h) id
  exact ((first.trans (clearJoinTimer_steady _)).trans (clearReceiveTimer_steady _)).trans (clearReconnectTimer_steady _)

theorem openedNow_steady (s : ℕ) (l : Link) : Steady l (openedNow s l) :=
  ((clearConnectTimer_steady l).trans (clearReceiveTimer_steady _)).trans
    (steady_same rfl rfl (fun h => nomatch h) id)

theorem hurry_steady (l : Link) : Steady l (hurry l) :=
  (clearReconnectTimer_steady l).trans (steady_same rfl rfl id id)

theorem restarting_steady (l : Link) : Steady l (restarting l) := by
  unfold restarting
  split
  · have first : Steady l { l with hasJoined := false } := steady_same rfl rfl id id
    exact first.trans (closeSocket_steady _ _)
  · exact steady_same rfl rfl id id

theorem owned_arm (callback : Callback) (timers : l'.timers = (setTimeout callback delayMs l).timers)
    (set : variableOf l' callback = some (nextTimer callback delayMs l))
    (same : ∀ c, variableOf l' c = variableOf l c ∨ variableOf l c = none) (h : Owned l) : Owned l' := by
  intro t ht about
  rw [timers] at ht
  cases mem_setTimeout.mp ht with
  | inr new =>
    subst new
    exact set
  | inl old =>
    have owned := h t old about
    cases same t.callback with
    | inl kept => rw [kept, owned]
    | inr free =>
      rw [free] at owned
      cases owned

theorem Owned.armJoinTimer (h : Owned l) (s : ℕ) : Owned (armJoinTimer s l) := by
  refine owned_arm (.joinTimeout s) rfl rfl ?_ ((clearJoinTimer_steady l).owned h)
  intro c
  cases c with
  | joinTimeout s => exact .inr rfl
  | _ => exact .inl rfl

theorem Owned.armConnectTimer (h : Owned l) (s : ℕ) : Owned (armConnectTimer s l) := by
  refine owned_arm (.connectTimeout s) rfl rfl ?_ ((clearConnectTimer_steady l).owned h)
  intro c
  cases c with
  | connectTimeout s => exact .inr rfl
  | _ => exact .inl rfl

theorem Owned.armReceiveTimer (h : Owned l) (s : ℕ) : Owned (armReceiveTimer s l) := by
  refine owned_arm (.receiveTimeout s) rfl rfl ?_ ((clearReceiveTimer_steady l).owned h)
  intro c
  cases c with
  | receiveTimeout s => exact .inr rfl
  | _ => exact .inl rfl

theorem Owned.joinConfirmed (h : Owned l) (s : ℕ) : Owned (joinConfirmed s l) := by
  have joined : Owned { l with wsJoined := true } := h
  have cleared := (clearReconnectTimer_steady _).owned ((clearJoinTimer_steady _).owned joined)
  have ready : Owned { clearReconnectTimer (clearJoinTimer { l with wsJoined := true }) with reconnectDelayMs := 1000 } :=
    cleared
  exact ready.armReceiveTimer s

theorem armJoinTimer_steady (current : l.ws = some s) (s' : ℕ) : Steady l (armJoinTimer s' l) := by
  refine ⟨fun h => h.armJoinTimer s', id, ?_⟩
  intro none
  exact absurd (current.symm.trans none) (by simp)

theorem armReceiveTimer_steady (current : l.ws = some s) (s' : ℕ) : Steady l (armReceiveTimer s' l) := by
  refine ⟨fun h => h.armReceiveTimer s', id, ?_⟩
  intro none
  exact absurd (current.symm.trans none) (by simp)

theorem rearmReceiveTimer_steady (l : Link) : Steady l (rearmReceiveTimer l) := by
  unfold rearmReceiveTimer
  cases hws : l.ws with
  | none => exact .refl l
  | some s => exact armReceiveTimer_steady hws s

theorem adoptHeartbeat_steady (msg : Json) (l : Link) : Steady l (adoptHeartbeat msg l) := by
  unfold adoptHeartbeat
  cases integerBetween 5 300 (msg.lastMember "heartbeat_interval_s") with
  | none => exact .refl l
  | some seconds =>
    have adopted : Steady l { l with heartbeatIntervalMs := seconds * 1000 } := steady_same rfl rfl id id
    dsimp only
    split_ifs
    · exact adopted.trans (rearmReceiveTimer_steady _)
    · exact adopted

theorem noteProgress_steady (msg : Json) (l : Link) : Steady l (noteProgress msg l) := by
  unfold noteProgress
  cases hws : l.ws with
  | none => exact .refl l
  | some s =>
    dsimp only
    split_ifs
    · exact armJoinTimer_steady hws s
    · exact .refl l

theorem noteTraffic_steady (current : l.ws = some s) : Steady l (noteTraffic s l) := by
  unfold noteTraffic
  split_ifs
  · exact armReceiveTimer_steady current s
  · exact .refl l

theorem newSocket_steady (l : Link) : Steady l (newSocket l) := by
  refine ⟨?_, (fun none => nomatch none), (fun none => nomatch none)⟩
  intro h
  have appended : Owned { l with sockets := l.sockets ++ [⟨.connecting, false, false⟩], ws := some l.sockets.length } := h
  exact appended.armConnectTimer l.sockets.length

theorem detach_owned (h : Owned l) : Owned (detach l) := by
  have dropped : Owned { l with ws := none, wsJoined := false } := h
  exact (clearReceiveTimer_steady _).owned ((clearJoinTimer_steady _).owned ((clearConnectTimer_steady _).owned dropped))

theorem detach_cleared (h : Owned l) : Cleared (detach l) := by
  refine ⟨rfl, ?_⟩
  intro t ht
  by_contra about
  have held := detach_owned h t ht (by simpa using about)
  have empty : ∀ c, variableOf (detach l) c = none := by
    intro c
    cases c <;> rfl
  rw [empty] at held
  cases held

theorem constructorFailed_owned (h : Owned l) : Owned (constructorFailed l) := by
  have dropped : Owned { l with ws := none } := h
  exact (tryNextUrl_steady _).owned dropped

theorem constructorFailed_ws (l : Link) : (constructorFailed l).ws = none := by
  unfold constructorFailed tryNextUrl scheduleReconnect
  split_ifs <;> rfl

theorem constructorFailed_cleared (h : Cleared l) : Cleared (constructorFailed l) := by
  have dropped : Cleared { l with ws := none } := ⟨h.left, h.quiet⟩
  exact (tryNextUrl_steady _).cleared (constructorFailed_ws l) dropped

theorem receiveFired_steady (h : Owned l) (ht : t ∈ l.timers) (kind : t.callback = .receiveTimeout s) :
    Steady l (forgetReceiveTimer (clearTimeout (some t) l)) := by
  have held := h t ht (by rw [kind]; rfl)
  rw [kind] at held
  have same : ∀ c, variableOf (forgetReceiveTimer (clearTimeout (some t) l)) c = variableOf l c ∨
      variableOf l c = some t := by
    intro c
    cases c with
    | receiveTimeout s => exact .inr held
    | _ => exact .inl rfl
  exact steady_clear (some t) rfl same id id

end EspWebChat.TimerOwners
