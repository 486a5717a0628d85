import EspWebChat.ConnectionRuns

set_option autoImplicit false

/-!
# When the timers of a page fire

A pending timer has the delay of its kind, and no other timer is taken for it.
-/
namespace EspWebChat.ConnectionPacing
open JsonTree JsValues BrowserWorld ClientSocket LinkStates TabRuns LinkActs ConnectionRuns

/-- The delays the constants of the page, and the intervals a server may ask for, allow. -/
def due : Callback → ℕ → Prop
  | .enter, delayMs => delayMs = 250
  | .connect, delayMs => delayMs = wsFallbackDelayMs
  | .connectTimeout _, delayMs => delayMs = wsConnectTimeoutMs
  | .joinTimeout _, delayMs => delayMs = wsJoinTimeoutMs
  | .receiveTimeout _, delayMs => 2 * 5000 + wsReceiveGraceMs ≤ delayMs ∧
      delayMs ≤ 2 * wsHeartbeatMaxIntervalMs + wsReceiveGraceMs
  | .reconnect, delayMs => 1000 ≤ delayMs ∧ delayMs ≤ wsReconnectMaxDelayMs
  | .finishRecovery, delayMs => delayMs = historyRecoveryWindowMs

structure Paced (location : Location) (l : Link) : Prop where
  address : l.location = location ∧ l.wsUrlAttempt < (websocketUrls location).length
  backoff : 1000 ≤ l.reconnectDelayMs ∧ l.reconnectDelayMs ≤ wsReconnectMaxDelayMs
  heartbeat : 5000 ≤ l.heartbeatIntervalMs ∧ l.heartbeatIntervalMs ≤ wsHeartbeatMaxIntervalMs
  delays : ∀ t ∈ l.timers, due t.callback t.delayMs
  old : ∀ t ∈ l.timers, t.serial < l.nextTimer
  apart : (l.timers.map Timer.serial).Nodup

variable {location : Location} {may : Prop} {l l' : Link} {callback : Callback} {delayMs : ℕ}

theorem urls_some (location : Location) : 0 < (websocketUrls location).length := by simp [websocketUrls]

theorem firstDelay_max : 1000 ≤ wsReconnectMaxDelayMs := by decide

theorem interval_max : 5000 ≤ wsHeartbeatMaxIntervalMs := by decide

theorem fresh_paced (location : Location) : Paced location (freshLink location) :=
  ⟨⟨rfl, urls_some location⟩, ⟨Nat.le_refl _, firstDelay_max⟩, ⟨interval_max, Nat.le_refl _⟩, (fun _ h => nomatch h), (fun _ h => nomatch h),
    List.nodup_nil⟩

theorem Paced.congr (h : Paced location l) (address : l'.location = l.location ∧ l'.wsUrlAttempt = l.wsUrlAttempt)
    (delay : l'.reconnectDelayMs = l.reconnectDelayMs) (interval : l'.heartbeatIntervalMs = l.heartbeatIntervalMs)
    (timers : l'.timers = l.timers) (next : l'.nextTimer = l.nextTimer) : Paced location l' := by
  refine ⟨?_, ?_, ?_, ?_, ?_, ?_⟩
  · rw [address.1, address.2]
    exact h.address
  · rw [delay]
    exact h.backoff
  · rw [interval]
    exact h.heartbeat
  · rw [timers]
    exact h.delays
  · rw [timers, next]
    exact h.old
  · rw [timers]
    exact h.apart

theorem Paced.clearTimeout (h : Paced location l) (timer : Option Timer) : Paced location (clearTimeout timer l) := by
  refine ⟨h.address, h.backoff, h.heartbeat, ?_, ?_, ?_⟩
  · intro t pending
    exact h.delays t (mem_clearTimeout.mp pending).1
  · intro t pending
    exact h.old t (mem_clearTimeout.mp pending).1
  · exact h.apart.sublist (List.filter_sublist.map _)

theorem Paced.setTimeout (h : Paced location l) (timely : due callback delayMs) :
    Paced location (setTimeout callback delayMs l) := by
  refine ⟨h.address, h.backoff, h.heartbeat, ?_, ?_, ?_⟩
  · intro t pending
    rcases mem_setTimeout.mp pending with earlier | rfl
    · exact h.delays t earlier
    · exact timely
  · intro t pending
    rcases mem_setTimeout.mp pending with earlier | rfl
    · exact (h.old t earlier).trans (Nat.lt_succ_self _)
    · exact Nat.lt_succ_self _
  · rw [setTimeout_timers, List.map_append]
    apply List.Nodup.append h.apart (List.nodup_singleton _)
    intro serial earlier new
    obtain ⟨t, pending, rfl⟩ := List.mem_map.mp earlier
    have now : t.serial = l.nextTimer := by simpa [nextTimer] using new
    have before := h.old t pending
    omega

theorem Paced.clearJoinTimer (h : Paced location l) : Paced location (clearJoinTimer l) :=
  (h.clearTimeout l.joinTimer).congr ⟨rfl, rfl⟩ rfl rfl rfl rfl

theorem Paced.clearConnectTimer (h : Paced location l) : Paced location (clearConnectTimer l) :=
  (h.clearTimeout l.connectTimer).congr ⟨rfl, rfl⟩ rfl rfl rfl rfl

theorem Paced.clearReceiveTimer (h : Paced location l) : Paced location (clearReceiveTimer l) :=
  (h.clearTimeout l.receiveTimer).congr ⟨rfl, rfl⟩ rfl rfl rfl rfl

theorem Paced.clearReconnectTimer (h : Paced location l) : Paced location (clearReconnectTimer l) :=
  (h.clearTimeout l.reconnectTimer).congr ⟨rfl, rfl⟩ rfl rfl rfl rfl

theorem Paced.armReceiveTimer (h : Paced location l) (s : ℕ) : Paced location (armReceiveTimer s l) := by
  have timely : due (.receiveTimeout s) (l.heartbeatIntervalMs * 2 + wsReceiveGraceMs) := by
    obtain ⟨low, high⟩ := h.heartbeat
    constructor <;> omega
  exact (h.clearReceiveTimer.setTimeout timely).congr ⟨rfl, rfl⟩ rfl rfl rfl rfl

theorem Paced.armJoinTimer (h : Paced location l) (s : ℕ) : Paced location (armJoinTimer s l) :=
  (h.clearJoinTimer.setTimeout (show due (.joinTimeout s) wsJoinTimeoutMs from rfl)).congr ⟨rfl, rfl⟩ rfl rfl rfl rfl

theorem Paced.armConnectTimer (h : Paced location l) (s : ℕ) : Paced location (armConnectTimer s l) :=
  (h.clearConnectTimer.setTimeout (show due (.connectTimeout s) wsConnectTimeoutMs from rfl)).congr ⟨rfl, rfl⟩ rfl rfl rfl rfl

theorem Paced.setSocket (h : Paced location l) (f : Socket → Socket) (s : ℕ) : Paced location (setSocket s f l) :=
  h.congr ⟨rfl, rfl⟩ rfl rfl rfl rfl

theorem Paced.scheduleReconnect (h : Paced location l) : Paced location (scheduleReconnect l) := by
  unfold ClientSocket.scheduleReconnect
  split_ifs
  · exact h
  · exact (h.setTimeout (show due .reconnect l.reconnectDelayMs from h.backoff)).congr ⟨rfl, rfl⟩ rfl rfl rfl rfl

theorem Paced.firstUrl (h : Paced location l) : Paced location { l with wsUrlAttempt := 0 } :=
  ⟨⟨h.address.1, urls_some location⟩, h.backoff, h.heartbeat, h.delays, h.old, h.apart⟩

theorem Paced.tryNextUrl (h : Paced location l) : Paced location (tryNextUrl l) := by
  unfold ClientSocket.tryNextUrl
  split_ifs with more
  · have next : Paced location { l with wsUrlAttempt := l.wsUrlAttempt + 1 } := by
      refine ⟨⟨h.address.1, ?_⟩, h.backoff, h.heartbeat, h.delays, h.old, h.apart⟩
      rw [h.address.1] at more
      exact Nat.add_lt_of_lt_sub more
    exact next.setTimeout (show due .connect wsFallbackDelayMs from rfl)
  · exact h.firstUrl.scheduleReconnect

theorem Paced.detach (h : Paced location l) : Paced location (detach l) := by
  apply Paced.clearReceiveTimer
  apply Paced.clearJoinTimer
  apply Paced.clearConnectTimer
  exact h.congr ⟨rfl, rfl⟩ rfl rfl rfl rfl

theorem Paced.joinConfirmed (h : Paced location l) (s : ℕ) : Paced location (joinConfirmed s l) := by
  have joined : Paced location { l with wsJoined := true } := h.congr ⟨rfl, rfl⟩ rfl rfl rfl rfl
  have cleared := joined.clearJoinTimer.clearReconnectTimer
  apply Paced.armReceiveTimer
  exact ⟨cleared.address, ⟨Nat.le_refl _, firstDelay_max⟩, cleared.heartbeat, cleared.delays, cleared.old, cleared.apart⟩

theorem Paced.unblock (h : Paced location l) : Paced location (unblock l) := by
  apply Paced.clearJoinTimer
  exact h.congr ⟨rfl, rfl⟩ rfl rfl rfl rfl

theorem integerBetween_bounds {low high k : ℕ} {value : Option Json} (h : integerBetween low high value = some k) :
    low ≤ k ∧ k ≤ high := by
  unfold integerBetween at h
  split at h
  · have bound := (Option.filter_eq_some_iff.mp h).2
    simpa using bound
  · cases h

theorem Paced.adoptHeartbeat (h : Paced location l) (msg : Json) : Paced location (adoptHeartbeat msg l) := by
  unfold ClientSocket.adoptHeartbeat
  split
  · rename_i seconds asked
    obtain ⟨low, high⟩ := integerBetween_bounds asked
    have within : 5000 ≤ seconds * 1000 ∧ seconds * 1000 ≤ wsHeartbeatMaxIntervalMs := by
      unfold wsHeartbeatMaxIntervalMs
      omega
    have adopted : Paced location { l with heartbeatIntervalMs := seconds * 1000 } :=
      ⟨h.address, h.backoff, within, h.delays, h.old, h.apart⟩
    dsimp only
    split_ifs
    · unfold rearmReceiveTimer
      split
      · exact adopted.armReceiveTimer _
      · exact adopted
    · exact adopted
  · exact h

theorem Paced.noteProgress (h : Paced location l) (msg : Json) : Paced location (noteProgress msg l) := by
  unfold ClientSocket.noteProgress
  split
  · split_ifs
    · exact h.armJoinTimer _
    · exact h
  · exact h

theorem Paced.noteTraffic (h : Paced location l) (s : ℕ) : Paced location (noteTraffic s l) := by
  unfold ClientSocket.noteTraffic
  split_ifs
  · exact h.armReceiveTimer s
  · exact h

theorem Paced.sessionReplaced (h : Paced location l) : Paced location (sessionReplaced l) := by
  apply Paced.clearReconnectTimer
  apply Paced.clearReceiveTimer
  apply Paced.clearJoinTimer
  exact h.congr ⟨rfl, rfl⟩ rfl rfl rfl rfl

theorem Paced.newSocket (h : Paced location l) : Paced location (newSocket l) := by
  apply Paced.armConnectTimer
  exact h.congr ⟨rfl, rfl⟩ rfl rfl rfl rfl

theorem Paced.constructorFailed (h : Paced location l) : Paced location (constructorFailed l) := by
  apply Paced.tryNextUrl
  exact h.congr ⟨rfl, rfl⟩ rfl rfl rfl rfl

theorem Paced.backOff (h : Paced location l) : Paced location (backOff l) := by
  have limit : 1000 ≤ min (l.reconnectDelayMs * 2) wsReconnectMaxDelayMs ∧
      min (l.reconnectDelayMs * 2) wsReconnectMaxDelayMs ≤ wsReconnectMaxDelayMs := by
    obtain ⟨low, -⟩ := h.backoff
    unfold wsReconnectMaxDelayMs
    omega
  exact ⟨h.address, limit, h.heartbeat, h.delays, h.old, h.apart⟩

theorem Paced.afterClose (h : Paced location l) (s : ℕ) : Paced location (afterClose s l) := by
  unfold ClientSocket.afterClose
  split_ifs
  · exact h
  · exact h.firstUrl.scheduleReconnect
  · exact h.tryNextUrl

theorem Paced.hurry (h : Paced location l) : Paced location (hurry l) := by
  have cleared := h.clearReconnectTimer
  exact ⟨cleared.address, ⟨Nat.le_refl _, firstDelay_max⟩, cleared.heartbeat, cleared.delays, cleared.old, cleared.apart⟩

theorem Paced.restarting (h : Paced location l) : Paced location (restarting l) := by
  unfold ClientSocket.restarting
  split
  · apply Paced.setSocket
    exact h.congr ⟨rfl, rfl⟩ rfl rfl rfl rfl
  · exact h.congr ⟨rfl, rfl⟩ rfl rfl rfl rfl

theorem Paced.opening (h : Paced location l) (s : ℕ) : Paced location (opening s l) := by
  have cleared := ((h.setSocket (fun x => { x with readyState := .opened }) s).clearConnectTimer.clearReceiveTimer).setSocket
    (fun x => { x with opened := true }) s
  exact ⟨⟨cleared.address.1, urls_some location⟩, cleared.backoff, ⟨interval_max, Nat.le_refl _⟩, cleared.delays, cleared.old,
    cleared.apart⟩

theorem paced_act (act : LinkAct may l l') (h : Paced location l) : Paced location l' := by
  cases act with
  | detach => exact h.detach
  | closeSocket s => exact h.setSocket _ s
  | scheduleReconnect => exact h.scheduleReconnect
  | tryNextUrl => exact h.tryNextUrl
  | clearTimeout timer => exact h.clearTimeout (some timer)
  | window => exact h.setTimeout (show due .finishRecovery historyRecoveryWindowMs from rfl)
  | entering => exact h.setTimeout (show due .enter 250 from rfl)
  | send s payload => exact h.congr ⟨rfl, rfl⟩ rfl rfl rfl rfl
  | joinConfirmed s => exact h.joinConfirmed s
  | unblock => exact h.unblock
  | adoptHeartbeat msg => exact h.adoptHeartbeat msg
  | noteProgress msg => exact h.noteProgress msg
  | noteTraffic s => exact h.noteTraffic s
  | sessionReplaced => exact h.sessionReplaced
  | countConnection => exact h.congr ⟨rfl, rfl⟩ rfl rfl rfl rfl
  | newSocket => exact h.newSocket
  | constructorFailed => exact h.constructorFailed
  | forgetReceiveTimer => exact h.congr ⟨rfl, rfl⟩ rfl rfl rfl rfl
  | backOff => exact h.backOff
  | afterClose s => exact h.afterClose s
  | hurry => exact h.hurry
  | hideLogin => exact h.congr ⟨rfl, rfl⟩ rfl rfl rfl rfl
  | allowConnecting => exact h.congr ⟨rfl, rfl⟩ rfl rfl rfl rfl
  | restarting => exact h.restarting
  | setClosed s => exact h.setSocket _ s
  | closeFires s => exact h.setSocket _ s
  | staleOpened s => exact h.setSocket _ s
  | greets s payload =>
    apply Paced.armJoinTimer
    exact (h.opening s).congr ⟨rfl, rfl⟩ rfl rfl rfl rfl
  | spurned s => exact (h.opening s).detach

/-- In every run of a tab: the address tried next is one of the page's addresses, the next delay before
    a connection lies between one and fifteen seconds, every pending timer has a delay of its kind,
    and no two pending timers are the same to `clearTimeout`. -/
theorem timers_paced (location : Location) (t : Tab) (h : Reached location anyEvent t) (running : t.running = true) :
    Paced location t.page.link :=
  (reached_held (fresh_paced location) (fun _ _ _ => paced_act) h).link running

theorem timers_paced_opened : Paced ⟨false, "esp"⟩ openedTab.page.link :=
  timers_paced ⟨false, "esp"⟩ openedTab openedTab_reached (by decide +kernel)

end EspWebChat.ConnectionPacing
