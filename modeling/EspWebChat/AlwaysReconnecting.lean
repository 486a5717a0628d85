import EspWebChat.TabRuns

set_option autoImplicit false

/-! # A client that has connected once is never stuck offline -/
namespace EspWebChat.AlwaysReconnecting
open Relation JsonTree Interruptible BrowserWorld ClientStore ClientSocket
open StoreSteps LinkStates PageSteps StartSteps TabRuns

def Ending (l : Link) (s : ℕ) : Prop :=
  match readyState l s with
  | .connecting => ∃ t ∈ l.timers, l.connectTimer = some t ∧ t.callback = .connectTimeout s
  | .opened =>
    if l.wsJoined then ∃ t ∈ l.timers, l.receiveTimer = some t ∧ t.callback = .receiveTimeout s
    else ∃ t ∈ l.timers, l.joinTimer = some t ∧ t.callback = .joinTimeout s
  | .closing | .closed => ∃ x, l.sockets[s]? = some x ∧ x.closeFired = false

/-- A reconnect timer is pending, or a fallback to another address, or the current socket will
    not stay as it is. -/
def Revived (l : Link) : Prop :=
  (∃ t ∈ l.timers, l.reconnectTimer = some t ∧ t.callback = .reconnect) ∨
    (∃ t ∈ l.timers, t.callback = .connect) ∨ ∃ s, l.ws = some s ∧ Ending l s

/-- The timer calls `connect`. At the entry that follows `renderMessages`, which may throw. -/
def connects (callback : Callback) (s : Store) : Prop :=
  (callback = .enter ∧ canRender s = true) ∨ callback = .connect ∨ callback = .reconnect

def callsConnect (e : Event) (w : Page) : Prop :=
  match e with
  | .callConnect => True
  | .timer t => t ∈ w.link.timers ∧ connects t.callback w.store
  | .online => (w.link.hasJoined && !w.link.reconnectBlocked &&
      w.link.ws.all (fun s => readyState w.link s == .closed)) = true
  | _ => False

variable {l : Link} {w : Page} {T : Traffic}

theorem Watched.ending {s : ℕ} (h : Watched True l s) (unblocked : l.reconnectBlocked = false) : Ending l s := by
  unfold Ending
  cases hs : readyState l s with
  | connecting => exact h.connecting hs
  | opened =>
    cases hj : l.wsJoined with
    | true => exact h.receiving hs hj
    | false => exact h.joining hs hj unblocked trivial
  | closing => exact h.closeDue
  | closed => exact h.closeDue

theorem Attended.revived (h : Attended True l) (counted : 0 < l.wsConnectionSequence)
    (unblocked : l.reconnectBlocked = false) : Revived l := by
  cases hw : l.ws with
  | some s => exact .inr (.inr ⟨s, hw, Watched.ending (h.watched s hw) unblocked⟩)
  | none =>
    cases h.waiting hw counted unblocked trivial with
    | inl set =>
      obtain ⟨t, ht⟩ := Option.isSome_iff_exists.mp set
      obtain ⟨pending, kind⟩ := h.orderly.tidy.reconnectSet t ht
      exact .inl ⟨t, pending, ht, kind⟩
    | inr fallback => exact .inr (.inl fallback)

/-- A call of `connect` counts, unless a session was replaced or a socket is alive, which takes
    an earlier connection. -/
theorem connect_counted : Traces (PageStep T) connect w
    (fun _ w' => Orderly w.link → 0 < w'.link.wsConnectionSequence) := by
  apply link_spec.bind
  intro l u _ h
  obtain ⟨rfl, rfl⟩ := h
  apply Traces.ite
  · intro skip
    refine .pure ?_
    intro orderly
    apply orderly.counted
    simp only [Bool.or_eq_true] at skip
    cases skip with
    | inl blocked => exact .inr blocked
    | inr live => exact .inl (Option.isSome_iff_ne_none.mpr (live_isSome live))
  · intro _
    apply (setLink_spec countConnection (fun l => Nat.le_succ _)).bind
    intro _ v _ hv
    have counted : 0 < v.link.wsConnectionSequence := by
      rw [hv.2]
      exact Nat.succ_pos _
    apply reply_spec.bind
    intro r x _ hx
    subst hx
    apply Traces.ite
    · intro _
      apply (setLink_spec newSocket (fun l => (newSocket_sequence l).ge)).post
      intro _ y _ hy _
      rw [hy.2]
      exact counted
    · intro _
      apply (setLink_spec constructorFailed (fun l => (constructorFailed_sequence l).ge)).post
      intro _ y _ hy _
      rw [hy.2, constructorFailed_sequence]
      exact counted

theorem render_drawn {s : Store} (can : canRender s = true) :
    Traces (StoreStep T) render s (fun drawn _ => drawn = true) :=
  render_result (fun drawn _ => drawn = true) (fun undrawn => absurd can (Bool.eq_false_iff.mp undrawn))
    (fun _ => renderConversationList_spec.post (fun _ _ _ _ => rfl))

theorem enter_counted (can : canRender w.store = true) : Traces (PageStep T) enter w
    (fun _ w' => Orderly w.link → 0 < w'.link.wsConnectionSequence) := by
  apply (setLink_spec hideLogin).bind
  intro _ u _ hu
  have still : canRender u.store = true := by
    rw [hu.1]
    exact can
  apply (onStore_spec (render_drawn still)).bind
  intro drawn v _ hv
  rw [if_pos hv.1]
  apply connect_counted.post
  intro _ x _ hx orderly
  apply hx
  rw [hv.2, hu.2]
  exact orderly.congr rfl

theorem timer_counted (t : Timer) (kind : connects t.callback w.store)
    (pending : t ∈ w.link.timers) : Traces (PageStep T) (timerFired t) w
      (fun _ w' => Attended True w.link → 0 < w'.link.wsConnectionSequence) := by
  apply link_spec.bind
  intro l u _ h
  obtain ⟨rfl, rfl⟩ := h
  apply Traces.ite
  · intro _
    apply (setLink_spec (clearTimeout (some t))).bind
    intro _ v _ hv
    cases kind with
    | inl entry =>
      obtain ⟨enters, can⟩ := entry
      rw [enters]
      apply (enter_counted (by rw [hv.1]; exact can)).post
      intro _ x _ hx attended
      apply hx
      rw [hv.2]
      apply attended.orderly.clearTimeout
      intro t' e
      cases e
      simp [enters]
    | inr connects =>
      cases connects with
      | inl fallback =>
        rw [fallback]
        apply connect_counted.post
        intro _ x _ hx attended
        apply hx
        rw [hv.2]
        exact (attended.fallbackFired t fallback).orderly
      | inr reconnects =>
        rw [reconnects]
        apply (setLink_spec backOff).bind
        intro _ x _ hx
        apply connect_counted.post
        intro _ y _ hy attended
        apply hy
        rw [hx.2, hv.2]
        exact (attended.reconnectFired t reconnects).orderly
  · intro gone
    exact absurd pending gone

theorem connects_counted (e : Event) (connects : callsConnect e w) :
    Traces (PageStep .none) (handle e) w (fun _ w' => Attended True w.link → 0 < w'.link.wsConnectionSequence) := by
  cases e with
  | callConnect =>
    apply connect_counted.post
    intro _ x _ hx attended
    exact hx attended.orderly
  | timer t => exact timer_counted t connects.2 connects.1
  | online =>
    apply link_spec.bind
    intro l u _ h
    obtain ⟨rfl, rfl⟩ := h
    apply Traces.ite
    · intro _
      apply (setLink_spec hurry).bind
      intro _ v _ hv
      apply connect_counted.post
      intro _ x _ hx attended
      apply hx
      rw [hv.2]
      exact attended.hurry.orderly
    · intro refused
      exact absurd connects refused
  | _ => exact absurd connects id

/-- After the first call of `connect`, which the count of connections tells, a client that is
    not blocked has something pending that will connect it again. The user enters the chat
    before the first connection only: the login is hidden from then on. -/
theorem never_stuck_offline (location : Location) :
    (∀ t, Reached location Timely t → t.running = true → 0 < t.page.link.wsConnectionSequence →
      t.page.link.reconnectBlocked = false → Revived t.page.link) ∧
    (∀ t e env, Reached location Timely t → t.running = true → callsConnect e t.page →
      (step e env t).running = true → 0 < (step e env t).page.link.wsConnectionSequence) ∧
    (∀ t e env, t.page.link.wsConnectionSequence ≤ (step e env t).page.link.wsConnectionSequence) := by
  have attended : ∀ t, Reached location Timely t → t.running = true → Attended True t.page.link :=
    fun t reached running => (reached_good (p := True) (fun _ _ timely _ => timely) reached running).attended
  refine ⟨?_, ?_, ?_⟩
  · intro t reached running counted unblocked
    exact Attended.revived (attended t reached running) counted unblocked
  · intro t e env reached running connects still
    have h : step e env t = Tab.exec (handle e) env t.page := if_pos running
    rw [h] at still ⊢
    obtain ⟨a, ha⟩ := Option.isSome_iff_exists.mp still
    exact (connects_counted e connects env).2 a ha (attended t reached running)
  · intro t e env
    exact step_sequence e env t

end EspWebChat.AlwaysReconnecting
