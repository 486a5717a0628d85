import EspWebChat.TabRuns

set_option autoImplicit false

/-! # One live socket, and nothing comes of the others -/
namespace EspWebChat.StaleSockets
open JsonTree Interruptible BrowserWorld ClientStore ClientSocket
open StoreSteps LinkStates PageSteps TabRuns

variable {w : Page} {s : ℕ} {env : ℕ → Reply}

theorem link_read : link env w = ⟨some w.link, w, env⟩ := rfl

theorem onopen_stale (stale : w.link.ws ≠ some s) : onopen s env w = ⟨some (), w, env⟩ := by
  have read : reads (fun w => w) env w = ⟨some w, w, env⟩ := rfl
  unfold onopen
  rw [bind_run read, if_pos stale]
  rfl

theorem onmessage_stale (stale : w.link.ws ≠ some s) (frame : Option Json) :
    onmessage s frame env w = ⟨some (), w, env⟩ := by
  unfold onmessage
  rw [bind_run link_read, if_pos stale]
  rfl

theorem onclose_stale (stale : w.link.ws ≠ some s) : onclose s env w = ⟨some (), w, env⟩ := by
  unfold onclose
  rw [bind_run link_read, if_pos stale]
  rfl

theorem connectTimedOut_stale (stale : w.link.ws ≠ some s) : connectTimedOut s env w = ⟨some (), w, env⟩ := by
  unfold connectTimedOut
  rw [bind_run link_read, if_neg (fun current => stale current.1)]
  rfl

theorem joinTimedOut_stale (stale : w.link.ws ≠ some s) : joinTimedOut s env w = ⟨some (), w, env⟩ := by
  unfold joinTimedOut
  rw [bind_run link_read, if_neg (fun current => stale current.1)]
  rfl

theorem socketOpened_stale (stale : w.link.ws ≠ some s) (retired : Retired w.link) :
    socketOpened s env w = ⟨some (), w, env⟩ := by
  have gone : readyState w.link s ≠ .connecting := by
    intro connecting
    have dead := retired s stale
    rw [connecting] at dead
    cases dead
  unfold socketOpened
  rw [bind_run link_read, if_neg gone, if_pos stale]
  exact onopen_stale stale

theorem socketClosed_stale (stale : w.link.ws ≠ some s) :
    socketClosed s env w = ⟨some (), { w with link := closeFires s w.link }, env⟩ :=
  onclose_stale (w := { w with link := closeFires s w.link }) stale

theorem clearTimeout_absent {l : Link} {timer : Timer} (absent : timer ∉ l.timers) :
    clearTimeout (some timer) l = l := by
  have same : l.timers.filter (fun t => some t != some timer) = l.timers := by
    apply List.filter_eq_self.mpr
    intro t ht
    simp only [bne_iff_ne, ne_eq, Option.some.injEq]
    intro e
    exact absent (e ▸ ht)
  unfold clearTimeout
  rw [same]

theorem timerFired_stale (stale : w.link.ws ≠ some s) (timer : Timer)
    (kind : timer.callback = .connectTimeout s ∨ timer.callback = .joinTimeout s) :
    timerFired timer env w = ⟨some (), { w with link := clearTimeout (some timer) w.link }, env⟩ := by
  unfold timerFired
  rw [bind_run link_read]
  split_ifs with pending
  · have after : (setLink (clearTimeout (some timer)) >>= fun _ => runCallback timer.callback) env w =
        runCallback timer.callback env { w with link := clearTimeout (some timer) w.link } := rfl
    rw [after]
    cases kind with
    | inl connect =>
      rw [connect]
      exact connectTimedOut_stale stale
    | inr join =>
      rw [join]
      exact joinTimedOut_stale stale
  · rw [clearTimeout_absent pending]
    rfl

theorem step_eq {e : Event} {t : Tab} {v : Page} (running : t.running = true)
    (h : handle e env t.page = ⟨some (), v, env⟩) : step e env t = ⟨v, true⟩ := by
  unfold step Tab.exec
  rw [if_pos running, h]
  rfl

theorem message_stale {t : Tab} (stale : t.page.link.ws ≠ some s) (frame : Option Json) :
    step (.socketMessage s frame) env t = t := by
  cases running : t.running with
  | true =>
    have shown : (⟨t.page, true⟩ : Tab) = t := by
      rw [← running]
    exact (step_eq (e := .socketMessage s frame) running (onmessage_stale stale frame)).trans shown
  | false =>
    unfold step
    rw [running]
    rfl

/-- Events of the socket leave the page as it is, but for the record the browser keeps of that
    socket; so do the timeouts set for it, but for being over. -/
structure Inert (t : Tab) (s : ℕ) (env : ℕ → Reply) : Prop where
  opens : step (.socketOpen s) env t = t
  message : ∀ frame, step (.socketMessage s frame) env t = t
  error : step (.socketError s) env t = t
  close : step (.socketClose s) env t = { t with page := { t.page with link := closeFires s t.page.link } }
  timeout : ∀ timer, timer.callback = .connectTimeout s ∨ timer.callback = .joinTimeout s →
    step (.timer timer) env t =
      { t with page := { t.page with link := clearTimeout (some timer) t.page.link } }

theorem stale_inert {t : Tab} (running : t.running = true) (stale : t.page.link.ws ≠ some s)
    (retired : Retired t.page.link) : Inert t s env := by
  have shown : (⟨t.page, true⟩ : Tab) = t := by
    rw [← running]
  constructor
  · exact (step_eq (e := .socketOpen s) running (socketOpened_stale stale retired)).trans shown
  · exact message_stale stale
  · exact (step_eq (e := .socketError s) running rfl).trans shown
  · rw [running]
    exact step_eq (e := .socketClose s) running (socketClosed_stale stale)
  · intro timer kind
    rw [running]
    exact step_eq (e := .timer timer) running (timerFired_stale stale timer kind)

/-- Whatever the user and the browser have done, in a page that runs all sockets but the
    current one are closing or closed, and nothing comes of their events and timeouts. -/
theorem stale_sockets_inert (location : Location) :
    (∀ t, Reached location (fun _ _ => True) t → t.running = true → ∀ s, t.page.link.ws ≠ some s →
      readyState t.page.link s = .closing ∨ readyState t.page.link s = .closed) ∧
    (∀ t, Reached location (fun _ _ => True) t → t.running = true → ∀ s, t.page.link.ws ≠ some s →
      ∀ env, Inert t s env) := by
  have retired : ∀ t, Reached location (fun _ _ => True) t → t.running = true → Retired t.page.link := by
    intro t reached running
    have good : Good False t.page := reached_good (fun _ _ _ never => absurd never id) reached running
    exact good.attended.orderly.retired
  refine ⟨?_, ?_⟩
  · intro t reached running s stale
    have dead := retired t reached running s stale
    cases hs : readyState t.page.link s with
    | connecting =>
      rw [hs] at dead
      cases dead
    | opened =>
      rw [hs] at dead
      cases dead
    | closing => exact .inl rfl
    | closed => exact .inr rfl
  · intro t reached running s stale env
    exact stale_inert running stale (retired t reached running)

end EspWebChat.StaleSockets
