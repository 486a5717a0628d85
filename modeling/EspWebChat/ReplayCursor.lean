import EspWebChat.ReplayLaw
import EspWebChat.StaleSockets

set_option autoImplicit false

/-!
# The stored cursor never runs ahead of the stored messages

A tab follows a sequence of messages over any number of pages and connections. Every write to
the storage may fail, and a page may end in the middle of a handler.
-/
namespace EspWebChat.ReplayCursor
open JsonTree JsValues ClientMessages Interruptible BrowserWorld ClientStore ClientSocket
open StoreSteps PageSteps StartSteps TabRuns StaleSockets ReplayLaw

/-- A connection that has come to the id `n` brings `m` next: what it leaves out is not for this
    user. -/
structure Next (σ : Setting) (n : ℕ) (m : Json) : Prop where
  sent : σ.sequence.contains m
  later : n < numericId m
  first : ∀ k, σ.sequence.contains k → isMessageForMe σ.userId k = true → n < numericId k →
    numericId m ≤ numericId k

/-- A frame beside the sequence: no valid chat message, no cursor reset, and no recovered message
    with an id of the sequence. -/
structure Quiet (σ : Setting) (msg : Json) : Prop where
  chat : (isText "text" (msg.lastMember "type") || isText "newGroup" (msg.lastMember "type")) = true →
    validHistoryMessage msg = false
  recovered : isText "historyResponse" (msg.lastMember "type") = true →
    ∀ c m, msg.lastMember "message" = some c → σ.sequence.contains m → numericId c ≠ numericId m
  resets : ¬(isText "error" (msg.lastMember "type") = true ∧ isText "bad_since_id" (msg.lastMember "code") = true)

/-- Anything but the current socket opening or bringing a message of the sequence. -/
def Beside (σ : Setting) (e : Event) (l : Link) : Prop :=
  match e with
  | .socketOpen s => l.ws ≠ some s
  | .socketMessage s frame => l.ws = some s → ∀ msg, frame = some msg → Quiet σ msg
  | _ => True

/-- `feed` is the socket that last joined, and the id its connection has come to. It joins with
    the cursor of the page, and then brings the messages above it in order, for as long as it
    may. Another page of this user may start at any time. -/
inductive Reached (σ : Setting) (location : Location) : Tab → Option (ℕ × ℕ) → Prop where
  | start : Reached σ location ⟨⟨freshStore σ.storage [], freshLink location⟩, false⟩ none
  | load (env : ℕ → Reply) (t : Tab) (feed : Option (ℕ × ℕ)) (before : Reached σ location t feed)
      (user : (load location env t).running = true → (load location env t).page.store.userId = σ.userId) :
      Reached σ location (load location env t) none
  | joins (s : ℕ) (env : ℕ → Reply) (t : Tab) (feed : Option (ℕ × ℕ)) (before : Reached σ location t feed)
      (current : t.page.link.ws = some s) :
      Reached σ location (step (.socketOpen s) env t) (some (s, t.page.store.lastSeenId))
  | brings (s n : ℕ) (m : Json) (env : ℕ → Reply) (t : Tab) (before : Reached σ location t (some (s, n)))
      (current : t.page.link.ws = some s) (next : Next σ n m) :
      Reached σ location (step (.socketMessage s (some m)) env t) (some (s, numericId m))
  | other (e : Event) (env : ℕ → Reply) (t : Tab) (feed : Option (ℕ × ℕ)) (before : Reached σ location t feed)
      (beside : Beside σ e t.page.link) : Reached σ location (step e env t) feed

variable {σ : Setting} {T : Traffic} {location : Location} {t : Tab} {w : Page} {e : Event} {feed : Option (ℕ × ℕ)}

structure During (σ : Setting) (T : Traffic) (a : Archive) (w : Page) : Prop where
  law : Law σ (archive w.store)
  allowed : Allowed σ T (archive w.store)
  grown : ∀ m ∈ memory a, m ∈ memory (archive w.store)

theorem During.step {a : Archive} {u v : Page} (h : During σ T a u) (step : PageStep T u v) : During σ T a v :=
  ⟨h.law.move h.allowed step.store.move, h.allowed.move step.store.move,
    fun m hm => memory_mono step.store.move (h.grown m hm)⟩

theorem handle_during (law : Law σ (archive w.store)) (allowed : Allowed σ (eventTraffic e) (archive w.store))
    (env : ℕ → Reply) : During σ (eventTraffic e) (archive w.store) (handle e env w).world :=
  (handle_good (p := True) e).invariant (During σ (eventTraffic e) (archive w.store)) (fun _ _ => During.step)
    ⟨law, allowed, fun _ hm => hm⟩ env

theorem allowed_none {a : Archive} (user : a.userId = σ.userId) : Allowed σ .none a :=
  ⟨user, fun _ arrives => absurd arrives id, fun _ _ arrives => absurd arrives id, id⟩

theorem allowed_quiet {a : Archive} {frame : Option Json} (user : a.userId = σ.userId)
    (quiet : ∀ msg, frame = some msg → Quiet σ msg) : Allowed σ (trafficOf frame) a := by
  refine ⟨user, ?_, ?_, ?_⟩
  · intro msg arrives valid
    obtain ⟨e, chat⟩ := arrives
    rw [(quiet msg e).chat chat] at valid
    cases valid
  · intro c m arrives sent
    obtain ⟨msg, e, response, candidate⟩ := arrives
    exact (quiet msg e).recovered response c m candidate sent
  · intro resets
    obtain ⟨msg, e, error, code⟩ := resets
    exact (quiet msg e).resets ⟨error, code⟩

theorem allowed_next {a : Archive} {n : ℕ} {m : Json} (user : a.userId = σ.userId) (next : Next σ n m)
    (covers : Covers σ (memory a) n) : Allowed σ (trafficOf (some m)) a := by
  have valid := σ.sequence.valid m next.sent
  have chat := chat_of_valid valid
  refine ⟨user, ?_, ?_, ?_⟩
  · intro msg arrives _
    obtain rfl := Option.some.inj arrives.1
    refine ⟨next.sent, ?_⟩
    intro k due lt
    apply covers k due
    by_contra beyond
    have le := next.first k due.sent due.mine (by omega)
    omega
  · intro c k arrives _
    obtain ⟨msg, e, response, -⟩ := arrives
    obtain rfl := Option.some.inj e
    exact absurd response (chat_type chat (by decide) (by decide))
  · intro resets
    obtain ⟨msg, e, error, -⟩ := resets
    obtain rfl := Option.some.inj e
    exact absurd error (chat_type chat (by decide) (by decide))

structure RunLaw (σ : Setting) (t : Tab) (feed : Option (ℕ × ℕ)) : Prop where
  storage : StorageLaw σ (archive t.page.store)
  user : t.running = true → t.page.store.userId = σ.userId
  law : t.running = true → Law σ (archive t.page.store)
  fed : t.running = true → ∀ s n, feed = some (s, n) → Covers σ (memory (archive t.page.store)) n

/-- An event that brings nothing that does not fit keeps the law; what was in memory stays. -/
theorem RunLaw.step (h : RunLaw σ t feed) (env : ℕ → Reply)
    (allowed : t.running = true → Allowed σ (eventTraffic e) (archive t.page.store)) :
    RunLaw σ (step e env t) feed ∧ ((step e env t).running = true →
      ∀ m ∈ memory (archive t.page.store), m ∈ memory (archive (step e env t).page.store)) := by
  unfold ClientSocket.step
  split_ifs with running
  · have during := handle_during (h.law running) (allowed running) env
    refine ⟨⟨during.law.storage, fun _ => during.allowed.user, fun _ => during.law, ?_⟩, fun _ => during.grown⟩
    intro _ s n hf
    exact (h.fed running s n hf).mono during.grown
  · exact ⟨h, fun _ _ hm => hm⟩

theorem load_law (location : Location) (storage : StorageLaw σ (archive t.page.store)) (env : ℕ → Reply) :
    StorageLaw σ (archive (load location env t).page.store) ∧ ((load location env t).running = true →
      Law σ (archive (load location env t).page.store) ∧
      (load location env t).page.store.lastSeenId = restartCursor (archive t.page.store)) := by
  have loads := load_good (K := StorageLaw σ)
    (L := fun a => Law σ a ∧ a.lastSeenId = restartCursor (archive t.page.store)) (p := True) location env t
    (fun b same => storage.same same)
    (fun b same => ⟨(storage.same same).reloaded, same.restartCursor⟩) ?_ (fun a law => law.1.storage)
  · exact ⟨loads.1, fun running => (loads.2 running).1⟩
  · intro a b move law
    cases move with
    | stay => exact law
    | push _ arrives => exact absurd arrives id
    | recover _ _ _ _ arrives => exact absurd arrives id
    | settle => exact ⟨law.1.settle, law.2⟩
    | save => exact ⟨law.1.save, law.2⟩
    | remember _ arrives => exact absurd arrives id
    | cursor => exact ⟨law.1.cursor, law.2⟩
    | reset resets => exact absurd resets id

theorem brought_known {s : ℕ} {m : Json} {env : ℕ → Reply}
    (running : (step (.socketMessage s (some m)) env t).running = true) (current : t.page.link.ws = some s)
    (valid : validHistoryMessage m = true) (mine : isMessageForMe t.page.store.userId m = true) :
    knows (archive (step (.socketMessage s (some m)) env t).page.store) (numericId m) := by
  have h : step (.socketMessage s (some m)) env t = Tab.exec (onmessage s (some m)) env t.page :=
    if_pos (running_before running)
  rw [h] at running ⊢
  obtain ⟨a, ha⟩ := Option.isSome_iff_exists.mp running
  exact (onmessage_chat current m valid env).2 a ha mine

theorem RunLaw.joins {s : ℕ} (h : RunLaw σ t feed) (env : ℕ → Reply) :
    RunLaw σ (ClientSocket.step (.socketOpen s) env t) (some (s, t.page.store.lastSeenId)) := by
  have kept := h.step (e := .socketOpen s) env (fun running => allowed_none (h.user running))
  refine ⟨kept.1.storage, kept.1.user, kept.1.law, ?_⟩
  intro running s' n hf
  cases hf
  exact ((h.law (running_before running)).known).mono (kept.2 running)

theorem RunLaw.brings {s n : ℕ} {m : Json} (h : RunLaw σ t (some (s, n))) (env : ℕ → Reply)
    (current : t.page.link.ws = some s) (next : Next σ n m) :
    RunLaw σ (ClientSocket.step (.socketMessage s (some m)) env t) (some (s, numericId m)) := by
  have kept := h.step (e := .socketMessage s (some m)) env
    (fun running => allowed_next (h.user running) next (h.fed running s n rfl))
  refine ⟨kept.1.storage, kept.1.user, kept.1.law, ?_⟩
  intro running s' n' hf
  cases hf
  have before := running_before running
  apply covers_next next.sent
  · intro k due lt
    have le : numericId k ≤ n := by
      by_contra beyond
      have le := next.first k due.sent due.mine (by omega)
      omega
    obtain ⟨x, hx, copy⟩ := h.fed before s n rfl k due le
    exact ⟨x, kept.2 running x hx, copy⟩
  · intro due
    have known := brought_known running current (σ.sequence.valid m next.sent) (h.user before ▸ due.mine)
    exact holds_of_knows (kept.1.law running).faithful known due rfl

theorem RunLaw.beside (h : RunLaw σ t feed) (env : ℕ → Reply) (beside : Beside σ e t.page.link) :
    RunLaw σ (ClientSocket.step e env t) feed := by
  cases e with
  | socketMessage s frame =>
    by_cases current : t.page.link.ws = some s
    · have allowed : t.running = true → Allowed σ (trafficOf frame) (archive t.page.store) :=
        fun running => allowed_quiet (h.user running) (beside current)
      exact (h.step (e := .socketMessage s frame) env allowed).1
    · rw [message_stale current]
      exact h
  | _ => exact (h.step env (fun running => allowed_none (h.user running))).1

theorem reached_law (h : Reached σ location t feed) : RunLaw σ t feed := by
  induction h with
  | start => exact ⟨storageLaw_start, (fun e => nomatch e), (fun e => nomatch e), (fun e => nomatch e)⟩
  | load env t feed _ user ih =>
    have loads := load_law location ih.storage env
    refine ⟨loads.1, user, fun running => (loads.2 running).1, ?_⟩
    intro _ s n none
    cases none
  | joins s env t feed _ current ih => exact ih.joins env
  | brings s n m env t _ current next ih => exact ih.brings env current next
  | other e env t feed _ beside ih => exact ih.beside env beside

/-- Whatever writes have failed, and wherever a page has ended: up to the cursor in the storage,
    up to the cursor a page would compute from it, and up to the cursor of a page that runs, the
    stored messages miss none for this user but what the retention rule has dropped. -/
theorem cursor_never_ahead (σ : Setting) (location : Location) :
    (∀ t feed, Reached σ location t feed → ∀ m, σ.due m →
      (numericId m ≤ savedCursor (archive t.page.store) ∨ numericId m ≤ restartCursor (archive t.page.store) ∨
        (t.running = true ∧ numericId m ≤ t.page.store.lastSeenId)) →
      Holds σ (savedMessages (archive t.page.store)) m ∨ Holds σ t.page.store.pruned m) ∧
    (∀ t feed env, Reached σ location t feed → (load location env t).running = true →
      (load location env t).page.store.lastSeenId = restartCursor (archive t.page.store)) := by
  refine ⟨?_, ?_⟩
  · intro t feed reached m due below
    have law := reached_law reached
    have held : Holds σ (durable (archive t.page.store)) m := by
      cases below with
      | inl stored => exact law.storage.covered m due (Nat.le_trans stored (le_max_left _ _))
      | inr below =>
        cases below with
        | inl computed => exact law.storage.covered m due computed
        | inr page => exact (law.law page.1).remembered m due page.2
    obtain ⟨x, hx, copy⟩ := held
    cases List.mem_append.mp hx with
    | inl saved => exact .inl ⟨x, saved, copy⟩
    | inr dropped => exact .inr ⟨x, dropped, copy⟩
  · intro t feed env reached running
    exact ((load_law location (reached_law reached).storage env).2 running).2

end EspWebChat.ReplayCursor
