import EspWebChat.ReleasedPages

set_option autoImplicit false

/-!
# Runs in which a page without a socket is reset

Two handlers go on after a socket was given up under their hands: the one of a presence frame,
whose confirmed join sends the outbox, and the one that opens the next socket.
-/
namespace EspWebChat.ReleasedRuns
open Relation JsonTree JsValues ClientMessages Interruptible BrowserWorld ClientStore ClientSocket
open StoreSteps LinkStates PageSteps OutboxSteps OutboxRuns TimerOwners ReleasedPages

variable {w u : Page} {s : ℕ} {env env' : ℕ → Reply} {e : Event} {t : Tab} {location : Location}

def SameUser (w u : Page) : Prop := u.store.userId = w.store.userId

instance : Std.Refl SameUser := ⟨fun _ => rfl⟩
instance : IsTrans Page SameUser := ⟨fun _ _ _ h k => k.trans h⟩

theorem onStore_user {α : Type} {m : Client Store α} (h : Within SamePeople m) : Within SameUser (onStore m) :=
  h.zoom (fun _ _ same => same.1)

theorem setLink_user (f : Link → Link) : Within SameUser (setLink f) := .writes (fun _ => rfl)

theorem releaseSocket_user (s : ℕ) : Within SameUser (releaseSocket s) := by
  have shown : Within SameUser (onStore resetPresence) := by
    have store : Within (fun a b : Store => b.userId = a.userId) resetPresence := by
      constructor
      intro a env
      exact (renderConversationList_people.run { a with onlineUsers := [(a.userId, str (getNickname a))] } env).1
    exact store.zoom (fun _ _ same => same)
  have interrupted : ∀ w, SameUser w (interruptRecovery w) := by
    intro w
    unfold SameUser interruptRecovery
    split <;> rfl
  apply Within.bind .reads
  intro l
  apply Within.ite (.pure false)
  apply (setLink_user detach).bind
  intro _
  apply shown.bind
  intro _
  exact .bind (.writes interrupted) (fun _ => .pure true)

theorem sendRaw_user (payload : Json) : Within SameUser (sendRaw payload) := by
  apply Within.bind .reads
  intro l
  cases l.ws with
  | none => exact .pure false
  | some s =>
    apply Within.ite (.pure false)
    apply reply_within.bind
    intro r
    apply Within.ite
    · exact (setLink_user _).bind (fun _ => .pure true)
    · refine Within.bind ?_ (fun _ => .pure false)
      apply (releaseSocket_user s).bind
      intro released
      exact .ite (.pure ()) ((setLink_user _).bind (fun _ => setLink_user _))

theorem sendPending_user (pending : List Json) : Within SameUser (sendPending pending) := by
  induction pending with
  | nil => exact .pure []
  | cons message pending ih =>
    apply nowS_within.bind
    intro now
    apply (sendRaw_user _).bind
    intro done
    exact .ite ih (.pure _)

theorem flushOutbox_user : Within SameUser flushOutbox := by
  apply Within.bind .reads
  intro w
  apply Within.ite (.pure ())
  apply (sendPending_user _).bind
  intro remaining
  refine Within.bind (.writes (fun _ => rfl)) ?_
  intro _
  exact onStore_user saveOutbox_people

theorem confirmSocketJoin_user : Within SameUser confirmSocketJoin := by
  apply Within.bind .reads
  intro l
  cases l.ws with
  | none => exact .pure ()
  | some s => exact .ite (.pure ()) ((setLink_user _).bind (fun _ => flushOutbox_user))

theorem reply_returned {r : Reply} (run : reply env w = ⟨some r, u, env'⟩) :
    r = env 0 ∧ u = w ∧ env' = fun k => env (k + 1) := by
  unfold reply ask at run
  simp only [Outcome.mk.injEq] at run
  obtain ⟨alive, same, rest⟩ := run
  split_ifs at alive
  exact ⟨(Option.some.inj alive).symm, same.symm, rest.symm⟩

theorem nowS_returned {now : Json} (run : nowS env w = ⟨some now, u, env'⟩) :
    u = w ∧ env' = fun k => env (k + 1) := by
  unfold nowS at run
  obtain ⟨r, v, env₁, asked, rest⟩ := bind_returned (by rw [run])
  obtain ⟨-, rfl, rfl⟩ := reply_returned asked
  rw [rest] at run
  cases run
  exact ⟨rfl, rfl⟩

theorem post_returned {α : Type} {m : Client Page α} {P : α → Page → Prop} {a : α} (h : Ran m w P)
    (run : m env w = ⟨some a, u, env'⟩) : P a u := by
  have post := (h env).2 a
  rw [run] at post
  exact post rfl

/-- A send on an open socket succeeds, or the socket is given up. -/
theorem sendRaw_returned {payload : Json} {done : Bool} (settled : Settled w) (current : w.link.ws = some s)
    (opened : readyState w.link s = .opened) (run : sendRaw payload env w = ⟨some done, u, env'⟩) :
    (done = true ∧ (env 0).sends = true ∧ Unmoved w u ∧ env' = fun k => env (k + 1)) ∨
      (done = false ∧ (env 0).sends = false ∧ Freed u) := by
  have first : link env w = ⟨some w.link, w, env⟩ := rfl
  rw [sendRaw, bind_run first] at run
  simp only [current, opened, ne_eq, not_true_eq_false, if_false] at run
  obtain ⟨r, v, env₁, asked, rest⟩ := bind_returned (by rw [run])
  obtain ⟨rfl, rfl, rfl⟩ := reply_returned asked
  rw [rest] at run
  cases sends : (env 0).sends with
  | true =>
    rw [sends, if_pos rfl] at run
    cases run
    exact .inl ⟨rfl, rfl, ⟨rfl, _, rfl⟩, rfl⟩
  | false =>
    rw [sends, if_neg (by decide)] at run
    obtain ⟨a, x, env₂, released, last⟩ := bind_returned (by rw [run])
    have freed := post_returned (reconnectSocket_ran settled current) released
    rw [last] at run
    cases run
    exact .inr ⟨rfl, rfl, freed⟩

theorem sendPending_returned {pending remaining : List Json} (settled : Settled w) (current : w.link.ws = some s)
    (opened : readyState w.link s = .opened) (run : sendPending pending env w = ⟨some remaining, u, env'⟩) :
    ((∀ j < pending.length, (env (2 * j + 1)).sends = true) ∧ Unmoved w u) ∨
      ((∃ j < pending.length, (env (2 * j + 1)).sends = false) ∧ Freed u) := by
  induction pending generalizing w env with
  | nil =>
    cases run
    exact .inl ⟨fun j hj => absurd hj (Nat.not_lt_zero j), rfl, _, rfl⟩
  | cons message pending ih =>
    unfold sendPending at run
    obtain ⟨now, v, env₁, clock, rest⟩ := bind_returned (by rw [run])
    obtain ⟨rfl, rfl⟩ := nowS_returned clock
    rw [rest] at run
    obtain ⟨done, x, env₂, attempt, rest⟩ := bind_returned (by rw [run])
    rw [rest] at run
    rcases sendRaw_returned settled current opened attempt with ⟨rfl, first, unmoved, rfl⟩ | ⟨rfl, first, freed⟩
    · rw [if_pos rfl] at run
      have kept := (gentle_of_unmoved unmoved).settled settled
      obtain ⟨store, sent, link⟩ := unmoved
      have here : x.link.ws = some s := by
        rw [link]
        exact current
      have up : readyState x.link s = .opened := by
        rw [link]
        exact opened
      rcases ih kept here up run with ⟨all, same, sent', link'⟩ | ⟨⟨j, hj, failed⟩, freed⟩
      · refine .inl ⟨?_, same.trans store, sent', ?_⟩
        · intro j hj
          cases j with
          | zero => exact first
          | succ j => exact all j (Nat.lt_of_succ_lt_succ hj)
        · rw [link', link]
      · exact .inr ⟨⟨j + 1, Nat.succ_lt_succ hj, failed⟩, freed⟩
    · rw [if_neg (by decide)] at run
      cases run
      exact .inr ⟨⟨0, Nat.zero_lt_succ _, first⟩, freed⟩

/-- The current socket is open and has not joined. -/
structure Joining (w : Page) (s : ℕ) : Prop where
  current : w.link.ws = some s
  joined : w.link.wsJoined = false
  opened : readyState w.link s = .opened

/-- Whether the browser takes every message of the outbox that a confirmed join sends. -/
def Sends (env : ℕ → Reply) (w : Page) : Prop := ∀ j < w.store.outbox.length, (env (2 * j + 1)).sends = true

theorem flushOutbox_returned {a : Unit} (settled : Settled w) (current : w.link.ws = some s)
    (opened : readyState w.link s = .opened) (joined : w.link.wsJoined = true)
    (run : flushOutbox env w = ⟨some a, u, env'⟩) :
    (Sends env w ∧ u.link.ws = some s ∧ Settled u) ∨ (¬Sends env w ∧ Freed u) := by
  have first : reads (fun w : Page => w) env w = ⟨some w, w, env⟩ := rfl
  rw [flushOutbox, bind_run first] at run
  by_cases empty : w.store.outbox.isEmpty = true
  · rw [if_pos (by rw [empty]; exact Bool.or_true _)] at run
    cases run
    have none : w.store.outbox.length = 0 := by rw [List.isEmpty_iff.mp empty]; rfl
    refine .inl ⟨?_, current, settled⟩
    intro j hj
    omega
  · have ready : (!w.link.wsJoined || !isOpen w.link w.link.ws || w.store.outbox.isEmpty) = false := by
      simp [joined, current, isOpen, opened, empty]
    rw [ready, if_neg (by decide)] at run
    obtain ⟨remaining, x, env₁, sending, rest⟩ := bind_returned (by rw [run])
    rw [rest] at run
    have saves : Within Gentle (do setStore (fun s => { s with outbox := remaining }); onStore saveOutbox) := by
      refine Within.bind (setStore_gentle (fun _ alone => ⟨alone.recovery, alone.users⟩)) ?_
      intro _
      exact onStore_people saveOutbox_people
    have gentle := saves.run x env₁
    have same := congrArg (fun o : Outcome Reply Page Unit => o.world.link.ws) run
    rw [run] at gentle
    rcases sendPending_returned settled current opened sending with ⟨all, unmoved⟩ | ⟨⟨j, hj, failed⟩, freed⟩
    · have kept := (gentle_of_unmoved unmoved).settled settled
      obtain ⟨-, sent, link⟩ := unmoved
      refine .inl ⟨all, ?_, gentle.settled kept⟩
      rw [← same]
      change x.link.ws = some s
      rw [link]
      exact current
    · refine .inr ⟨?_, ?_⟩
      · intro all
        have done := all j hj
        rw [failed] at done
        cases done
      · exact freed.gentle gentle (same.symm.trans freed.gone)

theorem confirmSocketJoin_returned {a : Unit} (settled : Settled w) (current : w.link.ws = some s)
    (run : confirmSocketJoin env w = ⟨some a, u, env'⟩) :
    ((Joining w s → Sends env w) ∧ u.link.ws = some s ∧ Settled u) ∨ (Joining w s ∧ ¬Sends env w ∧ Freed u) := by
  have first : link env w = ⟨some w.link, w, env⟩ := rfl
  rw [confirmSocketJoin, bind_run first] at run
  simp only [current] at run
  by_cases idle : (w.link.wsJoined || decide (readyState w.link s ≠ .opened)) = true
  · rw [if_pos idle] at run
    cases run
    refine .inl ⟨?_, current, settled⟩
    intro joining
    rw [joining.joined, joining.opened] at idle
    cases idle
  · rw [if_neg idle] at run
    simp only [Bool.or_eq_true, decide_eq_true_eq, not_or, Bool.not_eq_true, ne_eq, not_not] at idle
    have second : setLink (joinConfirmed s) env w = ⟨some (), { w with link := joinConfirmed s w.link }, env⟩ := rfl
    rw [bind_run second] at run
    have confirmed : Settled { w with link := joinConfirmed s w.link } := by
      refine ⟨settled.owned.joinConfirmed s, ?_⟩
      intro none
      exact absurd (current.symm.trans none) (by simp)
    rcases flushOutbox_returned confirmed current idle.2 rfl run with kept | freed
    · exact .inl ⟨fun _ => kept.1, kept.2⟩
    · exact .inr ⟨⟨current, idle.1, idle.2⟩, freed⟩

/-- The frame confirms the join and shows friends, but the outbox cannot be sent. -/
structure Interrupted (env : ℕ → Reply) (w : Page) (s : ℕ) (msg : Json) : Prop where
  joining : Joining w s
  confirms : isText "onlineUsers" (msg.lastMember "type") = true ∧ isArray (msg.lastMember "data") = true ∧
    listsUser w.store.userId (itemsOf (msg.lastMember "data")) = true
  fails : ¬Sends env w
  friends : listsOthers w.store.userId (itemsOf (msg.lastMember "data")) = true

theorem updateOnlineUsers_returned {data : List Json} {a : Unit}
    (run : onStore (updateOnlineUsers data) env w = ⟨some a, u, env'⟩) : u.link = w.link ∧
    SamePeople { w.store with onlineUsers := presence w.store data } u.store := by
  have same := congrArg (fun o : Outcome Reply Page Unit => o.world.link) run
  have people := renderConversationList_people.run { w.store with onlineUsers := presence w.store data } env
  have shown := congrArg (fun o : Outcome Reply Page Unit => o.world.store) run
  refine ⟨same.symm, ?_⟩
  rw [← shown]
  exact people

theorem handlePresence_settled {msg : Json} {a : Unit} (settled : Settled w) (current : w.link.ws = some s)
    (type : isText "onlineUsers" (msg.lastMember "type") = true) (careful : ¬Interrupted env w s msg)
    (run : handlePresence msg env w = ⟨some a, u, env'⟩) : Settled u := by
  have first : store env w = ⟨some w.store, w, env⟩ := rfl
  rw [handlePresence, bind_run first] at run
  by_cases ignored : (!isArray (msg.lastMember "data") ||
      !listsUser w.store.userId (itemsOf (msg.lastMember "data"))) = true
  · rw [if_pos ignored] at run
    cases run
    exact settled
  · rw [if_neg ignored] at run
    simp only [Bool.or_eq_true, Bool.not_eq_true', not_or, Bool.not_eq_false] at ignored
    obtain ⟨b, v, env₁, confirming, rest⟩ := bind_returned (by rw [run])
    rw [rest] at run
    obtain ⟨link, people⟩ := updateOnlineUsers_returned run
    rcases confirmSocketJoin_returned settled current confirming with ⟨-, here, kept⟩ | ⟨joining, fails, freed⟩
    · refine ⟨link ▸ kept.owned, ?_⟩
      intro none
      rw [link, here] at none
      cases none
    · have user : v.store.userId = w.store.userId := by
        have same := confirmSocketJoin_user.run w env
        rw [confirming] at same
        exact same
      have nobody : listsOthers v.store.userId (itemsOf (msg.lastMember "data")) = false := by
        rw [user]
        by_contra friends
        exact careful ⟨joining, ⟨type, ignored⟩, fails, by simpa using friends⟩
      refine ⟨link ▸ freed.owned, fun _ => ⟨link ▸ freed.reset.link, ?_⟩⟩
      exact people.alone ⟨freed.reset.store.recovery, presence_alone nobody⟩

theorem noteProgress_same (msg : Json) (l : Link) :
    (noteProgress msg l).wsJoined = l.wsJoined ∧ (noteProgress msg l).sockets = l.sockets := by
  unfold noteProgress
  cases l.ws with
  | none => exact ⟨rfl, rfl⟩
  | some s =>
    dsimp only
    split_ifs <;> exact ⟨rfl, rfl⟩

theorem noteTraffic_same (s : ℕ) (l : Link) :
    (noteTraffic s l).wsJoined = l.wsJoined ∧ (noteTraffic s l).sockets = l.sockets := by
  unfold noteTraffic
  split_ifs <;> exact ⟨rfl, rfl⟩

theorem interrupted_noted {msg : Json} {v : Page} (store : v.store = w.store) (ws : v.link.ws = w.link.ws)
    (joined : v.link.wsJoined = w.link.wsJoined) (sockets : v.link.sockets = w.link.sockets)
    (h : Interrupted env v s msg) : Interrupted env w s msg := by
  have state : readyState w.link s = readyState v.link s := by
    unfold readyState
    rw [sockets]
  refine ⟨⟨ws ▸ h.joining.current, joined ▸ h.joining.joined, state.trans h.joining.opened⟩, ?_, ?_, ?_⟩
  · rw [← store]
    exact h.confirms
  · unfold Sends
    rw [← store]
    exact h.fails
  · rw [← store]
    exact h.friends

theorem onmessage_settled {frame : Option Json} {a : Unit} (settled : Settled w)
    (careful : ∀ msg, frame = some msg → ¬Interrupted env w s msg)
    (run : onmessage s frame env w = ⟨some a, u, env'⟩) : Settled u := by
  have first : link env w = ⟨some w.link, w, env⟩ := rfl
  rw [onmessage, bind_run first] at run
  by_cases stale : w.link.ws ≠ some s
  · rw [if_pos stale] at run
    cases run
    exact settled
  · rw [if_neg stale] at run
    have current : w.link.ws = some s := not_not.mp stale
    have second : setLink (noteTraffic s) env w = ⟨some (), { w with link := noteTraffic s w.link }, env⟩ := rfl
    rw [bind_run second] at run
    have noted : Settled { w with link := noteTraffic s w.link } :=
      Gentle.settled ⟨noteTraffic_steady current, id⟩ settled
    have here : (noteTraffic s w.link).ws = some s := (noteTraffic_ws s w.link).trans current
    cases frame with
    | none =>
      cases run
      exact noted
    | some msg =>
      cases type : isText "onlineUsers" (msg.lastMember "type") with
      | false => exact post_returned (handleIncoming_settled msg here noted type) run
      | true =>
        have kind : text (msg.lastMember "type") = some "onlineUsers" := by simpa [isText] using type
        have others : ∀ name, name ≠ "onlineUsers" → isText name (msg.lastMember "type") = false := by
          intro name other
          simp [isText, kind, Ne.symm other]
        have third : setLink (noteProgress msg) env { w with link := noteTraffic s w.link } =
            ⟨some (), { w with link := noteProgress msg (noteTraffic s w.link) }, env⟩ := rfl
        unfold handleIncoming at run
        dsimp only at run
        split_ifs at run with throws
        · cases run
          exact noted
        rw [handleSummarized, bind_run third] at run
        rw [others "ping" (by decide), others "historyInfo" (by decide), others "historyRequest" (by decide),
          others "historyResponse" (by decide), type] at run
        simp only [Bool.false_eq_true, if_false, if_true] at run
        have progress := noteProgress_same msg (noteTraffic s w.link)
        have traffic := noteTraffic_same s w.link
        have gentle : Gentle { w with link := noteTraffic s w.link }
            { w with link := noteProgress msg (noteTraffic s w.link) } := ⟨noteProgress_steady msg _, id⟩
        refine handlePresence_settled (gentle.settled noted) ((noteProgress_ws msg _).trans here) type ?_ run
        intro interrupted
        have same_ws := (noteProgress_ws msg (noteTraffic s w.link)).trans (noteTraffic_ws s w.link)
        exact careful msg rfl (interrupted_noted (v := { w with link := noteProgress msg (noteTraffic s w.link) })
          rfl same_ws (progress.1.trans traffic.1) (progress.2.trans traffic.2) interrupted)

/-- A socket can be constructed, or none is wanted, or nothing is left of the one before. -/
def ConnectsWell (r : Reply) (w : Page) : Prop :=
  r.constructs = true ∨ w.link.reconnectBlocked = true ∨ liveSocket w.link = true ∨ Reset w

theorem connect_settled {a : Unit} (settled : Settled w) (well : ConnectsWell (env 0) w)
    (run : connect env w = ⟨some a, u, env'⟩) : Settled u := by
  have first : link env w = ⟨some w.link, w, env⟩ := rfl
  rw [connect, bind_run first] at run
  by_cases skip : (w.link.reconnectBlocked || liveSocket w.link) = true
  · rw [if_pos skip] at run
    cases run
    exact settled
  · rw [if_neg skip] at run
    simp only [Bool.or_eq_true, not_or] at skip
    have second : setLink countConnection env w = ⟨some (), { w with link := countConnection w.link }, env⟩ := rfl
    rw [bind_run second] at run
    obtain ⟨r, v, env₁, asked, rest⟩ := bind_returned (by rw [run])
    obtain ⟨rfl, rfl, rfl⟩ := reply_returned asked
    rw [rest] at run
    by_cases constructs : (env 0).constructs = true
    · rw [if_pos constructs] at run
      cases run
      refine ⟨(newSocket_steady (countConnection w.link)).owned settled.owned, ?_⟩
      intro none
      cases none
    · rw [if_neg constructs] at run
      have failed : setLink constructorFailed (fun k => env (k + 1)) { w with link := countConnection w.link } =
          ⟨some (), { w with link := constructorFailed (countConnection w.link) }, fun k => env (k + 1)⟩ := rfl
      rw [failed] at run
      cases run
      have reset : Reset w := by
        rcases well with ok | blocked | live | reset
        · exact absurd ok constructs
        · exact absurd blocked skip.1
        · exact absurd live skip.2
        · exact reset
      have owned : Owned (countConnection w.link) := settled.owned
      have cleared : Cleared (countConnection w.link) := ⟨reset.link.left, reset.link.quiet⟩
      have left : ∀ l, Owned l → Cleared l → Settled { w with link := l } :=
        fun _ owned cleared => ⟨owned, fun _ => ⟨cleared, reset.store⟩⟩
      exact left _ (constructorFailed_owned owned) (constructorFailed_cleared cleared)

theorem ConnectsWell.before {r : Reply} (h : ConnectsWell r w) (blocked : u.link.reconnectBlocked = w.link.reconnectBlocked)
    (ws : u.link.ws = w.link.ws) (sockets : u.link.sockets = w.link.sockets)
    (joined : u.link.wsJoined = w.link.wsJoined) (timers : ∀ t ∈ u.link.timers, t ∈ w.link.timers)
    (store : Lonely w.store u.store) : ConnectsWell r u := by
  rcases h with ok | was | live | reset
  · exact .inl ok
  · exact .inr (.inl (blocked.trans was))
  · refine .inr (.inr (.inl ?_))
    unfold liveSocket readyState at live ⊢
    rw [ws, sockets]
    exact live
  · exact .inr (.inr (.inr ⟨⟨joined.trans reset.link.left, fun t ht => reset.link.quiet t (timers t ht)⟩,
      store reset.store⟩))

theorem filtered (timer : Option Timer) (l : Link) : ∀ t ∈ (clearTimeout timer l).timers, t ∈ l.timers :=
  fun _ ht => (mem_clearTimeout.mp ht).1

theorem onlineListener_settled {a : Unit} (settled : Settled w)
    (well : (w.link.hasJoined && !w.link.reconnectBlocked &&
      w.link.ws.all (fun s => readyState w.link s == .closed)) = true → ConnectsWell (env 0) w)
    (run : onlineListener env w = ⟨some a, u, env'⟩) : Settled u := by
  have first : link env w = ⟨some w.link, w, env⟩ := rfl
  rw [onlineListener, bind_run first] at run
  split_ifs at run with listens
  · have second : setLink hurry env w = ⟨some (), { w with link := hurry w.link }, env⟩ := rfl
    rw [bind_run second] at run
    have gentle : Gentle w { w with link := hurry w.link } := ⟨hurry_steady w.link, id⟩
    exact connect_settled (gentle.settled settled) ((well listens).before rfl rfl rfl rfl (filtered _ _) id) run
  · cases run
    exact settled

theorem reconnectNow_settled {a : Unit} (settled : Settled w) (well : ConnectsWell (env 0) w)
    (run : reconnectNow env w = ⟨some a, u, env'⟩) : Settled u := by
  have first : setLink backOff env w = ⟨some (), { w with link := backOff w.link }, env⟩ := rfl
  rw [reconnectNow, bind_run first] at run
  have gentle : Gentle w { w with link := backOff w.link } := ⟨steady_same rfl rfl id id, id⟩
  exact connect_settled (gentle.settled settled) (well.before rfl rfl rfl rfl (fun _ ht => ht) id) run

theorem renderConversationList_asks : Asks 1 renderConversationList := by
  have stores : Asks 1 saveConversations :=
    .bind .reads (fun _ => .bind (.bind .ask (fun _ => .ite (.bind .writes (fun _ => .pure true)) (.pure false)))
      (fun _ => .pure ()))
  exact .bind .writes (fun _ => stores)

theorem render_returned {drawn : Bool} (run : onStore render env w = ⟨some drawn, u, env'⟩) :
    u.link = w.link ∧ Lonely w.store u.store ∧ (drawn = true → env' = fun k => env (k + 1)) := by
  have first : (renderMessages : Client Store Bool) env w.store = ⟨some (canRender w.store), w.store, env⟩ := rfl
  cases can : canRender w.store with
  | false =>
    have stays : onStore render env w = ⟨some false, w, env⟩ := by
      unfold onStore Interruptible.zoom
      rw [render, bind_run first, can]
      rfl
    rw [stays] at run
    cases run
    exact ⟨rfl, id, fun undrawn => by cases undrawn⟩
  | true =>
    have lists : render env w.store = (renderConversationList >>= fun _ => pure true) env w.store := by
      rw [render, bind_run first, can]
      rfl
    have zoomed : onStore render env w = onStore (renderConversationList >>= fun _ => pure true) env w := by
      unfold onStore Interruptible.zoom
      rw [lists]
    rw [zoomed] at run
    have same := congrArg (fun o : Outcome Reply Page Bool => o.world.link) run
    have both : Within SamePeople (renderConversationList >>= fun _ => pure true) :=
      renderConversationList_people.bind (fun _ => .pure true)
    have gentle := (onStore_people both).run w env
    rw [run] at gentle
    have asks : Asks 1 (renderConversationList >>= fun _ => pure true) :=
      renderConversationList_asks.bind (fun _ => .pure true)
    exact ⟨same.symm, gentle.store, fun _ => asks.zoom.rest run⟩

theorem enter_settled {a : Unit} (settled : Settled w) (well : ConnectsWell (env 1) w)
    (run : enter env w = ⟨some a, u, env'⟩) : Settled u := by
  have first : setLink hideLogin env w = ⟨some (), { w with link := hideLogin w.link }, env⟩ := rfl
  rw [enter, bind_run first] at run
  obtain ⟨drawn, v, env₁, rendering, rest⟩ := bind_returned (by rw [run])
  obtain ⟨link, lonely, asked⟩ := render_returned rendering
  rw [rest] at run
  have gentle : Gentle w v := by
    refine ⟨?_, lonely⟩
    rw [link]
    exact steady_same rfl rfl id id
  split_ifs at run with connects
  swap
  · cases run
    exact gentle.settled settled
  obtain rfl := asked connects
  refine connect_settled (gentle.settled settled) ?_ run
  exact well.before (by rw [link]; rfl) (by rw [link]; rfl) (by rw [link]; rfl) (by rw [link]; rfl)
    (by rw [link]; exact fun _ ht => ht) lonely

def callbackReply : Callback → Option ℕ
  | .connect | .reconnect => some 0
  | .enter => some 1
  | _ => none

/-- The answer that tells whether a socket could be constructed, if the event comes to that. -/
def connectReply (w : Page) : Event → Option ℕ
  | .callConnect => some 0
  | .online =>
    if w.link.hasJoined && !w.link.reconnectBlocked && w.link.ws.all (fun s => readyState w.link s == .closed) then
      some 0
    else none
  | .timer t => if t ∈ w.link.timers then callbackReply t.callback else none
  | _ => none

/-- Neither of the two handlers loses its socket on the way. -/
structure Careful (e : Event) (env : ℕ → Reply) (w : Page) : Prop where
  constructs : ∀ k, connectReply w e = some k → ConnectsWell (env k) w
  sends : ∀ s msg, e = .socketMessage s (some msg) → ¬Interrupted env w s msg

theorem timerFired_settled {timer : Timer} {a : Unit} (settled : Settled w)
    (well : ∀ k, connectReply w (.timer timer) = some k → ConnectsWell (env k) w)
    (run : timerFired timer env w = ⟨some a, u, env'⟩) : Settled u := by
  have first : link env w = ⟨some w.link, w, env⟩ := rfl
  rw [timerFired, bind_run first] at run
  split_ifs at run with pending
  · have gentle : Gentle w { w with link := clearTimeout (some timer) w.link } :=
      ⟨clearTimeout_steady (some timer) w.link, id⟩
    have cleared := gentle.settled settled
    have second : setLink (clearTimeout (some timer)) env w =
        ⟨some (), { w with link := clearTimeout (some timer) w.link }, env⟩ := rfl
    have ready : ∀ k, callbackReply timer.callback = some k →
        ConnectsWell (env k) { w with link := clearTimeout (some timer) w.link } := by
      intro k hk
      have attempt := well k (by rw [connectReply, if_pos pending, hk])
      exact attempt.before rfl rfl rfl rfl (filtered _ _) id
    cases kind : timer.callback with
    | receiveTimeout s =>
      rw [kind] at run
      exact post_returned (receiveFired_settled settled pending kind) run
    | enter =>
      rw [bind_run second, kind] at run
      exact enter_settled cleared (ready 1 (by rw [kind]; rfl)) run
    | connect =>
      rw [bind_run second, kind] at run
      exact connect_settled cleared (ready 0 (by rw [kind]; rfl)) run
    | reconnect =>
      rw [bind_run second, kind] at run
      exact reconnectNow_settled cleared (ready 0 (by rw [kind]; rfl)) run
    | connectTimeout s =>
      rw [bind_run second, kind] at run
      exact post_returned ((connectTimedOut_keeps s).run _ cleared) run
    | joinTimeout s =>
      rw [bind_run second, kind] at run
      exact post_returned ((joinTimedOut_keeps s).run _ cleared) run
    | finishRecovery =>
      rw [bind_run second, kind] at run
      exact post_returned ((keeps_of_gentle (onStore_gentle finishHistoryRecovery_lonely)).run _ cleared) run
  · cases run
    exact settled

theorem handle_settled {a : Unit} (settled : Settled w) (careful : Careful e env w)
    (run : handle e env w = ⟨some a, u, env'⟩) : Settled u := by
  cases e with
  | callConnect => exact connect_settled settled (careful.constructs 0 rfl) run
  | socketOpen s => exact post_returned ((socketOpened_keeps s).run w settled) run
  | socketMessage s frame =>
    exact onmessage_settled settled (fun msg hf => careful.sends s msg (by rw [hf])) run
  | socketError s => exact post_returned ((keeps_pure ()).run w settled) run
  | socketClose s => exact post_returned ((socketClosed_keeps s).run w settled) run
  | closing s => exact post_returned ((keeps_link (closeSocket_steady s)).run w settled) run
  | closed s => exact post_returned ((keeps_link (setReadyState_steady .closed s)).run w settled) run
  | timer t => exact timerFired_settled settled careful.constructs run
  | online =>
    refine onlineListener_settled settled ?_ run
    intro listens
    exact careful.constructs 0 (by rw [connectReply, if_pos listens])
  | enterChat nickname =>
    have enters : Keeps (do
        let l ← link
        if l.loginShown then enterChat nickname else pure ()) :=
      keeps_reads.bind (fun _ => .ite (enterChat_keeps nickname) (keeps_pure ()))
    exact post_returned (enters.run w settled) run
  | sendMessage input => exact post_returned ((sendMessage_keeps input).run w settled) run
  | createGroup ids => exact post_returned ((createGroup_keeps ids).run w settled) run
  | openConversation id =>
    exact post_returned ((keeps_of_gentle (onStore_people (openConversation_people id))).run w settled) run
  | startHistoryRecovery => exact post_returned (startHistoryRecovery_keeps.run w settled) run
  | restarting => exact post_returned ((keeps_link restarting_steady).run w settled) run

/-- The tabs that are reached when `permits` holds of every step. -/
inductive Run (location : Location) (permits : Event → (ℕ → Reply) → Page → Prop) : Tab → Prop where
  | start (storage : LocalStorage) : Run location permits ⟨⟨freshStore storage [], freshLink location⟩, false⟩
  | load (env : ℕ → Reply) (t : Tab) (before : Run location permits t) : Run location permits (load location env t)
  | step (e : Event) (env : ℕ → Reply) (t : Tab) (before : Run location permits t)
      (permitted : permits e env t.page) : Run location permits (step e env t)

def Unmet (a b : Store) : Prop :=
  a.onlineUsers = [] ∧ a.activeRecovery = none → b.onlineUsers = [] ∧ b.activeRecovery = none

instance : Std.Refl Unmet := ⟨fun _ => id⟩
instance : IsTrans Store Unmet := ⟨fun _ _ _ h k => k ∘ h⟩

theorem unmet_of_people {α : Type} {m : Client Store α} (h : Within SamePeople m) : Within Unmet m := by
  constructor
  intro s env unmet
  obtain ⟨-, users, recovery⟩ := h.run s env
  exact ⟨users.trans unmet.1, recovery.trans unmet.2⟩

theorem startStore_unmet : Within Unmet startStore := by
  have userId : Within Unmet chooseUserId := by
    apply Within.bind .reads
    intro s
    apply Within.ite (.pure ())
    apply reply_within.bind
    intro r
    refine Within.bind (.writes (fun _ unmet => unmet)) ?_
    intro _
    exact .bind (unmet_of_people (writeStoredValue_people _)) (fun _ => .pure ())
  have nickname : Within Unmet chooseNickname := by
    apply Within.bind .reads
    intro s
    exact .ite (.pure ()) (reply_within.bind (fun _ => .writes (fun _ unmet => unmet)))
  have state : Within Unmet loadState := by
    refine Within.bind (.writes (fun _ unmet => unmet)) ?_
    intro _
    apply (unmet_of_people saveMessages_people).bind
    intro saved
    apply Within.bind .reads
    intro s
    apply Within.ite
    · exact .bind (unmet_of_people (writeStoredValue_people _)) (fun _ => unmet_of_people (updateConversations_people _))
    · exact unmet_of_people (updateConversations_people _)
  apply userId.bind
  intro _
  apply nickname.bind
  intro _
  apply state.bind
  intro _
  refine Within.bind (.writes (fun _ unmet => unmet)) ?_
  intro _
  exact unmet_of_people (renderLast_within renderConversationList_people)

theorem load_settled (location : Location) (env : ℕ → Reply) (t : Tab) : Settled (load location env t).page := by
  have unmet := startStore_unmet.run (freshPage location t.page).store env ⟨rfl, rfl⟩
  refine ⟨(fun _ ht => nomatch ht), fun _ => ⟨⟨rfl, (fun _ ht => nomatch ht)⟩, unmet.2, ?_⟩⟩
  intro user hu
  have none : (load location env t).page.store.onlineUsers = [] := unmet.1
  rw [none] at hu
  cases hu

theorem step_settled (settled : t.running = true → Settled t.page) (careful : Careful e env t.page) :
    (step e env t).running = true → Settled (step e env t).page := by
  unfold step
  split_ifs with running
  · intro returned
    obtain ⟨a, ha⟩ := Option.isSome_iff_exists.mp returned
    cases run : handle e env t.page with
    | mk result u env' =>
      rw [run] at ha
      subst ha
      have after := handle_settled (settled running) careful run
      unfold Tab.exec
      rw [run]
      exact after
  · exact settled

theorem run_settled (h : Run location Careful t) : t.running = true → Settled t.page := by
  induction h with
  | start storage =>
    intro running
    cases running
  | load env t _ _ => exact fun _ => load_settled location env t
  | step e env t _ permitted ih => exact step_settled ih permitted

/-- Where both handlers keep their sockets, a page that runs without a socket is fully reset. -/
theorem released_reset (location : Location) (t : Tab) (run : Run location Careful t) (running : t.running = true)
    (released : t.page.link.ws = none) : Reset t.page :=
  (run_settled run running).reset released

def browser (sends constructs : Bool) : ℕ → Reply := fun _ => ⟨false, true, sends, constructs, 0, 0, "bob"⟩

def emptyTab (location : Location) : Tab :=
  load location (browser true true) ⟨⟨freshStore ⟨none, none, none, none, none, none⟩ [], freshLink location⟩, false⟩

def friendsFrame : Json := .obj [("type", str "onlineUsers"), ("data", .arr
  [.obj [("id", str "bob"), ("name", str "Bob")], .obj [("id", str "ann"), ("name", str "Ann")]])]

def closedTab (location : Location) : Tab :=
  step (.socketClose 0) (browser true true) (step .callConnect (browser true true) (emptyTab location))

theorem closedTab_released : (closedTab ⟨false, "esp"⟩).running = true ∧ (closedTab ⟨false, "esp"⟩).page.link.ws = none := by
  decide +kernel

theorem closedTab_reset : Reset (closedTab ⟨false, "esp"⟩).page := by
  have connecting : Careful .callConnect (browser true true) (emptyTab ⟨false, "esp"⟩).page := by
    refine ⟨?_, (fun _ _ h => nomatch h)⟩
    intro k _
    exact .inl rfl
  have run : Run ⟨false, "esp"⟩ Careful (closedTab ⟨false, "esp"⟩) :=
    .step _ _ _ (.step _ _ _ (.load _ _ (.start _)) connecting) ⟨(fun _ h => nomatch h), (fun _ _ h => nomatch h)⟩
  exact released_reset _ _ run closedTab_released.1 closedTab_released.2

/-- A message waits while the socket joins; the frame that confirms the join lists a friend, and
    sending the message fails. -/
def interruptedTab (location : Location) : Tab :=
  step (.socketMessage 0 (some friendsFrame)) (browser false true) (step (.sendMessage "hi") (browser true true)
    (step (.socketOpen 0) (browser true true) (step .callConnect (browser true true) (emptyTab location))))

theorem interruptedTab_shows : (interruptedTab ⟨false, "esp"⟩).running = true ∧
    (interruptedTab ⟨false, "esp"⟩).page.link.ws = none ∧
    (interruptedTab ⟨false, "esp"⟩).page.store.onlineUsers.any
      (fun user => user.1 != (interruptedTab ⟨false, "esp"⟩).page.store.userId) = true := by
  decide +kernel

/-- The page then shows the friend, but it is not connected. -/
theorem friends_shown : ¬∀ location t, Run location (fun _ _ _ => True) t → t.running = true →
    t.page.link.ws = none → Reset t.page := by
  intro always
  have run : Run ⟨false, "esp"⟩ (fun _ _ _ => True) (interruptedTab ⟨false, "esp"⟩) :=
    .step _ _ _ (.step _ _ _ (.step _ _ _ (.step _ _ _ (.load _ _ (.start _)) trivial) trivial) trivial) trivial
  obtain ⟨running, released, shown⟩ := interruptedTab_shows
  obtain ⟨user, hu, other⟩ := List.any_eq_true.mp shown
  exact bne_iff_ne.mp other ((always _ _ run running released).store.users user hu)

/-- The socket has closed, its event is still to come, and no other can be constructed. -/
def strandedTab (location : Location) : Tab :=
  step .online (browser true false) (step (.closed 0) (browser true true)
    (step (.socketMessage 0 (some friendsFrame)) (browser true true) (step (.socketOpen 0) (browser true true)
      (step (.timer ⟨1, .enter, 250⟩) (browser true true) (step (.enterChat "Bob") (browser true true)
        (emptyTab location))))))

/-- Then the page even counts as joined. -/
theorem joined_without_socket : ∃ t, Run ⟨false, "esp"⟩ (fun _ _ _ => True) t ∧ t.running = true ∧
    t.page.link.ws = none ∧ t.page.link.wsJoined = true := by
  have run : Run ⟨false, "esp"⟩ (fun _ _ _ => True) (strandedTab ⟨false, "esp"⟩) :=
    .step _ _ _ (.step _ _ _ (.step _ _ _ (.step _ _ _ (.step _ _ _ (.step _ _ _ (.load _ _ (.start _)) trivial)
      trivial) trivial) trivial) trivial) trivial
  exact ⟨_, run, by decide +kernel⟩

end EspWebChat.ReleasedRuns
