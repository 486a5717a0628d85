import EspWebChat.OutboxSteps

set_option autoImplicit false

/-!
# The messages the user composes, from the page to the socket

Each event is a step of the queue: a message is sent at once or waits, and a confirmed join
sends what waits until a send fails.
-/
namespace EspWebChat.OutboxRuns
open JsonTree JsValues ClientMessages Interruptible BrowserWorld ClientStore ClientSocket
open StoreSteps PageSteps OutgoingQueue OutboxSteps

/-- A message but for the time it was last stamped with. -/
def untimed (msg : Json) : Json := .obj (msg.members.filter (fun m => m.1 != "timestamp"))

theorem lookup_assign {key other : String} (apart : other ≠ key) (v : Json) (ms : Members) :
    (Json.obj (assign key v ms)).lastMember other = (Json.obj ms).lastMember other := by
  unfold Json.lastMember Json.members assign
  split_ifs
  · rw [← List.map_reverse]
    generalize ms.reverse = ms
    induction ms with
    | nil => rfl
    | cons m ms ih =>
      rw [List.map_cons]
      by_cases h : m.1 = key
      · have hm : (other == m.1) = false := beq_false_of_ne (h ▸ apart)
        have hk : (other == key) = false := beq_false_of_ne apart
        rw [if_pos h, List.lookup_cons, List.lookup_cons]
        simp only [hm, hk, ih]
      · rw [if_neg h, List.lookup_cons, List.lookup_cons, ih]
  · have hk : (other == key) = false := beq_false_of_ne apart
    simp only [List.reverse_append, List.reverse_singleton, List.singleton_append, List.lookup_cons, hk]

theorem filter_assign (key : String) (v : Json) (ms : Members) :
    (assign key v ms).filter (fun m => m.1 != key) = ms.filter (fun m => m.1 != key) := by
  unfold assign
  split_ifs with present
  · clear present
    induction ms with
    | nil => rfl
    | cons m ms ih =>
      rw [List.map_cons]
      by_cases h : m.1 = key
      · rw [if_pos h, List.filter_cons_of_neg (by simp), List.filter_cons_of_neg (by simp [h]), ih]
      · rw [if_neg h, List.filter_cons_of_pos (by simp [h]), List.filter_cons_of_pos (by simp [h]), ih]
  · simp

theorem untimed_stamped (msg now : Json) : untimed (stamped msg now) = untimed msg :=
  congrArg Json.obj (filter_assign "timestamp" now msg.members)

theorem isChat_stamped {msg : Json} (now : Json) (chat : isChat msg = true) : isChat (stamped msg now) = true := by
  have kind : (stamped msg now).lastMember "type" = msg.lastMember "type" :=
    lookup_assign (by decide) now msg.members
  unfold isChat
  rw [kind]
  exact chat

/-- The ledger of a page: what it has sent, and what is in its outbox. -/
structure Tells (l : Ledger Json) (w : Page) : Prop where
  sent : l.sent = (chats w.link).map untimed
  waiting : l.waiting = w.store.outbox.map untimed
  chat : ∀ m ∈ w.store.outbox, isChat m = true

/-- Nothing can overtake what waits. -/
def Gate (w : Page) : Prop := direct w.link = true → w.store.outbox = []

/-- From `w` to `u` the page has made one step of the queue. -/
def Settles (composed : List Json) (w u : Page) : Prop := ∀ l, Tells l w → Gate w →
  ∃ l', Step maxOutboxMessages l composed l' ∧ Tells l' u ∧ Gate u

abbrev Ran {α : Type} (m : Client Page α) (w : Page) (P : α → Page → Prop) : Prop :=
  Traces (fun _ _ => True) m w P

variable {l : Ledger Json} {w u v : Page} {composed : List Json}

theorem Tells.quiet (h : Tells l w) (quiet : Quiet w u) : Tells l u := by
  refine ⟨?_, ?_, ?_⟩
  · rw [quiet.link.chats]
    exact h.sent
  · rw [quiet.outbox]
    exact h.waiting
  · rw [quiet.outbox]
    exact h.chat

theorem Gate.quiet (h : Gate w) (quiet : Quiet w u) : Gate u := by
  intro d
  rw [quiet.outbox]
  exact h (quiet.link.direct d)

theorem Settles.of_quiet (quiet : Quiet w u) : Settles [] w u :=
  fun l tells gate => ⟨l, .idle, tells.quiet quiet, gate.quiet quiet⟩

theorem Settles.after (h : Settles composed v u) (quiet : Quiet w v) : Settles composed w u :=
  fun l tells gate => h l (tells.quiet quiet) (gate.quiet quiet)

theorem Settles.before (h : Settles composed w v) (quiet : Quiet v u) : Settles composed w u := by
  intro l tells gate
  obtain ⟨l', step, told, gated⟩ := h l tells gate
  exact ⟨l', step, told.quiet quiet, gated.quiet quiet⟩

theorem off_quiet (off : direct w.link = false) (quiet : Quiet w u) : direct u.link = false := by
  by_contra on
  have was : direct w.link = true := quiet.link.direct (by simpa using on)
  rw [off] at was
  cases was

theorem link_ran : Ran link w (fun l u => l = w.link ∧ u = w) := .reads ⟨rfl, rfl⟩

theorem setLink_ran (f : Link → Link) : Ran (setLink f) w (fun _ u => u.store = w.store ∧ u.link = f w.link) :=
  .writes trivial ⟨rfl, rfl⟩

theorem reconnectSocket_off {s : ℕ} (current : w.link.ws = some s) :
    Ran (reconnectSocket s) w (fun _ u => Quiet w u ∧ direct u.link = false) := by
  apply Traces.bind (P := fun _ u => Quiet w u ∧ direct u.link = false)
  · apply link_ran.bind
    intro l u _ h
    obtain ⟨rfl, rfl⟩ := h
    rw [if_neg (not_not.mpr current)]
    apply (setLink_ran detach).bind
    intro _ v _ hv
    have quiet : Quiet u v := by
      refine ⟨by rw [hv.1], ?_⟩
      rw [hv.2]
      exact detach_calm u.link
    have off : direct v.link = false := by
      rw [hv.2]
      exact direct_unjoined rfl
    apply (((onStore_quiet resetPresence_outbox).bind (fun _ =>
      .bind (.writes interruptRecovery_quiet) (fun _ => .pure true))).traces v).post
    intro _ x _ hx
    exact ⟨quiet.trans hx, off_quiet off hx⟩
  · intro released v _ hv
    have rest : Within Quiet (if !released then (pure () : Client Page Unit)
        else do setLink (closeSocket s); setLink scheduleReconnect) := by
      apply Within.ite (.pure ())
      exact (setLink_quiet (closeSocket_calm s)).bind (fun _ => setLink_quiet scheduleReconnect_calm)
    apply (rest.traces v).post
    intro _ x _ hx
    exact ⟨hv.1.trans hx, off_quiet hv.2 hx⟩

theorem sendRaw_chat {payload : Json} (chat : isChat payload = true) : Ran (sendRaw payload) w (fun done u =>
    u.store.outbox = w.store.outbox ∧
      if done then chats u.link = chats w.link ++ [payload] ∧ isOpen w.link w.link.ws = true ∧ direct u.link = direct w.link
      else chats u.link = chats w.link ∧ direct u.link = false) := by
  apply link_ran.bind
  intro l u _ h
  obtain ⟨rfl, rfl⟩ := h
  cases hws : u.link.ws with
  | none => exact .pure ⟨rfl, rfl, direct_none hws⟩
  | some s =>
    apply Traces.ite
    · intro shut
      have off : direct u.link = false := by
        unfold direct
        rw [hws]
        simp [isOpen, shut]
      exact .pure ⟨rfl, rfl, off⟩
    · intro opened
      apply reply_spec.bind
      intro r v _ hv
      subst hv
      apply Traces.ite
      · intro _
        apply (setLink_ran (recordSent s payload)).bind
        intro _ x _ hx
        have up : isOpen v.link v.link.ws = true := by
          rw [hws]
          simpa [isOpen] using opened
        refine .pure ⟨by rw [hx.1], ?_, hws ▸ up, ?_⟩
        · rw [hx.2]
          simp [chats, chat]
        · rw [hx.2]
          rfl
      · intro _
        apply (reconnectSocket_off hws).bind
        intro _ x _ hx
        exact .pure ⟨hx.1.outbox, hx.1.link.chats, hx.2⟩

/-- The loop sends what it can: the first `k` messages. -/
theorem sendPending_ran (pending : List Json) (chat : ∀ m ∈ pending, isChat m = true) :
    Ran (sendPending pending) w (fun remaining u => u.store.outbox = w.store.outbox ∧
      (∀ m ∈ remaining, isChat m = true) ∧ (direct u.link = true → remaining = []) ∧
      ∃ k, (chats u.link).map untimed = (chats w.link).map untimed ++ (pending.map untimed).take k ∧
        remaining.map untimed = (pending.map untimed).drop k) := by
  induction pending generalizing w with
  | nil => exact .pure ⟨rfl, chat, fun _ => rfl, 0, by simp, rfl⟩
  | cons message pending ih =>
    have first := chat message List.mem_cons_self
    have later : ∀ m ∈ pending, isChat m = true := fun m hm => chat m (List.mem_cons_of_mem _ hm)
    apply nowS_spec.bind
    intro now u _ hu
    subst hu
    apply (sendRaw_chat (isChat_stamped now first)).bind
    intro done v _ hv
    cases done with
    | true =>
      obtain ⟨outbox, sent, -, -⟩ := hv
      rw [if_pos rfl]
      apply (ih later).post
      intro remaining x _ hx
      obtain ⟨same, chats', empty, k, taken, left⟩ := hx
      refine ⟨same.trans outbox, chats', empty, k + 1, ?_, left⟩
      rw [taken, sent, List.map_append, List.map_singleton, untimed_stamped, List.append_assoc]
      rfl
    | false =>
      obtain ⟨outbox, sent, off⟩ := hv
      rw [if_neg (by decide)]
      refine .pure ⟨outbox, ?_, ?_, 0, ?_, ?_⟩
      · intro m hm
        cases hm with
        | head => exact isChat_stamped now first
        | tail _ hm => exact later m hm
      · intro on
        rw [off] at on
        cases on
      · rw [sent]
        simp
      · simp [untimed_stamped]

theorem saveOutbox_ran (s : Store) :
    Traces (fun _ _ => True) saveOutbox s (fun _ u => u.outbox = lastOf maxOutboxMessages s.outbox) := by
  apply (Traces.writes (P := fun _ u => u.outbox = lastOf maxOutboxMessages s.outbox) trivial rfl).bind
  intro _ u _ hu
  have rest : Within SameOutbox (do
      let outbox ← reads Store.outbox
      let _ ← writeStoredValue (fun storage => { storage with outbox := some (snapshot outbox) })
      pure ()) :=
    .bind .reads (fun _ => .bind (writeStoredValue_outbox _) (fun _ => .pure ()))
  apply (rest.traces u).post
  intro _ v _ hv
  exact hv.trans hu

theorem saveOutbox_page (w : Page) : Ran (onStore saveOutbox) w (fun _ u =>
    u.store.outbox = lastOf maxOutboxMessages w.store.outbox ∧ u.link = w.link) := by
  apply (Traces.zoom (fun _ _ => rfl) (fun _ => rfl) (saveOutbox_ran w.store) (fun _ _ _ => trivial)).post
  intro _ u _ hu
  obtain ⟨same, v, rfl⟩ := hu
  exact ⟨same, rfl⟩

theorem Tells.trim (told : Tells l v) (outbox : u.store.outbox = lastOf maxOutboxMessages v.store.outbox)
    (link : u.link = v.link) : Tells (l.trim maxOutboxMessages) u := by
  refine ⟨?_, ?_, ?_⟩
  · rw [trim_sent, link]
    exact told.sent
  · rw [trim_waiting, told.waiting, outbox, lastOf, List.map_drop, List.length_map]
  · intro m hm
    rw [outbox] at hm
    exact told.chat m (List.mem_of_mem_drop hm)

theorem flushOutbox_ran (told : Tells l w) : Ran flushOutbox w (fun _ u =>
    ∃ l', Step maxOutboxMessages l [] l' ∧ Tells l' u ∧ Gate u) := by
  apply (Traces.reads (P := fun a u => a = w ∧ u = w) ⟨rfl, rfl⟩).bind
  intro a u _ h
  obtain ⟨rfl, rfl⟩ := h
  apply Traces.ite
  · intro nothing
    refine .pure ⟨l, .idle, told, ?_⟩
    intro on
    unfold direct at on
    simp only [Bool.and_eq_true] at on
    simpa [on.1, on.2] using nothing
  · intro _
    apply (sendPending_ran u.store.outbox told.chat).bind
    intro remaining v _ hv
    obtain ⟨-, chat, empty, k, taken, left⟩ := hv
    apply (Traces.writes (P := fun _ x => x.store.outbox = remaining ∧ x.link = v.link) trivial ⟨rfl, rfl⟩).bind
    intro _ x _ hx
    apply (saveOutbox_page x).post
    intro _ y _ hy
    have dispatched : Tells (l.dispatch k) x := by
      refine ⟨?_, ?_, ?_⟩
      · rw [dispatch_sent, told.sent, told.waiting, hx.2]
        exact taken.symm
      · rw [hx.1, left, ← told.waiting]
        rfl
      · rw [hx.1]
        exact chat
    refine ⟨(l.dispatch k).trim maxOutboxMessages, .flush k, dispatched.trim hy.1 hy.2, ?_⟩
    intro on
    rw [hy.1, hx.1, empty (by rw [← hx.2, ← hy.2]; exact on)]
    rfl

theorem queueMessage_ran {message : Json} (told : Tells l w) (chat : isChat message = true) :
    Ran (onStore (queueMessage message)) w (fun _ u =>
      Tells ((l.append (untimed message)).trim maxOutboxMessages) u ∧ u.link = w.link) := by
  have queued : Traces (fun _ _ => True) (queueMessage message) w.store (fun _ s =>
      s.outbox = lastOf maxOutboxMessages (w.store.outbox ++ [message])) := by
    apply (Traces.writes (P := fun _ s => s.outbox = w.store.outbox ++ [message]) trivial rfl).bind
    intro _ s _ hs
    rw [← hs]
    exact saveOutbox_ran s
  apply (Traces.zoom (fun _ _ => rfl) (fun _ => rfl) queued (fun _ _ _ => trivial)).post
  intro _ u _ hu
  obtain ⟨cut, s, rfl⟩ := hu
  have appended : Tells (l.append (untimed message))
      { w with store := { w.store with outbox := w.store.outbox ++ [message] } } := by
    refine ⟨told.sent, ?_, ?_⟩
    · simp [Ledger.append, told.waiting]
    · intro m hm
      cases List.mem_append.mp hm with
      | inl old => exact told.chat m old
      | inr new => exact List.mem_singleton.mp new ▸ chat
  exact ⟨appended.trim cut rfl, rfl⟩

theorem sendOrQueue_ran {message : Json} (chat : isChat message = true) :
    Ran (sendOrQueue message) w (fun _ u => Settles [untimed message] w u) := by
  have queues : ∀ {v : Page}, Quiet w v → direct v.link = false →
      Ran (onStore (queueMessage message)) v (fun _ u => Settles [untimed message] w u) := by
    intro v quiet off env
    refine ⟨.single trivial, ?_⟩
    intro a ha l tells gate
    obtain ⟨told, same⟩ := (queueMessage_ran (tells.quiet quiet) chat env).2 a ha
    refine ⟨_, .enqueue _, told, ?_⟩
    intro on
    rw [same, off] at on
    cases on
  apply link_ran.bind
  intro l u _ h
  obtain ⟨rfl, rfl⟩ := h
  by_cases joined : u.link.wsJoined = true
  · rw [if_pos joined]
    apply (sendRaw_chat chat).bind
    intro done v _ hv
    cases done with
    | true =>
      obtain ⟨outbox, sent, up, same⟩ := hv
      rw [if_pos rfl]
      apply Traces.pure
      intro l tells gate
      have on : direct u.link = true := by simp [direct, joined, up]
      have nothing : u.store.outbox = [] := gate on
      have waiting : l.waiting = [] := by
        rw [tells.waiting, nothing]
        rfl
      refine ⟨_, .direct _ waiting, ⟨?_, ?_, ?_⟩, ?_⟩
      · rw [dispatch_sent, Ledger.append, waiting, sent, List.map_append, ← tells.sent]
        rfl
      · rw [outbox, nothing, Ledger.append, waiting]
        rfl
      · rw [outbox]
        exact tells.chat
      · intro _
        rw [outbox]
        exact nothing
    | false =>
      obtain ⟨outbox, sent, off⟩ := hv
      rw [if_neg (by decide)]
      apply queues ⟨outbox, sent, ?_⟩ off
      intro on
      rw [off] at on
      cases on
  · have unjoined : u.link.wsJoined = false := by simpa using joined
    rw [if_neg joined]
    apply (Traces.pure (P := fun done v => done = false ∧ v = u) ⟨rfl, rfl⟩).bind
    intro done v _ hv
    obtain ⟨rfl, rfl⟩ := hv
    exact queues ⟨rfl, rfl, id⟩ (direct_unjoined unjoined)

theorem confirmSocketJoin_ran : Ran confirmSocketJoin w (fun _ u => Settles [] w u) := by
  apply link_ran.bind
  intro l u _ h
  obtain ⟨rfl, rfl⟩ := h
  cases hws : u.link.ws with
  | none => exact .pure (.of_quiet ⟨rfl, rfl, id⟩)
  | some s =>
    apply Traces.ite
    · intro _
      exact .pure (.of_quiet ⟨rfl, rfl, id⟩)
    · intro _
      apply (setLink_ran (joinConfirmed s)).bind
      intro _ v _ hv env
      refine ⟨.single trivial, ?_⟩
      intro a ha l tells _
      have told : Tells l v := by
        refine ⟨?_, ?_, ?_⟩
        · rw [hv.2]
          exact tells.sent
        · rw [hv.1]
          exact tells.waiting
        · rw [hv.1]
          exact tells.chat
      exact (flushOutbox_ran told env).2 a ha

theorem handlePresence_ran (msg : Json) : Ran (handlePresence msg) w (fun _ u => Settles [] w u) := by
  apply (Traces.reads (P := fun _ u => u = w) rfl).bind
  intro s u _ h
  subst h
  apply Traces.ite
  · intro _
    exact .pure (.of_quiet ⟨rfl, rfl, id⟩)
  · intro _
    apply confirmSocketJoin_ran.bind
    intro _ v _ hv
    apply ((onStore_quiet (updateOnlineUsers_outbox _)).traces v).post
    intro _ x _ hx
    exact hv.before hx

theorem quiet_settles {m : Client Page Unit} (h : Within Quiet m) : Ran m w (fun _ u => Settles [] w u) :=
  (h.traces w).post (fun _ _ _ quiet => .of_quiet quiet)

theorem handleIncoming_ran (frame : Option Json) : Ran (handleIncoming frame) w (fun _ u => Settles [] w u) := by
  cases frame with
  | none => exact .pure (.of_quiet ⟨rfl, rfl, id⟩)
  | some msg =>
    apply Traces.ite (fun _ => .pure (.of_quiet ⟨rfl, rfl, id⟩))
    intro _
    apply ((setLink_quiet (noteProgress_calm msg)).traces w).bind
    intro _ v _ noted
    suffices rest : Ran _ v (fun _ u => Settles [] v u) from
      rest.post (fun _ _ _ settles => settles.after noted)
    have pong : Within Quiet (do
        let s ← store
        let now ← nowS
        let _ ← sendRaw (.obj [("type", str "pong"), ("from", str s.userId), ("timestamp", now)])
        pure ()) := by
      apply Within.bind .reads
      intro s
      apply nowS_within.bind
      intro now
      exact (sendRaw_quiet rfl).bind (fun _ => .pure ())
    apply Traces.ite (fun _ => quiet_settles pong)
    intro _
    apply Traces.ite (fun _ => quiet_settles (handleHistoryInfo_quiet msg))
    intro _
    apply Traces.ite (fun _ => quiet_settles (handleHistoryRequest_quiet msg))
    intro _
    apply Traces.ite (fun _ => quiet_settles (onStore_quiet (handleHistoryResponse_outbox msg)))
    intro _
    apply Traces.ite (fun _ => handlePresence_ran msg)
    intro _
    apply Traces.ite (fun _ => quiet_settles (handleError_quiet msg))
    intro _
    apply Traces.ite (fun _ => quiet_settles (onStore_quiet (handleChat_outbox msg)))
    intro _
    exact .pure (.of_quiet ⟨rfl, rfl, id⟩)

theorem onmessage_ran (s : ℕ) (frame : Option Json) : Ran (onmessage s frame) w (fun _ u => Settles [] w u) := by
  apply link_ran.bind
  intro l u _ h
  obtain ⟨rfl, rfl⟩ := h
  apply Traces.ite
  · intro _
    exact .pure (.of_quiet ⟨rfl, rfl, id⟩)
  · intro _
    apply ((setLink_quiet (noteTraffic_calm s)).traces u).bind
    intro _ v _ noted
    exact (handleIncoming_ran frame).post (fun _ _ _ settles => settles.after noted)

/-- A socket that opens is not joined, even when the one before it was. -/
theorem socketOpened_ran (s : ℕ) : Ran (socketOpened s) w (fun _ u => Settles [] w u) := by
  apply link_ran.bind
  intro l u _ h
  obtain ⟨rfl, rfl⟩ := h
  apply Traces.ite
  · intro connecting
    apply (setLink_ran (setReadyState .opened s)).bind
    intro _ v _ hv
    by_cases current : u.link.ws = some s
    · apply (Traces.reads (P := fun a x => a = v ∧ x = v) ⟨rfl, rfl⟩).bind
      intro a x _ h
      obtain ⟨rfl, rfl⟩ := h
      have same : x.link.ws = some s := by
        rw [hv.2]
        exact current
      rw [if_neg (not_not.mpr same)]
      apply (setLink_ran (openedNow s)).bind
      intro _ y _ hy
      have quiet : Quiet u y := by
        refine ⟨by rw [hy.1, hv.1], ?_⟩
        rw [hy.2, hv.2]
        have sent : (openedNow s (setReadyState .opened s u.link)).sent = u.link.sent := by
          simp [setReadyState]
        exact .off sent (direct_unjoined LinkStates.openedNow_fields.2.2)
      have rest : Within Quiet (do
          let done ← sendControl "join" [("since_id", nat x.store.lastSeenId)]
          if done then setLink (armJoinTimer s) else setLink (closeSocket s)) := by
        apply (sendControl_quiet (by decide) rfl).bind
        intro done
        exact .ite (setLink_aside (fun _ => ⟨rfl, rfl, rfl, rfl⟩)) (setLink_quiet (closeSocket_calm s))
      apply (rest.traces y).post
      intro _ z _ hz
      exact .of_quiet (quiet.trans hz)
    · have quiet : Quiet u v := by
        refine ⟨by rw [hv.1], ?_⟩
        rw [hv.2]
        exact otherSocket_calm current _
      apply ((onopen_quiet s).traces v).post
      intro _ x _ hx
      exact .of_quiet (quiet.trans hx)
  · intro _
    exact quiet_settles (.ite (onopen_quiet s) (.pure ()))

end EspWebChat.OutboxRuns
