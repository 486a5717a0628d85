import EspWebChat.OutboxRuns
import EspWebChat.TimerOwners

set_option autoImplicit false

/-!
# A page without a socket

Giving up a socket resets what belongs to it, and most of what runs afterwards leaves it so.
-/
namespace EspWebChat.ReleasedPages
open Relation JsonTree JsValues ClientMessages Interruptible BrowserWorld ClientStore ClientSocket
open StoreSteps LinkStates PageSteps OutboxSteps OutboxRuns TimerOwners

variable {w u : Page} {s : ℕ} {α : Type}

/-- Nobody but this user is shown, and no history is being recovered. -/
structure Alone (s : Store) : Prop where
  recovery : s.activeRecovery = none
  users : ∀ user ∈ s.onlineUsers, user.1 = s.userId

structure Reset (w : Page) : Prop where
  link : Cleared w.link
  store : Alone w.store

/-- Between two events: a page without a socket is reset. -/
structure Settled (w : Page) : Prop where
  owned : Owned w.link
  reset : w.link.ws = none → Reset w

def SamePeople (a b : Store) : Prop :=
  b.userId = a.userId ∧ b.onlineUsers = a.onlineUsers ∧ b.activeRecovery = a.activeRecovery

instance : Std.Refl SamePeople := ⟨fun _ => ⟨rfl, rfl, rfl⟩⟩
instance : IsTrans Store SamePeople :=
  ⟨fun _ _ _ h k => ⟨k.1.trans h.1, k.2.1.trans h.2.1, k.2.2.trans h.2.2⟩⟩

theorem SamePeople.alone {a b : Store} (h : SamePeople a b) (alone : Alone a) : Alone b := by
  obtain ⟨user, users, recovery⟩ := h
  exact ⟨recovery.trans alone.recovery, by rw [users, user]; exact alone.users⟩

theorem writeStoredValue_people (f : LocalStorage → LocalStorage) : Within SamePeople (writeStoredValue f) := by
  apply reply_within.bind
  intro r
  exact .ite (.bind (.writes (fun _ => ⟨rfl, rfl, rfl⟩)) (fun _ => .pure true)) (.pure false)

theorem saveConversations_people : Within SamePeople saveConversations :=
  .bind .reads (fun _ => .bind (writeStoredValue_people _) (fun _ => .pure ()))

theorem saveMessages_people : Within SamePeople saveMessages :=
  .bind (.writes (fun _ => ⟨rfl, rfl, rfl⟩)) (fun _ => .bind .reads (fun _ => writeStoredValue_people _))

theorem saveOutbox_people : Within SamePeople saveOutbox :=
  .bind (.writes (fun _ => ⟨rfl, rfl, rfl⟩)) (fun _ => .bind .reads (fun _ =>
    .bind (writeStoredValue_people _) (fun _ => .pure ())))

theorem queueMessage_people (message : Json) : Within SamePeople (queueMessage message) :=
  .bind (.writes (fun _ => ⟨rfl, rfl, rfl⟩)) (fun _ => saveOutbox_people)

theorem addOnlineConversations_people (s : Store) : SamePeople s (addOnlineConversations s) := by
  unfold addOnlineConversations
  generalize s.onlineUsers.filter (fun user => user.1 != s.userId) = users
  induction users generalizing s with
  | nil => exact ⟨rfl, rfl, rfl⟩
  | cons user users ih =>
    rw [List.foldl_cons]
    exact ih { s with conversations := assign user.1 (privateEntry s user) s.conversations }

theorem renderConversationList_people : Within SamePeople renderConversationList :=
  .bind (.writes addOnlineConversations_people) (fun _ => saveConversations_people)

theorem openConversation_people (conversationId : String) : Within SamePeople (openConversation conversationId) :=
  .bind (.writes (fun _ => ⟨rfl, rfl, rfl⟩)) (fun _ => renderLast_within renderConversationList_people)

theorem updateConversations_people (ms : List Json) : Within SamePeople (updateConversations ms) := by
  induction ms with
  | nil => exact .pure ()
  | cons msg ms ih =>
    have first : Within SamePeople (updateConversationFromMessage msg) :=
      .ite (.pure ()) (reply_within.bind (fun _ => .writes (fun _ => ⟨rfl, rfl, rfl⟩)))
    exact first.bind (fun _ => ih)

/-- Whoever was alone stays alone. -/
def Lonely (a b : Store) : Prop := Alone a → Alone b

instance : Std.Refl Lonely := ⟨fun _ => id⟩
instance : IsTrans Store Lonely := ⟨fun _ _ _ h k => k ∘ h⟩

theorem lonely_of_people {m : Client Store α} (h : Within SamePeople m) : Within Lonely m :=
  ⟨fun s env => (h.run s env).alone⟩

theorem finishHistoryRecovery_lonely : Within Lonely finishHistoryRecovery := by
  apply Within.bind .reads
  intro s
  cases s.activeRecovery with
  | none => exact .pure ()
  | some recovery =>
    refine Within.bind (.writes (fun _ alone => ⟨rfl, alone.users⟩)) ?_
    intro _
    exact .ite (lonely_of_people (renderLast_within renderConversationList_people)) (.pure ())

def listsOthers (userId : String) (data : List Json) : Bool :=
  data.any (fun user => validUserId (user.lastMember "id") && !isText userId (user.lastMember "id"))

theorem mem_setName {id : String} {name : Json} {users : Members} {user : String × Json}
    (h : user ∈ setName id name users) : user.1 = id ∨ user ∈ users := by
  induction users with
  | nil => exact .inl (by rw [List.mem_singleton.mp h])
  | cons x users ih =>
    unfold setName at h
    split_ifs at h with same
    · cases List.mem_cons.mp h with
      | inl first => exact .inl (by rw [first])
      | inr later => exact .inr (List.mem_cons_of_mem _ later)
    · cases List.mem_cons.mp h with
      | inl first => exact .inr (first ▸ List.mem_cons_self)
      | inr later => exact (ih later).imp_right (List.mem_cons_of_mem _)

theorem mem_presence {s : Store} {data : List Json} {user : String × Json} (h : user ∈ presence s data) :
    user.1 = s.userId ∨ ∃ listed ∈ data, validUserId (listed.lastMember "id") = true ∧
      user.1 = orEmpty (listed.lastMember "id") := by
  have fold : ∀ (data : List Json) (users : Members), user ∈ data.foldl (fun users user =>
      if validUserId (user.lastMember "id") then
        setName (orEmpty (user.lastMember "id")) (presenceName user (orEmpty (user.lastMember "id"))) users
      else users) users → user ∈ users ∨ ∃ listed ∈ data, validUserId (listed.lastMember "id") = true ∧
        user.1 = orEmpty (listed.lastMember "id") := by
    intro data
    induction data with
    | nil => exact fun users h => .inl h
    | cons listed data ih =>
      intro users h
      rw [List.foldl_cons] at h
      rcases ih _ h with before | ⟨later, hlater, named⟩
      · split_ifs at before with valid
        · cases mem_setName before with
          | inl self => exact .inr ⟨listed, List.mem_cons_self, valid, self⟩
          | inr old => exact .inl old
        · exact .inl before
      · exact .inr ⟨later, List.mem_cons_of_mem _ hlater, named⟩
  unfold presence at h
  dsimp only at h
  split_ifs at h
  · exact .inr ((fold data [] h).resolve_left List.not_mem_nil)
  · cases mem_setName h with
    | inl self => exact .inl self
    | inr other => exact .inr ((fold data [] other).resolve_left List.not_mem_nil)

theorem presence_alone {s : Store} {data : List Json} (none : listsOthers s.userId data = false) :
    ∀ user ∈ presence s data, user.1 = s.userId := by
  intro user hu
  cases mem_presence hu with
  | inl self => exact self
  | inr found =>
    obtain ⟨listed, hlisted, valid, named⟩ := found
    have known := List.any_eq_false.mp none listed hlisted
    rw [valid, Bool.true_and, Bool.not_eq_true, Bool.not_eq_false', isText, beq_iff_eq] at known
    rw [named, orEmpty, known]
    rfl

structure Gentle (w u : Page) : Prop where
  link : Steady w.link u.link
  store : Lonely w.store u.store

instance : Std.Refl Gentle := ⟨fun w => ⟨.refl w.link, id⟩⟩
instance : IsTrans Page Gentle := ⟨fun _ _ _ h k => ⟨h.link.trans k.link, k.store ∘ h.store⟩⟩

theorem Gentle.settled (h : Gentle w u) (settled : Settled w) : Settled u := by
  refine ⟨h.link.owned settled.owned, ?_⟩
  intro none
  have reset := settled.reset (h.link.ws none)
  exact ⟨h.link.cleared none reset.link, h.store reset.store⟩

theorem onStore_gentle {m : Client Store α} (h : Within Lonely m) : Within Gentle (onStore m) :=
  h.zoom (fun w _ lonely => ⟨.refl w.link, lonely⟩)

theorem onStore_people {m : Client Store α} (h : Within SamePeople m) : Within Gentle (onStore m) :=
  onStore_gentle (lonely_of_people h)

theorem setLink_gentle {f : Link → Link} (h : ∀ l, Steady l (f l)) : Within Gentle (setLink f) :=
  .writes (fun w => ⟨h w.link, id⟩)

theorem setStore_gentle {f : Store → Store} (h : ∀ s, Lonely s (f s)) : Within Gentle (setStore f) :=
  .writes (fun w => ⟨.refl w.link, h w.store⟩)

/-- A page that is settled is settled when `m` returns. -/
structure Keeps (m : Client Page α) : Prop where
  run : ∀ w, Settled w → Ran m w (fun _ u => Settled u)

section keeps
variable {β : Type} {m m' : Client Page α} {f : α → Client Page β}

theorem keeps_of_gentle (h : Within Gentle m) : Keeps m := by
  constructor
  intro w settled
  apply (h.traces w).post
  intro _ u _ gentle
  exact gentle.settled settled

theorem Keeps.bind (h : Keeps m) (k : ∀ a, Keeps (f a)) : Keeps (m >>= f) :=
  ⟨fun w settled => (h.run w settled).bind (fun a u _ hu => (k a).run u hu)⟩

theorem Keeps.ite {c : Prop} [Decidable c] (pos : Keeps m) (neg : Keeps m') : Keeps (if c then m else m') := by
  split_ifs
  · exact pos
  · exact neg

theorem keeps_pure (a : α) : Keeps (pure a : Client Page α) := keeps_of_gentle (.pure a)

theorem keeps_reads {f : Page → α} : Keeps (reads f) := keeps_of_gentle .reads

theorem keeps_setStore {f : Store → Store} (h : ∀ s, SamePeople s (f s)) : Keeps (setStore f) :=
  keeps_of_gentle (setStore_gentle (fun s => (h s).alone))

theorem keeps_link {f : Link → Link} (h : ∀ l, Steady l (f l)) : Keeps (setLink f) := keeps_of_gentle (setLink_gentle h)

end keeps

theorem onStore_current {m : Client Store α} (current : w.link.ws = some s) (settled : Settled w) :
    Ran (onStore m) w (fun _ u => Settled u) := by
  have any : Traces (fun _ _ => True) m w.store (fun _ _ => True) := fun _ => ⟨.single trivial, fun _ _ => trivial⟩
  apply (Traces.zoom (fun _ _ => rfl) (fun _ => rfl) any (fun _ _ _ => trivial)).post
  intro _ u _ hu
  obtain ⟨-, v, rfl⟩ := hu
  exact ⟨settled.owned, fun none => absurd (current.symm.trans none) (by simp)⟩

structure Freed (w : Page) : Prop where
  owned : Owned w.link
  gone : w.link.ws = none
  reset : Reset w

theorem Freed.settled (h : Freed w) : Settled w := ⟨h.owned, fun _ => h.reset⟩

theorem Freed.gentle (h : Freed w) (gentle : Gentle w u) (none : u.link.ws = none) : Freed u :=
  ⟨gentle.link.owned h.owned, none, gentle.link.cleared none h.reset.link, gentle.store h.reset.store⟩

theorem releaseSocket_ran (settled : Settled w) : Ran (releaseSocket s) w (fun done u =>
    (w.link.ws ≠ some s ∧ done = false ∧ u = w) ∨ (done = true ∧ Freed u)) := by
  apply link_ran.bind
  intro l w' _ h
  obtain ⟨rfl, rfl⟩ := h
  apply Traces.ite
  · intro stale
    exact .pure (.inl ⟨stale, rfl, rfl⟩)
  · intro _
    apply (setLink_ran detach).bind
    intro _ v _ hv
    have shown : Traces (fun _ _ => True) resetPresence v.store (fun _ x =>
        x.activeRecovery = v.store.activeRecovery ∧ ∀ user ∈ x.onlineUsers, user.1 = x.userId) := by
      apply (Traces.writes (P := fun _ x => x = { v.store with
        onlineUsers := [(v.store.userId, str (getNickname v.store))] }) trivial rfl).bind
      intro _ x _ hx
      subst hx
      apply (renderConversationList_people.traces _).post
      intro _ y _ hy
      obtain ⟨user, users, recovery⟩ := hy
      refine ⟨recovery, ?_⟩
      rw [users, user]
      intro z hz
      rw [List.mem_singleton.mp hz]
    apply (Traces.zoom (fun _ _ => rfl) (fun _ => rfl) shown (fun _ _ _ => trivial)).bind
    intro _ x _ hx
    obtain ⟨⟨-, alone⟩, y, rfl⟩ := hx
    have detached : Owned v.link ∧ Cleared v.link ∧ v.link.ws = none := by
      rw [hv.2]
      exact ⟨detach_owned settled.owned, detach_cleared settled.owned, rfl⟩
    obtain ⟨owned, cleared, none⟩ := detached
    apply (Traces.writes (P := fun _ z => Freed z) trivial ?_).bind
    · intro _ z _ hz
      exact .pure (.inr ⟨rfl, hz⟩)
    · unfold interruptRecovery
      dsimp only at alone ⊢
      cases hr : y.activeRecovery with
      | none => exact ⟨owned, none, cleared, hr, alone⟩
      | some recovery =>
        have kept := clearTimeout_steady (some recovery.timer) v.link
        exact ⟨kept.owned owned, none, kept.cleared none cleared, rfl, alone⟩

theorem releaseSocket_keeps (s : ℕ) : Keeps (releaseSocket s) := by
  constructor
  intro w settled
  apply (releaseSocket_ran settled).post
  intro _ u _ hu
  cases hu with
  | inl stale => exact stale.2.2 ▸ settled
  | inr freed => exact freed.2.settled

theorem scheduleReconnect_ws (l : Link) : (scheduleReconnect l).ws = l.ws := by
  unfold scheduleReconnect
  split_ifs <;> rfl

theorem reconnectSocket_ran (settled : Settled w) (current : w.link.ws = some s) :
    Ran (reconnectSocket s) w (fun _ u => Freed u) := by
  apply (releaseSocket_ran settled).bind
  intro released v _ hv
  cases hv with
  | inl stale => exact absurd current stale.1
  | inr freed =>
    rw [freed.1, if_neg (by decide)]
    apply (setLink_ran (closeSocket s)).bind
    intro _ x _ hx
    have closed : Freed x := by
      apply freed.2.gentle
      · refine ⟨?_, ?_⟩
        · rw [hx.2]
          exact closeSocket_steady s v.link
        · rw [hx.1]
          exact id
      · rw [hx.2]
        exact freed.2.gone
    apply (setLink_ran scheduleReconnect).post
    intro _ y _ hy
    apply closed.gentle
    · refine ⟨?_, ?_⟩
      · rw [hy.2]
        exact scheduleReconnect_steady x.link
      · rw [hy.1]
        exact id
    · rw [hy.2, scheduleReconnect_ws]
      exact closed.gone

theorem reconnectSocket_keeps (s : ℕ) : Keeps (reconnectSocket s) :=
  (releaseSocket_keeps s).bind (fun _ => .ite (keeps_pure ())
    ((keeps_link (closeSocket_steady s)).bind (fun _ => keeps_link scheduleReconnect_steady)))

theorem gentle_of_unmoved (h : Unmoved w u) : Gentle w u := by
  obtain ⟨store, sent, link⟩ := h
  refine ⟨?_, ?_⟩
  · rw [link]
    exact steady_same rfl rfl id id
  · rw [store]
    exact id

theorem sendRaw_ran (payload : Json) (settled : Settled w) :
    Ran (sendRaw payload) w (fun done u => Unmoved w u ∨ (done = false ∧ Freed u)) := by
  apply link_ran.bind
  intro l v _ h
  obtain ⟨rfl, rfl⟩ := h
  have unmoved : Unmoved v v := ⟨rfl, v.link.sent, rfl⟩
  cases hws : v.link.ws with
  | none => exact .pure (.inl unmoved)
  | some s =>
    apply Traces.ite
    · intro _
      exact .pure (.inl unmoved)
    · intro _
      apply reply_spec.bind
      intro r x _ hx
      subst hx
      apply Traces.ite
      · intro _
        apply (setLink_ran (recordSent s payload)).bind
        intro _ y _ hy
        exact .pure (.inl ⟨hy.1, _, hy.2⟩)
      · intro _
        apply (reconnectSocket_ran settled hws).bind
        intro _ y _ hy
        exact .pure (.inr ⟨rfl, hy⟩)

theorem sendRaw_keeps (payload : Json) : Keeps (sendRaw payload) := by
  constructor
  intro w settled
  apply (sendRaw_ran payload settled).post
  intro _ u _ hu
  cases hu with
  | inl unmoved => exact (gentle_of_unmoved unmoved).settled settled
  | inr freed => exact freed.2.settled

theorem sendControl_ran (type : String) (extra : Members) (settled : Settled w) :
    Ran (sendControl type extra) w (fun done u => Unmoved w u ∨ (done = false ∧ Freed u)) := by
  apply (Traces.reads (P := fun _ u => u = w) rfl).bind
  intro st u _ hu
  subst hu
  apply nowS_spec.bind
  intro now v _ hv
  subst hv
  exact sendRaw_ran _ settled

theorem keeps_reply : Keeps reply := keeps_of_gentle reply_within

theorem keeps_nowS : Keeps nowS := keeps_of_gentle nowS_within

theorem sendControl_keeps (type : String) (extra : Members) : Keeps (sendControl type extra) :=
  keeps_reads.bind (fun _ => keeps_nowS.bind (fun _ => sendRaw_keeps _))

theorem sendResponses_keeps (requestId : String) (requester : Json) (stored : List Json) :
    Keeps (sendResponses requestId requester stored) := by
  induction stored with
  | nil => exact keeps_pure ()
  | cons message stored ih => exact (sendControl_keeps _ _).bind (fun _ => ih)

theorem sendOrQueue_keeps (message : Json) : Keeps (sendOrQueue message) := by
  apply Keeps.bind keeps_reads
  intro l
  apply Keeps.bind (Keeps.ite (sendRaw_keeps message) (keeps_pure false))
  intro done
  exact .ite (keeps_pure ()) (keeps_of_gentle (onStore_people (queueMessage_people message)))

theorem resetSinceIdAndReconnect_keeps : Keeps resetSinceIdAndReconnect := by
  refine Keeps.bind (keeps_setStore (fun _ => ⟨rfl, rfl, rfl⟩)) ?_
  intro _
  apply (keeps_of_gentle (onStore_people (writeStoredValue_people _))).bind
  intro _
  apply (keeps_link unblock_steady).bind
  intro _
  apply Keeps.bind keeps_reads
  intro l
  cases l.ws with
  | none => exact keeps_link scheduleReconnect_steady
  | some s => exact reconnectSocket_keeps s

theorem handleHistoryInfo_keeps (msg : Json) : Keeps (handleHistoryInfo msg) := by
  unfold handleHistoryInfo
  cases safeNat (numberOfMember (msg.lastMember "restore_before_id")) with
  | none => exact keeps_pure ()
  | some restoreBeforeId =>
    apply (keeps_link (adoptHeartbeat_steady msg)).bind
    intro _
    exact .ite (keeps_pure ()) (keeps_setStore (fun _ => ⟨rfl, rfl, rfl⟩))

theorem handleHistoryRequest_keeps (msg : Json) : Keeps (handleHistoryRequest msg) := by
  apply Keeps.bind keeps_reads
  intro st
  cases validRequestId (msg.lastMember "requestId") with
  | none => exact keeps_pure ()
  | some requestId =>
    cases msg.lastMember "from" with
    | none => exact keeps_pure ()
    | some requester =>
      cases safeNat (numberOfMember (msg.lastMember "restore_before_id")) with
      | none => exact keeps_pure ()
      | some restoreBeforeId => exact .ite (keeps_pure ()) (sendResponses_keeps _ _ _)

theorem handleError_keeps (msg : Json) : Keeps (handleError msg) :=
  .ite (keeps_pure ()) (.ite resetSinceIdAndReconnect_keeps (.ite (keeps_link sessionReplaced_steady) (keeps_pure ())))

theorem handleIncoming_settled (msg : Json) (current : w.link.ws = some s) (settled : Settled w)
    (other : isText "onlineUsers" (msg.lastMember "type") = false) :
    Ran (handleIncoming (some msg)) w (fun _ u => Settled u) := by
  apply Traces.ite (fun _ => .pure settled)
  intro _
  apply (setLink_ran (noteProgress msg)).bind
  intro _ v _ hv
  have gentle : Gentle w v := by
    refine ⟨?_, ?_⟩
    · rw [hv.2]
      exact noteProgress_steady msg w.link
    · rw [hv.1]
      exact id
  have kept := gentle.settled settled
  have here : v.link.ws = some s := by
    rw [hv.2, noteProgress_ws]
    exact current
  apply Traces.ite
  · intro _
    have pong : Keeps (do
        let st ← store
        let now ← nowS
        let _ ← sendRaw (.obj [("type", str "pong"), ("from", str st.userId), ("timestamp", now)])
        pure ()) :=
      keeps_reads.bind (fun _ => keeps_nowS.bind (fun _ => (sendRaw_keeps _).bind (fun _ => keeps_pure ())))
    exact pong.run v kept
  · intro _
    apply Traces.ite (fun _ => (handleHistoryInfo_keeps msg).run v kept)
    intro _
    apply Traces.ite (fun _ => (handleHistoryRequest_keeps msg).run v kept)
    intro _
    apply Traces.ite (fun _ => onStore_current here kept)
    intro _
    apply Traces.ite
    · intro presence
      rw [other] at presence
      cases presence
    · intro _
      apply Traces.ite (fun _ => (handleError_keeps msg).run v kept)
      intro _
      exact .ite (fun _ => onStore_current here kept) (fun _ => .pure kept)

theorem connectTimedOut_keeps (s : ℕ) : Keeps (connectTimedOut s) := by
  apply Keeps.bind keeps_reads
  intro l
  apply Keeps.ite
  · apply (releaseSocket_keeps s).bind
    intro _
    exact (keeps_link (closeSocket_steady s)).bind (fun _ => keeps_link tryNextUrl_steady)
  · exact keeps_pure ()

theorem joinTimedOut_keeps (s : ℕ) : Keeps (joinTimedOut s) :=
  keeps_reads.bind (fun _ => .ite (reconnectSocket_keeps s) (keeps_pure ()))

theorem receiveFired_settled {t : Timer} (settled : Settled w) (pending : t ∈ w.link.timers)
    (kind : t.callback = .receiveTimeout s) :
    Ran (do setLink (clearTimeout (some t)); receiveTimedOut s) w (fun _ u => Settled u) := by
  apply (setLink_ran (clearTimeout (some t))).bind
  intro _ v _ hv
  apply (setLink_ran forgetReceiveTimer).bind
  intro _ x _ hx
  have gentle : Gentle w x := by
    refine ⟨?_, ?_⟩
    · rw [hx.2, hv.2]
      exact receiveFired_steady settled.owned pending kind
    · rw [hx.1, hv.1]
      exact id
  have rest : Keeps (do
      let l ← link
      if l.ws = some s ∧ l.wsJoined = true then reconnectSocket s else pure ()) :=
    keeps_reads.bind (fun _ => .ite (reconnectSocket_keeps s) (keeps_pure ()))
  exact rest.run x (gentle.settled settled)

theorem onopen_settled (settled : Settled w) : Ran (onopen s) w (fun _ u => Settled u) := by
  apply (Traces.reads (P := fun a u => a = w ∧ u = w) ⟨rfl, rfl⟩).bind
  intro a w' _ h
  obtain ⟨rfl, rfl⟩ := h
  apply Traces.ite (fun _ => .pure settled)
  intro hc
  have current : w'.link.ws = some s := not_not.mp hc
  apply (setLink_ran (openedNow s)).bind
  intro _ v _ hv
  have opened : Settled v := by
    refine Gentle.settled ⟨?_, ?_⟩ settled
    · rw [hv.2]
      exact openedNow_steady s w'.link
    · rw [hv.1]
      exact id
  have here : v.link.ws = some s := by
    rw [hv.2]
    exact current
  apply (sendControl_ran _ _ opened).bind
  intro done x _ hx
  apply Traces.ite
  · intro sent
    cases hx with
    | inr freed =>
      rw [freed.1] at sent
      cases sent
    | inl unmoved =>
      have still : x.link.ws = some s := by
        obtain ⟨-, sent, link⟩ := unmoved
        rw [link]
        exact here
      apply (setLink_ran (armJoinTimer s)).post
      intro _ y _ hy
      refine Gentle.settled ⟨?_, ?_⟩ ((gentle_of_unmoved unmoved).settled opened)
      · rw [hy.2]
        exact armJoinTimer_steady still s
      · rw [hy.1]
        exact id
  · intro _
    have after : Settled x := by
      cases hx with
      | inl unmoved => exact (gentle_of_unmoved unmoved).settled opened
      | inr freed => exact freed.2.settled
    exact (keeps_link (closeSocket_steady s)).run x after

theorem onopen_keeps (s : ℕ) : Keeps (onopen s) := ⟨fun _ settled => onopen_settled settled⟩

theorem setReadyState_steady (state : ReadyState) (s : ℕ) (l : Link) : Steady l (setReadyState state s l) :=
  setSocket_steady s _ l

theorem socketOpened_keeps (s : ℕ) : Keeps (socketOpened s) := by
  apply Keeps.bind keeps_reads
  intro l
  apply Keeps.ite
  · exact (keeps_link (setReadyState_steady .opened s)).bind (fun _ => onopen_keeps s)
  · exact .ite (onopen_keeps s) (keeps_pure ())

theorem socketClosed_keeps (s : ℕ) : Keeps (socketClosed s) := by
  apply (keeps_link (fun l => setSocket_steady s _ l)).bind
  intro _
  apply Keeps.bind keeps_reads
  intro l
  exact .ite (keeps_pure ()) ((releaseSocket_keeps s).bind (fun _ => keeps_link (afterClose_steady s)))

theorem sendMessage_keeps (input : String) : Keeps (sendMessage input) := by
  apply Keeps.ite (keeps_pure ())
  apply Keeps.bind keeps_reads
  intro st
  exact keeps_nowS.bind (fun _ => sendOrQueue_keeps _)

theorem createGroup_keeps (selectedIds : List String) : Keeps (createGroup selectedIds) := by
  apply Keeps.ite (keeps_pure ())
  apply Keeps.bind keeps_reads
  intro st
  apply keeps_reply.bind
  intro r
  apply keeps_nowS.bind
  intro now
  refine Keeps.bind (keeps_setStore (fun _ => ⟨rfl, rfl, rfl⟩)) ?_
  intro _
  apply (keeps_of_gentle (onStore_people saveConversations_people)).bind
  intro _
  apply (keeps_of_gentle (onStore_people renderConversationList_people)).bind
  intro _
  exact sendOrQueue_keeps _

theorem enterChat_keeps (input : String) : Keeps (enterChat input) := by
  apply Keeps.ite (keeps_pure ())
  refine Keeps.bind (keeps_link (fun _ => steady_same rfl rfl id id)) ?_
  intro _
  refine Keeps.bind (keeps_setStore (fun _ => ⟨rfl, rfl, rfl⟩)) ?_
  intro _
  apply (keeps_of_gentle (onStore_people (writeStoredValue_people _))).bind
  intro _
  have shown : ∀ st : Store, Lonely st
      { st with onlineUsers := setName st.userId (str (enteredName input)) st.onlineUsers } := by
    intro st alone
    refine ⟨alone.recovery, ?_⟩
    intro user hu
    cases mem_setName hu with
    | inl own => exact own
    | inr old => exact alone.users user old
  apply (keeps_of_gentle (setStore_gentle shown)).bind
  intro _
  exact keeps_link (setTimeout_steady .enter rfl 250)

theorem startHistoryRecovery_keeps : Keeps startHistoryRecovery := by
  constructor
  intro w settled
  apply (Traces.reads (P := fun a u => a = w ∧ u = w) ⟨rfl, rfl⟩).bind
  intro a w' _ h
  obtain ⟨rfl, rfl⟩ := h
  apply Traces.ite (fun _ => .pure settled)
  intro ready
  apply reply_spec.bind
  intro r v _ hv
  subst hv
  apply (sendControl_ran _ _ settled).bind
  intro done x _ hx
  apply Traces.ite
  · intro sent
    cases hx with
    | inr freed =>
      rw [freed.1] at sent
      cases sent
    | inl unmoved =>
      have kept := (gentle_of_unmoved unmoved).settled settled
      have here : x.link.ws ≠ none := by
        obtain ⟨-, sent, link⟩ := unmoved
        rw [link]
        intro none
        dsimp only at none
        simp [none, isOpen] at ready
      apply Traces.writes trivial
      refine ⟨(setTimeout_steady .finishRecovery rfl historyRecoveryWindowMs x.link).owned kept.owned, ?_⟩
      intro none
      exact absurd none here
  · intro _
    refine .pure ?_
    cases hx with
    | inl unmoved => exact (gentle_of_unmoved unmoved).settled settled
    | inr freed => exact freed.2.settled

end EspWebChat.ReleasedPages
