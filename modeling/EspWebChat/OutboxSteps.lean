import EspWebChat.OutgoingQueue
import EspWebChat.PageSteps

set_option autoImplicit false

/-!
# What leaves the outgoing messages alone

Most of the script touches neither the outbox nor the messages handed to a socket, and nothing
but a confirmed join makes it possible to send without queueing.
-/
namespace EspWebChat.OutboxSteps
open JsonTree JsValues ClientMessages Interruptible BrowserWorld ClientStore ClientSocket
open LinkStates OutgoingQueue

def SameOutbox (u v : Store) : Prop := v.outbox = u.outbox

instance : Std.Refl SameOutbox := ⟨fun _ => rfl⟩
instance : IsTrans Store SameOutbox := ⟨fun _ _ _ h k => k.trans h⟩

theorem reply_within {S : Type} {Rel : S → S → Prop} [Std.Refl Rel] : Within Rel (reply : Client S Reply) := .ask

theorem nowS_within {S : Type} {Rel : S → S → Prop} [Std.Refl Rel] [IsTrans S Rel] :
    Within Rel (nowS : Client S Json) :=
  reply_within.bind (fun _ => .pure _)

theorem writeStoredValue_outbox (f : LocalStorage → LocalStorage) : Within SameOutbox (writeStoredValue f) := by
  apply reply_within.bind
  intro r
  exact .ite (.bind (.writes (fun _ => rfl)) (fun _ => .pure true)) (.pure false)

theorem saveMessages_outbox : Within SameOutbox saveMessages :=
  .bind (.writes (fun _ => rfl)) (fun _ => .bind .reads (fun _ => writeStoredValue_outbox _))

theorem saveConversations_outbox : Within SameOutbox saveConversations :=
  .bind .reads (fun _ => .bind (writeStoredValue_outbox _) (fun _ => .pure ()))

theorem rememberSeenId_outbox (id : ℕ) : Within SameOutbox (rememberSeenId id) := by
  apply Within.bind .reads
  intro s
  apply Within.ite
  · refine Within.bind (.writes (fun _ => rfl)) ?_
    intro _
    exact (writeStoredValue_outbox _).bind (fun _ => .pure ())
  · exact .pure ()

theorem updateConversationFromMessage_outbox (msg : Json) : Within SameOutbox (updateConversationFromMessage msg) :=
  .ite (.pure ()) (reply_within.bind (fun _ => .writes (fun _ => rfl)))

theorem saveThenRemember_outbox (id : ℕ) : Within SameOutbox (saveThenRemember id) :=
  saveMessages_outbox.bind (fun _ => .ite (rememberSeenId_outbox id) (.pure ()))

theorem saveIncomingMessage_outbox (msg : Json) : Within SameOutbox (saveIncomingMessage msg) := by
  apply Within.ite (.pure false)
  apply Within.bind .reads
  intro s
  apply Within.ite
  · exact (saveThenRemember_outbox _).bind (fun _ => .pure false)
  · refine Within.bind (.writes (fun _ => rfl)) ?_
    intro _
    apply (updateConversationFromMessage_outbox msg).bind
    intro _
    apply (saveThenRemember_outbox _).bind
    intro _
    exact saveConversations_outbox.bind (fun _ => .pure true)

theorem importRecoveredMessage_outbox (candidate : Option Json) (source : Json) :
    Within SameOutbox (importRecoveredMessage candidate source) := by
  cases candidate with
  | none => exact .pure _
  | some candidate =>
    apply Within.bind .reads
    intro s
    refine .ite (.pure _) (.ite (.pure _) ?_)
    cases s.allMessages.find? (fun stored => numericId stored == numericId candidate) with
    | some existing => exact .pure _
    | none =>
      apply nowS_within.bind
      intro now
      refine Within.bind (.writes (fun _ => rfl)) ?_
      intro _
      apply (updateConversationFromMessage_outbox _).bind
      intro _
      apply saveMessages_outbox.bind
      intro _
      exact saveConversations_outbox.bind (fun _ => .pure _)

theorem addOnlineConversations_outbox (s : Store) : (addOnlineConversations s).outbox = s.outbox := by
  unfold addOnlineConversations
  generalize s.onlineUsers.filter (fun user => user.1 != s.userId) = users
  induction users generalizing s with
  | nil => rfl
  | cons user users ih =>
    rw [List.foldl_cons]
    exact ih { s with conversations := assign user.1 (privateEntry s user) s.conversations }

theorem renderConversationList_outbox : Within SameOutbox renderConversationList :=
  .bind (.writes addOnlineConversations_outbox) (fun _ => saveConversations_outbox)

theorem render_outbox : Within SameOutbox render := render_within renderConversationList_outbox

theorem renderLast_outbox : Within SameOutbox renderLast := renderLast_within renderConversationList_outbox

theorem resetPresence_outbox : Within SameOutbox resetPresence :=
  .bind (.writes (fun _ => rfl)) (fun _ => renderConversationList_outbox)

theorem updateOnlineUsers_outbox (data : List Json) : Within SameOutbox (updateOnlineUsers data) :=
  .bind (.writes (fun _ => rfl)) (fun _ => renderConversationList_outbox)

theorem openConversation_outbox (conversationId : String) : Within SameOutbox (openConversation conversationId) :=
  .bind (.writes (fun _ => rfl)) (fun _ => renderLast_outbox)

theorem finishHistoryRecovery_outbox : Within SameOutbox finishHistoryRecovery := by
  apply Within.bind .reads
  intro s
  cases s.activeRecovery with
  | none => exact .pure ()
  | some recovery =>
    refine Within.bind (.writes (fun _ => rfl)) ?_
    intro _
    exact .ite renderLast_outbox (.pure ())

theorem handleHistoryResponse_outbox (msg : Json) : Within SameOutbox (handleHistoryResponse msg) := by
  apply Within.bind .reads
  intro s
  cases s.activeRecovery with
  | none => exact .pure ()
  | some recovery =>
    refine .ite (.pure ()) ?_
    apply (importRecoveredMessage_outbox _ _).bind
    intro result
    exact .ite (.writes (fun _ => rfl)) (.pure ())

theorem openNewGroup_outbox (msg : Json) (s : Store) : (openNewGroup msg s).outbox = s.outbox := by
  unfold openNewGroup
  split_ifs
  · rfl
  · rfl

theorem handleChat_outbox (msg : Json) : Within SameOutbox (handleChat msg) := by
  apply (saveIncomingMessage_outbox msg).bind
  intro saved
  apply Within.ite
  · exact .bind (.writes (openNewGroup_outbox msg)) (fun _ => renderLast_outbox)
  · exact .pure ()

/-- The frames that carry what the user has composed. -/
def isChat (msg : Json) : Bool := isText "text" (msg.lastMember "type") || isText "newGroup" (msg.lastMember "type")

def chats (l : Link) : List Json := (l.sent.map Prod.snd).filter isChat

/-- What is composed now goes straight to the socket. -/
def direct (l : Link) : Bool := l.wsJoined && isOpen l l.ws

structure Calm (u v : Link) : Prop where
  chats : chats v = chats u
  direct : direct v = true → direct u = true

theorem Calm.trans {u v l : Link} (h : Calm u v) (k : Calm v l) : Calm u l :=
  ⟨k.chats.trans h.chats, fun d => h.direct (k.direct d)⟩

theorem Calm.aside {u v : Link} (ws : v.ws = u.ws) (joined : v.wsJoined = u.wsJoined)
    (sockets : v.sockets = u.sockets) (sent : v.sent = u.sent) : Calm u v := by
  have state : ∀ s, readyState v s = readyState u s := by
    intro s
    unfold readyState
    rw [sockets]
  refine ⟨by rw [OutboxSteps.chats, sent]; rfl, ?_⟩
  intro d
  unfold OutboxSteps.direct at d ⊢
  rw [joined, ws] at d
  cases hw : u.ws with
  | none => rw [hw] at d; exact d
  | some s =>
    rw [hw] at d
    rw [← d]
    simp only [isOpen, state]

theorem Calm.off {u v : Link} (sent : v.sent = u.sent) (off : OutboxSteps.direct v = false) : Calm u v := by
  refine ⟨by rw [OutboxSteps.chats, sent]; rfl, ?_⟩
  intro d
  rw [off] at d
  cases d

theorem direct_unjoined {l : Link} (h : l.wsJoined = false) : direct l = false := by
  unfold direct
  rw [h]
  rfl

theorem direct_none {l : Link} (h : l.ws = none) : direct l = false := by
  unfold direct
  rw [h]
  exact Bool.and_false _

theorem setSocket_calm {f : Socket → Socket} (h : ∀ x, (f x).readyState = .opened → x.readyState = .opened)
    (s : ℕ) (l : Link) : Calm l (setSocket s f l) := by
  refine ⟨rfl, ?_⟩
  intro d
  unfold direct at d ⊢
  simp only [Bool.and_eq_true, setSocket_wsJoined, setSocket_ws] at d ⊢
  refine ⟨d.1, ?_⟩
  cases hw : l.ws with
  | none =>
    have up := d.2
    rw [hw] at up
    cases up
  | some s' =>
    have up := d.2
    rw [hw] at up
    simp only [isOpen, beq_iff_eq] at up ⊢
    rw [readyState_setSocket] at up
    split_ifs at up with same
    · subst same
      unfold readyState
      cases hx : l.sockets[s']? with
      | none =>
        rw [hx] at up
        cases up
      | some x =>
        rw [hx] at up
        exact h x up
    · exact up

theorem otherSocket_calm {s : ℕ} {l : Link} (stale : l.ws ≠ some s) (f : Socket → Socket) : Calm l (setSocket s f l) := by
  refine ⟨rfl, ?_⟩
  intro d
  unfold direct at d ⊢
  rw [setSocket_wsJoined, setSocket_ws] at d
  cases hw : l.ws with
  | none =>
    rw [hw] at d
    exact d
  | some s' =>
    rw [hw] at d
    have apart : s' ≠ s := fun e => stale (hw.trans (congrArg some e))
    simp only [isOpen, readyState_setSocket, if_neg apart] at d
    exact d

theorem closeSocket_calm (s : ℕ) (l : Link) : Calm l (closeSocket s l) := by
  apply setSocket_calm
  intro x
  cases hx : x.readyState <;> simp [hx]

theorem setClosed_calm (s : ℕ) (l : Link) : Calm l (setReadyState .closed s l) := by
  apply setSocket_calm
  intro x opened
  cases opened

theorem closeFires_calm (s : ℕ) (l : Link) : Calm l (closeFires s l) := by
  apply setSocket_calm
  intro x opened
  cases opened

theorem scheduleReconnect_calm (l : Link) : Calm l (scheduleReconnect l) := by
  unfold scheduleReconnect
  split_ifs
  · exact .aside rfl rfl rfl rfl
  · exact .aside rfl rfl rfl rfl

theorem tryNextUrl_calm (l : Link) : Calm l (tryNextUrl l) := by
  unfold tryNextUrl
  split_ifs
  · exact .aside rfl rfl rfl rfl
  · exact Calm.trans (v := { l with wsUrlAttempt := 0 }) (.aside rfl rfl rfl rfl) (scheduleReconnect_calm _)

theorem adoptHeartbeat_calm (msg : Json) (l : Link) : Calm l (adoptHeartbeat msg l) := by
  unfold adoptHeartbeat
  split
  · simp only []
    split_ifs
    · unfold rearmReceiveTimer
      split
      · exact .aside rfl rfl rfl rfl
      · exact .aside rfl rfl rfl rfl
    · exact .aside rfl rfl rfl rfl
  · exact .aside rfl rfl rfl rfl

theorem noteProgress_calm (msg : Json) (l : Link) : Calm l (noteProgress msg l) := by
  unfold noteProgress
  split
  · split_ifs
    · exact .aside rfl rfl rfl rfl
    · exact .aside rfl rfl rfl rfl
  · exact .aside rfl rfl rfl rfl

theorem noteTraffic_calm (s : ℕ) (l : Link) : Calm l (noteTraffic s l) := by
  unfold noteTraffic
  split_ifs
  · exact .aside rfl rfl rfl rfl
  · exact .aside rfl rfl rfl rfl

theorem afterClose_calm (s : ℕ) (l : Link) : Calm l (afterClose s l) := by
  unfold afterClose
  split_ifs
  · exact .aside rfl rfl rfl rfl
  · exact Calm.trans (v := { l with wsUrlAttempt := 0 }) (.aside rfl rfl rfl rfl) (scheduleReconnect_calm _)
  · exact tryNextUrl_calm l

theorem restarting_calm (l : Link) : Calm l (restarting l) := by
  unfold restarting
  split
  · exact Calm.trans (v := { l with hasJoined := false }) (.aside rfl rfl rfl rfl) (closeSocket_calm _ _)
  · exact .aside rfl rfl rfl rfl

theorem detach_calm (l : Link) : Calm l (detach l) := .off rfl (direct_unjoined rfl)

theorem unblock_calm (l : Link) : Calm l (unblock l) := .off rfl (direct_unjoined rfl)

theorem sessionReplaced_calm (l : Link) : Calm l (sessionReplaced l) := .off rfl (direct_unjoined rfl)

theorem openedNow_calm (s : ℕ) (l : Link) : Calm l (openedNow s l) := .off rfl (direct_unjoined rfl)

theorem constructorFailed_calm (l : Link) : Calm l (constructorFailed l) :=
  Calm.trans (v := { l with ws := none }) (.off rfl (direct_none rfl)) (tryNextUrl_calm _)

theorem newSocket_calm (l : Link) : Calm l (newSocket l) := by
  have state : readyState (newSocket l) l.sockets.length = .connecting :=
    (readyState_append ⟨.connecting, false, false⟩).trans (if_pos rfl)
  have off : direct (newSocket l) = false := by
    have ws : (newSocket l).ws = some l.sockets.length := rfl
    unfold direct
    rw [ws]
    simp only [isOpen, state]
    exact Bool.and_false _
  exact .off rfl off

theorem recordSent_calm (s : ℕ) {payload : Json} (other : isChat payload = false) (l : Link) :
    Calm l (recordSent s payload l) := by
  refine ⟨?_, id⟩
  simp [chats, other]

structure Quiet (u v : Page) : Prop where
  outbox : v.store.outbox = u.store.outbox
  link : Calm u.link v.link

theorem Quiet.trans {u v w : Page} (h : Quiet u v) (k : Quiet v w) : Quiet u w :=
  ⟨k.outbox.trans h.outbox, h.link.trans k.link⟩

instance : Std.Refl Quiet := ⟨fun _ => ⟨rfl, rfl, id⟩⟩
instance : IsTrans Page Quiet := ⟨fun _ _ _ => Quiet.trans⟩

theorem onStore_quiet {α : Type} {m : Client Store α} (h : Within SameOutbox m) : Within Quiet (onStore m) :=
  h.zoom (fun _ _ same => ⟨same, rfl, id⟩)

theorem setLink_quiet {f : Link → Link} (h : ∀ l, Calm l (f l)) : Within Quiet (setLink f) :=
  .writes (fun w => ⟨rfl, h w.link⟩)

theorem setStore_quiet {f : Store → Store} (h : ∀ s, SameOutbox s (f s)) : Within Quiet (setStore f) :=
  .writes (fun w => ⟨h w.store, rfl, id⟩)

theorem interruptRecovery_quiet (w : Page) : Quiet w (interruptRecovery w) := by
  unfold interruptRecovery
  split
  · exact ⟨rfl, rfl, id⟩
  · exact ⟨rfl, .aside rfl rfl rfl rfl⟩

theorem releaseSocket_quiet (s : ℕ) : Within Quiet (releaseSocket s) := by
  apply Within.bind .reads
  intro l
  apply Within.ite (.pure false)
  apply (setLink_quiet detach_calm).bind
  intro _
  apply (onStore_quiet resetPresence_outbox).bind
  intro _
  exact .bind (.writes interruptRecovery_quiet) (fun _ => .pure true)

theorem reconnectSocket_quiet (s : ℕ) : Within Quiet (reconnectSocket s) := by
  apply (releaseSocket_quiet s).bind
  intro released
  apply Within.ite (.pure ())
  exact (setLink_quiet (closeSocket_calm s)).bind (fun _ => setLink_quiet scheduleReconnect_calm)

theorem sendRaw_quiet {payload : Json} (other : isChat payload = false) : Within Quiet (sendRaw payload) := by
  apply Within.bind .reads
  intro l
  cases l.ws with
  | none => exact .pure false
  | some s =>
    apply Within.ite (.pure false)
    apply reply_within.bind
    intro r
    apply Within.ite
    · exact (setLink_quiet (recordSent_calm s other)).bind (fun _ => .pure true)
    · exact (reconnectSocket_quiet s).bind (fun _ => .pure false)

theorem lastMember_append {key : String} {front extra : Members} (others : extra.all (fun m => m.1 != key) = true) :
    (Json.obj (front ++ extra)).lastMember key = (Json.obj front).lastMember key := by
  have absent : extra.reverse.lookup key = none := by
    rw [List.lookup_eq_none_iff]
    intro m hm
    have other := List.all_eq_true.mp others m (List.mem_reverse.mp hm)
    have apart : m.1 ≠ key := by simpa using other
    exact bne_iff_ne.mpr apart.symm
  unfold Json.lastMember Json.members
  rw [List.reverse_append, List.lookup_append, absent]
  rfl

theorem sendControl_quiet {type : String} (chat : type ≠ "text" ∧ type ≠ "newGroup") {extra : Members}
    (untyped : extra.all (fun m => m.1 != "type") = true) : Within Quiet (sendControl type extra) := by
  apply Within.bind .reads
  intro s
  apply nowS_within.bind
  intro now
  apply sendRaw_quiet
  have kind : (Json.obj ([("type", str type), ("from", str s.userId), ("name", str (getNickname s)),
      ("timestamp", now)] ++ extra)).lastMember "type" = some (str type) :=
    lastMember_append untyped
  unfold isChat
  rw [kind]
  simpa [isText, str, text] using chat

theorem setLink_aside {f : Link → Link}
    (same : ∀ l, (f l).ws = l.ws ∧ (f l).wsJoined = l.wsJoined ∧ (f l).sockets = l.sockets ∧ (f l).sent = l.sent) :
    Within Quiet (setLink f) :=
  setLink_quiet (fun l => .aside (same l).1 (same l).2.1 (same l).2.2.1 (same l).2.2.2)

theorem resetSinceIdAndReconnect_quiet : Within Quiet resetSinceIdAndReconnect := by
  refine .bind (setStore_quiet (fun _ => rfl)) ?_
  intro _
  apply (onStore_quiet (writeStoredValue_outbox _)).bind
  intro _
  apply (setLink_quiet unblock_calm).bind
  intro _
  apply Within.bind .reads
  intro l
  cases l.ws with
  | none => exact setLink_quiet scheduleReconnect_calm
  | some s => exact reconnectSocket_quiet s

theorem handleHistoryInfo_quiet (msg : Json) : Within Quiet (handleHistoryInfo msg) := by
  unfold handleHistoryInfo
  split
  · exact .pure ()
  · exact (setLink_quiet (adoptHeartbeat_calm msg)).bind (fun _ => .ite (.pure ()) (setStore_quiet (fun _ => rfl)))

theorem sendResponses_quiet (requestId : String) (requester : Json) (stored : List Json) :
    Within Quiet (sendResponses requestId requester stored) := by
  induction stored with
  | nil => exact .pure ()
  | cons m stored ih => exact (sendControl_quiet (by decide) rfl).bind (fun _ => ih)

theorem handleHistoryRequest_quiet (msg : Json) : Within Quiet (handleHistoryRequest msg) := by
  apply Within.bind .reads
  intro s
  split
  · exact .ite (.pure ()) (sendResponses_quiet _ _ _)
  · exact .pure ()

theorem startHistoryRecovery_quiet : Within Quiet startHistoryRecovery := by
  apply Within.bind .reads
  intro w
  apply Within.ite (.pure ())
  apply reply_within.bind
  intro r
  apply (sendControl_quiet (by decide) rfl).bind
  intro done
  exact .ite (.writes (fun _ => ⟨rfl, .aside rfl rfl rfl rfl⟩)) (.pure ())

theorem handleError_quiet (msg : Json) : Within Quiet (handleError msg) :=
  .ite (.pure ()) (.ite resetSinceIdAndReconnect_quiet (.ite (setLink_quiet sessionReplaced_calm) (.pure ())))

theorem connect_quiet : Within Quiet connect := by
  apply Within.bind .reads
  intro l
  apply Within.ite (.pure ())
  refine .bind (setLink_aside (fun _ => ⟨rfl, rfl, rfl, rfl⟩)) ?_
  intro _
  apply reply_within.bind
  intro r
  exact .ite (setLink_quiet newSocket_calm) (setLink_quiet constructorFailed_calm)

theorem connectTimedOut_quiet (s : ℕ) : Within Quiet (connectTimedOut s) := by
  apply Within.bind .reads
  intro l
  refine .ite ?_ (.pure ())
  apply (releaseSocket_quiet s).bind
  intro _
  exact (setLink_quiet (closeSocket_calm s)).bind (fun _ => setLink_quiet tryNextUrl_calm)

theorem joinTimedOut_quiet (s : ℕ) : Within Quiet (joinTimedOut s) :=
  .bind .reads (fun _ => .ite (reconnectSocket_quiet s) (.pure ()))

theorem receiveTimedOut_quiet (s : ℕ) : Within Quiet (receiveTimedOut s) := by
  refine .bind (setLink_aside (fun _ => ⟨rfl, rfl, rfl, rfl⟩)) ?_
  intro _
  exact .bind .reads (fun _ => .ite (reconnectSocket_quiet s) (.pure ()))

theorem reconnectNow_quiet : Within Quiet reconnectNow :=
  .bind (setLink_aside (fun _ => ⟨rfl, rfl, rfl, rfl⟩)) (fun _ => connect_quiet)

theorem onopen_quiet (s : ℕ) : Within Quiet (onopen s) := by
  apply Within.bind .reads
  intro w
  apply Within.ite (.pure ())
  apply (setLink_quiet (openedNow_calm s)).bind
  intro _
  apply (sendControl_quiet (by decide) rfl).bind
  intro done
  exact .ite (setLink_aside (fun _ => ⟨rfl, rfl, rfl, rfl⟩)) (setLink_quiet (closeSocket_calm s))

theorem socketClosed_quiet (s : ℕ) : Within Quiet (socketClosed s) := by
  apply (setLink_quiet (closeFires_calm s)).bind
  intro _
  apply Within.bind .reads
  intro l
  apply Within.ite (.pure ())
  exact (releaseSocket_quiet s).bind (fun _ => setLink_quiet (afterClose_calm s))

theorem onlineListener_quiet : Within Quiet onlineListener := by
  apply Within.bind .reads
  intro l
  refine .ite ?_ (.pure ())
  exact .bind (setLink_aside (fun _ => ⟨rfl, rfl, rfl, rfl⟩)) (fun _ => connect_quiet)

theorem enter_quiet : Within Quiet enter := by
  refine .bind (setLink_aside (fun _ => ⟨rfl, rfl, rfl, rfl⟩)) ?_
  intro _
  apply (onStore_quiet render_outbox).bind
  intro drawn
  exact .ite connect_quiet (.pure ())

theorem timerFired_quiet (t : Timer) : Within Quiet (timerFired t) := by
  apply Within.bind .reads
  intro l
  refine .ite ?_ (.pure ())
  refine .bind (setLink_aside (fun _ => ⟨rfl, rfl, rfl, rfl⟩)) ?_
  intro _
  cases t.callback with
  | enter => exact enter_quiet
  | connect => exact connect_quiet
  | connectTimeout s => exact connectTimedOut_quiet s
  | joinTimeout s => exact joinTimedOut_quiet s
  | receiveTimeout s => exact receiveTimedOut_quiet s
  | reconnect => exact reconnectNow_quiet
  | finishRecovery => exact onStore_quiet finishHistoryRecovery_outbox

theorem enterChat_quiet (input : String) : Within Quiet (enterChat input) := by
  apply Within.ite (.pure ())
  refine .bind (setLink_aside (fun _ => ⟨rfl, rfl, rfl, rfl⟩)) ?_
  intro _
  refine .bind (setStore_quiet (fun _ => rfl)) ?_
  intro _
  apply (onStore_quiet (writeStoredValue_outbox _)).bind
  intro _
  refine .bind (setStore_quiet (fun _ => rfl)) ?_
  intro _
  exact setLink_aside (fun _ => ⟨rfl, rfl, rfl, rfl⟩)

end EspWebChat.OutboxSteps
