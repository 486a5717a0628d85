import EspWebChat.OutgoingMessages
import EspWebChat.TabRuns

set_option autoImplicit false

/-!
# What the handlers do to the connection

`LinkAct` has one constructor for each kind of write to the connection, with what is known where
it happens. What holds of the connection over all runs of a tab follows from what an act keeps.
-/
namespace EspWebChat.LinkActs
open Relation JsonTree JsValues Interruptible BrowserWorld ClientMessages ClientStore ClientSocket StoreSteps LinkStates TabRuns

def isJoin (msg : Json) : Bool := isText "join" (msg.lastMember "type")

/-- The current socket opens, and nothing has been sent on it. -/
def opening (s : ℕ) (l : Link) : Link := openedNow s (setReadyState .opened s l)

/-- `may`: what lets a replaced session connect again is allowed. -/
inductive LinkAct (may : Prop) : Link → Link → Prop where
  | detach (l : Link) : LinkAct may l (detach l)
  | closeSocket (s : ℕ) (l : Link) : LinkAct may l (closeSocket s l)
  | scheduleReconnect (l : Link) : LinkAct may l (scheduleReconnect l)
  | tryNextUrl (l : Link) : LinkAct may l (tryNextUrl l)
  | clearTimeout (timer : Timer) (l : Link) : LinkAct may l (clearTimeout (some timer) l)
  | window (l : Link) : LinkAct may l (setTimeout .finishRecovery historyRecoveryWindowMs l)
  | entering (l : Link) : LinkAct may l (setTimeout .enter 250 l)
  | send (s : ℕ) (payload : Json) (l : Link) (current : l.ws = some s) (opened : readyState l s = .opened)
      (other : isJoin payload = false) : LinkAct may l (recordSent s payload l)
  | joinConfirmed (s : ℕ) (l : Link) (current : l.ws = some s) : LinkAct may l (joinConfirmed s l)
  | unblock (l : Link) (allowed : may) : LinkAct may l (unblock l)
  | adoptHeartbeat (msg : Json) (l : Link) : LinkAct may l (adoptHeartbeat msg l)
  | noteProgress (msg : Json) (l : Link) : LinkAct may l (noteProgress msg l)
  | noteTraffic (s : ℕ) (l : Link) : LinkAct may l (noteTraffic s l)
  | sessionReplaced (l : Link) : LinkAct may l (sessionReplaced l)
  | countConnection (l : Link) : LinkAct may l (countConnection l)
  | newSocket (l : Link) (free : l.reconnectBlocked = false) : LinkAct may l (newSocket l)
  | constructorFailed (l : Link) (free : l.reconnectBlocked = false) : LinkAct may l (constructorFailed l)
  | forgetReceiveTimer (l : Link) : LinkAct may l (forgetReceiveTimer l)
  | backOff (l : Link) : LinkAct may l (backOff l)
  | afterClose (s : ℕ) (l : Link) : LinkAct may l (afterClose s l)
  | hurry (l : Link) : LinkAct may l (hurry l)
  | hideLogin (l : Link) : LinkAct may l (hideLogin l)
  | allowConnecting (l : Link) (allowed : may) : LinkAct may l (allowConnecting l)
  | restarting (l : Link) : LinkAct may l (restarting l)
  | setClosed (s : ℕ) (l : Link) : LinkAct may l (setReadyState .closed s l)
  | closeFires (s : ℕ) (l : Link) : LinkAct may l (closeFires s l)
  | staleOpened (s : ℕ) (l : Link) (stale : l.ws ≠ some s) : LinkAct may l (setReadyState .opened s l)
  | greets (s : ℕ) (payload : Json) (l : Link) (current : l.ws = some s) (connecting : readyState l s = .connecting)
      (join : isJoin payload = true) : LinkAct may l (armJoinTimer s (recordSent s payload (opening s l)))
  | spurned (s : ℕ) (l : Link) (current : l.ws = some s) (connecting : readyState l s = .connecting) :
      LinkAct may l (ClientSocket.detach (opening s l))

def Moves (may : Prop) (u v : Page) : Prop := ReflTransGen (LinkAct may) u.link v.link

variable {may : Prop} {w : Page} {α : Type} {s : ℕ}

instance : Std.Refl (Moves may) := ⟨fun _ => .refl⟩
instance : IsTrans Page (Moves may) := ⟨fun _ _ _ => ReflTransGen.trans⟩

theorem within_of_ends {m : Client Page α} (h : ∀ w, Ends m w (fun _ u => Moves may w u)) : Within (Moves may) m :=
  ⟨fun w env => (h w).run env⟩

theorem onStore_moves (m : Client Store α) : Within (Moves may) (onStore m) := ⟨fun _ _ => .refl⟩

theorem setLink_moves {f : Link → Link} (h : ∀ l, LinkAct may l (f l)) : Within (Moves may) (setLink f) :=
  .writes (fun w => .single (h w.link))

theorem setLink_ends {f : Link → Link} {u : Page} (moved : Moves may w u) (h : LinkAct may u.link (f u.link)) :
    Ends (setLink f) u (fun _ v => Moves may w v) := .writes (ReflTransGen.tail moved h)

theorem setStore_moves (f : Store → Store) : Within (Moves may) (setStore f) := .writes (fun _ => .refl)

theorem interruptRecovery_moves (w : Page) : Moves may w (interruptRecovery w) := by
  unfold interruptRecovery
  split
  · exact .refl
  · exact .single (.clearTimeout _ _)

theorem releaseSocket_moves (s : ℕ) : Within (Moves may) (releaseSocket s) := by
  apply Within.bind .reads
  intro l
  apply Within.ite (.pure false)
  apply (setLink_moves .detach).bind
  intro _
  apply (onStore_moves resetPresence).bind
  intro _
  exact .bind (.writes interruptRecovery_moves) (fun _ => .pure true)

theorem reconnectSocket_moves (s : ℕ) : Within (Moves may) (reconnectSocket s) := by
  apply (releaseSocket_moves s).bind
  intro released
  apply Within.ite (.pure ())
  exact (setLink_moves (.closeSocket s)).bind (fun _ => setLink_moves .scheduleReconnect)

theorem sendRaw_moves {payload : Json} (other : isJoin payload = false) : Within (Moves may) (sendRaw payload) := by
  apply within_of_ends
  intro w
  apply Ends.bind (E := fun r u => r = some w.link ∧ u = w) (.reads ⟨rfl, rfl⟩)
  · intro u h
    cases h.1
  · intro l u h
    obtain ⟨same, rfl⟩ := h
    obtain rfl := Option.some.inj same
    cases current : u.link.ws with
    | none => exact .pure .refl
    | some s =>
      apply Ends.ite (fun _ => .pure .refl)
      intro opened
      apply ends_silent reply_spec .refl
      intro r _
      apply Ends.ite
      · intro _
        apply Ends.bind (E := fun _ v => Moves may u v) (.writes (.single (.send s payload u.link current (not_not.mp opened) other)))
          (fun _ h => h)
        intro _ v moved
        exact .pure moved
      · intro _
        apply Ends.bind (E := fun _ v => Moves may u v) ⟨(reconnectSocket_moves s).run u⟩ (fun _ h => h)
        intro _ v moved
        exact .pure moved

theorem sendControl_moves {type : String} (other : type ≠ "join") {extra : Members}
    (untyped : extra.all (fun m => m.1 != "type") = true) : Within (Moves may) (sendControl type extra) := by
  apply Within.bind .reads
  intro s
  apply OutboxSteps.nowS_within.bind
  intro now
  apply sendRaw_moves
  have kind : (Json.obj ([("type", str type), ("from", str s.userId), ("name", str (getNickname s)),
      ("timestamp", now)] ++ extra)).lastMember "type" = some (str type) := OutboxSteps.lastMember_append untyped
  unfold isJoin
  rw [kind]
  simpa [isText, str, text] using other

theorem chat_greets_not {msg : Json} (chat : OutboxSteps.isChat msg = true) : isJoin msg = false := by
  unfold OutboxSteps.isChat at chat
  unfold isJoin
  rcases Bool.or_eq_true_iff.mp chat with kind | kind
  · have type : text (msg.lastMember "type") = some "text" := by simpa [isText] using kind
    simp [isText, type]
  · have type : text (msg.lastMember "type") = some "newGroup" := by simpa [isText] using kind
    simp [isText, type]

def Chatty (w : Page) : Prop := ∀ m ∈ w.store.outbox, OutboxSteps.isChat m = true

theorem sendPending_moves (pending : List Json) (chat : ∀ m ∈ pending, OutboxSteps.isChat m = true) :
    Within (Moves may) (sendPending pending) := by
  induction pending with
  | nil => exact .pure []
  | cons m pending ih =>
    apply OutboxSteps.nowS_within.bind
    intro now
    have other := chat_greets_not (OutboxRuns.isChat_stamped now (chat m List.mem_cons_self))
    apply (sendRaw_moves other).bind
    intro done
    exact .ite (ih (fun x hx => chat x (List.mem_cons_of_mem m hx))) (.pure _)

theorem flushOutbox_moves (chat : Chatty w) : Ends flushOutbox w (fun _ u => Moves may w u) := by
  apply Ends.bind (E := fun r u => r = some w ∧ u = w) (.reads ⟨rfl, rfl⟩)
  · intro u h
    cases h.1
  · intro x u h
    obtain ⟨same, rfl⟩ := h
    obtain rfl := Option.some.inj same
    apply Ends.ite (fun _ => .pure .refl)
    intro _
    have rest : Within (Moves may) (do
        let remaining ← sendPending x.store.outbox
        setStore (fun s => { s with outbox := remaining })
        onStore saveOutbox) := by
      apply (sendPending_moves _ chat).bind
      intro remaining
      exact (setStore_moves _).bind (fun _ => onStore_moves _)
    exact ⟨rest.run x⟩

theorem confirmSocketJoin_moves (chat : Chatty w) : Ends confirmSocketJoin w (fun _ u => Moves may w u) := by
  apply Ends.bind (E := fun r u => r = some w.link ∧ u = w) (.reads ⟨rfl, rfl⟩)
  · intro u h
    cases h.1
  · intro l u h
    obtain ⟨same, rfl⟩ := h
    obtain rfl := Option.some.inj same
    cases current : u.link.ws with
    | none => exact .pure .refl
    | some s =>
      apply Ends.ite (fun _ => .pure .refl)
      intro _
      apply Ends.bind (E := fun r v => r = some () ∧ v = { u with link := joinConfirmed s u.link }) (.writes ⟨rfl, rfl⟩)
      · intro v h
        cases h.1
      · intro _ v h
        obtain ⟨-, rfl⟩ := h
        have confirmed : Moves may u { u with link := joinConfirmed s u.link } := .single (.joinConfirmed s u.link current)
        have still : Chatty { u with link := joinConfirmed s u.link } := chat
        exact (flushOutbox_moves still).post (fun _ _ h => confirmed.trans h)

theorem resetSinceIdAndReconnect_moves (allowed : may) : Within (Moves may) resetSinceIdAndReconnect := by
  refine .bind (setStore_moves _) ?_
  intro _
  apply (onStore_moves _).bind
  intro _
  apply (setLink_moves (fun l => .unblock l allowed)).bind
  intro _
  apply Within.bind .reads
  intro l
  cases l.ws with
  | none => exact setLink_moves .scheduleReconnect
  | some s => exact reconnectSocket_moves s

/-- The one frame that lets a replaced session connect again. -/
def resets (frame : Option Json) : Prop :=
  ∃ msg, frame = some msg ∧ isText "error" (msg.lastMember "type") = true ∧ isText "bad_since_id" (msg.lastMember "code") = true

theorem handleHistoryInfo_moves (msg : Json) : Within (Moves may) (handleHistoryInfo msg) := by
  unfold handleHistoryInfo
  split
  · exact .pure ()
  · exact (setLink_moves (.adoptHeartbeat msg)).bind (fun _ => .ite (.pure ()) (setStore_moves _))

theorem sendResponses_moves (requestId : String) (requester : Json) (stored : List Json) :
    Within (Moves may) (sendResponses requestId requester stored) := by
  induction stored with
  | nil => exact .pure ()
  | cons m stored ih => exact (sendControl_moves (by decide) rfl).bind (fun _ => ih)

theorem handleHistoryRequest_moves (msg : Json) : Within (Moves may) (handleHistoryRequest msg) := by
  apply Within.bind .reads
  intro s
  split
  · exact .ite (.pure ()) (sendResponses_moves _ _ _)
  · exact .pure ()

theorem handlePresence_moves (msg : Json) (chat : Chatty w) : Ends (handlePresence msg) w (fun _ u => Moves may w u) := by
  apply Ends.bind (E := fun r u => r = some w.store ∧ u = w) (.reads ⟨rfl, rfl⟩)
  · intro u h
    cases h.1
  · intro s u h
    obtain ⟨-, rfl⟩ := h
    apply Ends.ite (fun _ => .pure .refl)
    intro _
    apply (confirmSocketJoin_moves chat).bind (fun _ h => h)
    intro _ v confirmed
    have rest : Within (Moves may) (onStore (updateOnlineUsers (itemsOf (msg.lastMember "data")))) := onStore_moves _
    exact ⟨fun env => confirmed.trans (rest.run v env)⟩

theorem handleError_moves (msg : Json) (error : isText "error" (msg.lastMember "type") = true)
    (allowed : resets (some msg) → may) : Within (Moves may) (handleError msg) := by
  unfold handleError
  split_ifs with unspoken code
  · exact .pure ()
  · exact resetSinceIdAndReconnect_moves (allowed ⟨msg, rfl, error, code⟩)
  · exact setLink_moves .sessionReplaced
  · exact .pure ()

theorem handleIncoming_moves (frame : Option Json) (allowed : resets frame → may) (chat : Chatty w) :
    Ends (handleIncoming frame) w (fun _ u => Moves may w u) := by
  cases frame with
  | none => exact .pure .refl
  | some msg =>
    apply Ends.ite (fun _ => .pure .refl)
    intro _
    apply Ends.bind (E := fun r v => r = some () ∧ v = { w with link := noteProgress msg w.link }) (.writes ⟨rfl, rfl⟩)
    · intro v h
      cases h.1
    · intro _ v h
      obtain ⟨-, rfl⟩ := h
      have noted : Moves may w { w with link := noteProgress msg w.link } := .single (.noteProgress msg w.link)
      have still : Chatty { w with link := noteProgress msg w.link } := chat
      have quiet : ∀ {m : Client Page Unit}, Within (Moves may) m →
          Ends m { w with link := noteProgress msg w.link } (fun _ u => Moves may w u) :=
        fun h => ⟨fun env => noted.trans (h.run _ env)⟩
      apply Ends.ite
      · intro _
        apply quiet
        apply Within.bind .reads
        intro s
        apply OutboxSteps.nowS_within.bind
        intro now
        exact (sendRaw_moves rfl).bind (fun _ => .pure ())
      · intro _
        apply Ends.ite (fun _ => quiet (handleHistoryInfo_moves msg))
        intro _
        apply Ends.ite (fun _ => quiet (handleHistoryRequest_moves msg))
        intro _
        apply Ends.ite (fun _ => quiet (onStore_moves _))
        intro _
        apply Ends.ite (fun _ => (handlePresence_moves msg still).post (fun _ _ h => noted.trans h))
        intro _
        apply Ends.ite (fun error => quiet (handleError_moves msg error allowed))
        intro _
        exact Ends.ite (fun _ => quiet (onStore_moves _)) (fun _ => .pure noted)

theorem onmessage_moves (s : ℕ) (frame : Option Json) (allowed : resets frame → may) (chat : Chatty w) :
    Ends (onmessage s frame) w (fun _ u => Moves may w u) := by
  apply Ends.bind (E := fun r u => r = some w.link ∧ u = w) (.reads ⟨rfl, rfl⟩)
  · intro u h
    cases h.1
  · intro l u h
    obtain ⟨-, rfl⟩ := h
    apply Ends.ite (fun _ => .pure .refl)
    intro _
    apply Ends.bind (E := fun r v => r = some () ∧ v = { u with link := noteTraffic s u.link }) (.writes ⟨rfl, rfl⟩)
    · intro v h
      cases h.1
    · intro _ v h
      obtain ⟨-, rfl⟩ := h
      have noted : Moves may u { u with link := noteTraffic s u.link } := .single (.noteTraffic s u.link)
      have still : Chatty { u with link := noteTraffic s u.link } := chat
      exact (handleIncoming_moves frame allowed still).post (fun _ _ h => noted.trans h)

theorem connect_moves : Within (Moves may) connect := by
  apply within_of_ends
  intro w
  apply Ends.bind (E := fun r u => r = some w.link ∧ u = w) (.reads ⟨rfl, rfl⟩)
  · intro u h
    cases h.1
  · intro l u h
    obtain ⟨same, rfl⟩ := h
    obtain rfl := Option.some.inj same
    apply Ends.ite (fun _ => .pure .refl)
    intro go
    have free : u.link.reconnectBlocked = false := by
      simp only [Bool.or_eq_true, not_or, Bool.not_eq_true] at go
      exact go.1
    apply Ends.bind (E := fun r v => r = some () ∧ v = { u with link := countConnection u.link }) (.writes ⟨rfl, rfl⟩)
    · intro v h
      cases h.1
    · intro _ v h
      obtain ⟨-, rfl⟩ := h
      have counted : Moves may u { u with link := countConnection u.link } := .single (.countConnection u.link)
      apply ends_silent reply_spec counted
      intro r _
      apply Ends.ite
      · intro _
        exact setLink_ends counted (.newSocket _ free)
      · intro _
        exact setLink_ends counted (.constructorFailed _ free)

theorem connectTimedOut_moves (s : ℕ) : Within (Moves may) (connectTimedOut s) := by
  apply Within.bind .reads
  intro l
  refine .ite ?_ (.pure ())
  apply (releaseSocket_moves s).bind
  intro _
  exact (setLink_moves (.closeSocket s)).bind (fun _ => setLink_moves .tryNextUrl)

theorem joinTimedOut_moves (s : ℕ) : Within (Moves may) (joinTimedOut s) :=
  .bind .reads (fun _ => .ite (reconnectSocket_moves s) (.pure ()))

theorem receiveTimedOut_moves (s : ℕ) : Within (Moves may) (receiveTimedOut s) := by
  apply (setLink_moves .forgetReceiveTimer).bind
  intro _
  exact .bind .reads (fun _ => .ite (reconnectSocket_moves s) (.pure ()))

theorem enter_moves : Within (Moves may) enter := by
  apply (setLink_moves .hideLogin).bind
  intro _
  exact (onStore_moves _).bind (fun _ => .ite connect_moves (.pure ()))

theorem timerFired_moves (t : Timer) : Within (Moves may) (timerFired t) := by
  apply Within.bind .reads
  intro l
  refine .ite ?_ (.pure ())
  apply (setLink_moves (.clearTimeout t)).bind
  intro _
  cases t.callback with
  | enter => exact enter_moves
  | connect => exact connect_moves
  | connectTimeout s => exact connectTimedOut_moves s
  | joinTimeout s => exact joinTimedOut_moves s
  | receiveTimeout s => exact receiveTimedOut_moves s
  | reconnect => exact (setLink_moves .backOff).bind (fun _ => connect_moves)
  | finishRecovery => exact onStore_moves _

theorem onlineListener_moves : Within (Moves may) onlineListener := by
  apply Within.bind .reads
  intro l
  refine .ite ?_ (.pure ())
  exact (setLink_moves .hurry).bind (fun _ => connect_moves)

theorem socketClosed_moves (s : ℕ) : Within (Moves may) (socketClosed s) := by
  apply (setLink_moves (.closeFires s)).bind
  intro _
  apply Within.bind .reads
  intro l
  apply Within.ite (.pure ())
  exact (releaseSocket_moves s).bind (fun _ => setLink_moves (.afterClose s))

theorem sendOrQueue_moves {message : Json} (chat : OutboxSteps.isChat message = true) :
    Within (Moves may) (sendOrQueue message) := by
  apply Within.bind .reads
  intro l
  have direct : Within (Moves may) (if l.wsJoined then sendRaw message else pure false : Client Page Bool) :=
    .ite (sendRaw_moves (chat_greets_not chat)) (.pure false)
  exact direct.bind (fun _ => .ite (.pure ()) (onStore_moves _))

theorem sendMessage_moves (input : String) : Within (Moves may) (sendMessage input) := by
  apply Within.ite (.pure ())
  apply Within.bind .reads
  intro s
  apply OutboxSteps.nowS_within.bind
  intro now
  exact sendOrQueue_moves (OutgoingMessages.isChat_text s _ now)

theorem createGroup_moves (selectedIds : List String) : Within (Moves may) (createGroup selectedIds) := by
  apply Within.ite (.pure ())
  apply Within.bind .reads
  intro s
  apply OutboxSteps.reply_within.bind
  intro r
  apply OutboxSteps.nowS_within.bind
  intro now
  apply (setStore_moves _).bind
  intro _
  apply (onStore_moves _).bind
  intro _
  exact (onStore_moves _).bind (fun _ => sendOrQueue_moves rfl)

theorem startHistoryRecovery_moves : Within (Moves may) startHistoryRecovery := by
  apply Within.bind .reads
  intro w
  apply Within.ite (.pure ())
  apply OutboxSteps.reply_within.bind
  intro r
  apply (sendControl_moves (by decide) rfl).bind
  intro done
  exact .ite (.writes (fun w => .single (.window w.link))) (.pure ())

theorem enterChat_moves (input : String) (allowed : may) : Within (Moves may) (enterChat input) := by
  apply Within.ite (.pure ())
  apply (setLink_moves (fun l => .allowConnecting l allowed)).bind
  intro _
  apply (setStore_moves _).bind
  intro _
  apply (onStore_moves _).bind
  intro _
  exact (setStore_moves _).bind (fun _ => setLink_moves .entering)

/-- A handler that is cut short may have opened a socket and sent nothing on it. -/
def Led (may : Prop) (w : Page) (r : Option Unit) (u : Page) : Prop :=
  ∃ v, ReflTransGen (LinkAct may) w.link v ∧ v.sent = u.link.sent ∧ (r.isSome = true → v = u.link)

theorem led_of_moves {r : Option Unit} {u : Page} (moved : Moves may w u) : Led may w r u := ⟨u.link, moved, rfl, fun _ => rfl⟩

theorem led_within {m : Client Page Unit} (h : Within (Moves may) m) (w : Page) : Ends m w (Led may w) :=
  ⟨fun env => led_of_moves (h.run w env)⟩

theorem led_ends {m : Client Page Unit} (h : Ends m w (fun _ u => Moves may w u)) : Ends m w (Led may w) :=
  h.post (fun _ _ => led_of_moves)

theorem opening_sent (s : ℕ) (l : Link) : (opening s l).sent = l.sent := by simp [opening, setReadyState]

theorem opening_ws (s : ℕ) (l : Link) : (opening s l).ws = l.ws := by simp [opening, setReadyState]

theorem opening_opened {l : Link} (connecting : readyState l s = .connecting) : readyState (opening s l) s = .opened := by
  unfold readyState at connecting ⊢
  cases found : l.sockets[s]? with
  | none =>
    rw [found] at connecting
    cases connecting
  | some x => simp [opening, openedNow, setReadyState, setSocket, found]

/-- What the send of the join has come to. -/
def JoinSent (may : Prop) (s : ℕ) (w : Page) : Option Bool → Page → Prop
  | none, u => ∃ v, ReflTransGen (LinkAct may) w.link v ∧ v.sent = u.link.sent
  | some true, u => ∃ payload, isJoin payload = true ∧ u.link = recordSent s payload (opening s w.link)
  | some false, u => Moves may w u

theorem spurned_ends {x : Page} (current : w.link.ws = some s) (connecting : readyState w.link s = .connecting)
    (opens : x.link = opening s w.link) : Ends (reconnectSocket s) x (fun _ u => Moves may w u) := by
  have here : x.link.ws = some s := by rw [opens, opening_ws, current]
  have detached : Moves may w { x with link := ClientSocket.detach x.link } := by
    rw [opens]
    exact .single (.spurned s w.link current connecting)
  have released : Ends (releaseSocket s) x (fun _ u => Moves may w u) := by
    unfold releaseSocket
    apply Ends.bind (E := fun r u => r = some x.link ∧ u = x) (.reads ⟨rfl, rfl⟩)
    · intro u h
      cases h.1
    · intro l u h
      obtain ⟨same, rfl⟩ := h
      obtain rfl := Option.some.inj same
      apply Ends.ite (fun not => absurd here not)
      intro _
      apply Ends.bind (E := fun r v => r = some () ∧ v = { u with link := ClientSocket.detach u.link }) (.writes ⟨rfl, rfl⟩)
      · intro v h
        cases h.1
      · intro _ v h
        obtain ⟨-, rfl⟩ := h
        have rest : Within (Moves may) (do
            onStore resetPresence
            writes interruptRecovery
            pure true : Client Page Bool) :=
          (onStore_moves _).bind (fun _ => .bind (.writes interruptRecovery_moves) (fun _ => .pure true))
        exact ⟨fun env => ReflTransGen.trans detached (rest.run _ env)⟩
  apply released.bind (fun _ h => h)
  intro done u moved
  have rest : Within (Moves may) (if !done then pure () else do
      setLink (closeSocket s)
      setLink scheduleReconnect : Client Page Unit) :=
    .ite (.pure ()) ((setLink_moves (.closeSocket s)).bind (fun _ => setLink_moves .scheduleReconnect))
  exact ⟨fun env => ReflTransGen.trans moved (rest.run u env)⟩

theorem joinSent_ends (sinceId : ℕ) {x : Page} (current : w.link.ws = some s) (connecting : readyState w.link s = .connecting)
    (opens : x.link = opening s w.link) :
    Ends (sendControl "join" [("since_id", nat sinceId)]) x (JoinSent may s w) := by
  have unsent : JoinSent may s w none x := ⟨w.link, .refl, by rw [opens, opening_sent]⟩
  have here : x.link.ws = some s := by rw [opens, opening_ws, current]
  have opened : readyState x.link s = .opened := by rw [opens]; exact opening_opened connecting
  unfold sendControl
  apply Ends.bind (E := fun r u => r = some x.store ∧ u = x) (.reads ⟨rfl, rfl⟩)
  · intro u h
    cases h.1
  · intro st u h
    obtain ⟨-, rfl⟩ := h
    apply ends_silent nowS_spec unsent
    intro now _
    unfold sendRaw
    apply Ends.bind (E := fun r v => r = some u.link ∧ v = u) (.reads ⟨rfl, rfl⟩)
    · intro v h
      cases h.1
    · intro l v h
      obtain ⟨same, rfl⟩ := h
      obtain rfl := Option.some.inj same
      rw [here]
      apply Ends.ite (fun not => absurd opened not)
      intro _
      apply ends_silent reply_spec unsent
      intro r _
      apply Ends.ite
      · intro _
        apply Ends.bind (E := fun r v => r = some () ∧ ∃ payload, isJoin payload = true ∧
          v.link = recordSent s payload (opening s w.link)) (.writes ⟨rfl, _, rfl, by rw [opens]⟩)
        · intro y h
          cases h.1
        · intro _ y h
          exact .pure h.2
      · intro _
        apply (spurned_ends current connecting opens).bind
        · intro y moved
          exact ⟨y.link, moved, rfl⟩
        · intro _ y moved
          exact .pure moved

theorem onopen_ends {x : Page} (current : w.link.ws = some s) (connecting : readyState w.link s = .connecting)
    (opens : x.link = setReadyState .opened s w.link) : Ends (onopen s) x (Led may w) := by
  have here : x.link.ws = some s := by rw [opens]; exact current
  unfold onopen
  apply Ends.bind (E := fun r u => r = some x ∧ u = x) (.reads ⟨rfl, rfl⟩)
  · intro u h
    cases h.1
  · intro y u h
    obtain ⟨same, rfl⟩ := h
    obtain rfl := Option.some.inj same
    apply Ends.ite (fun not => absurd here not)
    intro _
    apply Ends.bind (E := fun r v => r = some () ∧ v.link = opening s w.link) (.writes ⟨rfl, by rw [opens]; rfl⟩)
    · intro v h
      cases h.1
    · intro _ v h
      apply (joinSent_ends _ current connecting h.2).bind
      · intro z sent
        obtain ⟨l, path, same⟩ := sent
        exact ⟨l, path, same, fun returned => by cases returned⟩
      · intro done z sent
        cases done with
        | true =>
          obtain ⟨payload, join, link⟩ := sent
          have act : LinkAct may w.link (armJoinTimer s z.link) := by
            rw [link]
            exact .greets s payload w.link current connecting join
          exact .writes ⟨_, .single act, rfl, fun _ => rfl⟩
        | false =>
          have rest : Within (Moves may) (setLink (closeSocket s)) := setLink_moves (.closeSocket s)
          exact ⟨fun env => led_of_moves (ReflTransGen.trans sent (rest.run z env))⟩

theorem socketOpened_led (s : ℕ) (w : Page) : Ends (socketOpened s) w (Led may w) := by
  have stale : ∀ {x : Page}, Moves may w x → x.link.ws ≠ some s → Ends (onopen s) x (Led may w) := by
    intro x moved other
    unfold onopen
    apply Ends.bind (E := fun r u => r = some x ∧ u = x) (.reads ⟨rfl, rfl⟩)
    · intro u h
      cases h.1
    · intro y u h
      obtain ⟨same, rfl⟩ := h
      obtain rfl := Option.some.inj same
      exact .ite (fun _ => .pure (led_of_moves moved)) (fun not => absurd other not)
  unfold socketOpened
  apply Ends.bind (E := fun r u => r = some w.link ∧ u = w) (.reads ⟨rfl, rfl⟩)
  · intro u h
    cases h.1
  · intro l u h
    obtain ⟨same, rfl⟩ := h
    obtain rfl := Option.some.inj same
    apply Ends.ite
    · intro connecting
      apply Ends.bind (E := fun r v => r = some () ∧ v = { u with link := setReadyState .opened s u.link }) (.writes ⟨rfl, rfl⟩)
      · intro v h
        cases h.1
      · intro _ v h
        obtain ⟨-, rfl⟩ := h
        by_cases current : u.link.ws = some s
        · exact onopen_ends current connecting rfl
        · exact stale (.single (.staleOpened s u.link current)) current
    · intro _
      exact .ite (fun other => stale .refl other) (fun _ => .pure (led_of_moves .refl))

/-- The events that let a replaced session connect again. -/
def unblocks (e : Event) (w : Page) : Prop :=
  match e with
  | .socketMessage _ frame => resets frame
  | .enterChat _ => w.link.loginShown = true
  | _ => False

theorem handle_led (e : Event) (chat : Chatty w) : Ends (handle e) w (Led (unblocks e w) w) := by
  cases e with
  | callConnect => exact led_within connect_moves w
  | socketOpen s => exact socketOpened_led s w
  | socketMessage s frame => exact led_ends (onmessage_moves s frame id chat)
  | socketError s => exact .pure (led_of_moves .refl)
  | socketClose s => exact led_within (socketClosed_moves s) w
  | closing s => exact led_within (setLink_moves (.closeSocket s)) w
  | closed s => exact led_within (setLink_moves (.setClosed s)) w
  | timer t => exact led_within (timerFired_moves t) w
  | online => exact led_within onlineListener_moves w
  | enterChat nickname =>
    apply Ends.bind (E := fun r u => r = some w.link ∧ u = w) (.reads ⟨rfl, rfl⟩)
    · intro u h
      cases h.1
    · intro l u h
      obtain ⟨same, rfl⟩ := h
      obtain rfl := Option.some.inj same
      exact .ite (fun shown => led_within (enterChat_moves nickname shown) u) (fun _ => .pure (led_of_moves .refl))
  | sendMessage input => exact led_within (sendMessage_moves input) w
  | createGroup ids => exact led_within (createGroup_moves ids) w
  | openConversation id => exact led_within (onStore_moves _) w
  | startHistoryRecovery => exact led_within startHistoryRecovery_moves w
  | restarting => exact led_within (setLink_moves .restarting) w

end EspWebChat.LinkActs
