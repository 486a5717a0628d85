import EspWebChat.OutboxSteps

set_option autoImplicit false
set_option linter.unusedSectionVars false

/-!
# What an event does to the stored state

Most of the script works on the connection and touches the store only through a few functions.
A relation between stores that these functions keep is kept by every event, however the page
ends in the middle of it.
-/
namespace EspWebChat.StoreEffects
open JsonTree JsValues ClientMessages Interruptible BrowserWorld ClientStore ClientSocket OutboxSteps

variable {Rel : Store → Store → Prop}

/-- The part of the store that conversations are made of. -/
structure Core where
  userId : String
  allMessages : List Json
  conversations : Members
  currentConversation : Json
  onlineUsers : Members
  storedMessages : Option Json
  storedConversations : Option Json

def core (s : Store) : Core where
  userId := s.userId
  allMessages := s.allMessages
  conversations := s.conversations
  currentConversation := s.currentConversation
  onlineUsers := s.onlineUsers
  storedMessages := s.storage.messages
  storedConversations := s.storage.conversations

/-- The writes behind the script's own functions, whatever the frame at hand. -/
structure Kept (Rel : Store → Store → Prop) : Prop where
  aside : ∀ s u, core u = core s → Rel s u
  pruned : ∀ s, Rel s (prune s)
  savedMessages : ∀ s, Rel s { s with storage := { s.storage with messages := some (snapshot s.allMessages) } }
  savedConversations : ∀ s,
    Rel s { s with storage := { s.storage with conversations := some (stringified (.obj s.conversations)) } }
  listed : ∀ s, Rel s (addOnlineConversations s)
  reset : ∀ s, Rel s { s with onlineUsers := [(s.userId, str (getNickname s))] }
  entered : ∀ s name, Rel s { s with onlineUsers := setName s.userId name s.onlineUsers }
  opened : ∀ s id, Rel s { s with currentConversation := (s.conversations.lookup id).getD s.currentConversation }

/-- The two writes that add a message. -/
structure Carries (Rel : Store → Store → Prop) (msg : Json) : Prop where
  push : ∀ s, Rel s (pushMessage msg s)
  entry : ∀ s now, Rel s { s with
    conversations := assign (conversationEntry s msg now).1 (conversationEntry s msg now).2 s.conversations }

/-- What a frame may bring. -/
structure Brings (Rel : Store → Store → Prop) (msg : Json) : Prop where
  chat : validHistoryMessage msg = true → Carries Rel msg ∧ ∀ s, Rel s (openNewGroup msg s)
  recovered : isText "historyResponse" (msg.lastMember "type") = true → ∀ candidate,
    msg.lastMember "message" = some candidate → validHistoryMessage candidate = true →
    ∀ users now, Carries Rel (recoveredMessagePayload users candidate msg now)
  presence : isText "onlineUsers" (msg.lastMember "type") = true →
    ∀ s, Rel s { s with onlineUsers := presence s (itemsOf (msg.lastMember "data")) }

theorem then_pure {S α β : Type} (m : Client S α) (b : β) (env : ℕ → Reply) (s : S) :
    ((m >>= fun _ => pure b) env s).world = (m env s).world := by
  cases hm : m env s with
  | mk result u env' =>
    cases result with
    | none => simp [Bind.bind, hm]
    | some a =>
      rw [bind_run hm]
      rfl

theorem writeStoredValue_world (f : LocalStorage → LocalStorage) (env : ℕ → Reply) (s : Store) :
    (writeStoredValue f env s).world = s ∨ (writeStoredValue f env s).world = { s with storage := f s.storage } := by
  by_cases alive : (env 0).unloads = false
  · have asked : (reply : Client Store Reply) env s = ⟨some (env 0), s, fun k => env (k + 1)⟩ := by
      simp [reply, ask, alive]
    unfold writeStoredValue
    rw [bind_run asked]
    split_ifs
    · exact .inr rfl
    · exact .inl rfl
  · have cut : (writeStoredValue f env s).world = s := by
      simp [writeStoredValue, reply, ask, alive, Bind.bind]
    exact .inl cut

section store
variable [Std.Refl Rel] [IsTrans Store Rel] (kept : Kept Rel)
include kept

theorem writeStoredValue_aside {f : LocalStorage → LocalStorage}
    (same : ∀ s : Store, core { s with storage := f s.storage } = core s) : Within Rel (writeStoredValue f) := by
  constructor
  intro s env
  rcases writeStoredValue_world f env s with e | e
  · rw [e]
    exact Std.Refl.refl s
  · rw [e]
    exact kept.aside _ _ (same s)

theorem write_aside {g : Store → Store} (same : ∀ s, core (g s) = core s) : Within Rel (writes g : Client Store Unit) :=
  .writes (fun s => kept.aside s _ (same s))

theorem saveConversations_effects : Within Rel saveConversations := by
  constructor
  intro s env
  have run : (saveConversations env s).world = (writeStoredValue (fun storage =>
      { storage with conversations := some (stringified (.obj s.conversations)) }) env s).world :=
    then_pure _ _ _ _
  rcases writeStoredValue_world (fun storage =>
      { storage with conversations := some (stringified (.obj s.conversations)) }) env s with e | e
  · rw [run, e]
    exact Std.Refl.refl s
  · rw [run, e]
    exact kept.savedConversations s

theorem saveMessages_effects : Within Rel saveMessages := by
  apply Within.bind (.writes kept.pruned)
  intro _
  constructor
  intro s env
  have run : ((reads Store.allMessages >>= fun ms => writeStoredValue (fun storage =>
      { storage with messages := some (snapshot ms) })) env s).world =
      (writeStoredValue (fun storage => { storage with messages := some (snapshot s.allMessages) }) env s).world := rfl
  rcases writeStoredValue_world (fun storage => { storage with messages := some (snapshot s.allMessages) }) env s with e | e
  · rw [run, e]
    exact Std.Refl.refl s
  · rw [run, e]
    exact kept.savedMessages s

theorem saveOutbox_effects : Within Rel saveOutbox := by
  refine Within.bind (write_aside kept (fun _ => rfl)) ?_
  intro _
  apply Within.bind .reads
  intro outbox
  exact (writeStoredValue_aside kept (fun _ => rfl)).bind (fun _ => .pure ())

theorem queueMessage_effects (message : Json) : Within Rel (queueMessage message) :=
  Within.bind (write_aside kept (fun _ => rfl)) (fun _ => saveOutbox_effects kept)

theorem storeCursor_effects (id : ℕ) : Within Rel (storeCursor id) := writeStoredValue_aside kept (fun _ => rfl)

theorem rememberSeenId_effects (id : ℕ) : Within Rel (rememberSeenId id) := by
  apply Within.bind .reads
  intro s
  refine .ite ?_ (.pure ())
  refine Within.bind (write_aside kept (fun _ => rfl)) ?_
  intro _
  exact (storeCursor_effects kept id).bind (fun _ => .pure ())

theorem saveThenRemember_effects (id : ℕ) : Within Rel (saveThenRemember id) := by
  apply (saveMessages_effects kept).bind
  intro saved
  exact .ite (rememberSeenId_effects kept id) (.pure ())

theorem renderConversationList_effects : Within Rel renderConversationList :=
  Within.bind (.writes kept.listed) (fun _ => saveConversations_effects kept)

theorem render_effects : Within Rel render := render_within (renderConversationList_effects kept)

theorem renderLast_effects : Within Rel renderLast := renderLast_within (renderConversationList_effects kept)

theorem resetPresence_effects : Within Rel resetPresence :=
  Within.bind (.writes kept.reset) (fun _ => renderConversationList_effects kept)

theorem finishHistoryRecovery_effects : Within Rel finishHistoryRecovery := by
  apply Within.bind .reads
  intro s
  cases s.activeRecovery with
  | none => exact .pure ()
  | some recovery =>
    refine Within.bind (write_aside kept (fun _ => rfl)) ?_
    intro _
    exact .ite (renderLast_effects kept) (.pure ())

omit kept

theorem updateConversationFromMessage_effects {msg : Json} (carries : Carries Rel msg) :
    Within Rel (updateConversationFromMessage msg) := by
  refine .ite (.pure ()) ?_
  apply reply_within.bind
  intro r
  exact .writes (fun s => carries.entry s _)

include kept

theorem saveIncomingMessage_effects {msg : Json} (carries : validHistoryMessage msg = true → Carries Rel msg) :
    Within Rel (saveIncomingMessage msg) := by
  unfold saveIncomingMessage
  split_ifs with invalid
  · exact .pure false
  · have brought := carries (by simpa using invalid)
    apply Within.bind .reads
    intro s
    refine .ite ?_ ?_
    · exact (saveThenRemember_effects kept _).bind (fun _ => .pure false)
    · apply Within.bind (.writes brought.push)
      intro _
      apply (updateConversationFromMessage_effects brought).bind
      intro _
      apply (saveThenRemember_effects kept _).bind
      intro _
      exact (saveConversations_effects kept).bind (fun _ => .pure true)

theorem handleChat_effects {msg : Json} (brings : Brings Rel msg) : Within Rel (handleChat msg) := by
  by_cases valid : validHistoryMessage msg = true
  · apply (saveIncomingMessage_effects kept (fun h => (brings.chat h).1)).bind
    intro saved
    refine .ite ?_ (.pure ())
    exact Within.bind (.writes (brings.chat valid).2) (fun _ => renderLast_effects kept)
  · have ignored : handleChat msg = pure () := by
      unfold handleChat saveIncomingMessage
      rw [if_pos (by simpa using valid)]
      rfl
    rw [ignored]
    exact .pure ()

theorem importRecoveredMessage_effects {candidate : Option Json} {source : Json}
    (carries : ∀ c, candidate = some c → validHistoryMessage c = true →
      ∀ users now, Carries Rel (recoveredMessagePayload users c source now)) :
    Within Rel (importRecoveredMessage candidate source) := by
  cases candidate with
  | none => exact .pure ImportResult.ignored
  | some c =>
    unfold importRecoveredMessage
    apply Within.bind .reads
    intro s
    by_cases accepted : (!validHistoryMessage c || !isMessageForMe s.userId c) = true
    · rw [if_pos accepted]
      exact .pure ImportResult.ignored
    · rw [if_neg accepted]
      have valid : validHistoryMessage c = true := by
        simp only [Bool.or_eq_true, not_or, Bool.not_eq_true', Bool.not_eq_false] at accepted
        exact accepted.1
      refine .ite (.pure ImportResult.ignored) ?_
      cases s.allMessages.find? (fun stored => numericId stored == numericId c) with
      | some existing => exact .pure _
      | none =>
        apply nowS_within.bind
        intro now
        have brought := carries c rfl valid s.onlineUsers now
        apply Within.bind (.writes brought.push)
        intro _
        apply (updateConversationFromMessage_effects brought).bind
        intro _
        apply (saveMessages_effects kept).bind
        intro _
        exact (saveConversations_effects kept).bind (fun _ => .pure ImportResult.imported)

theorem handleHistoryResponse_effects {msg : Json} (brings : Brings Rel msg)
    (type : isText "historyResponse" (msg.lastMember "type") = true) : Within Rel (handleHistoryResponse msg) := by
  apply Within.bind .reads
  intro s
  cases s.activeRecovery with
  | none => exact .pure ()
  | some recovery =>
    refine .ite (.pure ()) ?_
    apply (importRecoveredMessage_effects kept (brings.recovered type)).bind
    intro result
    exact .ite (write_aside kept (fun _ => rfl)) (.pure ())

theorem updateOnlineUsers_effects {msg : Json} (brings : Brings Rel msg)
    (type : isText "onlineUsers" (msg.lastMember "type") = true) :
    Within Rel (updateOnlineUsers (itemsOf (msg.lastMember "data"))) :=
  Within.bind (.writes (brings.presence type)) (fun _ => renderConversationList_effects kept)

end store

def OnStore (Rel : Store → Store → Prop) (w u : Page) : Prop := Rel w.store u.store

instance [Std.Refl Rel] : Std.Refl (OnStore Rel) := ⟨fun w => Std.Refl.refl w.store⟩
instance [h : IsTrans Store Rel] : IsTrans Page (OnStore Rel) := ⟨fun _ _ _ ab bc => h.trans _ _ _ ab bc⟩

section page
variable [Std.Refl Rel] [IsTrans Store Rel]

theorem onStore_effects {α : Type} {m : Client Store α} (h : Within Rel m) : Within (OnStore Rel) (onStore m) :=
  h.zoom (fun _ _ rel => rel)

theorem setLink_effects (f : Link → Link) : Within (OnStore Rel) (setLink f) :=
  .writes (fun w => Std.Refl.refl w.store)

theorem connect_effects : Within (OnStore Rel) connect := by
  apply Within.bind .reads
  intro l
  refine .ite (.pure ()) ?_
  apply (setLink_effects _).bind
  intro _
  apply reply_within.bind
  intro r
  exact .ite (setLink_effects _) (setLink_effects _)

variable (kept : Kept Rel)
include kept

theorem setStore_aside {f : Store → Store} (same : ∀ s, core (f s) = core s) : Within (OnStore Rel) (setStore f) :=
  .writes (fun w => kept.aside w.store _ (same w.store))

theorem releaseSocket_effects (s : ℕ) : Within (OnStore Rel) (releaseSocket s) := by
  have interrupted : ∀ w : Page, OnStore Rel w (interruptRecovery w) := by
    intro w
    apply kept.aside
    unfold interruptRecovery
    split <;> rfl
  apply Within.bind .reads
  intro l
  refine .ite (.pure false) ?_
  apply (setLink_effects _).bind
  intro _
  apply (onStore_effects (resetPresence_effects kept)).bind
  intro _
  exact .bind (.writes interrupted) (fun _ => .pure true)

theorem reconnectSocket_effects (s : ℕ) : Within (OnStore Rel) (reconnectSocket s) := by
  apply (releaseSocket_effects kept s).bind
  intro released
  refine .ite (.pure ()) ?_
  exact (setLink_effects _).bind (fun _ => setLink_effects _)

theorem sendRaw_effects (payload : Json) : Within (OnStore Rel) (sendRaw payload) := by
  apply Within.bind .reads
  intro l
  cases l.ws with
  | none => exact .pure false
  | some s =>
    refine .ite (.pure false) ?_
    apply reply_within.bind
    intro r
    refine .ite ?_ ?_
    · exact (setLink_effects _).bind (fun _ => .pure true)
    · exact (reconnectSocket_effects kept s).bind (fun _ => .pure false)

theorem sendControl_effects (type : String) (extra : Members) : Within (OnStore Rel) (sendControl type extra) := by
  apply Within.bind .reads
  intro s
  apply nowS_within.bind
  intro now
  exact sendRaw_effects kept _

theorem sendPending_effects (pending : List Json) : Within (OnStore Rel) (sendPending pending) := by
  induction pending with
  | nil => exact .pure []
  | cons message pending ih =>
    apply nowS_within.bind
    intro now
    apply (sendRaw_effects kept _).bind
    intro done
    exact .ite ih (.pure _)

theorem flushOutbox_effects : Within (OnStore Rel) flushOutbox := by
  apply Within.bind .reads
  intro w
  refine .ite (.pure ()) ?_
  apply (sendPending_effects kept _).bind
  intro remaining
  refine Within.bind (setStore_aside kept (fun _ => rfl)) ?_
  intro _
  exact onStore_effects (saveOutbox_effects kept)

theorem confirmSocketJoin_effects : Within (OnStore Rel) confirmSocketJoin := by
  apply Within.bind .reads
  intro l
  cases l.ws with
  | none => exact .pure ()
  | some s => exact .ite (.pure ()) ((setLink_effects _).bind (fun _ => flushOutbox_effects kept))

theorem resetSinceIdAndReconnect_effects : Within (OnStore Rel) resetSinceIdAndReconnect := by
  refine Within.bind (setStore_aside kept (fun _ => rfl)) ?_
  intro _
  apply (onStore_effects (storeCursor_effects kept 0)).bind
  intro _
  apply (setLink_effects _).bind
  intro _
  apply Within.bind .reads
  intro l
  cases l.ws with
  | some s => exact reconnectSocket_effects kept s
  | none => exact setLink_effects _

theorem handleHistoryInfo_effects (msg : Json) : Within (OnStore Rel) (handleHistoryInfo msg) := by
  unfold handleHistoryInfo
  cases safeNat (numberOfMember (msg.lastMember "restore_before_id")) with
  | none => exact .pure ()
  | some before =>
    apply (setLink_effects _).bind
    intro _
    exact .ite (.pure ()) (setStore_aside kept (fun _ => rfl))

theorem sendResponses_effects (requestId : String) (requester : Json) (stored : List Json) :
    Within (OnStore Rel) (sendResponses requestId requester stored) := by
  induction stored with
  | nil => exact .pure ()
  | cons m stored ih => exact (sendControl_effects kept _ _).bind (fun _ => ih)

theorem handleHistoryRequest_effects (msg : Json) : Within (OnStore Rel) (handleHistoryRequest msg) := by
  apply Within.bind .reads
  intro s
  cases validRequestId (msg.lastMember "requestId") with
  | none => exact .pure ()
  | some requestId =>
    cases msg.lastMember "from" with
    | none => exact .pure ()
    | some requester =>
      cases safeNat (numberOfMember (msg.lastMember "restore_before_id")) with
      | none => exact .pure ()
      | some before => exact .ite (.pure ()) (sendResponses_effects kept _ _ _)

theorem startHistoryRecovery_effects : Within (OnStore Rel) startHistoryRecovery := by
  have begun : ∀ requestId boundary, ∀ w : Page, OnStore Rel w (beginRecovery requestId boundary w) :=
    fun requestId boundary w => kept.aside _ _ rfl
  apply Within.bind .reads
  intro w
  refine .ite (.pure ()) ?_
  apply reply_within.bind
  intro r
  apply (sendControl_effects kept _ _).bind
  intro done
  exact .ite (.writes (begun _ _)) (.pure ())

theorem handlePresence_effects {msg : Json} (brings : Brings Rel msg)
    (type : isText "onlineUsers" (msg.lastMember "type") = true) : Within (OnStore Rel) (handlePresence msg) := by
  apply Within.bind .reads
  intro s
  refine .ite (.pure ()) ?_
  exact (confirmSocketJoin_effects kept).bind (fun _ => onStore_effects (updateOnlineUsers_effects kept brings type))

theorem handleError_effects (msg : Json) : Within (OnStore Rel) (handleError msg) :=
  .ite (.pure ()) (.ite (resetSinceIdAndReconnect_effects kept) (.ite (setLink_effects _) (.pure ())))

theorem handleIncoming_effects {msg : Json} (brings : Brings Rel msg) : Within (OnStore Rel) (handleIncoming (some msg)) := by
  apply Within.ite (.pure ())
  apply (setLink_effects _).bind
  intro _
  refine .ite ?_ (.ite (handleHistoryInfo_effects kept msg) (.ite (handleHistoryRequest_effects kept msg) ?_))
  · apply Within.bind .reads
    intro s
    apply nowS_within.bind
    intro now
    exact (sendRaw_effects kept _).bind (fun _ => .pure ())
  · split_ifs with response presence
    · exact onStore_effects (handleHistoryResponse_effects kept brings response)
    · exact handlePresence_effects kept brings presence
    · exact handleError_effects kept msg
    · exact onStore_effects (handleChat_effects kept brings)
    · exact .pure ()

theorem onmessage_effects (s : ℕ) {frame : Option Json} (brings : ∀ msg, frame = some msg → Brings Rel msg) :
    Within (OnStore Rel) (onmessage s frame) := by
  apply Within.bind .reads
  intro l
  refine .ite (.pure ()) ?_
  apply (setLink_effects _).bind
  intro _
  cases frame with
  | none => exact .pure ()
  | some msg => exact handleIncoming_effects kept (brings msg rfl)

theorem connectTimedOut_effects (s : ℕ) : Within (OnStore Rel) (connectTimedOut s) := by
  apply Within.bind .reads
  intro l
  refine .ite ?_ (.pure ())
  apply (releaseSocket_effects kept s).bind
  intro released
  exact (setLink_effects _).bind (fun _ => setLink_effects _)

theorem joinTimedOut_effects (s : ℕ) : Within (OnStore Rel) (joinTimedOut s) :=
  Within.bind .reads (fun _ => .ite (reconnectSocket_effects kept s) (.pure ()))

theorem receiveTimedOut_effects (s : ℕ) : Within (OnStore Rel) (receiveTimedOut s) := by
  apply (setLink_effects _).bind
  intro _
  exact Within.bind .reads (fun _ => .ite (reconnectSocket_effects kept s) (.pure ()))

theorem onopen_effects (s : ℕ) : Within (OnStore Rel) (onopen s) := by
  apply Within.bind .reads
  intro w
  refine .ite (.pure ()) ?_
  apply (setLink_effects _).bind
  intro _
  apply (sendControl_effects kept _ _).bind
  intro done
  exact .ite (setLink_effects _) (setLink_effects _)

theorem socketOpened_effects (s : ℕ) : Within (OnStore Rel) (socketOpened s) := by
  apply Within.bind .reads
  intro l
  refine .ite ?_ (.ite (onopen_effects kept s) (.pure ()))
  exact (setLink_effects _).bind (fun _ => onopen_effects kept s)

theorem socketClosed_effects (s : ℕ) : Within (OnStore Rel) (socketClosed s) := by
  apply (setLink_effects _).bind
  intro _
  apply Within.bind .reads
  intro l
  refine .ite (.pure ()) ?_
  exact (releaseSocket_effects kept s).bind (fun _ => setLink_effects _)

theorem runCallback_effects (callback : Callback) : Within (OnStore Rel) (runCallback callback) := by
  cases callback with
  | enter =>
    apply (setLink_effects _).bind
    intro _
    apply (onStore_effects (render_effects kept)).bind
    intro drawn
    exact .ite connect_effects (.pure ())
  | connect => exact connect_effects
  | connectTimeout s => exact connectTimedOut_effects kept s
  | joinTimeout s => exact joinTimedOut_effects kept s
  | receiveTimeout s => exact receiveTimedOut_effects kept s
  | reconnect => exact (setLink_effects _).bind (fun _ => connect_effects)
  | finishRecovery => exact onStore_effects (finishHistoryRecovery_effects kept)

theorem timerFired_effects (t : Timer) : Within (OnStore Rel) (timerFired t) := by
  apply Within.bind .reads
  intro l
  refine .ite ?_ (.pure ())
  exact (setLink_effects _).bind (fun _ => runCallback_effects kept t.callback)

theorem enterChat_effects (input : String) : Within (OnStore Rel) (enterChat input) := by
  refine .ite (.pure ()) ?_
  apply (setLink_effects _).bind
  intro _
  refine Within.bind (setStore_aside kept (fun _ => rfl)) ?_
  intro _
  apply (onStore_effects (writeStoredValue_aside kept (fun _ => rfl))).bind
  intro _
  exact Within.bind (.writes (fun w => kept.entered w.store _)) (fun _ => setLink_effects _)

theorem sendOrQueue_effects (message : Json) : Within (OnStore Rel) (sendOrQueue message) := by
  apply Within.bind .reads
  intro l
  have attempt : Within (OnStore Rel) (if l.wsJoined then sendRaw message else pure false) :=
    .ite (sendRaw_effects kept message) (.pure false)
  apply attempt.bind
  intro done
  exact .ite (.pure ()) (onStore_effects (queueMessage_effects kept message))

theorem sendMessage_effects (input : String) : Within (OnStore Rel) (sendMessage input) := by
  refine .ite (.pure ()) ?_
  apply Within.bind .reads
  intro s
  apply nowS_within.bind
  intro now
  exact sendOrQueue_effects kept _

theorem openConversation_effects (id : String) : Within Rel (openConversation id) :=
  Within.bind (.writes (fun s => kept.opened s id)) (fun _ => renderLast_effects kept)

omit kept

/-- The conversation `createGroup` writes, with the id the browser picks and the time at hand. -/
def createdGroup (s : Store) (selectedIds : List String) (uuid : String) (now : Json) : Json :=
  let names := ((s.userId :: selectedIds).eraseDups).map (memberName s)
  let groupName := truncatePoints (joinedNames names) 63
  .obj [("id", str ("group-" ++ uuid)), ("name", groupName), ("type", str "group"),
    ("members", .arr (withUser s.userId selectedIds)),
    ("lastPreview", ofPoints (pointsOf (str (getNickname s ++ " created ")) ++ pointsOf groupName)), ("updatedAt", now)]

def addGroup (groupId : String) (conversation : Json) (s : Store) : Store :=
  { s with conversations := assign groupId conversation s.conversations, currentConversation := conversation }

include kept

theorem createGroup_effects (selectedIds : List String) (w : Page) (env : ℕ → Reply)
    (created : selectedIds ≠ [] → ∀ now s, Rel s
      (addGroup ("group-" ++ (env 0).uuid) (createdGroup w.store selectedIds (env 0).uuid now) s)) :
    OnStore Rel w (createGroup selectedIds env w).world := by
  have start : (store : Client Page Store) env w = ⟨some w.store, w, env⟩ := rfl
  unfold createGroup
  split_ifs with empty
  · exact Std.Refl.refl w.store
  · rw [bind_run start]
    by_cases alive : (env 0).unloads = false
    · have asked : (reply : Client Page Reply) env w = ⟨some (env 0), w, fun k => env (k + 1)⟩ := by
        simp [reply, ask, alive]
      rw [bind_run asked]
      apply Within.run
      apply nowS_within.bind
      intro now
      refine Within.bind (.writes (fun v => created empty now v.store)) ?_
      intro _
      apply (onStore_effects (saveConversations_effects kept)).bind
      intro _
      exact (onStore_effects (renderConversationList_effects kept)).bind (fun _ => sendOrQueue_effects kept _)
    · have cut : ∀ f : Reply → Client Page Unit, ((reply >>= f) env w).world = w := by
        intro f
        simp [reply, ask, alive, Bind.bind]
      rw [cut]
      exact Std.Refl.refl w.store

theorem handle_effects (e : Event) (w : Page) (env : ℕ → Reply)
    (brings : ∀ s msg, e = .socketMessage s (some msg) → Brings Rel msg)
    (created : ∀ selectedIds, e = .createGroup selectedIds → selectedIds ≠ [] → ∀ now s, Rel s
      (addGroup ("group-" ++ (env 0).uuid) (createdGroup w.store selectedIds (env 0).uuid now) s)) :
    OnStore Rel w (handle e env w).world := by
  cases e with
  | callConnect => exact connect_effects.run w env
  | socketOpen s => exact (socketOpened_effects kept s).run w env
  | socketMessage s frame =>
    exact (onmessage_effects kept s (fun msg hf => brings s msg (by rw [hf]))).run w env
  | socketError s => exact Std.Refl.refl w.store
  | socketClose s => exact (socketClosed_effects kept s).run w env
  | closing s => exact Std.Refl.refl w.store
  | closed s => exact Std.Refl.refl w.store
  | timer t => exact (timerFired_effects kept t).run w env
  | online =>
    have listens : Within (OnStore Rel) onlineListener :=
      Within.bind .reads (fun _ => .ite ((setLink_effects _).bind (fun _ => connect_effects)) (.pure ()))
    exact listens.run w env
  | enterChat nickname =>
    have enters : Within (OnStore Rel) (handle (.enterChat nickname)) :=
      Within.bind .reads (fun _ => .ite (enterChat_effects kept nickname) (.pure ()))
    exact enters.run w env
  | sendMessage input => exact (sendMessage_effects kept input).run w env
  | createGroup ids => exact createGroup_effects kept ids w env (created ids rfl)
  | openConversation id => exact (onStore_effects (openConversation_effects kept id)).run w env
  | startHistoryRecovery => exact (startHistoryRecovery_effects kept).run w env
  | restarting => exact Std.Refl.refl w.store

end page

end EspWebChat.StoreEffects
