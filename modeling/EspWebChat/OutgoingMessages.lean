import EspWebChat.OutboxRuns

set_option autoImplicit false

/-!
# The user's messages in the order they were composed

A page is followed from its load through any events. What its sockets took and what is still
in the outbox is what the outbox was loaded with and what has been composed since, but for the
oldest messages of an outbox that was full.
-/
namespace EspWebChat.OutgoingMessages
open JsonTree JsValues ClientMessages Interruptible BrowserWorld ClientStore ClientSocket
open StoreSteps PageSteps OutgoingQueue OutboxSteps OutboxRuns

def newGroupMessage (s : Store) (selectedIds : List String) (uuid : String) (now : Json) : Json :=
  let members := withUser s.userId selectedIds
  let groupId := "group-" ++ uuid
  let names := ((s.userId :: selectedIds).eraseDups).map (memberName s)
  let groupName := truncatePoints (joinedNames names) 63
  .obj [("type", str "newGroup"), ("from", str s.userId), ("name", str (getNickname s)),
    ("groupId", str groupId), ("groupName", groupName),
    ("to", .obj [("all", .bool false), ("users", .arr members)]),
    ("data", ofPoints (pointsOf (str (getNickname s ++ " created ")) ++ pointsOf groupName)), ("timestamp", now)]

/-- The beginnings of `sendMessage` and `createGroup`, up to the message they make. -/
def composing : Event → Client Page (List Json)
  | .sendMessage input =>
    if trim input = "" then pure []
    else do
      let s ← store
      let now ← nowS
      pure [buildOutgoingMessage s (truncateUtf8 (trim input) 256) now]
  | .createGroup selectedIds =>
    if selectedIds = [] then pure []
    else do
      let s ← store
      let r ← reply
      let now ← nowS
      pure [newGroupMessage s selectedIds r.uuid now]
  | _ => pure []

def composed (e : Event) (env : ℕ → Reply) (w : Page) : List Json := (composing e env w).result.getD []

theorem isChat_text (s : Store) (data : String) (now : Json) : isChat (buildOutgoingMessage s data now) = true := by
  have kind : (buildOutgoingMessage s data now).lastMember "type" = some (str "text") := by
    apply lastMember_append
    split_ifs
    · cases s.currentConversation.lastMember "id" <;> cases s.currentConversation.lastMember "name" <;> rfl
    · rfl
  unfold isChat
  rw [kind]
  rfl

theorem isChat_group (s : Store) (selectedIds : List String) (uuid : String) (now : Json) :
    isChat (newGroupMessage s selectedIds uuid now) = true := rfl

variable {w : Page} {env : ℕ → Reply} {location : Location}

theorem store_read (w : Page) (env : ℕ → Reply) : store env w = ⟨some w.store, w, env⟩ := rfl

theorem nowS_returned {a : Json} {u : Page} {env' : ℕ → Reply} (h : nowS env w = ⟨some a, u, env'⟩) : u = w := by
  have reads : Ran nowS w (fun _ u => u = w) := nowS_spec
  have same := (reads env).2 a (by rw [h])
  rw [h] at same
  exact same

theorem reply_returned {r : Reply} {u : Page} {env' : ℕ → Reply} (h : reply env w = ⟨some r, u, env'⟩) : u = w := by
  have reads : Ran reply w (fun _ u => u = w) := reply_spec
  have same := (reads env).2 r (by rw [h])
  rw [h] at same
  exact same

theorem sendMessage_settles (input : String) (returns : (sendMessage input env w).result.isSome = true) :
    Settles ((composed (.sendMessage input) env w).map untimed) w (sendMessage input env w).world := by
  obtain ⟨a, ha⟩ := Option.isSome_iff_exists.mp returns
  unfold composed composing
  unfold sendMessage at ha ⊢
  by_cases empty : trim input = ""
  · simp only [if_pos empty]
    exact .of_quiet ⟨rfl, rfl, id⟩
  · rw [if_neg empty] at ha ⊢
    simp only [if_neg empty]
    obtain ⟨s, u, env1, hs, run⟩ := bind_returned ha
    cases hs
    rw [run] at ha ⊢
    rw [bind_run (store_read w env)]
    obtain ⟨now, u, env2, hn, run'⟩ := bind_returned ha
    obtain rfl := nowS_returned hn
    rw [run'] at ha ⊢
    rw [bind_run hn]
    exact (sendOrQueue_ran (isChat_text _ _ _) env2).2 a ha

theorem createGroup_settles (selectedIds : List String)
    (returns : (createGroup selectedIds env w).result.isSome = true) :
    Settles ((composed (.createGroup selectedIds) env w).map untimed) w (createGroup selectedIds env w).world := by
  obtain ⟨a, ha⟩ := Option.isSome_iff_exists.mp returns
  unfold composed composing
  unfold createGroup at ha ⊢
  by_cases empty : selectedIds = []
  · simp only [if_pos empty]
    exact .of_quiet ⟨rfl, rfl, id⟩
  · rw [if_neg empty] at ha ⊢
    simp only [if_neg empty]
    obtain ⟨s, u, env1, hs, run⟩ := bind_returned ha
    cases hs
    rw [run] at ha ⊢
    rw [bind_run (store_read w env)]
    obtain ⟨r, u, env2, hr, run2⟩ := bind_returned ha
    obtain rfl := reply_returned hr
    rw [run2] at ha ⊢
    rw [bind_run hr]
    obtain ⟨now, u, env3, hn, run3⟩ := bind_returned ha
    obtain rfl := nowS_returned hn
    rw [run3] at ha ⊢
    rw [bind_run hn]
    have ends : ∀ {m : Client Page Unit} {ms : List Json}, Ran m u (fun _ z => Settles ms u z) →
        (m env3 u).result = some a → Settles ms u (m env3 u).world :=
      fun h ha => (h env3).2 a ha
    refine ends ?_ ha
    refine (Traces.writes (P := fun _ v => Quiet u v) trivial ⟨rfl, rfl, id⟩).bind ?_
    intro _ v _ opened
    apply ((onStore_quiet saveConversations_outbox).traces v).bind
    intro _ x _ saved
    apply ((onStore_quiet renderConversationList_outbox).traces x).bind
    intro _ y _ shown
    apply (sendOrQueue_ran (isChat_group u.store selectedIds r.uuid now)).post
    intro _ z _ settles
    exact settles.after (opened.trans (saved.trans shown))

theorem handle_settles (e : Event) (returns : (handle e env w).result.isSome = true) :
    Settles ((composed e env w).map untimed) w (handle e env w).world := by
  obtain ⟨a, ha⟩ := Option.isSome_iff_exists.mp returns
  cases e with
  | callConnect => exact .of_quiet (connect_quiet.run w env)
  | socketOpen s => exact (socketOpened_ran s env).2 a ha
  | socketMessage s frame => exact (onmessage_ran s frame env).2 a ha
  | socketError s => exact .of_quiet ⟨rfl, rfl, id⟩
  | socketClose s => exact .of_quiet ((socketClosed_quiet s).run w env)
  | closing s => exact .of_quiet ((setLink_quiet (closeSocket_calm s)).run w env)
  | closed s => exact .of_quiet ((setLink_quiet (setClosed_calm s)).run w env)
  | timer t => exact .of_quiet ((timerFired_quiet t).run w env)
  | online => exact .of_quiet (onlineListener_quiet.run w env)
  | enterChat nickname =>
    have quiet : Within Quiet (handle (.enterChat nickname)) :=
      .bind .reads (fun _ => .ite (enterChat_quiet nickname) (.pure ()))
    exact .of_quiet (quiet.run w env)
  | sendMessage input => exact sendMessage_settles input returns
  | createGroup ids => exact createGroup_settles ids returns
  | openConversation id => exact .of_quiet ((onStore_quiet (openConversation_outbox id)).run w env)
  | startHistoryRecovery => exact .of_quiet (startHistoryRecovery_quiet.run w env)
  | restarting => exact .of_quiet ((setLink_quiet restarting_calm).run w env)

/-- From `first`, the page as it was loaded, to the tab; `composed` has been composed on the way. -/
inductive Session (location : Location) : Page → List Json → Tab → Prop where
  | start (env : ℕ → Reply) (t : Tab) (loads : (load location env t).running = true) :
      Session location (load location env t).page [] (load location env t)
  | event {first : Page} {messages : List Json} {t : Tab} (before : Session location first messages t) (e : Event)
      (env : ℕ → Reply) (runs : (step e env t).running = true) :
      Session location first (messages ++ composed e env t.page) (step e env t)

theorem own_chat {userId : String} {msg : Json} (own : ownMessage userId msg = true) : isChat msg = true := by
  unfold ownMessage at own
  have valid := (Bool.and_eq_true _ _ ▸ own).1
  have kind : (Json.obj (spread msg.members [("id", nat 1)])).lastMember "type" = msg.lastMember "type" :=
    lookup_assign (by decide) (nat 1) msg.members
  have chat := chat_of_valid valid
  rw [kind] at chat
  exact chat

theorem updateConversations_outbox (ms : List Json) : Within SameOutbox (updateConversations ms) := by
  induction ms with
  | nil => exact .pure ()
  | cons m ms ih => exact (updateConversationFromMessage_outbox m).bind (fun _ => ih)

theorem startStore_chat (s : Store) :
    Traces (fun _ _ => True) startStore s (fun _ u => ∀ m ∈ u.outbox, isChat m = true) := by
  have any : ∀ {α : Type} (m : Client Store α) (s : Store), Traces (fun _ _ => True) m s (fun _ _ => True) :=
    fun m s env => ⟨.single trivial, fun _ _ => trivial⟩
  apply (any chooseUserId s).bind
  intro _ u _ _
  apply (any chooseNickname u).bind
  intro _ v _ _
  apply Traces.bind (P := fun _ x => ∀ m ∈ x.outbox, isChat m = true)
  · apply (Traces.writes (P := fun _ x => ∀ m ∈ x.outbox, isChat m = true) trivial ?_).bind
    · intro _ x _ hx
      have rest : Within SameOutbox (do
          let saved ← saveMessages
          let s ← current
          if saved then do
            let _ ← storeCursor s.lastSeenId
            updateConversations s.allMessages
          else updateConversations s.allMessages) := by
        apply saveMessages_outbox.bind
        intro saved
        apply Within.bind .reads
        intro s
        apply Within.ite
        · exact (writeStoredValue_outbox _).bind (fun _ => updateConversations_outbox _)
        · exact updateConversations_outbox _
      apply (rest.traces x).post
      intro _ y _ hy
      rw [hy]
      exact hx
    · intro m hm
      exact own_chat (List.mem_filter.mp hm).2
  · intro _ x _ hx
    have rest : Within SameOutbox (do
        writes (fun s => { s with currentConversation :=
          (s.conversations.lookup "global").getD s.currentConversation })
        renderLast) := by
      refine Within.bind (.writes (fun _ => rfl)) ?_
      intro _
      exact renderLast_outbox
    apply (rest.traces x).post
    intro _ y _ hy
    rw [hy]
    exact hx

theorem load_tells (location : Location) (env : ℕ → Reply) (t : Tab) (loads : (load location env t).running = true) :
    Tells ⟨[], (load location env t).page.store.outbox.map untimed⟩ (load location env t).page ∧
      Gate (load location env t).page := by
  obtain ⟨a, ha⟩ := Option.isSome_iff_exists.mp loads
  have run : Ran (onStore startStore) (freshPage location t.page) (fun _ u =>
      (∀ m ∈ u.store.outbox, isChat m = true) ∧ u.link = freshLink location) := by
    apply (Traces.zoom (fun _ _ => rfl) (fun _ => rfl) (startStore_chat _) (fun _ _ _ => trivial)).post
    intro _ u _ hu
    obtain ⟨chat, v, rfl⟩ := hu
    exact ⟨chat, rfl⟩
  obtain ⟨chat, fresh⟩ := (run env).2 a ha
  have link : (load location env t).page.link = freshLink location := fresh
  refine ⟨⟨?_, rfl, chat⟩, ?_⟩
  · rw [link]
    rfl
  · intro on
    rw [link] at on
    cases on

theorem session_tells {first : Page} {messages : List Json} {t : Tab} (h : Session location first messages t) :
    t.running = true ∧ ∃ l, Run maxOutboxMessages ⟨[], first.store.outbox.map untimed⟩ (messages.map untimed) l ∧
      Tells l t.page ∧ Gate t.page := by
  induction h with
  | start env t loads => exact ⟨loads, _, .start, load_tells location env t loads⟩
  | @event first messages t before e env runs ih =>
    obtain ⟨running, l, run, tells, gate⟩ := ih
    have exec : step e env t = Tab.exec (handle e) env t.page := if_pos running
    have returns : (handle e env t.page).result.isSome = true := by
      rw [exec] at runs
      exact runs
    obtain ⟨l', next, told, gated⟩ := handle_settles e returns l tells gate
    refine ⟨runs, l', ?_, ?_, ?_⟩
    · rw [List.map_append]
      exact run.step next
    · rw [exec]
      exact told
    · rw [exec]
      exact gated

/-- In any run of a page the chat messages its sockets took and its outbox are those of a queue
    that started with the outbox as it was loaded: no message is lost, doubled or overtaken, but
    for those given up while `maxOutboxMessages` newer ones waited. While the page can send at
    once, nothing waits. -/
theorem outgoing_messages_kept (location : Location) :
    (∀ first messages t, Session location first messages t →
      ∃ l : Ledger Json, Run maxOutboxMessages ⟨[], first.store.outbox.map untimed⟩ (messages.map untimed) l ∧
        l.sent = (chats t.page.link).map untimed ∧ l.waiting = t.page.store.outbox.map untimed ∧
        l.items = (first.store.outbox ++ messages).map untimed ∧ Overtaken maxOutboxMessages l) ∧
    (∀ first messages t, Session location first messages t → t.page.link.wsJoined = true →
      isOpen t.page.link t.page.link.ws = true → t.page.store.outbox = []) := by
  refine ⟨?_, ?_⟩
  · intro first messages t session
    obtain ⟨-, l, run, tells, -⟩ := session_tells session
    refine ⟨l, run, tells.sent, tells.waiting, ?_, ?_⟩
    · rw [run_items run, List.map_append]
      rfl
    · apply run_overtaken run
      intro older m newer split
      simp at split
  · intro first messages t session joined up
    obtain ⟨-, l, -, -, gate⟩ := session_tells session
    apply gate
    unfold direct
    rw [joined, up]
    rfl

end EspWebChat.OutgoingMessages
