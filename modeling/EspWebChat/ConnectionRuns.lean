import EspWebChat.LinkActs
import EspWebChat.ConversationRuns

set_option autoImplicit false

/-!
# The connection over the runs of a tab

What every act keeps holds of the link of every page. Of a page that went away in the middle of
a handler, it holds of a link that has sent the same.
-/
namespace EspWebChat.ConnectionRuns
open Relation JsonTree JsValues Interruptible BrowserWorld ClientMessages ClientStore ClientSocket LinkStates TabRuns LinkActs

abbrev anyEvent : Event → Page → Prop := fun _ _ => True

variable {location : Location} {permits : Event → Page → Prop} {may : Prop} {t u : Tab} {l l' : Link} {s : ℕ}

theorem reached_told (h : Reached location permits t) (running : t.running = true) :
    ∃ ledger, OutboxRuns.Tells ledger t.page ∧ OutboxRuns.Gate t.page := by
  induction h with
  | start storage => cases running
  | load env t _ _ => exact ⟨_, OutgoingMessages.load_tells location env t running⟩
  | step e env t _ _ ih =>
    have was := running_before running
    obtain ⟨ledger, tells, gate⟩ := ih was
    have exec : step e env t = Tab.exec (handle e) env t.page := if_pos was
    rw [exec] at running ⊢
    obtain ⟨ledger', -, told, gated⟩ := OutgoingMessages.handle_settles e running ledger tells gate
    exact ⟨ledger', told, gated⟩

theorem reached_chatty (h : Reached location permits t) (running : t.running = true) : Chatty t.page := by
  obtain ⟨ledger, tells, -⟩ := reached_told h running
  exact tells.chat

theorem load_link (env : ℕ → Reply) (t : Tab) : (load location env t).page.link = freshLink location := rfl

structure Held (I : Link → Prop) (t : Tab) : Prop where
  link : t.running = true → I t.page.link
  sent : ∃ v, I v ∧ v.sent = t.page.link.sent

theorem path_keeps {I : Link → Prop} (kept : ∀ l l', LinkAct may l l' → I l → I l') (h : ReflTransGen (LinkAct may) l l')
    (holds : I l) : I l' := by
  induction h with
  | refl => exact holds
  | tail _ act ih => exact kept _ _ act ih

theorem step_held {I : Link → Prop} {e : Event} (kept : ∀ l l', LinkAct (unblocks e t.page) l l' → I l → I l')
    (chat : t.running = true → Chatty t.page) (held : Held I t) (env : ℕ → Reply) : Held I (step e env t) := by
  unfold step
  split_ifs with running
  · obtain ⟨v, path, same, whole⟩ := (handle_led e (chat running)).run env
    have holds := path_keeps kept path (held.link running)
    refine ⟨?_, v, holds, same⟩
    intro returned
    exact whole returned ▸ holds
  · exact held

theorem reached_held {I : Link → Prop} (fresh : I (freshLink location))
    (kept : ∀ may l l', LinkAct may l l' → I l → I l') (h : Reached location permits t) : Held I t := by
  induction h with
  | start storage => exact ⟨fun _ => fresh, _, fresh, rfl⟩
  | load env t _ _ => exact ⟨fun _ => load_link env t ▸ fresh, _, fresh, rfl⟩
  | step e env t before _ ih => exact step_held (kept _) (reached_chatty before) ih env

/-- Nothing is sent, no socket opens and none is added. -/
structure Mild (may : Prop) (l l' : Link) : Prop where
  sent : l'.sent = l.sent
  count : l'.sockets.length = l.sockets.length
  states : ∀ s, readyState l' s = readyState l s ∨ readyState l' s = .closing ∨ readyState l' s = .closed
  ws : l'.ws = l.ws ∨ l'.ws = none
  blocked : l.reconnectBlocked = true → l'.reconnectBlocked = true ∨ may

theorem Mild.refl (l : Link) : Mild may l l := ⟨rfl, rfl, fun _ => .inl rfl, .inl rfl, .inl⟩

theorem Mild.aside (sent : l'.sent = l.sent) (sockets : l'.sockets = l.sockets) (ws : l'.ws = l.ws ∨ l'.ws = none)
    (blocked : l.reconnectBlocked = true → l'.reconnectBlocked = true ∨ may) : Mild may l l' := by
  refine ⟨sent, by rw [sockets], ?_, ws, blocked⟩
  intro s
  left
  unfold readyState
  rw [sockets]

theorem Mild.trans {v : Link} (h : Mild may l l') (k : Mild may l' v) : Mild may l v := by
  refine ⟨k.sent.trans h.sent, k.count.trans h.count, ?_, ?_, ?_⟩
  · intro s
    rcases k.states s with same | away
    · rw [same]
      exact h.states s
    · exact .inr away
  · rcases k.ws with same | gone
    · rw [same]
      exact h.ws
    · exact .inr gone
  · intro was
    rcases h.blocked was with still | allowed
    · exact k.blocked still
    · exact .inr allowed

theorem closeSocket_mild (s : ℕ) (l : Link) : Mild may l (closeSocket s l) := by
  refine ⟨rfl, by simp [closeSocket], ?_, .inl rfl, .inl⟩
  intro s'
  rw [readyState_closeSocket]
  split_ifs
  · exact .inr (.inl rfl)
  · exact .inl rfl

theorem setClosed_mild (f : Socket → Socket) (closes : ∀ x, (f x).readyState = .closed) (s : ℕ) (l : Link) :
    Mild may l (setSocket s f l) := by
  refine ⟨rfl, by simp, ?_, .inl rfl, .inl⟩
  intro s'
  rw [readyState_setSocket]
  split_ifs
  · right; right
    cases l.sockets[s]? with
    | none => rfl
    | some x => exact closes x
  · exact .inl rfl

theorem setTimeout_mild (callback : Callback) (delayMs : ℕ) (l : Link) : Mild may l (setTimeout callback delayMs l) :=
  .aside rfl rfl (.inl rfl) .inl

theorem scheduleReconnect_mild (l : Link) : Mild may l (scheduleReconnect l) := by
  unfold scheduleReconnect
  split_ifs
  · exact .refl l
  · exact .aside rfl rfl (.inl rfl) .inl

theorem tryNextUrl_mild (l : Link) : Mild may l (tryNextUrl l) := by
  unfold tryNextUrl
  split_ifs
  · exact .aside rfl rfl (.inl rfl) .inl
  · refine Mild.trans ?_ (scheduleReconnect_mild _)
    exact .aside rfl rfl (.inl rfl) .inl

theorem adoptHeartbeat_mild (msg : Json) (l : Link) : Mild may l (adoptHeartbeat msg l) := by
  unfold adoptHeartbeat
  split
  · dsimp only
    unfold rearmReceiveTimer
    split_ifs
    · split <;> exact .aside rfl rfl (.inl rfl) .inl
    · exact .aside rfl rfl (.inl rfl) .inl
  · exact .refl l

theorem noteProgress_mild (msg : Json) (l : Link) : Mild may l (noteProgress msg l) := by
  unfold noteProgress
  split
  · split_ifs
    · exact .aside rfl rfl (.inl rfl) .inl
    · exact .refl l
  · exact .refl l

theorem noteTraffic_mild (s : ℕ) (l : Link) : Mild may l (noteTraffic s l) := by
  unfold noteTraffic
  split_ifs
  · exact .aside rfl rfl (.inl rfl) .inl
  · exact .refl l

theorem afterClose_mild (s : ℕ) (l : Link) : Mild may l (afterClose s l) := by
  unfold afterClose
  split_ifs
  · exact .refl l
  · refine Mild.trans ?_ (scheduleReconnect_mild _)
    exact .aside rfl rfl (.inl rfl) .inl
  · exact tryNextUrl_mild l

theorem restarting_mild (l : Link) : Mild may l (restarting l) := by
  unfold restarting
  split
  · refine Mild.trans ?_ (closeSocket_mild _ _)
    exact .aside rfl rfl (.inl rfl) .inl
  · exact .aside rfl rfl (.inl rfl) .inl

theorem constructorFailed_mild (l : Link) : Mild may l (constructorFailed l) := by
  unfold constructorFailed
  refine Mild.trans ?_ (tryNextUrl_mild _)
  exact .aside rfl rfl (.inr rfl) .inl

/-- The acts that matter to what is sent, and to which sockets there are. -/
inductive Bold (l : Link) : Link → Prop where
  | send (s : ℕ) (payload : Json) (current : l.ws = some s) (opened : readyState l s = .opened)
      (other : isJoin payload = false) : Bold l (recordSent s payload l)
  | newSocket (free : l.reconnectBlocked = false) : Bold l (newSocket l)
  | staleOpened (s : ℕ) (stale : l.ws ≠ some s) : Bold l (setReadyState .opened s l)
  | greets (s : ℕ) (payload : Json) (current : l.ws = some s) (connecting : readyState l s = .connecting)
      (join : isJoin payload = true) : Bold l (armJoinTimer s (recordSent s payload (opening s l)))
  | spurned (s : ℕ) (current : l.ws = some s) (connecting : readyState l s = .connecting) :
      Bold l (ClientSocket.detach (opening s l))

theorem act_cases (h : LinkAct may l l') : Mild may l l' ∨ Bold l l' := by
  cases h with
  | detach => exact .inl (.aside rfl rfl (.inr rfl) .inl)
  | closeSocket s => exact .inl (closeSocket_mild s l)
  | scheduleReconnect => exact .inl (scheduleReconnect_mild l)
  | tryNextUrl => exact .inl (tryNextUrl_mild l)
  | clearTimeout timer => exact .inl (.aside rfl rfl (.inl rfl) .inl)
  | window => exact .inl (setTimeout_mild _ _ l)
  | entering => exact .inl (setTimeout_mild _ _ l)
  | send s payload _ current opened other => exact .inr (.send s payload current opened other)
  | joinConfirmed s => exact .inl (.aside rfl rfl (.inl rfl) .inl)
  | unblock _ allowed => exact .inl (.aside rfl rfl (.inl rfl) (fun _ => .inr allowed))
  | adoptHeartbeat msg => exact .inl (adoptHeartbeat_mild msg l)
  | noteProgress msg => exact .inl (noteProgress_mild msg l)
  | noteTraffic s => exact .inl (noteTraffic_mild s l)
  | sessionReplaced => exact .inl (.aside rfl rfl (.inl rfl) (fun _ => .inl rfl))
  | countConnection => exact .inl (.aside rfl rfl (.inl rfl) .inl)
  | newSocket _ free => exact .inr (.newSocket free)
  | constructorFailed => exact .inl (constructorFailed_mild l)
  | forgetReceiveTimer => exact .inl (.aside rfl rfl (.inl rfl) .inl)
  | backOff => exact .inl (.aside rfl rfl (.inl rfl) .inl)
  | afterClose s => exact .inl (afterClose_mild s l)
  | hurry => exact .inl (.aside rfl rfl (.inl rfl) .inl)
  | hideLogin => exact .inl (.aside rfl rfl (.inl rfl) .inl)
  | allowConnecting _ allowed => exact .inl (.aside rfl rfl (.inl rfl) (fun _ => .inr allowed))
  | restarting => exact .inl (restarting_mild l)
  | setClosed s => exact .inl (setClosed_mild _ (fun _ => rfl) s l)
  | closeFires s => exact .inl (setClosed_mild _ (fun _ => rfl) s l)
  | staleOpened s _ stale => exact .inr (.staleOpened s stale)
  | greets s payload _ current connecting join => exact .inr (.greets s payload current connecting join)
  | spurned s _ current connecting => exact .inr (.spurned s current connecting)

def framesOn (s : ℕ) (l : Link) : List Json := (l.sent.filter (fun m => m.1 == s)).map Prod.snd

def GreetsOnce : List Json → Prop
  | [] => True
  | first :: rest => isJoin first = true ∧ ∀ m ∈ rest, isJoin m = false

structure Greeted (l : Link) : Prop where
  once : ∀ s, GreetsOnce (framesOn s l)
  unborn : ∀ s, l.sockets.length ≤ s → framesOn s l = []
  waiting : ∀ s, readyState l s = .connecting → framesOn s l = []
  opened : ∀ s, l.ws = some s → readyState l s = .opened → framesOn s l ≠ []

theorem framesOn_congr (same : l'.sent = l.sent) (s : ℕ) : framesOn s l' = framesOn s l := by
  unfold framesOn
  rw [same]

theorem framesOn_recordSent (payload : Json) (l : Link) (s s' : ℕ) :
    framesOn s' (recordSent s payload l) = if s' = s then framesOn s l ++ [payload] else framesOn s' l := by
  unfold framesOn
  simp only [recordSent_sent, List.filter_append, List.map_append]
  split_ifs with h
  · simp [h]
  · simp [Ne.symm h]

theorem greetsOnce_append {frames : List Json} {payload : Json} (some : frames ≠ []) (once : GreetsOnce frames)
    (other : isJoin payload = false) : GreetsOnce (frames ++ [payload]) := by
  cases frames with
  | nil => exact absurd rfl some
  | cons first rest =>
    refine ⟨once.1, ?_⟩
    intro m hm
    rcases List.mem_append.mp hm with old | new
    · exact once.2 m old
    · rw [List.mem_singleton.mp new]
      exact other

theorem fresh_greeted : Greeted (freshLink location) :=
  ⟨fun _ => trivial, fun _ _ => rfl, fun _ _ => rfl, fun _ h => nomatch h⟩

theorem Greeted.mild (h : Greeted l) (mild : Mild may l l') : Greeted l' := by
  have frames := framesOn_congr mild.sent
  refine ⟨?_, ?_, ?_, ?_⟩
  · intro s
    rw [frames]
    exact h.once s
  · intro s late
    rw [frames]
    exact h.unborn s (mild.count ▸ late)
  · intro s connecting
    rw [frames]
    rcases mild.states s with same | gone | gone
    · exact h.waiting s (same ▸ connecting)
    · rw [gone] at connecting
      cases connecting
    · rw [gone] at connecting
      cases connecting
  · intro s current up
    rw [frames]
    rcases mild.ws with kept | gone
    · rcases mild.states s with same | away | away
      · exact h.opened s (kept ▸ current) (same ▸ up)
      · rw [away] at up
        cases up
      · rw [away] at up
        cases up
    · rw [gone] at current
      cases current

theorem Greeted.send (h : Greeted l) {payload : Json} (current : l.ws = some s) (up : readyState l s = .opened)
    (other : isJoin payload = false) : Greeted (recordSent s payload l) := by
  have frames := framesOn_recordSent payload l s
  have some := h.opened s current up
  refine ⟨?_, ?_, ?_, ?_⟩
  · intro s'
    rw [frames]
    split_ifs
    · exact greetsOnce_append some (h.once s) other
    · exact h.once s'
  · intro s' late
    rw [frames, if_neg, h.unborn s' late]
    rintro rfl
    exact some (h.unborn s' late)
  · intro s' connecting
    rw [frames, if_neg]
    · exact h.waiting s' connecting
    · rintro rfl
      rw [show readyState (recordSent s' payload l) s' = readyState l s' from rfl, up] at connecting
      cases connecting
  · intro s' now up'
    rw [frames]
    split_ifs
    · simp
    · exact h.opened s' now up'

theorem readyState_newSocket (l : Link) (s : ℕ) :
    readyState (newSocket l) s = if s = l.sockets.length then .connecting else readyState l s := by
  have sockets : (newSocket l).sockets = l.sockets ++ [⟨.connecting, false, false⟩] := by simp [newSocket, armConnectTimer]
  unfold readyState
  rw [sockets]
  split_ifs with last
  · subst last
    simp
  · rcases Nat.lt_or_gt_of_ne last with before | after
    · rw [List.getElem?_append_left before]
    · rw [List.getElem?_eq_none (by simp; omega), List.getElem?_eq_none (by omega)]

theorem Greeted.newSocket (h : Greeted l) : Greeted (newSocket l) := by
  have frames : ∀ s, framesOn s (ClientSocket.newSocket l) = framesOn s l := framesOn_congr (by simp [ClientSocket.newSocket, armConnectTimer])
  have count : (ClientSocket.newSocket l).sockets.length = l.sockets.length + 1 := by simp [ClientSocket.newSocket, armConnectTimer]
  have ws : (ClientSocket.newSocket l).ws = some l.sockets.length := by simp [ClientSocket.newSocket, armConnectTimer]
  refine ⟨?_, ?_, ?_, ?_⟩
  · intro s
    rw [frames]
    exact h.once s
  · intro s late
    rw [frames]
    exact h.unborn s (by omega)
  · intro s connecting
    rw [frames]
    rw [readyState_newSocket] at connecting
    split_ifs at connecting with last
    · exact h.unborn s (by omega)
    · exact h.waiting s connecting
  · intro s current up
    rw [ws] at current
    obtain rfl := Option.some.inj current
    rw [readyState_newSocket, if_pos rfl] at up
    cases up

theorem readyState_opening {s' : ℕ} (other : s' ≠ s) (l : Link) : readyState (opening s l) s' = readyState l s' := by
  have first : readyState (setReadyState .opened s l) s' = readyState l s' := by
    unfold setReadyState
    rw [readyState_setSocket, if_neg other]
  rw [← first]
  exact (readyState_setSocket _).trans (if_neg other)

theorem opening_count (s : ℕ) (l : Link) : (opening s l).sockets.length = l.sockets.length := by
  simp [opening, setReadyState]

theorem Greeted.staleOpened (h : Greeted l) (stale : l.ws ≠ some s) : Greeted (setReadyState .opened s l) := by
  have state : ∀ s', s' ≠ s → readyState (setReadyState .opened s l) s' = readyState l s' := by
    intro s' other
    unfold setReadyState
    rw [readyState_setSocket, if_neg other]
  refine ⟨h.once, ?_, ?_, ?_⟩
  · intro s' late
    exact h.unborn s' (by simpa [setReadyState] using late)
  · intro s' connecting
    by_cases other : s' = s
    · subst other
      unfold setReadyState at connecting
      rw [readyState_setSocket, if_pos rfl] at connecting
      cases found : l.sockets[s']? with
      | none =>
        rw [found] at connecting
        cases connecting
      | some x =>
        rw [found] at connecting
        cases connecting
    · exact h.waiting s' (state s' other ▸ connecting)
  · intro s' current up
    have other : s' ≠ s := by
      rintro rfl
      exact stale current
    exact h.opened s' current (state s' other ▸ up)

theorem Greeted.greets (h : Greeted l) {payload : Json} (connecting : readyState l s = .connecting)
    (join : isJoin payload = true) : Greeted (armJoinTimer s (recordSent s payload (opening s l))) := by
  have blank := h.waiting s connecting
  have frames : ∀ s', framesOn s' (armJoinTimer s (recordSent s payload (opening s l))) =
      if s' = s then [payload] else framesOn s' l := by
    intro s'
    rw [framesOn_congr (l := recordSent s payload (opening s l)) (by simp [armJoinTimer]), framesOn_recordSent,
      framesOn_congr (opening_sent s l), framesOn_congr (opening_sent s l), blank]
    rfl
  have state : ∀ s', readyState (armJoinTimer s (recordSent s payload (opening s l))) s' = readyState (opening s l) s' := by
    intro s'
    rfl
  have up := opening_opened connecting
  refine ⟨?_, ?_, ?_, ?_⟩
  · intro s'
    rw [frames]
    split_ifs
    · exact ⟨join, fun _ h => absurd h List.not_mem_nil⟩
    · exact h.once s'
  · intro s' late
    have count : l.sockets.length ≤ s' := by
      rw [← opening_count s l]
      exact late
    have apart : s' ≠ s := by
      rintro rfl
      unfold readyState at connecting
      rw [List.getElem?_eq_none count] at connecting
      cases connecting
    rw [frames, if_neg apart]
    exact h.unborn s' count
  · intro s' waits
    rw [state] at waits
    have apart : s' ≠ s := by
      rintro rfl
      rw [up] at waits
      cases waits
    rw [frames, if_neg apart]
    exact h.waiting s' (readyState_opening apart l ▸ waits)
  · intro s' current up'
    rw [frames]
    split_ifs with same
    · simp
    · rw [state, readyState_opening same] at up'
      have now : l.ws = some s' := by
        rw [← opening_ws s l]
        exact current
      exact h.opened s' now up'

theorem detach_sent (l : Link) : (detach l).sent = l.sent := rfl

theorem detach_sockets (l : Link) : (detach l).sockets = l.sockets := rfl

theorem readyState_detach (l : Link) (s : ℕ) : readyState (detach l) s = readyState l s := rfl

theorem Greeted.spurned (h : Greeted l) (connecting : readyState l s = .connecting) : Greeted (detach (opening s l)) := by
  have frames : ∀ s', framesOn s' (ClientSocket.detach (opening s l)) = framesOn s' l :=
    framesOn_congr ((detach_sent _).trans (opening_sent s l))
  refine ⟨?_, ?_, ?_, fun _ h => nomatch h⟩
  · intro s'
    rw [frames]
    exact h.once s'
  · intro s' late
    rw [frames]
    rw [detach_sockets, opening_count] at late
    exact h.unborn s' late
  · intro s' waits
    have here : readyState (opening s l) s' = .connecting := readyState_detach (opening s l) s' ▸ waits
    have apart : s' ≠ s := by
      rintro rfl
      rw [opening_opened connecting] at here
      cases here
    rw [frames]
    exact h.waiting s' (readyState_opening apart l ▸ here)

theorem greeted_act (act : LinkAct may l l') (h : Greeted l) : Greeted l' := by
  rcases act_cases act with mild | bold
  · exact h.mild mild
  · cases bold with
    | send s payload current up other => exact h.send current up other
    | newSocket free => exact h.newSocket
    | staleOpened s stale => exact h.staleOpened stale
    | greets s payload current connecting join => exact h.greets connecting join
    | spurned s current connecting => exact h.spurned connecting

/-- In every run of a tab, on every socket: the first frame it took is a join and the only one; while
    it is connecting it took none, and once it is open it has taken its join unless it was given up. -/
theorem socket_greets_once (location : Location) (t : Tab) (h : Reached location anyEvent t) :
    (∀ s, GreetsOnce (framesOn s t.page.link)) ∧
    (t.running = true → ∀ s, (readyState t.page.link s = .connecting → framesOn s t.page.link = []) ∧
      (t.page.link.ws = some s → readyState t.page.link s = .opened → framesOn s t.page.link ≠ [])) := by
  have held := reached_held (I := Greeted) fresh_greeted (fun _ _ _ => greeted_act) h
  refine ⟨?_, ?_⟩
  · intro s
    obtain ⟨v, greeted, same⟩ := held.sent
    rw [← framesOn_congr same]
    exact greeted.once s
  · intro running s
    have greeted := held.link running
    exact ⟨greeted.waiting s, greeted.opened s⟩

def openedTab : Tab :=
  step (.socketOpen 0) ConversationRuns.calmBrowser (step .callConnect ConversationRuns.calmBrowser
    (load ⟨false, "esp"⟩ ConversationRuns.calmBrowser (StoreRules.firstTab ⟨false, "esp"⟩ ConversationRuns.emptyStorage)))

theorem openedTab_reached : Reached ⟨false, "esp"⟩ anyEvent openedTab :=
  .step _ _ _ (.step _ _ _ (.load _ _ (.start ConversationRuns.emptyStorage)) trivial) trivial

theorem socket_greets_once_opened : (framesOn 0 openedTab.page.link).length = 1 ∧ GreetsOnce (framesOn 0 openedTab.page.link) :=
  ⟨by decide +kernel, (socket_greets_once ⟨false, "esp"⟩ openedTab openedTab_reached).1 0⟩

def joins (l : Link) : List (ℕ × Json) := l.sent.filter (fun m => isJoin m.2)

structure Away (count : ℕ) (joined : List (ℕ × Json)) (l : Link) : Prop where
  blocked : l.reconnectBlocked = true
  settled : ∀ s, l.ws = some s → readyState l s ≠ .connecting
  count : l.sockets.length = count
  joined : joins l = joined

/-- The events of a page, none of which lets it connect again. -/
inductive Undisturbed (t : Tab) : Tab → Prop where
  | refl : Undisturbed t t
  | step (e : Event) (env : ℕ → Reply) (u : Tab) (before : Undisturbed t u) (other : ¬ unblocks e u.page) :
      Undisturbed t (step e env u)

theorem Undisturbed.reached (h : Undisturbed t u) (start : Reached location anyEvent t) : Reached location anyEvent u := by
  induction h with
  | refl => exact start
  | step e env u _ _ ih => exact .step e env u ih trivial

theorem joins_congr (same : l'.sent = l.sent) : joins l' = joins l := by
  unfold joins
  rw [same]

theorem away_of_mild (mild : Mild may l l') (blocked : l'.reconnectBlocked = true)
    (settled : ∀ s, l.ws = some s → readyState l s ≠ .connecting) : Away l.sockets.length (joins l) l' := by
  refine ⟨blocked, ?_, mild.count, joins_congr mild.sent⟩
  intro s current connecting
  rcases mild.ws with kept | gone
  · rcases mild.states s with same | away | away
    · exact settled s (kept ▸ current) (same ▸ connecting)
    · rw [away] at connecting
      cases connecting
    · rw [away] at connecting
      cases connecting
  · rw [gone] at current
    cases current

theorem away_act {count : ℕ} {joined : List (ℕ × Json)} (act : LinkAct False l l') (h : Away count joined l) :
    Away count joined l' := by
  rcases act_cases act with mild | bold
  · have blocked := (mild.blocked h.blocked).resolve_right id
    have away := away_of_mild mild blocked h.settled
    rw [h.count, h.joined] at away
    exact away
  · cases bold with
    | send s payload _ _ other =>
      refine ⟨h.blocked, h.settled, h.count, ?_⟩
      rw [← h.joined]
      simp [joins, other]
    | newSocket free =>
      rw [h.blocked] at free
      cases free
    | staleOpened s stale =>
      refine ⟨h.blocked, ?_, by simpa [setReadyState] using h.count, h.joined⟩
      intro s' current connecting
      have apart : s' ≠ s := by
        rintro rfl
        exact stale current
      unfold setReadyState at connecting
      rw [readyState_setSocket, if_neg apart] at connecting
      exact h.settled s' current connecting
    | greets s payload current connecting _ => exact absurd connecting (h.settled s current)
    | spurned s current connecting => exact absurd connecting (h.settled s current)

theorem undisturbed_held {I : Link → Prop} (kept : ∀ l l', LinkAct False l l' → I l → I l') (start : Reached location anyEvent t)
    (held : Held I t) (h : Undisturbed t u) : Held I u := by
  induction h with
  | refl => exact held
  | step e env u before other ih =>
    apply step_held _ (reached_chatty (before.reached start)) ih
    rw [eq_false other]
    exact kept

theorem link_bind {α : Type} (f : Link → Client Page α) (env : ℕ → Reply) (w : Page) : (link >>= f) env w = f w.link env w := rfl

theorem replaced_link {w : Page} {msg : Json} (current : w.link.ws = some s) (error : isText "error" (msg.lastMember "type") = true)
    (code : isText "session_replaced" (msg.lastMember "code") = true) (summary : wsMessageSummaryThrows msg = false)
    (shown : conversionThrows (errorText msg) = false) :
    Ends (onmessage s (some msg)) w (fun _ u => u.link = sessionReplaced (noteProgress msg (noteTraffic s w.link))) := by
  have type : text (msg.lastMember "type") = some "error" := by simpa [isText] using error
  have reason : text (msg.lastMember "code") = some "session_replaced" := by simpa [isText] using code
  constructor
  intro env
  have program : onmessage s (some msg) = link >>= fun l => if l.ws = some s then do
      setLink (noteTraffic s)
      setLink (noteProgress msg)
      setLink sessionReplaced
    else pure () := by
    simp [onmessage, handleIncoming, handleSummarized, handleError, summary, shown, isText, type, reason]
  rw [program, link_bind, if_pos current]
  rfl

/-- A page that is told that its session was taken over has sent its last join: until the user
    enters the chat again, whatever happens to it, it opens no further socket. -/
theorem replaced_page_stays_away (location : Location) (t : Tab) (reached : Reached location anyEvent t)
    (running : t.running = true) (s : ℕ) (current : t.page.link.ws = some s) (opened : readyState t.page.link s = .opened)
    (msg : Json) (error : isText "error" (msg.lastMember "type") = true)
    (code : isText "session_replaced" (msg.lastMember "code") = true) (summary : wsMessageSummaryThrows msg = false)
    (shown : conversionThrows (errorText msg) = false) (env : ℕ → Reply) (u : Tab)
    (later : Undisturbed (step (.socketMessage s (some msg)) env t) u) :
    joins u.page.link = joins t.page.link ∧
    (u.running = true → u.page.link.reconnectBlocked = true ∧ u.page.link.sockets.length = t.page.link.sockets.length) := by
  have exec : step (.socketMessage s (some msg)) env t = Tab.exec (onmessage s (some msg)) env t.page := if_pos running
  have link := (replaced_link current error code summary shown).run env
  have mild : Mild False t.page.link (sessionReplaced (noteProgress msg (noteTraffic s t.page.link))) := by
    apply (noteTraffic_mild s _).trans
    apply (noteProgress_mild msg _).trans
    exact .aside rfl rfl (.inl rfl) (fun _ => .inl rfl)
  have settled : ∀ s, t.page.link.ws = some s → readyState t.page.link s ≠ .connecting := by
    intro s' same
    rw [← Option.some.inj (current.symm.trans same), opened]
    simp
  have away := away_of_mild mild rfl settled
  rw [← link] at away
  have start : Held (Away t.page.link.sockets.length (joins t.page.link)) (step (.socketMessage s (some msg)) env t) := by
    rw [exec]
    exact ⟨fun _ => away, _, away, rfl⟩
  have held := undisturbed_held (fun _ _ => away_act) (.step _ env t reached trivial) start later
  refine ⟨?_, ?_⟩
  · obtain ⟨v, still, same⟩ := held.sent
    rw [← still.joined, joins_congr same]
  · intro up
    exact ⟨(held.link up).blocked, (held.link up).count⟩

/-- What the server sends on a connection whose session it gives to another one. -/
def replacedFrame : Json := .obj [("type", str "error"), ("code", str "session_replaced"),
  ("data", str "This user connected from another browser session")]

def replacedTab : Tab := step (.socketMessage 0 (some replacedFrame)) ConversationRuns.calmBrowser openedTab

/-- Its socket closes and the network comes back, and still there is one socket. -/
theorem replaced_page_stays_away_closed :
    (step .online ConversationRuns.calmBrowser (step (.socketClose 0) ConversationRuns.calmBrowser replacedTab)).running = true ∧
      joins (step .online ConversationRuns.calmBrowser (step (.socketClose 0) ConversationRuns.calmBrowser replacedTab)).page.link =
        joins openedTab.page.link :=
  ⟨by decide +kernel, (replaced_page_stays_away ⟨false, "esp"⟩ openedTab openedTab_reached (by decide +kernel) 0
    (by decide +kernel) (by decide +kernel) replacedFrame (by decide +kernel) (by decide +kernel) (by decide +kernel)
    (by decide +kernel) ConversationRuns.calmBrowser _
    (.step _ _ _ (.step _ _ _ .refl id) id)).1⟩

end EspWebChat.ConnectionRuns
