import EspWebChat.ConnectionFeeds
import EspWebChat.LocalStore
import EspWebChat.ReplayCursor

set_option autoImplicit false

/-!
# A tab that is fed from the log of the server

The messages the server has stored, less those the ring has lost, are the sequence a tab
follows. Each frame of a feed takes the tab on by one message.
-/
namespace EspWebChat.TabFeeds
open Relation JsonTree JsValues ClientMessages Interruptible BrowserWorld ClientStore ClientSocket
open ServerWorld (TraceEvent Message natJson)
open StoreSteps PageSteps StartSteps WrittenMessages StaleSockets ReplayLaw ReplayCursor
open MessageIds RecoveryBoundary FrameReadings ResumableFeeds
open History (chatHistoryParseSinceId)
open LocalStore (distinct_added retain_distinct)

/-- What is known of the messages that have been stored. -/
structure Log (L : List TraceEvent) : Prop where
  increasing : (storedIds L).Pairwise (· < ·)
  positive : ∀ id ∈ storedIds L, 1 ≤ id
  numbered : ∀ m, .stored m ∈ L → numericId m.payload = m.id
  valid : ∀ m, .stored m ∈ L → validHistoryMessage m.payload = true

variable {L : List TraceEvent} {missed : List ℕ}

/-- The messages a tab has to get. -/
def Log.sequence (log : Log L) (missed : List ℕ) : MessageSequence where
  contains j := ∃ m, .stored m ∈ L ∧ m.id ∉ missed ∧ m.payload = j
  valid := by
    intro j h
    obtain ⟨m, stored, -, rfl⟩ := h
    exact log.valid m stored
  ordered := by
    intro j k h h' same
    obtain ⟨m, stored, -, rfl⟩ := h
    obtain ⟨m', stored', -, rfl⟩ := h'
    rw [log.numbered m stored, log.numbered m' stored'] at same
    rw [stored_unique log.increasing stored stored' same]

/-- A browser that opens the page. The messages in its storage are a text the script has
    written, each id once. -/
structure Browser where
  location : Location
  env : ℕ → Reply
  storage : LocalStorage
  written : ∀ j ∈ storage.messages, stringified j = j
  distinct : ((loadMessages storage).map numericId).Nodup

def Browser.tab (b : Browser) : Tab := load b.location b.env ⟨⟨freshStore b.storage [], freshLink b.location⟩, false⟩

def Browser.setting (b : Browser) (log : Log L) (missed : List ℕ) : Setting :=
  ⟨log.sequence missed, b.tab.page.store.userId, b.storage, b.written⟩

variable {b : Browser} {log : Log L} {t : Tab} {feed : Option (ℕ × ℕ)} {n k s : ℕ}

theorem browser_law (b : Browser) (log : Log L) (missed : List ℕ) : RunLaw (b.setting log missed) b.tab none := by
  have loads := load_law (σ := b.setting log missed)
    (t := ⟨⟨freshStore b.storage [], freshLink b.location⟩, false⟩) b.location storageLaw_start b.env
  refine ⟨loads.1, fun _ => rfl, fun running => (loads.2 running).1, ?_⟩
  intro _ s n none
  cases none

theorem browser_cursor (log : Log L) (missed : List ℕ) (running : b.tab.running = true) :
    b.tab.page.store.lastSeenId = restartCursor (b.setting log missed).archive :=
  ((load_law (σ := b.setting log missed) (t := ⟨⟨freshStore b.storage [], freshLink b.location⟩, false⟩)
    b.location storageLaw_start b.env).2 running).2

section fewer
variable {σ τ : Setting}

/-- The same user and storage, and fewer messages. -/
structure Fewer (σ τ : Setting) : Prop where
  sequence : ∀ j, τ.sequence.contains j → σ.sequence.contains j
  userId : τ.userId = σ.userId
  storage : τ.storage = σ.storage

theorem Fewer.archive (h : Fewer σ τ) : τ.archive = σ.archive := by
  unfold Setting.archive
  rw [h.storage]

theorem Fewer.due (h : Fewer σ τ) {j : Json} (due : τ.due j) : σ.due j :=
  ⟨h.sequence j due.sent, h.userId ▸ due.mine, h.archive ▸ due.above⟩

theorem Fewer.copy (h : Fewer σ τ) {m x : Json} (copy : Copy σ m x) : Copy τ m x := by
  obtain ⟨y, source, rest⟩ := copy
  exact ⟨y, h.archive ▸ source, rest⟩

theorem Fewer.covers (h : Fewer σ τ) {ms : List Json} (covers : Covers σ ms n) : Covers τ ms n := by
  intro m due le
  obtain ⟨x, hx, copy⟩ := covers m (h.due due) le
  exact ⟨x, hx, h.copy copy⟩

theorem Fewer.faithful (h : Fewer σ τ) {ms : List Json} (faithful : Faithful σ ms) : Faithful τ ms :=
  fun x hx m due same => h.copy (faithful x hx m (h.due due) same)

theorem Fewer.storageLaw (h : Fewer σ τ) {a : Archive} (law : StorageLaw σ a) : StorageLaw τ a :=
  ⟨law.written, h.faithful law.faithful, h.covers law.covered⟩

theorem Fewer.runLaw (h : Fewer σ τ) (law : RunLaw σ t feed) : RunLaw τ t feed := by
  refine ⟨h.storageLaw law.storage, fun running => (law.user running).trans h.userId.symm, ?_, ?_⟩
  · intro running
    have page := law.law running
    exact ⟨h.storageLaw page.storage, h.faithful page.faithful, h.covers page.remembered, h.covers page.known,
      fun x hx live => h.covers (page.counted x hx live), page.ahead⟩
  · exact fun running s n hf => h.covers (law.fed running s n hf)

end fewer

theorem setting_fewer (b : Browser) (log : Log L) (missed more : List ℕ) :
    Fewer (b.setting log missed) (b.setting log (missed ++ more)) := by
  refine ⟨?_, rfl, rfl⟩
  intro j h
  obtain ⟨m, stored, there, payload⟩ := h
  exact ⟨m, stored, fun gone => there (List.mem_append_left _ gone), payload⟩

section arrives
variable {σ : Setting}

theorem runLaw_lower (h : RunLaw σ t (some (s, n))) (le : k ≤ n) : RunLaw σ t (some (s, k)) := by
  refine ⟨h.storage, h.user, h.law, ?_⟩
  intro running s' n' hf
  cases hf
  exact (h.fed running s n rfl).le le

theorem runLaw_both (h : RunLaw σ t (some (s, n))) (h' : RunLaw σ t (some (s, k))) : RunLaw σ t (some (s, max n k)) := by
  cases Nat.le_total n k with
  | inl le =>
    rw [Nat.max_eq_right le]
    exact h'
  | inr le =>
    rw [Nat.max_eq_left le]
    exact h

theorem quiet_of_aside {p : Json} (aside : Aside p) : Quiet σ p := by
  refine ⟨?_, ?_, aside.resets⟩
  · intro chat
    rw [aside.chat] at chat
    cases chat
  · intro response
    rw [aside.recovered] at response
    cases response

theorem runLaw_aside {p : Json} (h : RunLaw σ t feed) (env : ℕ → Reply) (aside : Aside p) :
    RunLaw σ (step (.socketMessage s (some p)) env t) feed := by
  apply h.beside env
  intro _ msg same
  obtain rfl := Option.some.inj same
  exact quiet_of_aside aside

end arrives

variable {cfg : ServerWorld.Config} {w : ServerWorld.World cfg} {more : List TraceEvent} {p : Json} {rest : List Json}

theorem next_logged {m : Message} (begins : L = w.trace ++ more) (logged : ConnectionFeeds.Logged w missed m)
    (first : ∀ c, ConnectionFeeds.Logged w missed c → n < c.id → m.id ≤ c.id) :
    Next (b.setting log missed) (min n (m.id - 1)) m.payload := by
  have stored : ∀ {c : Message}, .stored c ∈ w.trace → .stored c ∈ L := by
    intro c hc
    rw [begins]
    exact List.mem_append_left _ hc
  have here := log.numbered m (stored logged.1)
  have positive := log.positive m.id (stored_mem_ids (stored logged.1))
  refine ⟨⟨m, stored logged.1, logged.2, rfl⟩, by omega, ?_⟩
  intro j sent _ behind
  obtain ⟨c, inLog, there, rfl⟩ := sent
  rw [log.numbered c inLog] at behind ⊢
  rw [here]
  rw [begins] at inLog
  cases List.mem_append.mp inLog with
  | inl old =>
    by_cases above : n < c.id
    · exact first c ⟨old, there⟩ above
    · omega
  | inr new =>
    -- what is stored later has a larger id
    have increasing := log.increasing
    rw [begins, storedIds_append, List.pairwise_append] at increasing
    exact Nat.le_of_lt (increasing.2.2 m.id (stored_mem_ids logged.1) c.id (stored_mem_ids new))

theorem delivered (begins : L = w.trace ++ more) (law : RunLaw (b.setting log missed) t (some (s, n)))
    (env : ℕ → Reply) (current : t.page.link.ws = some s)
    (fed : Feed Message.id Message.payload Aside (ConnectionFeeds.Logged w missed) n (p :: rest) k) :
    ∃ n', RunLaw (b.setting log missed) (step (.socketMessage s (some p)) env t) (some (s, n')) ∧
      Feed Message.id Message.payload Aside (ConnectionFeeds.Logged w missed) n' rest k := by
  cases fed with
  | beside other rest => exact ⟨n, runLaw_aside law env other, rest⟩
  | @item _ _ m _ logged first rest =>
    have next : Next (b.setting log missed) (min n (m.id - 1)) m.payload := next_logged begins logged first
    have lower := runLaw_lower law (min_le_left n (m.id - 1))
    have kept := law.step (e := .socketMessage s (some m.payload)) env
      (fun running => allowed_next (law.user running) next (lower.fed running s _ rfl))
    have id := log.numbered m (by rw [begins]; exact List.mem_append_left _ logged.1)
    have brought := lower.brings env current next
    rw [id] at brought
    exact ⟨max n m.id, runLaw_both kept.1 brought, rest⟩

section once
variable {a a' : Archive} {T : Traffic}

def SavedOnce (a : Archive) : Prop := ((savedMessages a).map numericId).Nodup

/-- And so has the page; its cursor is one a server accepts. -/
structure Once (a : Archive) : Prop where
  page : (a.allMessages.map numericId).Nodup
  saved : SavedOnce a
  cursor : a.lastSeenId ≤ maxSafeInteger

theorem numericId_le (m : Json) : numericId m ≤ maxSafeInteger := by
  unfold numericId
  cases h : messageId m with
  | none => exact Nat.zero_le _
  | some n => exact (messageId_bounds h).2

theorem Once.move (h : Once a) (move : Move T a a') : Once a' := by
  cases move with
  | stay => exact h
  | push msg _ _ _ new => exact ⟨distinct_added h.page new, h.saved, h.cursor⟩
  | recover msg source now users _ valid _ new =>
    rw [← numericId_recovered valid users source now] at new
    exact ⟨distinct_added h.page new, h.saved, h.cursor⟩
  | settle => exact ⟨retain_distinct h.page, h.saved, h.cursor⟩
  | save =>
    refine ⟨h.page, ?_, h.cursor⟩
    unfold SavedOnce
    rw [savedMessages_snapshot rfl]
    apply (List.filter_sublist.map numericId).nodup
    rw [List.map_map]
    have same : numericId ∘ stringified = numericId := funext numericId_stringified
    rw [same]
    exact h.page
  | remember msg => exact ⟨h.page, h.saved, numericId_le msg⟩
  | cursor => exact ⟨h.page, h.saved, h.cursor⟩
  | reset => exact ⟨h.page, h.saved, Nat.zero_le _⟩

theorem restartCursor_le (a : Archive) : restartCursor a ≤ maxSafeInteger := by
  apply max_le
  · unfold savedCursor
    cases h : a.storedCursor.bind safeNat with
    | none => exact Nat.zero_le _
    | some n =>
      obtain ⟨q, -, hq⟩ := Option.bind_eq_some_iff.mp h
      exact safeNat_bound hq
  · cases le_foldl_max (Nat.le_refl (localMaxId (savedMessages a))) with
    | inl zero => exact Nat.le_trans zero (Nat.zero_le _)
    | inr found =>
      obtain ⟨x, -, le⟩ := found
      exact Nat.le_trans le (numericId_le x)

/-- What every tab keeps. -/
structure TabOnce (t : Tab) : Prop where
  saved : SavedOnce (archive t.page.store)
  page : t.running = true → Once (archive t.page.store)

theorem browser_once (b : Browser) : TabOnce b.tab := by
  have start : SavedOnce (archive (freshStore b.storage [])) := b.distinct
  have same : ∀ {c : Archive}, SameSaved (archive (freshStore b.storage [])) c → SavedOnce c := by
    intro c same
    unfold SavedOnce
    rw [same.savedMessages]
    exact start
  have reads : ∀ {c : Archive}, SavedOnce c → Once (reloaded c) := fun {c} saved => ⟨saved, saved, restartCursor_le c⟩
  have loads := load_good (K := SavedOnce) (L := Once) (p := True) b.location b.env
    ⟨⟨freshStore b.storage [], freshLink b.location⟩, false⟩ (fun c saved => same saved)
    (fun c saved => reads (same saved)) (fun _ _ move once => once.move move) (fun _ once => once.saved)
  exact ⟨loads.1, fun running => (loads.2 running).1⟩

theorem TabOnce.step (h : TabOnce t) (e : Event) (env : ℕ → Reply) : TabOnce (ClientSocket.step e env t) := by
  unfold ClientSocket.step
  split_ifs with running
  · have once : Once (archive (handle e env t.page).world.store) :=
      (handle_good (p := True) e).invariant (fun w => Once (archive w.store)) (fun _ _ once step => once.move step.store.move)
        (h.page running) env
    exact ⟨once.saved, fun _ => once⟩
  · exact h

end once

/-- A join behind `n`. -/
structure JoinRequest (root : Json) (n : ℕ) : Prop where
  typed : root.member "type" = some (.str "join")
  since : chatHistoryParseSinceId root = some n

theorem joinRequest {userId name : String} {now : Json} (safe : n ≤ maxSafeInteger) :
    JoinRequest (.obj ([("type", str "join"), ("from", str userId), ("name", str name), ("timestamp", now)] ++
      [("since_id", nat n)])) n := by
  refine ⟨rfl, ?_⟩
  have bounds : (0 : ℚ) ≤ n ∧ (n : ℚ) ≤ (ServerWorld.chatMessageMaxSafeId : ℚ) ∧ (n : ℚ).den = 1 :=
    ⟨by positivity, by exact_mod_cast safe, Rat.den_natCast n⟩
  change History.safeInteger 0 (.fin n) = some n
  simp only [History.safeInteger, if_pos bounds]
  simp

/-- What a page does without sending anything. -/
def Mute (u v : Page) : Prop := v.link.sent = u.link.sent

section mute
variable {u : Page}

theorem onStore_mute {α : Type} {m : Client Store α} {P : α → Store → Prop} {T : Traffic}
    (h : Traces (StoreStep T) m u.store P) : Traces Mute (onStore m) u (fun _ _ => True) :=
  (Traces.zoom (fun _ _ => rfl) (fun _ => rfl) h (fun _ _ _ => rfl)).post (fun _ _ _ _ => trivial)

theorem interruptRecovery_mute (u : Page) : Mute u (interruptRecovery u) := by
  unfold interruptRecovery Mute
  cases u.store.activeRecovery with
  | none => rfl
  | some recovery => rfl

theorem scheduleReconnect_sent (l : Link) : (scheduleReconnect l).sent = l.sent := by
  unfold scheduleReconnect
  split_ifs
  · rfl
  · rfl

theorem reconnectSocket_mute (s : ℕ) : Traces Mute (reconnectSocket s) u (fun _ _ => True) := by
  have released : Traces Mute (releaseSocket s) u (fun _ _ => True) := by
    apply Traces.bind (P := fun _ _ => True) (.reads trivial)
    intro l v _ _
    apply Traces.ite (fun _ => .pure trivial)
    intro _
    apply Traces.bind (P := fun _ _ => True) (.writes rfl trivial)
    intro _ x _ _
    apply (onStore_mute (T := .none) resetPresence_spec).bind
    intro _ y _ _
    apply Traces.bind (P := fun _ _ => True) (.writes (interruptRecovery_mute y) trivial)
    intro _ z _ _
    exact .pure trivial
  apply released.bind
  intro done v _ _
  apply Traces.ite (fun _ => .pure trivial)
  intro _
  apply Traces.bind (P := fun _ _ => True) (.writes rfl trivial)
  intro _ x _ _
  exact .writes (scheduleReconnect_sent x.link) trivial

def Sends (payload : Json) (w u : Page) : Prop :=
  u.link.sent = w.link.sent ∨ ∃ s, w.link.ws = some s ∧ u.link.sent = w.link.sent ++ [(s, payload)]

theorem sendRaw_sends (payload : Json) : Ends (sendRaw payload) u (fun _ v => Sends payload u v) := by
  apply ends_silent (P := fun l v => l = v.link) (.reads rfl) (.inl rfl)
  intro l hl
  subst hl
  cases ws : u.link.ws with
  | none => exact .pure (.inl rfl)
  | some s =>
    apply Ends.ite (fun _ => .pure (.inl rfl))
    intro _
    apply ends_silent reply_spec (.inl rfl)
    intro r _
    apply Ends.ite
    · intro _
      apply (Ends.writes (E := fun _ v => Sends payload u v) (.inr ⟨s, ws, rfl⟩)).bind
      · exact fun v sends => sends
      · exact fun _ v sends => .pure sends
    · intro _
      apply ((reconnectSocket_mute s).ends (Mute u) rfl (fun v x before step => step.trans before)).bind
      · exact fun v mute => .inl mute.1
      · exact fun _ v mute => .pure (.inl mute.1)

def Requests (n : ℕ) (u v : Page) : Prop :=
  v.link.sent = u.link.sent ∨ ∃ s root, JoinRequest root n ∧ v.link.sent = u.link.sent ++ [(s, root)]

theorem socketOpened_requests (s : ℕ) (safe : u.store.lastSeenId ≤ maxSafeInteger) :
    Ends (socketOpened s) u (fun _ v => Requests u.store.lastSeenId u v) := by
  have open_requests : ∀ {w : Page}, w.store.lastSeenId = u.store.lastSeenId → w.link.sent = u.link.sent →
      Ends (onopen s) w (fun _ v => Requests u.store.lastSeenId u v) := by
    intro w cursor same
    apply ends_silent (P := fun a x => a = x) (.reads rfl) (.inl same)
    intro a ha
    subst ha
    apply Ends.ite (fun _ => .pure (.inl same))
    intro _
    apply (Ends.writes (E := fun r x => r = some () ∧ x.store = a.store ∧ x.link.sent = u.link.sent) ⟨rfl, rfl, same⟩).bind
    · intro x h
      cases h.1
    intro _ x h
    obtain ⟨-, store, silent⟩ := h
    unfold Requests
    rw [← silent, ← cursor]
    have sending : Ends (sendControl "join" [("since_id", nat a.store.lastSeenId)]) x (fun _ v =>
        Requests a.store.lastSeenId x v) := by
      apply ends_silent (P := fun st _ => st = x.store) (.reads rfl) (.inl rfl)
      intro st hst
      apply ends_silent nowS_spec (.inl rfl)
      intro now _
      apply (sendRaw_sends _).post
      intro _ v sends
      cases sends with
      | inl silent => exact .inl silent
      | inr sent =>
        obtain ⟨s', -, sent⟩ := sent
        exact .inr ⟨s', _, joinRequest (cursor ▸ safe), sent⟩
    apply sending.bind
    · exact fun v sent => sent
    intro done v sent
    apply Ends.ite
    · exact fun _ => .writes sent
    · exact fun _ => .writes sent
  apply ends_silent (P := fun l v => l = v.link) (.reads rfl) (.inl rfl)
  intro l hl
  subst hl
  apply Ends.ite
  · intro _
    apply (Ends.writes (E := fun r x => r = some () ∧ x.store = u.store ∧ x.link.sent = u.link.sent) ⟨rfl, rfl, rfl⟩).bind
    · intro x h
      cases h.1
    intro _ x h
    exact open_requests (congrArg Store.lastSeenId h.2.1) h.2.2
  · intro _
    apply Ends.ite (fun _ => open_requests rfl rfl)
    intro _
    exact .pure (.inl rfl)

end mute

end EspWebChat.TabFeeds
