import EspWebChat.ClientSocket

set_option autoImplicit false

/-!
# What the script can do to its messages

An `Archive` is the part of the state that decides which messages are kept: the list, the
cursor, and what the storage holds of them. Every write of a store function is a `Move` of the
archive; `Traffic` says what the frame being handled may bring.
-/
namespace EspWebChat.StoreSteps
open Relation JsonTree JsValues ClientMessages Interruptible BrowserWorld ClientStore ClientSocket

structure Archive where
  userId : String
  allMessages : List Json
  lastSeenId : ℕ
  pruned : List Json
  storedUserId : Option String
  storedMessages : Option Json
  storedCursor : Option Number

def archive (s : Store) : Archive where
  userId := s.userId
  allMessages := s.allMessages
  lastSeenId := s.lastSeenId
  pruned := s.pruned
  storedUserId := s.storage.userId
  storedMessages := s.storage.messages
  storedCursor := s.storage.lastSeenId

/-- The chat messages and the recovered ones that may be added, and whether the cursor may be
    reset. -/
structure Traffic where
  chat : Json → Prop
  recovered : Json → Prop
  resets : Prop

def Traffic.none : Traffic := ⟨fun _ => False, fun _ => False, False⟩

/-- The messages of this page, and those the retention rule has dropped. -/
def memory (a : Archive) : List Json := a.allMessages ++ a.pruned

def knows (a : Archive) (id : ℕ) : Prop := ∃ m ∈ memory a, numericId m = id

inductive Move (T : Traffic) (a : Archive) : Archive → Prop where
  | stay : Move T a a
  | push (msg : Json) (arrives : T.chat msg) (valid : validHistoryMessage msg = true)
      (mine : isMessageForMe a.userId msg = true) (new : hasId (numericId msg) a.allMessages = false) :
      Move T a { a with allMessages := a.allMessages ++ [msg] }
  | recover (msg source now : Json) (users : Members) (arrives : T.recovered msg)
      (valid : validHistoryMessage msg = true) (mine : isMessageForMe a.userId msg = true)
      (new : hasId (numericId msg) a.allMessages = false) :
      Move T a { a with allMessages := a.allMessages ++ [recoveredMessagePayload users msg source now] }
  | settle : Move T a { a with
      allMessages := (retain a.allMessages).1
      pruned := a.pruned ++ (retain a.allMessages).2 }
  | save : Move T a { a with storedMessages := some (snapshot a.allMessages) }
  | remember (msg : Json) (arrives : T.chat msg) (valid : validHistoryMessage msg = true)
      (known : isMessageForMe a.userId msg = true → knows a (numericId msg))
      (saved : a.storedMessages = some (snapshot a.allMessages)) (ahead : a.lastSeenId < numericId msg) :
      Move T a { a with lastSeenId := numericId msg }
  | cursor : Move T a { a with storedCursor := some (.fin a.lastSeenId) }
  | reset (allowed : T.resets) : Move T a { a with lastSeenId := 0 }

/-- The timer of a recovery is the one that ends it. -/
def RecoveryTimed (s : Store) : Prop := ∀ r ∈ s.activeRecovery, r.timer.callback = .finishRecovery

structure StoreStep (T : Traffic) (u v : Store) : Prop where
  move : Move T (archive u) (archive v)
  timed : RecoveryTimed u → RecoveryTimed v

variable {T : Traffic} {s : Store}

theorem StoreStep.archived {u v : Store} (move : Move T (archive u) (archive v))
    (recovery : v.activeRecovery = u.activeRecovery) : StoreStep T u v := by
  refine ⟨move, ?_⟩
  intro h
  unfold RecoveryTimed
  rw [recovery]
  exact h

theorem StoreStep.aside {u v : Store} (same : archive v = archive u)
    (recovery : v.activeRecovery = u.activeRecovery) : StoreStep T u v := by
  apply StoreStep.archived _ recovery
  rw [same]
  exact .stay

theorem lastOf_append {α : Type} (n : ℕ) (xs : List α) : xs.take (xs.length - n) ++ lastOf n xs = xs :=
  List.take_append_drop _ _

theorem sortById_perm (ms : List Json) : (sortById ms).Perm ms := List.mergeSort_perm ms byId

theorem swap_ends {α : Type} (a b c d : List α) : ((a ++ b) ++ (c ++ d)).Perm ((d ++ b) ++ (c ++ a)) := by
  have outer : ((a ++ b) ++ (c ++ d)).Perm ((c ++ d) ++ (a ++ b)) := List.perm_append_comm
  have inner : (c ++ (d ++ (a ++ b))).Perm (c ++ (a ++ (d ++ b))) :=
    (List.perm_append_comm_assoc d a b).append_left c
  apply outer.trans
  rw [List.append_assoc]
  apply inner.trans
  rw [← List.append_assoc]
  exact List.perm_append_comm

theorem kept_perm (ms : List Json) : (kept ms ++ dropped ms).Perm ms := by
  have split : (ms.filter isRecovered ++ ms.filter (fun m => !isRecovered m)).Perm ms :=
    List.filter_append_perm isRecovered ms
  apply (swap_ends _ _ _ _).trans
  rw [lastOf_append, lastOf_append]
  exact split

theorem retain_perm (ms : List Json) : ((retain ms).1 ++ (retain ms).2).Perm ms := by
  have sorted := sortById_perm ms
  by_cases h : maxLocalMessages < (sortById ms).length
  · have hr : retain ms = (sortById (kept (sortById ms)), dropped (sortById ms)) := if_pos h
    rw [hr]
    exact ((sortById_perm _).append_right _).trans ((kept_perm _).trans sorted)
  · have hr : retain ms = (sortById ms, []) := if_neg h
    rw [hr, List.append_nil]
    exact sorted

theorem mem_retain (ms : List Json) (m : Json) : m ∈ (retain ms).1 ∨ m ∈ (retain ms).2 ↔ m ∈ ms := by
  rw [← List.mem_append]
  exact (retain_perm ms).mem_iff

theorem memory_mono {a b : Archive} (h : Move T a b) {m : Json} (hm : m ∈ memory a) : m ∈ memory b := by
  unfold memory at hm ⊢
  rw [List.mem_append] at hm ⊢
  cases h with
  | push | recover =>
    apply hm.imp_left
    exact List.mem_append_left _
  | settle =>
    cases hm with
    | inl hm =>
      apply ((mem_retain a.allMessages m).mpr hm).imp_right
      exact List.mem_append_right _
    | inr hm => exact .inr (List.mem_append_left _ hm)
  | _ => exact hm

theorem knows_mono {a b : Archive} (h : Move T a b) {id : ℕ} (k : knows a id) : knows b id := by
  obtain ⟨m, hm, he⟩ := k
  exact ⟨m, memory_mono h hm, he⟩

theorem move_userId {a b : Archive} (h : Move T a b) : b.userId = a.userId := by
  cases h <;> rfl

theorem reply_spec {S : Type} {w : S} {Step : S → S → Prop} :
    Traces Step (reply : Client S Reply) w (fun _ u => u = w) :=
  .ask (fun _ _ => rfl)

theorem nowS_spec {S : Type} {w : S} {Step : S → S → Prop} :
    Traces Step (nowS : Client S Json) w (fun _ u => u = w) := by
  apply reply_spec.bind
  intro r u _ h
  exact .pure h

theorem current_spec {Step : Store → Store → Prop} :
    Traces Step current s (fun a u => a = s ∧ u = s) :=
  .reads ⟨rfl, rfl⟩

theorem writeStoredValue_spec {f : LocalStorage → LocalStorage} {Step : Store → Store → Prop}
    (step : Step s { s with storage := f s.storage }) :
    Traces Step (writeStoredValue f) s
      (fun done u => u = if done then { s with storage := f s.storage } else s) := by
  apply reply_spec.bind
  intro r u _ h
  subst h
  apply Traces.ite
  · intro _
    apply (Traces.writes (P := fun _ v => v = { u with storage := f u.storage }) step rfl).bind
    intro _ v _ hv
    exact .pure hv
  · intro _
    exact .pure rfl

theorem writeAside {f : LocalStorage → LocalStorage}
    (same : archive { s with storage := f s.storage } = archive s) :
    Traces (StoreStep T) (writeStoredValue f) s (fun _ u => archive u = archive s) := by
  apply (writeStoredValue_spec (StoreStep.aside same rfl)).post
  intro done u _ h
  cases done with
  | false => rw [h]; rfl
  | true => rw [h]; exact same

theorem saveConversations_spec :
    Traces (StoreStep T) saveConversations s (fun _ u => archive u = archive s) := by
  apply (Traces.reads (P := fun _ u => u = s) rfl).bind
  intro conversations u _ h
  subst h
  apply (writeAside rfl).bind
  intro _ v _ hv
  exact .pure hv

theorem saveOutbox_spec : Traces (StoreStep T) saveOutbox s (fun _ u => archive u = archive s) := by
  apply (Traces.writes (P := fun _ u => archive u = archive s) (.aside rfl rfl) rfl).bind
  intro _ u _ hu
  apply (Traces.reads (P := fun _ v => v = u) rfl).bind
  intro outbox v _ hv
  subst hv
  apply (writeAside rfl).bind
  intro _ x _ hx
  exact .pure (hx.trans hu)

theorem updateConversationFromMessage_spec (msg : Json) :
    Traces (StoreStep T) (updateConversationFromMessage msg) s
      (fun _ u => archive u = archive s ∧ u.activeRecovery = s.activeRecovery) := by
  apply Traces.ite
  · intro _
    exact .pure ⟨rfl, rfl⟩
  · intro _
    apply reply_spec.bind
    intro r u _ h
    subst h
    exact .writes (.aside rfl rfl) ⟨rfl, rfl⟩

theorem addOnlineConversations_archive (s : Store) :
    archive (addOnlineConversations s) = archive s ∧
      (addOnlineConversations s).activeRecovery = s.activeRecovery := by
  unfold addOnlineConversations
  generalize s.onlineUsers.filter (fun user => user.1 != s.userId) = users
  induction users generalizing s with
  | nil => exact ⟨rfl, rfl⟩
  | cons user users ih =>
    rw [List.foldl_cons]
    exact ih { s with conversations := assign user.1 (privateEntry s user) s.conversations }

theorem renderConversationList_spec :
    Traces (StoreStep T) renderConversationList s (fun _ u => archive u = archive s) := by
  obtain ⟨same, recovery⟩ := addOnlineConversations_archive s
  apply (Traces.writes (P := fun _ u => archive u = archive s) (.aside same recovery) same).bind
  intro _ u _ hu
  apply saveConversations_spec.post
  intro _ v _ hv
  exact hv.trans hu

theorem render_spec : Traces (StoreStep T) render s (fun _ u => archive u = archive s) :=
  render_traces rfl renderConversationList_spec

theorem renderLast_spec : Traces (StoreStep T) renderLast s (fun _ u => archive u = archive s) :=
  renderLast_traces rfl renderConversationList_spec

theorem writeThenRender {f : Store → Store} {m : Client Store Unit} (same : archive (f s) = archive s)
    (recovery : (f s).activeRecovery = s.activeRecovery)
    (drawn : ∀ u, Traces (StoreStep T) m u (fun _ v => archive v = archive u)) :
    Traces (StoreStep T) (do writes f; m) s (fun _ u => archive u = archive s) := by
  apply (Traces.writes (P := fun _ u => archive u = archive s) (.aside same recovery) same).bind
  intro _ u _ hu
  apply (drawn u).post
  intro _ v _ hv
  exact hv.trans hu

theorem updateOnlineUsers_spec (data : List Json) :
    Traces (StoreStep T) (updateOnlineUsers data) s (fun _ u => archive u = archive s) :=
  writeThenRender rfl rfl (fun _ => renderConversationList_spec)

theorem resetPresence_spec : Traces (StoreStep T) resetPresence s (fun _ u => archive u = archive s) :=
  writeThenRender rfl rfl (fun _ => renderConversationList_spec)

theorem finishHistoryRecovery_spec :
    Traces (StoreStep T) finishHistoryRecovery s (fun _ u => archive u = archive s) := by
  apply current_spec.bind
  intro a u _ h
  obtain ⟨rfl, rfl⟩ := h
  cases u.activeRecovery with
  | none => exact .pure rfl
  | some recovery =>
    have step : StoreStep T u { u with activeRecovery := none } := ⟨.stay, fun _ => by simp [RecoveryTimed]⟩
    apply (Traces.writes (P := fun _ v => archive v = archive u) step rfl).bind
    intro _ v _ hu
    apply Traces.ite
    · intro _
      apply renderLast_spec.post
      intro _ x _ hx
      exact hx.trans hu
    · intro _
      exact .pure hu

theorem queueMessage_spec (message : Json) :
    Traces (StoreStep T) (queueMessage message) s (fun _ u => archive u = archive s) := by
  apply (Traces.writes (P := fun _ u => archive u = archive s) (.aside rfl rfl) rfl).bind
  intro _ u _ hu
  apply saveOutbox_spec.post
  intro _ v _ hv
  exact hv.trans hu

theorem openConversation_spec (conversationId : String) :
    Traces (StoreStep T) (openConversation conversationId) s
      (fun _ u => archive u = archive s) :=
  writeThenRender rfl rfl (fun _ => renderLast_spec)

/-- On success the storage holds the list as it now is. -/
theorem saveMessages_spec : Traces (StoreStep T) saveMessages s (fun saved u =>
    archive u = { archive (prune s) with
      storedMessages := if saved then some (snapshot (prune s).allMessages) else s.storage.messages }) := by
  have settled : StoreStep T s (prune s) := .archived .settle rfl
  apply (Traces.writes (P := fun _ u => u = prune s) settled rfl).bind
  intro _ u _ h
  subst h
  apply (Traces.reads (P := fun ms v => ms = (prune s).allMessages ∧ v = prune s) ⟨rfl, rfl⟩).bind
  intro ms v _ h
  obtain ⟨rfl, rfl⟩ := h
  apply (writeStoredValue_spec (StoreStep.archived .save rfl)).post
  intro done v _ h
  subst h
  cases done with
  | false => rfl
  | true => rfl

theorem storeCursor_spec (id : ℕ) (h : s.lastSeenId = id) :
    Traces (StoreStep T) (storeCursor id) s (fun done u =>
      archive u = { archive s with
        storedCursor := if done then some (.fin id) else s.storage.lastSeenId }) := by
  subst h
  apply (writeStoredValue_spec (StoreStep.archived .cursor rfl)).post
  intro done u _ h
  subst h
  cases done with
  | false => rfl
  | true => rfl

theorem rememberSeenId_spec (msg : Json) (arrives : T.chat msg) (valid : validHistoryMessage msg = true)
    (known : isMessageForMe s.userId msg = true → knows (archive s) (numericId msg))
    (saved : s.storage.messages = some (snapshot s.allMessages)) :
    Traces (StoreStep T) (rememberSeenId (numericId msg)) s (fun _ _ => True) := by
  apply current_spec.bind
  intro a u _ h
  obtain ⟨rfl, rfl⟩ := h
  apply Traces.ite
  · intro ahead
    have step : StoreStep T u { u with lastSeenId := numericId msg } :=
      .archived (.remember msg arrives valid known saved ahead) rfl
    apply (Traces.writes (P := fun _ v => v = { u with lastSeenId := numericId msg }) step rfl).bind
    intro _ x _ hx
    subst hx
    apply (storeCursor_spec (numericId msg) rfl).bind
    intro _ v _ _
    exact .pure trivial
  · intro _
    exact .pure trivial

theorem prune_knows {id : ℕ} (k : knows (archive s) id) : knows (archive (prune s)) id :=
  knows_mono (Move.settle (T := .none)) k

/-- What is known when a computation starts is known when it returns. -/
theorem stillKnown {α : Type} {m : Client Store α} {P : α → Store → Prop} {id : ℕ}
    (h : Traces (StoreStep T) m s P) (k : knows (archive s) id) :
    Traces (StoreStep T) m s (fun _ u => knows (archive u) id) := by
  apply h.keeping (fun u => knows (archive u) id) k
  intro u v hu step
  exact knows_mono step.move hu

theorem saveThenRemember_spec (msg : Json) (arrives : T.chat msg) (valid : validHistoryMessage msg = true)
    (known : isMessageForMe s.userId msg = true → knows (archive s) (numericId msg)) :
    Traces (StoreStep T) (saveThenRemember (numericId msg)) s (fun _ _ => True) := by
  apply saveMessages_spec.bind
  intro saved u _ hu
  apply Traces.ite
  · intro hs
    have same : archive u = { archive (prune s) with storedMessages := some (snapshot (prune s).allMessages) } := by
      rw [hu, if_pos hs]
    have messages : u.allMessages = (prune s).allMessages := congrArg Archive.allMessages same
    have stored : u.storage.messages = some (snapshot (prune s).allMessages) :=
      congrArg Archive.storedMessages same
    apply rememberSeenId_spec msg arrives valid
    · intro mine
      have user : u.userId = s.userId := congrArg Archive.userId same
      rw [same]
      exact prune_knows (known (user ▸ mine))
    · rw [stored, messages]
  · intro _
    exact .pure trivial

theorem hasId_iff {id : ℕ} {ms : List Json} : hasId id ms = true ↔ ∃ m ∈ ms, numericId m = id := by
  simp [hasId]

theorem knows_of_hasId {a : Archive} {id : ℕ} (h : hasId id a.allMessages = true) : knows a id := by
  obtain ⟨m, hm, he⟩ := hasId_iff.mp h
  exact ⟨m, List.mem_append_left _ hm, he⟩

theorem knows_push (s : Store) (msg : Json) : knows (archive (pushMessage msg s)) (numericId msg) :=
  ⟨msg, List.mem_append_left _ (List.mem_append_right _ (List.mem_singleton_self msg)), rfl⟩

theorem saveIncomingMessage_spec (msg : Json) (arrives : T.chat msg) :
    Traces (StoreStep T) (saveIncomingMessage msg) s (fun _ u =>
      validHistoryMessage msg = true → isMessageForMe s.userId msg = true →
        knows (archive u) (numericId msg)) := by
  apply Traces.ite
  · intro invalid
    refine .pure ?_
    intro valid
    rw [valid] at invalid
    cases invalid
  · intro hv
    have valid : validHistoryMessage msg = true := by simpa using hv
    apply current_spec.bind
    intro a u _ h
    obtain ⟨rfl, rfl⟩ := h
    apply Traces.ite
    · intro old
      simp only [Bool.or_eq_true, Bool.not_eq_true'] at old
      have known : isMessageForMe u.userId msg = true → knows (archive u) (numericId msg) := by
        intro mine
        cases old with
        | inl h =>
          rw [mine] at h
          cases h
        | inr h => exact knows_of_hasId h
      have run : Traces (StoreStep T) (do saveThenRemember (numericId msg); pure false : Client Store Bool) u
          (fun _ _ => True) := by
        apply (saveThenRemember_spec msg arrives valid known).bind
        intro _ _ _ _
        exact .pure trivial
      by_cases mine : isMessageForMe u.userId msg = true
      · apply (stillKnown run (known mine)).post
        intro _ _ _ k _ _
        exact k
      · apply run.post
        intro _ _ _ _ _ h
        exact absurd h mine
    · intro fresh
      simp only [Bool.or_eq_true, Bool.not_eq_true', not_or, Bool.not_eq_false, Bool.not_eq_true] at fresh
      have step : StoreStep T u (pushMessage msg u) := .archived (.push msg arrives valid fresh.1 fresh.2) rfl
      apply (Traces.writes (P := fun _ v => v = pushMessage msg u) step rfl).bind
      intro _ v _ hv
      subst hv
      have rest : Traces (StoreStep T) (do
          updateConversationFromMessage msg
          saveThenRemember (numericId msg)
          saveConversations
          pure true : Client Store Bool) (pushMessage msg u) (fun _ _ => True) := by
        apply (updateConversationFromMessage_spec msg).bind
        intro _ x _ hx
        have known : isMessageForMe x.userId msg = true → knows (archive x) (numericId msg) := by
          intro _
          rw [hx.1]
          exact knows_push u msg
        apply (saveThenRemember_spec msg arrives valid known).bind
        intro _ y _ _
        apply saveConversations_spec.bind
        intro _ _ _ _
        exact .pure trivial
      apply (stillKnown rest (knows_push u msg)).post
      intro _ _ _ k _ _
      exact k

theorem importRecoveredMessage_spec (candidate : Option Json) (source : Json)
    (arrives : ∀ c ∈ candidate, T.recovered c) :
    Traces (StoreStep T) (importRecoveredMessage candidate source) s (fun _ _ => True) := by
  cases candidate with
  | none => exact .pure trivial
  | some candidate =>
    apply current_spec.bind
    intro a u _ h
    obtain ⟨rfl, rfl⟩ := h
    apply Traces.ite (fun _ => .pure trivial)
    intro ok
    simp only [Bool.or_eq_true, Bool.not_eq_true', not_or, Bool.not_eq_false] at ok
    apply Traces.ite (fun _ => .pure trivial)
    intro _
    cases hf : u.allMessages.find? (fun stored => numericId stored == numericId candidate) with
    | some existing => exact .pure trivial
    | none =>
      have new : hasId (numericId candidate) u.allMessages = false :=
        List.any_eq_false.mpr (List.find?_eq_none.mp hf)
      apply nowS_spec.bind
      intro now v _ hv
      subst hv
      have step : StoreStep T v (pushMessage (recoveredMessagePayload v.onlineUsers candidate source now) v) :=
        .archived (.recover candidate source now v.onlineUsers (arrives candidate rfl) ok.1 ok.2 new) rfl
      apply (Traces.writes (P := fun _ _ => True) step trivial).bind
      intro _ x _ _
      apply (updateConversationFromMessage_spec _).bind
      intro _ y _ _
      apply saveMessages_spec.bind
      intro _ z _ _
      apply saveConversations_spec.bind
      intro _ _ _ _
      exact .pure trivial

theorem handleHistoryResponse_spec (msg : Json) (arrives : ∀ c ∈ msg.lastMember "message", T.recovered c) :
    Traces (StoreStep T) (handleHistoryResponse msg) s (fun _ _ => True) := by
  apply current_spec.bind
  intro a u _ h
  obtain ⟨rfl, rfl⟩ := h
  cases u.activeRecovery with
  | none => exact .pure trivial
  | some recovery =>
    apply Traces.ite (fun _ => .pure trivial)
    intro _
    apply (importRecoveredMessage_spec _ _ arrives).bind
    intro result v _ _
    apply Traces.ite
    · intro _
      have step : StoreStep T v (markChanged v) := by
        refine ⟨.stay, ?_⟩
        intro timed r hr
        obtain ⟨r', hr', rfl⟩ := Option.map_eq_some_iff.mp hr
        exact timed r' hr'
      exact .writes step trivial
    · intro _
      exact .pure trivial

theorem openNewGroup_archive (msg : Json) (s : Store) : archive (openNewGroup msg s) = archive s ∧
    (openNewGroup msg s).activeRecovery = s.activeRecovery := by
  unfold openNewGroup
  split_ifs
  · exact ⟨rfl, rfl⟩
  · exact ⟨rfl, rfl⟩

theorem handleChat_spec (msg : Json) (arrives : T.chat msg) :
    Traces (StoreStep T) (handleChat msg) s (fun _ u =>
      validHistoryMessage msg = true → isMessageForMe s.userId msg = true →
        knows (archive u) (numericId msg)) := by
  apply (saveIncomingMessage_spec msg arrives).bind
  intro saved u _ hu
  apply Traces.ite
  · intro _
    obtain ⟨same, recovery⟩ := openNewGroup_archive msg u
    apply (writeThenRender same recovery (fun _ => renderLast_spec)).post
    intro _ v _ hv
    rw [hv]
    exact hu
  · intro _
    exact .pure hu

end EspWebChat.StoreSteps
