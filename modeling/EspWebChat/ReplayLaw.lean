import EspWebChat.StartSteps
import EspWebChat.WrittenMessages

set_option autoImplicit false

/-!
# What ties the replay cursor to the messages

The messages one server sends are fixed. `StorageLaw` is about what the storage holds of them
and true at any point where a page can end, `Law` about a page that has read the storage.
-/
namespace EspWebChat.ReplayLaw
open JsonTree JsValues ClientMessages BrowserWorld ClientStore
open StoreSteps StartSteps WrittenMessages

/-- Each id is used once. -/
structure MessageSequence where
  contains : Json → Prop
  valid : ∀ m, contains m → validHistoryMessage m = true
  ordered : ∀ m n, contains m → contains n → numericId m = numericId n → m = n

/-- A sequence of messages, a user who follows it, and the storage the first page finds, in which
    the messages are a text the script has written. -/
structure Setting where
  sequence : MessageSequence
  userId : String
  storage : LocalStorage
  written : ∀ j ∈ storage.messages, stringified j = j

def Setting.archive (σ : Setting) : Archive := StoreSteps.archive (freshStore σ.storage [])

/-- The messages for this user above the cursor the first page starts with. -/
structure Setting.due (σ : Setting) (m : Json) : Prop where
  sent : σ.sequence.contains m
  mine : isMessageForMe σ.userId m = true
  above : restartCursor σ.archive < numericId m

/-- `x` reads as `m`, or as what the first page has found under the id of `m`. -/
def Copy (σ : Setting) (m x : Json) : Prop :=
  ∃ y, (y = m ∨ y ∈ savedMessages σ.archive) ∧ numericId y = numericId m ∧ stringified x = stringified y

def Holds (σ : Setting) (ms : List Json) (m : Json) : Prop := ∃ x ∈ ms, Copy σ m x

/-- No message up to `n` is missing. -/
def Covers (σ : Setting) (ms : List Json) (n : ℕ) : Prop := ∀ m, σ.due m → numericId m ≤ n → Holds σ ms m

/-- What has the id of a message is a copy of it. -/
def Faithful (σ : Setting) (ms : List Json) : Prop :=
  ∀ x ∈ ms, ∀ m, σ.due m → numericId x = numericId m → Copy σ m x

/-- The messages a page would find in the storage, and those the retention rule has dropped. -/
def durable (a : Archive) : List Json := savedMessages a ++ a.pruned

variable {σ : Setting} {T : Traffic} {a b : Archive} {ms ms' : List Json} {m x : Json} {n k : ℕ}

theorem Covers.mono (h : Covers σ ms n) (sub : ∀ x ∈ ms, x ∈ ms') : Covers σ ms' n := by
  intro m due le
  obtain ⟨x, hx, copy⟩ := h m due le
  exact ⟨x, sub x hx, copy⟩

theorem Covers.le (h : Covers σ ms n) (le : k ≤ n) : Covers σ ms k :=
  fun m due below => h m due (Nat.le_trans below le)

theorem covers_next (sent : σ.sequence.contains x)
    (before : ∀ m, σ.due m → numericId m < numericId x → Holds σ ms m)
    (itself : σ.due x → Holds σ ms x) : Covers σ ms (numericId x) := by
  intro m due le
  by_cases same : numericId m = numericId x
  · obtain rfl := σ.sequence.ordered m x due.sent sent same
    exact itself due
  · exact before m due (by omega)

theorem Copy.self : Copy σ m m := ⟨m, .inl rfl, rfl, rfl⟩

theorem Copy.stringified (h : Copy σ m x) : Copy σ m (stringified x) := by
  obtain ⟨y, source, id, same⟩ := h
  exact ⟨y, source, id, (stringified_twice x).trans same⟩

theorem Copy.valid (h : Copy σ m x) (due : σ.due m) : validHistoryMessage (JsValues.stringified x) = true := by
  obtain ⟨y, source, -, same⟩ := h
  rw [same]
  apply validHistoryMessage_stringified
  cases source with
  | inl e =>
    rw [e]
    exact σ.sequence.valid m due.sent
  | inr found => exact (List.mem_filter.mp found).2

theorem holds_of_knows {id : ℕ} (faithful : Faithful σ (memory a)) (known : knows a id) (due : σ.due m)
    (same : id = numericId m) : Holds σ (memory a) m := by
  obtain ⟨x, hx, he⟩ := known
  exact ⟨x, hx, faithful x hx m due (he.trans same)⟩

theorem savedMessages_snapshot (saved : a.storedMessages = some (snapshot a.allMessages)) :
    savedMessages a = (a.allMessages.map stringified).filter validHistoryMessage := by
  unfold savedMessages
  rw [saved]
  rfl

theorem Holds.saved (h : Holds σ (memory a) m) (due : σ.due m)
    (saved : a.storedMessages = some (snapshot a.allMessages)) : Holds σ (durable a) m := by
  obtain ⟨x, hx, copy⟩ := h
  unfold durable
  cases List.mem_append.mp hx with
  | inl inMemory =>
    refine ⟨JsValues.stringified x, List.mem_append_left _ ?_, copy.stringified⟩
    rw [savedMessages_snapshot saved]
    exact List.mem_filter.mpr ⟨List.mem_map_of_mem inMemory, copy.valid due⟩
  | inr dropped => exact ⟨x, List.mem_append_right _ dropped, copy⟩

theorem Covers.saved (h : Covers σ (memory a) n)
    (saved : a.storedMessages = some (snapshot a.allMessages)) : Covers σ (durable a) n :=
  fun m due le => (h m due le).saved due saved

theorem le_foldl_max {xs : List Json} {start : ℕ}
    (h : n ≤ xs.foldl (fun maxId msg => max maxId (numericId msg)) start) :
    n ≤ start ∨ ∃ x ∈ xs, n ≤ numericId x := by
  induction xs generalizing start with
  | nil => exact .inl h
  | cons y ys ih =>
    cases ih h with
    | inl first =>
      cases le_max_iff.mp first with
      | inl low => exact .inl low
      | inr here => exact .inr ⟨y, List.mem_cons_self, here⟩
    | inr later =>
      obtain ⟨x, hx, le⟩ := later
      exact .inr ⟨x, List.mem_cons_of_mem _ hx, le⟩

theorem le_foldl_start (xs : List Json) (start : ℕ) :
    start ≤ xs.foldl (fun maxId msg => max maxId (numericId msg)) start := by
  induction xs generalizing start with
  | nil => exact Nat.le_refl _
  | cons y ys ih => exact Nat.le_trans (le_max_left _ _) (ih _)

theorem le_foldl_mem {xs : List Json} {start : ℕ} (hx : x ∈ xs) :
    numericId x ≤ xs.foldl (fun maxId msg => max maxId (numericId msg)) start := by
  induction xs generalizing start with
  | nil => cases hx
  | cons y ys ih =>
    cases hx with
    | head => exact Nat.le_trans (le_max_right _ _) (le_foldl_start ys _)
    | tail _ h => exact ih h

/-- A positive id up to that of the largest message that was not recovered. -/
theorem le_localMaxId (positive : 0 < n) (h : n ≤ localMaxId ms) :
    ∃ x ∈ ms, isRecovered x = false ∧ n ≤ numericId x := by
  cases le_foldl_max h with
  | inl zero => omega
  | inr found =>
    obtain ⟨x, hx, le⟩ := found
    obtain ⟨member, live⟩ := List.mem_filter.mp hx
    exact ⟨x, member, by simpa using live, le⟩

theorem localMaxId_mem (hx : x ∈ ms) (live : isRecovered x = false) : numericId x ≤ localMaxId ms :=
  le_foldl_mem (List.mem_filter.mpr ⟨hx, by simp [live]⟩)

/-- What the storage is like whenever a page may end. -/
structure StorageLaw (σ : Setting) (a : Archive) : Prop where
  written : ∀ j ∈ a.storedMessages, stringified j = j
  faithful : Faithful σ (durable a)
  covered : Covers σ (durable a) (restartCursor a)

/-- What is true of a page that has read its messages: its cursor is covered by the storage and
    by its memory, and so is every id that a page after it may take for its cursor. -/
structure Law (σ : Setting) (a : Archive) : Prop where
  storage : StorageLaw σ a
  faithful : Faithful σ (memory a)
  remembered : Covers σ (durable a) a.lastSeenId
  known : Covers σ (memory a) a.lastSeenId
  counted : ∀ x ∈ a.allMessages, isRecovered (stringified x) = false → Covers σ (memory a) (numericId x)
  ahead : savedCursor a ≤ a.lastSeenId

theorem written_items {items : List Json} (h : NumberMaps.mapItems writtenNumber items = items) : ∀ x ∈ items, stringified x = x := by
  induction items with
  | nil =>
    intro x hx
    cases hx
  | cons j js ih =>
    rw [NumberMaps.mapItems] at h
    obtain ⟨first, rest⟩ := List.cons.inj h
    intro x hx
    cases hx with
    | head => exact first
    | tail _ hx => exact ih rest x hx

theorem written_saved (written : ∀ j ∈ a.storedMessages, stringified j = j) (hx : x ∈ savedMessages a) :
    stringified x = x := by
  have member := (List.mem_filter.mp hx).1
  cases hj : a.storedMessages with
  | none =>
    rw [hj] at member
    cases member
  | some j =>
    rw [hj] at member
    cases j with
    | arr items =>
      have whole := written _ hj
      rw [stringified, NumberMaps.mapNumbers] at whole
      exact written_items (Json.arr.inj whole) x member
    | null | bool | num | str | cut | obj => cases member

theorem StorageLaw.same (h : StorageLaw σ a) (same : SameSaved a b) : StorageLaw σ b := by
  have durableSame : durable b = durable a := by
    unfold durable
    rw [same.savedMessages, same.pruned]
  refine ⟨?_, ?_, ?_⟩
  · rw [same.messages]
    exact h.written
  · rw [durableSame]
    exact h.faithful
  · rw [durableSame, same.restartCursor]
    exact h.covered

theorem StorageLaw.reloaded (h : StorageLaw σ a) : Law σ (reloaded a) := by
  refine ⟨h.same ⟨rfl, rfl, rfl⟩, h.faithful, h.covered, h.covered, ?_, le_max_left _ _⟩
  intro x hx live
  rw [written_saved h.written hx] at live
  apply h.covered.le
  exact Nat.le_trans (localMaxId_mem hx live) (le_max_right _ _)

theorem storageLaw_start : StorageLaw σ σ.archive := by
  refine ⟨σ.written, ?_, ?_⟩
  · intro x hx m _ same
    have found : x ∈ savedMessages σ.archive := by
      cases List.mem_append.mp hx with
      | inl saved => exact saved
      | inr dropped => cases dropped
    exact ⟨x, .inr found, same, rfl⟩
  · intro m due le
    have above := due.above
    omega

/-- What a frame brings fits in: the next message of the sequence, recovered messages from
    outside it. -/
structure Allowed (σ : Setting) (T : Traffic) (a : Archive) : Prop where
  user : a.userId = σ.userId
  chat : ∀ msg, T.chat msg → validHistoryMessage msg = true → σ.sequence.contains msg ∧
    ∀ m, σ.due m → numericId m < numericId msg → Holds σ (memory a) m
  recovered : ∀ c m, T.recovered c → σ.sequence.contains m → numericId c ≠ numericId m
  resets : ¬T.resets

theorem Allowed.move (h : Allowed σ T a) (move : Move T a b) : Allowed σ T b := by
  refine ⟨(move_userId move).trans h.user, ?_, h.recovered, h.resets⟩
  intro msg arrives valid
  obtain ⟨sent, before⟩ := h.chat msg arrives valid
  refine ⟨sent, ?_⟩
  intro m due lt
  obtain ⟨x, hx, copy⟩ := before m due lt
  exact ⟨x, memory_mono move hx, copy⟩

theorem Law.added (h : Law σ a) (faithful : ∀ m, σ.due m → numericId x = numericId m → Copy σ m x)
    (counted : isRecovered (stringified x) = false →
      Covers σ (memory { a with allMessages := a.allMessages ++ [x] }) (numericId x)) :
    Law σ { a with allMessages := a.allMessages ++ [x] } := by
  have sub : ∀ y ∈ memory a, y ∈ memory { a with allMessages := a.allMessages ++ [x] } := by
    intro y hy
    simp only [memory, List.mem_append] at hy ⊢
    exact hy.imp_left .inl
  refine ⟨h.storage.same ⟨rfl, rfl, rfl⟩, ?_, h.remembered, h.known.mono sub, ?_, h.ahead⟩
  · intro y hy
    simp only [memory, List.mem_append, List.mem_singleton] at hy
    cases hy with
    | inl page =>
      cases page with
      | inl old => exact h.faithful y (List.mem_append_left _ old)
      | inr new =>
        rw [new]
        exact faithful
    | inr dropped => exact h.faithful y (List.mem_append_right _ dropped)
  · intro y hy live
    cases List.mem_append.mp hy with
    | inl old => exact (h.counted y old live).mono sub
    | inr new =>
      obtain rfl := List.mem_singleton.mp new
      exact counted live

theorem Law.push (h : Law σ a) (sent : σ.sequence.contains x)
    (before : ∀ m, σ.due m → numericId m < numericId x → Holds σ (memory a) m) :
    Law σ { a with allMessages := a.allMessages ++ [x] } := by
  apply h.added
  · intro m due same
    obtain rfl := σ.sequence.ordered x m sent due.sent same
    exact .self
  · intro _
    apply covers_next sent
    · intro m due lt
      obtain ⟨y, hy, copy⟩ := before m due lt
      refine ⟨y, ?_, copy⟩
      simp only [memory, List.mem_append] at hy ⊢
      exact hy.imp_left .inl
    · intro _
      exact ⟨x, List.mem_append_left _ (List.mem_append_right _ (List.mem_singleton_self x)), .self⟩

theorem Law.recover (h : Law σ a) (valid : validHistoryMessage m = true)
    (outside : ∀ n, σ.sequence.contains n → numericId m ≠ numericId n) (users : Members)
    (source now : Json) :
    Law σ { a with allMessages := a.allMessages ++ [recoveredMessagePayload users m source now] } := by
  apply h.added
  · intro n due same
    rw [numericId_recovered valid] at same
    exact absurd same (outside n due.sent)
  · intro live
    rw [isRecovered_recovered] at live
    cases live

theorem Law.settle (h : Law σ a) : Law σ { a with
    allMessages := (retain a.allMessages).1
    pruned := a.pruned ++ (retain a.allMessages).2 } := by
  have sub := fun y hy => memory_mono (T := .none) (Move.settle (a := a)) (m := y) hy
  have moved : ∀ y ∈ (retain a.allMessages).1 ++ (a.pruned ++ (retain a.allMessages).2), y ∈ memory a := by
    intro y hy
    have split := mem_retain a.allMessages y
    simp only [memory, List.mem_append] at hy ⊢
    tauto
  have stored : ∀ y ∈ durable a, y ∈ savedMessages a ++ (a.pruned ++ (retain a.allMessages).2) := by
    intro y hy
    simp only [durable, List.mem_append] at hy ⊢
    tauto
  refine ⟨⟨h.storage.written, ?_, h.storage.covered.mono stored⟩, fun y hy => h.faithful y (moved y hy),
    h.remembered.mono stored, h.known.mono sub, ?_, h.ahead⟩
  · intro y hy
    have source : y ∈ durable a ∨ y ∈ memory a := by
      have split := mem_retain a.allMessages y
      have hy' : y ∈ savedMessages a ++ (a.pruned ++ (retain a.allMessages).2) := hy
      simp only [durable, memory, List.mem_append] at hy' ⊢
      tauto
    cases source with
    | inl old => exact h.storage.faithful y old
    | inr page => exact h.faithful y page
  · intro y hy live
    have member := (mem_retain a.allMessages y).mp (.inl hy)
    exact (h.counted y member live).mono sub

theorem Law.save (h : Law σ a) : Law σ { a with storedMessages := some (snapshot a.allMessages) } := by
  have saved : ∀ n, Covers σ (memory a) n →
      Covers σ (durable { a with storedMessages := some (snapshot a.allMessages) }) n :=
    fun n covers => Covers.saved (a := { a with storedMessages := some (snapshot a.allMessages) }) covers rfl
  refine ⟨⟨?_, ?_, ?_⟩, h.faithful, saved _ h.known, h.known, h.counted, h.ahead⟩
  · intro j hj
    obtain rfl := Option.some.inj hj
    have whole := stringified_twice (.arr a.allMessages)
    rw [stringified, stringified, NumberMaps.mapNumbers, NumberMaps.mapItems_eq] at whole
    exact whole
  · intro y hy m due same
    cases List.mem_append.mp hy with
    | inl inStorage =>
      rw [savedMessages_snapshot rfl] at inStorage
      obtain ⟨z, hz, rfl⟩ := List.mem_map.mp (List.mem_filter.mp inStorage).1
      rw [numericId_stringified] at same
      exact (h.faithful z (List.mem_append_left _ hz) m due same).stringified
    | inr dropped => exact h.faithful y (List.mem_append_right _ dropped) m due same
  · intro m due le
    cases le_max_iff.mp le with
    | inl low => exact saved _ h.known m due (Nat.le_trans low h.ahead)
    | inr high =>
      have positive : 0 < numericId m := Nat.lt_of_le_of_lt (Nat.zero_le _) due.above
      obtain ⟨y, hy, live, le⟩ := le_localMaxId positive high
      rw [savedMessages_snapshot rfl] at hy
      obtain ⟨z, hz, rfl⟩ := List.mem_map.mp (List.mem_filter.mp hy).1
      rw [numericId_stringified] at le
      exact saved _ (h.counted z hz live) m due le

theorem Law.remember (h : Law σ a) (covers : Covers σ (memory a) n) (ahead : a.lastSeenId < n)
    (saved : a.storedMessages = some (snapshot a.allMessages)) : Law σ { a with lastSeenId := n } :=
  ⟨h.storage.same ⟨rfl, rfl, rfl⟩, h.faithful, covers.saved saved, covers, h.counted,
    Nat.le_trans h.ahead (Nat.le_of_lt ahead)⟩

theorem safeNat_le (n : ℕ) : ((some (.fin n)).bind safeNat).getD 0 ≤ n := by
  by_cases h : n ≤ maxSafeInteger
  · simp [safeNat_nat h]
  · simp [safeNat, h]

theorem Law.cursor (h : Law σ a) : Law σ { a with storedCursor := some (.fin a.lastSeenId) } := by
  have low := safeNat_le a.lastSeenId
  refine ⟨⟨h.storage.written, h.storage.faithful, ?_⟩, h.faithful, h.remembered, h.known, h.counted, low⟩
  intro m due le
  cases le_max_iff.mp le with
  | inl stored => exact h.remembered m due (Nat.le_trans stored low)
  | inr saved => exact h.storage.covered m due (Nat.le_trans saved (le_max_right _ _))

/-- Every move of a page keeps the law. -/
theorem Law.move (h : Law σ a) (allowed : Allowed σ T a) (move : Move T a b) : Law σ b := by
  cases move with
  | stay => exact h
  | push msg arrives valid _ _ =>
    obtain ⟨sent, before⟩ := allowed.chat msg arrives valid
    exact h.push sent before
  | recover msg source now users arrives valid _ _ =>
    exact h.recover valid (fun n => allowed.recovered msg n arrives) users source now
  | settle => exact h.settle
  | save => exact h.save
  | remember msg arrives valid known saved ahead =>
    obtain ⟨sent, before⟩ := allowed.chat msg arrives valid
    refine h.remember (covers_next sent before ?_) ahead saved
    intro due
    exact holds_of_knows h.faithful (known (allowed.user ▸ due.mine)) due rfl
  | cursor => exact h.cursor
  | reset resets => exact absurd resets allowed.resets

end EspWebChat.ReplayLaw
