import EspWebChat.OutboxSteps
import EspWebChat.StoreRetention

set_option autoImplicit false

/-!
# The local store over any sequence of messages

A page loads a snapshot and then takes live and recovered messages, in any order and whatever
the rest of the page does between two of them.
-/
namespace EspWebChat.LocalStore
open JsonTree JsValues ClientMessages Interruptible BrowserWorld ClientStore
open StoreSteps OutboxSteps FaithfulCopies StoreRetention

variable {s t u : Store} {msg m : Json} {userId : String} {ms ms' origin : List Json} {A : Json → Prop}

def SameMessages (u v : Store) : Prop := v.userId = u.userId ∧ v.allMessages = u.allMessages

instance : Std.Refl SameMessages := ⟨fun _ => ⟨rfl, rfl⟩⟩
instance : IsTrans Store SameMessages := ⟨fun _ _ _ h k => ⟨k.1.trans h.1, k.2.trans h.2⟩⟩

theorem writeStoredValue_messages (f : LocalStorage → LocalStorage) : Within SameMessages (writeStoredValue f) := by
  apply reply_within.bind
  intro r
  exact .ite (.bind (.writes (fun _ => ⟨rfl, rfl⟩)) (fun _ => .pure true)) (.pure false)

theorem saveConversations_messages : Within SameMessages saveConversations :=
  .bind .reads (fun _ => .bind (writeStoredValue_messages _) (fun _ => .pure ()))

theorem rememberSeenId_messages (id : ℕ) : Within SameMessages (rememberSeenId id) := by
  apply Within.bind .reads
  intro s
  apply Within.ite
  · refine Within.bind (.writes (fun _ => ⟨rfl, rfl⟩)) ?_
    intro _
    exact (writeStoredValue_messages _).bind (fun _ => .pure ())
  · exact .pure ()

theorem updateConversationFromMessage_messages (msg : Json) :
    Within SameMessages (updateConversationFromMessage msg) :=
  .ite (.pure ()) (reply_within.bind (fun _ => .writes (fun _ => ⟨rfl, rfl⟩)))

theorem updateConversations_messages (ms : List Json) : Within SameMessages (updateConversations ms) := by
  induction ms with
  | nil => exact .pure ()
  | cons m ms ih => exact (updateConversationFromMessage_messages m).bind (fun _ => ih)

/-- The computation returns with the user and the messages as given. -/
def Leaves (userId : String) (ms : List Json) {α : Type} (m : Client Store α) (s : Store) : Prop :=
  Traces (fun _ _ => True) m s (fun _ u => u.userId = userId ∧ u.allMessages = ms)

theorem leaves_within {α : Type} {m : Client Store α} (h : Within SameMessages m) (s : Store) :
    Leaves s.userId s.allMessages m s := h.traces s

theorem Leaves.after {α β : Type} {m : Client Store α} {f : α → Client Store β} (h : Leaves userId ms m s)
    (k : ∀ a, Within SameMessages (f a)) : Leaves userId ms (m >>= f) s := by
  apply Traces.bind h
  intro a u _ hu
  have rest := leaves_within (k a) u
  rw [hu.1, hu.2] at rest
  exact rest

theorem saveMessages_leaves (s : Store) : Leaves s.userId (retain s.allMessages).1 saveMessages s := by
  apply (saveMessages_spec (T := .none)).mono (fun _ _ _ => trivial)
  intro saved u _ hu
  exact ⟨congrArg Archive.userId hu, congrArg Archive.allMessages hu⟩

theorem saveThenRemember_leaves (id : ℕ) (s : Store) :
    Leaves s.userId (retain s.allMessages).1 (saveThenRemember id) s :=
  (saveMessages_leaves s).after (fun _ => .ite (rememberSeenId_messages id) (.pure ()))

/-- What a call makes of the messages; `A` says what it may add. -/
inductive Update (userId : String) (A : Json → Prop) (ms : List Json) : List Json → Prop where
  | same : Update userId A ms ms
  | settled : Update userId A ms (retain ms).1
  | added (m : Json) (allowed : A m) (valid : validHistoryMessage m = true)
      (mine : isMessageForMe userId m = true) (new : hasId (numericId m) ms = false) :
      Update userId A ms (retain (ms ++ [m])).1

def Updates (A : Json → Prop) (s u : Store) : Prop :=
  u.userId = s.userId ∧ Update s.userId A s.allMessages u.allMessages

theorem saveIncomingMessage_updates (msg : Json) (s : Store) :
    Traces (fun _ _ => True) (saveIncomingMessage msg) s (fun _ u => Updates (fun m => m = msg) s u) := by
  apply Traces.ite
  · intro _
    exact .pure ⟨rfl, .same⟩
  · intro hv
    have valid : validHistoryMessage msg = true := by simpa using hv
    apply current_spec.bind
    intro a u _ h
    obtain ⟨rfl, rfl⟩ := h
    apply Traces.ite
    · intro _
      apply ((saveThenRemember_leaves (numericId msg) u).after (fun _ => .pure false)).post
      intro _ v _ hv
      refine ⟨hv.1, ?_⟩
      rw [hv.2]
      exact .settled
    · intro fresh
      simp only [Bool.or_eq_true, Bool.not_eq_true', not_or, Bool.not_eq_false, Bool.not_eq_true] at fresh
      apply (Traces.writes (P := fun _ v => v = pushMessage msg u) trivial rfl).bind
      intro _ v _ hv
      subst hv
      apply (leaves_within (updateConversationFromMessage_messages msg) _).bind
      intro _ x _ hx
      apply ((saveThenRemember_leaves (numericId msg) x).after
        (fun _ => saveConversations_messages.bind (fun _ => .pure true))).post
      intro _ y _ hy
      rw [hx.1, hx.2] at hy
      refine ⟨hy.1, ?_⟩
      rw [hy.2]
      exact .added msg rfl valid fresh.1 fresh.2

/-- What `importRecoveredMessage` stores of a candidate. -/
def Imported (candidate : Option Json) (source m : Json) : Prop :=
  ∃ c users now, candidate = some c ∧ m = recoveredMessagePayload users c source now

theorem importRecoveredMessage_updates (candidate : Option Json) (source : Json) (s : Store) :
    Traces (fun _ _ => True) (importRecoveredMessage candidate source) s
      (fun _ u => Updates (Imported candidate source) s u) := by
  cases candidate with
  | none => exact .pure ⟨rfl, .same⟩
  | some c =>
    apply current_spec.bind
    intro a u _ h
    obtain ⟨rfl, rfl⟩ := h
    apply Traces.ite (fun _ => .pure ⟨rfl, .same⟩)
    intro ok
    simp only [Bool.or_eq_true, Bool.not_eq_true', not_or, Bool.not_eq_false] at ok
    apply Traces.ite (fun _ => .pure ⟨rfl, .same⟩)
    intro _
    cases hf : u.allMessages.find? (fun stored => numericId stored == numericId c) with
    | some existing => exact .pure ⟨rfl, .same⟩
    | none =>
      have new : hasId (numericId c) u.allMessages = false := List.any_eq_false.mpr (List.find?_eq_none.mp hf)
      apply nowS_spec.bind
      intro now v _ hv
      subst hv
      apply (Traces.writes (P := fun _ x =>
        x = pushMessage (recoveredMessagePayload v.onlineUsers c source now) v) trivial rfl).bind
      intro _ x _ hx
      subst hx
      apply (leaves_within (updateConversationFromMessage_messages _) _).bind
      intro _ y _ hy
      apply ((saveMessages_leaves y).after (fun _ => saveConversations_messages.bind (fun _ => .pure _))).post
      intro _ z _ hz
      rw [hy.1, hy.2] at hz
      have copies := recoveredMessagePayload_copies v.onlineUsers c source now
      have valid := valid_iff.mp ok.1
      refine ⟨hz.1, ?_⟩
      rw [hz.2]
      apply Update.added
      · exact ⟨c, v.onlineUsers, now, rfl, rfl⟩
      · exact valid_iff.mpr (copies.wellformed valid)
      · rw [copies.mine valid]
        exact ok.2
      · rw [copies.numeric valid]
        exact new

theorem loadState_leaves (s : Store) : Leaves s.userId (retain (loadMessages s.storage)).1 loadState s := by
  apply (Traces.writes (P := fun _ u => u = loaded s) trivial rfl).bind
  intro _ u _ hu
  subst hu
  apply (saveMessages_leaves (loaded s)).after
  intro saved
  apply Within.bind .reads
  intro v
  apply Within.ite
  · exact (writeStoredValue_messages _).bind (fun _ => updateConversations_messages _)
  · exact updateConversations_messages _

inductive Call where
  | incoming (msg : Json)
  | recovered (candidate : Option Json) (source : Json)

def Call.perform : Call → Client Store Unit
  | .incoming msg => do
    let _ ← saveIncomingMessage msg
    pure ()
  | .recovered candidate source => do
    let _ ← importRecoveredMessage candidate source
    pure ()

def Call.adds : Call → Json → Prop
  | .incoming msg => fun m => m = msg
  | .recovered candidate source => Imported candidate source

theorem perform_updates (c : Call) (s : Store) :
    Traces (fun _ _ => True) c.perform s (fun _ u => Updates c.adds s u) := by
  cases c with
  | incoming msg =>
    apply (saveIncomingMessage_updates msg s).bind
    intro _ u _ hu
    exact .pure hu
  | recovered candidate source =>
    apply (importRecoveredMessage_updates candidate source s).bind
    intro _ u _ hu
    exact .pure hu

/-- `origin` are the messages a page finds, with distinct ids. Between two calls the rest of the
    page's state may change in any way. -/
inductive Reached (origin : List Json) : Store → Prop where
  | load (env env' : ℕ → Reply) (s u : Store) (found : loadMessages s.storage = origin)
      (distinct : (origin.map numericId).Nodup) (returned : loadState env s = ⟨some (), u, env'⟩) : Reached origin u
  | call (c : Call) (env env' : ℕ → Reply) (t s u : Store) (before : Reached origin t) (between : SameMessages t s)
      (returned : c.perform env s = ⟨some (), u, env'⟩) : Reached origin u

structure Kept (origin : List Json) (userId : String) (ms : List Json) : Prop where
  distinct : (ms.map numericId).Nodup
  sorted : Sorted ms
  bounded : ms.length ≤ maxLocalMessages
  known : ∀ m ∈ ms, m ∈ origin ∨ (validHistoryMessage m = true ∧ isMessageForMe userId m = true)

theorem retain_distinct (distinct : (ms.map numericId).Nodup) : ((retain ms).1.map numericId).Nodup := by
  have whole := ((retain_perm ms).map numericId).nodup_iff.mpr distinct
  rw [List.map_append] at whole
  exact whole.of_append_left

theorem retain_kept (distinct : (ms.map numericId).Nodup)
    (known : ∀ m ∈ ms, m ∈ origin ∨ (validHistoryMessage m = true ∧ isMessageForMe userId m = true)) :
    Kept origin userId (retain ms).1 := by
  have retained := retain_retained ms
  refine ⟨retain_distinct distinct, retained.sorted, ?_, ?_⟩
  · rw [retained.size]
    omega
  · intro m hm
    exact known m ((mem_retain ms m).mp (.inl hm))

theorem distinct_added (distinct : (ms.map numericId).Nodup) (new : hasId (numericId m) ms = false) :
    ((ms ++ [m]).map numericId).Nodup := by
  rw [List.map_append, List.map_singleton, List.nodup_append]
  refine ⟨distinct, List.nodup_singleton _, ?_⟩
  intro id hid id' hid' same
  obtain ⟨x, hx, rfl⟩ := List.mem_map.mp hid
  obtain rfl := List.mem_singleton.mp hid'
  rw [hasId_iff.mpr ⟨x, hx, same⟩] at new
  cases new

theorem Update.kept (h : Update userId A ms ms') (kept : Kept origin userId ms) : Kept origin userId ms' := by
  cases h with
  | same => exact kept
  | settled => exact retain_kept kept.distinct kept.known
  | added m _ valid mine new =>
    apply retain_kept (distinct_added kept.distinct new)
    intro x hx
    cases List.mem_append.mp hx with
    | inl old => exact kept.known x old
    | inr added =>
      obtain rfl := List.mem_singleton.mp added
      exact .inr ⟨valid, mine⟩

/-- An entry is the same as before for as long as there is one with its id. -/
def Unaltered (ms ms' : List Json) : Prop := ∀ m ∈ ms, ∀ m' ∈ ms', numericId m' = numericId m → m' = m

theorem eq_of_distinct (distinct : (ms.map numericId).Nodup) {x : Json} (hm : m ∈ ms) (hx : x ∈ ms)
    (same : numericId x = numericId m) : x = m :=
  List.inj_on_of_nodup_map distinct hx hm same

theorem Update.unaltered (h : Update userId A ms ms') (distinct : (ms.map numericId).Nodup) : Unaltered ms ms' := by
  intro m hm x hx same
  cases h with
  | same => exact eq_of_distinct distinct hm hx same
  | settled => exact eq_of_distinct distinct hm ((mem_retain ms x).mp (.inl hx)) same
  | added new _ _ _ fresh =>
    have among := (mem_retain _ x).mp (.inl hx)
    have member : m ∈ ms ++ [new] := List.mem_append_left _ hm
    exact eq_of_distinct (distinct_added distinct fresh) member among same

theorem reached_kept (h : Reached origin s) : Kept origin s.userId s.allMessages := by
  induction h with
  | load env env' s u found distinct returned =>
    have left := (loadState_leaves s env).2 ()
    rw [returned] at left
    rw [(left rfl).1, (left rfl).2, found]
    exact retain_kept distinct (fun m hm => .inl hm)
  | call c env env' t s u _ between returned ih =>
    have updates := (perform_updates c s env).2 ()
    rw [returned] at updates
    obtain ⟨user, update⟩ := updates rfl
    rw [user]
    apply update.kept
    rw [between.1, between.2]
    exact ih

/-- The store of a page that finds messages with distinct ids stays sorted, small and free of
    repeated ids, alters no entry, and saving it keeps the newest of each class. -/
theorem local_store_kept (origin : List Json) :
    -- Over every run.
    (∀ s, Reached origin s → Kept origin s.userId s.allMessages) ∧
    (∀ (c : Call) (env env' : ℕ → Reply) (t s u : Store), Reached origin t → SameMessages t s →
      c.perform env s = ⟨some (), u, env'⟩ → Unaltered t.allMessages u.allMessages) ∧
    -- For every list.
    ∀ (env env' : ℕ → Reply) (s u : Store) (saved : Bool), saveMessages env s = ⟨some saved, u, env'⟩ →
      (∃ dropped, u.pruned = s.pruned ++ dropped ∧ Retained s.allMessages u.allMessages dropped ∧
        ∀ m rest, s.allMessages.Perm (m :: rest) → isRecovered m = false →
          (∀ d ∈ rest, isRecovered d = false → numericId d < numericId m) → m ∈ u.allMessages ∧ m ∉ dropped) ∧
      ∀ (again again' : ℕ → Reply) (v : Store) (saved' : Bool), saveMessages again u = ⟨some saved', v, again'⟩ →
        v.allMessages = u.allMessages ∧ v.pruned = u.pruned := by
  have pruned : ∀ (env env' : ℕ → Reply) (s u : Store) (saved : Bool), saveMessages env s = ⟨some saved, u, env'⟩ →
      u.allMessages = (retain s.allMessages).1 ∧ u.pruned = s.pruned ++ (retain s.allMessages).2 := by
    intro env env' s u saved returned
    have post := (saveMessages_spec (T := .none) (s := s) env).2 saved
    rw [returned] at post
    exact ⟨congrArg Archive.allMessages (post rfl), congrArg Archive.pruned (post rfl)⟩
  refine ⟨fun s h => reached_kept h, ?_, ?_⟩
  · intro c env env' t s u before between returned
    have updates := (perform_updates c s env).2 ()
    rw [returned] at updates
    have update := (updates rfl).2
    rw [between.2] at update
    exact update.unaltered (reached_kept before).distinct
  · intro env env' s u saved returned
    obtain ⟨messages, gone⟩ := pruned env env' s u saved returned
    have retained := retain_retained s.allMessages
    rw [messages]
    refine ⟨⟨_, gone, retained, ?_⟩, ?_⟩
    · intro m rest among is_live newer
      exact retained.newest among is_live newer
    · intro again again' v saved' returned'
      obtain ⟨messages', gone'⟩ := pruned again again' u v saved' returned'
      rw [messages, retain_again] at messages' gone'
      exact ⟨messages', gone'.trans (List.append_nil _)⟩

end EspWebChat.LocalStore
