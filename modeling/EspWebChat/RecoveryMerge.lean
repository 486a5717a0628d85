import EspWebChat.LocalStore

set_option autoImplicit false

/-!
# Merging recovered messages

What a responder sends of a message it stores is compared by content with what the requester
stores under the same id, and added when there is nothing under that id.
-/
namespace EspWebChat.RecoveryMerge
open JsonTree JsValues ClientMessages Interruptible BrowserWorld ClientStore
open StoreSteps OutboxSteps WrittenMessages FaithfulCopies StoreRetention LocalStore

variable {s t : Store} {m m' entry source : Json} {userId : String} {env : ℕ → Reply}

/-- `m` is the entry of the store for its id. -/
structure Holds (s : Store) (m : Json) : Prop where
  member : m ∈ s.allMessages
  only : ∀ x ∈ s.allMessages, numericId x = numericId m → x = m

theorem holds_of_reached {origin : List Json} (h : Reached origin s) (hm : m ∈ s.allMessages) : Holds s m :=
  ⟨hm, fun _ hx same => eq_of_distinct (reached_kept h).distinct hm hx same⟩

theorem Holds.found (h : Holds s m) (same : numericId m = numericId m') :
    s.allMessages.find? (fun stored => numericId stored == numericId m') = some m := by
  cases hf : s.allMessages.find? (fun stored => numericId stored == numericId m') with
  | none =>
    have absent := List.find?_eq_none.mp hf m h.member
    rw [same] at absent
    simp at absent
  | some x =>
    have id := List.find?_some hf
    rw [h.only x (List.mem_of_find?_eq_some hf) (by rw [same]; simpa using id)]

/-- A message that a recovery with this store may import or compare. -/
structure Asked (s : Store) (m : Json) : Prop where
  valid : validHistoryMessage m = true
  mine : isMessageForMe s.userId m = true
  below : numericId m < restoreBeforeId s

theorem numericId_positive (valid : Wellformed m) : 0 < numericId m := valid.number.2.1

/-- What a responder sends of a message. -/
def payload (m : Json) : Json := .obj (historyMessagePayload m)

theorem payload_copy (m : Json) : Copies m (payload m) := historyMessagePayload_copies m

theorem Asked.payload (h : Asked s m) : Asked s (payload m) := by
  have valid := valid_iff.mp h.valid
  have copies := payload_copy m
  refine ⟨valid_iff.mpr (copies.wellformed valid), ?_, ?_⟩
  · exact (copies.mine valid _).trans h.mine
  · have same : numericId (RecoveryMerge.payload m) = numericId m := copies.numeric valid
    rw [same]
    exact h.below

theorem SameContent.mine (h : SameContent m m') (valid : Wellformed m) (valid' : Wellformed m')
    (mine : isMessageForMe userId m = true) : isMessageForMe userId m' = true := by
  have users : includesText (targetUsers m) userId = includesText (targetUsers m') userId := h.users.any_eq
  have all : targetsAll m = targetsAll m' := by
    unfold targetsAll
    rw [h.all]
  unfold isMessageForMe at mine ⊢
  rw [truthy_of_valid valid, h.sender, all, users] at mine
  rw [truthy_of_valid valid']
  exact mine

/-- Under a known id only the contents are compared, and the store stays as it is. -/
theorem import_known (asked : Asked s m) (found :
    s.allMessages.find? (fun stored => numericId stored == numericId m) = some entry) (source : Json) :
    Returns (fun _ => True) (importRecoveredMessage (some m) source) s (fun r u =>
      r = (if comparableMessage entry = comparableMessage m then .duplicate else .conflict) ∧ u = s) := by
  have positive := numericId_positive (valid_iff.mp asked.valid)
  have below := asked.below
  have start : Returns (fun _ => True) current s (fun a u => a = s ∧ u = s) := .reads ⟨rfl, rfl⟩
  apply start.bind
  intro a u h
  obtain ⟨rfl, rfl⟩ := h
  apply Returns.ite
  · intro unusable
    rw [asked.valid, asked.mine] at unusable
    cases unusable
  · intro _
    apply Returns.ite
    · intro outside
      omega
    · intro _
      rw [found]
      exact .pure ⟨rfl, rfl⟩

/-- Under a new id the candidate is added in the form it is stored in. -/
theorem import_new (asked : Asked s m) (new : hasId (numericId m) s.allMessages = false) (source : Json) :
    Traces (fun _ _ => True) (importRecoveredMessage (some m) source) s (fun r u => r = .imported ∧
      ∃ now, u.allMessages =
        (retain (s.allMessages ++ [recoveredMessagePayload s.onlineUsers m source now])).1) := by
  have positive := numericId_positive (valid_iff.mp asked.valid)
  have below := asked.below
  have absent : s.allMessages.find? (fun stored => numericId stored == numericId m) = none :=
    List.find?_eq_none.mpr (List.any_eq_false.mp new)
  apply current_spec.bind
  intro a u _ h
  obtain ⟨rfl, rfl⟩ := h
  apply Traces.ite
  · intro unusable
    rw [asked.valid, asked.mine] at unusable
    cases unusable
  · intro _
    apply Traces.ite
    · intro outside
      omega
    · intro _
      rw [absent]
      apply nowS_spec.bind
      intro now v _ hv
      subst hv
      apply (Traces.writes (P := fun _ x =>
        x = pushMessage (recoveredMessagePayload v.onlineUsers m source now) v) trivial rfl).bind
      intro _ x _ hx
      subst hx
      apply (leaves_within (updateConversationFromMessage_messages _) _).bind
      intro _ y _ hy
      apply (saveMessages_leaves y).bind
      intro _ z _ hz
      apply (leaves_within saveConversations_messages z).bind
      intro _ w _ hw
      refine .pure ⟨rfl, now, ?_⟩
      rw [hw.2, hz.2, hy.2]
      rfl

def Stays (r : Reply) : Prop := r.unloads = false

/-- On a page that stays, the computation returns. -/
def Completes {α : Type} (m : Client Store α) : Prop := ∀ s, Returns Stays m s (fun _ _ => True)

theorem Completes.bind {α β : Type} {m : Client Store α} {f : α → Client Store β} (h : Completes m)
    (k : ∀ a, Completes (f a)) : Completes (m >>= f) :=
  fun s => (h s).bind (fun a u _ => k a u)

theorem completes_pure {α : Type} (a : α) : Completes (pure a) := fun _ => .pure trivial

theorem completes_writes (f : Store → Store) : Completes (writes f) := fun _ => .writes trivial

theorem completes_reads {α : Type} (f : Store → α) : Completes (reads f) := fun _ => .reads trivial

theorem completes_reply : Completes reply := by
  intro s
  apply Returns.ask
  · intro r stays
    rw [show r.unloads = false from stays]
    rfl
  · intro _ _
    trivial

theorem writeStoredValue_completes (f : LocalStorage → LocalStorage) : Completes (writeStoredValue f) :=
  completes_reply.bind (fun _ _ => .ite
    (fun _ => (completes_writes _).bind (fun _ => completes_pure true) _) (fun _ => completes_pure false _))

theorem saveMessages_completes : Completes saveMessages :=
  (completes_writes _).bind (fun _ => (completes_reads _).bind (fun _ => writeStoredValue_completes _))

theorem saveConversations_completes : Completes saveConversations :=
  (completes_reads _).bind (fun _ => (writeStoredValue_completes _).bind (fun _ => completes_pure ()))

theorem updateConversationFromMessage_completes (msg : Json) : Completes (updateConversationFromMessage msg) :=
  fun _ => .ite (fun _ => .pure trivial) (fun _ => completes_reply.bind (fun _ => completes_writes _) _)

theorem importRecoveredMessage_completes (candidate : Option Json) (source : Json) :
    Completes (importRecoveredMessage candidate source) := by
  intro s
  cases candidate with
  | none => exact .pure trivial
  | some c =>
    apply (Returns.reads (P := fun _ _ => True) trivial).bind
    intro a u _
    refine .ite (fun _ => .pure trivial) (fun _ => .ite (fun _ => .pure trivial) (fun _ => ?_))
    cases a.allMessages.find? (fun stored => numericId stored == numericId c) with
    | some existing => exact .pure trivial
    | none =>
      have now : Completes nowS := completes_reply.bind (fun _ => completes_pure _)
      apply now.bind
      intro now
      apply (completes_writes _).bind
      intro _
      apply (updateConversationFromMessage_completes _).bind
      intro _
      apply saveMessages_completes.bind
      intro _
      exact saveConversations_completes.bind (fun _ => completes_pure _)

theorem import_copy {m'' : Json} (valid' : Wellformed m') (same : SameContent m' m'')
    (id : numericId m'' = numericId m') (copies : Copies m' entry) (holds : Holds t entry) (asked : Asked t m'')
    (source : Json) : Returns (fun _ => True) (importRecoveredMessage (some (payload m'')) source) t
      (fun r u => r = .duplicate ∧ u = t) := by
  have valid'' := valid_iff.mp asked.valid
  have payload_copy := payload_copy m''
  have sameId : numericId entry = numericId (payload m'') := by
    rw [copies.numeric valid', ← id]
    exact (payload_copy.numeric valid'').symm
  have found := holds.found sameId
  apply (import_known asked.payload found source).post
  intro r u h
  have equal : comparableMessage entry = comparableMessage (payload m'') := by
    rw [copies.comparable valid']
    exact ((comparable_eq_iff valid' valid'' id.symm).mpr same).trans (payload_copy.comparable valid'').symm
  rw [if_pos equal] at h
  exact h

/-- A payload is a duplicate of a stored message exactly when the contents agree, a conflict
    otherwise, and an import under a new id stores a copy of the message. -/
theorem recovery_merge_exact (s : Store) (m' source : Json) (asked : Asked s m') (env : ℕ → Reply) :
    -- The id is stored.
    (∀ m, Holds s m → validHistoryMessage m = true → numericId m = numericId m' →
      ∃ r env', importRecoveredMessage (some (payload m')) source env s = ⟨some r, s, env'⟩ ∧
        (r = .duplicate ↔ SameContent m m') ∧ (r = .conflict ↔ ¬SameContent m m')) ∧
    -- It is not.
    (hasId (numericId m') s.allMessages = false →
      ((∀ k, Stays (env k)) → (importRecoveredMessage (some (payload m')) source env s).result.isSome = true) ∧
      ∀ r u env', importRecoveredMessage (some (payload m')) source env s = ⟨some r, u, env'⟩ →
        r = .imported ∧ ∃ entry, u.allMessages = (retain (s.allMessages ++ [entry])).1 ∧
          validHistoryMessage entry = true ∧ comparableMessage entry = comparableMessage m' ∧
          -- Later, in any store that still holds the entry.
          ∀ t m'' source' later, Holds t entry → Asked t m'' → numericId m'' = numericId m' → SameContent m' m'' →
            ∃ env'', importRecoveredMessage (some (payload m'')) source' later t = ⟨some .duplicate, t, env''⟩) := by
  have valid' := valid_iff.mp asked.valid
  have payload_copy := payload_copy m'
  have payload_valid := payload_copy.wellformed valid'
  refine ⟨?_, ?_⟩
  · intro m holds valid same
    have sameId : numericId m = numericId (payload m') := same.trans (payload_copy.numeric valid').symm
    have found := holds.found sameId
    obtain ⟨r, u, env', run, -, result, rfl⟩ := (import_known asked.payload found source).run env (fun _ => trivial)
    refine ⟨r, env', run, ?_⟩
    have compare : comparableMessage m = comparableMessage (payload m') ↔ SameContent m m' := by
      rw [← comparable_eq_iff (valid_iff.mp valid) valid' same]
      rw [payload_copy.comparable valid']
    by_cases content : SameContent m m'
    · rw [if_pos (compare.mpr content)] at result
      simp [result, content]
    · rw [if_neg (fun equal => content (compare.mp equal))] at result
      simp [result, content]
  · intro new
    have absent : hasId (numericId (payload m')) s.allMessages = false := by
      rw [payload_copy.numeric valid']
      exact new
    refine ⟨?_, ?_⟩
    · intro stays
      obtain ⟨r, u, env', run, -⟩ := (importRecoveredMessage_completes (some (payload m')) source s).run env stays
      rw [run]
      rfl
    · intro r u env' run
      have post := (import_new asked.payload absent source env).2 r
      rw [run] at post
      obtain ⟨imported, now, messages⟩ := post rfl
      have entry_copy := recoveredMessagePayload_copies s.onlineUsers (payload m') source now
      refine ⟨imported, _, messages, valid_iff.mpr (entry_copy.wellformed payload_valid), ?_, ?_⟩
      · exact (entry_copy.comparable payload_valid).trans (payload_copy.comparable valid')
      · intro t m'' source' later holds asked'' id content
        have same : SameContent (payload m') m'' := by
          have valid'' := valid_iff.mp asked''.valid
          have whole := payload_copy.numeric valid'
          rw [← comparable_eq_iff payload_valid valid'' (whole.trans id.symm)]
          exact (payload_copy.comparable valid').trans ((comparable_eq_iff valid' valid'' id.symm).mpr content)
        have number : numericId m'' = numericId (payload m') := id.trans (payload_copy.numeric valid').symm
        obtain ⟨r', u', env'', run', -, duplicate, rfl⟩ :=
          (import_copy payload_valid same number entry_copy holds asked'' source').run later (fun _ => trivial)
        rw [duplicate] at run'
        exact ⟨env'', run'⟩

/-! A store with one message, of which it is sent a copy. -/

def greeting : Json := .obj [("id", .str "1"), ("type", str "text"), ("from", str "ann"), ("name", str "Ann"),
  ("to", .obj [("all", .bool true), ("users", .arr [])]), ("data", str "hello"), ("timestamp", nat 7)]

def greetedStore : Store where
  userId := "bob"
  nicknameInput := "Bob"
  allMessages := [greeting]
  conversations := []
  currentConversation := .null
  onlineUsers := []
  outbox := []
  lastSeenId := 1
  historyInfo := some 4
  activeRecovery := none
  storage := ⟨none, none, none, none, none, none⟩
  pruned := []

def calmReply : Reply := ⟨false, true, true, true, 0, 0, ""⟩

theorem greeting_duplicate : ∃ env', importRecoveredMessage (some (payload greeting)) greeting (fun _ => calmReply)
    greetedStore = ⟨some .duplicate, greetedStore, env'⟩ := by
  have asked : Asked greetedStore greeting := ⟨by decide +kernel, by decide +kernel, by decide +kernel⟩
  have holds : Holds greetedStore greeting := ⟨List.mem_singleton_self _, fun x hx _ => List.mem_singleton.mp hx⟩
  obtain ⟨r, env', run, duplicate, -⟩ :=
    (recovery_merge_exact greetedStore greeting greeting asked (fun _ => calmReply)).1 greeting holds asked.valid rfl
  have same : SameContent greeting greeting := ⟨rfl, rfl, rfl, rfl, .refl _, rfl, rfl, rfl, rfl⟩
  rw [duplicate.mpr same] at run
  exact ⟨env', run⟩

end EspWebChat.RecoveryMerge
