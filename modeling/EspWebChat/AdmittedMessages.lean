import EspWebChat.HistorySteps
import EspWebChat.TargetFields

set_option autoImplicit false

/-!
# What the server lets through as a chat message

`handle_chat_message` and `validate_history_message_object` make the same checks of a message.
What passes them is `Admitted`, defaults included, and nothing else is ever stored.
-/
namespace EspWebChat.AdmittedMessages
open Relation JsonTree NumberMaps CjsonPrinter ClientSlots Interruptible ServerWorld MessageIdStore Sessions History JsonGate Protocol
open ServerSteps SessionSteps HistorySteps TargetFields

variable {cfg : Config} {w u : World cfg} {fd : ℤ} {root m : Json}

theorem distinct_lookup {ms : Members} {key : String} {v : Json} (distinct : membersHaveDuplicateKeys ms = false)
    (h : ms.lookup key = some v) : jsonHasDuplicateKeys v = false := by
  induction ms with
  | nil => cases h
  | cons m ms ih =>
    obtain ⟨k, child⟩ := m
    simp only [membersHaveDuplicateKeys, Bool.or_eq_false_iff] at distinct
    rw [lookup_cons] at h
    split_ifs at h with same
    · cases h
      exact distinct.1.2
    · exact ih distinct.2 h

theorem distinct_member {j v : Json} {key : String} (distinct : jsonHasDuplicateKeys j = false)
    (h : j.member key = some v) : jsonHasDuplicateKeys v = false := by
  cases j with
  | obj ms =>
    have inside : membersHaveDuplicateKeys ms = false := by simpa [jsonHasDuplicateKeys] using distinct
    exact distinct_lookup inside h
  | _ => cases h

theorem distinct_unique {j : Json} (distinct : jsonHasDuplicateKeys j = false) : UniqueKeys j.members := by
  cases j with
  | obj ms => exact membersHaveDuplicateKeys_unique ms (by simpa [jsonHasDuplicateKeys] using distinct)
  | _ => exact List.nodup_nil

/-- `to` of a message that has passed: who it is meant for. -/
structure Target (cfg : Config) (m : Json) (all : Bool) (users : List String) : Prop where
  read : ∃ target, m.member "to" = some target ∧ UniqueKeys target.members ∧
    target.member "all" = some (.bool all) ∧ target.member "users" = some (.arr (users.map .str))
  few : users.length ≤ cfg.maxClients + 1
  ids : ∀ user ∈ users, user ≠ "" ∧ strlen user ≤ maxUserIdLen
  someone : all = true ∨ users ≠ []

theorem users_of_valid {items : List Json} (h : ∀ user ∈ items, ∃ s, user = .str s ∧ s ≠ "" ∧ strlen s ≤ maxUserIdLen) :
    ∃ users : List String, items = users.map .str ∧ ∀ user ∈ users, user ≠ "" ∧ strlen user ≤ maxUserIdLen := by
  induction items with
  | nil => exact ⟨[], rfl, fun user hu => absurd hu List.not_mem_nil⟩
  | cons item items ih =>
    obtain ⟨s, rfl, nonempty, short⟩ := h item List.mem_cons_self
    obtain ⟨users, rfl, valid⟩ := ih (fun user hu => h user (List.mem_cons_of_mem _ hu))
    refine ⟨s :: users, rfl, ?_⟩
    intro user hu
    cases List.mem_cons.mp hu with
    | inl e => exact e ▸ ⟨nonempty, short⟩
    | inr later => exact valid user later

theorem bool_of_isBool {j : Json} (h : isBool j = true) : ∃ b, j = .bool b := by
  cases j with
  | bool b => exact ⟨b, rfl⟩
  | _ => cases h

theorem validateToObject_target {Step : World cfg → World cfg → Prop} (ho : root.isObject = true)
    (distinct : ∀ target, root.member "to" = some target → UniqueKeys target.members) :
    Traces Step (validateToObject root : Server cfg _) w (fun r _ =>
      r.1 = true → ∃ all users, Target cfg r.2 all users) := by
  have refused : ∀ (j : Json) (x : World cfg), Traces Step (pure (false, j) : Server cfg (Bool × Json)) x
      (fun r _ => r.1 = true → ∃ all users, Target cfg r.2 all users) := by
    intro j x
    apply Traces.pure
    intro h
    cases h
  apply (memberOrDefault_spec "to" (.obj []) ho).bind
  intro found x _ h
  cases found with
  | none => exact refused _ _
  | some r =>
    obtain ⟨target, root₁⟩ := r
    have fto : Found root "to" (.obj []) target root₁ := h.2 _ rfl
    have plain : UniqueKeys target.members := by
      rw [fto.value]
      cases at_to : root.member "to" with
      | none => exact List.nodup_nil
      | some t => exact distinct t at_to
    apply Traces.ite (fun _ => refused _ _)
    intro object
    apply (memberOrDefault_spec "all" (.bool false) (by simpa using object)).bind
    intro found y _ h
    cases found with
    | none => exact refused _ _
    | some r =>
      obtain ⟨all, target₁⟩ := r
      have fall : Found target "all" (.bool false) all target₁ := h.2 _ rfl
      apply Traces.ite (fun _ => refused _ _)
      intro boolean
      obtain ⟨b, rfl⟩ := bool_of_isBool (by simpa using boolean)
      apply (memberOrDefault_spec "users" (.arr []) fall.isObject).bind
      intro found z _ h
      cases found with
      | none => exact refused _ _
      | some r =>
        obtain ⟨users, target₂⟩ := r
        have fusers : Found target₁ "users" (.arr []) users target₂ := h.2 _ rfl
        apply Traces.ite (fun _ => refused _ _)
        intro valid
        obtain ⟨array, few, ids⟩ := validTargets_iff.mp (by simpa using valid)
        apply Traces.pure
        intro someone
        cases users with
        | arr items =>
          obtain ⟨names, rfl, named⟩ := users_of_valid ids
          refine ⟨b, names, ⟨target₂, ?_, ?_, ?_, ?_⟩, ?_, named, ?_⟩
          · exact member_set_self _ _ fto.isObject
          · exact fusers.unique (fall.unique plain)
          · rw [fusers.others _ (by decide), fall.self]
          · exact fusers.self
          · simpa [Json.items] using few
          · simpa [Protocol.isTrue, Json.items] using someone
        | _ => cases array

/-- What both checks ensure of a message, whatever its id and timestamp. -/
structure Admitted (cfg : Config) (m : Json) : Prop where
  object : m.isObject = true
  unique : UniqueKeys m.members
  sender : ∃ s, m.member "from" = some (.str s) ∧ s ≠ "" ∧ strlen s ≤ maxUserIdLen
  name : ∃ s, m.member "name" = some (.str s) ∧ s ≠ "" ∧ strlen s ≤ maxNameLen
  content : ∃ type data, m.member "type" = some (.str type) ∧ (type = "text" ∨ type = "newGroup") ∧
    m.member "data" = some (.str data) ∧ strlen data ≤ cfg.maxTextBytes ∧ (type = "text" → data ≠ "") ∧
    validateGroupFields m (type == "newGroup") = true
  target : ∃ all users, Target cfg m all users

theorem inRange {item : Option Json} {maxLen : ℕ} (h : jsonStringInRange item maxLen false = true) :
    ∃ s, item = some (.str s) ∧ s ≠ "" ∧ strlen s ≤ maxLen := by
  obtain ⟨s, hs⟩ := jsonStringInRange_iff.mp h
  obtain ⟨value, short, nonempty⟩ := stringInRange_eq_some hs
  exact ⟨s, value, nonempty rfl, short⟩

theorem inRange_empty {item : Option Json} {maxLen : ℕ} (h : jsonStringInRange item maxLen true = true) :
    ∃ s, item = some (.str s) ∧ strlen s ≤ maxLen := by
  obtain ⟨s, hs⟩ := jsonStringInRange_iff.mp h
  obtain ⟨value, short, -⟩ := stringInRange_eq_some hs
  exact ⟨s, value, short⟩

theorem groupFields_congr {m m' : Json} (required : Bool) (id : m'.member "groupId" = m.member "groupId")
    (name : m'.member "groupName" = m.member "groupName") :
    validateGroupFields m' required = validateGroupFields m required := by
  unfold validateGroupFields
  rw [id, name]

theorem Target.congr {m' : Json} {all : Bool} {users : List String} (h : Target cfg m all users)
    (same : m'.member "to" = m.member "to") : Target cfg m' all users := by
  obtain ⟨read, few, ids, someone⟩ := h
  rw [← same] at read
  exact ⟨read, few, ids, someone⟩

theorem Target.printed {all : Bool} {users : List String} (h : Target cfg m all users) (p : Printer) :
    Target cfg (p.printed m) all users := by
  obtain ⟨⟨target, is_target, unique, is_all, is_users⟩, few, ids, someone⟩ := h
  refine ⟨⟨p.printed target, ?_, p.printed_unique unique, ?_, ?_⟩, few, ids, someone⟩
  · rw [p.printed_member, is_target]
    rfl
  · rw [p.printed_member, is_all]
    rfl
  · rw [p.printed_member, is_users]
    change some (Json.arr (mapItems p.number (users.map .str))) = _
    rw [mapItems_eq, mapNumbers_texts]

/-- Printing leaves the texts alone, and the checks are of texts. -/
theorem Admitted.printed (h : Admitted cfg m) (p : Printer) : Admitted cfg (p.printed m) := by
  constructor
  case object =>
    rw [p.printed_isObject]
    exact h.object
  case unique => exact p.printed_unique h.unique
  case sender =>
    obtain ⟨s, is_sender, valid⟩ := h.sender
    exact ⟨s, p.printed_str is_sender, valid⟩
  case name =>
    obtain ⟨s, is_name, valid⟩ := h.name
    exact ⟨s, p.printed_str is_name, valid⟩
  case content =>
    obtain ⟨type, data, is_type, known, is_data, short, filled, group⟩ := h.content
    refine ⟨type, data, p.printed_str is_type, known, p.printed_str is_data, short, filled, ?_⟩
    unfold validateGroupFields at group ⊢
    dsimp only at group ⊢
    rw [p.printed_member, p.printed_member, Option.isNone_map, Option.isNone_map, jsonStringInRange_printed,
      jsonStringInRange_printed]
    exact group
  case target =>
    obtain ⟨all, users, target⟩ := h.target
    exact ⟨all, users, target.printed p⟩

theorem Admitted.finalized (h : Admitted cfg m) (id : ℕ) (timestamp : ℤ) :
    Admitted cfg (History.finalized m id timestamp) := by
  have same : ∀ {key : String}, key ≠ "id" → key ≠ "timestamp" →
      (History.finalized m id timestamp).member key = m.member key :=
    fun hid hts => member_finalized hid hts
  constructor
  case object =>
    unfold History.finalized
    rw [append_isObject, append_isObject, delete_isObject, delete_isObject]
    exact h.object
  case unique => exact finalized_unique h.unique
  case sender =>
    rw [same (by decide) (by decide)]
    exact h.sender
  case name =>
    rw [same (by decide) (by decide)]
    exact h.name
  case content =>
    obtain ⟨type, data, ht, hd, hdata, short, filled, group⟩ := h.content
    refine ⟨type, data, ?_, hd, ?_, short, filled, ?_⟩
    · rw [same (by decide) (by decide)]
      exact ht
    · rw [same (by decide) (by decide)]
      exact hdata
    · rw [groupFields_congr _ (same (by decide) (by decide)) (same (by decide) (by decide))]
      exact group
  case target =>
    obtain ⟨all, users, target⟩ := h.target
    exact ⟨all, users, target.congr (same (by decide) (by decide))⟩

/-- A message as `handle_chat_message` stores it. -/
structure Issued (cfg : Config) (m : Message) : Prop where
  root : ∃ root timestamp, m.payload = cfg.printer.printed (finalized root m.id timestamp) ∧ |timestamp| ≤ 2 ^ 63 ∧
    Admitted cfg root
  positive : 0 < m.id
  safe : m.id ≤ chatMessageMaxSafeId

def StoresOnly (A : Message → Prop) (u v : World cfg) : Prop :=
  ∃ new, v.trace = u.trace ++ new ∧ ∀ m, .stored m ∈ new → A m

section storing
variable {A : Message → Prop} {α : Type} {c : Server cfg α} {P : Permission cfg} {Q : α → World cfg → Prop}

theorem storesOnly_act {a : Action} (h : ∀ m, a = .store m → A m) : StoresOnly A u (act a u) := by
  obtain ⟨new, trace, -, stored, -⟩ := act_events a u
  exact ⟨new, trace, fun m hm => h m (stored m hm)⟩

theorem storesOnly_path (path : ReflTransGen (StoresOnly A) w u) : StoresOnly A w u := by
  induction path with
  | refl => exact ⟨[], (List.append_nil _).symm, fun m hm => absurd hm List.not_mem_nil⟩
  | tail _ step ih =>
    obtain ⟨new, trace, stored⟩ := ih
    obtain ⟨more, trace', stored'⟩ := step
    refine ⟨new ++ more, by rw [trace', trace, List.append_assoc], ?_⟩
    intro m hm
    cases List.mem_append.mp hm with
    | inl earlier => exact stored m earlier
    | inr later => exact stored' m later

theorem quietly (h : Traces (Steps P) c w Q) (quiet : ∀ u a m, P u a → a ≠ .store m) :
    Traces (StoresOnly A) c w Q := by
  apply h.steps
  intro u v step
  obtain ⟨a, permitted, rfl⟩ := step
  exact storesOnly_act (fun m e => absurd e (quiet u a m permitted))

theorem chatWsSendError_quiet (code message : String) :
    Traces (StoresOnly A) (chatWsSendError fd code message) w (fun _ _ => True) := by
  have spec : Traces (Steps (answers cfg fd)) (chatWsSendError fd code message) w (fun _ u => u.ctx = w.ctx) :=
    chatWsSendError_spec code message
  apply (quietly spec _).post (fun _ _ _ _ => trivial)
  intro u a m permitted
  obtain ⟨d, rfl, -⟩ := permitted
  intro e
  cases e

theorem announced_quiet (h : Traces (Steps (announces cfg)) c w Q) : Traces (StoresOnly A) c w Q := by
  apply quietly h
  intro u a m permitted e
  subst e
  cases permitted with
  | inl closing =>
    obtain ⟨_, e⟩ := closing
    cases e
  | inr sent =>
    obtain ⟨_, e, -⟩ := sent
    cases e

theorem chatWsBroadcast_quiet (payload : Json) :
    Traces (StoresOnly A) (chatWsBroadcast payload) w (fun _ _ => True) := by
  apply quietly chatWsBroadcast_spec
  intro u a m permitted e
  subst e
  obtain ⟨_, -, closing | ⟨_, sent⟩⟩ := permitted
  · cases closing
  · cases sent

end storing

theorem finalize_stores (admitted : Admitted cfg root) :
    Traces (StoresOnly (Issued cfg)) (chatHistoryFinalizeAndStoreMessage root) w (fun _ _ => True) := by
  apply (chatHistoryFinalizeAndStoreMessage_spec root).mono
  · intro u v step
    obtain ⟨a, issues, rfl⟩ := step
    apply storesOnly_act
    intro m e
    subst e
    obtain retry | ⟨-, below, persist | store⟩ := issues
    · obtain ⟨-, ⟨_, e, -⟩ | e⟩ := retry
      · cases e
      · cases e
    · obtain ⟨_, e, -⟩ := persist
      cases e
    · obtain ⟨m, timestamp, e, id, payload, -, -, bounded⟩ := store
      cases e
      exact ⟨⟨root, timestamp, payload, bounded, admitted⟩, by omega, by omega⟩
  · intro _ _ _ _
    trivial

theorem publishMessage_stores (admitted : Admitted cfg root) :
    Traces (StoresOnly (Issued cfg)) (publishMessage fd root) w (fun _ _ => True) := by
  apply (finalize_stores admitted).bind
  intro r u _ _
  obtain ⟨ret, stored⟩ := r
  cases stored with
  | none => exact Traces.ite (fun _ => chatWsSendError_quiet _ _) (fun _ => chatWsSendError_quiet _ _)
  | some payload =>
    apply (chatWsBroadcast_quiet payload).bind
    intro closed v _ _
    apply (announced_quiet chatHistoryBroadcastInfo_spec).bind
    intro closedToo x _ _
    apply Traces.ite
    · intro _
      apply (announced_quiet chatSessionsBroadcastOnlineUsers_spec).bind
      intro _ y _ _
      exact .pure trivial
    · intro _
      exact .pure trivial

theorem admitted_filled {root' : Json} {type data : String} (unique : UniqueKeys root.members)
    (filled : Filled root root') (target : ∃ all users, Target cfg root' all users)
    (sender : jsonStringInRange (root.member "from") maxUserIdLen false = true)
    (name : jsonStringInRange (root.member "name") maxNameLen false = true)
    (group : validateGroupFields root (type == "newGroup") = true)
    (is_type : root.member "type" = some (.str type)) (known : type = "text" ∨ type = "newGroup")
    (is_data : root.member "data" = some (.str data)) (short : strlen data ≤ cfg.maxTextBytes)
    (nonempty : type = "text" → data ≠ "") : Admitted cfg root' := by
  constructor
  case object => exact filled.isObject
  case unique => exact filled.unique unique
  case sender =>
    rw [filled.others _ (by decide)]
    exact inRange sender
  case name =>
    rw [filled.others _ (by decide)]
    exact inRange name
  case content =>
    refine ⟨type, data, ?_, known, ?_, short, nonempty, ?_⟩
    · rw [filled.others _ (by decide)]
      exact is_type
    · rw [filled.others _ (by decide)]
      exact is_data
    · rw [groupFields_congr _ (filled.others _ (by decide)) (filled.others _ (by decide))]
      exact group
  case target => exact target

theorem distinct_target (distinct : jsonHasDuplicateKeys root = false) (target : Json)
    (h : root.member "to" = some target) : UniqueKeys target.members :=
  distinct_unique (distinct_member distinct h)

theorem validateToObject_both {Step : World cfg → World cfg → Prop} (ho : root.isObject = true)
    (distinct : jsonHasDuplicateKeys root = false) :
    Traces Step (validateToObject root : Server cfg _) w (fun r _ => Filled root r.2 ∧
      (r.1 = true → ∃ all users, Target cfg r.2 all users)) := by
  have filled : Traces Step (validateToObject root : Server cfg _) w (fun r u => u = w ∧ Filled root r.2 ∧
      (r.1 = true → ValidTarget cfg r.2)) := validateToObject_spec ho
  have target : Traces Step (validateToObject root : Server cfg _) w (fun r _ =>
      r.1 = true → ∃ all users, Target cfg r.2 all users) := validateToObject_target ho (distinct_target distinct)
  intro env
  exact ⟨(filled env).1, fun r h => ⟨((filled env).2 r h).2.1, (target env).2 r h⟩⟩

theorem handleChatMessage_stores {type : String} (ho : root.isObject = true)
    (distinct : jsonHasDuplicateKeys root = false) (is_type : root.member "type" = some (.str type)) :
    Traces (StoresOnly (Issued cfg)) (handleChatMessage fd type root) w (fun _ _ => True) := by
  apply Traces.ite (fun _ => chatWsSendError_quiet _ _)
  intro fields
  simp only [Bool.or_eq_true, Bool.not_eq_true', not_or, Bool.not_eq_false] at fields
  apply Traces.ite (fun _ => chatWsSendError_quiet _ _)
  intro group
  have grouped : validateGroupFields root (type == "newGroup") = true := by simpa using group
  have publish : ∀ (data : String) (code message : String), type = "text" ∨ type = "newGroup" →
      root.member "data" = some (.str data) → strlen data ≤ cfg.maxTextBytes → (type = "text" → data ≠ "") →
      Traces (StoresOnly (Issued cfg)) (do
        let r ← validateToObject root
        if !r.1 then chatWsSendError fd code message else publishMessage fd r.2) w (fun _ _ => True) := by
    intro data code message known is_data short nonempty
    apply (validateToObject_both ho distinct).bind
    intro r u _ h
    obtain ⟨valid, root'⟩ := r
    apply Traces.ite (fun _ => chatWsSendError_quiet _ _)
    intro passed
    exact publishMessage_stores (admitted_filled (distinct_unique distinct) h.1 (h.2 (by simpa using passed))
      fields.1 fields.2 grouped is_type known is_data short nonempty)
  apply Traces.ite
  · intro text
    apply Traces.ite (fun _ => chatWsSendError_quiet _ _)
    intro in_range
    obtain ⟨data, is_data, nonempty, short⟩ := inRange (by simpa using in_range)
    exact publish data _ _ (.inl text) is_data short (fun _ => nonempty)
  · intro not_text
    apply Traces.ite
    · intro newGroup
      apply Traces.ite (fun _ => chatWsSendError_quiet _ _)
      intro in_range
      obtain ⟨data, is_data, short⟩ := inRange_empty (by simpa using in_range)
      exact publish data _ _ (.inr newGroup) is_data short (fun text => absurd text not_text)
    · intro _
      exact chatWsSendError_quiet _ _

theorem validateHistoryMessageObject_admitted {Step : World cfg → World cfg → Prop}
    (distinct : jsonHasDuplicateKeys root = false) :
    Traces Step (validateHistoryMessageObject (root.member "message") : Server cfg _) w
      (fun r _ => r.1 = true → Admitted cfg r.2) := by
  have refused : ∀ (j : Json) (x : World cfg), Traces Step (pure (false, j) : Server cfg (Bool × Json)) x
      (fun r _ => r.1 = true → Admitted cfg r.2) := by
    intro j x
    apply Traces.pure
    intro h
    cases h
  cases at_message : root.member "message" with
  | none => exact refused _ _
  | some message =>
    have inner := distinct_member distinct at_message
    apply Traces.ite (fun _ => refused _ _)
    intro object
    split
    · rename_i id timestamp type _ _ typed
      obtain ⟨is_type, -⟩ := stringInRange_eq_some typed
      apply Traces.ite (fun _ => refused _ _)
      intro fields
      simp only [Bool.or_eq_true, Bool.not_eq_true', not_or, Bool.not_eq_false] at fields
      apply (validateToObject_both (by simpa using object) inner).bind
      intro r u _ h
      obtain ⟨valid, message'⟩ := r
      apply Traces.ite (fun _ => refused _ _)
      intro passed
      simp only [Bool.or_eq_true, Bool.not_eq_true', not_or, Bool.not_eq_false] at passed
      have grouped : validateGroupFields message (type == "newGroup") = true := by
        rw [← passed.2]
        exact (groupFields_congr _ (h.1.others _ (by decide)) (h.1.others _ (by decide))).symm
      have admitted : ∀ data : String, type = "text" ∨ type = "newGroup" →
          message'.member "data" = some (.str data) → strlen data ≤ cfg.maxTextBytes →
          (type = "text" → data ≠ "") → Admitted cfg message' := by
        intro data known is_data short nonempty
        rw [h.1.others _ (by decide)] at is_data
        exact admitted_filled (distinct_unique inner) h.1 (h.2 passed.1) fields.1 fields.2 grouped is_type known
          is_data short nonempty
      apply Traces.ite
      · intro text
        apply Traces.pure
        intro in_range
        obtain ⟨data, is_data, nonempty, short⟩ := inRange in_range
        exact admitted data (.inl text) is_data short (fun _ => nonempty)
      · intro not_text
        apply Traces.ite
        · intro newGroup
          apply Traces.pure
          intro in_range
          obtain ⟨data, is_data, short⟩ := inRange_empty in_range
          exact admitted data (.inr newGroup) is_data short (fun text => absurd text not_text)
        · intro _
          exact refused _ _
    · exact refused _ _

end EspWebChat.AdmittedMessages
