import EspWebChat.StoreRules

set_option autoImplicit false

/-!
# The kind of a conversation

The public chat, private chats and groups share one map. While no user has the id of a group or
the word for the public chat, the key of an entry says what kind of conversation it is.
-/
namespace EspWebChat.ConversationKinds
open JsonTree JsValues ClientMessages Interruptible BrowserWorld ClientStore ClientSocket
open WrittenMessages FaithfulCopies ConversationSummaries StoreEffects StoreRules
open Provenance (Accepted)

variable {isGroup : String → Bool} {key userId : String} {c m msg : Json}

def kind (isGroup : String → Bool) (key : String) : String :=
  if key = "global" then "global" else if isGroup key then "group" else "private"

/-- An entry that is stored under its id, with the kind of it. -/
structure Filed (isGroup : String → Bool) (key : String) (c : Json) : Prop where
  id : c.lastMember "id" = some (str key)
  type : c.lastMember "type" = some (str (kind isGroup key))

/-- The users a message is from and to. -/
def parties (m : Json) : List String :=
  ((m.lastMember "from").toList ++ targetUsers m).filterMap (fun user => text (some user))

/-- A group message is in a group, and a direct one is not between groups. -/
def Separate (isGroup : String → Bool) (m : Json) : Prop :=
  if isGroupMessage m then kind isGroup (orEmpty (m.lastMember "groupId")) ≠ "private"
  else targetsAll m = true ∨ ∀ id ∈ parties m, kind isGroup id ≠ "group"

theorem kind_global (isGroup : String → Bool) : kind isGroup "global" = "global" := rfl

theorem kind_group (named : kind isGroup key ≠ "private") (other : key ≠ "global") : kind isGroup key = "group" := by
  unfold kind at named ⊢
  split_ifs at named ⊢ <;> simp_all

theorem kind_private (named : kind isGroup key ≠ "group") (other : key ≠ "global") : kind isGroup key = "private" := by
  unfold kind at named ⊢
  split_ifs at named ⊢ <;> simp_all

theorem otherTarget_party (userId : String) (m : Json) : otherTarget userId m = "global" ∨ otherTarget userId m ∈ parties m := by
  unfold otherTarget
  cases found : ((targetUsers m).filterMap (fun user => text (some user))).find? (fun id => id != userId) with
  | none => exact .inl rfl
  | some id =>
    right
    unfold parties
    rw [List.filterMap_append]
    exact List.mem_append_right _ (List.mem_of_find?_eq_some found)

theorem sender_party (m : Json) : (text (m.lastMember "from")).getD "global" = "global" ∨
    (text (m.lastMember "from")).getD "global" ∈ parties m := by
  unfold parties
  cases sender : m.lastMember "from" with
  | none => exact .inl rfl
  | some v =>
    cases id : text (some v) with
    | none => exact .inl rfl
    | some id' =>
      right
      simp [id]

/-- A message that is in no group goes to a user it names, or to the public chat. -/
theorem direct_place (userId : String) (direct : isGroupMessage m = false) :
    conversationForMessage userId m = "global" ∨
      (targetsAll m = false ∧ conversationForMessage userId m ∈ parties m) := by
  unfold conversationForMessage
  rw [direct, if_neg Bool.false_ne_true]
  split_ifs with all own
  · exact .inl rfl
  · exact (otherTarget_party userId m).imp_right (fun party => ⟨by simpa using all, party⟩)
  · exact (sender_party m).imp_right (fun party => ⟨by simpa using all, party⟩)

theorem direct_key (userId : String) (direct : isGroupMessage m = false) (separate : Separate isGroup m) :
    kind isGroup (conversationForMessage userId m) ≠ "group" := by
  rcases direct_place userId direct with public_key | ⟨addressed, party⟩
  · rw [public_key]
    simp [kind_global]
  · unfold Separate at separate
    rw [direct] at separate
    simp only [addressed, Bool.false_eq_true, if_false, false_or] at separate
    exact separate _ party

/-- Members that only replace the preview. -/
def Silent (overlay : Members) : Prop :=
  ∀ key, key ≠ "lastPreview" → key ≠ "updatedAt" → overlay.reverse.lookup key = none

theorem previewMembers_silent (existing : Option Json) (preview : Json) (now : Number) :
    Silent (previewMembers existing preview now) := by
  intro key preview time
  unfold previewMembers
  split_ifs
  · rw [reverse_lookup_append, lookup_optionalMember preview, lookup_optionalMember time]
    rfl
  · simp [lookup_cons, preview, time]

theorem Filed.spread {base overlay : Members} (filed : Filed isGroup key (.obj base)) (silent : Silent overlay) :
    Filed isGroup key (.obj (spread base overlay)) := by
  constructor
  · rw [object_spread, silent "id" (by decide) (by decide)]
    exact filed.id
  · rw [object_spread, silent "type" (by decide) (by decide)]
    exact filed.type

theorem Filed.append {base overlay : Members} (filed : Filed isGroup key (.obj base)) (silent : Silent overlay) :
    Filed isGroup key (.obj (base ++ overlay)) := by
  constructor
  · change (base ++ overlay).reverse.lookup _ = _
    rw [reverse_lookup_append, silent "id" (by decide) (by decide)]
    exact filed.id
  · change (base ++ overlay).reverse.lookup _ = _
    rw [reverse_lookup_append, silent "type" (by decide) (by decide)]
    exact filed.type

theorem filed_defaults {existing : Option Json} (filed : ∀ c, existing = some c → Filed isGroup "global" c) :
    Filed isGroup "global" (.obj (spread defaultConversation ((existing.map Json.members).getD []))) := by
  cases existing with
  | none => exact ⟨rfl, rfl⟩
  | some c =>
    constructor
    · rw [object_spread]
      change (c.lastMember "id").or _ = _
      rw [(filed c rfl).id]
      rfl
    · rw [object_spread]
      change (c.lastMember "type").or _ = _
      rw [(filed c rfl).type]
      rfl

/-- The entry that a message writes has the kind of its key. -/
theorem entry_filed (s : Store) (now : Number) (entries : ∀ entry ∈ s.conversations, Filed isGroup entry.1 entry.2)
    (separate : Separate isGroup msg) :
    Filed isGroup (conversationEntry s msg now).1 (conversationEntry s msg now).2 := by
  have plain : ∀ key name type members overlay, kind isGroup key = type → Silent overlay →
      Filed isGroup key
        (.obj ([("id", str key), ("name", name), ("type", str type), ("members", members)] ++ overlay)) := by
    intro key name type members overlay same silent
    subst same
    exact Filed.append ⟨rfl, rfl⟩ silent
  unfold conversationEntry
  dsimp only
  by_cases everyone : conversationForMessage s.userId msg = "global"
  · rw [if_pos everyone, everyone]
    refine Filed.spread (filed_defaults ?_) (previewMembers_silent _ _ _)
    intro c found
    exact entries _ (mem_of_lookup found)
  · rw [if_neg everyone]
    by_cases group : isGroupMessage msg = true
    · rw [if_pos group]
      refine plain _ _ _ _ _ ?_ (previewMembers_silent _ _ _)
      unfold Separate at separate
      unfold conversationForMessage at everyone ⊢
      rw [if_pos group] at *
      exact kind_group separate everyone
    · rw [if_neg group]
      have direct := direct_key s.userId (by simpa using group) separate
      exact plain _ _ _ _ _ (kind_private direct everyone) (previewMembers_silent _ _ _)

theorem separate_same (group : isGroupMessage c = isGroupMessage m)
    (groupId : orEmpty (c.lastMember "groupId") = orEmpty (m.lastMember "groupId"))
    (all : targetsAll c = targetsAll m) (named : parties c = parties m) (separate : Separate isGroup m) :
    Separate isGroup c := by
  unfold Separate at separate ⊢
  rw [group, groupId, all, named]
  exact separate

theorem copies_separate (copies : Copies m c) (valid : Wellformed m) (separate : Separate isGroup m) :
    Separate isGroup c := by
  have groupId := (copies.metadata valid).1
  apply separate_same _ _ (copies.all) _ separate
  · unfold isGroupMessage
    rw [copies.type, groupId]
  · rw [groupId]
  · unfold parties
    rw [copies.sender, copies.users valid]

theorem texts_stringified (users : List Json) :
    (users.map stringified).filterMap (fun user => text (some user)) = users.filterMap (fun user => text (some user)) := by
  rw [List.filterMap_map]
  apply congrArg (fun f => users.filterMap f)
  funext user
  exact text_stringified (some user)

theorem stringified_separate (valid : Wellformed m) (separate : Separate isGroup m) :
    Separate isGroup (stringified m) := by
  have users : targetUsers (stringified m) = (targetUsers m).map stringified := by
    unfold targetUsers
    rw [lastMember_stringified, property_stringified, itemsOf_stringified]
  apply separate_same _ _ _ _ separate
  · unfold isGroupMessage
    rw [lastMember_stringified, lastMember_stringified, isText_stringified]
    rcases valid.metadata with ⟨none, -⟩ | ⟨-, ⟨id, some, -⟩, -⟩
    · rw [none]
      rfl
    · rw [some]
      rfl
  · unfold orEmpty
    rw [lastMember_stringified, text_stringified]
  · have boolean := valid.target
    unfold validMessageTarget at boolean
    simp only [Bool.and_eq_true] at boolean
    unfold targetsAll
    rw [lastMember_stringified, property_stringified]
    exact truthy_boolean boolean.1.1.1.1
  · unfold parties
    have sender : ((stringified m).lastMember "from").toList = ((m.lastMember "from").toList).map stringified := by
      rw [lastMember_stringified]
      cases m.lastMember "from" <;> rfl
    rw [users, sender, ← List.map_append, texts_stringified]

theorem stringified_filed (filed : Filed isGroup key c) : Filed isGroup key (stringified c) := by
  constructor
  · rw [lastMember_stringified, filed.id]
    rfl
  · rw [lastMember_stringified, filed.type]
    rfl

/-- The key of an entry decides its kind, others who are online are no groups, and no message is
    between groups. -/
def kindRules (isGroup : String → Bool) : Rules where
  entry := Filed isGroup
  online id := kind isGroup id = "private"
  own _ := True
  message m := Wellformed m ∧ Separate isGroup m
  writtenEntry _ _ := stringified_filed
  writtenMessage _ h := ⟨valid_iff.mp (validHistoryMessage_stringified (valid_iff.mpr h.1)), stringified_separate h.1 h.2⟩
  defaults _ := filed_defaults
  summary s _ now entries h := entry_filed s now entries h.2
  friend _ _ other := ⟨rfl, by rw [other]; rfl⟩
  chosen _ _ := trivial

/-- A frame that keeps users and groups apart on a page with the store `s`. -/
structure Apart (isGroup : String → Bool) (s : Store) (msg : Json) : Prop where
  message : Accepted s msg → Separate isGroup msg
  recovered : isText "historyResponse" (msg.lastMember "type") = true → ∀ candidate,
    msg.lastMember "message" = some candidate → validHistoryMessage candidate = true → Separate isGroup candidate
  presence : isText "onlineUsers" (msg.lastMember "type") = true → ∀ user ∈ itemsOf (msg.lastMember "data"),
    validUserId (user.lastMember "id") = true → orEmpty (user.lastMember "id") ≠ s.userId →
    kind isGroup (orEmpty (user.lastMember "id")) = "private"

theorem apart_fits {s : Store} (apart : Apart isGroup s msg) : Fits (kindRules isGroup) s msg where
  message accepted := ⟨valid_iff.mp accepted.valid, apart.message accepted⟩
  recovered type candidate found valid users now := by
    have copies := recoveredMessagePayload_copies users candidate msg now
    have wellformed := valid_iff.mp valid
    exact ⟨copies.wellformed wellformed,
      copies_separate copies wellformed (apart.recovered type candidate found valid)⟩
  presence := apart.presence

/-- The event keeps users and groups apart. -/
structure Distinct (isGroup : String → Bool) (e : Event) (env : ℕ → Reply) (w : Page) : Prop where
  frame : ∀ s msg, e = .socketMessage s (some msg) → w.link.ws = some s → Apart isGroup w.store msg
  group : ∀ ids, e = .createGroup ids → ids ≠ [] → kind isGroup ("group-" ++ (env 0).uuid) = "group"

theorem distinct_follows {e : Event} {env : ℕ → Reply} {w : Page} (distinct : Distinct isGroup e env w) :
    Follows (kindRules isGroup) e env w := by
  constructor
  · intro s msg frame current
    exact apart_fits (distinct.frame s msg frame current)
  · intro ids created some now
    exact ⟨rfl, by rw [distinct.group ids created some]; rfl⟩

end EspWebChat.ConversationKinds
