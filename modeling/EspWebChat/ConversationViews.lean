import EspWebChat.ConversationFiling
import EspWebChat.ConversationRuns

set_option autoImplicit false

/-!
# What the page shows

The list of conversations, and the messages of the one that is open. While users and groups have
different ids, every message the user may see is shown in one conversation of the list.
-/
namespace EspWebChat.ConversationViews
open Relation JsonTree JsValues ClientMessages Interruptible BrowserWorld ClientStore ClientSocket
open WrittenMessages StoreSteps StoreEffects StoreRules FaithfulCopies ConversationKinds ConversationRuns ConversationFiling

def onlineFriends (byName : Json → Json → Bool) (s : Store) : Members :=
  (s.onlineUsers.filter (fun user => user.1 != s.userId)).mergeSort (fun a b => byName a.2 b.2)

def isOnline (s : Store) (id : String) : Bool := s.onlineUsers.any (fun user => user.1 == id)

def pastConversations (s : Store) : List Json :=
  ((s.conversations.map Prod.snd).filter (fun c => !isText "global" (c.lastMember "id") &&
    (isText "group" (c.lastMember "type") || !isOnline s (conversationId c)))).mergeSort
    (fun a b => !greater (updatedAt (some b)) (updatedAt (some a)))

/-- The conversations that `renderConversationList` lists, from top to bottom, after it has added those
    with friends who are online; `byName` is the order of names in the browser's language. -/
def listedConversations (byName : Json → Json → Bool) (s : Store) : List Json :=
  (s.conversations.lookup "global").toList ++
    (onlineFriends byName s).filterMap (fun user => s.conversations.lookup user.1) ++ pastConversations s

def opened (c : Json) (s : Store) : Store := { s with currentConversation := c }

/-- Of all conversations of the list, which lists none twice, `c` alone shows the message. It does so
    once the page can make an element of it and of those above it. -/
structure ShownIn (byName : Json → Json → Bool) (s : Store) (m c : Json) : Prop where
  listed : c ∈ listedConversations byName s
  apart : ((listedConversations byName s).map conversationId).Nodup
  visible : m ∈ visibleMessages (opened c s)
  shown : (∀ x ∈ visibleMessages (opened c s), numericId x ≤ numericId m → createMessageElement x = true) →
    m ∈ shownMessages (opened c s)
  only : ∀ d ∈ listedConversations byName s, m ∈ visibleMessages (opened d s) → d = c

/-- A message as the page composes it, seen by the user `userId`. -/
structure Ordinary (userId : String) (m : Json) : Prop where
  group : isGroupMessage m = true →
    orEmpty (m.lastMember "groupId") ≠ "global" ∧ (isText "text" (m.lastMember "type") = true → targetsAll m = false)
  sender : isGroupMessage m = false → targetsAll m = false → isText "global" (m.lastMember "from") = false
  own : isGroupMessage m = false → targetsAll m = false → isText userId (m.lastMember "from") = true →
    ∃ other, other ≠ userId ∧ other ≠ "global" ∧ targetUsers m = [str other]

variable {isGroup : String → Bool} {key userId : String} {c m : Json} {s : Store}

theorem isText_str (a b : String) : isText a (some (str b)) = decide (b = a) := by
  unfold isText
  by_cases same : b = a
  · simp [str, text, same]
  · simp [str, text, same]

theorem sender_text (valid : Wellformed m) : ∃ from', m.lastMember "from" = some (str from') := by
  obtain ⟨id, found, -⟩ := text_of_validText valid.sender
  exact ⟨id, found⟩

theorem group_text (valid : Wellformed m) : (isGroupMessage m = true ∧ ∃ id, m.lastMember "groupId" = some (str id) ∧ id ≠ "") ∨
    (isGroupMessage m = false ∧ m.lastMember "groupId" = none ∧ isText "text" (m.lastMember "type") = true) := by
  have group := valid.group
  split_ifs at group with needed
  · unfold validGroupMetadata at group
    obtain ⟨id, found, filled⟩ := text_of_validText (Bool.and_eq_true_iff.mp group).1
    refine .inl ⟨?_, id, found, filled⟩
    unfold isGroupMessage
    rw [found]
    simp [truthy, truthyValue, filled]
  · simp only [Bool.or_eq_true, not_or, Bool.not_eq_true, Option.isSome_eq_false_iff, Option.isNone_iff_eq_none] at needed
    refine .inr ⟨?_, needed.1.2, ?_⟩
    · unfold isGroupMessage
      rw [needed.1.1, needed.1.2]
      rfl
    · have type := valid.type
      rw [needed.1.1, Bool.or_false] at type
      exact type

theorem conversationId_filed (filed : Filed isGroup key c) : conversationId c = key := by
  unfold conversationId
  rw [filed.id]
  rfl

theorem conversationType_filed (filed : Filed isGroup key c) (value : String) :
    isText value (conversationType (opened c s)) = decide (kind isGroup key = value) := by
  have type : conversationType (opened c s) = some (str (kind isGroup key)) := filed.type
  rw [type, isText_str]

theorem kind_cases (isGroup : String → Bool) (key : String) :
    (key = "global" ∧ kind isGroup key = "global") ∨ (key ≠ "global" ∧ kind isGroup key = "group") ∨
      (key ≠ "global" ∧ kind isGroup key = "private") := by
  unfold kind
  split_ifs with everyone group
  · exact .inl ⟨everyone, rfl⟩
  · exact .inr (.inl ⟨everyone, rfl⟩)
  · exact .inr (.inr ⟨everyone, rfl⟩)

theorem belongs_filed (filed : Filed isGroup key c) : belongsToCurrentConversation (opened c s) m =
    if kind isGroup key = "global" then isText "text" (m.lastMember "type") && targetsAll m
    else if kind isGroup key = "group" then isText key (m.lastMember "groupId")
    else !truthy (m.lastMember "groupId") && !targetsAll m &&
      ((isText s.userId (m.lastMember "from") && includesText (targetUsers m) key) ||
        (isText key (m.lastMember "from") && includesText (targetUsers m) s.userId)) := by
  have id : conversationId (opened c s).currentConversation = key := conversationId_filed filed
  have user : (opened c s).userId = s.userId := rfl
  unfold belongsToCurrentConversation
  dsimp only
  rw [conversationType_filed filed, conversationType_filed filed, conversationType_filed filed, id, user]
  rcases kind_cases isGroup key with ⟨-, same⟩ | ⟨-, same⟩ | ⟨-, same⟩
  · simp [same]
  · cases isText key (m.lastMember "groupId") <;> simp [same]
  · simp [same]

theorem belongs_group (filed : Filed isGroup key c) (valid : Wellformed m) (separate : Separate isGroup m)
    (ordinary : Ordinary userId m) (group : isGroupMessage m = true) :
    belongsToCurrentConversation (opened c s) m = true ↔ key = conversationForMessage userId m := by
  obtain ⟨-, id, found, filled⟩ | ⟨direct, -⟩ := group_text valid
  · obtain ⟨other, alone⟩ := ordinary.group group
    have here : conversationForMessage userId m = id := by
      unfold conversationForMessage
      rw [if_pos group, found]
      rfl
    unfold Separate at separate
    rw [group, if_pos rfl] at separate
    rw [found] at other separate
    have place : orEmpty (some (str id)) = id := rfl
    rw [place] at other separate
    rw [belongs_filed filed, here, found]
    rcases kind_cases isGroup key with ⟨everyone, same⟩ | ⟨-, same⟩ | ⟨-, same⟩
    · rw [if_pos same]
      constructor
      · intro shown
        obtain ⟨chat, all⟩ := Bool.and_eq_true_iff.mp shown
        rw [alone chat] at all
        cases all
      · intro it
        exact absurd (it.symm.trans everyone) other
    · rw [if_neg (by rw [same]; decide), if_pos same, isText_str, decide_eq_true_iff, eq_comm]
    · rw [if_neg (by rw [same]; decide), if_neg (by rw [same]; decide)]
      constructor
      · intro shown
        have empty : truthy (some (str id)) = true := by simp [truthy, truthyValue, str, filled]
        rw [empty] at shown
        cases shown
      · intro it
        subst it
        exact absurd same separate
  · rw [group] at direct
    cases direct

theorem direct_place_own (direct : isGroupMessage m = false) (addressed : targetsAll m = false)
    (own : isText userId (m.lastMember "from") = true) {other : String} (apart : other ≠ userId)
    (targets : targetUsers m = [str other]) : conversationForMessage userId m = other := by
  have found : otherTarget userId m = other := by
    unfold otherTarget
    rw [targets]
    simp [str, text, apart]
  unfold conversationForMessage
  rw [if_neg (by rw [direct]; decide), if_neg (by rw [addressed]; decide), if_pos own, found]

theorem direct_place_sender {sender : String} (direct : isGroupMessage m = false) (addressed : targetsAll m = false)
    (found : m.lastMember "from" = some (str sender)) (other : isText userId (m.lastMember "from") = false) :
    conversationForMessage userId m = sender := by
  unfold conversationForMessage
  rw [if_neg (by rw [direct]; decide), if_neg (by rw [addressed]; decide), if_neg (by rw [other]; decide), found]
  rfl

theorem belongs_direct (filed : Filed isGroup key c) (valid : Wellformed m) (separate : Separate isGroup m)
    (visible : isMessageVisibleToUser m (some (str s.userId)) = true) (ordinary : Ordinary s.userId m)
    (direct : isGroupMessage m = false) :
    belongsToCurrentConversation (opened c s) m = true ↔ key = conversationForMessage s.userId m := by
  obtain ⟨group, -⟩ | ⟨-, groupId, chat⟩ := group_text valid
  · rw [direct] at group
    cases group
  · obtain ⟨sender, found⟩ := sender_text valid
    have away := direct_key s.userId direct separate
    rw [belongs_filed filed, groupId, chat]
    cases addressed : targetsAll m with
    | true =>
      have here : conversationForMessage s.userId m = "global" := by
        unfold conversationForMessage
        rw [if_neg (by rw [direct]; decide), if_pos addressed]
      rw [here]
      rcases kind_cases isGroup key with ⟨everyone, same⟩ | ⟨other, same⟩ | ⟨other, same⟩
      · subst everyone
        simp [same]
      · simp [same, other, isText, text]
      · simp [same, other]
    | false =>
      by_cases own : isText s.userId (m.lastMember "from") = true
      · obtain ⟨other, apart, named, targets⟩ := ordinary.own direct addressed own
        have here := direct_place_own direct addressed own apart targets
        rw [here] at away ⊢
        have mine : sender = s.userId := by
          rw [found, isText_str, decide_eq_true_iff] at own
          exact own
        have to_key : includesText (targetUsers m) key = decide (other = key) := by
          rw [targets]
          simp [includesText, isText_str]
        have to_me : includesText (targetUsers m) s.userId = false := by
          rw [targets]
          simp [includesText, isText_str, apart]
        rw [own, to_key, to_me]
        rcases kind_cases isGroup key with ⟨everyone, same⟩ | ⟨-, same⟩ | ⟨-, same⟩
        · subst everyone
          simp [same, Ne.symm named]
        · have apart : key ≠ other := by
            rintro rfl
            exact away same
          simp [same, apart, isText, text]
        · simp [same, truthy, eq_comm]
      · have theirs : isText s.userId (m.lastMember "from") = false := by simpa using own
        have here := direct_place_sender direct addressed found theirs
        rw [here] at away ⊢
        have named : sender ≠ "global" := by
          have other := ordinary.sender direct addressed
          rw [found, isText_str, decide_eq_false_iff_not] at other
          exact other
        have to_me : includesText (targetUsers m) s.userId = true := by
          have allowed := (Bool.and_eq_true_iff.mp visible).2
          have named : text (some (str s.userId)) = some s.userId := rfl
          rw [named, Option.any_some, theirs, addressed] at allowed
          exact (Bool.and_eq_true_iff.mp allowed).2
        rw [theirs, to_me, found, isText_str]
        rcases kind_cases isGroup key with ⟨everyone, same⟩ | ⟨-, same⟩ | ⟨-, same⟩
        · subst everyone
          simp [same, Ne.symm named]
        · have apart : key ≠ sender := by
            rintro rfl
            exact away same
          simp [same, apart, isText, text]
        · simp [same, truthy, eq_comm]

/-- A message is shown in a conversation if and only if it is filed there. -/
theorem belongs_place (filed : Filed isGroup key c) (valid : Wellformed m) (separate : Separate isGroup m)
    (visible : isMessageVisibleToUser m (some (str s.userId)) = true) (ordinary : Ordinary s.userId m) :
    belongsToCurrentConversation (opened c s) m = true ↔ key = conversationForMessage s.userId m := by
  cases group : isGroupMessage m with
  | true => exact belongs_group filed valid separate ordinary group
  | false => exact belongs_direct filed valid separate visible ordinary group

theorem place_other (valid : Wellformed m) (separate : Separate isGroup m) (ordinary : Ordinary userId m)
    (with_user : kind isGroup (conversationForMessage userId m) = "private") : conversationForMessage userId m ≠ userId := by
  obtain ⟨group, id, found, -⟩ | ⟨direct, -⟩ := group_text valid
  · unfold Separate at separate
    rw [group, if_pos rfl] at separate
    unfold conversationForMessage at with_user
    rw [if_pos group] at with_user
    exact absurd with_user separate
  · obtain ⟨sender, found⟩ := sender_text valid
    cases addressed : targetsAll m with
    | true =>
      unfold conversationForMessage at with_user
      rw [if_neg (by rw [direct]; decide), if_pos addressed, kind_global] at with_user
      exact absurd with_user (by decide)
    | false =>
      by_cases own : isText userId (m.lastMember "from") = true
      · obtain ⟨other, apart, -, targets⟩ := ordinary.own direct addressed own
        rw [direct_place_own direct addressed own apart targets]
        exact apart
      · have theirs : isText userId (m.lastMember "from") = false := by simpa using own
        rw [direct_place_sender direct addressed found theirs]
        rw [found, isText_str, decide_eq_false_iff_not] at theirs
        exact theirs

/-- What the list is drawn from. -/
structure Drawn (isGroup : String → Bool) (s : Store) : Prop where
  filed : ∀ entry ∈ s.conversations, Filed isGroup entry.1 entry.2
  friends : ∀ user ∈ s.onlineUsers, user.1 ≠ s.userId → kind isGroup user.1 = "private"
  apart : (keys s).Nodup
  alone : (people s).Nodup

variable {byName : Json → Json → Bool}

theorem conversationId_found (drawn : Drawn isGroup s) (found : s.conversations.lookup key = some c) : conversationId c = key :=
  conversationId_filed (drawn.filed _ (mem_of_lookup found))

theorem mem_onlineFriends {user : String × Json} : user ∈ onlineFriends byName s ↔ user ∈ s.onlineUsers ∧ user.1 ≠ s.userId := by
  unfold onlineFriends
  rw [List.mem_mergeSort, List.mem_filter, bne_iff_ne]

theorem mem_pastConversations : c ∈ pastConversations s ↔ c ∈ s.conversations.map Prod.snd ∧
    isText "global" (c.lastMember "id") = false ∧
    (isText "group" (c.lastMember "type") = true ∨ isOnline s (conversationId c) = false) := by
  unfold pastConversations
  rw [List.mem_mergeSort, List.mem_filter]
  simp

theorem ids_found (drawn : Drawn isGroup s) (users : Members) :
    ((users.filterMap (fun user => s.conversations.lookup user.1)).map conversationId).Sublist (users.map Prod.fst) := by
  induction users with
  | nil => exact List.Sublist.slnil
  | cons user users ih =>
    rw [List.filterMap_cons, List.map_cons]
    cases found : s.conversations.lookup user.1 with
    | none => exact ih.cons _
    | some c =>
      rw [List.map_cons, conversationId_found drawn found]
      exact ih.cons_cons _

theorem ids_entries (drawn : Drawn isGroup s) : (s.conversations.map Prod.snd).map conversationId = keys s := by
  rw [List.map_map]
  apply List.map_congr_left
  intro entry there
  exact conversationId_filed (drawn.filed entry there)

theorem pastConversations_apart (drawn : Drawn isGroup s) : ((pastConversations s).map conversationId).Nodup := by
  unfold pastConversations
  rw [List.Perm.nodup_iff ((List.mergeSort_perm _ _).map _)]
  apply List.Nodup.sublist (List.filter_sublist.map _)
  rw [ids_entries drawn]
  exact drawn.apart

theorem onlineFriends_apart (drawn : Drawn isGroup s) : ((onlineFriends byName s).map Prod.fst).Nodup := by
  unfold onlineFriends
  rw [List.Perm.nodup_iff ((List.mergeSort_perm _ _).map _)]
  exact List.Nodup.sublist (List.filter_sublist.map _) drawn.alone

theorem listed_entry (listed : c ∈ listedConversations byName s) : ∃ key, (key, c) ∈ s.conversations := by
  unfold listedConversations at listed
  rcases List.mem_append.mp listed with above | past
  · rcases List.mem_append.mp above with first | online
    · exact ⟨"global", mem_of_lookup (Option.mem_toList.mp first)⟩
    · obtain ⟨user, -, found⟩ := List.mem_filterMap.mp online
      exact ⟨user.1, mem_of_lookup found⟩
  · obtain ⟨entry, there, rfl⟩ := List.mem_map.mp (mem_pastConversations.mp past).1
    exact ⟨entry.1, there⟩

theorem online_id (drawn : Drawn isGroup s) {id : String}
    (there : id ∈ ((onlineFriends byName s).filterMap (fun user => s.conversations.lookup user.1)).map conversationId) :
    isOnline s id = true ∧ kind isGroup id = "private" := by
  have known := (ids_found drawn _).subset there
  obtain ⟨user, friend, rfl⟩ := List.mem_map.mp known
  obtain ⟨online, other⟩ := mem_onlineFriends.mp friend
  exact ⟨List.any_eq_true.mpr ⟨user, online, beq_self_eq_true _⟩, drawn.friends user online other⟩

/-- No conversation is listed twice. -/
theorem listed_apart (drawn : Drawn isGroup s) : ((listedConversations byName s).map conversationId).Nodup := by
  have first : ((s.conversations.lookup "global").toList.map conversationId).Sublist ["global"] := by
    cases found : s.conversations.lookup "global" with
    | none => exact List.nil_sublist _
    | some c =>
      change [conversationId c].Sublist _
      rw [conversationId_found drawn found]
  unfold listedConversations
  rw [List.map_append, List.map_append]
  apply List.Nodup.append
  · apply List.Nodup.append ((List.nodup_singleton _).sublist first)
    · exact (onlineFriends_apart drawn).sublist (ids_found drawn _)
    · intro id everyone online
      have named := List.mem_singleton.mp (first.subset everyone)
      have friend := (online_id drawn online).2
      rw [named, kind_global] at friend
      exact absurd friend (by decide)
  · exact pastConversations_apart drawn
  · intro id above past
    obtain ⟨c, listed, rfl⟩ := List.mem_map.mp past
    obtain ⟨entries, other, group⟩ := mem_pastConversations.mp listed
    obtain ⟨entry, there, rfl⟩ := List.mem_map.mp entries
    have filed := drawn.filed entry there
    rw [conversationId_filed filed] at above group
    rw [filed.id, isText_str, decide_eq_false_iff_not] at other
    rcases List.mem_append.mp above with everyone | online
    · exact other (List.mem_singleton.mp (first.subset everyone))
    · obtain ⟨here, friend⟩ := online_id drawn online
      rw [filed.type, isText_str, friend, here] at group
      rcases group with kind | away
      · exact absurd kind (by decide)
      · cases away

theorem listed_of_entry (drawn : Drawn isGroup s) (found : s.conversations.lookup key = some c)
    (other : kind isGroup key = "private" → key ≠ s.userId) : c ∈ listedConversations byName s := by
  have filed := drawn.filed _ (mem_of_lookup found)
  have entry : c ∈ s.conversations.map Prod.snd := List.mem_map_of_mem (f := Prod.snd) (mem_of_lookup found)
  unfold listedConversations
  rcases kind_cases isGroup key with ⟨rfl, -⟩ | ⟨named, group⟩ | ⟨named, friend⟩
  · exact List.mem_append_left _ (List.mem_append_left _ (Option.mem_toList.mpr found))
  · apply List.mem_append_right
    apply mem_pastConversations.mpr
    refine ⟨entry, ?_, .inl ?_⟩
    · rw [filed.id, isText_str, decide_eq_false_iff_not]
      exact named
    · rw [filed.type, isText_str, group]
      rfl
  · cases online : isOnline s key with
    | true =>
      obtain ⟨user, there, same⟩ := List.any_eq_true.mp online
      have named : user.1 = key := by simpa using same
      apply List.mem_append_left
      apply List.mem_append_right
      refine List.mem_filterMap.mpr ⟨user, mem_onlineFriends.mpr ⟨there, ?_⟩, ?_⟩
      · rw [named]
        exact other friend
      · rw [named]
        exact found
    | false =>
      apply List.mem_append_right
      apply mem_pastConversations.mpr
      refine ⟨entry, ?_, .inr ?_⟩
      · rw [filed.id, isText_str, decide_eq_false_iff_not]
        exact named
      · rw [conversationId_filed filed]
        exact online

/-- The list that is on the screen, up to a message that can be drawn with all above it. -/
theorem shownMessages_reach {xs : List Json} (sorted : xs.Pairwise (fun a b => numericId a ≤ numericId b)) (there : m ∈ xs)
    (draws : ∀ x ∈ xs, numericId x ≤ numericId m → createMessageElement x = true) : m ∈ xs.takeWhile createMessageElement := by
  induction xs with
  | nil => cases there
  | cons x xs ih =>
    obtain ⟨above, sorted⟩ := List.pairwise_cons.mp sorted
    have earlier : numericId x ≤ numericId m := by
      rcases List.mem_cons.mp there with rfl | later
      · exact le_rfl
      · exact above m later
    rw [List.takeWhile_cons_of_pos (draws x List.mem_cons_self earlier)]
    rcases List.mem_cons.mp there with rfl | later
    · exact List.mem_cons_self
    · exact List.mem_cons_of_mem _ (ih sorted later (fun y hy => draws y (List.mem_cons_of_mem _ hy)))

theorem mem_visibleMessages : m ∈ visibleMessages s ↔ m ∈ s.allMessages ∧ belongsToCurrentConversation s m = true := by
  unfold visibleMessages
  rw [(sortById_perm _).mem_iff, List.mem_filter]

/-- A message that has its entry is shown there and nowhere else. -/
theorem shown_once (drawn : Drawn isGroup s) (there : m ∈ s.allMessages) (valid : Wellformed m)
    (separate : Separate isGroup m) (visible : isMessageVisibleToUser m (some (str s.userId)) = true)
    (ordinary : Ordinary s.userId m) (placed : conversationForMessage s.userId m ∈ keys s) :
    ∃ c, ShownIn byName s m c ∧ c.lastMember "id" = some (str (conversationForMessage s.userId m)) := by
  obtain ⟨c, found⟩ : ∃ c, s.conversations.lookup (conversationForMessage s.userId m) = some c := by
    cases absent : s.conversations.lookup (conversationForMessage s.userId m) with
    | none => exact absurd placed (lookup_eq_none_iff.mp absent)
    | some c => exact ⟨c, rfl⟩
  have filed := drawn.filed _ (mem_of_lookup found)
  have here : m ∈ visibleMessages (opened c s) :=
    mem_visibleMessages.mpr ⟨there, (belongs_place filed valid separate visible ordinary).mpr rfl⟩
  refine ⟨c, ⟨?_, listed_apart drawn, here, ?_, ?_⟩, filed.id⟩
  · exact listed_of_entry drawn found (place_other valid separate ordinary)
  · exact shownMessages_reach (StoreRetention.sortById_sorted _) here
  · intro d listed shown
    obtain ⟨key, entry⟩ := listed_entry listed
    have same := (belongs_place (drawn.filed _ entry) valid separate visible ordinary).mp (mem_visibleMessages.mp shown).2
    subst same
    have twin := lookup_of_mem drawn.apart entry
    rw [found] at twin
    exact (Option.some.inj twin).symm

variable {location : Location} {t : Tab}

theorem addOnlineConversations_same (s : Store) : (addOnlineConversations s).userId = s.userId ∧
    (addOnlineConversations s).allMessages = s.allMessages := by
  unfold addOnlineConversations
  generalize s.onlineUsers.filter (fun user => user.1 != s.userId) = users
  induction users generalizing s with
  | nil => exact ⟨rfl, rfl⟩
  | cons user users ih => exact ih _

theorem held_drawn (held : Held (kindRules isGroup) userId (core s)) (orderly : Orderly s) : Drawn isGroup s := by
  refine ⟨held.entries, ?_, orderly.apart, orderly.alone⟩
  intro user there other
  exact held.online user there (fun same => other (same.trans held.user.symm))

theorem run_sound_kinds {storage : LocalStorage} (stored : Stored (kindRules isGroup) storage.messages storage.conversations)
    (run : ReflTransGen (Next location (fun _ => True) (Distinct isGroup)) (firstTab location storage) t) :
    Held (kindRules isGroup) t.page.store.userId (core t.page.store) := by
  have start : Sound (kindRules isGroup) (firstTab location storage) := ⟨_, fresh_held stored [], fun h => by cases h⟩
  have follows := fun e env w (_ : True) (distinct : Distinct isGroup e env w) => distinct_follows distinct
  obtain ⟨userId, held, -⟩ := run_sound (fun _ _ => trivial) follows run start
  have same := held.user
  subst same
  exact held

theorem run_drawn {storage : LocalStorage} (stored : Stored (kindRules isGroup) storage.messages storage.conversations)
    (run : ReflTransGen (Next location (fun _ => True) (Distinct isGroup)) (firstTab location storage) t)
    (running : t.running = true) : Drawn isGroup (addOnlineConversations t.page.store) ∧
      ∀ m ∈ t.page.store.allMessages, Wellformed m ∧ Separate isGroup m ∧
        conversationForMessage t.page.store.userId m ∈ keys (addOnlineConversations t.page.store) := by
  have held := run_sound_kinds stored run
  have orderly := (run_orderly run running).files (addOnlineConversations_files t.page.store)
  refine ⟨held_drawn (addOnlineConversations_keeps t.page.store held).1 orderly, ?_⟩
  obtain ⟨user, messages⟩ := addOnlineConversations_same t.page.store
  intro m there
  obtain ⟨valid, separate⟩ := held.messages m there
  have placed := orderly.placed m (by rw [messages]; exact there)
  unfold place at placed
  rw [user] at placed
  exact ⟨valid, separate, placed⟩

/-- While users and groups have different ids: whenever the list of conversations is drawn, each
    stored message that the user may see has its place in one conversation of the list, the one it is
    filed in. -/
theorem stored_messages_shown (isGroup : String → Bool) (location : Location) (storage : LocalStorage)
    (stored : Stored (kindRules isGroup) storage.messages storage.conversations) (t : Tab)
    (run : ReflTransGen (Next location (fun _ => True) (Distinct isGroup)) (firstTab location storage) t)
    (running : t.running = true) (byName : Json → Json → Bool) :
    ∀ m ∈ t.page.store.allMessages, isMessageVisibleToUser m (some (str t.page.store.userId)) = true →
      Ordinary t.page.store.userId m →
      ∃ c, ShownIn byName (addOnlineConversations t.page.store) m c ∧
        c.lastMember "id" = some (str (conversationForMessage t.page.store.userId m)) := by
  obtain ⟨drawn, placed⟩ := run_drawn stored run running
  obtain ⟨user, messages⟩ := addOnlineConversations_same t.page.store
  intro m there visible ordinary
  obtain ⟨valid, separate, listed⟩ := placed m there
  rw [← user] at visible ordinary listed ⊢
  rw [← messages] at there
  exact shown_once drawn there valid separate visible ordinary listed

def note : Json := .obj [("type", str "text"), ("from", str "ann"), ("name", str "Ann"),
  ("to", .obj [("all", .bool false), ("users", .arr [str "bob"])]), ("data", str "Hi"), ("id", nat 1), ("timestamp", nat 5)]

theorem note_separate : Separate oneGroup note := by
  have alone : isGroupMessage note = false := by decide +kernel
  have named : (parties note).all (fun id => kind oneGroup id != "group") = true := by decide +kernel
  unfold Separate
  rw [alone]
  right
  intro id there
  exact bne_iff_ne.mp (List.all_eq_true.mp named id there)

theorem noteTab_run : ReflTransGen (Next ⟨false, "esp"⟩ (fun _ => True) (Distinct oneGroup))
    (firstTab ⟨false, "esp"⟩ emptyStorage) (joinedTab note) := by
  have apart : ∀ s, Apart oneGroup s note := by
    intro s
    refine ⟨fun _ => note_separate, ?_, ?_⟩
    · intro type
      exact absurd type (by decide +kernel)
    · intro type
      exact absurd type (by decide +kernel)
  apply joinedTab_run
  · exact fun w => ⟨(fun _ _ h => nomatch h), (fun _ h => nomatch h)⟩
  · exact fun w => ⟨(fun _ _ h => nomatch h), (fun _ h => nomatch h)⟩
  · exact fun w => frame_distinct (apart _)

theorem noteTab_stores : (joinedTab note).running = true ∧ (joinedTab note).page.store.userId = "bob" ∧
    (joinedTab note).page.store.allMessages.length = 1 ∧
    (joinedTab note).page.store.allMessages.all (fun m => isMessageVisibleToUser m (some (str "bob")) && !isGroupMessage m &&
      !isText "global" (m.lastMember "from") && !isText "bob" (m.lastMember "from") &&
      conversationForMessage "bob" m == "ann" && createMessageElement m) = true := by
  decide +kernel

/-- The note is shown in the conversation with `ann`. -/
theorem stored_messages_shown_note : ∃ m ∈ (joinedTab note).page.store.allMessages, ∃ c,
    m ∈ shownMessages (opened c (addOnlineConversations (joinedTab note).page.store)) ∧
      c.lastMember "id" = some (str "ann") := by
  obtain ⟨running, user, one, tested⟩ := noteTab_stores
  obtain ⟨m, single⟩ := List.length_eq_one_iff.mp one
  have there : m ∈ (joinedTab note).page.store.allMessages := by
    rw [single]
    exact List.mem_singleton_self m
  have fields := List.all_eq_true.mp tested m there
  simp only [Bool.and_eq_true, Bool.not_eq_true', beq_iff_eq] at fields
  obtain ⟨⟨⟨⟨⟨visible, direct⟩, named⟩, theirs⟩, place⟩, draws⟩ := fields
  have stored : Stored (kindRules oneGroup) emptyStorage.messages emptyStorage.conversations :=
    ⟨fun m hm => absurd hm List.not_mem_nil, fun entry hentry => absurd hentry List.not_mem_nil⟩
  have ordinary : Ordinary "bob" m := by
    refine ⟨?_, fun _ _ => named, ?_⟩
    · intro group
      rw [direct] at group
      cases group
    · intro _ _ own
      rw [theirs] at own
      cases own
  have shown := stored_messages_shown oneGroup ⟨false, "esp"⟩ emptyStorage stored (joinedTab note) noteTab_run running
    (fun _ _ => true) m there
  rw [user, place] at shown
  obtain ⟨c, shown_in, id⟩ := shown visible ordinary
  refine ⟨m, there, c, shown_in.shown ?_, id⟩
  intro x hx _
  have stored_x : x ∈ (joinedTab note).page.store.allMessages := by
    rw [← (addOnlineConversations_same (joinedTab note).page.store).2]
    exact (mem_visibleMessages.mp hx).1
  rw [single] at stored_x
  rw [List.mem_singleton.mp stored_x]
  exact draws

end EspWebChat.ConversationViews
