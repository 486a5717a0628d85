import EspWebChat.ConversationViews
import EspWebChat.ComposedRuns
import EspWebChat.RecoveryMerge
import EspWebChat.RingStore

set_option autoImplicit false

/-!
# What is typed in one page and shown in another

A message is shown to its sender where it was typed, and to everyone else who may see it in the
conversation that stands for the same thing on their page.
-/
namespace EspWebChat.ComposedViews
open Relation JsonTree NumberMaps JsValues ClientMessages Interruptible BrowserWorld ClientStore ClientSocket
open WrittenMessages OutgoingMessages StoreEffects StoreRules FaithfulCopies ConversationKinds ConversationFields ConversationFiling
open ConversationViews
open Agreement (isText_iff)

variable {isGroup : String → Bool} {key userId : String} {c m frame : Json} {s : Store}

/-- What decides who sees a message, and where, is as in the frame. -/
structure Relays (frame m : Json) : Prop where
  type : m.lastMember "type" = frame.lastMember "type"
  sender : m.lastMember "from" = frame.lastMember "from"
  groupId : m.lastMember "groupId" = frame.lastMember "groupId"
  all : targetsAll m = targetsAll frame
  users : targetUsers m = targetUsers frame

theorem lastMember_delete_ne {key other : String} (apart : other ≠ key) (j : Json) : (j.delete key).lastMember other = j.lastMember other := by
  cases j with
  | obj ms =>
    change (deleteKey key ms).reverse.lookup other = ms.reverse.lookup other
    unfold deleteKey
    induction ms with
    | nil => rfl
    | cons x ms ih =>
      rw [List.eraseP_cons]
      cases same : x.1 == key with
      | true =>
        have there : x.1 = key := eq_of_beq same
        have missing : List.lookup other [x] = none := by
          rw [lookup_cons, if_neg (there ▸ apart)]
          rfl
        rw [cond_true, List.reverse_cons, List.lookup_append, missing, Option.or_none]
      | false =>
        rw [cond_false, List.reverse_cons, List.reverse_cons, List.lookup_append, List.lookup_append, ih]
  | _ => rfl

theorem finalized_relays (frame : Json) (id : ℕ) (timestamp : ℤ) : Relays frame (History.finalized frame id timestamp) := by
  have same : ∀ key, key ≠ "id" → key ≠ "timestamp" → (History.finalized frame id timestamp).lastMember key = frame.lastMember key := by
    intro key not_id not_time
    unfold History.finalized
    rw [RingStore.lastMember_append_ne not_time, RingStore.lastMember_append_ne not_id, lastMember_delete_ne not_time,
      lastMember_delete_ne not_id]
  refine ⟨same _ (by decide) (by decide), same _ (by decide) (by decide), same _ (by decide) (by decide), ?_, ?_⟩
  · unfold targetsAll
    rw [same _ (by decide) (by decide)]
  · unfold targetUsers
    rw [same _ (by decide) (by decide)]

theorem copies_relays (copies : Copies m c) (valid : Wellformed m) : Relays m c :=
  ⟨copies.type, copies.sender, (copies.metadata valid).1, copies.all, copies.users valid⟩

theorem mapped_text {f : Number → Json} (numeric : Numeric f) {maxBytes : ℕ} {o : Option Json}
    (valid : validText maxBytes (o.map (mapNumbers f)) = true) : o.map (mapNumbers f) = o := by
  obtain ⟨s, same, -⟩ := text_of_validText valid
  rw [same]
  exact ((mapped_eq_str numeric).mp same).symm

/-- What a message is for does not depend on its numbers. -/
theorem mapped_relays {f : Number → Json} (numeric : Numeric f) (valid : Wellformed (mapNumbers f m)) :
    Relays m (mapNumbers f m) := by
  have read : ∀ key, (mapNumbers f m).lastMember key = (m.lastMember key).map (mapNumbers f) := lastMember_mapNumbers numeric m
  have target := valid.target
  rw [read, validMessageTarget_mapped numeric] at target
  unfold validMessageTarget at target
  simp only [Bool.and_eq_true, List.all_eq_true] at target
  constructor
  case type =>
    obtain ⟨type, is_type, -⟩ := valid.kind
    rw [is_type]
    rw [read] at is_type
    exact (isText_iff.mp ((isText_mapped numeric _ _).symm.trans (isText_iff.mpr is_type))).symm
  case sender =>
    have sender := valid.sender
    rw [read] at sender ⊢
    exact mapped_text numeric sender
  case groupId =>
    rw [read]
    cases found : m.lastMember "groupId" with
    | none => rfl
    | some id =>
      have group := valid.group
      rw [if_pos (by simp [read, found])] at group
      unfold validGroupMetadata at group
      rw [read, found, Bool.and_eq_true] at group
      exact mapped_text numeric group.1
  case all =>
    unfold targetsAll
    rw [read, property_mapped numeric]
    exact truthy_boolean target.1.1.1.1
  case users =>
    unfold targetUsers
    rw [read, property_mapped numeric, itemsOf_mapped numeric]
    refine (List.map_congr_left (g := id) ?_).trans (List.map_id _)
    intro user among
    have named := target.1.2 user among
    obtain ⟨name, same, -⟩ := text_of_validText named
    obtain rfl := Option.some.inj same
    rfl

theorem Relays.trans {x : Json} (h : Relays frame m) (h' : Relays m x) : Relays frame x :=
  ⟨h'.type.trans h.type, h'.sender.trans h.sender, h'.groupId.trans h.groupId, h'.all.trans h.all, h'.users.trans h.users⟩

/-- The forms a composed message takes on its way: the server gives it an id, it is printed, kept in a browser,
    handed over by one page and marked by another. Pages only take what is valid. -/
inductive Reaches (frame : Json) : Json → Prop
  | stored (id : ℕ) (timestamp : ℤ) : Reaches frame (History.finalized frame id timestamp)
  | printed {m : Json} (printer : CjsonPrinter.Printer) (earlier : Reaches frame m)
      (valid : Wellformed (printer.printed m)) : Reaches frame (printer.printed m)
  | saved {m : Json} (earlier : Reaches frame m) (valid : Wellformed (stringified m)) : Reaches frame (stringified m)
  | handed {m : Json} (earlier : Reaches frame m) (valid : Wellformed m) : Reaches frame (RecoveryMerge.payload m)
  | recovered {m : Json} (earlier : Reaches frame m) (valid : Wellformed m) (users : Members) (source now : Json) :
      Reaches frame (recoveredMessagePayload users m source now)

theorem Reaches.relays (h : Reaches frame m) : Relays frame m := by
  induction h with
  | stored id timestamp => exact finalized_relays frame id timestamp
  | printed printer _ valid ih => exact ih.trans (mapped_relays printer.numeric valid)
  | saved _ valid ih => exact ih.trans (mapped_relays writtenNumber_numeric valid)
  | handed _ valid ih => exact ih.trans (copies_relays (RecoveryMerge.payload_copy _) valid)
  | recovered _ valid users source now ih =>
    exact ih.trans (copies_relays (recoveredMessagePayload_copies users _ source now) valid)

/-- What the sender and the others make of a message that was typed in the conversation `key`. -/
structure Meets (isGroup : String → Bool) (userId key : String) (m : Json) : Prop where
  own : Ordinary userId m ∧ conversationForMessage userId m = key
  others : ∀ r, r ≠ userId → Ordinary r m ∧ conversationForMessage r m = if kind isGroup key = "private" then userId else key

theorem kind_ne {value : String} (same : kind isGroup key = value) (other : value ≠ "private") :
    (if kind isGroup key = "private" then userId else key) = key := by
  rw [if_neg]
  rw [same]
  exact other

theorem meets_public (group : isGroupMessage m = false) (all : targetsAll m = true) : Meets isGroup userId "global" m := by
  have ordinary : ∀ r, Ordinary r m := by
    intro r
    refine ⟨?_, ?_, ?_⟩
    · intro is_group
      rw [group] at is_group
      cases is_group
    · intro _ some_target
      rw [all] at some_target
      cases some_target
    · intro _ some_target
      rw [all] at some_target
      cases some_target
  have place : ∀ r, conversationForMessage r m = "global" := by
    intro r
    unfold conversationForMessage
    rw [if_neg (by rw [group]; decide), if_pos all]
  refine ⟨⟨ordinary userId, place userId⟩, ?_⟩
  intro r _
  rw [kind_ne (kind_global isGroup) (by decide)]
  exact ⟨ordinary r, place r⟩

theorem group_of_id (found : m.lastMember "groupId" = some (str key)) (filled : key ≠ "") : isGroupMessage m = true := by
  unfold isGroupMessage
  rw [found]
  simp [truthy, truthyValue, str, filled]

theorem meets_group (group : isGroupMessage m = true) (found : m.lastMember "groupId" = some (str key))
    (all : targetsAll m = false) (named : kind isGroup key = "group") : Meets isGroup userId key m := by
  have other : key ≠ "global" := by
    rintro rfl
    exact absurd named (by rw [kind_global]; decide)
  have place : orEmpty (some (str key)) = key := rfl
  have ordinary : ∀ r, Ordinary r m := by
    intro r
    refine ⟨?_, ?_, ?_⟩
    · intro _
      rw [found, place]
      exact ⟨other, fun _ => all⟩
    · intro direct
      rw [group] at direct
      cases direct
    · intro direct
      rw [group] at direct
      cases direct
  have here : ∀ r, conversationForMessage r m = key := by
    intro r
    unfold conversationForMessage
    rw [if_pos group, found, place]
  refine ⟨⟨ordinary userId, here userId⟩, ?_⟩
  intro r _
  rw [kind_ne named (by decide)]
  exact ⟨ordinary r, here r⟩

theorem meets_private (group : isGroupMessage m = false) (all : targetsAll m = false)
    (sender : m.lastMember "from" = some (str userId)) (users : targetUsers m = [str key]) (friend : kind isGroup key = "private")
    (other : key ≠ userId) (named : userId ≠ "global") : Meets isGroup userId key m := by
  have apart : key ≠ "global" := by
    rintro rfl
    exact absurd friend (by rw [kind_global]; decide)
  have away : isText "global" (m.lastMember "from") = false := by
    rw [sender, isText_str, decide_eq_false_iff_not]
    exact named
  have mine : isText userId (m.lastMember "from") = true := by
    rw [sender, isText_str, decide_eq_true_iff]
  refine ⟨⟨⟨?_, fun _ _ => away, fun _ _ _ => ⟨key, other, apart, users⟩⟩, direct_place_own group all mine other users⟩, ?_⟩
  · intro is_group
    rw [group] at is_group
    cases is_group
  · intro r foreign
    have theirs : isText r (m.lastMember "from") = false := by
      rw [sender, isText_str, decide_eq_false_iff_not]
      exact Ne.symm foreign
    rw [if_pos friend]
    refine ⟨⟨?_, fun _ _ => away, ?_⟩, direct_place_sender group all sender theirs⟩
    · intro is_group
      rw [group] at is_group
      cases is_group
    · intro _ _ own
      rw [theirs] at own
      cases own

theorem Relays.group (h : Relays frame m) : isGroupMessage m = isGroupMessage frame := by
  unfold isGroupMessage
  rw [h.type, h.groupId]

theorem Relays.meets (h : Relays frame m) (meets : Meets isGroup userId key frame) : Meets isGroup userId key m := by
  have ordinary : ∀ r, Ordinary r frame → Ordinary r m := by
    intro r ordinary
    refine ⟨?_, ?_, ?_⟩
    · rw [h.group, h.groupId, h.type, h.all]
      exact ordinary.group
    · rw [h.group, h.all, h.sender]
      exact ordinary.sender
    · rw [h.group, h.all, h.sender, h.users]
      exact ordinary.own
  have place : ∀ r, conversationForMessage r m = conversationForMessage r frame := by
    intro r
    unfold conversationForMessage otherTarget
    rw [h.group, h.groupId, h.all, h.sender, h.users]
  refine ⟨⟨ordinary userId meets.own.1, (place userId).trans meets.own.2⟩, ?_⟩
  intro r other
  exact ⟨ordinary r (meets.others r other).1, (place r).trans (meets.others r other).2⟩

def typedIn (e : Event) (env : ℕ → Reply) (w : Page) : String :=
  match e with
  | .createGroup _ => "group-" ++ (env 0).uuid
  | _ => conversationId w.store.currentConversation

theorem mem_newGroup {ids : List String} {env : ℕ → Reply} {w : Page} (made : frame ∈ composed (.createGroup ids) env w) :
    ids ≠ [] ∧ ∃ now, frame = newGroupMessage w.store ids (env 0).uuid now := by
  have read : (store : Client Page Store) env w = ⟨some w.store, w, env⟩ := rfl
  unfold composed composing at made
  dsimp only at made
  split_ifs at made with empty
  · cases made
  · refine ⟨empty, ?_⟩
    rw [bind_run read] at made
    by_cases alive : (env 0).unloads = false
    · have asked : (reply : Client Page Reply) env w = ⟨some (env 0), w, fun k => env (k + 1)⟩ := by
        simp [reply, ask, alive]
      rw [bind_run asked] at made
      by_cases still : (env 1).unloads = false
      · have clock : (nowS : Client Page Json) (fun k => env (k + 1)) w =
            ⟨some (nat ((env 1).nowMs / 1000)), w, fun k => env (k + 1 + 1)⟩ := by
          simp [nowS, reply, ask, still, Bind.bind, Pure.pure, nat]
        rw [bind_run clock] at made
        exact ⟨_, List.mem_singleton.mp made⟩
      · have cut : ∀ f : Json → Client Page (List Json), ((nowS >>= f) (fun k => env (k + 1)) w).result = none := by
          intro f
          simp [nowS, reply, ask, still, Bind.bind]
        rw [cut] at made
        cases made
    · have cut : ∀ f : Reply → Client Page (List Json), ((reply >>= f) env w).result = none := by
        intro f
        simp [reply, ask, alive, Bind.bind]
      rw [cut] at made
      cases made

theorem newGroup_meets (s : Store) (ids : List String) (uuid : String) (now : Json)
    (named : kind isGroup ("group-" ++ uuid) = "group") :
    Meets isGroup s.userId ("group-" ++ uuid) (newGroupMessage s ids uuid now) := meets_group rfl rfl rfl named

theorem outgoing_meets {data : String} {now : Json} (filed : Filed isGroup key s.currentConversation)
    (sendable : Sendable s.currentConversation) (other : kind isGroup key = "private" → key ≠ s.userId ∧ s.userId ≠ "global") :
    Meets isGroup s.userId key (buildOutgoingMessage s data now) := by
  have id : ComposedFrames.conversationId s = key := conversationId_filed filed
  have type : ∀ value, isText value (conversationType s) = decide (kind isGroup key = value) := by
    intro value
    have read : conversationType s = some (str (kind isGroup key)) := filed.type
    rw [read, isText_str]
  rw [ComposedFrames.frame_eq sendable]
  unfold ComposedFrames.groupFields ComposedFrames.targetOf ComposedFrames.addressees ComposedFrames.inGroup
  simp only [type, id]
  rcases kind_cases isGroup key with ⟨everyone, same⟩ | ⟨-, same⟩ | ⟨-, same⟩
  · subst everyone
    simp only [same]
    exact meets_public rfl rfl
  · have filled : key ≠ "" := by
      have valid := sendable.id
      rw [filed.id] at valid
      exact (validId_iff.mp valid).1
    simp only [same]
    exact meets_group (group_of_id rfl filled) rfl rfl same
  · obtain ⟨away, named⟩ := other same
    simp only [same]
    exact meets_private rfl rfl rfl rfl same away named

theorem composed_meets {e : Event} {env : ℕ → Reply} {w : Page} (distinct : Distinct isGroup e env w)
    (kinds : ∃ key, Filed isGroup key w.store.currentConversation) (fields : Sendable w.store.currentConversation)
    (other : kind isGroup (typedIn e env w) = "private" → typedIn e env w ≠ w.store.userId ∧ w.store.userId ≠ "global")
    (made : frame ∈ composed e env w) : Meets isGroup w.store.userId (typedIn e env w) frame := by
  cases e with
  | sendMessage input =>
    obtain ⟨-, rfl⟩ := ComposedRuns.mem_composed made
    obtain ⟨key, filed⟩ := kinds
    have here : typedIn (.sendMessage input) env w = key := conversationId_filed filed
    rw [here] at other ⊢
    exact outgoing_meets filed fields other
  | createGroup ids =>
    obtain ⟨some_id, now, rfl⟩ := mem_newGroup made
    exact newGroup_meets w.store ids (env 0).uuid now (distinct.group ids rfl some_id)
  | _ => exact absurd made List.not_mem_nil

def Calm (isGroup : String → Bool) (e : Event) (env : ℕ → Reply) (w : Page) : Prop :=
  Distinct isGroup e env w ∧ Offers e env w

variable {location location' : Location} {t t' : Tab} {storage storage' : LocalStorage}

theorem calm_run (run : ReflTransGen (Next location ComposedRuns.Boots (Calm isGroup)) (firstTab location storage) t) :
    ReflTransGen (Next location (fun _ => True) (Distinct isGroup)) (firstTab location storage) t := by
  refine ReflTransGen.mono ?_ _ _ run
  intro a b next
  cases next with
  | load env _ _ => exact .load env _ trivial
  | step e env _ permitted => exact .step e env _ permitted.1

theorem calm_sendable (stored : Stored fieldRules storage.messages storage.conversations)
    (run : ReflTransGen (Next location ComposedRuns.Boots (Calm isGroup)) (firstTab location storage) t) :
    Sendable t.page.store.currentConversation := by
  have start : Sound fieldRules (firstTab location storage) := ⟨_, fresh_held stored [], fun h => by cases h⟩
  have named : ∀ env, ComposedRuns.Boots env → fieldRules.own (env 0).uuid := fun _ booted => uuid_valid booted
  obtain ⟨userId, held, -⟩ := run_sound named (fun _ _ _ own calm => offers_follows own calm.2) run start
  obtain ⟨key, sendable⟩ := held.opened
  exact sendable

/-- What one page composes and another one has stored is shown there in one conversation: to its sender
    where it was typed, to others in the public chat, the group or the chat with the sender. -/
theorem composed_shown (isGroup : String → Bool) (location location' : Location) (storage storage' : LocalStorage)
    (stored : Stored (kindRules isGroup) storage.messages storage.conversations)
    (fields : Stored fieldRules storage.messages storage.conversations)
    (stored' : Stored (kindRules isGroup) storage'.messages storage'.conversations) (t t' : Tab)
    (run : ReflTransGen (Next location ComposedRuns.Boots (Calm isGroup)) (firstTab location storage) t)
    (run' : ReflTransGen (Next location' (fun _ => True) (Distinct isGroup)) (firstTab location' storage') t')
    (running' : t'.running = true) (e : Event) (env : ℕ → Reply) (distinct : Distinct isGroup e env t.page)
    (other : kind isGroup (typedIn e env t.page) = "private" →
      typedIn e env t.page ≠ t.page.store.userId ∧ t.page.store.userId ≠ "global")
    (frame : Json) (made : frame ∈ composed e env t.page) (m : Json) (there : m ∈ t'.page.store.allMessages)
    (reaches : Reaches frame m) (visible : isMessageVisibleToUser m (some (str t'.page.store.userId)) = true)
    (byName : Json → Json → Bool) :
    ∃ c, ShownIn byName (addOnlineConversations t'.page.store) m c ∧ c.lastMember "id" = some (str
      (if t'.page.store.userId = t.page.store.userId then typedIn e env t.page
        else if kind isGroup (typedIn e env t.page) = "private" then t.page.store.userId
        else typedIn e env t.page)) := by
  have kinds := (run_sound_kinds stored (calm_run run)).opened
  have meets := reaches.relays.meets (composed_meets distinct kinds (calm_sendable fields run) other made)
  obtain ⟨ordinary, place⟩ : Ordinary t'.page.store.userId m ∧ conversationForMessage t'.page.store.userId m =
      if t'.page.store.userId = t.page.store.userId then typedIn e env t.page
      else if kind isGroup (typedIn e env t.page) = "private" then t.page.store.userId
      else typedIn e env t.page := by
    split_ifs with same friend
    · rw [same]
      exact meets.own
    · have others := meets.others _ same
      rw [if_pos friend] at others
      exact others
    · have others := meets.others _ same
      rw [if_neg friend] at others
      exact others
  obtain ⟨drawn, placed⟩ := run_drawn stored' run' running'
  obtain ⟨valid, separate, listed⟩ := placed m there
  rw [← place]
  rw [← (addOnlineConversations_same t'.page.store).1] at visible ordinary listed ⊢
  rw [← (addOnlineConversations_same t'.page.store).2] at there
  exact shown_once drawn there valid separate visible ordinary listed

def writerTab : Tab := load ⟨false, "esp"⟩ ComposedRuns.uuidBrowser (firstTab ⟨false, "esp"⟩ ConversationRuns.emptyStorage)

def hello : Json := (composed (.sendMessage "hi") ComposedRuns.uuidBrowser writerTab.page).headD .null

/-- What the server sends of the greeting. -/
def served : Json := CjsonPrinter.fifteenDigits.printed (History.finalized hello 1 5)

def readerTab : Tab := ConversationRuns.joinedTab served

/-- All messages come from the frame. -/
def onlyFrom (frame : Json) : Rules where
  entry _ _ := True
  online _ := True
  own _ := True
  message m := Wellformed m ∧ Reaches frame m
  writtenEntry _ _ _ := trivial
  writtenMessage m h := by
    have written := valid_iff.mp (validHistoryMessage_stringified (valid_iff.mpr h.1))
    exact ⟨written, .saved h.2 written⟩
  defaults _ _ := trivial
  summary _ _ _ _ _ := trivial
  friend _ _ _ := trivial
  chosen _ _ := trivial

theorem served_kind : isText "historyResponse" (served.lastMember "type") = false ∧
    isText "onlineUsers" (served.lastMember "type") = false ∧ isGroupMessage served = false ∧
    targetsAll served = true := by
  decide +kernel

theorem readerTab_run : ReflTransGen (Next ⟨false, "esp"⟩ (fun _ => True) (Distinct ConversationRuns.oneGroup))
    (firstTab ⟨false, "esp"⟩ ConversationRuns.emptyStorage) readerTab := by
  obtain ⟨response, presence, direct, all⟩ := served_kind
  have apart : ∀ s, Apart ConversationRuns.oneGroup s served := by
    intro s
    refine ⟨?_, ?_, ?_⟩
    · intro _
      unfold Separate
      rw [direct]
      exact .inl all
    · intro type
      rw [response] at type
      cases type
    · intro type
      rw [presence] at type
      cases type
  apply ConversationRuns.joinedTab_run
  · exact fun w => ⟨(fun _ _ h => nomatch h), (fun _ h => nomatch h)⟩
  · exact fun w => ⟨(fun _ _ h => nomatch h), (fun _ h => nomatch h)⟩
  · exact fun w => ConversationRuns.frame_distinct (apart _)

theorem nothing_stored (R : Rules) :
    Stored R ConversationRuns.emptyStorage.messages ConversationRuns.emptyStorage.conversations :=
  ⟨fun _ hm => absurd hm List.not_mem_nil, fun _ hentry => absurd hentry List.not_mem_nil⟩

theorem readerTab_reached (there : m ∈ readerTab.page.store.allMessages) : Reaches hello m := by
  obtain ⟨response, presence, -, -⟩ := served_kind
  have run : ReflTransGen (Next ⟨false, "esp"⟩ (fun _ => True) (Follows (onlyFrom hello)))
      (firstTab ⟨false, "esp"⟩ ConversationRuns.emptyStorage) readerTab := by
    apply ConversationRuns.joinedTab_run
    · exact fun w => ⟨(fun _ _ h => nomatch h), (fun _ h => nomatch h)⟩
    · exact fun w => ⟨(fun _ _ h => nomatch h), (fun _ h => nomatch h)⟩
    · intro w
      refine ⟨?_, fun _ h => nomatch h⟩
      intro s msg same current
      cases same
      refine ⟨?_, ?_, fun _ _ _ _ _ => trivial⟩
      · intro accepted
        have valid := valid_iff.mp accepted.valid
        exact ⟨valid, .printed _ (.stored 1 5) valid⟩
      · intro type
        rw [response] at type
        cases type
  have start : Sound (onlyFrom hello) (firstTab ⟨false, "esp"⟩ ConversationRuns.emptyStorage) :=
    ⟨_, fresh_held (nothing_stored _) [], fun h => by cases h⟩
  obtain ⟨_, held, -⟩ := run_sound (fun _ _ => trivial) (fun _ _ _ _ follows => follows) run start
  exact (held.messages m there).2

theorem greeting_facts : (composed (.sendMessage "hi") ComposedRuns.uuidBrowser writerTab.page).length = 1 ∧
    typedIn (.sendMessage "hi") ComposedRuns.uuidBrowser writerTab.page = "global" ∧
    writerTab.page.store.userId = ComposedRuns.ownUuid ∧ readerTab.running = true ∧ readerTab.page.store.userId = "bob" ∧
    readerTab.page.store.allMessages.length = 1 ∧
    readerTab.page.store.allMessages.all (fun m => isMessageVisibleToUser m (some (str "bob"))) = true := by
  decide +kernel

/-- The greeting is in the public chat of the other page. -/
theorem composed_shown_greeting : ∃ m ∈ readerTab.page.store.allMessages, ∃ c,
    ShownIn (fun _ _ => true) (addOnlineConversations readerTab.page.store) m c ∧ c.lastMember "id" = some (str "global") := by
  obtain ⟨one, typed, writer, running, reader, stores, visible⟩ := greeting_facts
  obtain ⟨frame, single⟩ := List.length_eq_one_iff.mp one
  have made : hello ∈ composed (.sendMessage "hi") ComposedRuns.uuidBrowser writerTab.page := by
    unfold hello
    rw [single]
    exact List.mem_singleton_self frame
  obtain ⟨m, only⟩ := List.length_eq_one_iff.mp stores
  have there : m ∈ readerTab.page.store.allMessages := by
    rw [only]
    exact List.mem_singleton_self m
  have booted : ComposedRuns.Boots ComposedRuns.uuidBrowser := by
    unfold ComposedRuns.Boots Uuid
    decide
  have distinct : Distinct ConversationRuns.oneGroup (.sendMessage "hi") ComposedRuns.uuidBrowser writerTab.page :=
    ⟨(fun _ _ h => nomatch h), (fun _ h => nomatch h)⟩
  have others : kind ConversationRuns.oneGroup (typedIn (.sendMessage "hi") ComposedRuns.uuidBrowser writerTab.page) = "private" →
      typedIn (.sendMessage "hi") ComposedRuns.uuidBrowser writerTab.page ≠ writerTab.page.store.userId ∧
        writerTab.page.store.userId ≠ "global" := by
    rw [typed]
    intro friend
    exact absurd friend (by decide)
  have shown := composed_shown ConversationRuns.oneGroup ⟨false, "esp"⟩ ⟨false, "esp"⟩ ConversationRuns.emptyStorage
    ConversationRuns.emptyStorage (nothing_stored _) (nothing_stored _) (nothing_stored _) writerTab readerTab
    (.single (.load ComposedRuns.uuidBrowser _ booted)) readerTab_run running (.sendMessage "hi") ComposedRuns.uuidBrowser
    distinct others hello made m there (readerTab_reached there)
    (by rw [reader]; exact List.all_eq_true.mp visible m there) (fun _ _ => true)
  rw [reader, writer, typed] at shown
  exact ⟨m, there, shown⟩

end EspWebChat.ComposedViews
