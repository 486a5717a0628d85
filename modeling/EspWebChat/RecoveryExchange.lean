import EspWebChat.RecoveryPassage
import EspWebChat.ResponsesSent

set_option autoImplicit false

/-!
# A recovery, from the page that has a message to the one that asks

The page that answers, the server and the page that asks each check what they are given. What the
first one hands over passes the checks of the other two.
-/
namespace EspWebChat.RecoveryExchange
open Relation JsonTree JsValues ClientMessages Interruptible BrowserWorld ClientStore ClientSocket
open WrittenMessages FaithfulCopies StoreSteps PageSteps ResponseSize ResponsesSent
open NumberMaps AdmittedMessages TargetFields Agreement RecoveryPassage

variable {cfg : ServerWorld.Config} {m : Json} {st s : Store} {requestId requester : String}

theorem payload_keys (m : Json) : ((historyMessagePayload m).map Prod.fst).Sublist contentKeys := by
  have optional : ∀ (key : String) (o : Option Json), ((optionalMember key o).map Prod.fst).Sublist [key] := by
    intro key o
    cases o with
    | none => exact List.nil_sublist _
    | some v => exact .refl _
  have group : ((if isText "newGroup" (m.lastMember "type") || (m.lastMember "groupId").isSome then
      optionalMember "groupId" (m.lastMember "groupId") ++ optionalMember "groupName" (m.lastMember "groupName")
    else []).map Prod.fst).Sublist ["groupId", "groupName"] := by
    split_ifs
    · rw [List.map_append]
      exact (optional "groupId" _).append (optional "groupName" _)
    · exact List.nil_sublist _
  unfold historyMessagePayload
  simp only [List.map_append]
  exact (((((optional "type" _).append (optional "from" _)).append (.refl ["to"])).append (optional "name" _)).append
    (.refl ["data", "id", "timestamp"])).append group

theorem payload_unique (m : Json) : UniqueKeys (historyMessagePayload m) :=
  List.Nodup.sublist (payload_keys m) (by decide)

theorem payload_member (m : Json) (key : String) :
    (RecoveryMerge.payload m).member key = (RecoveryMerge.payload m).lastMember key := by
  have unique : UniqueKeys (RecoveryMerge.payload m).members := payload_unique m
  exact (lastMember_eq _ unique key).symm

/-- What a message takes that another page stores, on a server with these limits: whole texts, and
    numbers that are read as they are printed. -/
structure Fits (cfg : ServerWorld.Config) (m : Json) : Prop where
  users : (targetUsers m).length ≤ cfg.maxClients + 1
  data : ∃ data, m.lastMember "data" = some (.str data) ∧ strlen data ≤ cfg.maxTextBytes
  group : ∀ name, m.lastMember "groupName" = some name → ∃ s, name = .str s
  id : cfg.printer.Keeps (numericId m)
  timestamp : ∀ q, numberOfMember (m.lastMember "timestamp") = .fin q → cfg.printer.read q = .fin q

theorem users_texts (valid : Wellformed m) : ∃ users : List String, targetUsers m = users.map .str ∧
    ∀ user ∈ users, user ≠ "" ∧ strlen user ≤ 63 := by
  have target := valid.target
  unfold validMessageTarget at target
  simp only [Bool.and_eq_true, List.all_eq_true] at target
  apply users_of_valid
  intro user among
  have valid_user := target.1.2 user among
  obtain ⟨name, same, -⟩ := text_of_validText valid_user
  cases same
  exact ⟨name, rfl, validText_iff.mp valid_user⟩

theorem payload_group (valid : Wellformed m) (fits : Fits cfg m) {type : String}
    (is_type : m.lastMember "type" = some (.str type)) :
    Protocol.validateGroupFields (RecoveryMerge.payload m) (type == "newGroup") = true := by
  have copies := RecoveryMerge.payload_copy m
  have metadata := copies.metadata valid
  have group := valid.group
  unfold Protocol.validateGroupFields
  rw [payload_member, payload_member, metadata.1, metadata.2]
  dsimp only
  split_ifs at group with needed
  · unfold validGroupMetadata at group
    rw [Bool.and_eq_true] at group
    obtain ⟨id_valid, name_valid⟩ := group
    obtain ⟨id, is_id, -⟩ := text_of_validText id_valid
    obtain ⟨name, is_name⟩ : ∃ name, m.lastMember "groupName" = some (.str name) := by
      cases found : m.lastMember "groupName" with
      | none =>
        rw [found] at name_valid
        cases name_valid
      | some value =>
        obtain ⟨name, rfl⟩ := fits.group value found
        exact ⟨name, rfl⟩
    rw [is_id] at id_valid
    rw [is_name] at name_valid
    obtain ⟨some_id, short_id⟩ := validText_iff.mp id_valid
    obtain ⟨some_name, short_name⟩ := validLabel_iff.mp name_valid
    have ranged : JsonGate.jsonStringInRange (m.lastMember "groupId") Protocol.maxGroupIdLen false = true :=
      inRange_of is_id some_id short_id
    have ranged' : JsonGate.jsonStringInRange (m.lastMember "groupName") Protocol.maxGroupNameLen false = true :=
      inRange_of is_name some_name short_name
    rw [if_neg (by simp [is_id]), ranged, ranged']
    rfl
  · simp only [Bool.or_eq_true, not_or, Bool.not_eq_true, Option.isSome_eq_false_iff, Option.isNone_iff_eq_none] at needed
    obtain ⟨⟨other, no_id⟩, no_name⟩ := needed
    have required : (type == "newGroup") = false := by
      rw [is_type] at other
      simpa [isText, text] using other
    rw [required, no_id, no_name]
    rfl

theorem payload_admitted (valid : Wellformed m) (fits : Fits cfg m) : Admitted cfg (RecoveryMerge.payload m) := by
  have copies := RecoveryMerge.payload_copy m
  obtain ⟨sender, is_sender, -⟩ := text_of_validText valid.sender
  obtain ⟨name, is_name, -⟩ := text_of_validText valid.name
  have sender_valid := valid.sender
  have name_valid := valid.name
  rw [is_sender] at sender_valid
  rw [is_name] at name_valid
  obtain ⟨data, is_data, short_data⟩ := fits.data
  obtain ⟨users, are_users, ids⟩ := users_texts valid
  constructor
  case object => rfl
  case unique => exact payload_unique m
  case sender =>
    refine ⟨sender, ?_, validText_iff.mp sender_valid⟩
    rw [payload_member, copies.sender, is_sender]
  case name =>
    refine ⟨name, ?_, validText_iff.mp name_valid⟩
    rw [payload_member, copies.name, is_name]
  case content =>
    have filled := valid.filled
    obtain ⟨type, is_type, one_of⟩ := valid.kind
    refine ⟨type, data, ?_, one_of, ?_, short_data, ?_, payload_group valid fits is_type⟩
    · rw [payload_member, copies.type, is_type]
    · rw [payload_member, copies.words valid, is_data]
    · rintro rfl rfl
      rw [is_type, is_data] at filled
      cases filled
  case target =>
    have someone := valid.target
    unfold validMessageTarget at someone
    simp only [Bool.and_eq_true, Bool.or_eq_true, Bool.not_eq_true', List.isEmpty_eq_false_iff] at someone
    refine ⟨targetsAll m, users, ⟨_, (payload_member m "to").trans copies.target, ?_, rfl, ?_⟩, ?_, ids, ?_⟩
    · change ["all", "users"].Nodup
      decide
    · change some (Json.arr _) = _
      rw [valid.users, are_users]
    · have few := fits.users
      rw [are_users, List.length_map] at few
      exact few
    · rcases someone.2 with all | some_users
      · exact .inl all
      · refine .inr ?_
        rintro rfl
        exact some_users are_users

theorem payload_whole (valid : Wellformed m) (fits : Fits cfg m) :
    Whole cfg (RecoveryMerge.payload m) (numericId m) := by
  have copies := RecoveryMerge.payload_copy m
  refine ⟨payload_admitted valid fits, ?_, ?_⟩
  · rw [payload_member, copies.id, jsonSafeMessageId_iff]
    exact ⟨rfl, valid.number.2⟩
  · rw [payload_member, copies.timestamp]
    rfl

theorem optional_printed {f : Number → Json} {key : String} {o : Option Json} (texts : ∀ v, o = some v → ∃ s, v = str s) :
    ∀ x ∈ optionalMember key o, mapNumbers f x.2 = x.2 := by
  intro x hx
  cases o with
  | none => cases hx
  | some v =>
    obtain rfl := List.mem_singleton.mp hx
    obtain ⟨s, rfl⟩ := texts v rfl
    rfl

theorem payload_printed (valid : Wellformed m) (fits : Fits cfg m) :
    cfg.printer.printed (RecoveryMerge.payload m) = RecoveryMerge.payload m := by
  obtain ⟨type, is_type, -⟩ := valid.kind
  obtain ⟨sender, is_sender, -⟩ := text_of_validText valid.sender
  obtain ⟨name, is_name, -⟩ := text_of_validText valid.name
  obtain ⟨data, is_data, -⟩ := fits.data
  obtain ⟨users, are_users, -⟩ := users_texts valid
  obtain ⟨q, is_time⟩ := valid.time
  have known : ∀ {o : Option Json} {s : String}, o = some (str s) → ∀ v, o = some v → ∃ s, v = str s := by
    rintro o s rfl v same
    exact ⟨s, (Option.some.inj same).symm⟩
  apply mapNumbers_fixed
  intro x hx
  unfold historyMessagePayload at hx
  rw [valid.users, are_users, is_data, is_time] at hx
  simp only [List.mem_append] at hx
  rcases hx with ((((of_type | of_sender) | of_target) | of_name) | of_value) | of_group
  · exact optional_printed (known is_type) x of_type
  · exact optional_printed (known is_sender) x of_sender
  · obtain rfl := List.mem_singleton.mp of_target
    simp only [mapNumbers, mapMembers, mapItems_eq, mapNumbers_texts]
  · exact optional_printed (known is_name) x of_name
  · simp only [List.mem_cons, List.not_mem_nil, or_false] at of_value
    rcases of_value with rfl | rfl | rfl
    · unfold orElse
      split_ifs
      · rfl
      · rfl
    · exact congrArg Json.num fits.id
    · exact congrArg Json.num (fits.timestamp q is_time)
  · split_ifs at of_group
    · rcases List.mem_append.mp of_group with of_id | of_title
      · refine optional_printed ?_ x of_id
        intro v found
        cases valid.metadata with
        | inl none => cases none.1.symm.trans found
        | inr both =>
          obtain ⟨-, ⟨id, is_id, -⟩, -⟩ := both
          exact known is_id v found
      · exact optional_printed fits.group x of_title
    · cases of_group

theorem takeUnits_short {n : ℕ} {cs : List Char} (short : (cs.map (fun c => if c.toNat ≤ 0xffff then 1 else 2)).sum ≤ n) :
    takeUnits n cs = cs.map Point.char := by
  induction cs generalizing n with
  | nil => cases n <;> rfl
  | cons c cs ih =>
    rw [List.map_cons, List.sum_cons] at short
    cases n with
    | zero => split_ifs at short <;> omega
    | succ n =>
      unfold takeUnits
      split_ifs at short ⊢ with narrow last
      · rw [ih (by omega), List.map_cons]
      · omega
      · rw [ih (by omega), List.map_cons]

theorem sliceTo_request {o : Option Json} (named : validRequestId o = some requestId) : sliceTo 63 requestId = .str requestId := by
  unfold validRequestId at named
  obtain ⟨-, ok⟩ := Option.filter_eq_some_iff.mp named
  simp only [Bool.and_eq_true, decide_eq_true_eq] at ok
  unfold sliceTo
  rw [takeUnits_short ok.2, ofPoints_text]

/-- A text that is not empty and takes at most `limit` bytes. -/
def Short (limit : ℕ) (s : String) : Prop := s ≠ "" ∧ strlen s ≤ limit

instance (limit : ℕ) (s : String) : Decidable (Short limit s) := inferInstanceAs (Decidable (_ ∧ _))

/-- The page that answers and the request it answers, with texts as the server wants them. -/
structure Known (st : Store) (requestId requester : String) : Prop where
  sender : Short 63 st.userId
  name : Short 31 (getNickname st)
  request : Short 63 requestId
  asker : Short 63 requester

theorem entitled_payload (valid : Wellformed m) (visible : isMessageVisibleToUser m (some (str requester)) = true) :
    Entitled (RecoveryMerge.payload m) requester := by
  have copies := RecoveryMerge.payload_copy m
  obtain ⟨users, are_users, -⟩ := users_texts valid
  unfold isMessageVisibleToUser at visible
  rw [Bool.and_eq_true] at visible
  obtain ⟨user, same, sees⟩ := (Option.any_eq_true _ _).mp visible.2
  obtain rfl : requester = user := Option.some.inj same
  simp only [Bool.and_eq_true, Bool.or_eq_true] at sees
  have target : (RecoveryMerge.payload m).member "to" = some (.obj [("all", .bool (targetsAll m)),
      ("users", .arr (targetUsers m))]) := by
    rw [payload_member, copies.target, valid.users]
  rcases sees.2 with (own | all) | listed
  · refine .inl ?_
    rw [payload_member, copies.sender]
    exact isText_iff.mp own
  · refine .inr (.inl ?_)
    unfold allOf Protocol.itemMember
    rw [target, all]
    rfl
  · refine .inr (.inr ?_)
    unfold usersOf Protocol.itemMember
    rw [target]
    exact includesText_iff.mp listed

theorem response_passes {f : Json} (valid : Wellformed m) (fits : Fits cfg m) (known : Known st requestId requester)
    (uncut : sliceTo 63 requestId = .str requestId) (visible : isMessageVisibleToUser m (some (str requester)) = true)
    (response : Response st requestId (str requester) m f) :
    Passes cfg f (RecoveryMerge.payload m) [requester] (numericId m) ∧
      f.member "type" = some (.str "historyResponse") ∧ f.member "from" = some (.str st.userId) := by
  obtain ⟨now, rfl⟩ := response
  refine ⟨⟨⟨_, rfl, known.sender⟩, ⟨_, rfl, known.name⟩, ⟨_, ?_, known.request⟩, ?_, rfl, payload_whole valid fits, ?_⟩, rfl, rfl⟩
  · change some (sliceTo 63 requestId) = _
    rw [uncut]
  · refine ⟨⟨_, rfl, ?_, rfl, rfl⟩, ?_, ?_, .inr (List.cons_ne_nil _ _)⟩
    · change ["all", "users"].Nodup
      decide
    · rw [List.length_singleton]
      omega
    · intro user among
      obtain rfl := List.mem_singleton.mp among
      exact known.asker
  · intro user among
    obtain rfl := List.mem_singleton.mp among
    exact entitled_payload valid visible

theorem response_printed {f : Json} (valid : Wellformed m) (fits : Fits cfg m) (uncut : sliceTo 63 requestId = .str requestId)
    (response : Response st requestId (str requester) m f) :
    Response st requestId (str requester) m (cfg.printer.printed f) := by
  obtain ⟨now, rfl⟩ := response
  refine ⟨cfg.printer.printed now, ?_⟩
  have message : mapNumbers cfg.printer.number (.obj (historyMessagePayload m)) = .obj (historyMessagePayload m) :=
    payload_printed valid fits
  unfold responseFrame controlFrame historyResponse CjsonPrinter.Printer.printed
  rw [uncut]
  simp only [mapNumbers, List.cons_append, List.nil_append, mapMembers, mapItems, str]
  rw [← mapNumbers, message]

/-- What the page that asked has under the id of `m`: what was there before, or the content of `m`
    marked as recovered. -/
structure StandsFor (before : List Json) (m x : Json) : Prop where
  id : numericId x = numericId m
  origin : x ∈ before ∨ (isRecovered x = true ∧ comparableMessage x = comparableMessage m)

theorem recovered_stands (valid : Wellformed m) (before : List Json) (users : Members) (source now : Json) :
    StandsFor before m (recoveredMessagePayload users m source now) := by
  have copies := recoveredMessagePayload_copies users m source now
  refine ⟨copies.numeric valid, .inr ⟨?_, copies.comparable valid⟩⟩
  have labelled : (recoveredMessagePayload users m source now).lastMember "recovered" = some (.bool true) := by
    unfold recoveredMessagePayload Json.lastMember Json.members
    simp only [reverse_lookup_append]
    simp [lookup_optionalMember, lookup_cons, -List.reverse_append]
  unfold isRecovered
  rw [labelled]
  rfl

variable {T : Traffic}

theorem import_stands {c : Json} (asked : RecoveryMerge.Asked s c) (arrives : T.recovered c) (source : Json) :
    Traces (StoreStep T) (importRecoveredMessage (some c) source) s (fun _ u =>
      ∃ x ∈ memory (archive u), StandsFor s.allMessages c x) := by
  have valid := valid_iff.mp asked.valid
  have positive := RecoveryMerge.numericId_positive valid
  have below := asked.below
  apply current_spec.bind
  rintro a u - ⟨rfl, rfl⟩
  apply Traces.ite
  · intro unusable
    rw [asked.valid, asked.mine] at unusable
    cases unusable
  · intro _
    apply Traces.ite
    · intro outside
      omega
    · intro _
      cases hf : u.allMessages.find? (fun stored => numericId stored == numericId c) with
      | some existing =>
        refine .pure ⟨existing, List.mem_append_left _ (List.mem_of_find?_eq_some hf), ?_, .inl (List.mem_of_find?_eq_some hf)⟩
        simpa using List.find?_some hf
      | none =>
        have new : hasId (numericId c) u.allMessages = false := List.any_eq_false.mpr (List.find?_eq_none.mp hf)
        apply nowS_spec.bind
        rintro now v - rfl
        have step : StoreStep T v (pushMessage (recoveredMessagePayload v.onlineUsers c source now) v) :=
          .archived (.recover c source now v.onlineUsers arrives asked.valid asked.mine new) rfl
        apply (Traces.writes (P := fun _ x => x = pushMessage (recoveredMessagePayload v.onlineUsers c source now) v)
          step rfl).bind
        rintro _ x - rfl
        have there : recoveredMessagePayload v.onlineUsers c source now ∈
            memory (archive (pushMessage (recoveredMessagePayload v.onlineUsers c source now) v)) :=
          List.mem_append_left _ (List.mem_append_right _ (List.mem_singleton_self _))
        have rest : Traces (StoreStep T) (do
            updateConversationFromMessage (recoveredMessagePayload v.onlineUsers c source now)
            let _ ← saveMessages
            saveConversations
            pure ImportResult.imported : Client Store ImportResult)
            (pushMessage (recoveredMessagePayload v.onlineUsers c source now) v) (fun _ _ => True) := by
          apply (updateConversationFromMessage_spec _).bind
          intro _ y _ _
          apply saveMessages_spec.bind
          intro _ z _ _
          apply saveConversations_spec.bind
          intro _ _ _ _
          exact .pure trivial
        apply (rest.keeping (fun y => recoveredMessagePayload v.onlineUsers c source now ∈ memory (archive y)) there
          (fun _ _ held step => memory_mono step.move held)).post
        intro _ y _ held
        exact ⟨_, held, recovered_stands valid v.allMessages v.onlineUsers source now⟩

/-- The page waits for what is older than `before`. -/
structure Awaits (s : Store) (requestId requester : String) (before : ℕ) : Prop where
  me : s.userId = requester
  recovery : ∃ r, s.activeRecovery = some r ∧ r.requestId = requestId ∧ before ≤ r.restoreBeforeId

theorem visible_mine (visible : isMessageVisibleToUser m (some (str requester)) = true) : isMessageForMe requester m = true := by
  unfold isMessageVisibleToUser at visible
  rw [Bool.and_eq_true] at visible
  obtain ⟨user, same, sees⟩ := (Option.any_eq_true _ _).mp visible.2
  obtain rfl : requester = user := Option.some.inj same
  simp only [Bool.and_eq_true, Bool.or_eq_true] at sees
  unfold isMessageForMe
  rcases sees.2 with (own | all) | listed
  · simp [own]
  · simp [all]
  · simp [listed]

theorem awaits_asked {before : ℕ} (awaits : Awaits s requestId requester before) (valid : validHistoryMessage m = true)
    (older : numericId m < before) (visible : isMessageVisibleToUser m (some (str requester)) = true) :
    RecoveryMerge.Asked s m := by
  obtain ⟨r, active, -, high⟩ := awaits.recovery
  refine ⟨valid, ?_, ?_⟩
  · rw [awaits.me]
    exact visible_mine visible
  · unfold restoreBeforeId
    rw [active]
    dsimp only
    rw [if_neg (by omega)]
    omega

theorem StandsFor.of_payload {before : List Json} {x : Json} (valid : Wellformed m) (h : StandsFor before (RecoveryMerge.payload m) x) :
    StandsFor before m x := by
  have copies := RecoveryMerge.payload_copy m
  refine ⟨h.id.trans (copies.numeric valid), ?_⟩
  rcases h.origin with known | ⟨recovered, content⟩
  · exact .inl known
  · exact .inr ⟨recovered, content.trans (copies.comparable valid)⟩

theorem handleHistoryResponse_stands {f : Json} {before : ℕ} (awaits : Awaits s requestId requester before)
    (known : Known st requestId requester) (uncut : sliceTo 63 requestId = .str requestId) (other : st.userId ≠ requester)
    (response : Response st requestId (str requester) m f) (valid : validHistoryMessage m = true) (older : numericId m < before)
    (visible : isMessageVisibleToUser m (some (str requester)) = true) (arrives : T.recovered (RecoveryMerge.payload m)) :
    Traces (StoreStep T) (handleHistoryResponse f) s (fun _ u => ∃ x ∈ memory (archive u), StandsFor s.allMessages m x) := by
  obtain ⟨now, rfl⟩ := response
  obtain ⟨r, active, same, -⟩ := awaits.recovery
  have named : isText r.requestId (some (sliceTo 63 requestId)) = true := by
    rw [uncut, same]
    exact isText_iff.mpr rfl
  have foreign : isText s.userId (some (str st.userId)) = false := by
    rw [awaits.me]
    exact Bool.eq_false_iff.mpr (fun own => other (Json.str.inj (Option.some.inj (isText_iff.mp own))))
  have sender : validUserId (some (str st.userId)) = true := validText_iff.mpr known.sender
  have listed : includesText (targetUsers (responseFrame st now requestId (str requester) m)) s.userId = true := by
    rw [awaits.me]
    exact includesText_iff.mpr (List.mem_singleton_self _)
  apply current_spec.bind
  rintro a u - ⟨rfl, rfl⟩
  rw [active]
  dsimp only
  apply Traces.ite
  · intro unusable
    change (!isText r.requestId (some (sliceTo 63 requestId)) || isText u.userId (some (str st.userId)) ||
      !validUserId (some (str st.userId)) || false || !includesText _ u.userId) = true at unusable
    rw [named, foreign, sender, listed] at unusable
    cases unusable
  · intro _
    have asked := (awaits_asked awaits valid older visible).payload
    apply (import_stands asked arrives _).bind
    rintro result v - ⟨x, there, stands⟩
    have whole := stands.of_payload (valid_iff.mp valid)
    apply Traces.ite
    · intro _
      have step : StoreStep T v (markChanged v) := by
        refine ⟨.stay, ?_⟩
        intro timed r hr
        obtain ⟨r', hr', rfl⟩ := Option.map_eq_some_iff.mp hr
        exact timed r' hr'
      exact .writes step ⟨x, there, whole⟩
    · intro _
      exact .pure ⟨x, there, whole⟩

theorem response_handled {w : Page} {q : ℕ} {f : Json} (current : w.link.ws = some q)
    (type : isText "historyResponse" (f.lastMember "type") = true) (summary : wsMessageSummaryThrows f = false)
    (env : ℕ → Reply) :
    handle (.socketMessage q (some f)) env w = onStore (handleHistoryResponse f) env { w with link := noted q f w.link } := by
  have read : (link : Client Page Link) env w = ⟨some w.link, w, env⟩ := rfl
  have traffic : (setLink (noteTraffic q) : Client Page Unit) env w =
      ⟨some (), { w with link := noteTraffic q w.link }, env⟩ := rfl
  have progress : (setLink (noteProgress f) : Client Page Unit) env { w with link := noteTraffic q w.link } =
      ⟨some (), { w with link := noted q f w.link }, env⟩ := rfl
  change onmessage q (some f) env w = _
  unfold onmessage
  rw [bind_run read, if_neg (not_not.mpr current), bind_run traffic, handleIncoming_summarized summary]
  unfold handleSummarized
  rw [bind_run progress, text_other type (by decide), text_other type (by decide), text_other type (by decide), type]
  rfl

def Later (t t' : Tab) : Prop := ReflTransGen (fun a b => ∃ e env, b = step e env a) t t'

theorem later_memory {t t' : Tab} {x : Json} (h : Later t t') (there : x ∈ memory (archive t.page.store)) :
    x ∈ memory (archive t'.page.store) := by
  induction h with
  | refl => exact there
  | tail _ one ih =>
    obtain ⟨e, env, rfl⟩ := one
    unfold step
    split_ifs
    · exact (handle_good (p := False) e).related (fun _ v => x ∈ memory (archive v.store)) ih
        (fun _ _ held step => memory_mono step.store.move held) env
    · exact ih

theorem response_kept {t t' : Tab} {q : ℕ} {f : Json} {before : ℕ} (current : t.page.link.ws = some q)
    (awaits : Awaits t.page.store requestId requester before) (known : Known st requestId requester)
    (uncut : sliceTo 63 requestId = .str requestId) (other : st.userId ≠ requester)
    (response : Response st requestId (str requester) m f) (valid : validHistoryMessage m = true) (older : numericId m < before)
    (visible : isMessageVisibleToUser m (some (str requester)) = true) (running : t.running = true) (env : ℕ → Reply)
    (finished : (step (.socketMessage q (some f)) env t).running = true)
    (later : Later (step (.socketMessage q (some f)) env t) t') :
    ∃ x ∈ memory (archive t'.page.store), StandsFor t.page.store.allMessages m x := by
  have type : isText "historyResponse" (f.lastMember "type") = true := by
    obtain ⟨now, rfl⟩ := response
    exact isText_iff.mpr rfl
  have summary : wsMessageSummaryThrows f = false := by
    obtain ⟨now, rfl⟩ := response
    rfl
  have stepped : step (.socketMessage q (some f)) env t = Tab.exec (handle (.socketMessage q (some f))) env t.page := if_pos running
  rw [stepped] at finished later
  unfold Tab.exec at finished later
  rw [response_handled current type summary] at finished later
  obtain ⟨done, ended⟩ := Option.isSome_iff_exists.mp finished
  have traces := handleHistoryResponse_stands (T := ⟨fun _ => False, fun _ => True, False⟩) awaits known uncut other response valid
    older visible trivial
  obtain ⟨⟨x, there, stands⟩, -⟩ :=
    (onStore_spec (w := { t.page with link := noted q f t.page.link }) traces env).2 done ended
  exact ⟨x, later_memory later there, stands⟩

def requestFrame (s : Store) (now : Json) (requestId : String) (boundary : ℕ) : Json :=
  controlFrame s now "historyRequest" [("requestId", str requestId), ("restore_before_id", nat boundary)]

def noticed (s : Store) : ℕ := s.historyInfo.getD 0

theorem startHistoryRecovery_ends (w : Page) : Ends startHistoryRecovery w (fun _ u => u.link.sent = w.link.sent ∨
    ∃ i id now, w.link.ws = some i ∧ 1 < noticed w.store ∧
      u = beginRecovery id (noticed w.store) (afterSending i (requestFrame w.store now id (noticed w.store)) w)) := by
  apply Ends.bind (E := fun r u => r = some w ∧ u = w) (.reads ⟨rfl, rfl⟩)
  · intro u h
    cases h.1
  · intro v u h
    obtain ⟨same, rfl⟩ := h
    obtain rfl := Option.some.inj same
    apply Ends.ite (fun _ => .pure (.inl rfl))
    intro ready
    simp only [Bool.or_eq_true, not_or, Bool.not_eq_true, decide_eq_false_iff_not, Bool.not_eq_false'] at ready
    obtain ⟨⟨⟨⟨-, is_open⟩, -⟩, some_older⟩, -⟩ := ready
    obtain ⟨i, current, state⟩ : ∃ i, v.link.ws = some i ∧ readyState v.link i = .opened := by
      cases current : v.link.ws with
      | none =>
        rw [current] at is_open
        cases is_open
      | some i =>
        rw [current] at is_open
        exact ⟨i, rfl, eq_of_beq is_open⟩
    apply ends_silent StoreSteps.reply_spec (.inl rfl)
    intro r _
    apply (sendControl_attempt current state _ _).bind
    · rintro u ⟨now, attempt⟩
      cases attempt with
      | cut _ sent => exact .inl sent
    · rintro done u ⟨now, attempt⟩
      cases attempt with
      | refused _ sent given_up =>
        apply Ends.ite (fun no => by cases no)
        intro _
        exact .pure (.inl sent)
      | taken =>
        apply Ends.ite
        · intro _
          exact .writes (.inr ⟨i, _, now, current, Nat.lt_of_not_le some_older, rfl⟩)
        · intro no
          exact absurd rfl no

theorem request_requests {w : Page} {now : Json} (known : Known w.store requestId w.store.userId)
    (safe : noticed w.store ≤ ServerWorld.chatMessageMaxSafeId) (some_older : 1 < noticed w.store) :
    Requests (requestFrame w.store now requestId (noticed w.store)) (noticed w.store) where
  sender := ⟨_, rfl, known.sender⟩
  name := ⟨_, rfl, known.name⟩
  request := ⟨_, rfl, known.request⟩
  boundary := jsonSafeMessageId_iff.mpr ⟨rfl, Nat.lt_of_lt_of_le Nat.zero_lt_one some_older.le, safe⟩

theorem passedOn_asked {printer : CjsonPrinter.Printer} {w v : Page} {now : Json} {before : ℕ}
    (known : Known w.store requestId w.store.userId) (other : v.store.userId ≠ w.store.userId)
    (kept : printer.Keeps before) (safe : before ≤ ServerWorld.chatMessageMaxSafeId) (some_older : 1 < before) :
    ResponseSize.Asked v (passedOn printer (requestFrame w.store now requestId (noticed w.store)) before) requestId
      w.store.userId before where
  named := by
    have short : utf16Length requestId ≤ 63 := Nat.le_trans (utf16Length_le requestId) known.request.2
    change validRequestId (some (str requestId)) = some requestId
    unfold validRequestId
    simp [text, str, known.request.1, short]
  sender := rfl
  boundary := by
    change safeNat (printer.read before) = some before
    rw [kept]
    exact safeNat_nat safe
  other := by
    apply Bool.eq_false_iff.mpr
    intro own
    exact other (Json.str.inj (Option.some.inj (isText_iff.mp own))).symm
  valid := validText_iff.mpr known.sender
  older := some_older

def carolPage : Page :=
  ⟨{ RecoveryMerge.greetedStore with
      userId := "carol", nicknameInput := "Carol", allMessages := [], onlineUsers := [("carol", str "Carol"), ("bob", str "Bob")] },
    { freshLink ⟨false, "esp"⟩ with ws := some 0, wsJoined := true, sockets := [⟨.opened, false, true⟩] }⟩

/-- A message that a page has to answer with. -/
structure Kept (st : Store) (m : Json) (requester : String) (before : ℕ) : Prop where
  there : m ∈ st.allMessages
  own : isRecovered m = false
  valid : validHistoryMessage m = true
  older : numericId m < before
  visible : isMessageVisibleToUser m (some (str requester)) = true

theorem Kept.answer {before : ℕ} (h : Kept st m requester before) : m ∈ answers st (some (str requester)) before := by
  refine (sortById_perm _).mem_iff.mpr (List.mem_filter.mpr ⟨h.there, ?_⟩)
  simp [h.own, h.valid, h.older, h.visible]

theorem related_member {α β : Type} {R : α → β → Prop} {xs : List α} {ys : List β} (h : List.Forall₂ R xs ys) {x : α}
    (among : x ∈ xs) : ∃ y ∈ ys, R x y := by
  induction h with
  | nil => cases among
  | @cons a b _ _ related _ ih =>
    cases among with
    | head => exact ⟨b, List.mem_cons_self, related⟩
    | tail _ later =>
      obtain ⟨y, there, related⟩ := ih later
      exact ⟨y, List.mem_cons_of_mem _ there, related⟩

theorem kept_sent {w : Page} {i : ℕ} {before : ℕ} {r : Option Unit} {u : Page} (kept : Kept w.store m requester before)
    (answered : Answered i requestId (str requester) (answers w.store (some (str requester)) before) w r u)
    (returned : r.isSome = true) (still : u.link.ws = some i) :
    ∃ f, (i, f) ∈ u.link.sent ∧ Response w.store requestId (str requester) m f := by
  obtain ⟨frames, sent, -, related, all⟩ := answered.frames
  rw [all returned still, List.take_length] at related
  obtain ⟨f, there, response⟩ := related_member related kept.answer
  refine ⟨f, ?_, response⟩
  rw [sent]
  exact List.mem_append_right _ (List.mem_map_of_mem there)

theorem greeting_fits : Fits (ServerWorld.Config.default CjsonPrinter.fifteenDigits) RecoveryMerge.greeting where
  users := by decide +kernel
  data := ⟨_, rfl, by decide +kernel⟩
  group := by
    intro name found
    cases found
  id := by decide +kernel
  timestamp := by
    intro q same
    cases same
    decide +kernel

end EspWebChat.RecoveryExchange
