import EspWebChat.HistorySteps
import EspWebChat.SlotSteps
import EspWebChat.TargetFields

set_option autoImplicit false

/-!
# What one frame can do

`FrameStep w fd u a`: while a frame that arrived from `fd` in the world `w` is handled, the
action `a` may be taken in the world `u`. What needs a joined sender says so.
-/
namespace EspWebChat.ProtocolSteps
open JsonTree CircularBuffer CjsonPrinter ClientSlots Interruptible ServerWorld MessageIdStore Sessions History
open JsonGate Protocol ServerSteps SlotSteps SessionSteps HistorySteps TargetFields

variable {cfg : Config} {w u : World cfg} {fd : ℤ} {input : Option Json} {root : Json}

/-- The payload names the user its connection was joined as when the frame arrived. -/
structure Authentic (w : World cfg) (fd : ℤ) (payload : Json) : Prop where
  sender : ∃ userId, JoinedAs w.ctx.clientSlots fd userId ∧
    payload.member "from" = some (.str userId)
  unique : UniqueKeys payload.members

def chatTypes : List String := ["text", "newGroup"]

def IsChat (payload : Json) : Prop := ∃ type ∈ chatTypes, payload.member "type" = some (.str type)

def Asks (input : Option Json) (types : List String) : Prop :=
  ∃ root, input = some root ∧ ∃ type ∈ types, root.member "type" = some (.str type)

/-- `root` is the request as it arrived. -/
structure ForwardedRequest (w : World cfg) (root payload : Json) : Prop where
  type : payload.member "type" = some (.str "historyRequest")
  boundary : ∃ requested : ℕ, jsonSafeMessageId (root.member "restore_before_id") = some requested ∧
    payload.member "restore_before_id" =
      some (.num (cfg.printer.read (min requested (restoreBeforeId w.ctx) : ℕ))) ∧
    2 ≤ min requested (restoreBeforeId w.ctx)

/-- `target` is the connection the response goes to, `root` the response as it arrived. -/
structure ForwardedResponse (w : World cfg) (root payload : Json) (target : ℤ) : Prop where
  type : payload.member "type" = some (.str "historyResponse")
  not_all : allOf payload = false ∧ allOf root = false
  users : usersOf payload = usersOf root
  message : ∃ original message, root.member "message" = some original ∧
    payload.member "message" = some (cfg.printer.printed message) ∧ Filled original message ∧
    (∃ id, jsonSafeMessageId (message.member "id") = some id ∧ id < restoreBeforeId w.ctx) ∧
    ∀ user ∈ usersOf payload, ∃ userId, user = .str userId ∧ Entitled message userId
  listed : ∃ userId, JoinedAs w.ctx.clientSlots target userId ∧ userId ≠ "" ∧
    .str userId ∈ usersOf payload

inductive Forwarded (w : World cfg) (input : Option Json) (u : World cfg) (d : Delivery) : Prop where
  | chat (asks : Asks input chatTypes) (m : Message) (type : IsChat m.payload)
      (stored : StoredSince w m u) (payload : d.payload = m.payload)
  | request (root : Json) (arrived : input = some root)
      (type : root.member "type" = some (.str "historyRequest"))
      (h : ForwardedRequest w root d.payload)
  | response (root : Json) (arrived : input = some root)
      (type : root.member "type" = some (.str "historyResponse"))
      (h : ForwardedResponse w root d.payload d.fd)

/-- The sender was joined on arrival, or has joined since. -/
def Spoke (w : World cfg) (fd : ℤ) (u : World cfg) : Prop :=
  (∃ userId, JoinedAs w.ctx.clientSlots fd userId) ∨ ∃ userId, BoundSince w fd userId u

/-- What `handle_join_message` has checked when it binds the connection. -/
structure MayBind (u : World cfg) (fd : ℤ) (userId name : String) : Prop where
  live : ∃ i, liveOn fd (u.ctx.clientSlots i) = true
  identity : checkIdentity u.ctx.clientSlots fd (some userId) ≠ .mismatch
  userId : userId ≠ "" ∧ strlen userId ≤ maxUserIdLen
  name : name ≠ "" ∧ strlen name ≤ maxNameLen
  valid : u.ctx.messageIdCounterValid = true

/-- `input` is the object the frame carries, when it carries one. -/
inductive FrameStep (w : World cfg) (fd : ℤ) (input : Option Json) (u : World cfg) : Action → Prop where
  | register (now : ℤ) : FrameStep w fd input u (.register now fd)
  | answer (a : Action) (h : answers cfg fd u a) : FrameStep w fd input u a
  | close : FrameStep w fd input u (.closing fd)
  | retry (a : Action) (h : retries cfg u a) : FrameStep w fd input u a
  | bind (asks : Asks input ["join"]) (now : ℤ) (userId name : String) (h : MayBind u fd userId name) :
      FrameStep w fd input u (.bind now fd userId name)
  | announce (spoke : Spoke w fd u) (a : Action) (h : announces cfg u a) : FrameStep w fd input u a
  | sample (spoke : Spoke w fd u) (offset : ℤ) : FrameStep w fd input u (.sample fd offset)
  | alive (spoke : Spoke w fd u) : FrameStep w fd input u (.alive fd)
  | replay (asks : Asks input ["join"]) (joined : ∃ userId, BoundSince w fd userId u) (a : Action)
      (h : replays cfg fd u a) : FrameStep w fd input u a
  | issue (asks : Asks input chatTypes) (root : Json) (auth : Authentic w fd root) (type : IsChat root)
      (a : Action) (h : issues cfg root u a) : FrameStep w fd input u a
  | forward (d : Delivery) (auth : Authentic w fd d.payload)
      (joined : ∃ userId, JoinedAs w.ctx.clientSlots d.fd userId) (h : Forwarded w input u d) :
      FrameStep w fd input u (.send d)

section lifts
variable {α : Type} {m : Server cfg α} {Q : α → World cfg → Prop}

theorem spoke_act {a : Action} (h : Spoke w fd u) : Spoke w fd (act a u) := by
  rcases h with h | ⟨userId, h⟩
  · exact .inl h
  · exact .inr ⟨userId, boundSince_act a h⟩

theorem answered (h : Traces (Steps (answers cfg fd)) m u Q) : Traces (Steps (FrameStep w fd input)) m u Q :=
  permitsAll h (fun _ => .answer)

theorem announced (h : Traces (Steps (announces cfg)) m u Q) (spoke : Spoke w fd u) :
    Traces (Steps (FrameStep w fd input)) m u Q :=
  permits h (Spoke w fd) spoke (fun _ _ h _ => spoke_act h) (fun _ a h => .announce h a)

theorem replayed (h : Traces (Steps (replays cfg fd)) m u Q) {userId : String}
    (bound : BoundSince w fd userId u) (asks : Asks input ["join"]) :
    Traces (Steps (FrameStep w fd input)) m u Q :=
  permits h (BoundSince w fd userId) bound (fun _ a h _ => boundSince_act a h)
    (fun _ a h => .replay asks ⟨userId, h⟩ a)

theorem storedSince_act {m : Message} (a : Action) (h : StoredSince w m u) :
    StoredSince w m (act a u) := by
  obtain ⟨new, ht, hm⟩ := h
  obtain ⟨more, hmore⟩ := act_trace a u
  exact ⟨new ++ more, by rw [hmore, ht, List.append_assoc], List.mem_append_left _ hm⟩

end lifts

theorem relayTarget_joined {sendAll : Bool} {users : Option Json} {s : ClientSlot}
    (h : relayTarget sendAll users s = true) :
    s.active = true ∧ s.joined = true ∧ s.userId ≠ "" ∧
      (sendAll = true ∨ jsonArrayContainsString users s.userId = true) := by
  simpa [relayTarget, and_assoc] using h

/-- Since the frame arrived in `w` nothing has happened but to the slot table, where nobody has
    joined. -/
structure Underway (w : World cfg) (u : World cfg) : Prop where
  rest : u = w.setSlots u.ctx.clientSlots
  joined : ∀ fd userId, JoinedAs u.ctx.clientSlots fd userId → JoinedAs w.ctx.clientSlots fd userId

theorem underway_registered (now fd : ℤ) : Underway w (act (.register now fd) w) :=
  ⟨rfl, fun _ _ h => joinedAs_ensureSlot h⟩

theorem underway_sample (h : Underway w u) (fd offset : ℤ) : Underway w (act (.sample fd offset) u) := by
  refine ⟨?_, fun _ _ hj => h.joined _ _ (joinedAs_sample hj)⟩
  change u.setSlots _ = w.setSlots _
  rw [h.rest]
  rfl

theorem underway_restoreBeforeId (h : Underway w u) : restoreBeforeId u.ctx = restoreBeforeId w.ctx := by
  rw [h.rest]
  rfl

theorem sendErrorAndClose_spec (code message : String) :
    Traces (Steps (FrameStep w fd input)) (sendErrorAndClose fd code message) u (fun ret _ => ret ≠ .ok) := by
  refine Traces.bind (answered (chatWsSendError_spec code message)) ?_
  rintro ret v - -
  refine (chatWsCloseClient_spec .close).bind ?_
  rintro - x - -
  refine .pure ?_
  split_ifs with h
  · simp
  · exact h

theorem requireJoinedIdentity_spec (h : Underway w u) :
    Traces (Steps (FrameStep w fd input)) (requireJoinedIdentity fd root) u (fun ret v => ret = .ok →
      Underway w v ∧ ∃ userId, JoinedAs w.ctx.clientSlots fd userId ∧
        root.member "from" = some (.str userId)) := by
  refine Traces.bind (P := fun identity v => v = u ∧ identity = checkIdentity u.ctx.clientSlots fd
    (stringInRange (root.member "from") maxUserIdLen false)) (.reads ⟨rfl, rfl⟩) ?_
  rintro identity v - ⟨rfl, rfl⟩
  refine .ite (fun _ => ?_) (fun _ => .ite (fun _ => ?_) (fun hok => ?_))
  · exact (sendErrorAndClose_spec _ _).post (fun _ _ _ hne e => absurd e hne)
  · exact (sendErrorAndClose_spec _ _).post (fun _ _ _ hne e => absurd e hne)
  · cases hs : stringInRange (root.member "from") maxUserIdLen false with
    | none => simp [hs] at hok
    | some userId =>
      simp only [hs, Option.isNone_some, Bool.false_or, bne_iff_ne, ne_eq, not_not] at hok
      have joined := h.joined _ _ (checkIdentity_ok hok)
      have sender : root.member "from" = some (.str userId) := (stringInRange_eq_some hs).1
      refine (chatSessionsUpdateTimeSample_spec root
        (fun offset => .sample (.inl ⟨userId, joined⟩) offset)).bind ?_
      rintro - x - (rfl | ⟨offset, rfl⟩)
      · exact .pure (fun _ => ⟨h, userId, joined, sender⟩)
      · exact .pure (fun _ => ⟨underway_sample h fd offset, userId, joined, sender⟩)

theorem syncJoined_spec {userId : String} (sinceId : ℕ) (bound : BoundSince w fd userId u)
    (asks : Asks input ["join"]) : Traces (Steps (FrameStep w fd input)) (syncJoined fd root sinceId) u (fun _ _ => True) := by
  have spoke : ∀ {x}, BoundSince w fd userId x → Spoke w fd x := fun h => .inr ⟨userId, h⟩
  have lasts : ∀ x y, BoundSince w fd userId x → Steps (FrameStep w fd input) x y → BoundSince w fd userId y := by
    rintro x y hx ⟨a, -, rfl⟩
    exact boundSince_act a hx
  refine Traces.bind (P := fun _ x => BoundSince w fd userId x) ?_ ?_
  · refine (chatSessionsUpdateTimeSample_spec root (fun offset => .sample (spoke bound) offset)).post ?_
    rintro - x - (rfl | ⟨offset, rfl⟩)
    · exact bound
    · exact boundSince_act _ bound
  rintro - x - hx
  refine Traces.bind ((replayed (chatHistorySendToClient_spec sinceId) hx asks).keeping
    (BoundSince w fd userId) hx lasts) ?_
  rintro sent y - hy
  refine Traces.bind (P := fun _ x => BoundSince w fd userId x) (.ite (fun _ => ?_) (fun _ => .pure hy)) ?_
  · exact (answered chatHistorySendInfoToClient_spec).keeping _ hy lasts
  rintro informed x - hx
  refine Traces.bind (P := fun _ x => BoundSince w fd userId x) (.ite (fun _ => ?_) (fun _ => .pure hx)) ?_
  · exact (answered chatSessionsSendOnlineUsersToClient_spec).keeping _ hx lasts
  rintro synced y - hy
  refine .ite (fun _ => ?_) (fun _ => ?_)
  · refine (chatWsCloseClient_spec .close).bind ?_
    rintro - z - -
    exact .pure trivial
  · refine (announced chatSessionsBroadcastOnlineUsers_spec (spoke hy)).bind ?_
    rintro - z - -
    exact .pure trivial

theorem handleJoinMessage_spec (h : Underway w u) (live : ∃ i, liveOn fd (u.ctx.clientSlots i) = true)
    (asks : Asks input ["join"]) :
    Traces (Steps (FrameStep w fd input)) (handleJoinMessage fd root) u (fun _ _ => True) := by
  have refuse : ∀ (code message : String) (x : World cfg),
      Traces (Steps (FrameStep w fd input)) (sendErrorAndClose fd code message) x (fun _ _ => True) :=
    fun _ _ _ => (sendErrorAndClose_spec _ _).post (fun _ _ _ _ => trivial)
  unfold handleJoinMessage
  split
  · rename_i sender name hsender hname
    obtain ⟨-, hlen, hne⟩ := stringInRange_eq_some hsender
    obtain ⟨-, hnlen, hnne⟩ := stringInRange_eq_some hname
    split
    · exact refuse _ _ _
    · rename_i sinceId _
      refine Traces.bind (P := fun identity v => v = u ∧
        identity = checkIdentity u.ctx.clientSlots fd (some sender)) (.reads ⟨rfl, rfl⟩) ?_
      rintro identity v - ⟨rfl, rfl⟩
      refine .ite (fun _ => refuse _ _ _) (fun hidentity => ?_)
      refine Traces.bind (permitsAll ensureIdStateLocked_spec (fun _ => .retry)) ?_
      rintro ready x path ⟨hslots, hvalid, -⟩
      refine .ite (fun _ => refuse _ _ _) (fun hready => ?_)
      have may : MayBind x fd sender name :=
        ⟨by rw [hslots]; exact live, by rw [hslots]; exact hidentity, ⟨hne rfl, hlen⟩,
          ⟨hnne rfl, hnlen⟩, hvalid (not_not.mp hready)⟩
      obtain ⟨before, hbefore⟩ := steps_trace path
      have widen : ∀ y, BoundSince x fd sender y → BoundSince w fd sender y := by
        rintro y ⟨new, hnew, hm⟩
        refine ⟨before ++ new, ?_, List.mem_append_right _ hm⟩
        rw [hnew, hbefore, h.rest, List.append_assoc]
        rfl
      refine Traces.bind (permitsAll (chatSessionsUpdateIdentity_spec sender name) ?_) ?_
      · rintro y a (⟨rfl, now, rfl⟩ | ⟨hbound, ha⟩)
        · exact .bind asks now sender name may
        · exact .announce (.inr ⟨sender, widen y hbound⟩) a ha
      rintro updated y - (⟨rfl, rfl⟩ | ⟨rfl, hbound⟩)
      · exact refuse _ _ _
      · exact syncJoined_spec sinceId (widen y hbound) asks
  · exact refuse _ _ _

theorem asks_type {types : List String} {type : String} (ht : type ∈ types)
    (h : root.member "type" = some (.str type)) : Asks (some root) types :=
  ⟨root, rfl, type, ht, h⟩

theorem Authentic.spoke {payload : Json} (auth : Authentic w fd payload) (u : World cfg) :
    Spoke w fd u := by
  obtain ⟨⟨userId, joined, -⟩, -⟩ := auth
  exact .inl ⟨userId, joined⟩

theorem Authentic.of_member {root' : Json} (auth : Authentic w fd root)
    (same : root'.member "from" = root.member "from") (unique : UniqueKeys root'.members) :
    Authentic w fd root' := by
  obtain ⟨⟨userId, joined, sender⟩, -⟩ := auth
  exact ⟨⟨userId, joined, same.trans sender⟩, unique⟩

theorem Authentic.filled {root' : Json} (auth : Authentic w fd root) (h : Filled root root') :
    Authentic w fd root' :=
  auth.of_member (h.others _ (by decide)) (h.unique auth.unique)

theorem Authentic.printed (auth : Authentic w fd root) : Authentic w fd (cfg.printer.printed root) := by
  obtain ⟨⟨userId, joined, sender⟩, unique⟩ := auth
  exact ⟨⟨userId, joined, cfg.printer.printed_str sender⟩, cfg.printer.printed_unique unique⟩

theorem Authentic.finalized (auth : Authentic w fd root) (id : ℕ) (timestamp : ℤ) :
    Authentic w fd (History.finalized root id timestamp) :=
  auth.of_member (member_finalized (by decide) (by decide)) (finalized_unique auth.unique)

theorem spread_lift {α : Type} {m : Server cfg α} {Q : α → World cfg → Prop} {payload : Json}
    {fds : List ℤ} (h : Traces (Steps (spreads cfg payload fds)) m u Q) (auth : Authentic w fd payload)
    (joined : ∀ target ∈ fds, ∃ userId, JoinedAs w.ctx.clientSlots target userId)
    (K : World cfg → Prop) (start : K u) (keep : ∀ v a, K v → K (act a v))
    (forward : ∀ v target delivered, target ∈ fds → K v →
      Forwarded w input v ⟨target, payload, delivered⟩) :
    Traces (Steps (FrameStep w fd input)) m u Q := by
  refine permits h K start (fun v a hv _ => keep v a hv) ?_
  rintro v a hv ⟨target, ht, rfl | ⟨delivered, rfl⟩⟩
  · exact .announce (auth.spoke v) _ (.inl ⟨target, rfl⟩)
  · exact .forward _ auth (joined target ht) (forward v target delivered ht hv)

theorem publishMessage_spec (h : Underway w u) (auth : Authentic w fd root) (chat : IsChat root)
    (asks : Asks input chatTypes) :
    Traces (Steps (FrameStep w fd input)) (publishMessage fd root) u (fun _ _ => True) := by
  refine Traces.bind (permitsAll (chatHistoryFinalizeAndStoreMessage_spec root)
    (fun _ a ha => .issue asks root auth chat a ha)) ?_
  rintro ⟨ret, stored⟩ x - ⟨hslots, hstored⟩
  cases stored with
  | none =>
    refine .ite (fun _ => ?_) (fun _ => ?_)
    · exact (answered (chatWsSendError_spec _ _)).post (fun _ _ _ _ => trivial)
    · exact (answered (chatWsSendError_spec _ _)).post (fun _ _ _ _ => trivial)
  | some payload =>
    obtain ⟨m, timestamp, hp, hf, new, hnew, hm⟩ := hstored payload rfl
    have since : StoredSince w m x := ⟨new, by rw [hnew, h.rest]; rfl, hm⟩
    have auth' : Authentic w fd payload := by
      rw [← hp, hf]
      exact (auth.finalized _ _).printed
    have chat' : IsChat m.payload := by
      obtain ⟨type, ht, hroot⟩ := chat
      refine ⟨type, ht, ?_⟩
      rw [hf]
      apply cfg.printer.printed_str
      rw [member_finalized (by decide) (by decide)]
      exact hroot
    refine Traces.bind (spread_lift chatWsBroadcast_spec auth' ?_ (StoredSince w m) since
      (fun v a hv => storedSince_act a hv)
      (fun v target delivered _ hv => .chat asks m chat' hv hp.symm)) ?_
    · intro target ht
      rw [hslots] at ht
      obtain ⟨userId, hj⟩ := receiverFds_joined ht
      exact ⟨userId, h.joined _ _ hj⟩
    rintro closed y - -
    refine Traces.bind (announced chatHistoryBroadcastInfo_spec (auth.spoke y)) ?_
    rintro closedToo z - -
    refine .ite (fun _ => ?_) (fun _ => .pure trivial)
    refine Traces.bind (announced chatSessionsBroadcastOnlineUsers_spec (auth.spoke z)) ?_
    rintro - v - -
    exact .pure trivial

theorem handleChatMessage_spec (h : Underway w u) (auth : Authentic w fd root) {type : String}
    (ht : type ∈ chatTypes) (hroot : root.member "type" = some (.str type))
    (ho : root.isObject = true) :
    Traces (Steps (FrameStep w fd (some root))) (handleChatMessage fd type root) u
      (fun _ _ => True) := by
  have refuse : ∀ (code message : String) (x : World cfg),
      Traces (Steps (FrameStep w fd (some root))) (chatWsSendError fd code message) x
        (fun _ _ => True) :=
    fun _ _ _ => (answered (chatWsSendError_spec _ _)).post (fun _ _ _ _ => trivial)
  have publish : ∀ root', Filled root root' →
      Traces (Steps (FrameStep w fd (some root))) (publishMessage fd root') u (fun _ _ => True) := by
    intro root' filled
    refine publishMessage_spec h (auth.filled filled) ?_ (asks_type ht hroot)
    exact ⟨type, ht, by rw [filled.others _ (by decide)]; exact hroot⟩
  refine .ite (fun _ => refuse _ _ _) (fun _ => .ite (fun _ => refuse _ _ _) (fun _ => ?_))
  refine .ite (fun _ => .ite (fun _ => refuse _ _ _) (fun _ => ?_)) (fun _ => ?_)
  · refine (validateToObject_spec ho).bind ?_
    rintro ⟨valid, root'⟩ x - ⟨rfl, filled, -⟩
    exact .ite (fun _ => refuse _ _ _) (fun _ => publish root' filled)
  · refine .ite (fun _ => .ite (fun _ => refuse _ _ _) (fun _ => ?_)) (fun _ => refuse _ _ _)
    refine (validateToObject_spec ho).bind ?_
    rintro ⟨valid, root'⟩ x - ⟨rfl, filled, -⟩
    exact .ite (fun _ => refuse _ _ _) (fun _ => publish root' filled)

theorem handleHistoryRequestMessage_spec (h : Underway w u) (auth : Authentic w fd root)
    (hroot : root.member "type" = some (.str "historyRequest")) (ho : root.isObject = true) :
    Traces (Steps (FrameStep w fd (some root))) (handleHistoryRequestMessage fd root) u
      (fun _ _ => True) := by
  have refuse : ∀ (code message : String) (x : World cfg),
      Traces (Steps (FrameStep w fd (some root))) (chatWsSendError fd code message) x
        (fun _ _ => True) :=
    fun _ _ _ => (answered (chatWsSendError_spec _ _)).post (fun _ _ _ _ => trivial)
  unfold handleHistoryRequestMessage
  split
  · exact refuse _ _ _
  · rename_i requested asked
    refine .ite (fun _ => refuse _ _ _) (fun _ => ?_)
    refine Traces.bind (P := fun allowed x => x = u ∧ allowed = restoreBeforeId u.ctx)
      (.reads ⟨rfl, rfl⟩) ?_
    rintro allowed x - ⟨rfl, rfl⟩
    refine .ite (fun _ => refuse _ _ _) (fun hbefore => ?_)
    refine allocates_spec.bind ?_
    rintro added x - rfl
    refine .ite (fun _ => refuse _ _ _) (fun _ => ?_)
    refine printUnformatted_spec.bind ?_
    rintro printed v - ⟨rfl, hp⟩
    cases printed with
    | none => exact refuse _ _ _
    | some payload =>
      have hpayload := hp payload rfl
      have none_left : (root.delete "restore_before_id").member "restore_before_id" = none :=
        member_delete_self _ auth.unique
      have auth' : Authentic w fd payload := by
        rw [hpayload]
        refine (auth.of_member ?_ (members_append_unique _ _ (members_delete_unique _ auth.unique) none_left)).printed
        rw [member_append_ne _ _ (by decide), member_delete_ne _ (by decide)]
      have request : ForwardedRequest w root payload := by
        refine ⟨?_, requested, asked, ?_, ?_⟩
        · rw [hpayload]
          apply cfg.printer.printed_str
          rw [member_append_ne _ _ (by decide), member_delete_ne _ (by decide), hroot]
        · rw [hpayload, cfg.printer.printed_member,
            member_append_self _ _ (by rw [delete_isObject]; exact ho) none_left, ← underway_restoreBeforeId h]
          rfl
        · rw [← underway_restoreBeforeId h]
          omega
      refine Traces.bind (spread_lift chatWsBroadcast_spec auth' ?_ (fun _ => True) trivial
        (fun _ _ _ => trivial) (fun _ _ _ _ _ => .request root rfl hroot request)) ?_
      · intro target ht
        obtain ⟨userId, hj⟩ := receiverFds_joined ht
        exact ⟨userId, h.joined _ _ hj⟩
      rintro closed y - -
      refine .ite (fun _ => ?_) (fun _ => .pure trivial)
      refine Traces.bind (announced chatSessionsBroadcastOnlineUsers_spec (auth.spoke y)) ?_
      rintro - v - -
      exact .pure trivial

theorem validateHistoryMessageObject_spec {Step : World cfg → World cfg → Prop}
    (message : Option Json) :
    Traces Step (validateHistoryMessageObject message : Server cfg _) u (fun r v => v = u ∧
      (r.1 = true → ∃ original, message = some original ∧ Filled original r.2 ∧
        ∃ id, jsonSafeMessageId (r.2.member "id") = some id)) := by
  cases message with
  | none => exact .pure ⟨rfl, by simp⟩
  | some message =>
    refine .ite (fun _ => .pure ⟨rfl, by simp⟩) (fun hobj => ?_)
    have ho : message.isObject = true := by simpa using hobj
    split
    · rename_i id timestamp type hid _ _
      refine .ite (fun _ => .pure ⟨rfl, by simp⟩) (fun _ => ?_)
      refine (validateToObject_spec ho).bind ?_
      rintro ⟨valid, message'⟩ v - ⟨rfl, filled, -⟩
      have found : ∃ original, some message = some original ∧ Filled original message' ∧
          ∃ id, jsonSafeMessageId (message'.member "id") = some id :=
        ⟨message, rfl, filled, id, by rw [filled.others _ (by decide)]; exact hid⟩
      refine .ite (fun _ => .pure ⟨rfl, by simp⟩) (fun _ => ?_)
      refine .ite (fun _ => .pure ⟨rfl, fun _ => found⟩) (fun _ => ?_)
      exact .ite (fun _ => .pure ⟨rfl, fun _ => found⟩) (fun _ => .pure ⟨rfl, by simp⟩)
    · exact .pure ⟨rfl, by simp⟩

theorem relayToAll_spec {payload : Json} (fds : List ℤ) :
    Traces (Steps (spreads cfg payload fds)) (relayToAll payload fds) u (fun _ _ => True) := by
  induction fds generalizing u with
  | nil => exact .pure trivial
  | cons fd fds ih =>
    have rest : ∀ v, Traces (Steps (spreads cfg payload (fd :: fds))) (relayToAll payload fds) v
        (fun _ _ => True) := by
      intro v
      refine permitsAll ih ?_
      rintro x a ⟨f, hf, ha⟩
      exact ⟨f, List.mem_cons_of_mem _ hf, ha⟩
    refine (chatWsSendText_spec (fun b => ⟨fd, List.mem_cons_self, .inr ⟨b, rfl⟩⟩)).bind ?_
    rintro ret v - -
    refine .ite (fun _ => rest v) (fun _ => ?_)
    refine (chatWsCloseClient_spec ⟨fd, List.mem_cons_self, .inl rfl⟩).bind ?_
    rintro - x - -
    refine (rest x).bind ?_
    rintro - y - -
    exact .pure trivial

theorem relayTargets_listed {n : ℕ} {t : SlotTable n} {users : Option Json} {target : ℤ}
    (h : target ∈ (List.finRange n).filterMap (fun i =>
      if relayTarget false users (t i) then some (t i).fd else none)) :
    ∃ userId, JoinedAs t target userId ∧ userId ≠ "" ∧
      .str userId ∈ (users.map Json.items).getD [] := by
  obtain ⟨i, -, hi⟩ := List.mem_filterMap.mp h
  split_ifs at hi with hr
  cases hi
  obtain ⟨ha, hj, hu, hlisted⟩ := relayTarget_joined hr
  refine ⟨_, ⟨i, ha, hj, rfl, rfl⟩, hu, ?_⟩
  rcases hlisted with hno | hyes
  · cases hno
  · exact containsString_iff.mp hyes

theorem targetVisible_entitled {message target : Json} (h : targetVisible message target = true) :
    ∃ userId, target = .str userId ∧ Entitled message userId := by
  unfold targetVisible at h
  cases hs : stringInRange (some target) maxUserIdLen false with
  | none => simp [hs] at h
  | some userId =>
    simp only [hs] at h
    exact ⟨userId, Option.some.inj (stringInRange_eq_some hs).1, (messageVisibleToUser_iff.mp h).2.2⟩

theorem historyResponseTargetsMatchMessage_entitled {message : Json}
    (h : historyResponseTargetsMatchMessage root message = true) :
    ∀ user ∈ usersOf root, ∃ userId, user = .str userId ∧ Entitled message userId := by
  unfold historyResponseTargetsMatchMessage at h
  by_cases hobj : isObjectItem (root.member "to") = true
  · simp only [hobj, if_true] at h
    split at h
    · rename_i items hitems
      intro user hu
      unfold usersOf at hu
      rw [hitems] at hu
      simp only [Bool.and_eq_true, List.all_eq_true] at h
      exact targetVisible_entitled (h.2 user hu)
    · cases h
  · simp [hobj] at h

theorem handleHistoryResponseMessage_spec (h : Underway w u) (auth : Authentic w fd root)
    (hroot : root.member "type" = some (.str "historyResponse")) (ho : root.isObject = true) :
    Traces (Steps (FrameStep w fd (some root))) (handleHistoryResponseMessage fd root) u
      (fun _ _ => True) := by
  have refuse : ∀ (code message : String) (x : World cfg),
      Traces (Steps (FrameStep w fd (some root))) (chatWsSendError fd code message) x
        (fun _ _ => True) :=
    fun _ _ _ => (answered (chatWsSendError_spec _ _)).post (fun _ _ _ _ => trivial)
  refine .ite (fun _ => refuse _ _ _) (fun _ => ?_)
  refine (validateToObject_spec ho).bind ?_
  rintro ⟨valid, root'⟩ x - ⟨rfl, filled, hvalid⟩
  refine .ite (fun _ => refuse _ _ _) (fun hv => .ite (fun _ => refuse _ _ _) (fun hall => ?_))
  have target : ValidTarget cfg root' := hvalid (by simpa using hv)
  refine (validateHistoryMessageObject_spec _).bind ?_
  rintro ⟨valid', message⟩ v - ⟨rfl, hmessage⟩
  refine .ite (fun _ => refuse _ _ _) (fun hv' => ?_)
  obtain ⟨original, harrived, mfilled, id, hid⟩ := hmessage (by simpa using hv')
  refine Traces.bind (P := fun before y => y = v ∧ before = restoreBeforeId v.ctx)
    (.reads ⟨rfl, rfl⟩) ?_
  rintro before y - ⟨rfl, rfl⟩
  refine .ite (fun _ => refuse _ _ _) (fun hold => .ite (fun _ => refuse _ _ _) (fun hmatch => ?_))
  refine printUnformatted_spec.bind ?_
  rintro printed z - ⟨rfl, hp⟩
  cases printed with
  | none => exact refuse _ _ _
  | some payload =>
    have hpayload : payload = cfg.printer.printed (root'.set "message" message) := hp payload rfl
    have to_kept : (root'.set "message" message).member "to" = root'.member "to" :=
      member_set_ne _ _ (by decide)
    have texts : ∀ user ∈ usersOf (root'.set "message" message), ∃ s, user = .str s := by
      intro user hu
      unfold usersOf at hu
      rw [to_kept] at hu
      obtain ⟨s, same, -⟩ := target.ids user hu
      exact ⟨s, same⟩
    have users_kept : usersOf payload = usersOf root' := by
      rw [hpayload, usersOf_printed_texts _ texts]
      unfold usersOf
      rw [to_kept]
    have all_kept : allOf payload = allOf root' := by
      rw [hpayload, allOf_printed]
      unfold allOf
      rw [to_kept]
    have not_all : allOf root' = false := by simpa [allOf] using hall
    have auth' : Authentic w fd payload := by
      rw [hpayload]
      exact ((auth.filled filled).of_member (member_set_ne _ _ (by decide))
        (members_set_unique _ _ (auth.filled filled).unique)).printed
    have visible : historyResponseTargetsMatchMessage (root'.set "message" message) message = true := by
      simpa using hmatch
    have entitled := historyResponseTargetsMatchMessage_entitled visible
    have hold' : id < restoreBeforeId w.ctx := by
      rw [← underway_restoreBeforeId h]
      simpa [hid] using hold
    -- The selection reads `to` once more, from the object that was printed.
    obtain ⟨t, ht, hto⟩ := target.object
    have hget : ((root'.set "message" message).member "to").getD .null = t := by
      rw [to_kept, ht]
      rfl
    refine Traces.bind (P := fun _ _ => True) ?_ ?_
    · rw [hget]
      refine .ite (fun _ => .pure trivial) (fun _ => .ite (fun _ => .pure trivial) (fun _ => ?_))
      refine slots_spec.bind ?_
      rintro table y - ⟨rfl, rfl⟩
      have hsend : isTrue (t.member "all") = false := by
        unfold allOf at not_all
        rw [ht] at not_all
        exact not_all
      rw [hsend]
      have listed : ∀ target' ∈ (List.finRange cfg.maxClients).filterMap (fun i =>
          if relayTarget false (t.member "users") (y.ctx.clientSlots i) then
            some (y.ctx.clientSlots i).fd else none),
          ∃ userId, JoinedAs w.ctx.clientSlots target' userId ∧ userId ≠ "" ∧
            .str userId ∈ usersOf payload := by
        intro target' hmem
        obtain ⟨userId, hj, hu, hl⟩ := relayTargets_listed hmem
        refine ⟨userId, h.joined _ _ hj, hu, ?_⟩
        rw [users_kept, usersOf, ht]
        exact hl
      refine spread_lift (relayToAll_spec _) auth' ?_ (fun _ => True) trivial (fun _ _ _ => trivial) ?_
      · intro target' hmem
        obtain ⟨userId, hj, -⟩ := listed target' hmem
        exact ⟨userId, hj⟩
      · intro _ target' _ hmem _
        refine .response root rfl hroot ⟨?_, ⟨by rw [all_kept]; exact not_all, by rw [← filled.all]; exact not_all⟩,
          by rw [users_kept]; exact filled.users, ?_, listed target' hmem⟩
        · rw [hpayload]
          apply cfg.printer.printed_str
          rw [member_set_ne _ _ (by decide), filled.others _ (by decide), hroot]
        · refine ⟨original, message, ?_, ?_, mfilled, ⟨id, hid, hold'⟩, ?_⟩
          · rw [← filled.others "message" (by decide)]
            exact harrived
          · rw [hpayload, cfg.printer.printed_member, member_set_self _ _ filled.isObject]
            rfl
          · rw [hpayload, usersOf_printed_texts _ texts]
            exact entitled
    · rintro ret y - -
      refine .ite (fun _ => ?_) (fun _ => .pure trivial)
      refine Traces.bind (announced chatSessionsBroadcastOnlineUsers_spec (auth.spoke y)) ?_
      rintro - y' - -
      exact refuse _ _ _

theorem handleTyped_spec (h : Underway w u) (auth : Authentic w fd root) {type : String}
    (hroot : root.member "type" = some (.str type)) (ho : root.isObject = true) :
    Traces (Steps (FrameStep w fd (some root))) (handleTyped fd type root) u (fun _ _ => True) := by
  unfold handleTyped
  refine .ite (fun _ => ?_) (fun _ => .ite (fun ht => ?_) (fun _ => .ite (fun ht => ?_)
    (fun _ => .ite (fun ht => ?_) (fun _ => ?_))))
  · exact (answered chatSessionsSendOnlineUsersToClient_spec).post (fun _ _ _ _ => trivial)
  · exact handleChatMessage_spec h auth (by simpa [chatTypes] using ht) hroot ho
  · exact handleHistoryRequestMessage_spec h auth (ht ▸ hroot) ho
  · exact handleHistoryResponseMessage_spec h auth (ht ▸ hroot) ho
  · exact (answered (chatWsSendError_spec _ _)).post (fun _ _ _ _ => trivial)

theorem chatProtocolHandleJson_spec (h : Underway w u)
    (live : ∃ i, liveOn fd (u.ctx.clientSlots i) = true) (ho : root.isObject = true)
    (unique : UniqueKeys root.members) :
    Traces (Steps (FrameStep w fd (some root))) (chatProtocolHandleJson fd root) u
      (fun _ _ => True) := by
  unfold chatProtocolHandleJson
  split
  · refine Traces.bind (P := fun _ v => v = u) (.reads rfl) ?_
    rintro joined v - rfl
    refine .ite (fun _ => ?_) (fun _ => ?_)
    · exact (sendErrorAndClose_spec _ _).post (fun _ _ _ _ => trivial)
    · exact (answered (chatWsSendError_spec _ _)).post (fun _ _ _ _ => trivial)
  · rename_i type htype
    have hroot : root.member "type" = some (.str type) := (stringInRange_eq_some htype).1
    refine .ite (fun _ => ?_) (fun _ => .ite (fun ht => ?_) (fun _ => ?_))
    · refine (requireJoinedIdentity_spec h).bind ?_
      rintro ret v - hv
      refine .ite (fun _ => .pure trivial) (fun hok => ?_)
      obtain ⟨-, userId, joined, -⟩ := hv (not_not.mp hok)
      refine (chatSessionsMarkAlive_spec (.alive (.inl ⟨userId, joined⟩))).bind ?_
      rintro - x - -
      exact .pure trivial
    · exact handleJoinMessage_spec h live (asks_type (by simp) (ht ▸ hroot))
    · refine (requireJoinedIdentity_spec h).bind ?_
      rintro ret v - hv
      refine .ite (fun _ => .pure trivial) (fun hok => ?_)
      obtain ⟨underway, sender⟩ := hv (not_not.mp hok)
      exact handleTyped_spec underway ⟨sender, unique⟩ hroot ho

end EspWebChat.ProtocolSteps
