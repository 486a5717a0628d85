import EspWebChat.ConnectionFeeds

set_option autoImplicit false

/-!
# Every event feeds a connection

The frames of a run are chat messages, from any client, and the joins of the other clients.
-/
namespace EspWebChat.ServedEvents
open Relation JsonTree CircularBuffer ClientSlots Interruptible ServerWorld MessageIdStore Sessions History
open JsonGate Protocol WebSocketServer ServerSteps SlotSteps SessionSteps HistorySteps TargetFields ProtocolSteps
open NodeSteps MessageIds SlotInvariant Deliveries RecoveryBoundary FrameReadings ResumableFeeds ConnectionFeeds

variable {cfg : Config} {w u v : World cfg} {fd : Option ℤ} {f : ℤ} {root : Json}

theorem refuse_beside {code : String} (message : String) (harmless : code ≠ "bad_since_id") :
    Traces (Steps (beside cfg fd)) (sendErrorAndClose f code message) w (fun ret _ => ret ≠ .ok) :=
  aside_beside (sendErrorAndClose_aside message harmless)

theorem answer_beside {code : String} (message : String) (harmless : code ≠ "bad_since_id") :
    Traces (Steps (beside cfg fd)) (chatWsSendError f code message) w (fun _ _ => True) :=
  aside_beside (chatWsSendError_aside message harmless)

theorem register_beside : Traces (Steps (beside cfg fd)) (chatSessionsEnsureSlot f) w (fun _ _ => True) :=
  (chatSessionsEnsureSlot_spec (fun _ => beside_quiet trivial (by simp) (by simp))).post (fun _ _ _ _ => trivial)

theorem sample_beside (root : Json) :
    Traces (Steps (beside cfg fd)) (chatSessionsUpdateTimeSample f root) w (fun _ _ => True) :=
  (chatSessionsUpdateTimeSample_spec root (fun _ => beside_quiet trivial (by simp) (by simp))).post
    (fun _ _ _ _ => trivial)

theorem online_beside : Traces (Steps (beside cfg fd)) (do
    let _ ← chatSessionsBroadcastOnlineUsers
    pure () : Server cfg Unit) w (fun _ _ => True) := by
  apply (aside_beside chatSessionsBroadcastOnlineUsers_aside).bind
  intro _ u _ _
  exact .pure trivial

theorem requireJoinedIdentity_beside (root : Json) :
    Traces (Steps (beside cfg fd)) (requireJoinedIdentity f root) w (fun _ _ => True) := by
  apply Traces.bind (P := fun _ _ => True) (.reads trivial)
  intro identity u _ _
  apply Traces.ite (fun _ => (refuse_beside _ (by decide)).post (fun _ _ _ _ => trivial))
  intro _
  apply Traces.ite (fun _ => (refuse_beside _ (by decide)).post (fun _ _ _ _ => trivial))
  intro _
  apply (sample_beside root).bind
  intro _ v _ _
  exact .pure trivial

theorem handleChatMessage_feeds (positive : ∀ f ∈ fd, 0 ≤ f) {type : String} (chat : type ∈ chatTypes)
    (typed : root.member "type" = some (.str type)) (object : root.isObject = true) (lawful : Lawful w) :
    Feeds fd (handleChatMessage f type root) w := by
  have refuse : ∀ {u : World cfg} (code message : String), Lawful u → code ≠ "bad_since_id" →
      Feeds fd (chatWsSendError f code message : Server cfg EspErr) u :=
    fun code message lawful harmless => feeds_beside (answer_beside message harmless) lawful
  have publish : ∀ {u : World cfg} (k : Bool × Json → Server cfg EspErr) {code message : String},
      (∀ found, k found = if !found.1 then chatWsSendError f code message else publishMessage f found.2) →
      code ≠ "bad_since_id" → Lawful u → Feeds fd (validateToObject root >>= k) u := by
    intro u k code message continues harmless lawful
    apply feeds_then (validateToObject_spec object) lawful
    intro found v lawful filled
    rw [continues]
    apply Ends.ite (fun _ => refuse _ _ lawful harmless)
    intro _
    exact publishMessage_feeds positive ⟨type, chat, by rw [filled.2.1.others _ (by decide)]; exact typed⟩ lawful
  unfold handleChatMessage
  apply Ends.ite (fun _ => refuse _ _ lawful (by decide))
  intro _
  apply Ends.ite (fun _ => refuse _ _ lawful (by decide))
  intro _
  apply Ends.ite
  · intro _
    apply Ends.ite (fun _ => refuse _ _ lawful (by decide))
    intro _
    exact publish _ (fun _ => rfl) (by decide) lawful
  · intro _
    apply Ends.ite
    · intro _
      apply Ends.ite (fun _ => refuse _ _ lawful (by decide))
      intro _
      exact publish _ (fun _ => rfl) (by decide) lawful
    · intro _
      exact refuse _ _ lawful (by decide)

theorem chatProtocolHandleJson_chat (positive : ∀ f ∈ fd, 0 ≤ f) {type : String} (chat : type ∈ chatTypes)
    (typed : root.member "type" = some (.str type)) (object : root.isObject = true) (lawful : Lawful w) :
    Feeds fd (chatProtocolHandleJson f root) w := by
  have read : stringInRange (root.member "type") maxTypeLen false = some type := by
    rw [typed]
    simp only [chatTypes, List.mem_cons, List.not_mem_nil, or_false] at chat
    obtain rfl | rfl := chat
    · decide
    · decide
  have plain : type ≠ "pong" ∧ type ≠ "join" ∧ type ≠ "getOnlineUser" ∧ (type = "text" ∨ type = "newGroup") := by
    simp only [chatTypes, List.mem_cons, List.not_mem_nil, or_false] at chat
    obtain rfl | rfl := chat
    · decide
    · decide
  unfold chatProtocolHandleJson
  rw [read]
  dsimp only
  rw [if_neg plain.1, if_neg plain.2.1]
  apply feeds_then (requireJoinedIdentity_beside root) lawful
  intro ret u lawful _
  apply Ends.ite
  · intro _
    exact feeds_beside (P := fun _ _ => True) (.pure trivial) lawful
  · intro _
    unfold handleTyped
    rw [if_neg plain.2.2.1, if_pos plain.2.2.2]
    exact handleChatMessage_feeds positive chat typed object lawful

theorem answered_beside {α : Type} {m : Server cfg α} {P : α → World cfg → Prop} (foreign : fd ≠ some f)
    (h : Traces (Steps (answers cfg f)) m w P) : Traces (Steps (beside cfg fd)) m w P :=
  permitsAll h (fun _ _ => beside_answers foreign)

theorem syncJoined_beside (foreign : fd ≠ some f) (root : Json) (sinceId : ℕ) :
    Traces (Steps (beside cfg fd)) (syncJoined f root sinceId) w (fun _ _ => True) := by
  apply (sample_beside root).bind
  intro _ u _ _
  apply (permitsAll (chatHistorySendToClient_spec sinceId) (fun _ _ => beside_replays foreign)).bind
  intro replayed v _ _
  apply Traces.bind (P := fun _ _ => True)
  · apply Traces.ite
    · intro _
      exact (answered_beside foreign chatHistorySendInfoToClient_spec).post (fun _ _ _ _ => trivial)
    · intro _
      exact .pure trivial
  intro informed u _ _
  apply Traces.bind (P := fun _ _ => True)
  · apply Traces.ite
    · intro _
      exact (answered_beside foreign chatSessionsSendOnlineUsersToClient_spec).post (fun _ _ _ _ => trivial)
    · intro _
      exact .pure trivial
  intro synced v _ _
  apply Traces.ite
  · intro _
    apply (aside_beside chatWsCloseClient_aside).bind
    intro _ x _ _
    exact .pure trivial
  · intro _
    apply (aside_beside chatSessionsBroadcastOnlineUsers_aside).bind
    intro _ x _ _
    exact .pure trivial

theorem chatSessionsUpdateIdentity_beside (foreign : fd ≠ some f) (userId name : String)
    (valid : w.ctx.messageIdCounterValid = true) :
    Traces (Steps (beside cfg fd)) (chatSessionsUpdateIdentity f userId name) w (fun _ _ => True) := by
  apply deviceUptimeS_spec.bind
  intro now u _ hu
  subst hu
  apply slots_spec.bind
  intro table v _ hv
  obtain ⟨rfl, rfl⟩ := hv
  cases hb : bindIdentity now v.ctx.clientSlots f userId name with
  | none => exact .pure trivial
  | some b =>
    have binds : beside cfg fd v (.bind now f userId name) := by
      refine ⟨⟨.inl ⟨trivial, fun _ _ _ _ _ => valid⟩, by simp, by simp⟩, ?_⟩
      intro now' f' userId' name' same
      cases same
      exact foreign
    have switched : (v.setSlots b.slots).record (.bound f userId) = act (.bind now f userId name) v := by
      simp only [act, bindSlots, hb]
    apply (takes _ binds switched).bind
    intro _ x _ _
    apply (aside_beside (notifyStale_aside b.staleFds)).bind
    intro _ y _ _
    exact .pure trivial

theorem handleJoinMessage_beside (foreign : fd ≠ some f) (root : Json) :
    Traces (Steps (beside cfg fd)) (handleJoinMessage f root) w (fun _ _ => True) := by
  have refuse : ∀ {u : World cfg} (code message : String),
      Traces (Steps (beside cfg fd)) (sendErrorAndClose f code message) u (fun _ _ => True) := by
    intro u code message
    apply (answered_beside foreign (chatWsSendError_spec code message)).bind
    intro ret v _ _
    apply (aside_beside chatWsCloseClient_aside).bind
    intro _ x _ _
    exact .pure trivial
  unfold handleJoinMessage
  split
  · rename_i sender name _ _
    split
    · exact refuse _ _
    · rename_i sinceId _
      apply Traces.bind (P := fun _ _ => True) (.reads trivial)
      intro identity u _ _
      apply Traces.ite (fun _ => refuse _ _)
      intro _
      apply (permitsAll ensureIdStateLocked_spec (fun _ _ => beside_retries)).bind
      intro ready v _ loaded
      apply Traces.ite (fun _ => refuse _ _)
      intro ok
      apply (chatSessionsUpdateIdentity_beside foreign sender name (loaded.2.1 (not_not.mp ok))).bind
      intro updated x _ _
      apply Traces.ite (fun _ => refuse _ _)
      intro _
      exact syncJoined_beside foreign root sinceId
  · exact refuse _ _

theorem chatProtocolHandleJson_join (foreign : fd ≠ some f) (typed : root.member "type" = some (.str "join")) :
    Traces (Steps (beside cfg fd)) (chatProtocolHandleJson f root) w (fun _ _ => True) := by
  have read : stringInRange (root.member "type") maxTypeLen false = some "join" := by
    rw [typed]
    decide
  unfold chatProtocolHandleJson
  rw [read]
  exact handleJoinMessage_beside foreign root

/-- A text frame that was read without an error and carries an object. -/
structure Carries (cfg : Config) (cJSONParse : CJSONParse) (frame : Frame) (root : Json) : Prop where
  received : frame.probe = .ok ∧ frame.receive = .ok
  text : frame.type = .text ∧ frame.final = true
  size : frame.payload ≠ [] ∧ frame.payload.length ≤ cfg.maxWsPayloadBytes
  object : chatJsonParseObject cJSONParse frame.payload = some root

theorem handleFrame_carries {cJSONParse : CJSONParse} {frame : Frame} (h : Carries cfg cJSONParse frame root) :
    (handleFrame cJSONParse f frame : Server cfg EspErr) = (do
      let buffer ← allocates
      if !buffer then pure .noMem else chatProtocolHandleJson f root) := by
  have handled : (handleReceived cJSONParse f frame : Server cfg EspErr) = chatProtocolHandleJson f root := by
    unfold handleReceived handleText
    rw [h.text.1, h.text.2, h.object, if_neg (by decide), if_neg (by decide), if_neg (by decide)]
  unfold handleFrame
  rw [if_neg (not_not.mpr h.received.1), if_neg (fun both => h.size.1 both.1), if_neg h.size.1,
    if_neg (Nat.not_lt.mpr h.size.2), handled]
  simp only [h.received.2, ne_eq, not_true_eq_false, if_false]

theorem chatWsHandler_feeds {cJSONParse : CJSONParse} {frame : Frame} (h : Carries cfg cJSONParse frame root)
    (lawful : Lawful w) (handles : ∀ u : World cfg, Lawful u → Feeds fd (chatProtocolHandleJson f root) u) :
    Feeds fd (chatWsHandler cJSONParse f frame) w := by
  apply feeds_then register_beside lawful
  intro ready u lawful _
  apply Ends.ite (fun _ => feeds_beside (P := fun _ _ => True) (.pure trivial) lawful)
  intro _
  rw [handleFrame_carries h]
  apply feeds_then allocates_spec lawful
  intro buffer v lawful _
  apply Ends.ite (fun _ => feeds_beside (P := fun _ _ => True) (.pure trivial) lawful)
  intro _
  exact handles v lawful

/-- The frames are chat messages, and joins of clients other than `own`. -/
def Serving (cfg : Config) (cJSONParse : CJSONParse) (own : Option ℤ) : Event → Prop
  | .frame f frame _ => ∃ root, Carries cfg cJSONParse frame root ∧ ∃ type,
      root.member "type" = some (.str type) ∧ (type ∈ chatTypes ∨ (type = "join" ∧ own ≠ some f))
  | _ => True

theorem isObject_of_member {key : String} {x : Json} (h : root.member key = some x) : root.isObject = true := by
  cases root with
  | obj ms => rfl
  | _ => cases h

theorem frame_feeds {cJSONParse : CJSONParse} {frame : Frame} {env : ℕ → Reply} (positive : ∀ f ∈ fd, 0 ≤ f)
    (serving : Serving cfg cJSONParse fd (.frame f frame env)) (lawful : Lawful w) :
    Feeds fd (chatWsHandler cJSONParse f frame) w := by
  obtain ⟨root, carries, type, typed, kind⟩ := serving
  apply chatWsHandler_feeds carries lawful
  intro u lawful
  cases kind with
  | inl chat => exact chatProtocolHandleJson_chat positive chat typed (isObject_of_member typed) lawful
  | inr join =>
    obtain ⟨rfl, foreign⟩ := join
    exact feeds_beside (chatProtocolHandleJson_join foreign typed) lawful

theorem closeAll_aside (fds : List ℤ) : Traces (Steps (asides cfg)) (closeAll fds) w (fun _ _ => True) := by
  induction fds generalizing w with
  | nil => exact .pure trivial
  | cons fd fds ih =>
    apply chatWsCloseClient_aside.bind
    intro _ u _ _
    exact ih

theorem sweep_beside : Traces (Steps (beside cfg fd)) heartbeatSweepWork w (fun _ _ => True) := by
  have ping : Aside pingPayload := by
    refine ⟨by decide, by decide, ?_⟩
    intro both
    exact absurd both.1 (by decide)
  apply deviceUptimeS_spec.bind
  intro now u _ hu
  subst hu
  apply Traces.bind (P := fun x v => x = u ∧ v = u) (.reads ⟨rfl, rfl⟩)
  intro x v _ h
  obtain ⟨rfl, rfl⟩ := h
  refine Traces.bind (takes (.sweep now _) (beside_quiet trivial (by simp) (by simp)) rfl) ?_
  intro _ v _ _
  apply (aside_beside (closeAll_aside _)).bind
  intro _ y _ _
  apply Traces.bind (P := fun _ _ => True)
  · apply permitsAll (sendToAll_spec _)
    intro u a spread
    obtain ⟨g, -, rfl | ⟨delivered, rfl⟩⟩ := spread
    · exact beside_asides (.inl ⟨g, rfl⟩)
    · exact beside_asides (.inr ⟨_, rfl, ping⟩)
  intro closed z _ _
  apply Traces.ite
  · intro _
    exact online_beside
  · intro _
    exact .pure trivial

theorem closeSession_beside : Traces (Steps (beside cfg fd)) (chatWsSessionCloseHandler f) w (fun _ _ => True) := by
  apply (chatSessionsRemoveByFd_spec (beside_quiet trivial (by simp) (by simp))).bind
  intro removed u _ _
  apply Traces.ite
  · intro _
    exact online_beside
  · intro _
    exact .pure trivial

theorem boots_beside {a : Action} (h : boots cfg u a) : beside cfg fd u a := by
  obtain retry | ⟨invalid, rfl⟩ | ⟨now, rfl⟩ := h
  · exact beside_retries retry
  · exact ⟨⟨.inr (.inl ⟨invalid, rfl⟩), by simp, by simp⟩, by simp⟩
  · exact beside_quiet trivial (by simp) (by simp)

theorem lawful_reset (h : Lawful w) : Lawful (reset w) :=
  ⟨h.ids.reset, ringInvariant_zero _ rfl, fun _ _ held => by cases held⟩

theorem reset_serves (live live' : Prop) : Serves fd live live' w (reset w) := by
  have grown : (reset w).trace = w.trace ++ [.booted] := rfl
  apply serves_asides grown
  · intro m hm
    cases List.mem_singleton.mp hm
  · intro p hp
    cases hp
  · intro hears
    obtain ⟨i, receiving, -⟩ := hears
    cases receiving
  · intro _ hears
    obtain ⟨i, receiving, -⟩ := hears
    cases receiving

theorem guarded_serves {α : Type} {m : Server cfg α} {s : Node cfg} {c : Prop} [Decidable c]
    (powered : c → s.powered = true) (h : Feeds fd m s.world) (env : ℕ → Reply) :
    Serves fd (s.powered = true) ((if c then s.exec m env else s).powered = true) s.world
      (if c then s.exec m env else s).world := by
  split_ifs with served
  · exact (h.run env).mono (fun _ => powered served) id
  · exact serves_self _

theorem step_serves (cJSONParse : CJSONParse) {s : Node cfg} {e : Event} (lawful : Lawful s.world)
    (positive : ∀ f ∈ fd, 0 ≤ f) (serving : Serving cfg cJSONParse fd e) :
    Serves fd (s.powered = true) ((step cJSONParse s e).powered = true) s.world (step cJSONParse s e).world := by
  cases e with
  | powerOn env =>
    have boot : Feeds fd (appMain : Server cfg Unit) (reset s.world) :=
      feeds_beside (permitsAll (appMain_spec rfl) (fun _ _ => boots_beside)) (lawful_reset lawful)
    exact (reset_serves (s.powered = true) True).trans (boot.run env)
  | openSession f =>
    by_cases free : s.powered = true ∧ (f : ℤ) ∉ s.openFds
    · simp only [step, if_pos free]
      exact serves_self _
    · simp only [step, if_neg free]
      exact serves_self _
  | handshake f env =>
    have shake : Traces (Steps (beside cfg fd)) (chatWsPreHandshakeHandler f) s.world (fun _ _ => True) := by
      apply register_beside.bind
      intro ready u _ _
      exact .pure trivial
    exact guarded_serves (fun served => served.1) (feeds_beside shake lawful) env
  | frame f frame env => exact guarded_serves (fun served => served.1) (frame_feeds positive serving lawful) env
  | sweep env => exact guarded_serves id (feeds_beside sweep_beside lawful) env
  | closeSession f env =>
    by_cases served : s.serves f
    · simp only [step, if_pos served]
      exact ((feeds_beside closeSession_beside lawful).run env).mono (fun _ => served.1) id
    · simp only [step, if_neg served]
      exact serves_self _

end EspWebChat.ServedEvents
