import EspWebChat.SenderAuthenticity

set_option autoImplicit false

/-!
# Who receives recovered history

A response goes to the connections of the users it lists, all of whom must be entitled to the
message in it. When one of them is not, nothing of the response leaves the server.
-/
namespace EspWebChat.HistoryRelay
open Relation JsonTree CircularBuffer ClientSlots Interruptible ServerWorld History JsonGate
open WebSocketServer ServerSteps SlotSteps SessionSteps HistorySteps TargetFields ProtocolSteps
open NodeSteps MessageIds SlotInvariant Deliveries RecoveryBoundary SenderAuthenticity

variable {cfg : Config} {w u : World cfg} {fd : ℤ}

theorem entitled_filled {message message' : Json} (h : Filled message message') (userId : String) :
    Entitled message' userId ↔ Entitled message userId := by
  unfold Entitled
  rw [h.others "from" (by decide), h.all, h.users]

/-- `payload` passes on the message of `root`, to a client of a listed, entitled user. -/
structure Relayed (w : World cfg) (root payload : Json) (target : ℤ) : Prop where
  not_all : allOf payload = false ∧ allOf root = false
  users : usersOf payload = usersOf root
  message : ∃ original message, root.member "message" = some original ∧
    payload.member "message" = some message ∧
    (∀ user ∈ usersOf payload, ∃ userId, user = .str userId ∧
      Entitled original userId ∧ Entitled message userId) ∧
    ∃ userId, JoinedOn w target userId ∧ .str userId ∈ usersOf payload ∧
      Entitled original userId ∧ Entitled message userId

theorem relayed_of_forwarded {fds : List ℤ} (table : TableInvariant fds w.ctx.clientSlots)
    {root payload : Json} {target : ℤ} (h : ForwardedResponse w root payload target) :
    Relayed w root payload target := by
  obtain ⟨original, message, ho, hm, filled, -, entitled⟩ := h.message
  obtain ⟨userId, joined, -, listed⟩ := h.listed
  have both : ∀ user ∈ usersOf payload, ∃ userId, user = .str userId ∧
      Entitled original userId ∧ Entitled (cfg.printer.printed message) userId := by
    intro user hu
    obtain ⟨uid, rfl, he⟩ := entitled user hu
    exact ⟨uid, rfl, (entitled_filled filled uid).mp he, (entitled_printed _ _ uid).mpr he⟩
  obtain ⟨uid, e, ho', hm'⟩ := both _ listed
  cases e
  exact ⟨h.not_all, h.users, original, _, ho, hm, both, userId,
    joinedOn_of_joinedAs table joined, listed, ho', hm'⟩

theorem asks_response {root : Json} (ht : root.member "type" = some (.str "historyResponse"))
    {types : List String} (h : Asks (some root) types) : "historyResponse" ∈ types := by
  obtain ⟨r, e, type, hmem, htype⟩ := h
  cases e
  rw [ht] at htype
  cases htype
  exact hmem

theorem responseFrame_sent {fds : List ℤ} (table : TableInvariant fds w.ctx.clientSlots) {root : Json}
    (ht : root.member "type" = some (.str "historyResponse")) {new : List TraceEvent}
    (h : FrameTrace w fd (some root) u new) {d : Delivery} (hd : .sent d ∈ new) :
    ServerMade d.payload ∨ Relayed w root d.payload d.fd := by
  rcases h.sent d hd with ⟨made, -⟩ | ⟨asks, -, -, -, -, -⟩ | ⟨-, -, forwarded⟩
  · exact .inl made
  · exact absurd (asks_response ht asks) (by decide)
  · rcases forwarded with ⟨asks, -⟩ | ⟨r, e, other, -⟩ | ⟨r, e, -, response⟩
    · exact absurd (asks_response ht asks) (by decide)
    · cases e
      rw [ht] at other
      exact absurd other (by simp)
    · cases e
      exact .inr (relayed_of_forwarded table response)

/-- Recovered history reaches entitled, listed, joined users only, and nobody when one of the
    listed targets is not entitled or the response is meant for all. -/
theorem recovered_history_confined (cJSONParse : CJSONParse) (flash : InitialFlash)
    (events : List Event) (e : Event) :
    let s := run cJSONParse (Node.initial flash : Node cfg) events
    ∃ new, (step cJSONParse s e).world.trace = s.world.trace ++ new ∧
    -- Every response that is sent on.
    (∀ d, .sent d ∈ new → d.payload.member "type" = some (.str "historyResponse") →
      ∃ fd frame env root, e = .frame fd frame env ∧
        chatJsonParseObject cJSONParse frame.payload = some root ∧ Relayed s.world root d.payload d.fd) ∧
    -- Every response that arrives.
    ∀ fd frame env root, e = .frame fd frame env →
      chatJsonParseObject cJSONParse frame.payload = some root →
      root.member "type" = some (.str "historyResponse") →
      (∀ d, .sent d ∈ new → ServerMade d.payload ∨ Relayed s.world root d.payload d.fd) ∧
      ((allOf root = true ∨ ∃ user ∈ usersOf root, ∀ original userId,
          root.member "message" = some original → user = .str userId → ¬Entitled original userId) →
        ∀ d, .sent d ∈ new → ServerMade d.payload) := by
  intro s
  have table : TableInvariant s.openFds s.world.ctx.clientSlots := sound_run cJSONParse flash events
  have chat : RingOfChat s.world := ringOfChat_run cJSONParse flash events
  rcases event_trace cJSONParse chat e with ⟨new, h, -⟩ | ⟨fd, frame, env, new, rfl, -, h⟩
  · refine ⟨new, h.trace, ?_, ?_⟩
    · intro d hd ht
      exact absurd (serverMade_type (h.sent d hd) ht) (by decide)
    · intro _ _ _ _ _ _ _
      exact ⟨fun d hd => .inl (h.sent d hd), fun _ d hd => h.sent d hd⟩
  · refine ⟨new, h.trace, ?_, ?_⟩
    · intro d hd ht
      rcases h.sent d hd with ⟨made, -⟩ | ⟨-, -, m, hm, -, eq⟩ | ⟨-, -, forwarded⟩
      · exact absurd (serverMade_type made ht) (by decide)
      · rw [eq.2] at ht
        exact absurd (isChat_type hm ht) (by decide)
      · rcases forwarded with ⟨-, m, hm, -, eq⟩ | ⟨_, -, -, request⟩ | ⟨root, arrived, -, response⟩
        · rw [eq] at ht
          exact absurd (isChat_type hm ht) (by decide)
        · rw [request.type] at ht
          exact absurd ht (by simp)
        · exact ⟨fd, frame, env, root, rfl, arrived, relayed_of_forwarded table response⟩
    · rintro fd' frame' env' root e arrived ht
      cases e
      rw [arrived] at h
      have sent : ∀ d, .sent d ∈ new → ServerMade d.payload ∨ Relayed s.world root d.payload d.fd :=
        fun d hd => responseFrame_sent table ht h hd
      refine ⟨sent, ?_⟩
      intro refused d hd
      rcases sent d hd with made | relayed
      · exact made
      · obtain ⟨original, message, ho, -, entitled, -⟩ := relayed.message
        rcases refused with hall | ⟨user, hu, hno⟩
        · rw [relayed.not_all.2] at hall
          cases hall
        · obtain ⟨userId, eu, he, -⟩ := entitled user (relayed.users ▸ hu)
          exact absurd he (hno original userId ho eu)

end EspWebChat.HistoryRelay
