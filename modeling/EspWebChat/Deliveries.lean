import EspWebChat.MessageIds
import EspWebChat.SlotInvariant

set_option autoImplicit false

/-!
# What one event sends and stores

The trace of an event, read off the actions that were permitted while it was served.
-/
namespace EspWebChat.Deliveries
open Relation JsonTree CircularBuffer ClientSlots Interruptible ServerWorld History JsonGate
open WebSocketServer ServerSteps SlotSteps SessionSteps HistorySteps TargetFields ProtocolSteps
open NodeSteps MessageIds SlotInvariant

variable {cfg : Config} {w u : World cfg} {fd : ℤ} {input : Option Json}

/-- Why a payload was sent while a frame was handled, as far as the trace up to `u` tells. -/
inductive Sent (w : World cfg) (fd : ℤ) (input : Option Json) (u : World cfg) (d : Delivery) : Prop where
  | made (h : ServerMade d.payload) (allowed : d.fd = fd ∨ Spoke w fd u)
  | replayed (asks : Asks input ["join"]) (joined : ∃ userId, BoundSince w fd userId u)
      (m : Message) (chat : IsChat m.payload) (stored : .stored m ∈ u.trace)
      (eq : d.fd = fd ∧ d.payload = m.payload)
  | forwarded (auth : Authentic w fd d.payload)
      (joined : ∃ userId, JoinedAs w.ctx.clientSlots d.fd userId) (h : Forwarded w input u d)

theorem sent_act {d : Delivery} (a : Action) (h : Sent w fd input u d) : Sent w fd input (act a u) d := by
  cases h with
  | made h allowed => exact .made h (allowed.imp_right spoke_act)
  | replayed asks joined m chat stored eq =>
    obtain ⟨userId, joined⟩ := joined
    obtain ⟨more, hmore⟩ := act_trace a u
    refine .replayed asks ⟨userId, boundSince_act a joined⟩ m chat ?_ eq
    rw [hmore]
    exact List.mem_append_left _ stored
  | forwarded auth joined h =>
    refine .forwarded auth joined ?_
    cases h with
    | chat asks m type stored payload => exact .chat asks m type (storedSince_act a stored) payload
    | request root arrived type h => exact .request root arrived type h
    | response root arrived type h => exact .response root arrived type h

/-- The ring holds nothing but chat messages. -/
def RingOfChat (w : World cfg) : Prop :=
  ∀ i m, w.ctx.messageBuffer.cell i = some m → IsChat m.payload ∧ .stored m ∈ w.trace

theorem ringOfChat_act {a : Action} (h : RingOfChat u) (ha : chatSteps cfg u a) : RingOfChat (act a u) := by
  have kept : (act a u).ctx.messageBuffer = u.ctx.messageBuffer → RingOfChat (act a u) := by
    intro e i m hm
    rw [e] at hm
    obtain ⟨chat, stored⟩ := h i m hm
    obtain ⟨more, hmore⟩ := act_trace a u
    exact ⟨chat, by rw [hmore]; exact List.mem_append_left _ stored⟩
  have retried : retries cfg u a → RingOfChat (act a u) := by
    rintro ⟨-, ⟨n, rfl, -⟩ | rfl⟩
    · exact kept rfl
    · exact kept rfl
  rcases ha with ⟨quiet, -⟩ | ⟨-, rfl⟩ | retry | ⟨root, chat, retry | ⟨-, -, ⟨n, rfl, -⟩ | store⟩⟩
  · exact kept (act_sameIds quiet u).ring
  · exact kept rfl
  · exact retried retry
  · exact retried retry
  · exact kept rfl
  · obtain ⟨m, timestamp, rfl, -, hp, -⟩ := store
    intro i m' hm'
    change IsChat m'.payload ∧ .stored m' ∈ u.trace ++ [.stored m]
    rcases push_cell hm' with rfl | hold
    · refine ⟨?_, List.mem_append_right _ (List.mem_singleton_self _)⟩
      obtain ⟨type, ht, hroot⟩ := chat
      refine ⟨type, ht, ?_⟩
      rw [hp]
      apply cfg.printer.printed_str
      rw [member_finalized (by decide) (by decide)]
      exact hroot
    · exact ⟨(h i m' hold).1, List.mem_append_left _ (h i m' hold).2⟩

theorem ringOfChat_entry (h : RingOfChat w) (e : Event) : RingOfChat (entry w e) := by
  cases e with
  | powerOn env => exact fun i m hm => by cases hm
  | _ => exact h

theorem ringOfChat_run (cJSONParse : CJSONParse) (flash : InitialFlash) (events : List Event) :
    RingOfChat (run cJSONParse (Node.initial flash : Node cfg) events).world :=
  run_invariant cJSONParse RingOfChat (fun _ e h => ringOfChat_entry h e)
    (fun w e u a hu ha => ringOfChat_act hu (eventStep_chatSteps cJSONParse w e u a ha)) _
    (fun i m hm => by cases hm) events

structure FrameTrace (w : World cfg) (fd : ℤ) (input : Option Json) (u : World cfg)
    (new : List TraceEvent) : Prop where
  trace : u.trace = w.trace ++ new
  sent : ∀ d, .sent d ∈ new → Sent w fd input u d
  stored : ∀ m, .stored m ∈ new → Asks input chatTypes ∧ Authentic w fd m.payload ∧ IsChat m.payload

theorem frameTrace_act {a : Action} {new : List TraceEvent} (h : FrameTrace w fd input u new)
    (ring : RingOfChat u) (ha : FrameStep w fd input u a) :
    ∃ new', FrameTrace w fd input (act a u) new' := by
  obtain ⟨more, hmore, hsent, hstored, -⟩ := act_events a u
  refine ⟨new ++ more, by rw [hmore, h.trace, List.append_assoc], ?_, ?_⟩
  · intro d hd
    rcases List.mem_append.mp hd with hold | hnew
    · exact sent_act a (h.sent d hold)
    · have e := hsent d hnew
      subst e
      refine sent_act _ ?_
      cases ha with
      | answer _ h =>
        obtain ⟨d', e, hfd, made⟩ := h
        cases e
        exact .made made (.inl hfd)
      | retry _ h =>
        obtain ⟨-, ⟨n, e, -⟩ | e⟩ := h <;> cases e
      | announce spoke _ h =>
        rcases h with ⟨f, e⟩ | ⟨d', e, made⟩
        · cases e
        · cases e
          exact .made made (.inr spoke)
      | replay asks joined _ h =>
        rcases h with ⟨d', e, hfd, made⟩ | e | ⟨i, m, delivered, hm, e⟩
        · cases e
          exact .made made (.inl hfd)
        · cases e
        · cases e
          exact .replayed asks joined m (ring i m hm).1 (ring i m hm).2 ⟨rfl, rfl⟩
      | issue _ root _ _ _ h =>
        rcases h with ⟨-, ⟨n, e, -⟩ | e⟩ | ⟨-, -, ⟨n, e, -⟩ | ⟨m, ts, e, -⟩⟩ <;> cases e
      | forward _ auth joined h => exact .forwarded auth joined h
  · intro m hm
    rcases List.mem_append.mp hm with hold | hnew
    · exact h.stored m hold
    · have e := hstored m hnew
      subst e
      cases ha with
      | answer _ h =>
        obtain ⟨d', e, -⟩ := h
        cases e
      | retry _ h =>
        obtain ⟨-, ⟨n, e, -⟩ | e⟩ := h <;> cases e
      | announce spoke _ h =>
        rcases h with ⟨f, e⟩ | ⟨d', e, -⟩ <;> cases e
      | replay asks joined _ h =>
        rcases h with ⟨d', e, -⟩ | e | ⟨i, m, delivered, -, e⟩ <;> cases e
      | issue asks root auth chat _ h =>
        rcases h with ⟨-, ⟨n, e, -⟩ | e⟩ | ⟨-, -, ⟨n, e, -⟩ | ⟨m', ts, e, -, hp, -⟩⟩ <;> cases e
        refine ⟨asks, by rw [hp]; exact (auth.finalized _ _).printed, ?_⟩
        obtain ⟨type, ht, hroot⟩ := chat
        refine ⟨type, ht, ?_⟩
        rw [hp]
        apply cfg.printer.printed_str
        rw [member_finalized (by decide) (by decide)]
        exact hroot

theorem frameTrace_path (ring : RingOfChat w) (path : ReflTransGen (Steps (FrameStep w fd input)) w u) :
    ∃ new, FrameTrace w fd input u new := by
  have both := path_invariant path (fun v => RingOfChat v ∧ ∃ new, FrameTrace w fd input v new)
    (fun v a hv ha => by
      obtain ⟨hring, new, hnew⟩ := hv
      exact ⟨ringOfChat_act hring (frameStep_chatSteps ha), frameTrace_act hnew hring ha⟩)
    ⟨ring, [], (List.append_nil _).symm, by simp, by simp⟩
  exact both.2

/-- Events other than frames send only what the server makes up itself, and store nothing. -/
structure OwnTrace (w u : World cfg) (new : List TraceEvent) : Prop where
  trace : u.trace = w.trace ++ new
  sent : ∀ d, .sent d ∈ new → ServerMade d.payload
  stored : ∀ m, .stored m ∉ new

theorem ownTrace_act {a : Action} {new : List TraceEvent} (h : OwnTrace w u new)
    (hsend : ∀ d, a = .send d → ServerMade d.payload) (hstore : ∀ m, a ≠ .store m) :
    ∃ new', OwnTrace w (act a u) new' := by
  obtain ⟨more, hmore, hsent, hstored, -⟩ := act_events a u
  refine ⟨new ++ more, by rw [hmore, h.trace, List.append_assoc], ?_, ?_⟩
  · intro d hd
    rcases List.mem_append.mp hd with hold | hnew
    · exact h.sent d hold
    · exact hsend d (hsent d hnew)
  · intro m hm
    rcases List.mem_append.mp hm with hold | hnew
    · exact h.stored m hold
    · exact hstore m (hstored m hnew)

theorem ownTrace_announces {a : Action} {new : List TraceEvent} (h : OwnTrace w u new)
    (ha : announces cfg u a) : ∃ new', OwnTrace w (act a u) new' := by
  rcases ha with ⟨f, rfl⟩ | ⟨d, rfl, made⟩
  · exact ownTrace_act h (by simp) (by simp)
  · exact ownTrace_act h (fun d' e => by cases e; exact made) (by simp)

theorem ownTrace_eventStep (cJSONParse : CJSONParse) {e : Event} {v : World cfg} {a : Action}
    {new : List TraceEvent} (h : OwnTrace w u new) (he : ∀ fd frame env, e ≠ .frame fd frame env)
    (ha : eventStep cJSONParse v e u a) : ∃ new', OwnTrace w (act a u) new' := by
  cases e with
  | powerOn env =>
    rcases ha with ⟨-, ⟨n, rfl, -⟩ | rfl⟩ | ⟨-, rfl⟩ | ⟨now, rfl⟩
    all_goals exact ownTrace_act h (by simp) (by simp)
  | openSession fd => cases ha
  | handshake fd env =>
    obtain ⟨now, rfl⟩ := ha
    exact ownTrace_act h (by simp) (by simp)
  | sweep env =>
    rcases ha with ⟨now, delayed, rfl⟩ | ha
    · exact ownTrace_act h (by simp) (by simp)
    · exact ownTrace_announces h ha
  | closeSession fd env => exact ownTrace_announces h ha
  | frame fd frame env => exact absurd rfl (he fd frame env)

theorem ownTrace_entry (e : Event) : ∃ new, OwnTrace w (entry w e) new := by
  cases e with
  | powerOn env => exact ⟨[.booted], rfl, by simp, by simp⟩
  | _ => exact ⟨[], (List.append_nil _).symm, by simp, by simp⟩

theorem event_trace (cJSONParse : CJSONParse) {s : Node cfg} (ring : RingOfChat s.world) (e : Event) :
    (∃ new, OwnTrace s.world (step cJSONParse s e).world new ∧
      (new = [] ∨ ∀ fd frame env, e ≠ .frame fd frame env)) ∨
    ∃ fd frame env new, e = .frame fd frame env ∧ s.serves fd ∧
      FrameTrace s.world fd (chatJsonParseObject cJSONParse frame.payload)
        (step cJSONParse s e).world new := by
  rcases step_steps cJSONParse s e with ⟨eq, -⟩ | ⟨hs, path⟩
  · exact .inl ⟨[], ⟨by rw [eq, List.append_nil], by simp, by simp⟩, .inl rfl⟩
  · by_cases he : ∃ fd frame env, e = .frame fd frame env
    · obtain ⟨fd, frame, env, rfl⟩ := he
      obtain ⟨new, h⟩ := frameTrace_path ring path
      exact .inr ⟨fd, frame, env, new, rfl, hs, h⟩
    · push Not at he
      obtain ⟨new, h⟩ := path_invariant path (fun v => ∃ new, OwnTrace s.world v new)
        (fun v a hv ha => by
          obtain ⟨new, h⟩ := hv
          exact ownTrace_eventStep cJSONParse h he ha) (ownTrace_entry e)
      exact .inl ⟨new, h, .inr he⟩

theorem serverMade_type {payload : Json} (h : ServerMade payload) {type : String}
    (ht : payload.member "type" = some (.str type)) : type ∈ serverTypes := by
  obtain ⟨own, hown, he⟩ := h
  have := he _ ht
  cases this
  exact hown

theorem isChat_type {payload : Json} (h : IsChat payload) {type : String}
    (ht : payload.member "type" = some (.str type)) : type ∈ chatTypes := by
  obtain ⟨t, hmem, he⟩ := h
  rw [he] at ht
  cases ht
  exact hmem

end EspWebChat.Deliveries
