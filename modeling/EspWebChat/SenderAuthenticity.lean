import EspWebChat.RecoveryBoundary

set_option autoImplicit false

/-!
# Whose messages are stored and forwarded

What is stored or forwarded names the user its connection is bound to. A connection that is
not joined, and whose frame does not bind it, reaches nothing but its own slot.
-/
namespace EspWebChat.SenderAuthenticity
open Relation JsonTree CircularBuffer ClientSlots Interruptible ServerWorld History JsonGate
open WebSocketServer ServerSteps SlotSteps SessionSteps HistorySteps TargetFields ProtocolSteps
open NodeSteps MessageIds SlotInvariant Deliveries RecoveryBoundary

variable {cfg : Config} {w u : World cfg} {fd : ℤ} {input : Option Json}

/-- `fd` has an active, joined slot that is not closing, bound to `userId`. -/
def JoinedOn (w : World cfg) (fd : ℤ) (userId : String) : Prop :=
  ∃ i, (w.ctx.clientSlots i).active = true ∧ (w.ctx.clientSlots i).closing = false ∧
    (w.ctx.clientSlots i).joined = true ∧ (w.ctx.clientSlots i).fd = fd ∧
    (w.ctx.clientSlots i).userId = userId

/-- Both readers of JSON members find the bound user as the sender. -/
def SentBy (w : World cfg) (fd : ℤ) (payload : Json) : Prop :=
  ∃ userId, JoinedOn w fd userId ∧ payload.member "from" = some (.str userId) ∧
    payload.lastMember "from" = some (.str userId)

theorem joinedOn_of_joinedAs {fds : List ℤ} (table : TableInvariant fds w.ctx.clientSlots)
    {userId : String} (h : JoinedAs w.ctx.clientSlots fd userId) : JoinedOn w fd userId := by
  obtain ⟨i, ha, hj, hf, hu⟩ := h
  exact ⟨i, ha, ((table.slot i).joined hj).2.1, hj, hf, hu⟩

theorem sentBy_of_authentic {fds : List ℤ} (table : TableInvariant fds w.ctx.clientSlots)
    {payload : Json} (h : Authentic w fd payload) : SentBy w fd payload := by
  obtain ⟨⟨userId, joined, sender⟩, unique⟩ := h
  exact ⟨userId, joinedOn_of_joinedAs table joined, sender, by rw [lastMember_eq _ unique, sender]⟩

/-- Only the slot of `fd` may have changed, and no id has been issued. -/
structure Untouched (w : World cfg) (fd : ℤ) (u : World cfg) : Prop where
  slots : ∀ i, (w.ctx.clientSlots i).active = true → (w.ctx.clientSlots i).fd ≠ fd →
    u.ctx.clientSlots i = w.ctx.clientSlots i
  ring : u.ctx.messageBuffer = w.ctx.messageBuffer
  counter : w.ctx.messageIdCounterValid = true →
    u.ctx.messageIdCounterValid = true ∧ u.ctx.messageIdCounter = w.ctx.messageIdCounter

theorem untouched_self : Untouched w fd w := ⟨fun _ _ _ => rfl, rfl, fun h => ⟨h, rfl⟩⟩

theorem Untouched.retry {a : Action} (h : Untouched w fd u) (ha : retries cfg u a) :
    Untouched w fd (act a u) := by
  obtain ⟨invalid, ⟨n, rfl, -⟩ | rfl⟩ := ha
  · exact ⟨h.slots, h.ring, h.counter⟩
  · refine ⟨h.slots, h.ring, fun hv => ?_⟩
    have := (h.counter hv).1
    rw [invalid] at this
    cases this

theorem untouched_act {a : Action} (unjoined : ∀ userId, ¬JoinedAs w.ctx.clientSlots fd userId)
    (grown : ∃ new, u.trace = w.trace ++ new) (h : Untouched w fd u) (ha : FrameStep w fd input u a) :
    (∃ userId, BoundSince w fd userId (act a u)) ∨ Untouched w fd (act a u) := by
  have spoken : Spoke w fd u → ∃ userId, BoundSince w fd userId (act a u) := by
    rintro (⟨userId, hj⟩ | ⟨userId, hb⟩)
    · exact absurd hj (unjoined userId)
    · exact ⟨userId, boundSince_act a hb⟩
  cases ha with
  | register now =>
    refine .inr ⟨fun i ha hf => ?_, h.ring, h.counter⟩
    have same := h.slots i ha hf
    change (ensureSlot now u.ctx.clientSlots fd).2 i = _
    rcases ensureSlot_slot now u.ctx.clientSlots fd i with e | ⟨hl, -⟩ | ⟨hno, -⟩
    · rw [e, same]
    · rw [same] at hl
      exact absurd (liveOn_iff.mp hl).2.2 hf
    · rw [same, ha] at hno
      cases hno
  | answer _ ha =>
    obtain ⟨d, rfl, -⟩ := ha
    exact .inr ⟨h.slots, h.ring, h.counter⟩
  | close =>
    refine .inr ⟨fun i ha hf => ?_, h.ring, h.counter⟩
    have same := h.slots i ha hf
    change (if holdsFd fd (u.ctx.clientSlots i) then _ else _) = _
    rw [same, if_neg (fun hh => hf (holdsFd_iff.mp hh).2)]
  | retry _ ha => exact .inr (h.retry ha)
  | bind _ now userId name _ =>
    cases hb : bindIdentity now u.ctx.clientSlots fd userId name with
    | none =>
      refine .inr ?_
      simp only [act, bindSlots, hb]
      exact h
    | some b =>
      obtain ⟨new, hnew⟩ := grown
      refine .inl ⟨userId, new ++ [.bound fd userId], ?_, List.mem_append_right _ (List.mem_singleton_self _)⟩
      simp only [act, bindSlots, hb]
      rw [← List.append_assoc, ← hnew]
      rfl
  | announce spoke _ _ => exact .inl (spoken spoke)
  | sample spoke offset => exact .inl (spoken spoke)
  | alive spoke => exact .inl (spoken spoke)
  | replay _ joined _ _ =>
    obtain ⟨userId, hb⟩ := joined
    exact .inl ⟨userId, boundSince_act a hb⟩
  | issue _ root auth _ _ _ => exact .inl (spoken (auth.spoke u))
  | forward d auth _ _ => exact .inl (spoken (auth.spoke u))

theorem untouched_path (unjoined : ∀ userId, ¬JoinedAs w.ctx.clientSlots fd userId)
    (path : ReflTransGen (Steps (FrameStep w fd input)) w u) :
    (∃ userId, BoundSince w fd userId u) ∨ Untouched w fd u := by
  have both := path_invariant path
    (fun v => (∃ new, v.trace = w.trace ++ new) ∧
      ((∃ userId, BoundSince w fd userId v) ∨ Untouched w fd v))
    (fun v a hv ha => by
      obtain ⟨⟨new, hnew⟩, hv⟩ := hv
      obtain ⟨more, hmore⟩ := act_trace a v
      refine ⟨⟨new ++ more, by rw [hmore, hnew, List.append_assoc]⟩, ?_⟩
      rcases hv with ⟨userId, hb⟩ | hv
      · exact .inl ⟨userId, boundSince_act a hb⟩
      · exact untouched_act unjoined ⟨new, hnew⟩ hv ha)
    ⟨⟨[], (List.append_nil _).symm⟩, .inr untouched_self⟩
  exact both.2

/-- A message replayed to the connection that has just joined, stored by an earlier event. -/
def Replayed (w : World cfg) (fd : ℤ) (new : List TraceEvent) (d : Delivery) : Prop :=
  d.fd = fd ∧ (∃ userId, .bound fd userId ∈ new) ∧ ∃ m, .stored m ∈ w.trace ∧ d.payload = m.payload

def forwardedTypes : List String := ["text", "newGroup", "historyRequest", "historyResponse"]

theorem boundSince_mem {userId : String} {new : List TraceEvent} (hnew : u.trace = w.trace ++ new)
    (h : BoundSince w fd userId u) : .bound fd userId ∈ new := by
  obtain ⟨new', hnew', hm⟩ := h
  have e : new = new' := List.append_cancel_left (hnew.symm.trans hnew')
  exact e ▸ hm

theorem asks_exclusive {types : List String} (join : Asks input ["join"]) (other : Asks input types) :
    "join" ∈ types := by
  obtain ⟨root, rfl, t, ht, htype⟩ := join
  obtain ⟨root', e, t', ht', htype'⟩ := other
  cases e
  rw [htype] at htype'
  cases htype'
  cases List.mem_singleton.mp ht
  exact ht'

theorem serverMade_not_forwarded {payload : Json} (h : ServerMade payload) {type : String}
    (ht : payload.member "type" = some (.str type)) : type ∉ forwardedTypes := by
  have hserver := serverMade_type h ht
  simp only [serverTypes, List.mem_cons, List.not_mem_nil, or_false] at hserver
  rcases hserver with rfl | rfl | rfl | rfl <;> decide

theorem frame_sentBy {fds : List ℤ} (table : TableInvariant fds w.ctx.clientSlots)
    {new : List TraceEvent} (h : FrameTrace w fd input u new) {d : Delivery} (hd : .sent d ∈ new)
    {type : String} (hforwarded : type ∈ forwardedTypes)
    (ht : d.payload.member "type" = some (.str type)) :
    SentBy w fd d.payload ∨ Replayed w fd new d := by
  rcases h.sent d hd with ⟨made, -⟩ | ⟨asks, ⟨userId, hb⟩, m, -, stored, eq⟩ | ⟨auth, -, -⟩
  · exact absurd hforwarded (serverMade_not_forwarded made ht)
  · refine .inr ⟨eq.1, ⟨userId, boundSince_mem h.trace hb⟩, m, ?_, eq.2⟩
    rw [h.trace] at stored
    rcases List.mem_append.mp stored with hold | hnew
    · exact hold
    · exact absurd (asks_exclusive asks (h.stored m hnew).1) (by decide)
  · exact .inl (sentBy_of_authentic table auth)

theorem untouched_frame (cJSONParse : CJSONParse) {s : Node cfg} {fd : ℤ} {frame : Frame}
    {env : ℕ → Reply} (table : TableInvariant s.openFds s.world.ctx.clientSlots)
    (unjoined : ∀ userId, ¬JoinedOn s.world fd userId) {new : List TraceEvent}
    (hnew : (step cJSONParse s (.frame fd frame env)).world.trace = s.world.trace ++ new)
    (unbound : ∀ userId, .bound fd userId ∉ new) :
    Untouched s.world fd (step cJSONParse s (.frame fd frame env)).world := by
  rcases step_steps cJSONParse s (.frame fd frame env) with ⟨eq, -⟩ | ⟨-, path⟩
  · rw [eq]
    exact untouched_self
  · rcases untouched_path (fun userId hj => unjoined userId (joinedOn_of_joinedAs table hj)) path
      with ⟨userId, hb⟩ | h
    · exact absurd (boundSince_mem hnew hb) (unbound userId)
    · exact h

/-- Whatever is stored or forwarded names its sender; a frame of a connection that is not and
    does not get joined reaches nobody else. -/
theorem senders_authentic (cJSONParse : CJSONParse) (flash : InitialFlash) (events : List Event)
    (e : Event) :
    let s := run cJSONParse (Node.initial flash : Node cfg) events
    let s' := step cJSONParse s e
    ∃ new, s'.world.trace = s.world.trace ++ new ∧
    (∀ m, .stored m ∈ new → ∃ fd frame env, e = .frame fd frame env ∧ SentBy s.world fd m.payload) ∧
    (∀ d type, .sent d ∈ new → type ∈ forwardedTypes →
      d.payload.member "type" = some (.str type) → ∃ fd frame env, e = .frame fd frame env ∧
        (SentBy s.world fd d.payload ∨ Replayed s.world fd new d)) ∧
    (∀ fd frame env, e = .frame fd frame env → (∀ userId, ¬JoinedOn s.world fd userId) →
      (∀ userId, .bound fd userId ∉ new) →
      (∀ m, .stored m ∉ new) ∧ (∀ d, .sent d ∈ new → d.fd = fd) ∧
        Untouched s.world fd s'.world) := by
  intro s s'
  have table : TableInvariant s.openFds s.world.ctx.clientSlots := sound_run cJSONParse flash events
  have chat : RingOfChat s.world := ringOfChat_run cJSONParse flash events
  rcases event_trace cJSONParse chat e with ⟨new, h, quiet⟩ | ⟨fd, frame, env, new, rfl, -, h⟩
  · refine ⟨new, h.trace, fun m hm => absurd hm (h.stored m), ?_, ?_⟩
    · intro d type hd hforwarded ht
      exact absurd hforwarded (serverMade_not_forwarded (h.sent d hd) ht)
    · rintro fd frame env rfl unjoined unbound
      rcases quiet with rfl | hno
      · refine ⟨by simp, by simp, untouched_frame cJSONParse table unjoined h.trace unbound⟩
      · exact absurd rfl (hno fd frame env)
  · refine ⟨new, h.trace, ?_, ?_, ?_⟩
    · intro m hm
      exact ⟨fd, frame, env, rfl, sentBy_of_authentic table (h.stored m hm).2.1⟩
    · intro d type hd hforwarded ht
      exact ⟨fd, frame, env, rfl, frame_sentBy table h hd hforwarded ht⟩
    · rintro fd' frame' env' e unjoined unbound
      cases e
      have unjoined' : ∀ userId, ¬JoinedAs s.world.ctx.clientSlots fd userId :=
        fun userId hj => unjoined userId (joinedOn_of_joinedAs table hj)
      refine ⟨?_, ?_, untouched_frame cJSONParse table unjoined h.trace unbound⟩
      · intro m hm
        obtain ⟨userId, hj, -⟩ := (h.stored m hm).2.1.sender
        exact unjoined' userId hj
      · intro d hd
        rcases h.sent d hd with ⟨-, hfd | ⟨userId, hj⟩ | ⟨userId, hb⟩⟩ | ⟨-, -, m, -, -, eq⟩ | ⟨auth, -, -⟩
        · exact hfd
        · exact absurd hj (unjoined' userId)
        · exact absurd (boundSince_mem h.trace hb) (unbound userId)
        · exact eq.1
        · obtain ⟨userId, hj, -⟩ := auth.sender
          exact absurd hj (unjoined' userId)

end EspWebChat.SenderAuthenticity
