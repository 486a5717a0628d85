import EspWebChat.PresenceRounds

set_option autoImplicit false

/-!
# The presence list in a settled table

As long as some client is closing, a broadcast is still to come: the close callback brings it.
When none is, every joined client was last sent the list of just those that are joined.
`Settled` is kept by every action that sends no list and binds no user, and so by every handler
that neither joins nor lists.
-/
namespace EspWebChat.SettledPresence
open Relation JsonTree ClientSlots Interruptible ServerWorld Sessions History Protocol JsonGate WebSocketServer
open ServerSteps SlotSteps SessionSteps HistorySteps ProtocolSteps NodeSteps SlotInvariant PresenceRounds TargetFields

variable {cfg : Config} {w u : World cfg} {fds : List ℤ} {n : ℕ} {t t' : SlotTable n} {a : Action}

/-- A user id with the name the list shows for it. -/
def face (s : ClientSlot) : String × String := (s.userId, if s.name = "" then "New User" else s.name)

def faces (t : SlotTable n) : List (String × String) := (joinedSlots t).map face

def faceEntry (f : String × String) : Json := .obj [("id", .str f.1), ("name", .str f.2)]

/-- The payload of `chat_sessions_build_online_users_payload` when no allocation fails. -/
def presencePayload (now : Number) (listed : List (String × String)) : Json :=
  .obj [("type", .str "onlineUsers"), ("from", .str "server"), ("timestamp", .num now),
    ("to", .obj [("users", .arr (listed.map (fun f => .str f.1))), ("all", .bool true)]),
    ("data", .arr (listed.map faceEntry))]

def isPresence (p : Json) : Bool := (p.member "type").any (isString "onlineUsers")

theorem isPresence_payload (now : Number) (listed : List (String × String)) : isPresence (presencePayload now listed) = true := rfl

theorem typed_presence {p : Json} {type : String} (typed : ∀ v ∈ p.member "type", v = .str type)
    (other : type ≠ "onlineUsers") : isPresence p = false := by
  unfold isPresence
  cases found : p.member "type" with
  | none => rfl
  | some v =>
    rw [typed v found, Option.any_some]
    exact Bool.eq_false_iff.mpr (fun same => other (Json.str.inj (isString_iff.mp same)))

def presenceTo (fd : ℤ) : TraceEvent → Option Json
  | .sent d => if d.fd = fd ∧ d.delivered = true ∧ isPresence d.payload = true then some d.payload else none
  | _ => none

/-- The last list that reached the client. -/
def lastPresence (fd : ℤ) (trace : List TraceEvent) : Option Json := (trace.filterMap (presenceTo fd)).getLast?

theorem lastPresence_silent {fd : ℤ} {trace new : List TraceEvent} (silent : ∀ e ∈ new, presenceTo fd e = none) :
    lastPresence fd (trace ++ new) = lastPresence fd trace := by
  unfold lastPresence
  rw [List.filterMap_append, List.filterMap_eq_nil_iff.mpr silent, List.append_nil]

theorem lastPresence_broadcast {fd : ℤ} {targets : List ℤ} {p : Json} (among : fd ∈ targets) (presence : isPresence p = true)
    (trace : List TraceEvent) :
    lastPresence fd (trace ++ targets.map (fun target => .sent ⟨target, p, true⟩)) = some p := by
  have brings : ∀ q ∈ (targets.map (fun target => TraceEvent.sent ⟨target, p, true⟩)).filterMap (presenceTo fd), q = p := by
    intro q hq
    obtain ⟨e, he, found⟩ := List.mem_filterMap.mp hq
    obtain ⟨target, -, rfl⟩ := List.mem_map.mp he
    unfold presenceTo at found
    dsimp only at found
    split_ifs at found
    exact (Option.some.inj found).symm
  have some : p ∈ (targets.map (fun target => TraceEvent.sent ⟨target, p, true⟩)).filterMap (presenceTo fd) := by
    refine List.mem_filterMap.mpr ⟨.sent ⟨fd, p, true⟩, List.mem_map.mpr ⟨fd, among, rfl⟩, ?_⟩
    exact if_pos ⟨rfl, rfl, presence⟩
  have last := List.getLast?_eq_some_getLast (List.ne_nil_of_mem some)
  unfold lastPresence
  rw [List.filterMap_append, List.getLast?_append, last, Option.some_or, brings _ (List.getLast_mem _)]

def Closing (w : World cfg) : Prop := ∃ i, (w.ctx.clientSlots i).closing = true

/-- Every joined client was last sent the list of those who are joined. -/
def Current (w : World cfg) : Prop := ∀ i, receives (w.ctx.clientSlots i) = true →
  ∃ now, lastPresence (w.ctx.clientSlots i).fd w.trace = some (presencePayload now (faces w.ctx.clientSlots))

def Settled (w : World cfg) : Prop := Closing w ∨ Current w

/-- What the list and its receivers depend on. -/
def signature (s : ClientSlot) : Option (ℤ × String × String) := if receives s then some (s.fd, face s) else none

theorem faces_signature (t : SlotTable n) :
    faces t = (List.finRange n).filterMap (fun i => (signature (t i)).map Prod.snd) := by
  unfold faces joinedSlots
  rw [List.filter_map, List.map_map, ← List.filterMap_eq_map, List.filterMap_filter]
  apply List.filterMap_congr
  intro i _
  unfold signature
  simp only [Function.comp_apply]
  split_ifs
  · rfl
  · rfl

theorem receives_of_signature {s s' : ClientSlot} (same : signature s' = signature s) (receiving : receives s' = true) :
    receives s = true ∧ s'.fd = s.fd := by
  unfold signature at same
  rw [if_pos receiving] at same
  split_ifs at same with before
  obtain ⟨fd, -⟩ := Prod.mk.inj (Option.some.inj same)
  exact ⟨before, fd⟩

/-- A table whose signatures are the same, when no list was sent. -/
theorem settled_same (h : Settled w) (same : ∀ i, signature (u.ctx.clientSlots i) = signature (w.ctx.clientSlots i) ∨
      (u.ctx.clientSlots i).closing = true)
    (closing : Closing w → Closing u) (silent : ∀ fd, lastPresence fd u.trace = lastPresence fd w.trace) : Settled u := by
  cases h with
  | inl already => exact .inl (closing already)
  | inr current =>
    by_cases closes : Closing u
    · exact .inl closes
    · have all : ∀ i, signature (u.ctx.clientSlots i) = signature (w.ctx.clientSlots i) :=
        fun i => (same i).resolve_right (fun shut => closes ⟨i, shut⟩)
      have listed : faces u.ctx.clientSlots = faces w.ctx.clientSlots := by
        rw [faces_signature, faces_signature]
        simp only [all]
      right
      intro i receiving
      obtain ⟨before, fd⟩ := receives_of_signature (all i) receiving
      rw [silent, listed, fd]
      exact current i before

theorem signature_unheard {s : ClientSlot} (h : receives s = false) : signature s = none := by
  unfold signature
  rw [h]
  rfl

theorem closing_marked {s : ClientSlot} (active : s.active = true) : (markSlotClosing s).2.closing = true := by
  rw [markSlotClosing_of_active active]

/-- No list is sent and nobody is bound. -/
structure plain (cfg : Config) (fds : List ℤ) (u : World cfg) (a : Action) : Prop where
  slots : slotSteps cfg fds u a
  binds : ∀ now fd userId name, a ≠ .bind now fd userId name
  sends : ∀ d, a = .send d → isPresence d.payload = false

theorem signature_act (h : plain cfg fds u a) (i : Fin cfg.maxClients) :
    signature ((act a u).ctx.clientSlots i) = signature (u.ctx.clientSlots i) ∨
      ((act a u).ctx.clientSlots i).closing = true := by
  cases a with
  | register now fd =>
    change signature ((ensureSlot now u.ctx.clientSlots fd).2 i) = _ ∨ _
    rcases ensureSlot_slot now u.ctx.clientSlots fd i with same | ⟨-, same⟩ | ⟨free, -, same⟩
    · rw [same]
      exact .inl rfl
    · rw [same]
      exact .inl rfl
    · left
      rw [same, Function.update_self, signature_unheard (by simp [receives, freshSlot]),
        signature_unheard (by simp [receives, free])]
  | bind now fd userId name => exact absurd rfl (h.binds now fd userId name)
  | sample fd offset =>
    change signature (updateTimeSample u.ctx.clientSlots fd offset i) = _ ∨ _
    rcases updateTimeSample_slot u.ctx.clientSlots fd offset i with same | ⟨-, same⟩
    · rw [same]
      exact .inl rfl
    · rw [same]
      exact .inl rfl
  | alive fd =>
    change signature (markAlive u.ctx.clientSlots fd i) = _ ∨ _
    rcases markAlive_slot u.ctx.clientSlots fd i with same | ⟨-, same⟩
    · rw [same]
      exact .inl rfl
    · rw [same]
      exact .inl rfl
  | closing fd =>
    change signature (if holdsFd fd (u.ctx.clientSlots i) then _ else _) = _ ∨
      (if holdsFd fd (u.ctx.clientSlots i) then _ else _ : ClientSlot).closing = true
    split_ifs with holds
    · exact .inr (closing_marked (holdsFd_iff.mp holds).1)
    · exact .inl rfl
  | sweep now delayed =>
    change signature (sweepSlot cfg.heartbeatIntervalS now delayed (u.ctx.clientSlots i)).slot = _ ∨
      (sweepSlot cfg.heartbeatIntervalS now delayed (u.ctx.clientSlots i)).slot.closing = true
    obtain ⟨alive, registered, ping, same | ⟨active, -, same⟩⟩ :=
      sweepSlot_slot cfg.heartbeatIntervalS now delayed (u.ctx.clientSlots i)
    · rw [same]
      exact .inl rfl
    · rw [same]
      exact .inr (closing_marked (s := clocked alive registered ping (u.ctx.clientSlots i)) active)
  | free fd => exact h.slots.elim
  | _ => exact .inl rfl

theorem closing_act (table : TableInvariant fds u.ctx.clientSlots) (h : slotSteps cfg fds u a) (closing : Closing u) :
    Closing (act a u) := by
  obtain ⟨i, hi⟩ := closing
  exact ⟨i, (keeps_act table h ((table.slot i).closing hi).1).closing hi⟩

theorem silent_act (h : plain cfg fds u a) (fd : ℤ) : lastPresence fd (act a u).trace = lastPresence fd u.trace := by
  obtain ⟨new, grown, sent, -⟩ := act_events a u
  rw [grown]
  apply lastPresence_silent
  intro e he
  cases e with
  | sent d =>
    apply if_neg
    intro found
    rw [h.sends d (sent d he)] at found
    exact Bool.false_ne_true found.2.2
  | _ => rfl

/-- What holds between two events, and along most of the parts of one. -/
structure Standing (fds : List ℤ) (w : World cfg) : Prop where
  table : TableInvariant fds w.ctx.clientSlots
  settled : Settled w

theorem Standing.act (h : Standing fds u) (permitted : plain cfg fds u a) : Standing fds (act a u) :=
  ⟨tableInvariant_act h.table permitted.slots,
    settled_same h.settled (signature_act permitted) (closing_act h.table permitted.slots) (silent_act permitted)⟩

def Held (fd : ℤ) (w : World cfg) : Prop := ∃ i, holdsFd fd (w.ctx.clientSlots i) = true

structure Onward (fds : List ℤ) (w u : World cfg) : Prop where
  standing : Standing fds u
  closing : Closing w → Closing u
  held : ∀ fd, Held fd w → Held fd u

theorem onward_self (h : Standing fds w) : Onward fds w w := ⟨h, id, fun _ => id⟩

theorem Onward.trans {v : World cfg} (h : Onward fds w u) (h' : Onward fds u v) : Onward fds w v :=
  ⟨h'.standing, fun closing => h'.closing (h.closing closing), fun fd held => h'.held fd (h.held fd held)⟩

theorem held_act {fd : ℤ} (table : TableInvariant fds u.ctx.clientSlots) (h : slotSteps cfg fds u a) (held : Held fd u) :
    Held fd (act a u) := by
  obtain ⟨i, hi⟩ := held
  obtain ⟨active, same⟩ := holdsFd_iff.mp hi
  have keeps := keeps_act table h active
  exact ⟨i, holdsFd_iff.mpr ⟨keeps.active, keeps.fd.trans same⟩⟩

theorem Onward.act (h : Onward fds w u) (permitted : plain cfg fds u a) : Onward fds w (act a u) :=
  h.trans ⟨h.standing.act permitted, closing_act h.standing.table permitted.slots,
    fun _ => held_act h.standing.table permitted.slots⟩

section parts
variable {α β : Type} {m : Server cfg α} {f : α → Server cfg β} {P : α → World cfg → Prop} {fd : ℤ} {p : Json}

theorem plain_ends (h : Traces (Steps (plain cfg fds)) m w P) (standing : Standing fds w) :
    Ends m w (fun r u => Onward fds w u ∧ ∀ b, r = some b → P b u) := by
  apply h.ends (Onward fds w) (onward_self standing)
  intro u v onward step
  obtain ⟨a, permitted, rfl⟩ := step
  exact onward.act permitted

theorem plain_quiet {a : Action} (slots : slotSteps cfg fds u a) (binds : ∀ now fd userId name, a ≠ .bind now fd userId name)
    (sends : ∀ d, a ≠ .send d) : plain cfg fds u a :=
  ⟨slots, binds, fun d same => absurd same (sends d)⟩

theorem plain_send {d : Delivery} (other : isPresence d.payload = false) : plain cfg fds u (.send d) := by
  refine ⟨trivial, by simp, ?_⟩
  intro d' same
  rw [← Action.send.inj same]
  exact other

theorem sendText_plain (other : isPresence p = false) :
    Traces (Steps (plain cfg fds)) (chatWsSendText fd p) w (fun _ _ => True) :=
  (chatWsSendText_spec (fun _ => plain_send other)).post (fun _ _ _ _ => trivial)

theorem closeClient_plain : Traces (Steps (plain cfg fds)) (chatWsCloseClient fd) w (fun _ _ => True) :=
  (chatWsCloseClient_spec (plain_quiet trivial (by simp) (by simp))).post (fun _ _ _ _ => trivial)

theorem sendError_plain (code message : String) :
    Traces (Steps (plain cfg fds)) (chatWsSendError fd code message) w (fun _ _ => True) := by
  apply allocates_spec.bind
  intro created u _ hu
  subst hu
  apply Traces.ite (fun _ => .pure trivial)
  intro _
  apply (addMember_type (typeIs_nil "error")).bind
  intro ms u _ hu
  obtain ⟨rfl, h⟩ := hu
  apply (addMember_type h).bind
  intro ms u _ hu
  obtain ⟨rfl, h⟩ := hu
  apply (addMember_type h).bind
  intro ms u _ hu
  obtain ⟨rfl, h⟩ := hu
  apply (addMember_type h).bind
  intro ms u _ hu
  obtain ⟨rfl, h⟩ := hu
  apply currentTimestampS_spec.bind
  intro now u _ hu
  subst hu
  apply (addMember_type h).bind
  intro ms u _ hu
  obtain ⟨rfl, h⟩ := hu
  apply printUnformatted_spec.bind
  intro printed u _ hu
  obtain ⟨rfl, hp⟩ := hu
  cases printed with
  | none => exact .pure trivial
  | some payload =>
    apply sendText_plain
    rw [hp payload rfl]
    exact typed_presence (typeIs_printed _ h) (by decide)

theorem refuse_plain (code message : String) :
    Traces (Steps (plain cfg fds)) (sendErrorAndClose fd code message) w (fun _ _ => True) := by
  apply (sendError_plain code message).bind
  intro ret u _ _
  apply closeClient_plain.bind
  intro _ v _ _
  exact .pure trivial

/-- A slot that is not closing is there for the descriptor. -/
def Live (fd : ℤ) (w : World cfg) : Prop := ∃ i, liveOn fd (w.ctx.clientSlots i) = true

theorem Live.held (h : Live fd w) : Held fd w := by
  obtain ⟨i, hi⟩ := h
  obtain ⟨active, -, same⟩ := liveOn_iff.mp hi
  exact ⟨i, holdsFd_iff.mpr ⟨active, same⟩⟩

theorem ensureSlot_plain (known : fd ∈ fds) : Traces (Steps (plain cfg fds)) (chatSessionsEnsureSlot fd) w
    (fun ready u => ready = true → Live fd u) := by
  apply (chatSessionsEnsureSlot_spec (fun _ => plain_quiet known (by simp) (by simp))).post
  intro ready u _ hu ready'
  obtain ⟨now, rfl, rfl⟩ := hu
  exact ensureSlot_ready ready'

theorem sample_plain (root : Json) : Traces (Steps (plain cfg fds)) (chatSessionsUpdateTimeSample fd root) w
    (fun _ _ => True) :=
  (chatSessionsUpdateTimeSample_spec root (fun _ => plain_quiet trivial (by simp) (by simp))).post
    (fun _ _ _ _ => trivial)

theorem alive_plain : Traces (Steps (plain cfg fds)) (chatSessionsMarkAlive fd) w (fun _ _ => True) :=
  (chatSessionsMarkAlive_spec (plain_quiet trivial (by simp) (by simp))).post (fun _ _ _ _ => trivial)

theorem closeClient_world (known : 0 ≤ fd) (env : ℕ → Reply) :
    (chatWsCloseClient fd env w).world = act (.closing fd) w := by
  unfold chatWsCloseClient
  rw [if_neg (not_lt.mpr known)]
  rfl

theorem closing_held (held : Held fd w) : Closing (act (.closing fd) w) := by
  obtain ⟨i, hi⟩ := held
  refine ⟨i, ?_⟩
  change (if holdsFd fd (w.ctx.clientSlots i) then _ else _ : ClientSlot).closing = true
  rw [if_pos hi]
  exact closing_marked (holdsFd_iff.mp hi).1

theorem markClosing_plain : Traces (Steps (plain cfg fds)) (chatSessionsMarkClosing fd) w
    (fun wasJoined u => wasJoined = true → Closing u) := by
  apply (chatSessionsMarkClosing_spec (plain_quiet trivial (by simp) (by simp))).post
  intro wasJoined u _ hu joined
  obtain ⟨rfl, rfl⟩ := hu
  obtain ⟨_, i, active, -, same, -⟩ := markClosing_joined joined
  exact closing_held ⟨i, holdsFd_iff.mpr ⟨active, same⟩⟩

theorem plain_persists {v : ℕ} {a : Action} (h : persists cfg v u a) : plain cfg fds u a := by
  obtain ⟨n, rfl, -⟩ := h
  exact plain_quiet trivial (by simp) (by simp)

theorem plain_retries {a : Action} (h : retries cfg u a) : plain cfg fds u a := by
  obtain ⟨-, ⟨n, rfl, -⟩ | rfl⟩ := h
  · exact plain_quiet trivial (by simp) (by simp)
  · exact plain_quiet trivial (by simp) (by simp)

theorem ensureIdState_plain : Traces (Steps (plain cfg fds)) chatHistoryEnsureIdState w (fun ret u =>
    u.ctx.clientSlots = w.ctx.clientSlots ∧ (ret = .ok → u.ctx.messageIdCounterValid = true)) :=
  (permitsAll ensureIdStateLocked_spec (fun _ _ => plain_retries)).post (fun _ _ _ h => ⟨h.1, h.2.1⟩)

/-- What is stored is a chat message if the frame was one. -/
theorem finalize_plain {root : Json} (chat : IsChat root) : Traces (Steps (plain cfg fds))
    (chatHistoryFinalizeAndStoreMessage root) w (fun r _ => ∀ payload ∈ r.2, isPresence payload = false) := by
  apply (permitsAll (chatHistoryFinalizeAndStoreMessage_spec root) _).post
  · intro r u _ hu payload stored
    obtain ⟨-, issued⟩ := hu
    obtain ⟨m, timestamp, rfl, final, -⟩ := issued payload stored
    obtain ⟨type, kind, typed⟩ := chat
    have other : type ≠ "onlineUsers" := by
      rintro rfl
      simp [chatTypes] at kind
    refine typed_presence ?_ other
    intro v found
    rw [final, cfg.printer.printed_member, member_finalized (by decide) (by decide), typed] at found
    exact (Option.some.inj found).symm
  · intro u a permitted
    rcases permitted with retry | ⟨-, -, persist | ⟨m, timestamp, rfl, -⟩⟩
    · exact plain_retries retry
    · exact plain_persists persist
    · exact plain_quiet trivial (by simp) (by simp)

theorem infoPayload_typed {Step : World cfg → World cfg → Prop} : Traces Step (chatHistoryBuildInfoPayload : Server cfg _) w
    (fun payload u => u = w ∧ ∀ p ∈ payload, isPresence p = false) := by
  apply allocates_spec.bind
  intro created u _ hu
  subst hu
  apply Traces.ite (fun _ => .pure ⟨rfl, by simp⟩)
  intro _
  apply (addMember_type (typeIs_nil "historyInfo")).bind
  intro ms u _ hu
  obtain ⟨rfl, h⟩ := hu
  apply (addMember_type h).bind
  intro ms u _ hu
  obtain ⟨rfl, h⟩ := hu
  apply currentTimestampS_spec.bind
  intro now u _ hu
  subst hu
  apply (addMember_type h).bind
  intro ms u _ hu
  obtain ⟨rfl, h⟩ := hu
  apply (addMember_type h).bind
  intro ms u _ hu
  obtain ⟨rfl, h⟩ := hu
  apply allocates_spec.bind
  intro toOk u _ hu
  subst hu
  apply Traces.bind (P := fun _ v => v = u) (.ite (fun _ => allocates_spec) (fun _ => .pure rfl))
  intro usersOk v _ hv
  subst hv
  apply Traces.ite (fun _ => .pure ⟨rfl, by simp⟩)
  intro _
  apply addMember_spec.bind
  intro all u _ hu
  obtain ⟨rfl, -⟩ := hu
  apply Traces.bind (P := fun _ v => v = u) (.reads rfl)
  intro bounds v _ hv
  subst hv
  apply (addMember_type (typeIs_append h (by simp))).bind
  intro ms u _ hu
  obtain ⟨rfl, h⟩ := hu
  apply (addMember_type h).bind
  intro ms u _ hu
  obtain ⟨rfl, h⟩ := hu
  apply (addMember_type h).bind
  intro ms u _ hu
  obtain ⟨rfl, h⟩ := hu
  apply (addMember_type h).bind
  intro ms u _ hu
  obtain ⟨rfl, h⟩ := hu
  apply (addMember_type h).bind
  intro ms u _ hu
  obtain ⟨rfl, h⟩ := hu
  apply (addMember_type h).bind
  intro ms u _ hu
  obtain ⟨rfl, h⟩ := hu
  apply (addMember_type h).bind
  intro ms u _ hu
  obtain ⟨rfl, h⟩ := hu
  apply (addMember_type h).bind
  intro ms u _ hu
  obtain ⟨rfl, h⟩ := hu
  apply printUnformatted_spec.post
  intro printed v _ hv
  obtain ⟨rfl, hp⟩ := hv
  refine ⟨rfl, ?_⟩
  intro p hpm
  rw [hp p hpm]
  exact typed_presence (typeIs_printed _ h) (by decide)

theorem requireJoinedIdentity_plain (root : Json) :
    Traces (Steps (plain cfg fds)) (requireJoinedIdentity fd root) w (fun _ _ => True) := by
  apply Traces.bind (P := fun _ _ => True) (.reads trivial)
  intro identity u _ _
  apply Traces.ite (fun _ => refuse_plain _ _)
  intro _
  apply Traces.ite (fun _ => refuse_plain _ _)
  intro _
  apply (sample_plain root).bind
  intro _ v _ _
  exact .pure trivial

theorem closeClient_closing (held : Held fd w) (known : 0 ≤ fd) (standing : Standing fds w) :
    Ends (chatWsCloseClient fd) w (fun _ u => Onward fds w u ∧ Closing u) := by
  constructor
  intro env
  rw [closeClient_world known]
  exact ⟨(onward_self standing).act (plain_quiet trivial (by simp) (by simp)), closing_held held⟩

/-- Descriptors that a slot is there for, as `chat_ws_close_client` needs them. -/
def Targets (w : World cfg) (targets : List ℤ) : Prop := ∀ fd ∈ targets, 0 ≤ fd ∧ Held fd w

theorem Targets.onward {targets : List ℤ} (h : Targets w targets) (onward : Onward fds w u) : Targets u targets :=
  fun fd hfd => ⟨(h fd hfd).1, onward.held fd (h fd hfd).2⟩

theorem targets_of_table (table : TableInvariant fds w.ctx.clientSlots) (positive : ∀ fd ∈ fds, 0 ≤ fd) {targets : List ℤ}
    (slots : ∀ fd ∈ targets, ∃ i, (w.ctx.clientSlots i).active = true ∧ (w.ctx.clientSlots i).fd = fd) :
    Targets w targets := by
  intro fd hfd
  obtain ⟨i, active, same⟩ := slots fd hfd
  exact ⟨positive fd (same ▸ table.isOpen i active), i, holdsFd_iff.mpr ⟨active, same⟩⟩

theorem receivers_targets (table : TableInvariant fds w.ctx.clientSlots) (positive : ∀ fd ∈ fds, 0 ≤ fd) :
    Targets w (receiverFds w.ctx.clientSlots) := by
  apply targets_of_table table positive
  intro fd hfd
  obtain ⟨_, i, active, -, same, -⟩ := receiverFds_joined hfd
  exact ⟨i, active, same⟩

/-- What a send loop leaves behind: it has lost a client only if one is closing. -/
def Lost (fds : List ℤ) (w : World cfg) (lost : α → Prop) (r : Option α) (u : World cfg) : Prop :=
  Onward fds w u ∧ ∀ b, r = some b → lost b → Closing u

theorem sendToAll_ends (other : isPresence p = false) (targets : List ℤ) (known : Targets w targets)
    (standing : Standing fds w) :
    Ends (sendToAll p targets) w (Lost fds w (fun closed => closed = true)) := by
  induction targets generalizing w with
  | nil => exact .pure ⟨onward_self standing, fun b same lost => by cases same; cases lost⟩
  | cons fd targets ih =>
    apply (plain_ends (sendText_plain other) standing).bind (fun u h => ⟨h.1, fun b same => by cases same⟩)
    intro ret u sent
    have later : Targets u targets := Targets.onward (fun f hf => known f (List.mem_cons_of_mem _ hf)) sent.1
    apply Ends.ite
    · intro _
      apply (ih later sent.1.standing).post
      intro r v h
      exact ⟨sent.1.trans h.1, h.2⟩
    · intro _
      have here := known fd List.mem_cons_self
      apply (closeClient_closing (sent.1.held fd here.2) here.1 sent.1.standing).bind
        (fun v h => ⟨sent.1.trans h.1, fun b same => by cases same⟩)
      intro _ v shut
      apply (ih (later.onward shut.1) shut.1.standing).bind
        (fun x h => ⟨(sent.1.trans shut.1).trans h.1, fun b same => by cases same⟩)
      intro _ x h
      exact .pure ⟨(sent.1.trans shut.1).trans h.1, fun _ _ _ => h.1.closing shut.2⟩

theorem sendToAll_relays (p : Json) (targets : List ℤ) :
    Shortens (sendToAll p targets : Server cfg Bool) (relayToAll p targets) (fun ret => decide (ret ≠ .ok)) := by
  induction targets with
  | nil => exact .pure rfl
  | cons fd targets ih =>
    apply Shortens.bind
    intro ret
    by_cases done : ret = .ok
    · rw [if_pos done, if_pos done]
      exact ih
    · rw [if_neg done, if_neg done]
      apply Shortens.bind
      intro _
      apply ih.bindBoth
      intro _
      exact .pure (decide_eq_true done)

theorem relayToAll_ends (other : isPresence p = false) (targets : List ℤ) (known : Targets w targets)
    (standing : Standing fds w) : Ends (relayToAll p targets) w (Lost fds w (fun ret => ret ≠ .ok)) := by
  constructor
  intro env
  have loop := (sendToAll_ends other targets known standing).run env
  rw [sendToAll_relays p targets env w] at loop
  refine ⟨loop.1, ?_⟩
  intro ret returned failed
  exact loop.2 true (by simp [returned, failed]) rfl

theorem broadcast_ends (other : isPresence p = false) (positive : ∀ fd ∈ fds, 0 ≤ fd) (standing : Standing fds w) :
    Ends (chatWsBroadcast p) w (Lost fds w (fun closed => closed = true)) := by
  apply Ends.bind (E := fun r u => r = some w.ctx.clientSlots ∧ u = w) (.reads ⟨rfl, rfl⟩)
  · intro u h
    cases h.1
  · intro table u h
    obtain ⟨same, rfl⟩ := h
    obtain rfl := Option.some.inj same
    exact sendToAll_ends other _ (receivers_targets standing.table positive) standing

theorem broadcastInfo_ends (positive : ∀ fd ∈ fds, 0 ≤ fd) (standing : Standing fds w) :
    Ends chatHistoryBroadcastInfo w (Lost fds w (fun closed => closed = true)) := by
  apply ends_silent infoPayload_typed ⟨onward_self standing, fun b same => by cases same⟩
  intro payload other
  cases payload with
  | none => exact .pure ⟨onward_self standing, fun b same lost => by cases same; cases lost⟩
  | some p => exact broadcast_ends (other.2 p rfl) positive standing

theorem closing_ends {Steps' : Permission cfg} (h : Traces (Steps Steps') m w P)
    (permits : ∀ u a, Steps' u a → slotSteps cfg fds u a) (table : TableInvariant fds w.ctx.clientSlots)
    (closing : Closing w) : Ends m w (fun _ u => Standing fds u) := by
  apply (h.ends (fun u => TableInvariant fds u.ctx.clientSlots ∧ Closing u) ⟨table, closing⟩ _).post
  · intro r u h
    exact ⟨h.1.1, .inl h.1.2⟩
  · intro u v h step
    obtain ⟨a, permitted, rfl⟩ := step
    exact ⟨tableInvariant_act h.1 (permits u a permitted), closing_act h.1 (permits u a permitted) h.2⟩

theorem lists_slots (h : lists cfg u a) : slotSteps cfg fds u a := slotSteps_announces (announces_of_lists u a h)

theorem announceLost_ends {c : Prop} [Decidable c] {x : α} (standing : Standing fds w) (lost : c → Closing w) :
    Ends (if c then do
      let _ ← chatSessionsBroadcastOnlineUsers
      pure x
    else pure x : Server cfg α) w (fun _ u => Standing fds u) := by
  apply Ends.ite
  · intro holds
    apply (closing_ends chatSessionsBroadcastOnlineUsers_lists (fun _ _ => lists_slots) standing.table (lost holds)).bind
      (fun u h => h)
    intro _ u h
    exact .pure h
  · intro _
    exact .pure standing

end parts

section handlers
variable {fd : ℤ} {root : Json}

/-- Wherever the handler ends, the world is in order. -/
def Rests (fds : List ℤ) {α : Type} (m : Server cfg α) (w : World cfg) : Prop := Ends m w (fun _ u => Standing fds u)

theorem rests_plain {α : Type} {m : Server cfg α} {P : α → World cfg → Prop}
    (h : Traces (Steps (plain cfg fds)) m w P) (standing : Standing fds w) : Rests fds m w :=
  (plain_ends h standing).post (fun _ _ h => h.1.standing)

theorem rests_pure {α : Type} (x : α) (standing : Standing fds w) : Rests fds (pure x : Server cfg α) w := .pure standing

theorem rests_bind {α β : Type} {m : Server cfg α} {f : α → Server cfg β} {P : α → World cfg → Prop}
    (h : Traces (Steps (plain cfg fds)) m w P) (standing : Standing fds w)
    (next : ∀ x u, P x u → Standing fds u → Rests fds (f x) u) : Rests fds (m >>= f) w := by
  apply (plain_ends h standing).bind (fun u h => h.1.standing)
  intro x u h
  exact next x u (h.2 x rfl) h.1.standing

theorem answer_rests (code message : String) (standing : Standing fds w) :
    Rests fds (chatWsSendError fd code message : Server cfg EspErr) w :=
  rests_plain (sendError_plain code message) standing

theorem markBrokenSession_rests (standing : Standing fds w) : Rests fds (markBrokenSession fd : Server cfg Unit) w := by
  apply rests_bind markClosing_plain standing
  intro wasJoined u joined standing
  exact announceLost_ends standing joined

theorem publishMessage_rests (positive : ∀ fd ∈ fds, 0 ≤ fd) (chat : IsChat root) (standing : Standing fds w) :
    Rests fds (publishMessage fd root : Server cfg EspErr) w := by
  apply rests_bind (finalize_plain chat) standing
  intro r u other standing
  obtain ⟨ret, stored⟩ := r
  cases stored with
  | none => exact Ends.ite (fun _ => answer_rests _ _ standing) (fun _ => answer_rests _ _ standing)
  | some payload =>
    apply (broadcast_ends (other payload rfl) positive standing).bind (fun v h => h.1.standing)
    intro closed v sent
    apply (broadcastInfo_ends positive sent.1.standing).bind (fun x h => h.1.standing)
    intro closedToo x informed
    apply announceLost_ends informed.1.standing
    intro either
    cases Bool.or_eq_true_iff.mp either with
    | inl first => exact informed.1.closing (sent.2 closed rfl first)
    | inr second => exact informed.2 closedToo rfl second

theorem handleChatMessage_rests (positive : ∀ fd ∈ fds, 0 ≤ fd) {type : String} (chat : type ∈ chatTypes)
    (typed : root.member "type" = some (.str type)) (object : root.isObject = true) (standing : Standing fds w) :
    Rests fds (handleChatMessage fd type root : Server cfg EspErr) w := by
  have publish : ∀ {code message : String} {u : World cfg}, Standing fds u →
      Rests fds (validateToObject root >>= fun found =>
        if !found.1 then chatWsSendError fd code message else publishMessage fd found.2 : Server cfg EspErr) u := by
    intro code message u standing
    apply rests_bind (validateToObject_spec object) standing
    intro found v filled standing
    apply Ends.ite (fun _ => answer_rests _ _ standing)
    intro _
    exact publishMessage_rests positive ⟨type, chat, by rw [filled.2.1.others _ (by decide)]; exact typed⟩ standing
  unfold handleChatMessage
  apply Ends.ite (fun _ => answer_rests _ _ standing)
  intro _
  apply Ends.ite (fun _ => answer_rests _ _ standing)
  intro _
  apply Ends.ite
  · intro _
    exact Ends.ite (fun _ => answer_rests _ _ standing) (fun _ => publish standing)
  · intro _
    apply Ends.ite
    · intro _
      exact Ends.ite (fun _ => answer_rests _ _ standing) (fun _ => publish standing)
    · intro _
      exact answer_rests _ _ standing

theorem typed_other {p : Json} {type : String} (typed : p.member "type" = some (.str type)) (other : type ≠ "onlineUsers") :
    isPresence p = false := by
  apply typed_presence _ other
  intro v found
  rw [typed] at found
  exact (Option.some.inj found).symm

theorem handleHistoryRequestMessage_rests (positive : ∀ fd ∈ fds, 0 ≤ fd)
    (typed : root.member "type" = some (.str "historyRequest")) (standing : Standing fds w) :
    Rests fds (handleHistoryRequestMessage fd root : Server cfg EspErr) w := by
  unfold handleHistoryRequestMessage
  split
  · exact answer_rests _ _ standing
  · apply Ends.ite (fun _ => answer_rests _ _ standing)
    intro _
    apply rests_bind (P := fun _ _ => True) (.reads trivial) standing
    intro allowed u _ standing
    apply Ends.ite (fun _ => answer_rests _ _ standing)
    intro _
    apply rests_bind allocates_spec standing
    intro added v _ standing
    apply Ends.ite (fun _ => answer_rests _ _ standing)
    intro _
    apply rests_bind printUnformatted_spec standing
    intro printed x hx standing
    cases printed with
    | none => exact answer_rests _ _ standing
    | some payload =>
      have other : isPresence payload = false := by
        have request : payload.member "type" = some (.str "historyRequest") := by
          rw [hx.2 payload rfl]
          apply cfg.printer.printed_str
          rw [member_append_ne _ _ (by decide), member_delete_ne _ (by decide)]
          exact typed
        exact typed_other request (by decide)
      apply (broadcast_ends other positive standing).bind (fun y h => h.1.standing)
      intro closed y sent
      exact announceLost_ends sent.1.standing (fun lost => sent.2 closed rfl lost)

theorem relay_selects {message : Json} (h : historyResponseTargetsMatchMessage root message = true) :
    ((root.member "to").getD .null).isObject = true ∧
      hasItems (((root.member "to").getD .null).member "users") = true := by
  unfold historyResponseTargetsMatchMessage at h
  cases found : root.member "to" with
  | none => simp [found, isObjectItem] at h
  | some target =>
    simp only [found] at h
    rw [Option.getD_some]
    cases object : target.isObject with
    | false => simp [isObjectItem, object] at h
    | true =>
      refine ⟨rfl, ?_⟩
      simp only [isObjectItem, object, if_true, itemMember, Option.bind_some] at h
      unfold hasItems
      split at h
      · simp only [Bool.and_eq_true] at h
        exact h.1
      · cases h

theorem relayPayloadToTargets_rests (positive : ∀ fd ∈ fds, 0 ≤ fd) {target payload : Json}
    (object : target.isObject = true) (items : hasItems (target.member "users") = true)
    (other : isPresence payload = false) (standing : Standing fds w) :
    Ends (relayPayloadToTargets target payload : Server cfg EspErr) w (Lost fds w (fun ret => ret ≠ .ok)) := by
  unfold relayPayloadToTargets
  rw [if_neg (by simp [object]), if_neg (by simp [items])]
  apply Ends.bind (E := fun r u => r = some w.ctx.clientSlots ∧ u = w) (.reads ⟨rfl, rfl⟩)
  · intro u h
    cases h.1
  · intro table u h
    obtain ⟨same, rfl⟩ := h
    obtain rfl := Option.some.inj same
    apply relayToAll_ends other _ _ standing
    apply targets_of_table standing.table positive
    intro fd hfd
    obtain ⟨i, -, hi⟩ := List.mem_filterMap.mp hfd
    split_ifs at hi with chosen
    exact ⟨i, (relayTarget_joined chosen).1, Option.some.inj hi⟩

theorem handleHistoryResponseMessage_rests (positive : ∀ fd ∈ fds, 0 ≤ fd)
    (typed : root.member "type" = some (.str "historyResponse")) (object : root.isObject = true)
    (standing : Standing fds w) : Rests fds (handleHistoryResponseMessage fd root : Server cfg EspErr) w := by
  unfold handleHistoryResponseMessage
  apply Ends.ite (fun _ => answer_rests _ _ standing)
  intro _
  apply rests_bind (validateToObject_spec object) standing
  intro found u filled standing
  apply Ends.ite (fun _ => answer_rests _ _ standing)
  intro _
  apply Ends.ite (fun _ => answer_rests _ _ standing)
  intro _
  apply rests_bind (validateHistoryMessageObject_spec _) standing
  intro read v _ standing
  apply Ends.ite (fun _ => answer_rests _ _ standing)
  intro _
  apply rests_bind (P := fun _ _ => True) (.reads trivial) standing
  intro before x _ standing
  apply Ends.ite (fun _ => answer_rests _ _ standing)
  intro _
  apply Ends.ite (fun _ => answer_rests _ _ standing)
  intro matching
  apply rests_bind printUnformatted_spec standing
  intro printed y hy standing
  cases printed with
  | none => exact answer_rests _ _ standing
  | some payload =>
    have other : isPresence payload = false := by
      have response : payload.member "type" = some (.str "historyResponse") := by
        rw [hy.2 payload rfl]
        apply cfg.printer.printed_str
        rw [member_set_ne _ _ (by decide), filled.2.1.others _ (by decide)]
        exact typed
      exact typed_other response (by decide)
    obtain ⟨target, items⟩ := relay_selects (by simpa using matching)
    apply (relayPayloadToTargets_rests positive target items other standing).bind (fun z h => h.1.standing)
    intro ret z sent
    apply Ends.ite
    · intro failed
      apply (closing_ends chatSessionsBroadcastOnlineUsers_lists (fun _ _ => lists_slots) sent.1.standing.table
        (sent.2 ret rfl failed)).bind (fun z h => h)
      intro _ z standing
      exact answer_rests _ _ standing
    · intro _
      exact rests_pure _ sent.1.standing

theorem handlePong_rests (final : Bool) (standing : Standing fds w) : Rests fds (handlePong fd final : Server cfg EspErr) w := by
  apply rests_bind (P := fun _ _ => True) (.reads trivial) standing
  intro joined u _ standing
  apply Ends.ite
  · intro _
    exact rests_bind closeClient_plain standing (fun _ v _ standing => rests_pure _ standing)
  · intro _
    exact rests_bind alive_plain standing (fun _ v _ standing => rests_pure _ standing)

theorem dismiss_rests {c : Bool → Bool} (code message : String) (standing : Standing fds w) :
    Rests fds (do
      let _ ← chatWsSendError fd code message
      let joined ← chatSessionsIsJoined fd
      if c joined then do
        chatWsCloseClient fd
        pure .ok
      else pure .ok : Server cfg EspErr) w := by
  apply rests_bind (sendError_plain _ _) standing
  intro _ u _ standing
  apply rests_bind (P := fun _ _ => True) (.reads trivial) standing
  intro joined v _ standing
  apply Ends.ite
  · intro _
    exact rests_bind closeClient_plain standing (fun _ x _ standing => rests_pure _ standing)
  · intro _
    exact rests_pure _ standing

end handlers

end EspWebChat.SettledPresence
