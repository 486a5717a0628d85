import EspWebChat.FrameReadings
import EspWebChat.RecoveryBoundary
import EspWebChat.ResumableFeeds

set_option autoImplicit false

/-!
# What reaches one connection

A joined connection gets every message that is stored, in the order of the ids, or is closed.
`Serves` says so of any part of an event; parts that store nothing and do not join the
connection are `beside` it.
-/
namespace EspWebChat.ConnectionFeeds
open Relation JsonTree CircularBuffer ClientSlots Interruptible ServerWorld MessageIdStore Sessions History
open JsonGate Protocol WebSocketServer ServerSteps SlotSteps SessionSteps HistorySteps TargetFields ProtocolSteps
open NodeSteps MessageIds SlotInvariant Deliveries RecoveryBoundary FrameReadings ResumableFeeds

variable {cfg : Config} {w u v : World cfg} {fd : Option ℤ} {f : ℤ} {a : Action}

def arrival (fd : Option ℤ) : TraceEvent → Option Json
  | .sent d => if fd = some d.fd ∧ d.delivered = true then some d.payload else none
  | _ => none

/-- The frames that have reached the connection, oldest first. -/
def arrivals (fd : Option ℤ) (events : List TraceEvent) : List Json := events.filterMap (arrival fd)

theorem arrivals_append (fd : Option ℤ) (events more : List TraceEvent) :
    arrivals fd (events ++ more) = arrivals fd events ++ arrivals fd more :=
  List.filterMap_append ..

theorem mem_arrivals {p : Json} {events : List TraceEvent} :
    p ∈ arrivals fd events ↔ ∃ d, .sent d ∈ events ∧ fd = some d.fd ∧ d.delivered = true ∧ d.payload = p := by
  unfold arrivals
  rw [List.mem_filterMap]
  constructor
  · intro h
    obtain ⟨e, he, found⟩ := h
    cases e with
    | sent d =>
      unfold arrival at found
      dsimp only at found
      split_ifs at found with reaches
      exact ⟨d, he, reaches.1, reaches.2, Option.some.inj found⟩
    | _ => cases found
  · intro h
    obtain ⟨d, hd, goes, delivered, payload⟩ := h
    exact ⟨_, hd, by rw [arrival, if_pos ⟨goes, delivered⟩, payload]⟩

def since (w u : World cfg) : List TraceEvent := u.trace.drop w.trace.length

theorem since_eq {new : List TraceEvent} (h : u.trace = w.trace ++ new) : since w u = new := by
  unfold since
  rw [h, List.drop_left]

def Hears (fd : Option ℤ) (w : World cfg) : Prop :=
  ∃ i, receives (w.ctx.clientSlots i) = true ∧ fd = some (w.ctx.clientSlots i).fd

theorem Hears.descriptor (h : Hears fd w) : ∃ f, fd = some f := by
  obtain ⟨i, -, goes⟩ := h
  exact ⟨_, goes⟩

/-- A slot that receives did so before, for the same descriptor. -/
def Quieter (s s' : ClientSlot) : Prop := receives s' = true → receives s = true ∧ s'.fd = s.fd

theorem quieter_self (s : ClientSlot) : Quieter s s := fun h => ⟨h, rfl⟩

theorem quieter_closing {s : ClientSlot} (active : s.active = true) : Quieter s (markSlotClosing s).2 := by
  intro h
  rw [markSlotClosing_of_active active] at h
  simp [receives] at h

theorem ensureSlot_quieter (now : ℤ) {n : ℕ} (t : SlotTable n) (f : ℤ) (i : Fin n) :
    Quieter (t i) ((ensureSlot now t f).2 i) := by
  rcases ensureSlot_slot now t f i with same | ⟨-, same⟩ | ⟨-, -, same⟩
  · rw [same]
    exact quieter_self _
  · rw [same]
    exact fun h => ⟨h, rfl⟩
  · rw [same, Function.update_self]
    intro h
    simp [receives, freshSlot] at h

theorem sweepSlot_quieter (interval now : ℤ) (delayed : Bool) (s : ClientSlot) :
    Quieter s (sweepSlot interval now delayed s).slot := by
  obtain ⟨alive, registered, ping, same | ⟨active, -, same⟩⟩ := sweepSlot_slot interval now delayed s
  · rw [same]
    exact fun h => ⟨h, rfl⟩
  · rw [same]
    exact quieter_closing (s := clocked alive registered ping s) active

theorem quieter_act (other : ∀ now f userId name, a ≠ .bind now f userId name) (u : World cfg) (i : Fin cfg.maxClients) :
    Quieter (u.ctx.clientSlots i) ((act a u).ctx.clientSlots i) := by
  cases a with
  | register now f => exact ensureSlot_quieter now u.ctx.clientSlots f i
  | bind now f userId name => exact absurd rfl (other now f userId name)
  | sample f offset =>
    change Quieter _ (updateTimeSample u.ctx.clientSlots f offset i)
    rcases updateTimeSample_slot u.ctx.clientSlots f offset i with same | ⟨-, same⟩
    · rw [same]
      exact quieter_self _
    · rw [same]
      exact fun h => ⟨h, rfl⟩
  | alive f =>
    change Quieter _ (markAlive u.ctx.clientSlots f i)
    rcases markAlive_slot u.ctx.clientSlots f i with same | ⟨-, same⟩
    · rw [same]
      exact quieter_self _
    · rw [same]
      exact fun h => ⟨h, rfl⟩
  | closing f =>
    change Quieter _ (if holdsFd f (u.ctx.clientSlots i) then _ else _)
    split_ifs with holds
    · exact quieter_closing (holdsFd_iff.mp holds).1
    · exact quieter_self _
  | free f =>
    change Quieter _ (if holdsFd f (u.ctx.clientSlots i) then _ else _)
    split_ifs
    · intro h
      simp [receives, clearSlotIdentity] at h
    · exact quieter_self _
  | sweep now delayed => exact sweepSlot_quieter cfg.heartbeatIntervalS now delayed _
  | _ => exact quieter_self _

theorem hears_act (other : ∀ now f userId name, a = .bind now f userId name → fd ≠ some f) (h : Hears fd (act a u)) :
    Hears fd u := by
  obtain ⟨i, receiving, goes⟩ := h
  by_cases binds : ∃ now f userId name, a = .bind now f userId name
  · obtain ⟨now, f, userId, name, rfl⟩ := binds
    have foreign := other now f userId name rfl
    cases hb : bindIdentity now u.ctx.clientSlots f userId name with
    | none =>
      simp only [act, bindSlots, hb] at receiving goes
      exact ⟨i, receiving, goes⟩
    | some b =>
      obtain ⟨target, bound⟩ := bindIdentity_bound hb
      simp only [act, bindSlots, hb] at receiving goes
      change receives (b.slots i) = true at receiving
      change fd = some (b.slots i).fd at goes
      by_cases own : i = target
      · subst own
        rw [bound.bound] at goes
        exact absurd goes foreign
      · rcases bound.others i own with ⟨same, -⟩ | ⟨active, -, -, same⟩
        · rw [same] at receiving goes
          exact ⟨i, receiving, goes⟩
        · rw [same] at receiving
          have dead := quieter_closing active receiving
          rw [markSlotClosing_of_active active] at receiving
          simp [receives] at receiving
  · push Not at binds
    obtain ⟨before, same⟩ := quieter_act binds u i receiving
    exact ⟨i, before, by rw [goes, same]⟩

theorem hears_closing (f : ℤ) (w : World cfg) : ¬Hears (some f) (act (.closing f) w) := by
  intro h
  obtain ⟨i, receiving, goes⟩ := h
  change receives (if holdsFd f (w.ctx.clientSlots i) then _ else _) = true at receiving
  change some f = some (if holdsFd f (w.ctx.clientSlots i) then _ else _ : ClientSlot).fd at goes
  split_ifs at receiving goes with holds
  · rw [markSlotClosing_of_active (holdsFd_iff.mp holds).1] at receiving
    simp [receives] at receiving
  · simp only [receives, Bool.and_eq_true] at receiving
    exact holds (holdsFd_iff.mpr ⟨receiving.1.1, (Option.some.inj goes).symm⟩)

theorem mem_receiverFds : f ∈ receiverFds w.ctx.clientSlots ↔ Hears (some f) w := by
  unfold receiverFds Hears
  rw [List.mem_filterMap]
  constructor
  · intro h
    obtain ⟨i, -, hi⟩ := h
    split_ifs at hi with receiving
    exact ⟨i, receiving, by rw [hi]⟩
  · intro h
    obtain ⟨i, receiving, goes⟩ := h
    exact ⟨i, List.mem_finRange i, by rw [if_pos receiving, goes]⟩

/-- What all runs keep of the ids and the ring. -/
structure Lawful (w : World cfg) : Prop where
  ids : IdInvariant w
  ring : RingInvariant w
  chat : RingOfChat w

theorem Lawful.act (h : Lawful u) (permitted : chatSteps cfg u a) : Lawful (act a u) :=
  ⟨h.ids.act (idSteps_of_chatSteps u a permitted), h.ring.act permitted, ringOfChat_act h.chat permitted⟩

/-- Nothing is stored, and what goes to the connection is beside the messages. -/
structure tends (cfg : Config) (fd : Option ℤ) (u : World cfg) (a : Action) : Prop where
  permitted : chatSteps cfg u a
  stores : ∀ m, a ≠ .store m
  sends : ∀ d, a = .send d → fd = some d.fd → Aside d.payload

structure beside (cfg : Config) (fd : Option ℤ) (u : World cfg) (a : Action) : Prop extends tends cfg fd u a where
  binds : ∀ now f userId name, a = .bind now f userId name → fd ≠ some f

theorem beside_quiet (quiet : Quiet a) (sends : ∀ d, a = .send d → fd = some d.fd → Aside d.payload)
    (other : ∀ now f userId name, a ≠ .bind now f userId name) : beside cfg fd u a :=
  ⟨⟨.inl ⟨quiet, fun now f userId name binds => absurd binds (other now f userId name)⟩,
    fun m stores => by rw [stores] at quiet; exact quiet, sends⟩,
    fun now f userId name binds => absurd binds (other now f userId name)⟩

theorem beside_asides (h : asides cfg u a) : beside cfg fd u a := by
  obtain ⟨f, rfl⟩ | ⟨d, rfl, aside⟩ := h
  · exact beside_quiet trivial (by simp) (by simp)
  · apply beside_quiet (a := .send d) trivial _ (by simp)
    intro d' same _
    obtain rfl := Action.send.inj same
    exact aside

theorem beside_answers (foreign : fd ≠ some f) (h : answers cfg f u a) : beside cfg fd u a := by
  obtain ⟨d, rfl, goes, -⟩ := h
  apply beside_quiet (a := .send d) trivial _ (by simp)
  intro d' same here
  obtain rfl := Action.send.inj same
  exact absurd (goes ▸ here) foreign

theorem beside_replays (foreign : fd ≠ some f) (h : replays cfg f u a) : beside cfg fd u a := by
  obtain answer | rfl | ⟨i, m, delivered, -, rfl⟩ := h
  · exact beside_answers foreign answer
  · exact beside_quiet trivial (by simp) (by simp)
  · apply beside_quiet (a := .send _) trivial _ (by simp)
    intro d' same here
    obtain rfl := Action.send.inj same
    exact absurd here foreign

theorem beside_retries (h : retries cfg u a) : beside cfg fd u a := by
  refine ⟨⟨.inr (.inr (.inl h)), ?_, ?_⟩, ?_⟩
  all_goals
    obtain ⟨-, ⟨n, rfl, -⟩ | rfl⟩ := h
    · simp
    · simp

def Logged (w : World cfg) (missed : List ℕ) (m : Message) : Prop := .stored m ∈ w.trace ∧ m.id ∉ missed

/-- A connection that has joined behind `n` was given `frames` of the log in order, and all of it
    as long as it hears the broadcasts of a live server. -/
def Fed (fd : Option ℤ) (missed : List ℕ) (n : ℕ) (frames : List Json) (live : Prop) (w : World cfg) : Prop :=
  ∃ k, Feed Message.id Message.payload Aside (Logged w missed) n frames k ∧
    (live → Hears fd w → Complete Message.id (Logged w missed) k)

/-- What happens between `w` and `u` feeds the connection. -/
structure Serves (fd : Option ℤ) (before after : Prop) (w u : World cfg) : Prop where
  grown : ∃ new, u.trace = w.trace ++ new
  feeds : ∀ missed n frames, (∀ id ∈ missed, id ∈ storedIds w.trace) → Fed fd missed n frames before w →
    Fed fd missed n (frames ++ arrivals fd (since w u)) after u
  still : ¬Hears fd w → ¬Hears fd u ∧ ∀ p ∈ arrivals fd (since w u), Aside p

theorem Fed.mono {missed : List ℕ} {n : ℕ} {frames : List Json} {live live' : Prop} (h : Fed fd missed n frames live w)
    (less : live' → live) : Fed fd missed n frames live' w := by
  obtain ⟨k, feed, complete⟩ := h
  exact ⟨k, feed, fun holds => complete (less holds)⟩

theorem Serves.mono {before before' after after' : Prop} (h : Serves fd before after w u) (more : before → before')
    (less : after' → after) : Serves fd before' after' w u :=
  ⟨h.grown, fun missed n frames ids fed => (h.feeds missed n frames ids (fed.mono more)).mono less, h.still⟩

theorem serves_self (live : Prop) : Serves fd live live w w := by
  have nothing : since w w = [] := since_eq (List.append_nil w.trace).symm
  refine ⟨⟨[], (List.append_nil _).symm⟩, ?_, ?_⟩
  · intro missed n frames _ fed
    rw [nothing]
    exact (List.append_nil frames).symm ▸ fed
  · intro unheard
    rw [nothing]
    exact ⟨unheard, fun p hp => absurd hp List.not_mem_nil⟩

theorem storedIds_grown {new : List TraceEvent} {id : ℕ} (grown : u.trace = w.trace ++ new)
    (h : id ∈ storedIds w.trace) : id ∈ storedIds u.trace := by
  rw [grown, storedIds_append]
  exact List.mem_append_left _ h

theorem Serves.trans {before between after : Prop} (h : Serves fd before between w v) (h' : Serves fd between after v u) :
    Serves fd before after w u := by
  obtain ⟨new, grown⟩ := h.grown
  obtain ⟨more, grown'⟩ := h'.grown
  have whole : u.trace = w.trace ++ (new ++ more) := by rw [grown', grown, List.append_assoc]
  have arrived : arrivals fd (since w u) = arrivals fd (since w v) ++ arrivals fd (since v u) := by
    rw [since_eq whole, since_eq grown, since_eq grown', arrivals_append]
  rw [← List.append_assoc] at whole
  refine ⟨⟨new ++ more, by rw [whole, List.append_assoc]⟩, ?_, ?_⟩
  · intro missed n frames ids fed
    have first := h.feeds missed n frames ids fed
    have both := h'.feeds missed n _ (fun id hid => storedIds_grown grown (ids id hid)) first
    rw [List.append_assoc] at both
    rw [arrived]
    exact both
  · intro unheard
    obtain ⟨between, first⟩ := h.still unheard
    obtain ⟨later, second⟩ := h'.still between
    refine ⟨later, ?_⟩
    intro p hp
    rw [arrived] at hp
    cases List.mem_append.mp hp with
    | inl old => exact first p old
    | inr here => exact second p here

theorem serves_asides {live live' : Prop} {new : List TraceEvent} (grown : u.trace = w.trace ++ new)
    (silent : ∀ m, .stored m ∉ new) (aside : ∀ p ∈ arrivals fd new, Aside p)
    (hears : Hears fd u → Hears fd w) (lives : live' → Hears fd u → live) : Serves fd live live' w u := by
  refine ⟨⟨new, grown⟩, ?_, fun unheard => ⟨fun later => unheard (hears later), by rw [since_eq grown]; exact aside⟩⟩
  intro missed n frames _ fed
  obtain ⟨k, feed, complete⟩ := fed
  have same : ∀ m, Logged u missed m ↔ Logged w missed m := by
    intro m
    unfold Logged
    rw [grown, List.mem_append]
    have absent := silent m
    tauto
  refine ⟨k, ?_, ?_⟩
  · rw [since_eq grown]
    apply Feed.append (k := k)
    · exact feed.grow (fun m logged => (same m).mpr logged) (fun m logged => .inl ((same m).mp logged))
    · exact feed_asides k aside
  · intro on later m logged
    exact complete (lives on later) (hears later) m ((same m).mp logged)

theorem beside_serves (h : beside cfg fd u a) : Serves fd True True u (act a u) := by
  obtain ⟨new, grown, sent, stored, -⟩ := act_events a u
  apply serves_asides grown
  · intro m hm
    exact h.stores m (stored m hm)
  · intro p hp
    obtain ⟨d, hd, goes, -, rfl⟩ := mem_arrivals.mp hp
    exact h.sends d (sent d hd) goes
  · exact hears_act h.binds
  · exact fun _ _ => trivial

section parts
variable {α β : Type} {m : Server cfg α} {k : α → Server cfg β} {P : α → World cfg → Prop}

/-- How a part ends that feeds the connection. -/
def Feeds (fd : Option ℤ) (m : Server cfg α) (w : World cfg) : Prop :=
  Ends m w (fun r u => Serves fd True (r.isSome = true) w u)

theorem ends_beside (h : Traces (Steps (beside cfg fd)) m w P) (lawful : Lawful w) :
    Ends m w (fun r u => (Lawful u ∧ Serves fd True True w u) ∧ ∀ x, r = some x → P x u) := by
  apply h.ends (fun u => Lawful u ∧ Serves fd True True w u) ⟨lawful, serves_self True⟩
  intro u v both step
  obtain ⟨a, permitted, rfl⟩ := step
  exact ⟨both.1.act permitted.permitted, both.2.trans (beside_serves permitted)⟩

theorem feeds_beside (h : Traces (Steps (beside cfg fd)) m w P) (lawful : Lawful w) : Feeds fd m w :=
  (ends_beside h lawful).post (fun _ _ both => both.1.2.mono id (fun _ => trivial))

theorem feeds_then (h : Traces (Steps (beside cfg fd)) m w P) (lawful : Lawful w)
    (next : ∀ x u, Lawful u → P x u → Feeds fd (k x) u) : Feeds fd (m >>= k) w := by
  apply (ends_beside h lawful).bind
  · intro u both
    exact both.1.2.mono id (fun _ => trivial)
  · intro x u both
    apply (next x u both.1.1 (both.2 x rfl)).post
    intro r v served
    exact both.1.2.trans served

end parts

theorem chatSteps_store {m : Message} (h : chatSteps cfg u (.store m)) :
    u.ctx.messageIdCounterValid = true ∧ m.id = u.ctx.messageIdCounter + 1 ∧
      ∃ root timestamp, IsChat root ∧ m.payload = cfg.printer.printed (finalized root m.id timestamp) := by
  obtain ⟨quiet, -⟩ | ⟨-, unloaded⟩ | ⟨-, ⟨n, writes, -⟩ | load⟩ |
    ⟨root, chat, ⟨-, ⟨n, writes, -⟩ | load⟩ | ⟨valid, -, ⟨n, writes, -⟩ | ⟨m', timestamp, same, id, payload, -⟩⟩⟩ := h
  · cases quiet
  · cases unloaded
  · cases writes
  · cases load
  · cases writes
  · cases load
  · cases writes
  · obtain rfl := Action.store.inj same
    exact ⟨valid, id, root, timestamp, chat, payload⟩

/-- What a call leaves: nothing was stored, or a message, and that last. -/
inductive Finalized (fd : Option ℤ) (w : World cfg) : Option (EspErr × Option Json) → World cfg → Prop
  | failed {r : Option (EspErr × Option Json)} {u : World cfg} (empty : ∀ x, r = some x → x.2 = none) (lawful : Lawful u)
      (served : Serves fd True True w u) : Finalized fd w r u
  | stored {m : Message} {v : World cfg} (lawful : Lawful v) (served : Serves fd True True w v)
      (permitted : chatSteps cfg v (.store m)) : Finalized fd w (some (.ok, some m.payload)) (act (.store m) v)

theorem chatHistoryFinalizeAndStoreMessage_ends {root : Json} (chat : IsChat root) (lawful : Lawful w) :
    Ends (chatHistoryFinalizeAndStoreMessage root) w (Finalized fd w) := by
  have refuse : ∀ {ret : EspErr} {u : World cfg}, Lawful u → Serves fd True True w u →
      Ends (pure (ret, none) : Server cfg (EspErr × Option Json)) u (Finalized fd w) := by
    intro ret u lawful served
    refine .pure (.failed ?_ lawful served)
    intro x hx
    obtain rfl := Option.some.inj hx
    rfl
  have cut : ∀ {u : World cfg}, Lawful u → Serves fd True True w u → Finalized fd w none u :=
    fun lawful served => .failed (fun _ e => absurd e.symm (Option.some_ne_none _)) lawful served
  have loads : Traces (Steps (beside cfg fd)) ensureIdStateLocked w _ :=
    permitsAll ensureIdStateLocked_spec (fun _ _ => beside_retries)
  apply (ends_beside loads lawful).bind
  · intro u both
    exact cut both.1.1 both.1.2
  · intro ret u both
    obtain ⟨⟨lawful, served⟩, ready⟩ := both
    apply Ends.ite (fun _ => refuse lawful served)
    intro ok
    have valid := (ready ret rfl).2.1 (not_not.mp ok)
    apply ends_silent (P := fun ctx x => ctx = x.ctx) (.reads rfl) (cut lawful served)
    intro ctx same
    subst same
    apply Ends.ite (fun _ => refuse lawful served)
    intro room
    apply ends_silent currentTimestampS_int64 (cut lawful served)
    intro timestamp bounded
    apply ends_silent allocates_spec (cut lawful served)
    intro idAdded _
    apply ends_silent (P := fun _ x => x = u) (.ite (fun _ => allocates_spec) (fun _ => .pure rfl)) (cut lawful served)
    intro timestampAdded _
    apply Ends.ite (fun _ => refuse lawful served)
    intro _
    apply ends_silent printUnformatted_spec (cut lawful served)
    intro printed made
    cases printed with
    | none => exact refuse lawful served
    | some payload =>
      have writing : ∀ (x : World cfg) (a : Action), x.ctx = u.ctx → persists cfg (u.ctx.messageIdCounter + 1) x a →
          beside cfg fd x a := by
        intro x a same writes
        obtain ⟨n, rfl, wrote⟩ := writes
        refine ⟨⟨.inr (.inr (.inr ⟨root, chat, .inr ⟨?_, ?_, .inl ⟨n, rfl, ?_⟩⟩⟩)), by simp, by simp⟩, by simp⟩
        · rw [same]
          exact valid
        · rw [same]
          omega
        · rw [same]
          exact wrote
      have persisted := permits (chatMessageIdsPersist_spec (w := u) (u.ctx.messageIdCounter + 1) u.ctx.bootStartId)
        (fun x => x.ctx = u.ctx) rfl (by
          intro x a same writes
          obtain ⟨n, rfl, -⟩ := writes
          exact same) writing
      apply (ends_beside persisted lawful).bind
      · intro x both
        exact cut both.1.1 (served.trans both.1.2)
      · intro ret x both
        obtain ⟨⟨lawful', served'⟩, wrote⟩ := both
        have done := wrote ret rfl
        obtain ⟨n, rfl⟩ := done.frame
        apply Ends.ite (fun _ => refuse lawful' (served.trans served'))
        intro ok
        obtain ⟨cached, flash⟩ := done.done (not_not.mp ok)
        have permitted : chatSteps cfg { u with nvs := n } (.store ⟨payload, u.ctx.messageIdCounter + 1⟩) := by
          refine .inr (.inr (.inr ⟨root, chat, .inr ⟨valid, ?_, .inr ⟨_, timestamp, rfl, rfl, made.2 payload rfl, cached, flash,
            bounded.2⟩⟩⟩))
          change u.ctx.messageIdCounter < chatMessageMaxSafeId
          omega
        exact ⟨fun env => .stored lawful' (served.trans served') permitted⟩

section broadcast
variable {payload : Json} {fds : List ℤ}

theorem chatWsCloseClient_closes {P : Permission cfg} (positive : 0 ≤ f) (permit : P w (.closing f)) :
    Traces (Steps P) (chatWsCloseClient f) w (fun _ u => u = act (.closing f) w) := by
  unfold chatWsCloseClient
  rw [if_neg (by omega)]
  apply (chatSessionsMarkClosing_spec permit).bind
  intro _ u _ closed
  exact .pure closed.2

/-- The payload has reached the client, unless it is no longer there. -/
def Gets (f : ℤ) (payload : Json) (w u : World cfg) : Prop :=
  Hears (some f) u → ∃ new, u.trace = w.trace ++ new ∧ .sent ⟨f, payload, true⟩ ∈ new

theorem spreads_other (h : spreads cfg payload fds u a) : ∀ now f userId name, a ≠ .bind now f userId name := by
  obtain ⟨g, -, rfl | ⟨delivered, rfl⟩⟩ := h <;> simp

theorem gets_act (h : Gets f payload w u) (spread : spreads cfg payload fds u a) :
    Gets f payload w (act a u) := by
  intro hears
  obtain ⟨new, grown, sent⟩ := h (hears_act (fun now f userId name binds => absurd binds (spreads_other spread now f userId name)) hears)
  obtain ⟨more, grown'⟩ := act_trace a u
  exact ⟨new ++ more, by rw [grown', grown, List.append_assoc], List.mem_append_left _ sent⟩

theorem sendToAll_keeps {w₀ : World cfg} (h : Gets f payload w₀ w) :
    Traces (Steps (spreads cfg payload fds)) (sendToAll payload fds) w (fun _ u => Gets f payload w₀ u) :=
  (sendToAll_spec fds).keeping _ h (fun u v gets step => by
    obtain ⟨a, spread, rfl⟩ := step
    exact gets_act gets spread)

theorem gets_from (path : ReflTransGen (Steps (spreads cfg payload fds)) w v) (h : Gets f payload v u) :
    Gets f payload w u := by
  intro hears
  obtain ⟨new, grown, sent⟩ := h hears
  obtain ⟨before, grown'⟩ := steps_trace path
  exact ⟨before ++ new, by rw [grown, grown', List.append_assoc], List.mem_append_right _ sent⟩

theorem sendToAll_gets (positive : 0 ≤ f) (listed : f ∈ fds) :
    Traces (Steps (spreads cfg payload fds)) (sendToAll payload fds) w (fun _ u => Gets f payload w u) := by
  induction fds generalizing w with
  | nil => cases listed
  | cons g gs ih =>
    have wide : ∀ (u : World cfg) (a : Action), spreads cfg payload gs u a → spreads cfg payload (g :: gs) u a := by
      intro u a spread
      obtain ⟨fd, hfd, may⟩ := spread
      exact ⟨fd, List.mem_cons_of_mem g hfd, may⟩
    -- Once the head of the list is settled, the rest is sent to in a later world.
    have rest : ∀ u : World cfg, ReflTransGen (Steps (spreads cfg payload (g :: gs))) w u →
        (g = f → Gets f payload w u) →
        Traces (Steps (spreads cfg payload (g :: gs))) (sendToAll payload gs) u (fun _ v => Gets f payload w v) := by
      intro u path settled
      by_cases head : g = f
      · exact permitsAll (sendToAll_keeps (settled head)) wide
      · have later : f ∈ gs := (List.mem_cons.mp listed).resolve_left (fun e => head e.symm)
        exact (permitsAll (ih later) wide).post (fun _ v _ gets => gets_from path gets)
    apply (chatWsSendText_spec (fun b => ⟨g, List.mem_cons_self, .inr ⟨b, rfl⟩⟩)).bind
    intro ret u path sent
    apply Traces.ite
    · intro ok
      apply rest u path
      intro head _
      obtain ⟨-, rfl⟩ | ⟨error, -⟩ := sent
      · exact ⟨[.sent ⟨g, payload, true⟩], rfl, by rw [head]; exact List.mem_singleton_self _⟩
      · exact absurd ok error
    · intro _
      apply Traces.bind (P := fun _ v => g = f → v = act (.closing f) u)
      · by_cases head : g = f
        · subst head
          exact (chatWsCloseClient_closes positive ⟨g, List.mem_cons_self, .inl rfl⟩).post (fun _ _ _ closed _ => closed)
        · exact (chatWsCloseClient_spec ⟨g, List.mem_cons_self, .inl rfl⟩).post (fun _ _ _ _ same => absurd same head)
      · intro _ v closing closed
        apply (rest v (path.trans closing) _).bind
        · intro _ x _ gets
          exact .pure gets
        · intro head hears
          rw [closed head] at hears
          exact absurd hears (hears_closing f u)

structure Spread (fd : Option ℤ) (payload : Json) (w u : World cfg) (new : List TraceEvent) : Prop where
  grown : u.trace = w.trace ++ new
  silent : ∀ m, .stored m ∉ new
  same : ∀ p ∈ arrivals fd new, p = payload ∧ Hears fd w
  hears : Hears fd u → Hears fd w

theorem Spread.act {new : List TraceEvent} (h : Spread fd payload w u new)
    (spread : spreads cfg payload (receiverFds w.ctx.clientSlots) u a) : ∃ new', Spread fd payload w (act a u) new' := by
  obtain ⟨more, grown, sent, stored, -⟩ := act_events a u
  refine ⟨new ++ more, by rw [grown, h.grown, List.append_assoc], ?_, ?_, ?_⟩
  · intro m hm
    cases List.mem_append.mp hm with
    | inl old => exact h.silent m old
    | inr here =>
      have stores := stored m here
      subst stores
      obtain ⟨g, -, e | ⟨delivered, e⟩⟩ := spread <;> cases e
  · intro p hp
    rw [arrivals_append] at hp
    cases List.mem_append.mp hp with
    | inl old => exact h.same p old
    | inr here =>
      obtain ⟨d, hd, goes, -, rfl⟩ := mem_arrivals.mp here
      have sends := sent d hd
      subst sends
      obtain ⟨g, receiver, e | ⟨delivered, e⟩⟩ := spread
      · cases e
      · cases e
        exact ⟨rfl, goes ▸ mem_receiverFds.mp receiver⟩
  · intro hears
    apply h.hears
    exact hears_act (fun now f userId name binds => absurd binds (spreads_other spread now f userId name)) hears

theorem chatWsBroadcast_ends (positive : ∀ f ∈ fd, 0 ≤ f) : Ends (chatWsBroadcast payload) w (fun r u =>
    ∃ new, Spread fd payload w u new ∧ (r.isSome = true → Hears fd u → arrivals fd new ≠ [])) := by
  have spec : Traces (Steps (spreads cfg payload (receiverFds w.ctx.clientSlots))) (chatWsBroadcast payload) w
      (fun _ u => ∀ f ∈ fd, Hears fd w → Gets f payload w u) := by
    apply slots_spec.bind
    intro table u _ hu
    obtain ⟨rfl, rfl⟩ := hu
    cases fd with
    | none => exact (sendToAll_spec _).post (fun _ _ _ _ f hf => absurd hf (Option.not_mem_none f))
    | some f =>
      by_cases hears : Hears (some f) u
      · apply (sendToAll_gets (positive f rfl) (mem_receiverFds.mpr hears)).post
        intro _ v _ gets g hg _
        obtain rfl := Option.some.inj hg
        exact gets
      · exact (sendToAll_spec _).post (fun _ _ _ _ _ _ heard => absurd heard hears)
  have nothing : Spread fd payload w w [] :=
    ⟨(List.append_nil _).symm, fun _ => List.not_mem_nil, fun _ hp => absurd hp List.not_mem_nil, id⟩
  apply (spec.ends (fun u => ∃ new, Spread fd payload w u new) ⟨[], nothing⟩ _).post
  · intro r u both
    obtain ⟨⟨new, spread⟩, post⟩ := both
    refine ⟨new, spread, ?_⟩
    intro returned hears empty
    obtain ⟨x, hx⟩ := Option.isSome_iff_exists.mp returned
    obtain ⟨f, rfl⟩ := hears.descriptor
    obtain ⟨new', grown, sent⟩ := post x hx f rfl (spread.hears hears) hears
    rw [spread.grown] at grown
    obtain rfl := List.append_cancel_left grown
    have arrived := mem_arrivals.mpr ⟨_, sent, rfl, rfl, rfl⟩
    rw [empty] at arrived
    cases arrived
  · intro u v spread step
    obtain ⟨new, spread⟩ := spread
    obtain ⟨a, permitted, rfl⟩ := step
    exact spread.act permitted

theorem Logged.grown {missed : List ℕ} {c : Message} {new : List TraceEvent} (h : Logged v missed c)
    (grown : u.trace = v.trace ++ new) : Logged u missed c := by
  refine ⟨?_, h.2⟩
  rw [grown]
  exact List.mem_append_left _ h.1

theorem Logged.split {missed : List ℕ} {c m : Message} {new : List TraceEvent} (h : Logged u missed c)
    (grown : u.trace = v.trace ++ (.stored m :: new)) (silent : ∀ c, .stored c ∉ new) : Logged v missed c ∨ c = m := by
  have stored := h.1
  rw [grown, List.mem_append] at stored
  cases stored with
  | inl old => exact .inl ⟨old, h.2⟩
  | inr later =>
    cases List.mem_cons.mp later with
    | inl same => exact .inr (TraceEvent.stored.inj same)
    | inr other => exact absurd other (silent c)

theorem stored_feeds {m : Message} (positive : ∀ f ∈ fd, 0 ≤ f) (lawful : Lawful v) (permitted : chatSteps cfg v (.store m)) :
    Ends (chatWsBroadcast m.payload) (act (.store m) v) (fun r u => Serves fd True (r.isSome = true) v u) := by
  apply (chatWsBroadcast_ends positive).post
  intro r u spread
  obtain ⟨new, spread, all⟩ := spread
  obtain ⟨valid, id, -⟩ := chatSteps_store permitted
  have grown : u.trace = v.trace ++ (.stored m :: new) := by
    rw [spread.grown]
    exact List.append_assoc v.trace [.stored m] new
  have newest : ∀ c, .stored c ∈ v.trace → c.id < m.id := by
    intro c stored
    have bound := lawful.ids.storedCounter valid c.id (stored_mem_ids stored)
    omega
  have arrived : arrivals fd (since v u) = arrivals fd new := by
    rw [since_eq grown]
    rfl
  refine ⟨⟨_, grown⟩, ?_, ?_⟩
  case refine_2 =>
    intro unheard
    rw [arrived]
    exact ⟨fun hears => unheard (spread.hears hears), fun p hp => absurd (spread.same p hp).2 unheard⟩
  intro missed n frames ids fed
  obtain ⟨k, feed, complete⟩ := fed
  have kept : ∀ c, Logged v missed c → Logged u missed c := fun c logged => logged.grown grown
  have split : ∀ c, Logged u missed c → Logged v missed c ∨ c = m := fun c logged => logged.split grown spread.silent
  have logged : Logged u missed m := by
    refine ⟨?_, ?_⟩
    · rw [grown]
      exact List.mem_append_right _ List.mem_cons_self
    · intro known
      obtain ⟨c, stored, same⟩ := List.mem_map.mp (ids m.id known)
      have lower := newest c (mem_storedMessages.mp stored)
      omega
  have whole : Hears fd (act (.store m) v) → ∀ c, Logged u missed c → c.id ≤ k ∨ c = m := by
    intro hears c has
    exact (split c has).imp_left (complete trivial hears c)
  have broadcast : ∃ l, Feed Message.id Message.payload Aside (Logged u missed) k (arrivals fd new) l ∧
      (arrivals fd new ≠ [] → m.id ≤ l) := by
    apply feed_same k logged
    · intro some_frame c has behind
      obtain ⟨p, hp⟩ := List.exists_mem_of_ne_nil _ some_frame
      cases whole (spread.same p hp).2 c has with
      | inl before => omega
      | inr same => rw [same]
    · intro p hp
      exact (spread.same p hp).1
  obtain ⟨l, last, passed⟩ := broadcast
  refine ⟨l, ?_, ?_⟩
  · rw [arrived]
    apply Feed.append _ last
    apply feed.grow kept
    intro c has
    cases split c has with
    | inl old => exact .inl old
    | inr same =>
      subst same
      exact .inr (fun a old => newest a old.1)
  · intro returned hears c has
    have behind := last.le
    have reached := passed (all returned hears)
    cases whole (spread.hears hears) c has with
    | inl before => omega
    | inr same =>
      rw [same]
      exact reached

end broadcast

section chat
variable {root : Json} {α : Type} {m : Server cfg α} {P : α → World cfg → Prop}

theorem aside_beside (h : Traces (Steps (asides cfg)) m w P) : Traces (Steps (beside cfg fd)) m w P :=
  permitsAll h (fun _ _ => beside_asides)

theorem spread_lawful {payload : Json} {fds : List ℤ} (lawful : Lawful u) (h : spreads cfg payload fds u a) :
    Lawful (act a u) := by
  apply lawful.act
  obtain ⟨g, -, rfl | ⟨delivered, rfl⟩⟩ := h
  · exact .inl ⟨trivial, by simp⟩
  · exact .inl ⟨trivial, by simp⟩

theorem publishMessage_feeds (positive : ∀ f ∈ fd, 0 ≤ f) (chat : IsChat root) (lawful : Lawful w) :
    Feeds fd (publishMessage f root) w := by
  apply (chatHistoryFinalizeAndStoreMessage_ends chat lawful).bind
  · intro u finalized
    cases finalized with
    | failed _ _ served => exact served.mono id (fun _ => trivial)
  · intro x u finalized
    cases finalized with
    | @failed r u empty lawful served =>
      have refused : x.2 = none := empty x rfl
      obtain ⟨ret, stored⟩ := x
      obtain rfl : stored = none := refused
      have answer : Feeds fd (if ret = .invalidSize then chatWsSendError f "id_exhausted" "Message id space is exhausted"
          else chatWsSendError f "server_busy" "Unable to persist message id") u := by
        apply feeds_beside (P := fun _ _ => True) _ lawful
        exact .ite (fun _ => aside_beside (chatWsSendError_aside _ (by decide)))
          (fun _ => aside_beside (chatWsSendError_aside _ (by decide)))
      exact answer.post (fun _ _ rest => served.trans rest)
    | @stored m v lawful served permitted =>
      have after : Lawful (act (.store m) v) := lawful.act permitted
      have both : Ends (chatWsBroadcast m.payload) (act (.store m) v) (fun r u =>
          Lawful u ∧ Serves fd True (r.isSome = true) v u) := by
        constructor
        intro env
        refine ⟨?_, (stored_feeds positive lawful permitted).run env⟩
        exact chatWsBroadcast_spec.invariant Lawful (fun u v lawful step => by
          obtain ⟨a, spread, rfl⟩ := step
          exact spread_lawful lawful spread) after env
      apply both.bind
      · intro u both
        exact served.trans both.2
      · intro closed u both
        have rest : Feeds fd (do
            let closedToo ← chatHistoryBroadcastInfo
            if closed || closedToo then do
              let _ ← chatSessionsBroadcastOnlineUsers
              pure .ok
            else pure .ok : Server cfg EspErr) u := by
          apply feeds_then (aside_beside chatHistoryBroadcastInfo_aside) both.1
          intro closedToo v lawful _
          apply feeds_beside (P := fun _ _ => True) _ lawful
          apply Traces.ite (fun _ => _) (fun _ => .pure trivial)
          intro _
          apply (aside_beside chatSessionsBroadcastOnlineUsers_aside).bind
          intro _ x _ _
          exact .pure trivial
        apply rest.post
        intro r v later
        exact (served.trans both.2).trans (later.mono (fun _ => rfl) id)

end chat

end EspWebChat.ConnectionFeeds
