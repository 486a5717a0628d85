import EspWebChat.ReplayGaps
import EspWebChat.ServedEvents

set_option autoImplicit false

/-!
# The join of a connection

Between frames that are beside the messages a join replays what the ring holds above the
cursor, in order and without a gap; all of it, or the connection is closed.
-/
namespace EspWebChat.JoinReplays
open Relation JsonTree CircularBuffer ClientSlots Interruptible ServerWorld MessageIdStore Sessions History
open JsonGate Protocol WebSocketServer ServerSteps SlotSteps SessionSteps HistorySteps TargetFields ProtocolSteps
open NodeSteps MessageIds SlotInvariant Deliveries RecoveryBoundary FrameReadings ResumableFeeds ConnectionFeeds
open ServedEvents RingStore ReplayGaps

variable {cfg : Config} {w u v : World cfg} {f : ℤ} {n : ℕ} {a : Action} {root : Json} {ms : List Message}

theorem ring_act (stores : ∀ m, a ≠ .store m) (u : World cfg) : (act a u).ctx.messageBuffer = u.ctx.messageBuffer := by
  cases a with
  | store m => exact absurd rfl (stores m)
  | bind now f userId name =>
    cases hb : bindIdentity now u.ctx.clientSlots f userId name with
    | none => simp only [act, bindSlots, hb]
    | some b =>
      simp only [act, bindSlots, hb]
      rfl
  | _ => rfl

/-- What arrives is beside the messages, and the ring is as it was. -/
structure Tended (f : ℤ) (w u : World cfg) : Prop where
  lawful : Lawful u
  grown : ∃ new, u.trace = w.trace ++ new ∧ (∀ m, .stored m ∉ new) ∧ ∀ p ∈ arrivals (some f) new, Aside p
  ring : u.ctx.messageBuffer = w.ctx.messageBuffer

theorem tended_self (lawful : Lawful w) : Tended f w w :=
  ⟨lawful, ⟨[], (List.append_nil _).symm, fun _ => List.not_mem_nil, fun _ hp => absurd hp List.not_mem_nil⟩, rfl⟩

theorem Tended.act (h : Tended f w u) (permitted : tends cfg (some f) u a) : Tended f w (act a u) := by
  obtain ⟨new, grown, silent, aside⟩ := h.grown
  obtain ⟨more, grown', sent, stored, -⟩ := act_events a u
  refine ⟨h.lawful.act permitted.permitted, ⟨new ++ more, by rw [grown', grown, List.append_assoc], ?_, ?_⟩,
    (ring_act permitted.stores u).trans h.ring⟩
  · intro m hm
    cases List.mem_append.mp hm with
    | inl old => exact silent m old
    | inr here => exact permitted.stores m (stored m here)
  · intro p hp
    rw [arrivals_append] at hp
    cases List.mem_append.mp hp with
    | inl old => exact aside p old
    | inr here =>
      obtain ⟨d, hd, goes, -, rfl⟩ := mem_arrivals.mp here
      exact permitted.sends d (sent d hd) goes

section parts
variable {α β : Type} {m : Server cfg α} {k : α → Server cfg β} {P : α → World cfg → Prop}

theorem ends_tended (h : Traces (Steps (tends cfg (some f))) m w P) (lawful : Lawful w) :
    Ends m w (fun r u => Tended f w u ∧ ∀ x, r = some x → P x u) := by
  apply h.ends (Tended f w) (tended_self lawful)
  intro u v tended step
  obtain ⟨a, permitted, rfl⟩ := step
  exact tended.act permitted

theorem ends_unheard (h : Traces (Steps (beside cfg (some f))) m w P) (lawful : Lawful w) (unheard : ¬Hears (some f) w) :
    Ends m w (fun r u => (Tended f w u ∧ ¬Hears (some f) u) ∧ ∀ x, r = some x → P x u) := by
  apply h.ends (fun u => Tended f w u ∧ ¬Hears (some f) u) ⟨tended_self lawful, unheard⟩
  intro u v both step
  obtain ⟨a, permitted, rfl⟩ := step
  exact ⟨both.1.act permitted.totends, fun hears => both.2 (hears_act permitted.binds hears)⟩

/-- A join behind `n` has replayed `ms`; `live`: and that was all. -/
structure Joins (f : ℤ) (n : ℕ) (live : Prop) (w u : World cfg) (ms : List Message) : Prop where
  grown : ∃ new before after, u.trace = w.trace ++ new ∧ (∀ m, .stored m ∉ new) ∧
    arrivals (some f) new = before ++ (ms.map Message.payload ++ after) ∧ (∀ p ∈ before, Aside p) ∧ ∀ p ∈ after, Aside p
  ordered : ms.Pairwise (fun m m' => m.id < m'.id)
  held : ∀ m ∈ ms, Held w.ctx.messageBuffer m ∧ n < m.id
  whole : ∀ m, Held w.ctx.messageBuffer m → n < m.id → m ∈ ms ∨ ∀ m' ∈ ms, m'.id ≤ m.id
  complete : live → ∀ m, Held w.ctx.messageBuffer m → n < m.id → m ∈ ms

def Joining (f : ℤ) (n : ℕ) (m : Server cfg α) (w : World cfg) : Prop :=
  Ends m w (fun r u => ∃ ms, Joins f n (r.isSome = true ∧ Hears (some f) u) w u ms)

theorem joins_nothing {live : Prop} (tended : Tended f w u) (dead : ¬live) : Joins f n live w u [] := by
  obtain ⟨new, grown, silent, aside⟩ := tended.grown
  refine ⟨⟨new, arrivals (some f) new, [], grown, silent, (List.append_nil _).symm, aside, ?_⟩, .nil, ?_, ?_, ?_⟩
  · exact fun p hp => absurd hp List.not_mem_nil
  · exact fun m hm => absurd hm List.not_mem_nil
  · exact fun m _ _ => .inr (fun m' hm' => absurd hm' List.not_mem_nil)
  · exact fun lives => absurd lives dead

theorem Joins.after {live : Prop} (tended : Tended f w v) (h : Joins f n live v u ms) : Joins f n live w u ms := by
  obtain ⟨new, grown, silent, aside⟩ := tended.grown
  obtain ⟨more, before, after, grown', silent', arrived, first, last⟩ := h.grown
  have ring := tended.ring
  refine ⟨⟨new ++ more, arrivals (some f) new ++ before, after, ?_, ?_, ?_, ?_, last⟩, h.ordered, ?_, ?_, ?_⟩
  · rw [grown', grown, List.append_assoc]
  · intro m hm
    cases List.mem_append.mp hm with
    | inl old => exact silent m old
    | inr here => exact silent' m here
  · rw [arrivals_append, arrived, List.append_assoc]
  · intro p hp
    cases List.mem_append.mp hp with
    | inl old => exact aside p old
    | inr here => exact first p here
  · rw [← ring]
    exact h.held
  · rw [← ring]
    exact h.whole
  · rw [← ring]
    exact h.complete

theorem refused (h : Traces (Steps (beside cfg (some f))) m w P) (lawful : Lawful w) (unheard : ¬Hears (some f) w) :
    Joining f n m w :=
  (ends_unheard h lawful unheard).post (fun _ _ both => ⟨[], joins_nothing both.1.1 (fun live => both.1.2 live.2)⟩)

theorem joining_then (h : Traces (Steps (beside cfg (some f))) m w P) (lawful : Lawful w) (unheard : ¬Hears (some f) w)
    (next : ∀ x u, Lawful u → ¬Hears (some f) u → P x u → Joining f n (k x) u) : Joining f n (m >>= k) w := by
  apply (ends_unheard h lawful unheard).bind
  · intro u both
    exact ⟨[], joins_nothing both.1.1 (fun live => both.1.2 live.2)⟩
  · intro x u both
    obtain ⟨⟨tended, unheard⟩, post⟩ := both
    apply (next x u tended.lawful unheard (post x rfl)).post
    intro r v joins
    obtain ⟨ms, joins⟩ := joins
    exact ⟨ms, joins.after tended⟩

theorem joined_then (h : Traces (Steps (tends cfg (some f))) m w P) (lawful : Lawful w)
    (next : ∀ x u, Lawful u → P x u → Joining f n (k x) u) : Joining f n (m >>= k) w := by
  apply (ends_tended h lawful).bind
  · intro u both
    exact ⟨[], joins_nothing both.1 (fun live => absurd live.1 Bool.false_ne_true)⟩
  · intro x u both
    apply (next x u both.1.lawful (both.2 x rfl)).post
    intro r v joins
    obtain ⟨ms, joins⟩ := joins
    exact ⟨ms, joins.after both.1⟩

end parts

/-- Frames that are beside the messages, and messages the ring holds. -/
def feeding (cfg : Config) (f : ℤ) : Permission cfg := fun u a =>
  asides cfg u a ∨ ∃ m delivered, Held u.ctx.messageBuffer m ∧ a = .send ⟨f, m.payload, delivered⟩

theorem replayFrom_feeding (replayUntil iterations cursor : ℕ) :
    Traces (Steps (feeding cfg f)) (replayFrom f replayUntil iterations cursor) w (fun _ _ => True) := by
  induction iterations generalizing w cursor with
  | zero => exact .pure trivial
  | succ k ih =>
    apply Traces.ite
    · intro _
      apply Traces.bind (P := fun ring u => ring = w.ctx.messageBuffer ∧ u = w) (.reads ⟨rfl, rfl⟩)
      intro ring u _ h
      obtain ⟨rfl, rfl⟩ := h
      cases next : nextReplay u.ctx.messageBuffer cursor replayUntil with
      | none => exact .pure trivial
      | some m =>
        apply allocates_spec.bind
        intro copied v _ hv
        subst hv
        apply Traces.ite
        · intro _
          apply (permitsAll (chatWsSendError_aside _ (by decide)) (fun _ _ => .inl)).bind
          intro ret x _ _
          exact .pure trivial
        · intro _
          apply (chatWsSendText_spec (fun b => .inr ⟨m, b, nextReplay_cell next, rfl⟩)).bind
          intro ret x _ _
          apply Traces.ite
          · intro _
            apply (permitsAll chatWsCloseClient_aside (fun _ _ => .inl)).bind
            intro _ y _ _
            exact .pure trivial
          · intro _
            exact ih m.id
    · intro _
      exact .pure trivial

/-- What a replay has done so far. -/
structure Replaying (f : ℤ) (w u : World cfg) (new : List TraceEvent) : Prop where
  lawful : Lawful u
  grown : u.trace = w.trace ++ new
  silent : ∀ m, .stored m ∉ new
  sent : ∀ d, .sent d ∈ new → Aside d.payload ∨ ∃ m, Held w.ctx.messageBuffer m ∧ d.payload = m.payload
  ring : u.ctx.messageBuffer = w.ctx.messageBuffer

theorem Replaying.act {new : List TraceEvent} (h : Replaying f w u new) (permitted : feeding cfg f u a) :
    ∃ new', Replaying f w (act a u) new' := by
  obtain ⟨more, grown, sent, stored, -⟩ := act_events a u
  have kind : (∃ g, a = .closing g) ∨ ∃ d, a = .send d ∧
      (Aside d.payload ∨ ∃ m, Held w.ctx.messageBuffer m ∧ d.payload = m.payload) := by
    obtain ⟨closing | ⟨d, rfl, aside⟩⟩ | ⟨m, delivered, held, rfl⟩ := permitted
    · exact .inl closing
    · exact .inr ⟨d, rfl, .inl aside⟩
    · rw [h.ring] at held
      exact .inr ⟨_, rfl, .inr ⟨m, held, rfl⟩⟩
  have permits : chatSteps cfg u a := by
    obtain ⟨g, rfl⟩ | ⟨d, rfl, -⟩ := kind
    · exact .inl ⟨trivial, by simp⟩
    · exact .inl ⟨trivial, by simp⟩
  have stores : ∀ m, a ≠ .store m := by
    obtain ⟨g, rfl⟩ | ⟨d, rfl, -⟩ := kind <;> simp
  refine ⟨new ++ more, h.lawful.act permits, by rw [grown, h.grown, List.append_assoc], ?_, ?_,
    (ring_act stores u).trans h.ring⟩
  · intro m hm
    cases List.mem_append.mp hm with
    | inl old => exact h.silent m old
    | inr here => exact stores m (stored m here)
  · intro d hd
    cases List.mem_append.mp hd with
    | inl old => exact h.sent d old
    | inr here =>
      have sends := sent d here
      obtain ⟨g, e⟩ | ⟨d', e, source⟩ := kind
      · rw [e] at sends
        cases sends
      · rw [e] at sends
        obtain rfl := Action.send.inj sends
        exact source

theorem arrivals_sent (ms : List Message) : arrivals (some f) (ms.map (sentEvent f true)) = ms.map Message.payload := by
  induction ms with
  | nil => rfl
  | cons m ms ih =>
    have first : arrival (some f) (sentEvent f true m) = some m.payload := if_pos ⟨rfl, rfl⟩
    rw [List.map_cons, List.map_cons]
    unfold arrivals at ih ⊢
    rw [List.filterMap_cons_some first, ih]

theorem made_aside {payload : Json} (chat : RingOfChat w) (made : ServerMade payload)
    (source : Aside payload ∨ ∃ m, Held w.ctx.messageBuffer m ∧ payload = m.payload) : Aside payload := by
  obtain aside | ⟨m, ⟨i, held⟩, rfl⟩ := source
  · exact aside
  · obtain ⟨type, known, typed⟩ := (chat i m held).1
    have own := serverMade_type made typed
    simp only [chatTypes, List.mem_cons, List.not_mem_nil, or_false] at known
    obtain rfl | rfl := known
    · exact absurd own (by decide)
    · exact absurd own (by decide)

theorem ended_aside {replayUntil reach : ℕ} {result : Option EspErr} {events : List TraceEvent} (chat : RingOfChat w)
    (ended : Ended cfg f replayUntil reach result events)
    (sent : ∀ d, .sent d ∈ events → Aside d.payload ∨ ∃ m, Held w.ctx.messageBuffer m ∧ d.payload = m.payload) :
    ∀ p ∈ arrivals (some f) events, Aside p := by
  have errors : Errors f events → ∀ p ∈ arrivals (some f) events, Aside p := by
    intro made p hp
    obtain ⟨d, hd, -, -, rfl⟩ := mem_arrivals.mp hp
    obtain ⟨payload, delivered, same, own⟩ := made _ hd
    obtain rfl := TraceEvent.sent.inj same
    exact made_aside chat own (sent _ hd)
  cases ended with
  | complete all => exact fun p hp => absurd hp List.not_mem_nil
  | sendFailed error next due attempt =>
    intro p hp
    obtain ⟨d, hd, -, delivered, -⟩ := mem_arrivals.mp hp
    obtain rfl | rfl := attempt
    · cases hd
    · obtain rfl := TraceEvent.sent.inj (List.mem_singleton.mp hd)
      cases delivered
  | copyFailed error made => exact errors made
  | cut made => exact errors made

theorem ready_of_lawful (lawful : Lawful w) (valid : w.ctx.messageIdCounterValid = true) : ∃ xs, Ready w xs := by
  obtain ⟨xs, window⟩ := lawful.ring.window
  refine ⟨xs, ⟨window.holds, window.contiguous, ?_, fun _ => valid⟩, ?_⟩
  · intro m hm
    exact lawful.ids.positive m.id (stored_mem_ids (window.stored m hm))
  · intro invalid
    rw [valid] at invalid
    cases invalid

structure Replayed (f : ℤ) (n : ℕ) (result : Option EspErr) (w u : World cfg) (ms : List Message) : Prop where
  lawful : Lawful u
  joins : Joins f n (result = some .ok) w u ms

theorem chatHistorySendToClient_replayed (n : ℕ) (lawful : Lawful w) (valid : w.ctx.messageIdCounterValid = true) :
    Ends (chatHistorySendToClient f n) w (fun r u => ∃ ms, Replayed f n r w u ms) := by
  obtain ⟨xs, ready⟩ := ready_of_lawful lawful valid
  have path : Traces (Steps (feeding cfg f)) (chatHistorySendToClient f n) w (fun _ _ => True) := by
    apply Traces.bind (P := fun _ u => u = w) (.reads rfl)
    intro replayUntil u _ hu
    subst hu
    exact replayFrom_feeding _ _ _
  have kept := path.ends (fun u => ∃ new, Replaying f w u new)
    ⟨[], lawful, (List.append_nil _).symm, fun _ => List.not_mem_nil, fun _ hd => absurd hd List.not_mem_nil, rfl⟩
    (fun u v replaying step => by
      obtain ⟨new, replaying⟩ := replaying
      obtain ⟨a, permitted, rfl⟩ := step
      exact replaying.act permitted)
  have described := chatHistorySendToClientBetween_replays f n (fun _ => []) ready
  rw [chatHistorySendToClient_eq] at described
  constructor
  intro env
  obtain ⟨⟨new, replaying⟩, -⟩ := kept.run env
  obtain ⟨rounds, last, reach, -, replay⟩ := described.run env
  obtain ⟨silent, nothing⟩ := replay.stores (fun _ => rfl)
  obtain ⟨events, ended, trace⟩ := replay.ended
  rw [nothing, events_silent f silent, List.map_nil, List.nil_append] at trace
  have grown := replaying.grown
  rw [trace] at grown
  obtain rfl := List.append_cancel_left grown
  have covered : ∀ m, Held w.ctx.messageBuffer m → n < m.id → m.id ≤ reach → m ∈ rounds.map Round.message := by
    intro m held above below
    cases replay.covered m held above below with
    | inl sent =>
      obtain ⟨r, hr, same⟩ := sent
      exact List.mem_map.mpr ⟨r, hr, same⟩
    | inr evicted =>
      cases evicted.stored with
      | inl some_last => exact absurd nothing some_last
      | inr stored =>
        obtain ⟨r, hr, some_stores⟩ := stored
        exact absurd (silent r hr) some_stores
  refine ⟨rounds.map Round.message, replaying.lawful, ⟨_, [], arrivals (some f) events, replaying.grown, replaying.silent,
    ?_, fun _ hp => absurd hp List.not_mem_nil, ?_⟩, ?_, ?_, ?_, ?_⟩
  · rw [arrivals_append, arrivals_sent, List.nil_append]
  · exact ended_aside lawful.chat ended (fun d hd => replaying.sent d (List.mem_append_right _ hd))
  · rw [List.pairwise_map]
    exact replay.ordered
  · intro m hm
    obtain ⟨r, hr, rfl⟩ := List.mem_map.mp hm
    exact ⟨replay.held r hr, (replay.within r hr).1⟩
  · intro m held above
    by_cases below : m.id ≤ reach
    · exact .inl (covered m held above below)
    · right
      intro m' hm'
      obtain ⟨r, hr, rfl⟩ := List.mem_map.mp hm'
      have inside := (replay.within r hr).2.1
      omega
  · intro ok m held above
    rw [ok] at ended
    cases ended with
    | sendFailed error => exact absurd rfl error
    | copyFailed error => exact absurd rfl error
    | complete all =>
      subst all
      obtain ⟨ys, window⟩ := lawful.ring.window
      exact covered m held above (held_id_le window held)

section tends
variable {α : Type} {m : Server cfg α} {P : α → World cfg → Prop}

theorem aside_tends (h : Traces (Steps (asides cfg)) m w P) : Traces (Steps (tends cfg (some f))) m w P :=
  permitsAll h (fun _ _ aside => (beside_asides aside).totends)

end tends

theorem sync_tends (positive : 0 ≤ f) (replayed : EspErr) : Traces (Steps (tends cfg (some f))) (do
    let informed ← (if replayed = .ok then chatHistorySendInfoToClient f else pure replayed)
    let synced ← (if informed = .ok then chatSessionsSendOnlineUsersToClient f else pure informed)
    if synced ≠ .ok then do
      chatWsCloseClient f
      pure synced
    else do
      let _ ← chatSessionsBroadcastOnlineUsers
      pure .ok : Server cfg EspErr) w (fun _ u => replayed ≠ .ok → ¬Hears (some f) u) := by
  apply Traces.bind (P := fun informed _ => replayed ≠ .ok → informed ≠ .ok)
  · apply Traces.ite
    · intro ok
      exact (aside_tends chatHistorySendInfoToClient_aside).post (fun _ _ _ _ error => absurd ok error)
    · intro _
      exact .pure id
  intro informed u _ failed
  apply Traces.bind (P := fun synced _ => replayed ≠ .ok → synced ≠ .ok)
  · apply Traces.ite
    · intro ok
      exact (aside_tends chatSessionsSendOnlineUsersToClient_aside).post (fun _ _ _ _ error => absurd ok (failed error))
    · intro _
      exact .pure failed
  intro synced v _ failed
  apply Traces.ite
  · intro _
    apply (chatWsCloseClient_closes positive (beside_asides (.inl ⟨f, rfl⟩)).totends).bind
    intro _ x _ closed
    apply Traces.pure
    intro _
    rw [closed]
    exact hears_closing f v
  · intro ok
    apply (aside_tends chatSessionsBroadcastOnlineUsers_aside).bind
    intro _ x _ _
    exact .pure (fun error => absurd (failed error) ok)

theorem Joins.before {live live' : Prop} (h : Joins f n live w v ms) (tended : Tended f v u) (less : live' → live) :
    Joins f n live' w u ms := by
  obtain ⟨new, before, after, grown, silent, arrived, first, last⟩ := h.grown
  obtain ⟨more, grown', silent', aside⟩ := tended.grown
  refine ⟨⟨new ++ more, before, after ++ arrivals (some f) more, ?_, ?_, ?_, first, ?_⟩, h.ordered, h.held, h.whole,
    fun live => h.complete (less live)⟩
  · rw [grown', grown, List.append_assoc]
  · intro m hm
    cases List.mem_append.mp hm with
    | inl old => exact silent m old
    | inr here => exact silent' m here
  · rw [arrivals_append, arrived]
    simp only [List.append_assoc]
  · intro p hp
    cases List.mem_append.mp hp with
    | inl old => exact last p old
    | inr here => exact aside p here

theorem syncJoined_joins (positive : 0 ≤ f) (root : Json) (lawful : Lawful w) (valid : w.ctx.messageIdCounterValid = true) :
    Joining f n (syncJoined f root n) w := by
  have sampled : Traces (Steps (tends cfg (some f))) (chatSessionsUpdateTimeSample f root) w
      (fun _ u => u.ctx.messageIdCounterValid = true) := by
    apply (chatSessionsUpdateTimeSample_spec root (fun offset => (beside_quiet (a := .sample f offset) trivial (by simp) (by simp)).totends)).post
    intro _ u _ changed
    obtain rfl | ⟨offset, rfl⟩ := changed
    · exact valid
    · exact valid
  apply joined_then sampled lawful
  intro _ u lawful valid
  apply (chatHistorySendToClient_replayed n lawful valid).bind
  · intro v replayed
    obtain ⟨ms, replayed⟩ := replayed
    exact ⟨ms, replayed.joins.before (tended_self replayed.lawful) (fun live => absurd live.1 Bool.false_ne_true)⟩
  · intro ret v replayed
    obtain ⟨ms, replayed⟩ := replayed
    apply (ends_tended (sync_tends positive ret) replayed.lawful).post
    intro r x both
    obtain ⟨tended, settled⟩ := both
    refine ⟨ms, replayed.joins.before tended ?_⟩
    intro live
    obtain ⟨y, hy⟩ := Option.isSome_iff_exists.mp live.1
    by_contra failed
    exact settled y hy (fun ok => failed (congrArg some ok)) live.2

theorem chatSessionsUpdateIdentity_tends (userId name : String) (valid : w.ctx.messageIdCounterValid = true) :
    Traces (Steps (tends cfg (some f))) (chatSessionsUpdateIdentity f userId name) w (fun done u =>
      u.ctx.messageIdCounterValid = true ∧ (done = false → u = w)) := by
  have lasts : ∀ (x y : World cfg), x.ctx.messageIdCounterValid = true → Steps (asides cfg) x y →
      y.ctx.messageIdCounterValid = true := by
    intro x y valid step
    obtain ⟨a, ⟨g, rfl⟩ | ⟨d, rfl, -⟩, rfl⟩ := step
    · exact valid
    · exact valid
  apply deviceUptimeS_spec.bind
  intro now u _ hu
  subst hu
  apply slots_spec.bind
  intro table v _ hv
  obtain ⟨rfl, rfl⟩ := hv
  cases hb : bindIdentity now v.ctx.clientSlots f userId name with
  | none => exact .pure ⟨valid, fun _ => rfl⟩
  | some b =>
    have binds : tends cfg (some f) v (.bind now f userId name) :=
      ⟨.inl ⟨trivial, fun _ _ _ _ _ => valid⟩, by simp, by simp⟩
    have switched : (v.setSlots b.slots).record (.bound f userId) = act (.bind now f userId name) v := by
      simp only [act, bindSlots, hb]
    apply (takes _ binds switched).bind
    intro _ x _ bound
    have still : x.ctx.messageIdCounterValid = true := by
      rw [bound, ← switched]
      exact valid
    have told := (notifyStale_aside b.staleFds).keeping (fun y : World cfg => y.ctx.messageIdCounterValid = true) still lasts
    apply (aside_tends told).bind
    intro _ y _ kept
    exact .pure ⟨kept, fun refused => absurd refused Bool.true_eq_false.mp⟩

theorem handleJoinMessage_joins (positive : 0 ≤ f) (since : chatHistoryParseSinceId root = some n) (lawful : Lawful w)
    (unheard : ¬Hears (some f) w) : Joining f n (handleJoinMessage f root) w := by
  have refuse : ∀ {u : World cfg} {code : String} (message : String), Lawful u → ¬Hears (some f) u →
      code ≠ "bad_since_id" → Joining f n (sendErrorAndClose f code message) u :=
    fun message lawful unheard harmless => refused (refuse_beside message harmless) lawful unheard
  unfold handleJoinMessage
  split
  · rename_i sender name _ _
    rw [since]
    apply joining_then (P := fun _ _ => True) (.reads trivial) lawful unheard
    intro identity u lawful unheard _
    apply Ends.ite (fun _ => refuse _ lawful unheard (by decide))
    intro _
    apply joining_then (permitsAll ensureIdStateLocked_spec (fun _ _ => beside_retries)) lawful unheard
    intro ready v lawful unheard loaded
    apply Ends.ite (fun _ => refuse _ lawful unheard (by decide))
    intro ok
    have valid := loaded.2.1 (not_not.mp ok)
    apply joined_then (chatSessionsUpdateIdentity_tends sender name valid) lawful
    intro updated x lawful updates
    apply Ends.ite
    · intro failed
      obtain rfl := updates.2 (by simpa using failed)
      exact refuse _ lawful unheard (by decide)
    · intro _
      exact syncJoined_joins positive root lawful updates.1
  · exact refuse _ lawful unheard (by decide)

theorem chatWsHandler_joins {cJSONParse : CJSONParse} {frame : Frame} (carries : Carries cfg cJSONParse frame root)
    (typed : root.member "type" = some (.str "join")) (since : chatHistoryParseSinceId root = some n) (positive : 0 ≤ f)
    (lawful : Lawful w) (unheard : ¬Hears (some f) w) : Joining f n (chatWsHandler cJSONParse f frame) w := by
  have read : stringInRange (root.member "type") maxTypeLen false = some "join" := by
    rw [typed]
    decide
  apply joining_then register_beside lawful unheard
  intro ready u lawful unheard _
  apply Ends.ite (fun _ => refused (P := fun _ _ => True) (.pure trivial) lawful unheard)
  intro _
  rw [handleFrame_carries carries]
  apply joining_then allocates_spec lawful unheard
  intro buffer v lawful unheard _
  apply Ends.ite (fun _ => refused (P := fun _ _ => True) (.pure trivial) lawful unheard)
  intro _
  unfold chatProtocolHandleJson
  rw [read]
  exact handleJoinMessage_joins positive since lawful unheard

def holdsId {capacity : ℕ} (ring : Buffer Message capacity) (id : ℕ) : Bool :=
  (List.finRange capacity).any (fun i => (ring.cell i).any (fun m => m.id == id))

theorem holdsId_iff {capacity : ℕ} {ring : Buffer Message capacity} {id : ℕ} :
    holdsId ring id = true ↔ ∃ m, Held ring m ∧ m.id = id := by
  unfold holdsId Held
  rw [List.any_eq_true]
  constructor
  · intro h
    obtain ⟨i, -, found⟩ := h
    obtain ⟨m, cell, same⟩ := Option.any_eq_true _ _ |>.mp found
    exact ⟨m, ⟨i, cell⟩, beq_iff_eq.mp same⟩
  · intro h
    obtain ⟨m, ⟨i, cell⟩, same⟩ := h
    refine ⟨i, List.mem_finRange i, ?_⟩
    rw [cell]
    exact beq_iff_eq.mpr same

/-- The ids above a cursor that the ring no longer holds. -/
def left (w : World cfg) (n : ℕ) : List ℕ :=
  (storedIds w.trace).filter (fun id => decide (n < id) && !holdsId w.ctx.messageBuffer id)

theorem mem_left {id : ℕ} : id ∈ left w n ↔
    id ∈ storedIds w.trace ∧ n < id ∧ ¬∃ m, Held w.ctx.messageBuffer m ∧ m.id = id := by
  unfold left
  rw [List.mem_filter, Bool.and_eq_true, decide_eq_true_eq, Bool.not_eq_true', ← Bool.not_eq_true, holdsId_iff]

/-- Messages that were stored, and are not in the ring. -/
structure Missing (missed : List ℕ) (w : World cfg) : Prop where
  known : ∀ id ∈ missed, id ∈ storedIds w.trace
  gone : ∀ m, Held w.ctx.messageBuffer m → m.id ∉ missed

variable {missed : List ℕ}

theorem Missing.act (h : Missing missed u) (lawful : Lawful u) (permitted : chatSteps cfg u a) : Missing missed (act a u) := by
  obtain ⟨new, grown⟩ := act_trace a u
  refine ⟨fun id hid => storedIds_grown grown (h.known id hid), ?_⟩
  intro m held
  by_cases stores : ∃ m', a = .store m'
  · obtain ⟨m', rfl⟩ := stores
    obtain ⟨i, cell⟩ := held
    cases push_cell cell with
    | inl new =>
      subst new
      obtain ⟨valid, id, -⟩ := chatSteps_store permitted
      intro known
      have bound := lawful.ids.storedCounter valid m.id (h.known m.id known)
      omega
    | inr old => exact h.gone m ⟨i, old⟩
  · push Not at stores
    rw [ring_act stores] at held
    exact h.gone m held

theorem Missing.entry (h : Missing missed w) (e : Event) : Missing missed (entry w e) := by
  cases e with
  | powerOn env =>
    have grown : (reset w).trace = w.trace ++ [.booted] := rfl
    refine ⟨fun id hid => storedIds_grown grown (h.known id hid), ?_⟩
    intro m held
    obtain ⟨i, cell⟩ := held
    cases cell
  | closeSession f env => exact ⟨h.known, h.gone⟩
  | _ => exact h

theorem lawful_entry (h : Lawful w) (e : Event) : Lawful (entry w e) :=
  ⟨h.ids.entry e, ringInvariant_entry h.ring e, ringOfChat_entry h.chat e⟩

/-- No event puts a message back into the ring. -/
theorem missing_step (cJSONParse : CJSONParse) {s : Node cfg} (e : Event) (lawful : Lawful s.world)
    (h : Missing missed s.world) : Missing missed (step cJSONParse s e).world := by
  rcases step_steps cJSONParse s e with ⟨same, -⟩ | ⟨-, path⟩
  · rw [same]
    exact h
  · refine (path_invariant path (fun u => Lawful u ∧ Missing missed u) ?_ ⟨lawful_entry lawful e, h.entry e⟩).2
    intro u a both permitted
    have may := eventStep_chatSteps cJSONParse s.world e u a permitted
    exact ⟨both.1.act may, both.2.act both.1 may⟩

theorem Missing.left (h : Missing missed w) (n : ℕ) : Missing (missed ++ JoinReplays.left w n) w := by
  constructor
  · intro id hid
    cases List.mem_append.mp hid with
    | inl old => exact h.known id old
    | inr gone => exact (mem_left.mp gone).1
  · intro m held hid
    cases List.mem_append.mp hid with
    | inl old => exact h.gone m held old
    | inr gone => exact (mem_left.mp gone).2.2 ⟨m, held, rfl⟩

theorem Joins.fed {live powered : Prop} {frames : List Json} (h : Joins f n live w u ms) (lawful : Lawful w)
    (missing : Missing missed w) (aside : ∀ p ∈ frames, Aside p) (lives : powered → Hears (some f) u → live) :
    Fed (some f) (missed ++ left w n) n (frames ++ arrivals (some f) (since w u)) powered u := by
  obtain ⟨new, before, after, grown, silent, arrived, first, last⟩ := h.grown
  have same : ∀ m, .stored m ∈ u.trace ↔ .stored m ∈ w.trace := by
    intro m
    rw [grown, List.mem_append]
    have absent := silent m
    tauto
  have held : ∀ m, Logged u (missed ++ left w n) m → n < m.id → Held w.ctx.messageBuffer m := by
    intro m logged above
    have stored := (same m).mp logged.1
    by_contra gone
    apply logged.2
    apply List.mem_append_right
    refine mem_left.mpr ⟨stored_mem_ids stored, above, ?_⟩
    intro other
    obtain ⟨m', held', id⟩ := other
    obtain rfl := stored_unique lawful.ids.increasing (lawful.ids.ring _ m' held'.choose_spec) stored id
    exact gone held'
  have sent : ∀ m ∈ ms, Logged u (missed ++ left w n) m := by
    intro m hm
    obtain ⟨cell, -⟩ := h.held m hm
    exact ⟨(same m).mpr (lawful.ids.ring _ m cell.choose_spec), (missing.left n).gone m cell⟩
  have replayed : Feed Message.id Message.payload Aside (Logged u (missed ++ left w n)) n (ms.map Message.payload)
      (lastKey Message.id n ms) :=
    feed_sorted n h.ordered sent (fun m logged above => h.whole m (held m logged above) above)
  refine ⟨lastKey Message.id n ms, ?_, ?_⟩
  · rw [since_eq grown, arrived]
    exact (feed_asides n aside).append ((feed_asides n first).append (replayed.append (feed_asides _ last)))
  · intro on hears m logged
    by_cases above : n < m.id
    · exact mem_lastKey n (h.complete (lives on hears) m (held m logged above) above)
    · exact Nat.le_trans (Nat.not_lt.mp above) (le_lastKey n ms)

end EspWebChat.JoinReplays
