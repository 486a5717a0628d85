import EspWebChat.History

set_option autoImplicit false

/-!
# What the server can do to its world

Every write of the modelled code is one `Action`. A `Permission` says which actions may be
taken in which world; the specification of a function names the permission it stays within
and what holds when it returns. Functions that write nothing have a specification for every
step relation.
-/
namespace EspWebChat.ServerSteps
open Relation JsonTree CircularBuffer ClientSlots Interruptible ServerWorld
open MessageIdStore Sessions History

inductive Action where
  | send (d : Delivery)
  | register (now fd : ℤ)
  | bind (now fd : ℤ) (userId name : String)
  | sample (fd offset : ℤ)
  | alive (fd : ℤ)
  | closing (fd : ℤ)
  | free (fd : ℤ)
  | sweep (now : ℤ) (delayed : Bool)
  | beat (now : ℤ)
  | nvs (n : Nvs)
  | load (state : MessageIdState)
  | unloaded
  | store (m : Message)

variable {cfg : Config}

def bindSlots (now fd : ℤ) (userId name : String) (w : World cfg) : World cfg :=
  match bindIdentity now w.ctx.clientSlots fd userId name with
  | none => w
  | some b => (w.setSlots b.slots).record (.bound fd userId)

def beat (now : ℤ) (w : World cfg) : World cfg :=
  { w with ctx := { w.ctx with lastHeartbeatSweepS := now } }

def act : Action → World cfg → World cfg
  | .send d, w => w.record (.sent d)
  | .register now fd, w => w.setSlots (ensureSlot now w.ctx.clientSlots fd).2
  | .bind now fd userId name, w => bindSlots now fd userId name w
  | .sample fd offset, w => w.setSlots (updateTimeSample w.ctx.clientSlots fd offset)
  | .alive fd, w => w.setSlots (markAlive w.ctx.clientSlots fd)
  | .closing fd, w => w.setSlots (markClosing w.ctx.clientSlots fd).2
  | .free fd, w => w.setSlots (removeByFd w.ctx.clientSlots fd).2
  | .sweep now delayed, w => (beat now w).setSlots
      (fun i => (sweepTable cfg now delayed w.ctx.clientSlots i).slot)
  | .beat now, w => beat now w
  | .nvs n, w => { w with nvs := n }
  | .load state, w => adoptIdState state w
  | .unloaded, w => { w with ctx := { w.ctx with bootStartId := 1 } }
  | .store m, w => storeMessage m w

theorem act_events (a : Action) (w : World cfg) : ∃ new, (act a w).trace = w.trace ++ new ∧
    (∀ d, .sent d ∈ new → a = .send d) ∧ (∀ m, .stored m ∈ new → a = .store m) ∧
    ∀ fd userId, .bound fd userId ∈ new → ∃ now name, a = .bind now fd userId name := by
  have silent : ∀ b : Action, (act b w).trace = w.trace → ∃ new, (act b w).trace = w.trace ++ new ∧
      (∀ d, .sent d ∈ new → b = .send d) ∧ (∀ m, .stored m ∈ new → b = .store m) ∧
      ∀ fd userId, .bound fd userId ∈ new → ∃ now name, b = .bind now fd userId name :=
    fun b h => ⟨[], by rw [h, List.append_nil], by simp, by simp, by simp⟩
  cases a with
  | send d => exact ⟨[.sent d], rfl, by simp, by simp, by simp⟩
  | load state => exact ⟨[.idsLoaded state.currentId], rfl, by simp, by simp, by simp⟩
  | store m => exact ⟨[.stored m], rfl, by simp, by simp, by simp⟩
  | bind now fd userId name =>
    cases hb : bindIdentity now w.ctx.clientSlots fd userId name with
    | none => exact silent _ (by simp only [act, bindSlots, hb])
    | some b =>
      refine ⟨[.bound fd userId], by simp only [act, bindSlots, hb]; rfl, by simp, by simp, ?_⟩
      intro fd' userId' hm
      cases List.mem_singleton.mp hm
      exact ⟨now, name, rfl⟩
  | _ => exact silent _ rfl

theorem act_trace (a : Action) (w : World cfg) : ∃ new, (act a w).trace = w.trace ++ new := by
  obtain ⟨new, h, -⟩ := act_events a w
  exact ⟨new, h⟩

abbrev Permission (cfg : Config) := World cfg → Action → Prop

def Steps (P : Permission cfg) (u v : World cfg) : Prop := ∃ a, P u a ∧ v = act a u

theorem steps_trace {P : Permission cfg} {u v : World cfg} (path : ReflTransGen (Steps P) u v) :
    ∃ new, v.trace = u.trace ++ new := by
  induction path with
  | refl => exact ⟨[], (List.append_nil _).symm⟩
  | tail _ s ih =>
    obtain ⟨a, -, rfl⟩ := s
    obtain ⟨new, hnew⟩ := ih
    obtain ⟨more, hmore⟩ := act_trace a _
    exact ⟨new ++ more, by rw [hmore, hnew, List.append_assoc]⟩

variable {α β : Type} {Step : World cfg → World cfg → Prop} {P P' : Permission cfg}
  {m : Server cfg α} {w : World cfg} {Q : α → World cfg → Prop}

theorem takes {f : World cfg → World cfg} (a : Action) (permit : P w a) (eq : f w = act a w) :
    Traces (Steps P) (writes f : Server cfg Unit) w (fun _ u => u = act a w) :=
  .writes ⟨a, permit, eq⟩ eq

/-- A computation within one permission is within another that allows as much, as long as
    some fact about the world lasts. -/
theorem permits (h : Traces (Steps P) m w Q) (K : World cfg → Prop) (start : K w)
    (keep : ∀ u a, K u → P u a → K (act a u)) (permit : ∀ u a, K u → P u a → P' u a) :
    Traces (Steps P') m w Q := by
  have hk := h.whilst K start (by
    rintro u v hu ⟨a, ha, rfl⟩
    exact keep u a hu ha)
  refine hk.steps ?_
  rintro u v ⟨hu, a, ha, rfl⟩
  exact ⟨a, permit u a hu ha, rfl⟩

theorem permitsAll (h : Traces (Steps P) m w Q) (permit : ∀ u a, P u a → P' u a) :
    Traces (Steps P') m w Q :=
  permits h (fun _ => True) trivial (fun _ _ _ _ => trivial) (fun u a _ => permit u a)

theorem reply_spec : Traces Step (reply : Server cfg Reply) w (fun _ u => u = w) :=
  .ask (fun _ _ => rfl)

theorem allocates_spec : Traces Step (allocates : Server cfg Bool) w (fun _ u => u = w) := by
  refine reply_spec.bind ?_
  rintro r u - rfl
  exact .pure rfl

theorem slots_spec : Traces Step (slots : Server cfg (SlotTable cfg.maxClients)) w
    (fun t u => t = w.ctx.clientSlots ∧ u = w) :=
  .reads ⟨rfl, rfl⟩

theorem deviceUptimeS_spec : Traces Step (deviceUptimeS : Server cfg ℤ) w (fun _ u => u = w) := by
  refine reply_spec.bind ?_
  rintro r u - rfl
  exact .pure rfl

theorem inEpoch_int64 {t : ℤ} (h : inEpoch t = true) : |t| ≤ 2 ^ 63 := by
  unfold inEpoch validEpochStartS validEpochEndS at h
  obtain ⟨low, high⟩ := Bool.and_eq_true_iff.mp h
  have low := of_decide_eq_true low
  have high := of_decide_eq_true high
  exact abs_le.mpr ⟨by omega, by omega⟩

/-- A time is one of the device's or in the epoch. -/
theorem currentTimestampS_int64 :
    Traces Step (currentTimestampS : Server cfg ℤ) w (fun t u => u = w ∧ |t| ≤ 2 ^ 63) := by
  refine reply_spec.bind ?_
  rintro r u - rfl
  split_ifs with valid
  · exact .pure ⟨rfl, inEpoch_int64 valid⟩
  · refine Traces.bind (P := fun uptime v => v = u ∧ |uptime| ≤ 2 ^ 63) ?_ ?_
    · refine reply_spec.bind ?_
      rintro r v - rfl
      exact .pure ⟨rfl, r.uptimeS_int64⟩
    rintro uptime u - ⟨rfl, bounded⟩
    refine reply_spec.bind ?_
    rintro lock u - rfl
    refine slots_spec.bind ?_
    rintro table u - ⟨-, rfl⟩
    split
    · refine .pure ⟨rfl, ?_⟩
      split_ifs with valid
      · exact inEpoch_int64 valid
      · exact bounded
    · exact .pure ⟨rfl, bounded⟩

theorem currentTimestampS_spec :
    Traces Step (currentTimestampS : Server cfg ℤ) w (fun _ u => u = w) :=
  currentTimestampS_int64.post (fun _ _ _ h => h.1)

theorem addMember_spec {ms : Members} {key : String} {v : Json} :
    Traces Step (addMember ms key v : Server cfg Members) w
      (fun ms' u => u = w ∧ (ms' = ms ∨ ms' = ms ++ [(key, v)])) := by
  refine allocates_spec.bind ?_
  rintro done u - rfl
  cases done with
  | false => exact .pure ⟨rfl, .inl rfl⟩
  | true => exact .pure ⟨rfl, .inr rfl⟩

theorem printUnformatted_spec {j : Json} :
    Traces Step (printUnformatted j : Server cfg (Option Json)) w
      (fun printed u => u = w ∧ ∀ p ∈ printed, p = cfg.printer.printed j) := by
  refine allocates_spec.bind ?_
  rintro done u - rfl
  refine .pure ⟨rfl, ?_⟩
  cases done <;> simp

def serverTypes : List String := ["error", "onlineUsers", "historyInfo", "ping"]

/-- A member the allocator dropped is missing, so there may be no type at all. -/
def TypeIs (type : String) (ms : Members) : Prop := ∀ v, ms.lookup "type" = some v → v = .str type

def ServerMade (payload : Json) : Prop := ∃ type ∈ serverTypes, TypeIs type payload.members

theorem typeIs_nil (type : String) : TypeIs type [] := by
  intro v h
  cases h

theorem typeIs_append {type key : String} {v : Json} {ms : Members} (h : TypeIs type ms)
    (hk : key = "type" → v = .str type) : TypeIs type (ms ++ [(key, v)]) := by
  intro x hx
  rw [lookup_append_single] at hx
  cases hm : ms.lookup "type" with
  | some y =>
    rw [hm, Option.some_or] at hx
    exact h x (hm.trans hx)
  | none =>
    rw [hm, Option.none_or] at hx
    split_ifs at hx with hkey
    cases hx
    exact hk hkey.symm

theorem typeIs_printed (p : CjsonPrinter.Printer) {type : String} {ms : Members} (h : TypeIs type ms) :
    TypeIs type (p.printed (.obj ms)).members := by
  intro v hv
  have read : (ms.lookup "type").map p.printed = some v := (p.printed_member (.obj ms) "type").symm.trans hv
  obtain ⟨x, found, rfl⟩ := Option.map_eq_some_iff.mp read
  rw [h x found]
  rfl

theorem addMember_type {type key : String} {v : Json} {ms : Members} (h : TypeIs type ms)
    (hk : key = "type" → v = .str type := by simp) :
    Traces Step (addMember ms key v : Server cfg Members) w
      (fun ms' u => u = w ∧ TypeIs type ms') := by
  refine addMember_spec.post ?_
  rintro ms' u - ⟨hu, rfl | rfl⟩
  · exact ⟨hu, h⟩
  · exact ⟨hu, typeIs_append h hk⟩

end EspWebChat.ServerSteps
