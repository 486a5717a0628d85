import EspWebChat.Deliveries

set_option autoImplicit false

/-!
# The recovery boundary

The ring holds the newest messages of this boot under consecutive ids, so the least id in it,
or the first id of the boot when it is empty, separates what the server still has from what
only clients can give back.
-/
namespace EspWebChat.RecoveryBoundary
open Relation JsonTree CircularBuffer ClientSlots Interruptible ServerWorld MessageIdStore History
open JsonGate Protocol WebSocketServer ServerSteps SlotSteps SessionSteps HistorySteps TargetFields
open ProtocolSteps NodeSteps MessageIds SlotInvariant Deliveries

variable {cfg : Config} {w u : World cfg}

structure Scanned (cells : List (Option Message)) (s : Scan) : Prop where
  empty : s.count = 0 ↔ ∀ m, some m ∉ cells
  bounds : ∀ m, some m ∈ cells → s.earliestId ≤ m.id ∧ m.id ≤ s.latestId
  found : s.count ≠ 0 → ∃ m, some m ∈ cells ∧ m.id = s.earliestId

theorem scanned_concat {cells : List (Option Message)} {s : Scan} (h : Scanned cells s) (m : Message) :
    Scanned (cells ++ [some m]) (scanCell s (some m)) := by
  refine ⟨?_, ?_, ?_⟩
  · constructor
    · intro hc
      simp [scanCell] at hc
    · intro hno
      exact absurd (by simp) (hno m)
  · intro m' hm'
    change (if s.count = 0 ∨ m.id < s.earliestId then m.id else s.earliestId) ≤ m'.id ∧
      m'.id ≤ max s.latestId m.id
    rcases List.mem_append.mp hm' with hold | hnew
    · have hc : s.count ≠ 0 := fun e => (h.empty.mp e m') hold
      obtain ⟨hlow, hhigh⟩ := h.bounds m' hold
      split_ifs <;> omega
    · cases List.mem_singleton.mp hnew
      split_ifs <;> omega
  · intro _
    change ∃ m', some m' ∈ cells ++ [some m] ∧
      m'.id = if s.count = 0 ∨ m.id < s.earliestId then m.id else s.earliestId
    split_ifs with hc
    · exact ⟨m, by simp, rfl⟩
    · obtain ⟨m', hm', e⟩ := h.found (fun e => hc (.inl e))
      exact ⟨m', List.mem_append_left _ hm', e⟩

theorem scanRing_scanned {n : ℕ} (ring : Buffer Message n) :
    Scanned ((List.finRange n).map ring.cell) (scanRing ring) := by
  unfold scanRing
  generalize (List.finRange n).map ring.cell = cells
  induction cells using List.reverseRecOn with
  | nil => exact ⟨by simp, by simp, by simp⟩
  | append_singleton cells cell ih =>
    rw [List.foldl_append]
    cases cell with
    | none =>
      have same : ∀ m, some m ∈ cells ++ [none] ↔ some m ∈ cells := fun m => by simp
      refine ⟨?_, ?_, ?_⟩
      · rw [show List.foldl scanCell (List.foldl scanCell ⟨0, 0, 0⟩ cells) [none] =
          List.foldl scanCell ⟨0, 0, 0⟩ cells from rfl, ih.empty]
        simp only [same]
      · intro m hm
        exact ih.bounds m ((same m).mp hm)
      · intro hc
        obtain ⟨m, hm, e⟩ := ih.found hc
        exact ⟨m, (same m).mpr hm, e⟩
    | some m => exact scanned_concat ih m

def Held {n : ℕ} (ring : Buffer Message n) (m : Message) : Prop := ∃ i, ring.cell i = some m

theorem mem_cells {n : ℕ} {ring : Buffer Message n} {m : Message} :
    some m ∈ (List.finRange n).map ring.cell ↔ Held ring m := by
  simp [Held]

/-- The boundary is the least id held, or the first id of the boot. -/
theorem restoreBeforeId_cases (ctx : AppContext cfg) :
    ((∀ m, ¬Held ctx.messageBuffer m) ∧ restoreBeforeId ctx = ctx.bootStartId) ∨
    ((∃ m, Held ctx.messageBuffer m ∧ m.id = restoreBeforeId ctx) ∧
      ∀ m, Held ctx.messageBuffer m → restoreBeforeId ctx ≤ m.id) := by
  have scan := scanRing_scanned ctx.messageBuffer
  by_cases hc : (scanRing ctx.messageBuffer).count = 0
  · refine .inl ⟨fun m hm => scan.empty.mp hc m (mem_cells.mpr hm), ?_⟩
    simp [restoreBeforeId, chatHistoryFillBoundsLocked, hc]
  · have hr : restoreBeforeId ctx = (scanRing ctx.messageBuffer).earliestId := by
      simp [restoreBeforeId, chatHistoryFillBoundsLocked, Nat.pos_of_ne_zero hc]
    obtain ⟨m, hm, e⟩ := scan.found hc
    refine .inr ⟨⟨m, mem_cells.mp hm, by rw [hr, e]⟩, ?_⟩
    intro m' hm'
    rw [hr]
    exact (scan.bounds m' (mem_cells.mpr hm')).1

/-- `xs` are the messages of this boot, newest first. -/
structure Window (w : World cfg) (xs : List Message) : Prop where
  holds : Holds w.ctx.messageBuffer xs
  contiguous : ∀ k m, xs[k]? = some m → m.id + k = w.ctx.messageIdCounter
  stored : ∀ m ∈ xs, .stored m ∈ w.trace
  empty : w.ctx.messageIdCounterValid = true → xs = [] →
    w.ctx.bootStartId = bootStartOf w.ctx.messageIdCounter
  unloaded : w.ctx.messageIdCounterValid = false → xs = []

structure RingInvariant (w : World cfg) : Prop where
  window : ∃ xs, Window w xs
  joined : ∀ i, (w.ctx.clientSlots i).joined = true → w.ctx.messageIdCounterValid = true

theorem RingInvariant.quiet {a : Action} (h : RingInvariant u) (quiet : Quiet a)
    (bind : ∀ now fd userId name, a = .bind now fd userId name → u.ctx.messageIdCounterValid = true) :
    RingInvariant (act a u) := by
  have same := act_sameIds quiet u
  obtain ⟨xs, window⟩ := h.window
  refine ⟨⟨xs, ?_⟩, ?_⟩
  · constructor
    case holds => rw [same.ring]; exact window.holds
    case contiguous => rw [same.counter]; exact window.contiguous
    case empty => rw [same.valid, same.bootStart, same.counter]; exact window.empty
    case unloaded => rw [same.valid]; exact window.unloaded
    case stored =>
      intro m hm
      obtain ⟨more, hmore⟩ := act_trace a u
      rw [hmore]
      exact List.mem_append_left _ (window.stored m hm)
  · intro i hj
    rw [same.valid]
    by_cases hb : ∃ now fd userId name, a = .bind now fd userId name
    · obtain ⟨now, fd, userId, name, e⟩ := hb
      exact bind now fd userId name e
    · push Not at hb
      exact h.joined i (joined_act hb u hj)

theorem RingInvariant.retry {a : Action} (h : RingInvariant u) (ha : retries cfg u a) :
    RingInvariant (act a u) := by
  obtain ⟨xs, window⟩ := h.window
  obtain ⟨invalid, ⟨n, rfl, -⟩ | rfl⟩ := ha
  · exact ⟨⟨xs, window.holds, window.contiguous, window.stored, window.empty, window.unloaded⟩, h.joined⟩
  · have hxs := window.unloaded invalid
    subst hxs
    refine ⟨⟨[], window.holds, by simp, by simp, fun _ _ => rfl, fun _ => rfl⟩, fun _ _ => rfl⟩

theorem RingInvariant.store {m : Message} (h : RingInvariant u)
    (valid : u.ctx.messageIdCounterValid = true) (hid : m.id = u.ctx.messageIdCounter + 1) :
    RingInvariant (act (.store m) u) := by
  obtain ⟨xs, window⟩ := h.window
  refine ⟨⟨m :: xs, holds_push window.holds m, ?_, ?_, ?_, ?_⟩, fun _ _ => valid⟩
  · intro k m' hk
    change m'.id + k = m.id
    cases k with
    | zero =>
      cases hk
      rfl
    | succ k =>
      have := window.contiguous k m' hk
      omega
  · intro m' hm'
    change _ ∈ u.trace ++ [.stored m]
    rcases List.mem_cons.mp hm' with rfl | hold
    · exact List.mem_append_right _ (List.mem_singleton_self _)
    · exact List.mem_append_left _ (window.stored m' hold)
  · intro _ hno
    cases hno
  · intro hv
    change u.ctx.messageIdCounterValid = false at hv
    rw [valid] at hv
    cases hv

theorem RingInvariant.act {a : Action} (h : RingInvariant u) (ha : chatSteps cfg u a) :
    RingInvariant (act a u) := by
  rcases ha with ⟨quiet, bind⟩ | ⟨invalid, rfl⟩ | retry | ⟨root, -, retry | ⟨valid, -, ⟨n, rfl, -⟩ | store⟩⟩
  · exact h.quiet quiet bind
  · obtain ⟨xs, window⟩ := h.window
    refine ⟨⟨xs, window.holds, window.contiguous, window.stored, ?_, window.unloaded⟩, h.joined⟩
    intro hv
    change u.ctx.messageIdCounterValid = true at hv
    rw [invalid] at hv
    cases hv
  · exact h.retry retry
  · exact h.retry retry
  · obtain ⟨xs, window⟩ := h.window
    exact ⟨⟨xs, window.holds, window.contiguous, window.stored, window.empty, window.unloaded⟩, h.joined⟩
  · obtain ⟨m, timestamp, rfl, hid, -⟩ := store
    exact h.store valid hid

theorem ringInvariant_zero (w : World cfg) (h : w.ctx = AppContext.zero cfg) : RingInvariant w := by
  refine ⟨⟨[], ?_, by simp, by simp, ?_, fun _ => rfl⟩, ?_⟩
  · rw [h]
    exact holds_empty _
  · intro hv
    rw [h] at hv
    cases hv
  · intro i hj
    rw [h] at hj
    cases hj

theorem ringInvariant_entry (h : RingInvariant w) (e : Event) : RingInvariant (entry w e) := by
  cases e with
  | powerOn env => exact ringInvariant_zero _ rfl
  | closeSession fd env => exact h.quiet (a := .free fd) trivial (by simp)
  | _ => exact h

theorem ringInvariant_run (cJSONParse : CJSONParse) (flash : InitialFlash) (events : List Event) :
    RingInvariant (run cJSONParse (Node.initial flash : Node cfg) events).world :=
  run_invariant cJSONParse RingInvariant (fun _ e h => ringInvariant_entry h e)
    (fun w e u a hu ha => hu.act (eventStep_chatSteps cJSONParse w e u a ha)) _
    (ringInvariant_zero _ rfl) events

theorem stored_unique {t : List TraceEvent} (h : (storedIds t).Pairwise (· < ·)) {m m' : Message}
    (hm : .stored m ∈ t) (hm' : .stored m' ∈ t) (e : m.id = m'.id) : m = m' := by
  have nodup : ((storedMessages t).map Message.id).Nodup := h.imp (fun hlt => hlt.ne)
  exact List.inj_on_of_nodup_map nodup (mem_storedMessages.mpr hm) (mem_storedMessages.mpr hm') e

theorem stored_mem_ids {t : List TraceEvent} {m : Message} (h : .stored m ∈ t) : m.id ∈ storedIds t :=
  List.mem_map_of_mem (mem_storedMessages.mpr h)

theorem held_of_between (ids : IdInvariant w) {xs : List Message} (window : Window w xs) {m m₀ : Message}
    (hm : .stored m ∈ w.trace) (held : Held w.ctx.messageBuffer m₀) (low : m₀.id ≤ m.id)
    (high : m.id ≤ w.ctx.messageIdCounter) : Held w.ctx.messageBuffer m := by
  obtain ⟨k₀, hk₀⟩ := List.mem_iff_getElem?.mp ((cell_some_iff window.holds m₀).mp held)
  have hlt : k₀ < (xs.take cfg.maxMessages).length := (List.getElem?_eq_some_iff.mp hk₀).choose
  rw [List.length_take] at hlt
  rw [List.getElem?_take_of_lt (by omega)] at hk₀
  have pos₀ := window.contiguous k₀ m₀ hk₀
  have hk : w.ctx.messageIdCounter - m.id < xs.length := by omega
  have hget := List.getElem?_eq_getElem hk
  have pos := window.contiguous _ _ hget
  have same : xs[w.ctx.messageIdCounter - m.id] = m :=
    stored_unique ids.increasing (window.stored _ (List.getElem_mem hk)) hm (by omega)
  refine (cell_some_iff window.holds m).mpr (List.mem_iff_getElem?.mpr
    ⟨w.ctx.messageIdCounter - m.id, ?_⟩)
  rw [List.getElem?_take_of_lt (by omega), hget, same]

theorem held_id_le {xs : List Message} (window : Window w xs) {m : Message}
    (held : Held w.ctx.messageBuffer m) : m.id ≤ w.ctx.messageIdCounter := by
  obtain ⟨k, hk⟩ := List.mem_iff_getElem?.mp ((cell_some_iff window.holds m).mp held)
  have hlt : k < (xs.take cfg.maxMessages).length := (List.getElem?_eq_some_iff.mp hk).choose
  rw [List.length_take] at hlt
  rw [List.getElem?_take_of_lt (by omega)] at hk
  have := window.contiguous k m hk
  omega

theorem bootStart_of_empty (ring : RingInvariant w) (valid : w.ctx.messageIdCounterValid = true)
    (hno : ∀ m, ¬Held w.ctx.messageBuffer m) :
    w.ctx.bootStartId = bootStartOf w.ctx.messageIdCounter := by
  obtain ⟨xs, window⟩ := ring.window
  refine window.empty valid ((cells_none_iff window.holds).mp (fun i => ?_))
  cases hc : w.ctx.messageBuffer.cell i with
  | none => rfl
  | some m => exact absurd ⟨i, hc⟩ (hno m)

theorem partitioned (ids : IdInvariant w) (ring : RingInvariant w)
    (valid : w.ctx.messageIdCounterValid = true) (below : w.ctx.messageIdCounter < chatMessageMaxSafeId)
    {m : Message} (hm : .stored m ∈ w.trace) :
    (Held w.ctx.messageBuffer m ∧ restoreBeforeId w.ctx ≤ m.id) ∨
    (m.id < restoreBeforeId w.ctx ∧ ∀ m', Held w.ctx.messageBuffer m' → m'.id ≠ m.id) := by
  obtain ⟨xs, window⟩ := ring.window
  have high := ids.storedCounter valid m.id (stored_mem_ids hm)
  rcases restoreBeforeId_cases w.ctx with ⟨hno, hr⟩ | ⟨⟨m₀, held₀, e₀⟩, least⟩
  · refine .inr ⟨?_, fun m' hm' => absurd hm' (hno m')⟩
    rw [hr, bootStart_of_empty ring valid hno, bootStartOf, if_pos below]
    omega
  · by_cases hlt : m.id < restoreBeforeId w.ctx
    · refine .inr ⟨hlt, ?_⟩
      intro m' hm' e
      have := least m' hm'
      omega
    · exact .inl ⟨held_of_between ids window hm held₀ (by omega) high, by omega⟩

theorem restoreBeforeId_le (ring : RingInvariant w) (valid : w.ctx.messageIdCounterValid = true) :
    restoreBeforeId w.ctx ≤ w.ctx.messageIdCounter + 1 := by
  obtain ⟨xs, window⟩ := ring.window
  rcases restoreBeforeId_cases w.ctx with ⟨hno, hr⟩ | ⟨⟨m₀, held₀, e₀⟩, -⟩
  · rw [hr, bootStart_of_empty ring valid hno, bootStartOf]
    split_ifs <;> omega
  · have := held_id_le window held₀
    omega

/-- No id at or below the floor is handed out any more. -/
def floor (w : World cfg) : ℕ :=
  if w.ctx.messageIdCounterValid then w.ctx.messageIdCounter else currentOf w.nvs.flash

structure Above (t : List TraceEvent) (bound : ℕ) (w : World cfg) : Prop where
  ids : IdInvariant w
  floor : bound ≤ floor w
  new : ∃ new, w.trace = t ++ new ∧ ∀ id ∈ storedIds new, bound < id

theorem floor_of_valid (h : w.ctx.messageIdCounterValid = true) : floor w = w.ctx.messageIdCounter :=
  if_pos h

theorem floor_of_invalid (h : w.ctx.messageIdCounterValid = false) : floor w = currentOf w.nvs.flash := by
  rw [floor, if_neg (by rw [h]; exact Bool.false_ne_true)]

theorem Above.extend {t : List TraceEvent} {bound : ℕ} {v : World cfg} (h : Above t bound u)
    (ids : IdInvariant v) (hfloor : RecoveryBoundary.floor u ≤ RecoveryBoundary.floor v)
    (more : ∃ more, v.trace = u.trace ++ more ∧ ∀ id ∈ storedIds more, bound < id) :
    Above t bound v := by
  obtain ⟨new, hnew, habove⟩ := h.new
  obtain ⟨more, hmore, hmoreabove⟩ := more
  refine ⟨ids, h.floor.trans hfloor, new ++ more, by rw [hmore, hnew, List.append_assoc], ?_⟩
  intro id hid
  rw [storedIds_append] at hid
  rcases List.mem_append.mp hid with hold | hlast
  · exact habove id hold
  · exact hmoreabove id hlast

theorem floor_write {v : ℕ} {n : Nvs} (ids : IdInvariant u) (wrote : Writes v u.nvs n)
    (hv : u.ctx.messageIdCounterValid = false → currentOf u.nvs.cached ≤ v) :
    floor u ≤ floor (act (.nvs n) u) := by
  cases hvalid : u.ctx.messageIdCounterValid with
  | true =>
    rw [floor_of_valid hvalid, floor_of_valid (w := act (.nvs n) u) hvalid]
    exact le_rfl
  | false =>
    rw [floor_of_invalid hvalid, floor_of_invalid (w := act (.nvs n) u) hvalid]
    have same := ids.unloaded hvalid
    exact (writes_le wrote (by have := hv hvalid; omega) same.ge le_rfl).2

theorem Above.retry {t : List TraceEvent} {bound : ℕ} {a : Action} (h : Above t bound u)
    (ha : retries cfg u a) : Above t bound (act a u) := by
  have ids := h.ids.retry ha
  obtain ⟨invalid, ⟨n, rfl, wrote⟩ | rfl⟩ := ha
  · refine h.extend ids ?_ ⟨[], (List.append_nil _).symm, by simp [storedIds, storedMessages]⟩
    exact floor_write h.ids wrote (fun _ => h.ids.loadedId.ge)
  · refine h.extend ids ?_ ⟨[_], rfl, by simp [storedIds, storedMessages, storedMessage]⟩
    rw [floor_of_invalid invalid]
    change currentOf u.nvs.flash ≤ loadedId u.nvs
    rw [h.ids.loadedId]
    exact (h.ids.unloaded invalid).ge

theorem Above.act {t : List TraceEvent} {bound : ℕ} {a : Action} (h : Above t bound u)
    (ha : idSteps cfg u a) : Above t bound (act a u) := by
  have ids := h.ids.act ha
  rcases ha with quiet | ⟨invalid, rfl⟩ | ⟨root, retry | ⟨valid, below, ⟨n, rfl, wrote⟩ | store⟩⟩
  · have same := act_sameIds quiet u
    refine h.extend ids ?_ ?_
    · rw [RecoveryBoundary.floor, RecoveryBoundary.floor, same.valid, same.counter, same.nvs]
    · rcases same.trace with e | ⟨e, he, hs, -⟩
      · exact ⟨[], by rw [e, List.append_nil], by simp [storedIds, storedMessages]⟩
      · exact ⟨[e], he, by simp [storedIds, storedMessages, hs]⟩
  · exact h.extend ids le_rfl ⟨[], (List.append_nil _).symm, by simp [storedIds, storedMessages]⟩
  · exact h.retry retry
  · refine h.extend ids ?_ ⟨[], (List.append_nil _).symm, by simp [storedIds, storedMessages]⟩
    refine floor_write h.ids wrote (fun hv => ?_)
    rw [valid] at hv
    cases hv
  · obtain ⟨m, timestamp, rfl, hid, -⟩ := store
    have low := h.floor
    rw [floor_of_valid valid] at low
    refine h.extend ids ?_ ⟨[.stored m], rfl, ?_⟩
    · rw [floor_of_valid valid, floor_of_valid (w := ServerSteps.act (.store m) u) valid]
      change u.ctx.messageIdCounter ≤ m.id
      omega
    · intro id hmem
      cases List.mem_singleton.mp hmem
      omega

theorem above_entry {t : List TraceEvent} {bound : ℕ} (h : Above t bound w) (e : Event) :
    Above t bound (entry w e) := by
  cases e with
  | powerOn env =>
    refine h.extend (h.ids.reset) ?_ ⟨[.booted], rfl, by simp [storedIds, storedMessages, storedMessage]⟩
    rw [floor_of_invalid (w := entry w (.powerOn env)) rfl]
    change _ ≤ currentOf w.nvs.flash
    cases hvalid : w.ctx.messageIdCounterValid with
    | true =>
      rw [floor_of_valid hvalid]
      exact h.ids.counterFlash hvalid
    | false => rw [floor_of_invalid hvalid]
  | closeSession fd env => exact h.act (a := .free fd) (.inl trivial)
  | _ => exact h

theorem above_run (cJSONParse : CJSONParse) {s : Node cfg} (ids : IdInvariant s.world)
    (valid : s.world.ctx.messageIdCounterValid = true) (later : List Event) :
    Above s.world.trace s.world.ctx.messageIdCounter (run cJSONParse s later).world :=
  run_invariant cJSONParse (Above s.world.trace s.world.ctx.messageIdCounter)
    (fun _ e h => above_entry h e)
    (fun w e u a hu ha => hu.act (idSteps_of_chatSteps u a (eventStep_chatSteps cJSONParse w e u a ha))) s
    ⟨ids, (floor_of_valid valid).ge, [], (List.append_nil _).symm, by simp [storedIds, storedMessages]⟩
    later

theorem later_ids (cJSONParse : CJSONParse) {s : Node cfg} (ids : IdInvariant s.world)
    (ring : RingInvariant s.world) (valid : s.world.ctx.messageIdCounterValid = true) (later : List Event)
    {new : List TraceEvent} (hnew : (run cJSONParse s later).world.trace = s.world.trace ++ new) :
    ∀ id ∈ storedIds new, restoreBeforeId s.world.ctx ≤ id := by
  obtain ⟨new', hnew', habove⟩ := (above_run cJSONParse ids valid later).new
  have e : new = new' := List.append_cancel_left (hnew.symm.trans hnew')
  subst e
  intro id hid
  have := habove id hid
  have := restoreBeforeId_le ring valid
  omega

/-- A forwarded request or response comes from a joined connection, in the type's own frame. -/
theorem forwarded_of_type (cJSONParse : CJSONParse) {s : Node cfg} (ring : RingOfChat s.world) {e : Event}
    {new : List TraceEvent} (hnew : (step cJSONParse s e).world.trace = s.world.trace ++ new)
    {d : Delivery} (hd : .sent d ∈ new) {type : String} (own : type ∉ serverTypes) (chat : type ∉ chatTypes)
    (ht : d.payload.member "type" = some (.str type)) :
    ∃ fd frame env, e = .frame fd frame env ∧ Authentic s.world fd d.payload ∧
      Forwarded s.world (chatJsonParseObject cJSONParse frame.payload) (step cJSONParse s e).world d := by
  rcases event_trace cJSONParse ring e with ⟨new', h, -⟩ | ⟨fd, frame, env, new', rfl, -, h⟩
  · have e : new = new' := List.append_cancel_left (hnew.symm.trans h.trace)
    subst e
    exact absurd (serverMade_type (h.sent d hd) ht) own
  · have e : new = new' := List.append_cancel_left (hnew.symm.trans h.trace)
    subst e
    rcases h.sent d hd with ⟨made, -⟩ | ⟨-, -, m, hm, -, -, eq⟩ | ⟨auth, -, forwarded⟩
    · exact absurd (serverMade_type made ht) own
    · rw [eq] at ht
      exact absurd (isChat_type hm ht) chat
    · exact ⟨fd, frame, env, rfl, auth, forwarded⟩

/-- The event is a frame with the object `root`. -/
def Brings (cJSONParse : CJSONParse) (e : Event) (root : Json) : Prop :=
  ∃ fd frame env, e = .frame fd frame env ∧ chatJsonParseObject cJSONParse frame.payload = some root

/-- The payload asks for what lies before `before`. -/
def AsksBefore (payload : Json) (before : Json) : Prop :=
  payload.member "restore_before_id" = some before ∧ payload.lastMember "restore_before_id" = some before

/-- The boundary separates the ids the server holds from those it has let go, bounds every
    later id, and bounds what is asked for and given back, as far as the printed numbers are
    read as they were. -/
theorem recovery_boundary_partitions (cJSONParse : CJSONParse) (flash : InitialFlash)
    (events : List Event) :
    let s := run cJSONParse (Node.initial flash : Node cfg) events
    let ctx := s.world.ctx
    (ctx.messageIdCounterValid = true → ctx.messageIdCounter < chatMessageMaxSafeId →
      (∀ m, .stored m ∈ s.world.trace →
        (Held ctx.messageBuffer m ∧ restoreBeforeId ctx ≤ m.id) ∨
        (m.id < restoreBeforeId ctx ∧ ∀ m', Held ctx.messageBuffer m' → m'.id ≠ m.id)) ∧
      ∀ later new, (run cJSONParse s later).world.trace = s.world.trace ++ new →
        ∀ id ∈ storedIds new, restoreBeforeId ctx ≤ id) ∧
    (∀ e new d, (step cJSONParse s e).world.trace = s.world.trace ++ new → .sent d ∈ new →
      d.payload.member "type" = some (.str "historyRequest") →
      ∃ root requested before, Brings cJSONParse e root ∧
        jsonSafeMessageId (root.member "restore_before_id") = some requested ∧
        before = min requested (restoreBeforeId ctx) ∧ 2 ≤ before ∧ before ≤ restoreBeforeId ctx ∧
        AsksBefore d.payload (.num (cfg.printer.read (before : ℕ))) ∧
        (AsksBefore d.payload (natJson before) ↔ cfg.printer.Keeps before)) ∧
    (∀ e new d, (step cJSONParse s e).world.trace = s.world.trace ++ new → .sent d ∈ new →
      d.payload.member "type" = some (.str "historyResponse") →
      ∃ root original message id, Brings cJSONParse e root ∧ root.member "message" = some original ∧
        jsonSafeMessageId (original.member "id") = some id ∧
        d.payload.member "message" = some message ∧ id < restoreBeforeId ctx ∧
        (∀ m, Held ctx.messageBuffer m → m.id ≠ id) ∧
        (∀ later new', (run cJSONParse s later).world.trace = s.world.trace ++ new' → id ∉ storedIds new') ∧
        message.member "id" = some (.num (cfg.printer.read id)) ∧
        (jsonSafeMessageId (message.member "id") = some id ↔ cfg.printer.Keeps id)) := by
  intro s ctx
  have ids : IdInvariant s.world := idInvariant_run cJSONParse flash events
  have ring : RingInvariant s.world := ringInvariant_run cJSONParse flash events
  have chat : RingOfChat s.world := ringOfChat_run cJSONParse flash events
  refine ⟨?_, ?_, ?_⟩
  · intro valid below
    exact ⟨fun m hm => partitioned ids ring valid below hm,
      fun later new hnew => later_ids cJSONParse ids ring valid later hnew⟩
  · intro e new d hnew hd ht
    obtain ⟨fd, frame, env, here, auth, h⟩ := forwarded_of_type cJSONParse chat hnew hd
      (by decide) (by decide) ht
    rcases h with ⟨-, m, hm, -, eq⟩ | ⟨root, arrived, -, request⟩ | ⟨root, -, -, response⟩
    · rw [eq] at ht
      exact absurd (isChat_type hm ht) (by decide)
    · obtain ⟨requested, asked, hb, low⟩ := request.boundary
      have asks : AsksBefore d.payload (.num (cfg.printer.read (min requested (restoreBeforeId ctx) : ℕ))) :=
        ⟨hb, (lastMember_eq _ auth.unique _).trans hb⟩
      refine ⟨root, requested, _, ⟨fd, frame, env, here, arrived⟩, asked, rfl, low, min_le_right _ _, asks, ?_⟩
      unfold AsksBefore CjsonPrinter.Printer.Keeps
      rw [asks.1, asks.2, and_self, natJson, Option.some.injEq, Json.num.injEq]
    · rw [response.type] at ht
      exact absurd ht (by simp)
  · intro e new d hnew hd ht
    obtain ⟨fd, frame, env, here, auth, h⟩ := forwarded_of_type cJSONParse chat hnew hd
      (by decide) (by decide) ht
    rcases h with ⟨-, m, hm, -, eq⟩ | ⟨root, -, -, request⟩ | ⟨root, arrived, -, response⟩
    · rw [eq] at ht
      exact absurd (isChat_type hm ht) (by decide)
    · rw [request.type] at ht
      exact absurd ht (by simp)
    · obtain ⟨original, message, given, hm, filled, ⟨id, hid, hlt⟩, -⟩ := response.message
      have original_id : jsonSafeMessageId (original.member "id") = some id := by
        rw [← filled.others "id" (by decide)]
        exact hid
      have valid : ctx.messageIdCounterValid = true := by
        obtain ⟨userId, ⟨i, -, hj, -⟩, -⟩ := auth.sender
        exact ring.joined i hj
      refine ⟨root, original, cfg.printer.printed message, id, ⟨fd, frame, env, here, arrived⟩, given, original_id, hm,
        hlt, ?_, ?_, printed_id _ hid, printed_id_kept _ hid⟩
      · intro m' held e
        rcases restoreBeforeId_cases ctx with ⟨hno, -⟩ | ⟨-, least⟩
        · exact hno m' held
        · have := least m' held
          have hlt' : id < restoreBeforeId ctx := hlt
          omega
      · intro later new' hnew' hmem
        have := later_ids cJSONParse ids ring valid later hnew' id hmem
        have hlt' : id < restoreBeforeId ctx := hlt
        omega

end EspWebChat.RecoveryBoundary
