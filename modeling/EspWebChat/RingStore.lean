import EspWebChat.RecoveryBoundary

set_option autoImplicit false

/-!
# The ring after any run of stores

A call of `chat_history_finalize_and_store_message` leaves the ring as it was or pushes one
message under the next id, so the ring of a boot holds the last successful calls.
-/
namespace EspWebChat.RingStore
open JsonTree CircularBuffer CjsonPrinter ClientSlots Interruptible ServerWorld MessageIdStore History
open WebSocketServer ServerSteps HistorySteps TargetFields RecoveryBoundary

variable {cfg : Config} {w u : World cfg}

/-- Nothing is asked of the steps: the results of this module are about calls that return. -/
def AnyStep (_ _ : World cfg) : Prop := True

/-- The ring is as it was, and so is all of the context unless the counter has been loaded in between. -/
structure Untouched (w u : World cfg) : Prop where
  ring : u.ctx.messageBuffer = w.ctx.messageBuffer
  loaded : w.ctx.messageIdCounterValid = true → u.ctx = w.ctx
  unloaded : u.ctx.messageIdCounterValid = false → u.ctx = w.ctx

theorem Untouched.of_ctx (h : u.ctx = w.ctx) : Untouched w u :=
  ⟨congrArg AppContext.messageBuffer h, fun _ => h, fun _ => h⟩

structure Pushed (m : Message) (w u : World cfg) : Prop where
  ring : u.ctx.messageBuffer = w.ctx.messageBuffer.push m
  valid : u.ctx.messageIdCounterValid = true
  counter : u.ctx.messageIdCounter = m.id
  positive : 0 < m.id
  next : w.ctx.messageIdCounterValid = true → m.id = w.ctx.messageIdCounter + 1

theorem ensureIdStateLocked_ring : Traces AnyStep ensureIdStateLocked w (fun ret u =>
    Untouched w u ∧ (ret = .ok → u.ctx.messageIdCounterValid = true)) := by
  apply Traces.bind (P := fun valid u => u = w ∧ valid = w.ctx.messageIdCounterValid) (.reads ⟨rfl, rfl⟩)
  intro valid u _ h
  obtain ⟨rfl, rfl⟩ := h
  apply Traces.ite
  · intro valid
    exact .pure ⟨.of_ctx rfl, fun _ => valid⟩
  · intro invalid
    apply (chatMessageIdsLoad_spec.steps (fun _ _ _ => trivial)).bind
    intro r v _ h
    obtain ⟨⟨n, rfl⟩, -⟩ := h
    apply Traces.ite
    · intro _
      apply Traces.pure
      constructor
      · exact .of_ctx rfl
      · intro hret
        split_ifs at hret with hok
        exact absurd hret hok
    · intro _
      apply Traces.bind (P := fun _ x => x = adoptIdState r.2 _) (.writes trivial rfl)
      intro _ x _ hx
      subst hx
      exact .pure ⟨⟨rfl, fun valid => absurd valid invalid, fun unloaded => absurd unloaded (by simp [adoptIdState, World.record])⟩,
        fun _ => rfl⟩

/-- What a call answers: an error and nothing, or the payload of the message it has pushed. -/
inductive Answered (root : Json) (w u : World cfg) : EspErr × Option Json → Prop
  | failed {ret : EspErr} (error : ret ≠ .ok) (same : Untouched w u) : Answered root w u (ret, none)
  | stored {m : Message} {timestamp : ℤ} (payload : m.payload = cfg.printer.printed (finalized root m.id timestamp))
      (pushed : Pushed m w u) : Answered root w u (.ok, some m.payload)

theorem chatHistoryFinalizeAndStoreMessage_ring (root : Json) :
    Traces AnyStep (chatHistoryFinalizeAndStoreMessage root) w (fun r u => Answered root w u r) := by
  apply ensureIdStateLocked_ring.bind
  intro ret u _ hu
  apply Traces.ite
  · intro error
    exact .pure (.failed error hu.1)
  · intro ok
    have valid := hu.2 (not_not.mp ok)
    apply Traces.bind (P := fun ctx v => ctx = u.ctx ∧ v = u) (.reads ⟨rfl, rfl⟩)
    intro ctx v _ h
    obtain ⟨rfl, rfl⟩ := h
    apply Traces.ite
    · intro _
      exact .pure (.failed (by decide) hu.1)
    · intro _
      apply currentTimestampS_spec.bind
      intro timestamp x _ hx
      subst hx
      apply allocates_spec.bind
      intro idAdded y _ hy
      subst hy
      apply Traces.bind (P := fun _ z => z = y) (.ite (fun _ => allocates_spec) (fun _ => .pure rfl))
      intro timestampAdded z _ hz
      subst hz
      apply Traces.ite
      · intro _
        exact .pure (.failed (by decide) hu.1)
      · intro _
        apply printUnformatted_spec.bind
        intro printed x _ h
        obtain ⟨rfl, hp⟩ := h
        cases printed with
        | none => exact .pure (.failed (by decide) hu.1)
        | some payload =>
          apply ((chatMessageIdsPersist_spec _ _).steps (fun _ _ _ => trivial)).bind
          intro ret y _ persisted
          obtain ⟨n, rfl⟩ := persisted.frame
          apply Traces.ite
          · intro error
            exact .pure (.failed error ⟨hu.1.ring, hu.1.loaded, hu.1.unloaded⟩)
          · intro _
            apply Traces.bind (P := fun _ z => z = storeMessage ⟨payload, x.ctx.messageIdCounter + 1⟩ _)
              (.writes trivial rfl)
            intro _ z _ hz
            subst hz
            apply Traces.pure
            apply Answered.stored (m := ⟨payload, x.ctx.messageIdCounter + 1⟩) (hp payload rfl)
            constructor
            case ring => exact congrArg (fun ring => Buffer.push ring _) hu.1.ring
            case valid => exact valid
            case counter => rfl
            case positive => exact Nat.succ_pos _
            case next =>
              intro loaded
              rw [← hu.1.loaded loaded]

structure Newest (w : World cfg) (ms : List Message) : Prop where
  holds : Holds w.ctx.messageBuffer ms
  contiguous : ∀ k m, ms[k]? = some m → m.id + k = w.ctx.messageIdCounter
  positive : ∀ m ∈ ms, 0 < m.id
  loaded : ms ≠ [] → w.ctx.messageIdCounterValid = true

theorem newest_start (state : MessageIdState) (w : World cfg) : Newest (startContext state w) [] := by
  have ring : (startContext state w).ctx.messageBuffer = Buffer.empty cfg.maxMessages_pos := by
    unfold startContext
    dsimp only
    split_ifs
    · rfl
    · rfl
  constructor
  case holds =>
    rw [ring]
    exact holds_empty _
  case contiguous =>
    intro k m h
    cases h
  case positive =>
    intro m h
    cases h
  case loaded =>
    intro h
    exact absurd rfl h

theorem Newest.untouched {ms : List Message} (h : Newest w ms) (same : Untouched w u) : Newest u ms := by
  constructor
  case holds =>
    rw [same.ring]
    exact h.holds
  case contiguous =>
    intro k m hk
    have some_message : ms ≠ [] := by
      intro none
      rw [none] at hk
      cases hk
    rw [same.loaded (h.loaded some_message)]
    exact h.contiguous k m hk
  case positive => exact h.positive
  case loaded =>
    intro some_message
    rw [same.loaded (h.loaded some_message)]
    exact h.loaded some_message

theorem Newest.pushed {ms : List Message} {m : Message} (h : Newest w ms) (pushed : Pushed m w u) :
    Newest u (m :: ms) := by
  constructor
  case holds =>
    rw [pushed.ring]
    exact holds_push h.holds m
  case contiguous =>
    intro k m' hk
    rw [pushed.counter]
    cases k with
    | zero =>
      cases hk
      rfl
    | succ k =>
      have earlier : ms[k]? = some m' := hk
      have some_message : ms ≠ [] := by
        intro none
        rw [none] at earlier
        cases earlier
      have before := h.contiguous k m' earlier
      have next := pushed.next (h.loaded some_message)
      omega
  case positive =>
    intro m' hm'
    cases List.mem_cons.mp hm' with
    | inl new => exact new ▸ pushed.positive
    | inr earlier => exact h.positive m' earlier
  case loaded =>
    intro _
    exact pushed.valid

section positions
variable {ms : List Message} {m : Message}

theorem held_getElem (holds : Holds w.ctx.messageBuffer ms) {k : ℕ} (hk : k < cfg.maxMessages)
    (hm : ms[k]? = some m) : Held w.ctx.messageBuffer m :=
  ⟨_, (holds k hk).trans hm⟩

theorem held_position (holds : Holds w.ctx.messageBuffer ms) (held : Held w.ctx.messageBuffer m) :
    ∃ k, k < cfg.maxMessages ∧ k < ms.length ∧ ms[k]? = some m := by
  obtain ⟨k, hk⟩ := List.mem_iff_getElem?.mp ((cell_some_iff holds m).mp held)
  have bound := (List.getElem?_eq_some_iff.mp hk).choose
  rw [List.length_take] at bound
  rw [List.getElem?_take_of_lt (by omega)] at hk
  exact ⟨k, by omega, by omega, hk⟩

theorem Newest.held_id (h : Newest w ms) (held : Held w.ctx.messageBuffer m) :
    ∃ k, k < cfg.maxMessages ∧ ms[k]? = some m ∧ m.id + k = w.ctx.messageIdCounter := by
  obtain ⟨k, capacity, -, hk⟩ := held_position h.holds held
  exact ⟨k, capacity, hk, h.contiguous k m hk⟩

theorem Newest.held_unique (h : Newest w ms) {m' : Message} (held : Held w.ctx.messageBuffer m)
    (held' : Held w.ctx.messageBuffer m') (same : m.id = m'.id) : m = m' := by
  obtain ⟨k, -, hk, position⟩ := h.held_id held
  obtain ⟨k', -, hk', position'⟩ := h.held_id held'
  obtain rfl : k = k' := by omega
  exact Option.some.inj (hk.symm.trans hk')

end positions

theorem lastMember_append_self {j : Json} {key : String} {v : Json} (object : j.isObject = true) :
    (j.append key v).lastMember key = some v := by
  cases j with
  | obj ms =>
    change List.lookup key (ms ++ [(key, v)]).reverse = some v
    rw [List.reverse_append, List.reverse_singleton, List.singleton_append, lookup_cons, if_pos rfl]
  | _ => cases object

theorem lastMember_append_ne {j : Json} {key other : String} {v : Json} (h : other ≠ key) :
    (j.append key v).lastMember other = j.lastMember other := by
  cases j with
  | obj ms =>
    change List.lookup other (ms ++ [(key, v)]).reverse = List.lookup other ms.reverse
    rw [List.reverse_append, List.reverse_singleton, List.singleton_append, lookup_cons, if_neg h]
  | _ => rfl

theorem finalized_id {root : Json} {id : ℕ} {timestamp : ℤ} (object : root.isObject = true) :
    (finalized root id timestamp).lastMember "id" = some (natJson id) := by
  unfold finalized
  rw [lastMember_append_ne (by decide)]
  apply lastMember_append_self
  cases root with
  | obj ms => rfl
  | _ => cases object

theorem finalized_timestamp {root : Json} {id : ℕ} {timestamp : ℤ} (object : root.isObject = true) :
    (finalized root id timestamp).lastMember "timestamp" = some (intJson timestamp) := by
  unfold finalized
  apply lastMember_append_self
  cases root with
  | obj ms => rfl
  | _ => cases object

/-- A reader of the payload finds the id of its slot. -/
def OwnId (m : Message) : Prop :=
  m.payload.lastMember "id" = some (natJson m.id) ∧ m.payload.member "id" = some (natJson m.id)

/-- The payload says which id its slot has, as far as the printed number does. -/
structure Carries (p : Printer) (root : Json) (m : Message) : Prop where
  finalized : ∃ timestamp, m.payload = p.printed (finalized root m.id timestamp)
  last : root.isObject = true → m.payload.lastMember "id" = some (.num (p.read m.id))
  first : root.isObject = true → UniqueKeys root.members → m.payload.member "id" = some (.num (p.read m.id))
  own : root.isObject = true → UniqueKeys root.members → (OwnId m ↔ p.Keeps m.id)

theorem carries_finalized {p : Printer} {root : Json} {m : Message} {timestamp : ℤ}
    (payload : m.payload = p.printed (finalized root m.id timestamp)) : Carries p root m := by
  have last : root.isObject = true → m.payload.lastMember "id" = some (.num (p.read m.id)) := by
    intro object
    rw [payload, p.printed_lastMember, finalized_id object]
    rfl
  have first : root.isObject = true → UniqueKeys root.members → m.payload.member "id" = some (.num (p.read m.id)) := by
    intro object unique
    rw [payload, ← lastMember_eq _ (p.printed_unique (finalized_unique unique)), ← payload]
    exact last object
  refine ⟨⟨timestamp, payload⟩, last, first, ?_⟩
  intro object unique
  unfold OwnId Printer.Keeps
  rw [last object, first object unique, and_self, natJson, Option.some.injEq, Json.num.injEq]

structure Call where
  root : Json
  ret : EspErr
  payload : Option Json

/-- The calls a boot has made so far, newest first; between them nothing touches the history. -/
inductive Calls (start : World cfg) : List Call → World cfg → Prop
  | none : Calls start [] start
  | more {calls : List Call} {w : World cfg} (earlier : Calls start calls w) (root : Json) (env : ℕ → Reply)
      {ret : EspErr} {payload : Option Json}
      (returns : (chatHistoryFinalizeAndStoreMessage root env w).result = some (ret, payload)) :
      Calls start (⟨root, ret, payload⟩ :: calls) (chatHistoryFinalizeAndStoreMessage root env w).world

def successes (calls : List Call) : List Call := calls.filter (fun call => decide (call.ret = .ok))

def Stores (p : Printer) (m : Message) (call : Call) : Prop := call.payload = some m.payload ∧ Carries p call.root m

/-- `ms` are the messages of the successful calls, newest first. -/
structure Kept (calls : List Call) (w : World cfg) (ms : List Message) : Prop extends Newest w ms where
  stores : List.Forall₂ (Stores cfg.printer) ms (successes calls)

theorem successes_failed {calls : List Call} {call : Call} (error : call.ret ≠ .ok) :
    successes (call :: calls) = successes calls := by
  unfold successes
  rw [List.filter_cons_of_neg]
  simpa using error

theorem successes_stored {calls : List Call} {call : Call} (ok : call.ret = .ok) :
    successes (call :: calls) = call :: successes calls := by
  unfold successes
  rw [List.filter_cons_of_pos]
  simpa using ok

theorem kept_start (state : MessageIdState) (w : World cfg) : Kept [] (startContext state w) [] :=
  ⟨newest_start state w, .nil⟩

theorem Kept.untouched {calls : List Call} {ms : List Message} {call : Call} (h : Kept calls w ms)
    (error : call.ret ≠ .ok) (same : Untouched w u) : Kept (call :: calls) u ms := by
  constructor
  case toNewest => exact h.toNewest.untouched same
  case stores =>
    rw [successes_failed error]
    exact h.stores

theorem Kept.pushed {calls : List Call} {ms : List Message} {call : Call} {m : Message} (h : Kept calls w ms)
    (ok : call.ret = .ok) (stores : Stores cfg.printer m call) (pushed : Pushed m w u) : Kept (call :: calls) u (m :: ms) := by
  constructor
  case toNewest => exact h.toNewest.pushed pushed
  case stores =>
    rw [successes_stored ok]
    exact .cons stores h.stores

theorem Kept.answered {calls : List Call} {ms : List Message} {root : Json} {ret : EspErr}
    {payload : Option Json} (h : Kept calls w ms) (answered : Answered root w u (ret, payload)) :
    ∃ ms', Kept (⟨root, ret, payload⟩ :: calls) u ms' := by
  cases answered with
  | failed error same => exact ⟨ms, h.untouched error same⟩
  | stored payload pushed => exact ⟨_, h.pushed rfl ⟨rfl, carries_finalized payload⟩ pushed⟩

theorem kept_calls {start : World cfg} (zero : Kept [] start []) {calls : List Call} (h : Calls start calls w) :
    ∃ ms, Kept calls w ms := by
  induction h with
  | none => exact ⟨[], zero⟩
  | more earlier root env returns ih =>
    obtain ⟨ms, kept⟩ := ih
    exact kept.answered ((chatHistoryFinalizeAndStoreMessage_ring root env).2 _ returns)

theorem scan_count (cells : List (Option Message)) (s : Scan) :
    (cells.foldl scanCell s).count = s.count + cells.countP Option.isSome := by
  induction cells generalizing s with
  | nil => rfl
  | cons cell cells ih =>
    rw [List.foldl_cons, ih]
    cases cell with
    | none => simp [scanCell]
    | some m =>
      simp only [scanCell, List.countP_cons, Option.isSome_some, if_true]
      omega

theorem scanRing_count {n : ℕ} {ring : Buffer Message n} {ms : List Message} (h : Holds ring ms) :
    (scanRing ring).count = min ms.length n := by
  unfold scanRing
  rw [scan_count, List.countP_map, Nat.zero_add, ← occupied_count h]
  rfl

theorem scan_latest (cells : List (Option Message)) (s : Scan) :
    (cells.foldl scanCell s).latestId = s.latestId ∨
      ∃ m, some m ∈ cells ∧ m.id = (cells.foldl scanCell s).latestId := by
  induction cells generalizing s with
  | nil => exact .inl rfl
  | cons cell cells ih =>
    rw [List.foldl_cons]
    cases ih (scanCell s cell) with
    | inr found =>
      obtain ⟨m, hm, e⟩ := found
      exact .inr ⟨m, List.mem_cons_of_mem _ hm, e⟩
    | inl same =>
      rw [same]
      cases cell with
      | none => exact .inl rfl
      | some m =>
        change max s.latestId m.id = s.latestId ∨ ∃ m' : Message, _ ∧ m'.id = max s.latestId m.id
        by_cases newer : s.latestId < m.id
        · exact .inr ⟨m, List.mem_cons_self, by omega⟩
        · exact .inl (by omega)

/-- The messages of the successful calls, newest first, and what the ring and its bounds show of them. -/
structure StoredRing (calls : List Call) (w : World cfg) (ms : List Message) : Prop where
  stores : List.Forall₂ (Stores cfg.printer) ms (successes calls)
  ids : ∀ k m, ms[k]? = some m → m.id + k = w.ctx.messageIdCounter
  cells : Holds w.ctx.messageBuffer ms
  held : ∀ m, Held w.ctx.messageBuffer m ↔ m ∈ ms.take cfg.maxMessages
  head : w.ctx.messageBuffer.cell w.ctx.messageBuffer.head = ms[cfg.maxMessages - 1]?
  count : (chatHistoryFillBoundsLocked w.ctx).count = min (successes calls).length cfg.maxMessages
  latest : 0 < (chatHistoryFillBoundsLocked w.ctx).count →
    (chatHistoryFillBoundsLocked w.ctx).latestId = w.ctx.messageIdCounter
  earliest : 0 < (chatHistoryFillBoundsLocked w.ctx).count → (chatHistoryFillBoundsLocked w.ctx).earliestId =
    w.ctx.messageIdCounter - (chatHistoryFillBoundsLocked w.ctx).count + 1

section bounds
variable {calls : List Call} {ms : List Message}

theorem latest_counter (kept : Kept calls w ms) (some_message : 0 < (scanRing w.ctx.messageBuffer).count) :
    (scanRing w.ctx.messageBuffer).latestId = w.ctx.messageIdCounter := by
  have scan := scanRing_scanned w.ctx.messageBuffer
  have count := scanRing_count kept.holds
  have capacity := cfg.maxMessages_pos
  have newest := List.getElem?_eq_getElem (show 0 < ms.length by omega)
  have counter := kept.contiguous 0 _ newest
  have reported := (scan.bounds _ (mem_cells.mpr (held_getElem kept.holds capacity newest))).2
  cases scan_latest ((List.finRange cfg.maxMessages).map w.ctx.messageBuffer.cell) ⟨0, 0, 0⟩ with
  | inl none =>
    change (scanRing w.ctx.messageBuffer).latestId = 0 at none
    omega
  | inr found =>
    obtain ⟨m, hm, e⟩ := found
    change m.id = (scanRing w.ctx.messageBuffer).latestId at e
    obtain ⟨k, -, -, hk⟩ := held_position kept.holds (mem_cells.mp hm)
    have older := kept.contiguous k m hk
    omega

theorem earliest_counter (kept : Kept calls w ms) (some_message : 0 < (scanRing w.ctx.messageBuffer).count) :
    (scanRing w.ctx.messageBuffer).earliestId =
      w.ctx.messageIdCounter - (scanRing w.ctx.messageBuffer).count + 1 := by
  have scan := scanRing_scanned w.ctx.messageBuffer
  have count := scanRing_count kept.holds
  have oldest := List.getElem?_eq_getElem (show min ms.length cfg.maxMessages - 1 < ms.length by omega)
  have position := kept.contiguous _ _ oldest
  have low := (scan.bounds _ (mem_cells.mpr (held_getElem kept.holds (by omega) oldest))).1
  obtain ⟨m, hm, e⟩ := scan.found (by omega)
  obtain ⟨k, hk, inside, at_k⟩ := held_position kept.holds (mem_cells.mp hm)
  have later := kept.contiguous k m at_k
  have positive := kept.positive _ (List.getElem_mem (show min ms.length cfg.maxMessages - 1 < ms.length by omega))
  omega

end bounds

theorem storedRing_of_kept {calls : List Call} {ms : List Message} (kept : Kept calls w ms) :
    StoredRing calls w ms := by
  have length := kept.stores.length_eq
  have count := scanRing_count kept.holds
  constructor
  case stores => exact kept.stores
  case ids => exact kept.contiguous
  case cells => exact kept.holds
  case held =>
    intro m
    exact cell_some_iff kept.holds m
  case head =>
    have capacity := cfg.maxMessages_pos
    rw [← kept.holds _ (by omega), back_last]
  case count =>
    change (scanRing w.ctx.messageBuffer).count = _
    rw [count, length]
  case latest => exact latest_counter kept
  case earliest => exact earliest_counter kept

theorem Stores.of_mem {p : Printer} {ms : List Message} {calls : List Call} (h : List.Forall₂ (Stores p) ms calls)
    {m : Message} (hm : m ∈ ms) : ∃ call ∈ calls, Stores p m call := by
  induction h with
  | nil => cases hm
  | cons stores _ ih =>
    cases List.mem_cons.mp hm with
    | inl same => exact ⟨_, List.mem_cons_self, same ▸ stores⟩
    | inr rest =>
      obtain ⟨call, hcall, stores⟩ := ih rest
      exact ⟨call, List.mem_cons_of_mem _ hcall, stores⟩

/-- The callers have read every message from a text with distinct keys. -/
def Readable (calls : List Call) : Prop := ∀ call ∈ calls, call.root.isObject = true ∧ UniqueKeys call.root.members

theorem StoredRing.own {calls : List Call} {ms : List Message} (h : StoredRing calls w ms) (readable : Readable calls)
    {m : Message} (hm : m ∈ ms) : OwnId m ↔ cfg.printer.Keeps m.id := by
  obtain ⟨call, successful, -, carries⟩ := Stores.of_mem h.stores hm
  obtain ⟨object, unique⟩ := readable call (List.mem_filter.mp successful).1
  exact carries.own object unique

theorem StoredRing.own_iff {calls : List Call} {ms : List Message} (h : StoredRing calls w ms) (readable : Readable calls) :
    (∀ m, Held w.ctx.messageBuffer m → OwnId m) ↔
      ∀ k < min (successes calls).length cfg.maxMessages, cfg.printer.Keeps (w.ctx.messageIdCounter - k) := by
  have in_ring : (∀ m, Held w.ctx.messageBuffer m → OwnId m) ↔ ∀ m ∈ ms.take cfg.maxMessages, OwnId m :=
    forall_congr' (fun m => imp_congr_left (h.held m))
  rw [in_ring, List.forall_mem_iff_getElem, ← h.stores.length_eq]
  simp only [List.length_take, List.getElem_take, min_comm cfg.maxMessages]
  refine forall₂_congr ?_
  intro k there
  have stored : k < ms.length := lt_of_lt_of_le there (min_le_left _ _)
  have id := h.ids k _ (List.getElem?_eq_getElem stored)
  rw [h.own readable (List.getElem_mem stored), show ms[k].id = w.ctx.messageIdCounter - k by omega]

/-- A failed call changes neither the ring with its head nor a loaded counter. After any calls of
    a boot the ring holds the messages of the last successful ones under the last ids, the head
    stands at a free cell or the oldest message, and the bounds report just that. The payloads in
    the ring have their ids in them if and only if the digits of these ids are enough. -/
theorem ring_store (state : MessageIdState) (w : World cfg) :
    (∀ (root : Json) (env : ℕ → Reply) (u : World cfg) (ret : EspErr) (payload : Option Json),
      (chatHistoryFinalizeAndStoreMessage root env u).result = some (ret, payload) → ret ≠ .ok →
      Untouched u (chatHistoryFinalizeAndStoreMessage root env u).world) ∧
    ∀ (calls : List Call) (u : World cfg), Calls (startContext state w) calls u → ∃ ms, StoredRing calls u ms ∧
      (Readable calls → ((∀ m, Held u.ctx.messageBuffer m → OwnId m) ↔
        ∀ k < min (successes calls).length cfg.maxMessages, cfg.printer.Keeps (u.ctx.messageIdCounter - k))) := by
  constructor
  · intro root env u ret payload returns error
    cases (chatHistoryFinalizeAndStoreMessage_ring root env).2 _ returns with
    | failed _ same => exact same
    | stored _ _ => exact absurd rfl error
  · intro calls u run
    obtain ⟨ms, kept⟩ := kept_calls (kept_start state w) run
    have ring := storedRing_of_kept kept
    exact ⟨ms, ring, ring.own_iff⟩

/-- The last id that has been given is the last one that fifteen digits are enough for. -/
def countedIds : MessageIdState := ⟨4503599627370499, 4503599627370498, true⟩

def counted : World (Config.default fifteenDigits) := ⟨AppContext.zero _, ⟨⟨none, none⟩, ⟨none, none⟩⟩, []⟩

def plainText : Json := .obj [("type", .str "text"), ("from", .str "alice"), ("name", .str "Alice"), ("data", .str "hi")]

def oneCall : Outcome Reply (World (Config.default fifteenDigits)) (EspErr × Option Json) :=
  chatHistoryFinalizeAndStoreMessage plainText
    (fun _ => .calm 0) (startContext countedIds counted)

theorem plainText_unique : UniqueKeys plainText.members := by
  unfold UniqueKeys
  decide

theorem oneCall_stores : oneCall.result.isSome = true ∧ (List.finRange (Config.default fifteenDigits).maxMessages).any
    (fun i => (oneCall.world.ctx.messageBuffer.cell i).any (fun m => m.id == 4503599627370499)) = true := by
  decide +kernel

/-- The message in the slot of 4503599627370499 says that its id is 4503599627370500. -/
theorem rounded_slot_id : ¬∀ (state : MessageIdState) (w u : World (Config.default fifteenDigits)) (calls : List Call),
    Calls (startContext state w) calls u → Readable calls → ∀ m, Held u.ctx.messageBuffer m → OwnId m := by
  intro always
  obtain ⟨returns, found⟩ := oneCall_stores
  obtain ⟨⟨ret, payload⟩, returned⟩ := Option.isSome_iff_exists.mp returns
  obtain ⟨i, -, some_message⟩ := List.any_eq_true.mp found
  obtain ⟨m, cell, id⟩ := (Option.any_eq_true _ _).mp some_message
  have run : Calls (startContext countedIds counted) [⟨plainText, ret, payload⟩] oneCall.world := .more .none _ _ returned
  have readable : Readable [⟨plainText, ret, payload⟩] := by
    intro call only
    rw [List.mem_singleton.mp only]
    exact ⟨rfl, plainText_unique⟩
  obtain ⟨ms, kept⟩ := kept_calls (kept_start countedIds counted) run
  have ring := storedRing_of_kept kept
  have among := List.mem_of_mem_take ((ring.held m).mp ⟨i, cell⟩)
  have keeps := (ring.own readable among).mp (always countedIds counted _ _ run readable m ⟨i, cell⟩)
  rw [beq_iff_eq.mp id] at keeps
  exact absurd keeps (by decide)

end EspWebChat.RingStore
