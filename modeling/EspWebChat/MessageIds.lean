import EspWebChat.NodeSteps

set_option autoImplicit false

/-!
# Message ids over all boots

The flash bounds every id that was ever handed out: an id is persisted before the message is
stored under it, and a persist that fails leaves the old value or the new one.
-/
namespace EspWebChat.MessageIds
open Relation CircularBuffer ClientSlots Interruptible ServerWorld MessageIdStore History
open JsonGate WebSocketServer ServerSteps SessionSteps HistorySteps ProtocolSteps NodeSteps

variable {cfg : Config} {w u : World cfg}

def storedMessage : TraceEvent → Option Message
  | .stored m => some m
  | _ => none

def storedMessages (t : List TraceEvent) : List Message := t.filterMap storedMessage

def storedIds (t : List TraceEvent) : List ℕ := (storedMessages t).map Message.id

def loadAfter (loaded : Bool) : TraceEvent → Bool
  | .booted => false
  | .idsLoaded _ => true
  | _ => loaded

def loadedInBoot (t : List TraceEvent) : Bool := t.foldl loadAfter false

def StoredAfterLoad (t : List TraceEvent) : Prop :=
  ∀ before m after, t = before ++ .stored m :: after → loadedInBoot before = true

theorem mem_storedMessages {t : List TraceEvent} {m : Message} :
    m ∈ storedMessages t ↔ .stored m ∈ t := by
  simp only [storedMessages, List.mem_filterMap]
  constructor
  · rintro ⟨e, he, hm⟩
    cases e with
    | stored m' =>
      cases hm
      exact he
    | _ => cases hm
  · intro h
    exact ⟨_, h, rfl⟩

theorem storedMessages_append (t t' : List TraceEvent) :
    storedMessages (t ++ t') = storedMessages t ++ storedMessages t' :=
  List.filterMap_append ..

theorem storedIds_append (t t' : List TraceEvent) : storedIds (t ++ t') = storedIds t ++ storedIds t' := by
  rw [storedIds, storedMessages_append, List.map_append]
  rfl

theorem storedAfterLoad_concat {t : List TraceEvent} (h : StoredAfterLoad t) (e : TraceEvent)
    (he : ∀ m, e = .stored m → loadedInBoot t = true) : StoredAfterLoad (t ++ [e]) := by
  intro before m after eq
  rcases List.eq_nil_or_concat after with rfl | ⟨after', last, rfl⟩
  · obtain ⟨ht, hlast⟩ := List.append_inj' eq rfl
    rw [← ht]
    exact he m (List.singleton_inj.mp hlast)
  · rw [List.concat_eq_append, ← List.cons_append, ← List.append_assoc] at eq
    exact h before m after' (List.append_inj' eq rfl).1

def Quiet : Action → Prop
  | .nvs _ => False
  | .load _ => False
  | .unloaded => False
  | .store _ => False
  | _ => True

/-- What ids are about: the store, the counter and the ring. -/
structure SameIds (u v : World cfg) : Prop where
  nvs : v.nvs = u.nvs
  counter : v.ctx.messageIdCounter = u.ctx.messageIdCounter
  valid : v.ctx.messageIdCounterValid = u.ctx.messageIdCounterValid
  bootStart : v.ctx.bootStartId = u.ctx.bootStartId
  ring : v.ctx.messageBuffer = u.ctx.messageBuffer
  trace : v.trace = u.trace ∨
    ∃ e, v.trace = u.trace ++ [e] ∧ storedMessage e = none ∧ ∀ b, loadAfter b e = b

theorem act_sameIds {a : Action} (h : Quiet a) (u : World cfg) : SameIds u (act a u) := by
  cases a with
  | send d => exact ⟨rfl, rfl, rfl, rfl, rfl, .inr ⟨_, rfl, rfl, fun _ => rfl⟩⟩
  | bind now fd userId name =>
    change SameIds u (bindSlots now fd userId name u)
    unfold bindSlots
    split
    · exact ⟨rfl, rfl, rfl, rfl, rfl, .inl rfl⟩
    · exact ⟨rfl, rfl, rfl, rfl, rfl, .inr ⟨_, rfl, rfl, fun _ => rfl⟩⟩
  | nvs n => cases h
  | load state => cases h
  | unloaded => cases h
  | store m => cases h
  | _ => exact ⟨rfl, rfl, rfl, rfl, rfl, .inl rfl⟩

/-- Everything that is done to ids. -/
def idSteps (cfg : Config) : Permission cfg := fun u a =>
  Quiet a ∨ (u.ctx.messageIdCounterValid = false ∧ a = .unloaded) ∨ ∃ root, issues cfg root u a

/-- What the events do: only chat messages are stored, and a connection is bound only once the
    counter has been loaded. -/
def chatSteps (cfg : Config) : Permission cfg := fun u a =>
  (Quiet a ∧ ∀ now fd userId name, a = .bind now fd userId name → u.ctx.messageIdCounterValid = true) ∨
  (u.ctx.messageIdCounterValid = false ∧ a = .unloaded) ∨ retries cfg u a ∨
  ∃ root, IsChat root ∧ issues cfg root u a

theorem idSteps_of_chatSteps (u : World cfg) (a : Action) (h : chatSteps cfg u a) : idSteps cfg u a := by
  rcases h with ⟨h, -⟩ | h | h | ⟨root, -, h⟩
  · exact .inl h
  · exact .inr (.inl h)
  · exact .inr (.inr ⟨.null, .inl h⟩)
  · exact .inr (.inr ⟨root, h⟩)

theorem chatSteps_announces (u : World cfg) {a : Action} (h : announces cfg u a) :
    chatSteps cfg u a := by
  rcases h with ⟨fd, rfl⟩ | ⟨d, rfl, -⟩ <;> exact .inl ⟨trivial, by simp⟩

theorem frameStep_chatSteps {fd : ℤ} {input : Option JsonTree.Json} {a : Action}
    (h : FrameStep w fd input u a) : chatSteps cfg u a := by
  cases h with
  | answer _ h => exact chatSteps_announces u (announces_of_answers _ _ h)
  | retry _ h => exact .inr (.inr (.inl h))
  | announce _ _ h => exact chatSteps_announces u h
  | bind _ now userId name h => exact .inl ⟨trivial, fun _ _ _ _ _ => h.valid⟩
  | replay _ _ _ h =>
    rcases h with h | rfl | ⟨i, m, b, -, rfl⟩
    · exact chatSteps_announces u (announces_of_answers _ _ h)
    · exact .inl ⟨trivial, by simp⟩
    · exact .inl ⟨trivial, by simp⟩
  | issue _ root _ chat _ h => exact .inr (.inr (.inr ⟨root, chat, h⟩))
  | _ => exact .inl ⟨trivial, by simp⟩

theorem eventStep_chatSteps (cJSONParse : CJSONParse) (w : World cfg) (e : Event) (u : World cfg)
    (a : Action) (h : eventStep cJSONParse w e u a) : chatSteps cfg u a := by
  cases e with
  | powerOn env =>
    rcases h with h | h | ⟨now, rfl⟩
    · exact .inr (.inr (.inl h))
    · exact .inr (.inl h)
    · exact .inl ⟨trivial, by simp⟩
  | openSession fd => cases h
  | handshake fd env =>
    obtain ⟨now, rfl⟩ := h
    exact .inl ⟨trivial, by simp⟩
  | sweep env =>
    rcases h with ⟨now, delayed, rfl⟩ | h
    · exact .inl ⟨trivial, by simp⟩
    · exact chatSteps_announces u h
  | closeSession fd env => exact chatSteps_announces u h
  | frame fd frame env => exact frameStep_chatSteps h

def currentOf (s : NvsStore) : ℕ := s.current.getD 0

structure IdInvariant (w : World cfg) : Prop where
  increasing : (storedIds w.trace).Pairwise (· < ·)
  positive : ∀ id ∈ storedIds w.trace, 1 ≤ id
  storedFlash : ∀ id ∈ storedIds w.trace, id ≤ currentOf w.nvs.flash
  storedCached : ∀ id ∈ storedIds w.trace, id ≤ currentOf w.nvs.cached
  storedCounter : w.ctx.messageIdCounterValid = true →
    ∀ id ∈ storedIds w.trace, id ≤ w.ctx.messageIdCounter
  safeFlash : currentOf w.nvs.flash ≤ chatMessageMaxSafeId
  safeCached : currentOf w.nvs.cached ≤ chatMessageMaxSafeId
  counterFlash : w.ctx.messageIdCounterValid = true → w.ctx.messageIdCounter ≤ currentOf w.nvs.flash
  counterCached : w.ctx.messageIdCounterValid = true → w.ctx.messageIdCounter ≤ currentOf w.nvs.cached
  unloaded : w.ctx.messageIdCounterValid = false → currentOf w.nvs.cached = currentOf w.nvs.flash
  loaded : w.ctx.messageIdCounterValid = true → loadedInBoot w.trace = true
  afterLoad : StoredAfterLoad w.trace
  ring : ∀ i m, w.ctx.messageBuffer.cell i = some m → .stored m ∈ w.trace

theorem initial_ids (flash : InitialFlash) : IdInvariant (Node.initial flash : Node cfg).world := by
  have safe : currentOf flash.store ≤ chatMessageMaxSafeId := by
    unfold currentOf
    cases h : flash.store.current with
    | none => simp
    | some v => exact flash.safe v (by simp [h])
  constructor
  case increasing => exact List.Pairwise.nil
  case safeFlash => exact safe
  case safeCached => exact safe
  case unloaded => exact fun _ => rfl
  case afterLoad =>
    intro before m after eq
    cases before <;> cases eq
  all_goals intros; contradiction

theorem IdInvariant.quiet {v : World cfg} (h : IdInvariant u) (same : SameIds u v) : IdInvariant v := by
  have ids : storedIds v.trace = storedIds u.trace := by
    rcases same.trace with e | ⟨e, he, hs, -⟩
    · rw [e]
    · rw [he, storedIds_append]
      simp [storedIds, storedMessages, hs]
  have loaded : loadedInBoot v.trace = loadedInBoot u.trace := by
    rcases same.trace with e | ⟨e, he, -, hl⟩
    · rw [e]
    · rw [he, loadedInBoot, List.foldl_append]
      exact hl _
  have grown : ∀ e ∈ u.trace, e ∈ v.trace := by
    rcases same.trace with e | ⟨e, he, -, -⟩
    · rw [e]
      exact fun _ h => h
    · rw [he]
      exact fun _ h => List.mem_append_left _ h
  constructor
  case afterLoad =>
    rcases same.trace with e | ⟨e, he, hs, -⟩
    · rw [e]
      exact h.afterLoad
    · rw [he]
      refine storedAfterLoad_concat h.afterLoad e ?_
      rintro m rfl
      cases hs
  case ring =>
    intro i m hm
    rw [same.ring] at hm
    exact grown _ (h.ring i m hm)
  case increasing => rw [ids]; exact h.increasing
  case positive => rw [ids]; exact h.positive
  case storedFlash => rw [ids, same.nvs]; exact h.storedFlash
  case storedCached => rw [ids, same.nvs]; exact h.storedCached
  case storedCounter => rw [ids, same.counter, same.valid]; exact h.storedCounter
  case safeFlash => rw [same.nvs]; exact h.safeFlash
  case safeCached => rw [same.nvs]; exact h.safeCached
  case counterFlash => rw [same.nvs, same.counter, same.valid]; exact h.counterFlash
  case counterCached => rw [same.nvs, same.counter, same.valid]; exact h.counterCached
  case unloaded => rw [same.nvs, same.valid]; exact h.unloaded
  case loaded => rw [loaded, same.valid]; exact h.loaded

/-- RAM is lost; what the flash holds is at least every id that was handed out. -/
theorem IdInvariant.reset (h : IdInvariant w) : IdInvariant (reset w) := by
  have ids : storedIds (WebSocketServer.reset w).trace = storedIds w.trace :=
    (storedIds_append _ _).trans (List.append_nil _)
  constructor
  case increasing => rw [ids]; exact h.increasing
  case positive => rw [ids]; exact h.positive
  case storedFlash => rw [ids]; exact h.storedFlash
  case storedCached => rw [ids]; exact h.storedFlash
  case storedCounter => intro hv; cases hv
  case safeFlash => exact h.safeFlash
  case safeCached => exact h.safeFlash
  case counterFlash => intro hv; cases hv
  case counterCached => intro hv; cases hv
  case unloaded => exact fun _ => rfl
  case loaded => intro hv; cases hv
  case afterLoad =>
    refine storedAfterLoad_concat h.afterLoad _ ?_
    intro m hm
    cases hm
  case ring => intro i m hm; cases hm

theorem writes_le {v bound : ℕ} {n n' : Nvs} (wrote : Writes v n n') (hv : bound ≤ v)
    (cached : bound ≤ currentOf n.cached) (flash : bound ≤ currentOf n.flash) :
    bound ≤ currentOf n'.cached ∧ bound ≤ currentOf n'.flash := by
  unfold currentOf at *
  constructor
  · rcases wrote.cached with h | h
    · rw [h]; exact cached
    · rw [h]; exact hv
  · rcases wrote.flash with h | h | h
    · rw [h]; exact flash
    · rw [h]; exact hv
    · rw [h]; exact cached

theorem writes_ge {v bound : ℕ} {n n' : Nvs} (wrote : Writes v n n') (hv : v ≤ bound)
    (cached : currentOf n.cached ≤ bound) (flash : currentOf n.flash ≤ bound) :
    currentOf n'.cached ≤ bound ∧ currentOf n'.flash ≤ bound := by
  unfold currentOf at *
  constructor
  · rcases wrote.cached with h | h
    · rw [h]; exact cached
    · rw [h]; exact hv
  · rcases wrote.flash with h | h | h
    · rw [h]; exact flash
    · rw [h]; exact hv
    · rw [h]; exact cached

theorem IdInvariant.loadedId (h : IdInvariant u) : loadedId u.nvs = currentOf u.nvs.cached :=
  min_eq_left h.safeCached

/-- A write of `v` keeps the invariant when `v` is safe and not below what must be kept. -/
theorem IdInvariant.write (h : IdInvariant u) {v : ℕ} {n : Nvs} (wrote : Writes v u.nvs n)
    (safe : v ≤ chatMessageMaxSafeId) (stored : ∀ id ∈ storedIds u.trace, id ≤ v)
    (counter : u.ctx.messageIdCounterValid = true → u.ctx.messageIdCounter ≤ v)
    (unloaded : u.ctx.messageIdCounterValid = false → v = currentOf u.nvs.cached) :
    IdInvariant (act (.nvs n) u) := by
  have bounds := writes_ge wrote safe h.safeCached h.safeFlash
  constructor
  case increasing => exact h.increasing
  case positive => exact h.positive
  case storedFlash =>
    exact fun id hid => (writes_le wrote (stored id hid) (h.storedCached id hid) (h.storedFlash id hid)).2
  case storedCached =>
    exact fun id hid => (writes_le wrote (stored id hid) (h.storedCached id hid) (h.storedFlash id hid)).1
  case storedCounter => exact h.storedCounter
  case safeFlash => exact bounds.2
  case safeCached => exact bounds.1
  case counterFlash =>
    exact fun hv => (writes_le wrote (counter hv) (h.counterCached hv) (h.counterFlash hv)).2
  case counterCached =>
    exact fun hv => (writes_le wrote (counter hv) (h.counterCached hv) (h.counterFlash hv)).1
  case unloaded =>
    intro hv
    have eq := unloaded hv
    have flash := h.unloaded hv
    have low := writes_le wrote (show v ≤ v from le_rfl) (by omega) (by omega)
    have high := writes_ge wrote (show v ≤ v from le_rfl) (by omega) (by omega)
    change currentOf n.cached = currentOf n.flash
    omega
  case loaded => exact h.loaded
  case afterLoad => exact h.afterLoad
  case ring => exact h.ring

theorem IdInvariant.load (h : IdInvariant u) (invalid : u.ctx.messageIdCounterValid = false) :
    IdInvariant (act (.load (loadedState u.nvs)) u) := by
  have ids : storedIds (ServerSteps.act (.load (loadedState u.nvs)) u).trace = storedIds u.trace :=
    (storedIds_append _ _).trans (List.append_nil _)
  have current := h.loadedId
  have flash := h.unloaded invalid
  constructor
  case increasing => rw [ids]; exact h.increasing
  case positive => rw [ids]; exact h.positive
  case storedFlash => rw [ids]; exact h.storedFlash
  case storedCached => rw [ids]; exact h.storedCached
  case storedCounter =>
    intro _
    rw [ids]
    exact fun id hid => (h.storedCached id hid).trans current.ge
  case safeFlash => exact h.safeFlash
  case safeCached => exact h.safeCached
  case counterFlash =>
    intro _
    change HistorySteps.loadedId u.nvs ≤ currentOf u.nvs.flash
    omega
  case counterCached =>
    intro _
    change HistorySteps.loadedId u.nvs ≤ currentOf u.nvs.cached
    omega
  case unloaded => intro hv; cases hv
  case loaded =>
    intro _
    change loadedInBoot (u.trace ++ [_]) = true
    rw [loadedInBoot, List.foldl_append]
    rfl
  case afterLoad =>
    refine storedAfterLoad_concat h.afterLoad _ ?_
    intro m hm
    cases hm
  case ring => exact fun i m hm => List.mem_append_left _ (h.ring i m hm)

theorem push_cell {α : Type} {n : ℕ} {b : Buffer α n} {x y : α} {i : Fin n}
    (h : (b.push x).cell i = some y) : y = x ∨ b.cell i = some y := by
  by_cases hi : i = b.head
  · subst hi
    simp only [Buffer.push, Function.update_self, Option.some.injEq] at h
    exact .inl h.symm
  · simp only [Buffer.push, Function.update_of_ne hi] at h
    exact .inr h

theorem IdInvariant.store (h : IdInvariant u) {m : Message} (valid : u.ctx.messageIdCounterValid = true)
    (hid : m.id = u.ctx.messageIdCounter + 1) (cached : u.nvs.cached.current = some m.id)
    (flash : u.nvs.flash.current = some m.id) : IdInvariant (act (.store m) u) := by
  have ids : storedIds (ServerSteps.act (.store m) u).trace = storedIds u.trace ++ [m.id] :=
    storedIds_append _ _
  have hcached : currentOf u.nvs.cached = m.id := by rw [currentOf, cached]; rfl
  have hflash : currentOf u.nvs.flash = m.id := by rw [currentOf, flash]; rfl
  have below : ∀ id ∈ storedIds u.trace, id < m.id := by
    intro id hmem
    have := h.storedCounter valid id hmem
    omega
  have upto : ∀ id ∈ storedIds (ServerSteps.act (.store m) u).trace, id ≤ m.id := by
    intro id hmem
    rw [ids] at hmem
    rcases List.mem_append.mp hmem with hold | hnew
    · exact (below id hold).le
    · exact (List.mem_singleton.mp hnew).le
  constructor
  case increasing =>
    rw [ids, List.pairwise_append]
    refine ⟨h.increasing, List.pairwise_singleton _ _, ?_⟩
    intro a ha b hb
    cases List.mem_singleton.mp hb
    exact below a ha
  case positive =>
    intro id hmem
    rw [ids] at hmem
    rcases List.mem_append.mp hmem with hold | hnew
    · exact h.positive id hold
    · cases List.mem_singleton.mp hnew
      omega
  case storedFlash => exact fun id hmem => (upto id hmem).trans hflash.ge
  case storedCached => exact fun id hmem => (upto id hmem).trans hcached.ge
  case storedCounter => exact fun _ => upto
  case safeFlash => exact h.safeFlash
  case safeCached => exact h.safeCached
  case counterFlash => exact fun _ => hflash.ge
  case counterCached => exact fun _ => hcached.ge
  case unloaded =>
    intro hv
    change u.ctx.messageIdCounterValid = false at hv
    rw [valid] at hv
    cases hv
  case loaded =>
    intro _
    change loadedInBoot (u.trace ++ [_]) = true
    rw [loadedInBoot, List.foldl_append]
    exact h.loaded valid
  case afterLoad => exact storedAfterLoad_concat h.afterLoad _ (fun _ _ => h.loaded valid)
  case ring =>
    intro i m' hm'
    change .stored m' ∈ u.trace ++ [.stored m]
    rcases push_cell hm' with rfl | hold
    · exact List.mem_append_right _ (List.mem_singleton_self _)
    · exact List.mem_append_left _ (h.ring i m' hold)

theorem IdInvariant.unloadedStep (h : IdInvariant u) : IdInvariant (act .unloaded u) :=
  ⟨h.increasing, h.positive, h.storedFlash, h.storedCached, h.storedCounter, h.safeFlash, h.safeCached,
    h.counterFlash, h.counterCached, h.unloaded, h.loaded, h.afterLoad, h.ring⟩

theorem IdInvariant.retry (h : IdInvariant u) {a : Action} (ha : retries cfg u a) :
    IdInvariant (act a u) := by
  obtain ⟨invalid, ⟨n, rfl, wrote⟩ | rfl⟩ := ha
  · have current := h.loadedId
    rw [current] at wrote
    refine h.write wrote h.safeCached h.storedCached ?_ (fun _ => rfl)
    intro hv
    rw [invalid] at hv
    cases hv
  · exact h.load invalid

theorem IdInvariant.act (h : IdInvariant u) {a : Action} (ha : idSteps cfg u a) :
    IdInvariant (act a u) := by
  rcases ha with quiet | ⟨-, rfl⟩ | ⟨root, retry | ⟨valid, below, ⟨n, rfl, wrote⟩ | store⟩⟩
  · exact h.quiet (act_sameIds quiet u)
  · exact h.unloadedStep
  · exact h.retry retry
  · refine h.write wrote (by omega) ?_ (fun _ => by omega) ?_
    · intro id hid
      have := h.storedCounter valid id hid
      omega
    · intro hv
      rw [valid] at hv
      cases hv
  · obtain ⟨m, timestamp, rfl, hid, -, cached, flash, -⟩ := store
    exact h.store valid hid cached flash

theorem IdInvariant.entry (h : IdInvariant w) (e : Event) : IdInvariant (entry w e) := by
  cases e with
  | powerOn env => exact h.reset
  | closeSession fd env => exact h.quiet (act_sameIds (a := .free fd) trivial w)
  | _ => exact h

/-- An event of the node, or a call of `chat_history_finalize_and_store_message` by itself. -/
inductive Call where
  | node (e : Event)
  | send (root : JsonTree.Json) (env : ℕ → Reply)

def callStep (cJSONParse : CJSONParse) (s : Node cfg) : Call → Node cfg
  | .node e => step cJSONParse s e
  | .send root env => if s.powered then s.exec (chatHistoryFinalizeAndStoreMessage root) env else s

theorem idInvariant_step (cJSONParse : CJSONParse) {s : Node cfg} (h : IdInvariant s.world) (e : Event) :
    IdInvariant (step cJSONParse s e).world := by
  rcases step_steps cJSONParse s e with ⟨eq, -⟩ | ⟨-, path⟩
  · rw [eq]
    exact h
  · exact path_invariant path IdInvariant
      (fun u a hu ha => hu.act (idSteps_of_chatSteps u a (eventStep_chatSteps cJSONParse s.world e u a ha))) (h.entry e)

theorem idInvariant_callStep (cJSONParse : CJSONParse) {s : Node cfg} (h : IdInvariant s.world)
    (c : Call) : IdInvariant (callStep cJSONParse s c).world := by
  cases c with
  | node e => exact idInvariant_step cJSONParse h e
  | send root env =>
    by_cases hp : s.powered = true
    · simp only [callStep, if_pos hp]
      exact path_invariant (chatHistoryFinalizeAndStoreMessage_spec root env).1 IdInvariant
        (fun u a hu ha => hu.act (.inr (.inr ⟨root, ha⟩))) h
    · simp only [callStep, if_neg hp]
      exact h

theorem idInvariant_run (cJSONParse : CJSONParse) (flash : InitialFlash) (events : List Event) :
    IdInvariant (run cJSONParse (Node.initial flash : Node cfg) events).world :=
  run_invariant cJSONParse IdInvariant (fun _ e h => h.entry e)
    (fun w e u a hu ha => hu.act (idSteps_of_chatSteps u a (eventStep_chatSteps cJSONParse w e u a ha))) _ (initial_ids flash) events

/-- Over any number of boots, with any failures, ids only increase, stay safe, and are handed
    out only once the counter has been loaded. -/
theorem message_ids_increase (cJSONParse : CJSONParse) (flash : InitialFlash) (calls : List Call) :
    let s := calls.foldl (callStep cJSONParse) (Node.initial flash : Node cfg)
    (storedIds s.world.trace).Pairwise (· < ·) ∧
    (∀ id ∈ storedIds s.world.trace, 1 ≤ id ∧ id ≤ chatMessageMaxSafeId) ∧
    StoredAfterLoad s.world.trace ∧
    ∀ i m, s.world.ctx.messageBuffer.cell i = some m → .stored m ∈ s.world.trace := by
  intro s
  have h : IdInvariant s.world := by
    have all : ∀ (calls : List Call) (s : Node cfg), IdInvariant s.world →
        IdInvariant (calls.foldl (callStep cJSONParse) s).world := by
      intro calls
      induction calls with
      | nil => exact fun _ h => h
      | cons c calls ih => exact fun s h => ih _ (idInvariant_callStep cJSONParse h c)
    exact all calls _ (initial_ids flash)
  refine ⟨h.increasing, ?_, h.afterLoad, h.ring⟩
  intro id hid
  exact ⟨h.positive id hid, (h.storedFlash id hid).trans h.safeFlash⟩

end EspWebChat.MessageIds
