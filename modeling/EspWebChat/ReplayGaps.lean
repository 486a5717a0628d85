import EspWebChat.RingStore

set_option autoImplicit false

/-!
# A replay while messages keep arriving

`chat_history_send_to_client` holds the lock while it selects and copies one message, and
anyone may store messages in between. Each round of the replay is described by the messages
stored in the gap before it and the message it sends.
-/
namespace EspWebChat.ReplayGaps
open Relation JsonTree CircularBuffer ClientSlots Interruptible ServerWorld MessageIdStore Sessions History
open ServerSteps SessionSteps HistorySteps RecoveryBoundary RingStore

variable {cfg : Config} {w u v : World cfg} {ms new : List Message} {m : Message}

def storeAll : List Json → Server cfg Unit
  | [] => pure ()
  | root :: roots => do
    let _ ← chatHistoryFinalizeAndStoreMessage root
    storeAll roots

/-- `replayFrom` with the stores of `gaps i` before its `i`-th selection. -/
def replayBetween (fd : ℤ) (replayUntil : ℕ) : ℕ → (ℕ → List Json) → ℕ → Server cfg EspErr
  | 0, _, _ => pure .ok
  | k + 1, gaps, cursor =>
    if cursor < replayUntil then do
      storeAll (gaps 0)
      let ring ← reads (fun w => w.ctx.messageBuffer)
      match nextReplay ring cursor replayUntil with
      | none => pure .ok
      | some m => do
        let copied ← allocates
        if !copied then do
          let ret ← chatWsSendError fd "server_busy" "Message history is temporarily unavailable"
          pure (if ret = .ok then .noMem else ret)
        else do
          let ret ← chatWsSendText fd m.payload
          if ret ≠ .ok then do
            chatWsCloseClient fd
            pure ret
          else replayBetween fd replayUntil k (fun i => gaps (i + 1)) m.id
    else pure .ok

def chatHistorySendToClientBetween (gaps : ℕ → List Json) (fd : ℤ) (sinceId : ℕ) : Server cfg EspErr := do
  let replayUntil ← reads (fun w => w.ctx.messageIdCounter)
  replayBetween fd replayUntil cfg.maxMessages gaps sinceId

theorem replayBetween_nothing (fd : ℤ) (replayUntil k cursor : ℕ) :
    (replayBetween fd replayUntil k (fun _ => []) cursor : Server cfg EspErr) =
      replayFrom fd replayUntil k cursor := by
  induction k generalizing cursor with
  | zero => rfl
  | succ k ih =>
    unfold replayBetween replayFrom
    simp only [ih]
    rfl

/-- `new` are the messages stored between `w` and `u`, oldest first. -/
structure Gap (w : World cfg) (ms new : List Message) (u : World cfg) : Prop where
  newest : Newest u (new.reverse ++ ms)
  valid : u.ctx.messageIdCounterValid = true
  counter : u.ctx.messageIdCounter = w.ctx.messageIdCounter + new.length
  trace : u.trace = w.trace ++ new.map .stored

theorem Gap.nothing (newest : Newest w ms) (valid : w.ctx.messageIdCounterValid = true) : Gap w ms [] w :=
  ⟨newest, valid, rfl, (List.append_nil _).symm⟩

def storing (cfg : Config) : Permission cfg := fun u a => ∃ root, issues cfg root u a

theorem storeAll_spec (roots : List Json) : Traces (Steps (storing cfg)) (storeAll roots) w (fun _ _ => True) := by
  induction roots generalizing w with
  | nil => exact .pure trivial
  | cons root roots ih =>
    apply (permitsAll (chatHistoryFinalizeAndStoreMessage_spec root) (fun _ _ h => ⟨root, h⟩)).bind
    intro _ u _ _
    exact ih

theorem Gap.act {a : Action} (h : Gap w ms new u) (ha : storing cfg u a) : ∃ new', Gap w ms new' (act a u) := by
  obtain ⟨root, retry | ⟨-, -, persist | store⟩⟩ := ha
  · have invalid := retry.1
    rw [h.valid] at invalid
    cases invalid
  · obtain ⟨n, rfl, -⟩ := persist
    exact ⟨new, h.newest.untouched (.of_ctx rfl), h.valid, h.counter, h.trace⟩
  · obtain ⟨m, timestamp, rfl, id, -⟩ := store
    refine ⟨new ++ [m], ?_, h.valid, ?_, ?_⟩
    · rw [List.reverse_append, List.reverse_singleton, List.append_assoc, List.singleton_append]
      exact h.newest.pushed ⟨rfl, h.valid, rfl, by omega, fun _ => id⟩
    · change m.id = _
      rw [id, h.counter, List.length_append, List.length_singleton, Nat.add_assoc]
    · change u.trace ++ [.stored m] = _
      rw [h.trace, List.map_append, List.map_singleton, List.append_assoc]

theorem storeAll_gap (newest : Newest w ms) (valid : w.ctx.messageIdCounterValid = true) (roots : List Json) :
    Ends (storeAll roots) w (fun _ u => ∃ new, Gap w ms new u ∧ (roots = [] → new = [])) := by
  cases roots with
  | nil => exact .pure ⟨[], .nothing newest valid, fun _ => rfl⟩
  | cons root roots =>
    have kept := (storeAll_spec (root :: roots)).ends (fun u => ∃ new, Gap w ms new u)
      ⟨[], .nothing newest valid⟩ (by
      intro u v h step
      obtain ⟨new, gap⟩ := h
      obtain ⟨a, ha, rfl⟩ := step
      exact gap.act ha)
    apply kept.post
    intro r u h
    obtain ⟨⟨new, gap⟩, -⟩ := h
    exact ⟨new, gap, fun none => absurd none (List.cons_ne_nil _ _)⟩

theorem Gap.held_before (gap : Gap w ms new u) (newest : Newest w ms) (held : Held u.ctx.messageBuffer m)
    (old : m.id ≤ w.ctx.messageIdCounter) : Held w.ctx.messageBuffer m := by
  obtain ⟨k, capacity, hk, position⟩ := gap.newest.held_id held
  have counter := gap.counter
  rw [List.getElem?_append_right (by rw [List.length_reverse]; omega), List.length_reverse] at hk
  exact held_getElem newest.holds (by omega) hk

/-- What has left the ring in the gap was overwritten by one of its stores. -/
theorem Gap.evicts (gap : Gap w ms new u) (newest : Newest w ms) (held : Held w.ctx.messageBuffer m)
    (gone : ¬Held u.ctx.messageBuffer m) : ∃ m' ∈ new, m'.id = m.id + cfg.maxMessages := by
  obtain ⟨k, capacity, hk, position⟩ := newest.held_id held
  have counter := gap.counter
  have later : (new.reverse ++ ms)[k + new.length]? = some m := by
    rw [List.getElem?_append_right (by rw [List.length_reverse]; omega), List.length_reverse,
      Nat.add_sub_cancel]
    exact hk
  have full : cfg.maxMessages ≤ k + new.length := by
    by_contra room
    exact gone (held_getElem gap.newest.holds (by omega) later)
  have inside : k + new.length - cfg.maxMessages < new.reverse.length := by
    rw [List.length_reverse]
    omega
  have found := List.getElem?_eq_getElem inside
  refine ⟨new.reverse[k + new.length - cfg.maxMessages], List.mem_reverse.mp (List.getElem_mem inside), ?_⟩
  have evictor := gap.newest.contiguous _ _ ((List.getElem?_append_left inside).trans found)
  omega

theorem Gap.newest_of_ctx (gap : Gap w ms new u) (same : v.ctx = u.ctx) : Newest v (new.reverse ++ ms) :=
  gap.newest.untouched (.of_ctx same)

/-- The messages stored in the gap before a selection, and the message it sends. -/
structure Round where
  stores : List Message
  message : Message

def sentEvent (fd : ℤ) (delivered : Bool) (m : Message) : TraceEvent := .sent ⟨fd, m.payload, delivered⟩

def Round.events (fd : ℤ) (r : Round) : List TraceEvent := r.stores.map .stored ++ [sentEvent fd true r.message]

def Errors (fd : ℤ) (events : List TraceEvent) : Prop :=
  ∀ e ∈ events, ∃ payload delivered, e = .sent ⟨fd, payload, delivered⟩ ∧ ServerMade payload

/-- A store has overwritten `m` before the replay could copy it: it happened before the selection
    of some round, or in the last gap, and all rounds before that have sent smaller ids. -/
inductive Evicted (capacity : ℕ) (last : List Message) (m : Message) : List Round → Prop
  | atEnd {m' : Message} (by_store : m' ∈ last) (id : m'.id = m.id + capacity) : Evicted capacity last m []
  | now {r : Round} {rounds : List Round} {m' : Message} (by_store : m' ∈ r.stores)
      (id : m'.id = m.id + capacity) : Evicted capacity last m (r :: rounds)
  | later {r : Round} {rounds : List Round} (smaller : r.message.id < m.id)
      (evicted : Evicted capacity last m rounds) : Evicted capacity last m (r :: rounds)

/-- The result of a replay that has dealt with all ids up to `reach`, and the events after its
    last round. -/
inductive Ended (cfg : Config) (fd : ℤ) (replayUntil reach : ℕ) : Option EspErr → List TraceEvent → Prop
  | complete (all : reach = replayUntil) : Ended cfg fd replayUntil reach (some .ok) []
  | sendFailed {ret : EspErr} {m : Message} {attempt : List TraceEvent} (error : ret ≠ .ok)
      (next : m.id = reach + 1) (due : m.id ≤ replayUntil)
      (events : attempt = [] ∨ attempt = [sentEvent fd false m]) : Ended cfg fd replayUntil reach (some ret) attempt
  | copyFailed {ret : EspErr} {errors : List TraceEvent} (error : ret ≠ .ok)
      (made : Errors fd errors) : Ended cfg fd replayUntil reach (some ret) errors
  | cut {errors : List TraceEvent}
      (made : Errors fd errors) : Ended cfg fd replayUntil reach none errors

structure Replay (fd : ℤ) (cursor replayUntil : ℕ) (gaps : ℕ → List Json) (w : World cfg)
    (result : Option EspErr) (u : World cfg) (rounds : List Round) (last : List Message) (reach : ℕ) : Prop where
  ended : ∃ events, Ended cfg fd replayUntil reach result events ∧
    u.trace = w.trace ++ (rounds.flatMap (Round.events fd) ++ (last.map .stored ++ events))
  stores : (∀ i, gaps i = []) → (∀ r ∈ rounds, r.stores = []) ∧ last = []
  ordered : rounds.Pairwise (fun r r' => r.message.id < r'.message.id)
  within : ∀ r ∈ rounds, cursor < r.message.id ∧ r.message.id ≤ reach ∧ r.message.id ≤ replayUntil
  held : ∀ r ∈ rounds, Held w.ctx.messageBuffer r.message
  covered : ∀ m, Held w.ctx.messageBuffer m → cursor < m.id → m.id ≤ reach →
    (∃ r ∈ rounds, r.message = m) ∨ Evicted cfg.maxMessages last m rounds

section rounds
variable {fd : ℤ} {cursor replayUntil reach : ℕ} {gaps : ℕ → List Json} {result : Option EspErr}
  {rounds : List Round} {last : List Message} {events : List TraceEvent}

/-- No further round: the messages up to `reach` that were there before the gap have left the ring. -/
theorem replay_stopped (newest : Newest w ms) (gap : Gap w ms last u) (quiet : gaps 0 = [] → last = [])
    (ended : Ended cfg fd replayUntil reach result events) (trace : v.trace = u.trace ++ events)
    (passed : ∀ m, Held u.ctx.messageBuffer m → cursor < m.id → ¬m.id ≤ reach) :
    Replay fd cursor replayUntil gaps w result v [] last reach := by
  constructor
  case ended =>
    refine ⟨events, ended, ?_⟩
    rw [trace, gap.trace, List.flatMap_nil, List.nil_append, List.append_assoc]
  case stores =>
    intro none
    exact ⟨fun r hr => absurd hr List.not_mem_nil, quiet (none 0)⟩
  case ordered => exact .nil
  case within =>
    intro r hr
    exact absurd hr List.not_mem_nil
  case held =>
    intro r hr
    exact absurd hr List.not_mem_nil
  case covered =>
    intro m held above below
    by_cases still : Held u.ctx.messageBuffer m
    · exact absurd below (passed m still above)
    · obtain ⟨m', stored, id⟩ := gap.evicts newest held still
      exact .inr (.atEnd stored id)

/-- One round in front: it has sent the least id that was left. -/
theorem replay_round (newest : Newest w ms) (bounded : replayUntil ≤ w.ctx.messageIdCounter) (gap : Gap w ms new u)
    (quiet : gaps 0 = [] → new = []) (held : Held u.ctx.messageBuffer m) (above : cursor < m.id)
    (below : m.id ≤ replayUntil)
    (least : ∀ m', Held u.ctx.messageBuffer m' → cursor < m'.id → m'.id ≤ replayUntil → m.id ≤ m'.id)
    (low : m.id ≤ reach) (high : reach ≤ replayUntil)
    (after : Replay fd m.id replayUntil (fun i => gaps (i + 1)) (act (.send ⟨fd, m.payload, true⟩) u) result v
      rounds last reach) :
    Replay fd cursor replayUntil gaps w result v (⟨new, m⟩ :: rounds) last reach := by
  constructor
  case ended =>
    obtain ⟨events, ended, trace⟩ := after.ended
    refine ⟨events, ended, ?_⟩
    have sent : (act (.send ⟨fd, m.payload, true⟩) u).trace = u.trace ++ [sentEvent fd true m] := rfl
    rw [trace, sent, gap.trace, List.flatMap_cons]
    simp only [Round.events, List.append_assoc]
  case stores =>
    intro none
    obtain ⟨silent, nothing⟩ := after.stores (fun i => none (i + 1))
    refine ⟨?_, nothing⟩
    intro r hr
    cases List.mem_cons.mp hr with
    | inl first => rw [first, quiet (none 0)]
    | inr later => exact silent r later
  case ordered =>
    apply List.Pairwise.cons
    · intro r hr
      exact (after.within r hr).1
    · exact after.ordered
  case within =>
    intro r hr
    cases List.mem_cons.mp hr with
    | inl first =>
      rw [first]
      exact ⟨above, low, below⟩
    | inr later =>
      obtain ⟨greater, inside, bound⟩ := after.within r later
      exact ⟨by omega, inside, bound⟩
  case held =>
    intro r hr
    cases List.mem_cons.mp hr with
    | inl first =>
      rw [first]
      exact gap.held_before newest held (Nat.le_trans below bounded)
    | inr later =>
      have bound := (after.within r later).2.2
      exact gap.held_before newest (after.held r later) (by omega)
  case covered =>
    intro m' held' above' below'
    by_cases still : Held u.ctx.messageBuffer m'
    · have order := least m' still above' (by omega)
      by_cases same : m.id = m'.id
      · exact .inl ⟨⟨new, m⟩, List.mem_cons_self, gap.newest.held_unique held still same⟩
      · have smaller : m.id < m'.id := by omega
        cases after.covered m' still smaller below' with
        | inl sent =>
          obtain ⟨r, hr, e⟩ := sent
          exact .inl ⟨r, List.mem_cons_of_mem _ hr, e⟩
        | inr evicted => exact .inr (.later smaller evicted)
    · obtain ⟨evictor, stored, id⟩ := gap.evicts newest held' still
      exact .inr (.now stored id)

end rounds

theorem reply_ends : Ends (reply : Server cfg Reply) w (fun _ u => u = w) := .ask rfl (fun _ _ => rfl)

theorem allocates_ends : Ends (allocates : Server cfg Bool) w (fun _ u => u = w) := by
  apply reply_ends.bind
  · intro u hu
    exact hu
  · intro r u hu
    exact .pure hu

/-- How a send of a message ends. -/
inductive Sending (fd : ℤ) (payload : Json) (w : World cfg) : Option EspErr → World cfg → Prop
  | cut : Sending fd payload w none w
  | delivered : Sending fd payload w (some .ok) (act (.send ⟨fd, payload, true⟩) w)
  | unable {ret : EspErr} (error : ret ≠ .ok) : Sending fd payload w (some ret) w
  | refused {ret : EspErr} (error : ret ≠ .ok) : Sending fd payload w (some ret) (act (.send ⟨fd, payload, false⟩) w)

theorem chatWsSendText_ends (fd : ℤ) (payload : Json) :
    Ends (chatWsSendText fd payload) w (Sending fd payload w) := by
  apply Ends.ite
  · intro _
    exact .pure (.unable (by decide))
  · intro _
    apply Ends.bind (E := fun _ u => u = w) reply_ends
    · intro u hu
      subst hu
      exact .cut
    · intro r u hu
      subst hu
      apply Ends.ite
      · intro _
        exact .pure (.unable (by decide))
      · intro _
        apply Ends.bind (E := fun done v => done ≠ none ∧ v = act (.send ⟨fd, payload, decide (r.send = .ok)⟩) u)
          (.writes ⟨by simp, rfl⟩)
        · intro v h
          exact absurd rfl h.1
        · intro _ v h
          obtain ⟨-, rfl⟩ := h
          apply Ends.pure
          by_cases ok : r.send = .ok
          · rw [ok]
            exact .delivered
          · rw [decide_eq_false ok]
            exact .refused ok

theorem Sending.unsent {fd : ℤ} {payload : Json} (h : Sending fd payload w none u) : u = w := by
  cases h
  rfl

theorem Sending.delivered_world {fd : ℤ} {payload : Json} (h : Sending fd payload w (some .ok) u) :
    u = act (.send ⟨fd, payload, true⟩) w := by
  cases h with
  | delivered => rfl
  | unable error => exact absurd rfl error
  | refused error => exact absurd rfl error

theorem Sending.failed {fd : ℤ} {ret : EspErr} (h : Sending fd m.payload w (some ret) u) (error : ret ≠ .ok) :
    ∃ attempt, (attempt = [] ∨ attempt = [sentEvent fd false m]) ∧ u.trace = w.trace ++ attempt := by
  cases h with
  | delivered => exact absurd rfl error
  | unable => exact ⟨[], .inl rfl, (List.append_nil _).symm⟩
  | refused => exact ⟨_, .inr rfl, rfl⟩

theorem chatWsCloseClient_ends (fd : ℤ) :
    Ends (chatWsCloseClient fd) w (fun done u => done ≠ none ∧ u.trace = w.trace) := by
  apply Ends.ite
  · intro _
    exact .pure ⟨by simp, rfl⟩
  · intro _
    exact ⟨fun _ => ⟨by simp [Bind.bind, Pure.pure, chatSessionsMarkClosing, slots, writeSlots, reads, writes], rfl⟩⟩

theorem chatWsSendError_ends (fd : ℤ) (code message : String) : Ends (chatWsSendError fd code message) w
    (fun _ u => ∃ events, Errors fd events ∧ u.trace = w.trace ++ events) := by
  have spec : Traces (Steps (answers cfg fd)) (chatWsSendError fd code message) w (fun _ u => u.ctx = w.ctx) :=
    chatWsSendError_spec code message
  have kept := spec.ends (fun u => ∃ events, Errors fd events ∧ u.trace = w.trace ++ events)
    ⟨[], fun e he => absurd he List.not_mem_nil, (List.append_nil _).symm⟩ (by
      intro u v h step
      obtain ⟨events, errors, trace⟩ := h
      obtain ⟨a, ⟨d, rfl, same, made⟩, rfl⟩ := step
      refine ⟨events ++ [.sent d], ?_, ?_⟩
      · intro e he
        cases List.mem_append.mp he with
        | inl earlier => exact errors e earlier
        | inr new => exact ⟨d.payload, d.delivered, by rw [List.mem_singleton.mp new, ← same], made⟩
      · change u.trace ++ [.sent d] = _
        rw [trace, List.append_assoc])
  exact kept.post (fun _ _ h => h.1)

theorem nextReplay_none {cursor replayUntil : ℕ} (none : nextReplay w.ctx.messageBuffer cursor replayUntil = none)
    (held : Held w.ctx.messageBuffer m) (above : cursor < m.id) : ¬m.id ≤ replayUntil := by
  intro below
  obtain ⟨best, found, -⟩ := (nextReplay_least _ _ _).least m (mem_cells.mpr held) above below
  rw [none] at found
  cases found

theorem nextReplay_some {cursor replayUntil : ℕ} (next : nextReplay w.ctx.messageBuffer cursor replayUntil = some m) :
    Held w.ctx.messageBuffer m ∧ cursor < m.id ∧ m.id ≤ replayUntil ∧
      ∀ m', Held w.ctx.messageBuffer m' → cursor < m'.id → m'.id ≤ replayUntil → m.id ≤ m'.id := by
  have least := nextReplay_least w.ctx.messageBuffer cursor replayUntil
  obtain ⟨held, above, below⟩ := least.found m next
  refine ⟨mem_cells.mp held, above, below, ?_⟩
  intro m' held' above' below'
  obtain ⟨best, found, smaller⟩ := least.least m' (mem_cells.mpr held') above' below'
  rw [next] at found
  cases found
  exact smaller

/-- The iterations that are left are enough for the ids that are left. -/
def Enough (cfg : Config) (cursor replayUntil k : ℕ) : Prop := replayUntil ≤ cursor + k ∨ cfg.maxMessages ≤ k

theorem Enough.next {cursor replayUntil k : ℕ} (enough : Enough cfg cursor replayUntil (k + 1))
    (newest : Newest w ms) (bounded : replayUntil ≤ w.ctx.messageIdCounter) (held : Held w.ctx.messageBuffer m)
    (above : cursor < m.id) : Enough cfg m.id replayUntil k := by
  obtain ⟨position, capacity, -, id⟩ := newest.held_id held
  cases enough with
  | inl left => exact .inl (by omega)
  | inr full => exact .inl (by omega)

/-- Some rounds describe the replay, and they deal with the ids between the cursor and the end. -/
def Described (fd : ℤ) (cursor replayUntil : ℕ) (gaps : ℕ → List Json) (w : World cfg) (result : Option EspErr)
    (u : World cfg) : Prop :=
  ∃ rounds last reach, (cursor ≤ replayUntil → cursor ≤ reach ∧ reach ≤ replayUntil) ∧
    Replay fd cursor replayUntil gaps w result u rounds last reach

theorem Gap.described {fd : ℤ} {cursor replayUntil reach : ℕ} {gaps : ℕ → List Json} {result : Option EspErr}
    {events : List TraceEvent} (gap : Gap w ms new u) (newest : Newest w ms) (quiet : gaps 0 = [] → new = [])
    (high : reach ≤ replayUntil) (low : cursor ≤ reach) (ended : Ended cfg fd replayUntil reach result events)
    (trace : v.trace = u.trace ++ events)
    (passed : ∀ m, Held u.ctx.messageBuffer m → cursor < m.id → ¬m.id ≤ reach) :
    Described fd cursor replayUntil gaps w result v :=
  ⟨[], new, reach, fun _ => ⟨low, high⟩, replay_stopped newest gap quiet ended trace passed⟩

theorem described_done (fd : ℤ) {cursor replayUntil : ℕ} (gaps : ℕ → List Json) (w : World cfg)
    (all : replayUntil ≤ cursor) : Described fd cursor replayUntil gaps w (some .ok) w := by
  refine ⟨[], [], replayUntil, fun low => ⟨low, le_rfl⟩, ?_⟩
  constructor
  case ended => exact ⟨[], .complete rfl, (List.append_nil _).symm⟩
  case stores => exact fun _ => ⟨fun r hr => absurd hr List.not_mem_nil, rfl⟩
  case ordered => exact .nil
  case within => exact fun r hr => absurd hr List.not_mem_nil
  case held => exact fun r hr => absurd hr List.not_mem_nil
  case covered =>
    intro m _ above below
    omega

theorem replayBetween_replays (fd : ℤ) (replayUntil k : ℕ) {gaps : ℕ → List Json} {cursor : ℕ}
    (newest : Newest w ms) (valid : w.ctx.messageIdCounterValid = true)
    (bounded : replayUntil ≤ w.ctx.messageIdCounter) (enough : Enough cfg cursor replayUntil k) :
    Ends (replayBetween fd replayUntil k gaps cursor) w (Described fd cursor replayUntil gaps w) := by
  induction k generalizing w ms gaps cursor with
  | zero =>
    have all : replayUntil ≤ cursor := by
      have capacity := cfg.maxMessages_pos
      cases enough with
      | inl left => omega
      | inr full => omega
    exact .pure (described_done _ _ _ all)
  | succ k ih =>
    apply Ends.ite
    · intro more
      apply (storeAll_gap newest valid (gaps 0)).bind
      · intro u h
        obtain ⟨new, gap, quiet⟩ := h
        exact gap.described newest quiet more.le le_rfl (.cut (fun e he => absurd he List.not_mem_nil))
          (List.append_nil _).symm (fun m _ above => Nat.not_le.mpr above)
      · intro _ u h
        obtain ⟨new, gap, quiet⟩ := h
        apply Ends.bind (E := fun ring v => ring = some u.ctx.messageBuffer ∧ v = u) (.reads ⟨rfl, rfl⟩)
        · intro v h
          cases h.1
        · intro ring v h
          obtain ⟨ring_eq, rfl⟩ := h
          cases ring_eq
          cases next : nextReplay v.ctx.messageBuffer cursor replayUntil with
          | none =>
            exact .pure (gap.described newest quiet le_rfl more.le (.complete rfl) (List.append_nil _).symm
              (fun m held above => nextReplay_none next held above))
          | some m =>
            obtain ⟨held, above, below, least⟩ := nextReplay_some next
            apply allocates_ends.bind
            · intro u hu
              subst hu
              exact gap.described newest quiet more.le le_rfl (.cut (fun e he => absurd he List.not_mem_nil))
                (List.append_nil _).symm (fun m _ above => Nat.not_le.mpr above)
            · intro copied u hu
              subst hu
              apply Ends.ite
              · intro _
                apply (chatWsSendError_ends fd _ _).bind
                · intro x h
                  obtain ⟨events, errors, trace⟩ := h
                  exact gap.described newest quiet more.le le_rfl (.cut errors) trace
                    (fun m _ above => Nat.not_le.mpr above)
                · intro ret x h
                  obtain ⟨events, errors, trace⟩ := h
                  apply Ends.pure
                  have error : (if ret = .ok then EspErr.noMem else ret) ≠ .ok := by
                    split_ifs with ok
                    · decide
                    · exact ok
                  exact gap.described newest quiet more.le le_rfl (.copyFailed error errors) trace
                    (fun m _ above => Nat.not_le.mpr above)
              · intro _
                apply (chatWsSendText_ends fd m.payload).bind
                · intro x h
                  obtain rfl := h.unsent
                  exact gap.described newest quiet more.le le_rfl (.cut (fun e he => absurd he List.not_mem_nil))
                    (List.append_nil _).symm (fun m _ above => Nat.not_le.mpr above)
                · intro ret x h
                  apply Ends.ite
                  · intro error
                    obtain ⟨attempt, events, trace⟩ := h.failed error
                    apply (chatWsCloseClient_ends fd).bind
                    · intro y h
                      exact absurd rfl h.1
                    · intro _ y h
                      apply Ends.pure
                      have ended : Ended cfg fd replayUntil (m.id - 1) (some ret) attempt :=
                        .sendFailed error (by omega) below events
                      refine gap.described newest quiet (by omega) (by omega) ended (h.2.trans trace) ?_
                      intro m' held' above' below'
                      have order := least m' held' above' (by omega)
                      omega
                  · intro ok
                    obtain rfl : ret = .ok := not_not.mp ok
                    obtain rfl := h.delivered_world
                    have counter := gap.counter
                    have ahead : replayUntil ≤ u.ctx.messageIdCounter := by omega
                    have rest : Ends (replayBetween fd replayUntil k (fun i => gaps (i + 1)) m.id)
                        (act (.send ⟨fd, m.payload, true⟩) u) (Described fd m.id replayUntil _ _) :=
                      ih (gap.newest_of_ctx rfl) gap.valid ahead (enough.next gap.newest ahead held above)
                    apply rest.post
                    intro result y described
                    obtain ⟨rounds, last, reach, inside, after⟩ := described
                    obtain ⟨low, high⟩ := inside below
                    exact ⟨⟨new, m⟩ :: rounds, last, reach, fun _ => ⟨by omega, high⟩,
                      replay_round newest bounded gap quiet held above below least low high after⟩
    · intro all
      exact .pure (described_done _ _ _ (Nat.not_lt.mp all))

theorem replayBetween_idle (fd : ℤ) {replayUntil cursor : ℕ} (k : ℕ) (gaps : ℕ → List Json)
    (all : ¬cursor < replayUntil) (env : ℕ → Reply) :
    replayBetween fd replayUntil k gaps cursor env w = ⟨some .ok, w, env⟩ := by
  cases k with
  | zero => rfl
  | succ k =>
    unfold replayBetween
    rw [if_neg all]
    rfl

theorem Enough.pos {cursor replayUntil : ℕ} (enough : Enough cfg cursor replayUntil 0) : ¬cursor < replayUntil := by
  have capacity := cfg.maxMessages_pos
  cases enough with
  | inl left => omega
  | inr full => omega

theorem replayBetween_enough (fd : ℤ) (replayUntil k k' : ℕ) {gaps : ℕ → List Json} {cursor : ℕ}
    (newest : Newest w ms) (valid : w.ctx.messageIdCounterValid = true)
    (bounded : replayUntil ≤ w.ctx.messageIdCounter) (enough : Enough cfg cursor replayUntil k)
    (enough' : Enough cfg cursor replayUntil k') (env : ℕ → Reply) :
    replayBetween fd replayUntil k gaps cursor env w = replayBetween fd replayUntil k' gaps cursor env w := by
  induction k generalizing w ms gaps cursor env k' with
  | zero => rw [replayBetween_idle fd 0 gaps enough.pos, replayBetween_idle fd k' gaps enough.pos]
  | succ k ih =>
    cases k' with
    | zero => rw [replayBetween_idle fd 0 gaps enough'.pos, replayBetween_idle fd (k + 1) gaps enough'.pos]
    | succ k' =>
      by_cases more : cursor < replayUntil
      · unfold replayBetween
        rw [if_pos more, if_pos more]
        apply (storeAll_gap newest valid (gaps 0)).agree
        intro _ u env stored
        obtain ⟨new, gap, -⟩ := stored
        have counter := gap.counter
        have read : reads (fun w : World cfg => w.ctx.messageBuffer) env u = ⟨some u.ctx.messageBuffer, u, env⟩ := rfl
        rw [bind_run read, bind_run read]
        cases next : nextReplay u.ctx.messageBuffer cursor replayUntil with
        | none => rfl
        | some m =>
          obtain ⟨held, above, -, -⟩ := nextReplay_some next
          apply allocates_ends.agree
          intro copied x env same
          obtain rfl : x = u := same
          cases copied with
          | false => rfl
          | true =>
            apply (chatWsSendText_ends fd m.payload).agree
            intro ret y env sending
            by_cases ok : ret = .ok
            · subst ok
              obtain rfl := sending.delivered_world
              have ahead : replayUntil ≤ x.ctx.messageIdCounter := by omega
              have moved : Newest (act (.send ⟨fd, m.payload, true⟩) x) (new.reverse ++ ms) :=
                gap.newest_of_ctx rfl
              rw [if_neg (fun error => error rfl), if_neg (fun error => error rfl)]
              exact ih k' moved gap.valid ahead (enough.next gap.newest ahead held above)
                (enough'.next gap.newest ahead held above) env
            · rw [if_pos ok, if_pos ok]
      · rw [replayBetween_idle fd _ gaps more, replayBetween_idle fd _ gaps more]

theorem Evicted.stored {rounds : List Round} {last : List Message} {capacity : ℕ}
    (evicted : Evicted capacity last m rounds) : last ≠ [] ∨ ∃ r ∈ rounds, r.stores ≠ [] := by
  induction evicted with
  | atEnd by_store id => exact .inl (List.ne_nil_of_mem by_store)
  | now by_store id => exact .inr ⟨_, List.mem_cons_self, List.ne_nil_of_mem by_store⟩
  | later smaller evicted ih =>
    cases ih with
    | inl last => exact .inl last
    | inr later =>
      obtain ⟨r, hr, stores⟩ := later
      exact .inr ⟨r, List.mem_cons_of_mem _ hr, stores⟩

theorem events_silent {rounds : List Round} (fd : ℤ) (silent : ∀ r ∈ rounds, r.stores = []) :
    rounds.flatMap (Round.events fd) = (rounds.map Round.message).map (sentEvent fd true) := by
  induction rounds with
  | nil => rfl
  | cons r rounds ih =>
    rw [List.flatMap_cons, ih (fun r hr => silent r (List.mem_cons_of_mem _ hr)), Round.events,
      silent r List.mem_cons_self]
    rfl

def ascending (cfg : Config) (ms : List Message) : List Message := (ms.take cfg.maxMessages).reverse

theorem ascending_ordered (newest : Newest w ms) : (ascending cfg ms).Pairwise (fun m m' => m.id < m'.id) := by
  unfold ascending
  rw [List.pairwise_reverse]
  apply List.Pairwise.sublist (List.take_sublist _ _)
  rw [List.pairwise_iff_getElem]
  intro i j hi hj before
  have position := newest.contiguous i _ (List.getElem?_eq_getElem hi)
  have position' := newest.contiguous j _ (List.getElem?_eq_getElem hj)
  omega

theorem mem_ascending (newest : Newest w ms) : m ∈ ascending cfg ms ↔ Held w.ctx.messageBuffer m := by
  unfold ascending
  rw [List.mem_reverse]
  exact (cell_some_iff newest.holds m).symm

/-- The ring of a boot that has stored `ms`; the counter is 0 until it is loaded. -/
structure Ready (w : World cfg) (ms : List Message) : Prop extends Newest w ms where
  unloaded : w.ctx.messageIdCounterValid = false → w.ctx.messageIdCounter = 0

theorem ready_calls {state : MessageIdState} (zero : state.counterLoaded = false → state.currentId = 0)
    {calls : List Call} (h : Calls (WebSocketServer.startContext state w) calls u) : ∃ ms, Ready u ms := by
  have unloaded : u.ctx.messageIdCounterValid = false → u.ctx.messageIdCounter = 0 := by
    induction h with
    | none =>
      unfold WebSocketServer.startContext
      dsimp only
      split_ifs with loaded
      · intro invalid
        exact absurd invalid (by simp [World.record, loaded])
      · intro _
        exact zero (Bool.eq_false_iff.mpr loaded)
    | more earlier root env returns ih =>
      intro invalid
      cases (chatHistoryFinalizeAndStoreMessage_ring root env).2 _ returns with
      | failed _ same =>
        have context := same.unloaded invalid
        rw [context]
        apply ih
        rw [← context]
        exact invalid
      | stored _ pushed =>
        have valid := pushed.valid
        rw [invalid] at valid
        cases valid
  obtain ⟨ms, kept⟩ := kept_calls (kept_start state w) h
  exact ⟨ms, kept.toNewest, unloaded⟩

theorem chatHistorySendToClientBetween_replays (fd : ℤ) (sinceId : ℕ) (gaps : ℕ → List Json) (ready : Ready w ms) :
    Ends (chatHistorySendToClientBetween gaps fd sinceId) w
      (Described fd sinceId w.ctx.messageIdCounter gaps w) := by
  apply Ends.bind (E := fun n u => n = some w.ctx.messageIdCounter ∧ u = w) (.reads ⟨rfl, rfl⟩)
  · intro u h
    cases h.1
  · intro n u h
    obtain ⟨n_eq, rfl⟩ := h
    cases n_eq
    cases valid : u.ctx.messageIdCounterValid with
    | true => exact replayBetween_replays fd _ _ ready.toNewest valid le_rfl (.inr le_rfl)
    | false =>
      have zero := ready.unloaded valid
      have idle : ¬sinceId < u.ctx.messageIdCounter := by omega
      constructor
      intro env
      rw [replayBetween_idle fd _ gaps idle]
      exact described_done _ _ _ (Nat.not_lt.mp idle)

theorem chatHistorySendToClientBetween_enough (fd : ℤ) (sinceId k : ℕ) (gaps : ℕ → List Json) (ready : Ready w ms)
    (enough : cfg.maxMessages ≤ k) (env : ℕ → Reply) :
    replayBetween fd w.ctx.messageIdCounter k gaps sinceId env w =
      chatHistorySendToClientBetween gaps fd sinceId env w := by
  change _ = replayBetween fd w.ctx.messageIdCounter cfg.maxMessages gaps sinceId env w
  cases valid : w.ctx.messageIdCounterValid with
  | true => exact replayBetween_enough fd _ _ _ ready.toNewest valid le_rfl (.inr enough) (.inr le_rfl) env
  | false =>
    have zero := ready.unloaded valid
    have idle : ¬sinceId < w.ctx.messageIdCounter := by omega
    rw [replayBetween_idle fd _ gaps idle, replayBetween_idle fd _ gaps idle]

theorem chatHistorySendToClient_eq (fd : ℤ) (sinceId : ℕ) :
    (chatHistorySendToClientBetween (fun _ => []) fd sinceId : Server cfg EspErr) =
      chatHistorySendToClient fd sinceId := by
  unfold chatHistorySendToClientBetween chatHistorySendToClient
  simp only [replayBetween_nothing]

theorem chatHistorySendToClient_sends (fd : ℤ) (sinceId : ℕ) (ready : Ready w ms) :
    Ends (chatHistorySendToClient fd sinceId) w (fun result u => result = some .ok →
      u.trace = w.trace ++
        ((ascending cfg ms).filter (fun m => decide (sinceId < m.id))).map (sentEvent fd true)) := by
  rw [← chatHistorySendToClient_eq]
  apply (chatHistorySendToClientBetween_replays fd sinceId (fun _ => []) ready).post
  intro result u described ok
  obtain ⟨rounds, last, reach, -, replay⟩ := described
  obtain ⟨silent, nothing⟩ := replay.stores (fun _ => rfl)
  obtain ⟨events, ended, trace⟩ := replay.ended
  rw [ok] at ended
  cases ended with
  | sendFailed error => exact absurd rfl error
  | copyFailed error => exact absurd rfl error
  | complete all =>
    subst all
    have sent : rounds.map Round.message = (ascending cfg ms).filter (fun m => decide (sinceId < m.id)) := by
      have irrefl : Std.Irrefl (fun m m' : Message => m.id < m'.id) := ⟨fun m => Nat.lt_irrefl m.id⟩
      have antisymm : Std.Antisymm (fun m m' : Message => m.id < m'.id) :=
        ⟨fun m m' h h' => absurd h' (Nat.lt_asymm h)⟩
      apply List.Pairwise.eq_of_mem_iff (r := fun m m' : Message => m.id < m'.id)
      · rw [List.pairwise_map]
        exact replay.ordered
      · exact (ascending_ordered ready.toNewest).filter _
      · intro m
        rw [List.mem_map, List.mem_filter, mem_ascending ready.toNewest, decide_eq_true_eq]
        constructor
        · intro h
          obtain ⟨r, hr, rfl⟩ := h
          exact ⟨replay.held r hr, (replay.within r hr).1⟩
        · intro h
          obtain ⟨k, -, -, position⟩ := ready.toNewest.held_id h.1
          cases replay.covered m h.1 h.2 (by omega) with
          | inl sent => exact sent
          | inr evicted =>
            cases evicted.stored with
            | inl some_last => exact absurd nothing some_last
            | inr stored =>
              obtain ⟨r, hr, some_stores⟩ := stored
              exact absurd (silent r hr) some_stores
    rw [trace, nothing, events_silent fd silent, sent, List.map_nil, List.nil_append, List.append_nil]

/-- The replay of `chat_history_send_to_client`, whatever is stored in its gaps. -/
theorem replay_gaps (fd : ℤ) (sinceId : ℕ) (gaps : ℕ → List Json) :
    (∀ (w : World cfg) (ms : List Message), Ready w ms →
      Ends (chatHistorySendToClientBetween gaps fd sinceId) w
        (Described fd sinceId w.ctx.messageIdCounter gaps w)) ∧
    (∀ (w : World cfg) (ms : List Message) (env : ℕ → Reply) (k : ℕ), Ready w ms → cfg.maxMessages ≤ k →
      replayBetween fd w.ctx.messageIdCounter k gaps sinceId env w =
        chatHistorySendToClientBetween gaps fd sinceId env w) ∧
    (chatHistorySendToClientBetween (fun _ => []) fd sinceId : Server cfg EspErr) =
      chatHistorySendToClient fd sinceId ∧
    (∀ (w : World cfg) (ms : List Message), Ready w ms →
      Ends (chatHistorySendToClient fd sinceId) w (fun result u => result = some .ok →
        u.trace = w.trace ++
          ((ascending cfg ms).filter (fun m => decide (sinceId < m.id))).map (sentEvent fd true))) := by
  refine ⟨?_, ?_, ?_, ?_⟩
  · intro w ms ready
    exact chatHistorySendToClientBetween_replays fd sinceId gaps ready
  · intro w ms env k ready enough
    exact chatHistorySendToClientBetween_enough fd sinceId k gaps ready enough env
  · exact chatHistorySendToClient_eq fd sinceId
  · intro w ms ready
    exact chatHistorySendToClient_sends fd sinceId ready

end EspWebChat.ReplayGaps
