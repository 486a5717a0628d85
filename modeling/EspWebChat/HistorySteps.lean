import EspWebChat.SessionSteps

set_option autoImplicit false

/-! # What the id store and the history do -/
namespace EspWebChat.HistorySteps
open JsonTree CircularBuffer ClientSlots Interruptible ServerWorld MessageIdStore Sessions History
open ServerSteps SessionSteps

variable {cfg : Config} {w : World cfg} {fd : ℤ}

/-- One write of a persist of `v`. A failed one may or may not have reached the cache or the
    flash, and a commit writes what is cached. -/
structure Writes (v : ℕ) (n n' : Nvs) : Prop where
  cached : n'.cached.current = n.cached.current ∨ n'.cached.current = some v
  flash : n'.flash.current = n.flash.current ∨ n'.flash.current = some v ∨
    n'.flash.current = n.cached.current

def loadedId (n : Nvs) : ℕ := min (n.cached.current.getD 0) chatMessageMaxSafeId

def persists (cfg : Config) (v : ℕ) : Permission cfg :=
  fun u a => ∃ n, a = .nvs n ∧ Writes v u.nvs n

theorem nvsSet_spec {v : ℕ} {f : NvsStore → NvsStore}
    (hf : ∀ s, (f s).current = s.current ∨ (f s).current = some v) :
    Traces (Steps (persists cfg v)) (nvsSet f) w (fun ret u =>
      (∃ n, u = { w with nvs := n } ∧ Writes v w.nvs n) ∧
      (ret = .ok → u.nvs.cached.current = (f w.nvs.cached).current)) := by
  refine reply_spec.bind ?_
  rintro r u - rfl
  have wrote : Writes v u.nvs {
      cached := if r.nvs.error.isNone || r.nvs.written then f u.nvs.cached else u.nvs.cached
      flash := if r.nvs.written then f u.nvs.flash else u.nvs.flash } := by
    constructor
    · dsimp only
      split_ifs
      · exact hf _
      · exact .inl rfl
    · dsimp only
      split_ifs
      · rcases hf u.nvs.flash with h | h
        · exact .inl h
        · exact .inr (.inl h)
      · exact .inl rfl
  refine Traces.bind (takes (.nvs _) ⟨_, rfl, wrote⟩ rfl) ?_
  rintro - v' - rfl
  split
  · rename_i e _
    exact .pure ⟨⟨_, rfl, wrote⟩, fun h => absurd h e.property.1⟩
  · rename_i he
    exact .pure ⟨⟨_, rfl, wrote⟩, fun _ => by simp [act, he]⟩

theorem nvsCommit_spec (v : ℕ) :
    Traces (Steps (persists cfg v)) nvsCommit w (fun ret u =>
      (∃ n, u = { w with nvs := n } ∧ n.cached = w.nvs.cached) ∧
      (ret = .ok → u.nvs.flash = w.nvs.cached)) := by
  refine reply_spec.bind ?_
  rintro r u - rfl
  have wrote : Writes v u.nvs { u.nvs with
      flash := if r.nvs.error.isNone || r.nvs.written then u.nvs.cached else u.nvs.flash } := by
    refine ⟨.inl rfl, ?_⟩
    dsimp only
    split_ifs
    · exact .inr (.inr rfl)
    · exact .inl rfl
  refine Traces.bind (takes (.nvs _) ⟨_, rfl, wrote⟩ rfl) ?_
  rintro - v' - rfl
  split
  · rename_i e _
    exact .pure ⟨⟨_, rfl, rfl⟩, fun h => absurd h e.property.1⟩
  · rename_i he
    exact .pure ⟨⟨_, rfl, rfl⟩, fun _ => by simp [act, he]⟩

/-- What a persist of `v` leaves behind; a successful one has reached the flash. -/
structure Persisted (v : ℕ) (w : World cfg) (ret : EspErr) (u : World cfg) : Prop where
  frame : ∃ n, u = { w with nvs := n }
  cached : u.nvs.cached.current = w.nvs.cached.current ∨ u.nvs.cached.current = some v
  done : ret = .ok → u.nvs.cached.current = some v ∧ u.nvs.flash.current = some v

theorem chatMessageIdsPersist_spec (v bootStartId : ℕ) :
    Traces (Steps (persists cfg v)) (chatMessageIdsPersist v bootStartId) w (Persisted v w) := by
  refine Traces.bind (P := fun ret u => u = w) ?_ ?_
  · refine reply_spec.bind ?_
    rintro r u - rfl
    split <;> exact .pure rfl
  rintro opened u - rfl
  refine .ite (fun h => .pure ⟨⟨_, rfl⟩, .inl rfl, fun e => absurd e h⟩) (fun _ => ?_)
  refine (nvsSet_spec (f := setCurrent v) (fun _ => .inr rfl)).bind ?_
  rintro first u' - ⟨⟨n, rfl, wrote⟩, hfirst⟩
  refine .ite (fun h => .pure ⟨⟨n, rfl⟩, wrote.cached, fun e => absurd e h⟩) (fun h => ?_)
  have hn : n.cached.current = some v := hfirst (not_not.mp h)
  refine (nvsSet_spec (f := setBootStart bootStartId) (fun _ => .inl rfl)).bind ?_
  rintro second u' - ⟨⟨n', rfl, wrote'⟩, hsecond⟩
  have hn' : n'.cached.current = some v := by
    rcases wrote'.cached with e | e
    · exact e.trans hn
    · exact e
  refine .ite (fun h => .pure ⟨⟨n', rfl⟩, .inr hn', fun e => absurd e h⟩) (fun _ => ?_)
  refine (nvsCommit_spec v).post ?_
  rintro ret u' - ⟨⟨n'', rfl, hc⟩, hok⟩
  have hcached : n''.cached.current = some v := by rw [hc]; exact hn'
  refine ⟨⟨n'', rfl⟩, .inr hcached, ?_⟩
  intro e
  refine ⟨hcached, ?_⟩
  rw [hok e]
  exact hn'

/-- The write of a load puts back what the loader has read, cut to the greatest safe id. -/
def reloads (cfg : Config) : Permission cfg :=
  fun u a => ∃ n, a = .nvs n ∧ Writes (loadedId u.nvs) u.nvs n

theorem loadedId_of_cached {n n' : Nvs} (h : n'.cached.current = n.cached.current ∨
    n'.cached.current = some (loadedId n)) : loadedId n' = loadedId n := by
  unfold loadedId at h ⊢
  rcases h with h | h
  · rw [h]
  · rw [h, Option.getD_some]
    omega

def loadedState (n : Nvs) : MessageIdState := ⟨bootStartOf (loadedId n), loadedId n, true⟩

theorem chatMessageIdsLoad_spec :
    Traces (Steps (reloads cfg)) chatMessageIdsLoad w (fun r u =>
      (∃ n, u = { w with nvs := n }) ∧ loadedId u.nvs = loadedId w.nvs ∧
      (r.2.counterLoaded = true → r.2 = loadedState u.nvs) ∧
      (r.2.counterLoaded = false → r.2 = ⟨1, 0, false⟩)) := by
  -- What the two reads return, when they do not fail, is the cached value or that it is missing.
  refine Traces.bind (P := fun opened u => u = w ∧
    (opened = .nvsNotFound → w.nvs.cached.current = none)) ?_ ?_
  · refine reply_spec.bind ?_
    rintro r u - rfl
    split
    · rename_i e _
      exact .pure ⟨rfl, fun h => absurd h e.property.2⟩
    · refine .reads ⟨rfl, ?_⟩
      split_ifs with h
      · intro _
        rw [h]
      · simp
  rintro opened u - ⟨rfl, hopened⟩
  refine Traces.bind (P := fun r v => v = u ∧ (r.1 = .nvsNotFound → u.nvs.cached.current = none) ∧
    (r.1 = .ok → u.nvs.cached.current = some r.2)) ?_ ?_
  · refine .ite (fun h => ?_) (fun h => .pure ⟨rfl, hopened, fun e => absurd e h⟩)
    refine reply_spec.bind ?_
    rintro r v - rfl
    split
    · rename_i e _
      exact .pure ⟨rfl, fun h => absurd h e.property.2, fun h => absurd h e.property.1⟩
    · refine .reads ⟨rfl, ?_⟩
      split
      · rename_i v hv
        exact ⟨by simp, fun _ => hv⟩
      · rename_i hv
        exact ⟨fun _ => hv, by simp⟩
  rintro ⟨ret, value⟩ v - ⟨rfl, hnone, hsome⟩
  refine .ite (fun _ => .pure ⟨⟨_, rfl⟩, rfl, by simp, fun _ => rfl⟩) (fun h => ?_)
  have hid : min (if ret = .nvsNotFound then 0 else value) chatMessageMaxSafeId = loadedId v.nvs := by
    unfold loadedId
    split_ifs with hr
    · rw [hnone hr, Option.getD_none]
    · have hok : ret = .ok := by
        by_contra hne
        exact h ⟨hne, hr⟩
      rw [hsome hok, Option.getD_some]
  rw [hid]
  refine Traces.bind (permits (chatMessageIdsPersist_spec _ _)
    (fun u => loadedId u.nvs = loadedId v.nvs) rfl ?_ ?_) ?_
  · rintro x a hx ⟨n, rfl, wrote⟩
    rw [← hx] at wrote ⊢
    exact loadedId_of_cached wrote.cached
  · rintro x a hx ⟨n, rfl, wrote⟩
    exact ⟨n, rfl, hx ▸ wrote⟩
  rintro persisted x - ⟨⟨n, rfl⟩, cached, -⟩
  have same : loadedId n = loadedId v.nvs := loadedId_of_cached cached
  refine .pure ⟨⟨n, rfl⟩, same, fun _ => ?_, by simp⟩
  change _ = loadedState n
  unfold loadedState
  rw [same]

/-- A retry of the load, in a boot whose counter is not loaded yet. -/
def retries (cfg : Config) : Permission cfg := fun u a =>
  u.ctx.messageIdCounterValid = false ∧ (reloads cfg u a ∨ a = .load (loadedState u.nvs))

theorem ensureIdStateLocked_spec :
    Traces (Steps (retries cfg)) ensureIdStateLocked w (fun ret u =>
      u.ctx.clientSlots = w.ctx.clientSlots ∧ (ret = .ok → u.ctx.messageIdCounterValid = true) ∧
      (ret ≠ .ok → u.ctx = w.ctx)) := by
  refine Traces.bind (P := fun valid u => u = w ∧ valid = w.ctx.messageIdCounterValid) (.reads ⟨rfl, rfl⟩) ?_
  rintro valid u - ⟨rfl, rfl⟩
  refine .ite (fun h => .pure ⟨rfl, fun _ => h, fun _ => rfl⟩) (fun h => ?_)
  have invalid : u.ctx.messageIdCounterValid = false := Bool.eq_false_iff.mpr h
  refine Traces.bind (permits chatMessageIdsLoad_spec (fun v => v.ctx.messageIdCounterValid = false)
    invalid ?_ (fun v a hv ha => ⟨hv, .inl ha⟩)) ?_
  · rintro v a hv ⟨n, rfl, -⟩
    exact hv
  rintro ⟨ret, state⟩ v - ⟨⟨n, rfl⟩, -, loaded, -⟩
  refine .ite (fun _ => .pure ⟨rfl, ?_, fun _ => rfl⟩) (fun hl => ?_)
  · intro hret
    split_ifs at hret with hok
    exact absurd hret hok
  · have hs : state = loadedState n := loaded (by simpa using hl)
    refine Traces.bind (takes (.load state) ⟨invalid, .inr (by rw [hs])⟩ rfl) ?_
    rintro - x - rfl
    exact .pure ⟨rfl, fun _ => rfl, fun h => absurd rfl h⟩

/-- The id is persisted before the message is stored under it. -/
def issues (cfg : Config) (root : Json) : Permission cfg := fun u a =>
  retries cfg u a ∨
  (u.ctx.messageIdCounterValid = true ∧ u.ctx.messageIdCounter < chatMessageMaxSafeId ∧
    (persists cfg (u.ctx.messageIdCounter + 1) u a ∨
      ∃ m timestamp, a = .store m ∧ m.id = u.ctx.messageIdCounter + 1 ∧
        m.payload = cfg.printer.printed (finalized root m.id timestamp) ∧
        u.nvs.cached.current = some m.id ∧ u.nvs.flash.current = some m.id ∧ |timestamp| ≤ 2 ^ 63))

/-- `m` has been stored between `w` and `u`. -/
def StoredSince (w : World cfg) (m : Message) (u : World cfg) : Prop :=
  ∃ new, u.trace = w.trace ++ new ∧ .stored m ∈ new

theorem chatHistoryFinalizeAndStoreMessage_spec (root : Json) :
    Traces (Steps (issues cfg root)) (chatHistoryFinalizeAndStoreMessage root) w (fun r u =>
      u.ctx.clientSlots = w.ctx.clientSlots ∧
      ∀ payload, r.2 = some payload → ∃ m timestamp, m.payload = payload ∧
        m.payload = cfg.printer.printed (finalized root m.id timestamp) ∧ StoredSince w m u) := by
  refine Traces.bind (permitsAll ensureIdStateLocked_spec (fun _ _ => .inl)) ?_
  rintro ret u path ⟨hslots, hvalid, -⟩
  refine .ite (fun _ => .pure ⟨hslots, by simp⟩) (fun hret => ?_)
  have valid := hvalid (not_not.mp hret)
  refine Traces.bind (P := fun ctx v => ctx = u.ctx ∧ v = u) (.reads ⟨rfl, rfl⟩) ?_
  rintro ctx v - ⟨rfl, rfl⟩
  refine .ite (fun _ => .pure ⟨hslots, by simp⟩) (fun hmax => ?_)
  refine currentTimestampS_int64.bind ?_
  rintro timestamp x - ⟨rfl, bounded⟩
  refine allocates_spec.bind ?_
  rintro idAdded v - rfl
  refine Traces.bind (P := fun _ x => x = v) (.ite (fun _ => allocates_spec) (fun _ => .pure rfl)) ?_
  rintro timestampAdded x - rfl
  refine .ite (fun _ => .pure ⟨hslots, by simp⟩) (fun _ => ?_)
  refine printUnformatted_spec.bind ?_
  rintro printed v - ⟨rfl, hp⟩
  cases printed with
  | none => exact .pure ⟨hslots, by simp⟩
  | some payload =>
    have below : v.ctx.messageIdCounter < chatMessageMaxSafeId := by omega
    refine Traces.bind (permits (chatMessageIdsPersist_spec _ _) (fun x => x.ctx = v.ctx) rfl ?_ ?_) ?_
    · rintro x a hx ⟨n, rfl, -⟩
      exact hx
    · rintro x a hx ⟨n, rfl, wrote⟩
      refine .inr ⟨by rw [hx]; exact valid, by rw [hx]; exact below, .inl ⟨n, rfl, ?_⟩⟩
      rw [hx]
      exact wrote
    rintro ret x - ⟨⟨n, rfl⟩, -, done⟩
    refine .ite (fun _ => .pure ⟨hslots, by simp⟩) (fun hret => ?_)
    obtain ⟨cached, flash⟩ := done (not_not.mp hret)
    refine Traces.bind (takes (.store ⟨payload, _⟩) (.inr ⟨valid, below, .inr
      ⟨_, timestamp, rfl, rfl, hp payload rfl, cached, flash, bounded⟩⟩) rfl) ?_
    rintro - y - rfl
    refine .pure ⟨hslots, ?_⟩
    rintro p hpp
    cases hpp
    refine ⟨⟨payload, v.ctx.messageIdCounter + 1⟩, timestamp, rfl, hp payload rfl, ?_⟩
    obtain ⟨new, hnew⟩ := steps_trace path
    refine ⟨new ++ [.stored _], ?_, List.mem_append_right _ (List.mem_singleton_self _)⟩
    change v.trace ++ _ = _
    rw [hnew, List.append_assoc]

theorem chatHistoryBuildInfoPayload_spec {Step : World cfg → World cfg → Prop} :
    Traces Step (chatHistoryBuildInfoPayload : Server cfg _) w
      (fun payload u => u = w ∧ ∀ p ∈ payload, ServerMade p) := by
  refine allocates_spec.bind ?_
  rintro created u - rfl
  refine .ite (fun _ => .pure ⟨rfl, by simp⟩) (fun _ => ?_)
  refine (addMember_type (typeIs_nil "historyInfo")).bind ?_
  rintro ms u - ⟨rfl, h⟩
  refine (addMember_type h).bind ?_
  rintro ms u - ⟨rfl, h⟩
  refine currentTimestampS_spec.bind ?_
  rintro now u - rfl
  refine (addMember_type h).bind ?_
  rintro ms u - ⟨rfl, h⟩
  refine (addMember_type h).bind ?_
  rintro ms u - ⟨rfl, h⟩
  refine allocates_spec.bind ?_
  rintro toOk u - rfl
  refine Traces.bind (P := fun _ v => v = u) (.ite (fun _ => allocates_spec) (fun _ => .pure rfl)) ?_
  rintro usersOk v - rfl
  refine .ite (fun _ => .pure ⟨rfl, by simp⟩) (fun _ => ?_)
  refine addMember_spec.bind ?_
  rintro all u - ⟨rfl, -⟩
  refine Traces.bind (P := fun _ v => v = u) (.reads rfl) ?_
  rintro bounds v - rfl
  refine (addMember_type (typeIs_append h (by simp))).bind ?_
  rintro ms u - ⟨rfl, h⟩
  refine (addMember_type h).bind ?_
  rintro ms u - ⟨rfl, h⟩
  refine (addMember_type h).bind ?_
  rintro ms u - ⟨rfl, h⟩
  refine (addMember_type h).bind ?_
  rintro ms u - ⟨rfl, h⟩
  refine (addMember_type h).bind ?_
  rintro ms u - ⟨rfl, h⟩
  refine (addMember_type h).bind ?_
  rintro ms u - ⟨rfl, h⟩
  refine (addMember_type h).bind ?_
  rintro ms u - ⟨rfl, h⟩
  refine (addMember_type h).bind ?_
  rintro ms u - ⟨rfl, h⟩
  refine printUnformatted_spec.post ?_
  rintro printed v - ⟨rfl, hp⟩
  refine ⟨rfl, ?_⟩
  intro p hpm
  exact ⟨"historyInfo", by simp [serverTypes], by rw [hp p hpm]; exact typeIs_printed _ h⟩

theorem chatHistorySendInfoToClient_spec :
    Traces (Steps (answers cfg fd)) (chatHistorySendInfoToClient fd) w (fun _ u => u.ctx = w.ctx) := by
  refine chatHistoryBuildInfoPayload_spec.bind ?_
  rintro payload u - ⟨rfl, made⟩
  cases payload with
  | none =>
    refine (chatWsSendError_spec _ _).bind ?_
    rintro ret v - hv
    exact .pure hv
  | some p =>
    refine (chatWsSendText_spec (fun b => ⟨_, rfl, rfl, made p rfl⟩)).post ?_
    rintro ret v - (⟨-, rfl⟩ | ⟨-, rfl | rfl⟩) <;> rfl

theorem chatHistoryBroadcastInfo_spec :
    Traces (Steps (announces cfg)) chatHistoryBroadcastInfo w (fun _ _ => True) := by
  refine chatHistoryBuildInfoPayload_spec.bind ?_
  rintro payload u - ⟨rfl, made⟩
  cases payload with
  | none => exact .pure trivial
  | some p => exact chatWsBroadcast_announces (made p rfl)

/-- `next` is the least of the cells with an id in `(cursor, replayUntil]`. -/
structure Least (cells : List (Option Message)) (cursor replayUntil : ℕ) (next : Option Message) :
    Prop where
  found : ∀ m ∈ next, some m ∈ cells ∧ cursor < m.id ∧ m.id ≤ replayUntil
  least : ∀ m, some m ∈ cells → cursor < m.id → m.id ≤ replayUntil → ∃ best ∈ next, best.id ≤ m.id

theorem least_concat {cells : List (Option Message)} {cursor replayUntil : ℕ} {next : Option Message}
    (h : Least cells cursor replayUntil next) (m : Message) :
    Least (cells ++ [some m]) cursor replayUntil
      (if cursor < m.id ∧ m.id ≤ replayUntil ∧ ∀ best ∈ next, m.id < best.id then some m else next) := by
  split_ifs with hm
  · refine ⟨?_, ?_⟩
    · rintro m' hm'
      cases hm'
      exact ⟨by simp, hm.1, hm.2.1⟩
    · intro m' hmem hc hr
      refine ⟨m, rfl, ?_⟩
      rcases List.mem_append.mp hmem with hold | hnew
      · obtain ⟨best, hb, hle⟩ := h.least m' hold hc hr
        have := hm.2.2 best hb
        omega
      · cases List.mem_singleton.mp hnew
        exact le_rfl
  · refine ⟨?_, ?_⟩
    · intro m' hm'
      obtain ⟨hmem, hc, hr⟩ := h.found m' hm'
      exact ⟨List.mem_append_left _ hmem, hc, hr⟩
    · intro m' hmem hc hr
      rcases List.mem_append.mp hmem with hold | hnew
      · exact h.least m' hold hc hr
      · cases List.mem_singleton.mp hnew
        -- The scan keeps what it has found when the new id is not smaller.
        by_contra hno
        refine hm ⟨hc, hr, ?_⟩
        intro best hb
        by_contra hle
        exact hno ⟨best, hb, by omega⟩

theorem nextReplay_least {n : ℕ} (ring : Buffer Message n) (cursor replayUntil : ℕ) :
    Least ((List.finRange n).map ring.cell) cursor replayUntil (nextReplay ring cursor replayUntil) := by
  unfold nextReplay
  generalize (List.finRange n).map ring.cell = cells
  induction cells using List.reverseRecOn with
  | nil => exact ⟨by simp, by simp⟩
  | append_singleton cells cell ih =>
    rw [List.foldl_append]
    cases cell with
    | none =>
      refine ⟨?_, ?_⟩
      · intro m hm
        obtain ⟨hmem, h⟩ := ih.found m hm
        exact ⟨List.mem_append_left _ hmem, h⟩
      · intro m hm
        exact ih.least m (by simpa using hm)
    | some m => exact least_concat ih m

theorem nextReplay_cell {n : ℕ} {ring : Buffer Message n} {cursor replayUntil : ℕ} {m : Message}
    (h : nextReplay ring cursor replayUntil = some m) : ∃ i, ring.cell i = some m := by
  obtain ⟨hmem, -⟩ := (nextReplay_least ring cursor replayUntil).found m h
  obtain ⟨i, -, hi⟩ := List.mem_map.mp hmem
  exact ⟨i, hi⟩

/-- A replay sends what the ring holds, to one client. -/
def replays (cfg : Config) (fd : ℤ) : Permission cfg := fun u a =>
  answers cfg fd u a ∨ a = .closing fd ∨
  ∃ i m delivered, u.ctx.messageBuffer.cell i = some m ∧ a = .send ⟨fd, m.payload, delivered⟩

theorem replayFrom_spec (replayUntil iterations cursor : ℕ) :
    Traces (Steps (replays cfg fd)) (replayFrom fd replayUntil iterations cursor) w
      (fun _ _ => True) := by
  induction iterations generalizing w cursor with
  | zero => exact .pure trivial
  | succ k ih =>
    refine .ite (fun _ => ?_) (fun _ => .pure trivial)
    refine Traces.bind (P := fun ring u => ring = w.ctx.messageBuffer ∧ u = w) (.reads ⟨rfl, rfl⟩) ?_
    rintro ring u - ⟨rfl, rfl⟩
    cases hn : nextReplay u.ctx.messageBuffer cursor replayUntil with
    | none => exact .pure trivial
    | some m =>
      refine allocates_spec.bind ?_
      rintro copied v - rfl
      refine .ite (fun _ => ?_) (fun _ => ?_)
      · refine Traces.bind (permitsAll (chatWsSendError_spec _ _) (fun _ _ => .inl)) ?_
        rintro ret u - -
        exact .pure trivial
      · obtain ⟨i, hi⟩ := nextReplay_cell hn
        refine Traces.bind (chatWsSendText_spec (fun b => .inr (.inr ⟨i, m, b, hi, rfl⟩))) ?_
        rintro ret u - -
        refine .ite (fun _ => ?_) (fun _ => ih m.id)
        refine Traces.bind (chatWsCloseClient_spec (.inr (.inl rfl))) ?_
        rintro - x - -
        exact .pure trivial

theorem chatHistorySendToClient_spec (sinceId : ℕ) :
    Traces (Steps (replays cfg fd)) (chatHistorySendToClient fd sinceId) w (fun _ _ => True) := by
  refine Traces.bind (P := fun _ u => u = w) (.reads rfl) ?_
  rintro replayUntil u - rfl
  exact replayFrom_spec _ _ _

end EspWebChat.HistorySteps
