import EspWebChat.NodeSteps

set_option autoImplicit false

/-!
# The slot table over whole runs

All operations but two only take something away from a slot (`Loses`). The two that add,
taking a free slot and binding a user, rely on what their callers have checked.
-/
namespace EspWebChat.SlotInvariant
open Relation ClientSlots Interruptible ServerWorld Sessions JsonGate WebSocketServer ServerSteps
open SlotSteps SessionSteps ProtocolSteps NodeSteps

variable {cfg : Config} {w u : World cfg} {n : ℕ} {t t' : SlotTable n} {fds : List ℤ}

structure WellFormed (s : ClientSlot) : Prop where
  joined : s.joined = true → s.active = true ∧ s.closing = false ∧ s.userId ≠ ""
  closing : s.closing = true →
    s.active = true ∧ s.joined = false ∧ s.userId = "" ∧ s.timeOffsetValid = false
  offset : s.timeOffsetValid = true → s.joined = true

/-- `fds` are the sessions that are open. -/
structure TableInvariant (fds : List ℤ) (t : SlotTable n) : Prop where
  slot : ∀ i, WellFormed (t i)
  distinct : ∀ i j, (t i).active = true → (t j).active = true → (t i).fd = (t j).fd → i = j
  isOpen : ∀ i, (t i).active = true → (t i).fd ∈ fds
  users : ∀ i j, (t i).joined = true → (t j).joined = true → (t i).userId = (t j).userId → i = j

structure Loses (s s' : ClientSlot) : Prop where
  active : s'.active = true → s.active = true ∧ s'.fd = s.fd
  joined : s'.joined = true → s.joined = true ∧ s'.userId = s.userId
  wellFormed : WellFormed s → WellFormed s'

theorem loses_self (s : ClientSlot) : Loses s s :=
  ⟨fun h => ⟨h, rfl⟩, fun h => ⟨h, rfl⟩, fun h => h⟩

theorem Loses.trans {s s' s'' : ClientSlot} (h : Loses s s') (h' : Loses s' s'') : Loses s s'' := by
  refine ⟨fun ha => ?_, fun hj => ?_, fun hw => h'.wellFormed (h.wellFormed hw)⟩
  · obtain ⟨ha', hf'⟩ := h'.active ha
    obtain ⟨ha'', hf⟩ := h.active ha'
    exact ⟨ha'', hf'.trans hf⟩
  · obtain ⟨hj', hu'⟩ := h'.joined hj
    obtain ⟨hj'', hu⟩ := h.joined hj'
    exact ⟨hj'', hu'.trans hu⟩

theorem loses_clocked (alive : Bool) (registered ping : ℤ) (s : ClientSlot) :
    Loses s (clocked alive registered ping s) :=
  ⟨fun h => ⟨h, rfl⟩, fun h => ⟨h, rfl⟩, fun h => ⟨h.joined, h.closing, h.offset⟩⟩

theorem loses_closing {s : ClientSlot} (h : s.active = true) : Loses s (markSlotClosing s).2 := by
  rw [markSlotClosing_of_active h]
  exact ⟨fun _ => ⟨h, rfl⟩, by simp, fun _ => ⟨by simp, fun _ => ⟨h, rfl, rfl, rfl⟩, by simp⟩⟩

theorem loses_clear (s : ClientSlot) : Loses s (clearSlotIdentity s) :=
  ⟨by simp [clearSlotIdentity], by simp [clearSlotIdentity],
    fun _ => ⟨by simp [clearSlotIdentity], by simp [clearSlotIdentity], by simp [clearSlotIdentity]⟩⟩

theorem loses_sample {s : ClientSlot} {fd : ℤ} (h : joinedOn fd s = true) (offset : ℤ) :
    Loses s { s with timeOffsetS := offset, timeOffsetValid := true } := by
  obtain ⟨-, hc, hj, -⟩ := joinedOn_iff.mp h
  refine ⟨fun h => ⟨h, rfl⟩, fun h => ⟨h, rfl⟩, fun h => ⟨h.joined, ?_, fun _ => hj⟩⟩
  intro hclosing
  rw [show s.closing = true from hclosing] at hc
  cases hc

theorem TableInvariant.loses (h : TableInvariant fds t) (less : ∀ i, Loses (t i) (t' i)) :
    TableInvariant fds t' := by
  constructor
  case slot => exact fun i => (less i).wellFormed (h.slot i)
  case distinct =>
    intro i j hi hj hf
    obtain ⟨ai, fi⟩ := (less i).active hi
    obtain ⟨aj, fj⟩ := (less j).active hj
    exact h.distinct i j ai aj (by rw [← fi, ← fj, hf])
  case isOpen =>
    intro i hi
    obtain ⟨ai, fi⟩ := (less i).active hi
    rw [fi]
    exact h.isOpen i ai
  case users =>
    intro i j hi hj hu
    obtain ⟨ji, ui⟩ := (less i).joined hi
    obtain ⟨jj, uj⟩ := (less j).joined hj
    exact h.users i j ji jj (by rw [← ui, ← uj, hu])

theorem wellFormed_fresh (now fd : ℤ) (s : ClientSlot) : WellFormed (freshSlot now fd s) :=
  ⟨by simp [freshSlot], by simp [freshSlot], by simp [freshSlot]⟩

theorem TableInvariant.register (h : TableInvariant fds t) {now fd : ℤ} (isOpen : fd ∈ fds) :
    TableInvariant fds (ensureSlot now t fd).2 := by
  by_cases fresh : ∃ i, (t i).active = false ∧ (∀ k, holdsFd fd (t k) = false) ∧
      (ensureSlot now t fd).2 = Function.update t i (freshSlot now fd (t i))
  · obtain ⟨i, -, hno, e⟩ := fresh
    rw [e]
    have old : ∀ k, (t k).active = true → (t k).fd ≠ fd := by
      intro k hk hf
      have := hno k
      rw [holdsFd_iff.mpr ⟨hk, hf⟩] at this
      cases this
    constructor
    case slot =>
      intro k
      by_cases hk : k = i
      · subst hk
        rw [Function.update_self]
        exact wellFormed_fresh _ _ _
      · rw [Function.update_of_ne hk]
        exact h.slot k
    case distinct =>
      intro a b ha hb hf
      by_cases hai : a = i <;> by_cases hbi : b = i
      · rw [hai, hbi]
      · subst hai
        simp only [Function.update_self, Function.update_of_ne hbi] at hb hf
        exact absurd hf.symm (old b hb)
      · subst hbi
        simp only [Function.update_self, Function.update_of_ne hai] at ha hf
        exact absurd hf (old a ha)
      · simp only [Function.update_of_ne hai, Function.update_of_ne hbi] at ha hb hf
        exact h.distinct a b ha hb hf
    case isOpen =>
      intro k hk
      by_cases hki : k = i
      · subst hki
        rw [Function.update_self]
        exact isOpen
      · rw [Function.update_of_ne hki] at hk ⊢
        exact h.isOpen k hk
    case users =>
      intro a b ha hb hu
      by_cases hai : a = i
      · subst hai
        simp [freshSlot] at ha
      · by_cases hbi : b = i
        · subst hbi
          simp [freshSlot] at hb
        · simp only [Function.update_of_ne hai, Function.update_of_ne hbi] at ha hb hu
          exact h.users a b ha hb hu
  · refine h.loses (fun i => ?_)
    rcases ensureSlot_slot now t fd i with e | ⟨-, e⟩ | f
    · rw [e]
      exact loses_self _
    · rw [e]
      exact loses_clocked true _ _ _
    · exact absurd ⟨i, f⟩ fresh

/-- With distinct descriptors the first live slot of a descriptor is the only one. -/
theorem firstSlot_live (h : TableInvariant fds t) {fd : ℤ} {i : Fin n} (hi : liveOn fd (t i) = true) :
    firstSlot (liveOn fd) t = some i := by
  cases hk : firstSlot (liveOn fd) t with
  | none =>
    rw [firstSlot_none hk i] at hi
    cases hi
  | some k =>
    obtain ⟨ak, -, fk⟩ := liveOn_iff.mp (firstSlot_some hk)
    obtain ⟨ai, -, fi⟩ := liveOn_iff.mp hi
    rw [h.distinct k i ak ai (fk.trans fi.symm)]

/-- A connection that may be bound has a live slot, and no other user in it. -/
theorem bind_target (h : TableInvariant fds t) {now fd : ℤ} {userId name : String} {b : Binding n}
    {target : Fin n} (live : ∃ i, liveOn fd (t i) = true)
    (identity : checkIdentity t fd (some userId) ≠ .mismatch)
    (hb : Bound t now fd userId name b target) :
    liveOn fd (t target) = true ∧ ((t target).joined = true → (t target).userId = userId) := by
  have hlive : liveOn fd (t target) = true := by
    rcases hb.choice with hl | ⟨hno, -⟩
    · exact hl
    · obtain ⟨i, hi⟩ := live
      rw [hno i] at hi
      cases hi
  refine ⟨hlive, ?_⟩
  intro hj
  obtain ⟨-, -, hu⟩ := (h.slot target).joined hj
  by_contra hne
  refine identity ?_
  unfold checkIdentity
  rw [firstSlot_live h hlive]
  have hs : some userId ≠ some (t target).userId := fun e => hne (Option.some.inj e).symm
  simp [hj, hu, hs]

theorem boundSlot_userId {now fd : ℤ} {userId name : String} {s : ClientSlot}
    (h : JsonTree.strlen userId ≤ maxUserIdLen) : (boundSlot now fd userId name s).userId = userId :=
  copyBounded_of_lt _ _ (by omega)

theorem TableInvariant.bind (h : TableInvariant fds t) {now fd : ℤ} {userId name : String}
    {b : Binding n} {target : Fin n} (live : ∃ i, liveOn fd (t i) = true)
    (identity : checkIdentity t fd (some userId) ≠ .mismatch) (hne : userId ≠ "")
    (hlen : JsonTree.strlen userId ≤ maxUserIdLen) (hb : Bound t now fd userId name b target) :
    TableInvariant fds b.slots := by
  obtain ⟨hlive, -⟩ := bind_target h live identity hb
  obtain ⟨htarget, -, hfd⟩ := liveOn_iff.mp hlive
  have huser : (boundSlot now fd userId name (t target)).userId = userId := boundSlot_userId hlen
  have less : ∀ i, i ≠ target → Loses (t i) (b.slots i) := by
    intro i hi
    rcases hb.others i hi with ⟨e, -⟩ | ⟨ha, -, -, e⟩
    · rw [e]
      exact loses_self _
    · rw [e]
      exact loses_closing ha
  -- Whoever else held the user is no longer joined.
  have alone : ∀ i, i ≠ target → (b.slots i).joined = true → (b.slots i).userId ≠ userId := by
    intro i hi hj hu
    rcases hb.others i hi with ⟨e, hno⟩ | ⟨ha, -, -, e⟩
    · rw [e] at hj hu
      exact hno ⟨((h.slot i).joined hj).1, hne, hu⟩
    · rw [e, markSlotClosing_of_active ha] at hj
      cases hj
  constructor
  case slot =>
    intro i
    by_cases hi : i = target
    · subst hi
      rw [hb.bound]
      exact ⟨fun _ => ⟨rfl, rfl, by rw [huser]; exact hne⟩, by simp [boundSlot], fun _ => rfl⟩
    · exact (less i hi).wellFormed (h.slot i)
  case distinct =>
    have back : ∀ i, (b.slots i).active = true → (t i).active = true ∧ (b.slots i).fd = (t i).fd := by
      intro i hi
      by_cases hit : i = target
      · subst hit
        refine ⟨htarget, ?_⟩
        rw [hb.bound, hfd]
        rfl
      · exact (less i hit).active hi
    intro i j hi hj hf
    obtain ⟨ai, fi⟩ := back i hi
    obtain ⟨aj, fj⟩ := back j hj
    exact h.distinct i j ai aj (by rw [← fi, ← fj, hf])
  case isOpen =>
    intro i hi
    by_cases hit : i = target
    · subst hit
      have := h.isOpen i htarget
      rw [hb.bound]
      exact hfd ▸ this
    · obtain ⟨ai, fi⟩ := (less i hit).active hi
      rw [fi]
      exact h.isOpen i ai
  case users =>
    have mine : (b.slots target).userId = userId := by rw [hb.bound]; exact huser
    intro i j hi hj hu
    by_cases hit : i = target <;> by_cases hjt : j = target
    · rw [hit, hjt]
    · rw [hit, mine] at hu
      exact absurd hu.symm (alone j hjt hj)
    · rw [hjt, mine] at hu
      exact absurd hu (alone i hit hi)
    · obtain ⟨ji, ui⟩ := (less i hit).joined hi
      obtain ⟨jj, uj⟩ := (less j hjt).joined hj
      exact h.users i j ji jj (by rw [← ui, ← uj, hu])

/-- Until its session is closed a slot keeps its descriptor, closing stays closing, and a
    joined user stays or the slot is closing. -/
structure Keeps (s s' : ClientSlot) : Prop where
  active : s'.active = true
  fd : s'.fd = s.fd
  closing : s.closing = true → s'.closing = true
  joined : s.joined = true → s'.closing = true ∨ (s'.joined = true ∧ s'.userId = s.userId)

theorem Keeps.trans {s s' s'' : ClientSlot} (h : Keeps s s') (h' : Keeps s' s'') : Keeps s s'' := by
  refine ⟨h'.active, h'.fd.trans h.fd, fun hc => h'.closing (h.closing hc), ?_⟩
  intro hj
  rcases h.joined hj with hc | ⟨hj', hu⟩
  · exact .inl (h'.closing hc)
  · rcases h'.joined hj' with hc | ⟨hj'', hu'⟩
    · exact .inl hc
    · exact .inr ⟨hj'', hu'.trans hu⟩

theorem keeps_self {s : ClientSlot} (h : s.active = true) : Keeps s s :=
  ⟨h, rfl, fun h => h, fun h => .inr ⟨h, rfl⟩⟩

theorem keeps_clocked {s : ClientSlot} (h : s.active = true) (alive : Bool) (registered ping : ℤ) :
    Keeps s (clocked alive registered ping s) :=
  ⟨h, rfl, fun h => h, fun h => .inr ⟨h, rfl⟩⟩

theorem keeps_closing {s : ClientSlot} (h : s.active = true) : Keeps s (markSlotClosing s).2 := by
  rw [markSlotClosing_of_active h]
  exact ⟨h, rfl, fun _ => rfl, fun _ => .inl rfl⟩

/-- What any event does to the table, apart from the freeing of a slot. -/
def slotSteps (cfg : Config) (fds : List ℤ) : Permission cfg := fun u a =>
  match a with
  | .register _ fd => fd ∈ fds
  | .bind _ fd userId name => MayBind u fd userId name
  | .free _ => False
  | _ => True

def adds : Action → Prop
  | .register _ _ => True
  | .bind _ _ _ _ => True
  | _ => False

theorem loses_act {a : Action} (h : ¬adds a) (u : World cfg) (i : Fin cfg.maxClients) :
    Loses (u.ctx.clientSlots i) ((act a u).ctx.clientSlots i) := by
  cases a with
  | register now fd => exact absurd trivial h
  | bind now fd userId name => exact absurd trivial h
  | sample fd offset =>
    change Loses _ (updateTimeSample u.ctx.clientSlots fd offset i)
    rcases updateTimeSample_slot u.ctx.clientSlots fd offset i with e | ⟨hj, e⟩
    · rw [e]
      exact loses_self _
    · rw [e]
      exact loses_sample hj offset
  | alive fd =>
    change Loses _ (markAlive u.ctx.clientSlots fd i)
    rcases markAlive_slot u.ctx.clientSlots fd i with e | ⟨-, e⟩
    · rw [e]
      exact loses_self _
    · rw [e]
      exact loses_clocked true _ _ _
  | closing fd =>
    change Loses _ (if holdsFd fd (u.ctx.clientSlots i) then _ else _)
    split_ifs with hf
    · exact loses_closing (holdsFd_iff.mp hf).1
    · exact loses_self _
  | free fd =>
    change Loses _ (if holdsFd fd (u.ctx.clientSlots i) then _ else _)
    split_ifs
    · exact loses_clear _
    · exact loses_self _
  | sweep now delayed =>
    change Loses _ (sweepSlot cfg.heartbeatIntervalS now delayed (u.ctx.clientSlots i)).slot
    obtain ⟨alive, registered, ping, e | ⟨ha, -, e⟩⟩ :=
      sweepSlot_slot cfg.heartbeatIntervalS now delayed (u.ctx.clientSlots i)
    · rw [e]
      exact loses_clocked _ _ _ _
    · rw [e]
      exact (loses_clocked alive registered ping _).trans (loses_closing ha)
  | _ => exact loses_self _

theorem joined_act {a : Action} (h : ∀ now fd userId name, a ≠ .bind now fd userId name) (u : World cfg)
    {i : Fin cfg.maxClients} (hj : ((act a u).ctx.clientSlots i).joined = true) :
    (u.ctx.clientSlots i).joined = true := by
  by_cases ha : adds a
  · cases a with
    | register now fd =>
      change ((ensureSlot now u.ctx.clientSlots fd).2 i).joined = true at hj
      rcases ensureSlot_slot now u.ctx.clientSlots fd i with e | ⟨-, e⟩ | ⟨-, -, e⟩
      · rwa [e] at hj
      · rwa [e] at hj
      · rw [e, Function.update_self] at hj
        cases hj
    | bind now fd userId name => exact absurd rfl (h now fd userId name)
    | _ => cases ha
  · exact ((loses_act ha u i).joined hj).1

theorem tableInvariant_act {a : Action} (h : TableInvariant fds u.ctx.clientSlots)
    (ha : slotSteps cfg fds u a) : TableInvariant fds (act a u).ctx.clientSlots := by
  by_cases hadds : adds a
  · cases a with
    | register now fd => exact h.register ha
    | bind now fd userId name =>
      cases hb : bindIdentity now u.ctx.clientSlots fd userId name with
      | none =>
        simp only [act, bindSlots, hb]
        exact h
      | some b =>
        obtain ⟨target, hbound⟩ := bindIdentity_bound hb
        simp only [act, bindSlots, hb]
        exact h.bind ha.live ha.identity ha.userId.1 ha.userId.2 hbound
    | _ => cases hadds
  · exact h.loses (loses_act hadds u)

theorem keeps_act {a : Action} (h : TableInvariant fds u.ctx.clientSlots) (ha : slotSteps cfg fds u a)
    {i : Fin cfg.maxClients} (hi : (u.ctx.clientSlots i).active = true) :
    Keeps (u.ctx.clientSlots i) ((act a u).ctx.clientSlots i) := by
  cases a with
  | register now fd =>
    change Keeps _ ((ensureSlot now u.ctx.clientSlots fd).2 i)
    rcases ensureSlot_slot now u.ctx.clientSlots fd i with e | ⟨-, e⟩ | ⟨hno, -⟩
    · rw [e]
      exact keeps_self hi
    · rw [e]
      exact keeps_clocked hi true _ _
    · rw [hi] at hno
      cases hno
  | bind now fd userId name =>
    change Keeps _ ((bindSlots now fd userId name u).ctx.clientSlots i)
    unfold bindSlots
    split
    · exact keeps_self hi
    · rename_i b hb
      obtain ⟨target, hbound⟩ := bindIdentity_bound hb
      obtain ⟨hlive, same⟩ := bind_target h ha.live ha.identity hbound
      change Keeps _ (b.slots i)
      by_cases hit : i = target
      · subst hit
        obtain ⟨-, hc, hfd⟩ := liveOn_iff.mp hlive
        rw [hbound.bound]
        refine ⟨rfl, hfd.symm, fun hcl => ?_, fun hj => .inr ⟨rfl, ?_⟩⟩
        · rw [hc] at hcl
          cases hcl
        · rw [boundSlot_userId ha.userId.2, same hj]
      · rcases hbound.others i hit with ⟨e, -⟩ | ⟨hact, -, -, e⟩
        · rw [e]
          exact keeps_self hi
        · rw [e]
          exact keeps_closing hact
  | sample fd offset =>
    change Keeps _ (updateTimeSample u.ctx.clientSlots fd offset i)
    rcases updateTimeSample_slot u.ctx.clientSlots fd offset i with e | ⟨-, e⟩
    · rw [e]
      exact keeps_self hi
    · rw [e]
      exact ⟨hi, rfl, fun h => h, fun h => .inr ⟨h, rfl⟩⟩
  | alive fd =>
    change Keeps _ (markAlive u.ctx.clientSlots fd i)
    rcases markAlive_slot u.ctx.clientSlots fd i with e | ⟨-, e⟩
    · rw [e]
      exact keeps_self hi
    · rw [e]
      exact keeps_clocked hi true _ _
  | closing fd =>
    change Keeps _ (if holdsFd fd (u.ctx.clientSlots i) then _ else _)
    split_ifs
    · exact keeps_closing hi
    · exact keeps_self hi
  | sweep now delayed =>
    change Keeps _ (sweepSlot cfg.heartbeatIntervalS now delayed (u.ctx.clientSlots i)).slot
    obtain ⟨alive, registered, ping, e | ⟨-, -, e⟩⟩ :=
      sweepSlot_slot cfg.heartbeatIntervalS now delayed (u.ctx.clientSlots i)
    · rw [e]
      exact keeps_clocked hi _ _ _
    · rw [e]
      exact (keeps_clocked hi alive registered ping).trans (keeps_closing hi)
  | free fd => cases ha
  | _ => exact keeps_self hi

theorem tableInvariant_free (h : TableInvariant fds t) (fd : ℤ) :
    TableInvariant (fds.filter (fun f => f != fd)) (removeByFd t fd).2 := by
  have less : TableInvariant fds (removeByFd t fd).2 := by
    refine h.loses (fun i => ?_)
    change Loses _ (if holdsFd fd (t i) then _ else _)
    split_ifs
    · exact loses_clear _
    · exact loses_self _
  refine ⟨less.slot, less.distinct, ?_, less.users⟩
  intro i hi
  refine List.mem_filter.mpr ⟨less.isOpen i hi, ?_⟩
  change (if holdsFd fd (t i) then clearSlotIdentity (t i) else t i).active = true at hi
  change ((if holdsFd fd (t i) then clearSlotIdentity (t i) else t i).fd != fd) = true
  split_ifs at hi ⊢ with hf
  · cases hi
  · exact bne_iff_ne.mpr (fun e => hf (holdsFd_iff.mpr ⟨hi, e⟩))

theorem keeps_free {fd : ℤ} {i : Fin n} (hi : (t i).active = true) (hf : (t i).fd ≠ fd) :
    Keeps (t i) ((removeByFd t fd).2 i) := by
  change Keeps _ (if holdsFd fd (t i) then _ else _)
  rw [if_neg (fun h => hf (holdsFd_iff.mp h).2)]
  exact keeps_self hi

theorem slotSteps_announces {a : Action} (h : announces cfg u a) : slotSteps cfg fds u a := by
  rcases h with ⟨fd, rfl⟩ | ⟨d, rfl, -⟩ <;> trivial

theorem slotSteps_answers {fd : ℤ} {a : Action} (h : answers cfg fd u a) : slotSteps cfg fds u a := by
  obtain ⟨d, rfl, -⟩ := h
  trivial

theorem slotSteps_retries {a : Action} (h : HistorySteps.retries cfg u a) : slotSteps cfg fds u a := by
  obtain ⟨-, ⟨n, rfl, -⟩ | rfl⟩ := h <;> trivial

def Sound (s : Node cfg) : Prop := TableInvariant s.openFds s.world.ctx.clientSlots

theorem tableInvariant_zero (fds : List ℤ) : TableInvariant fds (AppContext.zero cfg).clientSlots := by
  constructor
  case slot => exact fun i => ⟨by simp [AppContext.zero, zeroSlot], by simp [AppContext.zero, zeroSlot],
    by simp [AppContext.zero, zeroSlot]⟩
  case distinct => intro i j hi; cases hi
  case isOpen => intro i hi; cases hi
  case users => intro i j hi; cases hi

theorem TableInvariant.mono {fds' : List ℤ} (h : TableInvariant fds t) (sub : ∀ f ∈ fds, f ∈ fds') :
    TableInvariant fds' t :=
  ⟨h.slot, h.distinct, fun i hi => sub _ (h.isOpen i hi), h.users⟩

/-- The sessions that are open when the computation of an event starts. -/
def entryFds (s : Node cfg) : Event → List ℤ
  | .powerOn _ => []
  | .closeSession fd _ => s.openFds.filter (fun f => f != fd)
  | _ => s.openFds

theorem step_openFds (cJSONParse : CJSONParse) {s : Node cfg} {e : Event} (hs : served s e) :
    (step cJSONParse s e).openFds = entryFds s e := by
  cases e with
  | powerOn env => rfl
  | openSession fd => cases hs
  | handshake fd env =>
    change s.serves fd at hs
    simp only [step, if_pos hs, Node.exec, entryFds]
  | frame fd frame env =>
    change s.serves fd at hs
    simp only [step, if_pos hs, Node.exec, entryFds]
  | sweep env =>
    change s.powered = true at hs
    simp only [step, if_pos hs, Node.exec, entryFds]
  | closeSession fd env =>
    change s.serves fd at hs
    simp only [step, if_pos hs, entryFds]

theorem entry_sound {s : Node cfg} (h : Sound s) (e : Event) :
    TableInvariant (entryFds s e) (entry s.world e).ctx.clientSlots := by
  cases e with
  | powerOn env => exact tableInvariant_zero _
  | closeSession fd env => exact tableInvariant_free h fd
  | _ => exact h

theorem eventStep_slotSteps (cJSONParse : CJSONParse) {s : Node cfg} {e : Event} (hs : served s e)
    (u : World cfg) (a : Action) (h : eventStep cJSONParse s.world e u a) :
    slotSteps cfg (entryFds s e) u a := by
  cases e with
  | powerOn env =>
    rcases h with h | ⟨-, rfl⟩ | ⟨now, rfl⟩
    · exact slotSteps_retries h
    · trivial
    · trivial
  | openSession fd => cases hs
  | handshake fd env =>
    obtain ⟨now, rfl⟩ := h
    exact hs.2
  | sweep env =>
    rcases h with ⟨now, delayed, rfl⟩ | h
    · trivial
    · exact slotSteps_announces h
  | closeSession fd env => exact slotSteps_announces h
  | frame fd frame env =>
    cases h with
    | register now => exact hs.2
    | answer _ h => exact slotSteps_answers h
    | retry _ h => exact slotSteps_retries h
    | bind _ now userId name h => exact h
    | announce _ _ h => exact slotSteps_announces h
    | replay _ _ _ h =>
      rcases h with h | rfl | ⟨i, m, b, -, rfl⟩
      · exact slotSteps_answers h
      · trivial
      · trivial
    | issue _ root _ _ _ h =>
      rcases h with h | ⟨-, -, ⟨n, rfl, -⟩ | ⟨m, ts, rfl, -⟩⟩
      · exact slotSteps_retries h
      · trivial
      · trivial
    | _ => trivial

theorem sound_step (cJSONParse : CJSONParse) {s : Node cfg} (h : Sound s) (e : Event) :
    Sound (step cJSONParse s e) := by
  rcases step_steps cJSONParse s e with ⟨eq, more⟩ | ⟨hs, path⟩
  · unfold Sound
    rw [eq]
    exact TableInvariant.mono h more
  · unfold Sound
    rw [step_openFds cJSONParse hs]
    exact path_invariant path (fun v => TableInvariant (entryFds s e) v.ctx.clientSlots)
      (fun v a hv ha => tableInvariant_act hv (eventStep_slotSteps cJSONParse hs v a ha)) (entry_sound h e)

theorem sound_run (cJSONParse : CJSONParse) (flash : InitialFlash) (events : List Event) :
    Sound (run cJSONParse (Node.initial flash : Node cfg) events) := by
  have all : ∀ (events : List Event) (s : Node cfg), Sound s → Sound (run cJSONParse s events) := by
    intro events
    induction events with
    | nil => exact fun _ h => h
    | cons e events ih => exact fun s h => ih _ (sound_step cJSONParse h e)
  exact all events _ (tableInvariant_zero _)

/-- The events after which a session on `fd` is another one. -/
def endsSession (fd : ℤ) : Event → Prop
  | .powerOn _ => True
  | .closeSession f _ => f = fd
  | _ => False

theorem keeps_step (cJSONParse : CJSONParse) {s : Node cfg} (h : Sound s) {i : Fin cfg.maxClients}
    (hi : (s.world.ctx.clientSlots i).active = true) {e : Event}
    (he : ¬endsSession (s.world.ctx.clientSlots i).fd e) :
    Keeps (s.world.ctx.clientSlots i) ((step cJSONParse s e).world.ctx.clientSlots i) := by
  rcases step_steps cJSONParse s e with ⟨eq, -⟩ | ⟨hs, path⟩
  · rw [eq]
    exact keeps_self hi
  · have enter : Keeps (s.world.ctx.clientSlots i) ((entry s.world e).ctx.clientSlots i) := by
      cases e with
      | powerOn env => exact absurd trivial he
      | closeSession fd env => exact keeps_free hi (Ne.symm he)
      | _ => exact keeps_self hi
    have both := path_invariant path
      (fun v => TableInvariant (entryFds s e) v.ctx.clientSlots ∧
        Keeps (s.world.ctx.clientSlots i) (v.ctx.clientSlots i))
      (fun v a hv ha => by
        have permitted := eventStep_slotSteps cJSONParse hs v a ha
        exact ⟨tableInvariant_act hv.1 permitted, hv.2.trans (keeps_act hv.1 permitted hv.2.active)⟩)
      ⟨entry_sound h e, enter⟩
    exact both.2

theorem keeps_run (cJSONParse : CJSONParse) {s : Node cfg} (h : Sound s) {i : Fin cfg.maxClients}
    (hi : (s.world.ctx.clientSlots i).active = true) (later : List Event)
    (hl : ∀ e ∈ later, ¬endsSession (s.world.ctx.clientSlots i).fd e) :
    Keeps (s.world.ctx.clientSlots i) ((run cJSONParse s later).world.ctx.clientSlots i) := by
  induction later generalizing s with
  | nil => exact keeps_self hi
  | cons e later ih =>
    have first := keeps_step cJSONParse h hi (hl e List.mem_cons_self)
    refine first.trans (ih (sound_step cJSONParse h e) first.active ?_)
    intro e' he'
    rw [first.fd]
    exact hl e' (List.mem_cons_of_mem _ he')

theorem refuses_spec (cJSONParse : CJSONParse) {fd : ℤ} (frame : Frame)
    (closing : ∀ now, ensureSlot now w.ctx.clientSlots fd = (false, w.ctx.clientSlots)) :
    Traces (fun u v => v = u) (chatWsHandler cJSONParse fd frame) w (fun ret _ => ret = .fail) := by
  refine Traces.bind (P := fun ready u => ready = false) ?_ ?_
  · refine deviceUptimeS_spec.bind ?_
    rintro now u - rfl
    refine slots_spec.bind ?_
    rintro table v - ⟨rfl, rfl⟩
    refine Traces.bind (P := fun _ _ => True) (.writes ?_ trivial) ?_
    · rw [closing now]
      rfl
    rintro - v' - -
    exact .pure (by rw [closing now])
  rintro ready v - rfl
  exact .pure rfl

theorem refuses_world (cJSONParse : CJSONParse) {s : Node cfg} (h : Sound s) {i : Fin cfg.maxClients}
    (hc : (s.world.ctx.clientSlots i).closing = true) (frame : Frame) (env : ℕ → Reply) :
    (step cJSONParse s (.frame (s.world.ctx.clientSlots i).fd frame env)).world = s.world := by
  have hi := ((h.slot i).closing hc).1
  have only : ∀ now, ensureSlot now s.world.ctx.clientSlots (s.world.ctx.clientSlots i).fd =
      (false, s.world.ctx.clientSlots) := by
    intro now
    refine ensureSlot_closing ?_ ⟨i, holdsFd_iff.mpr ⟨hi, rfl⟩⟩
    intro k hk
    obtain ⟨hact, hfd⟩ := holdsFd_iff.mp hk
    rw [h.distinct k i hact hi hfd]
    exact hc
  by_cases hs : s.serves (s.world.ctx.clientSlots i).fd
  · have path := (refuses_spec cJSONParse frame only env).1
    simp only [step, if_pos hs, Node.exec]
    generalize (chatWsHandler cJSONParse (s.world.ctx.clientSlots i).fd frame env s.world).world = v at path
    induction path with
    | refl => rfl
    | tail _ e ih => exact e.trans ih
  · simp only [step, if_neg hs]

/-- `fd` has the only joined slot of `userId`; the others that held the user are closing. -/
structure Switched (t : SlotTable n) (fd : ℤ) (userId : String) (t' : SlotTable n) (target : Fin n) :
    Prop where
  mine : (t' target).active = true ∧ (t' target).joined = true ∧ (t' target).fd = fd ∧
    (t' target).userId = userId
  others : ∀ i, i ≠ target → (t i).active = true → (t i).userId = userId → (t' i).closing = true
  only : ∀ i, i ≠ target → ¬((t' i).active = true ∧ (t' i).joined = true ∧ (t' i).userId = userId)

theorem switched_bind {now fd : ℤ} {userId name : String} {b : Binding n} {target : Fin n}
    (hne : userId ≠ "") (hlen : JsonTree.strlen userId ≤ maxUserIdLen)
    (hb : Bound t now fd userId name b target) : Switched t fd userId b.slots target := by
  refine ⟨?_, ?_, ?_⟩
  · rw [hb.bound]
    exact ⟨rfl, rfl, rfl, boundSlot_userId hlen⟩
  · intro i hi ha hu
    rcases hb.others i hi with ⟨-, hno⟩ | ⟨ha', -, -, e⟩
    · exact absurd ⟨ha, hne, hu⟩ hno
    · rw [e, markSlotClosing_of_active ha']
  · rintro i hi ⟨ha, hj, hu⟩
    rcases hb.others i hi with ⟨e, hno⟩ | ⟨ha', -, -, e⟩
    · rw [e] at ha hu
      exact hno ⟨ha, hne, hu⟩
    · rw [e, markSlotClosing_of_active ha'] at hj
      cases hj

/-- Closing a stale descriptor leaves the new connection alone. -/
theorem switched_closing {fd f : ℤ} {userId : String} {target : Fin n}
    (h : Switched t fd userId t' target) (hf : fd ≠ f) :
    Switched t fd userId (markClosing t' f).2 target := by
  have cases : ∀ i, (markClosing t' f).2 i = t' i ∨
      ((t' i).active = true ∧ (t' i).fd = f ∧ (markClosing t' f).2 i = (markSlotClosing (t' i)).2) := by
    intro i
    change (if holdsFd f (t' i) then _ else _) = _ ∨ _ ∧ _ ∧ (if holdsFd f (t' i) then _ else _) = _
    by_cases hh : holdsFd f (t' i) = true
    · obtain ⟨ha, he⟩ := holdsFd_iff.mp hh
      exact .inr ⟨ha, he, if_pos hh⟩
    · exact .inl (if_neg hh)
  refine ⟨?_, ?_, ?_⟩
  · rcases cases target with e | ⟨-, he, -⟩
    · rw [e]
      exact h.mine
    · exact absurd (h.mine.2.2.1.symm.trans he) hf
  · intro i hi ha hu
    have hc := h.others i hi ha hu
    rcases cases i with e | ⟨ha', -, e⟩
    · rw [e]
      exact hc
    · rw [e, markSlotClosing_of_active ha']
  · rintro i hi ⟨ha, hj, hu⟩
    rcases cases i with e | ⟨ha', -, e⟩
    · rw [e] at ha hj hu
      exact h.only i hi ⟨ha, hj, hu⟩
    · rw [e, markSlotClosing_of_active ha'] at hj
      cases hj

theorem updateIdentity_switches {fd : ℤ} {userId name : String} (hne : userId ≠ "")
    (hlen : JsonTree.strlen userId ≤ maxUserIdLen) (w : World cfg) :
    Traces (Steps (fun _ _ => True)) (chatSessionsUpdateIdentity fd userId name) w (fun done u =>
      done = true → ∃ target, Switched w.ctx.clientSlots fd userId u.ctx.clientSlots target) := by
  refine deviceUptimeS_spec.bind ?_
  rintro now u - rfl
  refine slots_spec.bind ?_
  rintro table u - ⟨rfl, rfl⟩
  cases hb : bindIdentity now u.ctx.clientSlots fd userId name with
  | none => exact .pure (by simp)
  | some b =>
    obtain ⟨target, hbound⟩ := bindIdentity_bound hb
    have start : Switched u.ctx.clientSlots fd userId b.slots target := switched_bind hne hlen hbound
    refine Traces.bind (takes (.bind now fd userId name) trivial (by simp only [act, bindSlots, hb])) ?_
    rintro - v - rfl
    have told := (notifyStale_spec b.staleFds).keeping
      (fun v => Switched u.ctx.clientSlots fd userId v.ctx.clientSlots target)
      (w := act (.bind now fd userId name) u) (by simp only [act, bindSlots, hb]; exact start) (by
        rintro x y hx ⟨a, ⟨f, hf, rfl | ⟨d, rfl, -⟩⟩, rfl⟩
        · exact switched_closing hx (fun e => hbound.stale (e ▸ hf))
        · exact hx)
    refine Traces.bind (permitsAll told (fun _ _ _ => trivial)) ?_
    rintro - y - hy
    exact .pure (fun _ => ⟨target, hy⟩)

theorem slot_table_sound (cJSONParse : CJSONParse) (flash : InitialFlash) (events : List Event) :
    let s := run cJSONParse (Node.initial flash : Node cfg) events
    TableInvariant s.openFds s.world.ctx.clientSlots ∧
    -- A successful binding leaves the user with that connection alone.
    (∀ (w : World cfg) fd userId name env, userId ≠ "" → JsonTree.strlen userId ≤ maxUserIdLen →
      (chatSessionsUpdateIdentity fd userId name env w).result = some true →
      ∃ target, Switched w.ctx.clientSlots fd userId
        (chatSessionsUpdateIdentity fd userId name env w).world.ctx.clientSlots target) ∧
    -- A closing slot stays closing, and its frames are refused, until its session ends.
    (∀ i, (s.world.ctx.clientSlots i).closing = true → ∀ later,
      (∀ e ∈ later, ¬endsSession (s.world.ctx.clientSlots i).fd e) →
      let s' := run cJSONParse s later
      (s'.world.ctx.clientSlots i).closing = true ∧
      (s'.world.ctx.clientSlots i).fd = (s.world.ctx.clientSlots i).fd ∧
      ∀ frame env, (step cJSONParse s' (.frame (s.world.ctx.clientSlots i).fd frame env)).world = s'.world) ∧
    -- A joined connection keeps its user until it is closed.
    (∀ i, (s.world.ctx.clientSlots i).joined = true → ∀ later,
      (∀ e ∈ later, ¬endsSession (s.world.ctx.clientSlots i).fd e) →
      let slot := (run cJSONParse s later).world.ctx.clientSlots i
      slot.active = true ∧ slot.fd = (s.world.ctx.clientSlots i).fd ∧
      (slot.closing = true ∨
        (slot.joined = true ∧ slot.userId = (s.world.ctx.clientSlots i).userId))) := by
  intro s
  have h : Sound s := sound_run cJSONParse flash events
  have later_sound : ∀ later, Sound (run cJSONParse s later) := by
    intro later
    have whole : Sound (run cJSONParse (Node.initial flash : Node cfg) (events ++ later)) :=
      sound_run cJSONParse flash _
    rwa [run_append] at whole
  refine ⟨h, ?_, ?_, ?_⟩
  · intro w fd userId name env hne hlen hdone
    exact (updateIdentity_switches hne hlen w env).2 true hdone rfl
  · intro i hc later hl
    have kept := keeps_run cJSONParse h ((h.slot i).closing hc).1 later hl
    have hc' := kept.closing hc
    refine ⟨hc', kept.fd, ?_⟩
    intro frame env
    rw [← kept.fd]
    exact refuses_world cJSONParse (later_sound later) hc' frame env
  · intro i hj later hl
    have kept := keeps_run cJSONParse h ((h.slot i).joined hj).1 later hl
    exact ⟨kept.active, kept.fd, kept.joined hj⟩

end EspWebChat.SlotInvariant
