import Mathlib.Tactic.Common
import EspWebChat.ClientSlots

set_option autoImplicit false

/-! # What each operation on the table does to one slot -/
namespace EspWebChat.SlotSteps
open ClientSlots

variable {n : ℕ} {t : SlotTable n} {fd now : ℤ} {userId name : String}

theorem firstSlot_some {p : ClientSlot → Bool} {i : Fin n} (h : firstSlot p t = some i) :
    p (t i) = true :=
  List.find?_some (p := fun i => p (t i)) h

theorem firstSlot_none {p : ClientSlot → Bool} (h : firstSlot p t = none) (i : Fin n) :
    p (t i) = false := by
  have := List.find?_eq_none.mp h i (List.mem_finRange i)
  simpa using this

theorem lastSlot_some {p : ClientSlot → Bool} {i : Fin n} (h : lastSlot p t = some i) :
    p (t i) = true :=
  List.find?_some (p := fun i => p (t i)) h

theorem lastSlot_none {p : ClientSlot → Bool} (h : lastSlot p t = none) (i : Fin n) :
    p (t i) = false := by
  have := List.find?_eq_none.mp h i (List.mem_reverse.mpr (List.mem_finRange i))
  simpa using this

theorem holdsFd_iff {s : ClientSlot} : holdsFd fd s = true ↔ s.active = true ∧ s.fd = fd := by
  simp [holdsFd]

theorem liveOn_iff {s : ClientSlot} :
    liveOn fd s = true ↔ s.active = true ∧ s.closing = false ∧ s.fd = fd := by
  simp [liveOn, and_assoc]

theorem joinedOn_iff {s : ClientSlot} : joinedOn fd s = true ↔
    s.active = true ∧ s.closing = false ∧ s.joined = true ∧ s.fd = fd := by
  simp [joinedOn, and_assoc]

/-- The same slot, the same slot marked alive, or a free slot taken for a descriptor that has none. -/
theorem ensureSlot_slot (now : ℤ) (t : SlotTable n) (fd : ℤ) (i : Fin n) :
    (ensureSlot now t fd).2 i = t i ∨
    (liveOn fd (t i) = true ∧ (ensureSlot now t fd).2 i = { t i with isAlive := true }) ∨
    ((t i).active = false ∧ (∀ k, holdsFd fd (t k) = false) ∧
      (ensureSlot now t fd).2 = Function.update t i (freshSlot now fd (t i))) := by
  unfold ensureSlot
  split
  · rename_i k hk
    split_ifs with hc
    · exact .inl rfl
    · by_cases hik : i = k
      · subst hik
        obtain ⟨ha, hf⟩ := holdsFd_iff.mp (firstSlot_some hk)
        exact .inr (.inl ⟨liveOn_iff.mpr ⟨ha, by simpa using hc, hf⟩, Function.update_self ..⟩)
      · exact .inl (Function.update_of_ne hik ..)
  · rename_i hnone
    split
    · rename_i k hk
      by_cases hik : i = k
      · subst hik
        exact .inr (.inr ⟨by simpa using firstSlot_some hk, firstSlot_none hnone, rfl⟩)
      · exact .inl (Function.update_of_ne hik ..)
    · exact .inl rfl

theorem ensureSlot_ready (h : (ensureSlot now t fd).1 = true) :
    ∃ i, liveOn fd ((ensureSlot now t fd).2 i) = true := by
  unfold ensureSlot at h ⊢
  cases hk : firstSlot (holdsFd fd) t with
  | some k =>
    obtain ⟨ha, hf⟩ := holdsFd_iff.mp (firstSlot_some hk)
    cases hc : (t k).closing with
    | true => simp [hk, hc] at h
    | false => exact ⟨k, by simp [hc, liveOn, ha, hf]⟩
  | none =>
    cases hf : firstSlot (fun s => !s.active) t with
    | none => simp [hk, hf] at h
    | some k => exact ⟨k, by simp [liveOn, freshSlot]⟩

theorem ensureSlot_closing (h : ∀ i, holdsFd fd (t i) = true → (t i).closing = true)
    (held : ∃ i, holdsFd fd (t i) = true) : ensureSlot now t fd = (false, t) := by
  unfold ensureSlot
  cases hk : firstSlot (holdsFd fd) t with
  | some k => simp [h k (firstSlot_some hk)]
  | none =>
    obtain ⟨i, hi⟩ := held
    rw [firstSlot_none hk i] at hi
    cases hi

theorem updateFirst_slot (p : ClientSlot → Bool) (f : ClientSlot → ClientSlot) (i : Fin n) :
    updateFirst p f t i = t i ∨ (p (t i) = true ∧ updateFirst p f t i = f (t i)) := by
  unfold updateFirst
  cases hk : firstSlot p t with
  | none => exact .inl rfl
  | some k =>
    by_cases hik : i = k
    · subst hik
      exact .inr ⟨firstSlot_some hk, Function.update_self ..⟩
    · exact .inl (Function.update_of_ne hik ..)

theorem updateTimeSample_slot (t : SlotTable n) (fd offset : ℤ) (i : Fin n) :
    updateTimeSample t fd offset i = t i ∨ (joinedOn fd (t i) = true ∧
      updateTimeSample t fd offset i = { t i with timeOffsetS := offset, timeOffsetValid := true }) :=
  updateFirst_slot _ _ i

theorem markAlive_slot (t : SlotTable n) (fd : ℤ) (i : Fin n) :
    markAlive t fd i = t i ∨ (joinedOn fd (t i) = true ∧
      markAlive t fd i = { t i with isAlive := true }) :=
  updateFirst_slot _ _ i

/-- The slot that is bound, and what becomes of the others that held the user. -/
structure Bound (t : SlotTable n) (now fd : ℤ) (userId name : String) (b : Binding n)
    (target : Fin n) : Prop where
  choice : liveOn fd (t target) = true ∨
    ((∀ i, liveOn fd (t i) = false) ∧ (t target).active = false)
  bound : b.slots target = boundSlot now fd userId name (t target)
  others : ∀ i, i ≠ target →
    (b.slots i = t i ∧ ¬((t i).active = true ∧ userId ≠ "" ∧ (t i).userId = userId)) ∨
    ((t i).active = true ∧ userId ≠ "" ∧ (t i).userId = userId ∧
      b.slots i = (markSlotClosing (t i)).2)
  stale : fd ∉ b.staleFds

theorem bindIdentity_bound {b : Binding n} (h : bindIdentity now t fd userId name = some b) :
    ∃ target, Bound t now fd userId name b target := by
  unfold bindIdentity at h
  cases ht : (lastSlot (liveOn fd) t).or (firstSlot (fun s => !s.active) t) with
  | none => simp [ht] at h
  | some target =>
    simp only [ht, Option.some.injEq] at h
    subst h
    refine ⟨target, ?_, ?_, ?_, ?_⟩
    · cases hl : lastSlot (liveOn fd) t with
      | some k =>
        rw [hl, Option.some_or] at ht
        cases ht
        exact .inl (lastSlot_some hl)
      | none =>
        rw [hl, Option.none_or] at ht
        exact .inr ⟨lastSlot_none hl, by simpa using firstSlot_some ht⟩
    · simp
    · intro i hi
      by_cases hs : (t i).active = true ∧ userId ≠ "" ∧ (t i).userId = userId
      · obtain ⟨ha, hu, he⟩ := hs
        refine .inr ⟨ha, hu, he, ?_⟩
        simp [hi, ha, hu, he]
      · refine .inl ⟨?_, hs⟩
        have hno : ((i != target && (t i).active && (t i).userId != "") && (t i).userId == userId) = false := by
          by_contra hc
          simp only [Bool.not_eq_false, Bool.and_eq_true, bne_iff_ne, beq_iff_eq] at hc
          exact hs ⟨hc.1.1.2, by rw [← hc.2]; exact hc.1.2, hc.2⟩
        simp only [hno, Bool.false_eq_true, if_false]
        exact Function.update_of_ne hi ..
    · intro hmem
      obtain ⟨i, -, hi⟩ := List.mem_filterMap.mp hmem
      split_ifs at hi with hc
      simp only [Bool.and_eq_true, bne_iff_ne] at hc
      exact hc.2 (Option.some.inj hi)

theorem markSlotClosing_of_active {s : ClientSlot} (h : s.active = true) :
    markSlotClosing s = (s.joined, { s with
      closing := true, joined := false, isAlive := false, timeOffsetValid := false,
      timeOffsetS := 0, userId := "", name := "" }) := by
  simp [markSlotClosing, h]

def clocked (alive : Bool) (registered ping : ℤ) (s : ClientSlot) : ClientSlot :=
  { s with isAlive := alive, registeredAtS := registered, lastPingS := ping }

/-- The sweep leaves a slot as it is up to its clocks and its heartbeat, or starts to close it. -/
theorem sweepSlot_slot (interval now : ℤ) (delayed : Bool) (s : ClientSlot) :
    ∃ alive registered ping,
      (sweepSlot interval now delayed s).slot = clocked alive registered ping s ∨
      (s.active = true ∧ s.closing = false ∧
        (sweepSlot interval now delayed s).slot =
          (markSlotClosing (clocked alive registered ping s)).2) := by
  by_cases h : (!s.active || s.closing) = true
  · refine ⟨s.isAlive, s.registeredAtS, s.lastPingS, .inl ?_⟩
    rw [sweepSlot, if_pos h]
    rfl
  · have hlive : s.active = true ∧ s.closing = false := by simpa using h
    rw [sweepSlot, if_neg h]
    by_cases hj : s.joined = true
    · rw [if_neg (by simp [hj])]
      by_cases hd : (delayed && !s.isAlive) = true
      · simp only [hd, if_true, Bool.not_true, Bool.false_eq_true, if_false]
        split_ifs
        · exact ⟨true, s.registeredAtS, now - interval, .inl rfl⟩
        · exact ⟨false, s.registeredAtS, now, .inl rfl⟩
      · simp only [Bool.eq_false_iff.mpr hd, Bool.false_eq_true, if_false]
        split_ifs
        · exact ⟨s.isAlive, s.registeredAtS, s.lastPingS, .inl rfl⟩
        · exact ⟨s.isAlive, s.registeredAtS, s.lastPingS, .inr ⟨hlive.1, hlive.2, rfl⟩⟩
        · exact ⟨s.isAlive, s.registeredAtS, s.lastPingS, .inl rfl⟩
        · exact ⟨false, s.registeredAtS, now, .inl rfl⟩
    · rw [if_pos (by simp [hj])]
      split_ifs
      · exact ⟨s.isAlive, now, s.lastPingS, .inl rfl⟩
      · exact ⟨s.isAlive, s.registeredAtS, s.lastPingS, .inl rfl⟩
      · exact ⟨s.isAlive, s.registeredAtS, s.lastPingS, .inr ⟨hlive.1, hlive.2, rfl⟩⟩

def JoinedAs (t : SlotTable n) (fd : ℤ) (userId : String) : Prop :=
  ∃ i, (t i).active = true ∧ (t i).joined = true ∧ (t i).fd = fd ∧ (t i).userId = userId

theorem checkIdentity_ok (h : checkIdentity t fd (some userId) = .ok) : JoinedAs t fd userId := by
  unfold checkIdentity at h
  cases hk : firstSlot (liveOn fd) t with
  | none => simp [hk] at h
  | some i =>
    obtain ⟨ha, -, hf⟩ := liveOn_iff.mp (firstSlot_some hk)
    simp only [hk] at h
    split_ifs at h with hj hu
    simp only [Bool.or_eq_true, Bool.not_eq_true', beq_iff_eq, not_or, Bool.not_eq_false] at hj
    exact ⟨i, ha, hj.1, hf, (Option.some.inj hu).symm⟩

theorem isJoined_joined (h : isJoined t fd = true) : ∃ userId, JoinedAs t fd userId := by
  unfold isJoined at h
  cases hk : firstSlot (liveOn fd) t with
  | none => simp [hk] at h
  | some i =>
    obtain ⟨ha, -, hf⟩ := liveOn_iff.mp (firstSlot_some hk)
    simp only [hk, Bool.and_eq_true] at h
    exact ⟨_, i, ha, h.1, hf, rfl⟩

theorem markClosing_joined (h : (markClosing t fd).1 = true) : ∃ userId, JoinedAs t fd userId := by
  obtain ⟨i, -, hi⟩ := List.any_eq_true.mp h
  rw [Bool.and_eq_true, holdsFd_iff] at hi
  exact ⟨_, i, hi.1.1, hi.2, hi.1.2, rfl⟩

theorem receiverFds_joined {target : ℤ} (h : target ∈ receiverFds t) :
    ∃ userId, JoinedAs t target userId := by
  obtain ⟨i, -, hi⟩ := List.mem_filterMap.mp h
  split_ifs at hi with hr
  cases hi
  simp only [receives, Bool.and_eq_true] at hr
  exact ⟨_, i, hr.1.1, hr.2, rfl, rfl⟩

theorem joinedAs_ensureSlot {target : ℤ} (h : JoinedAs (ensureSlot now t fd).2 target userId) :
    JoinedAs t target userId := by
  obtain ⟨i, h⟩ := h
  refine ⟨i, ?_⟩
  rcases ensureSlot_slot now t fd i with e | ⟨-, e⟩ | ⟨-, -, e⟩
  · rw [e] at h
    exact h
  · rw [e] at h
    exact h
  · rw [e, Function.update_self] at h
    exact absurd h.2.1 (by simp [freshSlot])

theorem joinedAs_sample {offset target : ℤ} (h : JoinedAs (updateTimeSample t fd offset) target userId) :
    JoinedAs t target userId := by
  obtain ⟨i, h⟩ := h
  refine ⟨i, ?_⟩
  rcases updateTimeSample_slot t fd offset i with e | ⟨-, e⟩
  · rw [e] at h
    exact h
  · rw [e] at h
    exact h

end EspWebChat.SlotSteps
