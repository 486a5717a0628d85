import Mathlib.Algebra.BigOperators.Group.List.Basic
import Mathlib.Tactic.Linarith
import EspWebChat.ClientSlots

set_option autoImplicit false

/-!
# The clock majority

Two thirds of the offsets in one window decide. Two such windows share an offset, so those
outside cannot move the decision further than one window.
-/
namespace EspWebChat.ClockMajority
open ClientSlots

variable {α β : Type} {offsets : List ℤ}

def improve (required : ℕ) (candidate : β → List α) (best : List α) (b : β) : List α :=
  if required ≤ (candidate b).length ∧ best.length < (candidate b).length then candidate b else best

theorem improve_length (required : ℕ) (candidate : β → List α) (best : List α) (b : β) :
    best.length ≤ (improve required candidate best b).length := by
  unfold improve
  split_ifs with h
  · omega
  · exact le_rfl

structure Searched (required : ℕ) (candidate : β → List α) (best : List α) (bs : List β) (found : List α) : Prop where
  source : found = best ∨ ∃ b ∈ bs, found = candidate b ∧ required ≤ (candidate b).length
  grows : best.length ≤ found.length
  largest : ∀ b ∈ bs, required ≤ (candidate b).length → (candidate b).length ≤ found.length

theorem search_spec (required : ℕ) (candidate : β → List α) (best : List α) (bs : List β) :
    Searched required candidate best bs (bs.foldl (improve required candidate) best) := by
  induction bs generalizing best with
  | nil => exact ⟨.inl rfl, le_rfl, by simp⟩
  | cons b bs ih =>
    rw [List.foldl_cons]
    have rest := ih (improve required candidate best b)
    have first := improve_length required candidate best b
    refine ⟨?_, first.trans rest.grows, ?_⟩
    · cases rest.source with
      | inl same =>
        rw [same]
        by_cases h : required ≤ (candidate b).length ∧ best.length < (candidate b).length
        · exact .inr ⟨b, List.mem_cons_self, if_pos h, h.1⟩
        · exact .inl (if_neg h)
      | inr later =>
        obtain ⟨b', hb, found⟩ := later
        exact .inr ⟨b', List.mem_cons_of_mem b hb, found⟩
    · intro b' hb enough
      cases hb with
      | head =>
        have taken : (candidate b).length ≤ (improve required candidate best b).length := by
          unfold improve
          split_ifs with h
          · exact le_rfl
          · omega
        exact taken.trans rest.grows
      | tail _ hb => exact rest.largest b' hb enough

theorem window_anchored (offsets : List ℤ) (a : ℤ) (occupied : cluster offsets a ≠ []) :
    ∃ lower ∈ offsets, (cluster offsets a).length ≤ (cluster offsets lower).length := by
  obtain ⟨lower, hlower, least⟩ : ∃ lower ∈ cluster offsets a, ∀ o ∈ cluster offsets a, lower ≤ o := by
    cases hmin : (cluster offsets a).min? with
    | none => exact absurd (List.min?_eq_none_iff.mp hmin) occupied
    | some lower => exact ⟨lower, List.min?_eq_some_iff.mp hmin⟩
  refine ⟨lower, (List.mem_filter.mp hlower).1, ?_⟩
  have start := (List.mem_filter.mp hlower).2
  unfold cluster
  rw [← List.countP_eq_length_filter, ← List.countP_eq_length_filter]
  apply List.countP_mono_left
  intro o ho inside
  have above := least o (List.mem_filter.mpr ⟨ho, inside⟩)
  simp only [Bool.and_eq_true, decide_eq_true_eq] at start inside ⊢
  omega

theorem mem_cluster {a o : ℤ} : o ∈ cluster offsets a ↔ o ∈ offsets ∧ a ≤ o ∧ o ≤ a + timeSyncToleranceS := by
  simp [cluster]

/-- Two windows that together hold more than all offsets share one. -/
theorem windows_meet {a b : ℤ} (more : offsets.length < (cluster offsets a).length + (cluster offsets b).length) :
    ∃ o, o ∈ cluster offsets a ∧ o ∈ cluster offsets b := by
  by_contra apart
  push Not at apart
  have outside : (cluster offsets b).length ≤ (offsets.filter (fun o =>
      !(decide (a ≤ o) && decide (o ≤ a + timeSyncToleranceS)))).length := by
    unfold cluster
    rw [← List.countP_eq_length_filter, ← List.countP_eq_length_filter]
    apply List.countP_mono_left
    intro o ho inside
    have there : o ∈ cluster offsets b := List.mem_filter.mpr ⟨ho, inside⟩
    have gone : o ∉ cluster offsets a := fun here => apart o here there
    rw [mem_cluster] at gone
    by_contra contained
    simp only [Bool.not_eq_true', Bool.not_eq_false, Bool.and_eq_true, decide_eq_true_eq] at contained
    exact gone ⟨ho, contained⟩
  have split : offsets.length = _ := List.length_eq_length_filter_add
    (fun o => decide (a ≤ o) && decide (o ≤ a + timeSyncToleranceS))
  unfold cluster at more outside
  omega

theorem tdiv_between {s n lo hi : ℤ} (pos : 0 < n) (low : lo * n ≤ s) (high : s ≤ hi * n) :
    lo ≤ s.tdiv n ∧ s.tdiv n ≤ hi := by
  by_cases sign : 0 ≤ s
  · rw [Int.tdiv_eq_ediv_of_nonneg sign]
    refine ⟨(Int.le_ediv_iff_mul_le pos).mpr low, ?_⟩
    have below : s / n < hi + 1 := (Int.ediv_lt_iff_lt_mul pos).mpr (by linarith)
    omega
  · have other : s.tdiv n = -((-s) / n) := by
      rw [← Int.tdiv_eq_ediv_of_nonneg (by omega : 0 ≤ -s), Int.neg_tdiv, neg_neg]
    have above : -hi ≤ (-s) / n := (Int.le_ediv_iff_mul_le pos).mpr (by linarith)
    have below : (-s) / n < -lo + 1 := (Int.ediv_lt_iff_lt_mul pos).mpr (by linarith)
    omega

theorem sum_between (os : List ℤ) (lo hi : ℤ) (bounds : ∀ o ∈ os, lo ≤ o ∧ o ≤ hi) :
    lo * os.length ≤ os.sum ∧ os.sum ≤ hi * os.length := by
  induction os with
  | nil => simp
  | cons o os ih =>
    have first := bounds o List.mem_cons_self
    have rest := ih (fun o' ho => bounds o' (List.mem_cons_of_mem o ho))
    rw [List.sum_cons, List.length_cons]
    push_cast
    constructor <;> linarith

theorem mean_between (os : List ℤ) (occupied : os ≠ []) :
    ∃ lo ∈ os, ∃ hi ∈ os, lo ≤ os.sum.tdiv os.length ∧ os.sum.tdiv os.length ≤ hi := by
  cases hmin : os.min? with
  | none => exact absurd (List.min?_eq_none_iff.mp hmin) occupied
  | some lo =>
    cases hmax : os.max? with
    | none => exact absurd (List.max?_eq_none_iff.mp hmax) occupied
    | some hi =>
      obtain ⟨hlo, least⟩ := List.min?_eq_some_iff.mp hmin
      obtain ⟨hhi, greatest⟩ := List.max?_eq_some_iff.mp hmax
      have pos : (0 : ℤ) < os.length := by
        have := List.length_pos_iff.mpr occupied
        omega
      obtain ⟨low, high⟩ := sum_between os lo hi (fun o ho => ⟨least o ho, greatest o ho⟩)
      exact ⟨lo, hlo, hi, hhi, tdiv_between pos low high⟩

def Majority (offsets : List ℤ) (a : ℤ) : Prop := 2 * offsets.length ≤ 3 * (cluster offsets a).length

theorem threshold_le (n k : ℕ) : timeSyncThreshold n ≤ k ↔ 2 * n ≤ 3 * k := by
  unfold timeSyncThreshold
  split_ifs <;> omega

/-- The decision is the mean of a largest window, if that holds two thirds of the offsets. -/
theorem consensus_cases (offsets : List ℤ) :
    (consensusOffsetS offsets = none ∧
      (offsets = [] ∨ ∀ a, (cluster offsets a).length < timeSyncThreshold offsets.length)) ∨
    ∃ a, consensusOffsetS offsets = some ((cluster offsets a).sum.tdiv (cluster offsets a).length) ∧
      offsets ≠ [] ∧ timeSyncThreshold offsets.length ≤ (cluster offsets a).length ∧
      ∀ b, (cluster offsets b).length ≤ (cluster offsets a).length := by
  have searched := search_spec (timeSyncThreshold offsets.length) (cluster offsets) [] offsets
  have found : consensusOffsetS offsets = if timeSyncThreshold offsets.length = 0 then none
      else if offsets.foldl (improve (timeSyncThreshold offsets.length) (cluster offsets)) [] = [] then none
      else some ((offsets.foldl (improve (timeSyncThreshold offsets.length) (cluster offsets)) []).sum.tdiv
        (offsets.foldl (improve (timeSyncThreshold offsets.length) (cluster offsets)) []).length) := rfl
  generalize offsets.foldl (improve (timeSyncThreshold offsets.length) (cluster offsets)) [] = selected at searched found
  by_cases empty : offsets = []
  · subst empty
    exact .inl ⟨rfl, .inl rfl⟩
  · have positive : 0 < timeSyncThreshold offsets.length := by
      have := List.length_pos_iff.mpr empty
      unfold timeSyncThreshold
      rw [if_neg (by omega)]
      omega
    rw [if_neg (by omega)] at found
    -- no window is longer than the one that was found, when it reaches the threshold
    have largest : ∀ b, timeSyncThreshold offsets.length ≤ (cluster offsets b).length →
        (cluster offsets b).length ≤ selected.length := by
      intro b enough
      obtain ⟨lower, hlower, longer⟩ := window_anchored offsets b (List.length_pos_iff.mp (by omega))
      exact longer.trans (searched.largest lower hlower (by omega))
    cases searched.source with
    | inl nothing =>
      refine .inl ⟨by rw [found, if_pos nothing], .inr ?_⟩
      intro a
      by_contra enough
      have none := largest a (by omega)
      rw [nothing] at none
      simp only [List.length_nil] at none
      omega
    | inr some =>
      obtain ⟨a, -, rfl, enough⟩ := some
      have occupied : cluster offsets a ≠ [] := List.length_pos_iff.mp (by omega)
      refine .inr ⟨a, by rw [found, if_neg occupied], empty, enough, ?_⟩
      intro b
      by_cases reached : timeSyncThreshold offsets.length ≤ (cluster offsets b).length
      · exact largest b reached
      · omega

/-- An offset is found exactly when a window holds two thirds of a non-empty list; it lies
    between items of a largest window; and when two thirds lie in a window, then it is no further
    than one window from it, whatever the others are. -/
theorem consensus_majority (offsets : List ℤ) :
    ((consensusOffsetS offsets).isSome = true ↔
      0 < offsets.length ∧ ∃ a, Majority offsets a) ∧
    (∀ v, consensusOffsetS offsets = some v → ∃ a, (∀ b, (cluster offsets b).length ≤ (cluster offsets a).length) ∧
      ∃ lo ∈ cluster offsets a, ∃ hi ∈ cluster offsets a, lo ≤ v ∧ v ≤ hi) ∧
    (∀ a v, Majority offsets a → consensusOffsetS offsets = some v →
      a - timeSyncToleranceS ≤ v ∧ v ≤ a + 2 * timeSyncToleranceS) := by
  cases consensus_cases offsets with
  | inl undecided =>
    obtain ⟨result, why⟩ := undecided
    rw [result]
    refine ⟨⟨by simp, ?_⟩, by simp, by simp⟩
    rintro ⟨some, a, enough⟩
    cases why with
    | inl empty =>
      rw [empty] at some
      simp at some
    | inr short =>
      have reached := (threshold_le offsets.length _).mpr enough
      have := short a
      omega
  | inr decided =>
    obtain ⟨c, result, occupied, reached, largest⟩ := decided
    have enough := (threshold_le offsets.length _).mp reached
    have positive := List.length_pos_iff.mpr occupied
    have some : cluster offsets c ≠ [] := by
      intro empty
      rw [empty, List.length_nil] at enough
      omega
    obtain ⟨lo, hlo, hi, hhi, low, high⟩ := mean_between _ some
    rw [result]
    refine ⟨⟨fun _ => ⟨positive, c, enough⟩, fun _ => rfl⟩, ?_, ?_⟩
    · intro v hv
      cases hv
      exact ⟨c, largest, lo, hlo, hi, hhi, low, high⟩
    · intro a v majority hv
      cases hv
      have more : offsets.length < (cluster offsets a).length + (cluster offsets c).length := by
        unfold Majority at majority
        omega
      obtain ⟨o, here, there⟩ := windows_meet more
      have ha := (mem_cluster.mp here).2
      have hc := (mem_cluster.mp there).2
      have bottom := (mem_cluster.mp hlo).2
      have top := (mem_cluster.mp hhi).2
      unfold timeSyncToleranceS at *
      omega

end EspWebChat.ClockMajority
