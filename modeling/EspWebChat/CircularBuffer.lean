import Mathlib.Data.Fintype.Basic
import Mathlib.Data.Fintype.EquivFin
import Mathlib.Data.List.FinRange
import Mathlib.Logic.Function.Basic

set_option autoImplicit false

/-!
# Circular buffers

`n` cells and the position that is overwritten next. The cell behind the head holds the
newest element, and `Holds b xs` says that the buffer is what pushing the elements of `xs`
(newest first) into an empty one leaves.
-/
namespace EspWebChat.CircularBuffer

structure Buffer (α : Type) (n : ℕ) where
  cell : Fin n → Option α
  head : Fin n

variable {α : Type} {n : ℕ}

def next (i : Fin n) : Fin n := ⟨(i.val + 1) % n, Nat.mod_lt _ (Nat.zero_lt_of_lt i.isLt)⟩

def Buffer.empty (h : 0 < n) : Buffer α n := ⟨fun _ => none, ⟨0, h⟩⟩

def Buffer.push (b : Buffer α n) (x : α) : Buffer α n :=
  ⟨Function.update b.cell b.head (some x), next b.head⟩

/-- The cell of the element pushed `k` elements before the newest one. -/
def Buffer.back (b : Buffer α n) (k : ℕ) : Fin n :=
  ⟨(b.head.val + (n - 1 - k)) % n, Nat.mod_lt _ (Nat.zero_lt_of_lt b.head.isLt)⟩

def Holds (b : Buffer α n) (xs : List α) : Prop := ∀ k, k < n → b.cell (b.back k) = xs[k]?

theorem next_val (i : Fin n) : (next i).val = if i.val + 1 < n then i.val + 1 else 0 := by
  have hi := i.isLt
  change (i.val + 1) % n = _
  split_ifs with h
  · exact Nat.mod_eq_of_lt h
  · have he : i.val + 1 = n := by omega
    rw [he, Nat.mod_self]

theorem back_val (b : Buffer α n) (k : ℕ) (hk : k < n) :
    (b.back k).val = if k < b.head.val then b.head.val - 1 - k else b.head.val + n - 1 - k := by
  have hh := b.head.isLt
  change (b.head.val + (n - 1 - k)) % n = _
  split_ifs with h
  · rw [Nat.mod_eq_sub_mod (by omega), Nat.mod_eq_of_lt (by omega)]
    omega
  · rw [Nat.mod_eq_of_lt (by omega)]
    omega

theorem push_head (b : Buffer α n) (x : α) : (b.push x).head = next b.head := rfl

theorem push_back_zero (b : Buffer α n) (x : α) : (b.push x).back 0 = b.head := by
  apply Fin.ext
  have hh := b.head.isLt
  rw [back_val _ _ (by omega), push_head, next_val]
  split_ifs <;> omega

theorem push_back_succ (b : Buffer α n) (x : α) (k : ℕ) (hk : k + 1 < n) :
    (b.push x).back (k + 1) = b.back k := by
  apply Fin.ext
  have hh := b.head.isLt
  rw [back_val _ _ hk, back_val _ _ (by omega), push_head, next_val]
  split_ifs <;> omega

theorem back_ne_head (b : Buffer α n) (k : ℕ) (hk : k + 1 < n) : b.back k ≠ b.head := by
  intro h
  have hh := b.head.isLt
  have hv := congrArg Fin.val h
  rw [back_val _ _ (by omega)] at hv
  split_ifs at hv <;> omega

/-- The oldest possible element lies under the head. -/
theorem back_last (b : Buffer α n) : b.back (n - 1) = b.head := by
  apply Fin.ext
  have hh := b.head.isLt
  rw [back_val _ _ (by omega)]
  split_ifs <;> omega

theorem back_surjective (b : Buffer α n) (i : Fin n) : ∃ k, k < n ∧ b.back k = i := by
  have hh := b.head.isLt
  have hi := i.isLt
  refine ⟨if i.val < b.head.val then b.head.val - 1 - i.val else b.head.val + n - 1 - i.val,
    by split_ifs <;> omega, ?_⟩
  apply Fin.ext
  rw [back_val _ _ (by split_ifs <;> omega)]
  split_ifs <;> omega

theorem holds_empty (h : 0 < n) : Holds (Buffer.empty h : Buffer α n) [] :=
  fun _ _ => rfl

theorem holds_push {b : Buffer α n} {xs : List α} (h : Holds b xs) (x : α) :
    Holds (b.push x) (x :: xs) := by
  intro k hk
  cases k with
  | zero =>
    rw [push_back_zero]
    simp [Buffer.push]
  | succ k =>
    rw [push_back_succ b x k hk, List.getElem?_cons_succ, ← h k (by omega)]
    exact Function.update_of_ne (back_ne_head b k hk) _ _

/-- The cells hold exactly the `n` newest elements. -/
theorem cell_some_iff {b : Buffer α n} {xs : List α} (h : Holds b xs) (x : α) :
    (∃ i, b.cell i = some x) ↔ x ∈ xs.take n := by
  constructor
  · rintro ⟨i, hi⟩
    obtain ⟨k, hk, hb⟩ := back_surjective b i
    have hx : xs[k]? = some x := by rw [← h k hk, hb, hi]
    exact List.mem_iff_getElem?.mpr ⟨k, by rw [List.getElem?_take_of_lt hk, hx]⟩
  · intro hx
    obtain ⟨k, hk⟩ := List.mem_iff_getElem?.mp hx
    have hkn : k < n := by
      have hlt := (List.getElem?_eq_some_iff.mp hk).choose
      simp only [List.length_take] at hlt
      omega
    rw [List.getElem?_take_of_lt hkn] at hk
    exact ⟨b.back k, by rw [h k hkn, hk]⟩

theorem cells_none_iff {b : Buffer α n} {xs : List α} (h : Holds b xs) :
    (∀ i, b.cell i = none) ↔ xs = [] := by
  have hn : 0 < n := Nat.zero_lt_of_lt b.head.isLt
  constructor
  · intro hall
    have h0 := h 0 hn
    rw [hall] at h0
    cases xs with
    | nil => rfl
    | cons x xs => simp at h0
  · rintro rfl i
    obtain ⟨k, hk, hb⟩ := back_surjective b i
    rw [← hb, h k hk, List.getElem?_nil]

theorem countP_range (k n : ℕ) : (List.range n).countP (fun i => decide (i < k)) = min k n := by
  induction n with
  | zero => simp
  | succ n ih =>
    rw [List.range_succ, List.countP_append, ih, List.countP_singleton]
    split_ifs with h
    · simp only [decide_eq_true_eq] at h
      omega
    · simp only [decide_eq_true_eq] at h
      omega

theorem countP_finRange (k n : ℕ) : (List.finRange n).countP (fun i => decide (i.val < k)) = min k n := by
  have vals : (List.finRange n).map Fin.val = List.range n := by
    apply List.ext_getElem
    · simp
    · simp
  rw [← countP_range k n, ← vals, List.countP_map]
  rfl

theorem map_back_perm (b : Buffer α n) : ((List.finRange n).map (fun k => b.back k.val)).Perm (List.finRange n) := by
  have onto : Function.Surjective (fun k : Fin n => b.back k.val) := by
    intro i
    obtain ⟨k, hk, e⟩ := back_surjective b i
    exact ⟨⟨k, hk⟩, e⟩
  exact Equiv.Perm.map_finRange_perm (Equiv.ofBijective _ onto.bijective_of_finite)

theorem occupied_count {b : Buffer α n} {xs : List α} (h : Holds b xs) :
    (List.finRange n).countP (fun i => (b.cell i).isSome) = min xs.length n := by
  rw [← (map_back_perm b).countP_eq, List.countP_map, ← countP_finRange]
  apply List.countP_congr
  intro k _
  change (b.cell (b.back k.val)).isSome = true ↔ _
  rw [h k.val k.isLt]
  simp

end EspWebChat.CircularBuffer
