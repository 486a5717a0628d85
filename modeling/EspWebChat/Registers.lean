import Mathlib.Data.List.Nodup
import Mathlib.Data.List.Perm.Basic
import Mathlib.Order.Lattice

set_option autoImplicit false

/-!
# Folds over a set of writes in any order

A register that keeps what is newer holds the same value after any order of the writes. One
that takes what comes last does so only when the writes agree.
-/
namespace EspWebChat.Registers

section newest
variable {α R τ : Type} [LinearOrder τ] {write : α → R} {keeps : R → α → Bool} {t : α → τ} {l l' : List α}

/-- Take the write, unless what is there is newer. -/
def advance (write : α → R) (keeps : R → α → Bool) (r : R) (x : α) : R := if keeps r x then r else write x

/-- A register has a time: it keeps its value from the writes before that time only, and a write
    sets it to its own. -/
structure Timed (write : α → R) (keeps : R → α → Bool) (t : α → τ) : Prop where
  written : ∀ x y, keeps (write x) y = true ↔ t y < t x
  before : ∀ r x y, keeps r y = true → keeps r x = false → t y < t x

theorem Timed.advance_comm (h : Timed write keeps t) {x y : α} (differ : t x ≠ t y) (r : R) :
    advance write keeps (advance write keeps r x) y = advance write keeps (advance write keeps r y) x := by
  unfold advance
  cases hx : keeps r x with
  | true =>
    cases hy : keeps r y with
    | true => simp [hx, hy]
    | false =>
      have later := (h.written y x).mpr (h.before r y x hx hy)
      simp [hy, later]
  | false =>
    cases hy : keeps r y with
    | true =>
      have later := (h.written x y).mpr (h.before r x y hy hx)
      simp [hx, later]
    | false =>
      simp only [Bool.false_eq_true, if_false, h.written]
      rcases lt_or_gt_of_ne differ with lt | gt
      · rw [if_neg (not_lt_of_gt lt), if_pos lt]
      · rw [if_pos gt, if_neg (not_lt_of_gt gt)]

theorem Timed.foldl_perm (h : Timed write keeps t) (distinct : (l.map t).Nodup) (perm : l.Perm l') (r : R) :
    l.foldl (advance write keeps) r = l'.foldl (advance write keeps) r := by
  apply perm.foldl_eq'
  intro x hx y hy z
  by_cases same : x = y
  · rw [same]
  · exact h.advance_comm (fun times => same (List.inj_on_of_nodup_map distinct hx hy times)) z

theorem Timed.foldl_kept {r : R} (kept : ∀ y ∈ l, keeps r y = true) : l.foldl (advance write keeps) r = r := by
  induction l with
  | nil => rfl
  | cons x l ih =>
    have first : advance write keeps r x = r := if_pos (kept x List.mem_cons_self)
    rw [List.foldl_cons, first]
    exact ih (fun y hy => kept y (List.mem_cons_of_mem _ hy))

/-- The newest write decides. -/
theorem Timed.foldl_newest (h : Timed write keeps t) (distinct : (l.map t).Nodup) {n : α} (hn : n ∈ l)
    (newest : ∀ y ∈ l, t y ≤ t n) (r : R) : l.foldl (advance write keeps) r = advance write keeps r n := by
  obtain ⟨front, back, rfl⟩ := List.append_of_mem hn
  have perm : (front ++ n :: back).Perm (n :: (front ++ back)) := List.perm_middle
  rw [h.foldl_perm distinct perm, List.foldl_cons]
  apply Timed.foldl_kept
  intro y hy
  have single := (perm.map t).nodup_iff.mp distinct
  rw [List.map_cons, List.nodup_cons] at single
  have differ : t y ≠ t n := fun same => single.1 (same ▸ List.mem_map_of_mem hy)
  have earlier : t y < t n := lt_of_le_of_ne (newest y (perm.mem_iff.mpr (List.mem_cons_of_mem _ hy))) differ
  unfold advance
  cases hr : keeps r n with
  | false => simpa using (h.written n y).mpr earlier
  | true =>
    simp only [if_true]
    by_contra lost
    have later := h.before r y n hr (by simpa using lost)
    exact absurd earlier (not_lt_of_gt later)

end newest

section last
variable {α β : Type} {g : α → Option β} {l : List α}

/-- Take what is given, if anything is. -/
def refresh (g : α → Option β) (b : β) (x : α) : β := (g x).getD b

theorem foldl_refresh_last (b : β) (x : α) : (l ++ [x]).foldl (refresh g) b = refresh g (l.foldl (refresh g) b) x := by
  rw [List.foldl_append]
  rfl

/-- If all that is given is `a`, then `a` it is, from the first time on. -/
theorem foldl_refresh_given {a b : β} (same : ∀ x ∈ l, ∀ y ∈ g x, y = a) (given : b = a ∨ ∃ x ∈ l, g x = some a) :
    l.foldl (refresh g) b = a := by
  induction l generalizing b with
  | nil =>
    cases given with
    | inl h => exact h
    | inr h =>
      obtain ⟨x, hx, -⟩ := h
      cases hx
  | cons x l ih =>
    rw [List.foldl_cons]
    apply ih (fun y hy => same y (List.mem_cons_of_mem _ hy))
    unfold refresh
    cases hg : g x with
    | some a' => exact .inl (same x List.mem_cons_self a' hg)
    | none =>
      cases given with
      | inl h => exact .inl h
      | inr h =>
        obtain ⟨z, hz, found⟩ := h
        cases List.mem_cons.mp hz with
        | inl first =>
          rw [first, hg] at found
          cases found
        | inr later => exact .inr ⟨z, later, found⟩

theorem foldl_refresh_none {b : β} (none : ∀ x ∈ l, g x = none) : l.foldl (refresh g) b = b :=
  foldl_refresh_given (fun x hx y hy => by rw [none x hx] at hy; cases hy) (.inl rfl)

theorem exists_ending {x : α} (hx : x ∈ l) : ∃ front, (front ++ [x]).Perm l := by
  obtain ⟨front, back, rfl⟩ := List.append_of_mem hx
  refine ⟨front ++ back, ?_⟩
  rw [List.append_assoc]
  have swap : (back ++ [x]).Perm ([x] ++ back) := List.perm_append_comm
  exact swap.append_left front

/-- The order does not matter exactly when all that is given is the same. -/
theorem foldl_refresh_iff (b : β) :
    (∀ l₁ l₂ : List α, l₁.Perm l → l₂.Perm l → l₁.foldl (refresh g) b = l₂.foldl (refresh g) b) ↔
      ∀ x ∈ l, ∀ y ∈ l, ∀ a ∈ g x, ∀ a' ∈ g y, a = a' := by
  constructor
  · intro same x hx y hy a ha a' ha'
    have ending : ∀ z ∈ l, ∀ v ∈ g z, ∃ l₁ : List α, l₁.Perm l ∧ l₁.foldl (refresh g) b = v := by
      intro z hz v hv
      obtain ⟨front, perm⟩ := exists_ending hz
      refine ⟨_, perm, ?_⟩
      rw [foldl_refresh_last]
      unfold refresh
      rw [show g z = some v from hv]
      rfl
    obtain ⟨l₁, perm₁, first⟩ := ending x hx a ha
    obtain ⟨l₂, perm₂, second⟩ := ending y hy a' ha'
    rw [← first, ← second]
    exact same l₁ l₂ perm₁ perm₂
  · intro agree l₁ l₂ perm₁ perm₂
    by_cases some_given : ∃ x ∈ l, ∃ a, g x = some a
    · obtain ⟨x, hx, a, ha⟩ := some_given
      have final : ∀ l' : List α, l'.Perm l → l'.foldl (refresh g) b = a := by
        intro l' perm
        apply foldl_refresh_given
        · intro y hy a' ha'
          exact (agree x hx y (perm.mem_iff.mp hy) a ha a' ha').symm
        · exact .inr ⟨x, perm.mem_iff.mpr hx, ha⟩
      rw [final l₁ perm₁, final l₂ perm₂]
    · have none : ∀ x ∈ l, g x = none := by
        intro x hx
        cases hg : g x with
        | none => rfl
        | some a => exact absurd ⟨x, hx, a, hg⟩ some_given
      rw [foldl_refresh_none (fun x hx => none x (perm₁.mem_iff.mp hx)),
        foldl_refresh_none (fun x hx => none x (perm₂.mem_iff.mp hx))]

end last

end EspWebChat.Registers
