import Mathlib.Data.List.Pairwise
import Mathlib.Data.Nat.Notation
import Mathlib.Order.Lattice
import Mathlib.Order.Nat

set_option autoImplicit false

/-!
# Feeds that resume at a cursor

A feed carries the items of a log in the order of their keys, between frames of another kind.
It starts behind a key, and brings no item before it has brought those with smaller keys.
-/
namespace EspWebChat.ResumableFeeds

variable {α β : Type} {key : α → ℕ} {frame : α → β} {aside : β → Prop} {S S' : α → Prop}
  {n k l : ℕ} {bs cs : List β}

/-- The frames bring what `S` has, from behind `n` up to the last number. -/
inductive Feed (key : α → ℕ) (frame : α → β) (aside : β → Prop) (S : α → Prop) : ℕ → List β → ℕ → Prop where
  | done (n : ℕ) : Feed key frame aside S n [] n
  | beside {n k : ℕ} {b : β} {bs : List β} (other : aside b) (rest : Feed key frame aside S n bs k) :
      Feed key frame aside S n (b :: bs) k
  | item {n k : ℕ} {a : α} {bs : List β} (sent : S a) (first : ∀ c, S c → n < key c → key a ≤ key c)
      (rest : Feed key frame aside S (max n (key a)) bs k) : Feed key frame aside S n (frame a :: bs) k

/-- Nothing of `S` lies behind `k`. -/
def Complete (key : α → ℕ) (S : α → Prop) (k : ℕ) : Prop := ∀ a, S a → key a ≤ k

theorem Feed.le (h : Feed key frame aside S n bs k) : n ≤ k := by
  induction h with
  | done n => exact Nat.le_refl n
  | beside _ _ ih => exact ih
  | item _ _ _ ih => omega

theorem Feed.append (h : Feed key frame aside S n bs k) (more : Feed key frame aside S k cs l) :
    Feed key frame aside S n (bs ++ cs) l := by
  induction h with
  | done n => exact more
  | beside other _ ih => exact .beside other (ih more)
  | item sent first _ ih => exact .item sent first (ih more)

theorem Feed.grow (h : Feed key frame aside S n bs k) (old : ∀ a, S a → S' a)
    (new : ∀ c, S' c → S c ∨ ∀ a, S a → key a < key c) : Feed key frame aside S' n bs k := by
  induction h with
  | done n => exact .done n
  | beside other _ ih => exact .beside other ih
  | @item n k a bs sent first _ ih =>
    refine .item (old a sent) ?_ ih
    intro c has behind
    cases new c has with
    | inl there => exact first c there behind
    | inr later => exact Nat.le_of_lt (later a sent)

theorem feed_asides (n : ℕ) (all : ∀ b ∈ bs, aside b) : Feed key frame aside S n bs n := by
  induction bs with
  | nil => exact .done n
  | cons b bs ih =>
    apply Feed.beside (all b List.mem_cons_self)
    apply ih
    intro c hc
    exact all c (List.mem_cons_of_mem b hc)

theorem feed_same {a : α} (n : ℕ) (sent : S a) (first : bs ≠ [] → ∀ c, S c → n < key c → key a ≤ key c)
    (same : ∀ b ∈ bs, b = frame a) : ∃ k, Feed key frame aside S n bs k ∧ (bs ≠ [] → key a ≤ k) := by
  induction bs generalizing n with
  | nil => exact ⟨n, .done n, fun some_frame => absurd rfl some_frame⟩
  | cons b bs ih =>
    have next := first (List.cons_ne_nil b bs)
    obtain ⟨k, rest, -⟩ := ih (max n (key a)) (fun _ c has behind => next c has (by omega))
      (fun c hc => same c (List.mem_cons_of_mem b hc))
    obtain rfl := same b List.mem_cons_self
    exact ⟨k, .item sent next rest, fun _ => Nat.le_trans (le_max_right _ _) rest.le⟩

/-- The last number, once the items of `as` have passed. -/
def lastKey (key : α → ℕ) (n : ℕ) (as : List α) : ℕ := as.foldl (fun k a => max k (key a)) n

theorem le_lastKey (n : ℕ) (as : List α) : n ≤ lastKey key n as := by
  induction as generalizing n with
  | nil => exact Nat.le_refl n
  | cons a as ih => exact Nat.le_trans (le_max_left _ _) (ih (max n (key a)))

theorem mem_lastKey {a : α} {as : List α} (n : ℕ) (h : a ∈ as) : key a ≤ lastKey key n as := by
  induction as generalizing n with
  | nil => cases h
  | cons b as ih =>
    cases List.mem_cons.mp h with
    | inl first =>
      subst first
      exact Nat.le_trans (le_max_right _ _) (le_lastKey _ as)
    | inr later => exact ih (max n (key b)) later

theorem feed_sorted {as : List α} (n : ℕ) (sorted : as.Pairwise (fun a b => key a < key b)) (sent : ∀ a ∈ as, S a)
    (whole : ∀ c, S c → n < key c → c ∈ as ∨ ∀ a ∈ as, key a ≤ key c) :
    Feed key frame aside S n (as.map frame) (lastKey key n as) := by
  induction as generalizing n with
  | nil => exact .done n
  | cons a as ih =>
    obtain ⟨least, sorted⟩ := List.pairwise_cons.mp sorted
    refine .item (sent a List.mem_cons_self) ?_ (ih _ sorted ?_ ?_)
    · intro c has behind
      cases whole c has behind with
      | inl there =>
        cases List.mem_cons.mp there with
        | inl same => rw [same]
        | inr later => exact Nat.le_of_lt (least c later)
      | inr after => exact after a List.mem_cons_self
    · intro c hc
      exact sent c (List.mem_cons_of_mem a hc)
    · intro c has behind
      cases whole c has (by omega) with
      | inl there =>
        cases List.mem_cons.mp there with
        | inl same =>
          subst same
          omega
        | inr later => exact .inl later
      | inr after => exact .inr fun b hb => after b (List.mem_cons_of_mem a hb)

end EspWebChat.ResumableFeeds
