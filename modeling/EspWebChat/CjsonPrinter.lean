import Mathlib.Algebra.Order.Group.Abs
import Mathlib.Algebra.Order.Ring.Int
import Mathlib.Data.Rat.Cast.Defs
import Mathlib.Tactic.SplitIfs
import EspWebChat.NumberMaps

set_option autoImplicit false

/-!
# Numbers in the texts of the server

`cJSON_PrintUnformatted` writes a number with 15 digits if what these say is close enough to it.
From 2^52 on a neighbour is close enough, and the reader gets that one. A number that is not finite
is written as `null`.
-/
namespace EspWebChat.CjsonPrinter
open JsonTree NumberMaps

/-- `read` is the number that the reader of a printed text finds in place of a finite one. -/
structure Printer where
  read : ℚ → Number
  exact : ∀ n : ℤ, |n| ≤ 2 ^ 52 → read n = .fin n
  safe : ∀ n : ℕ, 0 < n → n ≤ 2 ^ 53 - 1 → ∃ m : ℕ, 0 < m ∧ m ≤ 2 ^ 53 - 1 ∧ read n = .fin m
  finite : ∀ n : ℤ, |n| ≤ 2 ^ 63 → ∃ q, read n = .fin q

variable (p : Printer)

def Printer.number : Number → Json
  | .fin q => .num (p.read q)
  | _ => .null

/-- The tree that is read from the printed text of `j`. -/
def Printer.printed (j : Json) : Json := mapNumbers p.number j

/-- Whoever reads the printed id gets the id. -/
def Printer.Keeps (id : ℕ) : Prop := p.read id = .fin id

instance (id : ℕ) : Decidable (p.Keeps id) := inferInstanceAs (Decidable (_ = _))

theorem Printer.numeric : Numeric p.number := by
  intro n
  cases n with
  | fin q => exact .inr ⟨_, rfl⟩
  | nan | inf => exact .inl rfl

theorem Printer.printed_member (j : Json) (key : String) : (p.printed j).member key = (j.member key).map p.printed :=
  member_mapNumbers p.numeric j key

theorem Printer.printed_lastMember (j : Json) (key : String) :
    (p.printed j).lastMember key = (j.lastMember key).map p.printed := lastMember_mapNumbers p.numeric j key

theorem Printer.printed_text {o : Option Json} {s : String} : o.map p.printed = some (.str s) ↔ o = some (.str s) :=
  mapped_eq_str p.numeric

theorem Printer.printed_str {j : Json} {key s : String} (h : j.member key = some (.str s)) :
    (p.printed j).member key = some (.str s) := by
  rw [p.printed_member]
  exact p.printed_text.mpr h

theorem Printer.printed_isObject (j : Json) : (p.printed j).isObject = j.isObject := mapNumbers_isObject p.numeric j

theorem Printer.printed_unique {j : Json} (unique : UniqueKeys j.members) : UniqueKeys (p.printed j).members :=
  uniqueKeys_mapNumbers p.numeric unique

theorem Printer.keeps {id : ℕ} (small : id ≤ 2 ^ 52) : p.Keeps id :=
  p.exact id (by rw [abs_of_nonneg (Int.natCast_nonneg id)]; exact_mod_cast small)

/-- The nearest number with a last digit 0. -/
def nearTen (n : ℕ) : ℕ := (n + 5) / 10 * 10

/-- Of a number with sixteen digits the first fifteen are written if nobody could tell. -/
def fifteen (n : ℕ) : ℕ :=
  if 10 ^ 15 ≤ n ∧ n ≤ 2 ^ 53 ∧ (max n (nearTen n) - min n (nearTen n)) * 2 ^ 52 ≤ max n (nearTen n) then nearTen n
  else n

theorem fifteen_exact {n : ℕ} (small : n ≤ 2 ^ 52) : fifteen n = n := by
  unfold fifteen nearTen
  split_ifs with near
  · omega
  · rfl

theorem fifteen_safe {n : ℕ} (positive : 0 < n) (safe : n ≤ 2 ^ 53 - 1) : 0 < fifteen n ∧ fifteen n ≤ 2 ^ 53 - 1 := by
  unfold fifteen nearTen
  split_ifs with near
  · omega
  · omega

/-- The numbers of a message; what the library does to others plays no part. -/
def fifteenDigits : Printer where
  read q := .fin (if q.den = 1 ∧ 0 ≤ q.num then (fifteen q.num.toNat : ℚ) else q)
  exact n small := by
    have whole : ((n : ℚ).den = 1) := Rat.den_intCast n
    rw [whole, Rat.num_intCast]
    split_ifs with positive
    · rw [fifteen_exact (by have := abs_le.mp small; omega)]
      have same : ((n.toNat : ℤ) : ℚ) = n := by rw [Int.toNat_of_nonneg positive.2]
      exact congrArg Number.fin (by exact_mod_cast same)
    · rfl
  safe n positive safe := by
    obtain ⟨some_left, small⟩ := fifteen_safe positive safe
    refine ⟨fifteen n, some_left, small, ?_⟩
    simp
  finite n _ := ⟨_, rfl⟩

end EspWebChat.CjsonPrinter
