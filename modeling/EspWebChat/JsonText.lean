import Mathlib.Data.Int.Log
import EspWebChat.JsValues

set_option autoImplicit false

/-!
# The size of `JSON.stringify`

The number of bytes of the UTF-8 text the browser writes for a tree.
-/
namespace EspWebChat.JsonText
open JsonTree JsValues

def decimalDigits (n : ℕ) : ℕ := (Nat.toDigits 10 n).length

/-- Whether one of the decimals with `k` digits next to `q < 10 ^ n` reads as `q`. -/
def readsBack (q : ℚ) (n : ℤ) (k : ℕ) : Bool :=
  let scaled := q * (10 : ℚ) ^ ((k : ℤ) - n)
  [⌊scaled⌋, ⌈scaled⌉].any (fun s => nearestDouble ((s : ℚ) * (10 : ℚ) ^ (n - (k : ℤ))) == .fin q)

/-- `Number::toString` of a positive number with `k` digits and the decimal point after the first `n`. -/
def decimalBytes (k : ℕ) (n : ℤ) : ℕ :=
  if (k : ℤ) ≤ n ∧ n ≤ 21 then n.toNat
  else if 0 < n ∧ n ≤ 21 then k + 1
  else if -6 < n ∧ n ≤ 0 then k + 2 + n.natAbs
  else (if k = 1 then 1 else k + 1) + 2 + decimalDigits (n - 1).natAbs

def positiveBytes (q : ℚ) : ℕ :=
  if q.den = 1 ∧ q < (10 : ℚ) ^ 21 then decimalDigits q.num.natAbs
  else
    let n := Int.log 10 q + 1
    let k := (((List.range 17).map (fun k => k + 1)).find? (readsBack q n)).getD 17
    let low := ⌊q * (10 : ℚ) ^ ((k : ℤ) - n)⌋
    if nearestDouble ((low : ℚ) * (10 : ℚ) ^ (n - (k : ℤ))) ≠ .fin q ∧ low + 1 = 10 ^ k then decimalBytes k (n + 1)
    else decimalBytes k n

/-- What is not finite is written as `null`. -/
def numberBytes : Number → ℕ
  | .fin q => if q < 0 then 1 + positiveBytes (-q) else positiveBytes q
  | _ => 4

/-- Quotes, backslashes and control characters are escaped. -/
def escapedBytes (c : Char) : ℕ :=
  if c = '"' ∨ c = '\\' then 2
  else if c.toNat = 8 ∨ c.toNat = 9 ∨ c.toNat = 10 ∨ c.toNat = 12 ∨ c.toNat = 13 then 2
  else if c.toNat < 0x20 then 6
  else characterBytes c

/-- The bytes between the quotes. -/
def textBytes (s : String) : ℕ := (s.toList.map escapedBytes).sum

/-- A surrogate without its pair is escaped too. -/
def pointTextBytes : Point → ℕ
  | .char c => escapedBytes c
  | .half _ => 6

/-- The bytes between the quotes of a string that may have been cut. -/
def stringBytes (j : Json) : ℕ := ((pointsOf j).map pointTextBytes).sum

mutual
def encodedSize : Json → ℕ
  | .null => 4
  | .bool b => if b then 4 else 5
  | .num n => numberBytes n
  | .str s => textBytes s + 2
  | .cut s => (s.points.map pointTextBytes).sum + 2
  | .arr [] => 2
  | .arr (x :: xs) => 1 + itemsSize (x :: xs)
  | .obj [] => 2
  | .obj (m :: ms) => 1 + membersSize (m :: ms)
/-- Every item with the comma or the bracket behind it. -/
def itemsSize : List Json → ℕ
  | [] => 0
  | j :: js => encodedSize j + 1 + itemsSize js
/-- Every member with its quotes, its colon, and the comma or the brace behind it. -/
def membersSize : List (String × Json) → ℕ
  | [] => 0
  | (key, j) :: ms => textBytes key + encodedSize j + 4 + membersSize ms
end

@[simp] theorem encodedSize_str (s : String) : encodedSize (.str s) = textBytes s + 2 := rfl

theorem encodedSize_ofPoints (ps : List Point) : encodedSize (ofPoints ps) = stringBytes (ofPoints ps) + 2 := by
  unfold ofPoints
  split_ifs with cut
  · rfl
  · rw [encodedSize_str, stringBytes, pointsOf, List.map_map]
    rfl

@[simp] theorem encodedSize_num (n : Number) : encodedSize (.num n) = numberBytes n := rfl

@[simp] theorem encodedSize_bool (b : Bool) : encodedSize (.bool b) = if b then 4 else 5 := rfl

@[simp] theorem membersSize_cons (key : String) (j : Json) (ms : Members) :
    membersSize ((key, j) :: ms) = textBytes key + encodedSize j + 4 + membersSize ms := rfl

@[simp] theorem membersSize_nil : membersSize [] = 0 := rfl

@[simp] theorem membersSize_append (a b : Members) : membersSize (a ++ b) = membersSize a + membersSize b := by
  induction a with
  | nil => simp
  | cons m a ih =>
    obtain ⟨key, j⟩ := m
    rw [List.cons_append, membersSize_cons, membersSize_cons, ih]
    omega

theorem encodedSize_obj {ms : Members} (h : ms ≠ []) : encodedSize (.obj ms) = 1 + membersSize ms := by
  cases ms with
  | nil => exact absurd rfl h
  | cons m ms => rfl

end EspWebChat.JsonText
