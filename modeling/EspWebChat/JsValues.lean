import Mathlib.Algebra.Order.Floor.Ring
import Mathlib.Data.Rat.Floor
import Mathlib.Tactic.Common
import EspWebChat.ClientSlots
import EspWebChat.NumberMaps

set_option autoImplicit false

/-!
# Values of the browser's language

`JSON.parse` yields a tree in which `lastMember` reads a property. `none` is `undefined`.
A string is a sequence of code points; the lengths the script asks for are UTF-16 lengths.
A JSON object that defines its own `toString` cannot be converted to a string or a number:
`conversionThrows` says so, and `numberOf` is not a number there.
-/
namespace EspWebChat.JsValues
open JsonTree NumberMaps

def maxSafeInteger : ℕ := 9007199254740991

/-- The nearest double, ties to even. -/
def nearestDouble (q : ℚ) : Number :=
  if q = 0 then .fin 0
  else
    let a := |q|
    let guess : ℤ := (Nat.log2 a.num.natAbs : ℤ) - Nat.log2 a.den
    let exponent := max (if a < (2 : ℚ) ^ guess then guess - 1 else guess) (-1022)
    let unit := (2 : ℚ) ^ (exponent - 52)
    let low := ⌊a / unit⌋
    let remainder := a / unit - low
    let steps := if remainder < 1 / 2 ∨ (remainder = 1 / 2 ∧ low % 2 = 0) then low else low + 1
    let rounded := (steps : ℚ) * unit
    if (2 : ℚ) ^ (1024 : ℤ) ≤ rounded then .inf (decide (q < 0))
    else .fin (if q < 0 then -rounded else rounded)

def isJsSpace (c : Char) : Bool :=
  [0x9, 0xa, 0xb, 0xc, 0xd, 0x20, 0xa0, 0x1680, 0x2028, 0x2029, 0x202f, 0x205f, 0x3000, 0xfeff].contains
    c.toNat || (0x2000 ≤ c.toNat && c.toNat ≤ 0x200a)

def trimmed (cs : List Char) : List Char :=
  ((cs.dropWhile isJsSpace).reverse.dropWhile isJsSpace).reverse

/-- `String.prototype.trim`. -/
def trim (s : String) : String := String.ofList (trimmed s.toList)

def digit (base : ℕ) (c : Char) : Option ℕ :=
  let value :=
    if '0' ≤ c ∧ c ≤ '9' then some (c.toNat - '0'.toNat)
    else if 'a' ≤ c ∧ c ≤ 'f' then some (c.toNat - 'a'.toNat + 10)
    else if 'A' ≤ c ∧ c ≤ 'F' then some (c.toNat - 'A'.toNat + 10)
    else none
  value.filter (fun v => decide (v < base))

def digitsFrom (base : ℕ) (cs : List Char) (start : ℕ) : Option ℕ :=
  cs.foldlM (fun n c => (digit base c).map (fun d => n * base + d)) start

def digits (base : ℕ) (cs : List Char) : Option ℕ := if cs = [] then none else digitsFrom base cs 0

def isDecimalDigit (c : Char) : Bool := (digit 10 c).isSome

/-- The part after `e` or `E`; a missing exponent is zero. -/
def exponentPart : List Char → Option ℤ
  | [] => some 0
  | e :: rest =>
    if e ≠ 'e' ∧ e ≠ 'E' then none
    else match rest with
      | '+' :: ds => (digits 10 ds).map (fun n => (n : ℤ))
      | '-' :: ds => (digits 10 ds).map (fun n => -(n : ℤ))
      | ds => (digits 10 ds).map (fun n => (n : ℤ))

/-- `StrUnsignedDecimalLiteral` other than `Infinity`. -/
def decimalLiteral (cs : List Char) : Option ℚ :=
  let whole := cs.takeWhile isDecimalDigit
  let rest := cs.dropWhile isDecimalDigit
  let (fraction, rest) := match rest with
    | '.' :: rest => (rest.takeWhile isDecimalDigit, rest.dropWhile isDecimalDigit)
    | rest => ([], rest)
  match digits 10 (whole ++ fraction), exponentPart rest with
  | some n, some e => some ((n : ℚ) * (10 : ℚ) ^ (e - fraction.length))
  | _, _ => none

def signedLiteral (negative : Bool) (cs : List Char) : Number :=
  if cs = "Infinity".toList then .inf negative
  else match decimalLiteral cs with
    | some q => nearestDouble (if negative then -q else q)
    | none => .nan

def integerLiteral (base : ℕ) (cs : List Char) : Number :=
  match digits base cs with
  | some n => nearestDouble n
  | none => .nan

/-- `StringToNumber`. -/
def numberOfText (s : String) : Number :=
  match trimmed s.toList with
  | [] => .fin 0
  | '0' :: 'x' :: cs | '0' :: 'X' :: cs => integerLiteral 16 cs
  | '0' :: 'o' :: cs | '0' :: 'O' :: cs => integerLiteral 8 cs
  | '0' :: 'b' :: cs | '0' :: 'B' :: cs => integerLiteral 2 cs
  | '+' :: cs => signedLiteral false cs
  | '-' :: cs => signedLiteral true cs
  | cs => signedLiteral false cs

mutual
/-- `Number(value)`. An array is first joined to a string: of one element the conversion goes
    through, `true` and `false` as words, and a comma is in no numeral. -/
def numberOf : Json → Number
  | .null => .fin 0
  | .bool b => .fin (if b then 1 else 0)
  | .num n => n
  | .str s => numberOfText s
  | .cut _ => .nan
  | .arr items => numberOfItems items
  | .obj _ => .nan
def numberOfItems : List Json → Number
  | [] => .fin 0
  | [.bool _] => .nan
  | [x] => numberOf x
  | _ => .nan
end

mutual
/-- `String(value)` and `Number(value)` throw: the member hides the method all objects have, and
    an array is converted item by item. -/
def conversionThrows : Json → Bool
  | .obj ms => ms.any (fun m => m.1 == "toString")
  | .arr items => itemsThrow items
  | _ => false
def itemsThrow : List Json → Bool
  | [] => false
  | j :: js => conversionThrows j || itemsThrow js
end

/-- `Number(undefined)` is not a number. -/
def numberOfMember : Option Json → Number
  | some j => numberOf j
  | none => .nan

mutual
theorem numberOf_throws : ∀ j : Json, conversionThrows j = true → numberOf j = .nan
  | .obj _, _ => rfl
  | .arr items, h => numberOfItems_throws items h
  | .null, h | .bool _, h | .num _, h | .str _, h | .cut _, h => Bool.noConfusion h
theorem numberOfItems_throws : ∀ items : List Json, itemsThrow items = true → numberOfItems items = .nan
  | [], h => Bool.noConfusion h
  | [.bool _], _ => rfl
  | [.null], h | [.num _], h | [.str _], h | [.cut _], h => Bool.noConfusion h
  | [.arr items], h => numberOfItems_throws items ((Bool.or_false _).symm.trans h)
  | [.obj _], _ => rfl
  | x :: _ :: _, _ => by cases x <;> rfl
end

/-- `Number.isSafeInteger(n) && n >= 0`, with the integer. -/
def safeNat : Number → Option ℕ
  | .fin q => if 0 ≤ q ∧ q ≤ (maxSafeInteger : ℚ) ∧ q.den = 1 then some q.num.toNat else none
  | _ => none

def isFinite : Number → Bool
  | .fin _ => true
  | _ => false

/-- `n || 0`. -/
def orZero : Number → Number
  | .nan => .fin 0
  | n => n

/-- `a > b`. -/
def greater : Number → Number → Bool
  | .fin a, .fin b => decide (b < a)
  | .inf false, .inf false | .nan, _ | _, .nan => false
  | .inf false, _ => true
  | .inf true, _ => false
  | .fin _, .inf negative => negative

def truthyValue : Json → Bool
  | .null => false
  | .bool b => b
  | .num n => !(n == .nan || n == .fin 0)
  | .str s => s != ""
  | .cut _ | .arr _ | .obj _ => true

def truthy : Option Json → Bool
  | some j => truthyValue j
  | none => false

/-- `a || b`. -/
def orElse (a : Option Json) (b : Json) : Json := if truthy a then a.getD b else b

def text : Option Json → Option String
  | some (.str s) => some s
  | _ => none

def utf16Length (s : String) : ℕ := (s.toList.map (fun c => if c.toNat ≤ 0xffff then 1 else 2)).sum

def highSurrogate (c : Char) : HighSurrogate :=
  ⟨0xd800 + (c.toNat - 0x10000) / 0x400, by
    have valid := c.valid
    have same : c.toNat = c.val.toNat := rfl
    simp only [UInt32.isValidChar, Nat.isValidChar] at valid
    omega⟩

/-- The string of these points, which is no text when a pair in it has been cut. -/
def ofPoints (ps : List Point) : Json :=
  if cut : ps.any Point.isHalf = true then .cut ⟨ps, cut⟩
  else .str (String.ofList (ps.filterMap Point.toChar))

/-- The points of a string; there are none in another value. -/
def pointsOf : Json → List Point
  | .str s => s.toList.map Point.char
  | .cut s => s.points
  | _ => []

/-- A pair at the cut keeps its first unit. -/
def takeUnits : ℕ → List Char → List Point
  | 0, _ => []
  | _, [] => []
  | n + 1, c :: cs =>
    if c.toNat ≤ 0xffff then .char c :: takeUnits n cs
    else if n = 0 then [.half (highSurrogate c)]
    else .char c :: takeUnits (n - 1) cs

/-- `s.slice(0, n)`. -/
def sliceTo (n : ℕ) (s : String) : Json := ofPoints (takeUnits n s.toList)

def pointUnits : Point → List ℕ
  | .char c => if c.toNat ≤ 0xffff then [c.toNat] else [(highSurrogate c).1, 0xdc00 + (c.toNat - 0x10000) % 0x400]
  | .half unit => [unit.1]

/-- The UTF-16 units of a string. -/
def unitsOf (j : Json) : List ℕ := (pointsOf j).flatMap pointUnits

def characterBytes (c : Char) : ℕ :=
  if c.toNat ≤ 0x7f then 1 else if c.toNat ≤ 0x7ff then 2 else if c.toNat ≤ 0xffff then 3 else 4

def wsDataSize (s : String) : ℕ := (s.toList.map characterBytes).sum

/-- `wsDataSize` of one element of a string. -/
def pointBytes : Point → ℕ
  | .char c => characterBytes c
  | .half _ => 3

def truncateFrom {α : Type} (bytes : α → ℕ) : ℕ → List α → List α
  | _, [] => []
  | room, c :: cs => if room < bytes c then [] else c :: truncateFrom bytes (room - bytes c) cs

def truncateUtf8 (s : String) (maxBytes : ℕ) : String :=
  String.ofList (truncateFrom characterBytes maxBytes s.toList)

/-- `truncateUtf8` of a string that may have been cut. -/
def truncatePoints (ps : List Point) (maxBytes : ℕ) : Json := ofPoints (truncateFrom pointBytes maxBytes ps)

def itemsOf : Option Json → List Json
  | some (.arr items) => items
  | _ => []

def isArray : Option Json → Bool
  | some (.arr _) => true
  | _ => false

/-- A property read that is `undefined` on anything but an object. -/
def property (j : Option Json) (key : String) : Option Json := j.bind (fun j => j.lastMember key)

def isText (value : String) (j : Option Json) : Bool := text j == some value

/-- `array.includes(value)` for a string. -/
def includesText (items : List Json) (value : String) : Bool := items.any (fun j => isText value (some j))

/-- `JSON.stringify` writes a number that is not finite as `null`. -/
def writtenNumber (n : Number) : Json := if isFinite n then .num n else .null

/-- The tree `JSON.parse` makes of what `JSON.stringify` writes. -/
def stringified (j : Json) : Json := mapNumbers writtenNumber j

theorem map_toChar {ps : List Point} (whole : ¬ps.any Point.isHalf = true) :
    (ps.filterMap Point.toChar).map Point.char = ps := by
  induction ps with
  | nil => rfl
  | cons p ps ih =>
    rw [List.any_cons, Bool.or_eq_true, not_or] at whole
    cases p with
    | char c => exact congrArg (List.cons (Point.char c)) (ih whole.2)
    | half unit => exact absurd rfl whole.1

theorem no_half (cs : List Char) : (cs.map Point.char).any Point.isHalf = false := by
  induction cs with
  | nil => rfl
  | cons c cs ih => exact ih

theorem ofPoints_text (s : String) : ofPoints (s.toList.map Point.char) = .str s := by
  have chars : (s.toList.map Point.char).filterMap Point.toChar = s.toList := by
    rw [List.filterMap_map]
    exact List.filterMap_some
  unfold ofPoints
  rw [dif_neg (by rw [no_half]; decide), chars, String.ofList_toList]

theorem pointsOf_ofPoints (ps : List Point) : pointsOf (ofPoints ps) = ps := by
  unfold ofPoints
  split_ifs with cut
  · rfl
  · rw [pointsOf, String.toList_ofList, map_toChar cut]

theorem takeUnits_units (n : ℕ) (cs : List Char) :
    (takeUnits n cs).flatMap pointUnits = ((cs.map Point.char).flatMap pointUnits).take n := by
  induction cs generalizing n with
  | nil => cases n <;> rfl
  | cons c cs ih =>
    cases n with
    | zero => rfl
    | succ n =>
      unfold takeUnits
      rw [List.map_cons, List.flatMap_cons]
      by_cases basic : c.toNat ≤ 0xffff
      · have one : pointUnits (.char c) = [c.toNat] := if_pos basic
        rw [if_pos basic, List.flatMap_cons, one, ih]
        rfl
      · have two : pointUnits (.char c) = [(highSurrogate c).1, 0xdc00 + (c.toNat - 0x10000) % 0x400] := if_neg basic
        rw [if_neg basic]
        cases n with
        | zero =>
          rw [if_pos rfl, two]
          rfl
        | succ k =>
          rw [if_neg (Nat.succ_ne_zero k), List.flatMap_cons, two, Nat.add_sub_cancel, ih]
          rfl

theorem sliceTo_units (n : ℕ) (s : String) : unitsOf (sliceTo n s) = (unitsOf (.str s)).take n := by
  unfold unitsOf sliceTo
  rw [pointsOf_ofPoints]
  exact takeUnits_units n s.toList

theorem characterBytes_eq (c : Char) : characterBytes c = c.utf8Size := by
  unfold characterBytes Char.utf8Size
  have hn : c.toNat = c.val.toNat := rfl
  simp only [hn, UInt32.le_iff_toNat_le]
  rfl

/-- The browser and the server count the same bytes. -/
theorem wsDataSize_eq (s : String) : wsDataSize s = strlen s := by
  unfold wsDataSize strlen
  rw [funext characterBytes_eq]

/-- A character that takes two units takes four bytes. -/
theorem units_le_bytes (cs : List Char) :
    (cs.map (fun c => if c.toNat ≤ 0xffff then 1 else 2)).sum ≤ (cs.map Char.utf8Size).sum := by
  induction cs with
  | nil => exact le_rfl
  | cons c cs ih =>
    have one : (if c.toNat ≤ 0xffff then 1 else 2) ≤ c.utf8Size := by
      rw [← characterBytes_eq]
      unfold characterBytes
      split_ifs <;> omega
    rw [List.map_cons, List.map_cons, List.sum_cons, List.sum_cons]
    exact Nat.add_le_add one ih

theorem utf16Length_le (s : String) : utf16Length s ≤ strlen s := units_le_bytes s.toList

end EspWebChat.JsValues
