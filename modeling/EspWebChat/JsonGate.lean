import Mathlib.Tactic.Common
import EspWebChat.JsonTree

set_option autoImplicit false

/-!
# The JSON helpers of `common/utils.c`

cJSON itself is a third-party component: `cJSONParse` stands for `cJSON_ParseWithLengthOpts`
and returns the tree and the offset at which the value ends.
-/
namespace EspWebChat.JsonGate
open JsonTree

def maxJsonNestingDepth : ℕ := 16

def stringInRange (item : Option Json) (maxLen : ℕ) (allowEmpty : Bool) : Option String :=
  match item with
  | some (.str s) => if (allowEmpty || s != "") && decide (strlen s ≤ maxLen) then some s else none
  | _ => none

def jsonStringInRange (item : Option Json) (maxLen : ℕ) (allowEmpty : Bool) : Bool :=
  (stringInRange item maxLen allowEmpty).isSome

def isString (value : String) : Json → Bool
  | .str s => s == value
  | _ => false

def jsonArrayContainsString (array : Option Json) (value : String) : Bool :=
  match array with
  | some (.arr items) => items.any (isString value)
  | _ => false

mutual
def jsonHasDuplicateKeys : Json → Bool
  | .obj ms => membersHaveDuplicateKeys ms
  | .arr items => itemsHaveDuplicateKeys items
  | _ => false
def membersHaveDuplicateKeys : List (String × Json) → Bool
  | [] => false
  | (key, child) :: rest =>
    rest.any (fun other => other.1 == key) || jsonHasDuplicateKeys child || membersHaveDuplicateKeys rest
def itemsHaveDuplicateKeys : List Json → Bool
  | [] => false
  | child :: rest => jsonHasDuplicateKeys child || itemsHaveDuplicateKeys rest
end

/-! `valid_utf8`. A read at or past `length` would give `none`. -/
structure Lead where
  continuation : ℕ
  minimum : ℕ
  bits : ℕ

def leadByte (b : ℕ) : Option Lead :=
  if 0xc2 ≤ b ∧ b ≤ 0xdf then some ⟨1, 0x80, b &&& 0x1f⟩
  else if 0xe0 ≤ b ∧ b ≤ 0xef then some ⟨2, 0x800, b &&& 0x0f⟩
  else if 0xf0 ≤ b ∧ b ≤ 0xf4 then some ⟨3, 0x10000, b &&& 0x07⟩
  else none

/-- The inner loop, from index `i`: the code point, or `some none` at a byte that does not
    continue the sequence. -/
def continueFrom (payload : List UInt8) : ℕ → ℕ → ℕ → Option (Option ℕ)
  | 0, _, codepoint => some (some codepoint)
  | k + 1, i, codepoint =>
    match payload[i]? with
    | none => none
    | some byte =>
      if byte.toNat &&& 0xc0 ≠ 0x80 then some none
      else continueFrom payload k (i + 1) (codepoint <<< 6 ||| (byte.toNat &&& 0x3f))

/-- The outer loop; the first argument bounds the number of its turns. -/
def validFrom (payload : List UInt8) : ℕ → ℕ → Option Bool
  | 0, _ => some true
  | k + 1, i =>
    if i < payload.length then
      match payload[i]? with
      | none => none
      | some byte =>
        if byte.toNat < 0x80 then validFrom payload k (i + 1)
        else match leadByte byte.toNat with
          | none => some false
          | some lead =>
            if payload.length - (i + 1) < lead.continuation then some false
            else match continueFrom payload lead.continuation (i + 1) lead.bits with
              | none => none
              | some none => some false
              | some (some c) =>
                if c < lead.minimum ∨ 0x10ffff < c ∨ (0xd800 ≤ c ∧ c ≤ 0xdfff) then some false
                else validFrom payload k (i + 1 + lead.continuation)
    else some true

def validUtf8 (payload : List UInt8) : Option Bool := validFrom payload payload.length 0

/-! The scan before cJSON sees the text -/
def bytesOf (s : String) : List UInt8 := s.toList.map (fun c => c.toNat.toUInt8)

def escapedNul : List UInt8 := bytesOf "u0000"

/-- `depth` and `inString` are the scanner's variables; `false` is its early `return NULL`. -/
def scanFrom : List UInt8 → ℕ → Bool → Bool
  | [], depth, inString => !inString && depth == 0
  | ch :: rest, depth, inString =>
    if ch = 0 then false
    else if inString then
      if ch < 0x20 then false
      else if ch = 0x5c then
        if escapedNul.isPrefixOf rest then false
        else match rest with
          | [] => false
          | _ :: rest => scanFrom rest depth true
      else scanFrom rest depth (ch != 0x22)
    else if ch = 0x22 then scanFrom rest depth true
    else if ch = 0x7b ∨ ch = 0x5b then
      if maxJsonNestingDepth < depth + 1 then false else scanFrom rest (depth + 1) false
    else if ch = 0x7d ∨ ch = 0x5d then
      if depth = 0 then false else scanFrom rest (depth - 1) false
    else if ch < 0x20 ∧ ch ≠ 0x09 ∧ ch ≠ 0x0a ∧ ch ≠ 0x0d then false
    else scanFrom rest depth false

def isTrailingSpace (ch : UInt8) : Bool := ch == 0x20 || ch == 0x09 || ch == 0x0a || ch == 0x0d

/-- The parser of the third-party component. -/
abbrev CJSONParse := List UInt8 → Option (Json × ℕ)

def chatJsonParseObject (cJSONParse : CJSONParse) (payload : List UInt8) : Option Json :=
  if payload = [] ∨ validUtf8 payload ≠ some true ∨ scanFrom payload 0 false = false then none
  else match cJSONParse payload with
    | none => none
    | some (root, stop) =>
      if !root.isObject || !(payload.drop stop).all isTrailingSpace || jsonHasDuplicateKeys root then none
      else some root

theorem stringInRange_eq_some {item : Option Json} {maxLen : ℕ} {allowEmpty : Bool} {s : String}
    (h : stringInRange item maxLen allowEmpty = some s) :
    item = some (.str s) ∧ strlen s ≤ maxLen ∧ (allowEmpty = false → s ≠ "") := by
  unfold stringInRange at h
  split at h
  · split at h
    · rename_i hc
      cases h
      simp only [Bool.and_eq_true, Bool.or_eq_true, bne_iff_ne, decide_eq_true_eq] at hc
      refine ⟨rfl, hc.2, ?_⟩
      intro he
      rcases hc.1 with ha | hs
      · rw [he] at ha
        cases ha
      · exact hs
    · cases h
  · cases h

theorem jsonStringInRange_iff {item : Option Json} {maxLen : ℕ} {allowEmpty : Bool} :
    jsonStringInRange item maxLen allowEmpty = true ↔
      ∃ s, stringInRange item maxLen allowEmpty = some s :=
  Option.isSome_iff_exists

theorem membersHaveDuplicateKeys_unique (ms : Members) (h : membersHaveDuplicateKeys ms = false) :
    UniqueKeys ms := by
  induction ms with
  | nil => exact List.nodup_nil
  | cons m ms ih =>
    obtain ⟨key, child⟩ := m
    simp only [membersHaveDuplicateKeys, Bool.or_eq_false_iff] at h
    refine List.nodup_cons.mpr ⟨?_, ih h.2⟩
    intro hk
    obtain ⟨other, ho, he⟩ := List.mem_map.mp hk
    have hne := List.any_eq_false.mp h.1.1 other ho
    exact hne (by simpa using he)

/-- An admitted text is an object in which no key repeats at the top level. -/
theorem chatJsonParseObject_spec {cJSONParse : CJSONParse} {payload : List UInt8} {root : Json}
    (h : chatJsonParseObject cJSONParse payload = some root) :
    root.isObject = true ∧ UniqueKeys root.members ∧ jsonHasDuplicateKeys root = false := by
  unfold chatJsonParseObject at h
  split at h
  · cases h
  · split at h
    · cases h
    · split at h
      · cases h
      · rename_i hc
        cases h
        simp only [Bool.or_eq_true, not_or, Bool.not_eq_true] at hc
        obtain ⟨⟨ho, _⟩, hd⟩ := hc
        cases root with
        | obj ms => exact ⟨rfl, membersHaveDuplicateKeys_unique ms (by simpa [jsonHasDuplicateKeys] using hd), hd⟩
        | _ => simp [Json.isObject] at ho

end EspWebChat.JsonGate
