import EspWebChat.GateLanguage

set_option autoImplicit false

/-!
# What reaches cJSON

A reading of any byte string gives position and nesting depth a meaning without the scanner.
What the scan lets through is never too deep and has no escaped U+0000. A raw NUL can only
stand behind the backslash of an escape, whose second byte the scanner skips.
-/
namespace EspWebChat.GateSafety
open JsonTree JsonGate JsonGrammar Utf8Texts GateLanguage

/-- Where a reader stands: how many brackets are open, whether it is inside a string, and
    whether the byte before was a backslash there. -/
structure Reading where
  depth : ℤ
  quoted : Bool
  escaped : Bool
  deriving DecidableEq

def Reading.next (r : Reading) (b : UInt8) : Reading :=
  if r.quoted then
    if r.escaped then { r with escaped := false }
    else if b = 0x5c then { r with escaped := true }
    else if b = 0x22 then { r with quoted := false }
    else r
  else if b = 0x22 then { r with quoted := true }
  else if b = 0x7b ∨ b = 0x5b then { r with depth := r.depth + 1 }
  else if b = 0x7d ∨ b = 0x5d then { r with depth := r.depth - 1 }
  else r

def readAll (r : Reading) (bs : List UInt8) : Reading := bs.foldl Reading.next r

def start : Reading := ⟨0, false, false⟩

def beginsEscape (r : Reading) (before : List UInt8) : Prop :=
  (readAll r before).quoted = true ∧ (readAll r before).escaped = false

/-- A raw NUL byte stands behind the backslash of an escape. -/
def EscapesNul (r : Reading) (bs : List UInt8) : Prop :=
  ∃ before after, bs = before ++ 0x5c :: 0 :: after ∧ beginsEscape r before

/-- At no position of the string, read from `r` on, are too many brackets open or begins an
    escaped U+0000, and a raw NUL is an escaped one. -/
structure Safe (r : Reading) (bs : List UInt8) : Prop where
  shallow : ∀ before after, bs = before ++ after →
    0 ≤ (readAll r before).depth ∧ (readAll r before).depth ≤ maxJsonNestingDepth
  noEscape : ∀ before after, bs = before ++ 0x5c :: after → beginsEscape r before → ¬escapedNul <+: after
  rawNul : 0 ∈ bs → EscapesNul r bs

theorem EscapesNul.cons {r : Reading} {b : UInt8} {bs : List UInt8} (h : EscapesNul (r.next b) bs) :
    EscapesNul r (b :: bs) := by
  obtain ⟨before, after, e, begins⟩ := h
  exact ⟨b :: before, after, by rw [e]; rfl, begins⟩

theorem Safe.nil {r : Reading} (h : 0 ≤ r.depth ∧ r.depth ≤ maxJsonNestingDepth) : Safe r [] := by
  constructor
  case shallow =>
    intro before after e
    rw [(List.append_eq_nil_iff.mp e.symm).1]
    exact h
  case noEscape =>
    intro before after e
    simp at e
  case rawNul =>
    intro mem
    cases mem

theorem Safe.cons {r : Reading} {b : UInt8} {bs : List UInt8} (h : 0 ≤ r.depth ∧ r.depth ≤ maxJsonNestingDepth)
    (nul : b = 0 → EscapesNul r (b :: bs)) (escape : b = 0x5c → beginsEscape r [] → ¬escapedNul <+: bs)
    (safe : Safe (r.next b) bs) : Safe r (b :: bs) := by
  constructor
  case shallow =>
    intro before after e
    cases before with
    | nil => exact h
    | cons x before =>
      cases e
      exact safe.shallow before after rfl
  case noEscape =>
    intro before after e
    cases before with
    | nil =>
      cases e
      exact escape rfl
    | cons x before =>
      cases e
      exact safe.noEscape before after rfl
  case rawNul =>
    intro mem
    cases List.mem_cons.mp mem with
    | inl here => exact nul here.symm
    | inr later => exact (safe.rawNul later).cons

/-- An escape is passed in two steps, and its second byte is not looked at. -/
theorem Safe.escape {d : ℤ} {b : UInt8} {bs : List UInt8} (h : 0 ≤ d ∧ d ≤ maxJsonNestingDepth)
    (plain : ¬escapedNul <+: b :: bs) (safe : Safe ⟨d, true, false⟩ bs) : Safe ⟨d, true, false⟩ (0x5c :: b :: bs) := by
  constructor
  case shallow =>
    intro before after e
    match before, e with
    | [], _ => exact h
    | [_], e =>
      cases e
      exact h
    | _ :: _ :: before, e =>
      cases e
      exact safe.shallow before after rfl
  case noEscape =>
    intro before after e
    match before, e with
    | [], e =>
      cases e
      exact fun _ => plain
    | [_], e =>
      cases e
      rintro ⟨-, escaped⟩
      cases escaped
    | _ :: _ :: before, e =>
      cases e
      exact safe.noEscape before after rfl
  case rawNul =>
    intro mem
    by_cases zero : b = 0
    · exact ⟨[], bs, by rw [zero]; rfl, rfl, rfl⟩
    · simp only [List.mem_cons] at mem
      rcases mem with first | second | later
      · cases first
      · exact absurd second.symm zero
      · obtain ⟨before, after, e, begins⟩ := safe.rawNul later
        exact ⟨0x5c :: b :: before, after, by rw [e]; rfl, begins⟩

theorem safe_of_scan (bs : List UInt8) (d : ℕ) (q : Bool) (low : d ≤ maxJsonNestingDepth)
    (h : scanFrom bs d q = true) : Safe ⟨d, q, false⟩ bs := by
  have bounds : ∀ n : ℕ, n ≤ maxJsonNestingDepth → 0 ≤ (n : ℤ) ∧ (n : ℤ) ≤ maxJsonNestingDepth := by
    intro n hn
    omega
  have outside : ∀ r : Reading, r.quoted = false → ¬beginsEscape r [] := by
    rintro r other ⟨quoted, -⟩
    cases other.symm.trans quoted
  fun_induction scanFrom bs d q with
  | case1 d q => exact Safe.nil (bounds d low)
  | case6 d b rest _ _ plain ih =>
    apply Safe.escape (bounds d low) _ (ih low h)
    rw [← List.isPrefixOf_iff_prefix]
    exact plain
  | case7 b rest d nonzero printable other ih =>
    apply Safe.cons (bounds d low) (fun zero => absurd zero nonzero) (fun backslash => absurd backslash other)
    have next : Reading.next ⟨d, true, false⟩ b = ⟨d, b != 0x22, false⟩ := by
      by_cases quote : b = 0x22
      · subst quote
        rfl
      · simp [Reading.next, other, quote]
    rw [next]
    exact ih low h
  | case8 rest d q unquoted _ ih =>
    rw [Bool.not_eq_true] at unquoted
    subst unquoted
    exact Safe.cons (bounds d low) (fun zero => absurd zero (by decide)) (fun other => absurd other (by decide)) (ih low h)
  | case10 b rest d q nonzero unquoted noQuote opens shallow ih =>
    rw [Bool.not_eq_true] at unquoted
    subst unquoted
    apply Safe.cons (bounds d low) (fun zero => absurd zero nonzero) (fun _ begins => absurd begins (outside _ rfl))
    have next : Reading.next ⟨d, false, false⟩ b = ⟨((d + 1 : ℕ) : ℤ), false, false⟩ := by
      simp [Reading.next, noQuote, opens]
    rw [next]
    exact ih (by omega) h
  | case12 b rest d q nonzero unquoted noQuote noOpen closes positive ih =>
    rw [Bool.not_eq_true] at unquoted
    subst unquoted
    apply Safe.cons (bounds d low) (fun zero => absurd zero nonzero) (fun _ begins => absurd begins (outside _ rfl))
    have next : Reading.next ⟨d, false, false⟩ b = ⟨((d - 1 : ℕ) : ℤ), false, false⟩ := by
      have less : ((d - 1 : ℕ) : ℤ) = (d : ℤ) - 1 := by omega
      rw [less]
      simp only [Reading.next, noQuote, noOpen, closes, Bool.false_eq_true, if_false, if_true]
    rw [next]
    exact ih (by omega) h
  | case14 b rest d q nonzero unquoted noQuote noOpen noClose plain ih =>
    rw [Bool.not_eq_true] at unquoted
    subst unquoted
    apply Safe.cons (bounds d low) (fun zero => absurd zero nonzero) (fun _ begins => absurd begins (outside _ rfl))
    have next : Reading.next ⟨d, false, false⟩ b = ⟨d, false, false⟩ := by
      simp only [Reading.next, noQuote, noOpen, noClose, Bool.false_eq_true, if_false]
    rw [next]
    exact ih low h
  | _ => cases h

/-- A text reaches cJSON when the outcome depends on what cJSON says. -/
def Reaches (payload : List UInt8) : Prop :=
  ∃ p q : CJSONParse, chatJsonParseObject p payload ≠ chatJsonParseObject q payload

theorem reaches_scanned {payload : List UInt8} (h : Reaches payload) : scanFrom payload 0 false = true := by
  obtain ⟨p, q, differ⟩ := h
  by_contra refused
  have stop : payload = [] ∨ validUtf8 payload ≠ some true ∨ scanFrom payload 0 false = false :=
    .inr (.inr (Bool.eq_false_iff.mpr refused))
  unfold chatJsonParseObject at differ
  rw [if_pos stop, if_pos stop] at differ
  exact differ rfl

/-- No position is too deep, no byte is NUL and no escape in a string stands for U+0000. -/
structure Harmless (payload : List UInt8) : Prop where
  shallow : ∀ before after, payload = before ++ after → (readAll start before).depth ≤ maxJsonNestingDepth
  noNul : 0 ∉ payload
  noEscape : ∀ before after, payload = before ++ 0x5c :: after → beginsEscape start before → ¬escapedNul <+: after

/-- The gate returns the tree of a text exactly when the tree is an intended one. What reaches
    cJSON is harmless unless a raw NUL stands behind the backslash of an escape. -/
theorem gate_language (cJSONParse : CJSONParse) :
    (∀ (j : Json) (cs : List Char) (stop : ℕ), TextOf j cs stop →
      cJSONParse (encoded cs) = some (j, stop) →
      (Intended j → chatJsonParseObject cJSONParse (encoded cs) = some j) ∧
      (¬Intended j → chatJsonParseObject cJSONParse (encoded cs) = none)) ∧
    ∀ payload, Reaches payload → (Harmless payload ↔ ¬EscapesNul start payload) := by
  constructor
  · intro j cs stop text parsed
    exact chatJsonParseObject_text text parsed
  · intro payload reached
    have safe : Safe start payload := safe_of_scan payload 0 false (Nat.zero_le _) (reaches_scanned reached)
    constructor
    · rintro harmless ⟨before, after, e, -⟩
      apply harmless.noNul
      rw [e]
      simp
    · intro unescaped
      exact ⟨fun before after e => (safe.shallow before after e).2, fun nul => unescaped (safe.rawNul nul), safe.noEscape⟩

/-- An object with one key whose value is a backslash and a NUL byte. -/
def nulText : List UInt8 := [0x7b, 0x22, 0x61, 0x22, 0x3a, 0x22, 0x5c, 0x00, 0x22, 0x7d]

theorem nul_reaches : Reaches nulText ∧ ¬Harmless nulText := by
  constructor
  · refine ⟨fun _ => none, fun _ => some (.obj [], nulText.length), ?_⟩
    have passes : ¬(nulText = [] ∨ validUtf8 nulText ≠ some true ∨ scanFrom nulText 0 false = false) := by decide
    unfold chatJsonParseObject
    rw [if_neg passes, if_neg passes]
    intro same
    cases same
  · intro harmless
    exact harmless.noNul (by decide)

end EspWebChat.GateSafety
