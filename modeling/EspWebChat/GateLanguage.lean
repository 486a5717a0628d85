import EspWebChat.JsonGrammar
import EspWebChat.Utf8Texts

set_option autoImplicit false

/-!
# The language of the JSON gate

The scan before cJSON follows strings and brackets only. On a text of a tree it ends well
exactly when the tree is not too deep and contains no U+0000, wherever the text starts.
-/
namespace EspWebChat.GateLanguage
open JsonTree JsValues JsonGate JsonGrammar Utf8Texts

/-- A byte that outside a string is only looked at. -/
def Idle (b : UInt8) : Prop :=
  b ∉ [0x00, 0x22, 0x7b, 0x5b, 0x7d, 0x5d] ∧ (0x20 ≤ b ∨ b ∈ [0x09, 0x0a, 0x0d])

/-- A byte that inside a string is only looked at. -/
def Quoted (b : UInt8) : Prop := 0x20 ≤ b ∧ b ≠ 0x22 ∧ b ≠ 0x5c

theorem scan_idle {b : UInt8} (h : Idle b) (rest : List UInt8) (d : ℕ) :
    scanFrom (b :: rest) d false = scanFrom rest d false := by
  obtain ⟨special, control⟩ := h
  simp only [List.mem_cons, List.not_mem_nil, or_false, not_or] at special control
  obtain ⟨zero, quote, brace, bracket, close, closed⟩ := special
  have printable : ¬(b < 0x20 ∧ b ≠ 0x09 ∧ b ≠ 0x0a ∧ b ≠ 0x0d) := by
    rintro ⟨low, tab, feed, back⟩
    rcases control with high | space | space | space
    · exact absurd low (UInt8.not_lt.mpr high)
    · exact tab space
    · exact feed space
    · exact back space
  rw [scanFrom.eq_def]
  dsimp only
  rw [if_neg zero, if_neg Bool.false_ne_true, if_neg quote, if_neg (not_or.mpr ⟨brace, bracket⟩),
    if_neg (not_or.mpr ⟨close, closed⟩), if_neg printable]

theorem scan_quoted {b : UInt8} (h : Quoted b) (rest : List UInt8) (d : ℕ) :
    scanFrom (b :: rest) d true = scanFrom rest d true := by
  obtain ⟨printable, quote, backslash⟩ := h
  have zero : b ≠ 0 := by
    rintro rfl
    exact absurd printable (by decide)
  rw [scanFrom.eq_def]
  dsimp only
  rw [if_neg zero, if_pos rfl, if_neg (UInt8.not_lt.mpr printable), if_neg backslash]
  rw [show (b != 0x22) = true by simpa using quote]

theorem scan_idles {bs : List UInt8} (h : ∀ b ∈ bs, Idle b) (rest : List UInt8) (d : ℕ) :
    scanFrom (bs ++ rest) d false = scanFrom rest d false := by
  induction bs with
  | nil => rfl
  | cons b bs ih =>
    rw [List.cons_append, scan_idle (h b List.mem_cons_self)]
    exact ih (fun x hx => h x (List.mem_cons_of_mem _ hx))

theorem scan_quoteds {bs : List UInt8} (h : ∀ b ∈ bs, Quoted b) (rest : List UInt8) (d : ℕ) :
    scanFrom (bs ++ rest) d true = scanFrom rest d true := by
  induction bs with
  | nil => rfl
  | cons b bs ih =>
    rw [List.cons_append, scan_quoted (h b List.mem_cons_self)]
    exact ih (fun x hx => h x (List.mem_cons_of_mem _ hx))

theorem encode_ascii {c : Char} (h : c.toNat < 0x80) : String.utf8EncodeChar c = [UInt8.ofNat c.toNat] := by
  unfold String.utf8EncodeChar
  exact if_pos (Nat.le_of_lt_succ h)

theorem encode_high {c : Char} (h : 0x80 ≤ c.toNat) : ∀ b ∈ String.utf8EncodeChar c, 0x80 ≤ b := by
  have v : c.toNat = c.val.toNat := rfl
  rw [v] at h
  have big : ∀ n, 0x80 ≤ n % 256 → (0x80 : UInt8) ≤ UInt8.ofNat n := by
    intro n hn
    rw [UInt8.le_iff_toNat_le, UInt8.toNat_ofNat']
    exact hn
  unfold String.utf8EncodeChar
  simp only
  rw [if_neg (by omega)]
  intro b hb
  split_ifs at hb <;>
    (simp only [List.mem_cons, List.not_mem_nil, or_false] at hb
     rcases hb with rfl | rfl | rfl | rfl) <;> (apply big; omega)

theorem idle_high {b : UInt8} (h : 0x80 ≤ b) : Idle b ∧ Quoted b := by
  rw [UInt8.le_iff_toNat_le] at h
  have ne : ∀ x : UInt8, x.toNat < 0x80 → b ≠ x := by
    rintro x hx rfl
    exact absurd h (Nat.not_le.mpr hx)
  have printable : 0x20 ≤ b := by
    rw [UInt8.le_iff_toNat_le]
    exact Nat.le_trans (by decide) h
  refine ⟨⟨?_, .inl printable⟩, printable, ne _ (by decide), ne _ (by decide)⟩
  simp only [List.mem_cons, List.not_mem_nil, or_false, not_or]
  exact ⟨ne _ (by decide), ne _ (by decide), ne _ (by decide), ne _ (by decide), ne _ (by decide), ne _ (by decide)⟩

def IdleCode (n : ℕ) : Prop := n ∉ [0x00, 0x22, 0x7b, 0x5b, 0x7d, 0x5d] ∧ (0x20 ≤ n ∨ n ∈ [0x09, 0x0a, 0x0d])

def QuotedCode (n : ℕ) : Prop := 0x20 ≤ n ∧ n ≠ 0x22 ∧ n ≠ 0x5c

instance (b : UInt8) : Decidable (Idle b) := inferInstanceAs (Decidable (_ ∧ _))
instance (b : UInt8) : Decidable (Quoted b) := inferInstanceAs (Decidable (_ ∧ _))
instance (n : ℕ) : Decidable (IdleCode n) := inferInstanceAs (Decidable (_ ∧ _))
instance (n : ℕ) : Decidable (QuotedCode n) := inferInstanceAs (Decidable (_ ∧ _))

theorem idle_ofNat : ∀ n < 0x80, IdleCode n → Idle (UInt8.ofNat n) := by decide

theorem quoted_ofNat : ∀ n < 0x80, QuotedCode n → Quoted (UInt8.ofNat n) := by decide

theorem encode_idle {c : Char} (h : IdleCode c.toNat) : ∀ b ∈ String.utf8EncodeChar c, Idle b := by
  by_cases low : c.toNat < 0x80
  · rw [encode_ascii low]
    intro b hb
    rw [List.mem_singleton.mp hb]
    exact idle_ofNat _ low h
  · intro b hb
    exact (idle_high (encode_high (Nat.not_lt.mp low) b hb)).1

theorem encode_quoted {c : Char} (h : QuotedCode c.toNat) : ∀ b ∈ String.utf8EncodeChar c, Quoted b := by
  by_cases low : c.toNat < 0x80
  · rw [encode_ascii low]
    intro b hb
    rw [List.mem_singleton.mp hb]
    exact quoted_ofNat _ low h
  · intro b hb
    exact (idle_high (encode_high (Nat.not_lt.mp low) b hb)).2

theorem scan_idle_text {cs : List Char} (h : ∀ c ∈ cs, IdleCode c.toNat) (rest : List UInt8) (d : ℕ) :
    scanFrom (encoded cs ++ rest) d false = scanFrom rest d false := by
  apply scan_idles
  intro b hb
  obtain ⟨c, hc, hb⟩ := List.mem_flatMap.mp hb
  exact encode_idle (h c hc) b hb

theorem scan_quoted_text {cs : List Char} (h : ∀ c ∈ cs, QuotedCode c.toNat) (rest : List UInt8) (d : ℕ) :
    scanFrom (encoded cs ++ rest) d true = scanFrom rest d true := by
  apply scan_quoteds
  intro b hb
  obtain ⟨c, hc, hb⟩ := List.mem_flatMap.mp hb
  exact encode_quoted (h c hc) b hb

theorem digit_cases {base v : ℕ} {c : Char} (h : digit base c = some v) :
    (c.toNat = v + 0x30 ∧ v ≤ 9) ∨ (c.toNat = v + 0x57 ∧ 10 ≤ v ∧ v ≤ 15) ∨ (c.toNat = v + 0x37 ∧ 10 ≤ v ∧ v ≤ 15) := by
  have number : '0'.toNat = 0x30 ∧ 'a'.toNat = 0x61 ∧ 'A'.toNat = 0x41 := ⟨rfl, rfl, rfl⟩
  unfold digit at h
  obtain ⟨found, -⟩ := Option.filter_eq_some_iff.mp h
  split_ifs at found with low small capital
  · have range : 0x30 ≤ c.toNat ∧ c.toNat ≤ 0x39 := low
    have value := Option.some.inj found
    omega
  · have range : 0x61 ≤ c.toNat ∧ c.toNat ≤ 0x66 := small
    have value := Option.some.inj found
    omega
  · have range : 0x41 ≤ c.toNat ∧ c.toNat ≤ 0x46 := capital
    have value := Option.some.inj found
    omega

theorem digit_codes {base v : ℕ} {c : Char} (h : digit base c = some v) :
    IdleCode c.toNat ∧ QuotedCode c.toNat ∧ c.toNat < 0x80 ∧ (c.toNat = 0x30 ↔ v = 0) := by
  have range := digit_cases h
  refine ⟨⟨?_, .inl (by omega)⟩, ⟨by omega, by omega, by omega⟩, by omega, by omega⟩
  simp only [List.mem_cons, List.not_mem_nil, or_false, not_or]
  omega

theorem hexCode_digits {n : ℕ} {ds : List Char} (h : HexCode n ds) : ∃ a b c d i j k l, ds = [a, b, c, d] ∧
    digit 16 a = some i ∧ digit 16 b = some j ∧ digit 16 c = some k ∧ digit 16 d = some l ∧
    n = ((i * 16 + j) * 16 + k) * 16 + l := by
  obtain ⟨four, code⟩ := h
  match ds, four with
  | [a, b, c, d], _ =>
    unfold digits at code
    rw [if_neg (List.cons_ne_nil _ _)] at code
    unfold digitsFrom at code
    simp only [List.foldlM_cons, List.foldlM_nil, Option.bind_eq_bind, Option.bind_map, Option.bind_eq_some_iff,
      Function.comp_apply, Option.pure_def, Option.some.injEq] at code
    obtain ⟨i, hi, j, hj, k, hk, l, hl, value⟩ := code
    exact ⟨a, b, c, d, i, j, k, l, rfl, hi, hj, hk, hl, by omega⟩

theorem code_ne {c x : Char} (h : c ≠ x) : c.toNat ≠ x.toNat := fun same => h (Char.toNat_inj.mp same)

theorem quoted_of_unescaped {c : Char} (h : Unescaped c) : QuotedCode c.toNat :=
  ⟨h.1, code_ne h.2.1, code_ne h.2.2⟩

theorem scan_escape {e : UInt8} {rest : List UInt8} (h : escapedNul.isPrefixOf (e :: rest) = false) (d : ℕ) :
    scanFrom (0x5c :: e :: rest) d true = scanFrom rest d true := by
  rw [scanFrom.eq_def]
  dsimp only
  rw [if_neg (by decide), if_pos rfl, if_neg (by decide), if_pos rfl, h]
  rfl

theorem scan_nul {e : UInt8} {rest : List UInt8} (h : escapedNul.isPrefixOf (e :: rest) = true) (d : ℕ) :
    scanFrom (0x5c :: e :: rest) d true = false := by
  rw [scanFrom.eq_def]
  dsimp only
  rw [if_neg (by decide), if_pos rfl, if_neg (by decide), if_pos rfl, h]
  rfl

theorem escapedNul_bytes : escapedNul = [0x75, 0x30, 0x30, 0x30, 0x30] := by decide

theorem not_nul_of_letter {e : UInt8} (h : e ≠ 0x75) (rest : List UInt8) :
    escapedNul.isPrefixOf (e :: rest) = false := by
  rw [escapedNul_bytes, List.isPrefixOf, show ((0x75 : UInt8) == e) = false by simpa using Ne.symm h]
  rfl

theorem byte_zero {c : Char} (h : c.toNat < 0x80) : ((0x30 : UInt8) == UInt8.ofNat c.toNat) = decide (c.toNat = 0x30) := by
  rw [Bool.eq_iff_iff, beq_iff_eq, decide_eq_true_eq]
  constructor
  · intro same
    have value := congrArg UInt8.toNat same
    rw [UInt8.toNat_ofNat'] at value
    have zero : (0x30 : UInt8).toNat = 0x30 := rfl
    omega
  · intro code
    rw [code]
    rfl

/-- The scanner's test for an escaped U+0000 is a test of the code's value. -/
theorem hexCode_nul {n : ℕ} {ds : List Char} (h : HexCode n ds) (rest : List UInt8) :
    escapedNul.isPrefixOf (0x75 :: (encoded ds ++ rest)) = decide (n = 0) := by
  obtain ⟨a, b, c, d, i, j, k, l, rfl, hi, hj, hk, hl, value⟩ := hexCode_digits h
  obtain ⟨-, -, lowA, zeroA⟩ := digit_codes hi
  obtain ⟨-, -, lowB, zeroB⟩ := digit_codes hj
  obtain ⟨-, -, lowC, zeroC⟩ := digit_codes hk
  obtain ⟨-, -, lowD, zeroD⟩ := digit_codes hl
  rw [escapedNul_bytes]
  simp only [encoded_cons, encoded_nil, encode_ascii lowA, encode_ascii lowB, encode_ascii lowC, encode_ascii lowD,
    List.cons_append, List.nil_append, List.isPrefixOf, byte_zero lowA, byte_zero lowB, byte_zero lowC, byte_zero lowD,
    beq_self_eq_true, Bool.true_and, Bool.and_true]
  rw [Bool.eq_iff_iff]
  simp only [Bool.and_eq_true, decide_eq_true_eq]
  omega

theorem hexCode_quoted {n : ℕ} {ds : List Char} (h : HexCode n ds) : ∀ c ∈ ds, QuotedCode c.toNat := by
  obtain ⟨a, b, c, d, i, j, k, l, rfl, hi, hj, hk, hl, -⟩ := hexCode_digits h
  simp only [List.forall_mem_cons, List.not_mem_nil, false_implies, implies_true, and_true]
  exact ⟨(digit_codes hi).2.1, (digit_codes hj).2.1, (digit_codes hk).2.1, (digit_codes hl).2.1⟩

theorem encoded_backslash (cs : List Char) : encoded ('\\' :: cs) = 0x5c :: encoded cs := rfl

theorem encoded_letter (cs : List Char) : encoded ('u' :: cs) = 0x75 :: encoded cs := rfl

theorem scan_unicode {n : ℕ} {ds : List Char} (h : HexCode n ds) (rest : List UInt8) (d : ℕ) :
    scanFrom (0x5c :: 0x75 :: (encoded ds ++ rest)) d true = (decide (n ≠ 0) && scanFrom rest d true) := by
  by_cases zero : n = 0
  · rw [scan_nul (by rw [hexCode_nul h]; exact decide_eq_true zero)]
    simp [zero]
  · rw [scan_escape (by rw [hexCode_nul h]; exact decide_eq_false zero), scan_quoted_text (hexCode_quoted h)]
    simp [zero]

theorem scan_char {c : Char} {t : List Char} (h : CharText c t) (rest : List UInt8) (d : ℕ) :
    scanFrom (encoded t ++ rest) d true = (decide (c ≠ '\x00') && scanFrom rest d true) := by
  cases h with
  | plain h =>
    have other : c ≠ '\x00' := by
      rintro rfl
      exact absurd h.1 (by decide)
    rw [scan_quoted_text (by simpa using quoted_of_unescaped h)]
    simp [other]
  | short h =>
    simp only [shortEscapes, List.mem_cons, Prod.mk.injEq, List.not_mem_nil, or_false] at h
    rw [encoded_backslash]
    rcases h with ⟨rfl, rfl⟩ | ⟨rfl, rfl⟩ | ⟨rfl, rfl⟩ | ⟨rfl, rfl⟩ | ⟨rfl, rfl⟩ | ⟨rfl, rfl⟩ | ⟨rfl, rfl⟩ | ⟨rfl, rfl⟩ <;>
      exact scan_escape (not_nul_of_letter (by decide) _) d
  | unicode h =>
    rw [encoded_backslash, encoded_letter, List.cons_append, List.cons_append, scan_unicode h]
    have zero : c.toNat ≠ 0 ↔ c ≠ '\x00' := not_congr (Char.toNat_inj (d := '\x00'))
    simp only [zero]
  | pair first second leading trailing code =>
    rw [encoded_backslash, encoded_letter, encoded_append, encoded_backslash, encoded_letter, List.cons_append,
      List.cons_append, List.append_assoc, scan_unicode first, List.cons_append, List.cons_append, scan_unicode second]
    have other : c ≠ '\x00' := by
      rintro rfl
      have zero : '\x00'.toNat = 0 := rfl
      omega
    have high : _ ≠ 0 := Nat.ne_of_gt (Nat.lt_of_lt_of_le (by decide : 0 < 0xd800) leading.1)
    have low : _ ≠ 0 := Nat.ne_of_gt (Nat.lt_of_lt_of_le (by decide : 0 < 0xdc00) trailing.1)
    simp [other, high, low]

theorem scan_body {cs t : List Char} (h : BodyText cs t) (rest : List UInt8) (d : ℕ) :
    scanFrom (encoded t ++ 0x22 :: rest) d true = (decide ('\x00' ∉ cs) && scanFrom rest d false) := by
  induction h with
  | nil =>
    rw [encoded_nil, List.nil_append, scanFrom.eq_def]
    simp
  | @cons c cs text tail h t ih =>
    rw [encoded_append, List.append_assoc, scan_char h, ih, ← Bool.and_assoc, ← Bool.decide_and]
    congr 2
    rw [List.mem_cons, not_or, ne_eq, eq_comm (a := c)]

theorem scan_string {s : String} {t : List Char} (h : StringText s t) (rest : List UInt8) (d : ℕ) :
    scanFrom (encoded t ++ rest) d false = (textNulFree s && scanFrom rest d false) := by
  cases h with
  | @quoted body h =>
    have quote : encoded ('"' :: (body ++ ['"'])) ++ rest = 0x22 :: (encoded body ++ 0x22 :: rest) := by
      rw [encoded_cons, encoded_append, List.append_assoc, List.append_assoc]
      rfl
    rw [quote, scanFrom.eq_def]
    dsimp only
    rw [if_neg (by decide), if_neg Bool.false_ne_true, if_pos rfl, scan_body h]
    rfl

theorem idle_space {cs : List Char} (h : Spaces cs) : ∀ c ∈ cs, IdleCode c.toNat := by
  intro c hc
  have space := h c hc
  unfold isSpace at space
  simp only [Bool.or_eq_true, beq_iff_eq] at space
  rcases space with ((rfl | rfl) | rfl) | rfl <;> decide

theorem idle_digits {ds : List Char} (h : Digits ds) : ∀ c ∈ ds, IdleCode c.toNat := by
  intro c hc
  obtain ⟨v, value⟩ := Option.isSome_iff_exists.mp (h c hc)
  exact (digit_codes value).1

theorem idle_append {cs ds : List Char} (h : ∀ c ∈ cs, IdleCode c.toNat) (t : ∀ c ∈ ds, IdleCode c.toNat) :
    ∀ c ∈ cs ++ ds, IdleCode c.toNat := by
  intro c hc
  cases List.mem_append.mp hc with
  | inl left => exact h c left
  | inr right => exact t c right

theorem idle_cons {c : Char} {cs : List Char} (h : IdleCode c.toNat) (t : ∀ c ∈ cs, IdleCode c.toNat) :
    ∀ x ∈ c :: cs, IdleCode x.toNat :=
  List.forall_mem_cons.mpr ⟨h, t⟩

theorem idle_none : ∀ c ∈ ([] : List Char), IdleCode c.toNat := by simp

theorem idle_word {cs : List Char} (h : cs.all (fun c => decide (IdleCode c.toNat)) = true) :
    ∀ c ∈ cs, IdleCode c.toNat := by
  intro c hc
  exact of_decide_eq_true (List.all_eq_true.mp h c hc)

theorem idle_number {n : Number} {cs : List Char} (h : NumberText n cs) : ∀ c ∈ cs, IdleCode c.toNat := by
  cases h with
  | mk sign w f e =>
    apply idle_append
    · apply idle_append
      · apply idle_append
        · rcases sign with rfl | rfl
          · exact idle_none
          · exact idle_cons (by decide) idle_none
        · cases w with
          | zero => exact idle_cons (by decide) idle_none
          | digits nonzero h => exact idle_digits h
      · cases f with
        | none => exact idle_none
        | some h => exact idle_cons (by decide) (idle_digits h)
    · cases e with
      | none => exact idle_none
      | some letter signed h =>
        apply idle_cons
        · rcases letter with rfl | rfl <;> decide
        · apply idle_append
          · rcases signed with rfl | rfl | rfl
            · exact idle_none
            · exact idle_cons (by decide) idle_none
            · exact idle_cons (by decide) idle_none
          · exact idle_digits h

theorem scan_spaces {cs : List Char} (h : Spaces cs) (rest : List UInt8) (d : ℕ) :
    scanFrom (encoded cs ++ rest) d false = scanFrom rest d false :=
  scan_idle_text (idle_space h) rest d

/-- Whether a part can stand where `d` brackets are open. -/
def admitted (d : ℕ) (p : Part) : Bool := decide (d + partDepth p ≤ maxJsonNestingDepth) && partNulFree p

theorem scan_open {b : UInt8} (h : b = 0x7b ∨ b = 0x5b) (rest : List UInt8) (d : ℕ) :
    scanFrom (b :: rest) d false = (decide (d + 1 ≤ maxJsonNestingDepth) && scanFrom rest (d + 1) false) := by
  have other : b ≠ 0 ∧ b ≠ 0x22 := by
    rcases h with rfl | rfl <;> decide
  rw [scanFrom.eq_def]
  dsimp only
  rw [if_neg other.1, if_neg Bool.false_ne_true, if_neg other.2, if_pos h]
  by_cases deep : maxJsonNestingDepth < d + 1
  · rw [if_pos deep, decide_eq_false (by omega), Bool.false_and]
  · rw [if_neg deep, decide_eq_true (by omega), Bool.true_and]

theorem scan_close {b : UInt8} (h : b = 0x7d ∨ b = 0x5d) (rest : List UInt8) (d : ℕ) :
    scanFrom (b :: rest) (d + 1) false = scanFrom rest d false := by
  have other : b ≠ 0 ∧ b ≠ 0x22 ∧ ¬(b = 0x7b ∨ b = 0x5b) := by
    rcases h with rfl | rfl <;> decide
  rw [scanFrom.eq_def]
  dsimp only
  rw [if_neg other.1, if_neg Bool.false_ne_true, if_neg other.2.1, if_neg other.2.2, if_pos h,
    if_neg (Nat.succ_ne_zero d), Nat.add_sub_cancel]

theorem scan_mark {c : Char} (h : IdleCode c.toNat) (cs : List Char) (rest : List UInt8) (d : ℕ) :
    scanFrom (encoded (c :: cs) ++ rest) d false = scanFrom (encoded cs ++ rest) d false := by
  rw [encoded_cons, List.append_assoc]
  exact scan_idles (encode_idle h) _ d

theorem scan_brackets {inner : List Char} {opening closing : Char} {i : ℕ → Bool}
    (o : String.utf8EncodeChar opening = [0x7b] ∨ String.utf8EncodeChar opening = [0x5b])
    (c : String.utf8EncodeChar closing = [0x7d] ∨ String.utf8EncodeChar closing = [0x5d])
    (h : ∀ rest d, d ≤ maxJsonNestingDepth →
      scanFrom (encoded inner ++ rest) d false = (i d && scanFrom rest d false))
    (rest : List UInt8) (d : ℕ) : scanFrom (encoded (opening :: (inner ++ [closing])) ++ rest) d false =
      (decide (d + 1 ≤ maxJsonNestingDepth) && i (d + 1) && scanFrom rest d false) := by
  obtain ⟨b, first, hb⟩ : ∃ b, String.utf8EncodeChar opening = [b] ∧ (b = 0x7b ∨ b = 0x5b) := by
    rcases o with o | o
    · exact ⟨_, o, .inl rfl⟩
    · exact ⟨_, o, .inr rfl⟩
  obtain ⟨e, last, he⟩ : ∃ e, String.utf8EncodeChar closing = [e] ∧ (e = 0x7d ∨ e = 0x5d) := by
    rcases c with c | c
    · exact ⟨_, c, .inl rfl⟩
    · exact ⟨_, c, .inr rfl⟩
  have shape : encoded (opening :: (inner ++ [closing])) ++ rest = b :: (encoded inner ++ e :: rest) := by
    rw [encoded_cons, encoded_append, encoded_cons, first, last]
    simp
  rw [shape, scan_open hb, Bool.and_assoc]
  by_cases low : d + 1 ≤ maxJsonNestingDepth
  · rw [h _ _ low, scan_close he]
  · rw [decide_eq_false low, Bool.false_and, Bool.false_and]

theorem admitted_pair {d : ℕ} {p q r : Part} (deep : partDepth r = max (partDepth p) (partDepth q))
    (free : partNulFree r = (partNulFree p && partNulFree q)) : admitted d r = (admitted d p && admitted d q) := by
  unfold admitted
  rw [deep, free, Bool.eq_iff_iff]
  simp only [Bool.and_eq_true, decide_eq_true_eq]
  constructor
  · rintro ⟨h, hp, hq⟩
    exact ⟨⟨by omega, hp⟩, by omega, hq⟩
  · rintro ⟨⟨h, hp⟩, h', hq⟩
    exact ⟨by omega, hp, hq⟩

theorem admitted_brackets {d : ℕ} {p q : Part} (deep : partDepth q = 1 + partDepth p)
    (free : partNulFree q = partNulFree p) :
    (decide (d + 1 ≤ maxJsonNestingDepth) && admitted (d + 1) p) = admitted d q := by
  unfold admitted
  rw [deep, free, Bool.eq_iff_iff]
  simp only [Bool.and_eq_true, decide_eq_true_eq]
  constructor
  · rintro ⟨-, h, f⟩
    exact ⟨by omega, f⟩
  · rintro ⟨h, f⟩
    exact ⟨by omega, by omega, f⟩

theorem admitted_flat {d : ℕ} {j : Json} (h : d ≤ maxJsonNestingDepth) (deep : depth j = 0) (free : nulFree j = true) :
    admitted d (.value j) = true := by
  unfold admitted
  rw [Bool.and_eq_true, decide_eq_true_eq]
  change d + depth j ≤ _ ∧ nulFree j = true
  exact ⟨by omega, free⟩

theorem admitted_text {d : ℕ} (s : String) (h : d ≤ maxJsonNestingDepth) :
    admitted d (.value (.str s)) = textNulFree s := by
  unfold admitted
  rw [decide_eq_true (by change d + 0 ≤ _; omega), Bool.true_and]
  rfl

theorem admitted_arr {d : ℕ} (js : List Json) : admitted d (.value (.arr js)) =
    (decide (d + 1 ≤ maxJsonNestingDepth) && admitted (d + 1) (.items js)) :=
  (admitted_brackets (p := .items js) (q := .value (.arr js)) rfl rfl).symm

theorem admitted_obj {d : ℕ} (ms : Members) : admitted d (.value (.obj ms)) =
    (decide (d + 1 ≤ maxJsonNestingDepth) && admitted (d + 1) (.members ms)) :=
  (admitted_brackets (p := .members ms) (q := .value (.obj ms)) rfl rfl).symm

theorem admitted_empty {d : ℕ} {p q : Part} (deep : partDepth p = 0) (free : partNulFree p = true)
    (bracketed : admitted d q = (decide (d + 1 ≤ maxJsonNestingDepth) && admitted (d + 1) p)) :
    admitted d q = decide (d + 1 ≤ maxJsonNestingDepth) := by
  rw [bracketed]
  unfold admitted
  rw [deep, free, Bool.and_true, Nat.add_zero, Bool.and_self]

theorem admitted_single {d : ℕ} (j : Json) : admitted d (.items [j]) = admitted d (.value j) := by
  have deep : partDepth (.items [j]) = partDepth (.value j) := Nat.max_zero _
  have free : partNulFree (.items [j]) = partNulFree (.value j) := Bool.and_true _
  unfold admitted
  rw [deep, free]

theorem admitted_moreItems {d : ℕ} (j : Json) (js : List Json) :
    admitted d (.items (j :: js)) = (admitted d (.value j) && admitted d (.items js)) :=
  admitted_pair rfl rfl

theorem admitted_member {d : ℕ} (key : String) (j : Json) :
    admitted d (.members [(key, j)]) = (textNulFree key && admitted d (.value j)) := by
  have deep : partDepth (.members [(key, j)]) = partDepth (.value j) := Nat.max_zero _
  have free : partNulFree (.members [(key, j)]) = (textNulFree key && partNulFree (.value j)) := Bool.and_true _
  unfold admitted
  rw [deep, free, Bool.and_left_comm]

theorem admitted_moreMembers {d : ℕ} (key : String) (j : Json) (ms : Members) :
    admitted d (.members ((key, j) :: ms)) = (textNulFree key && admitted d (.value j) && admitted d (.members ms)) := by
  have split : admitted d (.members ((key, j) :: ms)) =
      (admitted d (.members [(key, j)]) && admitted d (.members ms)) := by
    apply admitted_pair
    · change max (depth j) (membersDepth ms) = max (max (depth j) 0) (membersDepth ms)
      rw [Nat.max_zero]
    · change (textNulFree key && nulFree j && membersNulFree ms) =
        ((textNulFree key && nulFree j && true) && membersNulFree ms)
      rw [Bool.and_true]
  rw [split, admitted_member]

/-- The scan over a text of a part, in front of anything. -/
theorem scan_part {p : Part} {cs : List Char} (h : Writes p cs) (rest : List UInt8) (d : ℕ)
    (low : d ≤ maxJsonNestingDepth) :
    scanFrom (encoded cs ++ rest) d false = (admitted d p && scanFrom rest d false) := by
  induction h generalizing rest d with
  | null => rw [scan_idle_text (idle_word (by decide)), admitted_flat low rfl rfl, Bool.true_and]
  | yes => rw [scan_idle_text (idle_word (by decide)), admitted_flat low rfl rfl, Bool.true_and]
  | no => rw [scan_idle_text (idle_word (by decide)), admitted_flat low rfl rfl, Bool.true_and]
  | num h => rw [scan_idle_text (idle_number h), admitted_flat low rfl rfl, Bool.true_and]
  | str h => rw [scan_string h, admitted_text _ low]
  | noItems h =>
    rw [scan_brackets (.inr rfl) (.inr rfl) (i := fun _ => true) (fun rest d _ => by rw [scan_spaces h, Bool.true_and]),
      Bool.and_true, admitted_empty rfl rfl (admitted_arr [])]
  | arr h ih => rw [scan_brackets (.inr rfl) (.inr rfl) ih, admitted_arr]
  | noMembers h =>
    rw [scan_brackets (.inl rfl) (.inl rfl) (i := fun _ => true) (fun rest d _ => by rw [scan_spaces h, Bool.true_and]),
      Bool.and_true, admitted_empty rfl rfl (admitted_obj [])]
  | obj h ih => rw [scan_brackets (.inl rfl) (.inl rfl) ih, admitted_obj]
  | item b h a ih =>
    rw [encoded_append, encoded_append, List.append_assoc, List.append_assoc, scan_spaces b, ih _ _ low, scan_spaces a,
      admitted_single]
  | moreItems b h a t ih ih' =>
    rw [encoded_append, encoded_append, encoded_append, List.append_assoc, List.append_assoc, List.append_assoc,
      scan_spaces b, ih _ _ low, scan_spaces a, scan_mark (by decide), ih' _ _ low, ← Bool.and_assoc,
      admitted_moreItems]
  | member b k m i h a ih =>
    rw [encoded_append, encoded_append, encoded_append, List.append_assoc, List.append_assoc, List.append_assoc,
      scan_spaces b, scan_string k, scan_spaces m, scan_mark (by decide), encoded_append, encoded_append,
      List.append_assoc, List.append_assoc, scan_spaces i, ih _ _ low, scan_spaces a, ← Bool.and_assoc, admitted_member]
  | moreMembers b k m i h a t ih ih' =>
    rw [encoded_append, encoded_append, encoded_append, List.append_assoc, List.append_assoc, List.append_assoc,
      scan_spaces b, scan_string k, scan_spaces m, scan_mark (by decide), encoded_append, encoded_append, encoded_append,
      List.append_assoc, List.append_assoc, List.append_assoc, scan_spaces i, ih _ _ low, scan_spaces a,
      scan_mark (by decide), ih' _ _ low, ← Bool.and_assoc, ← Bool.and_assoc, admitted_moreMembers]

theorem uniqueKeys_cons {key : String} {j : Json} {ms : Members} :
    UniqueKeys ((key, j) :: ms) ↔ ms.any (fun other => other.1 == key) = false ∧ UniqueKeys ms := by
  unfold UniqueKeys
  rw [List.map_cons, List.nodup_cons, List.any_eq_false]
  apply and_congr_left'
  constructor
  · intro fresh m hm same
    exact fresh (List.mem_map.mpr ⟨m, hm, beq_iff_eq.mp same⟩)
  · intro fresh used
    obtain ⟨m, hm, same⟩ := List.mem_map.mp used
    exact fresh m hm (beq_iff_eq.mpr same)

mutual
/-- `json_has_duplicate_keys` finds a repeated key at any depth. -/
theorem duplicates_iff : ∀ j : Json, jsonHasDuplicateKeys j = false ↔ DistinctKeys j
  | .obj ms => membersDuplicates_iff ms
  | .arr js => itemsDuplicates_iff js
  | .null => iff_of_true rfl trivial
  | .bool _ => iff_of_true rfl trivial
  | .num _ => iff_of_true rfl trivial
  | .str _ => iff_of_true rfl trivial
  | .cut _ => iff_of_true rfl trivial
theorem itemsDuplicates_iff : ∀ js : List Json, itemsHaveDuplicateKeys js = false ↔ ItemsDistinct js
  | [] => iff_of_true rfl trivial
  | j :: js => by
    rw [itemsHaveDuplicateKeys, Bool.or_eq_false_iff, duplicates_iff j, itemsDuplicates_iff js, ItemsDistinct]
theorem membersDuplicates_iff : ∀ ms : List (String × Json),
    membersHaveDuplicateKeys ms = false ↔ UniqueKeys ms ∧ MembersDistinct ms
  | [] => iff_of_true rfl ⟨List.nodup_nil, trivial⟩
  | (key, j) :: ms => by
    rw [membersHaveDuplicateKeys, Bool.or_eq_false_iff, Bool.or_eq_false_iff, duplicates_iff j,
      membersDuplicates_iff ms, uniqueKeys_cons, MembersDistinct]
    tauto
end

/-- What the gate is there to let through. -/
structure Intended (j : Json) : Prop where
  object : j.isObject = true
  shallow : depth j ≤ maxJsonNestingDepth
  free : nulFree j = true
  distinct : DistinctKeys j

/-- A text of `j` and where in it the value ends. -/
structure TextOf (j : Json) (cs : List Char) (stop : ℕ) : Prop where
  parts : ∃ before body after, cs = before ++ body ++ after ∧ stop = (encoded (before ++ body)).length ∧
    Spaces before ∧ Writes (.value j) body ∧ Spaces after

theorem scan_text {j : Json} {cs : List Char} {stop : ℕ} (h : TextOf j cs stop) :
    scanFrom (encoded cs) 0 false = admitted 0 (.value j) := by
  obtain ⟨before, body, after, rfl, -, b, w, a⟩ := h.parts
  have split : encoded (before ++ body ++ after) = encoded before ++ (encoded body ++ (encoded after ++ [])) := by simp
  rw [split, scan_spaces b, scan_part w _ 0 (Nat.zero_le _), scan_spaces a]
  exact Bool.and_true _

theorem encode_space {c : Char} (h : isSpace c = true) : (String.utf8EncodeChar c).all isTrailingSpace = true := by
  unfold isSpace at h
  simp only [Bool.or_eq_true, beq_iff_eq] at h
  rcases h with ((rfl | rfl) | rfl) | rfl <;> decide

theorem trailing_spaces {cs : List Char} (h : Spaces cs) : (encoded cs).all isTrailingSpace = true := by
  rw [List.all_eq_true]
  intro b hb
  obtain ⟨c, hc, hb⟩ := List.mem_flatMap.mp hb
  exact List.all_eq_true.mp (encode_space (h c hc)) b hb

theorem writes_ne_nil {p : Part} {cs : List Char} (h : Writes p cs) : cs ≠ [] := by
  induction h with
  | num h =>
    cases h with
    | mk sign w f e => cases w <;> simp
  | str h =>
    cases h
    exact List.cons_ne_nil _ _
  | item b h a ih => simp [ih]
  | _ => simp

theorem encoded_ne_nil {cs : List Char} (h : cs ≠ []) : encoded cs ≠ [] := by
  intro none
  have long := length_le_encoded cs
  rw [none] at long
  exact h (List.eq_nil_of_length_eq_zero (Nat.le_zero.mp long))

/-- Of a text of a tree, the gate returns the tree when it is an intended one, and nothing
    otherwise. -/
theorem chatJsonParseObject_text {cJSONParse : CJSONParse} {j : Json} {cs : List Char} {stop : ℕ}
    (h : TextOf j cs stop) (parsed : cJSONParse (encoded cs) = some (j, stop)) :
    (Intended j → chatJsonParseObject cJSONParse (encoded cs) = some j) ∧
      (¬Intended j → chatJsonParseObject cJSONParse (encoded cs) = none) := by
  have scanned := scan_text h
  obtain ⟨before, body, after, rfl, rfl, b, w, a⟩ := h.parts
  have filled : encoded (before ++ body ++ after) ≠ [] := by
    apply encoded_ne_nil
    simp [writes_ne_nil w]
  have rest : (encoded (before ++ body ++ after)).drop (encoded (before ++ body)).length = encoded after := by
    rw [encoded_append (before ++ body), List.drop_left]
  have decided : admitted 0 (.value j) = true ↔ depth j ≤ maxJsonNestingDepth ∧ nulFree j = true := by
    unfold admitted
    rw [Bool.and_eq_true, decide_eq_true_eq, Nat.zero_add]
    rfl
  unfold chatJsonParseObject
  by_cases fine : admitted 0 (.value j) = true
  · have passes : ¬(encoded (before ++ body ++ after) = [] ∨ validUtf8 (encoded (before ++ body ++ after)) ≠ some true ∨
        scanFrom (encoded (before ++ body ++ after)) 0 false = false) := by
      rw [validUtf8_encoded, scanned, fine, not_or, not_or]
      exact ⟨filled, not_not_intro rfl, Bool.true_eq_false_eq_False⟩
    rw [if_neg passes, parsed]
    dsimp only
    rw [rest, trailing_spaces a]
    constructor
    · intro intended
      rw [intended.object, (duplicates_iff j).mpr intended.distinct]
      rfl
    · intro other
      apply if_pos
      simp only [Bool.not_true, Bool.or_false, Bool.or_eq_true, Bool.not_eq_true']
      by_contra neither
      rw [not_or] at neither
      have object : j.isObject = true := by simpa using neither.1
      have distinct := (duplicates_iff j).mp (Bool.eq_false_iff.mpr neither.2)
      exact other ⟨object, (decided.mp fine).1, (decided.mp fine).2, distinct⟩
  · rw [if_pos (.inr (.inr (by rw [scanned]; exact Bool.eq_false_iff.mpr fine)))]
    constructor
    · intro intended
      exact absurd (decided.mpr ⟨intended.shallow, intended.free⟩) fine
    · intro _
      rfl

end EspWebChat.GateLanguage
