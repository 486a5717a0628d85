import EspWebChat.JsonGate

set_option autoImplicit false

/-!
# Encoded characters and the check of `valid_utf8`

The check reads a text one sequence at a time, so a text made of encoded characters passes it.
-/
namespace EspWebChat.Utf8Texts
open JsonGate

def encoded (cs : List Char) : List UInt8 := cs.flatMap String.utf8EncodeChar

@[simp] theorem encoded_nil : encoded [] = [] := rfl

@[simp] theorem encoded_cons (c : Char) (cs : List Char) :
    encoded (c :: cs) = String.utf8EncodeChar c ++ encoded cs := rfl

@[simp] theorem encoded_append (cs ds : List Char) : encoded (cs ++ ds) = encoded cs ++ encoded ds :=
  List.flatMap_append

theorem low_bits (n b : ℕ) : b &&& (2 ^ n - 1) = b % 2 ^ n := Nat.and_two_pow_sub_one_eq_mod b n

theorem joined_bits (a b : ℕ) (h : b < 64) : a <<< 6 ||| b = a * 64 + b := by
  rw [← Nat.shiftLeft_add_eq_or_of_lt (i := 6) h, Nat.shiftLeft_eq]

theorem marker_bits : ∀ b < 256, (b &&& 0xc0 = 0x80) ↔ (0x80 ≤ b ∧ b < 0xc0) := by decide +kernel

/-- A continuation byte and the bits it carries. -/
def tail (v : ℕ) : UInt8 := UInt8.ofNat (v % 64 + 0x80)

theorem tail_toNat (v : ℕ) : (tail v).toNat = v % 64 + 0x80 := by
  simp only [tail, UInt8.toNat_ofNat']
  omega

theorem tail_marker (v : ℕ) : (tail v).toNat &&& 0xc0 = 0x80 := by
  have h := tail_toNat v
  exact (marker_bits _ (by omega)).mpr (by omega)

theorem tail_bits (v : ℕ) : (tail v).toNat &&& 0x3f = v % 64 := by
  rw [show (0x3f : ℕ) = 2 ^ 6 - 1 from rfl, low_bits, tail_toNat]
  omega

variable {payload rest : List UInt8} {i : ℕ}

theorem getElem_of_drop {b : UInt8} (h : payload.drop i = b :: rest) : payload[i]? = some b := by
  have first := congrArg (fun l => l[0]?) h
  simpa using first

theorem drop_succ {b : UInt8} (h : payload.drop i = b :: rest) : payload.drop (i + 1) = rest := by
  rw [← List.tail_drop, h, List.tail_cons]

theorem length_of_drop (h : payload.drop i = rest) (hi : i ≤ payload.length) :
    payload.length = i + rest.length := by
  rw [← h, List.length_drop]
  omega

theorem continueFrom_tail (k c v : ℕ) (h : payload.drop i = tail v :: rest) :
    continueFrom payload (k + 1) i c = continueFrom payload k (i + 1) (c * 64 + v % 64) := by
  rw [continueFrom, getElem_of_drop h]
  simp only [ne_eq, tail_marker, not_true_eq_false, if_false, tail_bits]
  rw [joined_bits _ _ (by omega)]

theorem validFrom_lead {b : UInt8} {lead : Lead} {c : ℕ} (k : ℕ) (h : payload.drop i = b :: rest)
    (high : 0x80 ≤ b.toNat) (found : leadByte b.toNat = some lead) (room : lead.continuation ≤ rest.length)
    (read : continueFrom payload lead.continuation (i + 1) lead.bits = some (some c))
    (fits : lead.minimum ≤ c ∧ c ≤ 0x10ffff ∧ (c < 0xd800 ∨ 0xdfff < c)) :
    validFrom payload (k + 1) i = validFrom payload k (i + 1 + lead.continuation) := by
  have inside : i < payload.length := by
    have short : (payload.drop i).length = rest.length + 1 := by rw [h, List.length_cons]
    rw [List.length_drop] at short
    omega
  have size := length_of_drop (drop_succ h) (by omega)
  rw [validFrom, if_pos inside, getElem_of_drop h]
  simp only [found, read]
  rw [if_neg (by omega), if_neg (by omega), if_neg (by omega)]

theorem char_range (c : Char) : c.val.toNat < 0xd800 ∨ (0xdfff < c.val.toNat ∧ c.val.toNat ≤ 0x10ffff) := by
  cases c.valid with
  | inl low => exact .inl low
  | inr high => exact .inr ⟨high.1, Nat.lt_succ_iff.mp high.2⟩

theorem validFrom_char (c : Char) (k : ℕ) (h : payload.drop i = String.utf8EncodeChar c ++ rest) :
    validFrom payload (k + 1) i = validFrom payload k (i + (String.utf8EncodeChar c).length) := by
  have range := char_range c
  unfold String.utf8EncodeChar at h ⊢
  generalize hv : c.val.toNat = v at h range ⊢
  simp only at h ⊢
  by_cases one : v ≤ 0x7f
  · simp only [if_pos one] at h ⊢
    have byte : (UInt8.ofNat v).toNat = v := by simp only [UInt8.toNat_ofNat']; omega
    have inside : i < payload.length := by
      by_contra outside
      rw [List.drop_eq_nil_of_le (by omega)] at h
      cases h
    rw [validFrom, if_pos inside, getElem_of_drop h]
    simp only [byte]
    rw [if_pos (by omega)]
    rfl
  · by_cases two : v ≤ 0x7ff
    · simp only [if_neg one, if_pos two] at h ⊢
      have byte : (UInt8.ofNat (v / 64 % 32 + 0xc0)).toNat = v / 64 + 0xc0 := by
        simp only [UInt8.toNat_ofNat']
        omega
      have found : leadByte (v / 64 + 0xc0) = some ⟨1, 0x80, (v / 64 + 0xc0) &&& 0x1f⟩ := by
        rw [leadByte, if_pos (by omega)]
      refine validFrom_lead k h (by omega) (by rw [byte]; exact found) (by simp) ?_ (c := v) ?_
      · rw [continueFrom_tail 0 _ v (drop_succ h), continueFrom]
        rw [show (0x1f : ℕ) = 2 ^ 5 - 1 from rfl, low_bits]
        dsimp only
        congr 2
        omega
      · dsimp only
        omega
    · by_cases three : v ≤ 0xffff
      · simp only [if_neg one, if_neg two, if_pos three] at h ⊢
        have byte : (UInt8.ofNat (v / 4096 % 16 + 0xe0)).toNat = v / 4096 + 0xe0 := by
          simp only [UInt8.toNat_ofNat']
          omega
        have found : leadByte (v / 4096 + 0xe0) = some ⟨2, 0x800, (v / 4096 + 0xe0) &&& 0x0f⟩ := by
          rw [leadByte, if_neg (by omega), if_pos (by omega)]
        refine validFrom_lead k h (by omega) (by rw [byte]; exact found) (by simp) ?_ (c := v) ?_
        · rw [continueFrom_tail 1 _ (v / 64) (drop_succ h),
            continueFrom_tail 0 _ v (drop_succ (drop_succ h)), continueFrom]
          rw [show (0x0f : ℕ) = 2 ^ 4 - 1 from rfl, low_bits]
          dsimp only
          congr 2
          omega
        · dsimp only
          omega
      · simp only [if_neg one, if_neg two, if_neg three] at h ⊢
        have byte : (UInt8.ofNat (v / 262144 % 8 + 0xf0)).toNat = v / 262144 + 0xf0 := by
          simp only [UInt8.toNat_ofNat']
          omega
        have found : leadByte (v / 262144 + 0xf0) = some ⟨3, 0x10000, (v / 262144 + 0xf0) &&& 0x07⟩ := by
          rw [leadByte, if_neg (by omega), if_neg (by omega), if_pos (by omega)]
        refine validFrom_lead k h (by omega) (by rw [byte]; exact found) (by simp) ?_ (c := v) ?_
        · rw [continueFrom_tail 2 _ (v / 4096) (drop_succ h),
            continueFrom_tail 1 _ (v / 64) (drop_succ (drop_succ h)),
            continueFrom_tail 0 _ v (drop_succ (drop_succ (drop_succ h))), continueFrom]
          rw [show (0x07 : ℕ) = 2 ^ 3 - 1 from rfl, low_bits]
          dsimp only
          congr 2
          omega
        · dsimp only
          omega

theorem validFrom_encoded (cs : List Char) (k : ℕ) (long : cs.length ≤ k) (h : payload.drop i = encoded cs) :
    validFrom payload k i = some true := by
  induction cs generalizing k i with
  | nil =>
    have done : payload.length ≤ i := by
      have short := congrArg List.length h
      simp only [List.length_drop, encoded_nil, List.length_nil] at short
      omega
    cases k with
    | zero => rfl
    | succ k => rw [validFrom, if_neg (by omega)]
  | cons c cs ih =>
    cases k with
    | zero => simp at long
    | succ k =>
      rw [validFrom_char c k h]
      apply ih k
      · rw [List.length_cons] at long
        omega
      · rw [← List.drop_drop, h, encoded_cons, List.drop_left]

theorem length_le_encoded (cs : List Char) : cs.length ≤ (encoded cs).length := by
  induction cs with
  | nil => exact le_rfl
  | cons c cs ih =>
    have one : 0 < (String.utf8EncodeChar c).length := List.length_pos_iff.mpr String.utf8EncodeChar_ne_nil
    rw [encoded_cons, List.length_append, List.length_cons]
    omega

theorem validUtf8_encoded (cs : List Char) : validUtf8 (encoded cs) = some true :=
  validFrom_encoded cs _ (length_le_encoded cs) rfl

theorem drop_cons {b : UInt8} (h : payload[i]? = some b) : payload.drop i = b :: payload.drop (i + 1) := by
  obtain ⟨inside, rfl⟩ := List.getElem?_eq_some_iff.mp h
  exact List.drop_eq_getElem_cons inside

theorem continueFrom_succ {k c v : ℕ} (h : continueFrom payload (k + 1) i c = some (some v)) :
    ∃ b : UInt8, payload.drop i = b :: payload.drop (i + 1) ∧ 0x80 ≤ b.toNat ∧ b.toNat < 0xc0 ∧
      continueFrom payload k (i + 1) (c * 64 + b.toNat % 64) = some (some v) := by
  rw [continueFrom] at h
  cases hb : payload[i]? with
  | none => simp [hb] at h
  | some b =>
    simp only [hb] at h
    by_cases marked : b.toNat &&& 0xc0 = 0x80
    · rw [if_neg (not_not.mpr marked), show (0x3f : ℕ) = 2 ^ 6 - 1 from rfl, low_bits,
        joined_bits _ _ (by omega)] at h
      obtain ⟨low, high⟩ := (marker_bits b.toNat b.toNat_lt).mp marked
      exact ⟨b, drop_cons hb, low, high, h⟩
    · rw [if_pos marked] at h
      cases h

/-- The loops read no byte behind the payload. -/
theorem continueFrom_inside (k c : ℕ) (room : i + k ≤ payload.length) : continueFrom payload k i c ≠ none := by
  induction k generalizing i c with
  | zero => simp [continueFrom]
  | succ k ih =>
    have inside : i < payload.length := by omega
    rw [continueFrom, List.getElem?_eq_getElem inside]
    simp only
    split_ifs
    · exact Option.some_ne_none _
    · exact ih _ (by omega)

theorem validFrom_inside (k : ℕ) : validFrom payload k i ≠ none := by
  induction k generalizing i with
  | zero => exact Option.some_ne_none _
  | succ k ih =>
    rw [validFrom]
    split_ifs with inside
    · rw [List.getElem?_eq_getElem inside]
      simp only
      split_ifs
      · exact ih
      · split
        · exact Option.some_ne_none _
        · split_ifs with short
          · exact Option.some_ne_none _
          · rename_i lead _
            split
            · rename_i none
              exact absurd none (continueFrom_inside _ _ (by omega))
            · exact Option.some_ne_none _
            · split_ifs
              · exact Option.some_ne_none _
              · exact ih
    · exact Option.some_ne_none _

/-- The scalar value with this number. -/
def scalar (v : ℕ) (h : v.isValidChar) : Char := Char.ofNatAux v h

theorem scalar_toNat (v : ℕ) (h : v.isValidChar) : (scalar v h).val.toNat = v := rfl

theorem isValidChar_of {v : ℕ} (top : v ≤ 0x10ffff) (surrogate : v < 0xd800 ∨ 0xdfff < v) : v.isValidChar := by
  cases surrogate with
  | inl low => exact .inl low
  | inr high => exact .inr ⟨high, by omega⟩

theorem ofNat_eq {b : UInt8} {n : ℕ} (h : n = b.toNat) : UInt8.ofNat n = b := by
  rw [h]
  exact UInt8.ofNat_toNat

/-- The sequence that starts with the lead byte `b` encodes the number the loops have read. -/
theorem encodes_lead {b : UInt8} {lead : Lead} {v : ℕ} (found : leadByte b.toNat = some lead)
    (read : continueFrom payload lead.continuation (i + 1) lead.bits = some (some v))
    (least : lead.minimum ≤ v) (valid : v.isValidChar) :
    b :: payload.drop (i + 1) = String.utf8EncodeChar (scalar v valid) ++ payload.drop (i + 1 + lead.continuation) := by
  have number := scalar_toNat v valid
  unfold leadByte at found
  unfold String.utf8EncodeChar
  simp only [number]
  split_ifs at found with two three four
  · cases found
    simp only at read least ⊢
    obtain ⟨b1, d1, l1, u1, read⟩ := continueFrom_succ read
    rw [continueFrom, show (0x1f : ℕ) = 2 ^ 5 - 1 from rfl, low_bits] at read
    have value : (b.toNat % 2 ^ 5) * 64 + b1.toNat % 64 = v := by simpa using read
    rw [if_neg (by omega), if_pos (by omega), d1, ofNat_eq (b := b) (by omega), ofNat_eq (b := b1) (by omega)]
    rfl
  · cases found
    simp only at read least ⊢
    obtain ⟨b1, d1, l1, u1, read⟩ := continueFrom_succ read
    obtain ⟨b2, d2, l2, u2, read⟩ := continueFrom_succ read
    rw [continueFrom, show (0x0f : ℕ) = 2 ^ 4 - 1 from rfl, low_bits] at read
    have value : ((b.toNat % 2 ^ 4) * 64 + b1.toNat % 64) * 64 + b2.toNat % 64 = v := by simpa using read
    rw [if_neg (by omega), if_neg (by omega), if_pos (by omega), d1, d2, ofNat_eq (b := b) (by omega),
      ofNat_eq (b := b1) (by omega), ofNat_eq (b := b2) (by omega)]
    rfl
  · cases found
    simp only at read least ⊢
    obtain ⟨b1, d1, l1, u1, read⟩ := continueFrom_succ read
    obtain ⟨b2, d2, l2, u2, read⟩ := continueFrom_succ read
    obtain ⟨b3, d3, l3, u3, read⟩ := continueFrom_succ read
    rw [continueFrom, show (0x07 : ℕ) = 2 ^ 3 - 1 from rfl, low_bits] at read
    have value : (((b.toNat % 2 ^ 3) * 64 + b1.toNat % 64) * 64 + b2.toNat % 64) * 64 + b3.toNat % 64 = v := by
      simpa using read
    have top : v < 2 ^ 21 := by omega
    rw [if_neg (by omega), if_neg (by omega), if_neg (by omega), d1, d2, d3, ofNat_eq (b := b) (by omega),
      ofNat_eq (b := b1) (by omega), ofNat_eq (b := b2) (by omega), ofNat_eq (b := b3) (by omega)]
    rfl

theorem validFrom_sound (k : ℕ) (enough : payload.length ≤ i + k) (h : validFrom payload k i = some true) :
    ∃ cs, payload.drop i = encoded cs := by
  induction k generalizing i with
  | zero => exact ⟨[], List.drop_eq_nil_of_le (by omega)⟩
  | succ k ih =>
    rw [validFrom] at h
    by_cases inside : i < payload.length
    · rw [if_pos inside, List.getElem?_eq_getElem inside] at h
      simp only at h
      have first := List.drop_eq_getElem_cons inside
      generalize hb : payload[i] = b at h first
      by_cases ascii : b.toNat < 0x80
      · rw [if_pos ascii] at h
        obtain ⟨cs, later⟩ := ih (by omega) h
        have valid : b.toNat.isValidChar := isValidChar_of (by omega) (by omega)
        refine ⟨scalar b.toNat valid :: cs, ?_⟩
        have one : String.utf8EncodeChar (scalar b.toNat valid) = [b] := by
          have small : (scalar b.toNat valid).val.toNat ≤ 0x7f := by
            rw [scalar_toNat]
            omega
          unfold String.utf8EncodeChar
          rw [if_pos small, scalar_toNat, ofNat_eq rfl]
        rw [first, later, encoded_cons, one]
        rfl
      · rw [if_neg ascii] at h
        cases found : leadByte b.toNat with
        | none => simp [found] at h
        | some lead =>
          simp only [found] at h
          by_cases short : payload.length - (i + 1) < lead.continuation
          · rw [if_pos short] at h
            cases h
          · rw [if_neg short] at h
            cases read : continueFrom payload lead.continuation (i + 1) lead.bits with
            | none => simp [read] at h
            | some result =>
              cases result with
              | none => simp [read] at h
              | some v =>
                simp only [read] at h
                split_ifs at h with bad
                · cases h
                · obtain ⟨cs, later⟩ := ih (by omega) h
                  have valid : v.isValidChar := isValidChar_of (by omega) (by omega)
                  refine ⟨scalar v valid :: cs, ?_⟩
                  rw [first, encodes_lead found read (by omega) valid, later, encoded_cons]
    · exact ⟨[], List.drop_eq_nil_of_le (by omega)⟩

/-- A text is valid exactly when it is made of encoded characters, and the check stays inside it. -/
theorem validUtf8_exact (payload : List UInt8) :
    (validUtf8 payload = some true ↔ ∃ cs : List Char, payload = encoded cs) ∧ validUtf8 payload ≠ none := by
  refine ⟨⟨?_, ?_⟩, validFrom_inside _⟩
  · intro valid
    exact validFrom_sound (i := 0) payload.length (by omega) valid
  · rintro ⟨cs, rfl⟩
    exact validUtf8_encoded cs

end EspWebChat.Utf8Texts
