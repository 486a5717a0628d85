import Mathlib.Data.List.Basic
import Mathlib.Data.Nat.Notation

set_option autoImplicit false

/-!
# Readers over a datagram

A reader takes a value out of a datagram at a position and says where the next one begins.
`Local` is what lets a datagram be patched in front and extended at its end: whatever was read
there before is read again.
-/
namespace EspWebChat.DatagramReaders

def Reader (α : Type) : Type := List UInt8 → ℕ → Option (α × ℕ)

instance : Monad Reader where
  pure a := fun _ p => some (a, p)
  bind read next := fun m p => (read m p).bind fun r => next r.1 m r.2

def octet : Reader UInt8 := fun m p => m[p]?.map fun b => (b, p + 1)

/-- Two octets, the high one first. -/
def number16 : Reader ℕ := do
  let high ← octet
  let low ← octet
  return high.toNat * 256 + low.toNat

def number32 : Reader ℕ := do
  let high ← number16
  let low ← number16
  return high * 65536 + low

variable {α β : Type}

def many (read : Reader α) : ℕ → Reader (List α)
  | 0 => pure []
  | k + 1 => do
    let x ← read
    let xs ← many read k
    return x :: xs

section runs
variable {read : Reader α} {next : α → Reader β} {m : List UInt8} {p q : ℕ} {a : α}

theorem bind_run (h : read m p = some (a, q)) : (read >>= next) m p = next a m q := by
  change (read m p).bind (fun r => next r.1 m r.2) = next a m q
  rw [h]
  rfl

theorem bind_some {r : β × ℕ} (h : (read >>= next) m p = some r) :
    ∃ a q, read m p = some (a, q) ∧ next a m q = some r := by
  obtain ⟨x, found, rest⟩ := Option.bind_eq_some_iff.mp h
  exact ⟨x.1, x.2, found, rest⟩

theorem many_succ {xs : List α} {e : ℕ} {k : ℕ} (head : read m p = some (a, q)) (tail : many read k m q = some (xs, e)) :
    many read (k + 1) m p = some (a :: xs, e) := by
  rw [many, bind_run head, bind_run tail]
  rfl

theorem many_succ_some {k : ℕ} {r : List α × ℕ} (h : many read (k + 1) m p = some r) :
    ∃ a xs q e, read m p = some (a, q) ∧ many read k m q = some (xs, e) ∧ r = (a :: xs, e) := by
  rw [many] at h
  obtain ⟨a, q, head, h⟩ := bind_some h
  obtain ⟨xs, e, tail, h⟩ := bind_some h
  exact ⟨a, xs, q, e, head, tail, (Option.some.inj h).symm⟩

theorem many_append {j k : ℕ} {xs ys : List α} {e : ℕ} (first : many read j m p = some (xs, q))
    (second : many read k m q = some (ys, e)) : many read (j + k) m p = some (xs ++ ys, e) := by
  induction j generalizing p xs with
  | zero =>
    cases first
    rw [Nat.zero_add]
    exact second
  | succ j ih =>
    obtain ⟨a, zs, q', e', head, tail, same⟩ := many_succ_some first
    cases same
    rw [Nat.succ_add]
    exact many_succ head (ih tail)

theorem many_split {j k : ℕ} {zs : List α} {e : ℕ} (h : many read (j + k) m p = some (zs, e)) :
    ∃ q, many read j m p = some (zs.take j, q) ∧ many read k m q = some (zs.drop j, e) := by
  induction j generalizing p zs with
  | zero =>
    rw [Nat.zero_add] at h
    exact ⟨p, rfl, h⟩
  | succ j ih =>
    rw [Nat.succ_add] at h
    obtain ⟨a, xs, q', e', head, tail, same⟩ := many_succ_some h
    cases same
    obtain ⟨q, first, second⟩ := ih tail
    exact ⟨q, many_succ head first, second⟩

theorem many_length {k : ℕ} {xs : List α} (h : many read k m p = some (xs, q)) : xs.length = k := by
  induction k generalizing p xs with
  | zero =>
    cases h
    rfl
  | succ k ih =>
    obtain ⟨a, ys, q', e', head, tail, same⟩ := many_succ_some h
    cases same
    rw [List.length_cons, ih tail]

theorem number16_eq (m : List UInt8) (p : ℕ) : number16 m p =
    (m[p]?).bind fun high => (m[p + 1]?).map fun low => (high.toNat * 256 + low.toNat, p + 2) := by
  change ((m[p]?).map fun b => (b, p + 1)).bind (fun r => ((m[r.2]?).map fun b => (b, r.2 + 1)).bind fun s =>
    some (r.1.toNat * 256 + s.1.toNat, s.2)) = _
  cases m[p]? with
  | none => rfl
  | some high =>
    change ((m[p + 1]?).map fun b => (b, p + 1 + 1)).bind _ = (m[p + 1]?).map _
    cases m[p + 1]? <;> rfl

theorem number16_next {n : ℕ} (h : number16 m p = some (n, q)) : q = p + 2 := by
  rw [number16_eq] at h
  obtain ⟨high, -, h⟩ := Option.bind_eq_some_iff.mp h
  obtain ⟨low, -, h⟩ := Option.map_eq_some_iff.mp h
  exact (Prod.mk.inj h).2.symm

theorem number16_congr {m' : List UInt8} (high : m'[p]? = m[p]?) (low : m'[p + 1]? = m[p + 1]?) :
    number16 m' p = number16 m p := by
  rw [number16_eq, number16_eq, high, low]

end runs

/-- From `base` on, the second datagram begins like the first. -/
def Agree (base : ℕ) (m m' : List UInt8) : Prop := ∀ i, base ≤ i → i < m.length → m'[i]? = m[i]?

def Local (base : ℕ) (read : Reader α) : Prop := ∀ ⦃m m' p r⦄, Agree base m m' → base ≤ p → read m p = some r →
  read m' p = some r ∧ p ≤ r.2

section locality
variable {base : ℕ} {read : Reader α} {next : α → Reader β}

theorem Local.pure (a : α) : Local base (pure a : Reader α) := by
  intro m m' p r _ _ h
  cases h
  exact ⟨rfl, Nat.le_refl p⟩

theorem Local.bind (first : Local base read) (then' : ∀ a, Local base (next a)) : Local base (read >>= next) := by
  intro m m' p r agree low h
  obtain ⟨a, q, head, tail⟩ := bind_some h
  obtain ⟨head', forth⟩ := first agree low head
  obtain ⟨tail', further⟩ := then' a agree (Nat.le_trans low forth) tail
  exact ⟨(bind_run head').trans tail', Nat.le_trans forth further⟩

theorem octet_local : Local base octet := by
  intro m m' p r agree low h
  unfold octet at h ⊢
  cases found : m[p]? with
  | none =>
    rw [found] at h
    cases h
  | some b =>
    have inside : p < m.length := (List.getElem?_eq_some_iff.mp found).1
    rw [found] at h
    cases h
    rw [agree p low inside, found]
    exact ⟨rfl, Nat.le_succ p⟩

theorem number16_local : Local base number16 :=
  octet_local.bind fun _ => octet_local.bind fun _ => .pure _

theorem number32_local : Local base number32 :=
  number16_local.bind fun _ => number16_local.bind fun _ => .pure _

theorem Local.many (each : Local base read) (k : ℕ) : Local base (many read k) := by
  induction k with
  | zero => exact .pure []
  | succ k ih =>
    rw [DatagramReaders.many]
    exact each.bind fun _ => ih.bind fun _ => .pure _

end locality

/-- Wherever `bytes` stand in a datagram, the reader takes `a` from them and stops behind them. -/
def Takes (read : Reader α) (bytes : List UInt8) (a : α) : Prop := ∀ before after : List UInt8,
  read (before ++ (bytes ++ after)) before.length = some (a, before.length + bytes.length)

theorem Takes.pure (a : α) : Takes (pure a : Reader α) [] a := fun _ _ => rfl

theorem Takes.bind {read : Reader α} {next : α → Reader β} {bytes more : List UInt8} {a : α} {b : β}
    (first : Takes read bytes a) (second : Takes (next a) more b) : Takes (read >>= next) (bytes ++ more) b := by
  intro before after
  have rest := second (before ++ bytes) after
  rw [List.length_append, List.append_assoc, Nat.add_assoc] at rest
  rw [List.append_assoc, bind_run (first before (more ++ after)), rest, List.length_append]

theorem octet_takes (b : UInt8) : Takes octet [b] b := by
  intro before after
  unfold octet
  rw [List.getElem?_append_right (Nat.le_refl _), Nat.sub_self]
  rfl

theorem number16_takes (high low : UInt8) : Takes number16 [high, low] (high.toNat * 256 + low.toNat) :=
  (octet_takes high).bind ((octet_takes low).bind (.pure _))

def octets16 (n : ℕ) : List UInt8 := [UInt8.ofNat (n / 256), UInt8.ofNat n]

def octets32 (n : ℕ) : List UInt8 := octets16 (n / 65536) ++ octets16 (n % 65536)

theorem octets16_take {n : ℕ} (h : n < 65536) : Takes number16 (octets16 n) n := by
  have value : (UInt8.ofNat (n / 256)).toNat * 256 + (UInt8.ofNat n).toNat = n := by
    rw [UInt8.toNat_ofNat', UInt8.toNat_ofNat']
    omega
  have taken := number16_takes (UInt8.ofNat (n / 256)) (UInt8.ofNat n)
  rw [value] at taken
  exact taken

theorem octets32_take {n : ℕ} (h : n < 4294967296) : Takes number32 (octets32 n) n := by
  have value : n / 65536 * 65536 + n % 65536 = n := by omega
  have high : n / 65536 < 65536 := by omega
  have low : n % 65536 < 65536 := by omega
  have bytes : octets32 n = octets16 (n / 65536) ++ (octets16 (n % 65536) ++ []) := by
    rw [List.append_nil]
    rfl
  have taken : Takes number32 (octets32 n) (n / 65536 * 65536 + n % 65536) := by
    rw [bytes]
    exact (octets16_take high).bind ((octets16_take low).bind (.pure _))
  rw [value] at taken
  exact taken

theorem Takes.cons {read : Reader α} {bytes more : List UInt8} {x : α} {xs : List α} (head : Takes read bytes x)
    (tail : Takes (many read xs.length) more xs) : Takes (many read (xs.length + 1)) (bytes ++ more) (x :: xs) := by
  intro before after
  have first := head before (more ++ after)
  have rest := tail (before ++ bytes) after
  rw [List.length_append, List.append_assoc, Nat.add_assoc] at rest
  rw [List.append_assoc, many_succ first rest, List.length_append]

theorem Takes.many {read : Reader α} {write : α → List UInt8} {xs : List α}
    (each : ∀ x ∈ xs, Takes read (write x) x) : Takes (many read xs.length) (xs.flatMap write) xs := by
  induction xs with
  | nil => exact .pure []
  | cons x xs ih =>
    have tail := ih fun y hy => each y (List.mem_cons_of_mem x hy)
    exact (each x List.mem_cons_self).cons tail

theorem octets_take (bytes : List UInt8) : Takes (many octet bytes.length) bytes bytes := by
  induction bytes with
  | nil => exact .pure []
  | cons b bytes ih => exact (octet_takes b).cons ih

end EspWebChat.DatagramReaders
