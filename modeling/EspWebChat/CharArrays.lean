import Mathlib.Data.List.TakeWhile
import Mathlib.Data.Nat.Notation

set_option autoImplicit false

/-!
# C strings and the arrays that hold them

A C string is a sequence of bytes without NUL. An array of `limit + 1` characters holds one of
at most `limit` bytes and its terminator; a bounded copy cuts what does not fit.
-/
namespace EspWebChat.CharArrays

structure CString where
  bytes : List UInt8
  clean : 0 ∉ bytes

namespace CString

theorem ext {s t : CString} (h : s.bytes = t.bytes) : s = t := by
  cases s
  cases t
  cases h
  rfl

instance : DecidableEq CString := fun s t =>
  decidable_of_iff (s.bytes = t.bytes) ⟨ext, congrArg CString.bytes⟩

def length (s : CString) : ℕ := s.bytes.length

def empty : CString := ⟨[], List.not_mem_nil⟩

theorem clean_takeWhile (bs : List UInt8) : 0 ∉ bs.takeWhile (fun b => b != 0) := by
  intro h
  have nonzero := List.mem_takeWhile_imp h
  cases nonzero

/-- What a `char *` to these bytes is read as. -/
def ofBytes (bs : List UInt8) : CString := ⟨bs.takeWhile (fun b => b != 0), clean_takeWhile bs⟩

/-- A string of the source or of a parsed text, in UTF-8. -/
def ofString (s : String) : CString := ofBytes (s.toList.flatMap String.utf8EncodeChar)

theorem ofBytes_of_clean {bs : List UInt8} (h : 0 ∉ bs) : (ofBytes bs).bytes = bs := by
  apply List.takeWhile_eq_self_iff.mpr
  intro b hb
  rw [bne_iff_ne]
  intro zero
  exact h (zero ▸ hb)

def take (limit : ℕ) (s : CString) : CString := ⟨s.bytes.take limit, fun h => s.clean (List.mem_of_mem_take h)⟩

theorem take_length_le (limit : ℕ) (s : CString) : (s.take limit).length ≤ limit := List.length_take_le _ _

theorem take_of_le {limit : ℕ} {s : CString} (h : s.length ≤ limit) : s.take limit = s :=
  ext (List.take_of_length_le h)

end CString

/-- An array of `limit + 1` characters. -/
structure CharArray (limit : ℕ) where
  text : CString
  fits : text.length ≤ limit
  deriving DecidableEq

namespace CharArray

variable {limit : ℕ}

theorem ext {a b : CharArray limit} (h : a.text = b.text) : a = b := by
  cases a
  cases b
  cases h
  rfl

def empty (limit : ℕ) : CharArray limit := ⟨CString.empty, Nat.zero_le limit⟩

def length (a : CharArray limit) : ℕ := a.text.length

theorem length_le (a : CharArray limit) : a.length ≤ limit := a.fits

/-- `snprintf` of `src` into the array. -/
def copyBounded (limit : ℕ) (src : CString) : CharArray limit := ⟨src.take limit, src.take_length_le limit⟩

theorem copyBounded_text {src : CString} (h : src.length ≤ limit) : (copyBounded limit src).text = src :=
  CString.take_of_le h

theorem copyBounded_length (src : CString) : (copyBounded limit src).length = min limit src.length := List.length_take

end CharArray

end EspWebChat.CharArrays
