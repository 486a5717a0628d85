import Mathlib.Algebra.Ring.Int.Defs
import Mathlib.Algebra.Ring.Nat
import Mathlib.Data.List.Nodup
import Mathlib.Data.Rat.Defs

set_option autoImplicit false

/-!
# JSON trees and their member lists

A number is the value of a double, so a rational or one of the three special values. An
object keeps its members in order and may repeat a key: `member` reads the first match,
as a C tree walk does, `lastMember` the last one, as a parser that overwrites does.
A string of the browser is a sequence of UTF-16 units, and a cut may take a surrogate from its
pair: such a string is a `CutString`, which no parser of the server accepts.
-/
namespace EspWebChat.JsonTree

inductive Number where
  | nan
  | inf (negative : Bool)
  | fin (q : ℚ)
  deriving DecidableEq, Repr

abbrev HighSurrogate := { unit : ℕ // 0xd800 ≤ unit ∧ unit ≤ 0xdbff }

/-- `half` is what a cut leaves of a character that takes two units. -/
inductive Point where
  | char (c : Char)
  | half (unit : HighSurrogate)
  deriving DecidableEq, Repr

def Point.isHalf : Point → Bool
  | .char _ => false
  | .half _ => true

def Point.toChar : Point → Option Char
  | .char c => some c
  | .half _ => none

structure CutString where
  points : List Point
  cut : points.any Point.isHalf = true
  deriving DecidableEq, Repr

inductive Json where
  | null
  | bool (b : Bool)
  | num (n : Number)
  | str (s : String)
  | cut (s : CutString)
  | arr (items : List Json)
  | obj (members : List (String × Json))
  deriving Repr, Inhabited

abbrev Members := List (String × Json)

/-- The number of bytes of the UTF-8 encoding. -/
def strlen (s : String) : ℕ := (s.toList.map Char.utf8Size).sum

theorem strlen_pos {s : String} : 0 < strlen s ↔ s ≠ "" := by
  unfold strlen
  cases chars : s.toList with
  | nil =>
    have empty : s = "" := String.toList_injective (by rw [chars]; rfl)
    simp [empty]
  | cons c cs =>
    have filled : s ≠ "" := by
      rintro rfl
      cases chars
    have first := c.utf8Size_pos
    rw [List.map_cons, List.sum_cons]
    exact ⟨fun _ => filled, fun _ => by omega⟩

def Json.isObject : Json → Bool
  | .obj _ => true
  | _ => false

def Json.isArray : Json → Bool
  | .arr _ => true
  | _ => false

def Json.members : Json → Members
  | .obj ms => ms
  | _ => []

def Json.items : Json → List Json
  | .arr xs => xs
  | _ => []

def Json.member (j : Json) (key : String) : Option Json := j.members.lookup key

def Json.lastMember (j : Json) (key : String) : Option Json := j.members.reverse.lookup key

/-- Remove the first member of that name. -/
def deleteKey (key : String) (ms : Members) : Members := ms.eraseP (fun m => m.1 == key)

/-- Replace the value of the first member of that name, or append one. -/
def setKey (key : String) (v : Json) : Members → Members
  | [] => [(key, v)]
  | m :: ms => if m.1 = key then (key, v) :: ms else m :: setKey key v ms

def Json.delete (j : Json) (key : String) : Json :=
  match j with
  | .obj ms => .obj (deleteKey key ms)
  | j => j

def Json.set (j : Json) (key : String) (v : Json) : Json :=
  match j with
  | .obj ms => .obj (setKey key v ms)
  | j => j

def Json.append (j : Json) (key : String) (v : Json) : Json :=
  match j with
  | .obj ms => .obj (ms ++ [(key, v)])
  | j => j

def UniqueKeys (ms : Members) : Prop := (ms.map Prod.fst).Nodup

section lookups
variable {ms : Members} {key other : String} {v : Json}

theorem lookup_cons (m : String × Json) :
    List.lookup key (m :: ms) = if key = m.1 then some m.2 else ms.lookup key := by
  obtain ⟨k, x⟩ := m
  by_cases h : key = k
  · subst h; simp
  · have hb : (key == k) = false := beq_eq_false_iff_ne.mpr h
    simp [List.lookup_cons, hb, h]

theorem lookup_eq_none_iff : ms.lookup key = none ↔ key ∉ ms.map Prod.fst := by
  induction ms with
  | nil => simp
  | cons m ms ih =>
    rw [lookup_cons]
    split_ifs with h
    · simp [h]
    · simp [ih, h]

theorem mem_of_lookup (h : ms.lookup key = some v) : (key, v) ∈ ms := by
  induction ms with
  | nil => simp at h
  | cons m ms ih =>
    rw [lookup_cons] at h
    split_ifs at h with hk
    · obtain ⟨k, x⟩ := m
      cases h
      simp [show key = k from hk]
    · exact List.mem_cons_of_mem _ (ih h)

theorem lookup_of_mem (unique : UniqueKeys ms) (h : (key, v) ∈ ms) : ms.lookup key = some v := by
  induction ms with
  | nil => simp at h
  | cons m ms ih =>
    obtain ⟨hm, hu⟩ := List.nodup_cons.mp unique
    rw [lookup_cons]
    rcases List.mem_cons.mp h with rfl | ht
    · simp
    · have hk : key ≠ m.1 := by
        rintro rfl
        exact hm (List.mem_map.mpr ⟨_, ht, rfl⟩)
      rw [if_neg hk]
      exact ih hu ht

theorem UniqueKeys.reverse (unique : UniqueKeys ms) : UniqueKeys ms.reverse := by
  unfold UniqueKeys
  rw [List.map_reverse]
  exact List.nodup_reverse.mpr unique

theorem lookup_reverse (unique : UniqueKeys ms) : ms.reverse.lookup key = ms.lookup key := by
  cases h : ms.lookup key with
  | none =>
    rw [lookup_eq_none_iff] at h ⊢
    simpa using h
  | some v => exact lookup_of_mem unique.reverse (List.mem_reverse.mpr (mem_of_lookup h))

theorem lookup_append_single :
    (ms ++ [(key, v)]).lookup other = (ms.lookup other).or (if other = key then some v else none) := by
  rw [List.lookup_append, lookup_cons]
  rfl

theorem lookup_deleteKey_ne (h : other ≠ key) : (deleteKey key ms).lookup other = ms.lookup other := by
  induction ms with
  | nil => rfl
  | cons m ms ih =>
    by_cases hk : m.1 = key
    · rw [deleteKey, List.eraseP_cons_of_pos (by simpa using hk), lookup_cons, if_neg (by rw [hk]; exact h)]
    · rw [deleteKey, List.eraseP_cons_of_neg (by simpa using hk), lookup_cons, lookup_cons]
      exact congrArg (ite (other = m.1) (some m.2)) ih

theorem deleteKey_sublist : (deleteKey key ms).Sublist ms := List.eraseP_sublist

theorem UniqueKeys.deleteKey (unique : UniqueKeys ms) : UniqueKeys (deleteKey key ms) :=
  unique.sublist (deleteKey_sublist.map _)

theorem lookup_deleteKey_self (unique : UniqueKeys ms) :
    (JsonTree.deleteKey key ms).lookup key = none := by
  induction ms with
  | nil => rfl
  | cons m ms ih =>
    obtain ⟨hm, hu⟩ := List.nodup_cons.mp unique
    by_cases hk : m.1 = key
    · rw [JsonTree.deleteKey, List.eraseP_cons_of_pos (by simpa using hk), lookup_eq_none_iff, ← hk]
      exact hm
    · rw [JsonTree.deleteKey, List.eraseP_cons_of_neg (by simpa using hk), lookup_cons,
        if_neg (Ne.symm hk)]
      exact ih hu

theorem UniqueKeys.append (unique : UniqueKeys ms) (h : ms.lookup key = none) :
    UniqueKeys (ms ++ [(key, v)]) := by
  unfold UniqueKeys
  rw [List.map_append]
  refine List.Nodup.append unique (List.nodup_singleton _) ?_
  rw [lookup_eq_none_iff] at h
  simpa using h

theorem lookup_setKey_self : (setKey key v ms).lookup key = some v := by
  induction ms with
  | nil => simp [setKey]
  | cons m ms ih =>
    rw [setKey]
    split_ifs with h
    · simp
    · rw [lookup_cons, if_neg (Ne.symm h)]
      exact ih

theorem lookup_setKey_ne (h : other ≠ key) : (setKey key v ms).lookup other = ms.lookup other := by
  induction ms with
  | nil => rw [setKey, lookup_cons, if_neg h]
  | cons m ms ih =>
    rw [setKey]
    split_ifs with hk
    · rw [lookup_cons, lookup_cons, if_neg h, if_neg (by rw [hk]; exact h)]
    · rw [lookup_cons, lookup_cons, ih]

theorem keys_setKey : (setKey key v ms).map Prod.fst =
    if key ∈ ms.map Prod.fst then ms.map Prod.fst else ms.map Prod.fst ++ [key] := by
  induction ms with
  | nil => simp [setKey]
  | cons m ms ih =>
    rw [setKey]
    by_cases hk : m.1 = key
    · simp [hk]
    · rw [if_neg hk, List.map_cons, ih]
      by_cases hm : key ∈ ms.map Prod.fst
      · have hc : key ∈ (m :: ms).map Prod.fst := List.mem_cons_of_mem _ hm
        rw [if_pos hm, if_pos hc, List.map_cons]
      · have hc : key ∉ (m :: ms).map Prod.fst := by
          simp only [List.map_cons, List.mem_cons, not_or]
          exact ⟨Ne.symm hk, hm⟩
        rw [if_neg hm, if_neg hc, List.map_cons, List.cons_append]

theorem UniqueKeys.setKey (unique : UniqueKeys ms) : UniqueKeys (setKey key v ms) := by
  unfold UniqueKeys
  rw [keys_setKey]
  split_ifs with h
  · exact unique
  · refine List.Nodup.append unique (List.nodup_singleton _) ?_
    simpa using h

end lookups

/-- Both readers find the same value, for every key. -/
theorem lastMember_eq (j : Json) (unique : UniqueKeys j.members) (key : String) :
    j.lastMember key = j.member key :=
  lookup_reverse unique

/-! Reading one key past an edit of another one. -/
section edits
variable (j : Json) {key other : String} (v : Json)

theorem member_delete_ne (h : other ≠ key) : (j.delete key).member other = j.member other := by
  cases j with
  | obj ms => exact lookup_deleteKey_ne h
  | _ => rfl

theorem member_set_ne (h : other ≠ key) : (j.set key v).member other = j.member other := by
  cases j with
  | obj ms => exact lookup_setKey_ne h
  | _ => rfl

theorem member_append_ne (h : other ≠ key) : (j.append key v).member other = j.member other := by
  cases j with
  | obj ms =>
    change (ms ++ [(key, v)]).lookup other = ms.lookup other
    rw [lookup_append_single, if_neg h, Option.or_none]
  | _ => rfl

theorem members_delete_unique (unique : UniqueKeys j.members) : UniqueKeys (j.delete key).members := by
  cases j with
  | obj ms => exact unique.deleteKey
  | _ => exact unique

theorem members_set_unique (unique : UniqueKeys j.members) : UniqueKeys (j.set key v).members := by
  cases j with
  | obj ms => exact unique.setKey
  | _ => exact unique

theorem members_append_unique (unique : UniqueKeys j.members) (h : j.member key = none) :
    UniqueKeys (j.append key v).members := by
  cases j with
  | obj ms => exact unique.append h
  | _ => exact unique

theorem member_append_self (object : j.isObject = true) (h : j.member key = none) :
    (j.append key v).member key = some v := by
  cases j with
  | obj ms =>
    change (ms ++ [(key, v)]).lookup key = some v
    rw [lookup_append_single, show ms.lookup key = none from h, if_pos rfl, Option.none_or]
  | _ => cases object

theorem member_set_self (object : j.isObject = true) : (j.set key v).member key = some v := by
  cases j with
  | obj ms => exact lookup_setKey_self
  | _ => cases object

theorem member_delete_self (unique : UniqueKeys j.members) : (j.delete key).member key = none := by
  cases j with
  | obj ms => exact lookup_deleteKey_self unique
  | _ => rfl

end edits

end EspWebChat.JsonTree
