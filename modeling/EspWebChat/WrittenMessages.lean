import EspWebChat.ClientStore

set_option autoImplicit false

/-!
# Messages that were written and read again

`stringified` only turns numbers that are not finite into `null`. No message becomes invalid or
changes its id by that, but one marked as recovered by an infinite number is marked no more.
-/
namespace EspWebChat.WrittenMessages
open JsonTree NumberMaps JsValues ClientMessages ClientStore

theorem text_eq_some {o : Option Json} {s : String} (h : text o = some s) : o = some (.str s) := by
  cases o with
  | none => cases h
  | some j =>
    cases j with
    | str t =>
      cases h
      rfl
    | null | bool | num | cut | arr | obj => cases h

theorem text_of_validText {maxBytes : ℕ} {o : Option Json} (h : validText maxBytes o = true) :
    ∃ s, o = some (.str s) ∧ s ≠ "" := by
  obtain ⟨s, hs, ok⟩ := (Option.any_eq_true _ _).mp h
  simp only [Bool.and_eq_true, bne_iff_ne] at ok
  exact ⟨s, text_eq_some hs, ok.1⟩

theorem isSome_of_isText {value : String} {o : Option Json} (h : isText value o = true) : (text o).isSome = true := by
  simp only [isText, beq_iff_eq] at h
  simp [h]

theorem isSome_of_validText {maxBytes : ℕ} {o : Option Json} (h : validText maxBytes o = true) :
    (text o).isSome = true := by
  obtain ⟨s, rfl, -⟩ := text_of_validText h
  rfl

theorem string_of_size {o : Option Json} (h : (stringSize o).isSome = true) :
    (∃ s, o = some (.str s)) ∨ ∃ s, o = some (.cut s) := by
  cases o with
  | none => cases h
  | some j =>
    cases j with
    | str s => exact .inl ⟨s, rfl⟩
    | cut s => exact .inr ⟨s, rfl⟩
    | null | bool | num | arr | obj => cases h

theorem string_of_validLabel {maxBytes : ℕ} {o : Option Json} (h : validLabel maxBytes o = true) :
    (stringSize o).isSome = true ∧ truthy o = true := by
  obtain ⟨size, found, ok⟩ := (Option.any_eq_true _ _).mp h
  have positive := (of_decide_eq_true ok).1
  refine ⟨by rw [found]; rfl, ?_⟩
  rcases string_of_size (o := o) (by rw [found]; rfl) with ⟨s, rfl⟩ | ⟨s, rfl⟩
  · change (s != "") = true
    rw [bne_iff_ne]
    rintro rfl
    obtain rfl := Option.some.inj found
    exact absurd positive (by decide)
  · rfl

theorem map_char_inj {cs ds : List Char} (same : cs.map Point.char = ds.map Point.char) : cs = ds :=
  List.map_injective_iff.mpr (fun _ _ h => Point.char.inj h) same

theorem string_eq {o o' : Option Json} (h : (stringSize o).isSome = true) (h' : (stringSize o').isSome = true)
    (same : spelling o = spelling o') : o = o' := by
  rcases string_of_size h with ⟨s, rfl⟩ | ⟨s, rfl⟩ <;> rcases string_of_size h' with ⟨t, rfl⟩ | ⟨t, rfl⟩
  · have chars : s.toList = t.toList := map_char_inj same
    rw [String.toList_injective chars]
  · have cut := t.cut
    rw [← show s.toList.map Point.char = t.points from same, no_half] at cut
    cases cut
  · have cut := s.cut
    rw [show s.points = t.toList.map Point.char from same, no_half] at cut
    cases cut
  · obtain ⟨ps, cut⟩ := s
    obtain ⟨qs, cut'⟩ := t
    obtain rfl : ps = qs := same
    rfl

theorem string_or_empty {o : Option Json} (h : (stringSize o).isSome = true) : some (orElse o (str "")) = o := by
  rcases string_of_size h with ⟨s, rfl⟩ | ⟨s, rfl⟩
  · by_cases empty : s = ""
    · subst empty
      rfl
    · simp [orElse, truthy, truthyValue, empty]
  · rfl

theorem writtenNumber_numeric : Numeric writtenNumber := by
  intro n
  unfold writtenNumber
  split_ifs
  · exact .inr ⟨n, rfl⟩
  · exact .inl rfl

theorem stringified_twice (j : Json) : stringified (stringified j) = stringified j := by
  apply mapNumbers_twice
  intro n
  cases n with
  | fin q => rfl
  | nan | inf => rfl

section values
variable {f : Number → Json} (numeric : Numeric f)
include numeric

theorem property_mapped (o : Option Json) (key : String) :
    property (o.map (mapNumbers f)) key = (property o key).map (mapNumbers f) := by
  cases o with
  | none => rfl
  | some j => exact lastMember_mapNumbers numeric j key

theorem text_mapped (o : Option Json) : text (o.map (mapNumbers f)) = text o := by
  cases o with
  | none => rfl
  | some j =>
    cases j with
    | num n =>
      rw [Option.map_some, mapNumbers]
      exact numeric.cases n rfl (fun _ => rfl)
    | null | bool | str | cut | arr | obj => rfl

theorem isText_mapped (value : String) (o : Option Json) : isText value (o.map (mapNumbers f)) = isText value o := by
  unfold isText
  rw [text_mapped numeric]

theorem validText_mapped (maxBytes : ℕ) (o : Option Json) :
    validText maxBytes (o.map (mapNumbers f)) = validText maxBytes o := by
  unfold validText
  rw [text_mapped numeric]

theorem stringSize_mapped (o : Option Json) : stringSize (o.map (mapNumbers f)) = stringSize o := by
  cases o with
  | none => rfl
  | some j =>
    cases j with
    | num n =>
      rw [Option.map_some, mapNumbers]
      exact numeric.cases n rfl (fun _ => rfl)
    | null | bool | str | cut | arr | obj => rfl

theorem validLabel_mapped (maxBytes : ℕ) (o : Option Json) :
    validLabel maxBytes (o.map (mapNumbers f)) = validLabel maxBytes o := by
  unfold validLabel
  rw [stringSize_mapped numeric]

theorem isArray_mapped (o : Option Json) : isArray (o.map (mapNumbers f)) = isArray o := by
  cases o with
  | none => rfl
  | some j =>
    cases j with
    | num n =>
      rw [Option.map_some, mapNumbers]
      exact numeric.cases n rfl (fun _ => rfl)
    | null | bool | str | cut | arr | obj => rfl

theorem itemsOf_mapped (o : Option Json) : itemsOf (o.map (mapNumbers f)) = (itemsOf o).map (mapNumbers f) := by
  cases o with
  | none => rfl
  | some j =>
    cases j with
    | num n =>
      rw [Option.map_some, mapNumbers]
      exact numeric.cases n rfl (fun _ => rfl)
    | arr items =>
      rw [Option.map_some, mapNumbers, mapItems_eq]
      rfl
    | null | bool | str | cut | obj => rfl

theorem isBoolean_mapped (o : Option Json) : isBoolean (o.map (mapNumbers f)) = isBoolean o := by
  cases o with
  | none => rfl
  | some j =>
    cases j with
    | num n =>
      rw [Option.map_some, mapNumbers]
      exact numeric.cases n rfl (fun _ => rfl)
    | null | bool | str | cut | arr | obj => rfl

omit numeric in
theorem truthy_boolean {o : Option Json} (h : isBoolean o = true) : truthy (o.map (mapNumbers f)) = truthy o := by
  cases o with
  | none => rfl
  | some j =>
    cases j with
    | num n => cases h
    | null | bool | str | cut | arr | obj => rfl

theorem validMessageTarget_mapped (o : Option Json) : validMessageTarget (o.map (mapNumbers f)) = validMessageTarget o := by
  unfold validMessageTarget
  simp only [property_mapped numeric, isBoolean_mapped numeric, isArray_mapped numeric, itemsOf_mapped numeric,
    List.length_map, List.all_map, List.isEmpty_map]
  have users : (fun user => validUserId (some user)) ∘ mapNumbers f = fun user => validUserId (some user) := by
    funext user
    exact validText_mapped numeric 63 (some user)
  rw [users]
  cases hb : isBoolean (property o "all") with
  | false => simp
  | true => rw [truthy_boolean hb]

end values

theorem lastMember_stringified (j : Json) (key : String) :
    (stringified j).lastMember key = (j.lastMember key).map stringified :=
  lastMember_mapNumbers writtenNumber_numeric j key

theorem property_stringified (o : Option Json) (key : String) :
    property (o.map stringified) key = (property o key).map stringified := property_mapped writtenNumber_numeric o key

theorem text_stringified (o : Option Json) : text (o.map stringified) = text o := text_mapped writtenNumber_numeric o

theorem isText_stringified (value : String) (o : Option Json) : isText value (o.map stringified) = isText value o :=
  isText_mapped writtenNumber_numeric value o

theorem validText_stringified (maxBytes : ℕ) (o : Option Json) :
    validText maxBytes (o.map stringified) = validText maxBytes o := validText_mapped writtenNumber_numeric maxBytes o

theorem stringSize_stringified (o : Option Json) : stringSize (o.map stringified) = stringSize o :=
  stringSize_mapped writtenNumber_numeric o

theorem validLabel_stringified (maxBytes : ℕ) (o : Option Json) :
    validLabel maxBytes (o.map stringified) = validLabel maxBytes o := validLabel_mapped writtenNumber_numeric maxBytes o

theorem itemsOf_stringified (o : Option Json) : itemsOf (o.map stringified) = (itemsOf o).map stringified :=
  itemsOf_mapped writtenNumber_numeric o

theorem validMessageTarget_stringified (o : Option Json) :
    validMessageTarget (o.map stringified) = validMessageTarget o := validMessageTarget_mapped writtenNumber_numeric o

theorem truthy_stringified {o : Option Json} (h : truthy (o.map stringified) = true) : truthy o = true := by
  cases o with
  | none => exact h
  | some j =>
    cases j with
    | num n =>
      cases n with
      | nan => exact h
      | inf negative => cases h
      | fin q => exact h
    | null | bool | str | cut | arr | obj => exact h

/-- Conversion notices at most that something was not finite. -/
def SameNumber (a b : Number) : Prop := a = b ∨ (isFinite b = false ∧ a = .fin 0)

theorem numberOfItems_many (x y : Json) (rest : List Json) : numberOfItems (x :: y :: rest) = .nan := by
  cases x <;> rfl

mutual
theorem numberOf_stringified : ∀ j : Json, SameNumber (numberOf (stringified j)) (numberOf j)
  | .null => .inl rfl
  | .bool _ => .inl rfl
  | .str _ => .inl rfl
  | .cut _ => .inl rfl
  | .obj _ => .inl rfl
  | .num .nan => .inr ⟨rfl, rfl⟩
  | .num (.inf _) => .inr ⟨rfl, rfl⟩
  | .num (.fin _) => .inl rfl
  | .arr items => numberOfItems_stringified items
theorem numberOfItems_stringified : ∀ items : List Json,
    SameNumber (numberOfItems (mapItems writtenNumber items)) (numberOfItems items)
  | [] => .inl rfl
  | [.bool _] => .inl rfl
  | [.null] => .inl rfl
  | [.str _] => .inl rfl
  | [.cut _] => .inl rfl
  | [.obj _] => .inl rfl
  | [.num .nan] => .inr ⟨rfl, rfl⟩
  | [.num (.inf _)] => .inr ⟨rfl, rfl⟩
  | [.num (.fin _)] => .inl rfl
  | [.arr items] => numberOfItems_stringified items
  | x :: y :: rest => by
    rw [mapItems, mapItems, numberOfItems_many, numberOfItems_many]
    exact .inl rfl
end

theorem numberOfMember_stringified (o : Option Json) :
    SameNumber (numberOfMember (o.map stringified)) (numberOfMember o) := by
  cases o with
  | none => exact .inl rfl
  | some j => exact numberOf_stringified j

theorem SameNumber.safe {a b : Number} (h : SameNumber a b) :
    (safeNat a).filter (fun n => decide (0 < n)) = (safeNat b).filter (fun n => decide (0 < n)) := by
  cases h with
  | inl same => rw [same]
  | inr lost =>
    obtain ⟨hb, rfl⟩ := lost
    cases b with
    | nan => rfl
    | inf => rfl
    | fin => cases hb

theorem SameNumber.finite {a b : Number} (h : SameNumber a b) (hb : isFinite b = true) : a = b := by
  cases h with
  | inl same => exact same
  | inr lost =>
    rw [lost.1] at hb
    cases hb

theorem messageId_stringified (m : Json) : messageId (stringified m) = messageId m := by
  unfold messageId
  rw [lastMember_stringified]
  exact (numberOfMember_stringified _).safe

theorem numericId_stringified (m : Json) : numericId (stringified m) = numericId m := by
  unfold numericId
  rw [messageId_stringified]

theorem validHistoryMessage_stringified {m : Json} (h : validHistoryMessage m = true) :
    validHistoryMessage (stringified m) = true := by
  have finite : isFinite (numberOfMember (m.lastMember "timestamp")) = true := by
    unfold validHistoryMessage at h
    simp only [Bool.and_eq_true] at h
    exact h.1.1.1.2
  have timestamp := (numberOfMember_stringified (m.lastMember "timestamp")).finite finite
  rw [← h]
  unfold validHistoryMessage isSafeMessageId validGroupMetadata validUserId
  simp only [messageId_stringified, lastMember_stringified, isText_stringified, validText_stringified,
    validLabel_stringified, validMessageTarget_stringified, stringSize_stringified, Option.isSome_map, timestamp]

theorem isRecovered_stringified {m : Json} (h : isRecovered (stringified m) = true) : isRecovered m = true := by
  unfold isRecovered at h ⊢
  rw [lastMember_stringified] at h
  exact truthy_stringified h

theorem reverse_lookup_append (a b : Members) (key : String) :
    (a ++ b).reverse.lookup key = (b.reverse.lookup key).or (a.reverse.lookup key) := by
  rw [List.reverse_append, List.lookup_append]

theorem lookup_optionalMember {key other : String} (h : key ≠ other) (o : Option Json) :
    (optionalMember other o).reverse.lookup key = none := by
  cases o with
  | none => rfl
  | some v =>
    simp [optionalMember, h]

theorem recoveredMessagePayload_id (users : Members) (msg source now : Json) :
    (recoveredMessagePayload users msg source now).lastMember "id" = some (nat (numericId msg)) := by
  unfold recoveredMessagePayload historyMessagePayload Json.lastMember Json.members
  simp only [reverse_lookup_append, lookup_optionalMember (show "id" ≠ "recoveredFrom" by decide),
    lookup_optionalMember (show "id" ≠ "name" by decide)]
  split_ifs
  · simp only [reverse_lookup_append, lookup_optionalMember (show "id" ≠ "groupId" by decide),
      lookup_optionalMember (show "id" ≠ "groupName" by decide)]
    rfl
  · rfl

theorem recoveredMessagePayload_recovered (users : Members) (msg source now : Json) :
    (recoveredMessagePayload users msg source now).lastMember "recovered" = some (.bool true) := by
  unfold recoveredMessagePayload Json.lastMember Json.members
  simp only [reverse_lookup_append,
    lookup_optionalMember (show "recovered" ≠ "recoveredFrom" by decide)]
  rfl

theorem safeNat_bound {q : Number} {n : ℕ} (h : safeNat q = some n) : n ≤ maxSafeInteger := by
  cases q with
  | nan => cases h
  | inf => cases h
  | fin q =>
    simp only [safeNat] at h
    split_ifs at h with bounds
    obtain rfl : q.num.toNat = n := Option.some.inj h
    obtain ⟨low, high, whole⟩ := bounds
    have integer : (q.num : ℚ) = q := Rat.coe_int_num_of_den_eq_one whole
    have bound : q.num ≤ (maxSafeInteger : ℤ) := by
      rw [← integer] at high
      exact_mod_cast high
    omega

theorem messageId_bounds {msg : Json} {n : ℕ} (h : messageId msg = some n) : 0 < n ∧ n ≤ maxSafeInteger := by
  unfold messageId at h
  obtain ⟨safe, positive⟩ := Option.filter_eq_some_iff.mp h
  exact ⟨by simpa using positive, safeNat_bound safe⟩

theorem safeNat_nat {n : ℕ} (h : n ≤ maxSafeInteger) : safeNat (.fin n) = some n := by
  have bounds : (0 : ℚ) ≤ n ∧ (n : ℚ) ≤ (maxSafeInteger : ℚ) ∧ (n : ℚ).den = 1 :=
    ⟨by positivity, by exact_mod_cast h, Rat.den_natCast n⟩
  simp only [safeNat, if_pos bounds]
  simp

theorem numericId_recovered {msg : Json} (valid : validHistoryMessage msg = true)
    (users : Members) (source now : Json) :
    numericId (recoveredMessagePayload users msg source now) = numericId msg := by
  have safe : isSafeMessageId msg = true := by
    unfold validHistoryMessage at valid
    simp only [Bool.and_eq_true] at valid
    exact valid.1.1.1.1.1.1.1.1
  obtain ⟨n, hn⟩ := Option.isSome_iff_exists.mp safe
  obtain ⟨positive, high⟩ := messageId_bounds hn
  have id : numericId msg = n := by
    unfold numericId
    rw [hn]
    rfl
  have number : numberOfMember (some (nat n)) = .fin n := rfl
  have payload : messageId (recoveredMessagePayload users msg source now) = some n := by
    unfold messageId
    rw [recoveredMessagePayload_id, id, number, safeNat_nat high]
    simp [positive]
  rw [id]
  unfold numericId
  rw [payload]
  rfl

theorem isRecovered_recovered (users : Members) (msg source now : Json) :
    isRecovered (stringified (recoveredMessagePayload users msg source now)) = true := by
  unfold isRecovered
  rw [lastMember_stringified, recoveredMessagePayload_recovered]
  rfl

end EspWebChat.WrittenMessages
