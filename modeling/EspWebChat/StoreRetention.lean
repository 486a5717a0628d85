import EspWebChat.FaithfulCopies
import EspWebChat.StoreSteps

set_option autoImplicit false

/-!
# What the local store keeps

The retention rule sorts the messages, divides the room between live and recovered ones, and
keeps of each class those with the highest ids.
-/
namespace EspWebChat.StoreRetention
open JsonTree JsValues ClientMessages Interruptible BrowserWorld ClientStore StoreSteps FaithfulCopies

def Sorted (ms : List Json) : Prop := ms.Pairwise (fun a b => numericId a ≤ numericId b)

variable {ms : List Json} {m : Json}

theorem sortById_sorted (ms : List Json) : Sorted (sortById ms) := by
  have sorted : (sortById ms).Pairwise (fun a b => byId a b = true) := by
    apply List.pairwise_mergeSort
    · intro a b c hab hbc
      simp only [byId, decide_eq_true_eq] at hab hbc ⊢
      omega
    · intro a b
      simp only [byId, Bool.or_eq_true, decide_eq_true_eq]
      omega
  apply sorted.imp
  intro a b h
  simpa [byId] using h

theorem sortById_of_sorted (h : Sorted ms) : sortById ms = ms := by
  apply List.mergeSort_of_pairwise
  apply h.imp
  intro a b le
  simpa [byId] using le

theorem sortById_length (ms : List Json) : (sortById ms).length = ms.length := List.length_mergeSort ms

theorem lastOf_length {α : Type} (n : ℕ) (xs : List α) : (lastOf n xs).length = min n xs.length := by
  unfold lastOf
  rw [List.length_drop]
  omega

theorem lastOf_sublist {α : Type} (n : ℕ) (xs : List α) : (lastOf n xs).Sublist xs := List.drop_sublist _ _

theorem lastOf_highest (h : Sorted ms) (n : ℕ) {k d : Json} (hk : k ∈ lastOf n ms)
    (hd : d ∈ ms.take (ms.length - n)) : numericId d ≤ numericId k := by
  unfold Sorted at h
  rw [← lastOf_append n ms] at h
  exact (List.pairwise_append.mp h).2.2 d hd k hk

theorem regularSlots_le (regular recovered : ℕ) : regularSlots regular recovered ≤ regular := Nat.min_le_left _ _

/-- Half of the room is the live messages', whatever has been recovered. -/
theorem regularSlots_reserved (regular recovered : ℕ) : min regular 1000 ≤ regularSlots regular recovered := by
  unfold regularSlots maxLocalMessages
  omega

theorem regularSlots_fill {regular recovered : ℕ} (full : maxLocalMessages < regular + recovered) :
    regularSlots regular recovered ≤ maxLocalMessages ∧
      maxLocalMessages - regularSlots regular recovered ≤ recovered := by
  unfold regularSlots
  unfold maxLocalMessages at full ⊢
  omega

def live (ms : List Json) : List Json := ms.filter (fun m => !isRecovered m)

def restored (ms : List Json) : List Json := ms.filter isRecovered

def liveSlots (ms : List Json) : ℕ := regularSlots (live ms).length (restored ms).length

theorem kept_eq (ms : List Json) :
    kept ms = lastOf (liveSlots ms) (live ms) ++ lastOf (maxLocalMessages - liveSlots ms) (restored ms) := rfl

theorem dropped_eq (ms : List Json) :
    dropped ms = (live ms).take ((live ms).length - liveSlots ms) ++
      (restored ms).take ((restored ms).length - (maxLocalMessages - liveSlots ms)) := rfl

theorem classes_length (ms : List Json) : (live ms).length + (restored ms).length = ms.length := by
  have both := (List.filter_append_perm isRecovered ms).length_eq
  rw [List.length_append] at both
  unfold live restored
  omega

theorem live_perm {ms ms' : List Json} (h : ms.Perm ms') : (live ms).Perm (live ms') := h.filter _

theorem mem_live : m ∈ live ms ↔ m ∈ ms ∧ isRecovered m = false := by
  unfold live
  rw [List.mem_filter, Bool.not_eq_true']

theorem mem_restored : m ∈ restored ms ↔ m ∈ ms ∧ isRecovered m = true := List.mem_filter

theorem live_of_live {xs : List Json} (h : ∀ x ∈ xs, isRecovered x = false) : live xs = xs := by
  apply List.filter_eq_self.mpr
  intro x hx
  rw [h x hx]
  rfl

theorem live_of_restored {xs : List Json} (h : ∀ x ∈ xs, isRecovered x = true) : live xs = [] := by
  apply List.filter_eq_nil_iff.mpr
  intro x hx
  rw [h x hx]
  simp

theorem live_kept (ms : List Json) : live (kept ms) = lastOf (liveSlots ms) (live ms) := by
  have first : live (lastOf (liveSlots ms) (live ms)) = lastOf (liveSlots ms) (live ms) := by
    apply live_of_live
    intro x hx
    exact (mem_live.mp ((lastOf_sublist _ _).subset hx)).2
  have second : live (lastOf (maxLocalMessages - liveSlots ms) (restored ms)) = [] := by
    apply live_of_restored
    intro x hx
    exact (mem_restored.mp ((lastOf_sublist _ _).subset hx)).2
  have split : live (kept ms) = live (lastOf (liveSlots ms) (live ms)) ++
      live (lastOf (maxLocalMessages - liveSlots ms) (restored ms)) := List.filter_append _ _
  rw [split, first, second, List.append_nil]

theorem kept_length (full : maxLocalMessages < ms.length) : (kept ms).length = maxLocalMessages := by
  have classes := classes_length ms
  have slots := regularSlots_le (live ms).length (restored ms).length
  have many : maxLocalMessages < (live ms).length + (restored ms).length := by omega
  have fill := regularSlots_fill many
  rw [kept_eq, List.length_append, lastOf_length, lastOf_length]
  unfold liveSlots
  omega

/-- Of a class, what is dropped has no higher id than what is kept. -/
theorem kept_highest (h : Sorted ms) {k d : Json} (hk : k ∈ kept ms) (hd : d ∈ dropped ms)
    (same : isRecovered d = isRecovered k) : numericId d ≤ numericId k := by
  rw [kept_eq, List.mem_append] at hk
  rw [dropped_eq, List.mem_append] at hd
  cases hk with
  | inl hk =>
    cases hd with
    | inl hd => exact lastOf_highest (h.filter _) _ hk hd
    | inr hd =>
      have k_live := (mem_live.mp ((lastOf_sublist _ _).subset hk)).2
      rw [(mem_restored.mp (List.mem_of_mem_take hd)).2, k_live] at same
      cases same
  | inr hk =>
    cases hd with
    | inl hd =>
      have k_restored := (mem_restored.mp ((lastOf_sublist _ _).subset hk)).2
      rw [(mem_live.mp (List.mem_of_mem_take hd)).2, k_restored] at same
      cases same
    | inr hd => exact lastOf_highest (h.filter _) _ hk hd

/-- `kept` is what the rule keeps of `ms`, and `dropped` the rest. -/
structure Retained (ms kept dropped : List Json) : Prop where
  split : (kept ++ dropped).Perm ms
  sorted : Sorted kept
  size : kept.length = min ms.length maxLocalMessages
  highest : ∀ k ∈ kept, ∀ d ∈ dropped, isRecovered d = isRecovered k → numericId d ≤ numericId k
  reserved : min (live ms).length 1000 ≤ (live kept).length

theorem retain_full (full : maxLocalMessages < ms.length) :
    retain ms = (sortById (kept (sortById ms)), dropped (sortById ms)) := by
  unfold retain
  rw [← sortById_length ms] at full
  exact if_pos full

theorem retain_fits (fits : ms.length ≤ maxLocalMessages) : retain ms = (sortById ms, []) := by
  unfold retain
  rw [← sortById_length ms] at fits
  exact if_neg (Nat.not_lt.mpr fits)

theorem retain_retained (ms : List Json) : Retained ms (retain ms).1 (retain ms).2 := by
  have split := retain_perm ms
  by_cases full : maxLocalMessages < ms.length
  · rw [retain_full full] at split ⊢
    have sorted := sortById_sorted ms
    have length := sortById_length ms
    refine ⟨split, sortById_sorted _, ?_, ?_, ?_⟩
    · rw [sortById_length, kept_length (by omega)]
      omega
    · intro k hk d hd same
      exact kept_highest sorted ((sortById_perm _).mem_iff.mp hk) hd same
    · have reserved := regularSlots_reserved (live (sortById ms)).length (restored (sortById ms)).length
      have slots := regularSlots_le (live (sortById ms)).length (restored (sortById ms)).length
      have same := (live_perm (sortById_perm ms)).length_eq
      rw [(live_perm (sortById_perm _)).length_eq, live_kept, lastOf_length]
      unfold liveSlots
      omega
  · have fits : ms.length ≤ maxLocalMessages := Nat.not_lt.mp full
    rw [retain_fits fits] at split ⊢
    refine ⟨split, sortById_sorted _, ?_, ?_, ?_⟩
    · rw [sortById_length]
      omega
    · intro k _ d hd
      cases hd
    · rw [(live_perm (sortById_perm ms)).length_eq]
      omega

theorem retain_again (ms : List Json) : retain (retain ms).1 = ((retain ms).1, []) := by
  have once := retain_retained ms
  rw [retain_fits (by have size := once.size; omega), sortById_of_sorted once.sorted]

/-- The newest of the live messages stays. -/
theorem Retained.newest {kept dropped rest : List Json} (h : Retained ms kept dropped) (among : ms.Perm (m :: rest))
    (is_live : isRecovered m = false) (newer : ∀ d ∈ rest, isRecovered d = false → numericId d < numericId m) :
    m ∈ kept ∧ m ∉ dropped := by
  have parts : (kept ++ dropped).Perm (m :: rest) := h.split.trans among
  have member : m ∈ kept ++ dropped := parts.mem_iff.mpr List.mem_cons_self
  have single : ∀ d ∈ rest, d ≠ m := by
    intro d hd same
    subst same
    have lt := newer d hd is_live
    omega
  have some_live : 0 < (live kept).length := by
    have one : 0 < (live ms).length :=
      List.length_pos_of_mem (mem_live.mpr ⟨among.mem_iff.mpr List.mem_cons_self, is_live⟩)
    have reserved := h.reserved
    omega
  have not_dropped : m ∉ dropped := by
    intro hd
    obtain ⟨k, hk⟩ := List.exists_mem_of_length_pos some_live
    obtain ⟨in_kept, k_live⟩ := mem_live.mp hk
    have le := h.highest k in_kept m hd (is_live.trans k_live.symm)
    cases List.mem_cons.mp (parts.mem_iff.mp (List.mem_append_left dropped in_kept)) with
    | inl same =>
      subst same
      -- the message would be there twice
      have twice : 2 ≤ List.countP (fun x => numericId x == numericId k && !isRecovered x) (kept ++ dropped) := by
        rw [List.countP_append]
        have first : 0 < List.countP (fun x => numericId x == numericId k && !isRecovered x) kept :=
          List.countP_pos_iff.mpr ⟨k, in_kept, by simp [is_live]⟩
        have second : 0 < List.countP (fun x => numericId x == numericId k && !isRecovered x) dropped :=
          List.countP_pos_iff.mpr ⟨k, hd, by simp [is_live]⟩
        omega
      rw [parts.countP_eq, List.countP_cons] at twice
      have none : List.countP (fun x => numericId x == numericId k && !isRecovered x) rest = 0 := by
        apply List.countP_eq_zero.mpr
        intro x hx same
        simp only [Bool.and_eq_true, beq_iff_eq, Bool.not_eq_true'] at same
        have lt := newer x hx same.2
        omega
      rw [none] at twice
      split_ifs at twice <;> omega
    | inr older =>
      have lt := newer k older k_live
      omega
  exact ⟨(List.mem_append.mp member).resolve_right not_dropped, not_dropped⟩

end EspWebChat.StoreRetention
