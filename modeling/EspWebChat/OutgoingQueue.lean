import Mathlib.Data.List.Basic
import Mathlib.Data.Nat.Notation

set_option autoImplicit false

/-!
# A bounded queue before a line that comes and goes

Items are handed over at once while the line is up and nothing waits; else they wait, at most
`limit` of them, the oldest being given up. The ledger tells what became of each item.
-/
namespace EspWebChat.OutgoingQueue

/-- `handled` holds the items that are gone, and whether they were handed over. -/
structure Ledger (α : Type) where
  handled : List (α × Bool)
  waiting : List α

variable {α : Type} {limit : ℕ} {l l' : Ledger α} {composed : List α}

def Ledger.sent (l : Ledger α) : List α := (l.handled.filter Prod.snd).map Prod.fst

/-- All items the ledger has ever held, oldest first. -/
def Ledger.items (l : Ledger α) : List α := l.handled.map Prod.fst ++ l.waiting

def Ledger.dispatch (k : ℕ) (l : Ledger α) : Ledger α :=
  ⟨l.handled ++ (l.waiting.take k).map (fun m => (m, true)), l.waiting.drop k⟩

def Ledger.giveUp (k : ℕ) (l : Ledger α) : Ledger α :=
  ⟨l.handled ++ (l.waiting.take k).map (fun m => (m, false)), l.waiting.drop k⟩

def Ledger.trim (limit : ℕ) (l : Ledger α) : Ledger α := l.giveUp (l.waiting.length - limit)

def Ledger.append (m : α) (l : Ledger α) : Ledger α := ⟨l.handled, l.waiting ++ [m]⟩

inductive Step (limit : ℕ) (l : Ledger α) : List α → Ledger α → Prop where
  | idle : Step limit l [] l
  | direct (m : α) (nothing : l.waiting = []) : Step limit l [m] ((l.append m).dispatch 1)
  | enqueue (m : α) : Step limit l [m] ((l.append m).trim limit)
  | flush (k : ℕ) : Step limit l [] ((l.dispatch k).trim limit)

inductive Run (limit : ℕ) (first : Ledger α) : List α → Ledger α → Prop where
  | start : Run limit first [] first
  | step {composed ms : List α} {l l' : Ledger α} (before : Run limit first composed l) (next : Step limit l ms l') :
      Run limit first (composed ++ ms) l'

theorem dispatch_items (k : ℕ) (l : Ledger α) : (l.dispatch k).items = l.items := by
  simp [Ledger.items, Ledger.dispatch, List.append_assoc, Function.comp_def]

theorem giveUp_items (k : ℕ) (l : Ledger α) : (l.giveUp k).items = l.items := by
  simp [Ledger.items, Ledger.giveUp, List.append_assoc, Function.comp_def]

theorem append_items (m : α) (l : Ledger α) : (l.append m).items = l.items ++ [m] := by
  simp [Ledger.items, Ledger.append]

theorem step_items {ms : List α} (h : Step limit l ms l') : l'.items = l.items ++ ms := by
  cases h with
  | idle => exact (List.append_nil _).symm
  | direct m nothing => rw [dispatch_items, append_items]
  | enqueue m => rw [Ledger.trim, giveUp_items, append_items]
  | flush k => rw [Ledger.trim, giveUp_items, dispatch_items, List.append_nil]

theorem run_items {first : Ledger α} (h : Run limit first composed l) : l.items = first.items ++ composed := by
  induction h with
  | start => exact (List.append_nil _).symm
  | step before next ih => rw [step_items next, ih, List.append_assoc]

/-- Behind every item given up there were `limit` newer ones. -/
def Overtaken (limit : ℕ) (l : Ledger α) : Prop :=
  ∀ older m newer, l.handled = older ++ (m, false) :: newer → limit ≤ newer.length + l.waiting.length

theorem split_append {xs ys older newer : List (α × Bool)} {m : α} (h : xs ++ ys = older ++ (m, false) :: newer) :
    (∃ rest, xs = older ++ (m, false) :: rest ∧ newer = rest ++ ys) ∨
      ∃ front, ys = front ++ (m, false) :: newer := by
  rcases List.append_eq_append_iff.mp h with ⟨front, hx, hy⟩ | ⟨rest, hx, hy⟩
  · exact .inr ⟨front, hy⟩
  · cases rest with
    | nil => exact .inr ⟨[], hy.symm⟩
    | cons first rest =>
      obtain ⟨rfl, rfl⟩ := List.cons.inj hy
      exact .inl ⟨rest, hx, rfl⟩

theorem dispatch_overtaken (k : ℕ) (h : Overtaken limit l) : Overtaken limit (l.dispatch k) := by
  intro older m newer split
  cases split_append split with
  | inl before =>
    obtain ⟨rest, hl, rfl⟩ := before
    have waited := h older m rest hl
    simp only [Ledger.dispatch, List.length_append, List.length_map, List.length_take, List.length_drop]
    omega
  | inr among =>
    obtain ⟨front, taken⟩ := among
    have gone : (m, false) ∈ (l.waiting.take k).map (fun m => (m, true)) := by
      rw [taken]
      simp
    obtain ⟨x, _, pair⟩ := List.mem_map.mp gone
    cases pair

theorem append_overtaken (m : α) (h : Overtaken limit l) : Overtaken limit (l.append m) := by
  intro older x newer split
  have waited := h older x newer split
  simp only [Ledger.append, List.length_append, List.length_singleton]
  omega

theorem trim_overtaken (h : Overtaken limit l) : Overtaken limit (l.trim limit) := by
  intro older m newer split
  cases split_append split with
  | inl before =>
    obtain ⟨rest, hl, rfl⟩ := before
    have waited := h older m rest hl
    simp only [Ledger.trim, Ledger.giveUp, List.length_append, List.length_map, List.length_take, List.length_drop]
    omega
  | inr among =>
    obtain ⟨front, taken⟩ := among
    have excess := congrArg List.length taken
    simp only [List.length_map, List.length_take, List.length_append, List.length_cons] at excess
    simp only [Ledger.trim, Ledger.giveUp, List.length_drop]
    omega

theorem step_overtaken {ms : List α} (next : Step limit l ms l') (h : Overtaken limit l) : Overtaken limit l' := by
  cases next with
  | idle => exact h
  | direct m nothing => exact dispatch_overtaken 1 (append_overtaken m h)
  | enqueue m => exact trim_overtaken (append_overtaken m h)
  | flush k => exact trim_overtaken (dispatch_overtaken k h)

theorem run_overtaken {first : Ledger α} (run : Run limit first composed l) (h : Overtaken limit first) :
    Overtaken limit l := by
  induction run with
  | start => exact h
  | step before next ih => exact step_overtaken next ih

theorem dispatch_sent (k : ℕ) (l : Ledger α) : (l.dispatch k).sent = l.sent ++ l.waiting.take k := by
  have all : ∀ ms : List α, ((ms.map (fun m => (m, true))).filter Prod.snd).map Prod.fst = ms := by
    intro ms
    induction ms with
    | nil => rfl
    | cons m ms ih => simp [ih]
  simp only [Ledger.sent, Ledger.dispatch, List.filter_append, List.map_append, all]

theorem trim_sent (l : Ledger α) : (l.trim limit).sent = l.sent := by
  have none : ∀ ms : List α, ((ms.map (fun m => (m, false))).filter Prod.snd) = [] := by
    intro ms
    induction ms with
    | nil => rfl
    | cons m ms ih => simp [ih]
  simp only [Ledger.sent, Ledger.trim, Ledger.giveUp, List.filter_append, none, List.append_nil]

theorem trim_waiting (l : Ledger α) : (l.trim limit).waiting = l.waiting.drop (l.waiting.length - limit) := rfl

end EspWebChat.OutgoingQueue
