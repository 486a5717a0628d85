import Mathlib.Data.Nat.Notation
import Mathlib.Logic.Function.Basic
import Mathlib.Tactic.SplitIfs

set_option autoImplicit false

/-!
# Work that is asked for at most once

Callers ask one worker for a piece of work. A flag says that it is asked for: a caller that
finds it clear sets it and submits the work, one that finds it set has nothing to do. The
worker clears the flag before it starts, so whatever is asked for from then on is submitted
again. A caller whose submission is refused clears the flag as well.

The flag, the callers and the queue together are no more than one token that somebody has.
-/
namespace EspWebChat.CoalescedWork

variable {C : Type} [DecidableEq C]

/-- Where a caller is: outside, about to submit, or refused and about to clear the flag. -/
inductive Phase where
  | idle
  | submitting
  | refused
  deriving DecidableEq, Repr

structure Desk (C : Type) where
  pending : Bool
  phase : C → Phase
  waiting : ℕ

inductive Act (C : Type) where
  | request (c : C)
  | submit (c : C) (accepted : Bool)
  | withdraw (c : C)
  | serve

def Desk.act (s : Desk C) : Act C → Desk C
  | .request c =>
    if s.phase c = .idle ∧ s.pending = false then
      { s with pending := true, phase := Function.update s.phase c .submitting }
    else s
  | .submit c accepted =>
    if s.phase c = .submitting then
      if accepted then { s with phase := Function.update s.phase c .idle, waiting := s.waiting + 1 }
      else { s with phase := Function.update s.phase c .refused }
    else s
  | .withdraw c =>
    if s.phase c = .refused then { s with pending := false, phase := Function.update s.phase c .idle } else s
  | .serve => if 0 < s.waiting then { s with pending := false, waiting := s.waiting - 1 } else s

inductive Token (C : Type) where
  | free
  | submitting (c : C)
  | refused (c : C)
  | waiting
  deriving DecidableEq

def Token.act (t : Token C) : Act C → Token C
  | .request c => if t = .free then .submitting c else t
  | .submit c accepted => if t = .submitting c then (if accepted then .waiting else .refused c) else t
  | .withdraw c => if t = .refused c then .free else t
  | .serve => if t = .waiting then .free else t

/-- What the token looks like at the desk. -/
def Token.desk : Token C → Desk C
  | .free => ⟨false, fun _ => .idle, 0⟩
  | .submitting c => ⟨true, Function.update (fun _ => .idle) c .submitting, 0⟩
  | .refused c => ⟨true, Function.update (fun _ => .idle) c .refused, 0⟩
  | .waiting => ⟨true, fun _ => .idle, 1⟩

theorem pending_iff {t : Token C} : t.desk.pending = true ↔ t ≠ .free := by cases t <;> simp [Token.desk]

theorem phase_submitting {t : Token C} {c : C} : t.desk.phase c = .submitting ↔ t = .submitting c := by
  cases t with
  | submitting d =>
    by_cases same : d = c
    · simp [Token.desk, same]
    · simp [Token.desk, same, Ne.symm same]
  | refused d =>
    by_cases same : d = c
    · simp [Token.desk, same]
    · simp [Token.desk, Ne.symm same]
  | _ => simp [Token.desk]

theorem phase_refused {t : Token C} {c : C} : t.desk.phase c = .refused ↔ t = .refused c := by
  cases t with
  | submitting d =>
    by_cases same : d = c
    · simp [Token.desk, same]
    · simp [Token.desk, Ne.symm same]
  | refused d =>
    by_cases same : d = c
    · simp [Token.desk, same]
    · simp [Token.desk, same, Ne.symm same]
  | _ => simp [Token.desk]

theorem desk_act (t : Token C) (a : Act C) : t.desk.act a = (t.act a).desk := by
  cases a with
  | request c => cases t <;> simp [Desk.act, Token.act, Token.desk]
  | submit c accepted =>
    simp only [Desk.act, Token.act, phase_submitting]
    split_ifs with mine ok
    · subst mine
      simp [Token.desk]
    · subst mine
      simp [Token.desk]
    · rfl
  | withdraw c =>
    simp only [Desk.act, Token.act, phase_refused]
    split_ifs with mine
    · subst mine
      simp [Token.desk]
    · rfl
  | serve => cases t <;> simp [Desk.act, Token.act, Token.desk]

/-- Who sees the flag set, and how much is asked for. -/
structure Sole (s : Desk C) : Prop where
  pending : s.pending = true ↔ (∃ c, s.phase c ≠ .idle) ∨ 0 < s.waiting
  waiting : s.waiting ≤ 1
  busy : ∀ c, s.phase c ≠ .idle → s.waiting = 0 ∧ ∀ d, s.phase d ≠ .idle → d = c

theorem phase_idle {t : Token C} {c : C} (busy : t.desk.phase c ≠ .idle) : t = .submitting c ∨ t = .refused c := by
  cases phase : t.desk.phase c with
  | idle => exact absurd phase busy
  | submitting => exact .inl (phase_submitting.mp phase)
  | refused => exact .inr (phase_refused.mp phase)

theorem desk_sole (t : Token C) : Sole t.desk := by
  constructor
  · cases t with
    | submitting c => simpa [Token.desk] using ⟨c, by simp⟩
    | refused c => simpa [Token.desk] using ⟨c, by simp⟩
    | _ => simp [Token.desk]
  · cases t <;> simp [Token.desk]
  · intro c busy
    rcases phase_idle busy with rfl | rfl
    · refine ⟨rfl, fun d other => ?_⟩
      rcases phase_idle other with same | same
      · exact (Token.submitting.inj same).symm
      · cases same
    · refine ⟨rfl, fun d other => ?_⟩
      rcases phase_idle other with same | same
      · cases same
      · exact (Token.refused.inj same).symm

def Token.run (t : Token C) (acts : List (Act C)) : Token C := acts.foldl Token.act t

theorem desk_run (t : Token C) (acts : List (Act C)) : acts.foldl Desk.act t.desk = (t.run acts).desk := by
  induction acts generalizing t with
  | nil => rfl
  | cons a acts ih =>
    rw [List.foldl_cons, desk_act]
    exact ih (t.act a)

def tally (kind : Token C → Act C → Bool) : Token C → List (Act C) → ℕ
  | _, [] => 0
  | t, a :: acts => (if kind t a then 1 else 0) + tally kind (t.act a) acts

theorem tally_append (kind : Token C → Act C → Bool) (t : Token C) (acts more : List (Act C)) :
    tally kind t (acts ++ more) = tally kind t acts + tally kind (t.run acts) more := by
  induction acts generalizing t with
  | nil => exact (Nat.zero_add _).symm
  | cons a acts ih =>
    have rest := ih (t.act a)
    simp only [List.cons_append, tally, rest, Nat.add_assoc]
    rfl

def granted (t : Token C) : Act C → Bool
  | .request _ => decide (t = .free)
  | _ => false

def served (t : Token C) : Act C → Bool
  | .serve => decide (t = .waiting)
  | _ => false

def withdrawn (t : Token C) : Act C → Bool
  | .withdraw c => decide (t = .refused c)
  | _ => false

def refuses : Act C → Bool
  | .submit _ accepted => !accepted
  | _ => false

def held (t : Token C) : ℕ := if t = .free then 0 else 1

theorem held_act (t : Token C) (a : Act C) :
    held t + (if granted t a then 1 else 0) =
      held (t.act a) + (if served t a then 1 else 0) + (if withdrawn t a then 1 else 0) := by
  cases a <;> cases t <;> simp only [Token.act, granted, served, withdrawn, held]
  all_goals split_ifs <;> simp_all

/-- Every grant is served or withdrawn, or still on its way. -/
theorem account (t : Token C) (acts : List (Act C)) :
    held t + tally granted t acts = held (t.run acts) + tally served t acts + tally withdrawn t acts := by
  induction acts generalizing t with
  | nil => rfl
  | cons a acts ih =>
    have first := held_act t a
    have rest := ih (t.act a)
    simp only [tally]
    change _ = held ((t.act a).run acts) + _ + _
    omega

theorem held_request (t : Token C) (c : C) : held (t.act (.request c)) = 1 := by
  unfold held
  apply if_neg
  simp only [Token.act]
  split_ifs with free
  · simp
  · exact free

theorem withdrawn_none (t : Token C) (acts : List (Act C)) (start : ∀ c, t ≠ .refused c)
    (accepted : ∀ a ∈ acts, refuses a = false) : tally withdrawn t acts = 0 := by
  induction acts generalizing t with
  | nil => rfl
  | cons a acts ih =>
    have here := accepted a List.mem_cons_self
    have kept : ∀ c, t.act a ≠ .refused c := by
      intro c
      cases a with
      | submit d ok =>
        obtain rfl : ok = true := by simpa [refuses] using here
        simp only [Token.act]
        split_ifs
        · simp
        · exact start c
      | _ =>
        simp only [Token.act]
        split_ifs
        · simp
        · exact start c
    have none : withdrawn t a = false := by
      cases a with
      | withdraw c => exact decide_eq_false (start c)
      | _ => rfl
    simp only [tally, none, Bool.false_eq_true, if_false, Nat.zero_add]
    exact ih _ kept (fun b hb => accepted b (List.mem_cons_of_mem a hb))

/-- A request is served before the flag is clear again, unless a submission is refused. -/
theorem request_served (t : Token C) (c : C) (acts : List (Act C)) (start : ∀ d, t ≠ .refused d)
    (accepted : ∀ a ∈ acts, refuses a = false) (clear : (t.act (.request c)).run acts = .free) :
    0 < tally served (t.act (.request c)) acts := by
  have kept : ∀ d, t.act (.request c) ≠ .refused d := by
    intro d
    simp only [Token.act]
    split_ifs
    · simp
    · exact start d
  have books := account (t.act (.request c)) acts
  rw [held_request, withdrawn_none _ acts kept accepted, clear] at books
  have released : held (Token.free : Token C) = 0 := rfl
  omega

end EspWebChat.CoalescedWork
