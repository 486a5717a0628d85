import EspWebChat.StartSteps

set_option autoImplicit false

/-!
# The runs of a tab

A tab is loaded any number of times; between two loads its page handles events in any order,
with any answers of the browser.
-/
namespace EspWebChat.TabRuns
open Relation JsonTree Interruptible BrowserWorld ClientStore ClientSocket
open StoreSteps LinkStates PageSteps StartSteps

/-- `permits` restricts which events a page may see; the first page finds any storage. -/
inductive Reached (location : Location) (permits : Event → Page → Prop) : Tab → Prop where
  | start (storage : LocalStorage) : Reached location permits ⟨⟨freshStore storage [], freshLink location⟩, false⟩
  | load (env : ℕ → Reply) (t : Tab) (before : Reached location permits t) :
      Reached location permits (load location env t)
  | step (e : Event) (env : ℕ → Reply) (t : Tab) (before : Reached location permits t)
      (permitted : permits e t.page) : Reached location permits (step e env t)

variable {location : Location} {permits : Event → Page → Prop} {p : Prop} {t : Tab}

theorem running_before {e : Event} {env : ℕ → Reply} (h : (step e env t).running = true) : t.running = true := by
  unfold step at h
  split_ifs at h with running
  · exact running
  · exact h

theorem step_good (e : Event) (env : ℕ → Reply) (timely : p → Timely e t.page)
    (good : t.running = true → Good p t.page) : (step e env t).running = true → Good p (step e env t).page := by
  unfold step
  split_ifs with h
  · intro running
    obtain ⟨a, ha⟩ := Option.isSome_iff_exists.mp running
    exact (handle_good e env).2 a ha timely (good h)
  · exact good

theorem reached_good (timely : ∀ e w, permits e w → p → Timely e w) (h : Reached location permits t) :
    t.running = true → Good p t.page := by
  induction h with
  | start storage =>
    intro running
    cases running
  | load env t _ _ =>
    intro running
    have loads := load_good (K := fun _ => True) (L := fun _ => True) (p := p) location env t
      (fun _ _ => trivial) (fun _ _ => trivial) (fun _ _ _ _ => trivial) (fun _ _ => trivial)
    exact (loads.2 running).2
  | step e env t _ permitted ih => exact step_good e env (timely e t.page permitted) ih

theorem step_sequence (e : Event) (env : ℕ → Reply) (t : Tab) :
    t.page.link.wsConnectionSequence ≤ (step e env t).page.link.wsConnectionSequence := by
  unfold step
  split_ifs
  · have run := handle_good (p := True) (w := t.page) e
    exact run.related (fun u v => u.link.wsConnectionSequence ≤ v.link.wsConnectionSequence) (Nat.le_refl _)
      (fun u v h step => Nat.le_trans h step.counts) env
  · exact Nat.le_refl _

end EspWebChat.TabRuns
