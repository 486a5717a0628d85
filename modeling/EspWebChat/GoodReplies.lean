import EspWebChat.Interruptible

set_option autoImplicit false

/-!
# Computations that are given good replies

Partial correctness under an assumption on the replies. A rule for sequencing needs that the
first part leaves good replies to the second (`Spares`).
-/
namespace EspWebChat.Interruptible

variable {R W α β : Type} {good : R → Prop} {m : Comp R W α} {f : α → Comp R W β} {w : W}
  {Step : W → W → Prop} {P P' : α → W → Prop} {Q : β → W → Prop}

/-- After a computation that was given good replies, only good ones are left. -/
structure Spares (good : R → Prop) (m : Comp R W α) : Prop where
  rest : ∀ env w, (∀ k, good (env k)) → ∀ k, good ((m env w).rest k)

theorem Spares.pure (a : α) : Spares good (Pure.pure a : Comp R W α) := ⟨fun _ _ replies => replies⟩

theorem Spares.ask {alive : R → Bool} : Spares good (Interruptible.ask alive : Comp R W R) :=
  ⟨fun _ _ replies k => replies (k + 1)⟩

theorem Spares.reads {g : W → α} : Spares good (Interruptible.reads g : Comp R W α) := ⟨fun _ _ replies => replies⟩

theorem Spares.writes {g : W → W} : Spares good (Interruptible.writes g : Comp R W Unit) := ⟨fun _ _ replies => replies⟩

theorem Spares.bind (h : Spares good m) (k : ∀ a, Spares good (f a)) : Spares good (m >>= f) := by
  constructor
  intro env w replies
  have first := h.rest env w replies
  cases hm : m env w with
  | mk result u env' =>
    rw [hm] at first
    cases result with
    | none =>
      rw [bind_cut hm]
      exact first
    | some a =>
      rw [bind_run hm]
      exact (k a).rest env' u first

theorem Spares.ite {c : Prop} [Decidable c] {m' : Comp R W α} (pos : Spares good m) (neg : Spares good m') :
    Spares good (if c then m else m') := by
  split_ifs
  · exact pos
  · exact neg

/-- Given good replies, a value the computation returns satisfies `P`. -/
structure Given (good : R → Prop) (m : Comp R W α) (w : W) (P : α → W → Prop) : Prop where
  run : ∀ env, (∀ k, good (env k)) → ∀ a, (m env w).result = some a → P a (m env w).world

theorem Given.bind (h : Given good m w P) (spares : Spares good m) (k : ∀ a u, P a u → Given good (f a) u Q) :
    Given good (m >>= f) w Q := by
  constructor
  intro env replies b returned
  obtain ⟨a, u, env', first, whole⟩ := bind_returned returned
  have post := h.run env replies a (by rw [first])
  have left := spares.rest env w replies
  rw [first] at post left
  rw [whole] at returned ⊢
  exact (k a u post).run env' left b returned

theorem Given.pure {a : α} (h : P a w) : Given good (Pure.pure a : Comp R W α) w P := by
  constructor
  intro env _ b returned
  obtain rfl := Option.some.inj returned
  exact h

theorem Given.reads {g : W → α} (h : P (g w) w) : Given good (Interruptible.reads g) w P := by
  constructor
  intro env _ b returned
  obtain rfl := Option.some.inj returned
  exact h

theorem Given.ite {c : Prop} [Decidable c] {m' : Comp R W α} (pos : c → Given good m w P)
    (neg : ¬c → Given good m' w P) : Given good (if c then m else m') w P := by
  split_ifs with h
  · exact pos h
  · exact neg h

theorem Given.post (h : Given good m w P) (post : ∀ a u, P a u → P' a u) : Given good m w P' :=
  ⟨fun env replies a returned => post a _ (h.run env replies a returned)⟩

theorem Traces.given (h : Traces Step m w P) : Given good m w P := ⟨fun env _ => (h env).2⟩

theorem Ends.given {E : Option α → W → Prop} (h : Ends m w E) : Given good m w (fun a u => E (some a) u) := by
  constructor
  intro env _ a returned
  have final := h.run env
  rw [returned] at final
  exact final

theorem Returns.given (h : Returns good m w P) : Given good m w P := by
  constructor
  intro env replies a returned
  obtain ⟨b, u, env', run, -, post⟩ := h.run env replies
  rw [run] at returned ⊢
  obtain rfl := Option.some.inj returned
  exact post

end EspWebChat.Interruptible
