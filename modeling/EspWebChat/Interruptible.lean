import Mathlib.Data.Nat.Notation
import Mathlib.Logic.Relation
import Mathlib.Order.Defs.Unbundled
import Mathlib.Tactic.SplitIfs

set_option autoImplicit false

/-!
# Computations an environment can cut short

A computation transforms a world and reads the replies of its environment one by one.
A reply may end it: the result is then `none`, and what the world has become stands.
`Traces` is the specification used throughout: the world moves along permitted steps only,
at every point where the computation can end, and a returned value satisfies the postcondition.
-/
namespace EspWebChat.Interruptible
open Relation

structure Outcome (R W α : Type) where
  result : Option α
  world : W
  rest : ℕ → R

def Comp (R W α : Type) : Type := (ℕ → R) → W → Outcome R W α

variable {R W α β : Type}

instance : Monad (Comp R W) where
  pure a := fun env w => ⟨some a, w, env⟩
  bind m f := fun env w =>
    match m env w with
    | ⟨some a, w', env'⟩ => f a env' w'
    | ⟨none, w', env'⟩ => ⟨none, w', env'⟩

/-- One reply of the environment; a reply that is not `alive` ends the computation. -/
def ask (alive : R → Bool) : Comp R W R := fun env w =>
  ⟨if alive (env 0) then some (env 0) else none, w, fun k => env (k + 1)⟩

def reads (f : W → α) : Comp R W α := fun env w => ⟨some (f w), w, env⟩

def writes (f : W → W) : Comp R W Unit := fun env w => ⟨some (), f w, env⟩

/-- A computation on a part of the world. -/
def zoom {V : Type} (get : W → V) (put : V → W → W) (m : Comp R V α) : Comp R W α := fun env w =>
  match m env (get w) with
  | ⟨a, v, env'⟩ => ⟨a, put v w, env'⟩

variable {Step Step' : W → W → Prop} {m : Comp R W α} {f : α → Comp R W β} {w : W}
  {P P' : α → W → Prop} {Q : β → W → Prop}

/-- Every world `m` can leave behind is reached by `Step`s, and a value it returns satisfies `P`. -/
def Traces (Step : W → W → Prop) (m : Comp R W α) (w : W) (P : α → W → Prop) : Prop :=
  ∀ env, ReflTransGen Step w (m env w).world ∧
    ∀ a, (m env w).result = some a → P a (m env w).world

theorem Traces.pure {a : α} (h : P a w) : Traces Step (Pure.pure a : Comp R W α) w P := by
  intro env
  refine ⟨.refl, ?_⟩
  intro b hb
  have hab : a = b := Option.some.inj hb
  exact hab ▸ h

theorem Traces.ask {alive : R → Bool} {P : R → W → Prop}
    (h : ∀ r, alive r = true → P r w) : Traces Step (Interruptible.ask alive : Comp R W R) w P := by
  intro env
  refine ⟨.refl, ?_⟩
  intro r hr
  by_cases ha : alive (env 0) = true
  · have hr' : env 0 = r := by simpa [Interruptible.ask, ha] using hr
    exact hr' ▸ h (env 0) ha
  · simp [Interruptible.ask, ha] at hr

theorem Traces.reads {g : W → α} (h : P (g w) w) :
    Traces Step (Interruptible.reads g : Comp R W α) w P := by
  intro env
  refine ⟨.refl, ?_⟩
  intro a ha
  have hga : g w = a := Option.some.inj ha
  exact hga ▸ h

theorem Traces.writes {g : W → W} {P : Unit → W → Prop} (step : Step w (g w)) (h : P () (g w)) :
    Traces Step (Interruptible.writes g : Comp R W Unit) w P :=
  fun _ => ⟨.single step, fun _ _ => h⟩

theorem bind_run {a : α} {w' : W} {env env' : ℕ → R} (h : m env w = ⟨some a, w', env'⟩) :
    (m >>= f) env w = f a env' w' := by
  change (match m env w with
    | ⟨some a, w', env'⟩ => f a env' w'
    | ⟨none, w', env'⟩ => ⟨none, w', env'⟩) = _
  rw [h]

theorem bind_cut {w' : W} {env env' : ℕ → R} (h : m env w = ⟨none, w', env'⟩) : (m >>= f) env w = ⟨none, w', env'⟩ := by
  change (match m env w with
    | ⟨some a, w', env'⟩ => f a env' w'
    | ⟨none, w', env'⟩ => ⟨none, w', env'⟩) = _
  rw [h]

theorem bind_returned {b : β} {env : ℕ → R} (h : ((m >>= f) env w).result = some b) :
    ∃ a w' env', m env w = ⟨some a, w', env'⟩ ∧ (m >>= f) env w = f a env' w' := by
  cases hm : m env w with
  | mk result w' env' =>
    cases result with
    | none => simp [Bind.bind, hm] at h
    | some a => exact ⟨a, w', env', rfl, bind_run hm⟩

/-- The rule for sequencing. The continuation may use that its world was reached from `w`. -/
theorem Traces.bind (h : Traces Step m w P)
    (k : ∀ a w', ReflTransGen Step w w' → P a w' → Traces Step (f a) w' Q) :
    Traces Step (m >>= f) w Q := by
  intro env
  obtain ⟨path, post⟩ := h env
  change ReflTransGen Step w (Outcome.world (match m env w with
    | ⟨some a, w', env'⟩ => f a env' w'
    | ⟨none, w', env'⟩ => ⟨none, w', env'⟩)) ∧ _
  cases hm : m env w with
  | mk result world rest =>
    rw [hm] at path post
    cases result with
    | none =>
      refine ⟨by simpa using path, ?_⟩
      intro b hb
      simp [Bind.bind, hm] at hb
    | some a =>
      obtain ⟨tail, final⟩ := k a world path (post a rfl) rest
      refine ⟨path.trans tail, ?_⟩
      intro b hb
      simp only [Bind.bind, hm] at hb ⊢
      exact final b hb

theorem Traces.ite {c : Prop} [Decidable c] {m' : Comp R W α} (pos : c → Traces Step m w P)
    (neg : ¬c → Traces Step m' w P) : Traces Step (if c then m else m') w P := by
  split_ifs with h
  · exact pos h
  · exact neg h

theorem Traces.mono (h : Traces Step m w P) (steps : ∀ u v, Step u v → Step' u v)
    (post : ∀ a w', ReflTransGen Step w w' → P a w' → P' a w') : Traces Step' m w P' := by
  intro env
  obtain ⟨path, final⟩ := h env
  exact ⟨ReflTransGen.mono steps _ _ path, fun a ha => post a _ path (final a ha)⟩

theorem Traces.post (h : Traces Step m w P)
    (post : ∀ a w', ReflTransGen Step w w' → P a w' → P' a w') : Traces Step m w P' :=
  h.mono (fun _ _ s => s) post

theorem Traces.steps (h : Traces Step m w P) (steps : ∀ u v, Step u v → Step' u v) :
    Traces Step' m w P :=
  h.mono steps (fun _ _ _ p => p)

/-- What is known of the part is known of it in the world, and the rest has not changed. -/
theorem Traces.zoom {V : Type} {get : W → V} {put : V → W → W} {Part : V → V → Prop} {m : Comp R V α}
    {P : α → V → Prop} (get_put : ∀ v w, get (put v w) = v) (put_get : ∀ w, put (get w) w = w)
    (h : Traces Part m (get w) P) (lift : ∀ u v, Part u v → Step (put u w) (put v w)) :
    Traces Step (Interruptible.zoom get put m) w (fun a w' => P a (get w') ∧ ∃ v, w' = put v w) := by
  intro env
  obtain ⟨path, final⟩ := h env
  have hworld : (Interruptible.zoom get put m env w).world = put (m env (get w)).world w := rfl
  have hresult : (Interruptible.zoom get put m env w).result = (m env (get w)).result := rfl
  rw [hworld, hresult]
  refine ⟨?_, ?_⟩
  · have lifted : ∀ v, ReflTransGen Part (get w) v → ReflTransGen Step w (put v w) := by
      intro v hv
      induction hv with
      | refl => rw [put_get]
      | tail _ s ih => exact ih.tail (lift _ _ s)
    exact lifted _ path
  · intro a ha
    refine ⟨?_, _, rfl⟩
    rw [get_put]
    exact final a ha

/-- A fact that every step keeps may be used at every step. -/
theorem Traces.whilst (h : Traces Step m w P) (K : W → Prop) (start : K w)
    (keep : ∀ u v, K u → Step u v → K v) : Traces (fun u v => K u ∧ Step u v) m w P := by
  intro env
  obtain ⟨path, final⟩ := h env
  refine ⟨?_, final⟩
  have both : K (m env w).world ∧ ReflTransGen (fun u v => K u ∧ Step u v) w (m env w).world := by
    generalize (m env w).world = v at path
    induction path with
    | refl => exact ⟨start, .refl⟩
    | tail _ s ih => exact ⟨keep _ _ ih.1 s, ih.2.tail ⟨ih.1, s⟩⟩
  exact both.2

theorem Traces.andThen (h : Traces Step m w (fun _ _ => True))
    (k : ∀ a w', ReflTransGen Step w w' → Traces Step (f a) w' Q) : Traces Step (m >>= f) w Q :=
  h.bind (fun a w' path _ => k a w' path)

/-- A property that every step preserves survives the computation, however it ends. -/
theorem Traces.invariant (h : Traces Step m w P) (I : W → Prop)
    (keep : ∀ u v, I u → Step u v → I v) (hw : I w) (env : ℕ → R) : I (m env w).world := by
  have path := (h env).1
  generalize (m env w).world = v at path ⊢
  induction path with
  | refl => exact hw
  | tail _ s ih => exact keep _ _ ih s

theorem Traces.keeping (h : Traces Step m w P) (I : W → Prop) (start : I w)
    (keep : ∀ u v, I u → Step u v → I v) : Traces Step m w (fun _ u => I u) :=
  fun env => ⟨(h env).1, fun _ _ => h.invariant I keep start env⟩

theorem Traces.related (h : Traces Step m w P) (Rel : W → W → Prop) (self : Rel w w)
    (keep : ∀ u v, Rel w u → Step u v → Rel w v) (env : ℕ → R) : Rel w (m env w).world :=
  h.invariant (Rel w) keep self env

/-- `E` holds of the result and the world, also when the computation is cut short. -/
structure Ends (m : Comp R W α) (w : W) (E : Option α → W → Prop) : Prop where
  run : ∀ env, E (m env w).result (m env w).world

section ends
variable {E E' : Option α → W → Prop} {F : Option β → W → Prop}

theorem Ends.pure {a : α} (h : E (some a) w) : Ends (Pure.pure a : Comp R W α) w E := ⟨fun _ => h⟩

theorem Ends.ask {alive : R → Bool} {E : Option R → W → Prop} (dead : E none w)
    (h : ∀ r, alive r = true → E (some r) w) : Ends (Interruptible.ask alive : Comp R W R) w E := by
  constructor
  intro env
  by_cases ha : alive (env 0) = true
  · have run : Interruptible.ask alive env w = ⟨some (env 0), w, fun k => env (k + 1)⟩ := by
      simp [Interruptible.ask, ha]
    rw [run]
    exact h _ ha
  · have run : Interruptible.ask alive env w = ⟨none, w, fun k => env (k + 1)⟩ := by
      simp [Interruptible.ask, ha]
    rw [run]
    exact dead

theorem Ends.reads {g : W → α} (h : E (some (g w)) w) : Ends (Interruptible.reads g : Comp R W α) w E := ⟨fun _ => h⟩

theorem Ends.writes {g : W → W} {E : Option Unit → W → Prop} (h : E (some ()) (g w)) :
    Ends (Interruptible.writes g : Comp R W Unit) w E := ⟨fun _ => h⟩

theorem Ends.bind (h : Ends m w E) (cut : ∀ u, E none u → F none u)
    (k : ∀ a u, E (some a) u → Ends (f a) u F) : Ends (m >>= f) w F := by
  constructor
  intro env
  have first := h.run env
  have run : (m >>= f) env w = (match m env w with
    | ⟨some a, w', env'⟩ => f a env' w'
    | ⟨none, w', env'⟩ => ⟨none, w', env'⟩) := rfl
  rw [run]
  cases hm : m env w with
  | mk result world rest =>
    rw [hm] at first
    cases result with
    | none => exact cut world first
    | some a => exact (k a world first).run rest

/-- Continuations that agree on what the first part can return. -/
theorem Ends.agree {g : α → Comp R W β} (h : Ends m w E)
    (same : ∀ a u env, E (some a) u → f a env u = g a env u) (env : ℕ → R) : (m >>= f) env w = (m >>= g) env w := by
  have first := h.run env
  cases hm : m env w with
  | mk result u env' =>
    rw [hm] at first
    cases result with
    | none => simp only [Bind.bind, hm]
    | some a => rw [bind_run hm, bind_run hm, same a u env' first]

theorem Ends.ite {c : Prop} [Decidable c] {m' : Comp R W α} (pos : c → Ends m w E) (neg : ¬c → Ends m' w E) :
    Ends (if c then m else m') w E := by
  split_ifs with h
  · exact pos h
  · exact neg h

theorem Ends.post (h : Ends m w E) (post : ∀ a u, E a u → E' a u) : Ends m w E' :=
  ⟨fun env => post _ _ (h.run env)⟩

/-- What a specification says about returned values, and an invariant of its steps, hold at the end. -/
theorem Traces.ends (h : Traces Step m w P) (I : W → Prop) (start : I w) (keep : ∀ u v, I u → Step u v → I v) :
    Ends m w (fun r u => I u ∧ ∀ a, r = some a → P a u) :=
  ⟨fun env => ⟨h.invariant I keep start env, (h env).2⟩⟩

theorem ends_silent (h : Traces (fun _ _ => False) m w P) (cut : F none w) (next : ∀ a, P a w → Ends (f a) w F) :
    Ends (m >>= f) w F := by
  apply (h.ends (fun u => u = w) rfl (fun _ _ _ step => step.elim)).bind
  · intro u both
    rw [both.1]
    exact cut
  · intro a u both
    obtain ⟨rfl, post⟩ := both
    exact next a (post a rfl)

end ends

/-- In an environment that gives good replies only, the computation returns, and `P` holds. -/
structure Returns (good : R → Prop) (m : Comp R W α) (w : W) (P : α → W → Prop) : Prop where
  run : ∀ env, (∀ k, good (env k)) → ∃ a u env', m env w = ⟨some a, u, env'⟩ ∧ (∀ k, good (env' k)) ∧ P a u

section returns
variable {good : R → Prop}

theorem Returns.pure {a : α} (h : P a w) : Returns good (Pure.pure a : Comp R W α) w P :=
  ⟨fun env replies => ⟨a, w, env, rfl, replies, h⟩⟩

theorem Returns.ask {alive : R → Bool} {P : R → W → Prop} (lives : ∀ r, good r → alive r = true)
    (h : ∀ r, good r → P r w) : Returns good (Interruptible.ask alive : Comp R W R) w P := by
  constructor
  intro env replies
  refine ⟨env 0, w, fun k => env (k + 1), ?_, fun k => replies (k + 1), h _ (replies 0)⟩
  simp [Interruptible.ask, lives _ (replies 0)]

theorem Returns.reads {g : W → α} (h : P (g w) w) : Returns good (Interruptible.reads g : Comp R W α) w P :=
  ⟨fun env replies => ⟨g w, w, env, rfl, replies, h⟩⟩

theorem Returns.writes {g : W → W} {P : Unit → W → Prop} (h : P () (g w)) :
    Returns good (Interruptible.writes g : Comp R W Unit) w P :=
  ⟨fun env replies => ⟨(), g w, env, rfl, replies, h⟩⟩

theorem Returns.bind (h : Returns good m w P) (k : ∀ a u, P a u → Returns good (f a) u Q) :
    Returns good (m >>= f) w Q := by
  constructor
  intro env replies
  obtain ⟨a, u, env', first, later, post⟩ := h.run env replies
  rw [bind_run first]
  exact (k a u post).run env' later

theorem Returns.ite {c : Prop} [Decidable c] {m' : Comp R W α} (pos : c → Returns good m w P)
    (neg : ¬c → Returns good m' w P) : Returns good (if c then m else m') w P := by
  split_ifs with h
  · exact pos h
  · exact neg h

theorem Returns.post (h : Returns good m w P) (post : ∀ a u, P a u → P' a u) : Returns good m w P' := by
  constructor
  intro env replies
  obtain ⟨a, u, env', first, later, holds⟩ := h.run env replies
  exact ⟨a, u, env', first, later, post a u holds⟩

theorem Returns.both (h : Returns good m w P) (h' : Returns good m w P') :
    Returns good m w (fun a u => P a u ∧ P' a u) := by
  constructor
  intro env replies
  obtain ⟨a, u, env', first, later, holds⟩ := h.run env replies
  obtain ⟨b, v, env'', second, -, also⟩ := h'.run env replies
  rw [first] at second
  cases second
  exact ⟨a, u, env', first, later, holds, also⟩

end returns

/-- A computation that returns has read `n` replies. -/
structure Asks (n : ℕ) (m : Comp R W α) : Prop where
  rest : ∀ {env w a u env'}, m env w = ⟨some a, u, env'⟩ → env' = fun k => env (k + n)

theorem Asks.pure (a : α) : Asks 0 (Pure.pure a : Comp R W α) := by
  constructor
  intro env w b u env' run
  cases run
  rfl

theorem Asks.reads {g : W → α} : Asks 0 (Interruptible.reads g : Comp R W α) := by
  constructor
  intro env w b u env' run
  cases run
  rfl

theorem Asks.writes {g : W → W} : Asks 0 (Interruptible.writes g : Comp R W Unit) := by
  constructor
  intro env w b u env' run
  cases run
  rfl

theorem Asks.ask {alive : R → Bool} : Asks 1 (Interruptible.ask alive : Comp R W R) := by
  constructor
  intro env w r u env' run
  unfold Interruptible.ask at run
  simp only [Outcome.mk.injEq] at run
  exact run.2.2.symm

theorem Asks.bind {i j : ℕ} (h : Asks i m) (k : ∀ a, Asks j (f a)) : Asks (i + j) (m >>= f) := by
  constructor
  intro env w b u env' run
  obtain ⟨a, v, env₁, first, rest⟩ := bind_returned (by rw [run])
  rw [rest] at run
  rw [(k a).rest run, h.rest first]
  funext n
  have same : n + (i + j) = n + j + i := by omega
  rw [same]

theorem Asks.ite {n : ℕ} {c : Prop} [Decidable c] {m' : Comp R W α} (pos : Asks n m) (neg : Asks n m') :
    Asks n (if c then m else m') := by
  split_ifs
  · exact pos
  · exact neg

theorem Asks.zoom {V : Type} {n : ℕ} {get : W → V} {put : V → W → W} {m : Comp R V α} (h : Asks n m) :
    Asks n (Interruptible.zoom get put m) := by
  constructor
  intro env w a u env' run
  have result := congrArg Outcome.result run
  have rest := congrArg Outcome.rest run
  cases hm : m env (get w) with
  | mk b v env₁ =>
    simp only [Interruptible.zoom, hm] at result rest
    subst result rest
    exact h.rest hm

/-- Whatever the environment answers, `m` ends in a world that `Rel` relates to its first one. -/
structure Within (Rel : W → W → Prop) (m : Comp R W α) : Prop where
  run : ∀ w env, Rel w (m env w).world

section within
variable {Rel : W → W → Prop}

theorem Within.writes {g : W → W} (h : ∀ w, Rel w (g w)) : Within Rel (Interruptible.writes g : Comp R W Unit) :=
  ⟨fun w _ => h w⟩

theorem Within.ite {c : Prop} [Decidable c] {m' : Comp R W α} (pos : Within Rel m) (neg : Within Rel m') :
    Within Rel (if c then m else m') := by
  split_ifs
  · exact pos
  · exact neg

theorem Within.zoom {V : Type} {get : W → V} {put : V → W → W} {Part : V → V → Prop} {m : Comp R V α}
    (h : Within Part m) (lift : ∀ w v, Part (get w) v → Rel w (put v w)) :
    Within Rel (Interruptible.zoom get put m) :=
  ⟨fun w env => lift w _ (h.run (get w) env)⟩

theorem Within.traces (h : Within Rel m) (w : W) : Traces (fun _ _ => True) m w (fun _ u => Rel w u) :=
  fun env => ⟨.single trivial, fun _ _ => h.run w env⟩

theorem Within.step (h : Within Rel m) (w : W) : Traces Rel m w (fun _ _ => True) :=
  fun env => ⟨.single (h.run w env), fun _ _ => trivial⟩

variable [Std.Refl Rel]

theorem Within.pure (a : α) : Within Rel (Pure.pure a : Comp R W α) := ⟨fun w _ => Std.Refl.refl w⟩

theorem Within.ask {alive : R → Bool} : Within Rel (Interruptible.ask alive : Comp R W R) :=
  ⟨fun w _ => Std.Refl.refl w⟩

theorem Within.reads {g : W → α} : Within Rel (Interruptible.reads g : Comp R W α) :=
  ⟨fun w _ => Std.Refl.refl w⟩

omit [Std.Refl Rel]
variable [IsTrans W Rel]

theorem Within.bind (h : Within Rel m) (k : ∀ a, Within Rel (f a)) : Within Rel (m >>= f) := by
  constructor
  intro w env
  have first := h.run w env
  have run : (m >>= f) env w = (match m env w with
    | ⟨some a, w', env'⟩ => f a env' w'
    | ⟨none, w', env'⟩ => ⟨none, w', env'⟩) := rfl
  rw [run]
  cases hm : m env w with
  | mk result world rest =>
    rw [hm] at first
    cases result with
    | none => exact first
    | some a => exact IsTrans.trans _ _ _ first ((k a).run world rest)

end within

end EspWebChat.Interruptible
