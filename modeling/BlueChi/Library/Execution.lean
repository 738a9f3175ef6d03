import Mathlib.Logic.Basic
import Mathlib.Data.Nat.Notation
import Mathlib.Tactic.TypeStar

/-!
# Executions of labelled transition systems

A `System` is a set of initial states and a partial step function on labelled events. An
event that is not enabled in a state has no successor there.

`ReachableUnder guard` are the states of the runs all of whose steps meet `guard`, a condition
on the state before the step and on the event. `Reachable` is the special case without a
condition. Safety is proved with `ReachableUnder.invariant`: a property of the initial states
which every guarded step preserves holds in every state reached.
-/

namespace Execution

/-- A labelled transition system with partial steps. -/
structure System (σ ε : Type*) where
  /-- The states a run starts from. -/
  init : σ → Prop
  /-- The successor of a state, when the event is enabled there. -/
  step : σ → ε → Option σ

variable {σ ε : Type*} {S : System σ ε} {guard : σ → ε → Prop}

/-- The states of the runs whose steps all meet `guard`. -/
inductive ReachableUnder (S : System σ ε) (guard : σ → ε → Prop) : σ → Prop
  | init {s : σ} : S.init s → ReachableUnder S guard s
  | step {s : σ} {e : ε} {s' : σ} :
      ReachableUnder S guard s → guard s e → S.step s e = some s' → ReachableUnder S guard s'

/-- The states of all runs. -/
def Reachable (S : System σ ε) : σ → Prop := ReachableUnder S fun _ _ => True

/-- The invariant rule: what holds initially and is kept by every guarded step holds in every
state of a guarded run. -/
theorem ReachableUnder.invariant {Inv : σ → Prop} (hinit : ∀ s, S.init s → Inv s)
    (hstep : ∀ s e s', Inv s → guard s e → S.step s e = some s' → Inv s')
    {s : σ} (h : ReachableUnder S guard s) : Inv s := by
  induction h with
  | init h0 => exact hinit _ h0
  | step _ hg he ih => exact hstep _ _ _ ih hg he

/-- The invariant rule for unconditional runs. -/
theorem Reachable.invariant {Inv : σ → Prop} (hinit : ∀ s, S.init s → Inv s)
    (hstep : ∀ s e s', Inv s → S.step s e = some s' → Inv s')
    {s : σ} (h : Reachable S s) : Inv s :=
  ReachableUnder.invariant hinit (fun s e s' hi _ he => hstep s e s' hi he) h

/-- A stronger condition on the steps reaches fewer states. -/
theorem ReachableUnder.mono {guard' : σ → ε → Prop} (hg : ∀ s e, guard s e → guard' s e)
    {s : σ} (h : ReachableUnder S guard s) : ReachableUnder S guard' s := by
  induction h with
  | init h0 => exact .init h0
  | step _ h1 he ih => exact .step ih (hg _ _ h1) he

theorem ReachableUnder.reachable {s : σ} (h : ReachableUnder S guard s) : Reachable S s :=
  h.mono fun _ _ _ => trivial

/-- The runs from `s₀` whose steps all meet `guard`, with the events that happen in them. -/
inductive Trace (S : System σ ε) (guard : σ → ε → Prop) (s₀ : σ) : List ε → σ → Prop
  | nil : Trace S guard s₀ [] s₀
  | snoc {es : List ε} {s : σ} {e : ε} {s' : σ} :
      Trace S guard s₀ es s → guard s e → S.step s e = some s' → Trace S guard s₀ (es ++ [e]) s'

theorem ReachableUnder.trace {s t : σ} {es : List ε} (h : ReachableUnder S guard s)
    (htrace : Trace S guard s es t) : ReachableUnder S guard t := by
  induction htrace with
  | nil => exact h
  | snoc _ hg he ih => exact .step ih hg he

theorem Trace.reachable {s₀ s : σ} {es : List ε} (hinit : S.init s₀) (h : Trace S guard s₀ es s) :
    ReachableUnder S guard s := (ReachableUnder.init hinit).trace h

/-- Run a list of events; `none` when one of them is not enabled. -/
def run (S : System σ ε) : σ → List ε → Option σ
  | s, [] => some s
  | s, e :: es => (S.step s e).bind fun s' => run S s' es

/-- All steps of the run of `es` from `s` meet `guard`. -/
def GuardedRun (S : System σ ε) (guard : σ → ε → Prop) : σ → List ε → Prop
  | _, [] => True
  | s, e :: es => guard s e ∧ ∀ s', S.step s e = some s' → GuardedRun S guard s' es

@[simp] theorem run_nil (s : σ) : run S s [] = some s := rfl

@[simp] theorem run_cons (s : σ) (e : ε) (es : List ε) :
    run S s (e :: es) = (S.step s e).bind fun s' => run S s' es := rfl

theorem run_append (s : σ) (es fs : List ε) :
    run S s (es ++ fs) = (run S s es).bind fun s' => run S s' fs := by
  induction es generalizing s with
  | nil => simp
  | cons e es ih =>
    rw [List.cons_append, run_cons, run_cons, Option.bind_assoc]
    simp only [ih]

/-- A guarded run from a reached state ends in a reached state. -/
theorem ReachableUnder.run {s s' : σ} {es : List ε} (h : ReachableUnder S guard s)
    (hg : GuardedRun S guard s es) (hr : Execution.run S s es = some s') :
    ReachableUnder S guard s' := by
  induction es generalizing s with
  | nil =>
    rw [run_nil, Option.some.injEq] at hr
    exact hr ▸ h
  | cons e es ih =>
    rw [run_cons, Option.bind_eq_some_iff] at hr
    obtain ⟨t, ht, hr⟩ := hr
    exact ih (.step h hg.1 ht) (hg.2 t ht) hr

/-- A guarded run goes on. -/
theorem Trace.run {s₀ s s' : σ} {es fs : List ε} (h : Trace S guard s₀ es s)
    (hg : GuardedRun S guard s fs) (hr : Execution.run S s fs = some s') :
    Trace S guard s₀ (es ++ fs) s' := by
  induction fs generalizing s es with
  | nil =>
    rw [run_nil, Option.some.injEq] at hr
    rw [List.append_nil, ← hr]
    exact h
  | cons e fs ih =>
    rw [run_cons, Option.bind_eq_some_iff] at hr
    have ⟨t, ht, hr⟩ := hr
    rw [List.append_cons]
    exact ih (.snoc h hg.1 ht) (hg.2 t ht) hr

/-- Conditions that agree in every state and on every event hold along the same runs. -/
theorem GuardedRun.congr {guard' : σ → ε → Prop} (h : ∀ s e, guard s e ↔ guard' s e) (s : σ)
    (es : List ε) : GuardedRun S guard s es ↔ GuardedRun S guard' s es := by
  induction es generalizing s with
  | nil => exact Iff.rfl
  | cons e es ih =>
    simp only [GuardedRun]
    exact and_congr (h s e) (forall_congr' fun s' => imp_congr_right fun _ => ih s')

/-- Conditions that agree on the steps from the states of an invariant, which the second one
keeps, hold along the same runs. -/
theorem GuardedRun.congr_of_invariant {Inv : σ → Prop} {guard' : σ → ε → Prop}
    (hiff : ∀ s e s', Inv s → S.step s e = some s' → (guard s e ↔ guard' s e))
    (hkeep : ∀ s e s', Inv s → guard' s e → S.step s e = some s' → Inv s')
    {s t : σ} {es : List ε} (h : Inv s) (hrun : Execution.run S s es = some t) :
    GuardedRun S guard s es ↔ GuardedRun S guard' s es := by
  induction es generalizing s with
  | nil => exact Iff.rfl
  | cons e es ih =>
    rw [run_cons, Option.bind_eq_some_iff] at hrun
    have ⟨s', hs', hrun⟩ := hrun
    have hfirst := hiff s e s' h hs'
    simp only [GuardedRun]
    rw [hfirst]
    refine and_congr_right fun hguard => ?_
    have hrest := ih (hkeep s e s' h hguard hs') hrun
    constructor
    · intro hall t ht
      rw [hs', Option.some.injEq] at ht
      rw [← ht]
      exact hrest.mp (hall s' hs')
    · intro hall t ht
      rw [hs', Option.some.injEq] at ht
      rw [← ht]
      exact hrest.mpr (hall s' hs')

/-- Whether a run meets a decidable condition is found by running it. -/
instance decidableGuardedRun [∀ s e, Decidable (guard s e)] :
    ∀ (s : σ) (es : List ε), Decidable (GuardedRun S guard s es)
  | _, [] => isTrue trivial
  | s, e :: es =>
    match h : S.step s e with
    | none => decidable_of_iff (guard s e) ⟨fun hg => ⟨hg, fun _ hs => by simp [h] at hs⟩, And.left⟩
    | some s' =>
      have : Decidable (GuardedRun S guard s' es) := decidableGuardedRun s' es
      decidable_of_iff (guard s e ∧ GuardedRun S guard s' es)
        (and_congr_right fun _ => ⟨fun hrest _ hs => Option.some.inj (h.symm.trans hs) ▸ hrest,
          fun hrest => hrest s' h⟩)

theorem guardedRun_true (s : σ) (es : List ε) : GuardedRun S (fun _ _ => True) s es := by
  induction es generalizing s with
  | nil => exact trivial
  | cons e es ih => exact ⟨trivial, fun s' _ => ih s'⟩

theorem Reachable.run {s s' : σ} {es : List ε} (h : Reachable S s)
    (hr : Execution.run S s es = some s') : Reachable S s' :=
  ReachableUnder.run h (guardedRun_true s es) hr

end Execution
