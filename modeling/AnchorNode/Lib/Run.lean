import Mathlib.Tactic

/-! Runs of a deterministic step function under an arbitrary list of inputs. -/

namespace AnchorNode.Lib

variable {S O : Type}

def run (step : S → O → S) (start : S) (inputs : List O) : S :=
  inputs.foldl step start

@[simp] theorem run_nil (step : S → O → S) (start : S) : run step start [] = start := rfl

@[simp] theorem run_cons (step : S → O → S) (start : S) (o : O) (os : List O) :
    run step start (o :: os) = run step (step start o) os := rfl

theorem run_append (step : S → O → S) (start : S) (front back : List O) :
    run step start (front ++ back) = run step (run step start front) back :=
  List.foldl_append

/-- Every input of the run meets `ok` in the state in which it is given. -/
def Guarded (step : S → O → S) (ok : S → O → Prop) : S → List O → Prop
  | _, [] => True
  | s, o :: os => ok s o ∧ Guarded step ok (step s o) os

instance Guarded.decidable (step : S → O → S) (ok : S → O → Prop) [∀ s o, Decidable (ok s o)] :
    (s : S) → (inputs : List O) → Decidable (Guarded step ok s inputs)
  | _, [] => inferInstanceAs (Decidable True)
  | s, o :: os =>
    have := Guarded.decidable step ok (step s o) os
    inferInstanceAs (Decidable (ok s o ∧ Guarded step ok (step s o) os))

theorem guarded_append (step : S → O → S) (ok : S → O → Prop) (s : S) (front back : List O) :
    Guarded step ok s (front ++ back) ↔
      Guarded step ok s front ∧ Guarded step ok (run step s front) back := by
  induction front generalizing s with
  | nil => simp [Guarded]
  | cons o os ih => simp [Guarded, ih, and_assoc]

theorem guarded_always {step : S → O → S} {ok : S → O → Prop} (always : ∀ s o, ok s o) (s : S)
    (inputs : List O) : Guarded step ok s inputs := by
  induction inputs generalizing s with
  | nil => trivial
  | cons o os ih => exact ⟨always s o, ih _⟩

theorem Guarded.mono {step : S → O → S} {ok ok' : S → O → Prop}
    (weaker : ∀ s o, ok s o → ok' s o) {s : S} {inputs : List O}
    (guarded : Guarded step ok s inputs) : Guarded step ok' s inputs := by
  induction inputs generalizing s with
  | nil => trivial
  | cons o os ih => exact ⟨weaker s o guarded.1, ih guarded.2⟩

/-- What every guarded step preserves holds after every guarded run. -/
theorem guarded_invariant {step : S → O → S} {ok : S → O → Prop} {Inv : S → Prop}
    (preserved : ∀ s o, Inv s → ok s o → Inv (step s o)) {s : S} {inputs : List O}
    (initial : Inv s) (guarded : Guarded step ok s inputs) : Inv (run step s inputs) := by
  induction inputs generalizing s with
  | nil => exact initial
  | cons o os ih => exact ih (preserved s o initial guarded.1) guarded.2

theorem guarded_congr {step : S → O → S} {ok ok' : S → O → Prop} {Inv : S → Prop}
    {inputs : List O} (preserved : ∀ o ∈ inputs, ∀ s, Inv s → ok s o → Inv (step s o))
    (agree : ∀ o ∈ inputs, ∀ s, Inv s → (ok s o ↔ ok' s o)) {s : S} (initial : Inv s) :
    Guarded step ok s inputs ↔ Guarded step ok' s inputs := by
  induction inputs generalizing s with
  | nil => exact Iff.rfl
  | cons o os ih =>
      have here : ok s o ↔ ok' s o := agree o (by simp) s initial
      have later (kept : ok s o) := ih (fun o' member => preserved o' (by simp [member]))
        (fun o' member => agree o' (by simp [member])) (preserved o (by simp) s initial kept)
      constructor
      · rintro ⟨kept, rest⟩
        exact ⟨here.mp kept, (later kept).mp rest⟩
      · rintro ⟨kept, rest⟩
        exact ⟨here.mpr kept, (later (here.mpr kept)).mpr rest⟩

theorem run_invariant {step : S → O → S} {Inv : S → Prop}
    (preserved : ∀ s o, Inv s → Inv (step s o)) {s : S} (inputs : List O)
    (initial : Inv s) : Inv (run step s inputs) := by
  induction inputs generalizing s with
  | nil => exact initial
  | cons o os ih => exact ih (preserved s o initial)

end AnchorNode.Lib
