import Mathlib.Tactic

/-! Threads that run piece by piece: a call takes one from its start, or from the point where it
was suspended, to its next point or to its end. What is asserted of every point a thread may be
suspended at is calculated backwards through its statements. -/

namespace AnchorNode.Lib

variable {W P Q R A : Type}

/-- How a call of a thread leaves it. -/
inductive Left (P R : Type) where
  | suspended (point : P)
  | ended (result : R)
  deriving DecidableEq, Repr

/-- One call of a thread: the world it finds and the one it leaves. -/
def Thread (W P R : Type) : Type := W → W × Left P R

namespace Thread

def done (r : R) : Thread W P R := fun w => (w, .ended r)

def suspend (p : P) : Thread W P R := fun w => (w, .suspended p)

/-- A statement, and what follows it. -/
def doing (f : W → W) (t : Thread W P R) : Thread W P R := fun w => t (f w)

/-- A call that returns something, and what follows it. -/
def asking (f : W → W × A) (t : A → Thread W P R) : Thread W P R := fun w => t (f w).2 (f w).1

/-- Another thread is run to its end; where it is suspended, so is the one that runs it. -/
def gosub (place : Q → P) (sub : Thread W Q A) (rest : A → Thread W P R) : Thread W P R := fun w =>
  match sub w with
  | (w, .suspended q) => (w, .suspended (place q))
  | (w, .ended a) => rest a w

/-- From here the call leaves the thread at a point for which `I` holds, or at its end with
`post`. -/
def Meets (t : Thread W P R) (I : P → W → Prop) (post : R → W → Prop) (w : W) : Prop :=
  match t w with
  | (w, .suspended p) => I p w
  | (w, .ended r) => post r w

section Rules
variable {I I' : P → W → Prop} {post post' : R → W → Prop} {w : W}

@[simp] theorem meets_done (r : R) : Meets (done r) I post w ↔ post r w := Iff.rfl

@[simp] theorem meets_suspend (p : P) : Meets (suspend p) I post w ↔ I p w := Iff.rfl

@[simp] theorem meets_doing (f : W → W) (t : Thread W P R) :
    Meets (doing f t) I post w ↔ Meets t I post (f w) := Iff.rfl

@[simp] theorem meets_asking (f : W → W × A) (t : A → Thread W P R) :
    Meets (asking f t) I post w ↔ Meets (t (f w).2) I post (f w).1 := Iff.rfl

theorem meets_gosub (place : Q → P) (sub : Thread W Q A) (rest : A → Thread W P R) :
    Meets (gosub place sub rest) I post w ↔
      Meets sub (fun q => I (place q)) (fun a => Meets (rest a) I post) w := by
  unfold Meets gosub
  rcases sub w with ⟨w', q | a⟩ <;> exact Iff.rfl

theorem Meets.mono {t : Thread W P R} (meets : Meets t I post w)
    (points : ∀ p w', I p w' → I' p w') (results : ∀ r w', post r w' → post' r w') :
    Meets t I' post' w := by
  unfold Meets at *
  rcases left : t w with ⟨w', p | r⟩
  · rw [left] at meets
    exact points p w' meets
  · rw [left] at meets
    exact results r w' meets

/-- Running a thread to its end, from what is known of it. -/
theorem Meets.gosub {place : Q → P} {sub : Thread W Q A} {rest : A → Thread W P R}
    {J : Q → W → Prop} {middle : A → W → Prop} (inner : Meets sub J middle w)
    (points : ∀ q w', J q w' → I (place q) w')
    (after : ∀ a w', middle a w' → Meets (rest a) I post w') :
    Meets (gosub place sub rest) I post w :=
  (meets_gosub place sub rest).mpr (inner.mono points after)

end Rules

/-- The call keeps `K`, wherever it leaves the thread. -/
def Keeps (K : W → Prop) (t : Thread W P R) : Prop :=
  ∀ w, K w → Meets t (fun _ => K) (fun _ => K) w

section Keeping
variable {K : W → Prop}

theorem keeps_done (r : R) : Keeps K (done r : Thread W P R) := fun _ kept => kept

theorem keeps_suspend (p : P) : Keeps K (suspend p : Thread W P R) := fun _ kept => kept

theorem Keeps.doing {f : W → W} {t : Thread W P R} (rest : Keeps K t)
    (kept : ∀ w, K w → K (f w)) : Keeps K (doing f t) := fun w before => rest (f w) (kept w before)

theorem Keeps.asking {f : W → W × A} {t : A → Thread W P R} (rest : ∀ a, Keeps K (t a))
    (kept : ∀ w, K w → K (f w).1) : Keeps K (asking f t) :=
  fun w before => rest (f w).2 (f w).1 (kept w before)

theorem Keeps.gosub {place : Q → P} {sub : Thread W Q A} {rest : A → Thread W P R}
    (inner : Keeps K sub) (after : ∀ a, Keeps K (rest a)) : Keeps K (gosub place sub rest) := by
  intro w before
  refine (inner w before).gosub ?_ ?_
  · intro q w' kept
    exact kept
  · intro a w' kept
    exact after a w' kept

end Keeping

/-- A thread that starts again when it has ended: `none` is the point before its start. -/
def again (start : Thread W P R) (resume : P → Thread W P R) (point : Option P) (w : W) :
    W × Option P :=
  match (point.elim start resume) w with
  | (w, .suspended p) => (w, some p)
  | (w, .ended _) => (w, none)

/-- An assertion for every point, also the one before the start, that each call preserves. -/
theorem again_preserves {start : Thread W P R} {resume : P → Thread W P R}
    {I : Option P → W → Prop} {w : W}
    (begins : I none w → Meets start (fun p => I (some p)) (fun _ => I none) w)
    (goes_on : ∀ p, I (some p) w → Meets (resume p) (fun p => I (some p)) (fun _ => I none) w)
    (point : Option P) (holds : I point w) :
    I (again start resume point w).2 (again start resume point w).1 := by
  have meets : Meets (point.elim start resume) (fun p => I (some p)) (fun _ => I none) w := by
    cases point with
    | none => exact begins holds
    | some p => exact goes_on p holds
  unfold Meets at meets
  unfold again
  rcases left : (point.elim start resume) w with ⟨w', p | r⟩
  · rw [left] at meets
    exact meets
  · rw [left] at meets
    exact meets

end Thread

end AnchorNode.Lib
