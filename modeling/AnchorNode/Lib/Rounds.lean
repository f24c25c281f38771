import AnchorNode.Lib.Run

/-! Progress in rounds: as long as some duty is due and every round serves every duty, a run gets
through. -/

namespace AnchorNode.Lib

variable {S O P D : Type}

/-- A run in which every duty is served at some point. -/
structure Round (step : S → O → S) (ok : S → O → Prop) (serves : D → S → O → Prop) (s : S)
    (inputs : List O) : Prop where
  guarded : Guarded step ok s inputs
  served : ∀ d, ∃ front o back, inputs = front ++ o :: back ∧ serves d (run step s front) o

/-- One round after the other. -/
def Rounds (step : S → O → S) (ok : S → O → Prop) (serves : D → S → O → Prop) :
    S → List (List O) → Prop
  | _, [] => True
  | s, inputs :: later =>
    Round step ok serves s inputs ∧ Rounds step ok serves (run step s inputs) later

/-- Where a state stands, how far that is, and which duty is due there. A step leads further, or
it leaves the state where it stands and does not serve the duty that is due. -/
structure Advancing (step : S → O → S) (ok : S → O → Prop) (serves : D → S → O → Prop)
    (At : P → S → Prop) (rank : P → Nat) (due : P → Option D) : Prop where
  moves : ∀ p s o, At p s → ok s o → ∃ p', At p' (step s o) ∧
    (due p = none → due p' = none) ∧
    (rank p < rank p' ∨ (p' = p ∧ ∀ d, due p = some d → ¬ serves d s o))

namespace Advancing

variable {step : S → O → S} {ok : S → O → Prop} {serves : D → S → O → Prop} {At : P → S → Prop}
  {rank : P → Nat} {due : P → Option D}

theorem run (advances : Advancing step ok serves At rank due) {inputs : List O} :
    ∀ {p : P} {s : S}, At p s → Guarded step ok s inputs → ∃ p', At p' (Lib.run step s inputs) ∧
      (due p = none → due p' = none) ∧
      (rank p < rank p' ∨ (p' = p ∧ ∀ d, due p = some d → ∀ front o back,
        inputs = front ++ o :: back → ¬ serves d (Lib.run step s front) o)) := by
  induction inputs with
  | nil =>
      rintro p s here -
      exact ⟨p, here, id, Or.inr ⟨rfl, fun d due front o back split => by simp at split⟩⟩
  | cons o os ih =>
      rintro p s here ⟨legal, later⟩
      obtain ⟨p₁, next, kept, first⟩ := advances.moves p s o here legal
      obtain ⟨p₂, last, kept', rest⟩ := ih next later
      refine ⟨p₂, last, kept' ∘ kept, ?_⟩
      rcases first with further | ⟨rfl, unserved⟩
      · rcases rest with more | ⟨rfl, -⟩
        · exact Or.inl (Nat.lt_trans further more)
        · exact Or.inl further
      · rcases rest with more | ⟨rfl, never⟩
        · exact Or.inl more
        · refine Or.inr ⟨rfl, fun d due' front o' back split => ?_⟩
          cases front with
          | nil =>
              obtain ⟨rfl, rfl⟩ := List.cons.inj split
              exact unserved d due'
          | cons o'' front =>
              obtain ⟨rfl, tail⟩ := List.cons.inj split
              exact never d due' front o' back tail

theorem round (advances : Advancing step ok serves At rank due) {p : P} {s : S} {inputs : List O}
    (here : At p s) (round : Round step ok serves s inputs) :
    ∃ p', At p' (Lib.run step s inputs) ∧ (due p = none → due p' = none) ∧
      (rank p < rank p' ∨ due p' = none) := by
  obtain ⟨p', there, kept, further | ⟨rfl, never⟩⟩ := advances.run here round.guarded
  · exact ⟨p', there, kept, Or.inl further⟩
  · refine ⟨p', there, kept, Or.inr ?_⟩
    cases open' : due p' with
    | none => rfl
    | some d =>
        obtain ⟨front, o, back, split, serves⟩ := round.served d
        exact absurd serves (never d open' front o back split)

theorem rounds (advances : Advancing step ok serves At rank due) {later : List (List O)} :
    ∀ {p : P} {s : S}, At p s → Rounds step ok serves s later →
      ∃ p', At p' (Lib.run step s later.flatten) ∧ (due p = none → due p' = none) ∧
        (rank p + later.length ≤ rank p' ∨ due p' = none) := by
  induction later with
  | nil => exact fun here _ => ⟨_, here, id, Or.inl (Nat.le_refl _)⟩
  | cons inputs later ih =>
      rintro p s here ⟨first, rest⟩
      obtain ⟨p₁, next, kept, further⟩ := advances.round here first
      obtain ⟨p₂, last, kept', more⟩ := ih next rest
      rw [List.flatten_cons, run_append]
      refine ⟨p₂, last, kept' ∘ kept, ?_⟩
      rcases further with further | through
      · rcases more with more | through
        · rw [List.length_cons]
          exact Or.inl (by omega)
        · exact Or.inr through
      · exact Or.inr (kept' through)

/-- With a bound on how far a run can get, enough rounds get it through. -/
theorem through (advances : Advancing step ok serves At rank due) {p : P} {s : S} {bound : Nat}
    (bounded : ∀ p s, At p s → rank p ≤ bound) (here : At p s) {later : List (List O)}
    (rounds : Rounds step ok serves s later) (enough : bound < rank p + later.length) :
    ∃ p', At p' (Lib.run step s later.flatten) ∧ due p' = none := by
  obtain ⟨p', there, -, far | through⟩ := advances.rounds here rounds
  · have most := bounded p' _ there
    omega
  · exact ⟨p', there, through⟩

end Advancing

end AnchorNode.Lib
