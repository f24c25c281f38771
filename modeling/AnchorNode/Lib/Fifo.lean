import AnchorNode.Lib.Run

/-! Bounded queues, and what it means that an implementation follows one. -/

namespace AnchorNode.Lib.Fifo

variable {α S : Type}

inductive Call (α : Type) where
  | put (a : α)
  | get
  deriving DecidableEq, Repr

inductive Answer (α : Type) where
  | refused
  | done
  | got (a : α)
  deriving DecidableEq, Repr

/-- A queue of at most `capacity` entries, oldest first. -/
def call (capacity : Nat) : List α → Call α → List α × Answer α
  | queue, .put a => if queue.length < capacity then (queue ++ [a], .done) else (queue, .refused)
  | [], .get => ([], .refused)
  | a :: queue, .get => (queue, .got a)

theorem call_put (capacity : Nat) {queue : List α} (room : queue.length < capacity) (a : α) :
    call capacity queue (.put a) = (queue ++ [a], .done) := if_pos room

theorem call_full (capacity : Nat) {queue : List α} (full : queue.length = capacity) (a : α) :
    call capacity queue (.put a) = (queue, .refused) := if_neg (by omega)

theorem call_length_le (capacity : Nat) {queue : List α} (bounded : queue.length ≤ capacity)
    (c : Call α) : (call capacity queue c).1.length ≤ capacity := by
  cases c with
  | put a =>
      by_cases room : queue.length < capacity
      · rw [call_put capacity room, List.length_append]
        exact room
      · rw [call_full capacity (by omega)]
        exact bounded
  | get =>
      cases queue with
      | nil => exact bounded
      | cons a queue => exact Nat.le_of_succ_le bounded

/-- What is answered to calls in a row. -/
def answers (step : S → Call α → S × Answer α) (s : S) : List (Call α) → List (Answer α)
  | [] => []
  | c :: calls => (step s c).2 :: answers step (step s c).1 calls

/-- One call is answered as the queue answers it, and leaves what the queue holds then. -/
def Matches (capacity : Nat) (step : S → Call α → S × Answer α) (contents : S → List α) (s : S)
    (c : Call α) : Prop :=
  (contents (step s c).1, (step s c).2) = call capacity (contents s) c

/-- However many of the calls have been made, they have been answered as the queue answers them
and have left what the queue holds then. -/
def Follows (capacity : Nat) (step : S → Call α → S × Answer α) (contents : S → List α) (s : S)
    (calls : List (Call α)) : Prop :=
  ∀ front, front <+: calls →
    answers step s front = answers (call capacity) (contents s) front ∧
      contents (run (fun s c => (step s c).1) s front) =
        run (fun queue c => (call capacity queue c).1) (contents s) front

section Following
variable {capacity : Nat} {step : S → Call α → S × Answer α} {contents : S → List α} {s : S}
  {c : Call α}

theorem Matches.left (here : Matches capacity step contents s c) :
    contents (step s c).1 = (call capacity (contents s) c).1 := congrArg Prod.fst here

theorem Matches.answer (here : Matches capacity step contents s c) :
    (step s c).2 = (call capacity (contents s) c).2 := congrArg Prod.snd here

/-- An implementation follows the queue exactly when every single call matches. -/
theorem follows_iff_guarded (s : S) (calls : List (Call α)) :
    Follows capacity step contents s calls ↔
      Guarded (fun s c => (step s c).1) (Matches capacity step contents) s calls := by
  induction calls generalizing s with
  | nil =>
      refine iff_of_true ?_ trivial
      intro front shorter
      rw [List.prefix_nil.mp shorter]
      exact ⟨rfl, rfl⟩
  | cons c calls ih =>
      simp only [Guarded, ← ih]
      constructor
      · intro follows
        obtain ⟨answered, left⟩ := follows [c] ⟨calls, rfl⟩
        have here : Matches capacity step contents s c :=
          Prod.ext left (List.cons.inj answered).1
        refine ⟨here, fun front shorter => ?_⟩
        have whole := follows (c :: front) (List.cons_prefix_cons.mpr ⟨rfl, shorter⟩)
        simp only [answers, run_cons, ← here.left, ← here.answer] at whole
        exact ⟨(List.cons.inj whole.1).2, whole.2⟩
      · rintro ⟨here, later⟩ front shorter
        cases front with
        | nil => exact ⟨rfl, rfl⟩
        | cons c' front =>
            obtain ⟨rfl, rest⟩ := List.cons_prefix_cons.mp shorter
            obtain ⟨answered, left⟩ := later front rest
            simp only [answers, run_cons, ← here.left, ← here.answer, answered, left]
            exact ⟨trivial, trivial⟩

end Following

end AnchorNode.Lib.Fifo
