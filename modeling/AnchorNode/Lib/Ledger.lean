import Mathlib.Tactic

/-! Exactly-once accounting of requests and their answers in an event log. -/

namespace AnchorNode.Lib

inductive Mark where
  | opened
  | refused
  | closed
  deriving DecidableEq, Repr

/-- `some true` while a request is outstanding; `none` once a request was made while
another was outstanding or an answer was given to no request. -/
def tally : Option Bool → Mark → Option Bool
  | some false, .opened => some true
  | some false, .refused => some false
  | some true, .closed => some false
  | _, _ => none

/-- `balance marks = some false` says that the log is a sequence of requests each
refused or followed by exactly one answer, `some true` that only the last one is still open. -/
def balance (marks : List Mark) : Option Bool := marks.foldl tally (some false)

/-- The marks lead from one outstanding state to another. -/
def Tallies (before : Bool) (marks : List Mark) (after : Bool) : Prop :=
  marks.foldl tally (some before) = some after

theorem Tallies.keep (outstanding : Bool) : Tallies outstanding [] outstanding := rfl

theorem Tallies.trans {first second third : Bool} {front back : List Mark}
    (before : Tallies first front second) (after : Tallies second back third) :
    Tallies first (front ++ back) third := by
  rw [Tallies, List.foldl_append, before]
  exact after

theorem Tallies.balance {front back : List Mark} {before after : Bool}
    (balanced : balance front = some before) (tallies : Tallies before back after) :
    balance (front ++ back) = some after :=
  Tallies.trans balanced tallies

theorem Tallies.close (mine : Prop) [Decidable mine] :
    Tallies (decide mine) (if mine then [.closed] else []) false := by
  by_cases own : mine
  · rw [if_pos own, decide_eq_true own]
    rfl
  · rw [if_neg own, decide_eq_false own]
    rfl

theorem Tallies.open (mine : Prop) [Decidable mine] :
    Tallies false (if mine then [.opened] else []) (decide mine) := by
  by_cases own : mine
  · rw [if_pos own, decide_eq_true own]
    rfl
  · rw [if_neg own, decide_eq_false own]
    rfl

theorem Tallies.attempt (mine granted : Prop) [Decidable mine] [Decidable granted] :
    Tallies false (if mine then [if granted then .opened else .refused] else [])
      (decide (mine ∧ granted)) := by
  by_cases own : mine
  · by_cases given : granted <;> simp [own, given, Tallies, tally]
  · simp [own, Tallies]

end AnchorNode.Lib
