import Mathlib.Tactic

/-! Elapsed-time timers. Nothing is said about the clock: whether a running timer is due when
it is read is up to the caller. -/

namespace AnchorNode.Lib

variable {σ : Type}

/-- What is known of a timer since it was last read; a running one keeps what it was started
with. -/
inductive Timer (σ : Type) where
  | idle
  | stopped
  | running (setting : σ)
  | elapsed
  deriving DecidableEq, Repr

/-- Reading a timer; one that has elapsed stays elapsed until it is started or initialised. -/
def Timer.update (due : Bool) : Timer σ → Timer σ
  | .running setting => if due then .elapsed else .running setting
  | timer => timer

/-- The timer was started and nothing has reset it since. -/
def Timer.started : Timer σ → Bool
  | .running _ | .elapsed => true
  | .idle | .stopped => false

def Timer.isRunning : Timer σ → Bool
  | .running _ => true
  | _ => false

@[simp] theorem update_started (due : Bool) (timer : Timer σ) :
    (timer.update due).started = timer.started := by
  cases timer with
  | running setting => cases due <;> rfl
  | idle | stopped | elapsed => rfl

@[simp] theorem started_running (setting : σ) : (Timer.running setting).started = true := rfl

@[simp] theorem started_idle : (Timer.idle : Timer σ).started = false := rfl

theorem started_of_running {timer : Timer σ} (running : timer.isRunning = true) :
    timer.started = true := by
  cases timer <;> first | rfl | cases running

theorem started_of_elapsed {due : Bool} {timer : Timer σ} (elapsed : timer.update due = .elapsed) :
    timer.started = true := by
  rw [← update_started due, elapsed]
  rfl

end AnchorNode.Lib
