import AnchorNode.Lib.Observer
import AnchorNode.Lib.Run

/-! Chronicles: what is called from outside, and what a system logs in each call, as one list
that an observer reads. -/

namespace AnchorNode.Lib

variable {S O E N T : Type}

/-- A system that logs events; a call from outside tells something by itself, and says how
the events logged in it are to be read. -/
structure System (S O E N : Type) where
  step : S → O → S
  log : S → List E
  told : S → O → List N
  note : O → E → N

namespace System

variable (m : System S O E N)

/-- What an observer reads of one call. -/
def notes (s : S) (o : O) : List N :=
  m.told s o ++ ((m.log (m.step s o)).drop (m.log s).length).map (m.note o)

def chronicle : S → List O → List N
  | _, [] => []
  | s, o :: os => m.notes s o ++ chronicle (m.step s o) os

/-- The system together with an observer. -/
def watch (track : T → N → T) (p : S × T) (o : O) : S × T :=
  (m.step p.1 o, (m.notes p.1 o).foldl track p.2)

variable {m} {track : T → N → T} {allowed : T → N → Prop} {s : S} {t : T}

theorem notes_extends {o : O} {after : T} {new : List E}
    (told : Traces track allowed t (m.told s o))
    (extended : Extends track allowed (m.note o) ((m.told s o).foldl track t) after (m.log s)
      (m.log (m.step s o)) new) :
    Traces track allowed t (m.notes s o) ∧ (m.notes s o).foldl track t = after := by
  have added : (m.log (m.step s o)).drop (m.log s).length = new := by
    rw [extended.log, List.drop_left]
  rw [notes, added, traces_append, List.foldl_append]
  exact ⟨⟨told, extended.sound⟩, extended.seen⟩

/-- What every guarded call preserves, and allows, holds over every guarded run. -/
theorem chronicle_guarded {ok : S × T → O → Prop} {Inv : S → T → Prop}
    (preserved : ∀ s t o, Inv s t → ok (s, t) o →
      Traces track allowed t (m.notes s o) ∧ Inv (m.step s o) ((m.notes s o).foldl track t))
    (os : List O) (guarded : Guarded (m.watch track) ok (s, t) os) (start : Inv s t) :
    Traces track allowed t (m.chronicle s os) ∧
      Inv (run m.step s os) ((m.chronicle s os).foldl track t) := by
  induction os generalizing s t with
  | nil => exact ⟨trivial, start⟩
  | cons o os ih =>
      obtain ⟨first, next⟩ := preserved s t o start guarded.1
      obtain ⟨rest, last⟩ := ih guarded.2 next
      rw [chronicle, traces_append, List.foldl_append]
      exact ⟨⟨first, rest⟩, last⟩

end System

end AnchorNode.Lib
