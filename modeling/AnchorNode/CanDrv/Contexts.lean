import AnchorNode.CanDrv.Course

/-! `Can_44_TCAN4x5x_ExCntxt` selects the SPI buffers: the interrupt and the main functions put
themselves there and put back whom they found. -/

namespace AnchorNode.CanDrv

open AnchorNode.Lib

/-- How far a context is: it has read whom it interrupts, or has put itself in the place. -/
inductive Stage where
  | outside
  | saved (backup : Context)
  | inside (backup : Context)

namespace Stage

def isInside : Stage → Bool
  | .inside _ => true
  | _ => false

def next : Stage → Stage
  | .saved backup => .inside backup
  | _ => .outside

def Keeps (context : Context) : Stage → Prop
  | .outside => True
  | .saved backup => backup = context
  | .inside backup => backup = context

section Equations
variable (backup context : Context)

@[simp] theorem isInside_outside : outside.isInside = false := rfl
@[simp] theorem isInside_saved : (saved backup).isInside = false := rfl
@[simp] theorem isInside_inside : (inside backup).isInside = true := rfl
@[simp] theorem keeps_outside : outside.Keeps context = True := rfl
@[simp] theorem keeps_saved : (saved backup).Keeps context = (backup = context) := rfl
@[simp] theorem keeps_inside : (inside backup).Keeps context = (backup = context) := rfl

end Equations

def Accesses (context : Context) (stage : Stage) : Prop :=
  context = .task ∨ stage.isInside = true

end Stage

namespace Query

def aboutContext : Query → Bool
  | .exCntxt | .setExCntxt _ => true
  | _ => false

def overSpi : Query → Bool
  | .spiRead _ _ | .spiWrite _ _ _ => true
  | _ => false

end Query

def contextLaw (cfg : Config) (context : Context) : Typestate Query Answer Stage where
  ok stage
    | .exCntxt => context ≠ .task ∧ stage = .outside
    | .setExCntxt chosen =>
      (chosen = context ∧ ∃ backup, stage = .saved backup) ∨ stage = .inside chosen
    | .spiRead _ _ => stage.Accesses context
    | .spiWrite _ _ _ => stage.Accesses context
    | _ => True
  known := Known cfg
  next stage
    | .exCntxt, backup => .saved backup
    | .setExCntxt _, _ => stage.next
    | _, _ => stage

variable {D α : Type} {cfg : Config} {chip : Chip D} {view : D → View} {i : Context}

section Functions

section Inside
variable {rest : Stage → Prop} (accesses : ∀ stage, rest stage → stage.Accesses i)
include accesses

theorem context_ask {q : Query} {more : Answer q → Driver α} (other : q.aboutContext = false)
    (second : ∀ x, Obeys (contextLaw cfg i) rest (more x)) :
    Obeys (contextLaw cfg i) rest (.ask q more) := by
  refine obeys_ask (fun stage here => ?_) (fun stage x _ => ?_) fun x _ => second x
  · cases q <;> first | exact accesses stage here | trivial
  · cases q <;> first | rfl | exact Bool.noConfusion other

theorem context_passes : Passes cfg (contextLaw cfg i) rest where
  ok stage q here plain := by
    cases q <;> first | exact accesses stage here | trivial
  same stage q x _ plain := by cases q <;> first | rfl | exact Bool.noConfusion plain
  known _ _ := id

theorem mcanWrite_accesses (pdu : CanPdu) (residue : Nat → UInt8) (txObj : TxObjConfig) :
    Obeys (contextLaw cfg i) rest (mcanWrite cfg pdu residue txObj) := by
  refine obeys_bind (readVerified_obeys (context_passes accesses) .txbrp) ?_
  rintro ⟨_, txbrp⟩
  dsimp only
  split
  · exact obeys_pure _
  · refine context_ask accesses rfl fun _ => ?_
    refine context_ask accesses rfl fun _ => ?_
    exact context_ask accesses rfl fun _ => obeys_pure _

theorem canWrite_accesses (call : WriteCall) :
    Obeys (contextLaw cfg i) rest (canWrite cfg i call) := by
  unfold canWrite
  split
  · exact context_ask accesses rfl fun _ => obeys_pure _
  · refine context_ask accesses rfl fun taken => obeys_ite (fun _ => ?_) fun _ => obeys_pure _
    have unlocked (result : CanReturn) : Obeys (contextLaw cfg i) rest
        (.ask (.unlockHth (call.hth - cfg.canHrhObjectsCount)) fun _ => pure result) :=
      context_ask accesses rfl fun _ => obeys_pure result
    have written := obeys_bind (mcanWrite_accesses accesses call.pdu call.residue
      (cfg.canTxObjConfig (cfg.canHthIndex (call.hth - cfg.canHrhObjectsCount)))) unlocked
    refine obeys_ite (fun _ => ?_) fun _ => written
    exact context_ask accesses rfl fun id => obeys_ite (fun _ => obeys_pure _) fun _ => written

end Inside

theorem withContext_accesses (apart : i ≠ .task) {body : Driver Unit}
    (inside : ∀ backup, Obeys (contextLaw cfg i) (fun stage => stage = .inside backup) body) :
    Obeys (contextLaw cfg i) (fun stage => stage = .outside) (withContext i body) := by
  rintro stage rfl
  refine ⟨⟨apart, rfl⟩, fun backup _ => ⟨Or.inl ⟨rfl, backup, rfl⟩, fun _ _ => ?_⟩⟩
  refine (inside backup _ rfl).bind ?_
  rintro stage _ rfl
  exact ⟨Or.inr rfl, fun _ _ => rfl⟩

theorem entry_accesses (b : Entry) :
    Obeys (contextLaw cfg i) (fun stage => stage = .outside) (entry cfg i b) := by
  have accesses (backup : Context) (stage : Stage) (here : stage = .inside backup) :
      stage.Accesses i := Or.inr (by rw [here]; rfl)
  have writes (backup : Context) (call : WriteCall) (_ : Checked cfg call) :
      Obeys (contextLaw cfg i) _ (canWrite cfg i call) := canWrite_accesses (accesses backup) call
  have passes (backup : Context) : Passes cfg (contextLaw cfg i) _ :=
    context_passes (accesses backup)
  have tx (backup : Context) := processCanTx_obeys (passes backup) (writes backup)
  have rx (backup : Context) := processCanRx_obeys (passes backup) (writes backup)
  have busoff (backup : Context) := busoffProcess_obeys (passes backup)
  cases i <;> cases b
  case task.write call =>
      exact obeys_bind (canWrite_accesses (fun _ _ => Or.inl rfl) call) fun _ => obeys_pure _
  case isr.irq =>
      refine obeys_ite (fun _ => ?_) fun _ => obeys_pure _
      refine obeys_ask (fun _ _ => trivial) (fun _ _ _ => rfl) fun state _ => ?_
      refine obeys_ite (fun _ => ?_) fun _ => obeys_pure _
      refine withContext_accesses (by decide) fun backup => ?_
      refine obeys_when (fun _ => tx backup) ?_
      refine obeys_when (fun _ => rx backup) ?_
      exact obeys_ite (fun _ => busoff backup) fun _ => obeys_pure _
  case mainFunction.mainWrite =>
      exact obeys_ite (fun _ => withContext_accesses (by decide) tx) fun _ => obeys_pure _
  case mainFunction.mainRead =>
      exact obeys_ite (fun _ => withContext_accesses (by decide) rx) fun _ => obeys_pure _
  case mainFunction.mainBusOff =>
      exact obeys_ite (fun _ => withContext_accesses (by decide) busoff) fun _ => obeys_pure _
  all_goals exact obeys_pure _

end Functions

section Runs
variable {s : State D} {stage : Context → Stage}

/-- Whom the interrupt finds, and whom `Can_44_TCAN4x5x_ExCntxt` names. -/
def interrupted (stage : Context → Stage) : Context :=
  if (stage .mainFunction).isInside then .mainFunction else .task

def innermost (stage : Context → Stage) : Context :=
  if (stage .isr).isInside then .isr else interrupted stage

/-- Every context has kept whom it found, and the innermost is named. -/
structure Stacked (stage : Context → Stage) (s : State D) : Prop where
  named : s.exCntxt = innermost stage
  task : stage .task = .outside
  mainFunction : (stage .mainFunction).Keeps .task
  isr : (stage .isr).Keeps (interrupted stage)

theorem perform_exCntxt {q : Query} (c : Choice) (other : q.aboutContext = false) :
    (perform chip s q c).2.exCntxt = s.exCntxt := by
  cases q with
  | exCntxt => exact Bool.noConfusion other
  | setExCntxt context => exact Bool.noConfusion other
  | spiRead address count => cases fault : c.fault <;> simp only [perform, fault]
  | spiWrite address words request =>
      cases fault : c.fault <;> cases request <;> simp only [perform, fault]
  | lockHth context hth =>
      simp only [perform]
      split <;> rfl
  | _ => rfl

theorem Stacked.save (stacked : Stacked stage s) (apart : i ≠ .task) (outside : stage i = .outside)
    (above : ∀ j, i.priority < j.priority → stage j = .outside) :
    Stacked (Function.update stage i (.saved s.exCntxt)) s := by
  obtain ⟨named, task, mainFunction, isr⟩ := stacked
  cases i with
  | task => exact absurd rfl apart
  | mainFunction =>
      have quiet : stage .isr = .outside := above .isr (by decide)
      have found : s.exCntxt = .task := by
        simp [named, innermost, interrupted, quiet, outside]
      constructor <;>
        simp [innermost, interrupted, quiet, task, found]
  | isr =>
      have found : s.exCntxt = interrupted stage := by
        simp [named, innermost, outside]
      constructor
      · simp [found, innermost, interrupted]
      · simpa using task
      · simpa using mainFunction
      · simp [found, interrupted]

theorem Stacked.enter (stacked : Stacked stage s) {backup : Context}
    (saved : stage i = .saved backup)
    (above : ∀ j, i.priority < j.priority → stage j = .outside) :
    Stacked (Function.update stage i (.inside backup)) { s with exCntxt := i } := by
  obtain ⟨named, task, mainFunction, isr⟩ := stacked
  cases i with
  | task => exact Stage.noConfusion (task.symm.trans saved)
  | mainFunction =>
      have quiet : stage .isr = .outside := above .isr (by decide)
      rw [saved] at mainFunction
      constructor
      · simp [innermost, interrupted, quiet]
      · simpa using task
      · simpa using mainFunction
      · simp [quiet]
  | isr =>
      rw [saved] at isr
      constructor
      · simp [innermost]
      · simpa using task
      · simpa using mainFunction
      · simpa [interrupted] using isr

theorem Stacked.leave (stacked : Stacked stage s) {backup : Context}
    (inside : stage i = .inside backup)
    (above : ∀ j, i.priority < j.priority → stage j = .outside) :
    Stacked (Function.update stage i .outside) { s with exCntxt := backup } := by
  obtain ⟨named, task, mainFunction, isr⟩ := stacked
  cases i with
  | task => exact Stage.noConfusion (task.symm.trans inside)
  | mainFunction =>
      have quiet : stage .isr = .outside := above .isr (by decide)
      rw [inside] at mainFunction
      obtain rfl : backup = .task := mainFunction
      constructor
      · simp [innermost, interrupted, quiet]
      · simpa using task
      · simp
      · simp [quiet]
  | isr =>
      rw [inside] at isr
      obtain rfl : backup = interrupted stage := isr
      constructor
      · simp [innermost, interrupted]
      · simpa using task
      · simpa using mainFunction
      · simp

theorem context_governs : Governs (tolerant cfg chip view) (contextLaw cfg)
    (fun stage => stage = .outside) Context.priority Stacked where
  steps stage s i q c stacked above ok checked := by
    refine ⟨perform_known checked, ?_⟩
    cases about : q.aboutContext with
    | false =>
        have same : (contextLaw cfg i).next (stage i) q (perform chip s q c).1 = stage i := by
          cases q <;> first | rfl | exact Bool.noConfusion about
        have named : (perform chip s q c).2.exCntxt = s.exCntxt := perform_exCntxt c about
        obtain ⟨shown, task, mainFunction, isr⟩ := stacked
        show Stacked (Function.update stage i
          ((contextLaw cfg i).next (stage i) q (perform chip s q c).1)) (perform chip s q c).2
        rw [same, Function.update_eq_self]
        exact ⟨named.trans shown, task, mainFunction, isr⟩
    | true =>
        cases q with
        | exCntxt => exact stacked.save ok.1 ok.2 above
        | setExCntxt chosen =>
            show Stacked (Function.update stage i (stage i).next) { s with exCntxt := chosen }
            rcases ok with ⟨rfl, backup, saved⟩ | inside
            · rw [saved]
              exact stacked.enter saved above
            · rw [inside]
              exact stacked.leave inside above
        | _ => exact Bool.noConfusion about
  moves stage s m stacked _ := by
    obtain ⟨named, task, mainFunction, isr⟩ := stacked
    exact ⟨(happen_exCntxt m).trans named, task, mainFunction, isr⟩
  starts _ _ b _ := entry_accesses b

variable {turns : List (Turn Context Choice Happening Entry)}

def benchPreempted : List (Turn Context Choice Happening Entry) :=
  [.start .mainFunction .mainRead] ++ benchSteps .mainFunction 3 ++ [.start .isr .irq] ++
  benchSteps .isr 3

end Runs

end AnchorNode.CanDrv
