import AnchorNode.CanDrv.Course

/-! The mutex of a handle: only the context that has it requests transmissions of its buffers, and a
context that ends without giving it back closes the handle for good. -/

namespace AnchorNode.CanDrv

open AnchorNode.Lib

def mutexLaw (cfg : Config) (hth : Nat) (context : Context) : Typestate Query Answer Bool where
  ok held
    | .lockHth taker _ => taker = context
    | .unlockHth hth' => hth' = hth → held = true
    | .spiWrite address words request => ∀ buffer, Owns cfg hth buffer →
        (Query.spiWrite address words request).Raises buffer ∨
          (∃ made, request = some made ∧ made.buffer = buffer) → held = true
    | _ => True
  known := Known cfg
  next held
    | .lockHth _ hth', taken => if hth' = hth then held || taken else held
    | .unlockHth hth', _ => if hth' = hth then false else held
    | _, _ => held

variable {D : Type} {cfg : Config} {chip : Chip D} {view : D → View} {i : Context} {hth : Nat}
  {rest : Bool → Prop}

section Functions

theorem mutex_passes (rest : Bool → Prop) : Passes cfg (mutexLaw cfg hth i) rest where
  ok held q _ plain := by
    cases q with
    | spiWrite address words request =>
        rintro buffer - (raises | ⟨made, some, -⟩)
        · exact absurd raises (Query.not_raises plain buffer)
        · exact nomatch (plain_unrecorded plain).symm.trans some
    | _ => trivial
  same held q x _ plain := by
    cases q <;> first | rfl | exact Bool.noConfusion plain
  known _ _ := id

theorem raises_mutex {held : Bool} {q : Query} {buffer : Nat}
    (ok : (mutexLaw cfg hth i).ok held q) (owns : Owns cfg hth buffer)
    (raises : q.Raises buffer) : held = true := by
  cases q with
  | spiWrite address words request => exact ok buffer owns (Or.inl raises)
  | _ => exact raises.elim

theorem bit_set {b buffer : Nat} (set : (1#32 <<< b).getLsbD buffer = true) : buffer = b := by
  simp only [BitVec.getLsbD_shiftLeft, BitVec.getLsbD_one, Bool.and_eq_true, decide_eq_true_eq,
    Bool.not_eq_true', decide_eq_false_iff_not] at set
  omega

section Writing
variable (configured : WellConfigured cfg) (inside : hth < cfg.canHthObjectsCount)
include configured inside

theorem mcanWrite_conforms {hth' : Nat} (known : hth' < cfg.canHthObjectsCount) (pdu : CanPdu)
    (residue : Nat → UInt8) {held : Bool} (taken : hth' = hth → held = true) :
    Conforms (mutexLaw cfg hth i) (fun held' _ => held' = held) held
      (mcanWrite cfg pdu residue (cfg.canTxObjConfig (cfg.canHthIndex hth'))) := by
  refine (readVerified_obeys (mutex_passes fun held' => held' = held) .txbrp held rfl).bind ?_
  rintro held' ⟨_, txbrp⟩ same
  obtain rfl : held = held' := same.symm
  dsimp only
  split
  · exact neutral_pure _ _
  · next b found =>
      obtain ⟨least, most, -⟩ := findFree_some found
      have owner (owns : Owns cfg hth b) : held = true :=
        taken (configured.apart hth' hth b known inside ⟨least, most⟩ owns)
      have element : (mutexLaw cfg hth i).ok held (.spiWrite (.ram (txBufferElem cfg b))
          (txElement cfg (cfg.canTxObjConfig (cfg.canHthIndex hth')) pdu residue b) none) :=
        (mutex_passes fun _ => True).ok held _ trivial rfl
      refine ⟨trivial, fun _ _ => ⟨element, fun _ _ => ⟨fun buffer owns asked => ?_, ?_⟩⟩⟩
      · rcases asked with ⟨word, only, set⟩ | ⟨made, recorded, rfl⟩
        · obtain rfl : word = 1#32 <<< b := List.mem_singleton.mp only
          exact owner (bit_set set ▸ owns)
        · obtain rfl : (⟨b, _, pdu⟩ : Request) = made := Option.some.inj recorded
          exact owner owns
      · exact fun _ _ => rfl

theorem writeTaken_conforms {hth' : Nat} (known : hth' < cfg.canHthObjectsCount) (call : WriteCall)
    {held : Bool} (taken : hth' = hth → held = true) :
    Conforms (mutexLaw cfg hth i) (fun held' _ => held' = if hth' = hth then false else held) held
      (do
        let result ← mcanWrite cfg call.pdu call.residue
          (cfg.canTxObjConfig (cfg.canHthIndex hth'))
        unlockHth hth'
        return result) := by
  refine (mcanWrite_conforms configured inside known call.pdu call.residue taken).bind ?_
  rintro held _ rfl
  exact ⟨taken, fun _ _ => rfl⟩

variable (returned : rest false) (left : cfg.publicIcomSupport = true → rest true)
include returned left

theorem canWrite_obeys {call : WriteCall} (checked : Checked cfg call) :
    Obeys (mutexLaw cfg hth i) rest (canWrite cfg i call) := by
  unfold canWrite
  split
  · exact obeys_bind ((mutex_passes rest).question rfl) fun _ => obeys_pure _
  · next passed =>
      have checked : writeDetCheck cfg call.hth call.pdu = none := by
        rcases checked with enabled | checked
        · rwa [if_pos enabled] at passed
        · exact checked
      refine fun held here => ⟨rfl, fun taken _ => ?_⟩
      cases taken with
      | false =>
          show rest (if _ = hth then held || false else held)
          rwa [Bool.or_false, ite_self]
      | true =>
          have locked : ∀ held',
              held' = (if call.hth - cfg.canHrhObjectsCount = hth then held || true else held) →
              (call.hth - cfg.canHrhObjectsCount = hth → held' = true) ∧
                rest (if call.hth - cfg.canHrhObjectsCount = hth then false else held') ∧
                (cfg.publicIcomSupport = true → rest held') := by
            rintro _ rfl
            by_cases same : call.hth - cfg.canHrhObjectsCount = hth
            · simpa [same] using ⟨returned, left⟩
            · simpa [same] using ⟨here, fun _ => here⟩
          obtain ⟨taken, back, stays⟩ := locked _ rfl
          have written := (writeTaken_conforms configured inside (i := i) (checked_hth checked) call
            taken).mono fun held' _ ended => show rest held' by rw [ended]; exact back
          show Conforms _ _ _ (if _ then _ else _)
          split_ifs with icom
          · refine ⟨trivial, fun id _ => ?_⟩
            show Conforms _ _ _ (if _ then _ else _)
            split_ifs
            · exact stays icom
            · exact written
          · exact written

end Writing

theorem withContext_obeys {context : Context} {body : Driver Unit}
    (inside : Obeys (mutexLaw cfg hth i) rest body) :
    Obeys (mutexLaw cfg hth i) rest (withContext context body) := by
  refine obeys_ask (fun _ _ => trivial) (fun _ _ _ => rfl) fun backup _ => ?_
  refine obeys_ask (fun _ _ => trivial) (fun _ _ _ => rfl) fun _ _ => ?_
  show Obeys _ _ (body >>= fun _ => Prog.ask (.setExCntxt backup) Prog.done)
  refine obeys_bind inside fun _ => ?_
  exact obeys_ask (fun _ _ => trivial) (fun _ _ _ => rfl) fun _ _ => obeys_pure _

theorem entry_obeys
    (writes : ∀ call, Checked cfg call → Obeys (mutexLaw cfg hth i) rest (canWrite cfg i call))
    (s : State D) (b : Entry) (start : (tolerant cfg chip view).startable s i b) :
    Obeys (mutexLaw cfg hth i) rest (entry cfg i b) := by
  have passes : Passes cfg (mutexLaw cfg hth i) rest := mutex_passes rest
  have tx := processCanTx_obeys passes writes
  have rx := processCanRx_obeys passes writes
  have busoff := busoffProcess_obeys passes
  cases i <;> cases b
  case task.write call =>
      exact obeys_bind (writes call start) fun _ => obeys_pure _
  case isr.irq =>
      refine obeys_ite (fun _ => ?_) fun _ => obeys_pure _
      refine passes.ask rfl fun state _ => ?_
      refine obeys_ite (fun _ => ?_) fun _ => obeys_pure _
      refine withContext_obeys ?_
      refine obeys_when (fun _ => tx) ?_
      refine obeys_when (fun _ => rx) ?_
      exact obeys_ite (fun _ => busoff) fun _ => obeys_pure _
  case mainFunction.mainWrite =>
      exact obeys_ite (fun _ => withContext_obeys tx) fun _ => obeys_pure _
  case mainFunction.mainRead =>
      exact obeys_ite (fun _ => withContext_obeys rx) fun _ => obeys_pure _
  case mainFunction.mainBusOff =>
      exact obeys_ite (fun _ => withContext_obeys busoff) fun _ => obeys_pure _
  all_goals exact obeys_pure _

end Functions

section Runs
variable {s s' : State D} {held : Context → Bool}

def Held (hth : Nat) (held : Context → Bool) (s : State D) : Prop :=
  ∀ i, held i = true ↔ s.hthMutex hth = some i

/-- The mutex has been left to a context that has ended: nobody holds it, and the buffers of the
handle get no requests beside those there are. -/
structure Closed (cfg : Config) (hth : Nat) (i : Context) (before : List Request)
    (held : Context → Bool) (s : State D) : Prop where
  nobody : ∀ j, held j = false
  mutex : s.hthMutex hth = some i
  requests : ∃ more, s.requests = before ++ more ∧
    ∀ request ∈ more, ¬ Owns cfg hth request.buffer

theorem happen_mutex (m : Happening) : (happen cfg chip view s m).hthMutex = s.hthMutex ∧
    (happen cfg chip view s m).requests = s.requests := by
  rcases m with (_ | _ | ⟨store, frame⟩ | _) | _ | _
  · exact ⟨rfl, rfl⟩
  · exact ⟨rfl, rfl⟩
  · simp only [happen, record]
    split <;> exact ⟨rfl, rfl⟩
  · exact ⟨rfl, rfl⟩
  · exact ⟨rfl, rfl⟩
  · exact ⟨rfl, rfl⟩

/-- What a question does to the mutex of a handle and to the requests, and how the automaton of
who asks goes on. -/
inductive Effect (cfg : Config) (hth : Nat) (i : Context) (s s' : State D) (was now : Bool) : Prop
  | none (same : now = was) (mutex : s'.hthMutex hth = s.hthMutex hth)
      (requests : s'.requests = s.requests)
  | taken (free : s.hthMutex hth = none) (holds : now = true) (mutex : s'.hthMutex hth = some i)
      (requests : s'.requests = s.requests)
  | given (held : was = true) (ended : now = false) (mutex : s'.hthMutex hth = none)
      (requests : s'.requests = s.requests)
  | asked (request : Request) (same : now = was) (mutex : s'.hthMutex hth = s.hthMutex hth)
      (requests : s'.requests = s.requests ++ [request])
      (owner : Owns cfg hth request.buffer → was = true)

theorem perform_effect {was : Bool} {q : Query} (c : Choice) (ok : (mutexLaw cfg hth i).ok was q) :
    Effect cfg hth i s (perform chip s q c).2 was
      ((mutexLaw cfg hth i).next was q (perform chip s q c).1) := by
  cases q with
  | lockHth taker hth' =>
      obtain rfl : taker = i := ok
      by_cases free : s.hthMutex hth' = none
      · have taken : perform chip s (.lockHth taker hth') c = (true, { s with
            hthMutex := Function.update s.hthMutex hth' (some taker) }) := if_pos free
        rw [taken]
        by_cases same : hth' = hth
        · subst same
          exact .taken free (by simp [mutexLaw]) (Function.update_self _ _ _) rfl
        · exact .none (if_neg same) (Function.update_of_ne (Ne.symm same) _ _) rfl
      · have busy : perform chip s (.lockHth taker hth') c = (false, s) := if_neg free
        rw [busy]
        refine .none ?_ rfl rfl
        show (if hth' = hth then was || false else was) = was
        rw [Bool.or_false, ite_self]
  | unlockHth hth' =>
      by_cases same : hth' = hth
      · subst same
        exact .given (ok rfl) (if_pos rfl) (Function.update_self _ _ _) rfl
      · exact .none (if_neg same) (Function.update_of_ne (Ne.symm same) _ _) rfl
  | spiRead address count =>
      cases fault : c.fault <;> simp only [perform, fault] <;> exact .none rfl rfl rfl
  | spiWrite address words request =>
      cases fault : c.fault with
      | some junk =>
          simp only [perform, fault]
          exact .none rfl rfl rfl
      | none =>
          cases request with
          | none =>
              simp only [perform, fault]
              exact .none rfl rfl rfl
          | some request =>
              simp only [perform, fault]
              exact .asked request rfl rfl rfl fun owns =>
                ok request.buffer owns (Or.inr ⟨request, rfl, rfl⟩)
  | _ => exact .none rfl rfl rfl

theorem Effect.keeps_held {now : Bool} (effect : Effect cfg hth i s s' (held i) now)
    (holds : Held hth held s) : Held hth (Function.update held i now) s' := by
  have still (same : now = held i) (mutex : s'.hthMutex hth = s.hthMutex hth) :
      Held hth (Function.update held i now) s' := by
    rw [same, Function.update_eq_self]
    exact fun j => mutex ▸ holds j
  have changed (mine : now = true ↔ s'.hthMutex hth = some i)
      (theirs : ∀ j, j ≠ i → s.hthMutex hth ≠ some j ∧ s'.hthMutex hth ≠ some j) :
      Held hth (Function.update held i now) s' := by
    intro j
    by_cases same : j = i
    · subst same
      rwa [Function.update_self]
    · rw [Function.update_of_ne same, holds j]
      exact iff_of_false (theirs j same).1 (theirs j same).2
  cases effect with
  | none same mutex => exact still same mutex
  | taken free now mutex =>
      refine changed (iff_of_true now mutex) fun j apart => ?_
      rw [free, mutex]
      exact ⟨nofun, fun same => apart (Option.some.inj same).symm⟩
  | given taken ended mutex =>
      refine changed (iff_of_false (by rw [ended]; exact Bool.false_ne_true) ?_) fun j apart => ?_
      · rw [mutex]
        exact nofun
      · rw [(holds i).mp taken, mutex]
        exact ⟨fun same => apart (Option.some.inj same).symm, nofun⟩
  | asked request same mutex => exact still same mutex

theorem Effect.keeps_closed {owner : Context} {before : List Request} {now : Bool}
    (effect : Effect cfg hth i s s' (held i) now) (closed : Closed cfg hth owner before held s) :
    Closed cfg hth owner before (Function.update held i now) s' := by
  obtain ⟨nobody, mutex, more, requests, apart⟩ := closed
  have still (same : now = held i) : ∀ j, Function.update held i now j = false := by
    rw [same, Function.update_eq_self]
    exact nobody
  cases effect with
  | none same mutex' requests' =>
      exact ⟨still same, mutex'.trans mutex, more, requests'.trans requests, apart⟩
  | taken free => exact absurd (mutex.symm.trans free) (by simp)
  | given taken => exact absurd (taken.symm.trans (nobody i)) (by decide)
  | asked request same mutex' requests' mine =>
      refine ⟨still same, mutex'.trans mutex, more ++ [request], ?_, fun other member => ?_⟩
      · rw [requests', requests, List.append_assoc]
      · rcases List.mem_append.mp member with old | new
        · exact apart other old
        · rw [List.mem_singleton.mp new]
          exact fun owns => absurd ((mine owns).symm.trans (nobody i)) (by decide)

section Governs
variable (configured : WellConfigured cfg) (inside : hth < cfg.canHthObjectsCount)
  (returned : rest false) (left : cfg.publicIcomSupport = true → rest true)
include configured inside returned left

theorem held_governs :
    Governs (tolerant cfg chip view) (mutexLaw cfg hth) rest Context.priority (Held hth) where
  steps _ _ _ _ c holds _ ok checked :=
    ⟨perform_known checked, (perform_effect c ok).keeps_held holds⟩
  moves _ _ m holds _ i := (congrFun (happen_mutex m).1 hth).symm ▸ holds i
  starts s _ b start :=
    entry_obeys (fun _ => canWrite_obeys configured inside returned left) s b start

theorem closed_governs (owner : Context) (before : List Request) :
    Governs (tolerant cfg chip view) (mutexLaw cfg hth) rest Context.priority
      (Closed cfg hth owner before) where
  steps _ _ _ _ c closed _ ok checked :=
    ⟨perform_known checked, (perform_effect c ok).keeps_closed closed⟩
  moves _ _ m closed _ := by
    obtain ⟨nobody, mutex, more, requests, apart⟩ := closed
    exact ⟨nobody, (congrFun (happen_mutex m).1 hth).trans mutex, more,
      (happen_mutex m).2.trans requests, apart⟩
  starts s _ b start :=
    entry_obeys (fun _ => canWrite_obeys configured inside returned left) s b start

end Governs

variable {turns : List (Turn Context Choice Happening Entry)}

theorem after_append (before later : List (Turn Context Choice Happening Entry)) :
    after cfg chip view s (before ++ later) =
      run (Threads.turn (setting cfg chip view)) (after cfg chip view s before) later :=
  run_append _ _ _ _

theorem after_held (configured : WellConfigured cfg) (inside : hth < cfg.canHthObjectsCount)
    (tolerated : Guarded (Threads.turn (setting cfg chip view))
      (Threads.orderly (tolerant cfg chip view) Context.priority) (atRest s) turns) :
    (after cfg chip view s turns).Governed (mutexLaw cfg hth) (fun _ => True) (Held hth) :=
  Threads.run_governed (held_governs configured inside trivial fun _ => trivial)
    ⟨fun i => decide (s.hthMutex hth = some i), fun _ => decide_eq_true_iff, fun _ => trivial⟩
    tolerated

def benchIcom : List (Turn Context Choice Happening Entry) :=
  [.move (.switchIcom 1), .start .task (.write benchCall)] ++ benchSteps .task 2

def benchAgain : List (Turn Context Choice Happening Entry) :=
  [.move (.switchIcom 0), .start .task (.write benchCall)] ++ benchSteps .task 20

/-- Without pretended networking a context gives the mutex back before it ends. -/
theorem mutex_returned (configured : WellConfigured cfg) (inside : hth < cfg.canHthObjectsCount)
    (plain : cfg.publicIcomSupport = false) (free : s.hthMutex hth = none)
    (tolerated : Tolerated cfg chip view s turns)
    (ended : (after cfg chip view s turns).programs i = .done ()) :
    (after cfg chip view s turns).shared.hthMutex hth ≠ some i := by
  have start : (atRest s).Governed (mutexLaw cfg hth) (fun held => held = false) (Held hth) := by
    refine ⟨fun _ => false, fun j => ?_, fun _ => rfl⟩
    show _ ↔ s.hthMutex hth = some j
    rw [free]
    exact iff_of_false Bool.false_ne_true nofun
  have governs : Governs (tolerant cfg chip view) (mutexLaw cfg hth) (fun held => held = false)
      Context.priority (Held hth) :=
    held_governs configured inside rfl fun icom =>
      absurd (plain.symm.trans icom) Bool.false_ne_true
  obtain ⟨held, holds, conforms⟩ := Threads.run_governed governs start tolerated.2
  have here : Conforms _ _ (held i) ((after cfg chip view s turns).programs i) := conforms i
  rw [ended] at here
  have none : held i = false := here
  exact fun mine => absurd (none.symm.trans ((holds i).mpr mine)) Bool.false_ne_true

theorem bench_returned :
    (after { benchConfig with publicIcomSupport := false } (tcan benchConfig) Tcan.view benchStart
        ([.start .task (.write benchCall)] ++ benchSteps .task 8)).shared.hthMutex 0 ≠
      some .task :=
  mutex_returned
    ⟨bench_configured.txBuffers, bench_configured.fifo0, bench_configured.fifo1,
      bench_configured.rxBuffers, bench_configured.bitRateSwitch, bench_configured.inside,
      bench_configured.apart⟩ (by decide) rfl rfl (by decide +kernel) rfl

end Runs

end AnchorNode.CanDrv
