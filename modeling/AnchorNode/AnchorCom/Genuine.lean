import AnchorNode.AnchorCom.Preservation

/-! Runs in which the buffers that are in use are left alone: what is copied in a transmission is
one genuine string. -/

namespace AnchorNode.AnchorCom.Tx

open AnchorNode.Lib

variable {cfg : Config} {env : Env} {s t : State} {i : Nat}

section Calls

theorem QueueChange.front_key (change : QueueChange cfg s.toCore t.toCore)
    (filled : (s.queue i).isEmpty = false)
    (steady : (t.queue i).isEmpty = false ∧ (t.queue i).head = (s.queue i).head) :
    (t.front i).key = (s.front i).key := by
  cases change with
  | none queue =>
      rw [Core.front, queue]
      rfl
  | replaced q e bound filled' queue next same =>
      by_cases here : i = q
      · subst here
        rw [Core.front, queue, Function.update_self]
        simpa [Ring.front] using same
      · rw [Core.front, queue, Function.update_of_ne here]
        rfl
  | popped q bound filled' queue =>
      by_cases here : i = q
      · -- the head of a queue moves when its front entry leaves
        subst here
        have moved := steady.2
        rw [queue, Function.update_self] at moved
        have next : ((s.queue i).head + 1) % 16 = (s.queue i).head := moved
        omega
      · rw [Core.front, queue, Function.update_of_ne here]
        rfl
  | pushed q m room queue =>
      by_cases here : i = q
      · subst here
        rw [Core.front, queue, Function.update_self, Ring.push_front _ _ room filled]
        rfl
      · rw [Core.front, queue, Function.update_of_ne here]
        rfl

theorem Linked.filled (linked : Linked cfg s) (call : inCall s i = true) :
    i < cfg.numLlTx ∧ (s.queue i).isEmpty = false := by
  simp only [inCall, Bool.and_eq_true, Option.any_eq_true, beq_iff_eq] at call
  obtain ⟨⟨_, pointer⟩, task, at', rfl, stage⟩ := call
  obtain ⟨h, head⟩ := Option.isSome_iff_exists.mp pointer
  have sound := linked.task task at'
  have later : task.stage ≠ .head := by
    intro first
    rw [first] at stage
    cases stage
  exact ⟨sound.peer, (sound.pointer later h head).1⟩

def Calling (s : State) (i : Nat) : Prop :=
  inCall s i = true ∨ (∃ todo, s.task = some ⟨i, .request, todo⟩) ∧
    s.txHeadPtr = some (s.queue i).head ∧ (s.queue i).isEmpty = false ∧
    (s.front i).queueState = .transReady

theorem advance_inCall {task : Task} (call : inCall { s with task := task.advance } i = true) :
    s.calling = true ∧ s.txHeadPtr.isSome = true ∧ task.peer = i ∧ (task.stage = .request ∨
      task.stage = .answer ∨ task.stage = .requestImc ∨ task.stage = .answerImc) := by
  obtain ⟨peer, stage, todo⟩ := task
  simp only [inCall, Bool.and_eq_true] at call
  obtain ⟨⟨calling, pointer⟩, now⟩ := call
  refine ⟨calling, pointer, ?_⟩
  cases stage with
  | request | answer | requestImc | answerImc =>
      simpa [Task.advance, Stage.next, Stage.inCall] using now
  | drop => cases todo <;> simp [Task.advance, Stage.next, Task.begin, Stage.inCall] at now
  | _ => simp [Task.advance, Stage.next, Stage.inCall] at now

theorem step_calling (linked : Linked cfg s) (op : Op)
    (call : inCall (step cfg env s op) i = true) : Calling s i ∧
      ∀ j, (s.queue j).isEmpty = false → ((step cfg env s op).queue j).isEmpty = false ∧
        ((step cfg env s op).queue j).head = (s.queue j).head := by
  cases op with
  | transmit args =>
      have steady := transmit_steady cfg args s
      have same := inCall_same steady.task steady.pointer (transmit_calling cfg args s) i
      exact ⟨Or.inl (same.symm.trans call), steady.head⟩
  | copyTxData id args =>
      have steady := copyTxData_steady cfg id args s
      have same := inCall_same steady.task steady.pointer (copyTxData_calling cfg id args s) i
      exact ⟨Or.inl (same.symm.trans call), steady.head⟩
  | tpTxConfirmation k id result =>
      have steady := tpTxConfirmation_steady cfg k id result s
      have same := inCall_same steady.task steady.pointer
        (tpTxConfirmation_calling cfg k id result s) i
      exact ⟨Or.inl (same.symm.trans call), steady.head⟩
  | cyclicTx =>
      simp only [step] at call ⊢
      split at call
      · exfalso
        revert call
        cases servedPeers cfg env s <;> simp [inCall, Task.begin, Stage.inCall]
      · rename_i busy
        rw [if_neg busy]
        exact ⟨Or.inl call, fun j filled => ⟨filled, rfl⟩⟩
  | resume =>
      simp only [step] at call ⊢
      split at call
      · rename_i idle
        simp only
        exact ⟨Or.inl call, fun j filled => ⟨filled, trivial⟩⟩
      · rename_i task at'
        have sound := linked.task task at'
        obtain ⟨calling, pointer, rfl, which⟩ := advance_inCall call
        have first : task.stage ≠ .head := by rcases which with h | h | h | h <;> simp [h]
        have last : task.stage ≠ .drop := by rcases which with h | h | h | h <;> simp [h]
        simp only
        refine ⟨?_, (execute_steady cfg env task.peer s first last).head⟩
        rcases which with request | later
        · right
          rw [request] at calling pointer
          simp only [execute, atHead] at calling pointer
          split at calling
          · rename_i none
            simp [none] at pointer
          · rename_i h head
            obtain ⟨filled, rfl⟩ := sound.pointer first h head
            unfold startRequest at calling
            split at calling
            · rename_i ready
              exact ⟨⟨task.todo, by rw [at', ← request]⟩, head, filled, ready⟩
            · cases calling
        · left
          obtain ⟨_, _, pointer', calling'⟩ := answers_quiet cfg env task.peer s task.stage later
          rw [calling'] at calling
          rw [pointer'] at pointer
          have stage : task.stage.inCall = true := by
            rcases later with h | h | h <;> rw [h] <;> rfl
          simp [inCall, at', pointer, calling, stage]

end Calls

section Steps

/-- What holds between any two steps, and of a call of the lower layer that is under way. -/
structure Sound (cfg : Config) (env : Env) (s : State) : Prop where
  linked : Linked cfg s
  kept : Kept cfg env s.toCore
  call : ∀ i, inCall s i = true → Sealed cfg env s.toCore i (s.front i)

theorem Kept.part1 (kept : Kept cfg env s.toCore) (atFront : AtFront cfg s i) :
    Kept cfg env (txPart1 cfg env i (s.queue i).head s).toCore := by
  by_cases queued : (s.front i).queueState = .queued
  · have holds := kept.stages i atFront.bound _ (front_mem atFront.filled) (by simp [queued])
    rcases txPart1_worked atFront queued with ⟨e', buf', len', events, worked⟩ |
      ⟨u, e', buf', len', events, first, middle, _, e'', buf'', len'', events', second⟩
    · exact (kept.worked atFront worked holds).kept
    · have formatted := (kept.worked atFront first holds).kept
      have front : u.front i = e' := by
        simp [Core.front, first.becomes, Ring.front]
      -- between the two, the buffer holds what is to be encrypted
      have ready : Stage.holds cfg env u.log i (u.front i) (u.buffer i (u.front i).msgIdx)
          (u.msgTxInfo i (u.front i).msgIdx).length := by
        have log : u.log = s.log ++ events := by rw [first.becomes]
        rw [front, log, first.places.1, first.places.2]
        have waiting : (s.front i).queueState ≠ .encReady := by simp [queued]
        exact (first.work.holds atFront.own.msgIdx holds).resolve_right fun both => waiting both.1
      exact (formatted.worked middle second ready).kept
  · rw [txPart1_other queued]
    exact kept

theorem step_preserved (sound : Sound cfg env s) (wired : ImcWired cfg) {op : Op}
    (undisturbed : Undisturbed cfg s op) (other : ∀ task, s.task = some task →
      op = .resume → task.stage ≠ .part1) :
    Preserved cfg env s.toCore (step cfg env s op).toCore ∧
      QueueChange cfg s.toCore (step cfg env s op).toCore := by
  have preserves : ∀ u, Move cfg env (Undisturbed cfg) s u → Unencrypted s u →
      Preserved cfg env s.toCore u.toCore ∧ QueueChange cfg s.toCore u.toCore :=
    fun u move none => ⟨move.preserved wired sound.call none sound.kept, move.queueChange⟩
  have still : Preserved cfg env s.toCore s.toCore ∧ QueueChange cfg s.toCore s.toCore :=
    preserves s (Move.still rfl) (Unencrypted.same rfl)
  cases op with
  | transmit args =>
      exact preserves _ (transmit_move args undisturbed) (transmit_unencrypted cfg args s)
  | copyTxData id args =>
      exact preserves _ (copyTxData_move sound.linked.queued id args undisturbed)
        (copyTxData_unencrypted cfg id args s)
  | tpTxConfirmation k id result =>
      exact preserves _ (tpTxConfirmation_move sound.linked.queued k id result undisturbed)
        (tpTxConfirmation_unencrypted cfg k id result s)
  | cyclicTx =>
      simp only [step]
      split <;> exact still
  | resume =>
      simp only [step]
      split
      · exact still
      · rename_i task at'
        have stage := other task at' rfl
        have executed := preserves (execute cfg env task.peer s task.stage)
          (execute_move sound.linked at' undisturbed stage)
          (execute_unencrypted cfg env task.peer s stage)
        exact executed

theorem step_kept (sound : Sound cfg env s) (wired : ImcWired cfg) {op : Op}
    (undisturbed : Undisturbed cfg s op) : Kept cfg env (step cfg env s op).toCore := by
  by_cases part1 : op = .resume ∧ ∃ task, s.task = some task ∧ task.stage = .part1
  · obtain ⟨rfl, task, at', stage⟩ := part1
    simp only [step, at', stage]
    rcases atHead_cases sound.linked at' (by simp [stage]) (txPart1 cfg env task.peer) with
      same | ⟨atFront, _, same⟩
    · change Kept cfg env (atHead s (txPart1 cfg env task.peer)).toCore
      rw [same]
      exact sound.kept
    · change Kept cfg env (atHead s (txPart1 cfg env task.peer)).toCore
      rw [same]
      exact sound.kept.part1 atFront
  · apply (step_preserved sound wired undisturbed _).1.kept
    intro task at' resume stage
    exact part1 ⟨resume, task, at', stage⟩

theorem Calling.stage (calling : Calling s i) {task : Task} (at' : s.task = some task) :
    task.stage ≠ .part1 := by
  intro part1
  rcases calling with now | ⟨⟨todo, same⟩, _⟩
  · simp [inCall, at', part1, Stage.inCall] at now
  · rw [at'] at same
    rw [Option.some.inj same] at part1
    cases part1

theorem step_sound (sound : Sound cfg env s) (wired : ImcWired cfg) {op : Op}
    (undisturbed : Undisturbed cfg s op) : Sound cfg env (step cfg env s op) := by
  refine ⟨step_linked sound.linked op, step_kept sound wired undisturbed, ?_⟩
  intro i call
  obtain ⟨calling, steady⟩ := step_calling sound.linked op call
  have before : i < cfg.numLlTx ∧ (s.queue i).isEmpty = false ∧
      Sealed cfg env s.toCore i (s.front i) := by
    rcases calling with now | ⟨⟨todo, at'⟩, _, filled, ready⟩
    · obtain ⟨bound, filled⟩ := sound.linked.filled now
      exact ⟨bound, filled, sound.call i now⟩
    · have bound : i < cfg.numLlTx := (sound.linked.task _ at').peer
      exact ⟨bound, filled, sound.kept.sealed i bound _ (front_mem filled) (Or.inl ready)⟩
  obtain ⟨bound, filled, ready⟩ := before
  obtain ⟨preserved, change⟩ := step_preserved sound wired undisturbed
    fun task at' _ => calling.stage at'
  have stays := steady i filled
  exact preserved.fronts i bound filled stays.1 (change.front_key filled stays) ready

theorem start_sound (s : State) : Sound cfg env (start cfg s) := by
  have linked : Linked cfg (start cfg s) := start_linked s
  have empty : ∀ i < cfg.numLlTx, (start cfg s).entries i = [] := by
    intro i bound
    simp [Core.entries, start, init, bound]
  refine ⟨linked, ⟨?_, ?_, ?_, ?_, ?_, trivial⟩, ?_⟩
  · intro i bound
    rw [Core.keys, empty i bound]
    exact List.Pairwise.nil
  · intro i bound e member
    rw [empty i bound] at member
    cases member
  · intro i bound e member
    rw [empty i bound] at member
    cases member
  · intro i bound
    apply FlagsAt.idle
    · intro c channel
      simp [Core.flag, start, init, bound, channel]
    · intro _
      rw [Ring.isEmpty_iff]
      exact empty i bound
  · intro c channel i bound window member
    cases member
  · intro i call
    cases call

theorem run_sound (s₀ : State) {ops : List Op} (wired : ImcWired cfg)
    (undisturbed : Guarded (step cfg env) (Undisturbed cfg) (start cfg s₀) ops) :
    Sound cfg env (run (step cfg env) (start cfg s₀) ops) := by
  have preserved : ∀ s op, Sound cfg env s → Undisturbed cfg s op →
      Sound cfg env (step cfg env s op) := fun s op sound allowed => step_sound sound wired allowed
  exact guarded_invariant preserved (start_sound s₀) undisturbed

end Steps

/-- In every run in which no buffer that is in use is stored into, no transmission is started while
another one is open on the same channel and peer, and the lower layer copies in open transmissions
only, everything that is copied continues, in its transmission, one string that has been
formatted, encrypted if necessary and authenticated from the data of its request. The offset is
not past the stored length while a transmission is open, nor is that of the next copy. With the
last copy of a transmission this is one string for all of them. -/
theorem transmissions_genuine (cfg : Config) (env : Env) (s₀ : State) (ops : List Op)
    (wired : ImcWired cfg)
    (undisturbed : Guarded (step cfg env) (Undisturbed cfg) (start cfg s₀) ops) :
    let s := run (step cfg env) (start cfg s₀) ops
    (∀ before after c i retry bytes, s.log = before ++ .copied c i retry bytes :: after →
      windowsOf cfg before c i ≠ [] ∧
      ∀ window ∈ windowsOf cfg before c i, ∃ wire, Genuine cfg env before window.ticket wire ∧
        wire.length = window.length ∧ window.upTo retry ++ bytes <+: wire) ∧
    (∀ c < cfg.tpChMax, ∀ i < cfg.numLlTx, windowsOf cfg s.log c i ≠ [] →
      (s.chTxInfo c i).txOffset ≤
        (s.msgTxInfo (sourceOf cfg c i) (s.chTxInfo c i).txMsgIdx).length) ∧
    ∀ op c i offset, Undisturbed cfg s op → copying cfg s op = some (c, i, offset) →
      offset ≤ (s.msgTxInfo (sourceOf cfg c i) (s.chTxInfo c i).txMsgIdx).length := by
  intro s
  have kept : Kept cfg env s.toCore := (run_sound s₀ wired undisturbed).kept
  have stored : ∀ c < cfg.tpChMax, ∀ i < cfg.numLlTx, windowsOf cfg s.log c i ≠ [] →
      (s.chTxInfo c i).txOffset ≤
        (s.msgTxInfo (sourceOf cfg c i) (s.chTxInfo c i).txMsgIdx).length := by
    intro c channel i bound opened
    obtain ⟨window, member⟩ := List.exists_mem_of_ne_nil _ opened
    exact (kept.windows c channel i bound window member).offset_le
  refine ⟨?_, stored, ?_⟩
  · intro before after c i retry bytes log
    have sliced := kept.sliced
    rw [log] at sliced
    exact Recorded.allows sliced
  · intro op c i offset allowed copies
    obtain ⟨channel, bound⟩ := copying_bounds copies
    exact (allowed.back _ copies).trans (stored c channel i bound (allowed.within _ copies))

def slicedRun : List Op :=
  .transmit (sampleRequest 0 0x10 5) :: sampleCycle ++
    [.copyTxData 0 (some ⟨4, true, none⟩), .copyTxData 0 (some ⟨3, true, some 2⟩),
      .copyTxData 0 (some ⟨64, true, none⟩),
      .tpTxConfirmation 0 0 .ok]

theorem transmissions_genuine_sliced :
    let s := run (step (sampleConfig .masterMcu) promptEnv)
      (start (sampleConfig .masterMcu) blank) slicedRun
    (∀ before after c i retry bytes, s.log = before ++ .copied c i retry bytes :: after →
      windowsOf (sampleConfig .masterMcu) before c i ≠ [] ∧
      ∀ window ∈ windowsOf (sampleConfig .masterMcu) before c i,
        ∃ wire, Genuine (sampleConfig .masterMcu) promptEnv before window.ticket wire ∧
          wire.length = window.length ∧ window.upTo retry ++ bytes <+: wire) ∧
    (∀ c < 2, ∀ i < 3, windowsOf (sampleConfig .masterMcu) s.log c i ≠ [] →
      (s.chTxInfo c i).txOffset ≤ (s.msgTxInfo (sourceOf (sampleConfig .masterMcu) c i)
        (s.chTxInfo c i).txMsgIdx).length) ∧
    ∀ op c i offset, Undisturbed (sampleConfig .masterMcu) s op →
      copying (sampleConfig .masterMcu) s op = some (c, i, offset) →
        offset ≤ (s.msgTxInfo (sourceOf (sampleConfig .masterMcu) c i)
          (s.chTxInfo c i).txMsgIdx).length :=
  transmissions_genuine (sampleConfig .masterMcu) promptEnv blank slicedRun
    (by unfold ImcWired; decide) (by decide +kernel)

def overwritingRequest : TransmitArgs := ⟨0, 0x11, 4, some fun _ => 6, 0, none, true⟩

def overwrittenRun : List Op :=
  .transmit (sampleRequest 0 0x11 4) :: sampleCycle ++
    [.copyTxData 8 (some ⟨3, true, none⟩), .transmit overwritingRequest]

def acceptsFives : Event → Bool
  | .accepted 0 i m payload => i == 0 && m == 1 && payload == [5, 5, 5, 5]
  | _ => true

/-- The next slice is of the new data, behind three bytes of the old ones, without encryption or
authentication of its own. -/
theorem overwritten_transmission_mixed :
    ¬ ∀ before after c i bytes,
      (run (step (sampleConfig .masterMcu) promptEnv) (start (sampleConfig .masterMcu) blank)
        (overwrittenRun ++ [.copyTxData 8 (some ⟨2, true, none⟩)])).log =
          before ++ .copied c i none bytes :: after →
        ∀ window ∈ windowsOf (sampleConfig .masterMcu) before c i,
          ∃ wire, Genuine (sampleConfig .masterMcu) promptEnv before window.ticket wire ∧
            wire.length = window.length ∧ window.taken ++ bytes <+: wire := by
  intro claim
  let before := (run (step (sampleConfig .masterMcu) promptEnv)
    (start (sampleConfig .masterMcu) blank) overwrittenRun).log
  have log : (run (step (sampleConfig .masterMcu) promptEnv)
      (start (sampleConfig .masterMcu) blank)
      (overwrittenRun ++ [.copyTxData 8 (some ⟨2, true, none⟩)])).log =
        before ++ .copied 1 0 none [6] :: [] := by
    decide +kernel
  have here : (⟨0, 10, [0x11, 0, 5]⟩ : Window) ∈
      windowsOf (sampleConfig .masterMcu) before 1 0 := by
    decide +kernel
  obtain ⟨wire, genuine, _, taken⟩ := claim _ _ _ _ _ log _ here
  obtain ⟨i, m, payload, msg, fresh, truncFresh, cmac, composed, _, _, _, rfl⟩ := genuine
  have fives : before.all acceptsFives = true := by decide +kernel
  have first := List.all_eq_true.mp fives _ composed.accepted
  simp only [acceptsFives, Bool.and_eq_true, beq_iff_eq] at first
  obtain ⟨⟨rfl, rfl⟩, rfl⟩ := first
  have text : msg.text = [5, 5, 5, 5] := composed.text
  rw [Secured.wire, text] at taken
  simp at taken

end AnchorNode.AnchorCom.Tx
