import AnchorNode.AnchorCom.Bounds

/-! Only the first part of the cyclic function encrypts. -/

namespace AnchorNode.AnchorCom.Tx

open AnchorNode.Lib

variable {cfg : Config} {env : Env} {s t : State}

def Event.isEncrypted : Event → Bool
  | .encrypted _ _ _ _ => true
  | _ => false

def Unencrypted (s t : State) : Prop :=
  t.log.countP Event.isEncrypted = s.log.countP Event.isEncrypted

theorem Unencrypted.of_log (events : List Event) (log : t.log = s.log ++ events)
    (none : ∀ e ∈ events, e.isEncrypted = false) : Unencrypted s t := by
  have zero : events.countP Event.isEncrypted = 0 := by
    rw [List.countP_eq_zero]
    intro e member
    rw [none e member]
    exact Bool.false_ne_true
  rw [Unencrypted, log, List.countP_append, zero, Nat.add_zero]

theorem Unencrypted.of_event (e : Event) (log : t.log = s.log ++ [e])
    (none : e.isEncrypted = false) : Unencrypted s t := by
  apply Unencrypted.of_log [e] log
  intro f member
  rwa [List.mem_singleton.mp member]

theorem Unencrypted.trans {u : State} (first : Unencrypted s t) (second : Unencrypted t u) :
    Unencrypted s u := Eq.trans second first

theorem Unencrypted.same (log : t.log = s.log) : Unencrypted s t := by rw [Unencrypted, log]

theorem removeTxQueueHead_log (s : State) (q : Nat) : (removeTxQueueHead s q).log = s.log := by
  unfold removeTxQueueHead
  split <;> rfl

theorem lookAtHead_unencrypted (q : Nat) (s : State) : Unencrypted s (lookAtHead q s) := by
  unfold lookAtHead
  split
  · exact .same rfl
  · simp only
    split
    · exact .of_event _ (congrArg (· ++ [_]) (removeTxQueueHead_log _ _)) rfl
    · exact .same rfl
    · exact .same rfl

theorem txPart2_unencrypted (cfg : Config) (env : Env) (q h : Nat) (s : State) :
    Unencrypted s (txPart2 cfg env q h s) := by
  unfold txPart2
  split
  · simp only
    split
    · apply Unencrypted.of_log [_, _, _, _]
      · simp only [txStartCmac, appendTrailer, State.emit_log, State.setEntry_log,
          State.setInfo_log, State.store_log, List.append_assoc]
        rfl
      · simp [Event.isEncrypted]
    · exact .of_event _ rfl rfl
    · exact .of_event _ rfl rfl
    · exact .of_event _ rfl rfl
  · exact .same rfl

theorem takeAnswer_unencrypted (cfg : Config) (env : Env) (q h c i : Nat) (s : State) :
    Unencrypted s (takeAnswer cfg env q h c i s) := by
  simp only [takeAnswer]
  split
  · exact .of_event _ rfl rfl
  · exact .of_event _ rfl rfl

theorem dropHead_unencrypted (cfg : Config) (q h : Nat) (s : State) :
    Unencrypted s (dropHead cfg q h s) := by
  simp only [dropHead]
  split
  · exact .of_event _ (congrArg (· ++ [_]) (removeTxQueueHead_log _ _)) rfl
  · exact .same rfl

theorem execute_unencrypted (cfg : Config) (env : Env) (q : Nat) (s : State) {stage : Stage}
    (other : stage ≠ .part1) : Unencrypted s (execute cfg env q s stage) := by
  have head : ∀ act : Nat → State → State, (∀ h, Unencrypted s (act h s)) →
      Unencrypted s (atHead s act) := by
    intro act acts
    unfold atHead
    split
    · exact .same rfl
    · exact acts _
  cases stage with
  | head => exact lookAtHead_unencrypted q s
  | part1 => exact absurd rfl other
  | part2 => exact head _ fun h => txPart2_unencrypted cfg env q h s
  | request =>
      apply head
      intro h
      unfold startRequest
      split
      · exact .of_event _ rfl rfl
      · exact .same rfl
  | answer =>
      apply head
      intro h
      split
      · exact takeAnswer_unencrypted cfg env q h _ _ s
      · exact .same rfl
  | requestImc =>
      apply head
      intro h
      unfold startImcRequest
      split
      · exact .of_event _ rfl rfl
      · exact .same rfl
  | answerImc =>
      apply head
      intro h
      split
      · exact takeAnswer_unencrypted cfg env q h _ _ s
      · exact .same rfl
  | result =>
      apply head
      intro h
      simp only [requestResult]
      split
      · split <;> exact .same rfl
      · exact .same rfl
  | drop => exact head _ fun h => dropHead_unencrypted cfg q h s

theorem transmit_unencrypted (cfg : Config) (args : TransmitArgs) (s : State) :
    Unencrypted s (transmit cfg args s).1 := by
  unfold transmit
  split
  · rename_i event refused
    obtain ⟨_, _, _, rfl⟩ := checkTransmit_error refused
    exact .of_event _ rfl rfl
  · rename_i m _
    split
    · obtain ⟨events, log, none⟩ := acceptData_log (P := fun e => e.isEncrypted = false)
        (fun _ _ _ _ => rfl) (fun _ _ _ _ => rfl) cfg args m s
      exact .of_log events log none
    · exact .same rfl

theorem copyTxData_unencrypted (cfg : Config) (id : Nat) (args : Option CopyArgs) (s : State) :
    Unencrypted s (copyTxData cfg id args s).1 := by
  unfold copyTxData
  split
  · exact .of_event _ rfl rfl
  · rename_i args
    split
    · exact .of_event _ rfl rfl
    · rename_i c i _
      simp only
      split
      · exact .of_event _ rfl rfl
      · cases given : args.hasBuffer with
        | true =>
            rw [copyBytes_given _ given]
            split
            · split
              · exact .of_event _ rfl rfl
              · exact .of_event _ rfl rfl
            · exact .of_event _ rfl rfl
        | false => exact .same (by simp [copyBytes, given])

theorem tpTxConfirmation_unencrypted (cfg : Config) (k id : Nat) (result : StdReturn)
    (s : State) : Unencrypted s (tpTxConfirmation cfg k id result s) := by
  unfold tpTxConfirmation
  split
  · exact .of_event _ rfl rfl
  · rename_i c i _
    simp only
    split
    · split
      · split
        · exact .of_event _ rfl rfl
        · exact .of_event _ rfl rfl
      · exact .of_log [_, _] (List.append_assoc _ _ _) (by simp [Event.isEncrypted])
    · split
      · split
        · exact .of_event _ rfl rfl
        · exact .of_event _ rfl rfl
      · exact .of_event _ rfl rfl

end AnchorNode.AnchorCom.Tx
