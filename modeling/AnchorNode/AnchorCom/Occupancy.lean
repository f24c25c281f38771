import AnchorNode.AnchorCom.TxRuns

/-! The state of a transmit buffer and the entries of its message in the queue. -/

namespace AnchorNode.AnchorCom.Tx

open AnchorNode.Lib

variable {cfg : Config} {env : Env} {s t : State}

def held (s : Core) (i m : Nat) : Nat := (s.entries i).countP fun e => e.msgIdx == m

/-- A buffer has data exactly if its message is queued once, and is idle exactly if it is
not queued. -/
def Agrees (cfg : Config) (s : Core) : Prop :=
  ∀ i < cfg.numLlTx, ∀ m < cfg.numMsg,
    ((s.msgTxInfo i m).bufState = .hasData ↔ held s i m = 1) ∧
      ((s.msgTxInfo i m).bufState ≠ .hasData →
        (s.msgTxInfo i m).bufState = .idle ∧ held s i m = 0)

/-- A request that is stored goes to the index it was given, finds that buffer idle, and
finds room in the queue. -/
def StoresPlainly (cfg : Config) (s : State) (op : Op) : Prop :=
  ∀ r, storing cfg s op = some r →
    otherEndIdxToUse cfg r.2 r.1.otherEndIdx = r.1.otherEndIdx ∧
      (s.msgTxInfo r.1.otherEndIdx r.2).bufState = .idle ∧
      (s.queue r.1.otherEndIdx).isFull = false

instance (s : State) (op : Op) : Decidable (StoresPlainly cfg s op) :=
  inferInstanceAs (Decidable (∀ r, storing cfg s op = some r → _))

theorem held_keys (s : Core) (i m : Nat) : held s i m = (s.keys i).countP fun k => k.1 == m := by
  simp only [held, Core.keys, List.countP_map]
  rfl

theorem held_eq {s t : Core} {i : Nat} (keys : t.keys i = s.keys i) (m : Nat) :
    held t i m = held s i m := by
  rw [held_keys, held_keys, keys]

def AgreesAt (s : Core) (i m : Nat) : Prop :=
  (s.msgTxInfo i m).bufState = .hasData ∧ held s i m = 1 ∨
    (s.msgTxInfo i m).bufState = .idle ∧ held s i m = 0

theorem agreesAt_iff (s : Core) (i m : Nat) :
    AgreesAt s i m ↔ ((s.msgTxInfo i m).bufState = .hasData ↔ held s i m = 1) ∧
      ((s.msgTxInfo i m).bufState ≠ .hasData →
        (s.msgTxInfo i m).bufState = .idle ∧ held s i m = 0) := by
  unfold AgreesAt
  cases (s.msgTxInfo i m).bufState with
  | idle => simp; omega
  | hasData => simp

theorem AgreesAt.kept {s t : Core} {i m : Nat} (agrees : AgreesAt s i m)
    (state : (t.msgTxInfo i m).bufState = (s.msgTxInfo i m).bufState)
    (keys : t.keys i = s.keys i) : AgreesAt t i m := by
  unfold AgreesAt at agrees ⊢
  rw [state, held_eq keys m]
  exact agrees

theorem AgreesAt.popped {t : Core} {i m : Nat} (atFront : AtFront cfg s i)
    (agrees : AgreesAt s.toCore i m)
    (queue : t.queue = Function.update s.queue i (s.queue i).pop)
    (idle : (t.msgTxInfo i (s.front i).msgIdx).bufState = .idle)
    (other : m ≠ (s.front i).msgIdx →
      (t.msgTxInfo i m).bufState = (s.msgTxInfo i m).bufState) : AgreesAt t i m := by
  have count : held s.toCore i m = held t i m + if (s.front i).msgIdx == m then 1 else 0 := by
    simp only [held, Core.entries, Core.front, queue, Function.update_self,
      Ring.toList_cons _ atFront.filled, List.countP_cons]
    rfl
  by_cases same : m = (s.front i).msgIdx
  · subst same
    rw [beq_self_eq_true, if_pos rfl] at count
    have one : held t i (s.front i).msgIdx = 0 := by
      rcases agrees with ⟨_, one⟩ | ⟨_, zero⟩ <;> omega
    exact Or.inr ⟨idle, one⟩
  · rw [if_neg (by simpa using Ne.symm same), Nat.add_zero] at count
    unfold AgreesAt at agrees ⊢
    rw [other same, ← count]
    exact agrees

theorem AgreesAt.pushed {s t : Core} {i m k : Nat} (room : (s.queue i).isFull = false)
    (agrees : AgreesAt s i m) (idle : (s.msgTxInfo i k).bufState = .idle)
    (queue : t.queue = Function.update s.queue i ((s.queue i).push (newEntry cfg s i k)))
    (full : (t.msgTxInfo i k).bufState = .hasData)
    (other : m ≠ k → (t.msgTxInfo i m).bufState = (s.msgTxInfo i m).bufState) :
    AgreesAt t i m := by
  have count : held t i m = held s i m + if k == m then 1 else 0 := by
    simp only [held, Core.entries, queue, Function.update_self, Ring.push_toList _ _ room,
      List.countP_append, List.countP_singleton]
    rfl
  by_cases same : m = k
  · subst same
    rw [beq_self_eq_true, if_pos rfl] at count
    rcases agrees with ⟨data, _⟩ | ⟨_, zero⟩
    · rw [idle] at data
      cases data
    · exact Or.inl ⟨full, by omega⟩
  · rw [if_neg (by simpa using Ne.symm same), Nat.add_zero] at count
    unfold AgreesAt at agrees ⊢
    rw [other same, count]
    exact agrees

theorem storeData_bufState (cfg : Config) (args : TransmitArgs) (m : Nat) (s : State)
    (j k : Nat) : ((storeData cfg args m s).msgTxInfo j k).bufState =
      if j = args.otherEndIdx ∧ k = m then .hasData else (s.msgTxInfo j k).bufState := by
  have stores : ∀ u : State, u.msgTxInfo = s.msgTxInfo →
      ((((u.setInfo (otherEndIdxToUse cfg m args.otherEndIdx) m
          { u.msgTxInfo (otherEndIdxToUse cfg m args.otherEndIdx) m with
            length := u16 (args.length + args.length2) })).setInfo args.otherEndIdx m
          { (u.setInfo (otherEndIdxToUse cfg m args.otherEndIdx) m
              { u.msgTxInfo (otherEndIdxToUse cfg m args.otherEndIdx) m with
                length := u16 (args.length + args.length2) }).msgTxInfo args.otherEndIdx m with
            bufState := .hasData }).msgTxInfo j k).bufState =
        if j = args.otherEndIdx ∧ k = m then .hasData else (s.msgTxInfo j k).bufState := by
    intro u same
    simp only [State.setInfo_msgTxInfo, same, Function.update_apply]
    grind
  simp only [storeData]
  split
  · exact stores _ rfl
  · exact stores _ rfl

theorem move_agrees {i m : Nat} (move : Move cfg env (StoresPlainly cfg) s t)
    (agrees : AgreesAt s.toCore i m) : AgreesAt t.toCore i m := by
  have kept : ∀ u : Core, t.toCore = u → u.keys i = s.keys i →
      (u.msgTxInfo i m).bufState = (s.msgTxInfo i m).bufState → AgreesAt t.toCore i m := by
    intro u becomes keys state
    rw [becomes]
    exact agrees.kept state keys
  have leaves : ∀ (j : Nat) (u : Core), AtFront cfg s j → t.toCore = u →
      u.queue = Function.update s.queue j (s.queue j).pop →
      (∀ k l, (u.msgTxInfo k l).bufState =
        if k = j ∧ l = (s.front j).msgIdx then .idle else (s.msgTxInfo k l).bufState) →
      AgreesAt t.toCore i m := by
    intro j u atFront becomes queue state
    by_cases here : i = j
    · subst here
      rw [becomes]
      apply agrees.popped atFront queue
      · simp [state]
      · intro other
        simp [state, other]
    · apply kept u becomes
      · exact keys_eq (by simp [queue, here])
      · simp [state, here]
  cases move with
  | quiet events _ becomes => exact kept _ becomes rfl rfl
  | work j e' buf' len' events atFront worked =>
      apply kept _ worked.becomes (keys_setFront atFront.filled worked.work.key i)
      simp only [State.setInfo_msgTxInfo, State.setBuffer_msgTxInfo, State.setFront_msgTxInfo,
        Function.update_apply]
      grind
  | counted j atFront _ becomes =>
      exact kept _ becomes (keys_setFront atFront.filled (by rfl) i) rfl
  | requested j _ atFront _ _ _ _ becomes =>
      exact kept _ becomes (keys_setFront atFront.filled (by rfl) i) rfl
  | requestedImc _ _ _ _ _ _ _ _ becomes => exact kept _ becomes rfl rfl
  | answered _ _ _ _ _ _ becomes => exact kept _ becomes rfl rfl
  | sent j atFront _ becomes =>
      exact kept _ becomes (keys_setFront atFront.filled (by rfl) i) rfl
  | unsent j n atFront _ becomes =>
      exact kept _ becomes (keys_setFront atFront.filled (by rfl) i) rfl
  | retired j atFront _ becomes =>
      apply leaves j _ atFront becomes rfl
      intro k l
      simp only [State.emit_msgTxInfo, State.setQueue_msgTxInfo, State.setInfo_msgTxInfo,
        Function.update_apply]
      grind
  | dropped j atFront _ becomes =>
      apply leaves j _ atFront becomes rfl
      intro k l
      simp only [State.emit_msgTxInfo, State.setQueue_msgTxInfo, State.setCh_msgTxInfo,
        State.setInfo_msgTxInfo, Function.update_apply]
      grind
  | stored args k allowed checked usable becomes =>
      obtain ⟨target, idle, room⟩ := allowed _ (storing_transmit checked usable)
      simp only at target idle room
      rw [acceptData_room (by rw [target]; exact room), target] at becomes
      have state : ∀ j l, (t.msgTxInfo j l).bufState =
          if j = args.otherEndIdx ∧ l = k then .hasData else (s.msgTxInfo j l).bufState := by
        intro j l
        rw [becomes]
        simp only [State.setInfo_msgTxInfo, State.setQueue_msgTxInfo, Function.update_apply]
        grind [storeData_bufState]
      have queue : t.queue = Function.update s.queue args.otherEndIdx
          ((s.queue args.otherEndIdx).push (newEntry cfg s.toCore args.otherEndIdx k)) := by
        rw [becomes]
        simp only [State.setInfo_queue, State.setQueue_queue, storeData_queue]
      by_cases here : i = args.otherEndIdx
      · subst here
        apply agrees.pushed room idle queue
        · simp [state]
        · intro other
          simp [state, other]
      · apply agrees.kept
        · simp [state, here]
        · exact keys_eq (by simp [queue, here])
  | copied id c j args _ _ _ headed _ becomes =>
      cases finishes : copyFinishes cfg s.toCore id c j args with
      | true =>
          have atFront := copyFinishes_atFront headed finishes
          rw [finishes] at becomes
          exact kept _ becomes (keys_setFront atFront.filled (by rfl) i) rfl
      | false =>
          rw [finishes] at becomes
          exact kept _ becomes rfl rfl
  | unheeded _ _ _ _ _ _ _ _ _ _ becomes => exact kept _ becomes rfl rfl
  | confirmedImc _ _ _ _ _ _ _ _ becomes => exact kept _ becomes rfl rfl
  | confirmed _ _ _ j result _ _ atFront _ becomes =>
      apply kept _ becomes _ rfl
      apply keys_setFront atFront.filled
      split <;> rfl

/-- As long as every stored request goes to the index it was given, into an idle buffer and
a queue with room, the state of each buffer tells whether its message is queued. -/
theorem buffer_state_agrees (cfg : Config) (env : Env) (s : State) (ops : List Op)
    (plain : Guarded (step cfg env) (StoresPlainly cfg) (start cfg s) ops) :
    Agrees cfg (run (step cfg env) (start cfg s) ops).toCore := by
  intro i bound m known
  rw [← agreesAt_iff]
  apply run_moves (fun c => AgreesAt c i m) _ (start_linked s) _ plain
  · intro u v move _ agrees
    exact move_agrees move agrees
  · have empty : (start cfg s).entries i = [] := by simp [Core.entries, start, init, bound]
    exact Or.inr ⟨by simp [start, init, bound, known], by simp [held, empty]⟩

def sampleRun : List Op :=
  [.transmit (sampleRequest 0 0x10 4), .cyclicTx] ++ List.replicate 27 .resume ++
    [.tpTxConfirmation 0 0 .ok, .cyclicTx] ++ List.replicate 27 .resume

theorem buffer_state_agrees_sample :
    Agrees (sampleConfig .masterMcu)
      (run (step (sampleConfig .masterMcu) promptEnv) (start (sampleConfig .masterMcu) blank)
        sampleRun).toCore :=
  buffer_state_agrees _ promptEnv blank sampleRun (by decide)

/-- A broadcast requested under another index leaves that index's buffer marked, without an
entry in its queue. -/
theorem broadcast_marks_other_index :
    ¬ Agrees (sampleConfig .masterMcu)
      (run (step (sampleConfig .masterMcu) promptEnv) (start (sampleConfig .masterMcu) blank)
        [.transmit (sampleRequest 0 0x12 4)]).toCore := by
  unfold Agrees
  decide

end AnchorNode.AnchorCom.Tx
