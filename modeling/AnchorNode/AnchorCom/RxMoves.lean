import AnchorNode.AnchorCom.Rx

/-! What one call of the receive half can do. -/

namespace AnchorNode.AnchorCom.Rx

open AnchorNode.Lib

namespace State

def entries (s : State) (i : Nat) : List Entry := (s.queue i).toList

def front (s : State) (i : Nat) : Entry := (s.queue i).front

def dataOf (s : State) (e : Entry) : ChRxDataInfo := s.chRxData e.isTempBuf e.channel e.anchorId

section Fields
variable (s : State) (i c : Nat) (temp : Bool) (event : Event) (info : ChRxInfo)
  (data : ChRxDataInfo) (q : Ring queueSize Entry)

@[simp] theorem emit_chRxInfo : (s.emit event).chRxInfo = s.chRxInfo := rfl
@[simp] theorem emit_chRxData : (s.emit event).chRxData = s.chRxData := rfl
@[simp] theorem emit_queue : (s.emit event).queue = s.queue := rfl
@[simp] theorem emit_nextTicket : (s.emit event).nextTicket = s.nextTicket := rfl
@[simp] theorem emit_log : (s.emit event).log = s.log ++ [event] := rfl

@[simp] theorem setInfo_chRxData : (s.setInfo c i info).chRxData = s.chRxData := rfl
@[simp] theorem setInfo_queue : (s.setInfo c i info).queue = s.queue := rfl
@[simp] theorem setInfo_nextTicket : (s.setInfo c i info).nextTicket = s.nextTicket := rfl
@[simp] theorem setInfo_log : (s.setInfo c i info).log = s.log := rfl

@[simp] theorem setData_chRxInfo : (s.setData temp c i data).chRxInfo = s.chRxInfo := rfl
@[simp] theorem setData_queue : (s.setData temp c i data).queue = s.queue := rfl
@[simp] theorem setData_nextTicket : (s.setData temp c i data).nextTicket = s.nextTicket := rfl
@[simp] theorem setData_log : (s.setData temp c i data).log = s.log := rfl

@[simp] theorem setQueue_chRxInfo : (s.setQueue i q).chRxInfo = s.chRxInfo := rfl
@[simp] theorem setQueue_chRxData : (s.setQueue i q).chRxData = s.chRxData := rfl
@[simp] theorem setQueue_queue : (s.setQueue i q).queue = Function.update s.queue i q := rfl
@[simp] theorem setQueue_nextTicket : (s.setQueue i q).nextTicket = s.nextTicket := rfl
@[simp] theorem setQueue_log : (s.setQueue i q).log = s.log := rfl

@[simp] theorem setData_chRxData (temp' : Bool) (c' i' : Nat) :
    (s.setData temp c i data).chRxData temp' c' i' =
      if temp' = temp ∧ c' = c ∧ i' = i then data else s.chRxData temp' c' i' := by
  unfold setData
  by_cases temps : temp' = temp
  · subst temps
    by_cases channels : c' = c
    · subst channels
      by_cases peers : i' = i
      · subst peers
        simp
      · simp [peers]
    · simp [channels]
  · simp [temps]

@[simp] theorem setData_setData (data' : ChRxDataInfo) :
    (s.setData temp c i data).setData temp c i data' = s.setData temp c i data' := by
  simp only [setData, Function.update_self, Function.update_idem]

end Fields

end State

def Entry.key (e : Entry) : Nat × Nat × Bool × Nat := (e.channel, e.anchorId, e.isTempBuf, e.ticket)

theorem Entry.key_eq {e f : Entry} (same : e.key = f.key) :
    e.channel = f.channel ∧ e.anchorId = f.anchorId ∧ e.isTempBuf = f.isTempBuf ∧
      e.ticket = f.ticket := by
  simpa [Entry.key] using same

section Process
variable (cfg : Config) (env : Env) (j : Job)

theorem rxFormatForCmac_key : (rxFormatForCmac cfg env j).1.entry.key = j.entry.key := by
  unfold rxFormatForCmac
  simp only
  split
  · split
    · split <;> rfl
    · split <;> rfl
  · rfl

theorem rxPrepare_key : (rxPrepare cfg env j).entry.key = j.entry.key := by
  have formatted := rxFormatForCmac_key cfg env j
  unfold rxPrepare
  split
  · simp only
    split
    · exact formatted
    · exact formatted
  · rfl

theorem failure_key (running : RxQueueState) (result : Result) (e : Entry) :
    (failure cfg running result e).key = e.key := by
  cases result <;> rfl

theorem rxPart1_key : (rxPart1 cfg env j).entry.key = j.entry.key := by
  have prepared := rxPrepare_key cfg env j
  unfold rxPart1
  simp only
  split
  · split
    · exact prepared
    · exact (failure_key cfg _ _ _).trans prepared
  · exact prepared

theorem rxPart2_key : (rxPart2 cfg env j).entry.key = j.entry.key := by
  unfold rxPart2
  simp only
  split
  · split
    · rfl
    · exact failure_key cfg _ _ _
  · rfl

end Process

def Event.isWork (ticket peer : Nat) : Event → Bool
  | .verified k i _ _ _ => k == ticket && i == peer
  | .decrypted k i _ _ _ _ => k == ticket && i == peer
  | .delivered k i _ _ => k == ticket && i == peer
  | _ => false

def Job.Extends (j j' : Job) : Prop :=
  j'.entry.key = j.entry.key ∧ ∃ events, j'.log = j.log ++ events ∧
    ∀ e ∈ events, e.isWork j.entry.ticket j.entry.anchorId = true

theorem Job.Extends.trans {j j' j'' : Job} (first : j.Extends j') (second : j'.Extends j'') :
    j.Extends j'' := by
  obtain ⟨key, events, log, work⟩ := first
  obtain ⟨key', events', log', work'⟩ := second
  obtain ⟨_, anchor, _, ticket⟩ := Entry.key_eq key
  refine ⟨key'.trans key, events ++ events', by rw [log', log, List.append_assoc], ?_⟩
  intro e member
  rcases List.mem_append.mp member with old | new
  · exact work e old
  · rw [← anchor, ← ticket]
    exact work' e new

theorem Job.Extends.silent {j j' : Job} (key : j'.entry.key = j.entry.key)
    (log : j'.log = j.log) : j.Extends j' := by
  refine ⟨key, [], by rw [log, List.append_nil], ?_⟩
  intro e member
  cases member

theorem Job.Extends.one {j j' : Job} {e : Event} (key : j'.entry.key = j.entry.key)
    (log : j'.log = j.log ++ [e]) (work : e.isWork j.entry.ticket j.entry.anchorId = true) :
    j.Extends j' := by
  refine ⟨key, [e], log, ?_⟩
  intro f member
  rw [List.mem_singleton.mp member]
  exact work

theorem rxPrepare_log (cfg : Config) (env : Env) (j : Job) :
    (rxPrepare cfg env j).log = j.log := by
  have formatted : (rxFormatForCmac cfg env j).1.log = j.log := by
    unfold rxFormatForCmac
    simp only
    split
    · split <;> rfl
    · rfl
  unfold rxPrepare
  simp only
  split
  · split
    · exact formatted
    · exact formatted
  · rfl

theorem rxPart1_extends (cfg : Config) (env : Env) (j : Job) : j.Extends (rxPart1 cfg env j) := by
  have prepared : j.Extends (rxPrepare cfg env j) :=
    .silent (rxPrepare_key cfg env j) (rxPrepare_log cfg env j)
  apply prepared.trans
  have key : (rxPart1 cfg env j).entry.key = (rxPrepare cfg env j).entry.key :=
    (rxPart1_key cfg env j).trans (rxPrepare_key cfg env j).symm
  unfold rxPart1 at key ⊢
  simp only at key ⊢
  split
  · rename_i ready
    rw [if_pos ready] at key
    split
    · rename_i done
      rw [if_pos done] at key
      exact .one key rfl (by simp [Event.isWork])
    · rename_i failed
      rw [if_neg failed] at key
      exact .one key rfl (by simp [Event.isWork])
  · exact .silent rfl rfl

theorem rxPart2_extends (cfg : Config) (env : Env) (j : Job) : j.Extends (rxPart2 cfg env j) := by
  have key := rxPart2_key cfg env j
  unfold rxPart2 at key ⊢
  simp only at key ⊢
  split
  · rename_i ready
    rw [if_pos ready] at key
    split
    · rename_i done
      rw [if_pos done] at key
      exact .one key rfl (by simp [Event.isWork])
    · rename_i failed
      rw [if_neg failed] at key
      exact .one key rfl (by simp [Event.isWork])
  · exact .silent rfl rfl

theorem rxDistributeMsg_extends (cfg : Config) (j : Job) :
    j.Extends (rxDistributeMsg cfg j).1 := by
  unfold rxDistributeMsg
  simp only
  split
  · exact .one rfl rfl (by simp [Event.isWork])
  · exact .silent rfl rfl

theorem rxPart3_extends (cfg : Config) (j : Job) : j.Extends (rxPart3 cfg j) := by
  have distributed := rxDistributeMsg_extends cfg j
  unfold rxPart3
  simp only
  split
  · split
    · exact distributed.trans (.silent rfl rfl)
    · split
      · exact distributed.trans (.silent rfl rfl)
      · exact distributed.trans (.silent rfl rfl)
  · exact .silent rfl rfl

theorem process_extends (cfg : Config) (env : Env) (j : Job) : j.Extends (process cfg env j) :=
  (rxPart1_extends cfg env j).trans
    ((rxPart2_extends cfg env _).trans (rxPart3_extends cfg _))

def finished (cfg : Config) (e : Entry) : Bool :=
  decide (e.errCounter ≥ cfg.maxRetryCount) || e.queueState == .processDone

def headJob (cfg : Config) (env : Env) (s : State) (q : Nat) : Job :=
  process cfg env ⟨s.front q, (s.dataOf (s.front q)).rxBuffer, s.log⟩

theorem headJob_key (cfg : Config) (env : Env) (s : State) (q : Nat) :
    (headJob cfg env s q).entry.key = (s.front q).key := (process_extends cfg env _).1

def newEntry (s : State) (c i : Nat) (temp : Bool) (ticket dataLen : Nat) : Entry :=
  { (s.queue i).slots (s.queue i).tail with
    channel := c
    anchorId := i
    isTempBuf := temp
    queueState := .queued
    errCounter := 0
    dataLen
    ticket }

def State.message (s : State) (c i : Nat) : List UInt8 :=
  (s.chRxInfo c i).rxBuffer.read 0 (s.chRxInfo c i).rxOffset

def State.filledData (s : State) (id c i : Nat) (temp : Bool) (needVerify : Bool) : ChRxDataInfo :=
  { rxBuffer := (s.chRxData temp c i).rxBuffer.write 0 (s.message c i)
    rxOffset := (s.chRxInfo c i).rxOffset
    pduId := id
    needVerify }

section Moves
variable (cfg : Config) (env : Env)

/-- One thing the receive half can do. -/
inductive Move (s : State) : State → Prop
  | quiet (events : List Event) {t : State} (data : t.chRxData = s.chRxData)
      (queue : t.queue = s.queue) (next : t.nextTicket = s.nextTicket)
      (noise : ∀ e ∈ events, ∃ id api error, e = .reportError id api error)
      (log : t.log = s.log ++ events) : Move s t
  | unbuffered (c i : Nat) (channel : c < cfg.tpChMax) (peer : i < cfg.numLlRx)
      (long : (s.chRxInfo c i).rxOffset ≥ cfg.minRxDataLen) (busy : freeBuffer s c i = none) :
      Move s { s with
        nextTicket := s.nextTicket + 1
        log := s.log ++ [.arrived s.nextTicket c i (s.message c i), .unbuffered s.nextTicket] }
  | unqueued (id c i : Nat) (temp : Bool) (channel : c < cfg.tpChMax) (peer : i < cfg.numLlRx)
      (long : (s.chRxInfo c i).rxOffset ≥ cfg.minRxDataLen) (free : freeBuffer s c i = some temp)
      (full : (s.queue i).isFull = true) :
      Move s { s.setData temp c i (s.filledData id c i temp false) with
        nextTicket := s.nextTicket + 1
        log := s.log ++ [.arrived s.nextTicket c i (s.message c i), .unqueued s.nextTicket] }
  | queued (id c i : Nat) (temp : Bool) (channel : c < cfg.tpChMax) (peer : i < cfg.numLlRx)
      (long : (s.chRxInfo c i).rxOffset ≥ cfg.minRxDataLen) (free : freeBuffer s c i = some temp)
      (room : (s.queue i).isFull = false) :
      Move s { (s.setData temp c i (s.filledData id c i temp true)).setQueue i
          ((s.queue i).push
            (newEntry s c i temp s.nextTicket (s.chRxInfo c i).rxOffset)) with
        nextTicket := s.nextTicket + 1
        log := s.log ++ [.arrived s.nextTicket c i (s.message c i)] }
  /-- The head is worked on and stays. -/
  | worked (q : Nat) (peer : q < cfg.numLlRx) (filled : (s.queue q).isEmpty = false)
      (own : (s.front q).anchorId = q) (stays : finished cfg (headJob cfg env s q).entry = false) :
      Move s { (s.setData (s.front q).isTempBuf (s.front q).channel q
          { s.dataOf (s.front q) with rxBuffer := (headJob cfg env s q).buffer }).setQueue q
            ((s.queue q).set (s.queue q).head (headJob cfg env s q).entry) with
        log := (headJob cfg env s q).log }
  /-- The head is worked on and leaves the queue. -/
  | finished (q : Nat) (peer : q < cfg.numLlRx) (filled : (s.queue q).isEmpty = false)
      (own : (s.front q).anchorId = q) (leaves : finished cfg (headJob cfg env s q).entry = true) :
      Move s { (s.setData (s.front q).isTempBuf (s.front q).channel q
          { s.dataOf (s.front q) with
            rxBuffer := (headJob cfg env s q).buffer
            needVerify := false }).setQueue q
            ((s.queue q).set (s.queue q).head
              { (headJob cfg env s q).entry with queueState := .idle }).pop with
        log := (headJob cfg env s q).log ++
          [.removed (s.front q).ticket (headJob cfg env s q).entry.errCounter] }

def Path : State → State → Prop := Relation.ReflTransGen (Move cfg env)

end Moves

end AnchorNode.AnchorCom.Rx
