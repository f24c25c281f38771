import AnchorNode.CanTp.Locality
import AnchorNode.CanTp.Ownership
import AnchorNode.CanTp.Carried

/-! What `CanTp_RxIndication` makes of the memory behind the received frame. -/

namespace AnchorNode.CanTp

open AnchorNode.Lib

variable {b : Build} {cfg : Config b} {env : Env}

section RxDl

def ValidRxDl (b : Build) (ch : Channel) : Prop := 8 ≤ getRxDl b ch ∧ getRxDl b ch ≤ 64

theorem ValidRxDl.of_rxDl {ch ch' : Channel} (valid : ValidRxDl b ch) (same : ch'.rxDl = ch.rxDl) :
    ValidRxDl b ch' := by
  simpa only [ValidRxDl, getRxDl, same] using valid

/-- A channel that goes on with a reception knows its RX_DL. -/
structure RxDlSet (b : Build) (v : View) : Prop where
  flow : v.sub = .rxSendFc ∨ v.sub = .rxWaitForFcTransmitConfirmation →
    v.ch.flowStatus ≠ .overflow → ValidRxDl b v.ch
  data : v.sub = .rxWaitForConsecutiveFrame → v.ch.flowStatus ≠ .overflow ∧ ValidRxDl b v.ch

theorem rxDlSet_of_sub {v : View} (closed : v.sub.state = .transmission ∨ v.sub = .idle) :
    RxDlSet b v := by
  constructor
  · rintro (sub | sub) <;> simp [sub, SubState.state] at closed
  · intro sub
    simp [sub, SubState.state] at closed

theorem RxDlSet.of_same {v v' : View} (set : RxDlSet b v) (sub : v'.sub = v.sub)
    (flow : v'.ch.flowStatus = v.ch.flowStatus) (rxDl : v'.ch.rxDl = v.ch.rxDl) :
    RxDlSet b v' := by
  constructor
  · rw [sub, flow]
    exact fun waiting clear => (set.flow waiting clear).of_rxDl rxDl
  · rw [sub, flow]
    exact fun waiting => ⟨(set.data waiting).1, (set.data waiting).2.of_rxDl rxDl⟩

theorem ChannelStep.rxDlSet {lapse : Lapse → Prop} (sized : ¬ lapse .missizedFrame) {now c : Nat}
    {v v' : View} {events : List Event} (step : ChannelStep b cfg lapse now c v events v')
    (set : RxDlSet b v) : RxDlSet b v' := by
  cases step with
  | txPrepare accepted => exact rxDlSet_of_sub (by simp [accepted, SubState.state])
  | txBuffer status waiting =>
      refine rxDlSet_of_sub ?_
      rcases waiting with sub | sub <;> simp [sub, SubState.state]
  | txBlockedTimeout accepted => exact rxDlSet_of_sub (by simp [accepted, SubState.state])
  | txFlowWait waiting => exact rxDlSet_of_sub (by simp [waiting, SubState.state])
  | rxDoubleIndication => exact set
  | fcPrepare ch sending active length remaining sn rxDl flow =>
      constructor
      · intro waiting clear
        exact (set.flow (Or.inl sending) (mt flow.mpr clear)).of_rxDl rxDl
      · simp [sending]
  | fcSent sending =>
      exact ⟨fun _ clear => (set.flow (Or.inl sending) clear).of_rxDl rfl, by simp⟩
  | fcSkipped ch sending flow flowSame active length remaining sn rxDl =>
      refine ⟨by simp, fun _ => ⟨flowSame ▸ flow, ?_⟩⟩
      exact (set.flow (Or.inl sending) flow).of_rxDl rxDl
  | fcConfirmedClear waiting pending own flow =>
      refine ⟨by simp, fun _ => ⟨by simp [flow], ?_⟩⟩
      exact (set.flow (Or.inr waiting) (by simp [flow])).of_rxDl rfl
  | fcConfirmedWait waiting pending own flow =>
      have valid := set.flow (Or.inr waiting) (by simp [flow])
      split
      · exact ⟨fun _ _ => valid.of_rxDl rfl, by simp⟩
      · exact rxDlSet_of_sub (Or.inr rfl)
  | rxFirst accepted active length remaining sn flow known =>
      rcases known with known | lapsed
      · exact ⟨fun _ _ => known.2.2, by simp⟩
      · exact absurd lapsed sized
  | rxOverflow accepted active flow =>
      exact ⟨fun _ clear => absurd flow clear, by simp⟩
  | rxConsecutive data room sub ch waiting active length remaining more sn rxDl flow =>
      obtain ⟨clear, valid⟩ := set.data waiting
      refine ⟨fun _ _ => valid.of_rxDl rxDl, fun _ => ⟨?_, valid.of_rxDl rxDl⟩⟩
      rcases flow with flow | flow
      · simp [flow]
      · exact flow ▸ clear
  | _ => exact rxDlSet_of_sub (by simp [SubState.state])

def RxDlsSet (b : Build) (cfg : Config b) (s : State) : Prop :=
  ∀ c < cfg.numberOfChannels, RxDlSet b (s.view c)

theorem Path.rxDlsSet {lapse : Lapse → Prop} (sized : ¬ lapse .missizedFrame) {s s' : State}
    (path : Path b cfg lapse s s') (set : RxDlsSet b cfg s) : RxDlsSet b cfg s' := by
  refine Path.invariant (RxDlsSet b cfg) ?_ path set
  intro s s' move set c bound
  cases move with
  | silent silent => exact silent.view c ▸ set c bound
  | channel bound' step becomes =>
      rename_i d events v
      by_cases same : c = d
      · subst same
        exact becomes.view_here ▸ step.rxDlSet sized (set c bound)
      · rw [becomes.view_elsewhere same]
        exact (set c bound).of_same rfl rfl rfl

variable {ctx : RxContext} {data : Mem} {s : State} {n : Nat}

theorem processRxFirstFrame_here (lower : 8 ≤ n) (upper : n ≤ 64) :
    processRxFirstFrame b env ctx data n s = (fdCallOut b env ctx data n s).2 ∨
      RxDlSet b ((processRxFirstFrame b env ctx data n s).view ctx.channelId) := by
  have learnt (ch : Channel) : ValidRxDl b (setRxDl b ch (u8 n)) := by
    have small : u8 n = n := u8_small (by omega)
    simp only [ValidRxDl, getRxDl, setRxDl, small]
    split
    · exact ⟨lower, upper⟩
    · simp [defaultCanDl]
  have ended {v : View} (idle : v.sub = .idle) : RxDlSet b v := rxDlSet_of_sub (Or.inr idle)
  have sending {v : View} (sub : v.sub = .rxSendFc) (valid : ValidRxDl b v.ch) : RxDlSet b v :=
    ⟨fun _ _ => valid, by simp [sub]⟩
  simp only [processRxFirstFrame]
  cases accepted : getConnectionAcceptance b env ctx data n s with
  | error s' => exact Or.inl (getConnectionAcceptance_refused accepted)
  | ok s' =>
      right
      simp only
      split
      · split
        · split
          · exact ended (by simp [State.view])
          · refine sending (by simp [State.view]) ?_
            simp only [State.view, State.setSub_channel, State.setChannel_channel,
              Function.update_self]
            exact (learnt _).of_rxDl rfl
        · exact ended (by simp [State.view])
      · refine sending (by simp [State.view]) ?_
        simp only [State.view, State.setSub_channel, State.setChannel_channel,
          Function.update_self]
        exact (learnt _).of_rxDl rfl
      · exact ended (by simp [State.view])

theorem processRxFirstFrame_rxDlsSet (lower : 8 ≤ n) (upper : n ≤ 64) (set : RxDlsSet b cfg s) :
    RxDlsSet b cfg (processRxFirstFrame b env ctx data n s) := by
  rcases @processRxFirstFrame_here b env ctx data s n lower upper with refused | here
  · rw [refused]
    have silent : Silent b cfg s (fdCallOut b env ctx data n s).2 := fdCallOut_silent ctx data n s
    exact fun c bound => silent.view c ▸ set c bound
  · have elsewhere := @processRxFirstFrame_local b env ctx data n s
    intro c bound
    by_cases own : c = ctx.channelId
    · exact own ▸ here
    · have sub := elsewhere.subState c own
      have ch := elsewhere.channel c own
      exact (set c bound).of_same sub (congrArg Channel.flowStatus ch) (congrArg Channel.rxDl ch)

abbrev Sized (l : Lapse) : Prop := l ≠ .missizedFrame

theorem sized_scheduled {l : Lapse} (scheduled : Scheduled l) : Sized l := by
  rintro rfl
  simp [Scheduled] at scheduled

theorem processFrame_rxDlsSet (own : FlowContext b cfg s ctx ∨ DataContext b cfg ctx)
    (bounds : ctx.frameType = .first → 8 ≤ n ∧ n ≤ 64) (set : RxDlsSet b cfg s) :
    RxDlsSet b cfg (processFrame b cfg env ctx data n s) := by
  by_cases first : ctx.frameType = .first
  · simp only [processFrame, first]
    exact processRxFirstFrame_rxDlsSet (bounds first).1 (bounds first).2 set
  · have path : Path b cfg Sized s (processFrame b cfg env ctx data n s) := by
      refine processFrame_path own (fun kind => absurd kind first) ?_
      rintro l lapsed rfl
      exact first lapsed.1
    exact path.rxDlsSet (fun sized => sized rfl) set

theorem receiveFrame_rxDlsSet (lengths : ∀ length dl, b.dlcCheck length dl = .ok ↔ dl ≤ length)
    {p : Nat} {info : PduInfo} (queue : QueueOk b cfg s.burstQ)
    (frame : info.sduLength < invalidDl) (set : RxDlsSet b cfg s) :
    RxDlsSet b cfg (receiveFrame b cfg env p info s) := by
  have sized : ¬ Sized .missizedFrame := fun wrong => wrong rfl
  simp only [receiveFrame]
  cases context : getRxContext b cfg s p info with
  | error e => exact (emit_silent s _ rfl).path.rxDlsSet sized set
  | ok ctx =>
      generalize (info.sduDataPtr.getD fun _ => 0) = data
      have own' := getRxContext_checked context data
      simp only
      split
      · refine (lengthError_path own' ?_).rxDlsSet sized set
        rintro l lapsed rfl
        exact lapsed
      · rename_i checked
        have passed : (rxSduLengthCheck b s ctx data info.sduLength).2 = .ok := not_not.mp checked
        have bounds : (rxSduLengthCheck b s ctx data info.sduLength).1.frameType = .first →
            8 ≤ info.sduLength ∧ info.sduLength ≤ 64 := by
          intro first
          rw [(rxSduLengthCheck_same (b := b) s ctx data info.sduLength).frameType] at first
          simp only [rxSduLengthCheck, first] at passed
          obtain ⟨lower, upper, -⟩ := firstFrameDl_passed frame ((lengths _ _).mp passed)
          exact ⟨lower, upper⟩
        have processed : RxDlsSet b cfg (processFrame b cfg env
            (rxSduLengthCheck b s ctx data info.sduLength).1 data info.sduLength s) :=
          processFrame_rxDlsSet own' bounds set
        have kept : QueueOk b cfg (processFrame b cfg env
            (rxSduLengthCheck b s ctx data info.sduLength).1 data info.sduLength s).burstQ :=
          Path.queue (processFrame_path own' (fun _ => Or.inr trivial) fun _ _ => trivial :
            Path b cfg (fun _ => True) s _) queue
        refine (burstMainFunction_path _ kept ?_).rxDlsSet sized processed
        exact fun l lapsed => sized_scheduled (BurstLapse.scheduled lapsed)

/-- The reach of a run: the burst queue is in order and every RX_DL in use is set. -/
structure Prepared (b : Build) (cfg : Config b) (s : State) : Prop where
  queue : QueueOk b cfg s.burstQ
  rxDls : RxDlsSet b cfg s

theorem Prepared.call {op : Op} (prepared : Prepared b cfg s) (call : op.isCall = true)
    (sized : ∀ l, StepLapse b cfg env s op l → Sized l) : Prepared b cfg (step b cfg env s op) := by
  have path : Path b cfg Sized s (step b cfg env s op) := call_path prepared.queue call sized
  exact ⟨path.queue prepared.queue, path.rxDlsSet (fun wrong => wrong rfl) prepared.rxDls⟩

theorem Prepared.step (lengths : ∀ length dl, b.dlcCheck length dl = .ok ↔ dl ≤ length) {op : Op}
    (frame : op.frameLength < invalidDl) (prepared : Prepared b cfg s) :
    Prepared b cfg (step b cfg env s op) := by
  have reset : RxDlsSet b cfg (resetModule b cfg s) := by
    intro c bound
    exact rxDlSet_of_sub (Or.inr (by simp [State.view, resetModule, bound]))
  cases op with
  | init => exact ⟨resetModule_queue s, reset⟩
  | shutdown =>
      simp only [CanTp.step, shutdown]
      split
      · exact ⟨resetModule_queue s, reset⟩
      · exact ⟨prepared.queue, prepared.rxDls⟩
  | rxIndication p info =>
      have path : Path b cfg (fun _ => True) s (CanTp.step b cfg env s (.rxIndication p info)) :=
        call_path prepared.queue rfl fun _ _ => trivial
      refine ⟨path.queue prepared.queue, ?_⟩
      simp only [CanTp.step, rxIndication, devCheck]
      split
      · split
        · exact prepared.rxDls
        · cases info with
          | none => exact prepared.rxDls
          | some info => exact receiveFrame_rxDlsSet lengths prepared.queue frame prepared.rxDls
      · exact prepared.rxDls
  | mainFunction =>
      exact prepared.call rfl fun l lapsed => sized_scheduled (MainLapse.scheduled lapsed)
  | txConfirmation p =>
      refine prepared.call rfl ?_
      rintro l ⟨-, -, rfl | ⟨rfl, -⟩ | lapsed⟩
      · simp
      · simp
      · exact sized_scheduled (BurstLapse.scheduled lapsed)
  | _ =>
      refine prepared.call rfl ?_
      rintro l lapsed rfl
      exact lapsed

theorem run_prepared (lengths : ∀ length dl, b.dlcCheck length dl = .ok ↔ dl ≤ length)
    {ops : List Op} (frames : ∀ op ∈ ops, op.frameLength < invalidDl) (ram : State) :
    Prepared b cfg (run (step b cfg env) (start b cfg ram) ops) := by
  have initial : Prepared b cfg (start b cfg ram) :=
    ⟨start_queue ram, fun c bound => rxDlSet_of_sub (Or.inr (start_idle cfg ram bound))⟩
  revert initial
  generalize start b cfg ram = s
  intro initial
  induction ops generalizing s with
  | nil => exact initial
  | cons op ops ih =>
      exact ih (fun o member => frames o (by simp [member])) _
        (initial.step lengths (frames op (by simp)))

end RxDl

section Agreement
variable {s : State} {ctx : RxContext} {d d' : Mem} {n : Nat}

/-- Two memories hold the same frame. -/
def AgreeOn (n : Nat) (d d' : Mem) : Prop := ∀ i < n, d i = d' i

theorem AgreeOn.read (agree : AgreeOn n d d') {offset length : Nat}
    (inside : offset + length ≤ n) : d.read offset length = d'.read offset length :=
  read_congr d d' offset length fun i _ bound => agree i (by omega)

def pciIndex (rxPdu : RxPdu) : Nat := if rxPdu.getSduPair.isSome then 1 else 0

theorem selectSduPair_pciOffset (rxPdu : RxPdu) (data : Mem) :
    (selectSduPair rxPdu data).pciOffset = pciIndex rxPdu := by
  simp only [selectSduPair, pciIndex]
  cases rxPdu.getSduPair <;> rfl

theorem selectSduPair_agree {rxPdu : RxPdu} (agree : AgreeOn n d d') (pci : pciIndex rxPdu ≤ n) :
    selectSduPair rxPdu d = selectSduPair rxPdu d' := by
  simp only [selectSduPair]
  cases pair : rxPdu.getSduPair with
  | none => rfl
  | some getSduPair =>
      have address : 0 < n := by
        simp only [pciIndex, pair, Option.isSome_some, if_true] at pci
        omega
      simp only [agree 0 address]

theorem getRxContext_agree {p : Nat} (agree : AgreeOn n d d') (pci : pciIndex (cfg.rxPdu p) < n) :
    getRxContext b cfg s p ⟨some d, n⟩ = getRxContext b cfg s p ⟨some d', n⟩ := by
  have pair := selectSduPair_agree agree (Nat.le_of_lt pci)
  have type : d (selectSduPair (cfg.rxPdu p) d').pciOffset =
      d' (selectSduPair (cfg.rxPdu p) d').pciOffset :=
    agree _ (by rwa [selectSduPair_pciOffset])
  have first : d 0 = d' 0 := agree 0 (by omega)
  simp only [getRxContext, pair, type, first]

theorem getRxContext_address {p : Nat} {info : PduInfo}
    (context : getRxContext b cfg s p info = .ok ctx) : ctx.addressSize ≤ 1 := by
  simp only [getRxContext] at context
  split at context
  · cases context
  · split at context
    · cases context
    · split at context
      · cases context
      · obtain rfl := Except.ok.inj context
        exact addressSize_le _
    · split at context
      · split at context
        · cases context
        · obtain rfl := Except.ok.inj context
          exact addressSize_le _
      · cases context

theorem singleFrameDl_agree (agree : AgreeOn n d d') (address : ctx.addressSize ≤ 1)
    (long : (singleFrameDl b ctx d n).canDl ≤ n) :
    singleFrameDl b ctx d' n = singleFrameDl b ctx d n := by
  have classic : defaultCanDl = 8 := rfl
  have invalid : invalidDl = 255 := rfl
  have pci : Npci.sfCan.pciSize = 1 := rfl
  by_cases nibble : ctx.addressSize + 1 ≤ n
  · have low : d' ctx.addressSize = d ctx.addressSize := (agree _ (by omega)).symm
    by_cases short : n ≤ defaultCanDl
    · simp only [singleFrameDl, if_pos short, low]
    · have high : d' (ctx.addressSize + 1) = d (ctx.addressSize + 1) :=
        (agree _ (by omega)).symm
      simp only [singleFrameDl, if_neg short, low, high]
  · -- a frame without its length nibble is never long enough
    have short : n ≤ defaultCanDl := by omega
    simp only [singleFrameDl, if_pos short] at long
    split at long
    · split at long
      · omega
      · have nibble : (d ctx.addressSize).toNat % 16 < 16 := Nat.mod_lt _ (by decide)
        rw [u8_small (by omega)] at long
        omega
    · omega

theorem firstFrameDl_agree (agree : AgreeOn n d d') (address : ctx.addressSize ≤ 1)
    (frame : n < invalidDl) (long : (firstFrameDl b ctx d n).canDl ≤ n) :
    firstFrameDl b ctx d' n = firstFrameDl b ctx d n := by
  obtain ⟨lower, -⟩ := firstFrameDl_passed frame long
  have short : ffDlValue12bit d' ctx.addressSize = ffDlValue12bit d ctx.addressSize := by
    simp only [ffDlValue12bit]
    rw [agree ctx.addressSize (by omega), agree (ctx.addressSize + 1) (by omega)]
  have escaped : ffDlValue32bit d' ctx.addressSize = ffDlValue32bit d ctx.addressSize := by
    simp only [ffDlValue32bit]
    rw [agree (ctx.addressSize + 2) (by omega), agree (ctx.addressSize + 3) (by omega),
      agree (ctx.addressSize + 4) (by omega), agree (ctx.addressSize + 5) (by omega)]
  simp only [firstFrameDl, short, escaped]

theorem rxSduLengthCheck_agree (lengths : ∀ length dl, b.dlcCheck length dl = .ok ↔ dl ≤ length)
    (agree : AgreeOn n d d') (address : ctx.addressSize ≤ 1) (frame : n < invalidDl)
    (passed : (rxSduLengthCheck b s ctx d n).2 = .ok)
    (sn : ctx.frameType = .consecutive → ctx.addressSize < n) :
    rxSduLengthCheck b s ctx d' n = rxSduLengthCheck b s ctx d n := by
  cases kind : ctx.frameType with
  | single =>
      simp only [rxSduLengthCheck, kind] at passed ⊢
      rw [singleFrameDl_agree agree address ((lengths _ _).mp passed)]
  | first =>
      simp only [rxSduLengthCheck, kind] at passed ⊢
      rw [firstFrameDl_agree agree address frame ((lengths _ _).mp passed)]
  | consecutive =>
      simp only [rxSduLengthCheck, kind]
      rw [agree ctx.addressSize (sn kind)]
  | flowControl =>
      simp only [rxSduLengthCheck, kind] at passed ⊢
      have long := (lengths _ _).mp passed
      have status : ctx.addressSize < n := by
        simp only [defaultCanDl, fcPciSize] at long
        split at long <;> omega
      rw [agree ctx.addressSize status]

theorem rxSduLengthCheck_passed (lengths : ∀ length dl, b.dlcCheck length dl = .ok ↔ dl ≤ length)
    (agree : AgreeOn n d d') (address : ctx.addressSize ≤ 1) (frame : n < invalidDl)
    (passed : (rxSduLengthCheck b s ctx d n).2 = .ok) :
    (rxSduLengthCheck b s ctx d' n).2 = .ok := by
  by_cases consecutive : ctx.frameType = .consecutive
  · simpa only [rxSduLengthCheck, consecutive] using passed
  · rw [rxSduLengthCheck_agree lengths agree address frame passed fun kind =>
      absurd kind consecutive]
    exact passed

theorem lengthError_checked (data : Mem) :
    lengthError (rxSduLengthCheck b s ctx data n).1 s = lengthError ctx s := by
  cases kind : ctx.frameType <;> simp only [rxSduLengthCheck, kind, lengthError]

theorem getConnectionAcceptance_agree (agree : AgreeOn n d d') :
    getConnectionAcceptance b env ctx d' n s = getConnectionAcceptance b env ctx d n s := by
  have same : d.read 0 n = d'.read 0 n := agree.read (Nat.le_of_eq (Nat.zero_add n))
  simp only [getConnectionAcceptance, fdCallOut, same]

theorem processFrame_agree (lengths : ∀ length dl, b.dlcCheck length dl = .ok ↔ dl ≤ length)
    (agree : AgreeOn n d d') (address : ctx.addressSize ≤ 1) (frame : n < invalidDl)
    (rxDl : s.subState ctx.channelId = .rxWaitForConsecutiveFrame →
      ValidRxDl b (s.channel ctx.channelId))
    (passed : (rxSduLengthCheck b s ctx d n).2 = .ok) :
    processFrame b cfg env (rxSduLengthCheck b s ctx d' n).1 d' n s =
      processFrame b cfg env (rxSduLengthCheck b s ctx d n).1 d n s := by
  have same := rxSduLengthCheck_same (b := b) s ctx d n
  cases kind : ctx.frameType with
  | single =>
      rw [rxSduLengthCheck_agree lengths agree address frame passed (by simp [kind])]
      have inside := singleFrame_inside lengths frame kind address passed
      simp only [processFrame, same.frameType, kind, processRxSingleFrame]
      rw [getConnectionAcceptance_agree agree, agree.read inside]
  | first =>
      rw [rxSduLengthCheck_agree lengths agree address frame passed (by simp [kind])]
      have inside := firstFrame_inside lengths frame kind address passed
      simp only [processFrame, same.frameType, kind, processRxFirstFrame]
      rw [getConnectionAcceptance_agree agree, agree.read inside]
  | consecutive =>
      have same' := rxSduLengthCheck_same (b := b) s ctx d' n
      by_cases waiting : s.subState ctx.channelId = .rxWaitForConsecutiveFrame
      · have bounds := consecutiveFrameDl_bounds (s.channel ctx.channelId) address (rxDl waiting)
        have long : (consecutiveFrameDl b ctx (s.channel ctx.channelId)).canDl ≤ n := by
          simp only [rxSduLengthCheck, kind] at passed
          exact (lengths _ _).mp passed
        have status : ctx.addressSize < n := by
          simp only [consecutiveFrameDl, cfPciSize] at bounds long
          omega
        rw [rxSduLengthCheck_agree lengths agree address frame passed fun _ => status]
        have inside := consecutiveFrame_inside lengths kind address (rxDl waiting) passed
          (s.channel (rxSduLengthCheck b s ctx d n).1.channelId).sduLengthRemaining
        simp only [processFrame, same.frameType, kind, processRxConsecutiveFrame]
        rw [agree.read inside]
      · simp only [processFrame, same.frameType, same'.frameType, kind,
          processRxConsecutiveFrame, same.channel, same'.channel, waiting, false_and, if_false]
  | flowControl =>
      rw [rxSduLengthCheck_agree lengths agree address frame passed (by simp [kind])]
      have status : (rxSduLengthCheck b s ctx d n).1.dataOffset + 1 < n := by
        simp only [rxSduLengthCheck, kind] at passed ⊢
        have long := (lengths _ _).mp passed
        simp only [defaultCanDl, fcPciSize] at long
        split at long <;> omega
      simp only [processFrame, same.frameType, kind, processRxFlowControlFrame]
      rw [agree _ (by omega : (rxSduLengthCheck b s ctx d n).1.dataOffset < n), agree _ status]

theorem receiveFrame_agree (lengths : ∀ length dl, b.dlcCheck length dl = .ok ↔ dl ≤ length)
    {p : Nat} (set : RxDlsSet b cfg s) (agree : AgreeOn n d d') (frame : n < invalidDl)
    (pci : pciIndex (cfg.rxPdu p) < n) :
    receiveFrame b cfg env p ⟨some d', n⟩ s = receiveFrame b cfg env p ⟨some d, n⟩ s := by
  simp only [receiveFrame, ← getRxContext_agree agree pci]
  cases context : getRxContext b cfg s p ⟨some d, n⟩ with
  | error e => rfl
  | ok ctx =>
      have address := getRxContext_address context
      have back : AgreeOn n d' d := fun i inside => (agree i inside).symm
      simp only [Option.getD_some, lengthError_checked]
      by_cases passed : (rxSduLengthCheck b s ctx d n).2 = .ok
      · have passed' := rxSduLengthCheck_passed lengths agree address frame passed
        rw [if_neg (not_not.mpr passed), if_neg (not_not.mpr passed')]
        have rxDl : s.subState ctx.channelId = .rxWaitForConsecutiveFrame →
            ValidRxDl b (s.channel ctx.channelId) := by
          intro waiting
          have bound : ctx.channelId < cfg.numberOfChannels := by
            rcases getRxContext_spec context with flow | own
            · exact flow.channel ▸ cfg.txSdu_channel _ flow.configured
            · exact own.channel ▸ cfg.rxSdu_channel _ own.configured
          exact ((set _ bound).data waiting).2
        rw [processFrame_agree lengths agree address frame rxDl passed,
          (rxSduLengthCheck_same s ctx d n).channel, (rxSduLengthCheck_same s ctx d' n).channel]
      · have failed : (rxSduLengthCheck b s ctx d' n).2 ≠ .ok := fun passed' =>
          passed (rxSduLengthCheck_passed lengths back address frame passed')
        rw [if_pos passed, if_pos failed]

end Agreement

section Short
variable {s : State} {ctx : RxContext} {d d' : Mem} {n p : Nat}

def Event.isReport : Event → Bool
  | .reportError .. => true
  | .reportRunTimeError .. => true
  | _ => false

/-- No frame too short to hold its type can do anything to the SDUs it may be for. -/
structure Unaffected (b : Build) (cfg : Config b) (s : State) (p : Nat) (pair : SduPair) :
    Prop where
  flow : getFcActiveChannel b cfg s p pair.txSduId = none
  data : pair.rxSduId < cfg.numberOfRxSdus →
    s.subState (cfg.rxSdu pair.rxSduId).channelId ≠ .txWaitForFlowControlFrame ∧
      s.subState (cfg.rxSdu pair.rxSduId).channelId ≠ .rxWaitForConsecutiveFrame ∧
      burstReady b cfg (cfg.rxSdu pair.rxSduId).channelId s = false

theorem getRxContext_selected (context : getRxContext b cfg s p ⟨some d, n⟩ = .ok ctx) :
    (∃ found, getFcActiveChannel b cfg s p (selectSduPair (cfg.rxPdu p) d).txSduId = some found) ∨
      (ctx.frameType ≠ .flowControl ∧
        (selectSduPair (cfg.rxPdu p) d).rxSduId < cfg.numberOfRxSdus ∧
        ctx.channelId = (cfg.rxSdu (selectSduPair (cfg.rxPdu p) d).rxSduId).channelId) := by
  simp only [getRxContext] at context
  split at context
  · cases context
  · split at context
    · cases context
    · rename_i found
      exact Or.inl ⟨_, found⟩
  · rename_i type data _
    split at context
    · rename_i configured
      split at context
      · cases context
      · obtain rfl := Except.ok.inj context
        exact Or.inr ⟨by simpa using data, configured, rfl⟩
    · cases context

theorem rxSduLengthCheck_short (lengths : ∀ length dl, b.dlcCheck length dl = .ok ↔ dl ≤ length)
    (short : n ≤ 1) (data : ctx.frameType ≠ .flowControl)
    (passed : (rxSduLengthCheck b s ctx d n).2 = .ok) : ctx.frameType = .consecutive := by
  have invalid : invalidDl = 255 := rfl
  cases kind : ctx.frameType with
  | single =>
      simp only [rxSduLengthCheck, kind] at passed
      have long := (lengths _ _).mp passed
      have classic : defaultCanDl = 8 := rfl
      have pci : Npci.sfCan.pciSize = 1 := rfl
      have nibble : (d ctx.addressSize).toNat % 16 < 16 := Nat.mod_lt _ (by decide)
      simp only [singleFrameDl, if_pos (show n ≤ defaultCanDl by omega)] at long
      split at long
      · split at long
        · omega
        · rw [u8_small (by omega)] at long
          omega
      · omega
  | first =>
      simp only [rxSduLengthCheck, kind] at passed
      obtain ⟨lower, -⟩ := firstFrameDl_passed (by omega) ((lengths _ _).mp passed)
      omega
  | consecutive => rfl
  | flowControl => exact absurd kind data

theorem receiveFrame_unaffected
    (lengths : ∀ length dl, b.dlcCheck length dl = .ok ↔ dl ≤ length)
    (short : n ≤ pciIndex (cfg.rxPdu p))
    (unaffected : Unaffected b cfg s p (selectSduPair (cfg.rxPdu p) d)) :
    ∃ reports, (∀ e ∈ reports, e.isReport = true) ∧
      receiveFrame b cfg env p ⟨some d, n⟩ s = { s with log := s.log ++ reports } := by
  have reported (e : Event) (report : e.isReport = true) :
      ∃ reports, (∀ e ∈ reports, e.isReport = true) ∧
        s.emit e = { s with log := s.log ++ reports } := ⟨[e], by simpa using report, rfl⟩
  simp only [receiveFrame]
  cases context : getRxContext b cfg s p ⟨some d, n⟩ with
  | error e => exact reported _ rfl
  | ok ctx =>
      rcases getRxContext_selected context with ⟨found, active⟩ | ⟨data, configured, channel⟩
      · rw [unaffected.flow] at active
        cases active
      · obtain ⟨flow, waiting, burst⟩ := unaffected.data configured
        rw [← channel] at flow waiting burst
        simp only [Option.getD_some]
        split
        · rw [lengthError_checked]
          simp only [lengthError, flow, waiting, or_self, if_false]
          split
          · exact reported _ rfl
          · exact reported _ rfl
        · rename_i checked
          have single : n ≤ 1 := by
            simp only [pciIndex] at short
            split at short <;> omega
          have consecutive := rxSduLengthCheck_short lengths single data (not_not.mp checked)
          have same := rxSduLengthCheck_same (b := b) s ctx d n
          have still : processFrame b cfg env (rxSduLengthCheck b s ctx d n).1 d n s = s := by
            simp only [processFrame, same.frameType, consecutive, processRxConsecutiveFrame,
              same.channel, waiting, false_and, if_false]
          rw [still, same.channel]
          simp only [burstMainFunction, burst]
          exact ⟨[], by simp, by simp⟩

/-- Two states with the same channels, the same pending table and the same calls made. -/
structure SameOutcome (s s' : State) : Prop where
  subState : s.subState = s'.subState
  channel : s.channel = s'.channel
  table : s.txConfirmationChannel = s'.txConfirmationChannel
  calls : s.log.filter (fun e => !e.isReport) = s'.log.filter (fun e => !e.isReport)

theorem SameOutcome.of_eq {s' : State} (same : s = s') : SameOutcome s s' := by
  subst same
  exact ⟨rfl, rfl, rfl, rfl⟩

theorem sameOutcome_reported {reports : List Event} (reported : ∀ e ∈ reports, e.isReport = true) :
    SameOutcome { s with log := s.log ++ reports } s := by
  refine ⟨rfl, rfl, rfl, ?_⟩
  have none : reports.filter (fun e => !e.isReport) = [] := by
    simpa using reported
  simp only [List.filter_append, none, List.append_nil]

theorem SameOutcome.symm {s' : State} (same : SameOutcome s s') : SameOutcome s' s :=
  ⟨same.subState.symm, same.channel.symm, same.table.symm, same.calls.symm⟩

theorem SameOutcome.trans {s' s'' : State} (first : SameOutcome s s')
    (second : SameOutcome s' s'') : SameOutcome s s'' :=
  ⟨first.subState.trans second.subState, first.channel.trans second.channel,
    first.table.trans second.table, first.calls.trans second.calls⟩

/-- The bytes received decide what becomes of the frame: the PCI byte is one of them, or
whatever stands in its place is of no consequence. -/
def FrameDecides (b : Build) (cfg : Config b) (s : State) (p n : Nat) (d : Mem) : Prop :=
  n < invalidDl ∧ (pciIndex (cfg.rxPdu p) < n ∨
    ∀ d', AgreeOn n d d' → Unaffected b cfg s p (selectSduPair (cfg.rxPdu p) d'))

theorem receiveFrame_decided (lengths : ∀ length dl, b.dlcCheck length dl = .ok ↔ dl ≤ length)
    (set : RxDlsSet b cfg s) (decides : FrameDecides b cfg s p n d) (agree : AgreeOn n d d') :
    SameOutcome (receiveFrame b cfg env p ⟨some d, n⟩ s)
      (receiveFrame b cfg env p ⟨some d', n⟩ s) := by
  obtain ⟨frame, decided⟩ := decides
  by_cases pci : pciIndex (cfg.rxPdu p) < n
  · exact .of_eq (receiveFrame_agree lengths set agree frame pci).symm
  · have unaffected := decided.resolve_left pci
    have short := Nat.not_lt.mp pci
    obtain ⟨reports, reported, outcome⟩ := @receiveFrame_unaffected b cfg env s d n p lengths
      short (unaffected d fun _ _ => rfl)
    obtain ⟨reports', reported', outcome'⟩ := @receiveFrame_unaffected b cfg env s d' n p lengths
      short (unaffected d' agree)
    rw [outcome, outcome']
    exact (sameOutcome_reported reported).trans (sameOutcome_reported reported').symm

/-- After every run whose frames are shorter than the invalid DL, a frame that decides its own
fate has the same outcome whatever the memory behind it holds. -/
theorem rxIndication_reads_frame
    (lengths : ∀ length dl, b.dlcCheck length dl = .ok ↔ dl ≤ length) (ram : State)
    {ops : List Op} (frames : ∀ op ∈ ops, op.frameLength < invalidDl)
    (decides : FrameDecides b cfg (run (step b cfg env) (start b cfg ram) ops) p n d)
    (agree : AgreeOn n d d') :
    SameOutcome
      (step b cfg env (run (step b cfg env) (start b cfg ram) ops)
        (.rxIndication p (some ⟨some d, n⟩)))
      (step b cfg env (run (step b cfg env) (start b cfg ram) ops)
        (.rxIndication p (some ⟨some d', n⟩))) := by
  have prepared : Prepared b cfg (run (step b cfg env) (start b cfg ram) ops) :=
    run_prepared lengths frames ram
  generalize run (step b cfg env) (start b cfg ram) ops = s at *
  simp only [step, rxIndication, devCheck]
  split
  · split
    · exact .of_eq rfl
    · exact receiveFrame_decided lengths prepared.rxDls decides agree
  · exact .of_eq rfl

theorem selectSduPair_update (rxPdu : RxPdu) (pci : UInt8) :
    selectSduPair rxPdu (Function.update d (pciIndex rxPdu) pci) = selectSduPair rxPdu d := by
  simp only [selectSduPair, pciIndex]
  cases rxPdu.getSduPair <;> simp

theorem receiveFrame_unknown (n : Nat) :
    SameOutcome (receiveFrame b cfg env p
      ⟨some (Function.update d (pciIndex (cfg.rxPdu p)) 0xF0), n⟩ s) s := by
  have type : frameTypeOf 0xF0 = none := by decide
  have context : getRxContext b cfg s p
      ⟨some (Function.update d (pciIndex (cfg.rxPdu p)) 0xF0), n⟩ = .error .paramConfig := by
    simp only [getRxContext, selectSduPair_pciOffset, Function.update_self, type]
  simp only [receiveFrame, context]
  exact @sameOutcome_reported s [_] (by simp [Event.isReport])

theorem lengthError_ends (waiting : s.subState ctx.channelId = .txWaitForFlowControlFrame ∨
    s.subState ctx.channelId = .rxWaitForConsecutiveFrame) :
    (lengthError ctx s).subState ctx.channelId = .idle := by
  simp only [lengthError, if_pos waiting]
  split <;> simp

theorem short_frame_differs
    (lengths : ∀ length dl, b.dlcCheck length dl = .ok ↔ dl ≤ length)
    (short : n ≤ pciIndex (cfg.rxPdu p)) (direct : b.txBurstMode = false)
    (affected : ¬ Unaffected b cfg s p (selectSduPair (cfg.rxPdu p) d)) :
    ∃ pci, ¬ SameOutcome
      (receiveFrame b cfg env p ⟨some (Function.update d (pciIndex (cfg.rxPdu p)) pci), n⟩ s)
      s := by
  have single : n ≤ 1 := by
    simp only [pciIndex] at short
    split at short <;> omega
  have differs {ctx : RxContext} {s' : State} (ended : s' = lengthError ctx s)
      (waiting : s.subState ctx.channelId = .txWaitForFlowControlFrame ∨
        s.subState ctx.channelId = .rxWaitForConsecutiveFrame) : ¬ SameOutcome s' s := by
    intro same
    have idle := lengthError_ends waiting
    rw [← ended, same.subState] at idle
    rcases waiting with waiting | waiting <;> rw [idle] at waiting <;> cases waiting
  by_cases flow : getFcActiveChannel b cfg s p (selectSduPair (cfg.rxPdu p) d).txSduId = none
  · have waits : ¬ ((selectSduPair (cfg.rxPdu p) d).rxSduId < cfg.numberOfRxSdus →
        s.subState (cfg.rxSdu (selectSduPair (cfg.rxPdu p) d).rxSduId).channelId ≠
            .txWaitForFlowControlFrame ∧
          s.subState (cfg.rxSdu (selectSduPair (cfg.rxPdu p) d).rxSduId).channelId ≠
            .rxWaitForConsecutiveFrame) := by
      intro still
      refine affected ⟨flow, fun configured => ?_⟩
      exact ⟨(still configured).1, (still configured).2, by simp [burstReady, direct]⟩
    obtain ⟨configured, waits⟩ := Classical.not_imp.mp waits
    refine ⟨0x00, ?_⟩
    generalize memory : Function.update d (pciIndex (cfg.rxPdu p)) 0x00 = d'
    have type : frameTypeOf (d' (pciIndex (cfg.rxPdu p))) = some .single := by
      rw [← memory, Function.update_self]
      decide
    have pair : selectSduPair (cfg.rxPdu p) d' = selectSduPair (cfg.rxPdu p) d := by
      rw [← memory, selectSduPair_update]
    obtain ⟨ctx, context, kind, channel⟩ : ∃ ctx, getRxContext b cfg s p ⟨some d', n⟩ = .ok ctx ∧
        ctx.frameType = .single ∧
        ctx.channelId = (cfg.rxSdu (selectSduPair (cfg.rxPdu p) d).rxSduId).channelId := by
      simp only [getRxContext, selectSduPair_pciOffset, type, pair, if_pos configured, ne_eq,
        not_true_eq_false, and_false, if_false]
      exact ⟨_, rfl, rfl, rfl⟩
    have failed : (rxSduLengthCheck b s ctx d' n).2 ≠ .ok := by
      intro passed
      have consecutive := rxSduLengthCheck_short lengths single (by simp [kind]) passed
      rw [kind] at consecutive
      cases consecutive
    refine @differs ctx _ ?_ ?_
    · simp only [receiveFrame, context, Option.getD_some, if_pos failed, lengthError_checked]
    · rw [channel]
      tauto
  · obtain ⟨⟨c, x⟩, found⟩ := Option.ne_none_iff_exists'.mp flow
    refine ⟨0x30, ?_⟩
    generalize memory : Function.update d (pciIndex (cfg.rxPdu p)) 0x30 = d'
    have type : frameTypeOf (d' (pciIndex (cfg.rxPdu p))) = some .flowControl := by
      rw [← memory, Function.update_self]
      decide
    have pair : selectSduPair (cfg.rxPdu p) d' = selectSduPair (cfg.rxPdu p) d := by
      rw [← memory, selectSduPair_update]
    obtain ⟨ctx, context, kind, channel⟩ : ∃ ctx, getRxContext b cfg s p ⟨some d', n⟩ = .ok ctx ∧
        ctx.frameType = .flowControl ∧ ctx.channelId = c := by
      simp only [getRxContext, selectSduPair_pciOffset, type, pair, found]
      exact ⟨_, rfl, rfl, rfl⟩
    have failed : (rxSduLengthCheck b s ctx d' n).2 ≠ .ok := by
      simp only [rxSduLengthCheck, kind]
      intro passed
      have long := (lengths _ _).mp passed
      simp only [defaultCanDl, fcPciSize] at long
      split at long <;> omega
    refine @differs ctx _ ?_ ?_
    · simp only [receiveFrame, context, Option.getD_some, if_pos failed, lengthError_checked]
    · exact Or.inl (channel ▸ (getFcActiveChannel_spec found).2.2)

/-- Without burst mode the condition is exact: the outcome of any other frame below the invalid
DL depends on the memory behind it. -/
theorem undecided_frame_differs
    (lengths : ∀ length dl, b.dlcCheck length dl = .ok ↔ dl ≤ length)
    (direct : b.txBurstMode = false) (running : s.mainState = true)
    (configured : p < cfg.numberOfRxPdus) (frame : n < invalidDl)
    (undecided : ¬ FrameDecides b cfg s p n d) :
    ∃ d', AgreeOn n d d' ∧ ¬ SameOutcome (step b cfg env s (.rxIndication p (some ⟨some d, n⟩)))
      (step b cfg env s (.rxIndication p (some ⟨some d', n⟩))) := by
  have received (d : Mem) : step b cfg env s (.rxIndication p (some ⟨some d, n⟩)) =
      receiveFrame b cfg env p ⟨some d, n⟩ s := by
    simp only [step, rxIndication, devCheck, running, if_true, if_neg (Nat.not_le.mpr configured)]
  simp only [received]
  obtain ⟨short, open'⟩ := not_or.mp fun decided => undecided ⟨frame, decided⟩
  have short := Nat.not_lt.mp short
  obtain ⟨d', open'⟩ := not_forall.mp open'
  obtain ⟨agree, affected⟩ := Classical.not_imp.mp open'
  have behind (pci : UInt8) :
      AgreeOn n d (Function.update d' (pciIndex (cfg.rxPdu p)) pci) := by
    intro i inside
    rw [Function.update_of_ne (by omega)]
    exact agree i inside
  obtain ⟨pci, differs⟩ := @short_frame_differs b cfg env s d' n p lengths short direct affected
  by_contra always
  have same (d'' : Mem) (agree : AgreeOn n d d'') :
      SameOutcome (receiveFrame b cfg env p ⟨some d, n⟩ s)
        (receiveFrame b cfg env p ⟨some d'', n⟩ s) := by
    by_contra other
    exact always ⟨d'', agree, other⟩
  exact differs ((same _ (behind pci)).symm.trans
    ((same _ (behind 0xF0)).trans (receiveFrame_unknown n)))

end Short

section Node

def awaitingFlowControl : List Op := [.transmit 0 (some 20), .mainFunction, .txConfirmation 0]

theorem rxIndication_reads_flowControl :
    SameOutcome
      (step nodeBuild nodeConfig nodeEnv
        (run (step nodeBuild nodeConfig nodeEnv) (start nodeBuild nodeConfig nodeRam)
          awaitingFlowControl)
        (.rxIndication 0 (some ⟨some fun i => [0x30, 2, 5, 0xAA].getD i 0, 3⟩)))
      (step nodeBuild nodeConfig nodeEnv
        (run (step nodeBuild nodeConfig nodeEnv) (start nodeBuild nodeConfig nodeRam)
          awaitingFlowControl)
        (.rxIndication 0 (some ⟨some fun i => [0x30, 2, 5, 0xBB].getD i 0, 3⟩))) :=
  rxIndication_reads_frame nodeBuild_sound.2 nodeRam (by decide) ⟨by decide, Or.inl (by decide)⟩
    (by unfold AgreeOn; decide)

theorem empty_frame_undecided :
    AgreeOn 0 (fun _ => 0x30) (fun _ => 0xF0) ∧
      (∀ op ∈ awaitingFlowControl, op.frameLength < invalidDl) ∧
      ¬ SameOutcome
        (step nodeBuild nodeConfig nodeEnv
          (run (step nodeBuild nodeConfig nodeEnv) (start nodeBuild nodeConfig nodeRam)
            awaitingFlowControl)
          (.rxIndication 0 (some ⟨some fun _ => 0x30, 0⟩)))
        (step nodeBuild nodeConfig nodeEnv
          (run (step nodeBuild nodeConfig nodeEnv) (start nodeBuild nodeConfig nodeRam)
            awaitingFlowControl)
          (.rxIndication 0 (some ⟨some fun _ => 0xF0, 0⟩))) := by
  refine ⟨by unfold AgreeOn; decide, by decide, fun same => ?_⟩
  have channel := congrFun same.subState 0
  revert channel
  decide

end Node

end AnchorNode.CanTp
