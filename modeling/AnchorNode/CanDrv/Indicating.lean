import AnchorNode.CanDrv.Confirming

/-! Received frames: what a store of the controller holds is indicated as the frame says, from the
FIFOs and from the dedicated buffers. -/

namespace AnchorNode.CanDrv

open AnchorNode.Lib

variable {D : Type} {cfg : Config} {chip : Chip D} {view : D → View} {i : Context} {s s' : State D}
  {store : RxStore} {frame : RxFrame}

def Decodes (msg : MsgInfo) (frame : RxFrame) : Prop :=
  msg = rxMessage frame.r0 frame.r1 frame.data

section Elements
variable (contract : Contract cfg chip view)
include contract

theorem does_fetchRxElement (mine : Mine cfg i (.rx store)) (n : Nat) (frame : RxFrame) :
    Does cfg chip view i (fun _ => False)
      (fun s => (inbox cfg view (.rx store)).index s = n ∧
        (inbox cfg view (.rx store)).Head frame s)
      (fetchRxElement (rxElem cfg store n))
      (fun msg _ => Decodes msg frame) := by
  have still : Lasting cfg view (Mine cfg i) fun s =>
      (inbox cfg view (.rx store)).index s = n ∧ (inbox cfg view (.rx store)).Head frame s :=
    (lasting_index mine n).and (lasting_head mine frame)
  refine does_bind (does_spiRead (R := fun words s =>
    (words.getD 0 0#32 = frame.r0 ∧ words.getD 1 0#32 = frame.r1) ∧
      (inbox cfg view (.rx store)).index s = n ∧ (inbox cfg view (.rx store)).Head frame s)
    still.kept (fun words s s' sane rely holds => ⟨holds.1, still.kept s s' sane rely holds.2⟩)
    (by simp) ?_) ?_
  · rintro s sane ⟨rfl, rest, received⟩
    exact ⟨contract.rx_head s.dev store frame rest received, rfl, rest, received⟩
  · rintro ⟨_, head⟩
    refine does_fact ?_
    rintro ⟨r0, r1⟩
    dsimp only
    rw [r0, r1]
    refine does_bind (does_spiRead (R := fun words _ => words = frame.data) still.kept
      (fun _ _ _ _ _ => id) (by simp) ?_) ?_
    · rintro s sane ⟨rfl, rest, received⟩
      exact contract.rx_data s.dev store frame rest received
        (sane.stored.fits store frame
          (show frame ∈ (inbox cfg view (.rx store)).queue s from received ▸ List.mem_cons_self))
    · rintro ⟨_, data⟩
      exact does_pure (fun _ _ _ _ => id) fun _ _ same => by rw [Decodes, show data = _ from same]

end Elements

section Notification

def State.indicate (s : State D) (store : RxStore) (report : Mailbox × RxPdu) : State D :=
  { s with indicated := Function.update s.indicated store (s.indicated store ++ [report]) }

theorem indicate_guarantee (sane : Sane cfg view s)
    (hand : (inbox cfg view (.rx store)).InHand frame s) :
    Guarantee cfg view i (fun other => other = .rx store) s
        (s.indicate store (indication cfg frame)) ∧
      (inbox cfg view (.rx store)).Settled (s.indicate store (indication cfg frame)) := by
  have reported : (inbox cfg view (.rx store)).reported (s.indicate store (indication cfg frame)) =
      (inbox cfg view (.rx store)).reported s ++ [indication cfg frame] :=
    Function.update_self _ _ _
  have arrived : (inbox cfg view (.rx store)).arrived (s.indicate store (indication cfg frame)) =
      (inbox cfg view (.rx store)).arrived s := rfl
  obtain ⟨settled, sound⟩ := hand.deliver (sane.lanes (.rx store)) arrived reported rfl
  refine ⟨Guarantee.off_tx rfl rfl (fun _ lane here => ?_) (fun sane => sane.stored)
    fun lane other => ?_, settled⟩
  · obtain rfl := here
    exact sound
  · cases lane with
    | tx => exact Inbox.Grows.same rfl rfl rfl rfl id
    | rx store' =>
        refine Inbox.Grows.same rfl (Function.update_of_ne ?_ _ _) rfl rfl id
        rintro rfl
        exact other rfl

variable (configured : WellConfigured cfg) (contract : Contract cfg chip view)
  (mine : Mine cfg i (.rx store))
include configured contract mine

theorem does_rxNotification (frame : RxFrame) (n : Nat) :
    Does cfg chip view i (fun other => other = .rx store)
      (fun s => (inbox cfg view (.rx store)).InHand frame s ∧
        (inbox cfg view (.rx store)).Counted n s)
      (rxNotification cfg i store (rxMessage frame.r0 frame.r1 frame.data))
      (fun _ s => (inbox cfg view (.rx store)).Settled s ∧
        (inbox cfg view (.rx store)).Counted n s) := by
  have before : Lasting cfg view (Mine cfg i) fun s =>
      (inbox cfg view (.rx store)).InHand frame s ∧ (inbox cfg view (.rx store)).Counted n s :=
    (lasting_inHand mine frame).and (lasting_counted mine n)
  have after : Lasting cfg view (Mine cfg i) fun s =>
      (inbox cfg view (.rx store)).Settled s ∧ (inbox cfg view (.rx store)).Counted n s :=
    (lasting_settled mine).and (lasting_counted mine n)
  refine does_bind (does_ask (R := fun (calls : List WriteCall) s =>
    (∀ call ∈ calls, Checked cfg call) ∧ (inbox cfg view (.rx store)).Settled s ∧
      (inbox cfg view (.rx store)).Counted n s) before.kept
    (fun calls s s' sane rely holds => ⟨holds.1, after.kept s s' sane rely holds.2⟩) ?_)
    fun calls => does_fact fun checked => does_answer configured contract mine n checked
  rintro s c sane ⟨hand, counted⟩ allowed
  obtain ⟨guarantee, settled⟩ := indicate_guarantee (i := i) sane hand
  exact ⟨guarantee, allowed, settled, counted⟩

end Notification

section Taking

theorem rx_taken {c : RxFrame} {next : Nat} (sane : Sane cfg view s)
    (settled : (inbox cfg view (.rx store)).Settled s)
    (head : (inbox cfg view (.rx store)).Head c s) {address : Address} {words : List Word}
    (after : view (s.written chip address words).dev = (view s.dev).dropReceived store next) :
    Guarantee cfg view i (fun other => other = .rx store) s (s.written chip address words) ∧
      (∃ a, (inbox cfg view (.rx store)).shown a = c ∧
        (inbox cfg view (.rx store)).InHand a (s.written chip address words)) ∧
      ∀ n, (inbox cfg view (.rx store)).Counted (n + 1) s →
        (inbox cfg view (.rx store)).Counted n (s.written chip address words) := by
  have received (store' : RxStore) (other : store' ≠ store) :
      (view (s.written chip address words).dev).received store' = (view s.dev).received store' := by
    rw [after]
    exact Function.update_of_ne other _ _
  have tail : (view (s.written chip address words).dev).received store =
      ((view s.dev).received store).tail := by
    rw [after]
    exact Function.update_self _ _ _
  refine taken sane settled head ?_ rfl ⟨fun store' => ?_, fun store' frame member => ?_⟩
    (fun other apart => ?_) rfl rfl tail ?_
  · simp only [txPart, after, View.dropReceived]
    rfl
  · by_cases same : store' = store
    · subst same
      rw [tail, List.length_tail]
      exact (Nat.sub_le _ _).trans (sane.stored.room store')
    · rw [received store' same]
      exact sane.stored.room store'
  · by_cases same : store' = store
    · subst same
      rw [tail] at member
      exact sane.stored.fits store' frame (List.mem_of_mem_tail member)
    · rw [received store' same] at member
      exact sane.stored.fits store' frame member
  · cases other with
    | tx => refine Inbox.Grows.same rfl rfl ?_ ?_ ?_ <;>
        simp only [inbox, txInbox, after, View.dropReceived, imp_self]
    | rx store' =>
        have distinct : store' ≠ store := fun same => apart (congrArg Lane.rx same)
        refine Inbox.Grows.same rfl rfl (received store' distinct) ?_ ?_
        · simp only [inbox, rxInbox, after]
          exact Function.update_of_ne distinct _ _
        · simp only [inbox, rxInbox, after, View.dropReceived, imp_self]
  · simp only [inbox, rxInbox, after, View.dropReceived, imp_self]

end Taking

section Fifos

/-- A port that serves a FIFO of received frames. -/
structure Serves (cfg : Config) (context : Context) (store : RxStore) (port : FifoPort MsgInfo) :
    Prop where
  fifo : store.IsFifo
  status : port.status = statusRegister store
  acknowledge : port.acknowledge = acknowledgeRegister store
  levelMask : port.levelMask = 0x7F#32
  indexMask : port.indexMask = 0x3F00#32
  fetch : ∀ n, port.fetch n = fetchRxElement (rxElem cfg store n)
  notify : ∀ msg, port.notify msg = rxNotification cfg context store msg

theorem rxFifo0_serves : Serves cfg i .fifo0 (rxFifo0Port cfg i) :=
  ⟨Or.inl rfl, rfl, rfl, rfl, rfl, fun _ => rfl, fun _ => rfl⟩

theorem rxFifo1_serves : Serves cfg i .fifo1 (rxFifo1Port cfg i) :=
  ⟨Or.inr rfl, rfl, rfl, rfl, rfl, fun _ => rfl, fun _ => rfl⟩

theorem RxStore.IsFifo.regular (fifo : store.IsFifo) :
    (statusRegister store ≠ .intr ∧ statusRegister store ≠ .ndat1) ∧
      acknowledgeRegister store ≠ .intr := by
  rcases fifo with rfl | rfl <;> decide

theorem Serves.drains {port : FifoPort MsgInfo} (serves : Serves cfg i store port)
    (configured : WellConfigured cfg) (contract : Contract cfg chip view)
    (mine : Mine cfg i (.rx store)) :
    Drains cfg chip view i (.rx store) port Decodes where
  status_regular := serves.status ▸ serves.fifo.regular.1
  level s sane := by
    rw [serves.status, serves.levelMask]
    exact contract.rx_level s.dev store serves.fifo (sane.stored.room store)
  index s _ := by
    rw [serves.status, serves.indexMask]
    exact contract.rx_index s.dev store serves.fifo
  fetch n frame := serves.fetch n ▸ does_fetchRxElement contract mine n frame
  acknowledge_regular := serves.acknowledge ▸ serves.fifo.regular.2
  acknowledge s w c sane settled head at_index := by
    obtain ⟨rest, received⟩ := head
    obtain ⟨next, acknowledged⟩ := contract.rx_acknowledge s.dev store serves.fifo (by
      rw [show (view s.dev).received store = _ from received]
      exact List.cons_ne_nil _ _)
    rw [serves.acknowledge]
    exact rx_taken sane settled ⟨rest, received⟩ (acknowledged w at_index)
  notify msg frame n read := by
    rw [show msg = _ from read, serves.notify]
    exact does_rxNotification configured contract mine frame n

end Fifos

end AnchorNode.CanDrv
