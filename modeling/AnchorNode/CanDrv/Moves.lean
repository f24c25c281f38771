import AnchorNode.CanDrv.Service

/-! What the controller does by itself: it sends what is requested and stores what it receives, and
every context can rely on that. -/

namespace AnchorNode.CanDrv

open AnchorNode.Lib

variable {D : Type} {cfg : Config} {chip : Chip D} {view : D → View} {i : Context} {s s' : State D}

theorem Rely.of_all (sane : Sane cfg view s') (mine : ∀ i, Undisturbed cfg view i s s')
    (lanes : ∀ lane, (inbox cfg view lane).Grows s s') : Rely cfg view i s s' :=
  ⟨fun _ => sane, mine i, fun lane _ => lanes lane⟩

section Sending
variable {b : Nat} {d : D}

def State.complete (s : State D) (view : D → View) (b : Nat) (d : D) : State D :=
  { s with
    completed := s.completed ++ [(s.requestedFor b, busFrame ((view s.dev).element b))], dev := d }

theorem complete_waiting (sane : Sane cfg view s) :
    (txPart view (s.complete view b d)).waiting =
      (txPart view s).waiting ++ [(s.requestedFor b, busFrame ((view s.dev).element b))] :=
  List.drop_append_of_le_length (sane.lanes .tx).reported_le

theorem Sane.room_for_event (sane : Sane cfg view s) (requested : (view s.dev).requested b = true) :
    (view s.dev).events.length < cfg.canMsgRamConfig.canTxBufferCount := by
  obtain ⟨inside, fresh, -⟩ := sane.tx.ready b requested
  have nodup : (b :: (txPart view s).markers).Nodup := List.nodup_cons.mpr ⟨fresh, sane.tx.once⟩
  have below : b :: (txPart view s).markers ⊆
      List.range cfg.canMsgRamConfig.canTxBufferCount := by
    intro b' member
    rcases List.mem_cons.mp member with rfl | old
    · exact List.mem_range.mpr inside
    · exact List.mem_range.mpr (sane.tx.inside b' old)
  have few := (List.subperm_of_subset nodup below).length_le
  obtain ⟨hand, -, behind⟩ := (sane.lanes .tx).behind
  have lengths : ((txPart view s).markers).length = (hand ++ (view s.dev).events).length :=
    congrArg List.length behind
  rw [List.length_cons, List.length_range, lengths, List.length_append] at few
  omega

theorem complete_txPart (after : view d = { view s.dev with
      requested := Function.update (view s.dev).requested b false
      events := (view s.dev).events ++ [b]
      intr := (view s.dev).intr ||| irTefn }) :
    txPart view (s.complete view b d) = { txPart view s with
      requested := Function.update (view s.dev).requested b false
      completed := s.completed ++ [(s.requestedFor b, busFrame ((view s.dev).element b))] } := by
  simp only [txPart, State.complete, after]

theorem asked_complete (p : TxPart) (request : Request) {frame : BusFrame}
    (requested : p.requested b = true) (names : (p.requestedFor b).buffer = b)
    (asked : p.uses request ≤ p.requests.count request) :
    { p with
      requested := Function.update p.requested b false
      completed := p.completed ++ [(p.requestedFor b, frame)] }.uses request ≤
      p.requests.count request := by
  refine le_trans (le_of_eq ?_) asked
  unfold TxPart.uses
  rw [List.map_append, List.count_append, List.map_singleton, List.count_singleton]
  by_cases same : request.buffer = b
  · simp [same, requested]
  · have apart : p.requestedFor b ≠ request := fun equal => same (equal ▸ names)
    simp [apart, Function.update_of_ne same]

theorem asked_abort (p : TxPart) (request : Request) (b : Nat)
    (asked : p.uses request ≤ p.requests.count request) :
    { p with requested := Function.update p.requested b false }.uses request ≤
      p.requests.count request := by
  refine le_trans ?_ asked
  unfold TxPart.uses
  by_cases same : request.buffer = b
  · simp [same]
  · simp [Function.update_of_ne same]

theorem complete_rely (sane : Sane cfg view s) (requested : (view s.dev).requested b = true)
    (after : view d = { view s.dev with
      requested := Function.update (view s.dev).requested b false
      events := (view s.dev).events ++ [b]
      intr := (view s.dev).intr ||| irTefn }) :
    Rely cfg view i s (s.complete view b d) := by
  obtain ⟨inside, fresh, names, handle, built⟩ := sane.tx.ready b requested
  have waiting := complete_waiting (b := b) (d := d) sane
  have tx := complete_txPart after
  have markers : (txPart view (s.complete view b d)).markers = (txPart view s).markers ++ [b] := by
    rw [TxPart.markers, waiting, List.map_append]
    exact congrArg _ (congrArg (fun b => [b]) names)
  have lanes (lane : Lane) : (inbox cfg view lane).Grows s (s.complete view b d) := by
    cases lane with
    | tx =>
        have index : (view d).eventIndex = (view s.dev).eventIndex := by rw [after]
        refine ⟨⟨[(s.requestedFor b, busFrame ((view s.dev).element b))], rfl, ?_, fun _ => ?_⟩,
          rfl, index, fun up => ?_⟩
        · refine (congrArg View.events after).trans ?_
          exact congrArg (fun b => (view s.dev).events ++ [b]) names.symm
        · show (view d).intr &&& irTefn ≠ 0#32
          rw [after]
          exact raised_self (f := irTefn) (by decide) _
        · show (view d).intr &&& irTefn ≠ 0#32
          rw [after]
          exact raised_and up _
    | rx store =>
        refine Inbox.Grows.same rfl rfl ?_ ?_ fun up => ?_ <;>
          simp only [inbox, rxInbox, State.complete, after]
        exact raised_and up _
  have tx_sane : (txPart view (s.complete view b d)).Sane cfg := by
    obtain ⟨ready, handles, once, inside_all, frames, asked⟩ := sane.tx
    refine ⟨fun b' requested' => ?_, fun sent waits => ?_, ?_, fun b' member => ?_,
      fun sent member => ?_, fun request => ?_⟩
    · rw [tx] at requested'
      have other : b' ≠ b := by
        rintro rfl
        exact Bool.noConfusion
          ((Function.update_self _ _ _).symm.trans requested' : false = true)
      have was := ready b' ((Function.update_of_ne other _ _).symm.trans requested')
      refine ⟨was.inside, ?_, was.names, was.handle, ?_⟩
      · rw [markers]
        simpa using ⟨was.fresh, other⟩
      · rw [tx]
        exact was.built
    · rw [waiting] at waits
      rcases List.mem_append.mp waits with old | new
      · exact handles sent old
      · obtain rfl := List.mem_singleton.mp new
        exact (congrArg s.swPduHandle names).trans handle
    · rw [markers]
      refine List.nodup_append.mpr ⟨once, List.nodup_singleton b, fun b' member c new => ?_⟩
      obtain rfl := List.mem_singleton.mp new
      exact fun same => fresh (same ▸ member)
    · rw [markers] at member
      rcases List.mem_append.mp member with old | new
      · exact inside_all b' old
      · exact List.mem_singleton.mp new ▸ inside
    · rcases List.mem_append.mp member with old | new
      · exact frames sent old
      · obtain rfl := List.mem_singleton.mp new
        exact ⟨built.frame, built.sendable⟩
    · rw [tx]
      exact asked_complete (txPart view s) request requested names (asked request)
  refine Rely.of_all ⟨fun lane => (sane.lanes lane).grows (lanes lane), tx_sane, ?_⟩
    (fun j hth _ locked => ⟨locked, fun b' _ idle => ?_⟩) lanes
  · simpa only [State.complete, after] using sane.stored
  · have other : b' ≠ b := by
      rintro rfl
      exact Bool.noConfusion (idle.symm.trans requested)
    refine ⟨?_, fun fresh' => ?_, rfl, ?_⟩
    · rw [tx]
      exact (Function.update_of_ne other _ _).trans idle
    · rw [markers]
      simpa using ⟨fresh', other⟩
    · rw [tx]

theorem abort_rely (sane : Sane cfg view s) (after : view d = { view s.dev with
      requested := Function.update (view s.dev).requested b false }) :
    Rely cfg view i s { s with dev := d } := by
  have tx : txPart view { s with dev := d } = { txPart view s with
      requested := Function.update (view s.dev).requested b false } := by
    simp only [txPart, after]
  have unmoved : Unmoved view s { s with dev := d } := by
    constructor <;> first | rfl | rw [after]
  have lanes (lane : Lane) : (inbox cfg view lane).Grows s { s with dev := d } := by
    refine unmoved.grows lane ?_
    rw [after]
    exact id
  refine Rely.of_all ⟨fun lane => (sane.lanes lane).grows (lanes lane), ?_, ?_⟩
    (fun j hth _ locked => ⟨locked, fun b' _ idle => ?_⟩) lanes
  · obtain ⟨ready, handles, once, inside, frames, asked⟩ := sane.tx
    rw [tx]
    refine ⟨fun b' requested => ?_, handles, once, inside, frames, fun request =>
      asked_abort (txPart view s) request b (asked request)⟩
    change Function.update (view s.dev).requested b false b' = true at requested
    have other : b' ≠ b := by
      rintro rfl
      exact Bool.noConfusion ((Function.update_self _ _ _).symm.trans requested : false = true)
    obtain ⟨inside, fresh, names, handle, built⟩ :=
      ready b' ((Function.update_of_ne other _ _).symm.trans requested)
    exact ⟨inside, fresh, names, handle, built⟩
  · rw [unmoved.received]
    exact sane.stored
  · rw [tx]
    refine ⟨?_, id, rfl, rfl⟩
    show Function.update (view s.dev).requested b false b' = false
    by_cases same : b' = b
    · rw [same, Function.update_self]
    · rwa [Function.update_of_ne same]

end Sending

section Receiving
variable {d : D}

theorem raise_rely (sane : Sane cfg view s) {flags : Word}
    (after : view d = { view s.dev with intr := (view s.dev).intr ||| flags }) :
    Rely cfg view i s { s with dev := d } := by
  have tx : txPart view { s with dev := d } = txPart view s := by simp only [txPart, after]
  have unmoved : Unmoved view s { s with dev := d } := by
    constructor <;> first | rfl | rw [after]
  have lanes (lane : Lane) : (inbox cfg view lane).Grows s { s with dev := d } := by
    refine unmoved.grows lane fun up => ?_
    rw [after]
    exact raised_and up flags
  refine Rely.of_all ⟨fun lane => (sane.lanes lane).grows (lanes lane), tx ▸ sane.tx, ?_⟩
    (fun j => Undisturbed.same tx rfl) lanes
  rw [unmoved.received]
  exact sane.stored

theorem newFlag_ne (store : RxStore) : newFlag store ≠ 0#32 := by
  cases store with
  | fifo0 => exact (by decide : irRf0n ≠ 0#32)
  | fifo1 => exact (by decide : irRf1n ≠ 0#32)
  | buffer index => exact (by decide : irDrx ≠ 0#32)

def State.store (s : State D) (store : RxStore) (frame : RxFrame) (d : D) : State D :=
  { s with arrived := Function.update s.arrived store (s.arrived store ++ [frame]), dev := d }

theorem store_rely (sane : Sane cfg view s) {store : RxStore} {frame : RxFrame}
    (space : ((view s.dev).received store).length < capacity cfg store)
    (fits : rxLength frame.r1 ≤ bufferSizeFd cfg.canFdDataBufSize)
    (after : view d = { view s.dev with
      received := Function.update (view s.dev).received store
        ((view s.dev).received store ++ [frame])
      intr := (view s.dev).intr ||| newFlag store }) :
    Rely cfg view i s (s.store store frame d) := by
  have tx : txPart view (s.store store frame d) = txPart view s := by
    simp only [txPart, State.store, after]
  have received (store' : RxStore) : (view d).received store' =
      Function.update (view s.dev).received store ((view s.dev).received store ++ [frame])
        store' := by
    rw [after]
  have index : (view d).rxIndex = (view s.dev).rxIndex := by rw [after]
  have raised {f : Word} (up : (view s.dev).intr &&& f ≠ 0#32) : (view d).intr &&& f ≠ 0#32 := by
    rw [after]
    exact raised_and up _
  have lanes (lane : Lane) : (inbox cfg view lane).Grows s (s.store store frame d) := by
    cases lane with
    | tx =>
        refine Inbox.Grows.same rfl rfl ?_ ?_ raised <;>
          simp only [inbox, txInbox, State.store, after]
    | rx store' =>
        by_cases same : store' = store
        · subst same
          refine ⟨⟨[frame], Function.update_self _ _ _, ?_, fun _ => ?_⟩, rfl, congrFun index _,
            raised⟩
          · exact (received store').trans (Function.update_self _ _ _)
          · show (view d).intr &&& newFlag store' ≠ 0#32
            rw [after]
            exact raised_self (newFlag_ne store') _
        · exact Inbox.Grows.same (Function.update_of_ne same _ _) rfl
            ((received store').trans (Function.update_of_ne same _ _)) (congrFun index _) raised
  refine Rely.of_all ⟨fun lane => (sane.lanes lane).grows (lanes lane), tx ▸ sane.tx,
    fun store' => ?_, fun store' frame' member => ?_⟩ (fun j => Undisturbed.same tx rfl) lanes
  · show ((view d).received store').length ≤ capacity cfg store'
    rw [received]
    by_cases same : store' = store
    · subst same
      rw [Function.update_self, List.length_append]
      exact space
    · rw [Function.update_of_ne same]
      exact sane.stored.room store'
  · change frame' ∈ (view d).received store' at member
    rw [received] at member
    by_cases same : store' = store
    · subst same
      rw [Function.update_self] at member
      rcases List.mem_append.mp member with old | new
      · exact sane.stored.fits store' frame' old
      · exact List.mem_singleton.mp new ▸ fits
    · rw [Function.update_of_ne same] at member
      exact sane.stored.fits store' frame' member

end Receiving

theorem aside_rely (sane : Sane cfg view s) (state : DeviceState) (mode : ControllerMode)
    (icom : Nat) : Rely cfg view i s { s with
      rwDevState := state, controllerMode := mode, gComConfigId := icom } := by
  have aside (j : Context) : Guarantee cfg view j (fun _ => False) s { s with
      rwDevState := state, controllerMode := mode, gComConfigId := icom } :=
    Guarantee.aside s.exCntxt state mode icom s.busOffs s.reports
  exact Rely.of_all ((aside .task).sane sane) (fun _ => Undisturbed.same rfl rfl)
    fun lane => (aside .task).lanes lane id

theorem happen_exCntxt (m : Happening) : (happen cfg chip view s m).exCntxt = s.exCntxt := by
  rcases m with (_ | _ | ⟨store, frame⟩ | _) | _ | _
  case chip.received =>
      simp only [happen, record]
      split <;> rfl
  all_goals rfl

theorem happen_rely (contract : Contract cfg chip view) (sane : Sane cfg view s) (m : Happening)
    (possible : (setting cfg chip view).possible s m) :
    Rely cfg view i s (happen cfg chip view s m) := by
  cases m with
  | chip m =>
      have after := contract.moves s.dev m possible
      cases m with
      | sent b =>
          have requested : (view s.dev).requested b = true := possible
          have ready := sane.tx.ready b requested
          have event : storesEvent ((view s.dev).element b) = true := ready.built.event
          have marker : txMarker ((view s.dev).element b) = b :=
            ready.built.marker.trans ready.names
          have state : happen cfg chip view s (.chip (.sent b)) =
              s.complete view b (chip.move s.dev (.sent b)) := by
            simp only [happen, record]
            rfl
          rw [state]
          refine complete_rely sane requested (after.trans ?_)
          simp only [View.move, View.sent, event, if_true, if_pos (sane.room_for_event requested),
            marker]
      | aborted b => exact abort_rely sane after
      | received store frame =>
          by_cases space : ((view s.dev).received store).length < capacity cfg store
          · have state : happen cfg chip view s (.chip (.received store frame)) =
                s.store store frame (chip.move s.dev (.received store frame)) := by
              simp only [happen, record, if_pos space]
              rfl
            rw [state]
            exact store_rely sane space possible.2 (after.trans (if_pos space))
          · have state : happen cfg chip view s (.chip (.received store frame)) =
                { s with dev := chip.move s.dev (.received store frame) } := by
              simp only [happen, record, if_neg space]
            rw [state]
            exact raise_rely sane (after.trans (if_neg space))
      | raised flags => exact raise_rely sane after
  | switchState state mode =>
      exact aside_rely sane state mode s.gComConfigId
  | switchIcom id =>
      exact aside_rely sane s.rwDevState s.controllerMode id

end AnchorNode.CanDrv
