import AnchorNode.CanDrv.Draining

/-! The TX events: each frame that was sent is confirmed with the handle of its PDU. -/

namespace AnchorNode.CanDrv

open AnchorNode.Lib

variable {D : Type} {cfg : Config} {chip : Chip D} {view : D → View} {i : Context} {s : State D}

section Events

theorem TxPart.Sane.few {p : TxPart} (sane : p.Sane cfg) :
    p.markers.length ≤ cfg.canMsgRamConfig.canTxBufferCount := by
  have below : p.markers ⊆ List.range cfg.canMsgRamConfig.canTxBufferCount :=
    fun b member => List.mem_range.mpr (sane.inside b member)
  simpa using (List.subperm_of_subset sane.once below).length_le

theorem Sane.events_le (sane : Sane cfg view s) :
    (view s.dev).events.length ≤ cfg.canMsgRamConfig.canTxBufferCount := by
  obtain ⟨hand, -, behind⟩ := (sane.lanes .tx).behind
  have lengths : ((txPart view s).markers).length = (hand ++ (view s.dev).events).length :=
    congrArg List.length behind
  have few := sane.tx.few
  rw [lengths, List.length_append] at few
  omega

def State.confirm (s : State D) (handle : Nat) : State D :=
  { s with confirmed := s.confirmed ++ [handle] }

theorem confirm_waiting {sent : Request × BusFrame} {others : List (Request × BusFrame)}
    (waiting : (txPart view s).waiting = sent :: others) (handle : Nat) :
    (txPart view (s.confirm handle)).waiting = others := by
  show s.completed.drop (s.confirmed ++ [handle]).length = others
  rw [List.length_append, List.length_singleton, ← List.drop_drop]
  exact congrArg (List.drop 1) waiting

theorem confirm_guarantee {sent : Request × BusFrame} (sane : Sane cfg view s)
    (hand : (inbox cfg view .tx).InHand sent s) :
    Guarantee cfg view i (fun other => other = .tx) s (s.confirm sent.1.pdu.swPduHandle) ∧
      (inbox cfg view .tx).Settled (s.confirm sent.1.pdu.swPduHandle) := by
  have arrived : (inbox cfg view .tx).arrived (s.confirm sent.1.pdu.swPduHandle) =
      (inbox cfg view .tx).arrived s := rfl
  obtain ⟨settled, sound⟩ := hand.deliver (sane.lanes .tx) arrived rfl rfl
  obtain ⟨others, waiting, -⟩ := hand
  change (txPart view s).waiting = sent :: others at waiting
  have after := confirm_waiting waiting sent.1.pdu.swPduHandle
  have markers : (txPart view s).markers = sent.1.buffer ::
      (txPart view (s.confirm sent.1.pdu.swPduHandle)).markers := by
    rw [TxPart.markers, TxPart.markers, after, waiting, List.map_cons]
  have fewer (b : Nat) (fresh : b ∉ (txPart view s).markers) :
      b ∉ (txPart view (s.confirm sent.1.pdu.swPduHandle)).markers :=
    fun member => fresh (markers ▸ List.mem_cons_of_mem _ member)
  have lanes (lane : Lane) (other : lane ≠ .tx) :
      (inbox cfg view lane).Grows s (s.confirm sent.1.pdu.swPduHandle) := by
    cases lane with
    | tx => exact absurd rfl other
    | rx store => exact Inbox.Grows.same rfl rfl rfl rfl id
  refine ⟨⟨fun _ => ⟨fun lane => ?_, ?_, sane.stored⟩, fun j _ hth _ mine => ⟨mine, ?_⟩, lanes⟩,
    settled⟩
  · by_cases here : lane = .tx
    · exact here ▸ sound
    · exact (sane.lanes lane).grows (lanes lane here)
  · obtain ⟨ready, handles, once, inside, frames, asked⟩ := sane.tx
    rw [markers] at once inside
    refine ⟨fun b requested => ?_, fun sent' waits => ?_, once.of_cons, fun b member =>
      inside b (List.mem_cons_of_mem _ member), frames, asked⟩
    · obtain ⟨inside, fresh, names, handle, built⟩ := ready b requested
      exact ⟨inside, fewer b fresh, names, handle, built⟩
    · rw [after] at waits
      exact handles sent' (waiting ▸ List.mem_cons_of_mem _ waits)
  · exact fun b _ quiet => ⟨quiet, fewer b, rfl, rfl⟩

end Events

theorem tx_mask_apart {word : Word} (lane : Lane) (other : lane ≠ .tx) :
    word &&& (irTefn ||| irTefl) &&& lane.flag = 0#32 := by
  refine masked_apart ?_ word
  rcases lane with _ | ⟨_ | _ | _⟩
  · exact absurd rfl other
  · rfl
  · rfl
  · exact (by decide : (irTefn ||| irTefl) &&& irDrx = 0#32)

section Port
variable (configured : WellConfigured cfg) (contract : Contract cfg chip view)
  (mine : Mine cfg i .tx)
include configured contract mine

theorem txEvent_notify (sent : Request × BusFrame) (n : Nat) :
    Does cfg chip view i (fun other => other = .tx)
      (fun s => (inbox cfg view .tx).InHand sent s ∧ (inbox cfg view .tx).Counted n s)
      ((txEventPort cfg i).notify sent.1.buffer)
      (fun _ s => (inbox cfg view .tx).Settled s ∧ (inbox cfg view .tx).Counted n s) := by
  have before : Lasting cfg view (Mine cfg i) fun s =>
      (inbox cfg view .tx).InHand sent s ∧ (inbox cfg view .tx).Counted n s :=
    (lasting_inHand mine sent).and (lasting_counted mine n)
  have after : Lasting cfg view (Mine cfg i) fun s =>
      (inbox cfg view .tx).Settled s ∧ (inbox cfg view .tx).Counted n s :=
    (lasting_settled mine).and (lasting_counted mine n)
  have looked : Does cfg chip view i (fun other => other = .tx)
      (fun s => (inbox cfg view .tx).InHand sent s ∧ (inbox cfg view .tx).Counted n s)
      (swPduHandle sent.1.buffer)
      (fun handle s => handle = sent.1.pdu.swPduHandle ∧
        (inbox cfg view .tx).InHand sent s ∧ (inbox cfg view .tx).Counted n s) := by
    refine does_look before.kept (fun handle s s' sane rely holds =>
      ⟨holds.1, before.kept s s' sane rely holds.2⟩) (fun _ _ => rfl) ?_
    rintro s c sane ⟨hand, counted⟩ -
    refine ⟨?_, hand, counted⟩
    obtain ⟨others, waiting, -⟩ := hand
    change (txPart view s).waiting = sent :: others at waiting
    exact sane.tx.handles sent (waiting ▸ List.mem_cons_self)
  have confirmed : Does cfg chip view i (fun other => other = .tx)
      (fun s => (inbox cfg view .tx).InHand sent s ∧ (inbox cfg view .tx).Counted n s)
      (canIfTxConfirmation sent.1.pdu.swPduHandle) (fun calls s =>
        (∀ call ∈ calls, Checked cfg call) ∧
        (inbox cfg view .tx).Settled s ∧ (inbox cfg view .tx).Counted n s) := by
    refine does_ask before.kept (fun calls s s' sane rely holds =>
      ⟨holds.1, after.kept s s' sane rely holds.2⟩) ?_
    rintro s c sane ⟨hand, counted⟩ allowed
    obtain ⟨guarantee, settled⟩ := confirm_guarantee (i := i) sane hand
    exact ⟨guarantee, allowed, settled, counted⟩
  refine does_bind looked fun handle => does_fact fun same => ?_
  rw [same]
  exact does_bind confirmed fun calls => does_fact fun checked =>
    does_answer configured contract mine n checked

theorem txEvent_drains : Drains cfg chip view i .tx (txEventPort cfg i)
    (fun marker shown => marker = shown) where
  status_regular := by simp [txEventPort]
  level s sane := contract.txefs_level s.dev sane.events_le
  index s _ := contract.txefs_index s.dev
  fetch n c := by
    refine does_bind (does_spiRead (R := fun words _ =>
      ((words.getD 0 0#32 &&& 0xFF000000#32) >>> 24).toNat = c) ?_ (fun _ _ _ _ _ => id)
      (by simp) ?_) ?_
    · exact ((lasting_index mine n).and (lasting_head mine c)).kept
    · rintro s sane ⟨rfl, rest, events⟩
      exact contract.event s.dev c rest events
    · rintro ⟨status, words⟩
      exact does_pure (fun _ _ _ _ => id) fun _ _ => id
  acknowledge_regular := by simp [txEventPort]
  acknowledge s w c sane settled head at_index := by
    obtain ⟨rest, events⟩ := head
    obtain ⟨next, acknowledged⟩ := contract.acknowledge s.dev (by
      rw [show (view s.dev).events = _ from events]
      exact List.cons_ne_nil _ _)
    have after : view (s.written chip (.reg .txefa) [w]).dev = { view s.dev with
        events := (view s.dev).events.tail, eventIndex := next } := acknowledged w at_index
    refine taken sane settled ⟨rest, events⟩ ?_ rfl ?_ (fun other apart => ?_) rfl rfl ?_ ?_
    · simp only [txEventPort, txPart, after]
      rfl
    · simpa only [txEventPort, after] using sane.stored
    · cases other with
      | tx => exact absurd rfl apart
      | rx store =>
          refine Inbox.Grows.same rfl rfl ?_ ?_ ?_ <;>
            simp only [inbox, rxInbox, txEventPort, after, imp_self]
    · exact congrArg View.events after
    · simp only [inbox, txInbox, txEventPort, after, imp_self]
  notify marker sent n read := by
    obtain rfl := read
    exact txEvent_notify configured contract mine sent n

theorem does_processCanTx : Does cfg chip view i (fun other => other = .tx)
    (inbox cfg view .tx).Calm (processCanTx cfg i) (fun _ => (inbox cfg view .tx).Calm) := by
  have calm : Lasting cfg view (Mine cfg i) (inbox cfg view .tx).Calm := lasting_calm mine
  have settled : Lasting cfg view (Mine cfg i) (inbox cfg view .tx).Settled := lasting_settled mine
  refine does_bind (does_readVerified_any calm.kept) ?_
  rintro ⟨status, word⟩
  dsimp only
  have cleared : Does cfg chip view i (fun other => other = .tx) (inbox cfg view .tx).Settled
      (spiWrite (.reg .intr) [word &&& (irTefn ||| irTefl)])
      (fun _ => (inbox cfg view .tx).Settled) :=
    does_clear contract settled.kept tx_mask_apart fun _ _ unmoved => unmoved.settled .tx
  have processed := does_processPort (txEvent_drains configured contract mine) mine
  have reported : Does cfg chip view i (fun other => other = .tx) (inbox cfg view .tx).Settled
      (do detReportError .txEventFifoElementLost; processPort cfg (txEventPort cfg i))
      (fun _ => (inbox cfg view .tx).Calm) :=
    does_bind (does_detReportError settled fun _ _ => id) fun _ => processed
  have done : Does cfg chip view i (fun other => other = .tx) (inbox cfg view .tx).Calm
      (pure ()) (fun _ => (inbox cfg view .tx).Calm) := does_pure calm.kept fun _ _ => id
  have unsettle {p : Driver Unit} (does : Does cfg chip view i (fun other => other = .tx)
      (inbox cfg view .tx).Settled p (fun _ => (inbox cfg view .tx).Calm)) :
      Does cfg chip view i (fun other => other = .tx) (inbox cfg view .tx).Calm p
        (fun _ => (inbox cfg view .tx).Calm) :=
    does_mono does (fun _ _ holds => holds.1) fun _ _ _ => id
  split_ifs with read some event
  · exact unsettle (does_bind cleared fun _ => reported)
  · exact unsettle (does_bind cleared fun _ => processed)
  · -- without an event only the flag of a lost one is acknowledged
    refine does_bind (does_clear_other contract (fun lane => ?_) calm) fun _ => done
    by_cases here : lane = .tx
    · exact here ▸ not_not.mp event
    · exact tx_mask_apart lane here
  · exact unsettle reported
  · exact unsettle processed
  · exact done
  · exact done

end Port

end AnchorNode.CanDrv
