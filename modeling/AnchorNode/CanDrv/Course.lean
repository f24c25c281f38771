import AnchorNode.CanDrv.Delivery
import AnchorNode.Lib.Typestate

/-! The functions of the driver under an automaton that lets most of their questions pass. -/

namespace AnchorNode.CanDrv

open AnchorNode.Lib

variable {T α ε : Type} {D : Type} {cfg : Config} {chip : Chip D} {view : D → View} {i : Context}

/-- Questions about neither a mutex, nor a transmission request, nor the context. -/
def Query.plain : Query → Bool
  | .lockHth _ _ | .unlockHth _ | .exCntxt | .setExCntxt _ => false
  | .spiWrite (.reg .txbar) _ _ | .spiWrite _ _ (some _) => false
  | _ => true

/-- The question sets the bit of a buffer in TXBAR. -/
def Query.Raises (buffer : Nat) : Query → Prop
  | .spiWrite (.reg .txbar) words _ => ∃ word ∈ words, word.getLsbD buffer = true
  | _ => False

theorem plain_write {r : Register} (apart : r ≠ .txbar) (words : List Word) :
    (Query.spiWrite (.reg r) words none).plain = true := by
  cases r <;> first | rfl | exact absurd rfl apart

theorem plain_unrecorded {address : Address} {words : List Word} {request : Option Request}
    (plain : (Query.spiWrite address words request).plain = true) : request = none := by
  cases request with
  | none => rfl
  | some request =>
      rcases address with r | offset
      · cases r <;> exact Bool.noConfusion plain
      · exact Bool.noConfusion plain

theorem Query.not_raises {q : Query} (plain : q.plain = true) (buffer : Nat) :
    ¬ q.Raises buffer := by
  unfold Query.Raises
  split
  · exact Bool.noConfusion plain
  · exact not_false

def Known (cfg : Config) : (q : Query) → Answer q → Prop
  | .canIfTxConfirmation _, calls => ∀ call ∈ calls, Checked cfg call
  | .canIfRxIndication _ _ _, calls => ∀ call ∈ calls, Checked cfg call
  | _, _ => True

theorem perform_known {s : State D} {q : Query} {c : Choice} (checked : CallsChecked cfg q c) :
    Known cfg q (perform chip s q c).1 := by
  cases q <;> exact checked

/-- Where it may rest, the automaton lets plain questions pass and stays. -/
structure Passes (cfg : Config) (law : Typestate Query Answer T) (rest : T → Prop) : Prop where
  ok : ∀ t q, rest t → q.plain = true → law.ok t q
  same : ∀ t q x, rest t → q.plain = true → law.next t q x = t
  known : ∀ q x, law.known q x → Known cfg q x

variable {law : Typestate Query Answer T} {rest : T → Prop} (passes : Passes cfg law rest)
include passes

theorem Passes.ask {q : Query} {more : Answer q → Driver α} (plain : q.plain = true)
    (second : ∀ x, Known cfg q x → Obeys law rest (more x)) : Obeys law rest (.ask q more) :=
  obeys_ask (fun t here => passes.ok t q here plain) (fun t x here => passes.same t q x here plain)
    fun x known => second x (passes.known q x known)

theorem Passes.question {q : Query} (plain : q.plain = true) : Obeys law rest (CanDrv.ask q) :=
  passes.ask plain fun _ _ => obeys_pure _

theorem verifySpiRead_obeys (address : Address) (words : List Word) :
    Obeys law rest (verifySpiRead cfg address words) := by
  have again (address : Address) (count : Nat) :
      Obeys law rest (spiRead address count >>= fun again => pure again.2) :=
    obeys_bind (passes.question rfl) fun _ => obeys_pure _
  unfold verifySpiRead
  split_ifs
  · exact again _ _
  · exact obeys_pure _
  · exact again _ _
  · exact obeys_pure _

theorem readVerified_obeys (r : Register) : Obeys law rest (readVerified cfg r) :=
  obeys_bind (passes.question rfl) fun _ =>
    obeys_bind (verifySpiRead_obeys passes _ _) fun _ => obeys_pure _

theorem processFifo_obeys {port : FifoPort ε} (apart : port.acknowledge ≠ .txbar)
    (fetch : ∀ index, Obeys law rest (port.fetch index))
    (notify : ∀ element, Obeys law rest (port.notify element)) (level : Nat) (status : Word) :
    Obeys law rest (processFifo cfg port level status) := by
  induction level generalizing status with
  | zero => exact obeys_pure _
  | succ level ih =>
      refine obeys_bind (fetch _) fun element => ?_
      refine obeys_bind (passes.question (plain_write apart _)) fun _ => ?_
      refine obeys_bind (notify element) fun _ => ?_
      split
      · exact obeys_pure _
      · exact obeys_bind (readVerified_obeys passes _) fun _ => ih _

theorem processPort_obeys {port : FifoPort ε} (apart : port.acknowledge ≠ .txbar)
    (fetch : ∀ index, Obeys law rest (port.fetch index))
    (notify : ∀ element, Obeys law rest (port.notify element)) :
    Obeys law rest (processPort cfg port) :=
  obeys_bind (readVerified_obeys passes _) fun _ => processFifo_obeys passes apart fetch notify _ _

theorem fetchRxElement_obeys (offset : Nat) : Obeys law rest (fetchRxElement offset) :=
  obeys_bind (passes.question rfl) fun _ => obeys_bind (passes.question rfl) fun _ => obeys_pure _

theorem busoffProcess_obeys : Obeys law rest (busoffProcess cfg) := by
  refine obeys_bind (readVerified_obeys passes _) ?_
  rintro ⟨status, word⟩
  refine obeys_ite (fun _ => ?_) fun _ => obeys_pure _
  refine obeys_ite (fun _ => ?_) fun _ => obeys_pure _
  refine obeys_bind (passes.question rfl) fun _ => ?_
  refine passes.ask rfl fun mode _ => ?_
  refine obeys_ite (fun _ => ?_) fun _ => obeys_pure _
  refine passes.ask rfl fun _ _ => ?_
  refine passes.ask rfl fun _ _ => ?_
  exact passes.ask rfl fun _ _ => obeys_pure _

section Notifying
variable (writes : ∀ call, Checked cfg call → Obeys law rest (canWrite cfg i call))
include writes

omit passes in
theorem writeAll_obeys {calls : List WriteCall} (checked : ∀ call ∈ calls, Checked cfg call) :
    Obeys law rest (writeAll cfg i calls) :=
  obeys_each fun call member =>
    obeys_bind (writes call (checked call member)) fun _ => obeys_pure _

theorem rxNotification_obeys (store : RxStore) (msg : MsgInfo) :
    Obeys law rest (rxNotification cfg i store msg) :=
  passes.ask rfl fun _ checked => writeAll_obeys writes checked

theorem processCanTx_obeys : Obeys law rest (processCanTx cfg i) := by
  have port : Obeys law rest (processPort cfg (txEventPort cfg i)) := by
    refine processPort_obeys passes nofun (fun index => ?_) fun marker => ?_
    · exact obeys_bind (passes.question rfl) fun _ => obeys_pure _
    · exact passes.ask rfl fun handle _ => passes.ask rfl fun _ checked =>
        writeAll_obeys writes checked
  refine obeys_bind (readVerified_obeys passes _) ?_
  rintro ⟨status, word⟩
  refine obeys_ite (fun _ => ?_) fun _ => obeys_pure _
  refine obeys_when (fun _ => passes.question rfl) ?_
  refine obeys_ite (fun _ => ?_) fun _ => obeys_pure _
  exact obeys_when (fun _ => passes.question rfl) port

theorem processRxBuffers_obeys (ndat : BitVec 64) :
    Obeys law rest (processRxBuffers cfg i ndat) := by
  induction size : ndat.toNat using Nat.strong_induction_on generalizing ndat with
  | _ size' ih =>
      rw [processRxBuffers]
      split
      · next some =>
          refine obeys_bind (fetchRxElement_obeys passes _) fun msg => ?_
          have others := ih _ (size ▸ clear_getmsb_lt some) _ rfl
          have notified := obeys_bind (rxNotification_obeys passes writes
            (.buffer (getmsb ndat).toNat) msg) fun _ => others
          split_ifs <;> exact obeys_bind (passes.question rfl) fun _ => notified
      · exact obeys_pure _

theorem serveRxFifo_obeys (store : RxStore) {port : FifoPort MsgInfo}
    (apart : port.acknowledge ≠ .txbar)
    (fetch : ∀ index, Obeys law rest (port.fetch index))
    (notify : port.notify = rxNotification cfg i store) (status : Register) (lost : Bool) :
    Obeys law rest (serveRxFifo cfg status lost port) := by
  refine obeys_bind ?_ fun _ => processPort_obeys passes apart fetch fun element => ?_
  · unfold reportLost
    refine obeys_ite (fun _ => ?_) fun _ => obeys_pure _
    refine obeys_bind (readVerified_obeys passes _) fun _ => ?_
    exact obeys_ite (fun _ => passes.question rfl) fun _ => obeys_pure _
  · rw [notify]
    exact rxNotification_obeys passes writes store element

theorem processCanRx_obeys : Obeys law rest (processCanRx cfg i) := by
  have buffers : Obeys law rest (processRxBuffer cfg i) :=
    obeys_bind (passes.question rfl) fun _ =>
      obeys_bind (verifySpiRead_obeys passes _ _) fun _ => processRxBuffers_obeys passes writes _
  refine obeys_bind (readVerified_obeys passes _) ?_
  rintro ⟨status, word⟩
  refine obeys_ite (fun _ => ?_) fun _ => obeys_pure _
  refine obeys_when (fun _ => passes.question rfl) ?_
  refine obeys_when (fun _ => buffers) ?_
  refine obeys_when (fun _ => serveRxFifo_obeys passes writes .fifo0 (by nofun)
    (fun _ => fetchRxElement_obeys passes _) rfl _ _) ?_
  exact obeys_ite (fun _ => serveRxFifo_obeys passes writes .fifo1 (by nofun)
    (fun _ => fetchRxElement_obeys passes _) rfl _ _) fun _ => obeys_pure _

end Notifying

end AnchorNode.CanDrv
