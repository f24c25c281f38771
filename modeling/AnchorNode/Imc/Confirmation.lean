import AnchorNode.Imc.Tp
import AnchorNode.Lib.Chronicle

/-! What a transmit confirmation is worth: a ledger keeps for every packet in flight the
transfer it belongs to, and how much of the latest transfer has been queued. -/

namespace AnchorNode.Imc

open AnchorNode.Lib

variable {cfg : Config} {env : Env} {s t : State} {ch : Nat}

/-- What happens on the channels: the calls of the module, and from outside an accepted
cancellation or the confirmation of the packet that was queued first. -/
inductive Note where
  | event (e : Event)
  | cancelled (ch : Nat)
  | confirmed (ch : Nat)
  deriving DecidableEq, Repr

def Op.told (cfg : Config) (s : State) : Op → List Note
  | .cancelTransmit txPduId => match tpFindByPdurTxId cfg txPduId with
    | none => []
    | some ch => if (s.txInfo ch).bytesRemaining = 0 then [] else [.cancelled ch]
  | .txConfirmation msgId => match tpFindByImcId cfg msgId with
    | none => []
    | some ch => [.confirmed ch]
  | _ => []

def transmission (cfg : Config) (env : Env) : System State Op Event Note where
  step := step cfg env
  log := State.log
  told := fun s op => op.told cfg s
  note := fun _ e => .event e

/-- The bytes of a transfer, and how many of them are in queued packets. -/
structure Transfer where
  length : Nat
  queued : Nat
  deriving DecidableEq, Repr

/-- The number of the latest accepted transfer, the transfers of the packets in flight, and
the latest transfer unless it has been cancelled or confirmed. -/
structure Ledger where
  accepted : Nat
  inFlight : List Nat
  outstanding : Option Transfer
  deriving DecidableEq, Repr

namespace Ledger

def start : Ledger := ⟨0, [], none⟩

def queue (ledger : Ledger) (bytes : Nat) : Ledger :=
  { ledger with outstanding := ledger.outstanding.map fun transfer =>
      { transfer with queued := transfer.queued + bytes } }

/-- All bytes of the latest transfer are in packets, and none of these is in flight. -/
def Complete (ledger : Ledger) : Prop :=
  match ledger.outstanding with
  | none => False
  | some transfer => transfer.queued = transfer.length ∧ ledger.accepted ∉ ledger.inFlight

instance : (ledger : Ledger) → Decidable ledger.Complete
  | ⟨_, _, none⟩ => inferInstanceAs (Decidable False)
  | ⟨accepted, inFlight, some transfer⟩ =>
    inferInstanceAs (Decidable (transfer.queued = transfer.length ∧ accepted ∉ inFlight))

end Ledger

def record (ch : Nat) (ledger : Ledger) : Note → Ledger
  | .event (.transmit c length) =>
    if c = ch then ⟨ledger.accepted + 1, ledger.inFlight, some ⟨length, 0⟩⟩ else ledger
  | .event (.copyTxData c _ bytes .ok) => if c = ch then ledger.queue bytes.length else ledger
  | .event (.queueAdd c _ _) =>
    if c = ch then { ledger with inFlight := ledger.inFlight ++ [ledger.accepted] } else ledger
  | .event (.txConfirmation c _ .ok) =>
    if c = ch then { ledger with outstanding := none } else ledger
  | .cancelled c => if c = ch then { ledger with outstanding := none } else ledger
  | .confirmed c => if c = ch then { ledger with inFlight := ledger.inFlight.tail } else ledger
  | _ => ledger

/-- Only a complete transfer is confirmed to the upper layer. -/
def Earned (ch : Nat) (ledger : Ledger) : Note → Prop
  | .event (.txConfirmation c _ .ok) => c = ch → ledger.Complete
  | _ => True

/-- The link confirms no more packets than have been queued. -/
def Honest (cfg : Config) (ch : Nat) (p : State × Ledger) : Op → Prop
  | .txConfirmation msgId => tpFindByImcId cfg msgId = some ch → p.2.inFlight ≠ []
  | _ => True

/-- What two counters can tell apart: a transfer has at least one byte and no more than an
`uint16` counts, the last packet in flight is not confirmed while the latest transfer is a
cancelled one, and an `uint8` counts the packets in flight. -/
def Countable (cfg : Config) (ch : Nat) (p : State × Ledger) : Op → Prop
  | .transmit txPduId (some length) =>
    tpFindByPdurTxId cfg txPduId = some ch → 0 < length ∧ length < 65536
  | .txConfirmation msgId =>
    tpFindByImcId cfg msgId = some ch → p.2.inFlight.length = 1 → p.2.outstanding ≠ none
  | .cyclic => (p.1.txInfo ch).bytesRemaining > 0 → p.2.inFlight.length < 255
  | _ => True

/-- The counters of a channel are those of its ledger, and the packet queued last belongs to
a transfer that is queued completely. -/
structure Balanced (ch : Nat) (s : State) (ledger : Ledger) : Prop where
  pending : (s.txInfo ch).numPktsPending.toNat = ledger.inFlight.length
  idle : ledger.outstanding = none → (s.txInfo ch).bytesRemaining = 0
  remaining : ∀ transfer, ledger.outstanding = some transfer →
    transfer.queued + (s.txInfo ch).bytesRemaining = transfer.length
  fits : (s.txInfo ch).bytesRemaining < 65536
  last : ∀ transfer, ledger.outstanding = some transfer → transfer.queued = transfer.length →
    ledger.inFlight.getLast? = some ledger.accepted

theorem Balanced.settled {ledger : Ledger} (balanced : Balanced ch s ledger) :
    ¬ ledger.Complete := by
  intro complete
  unfold Ledger.Complete at complete
  split at complete
  · exact complete
  · rename_i transfer outstanding
    have last := balanced.last transfer outstanding complete.1
    exact complete.2 (List.mem_of_getLast? last)

def Accounts (ch : Nat) (ledger : Ledger) (s t : State) : Prop :=
  ∃ new after, Extends (record ch) (Earned ch) Note.event ledger after s.log t.log new ∧
    Balanced ch t after

def Event.isAside (ch : Nat) : Event → Bool
  | .transmit c _ | .copyTxData c _ _ _ | .queueAdd c _ _ | .txConfirmation c _ _ => c != ch
  | _ => true

abbrev Aside (ch : Nat) (s t : State) : Prop :=
  Undisturbed State.log (Event.isAside ch) (fun s => s.txInfo ch) s t

theorem aside_record {e : Event} (aside : e.isAside ch = true) (ledger : Ledger) :
    record ch ledger (.event e) = ledger ∧ Earned ch ledger (.event e) := by
  cases e with
  | transmit c length =>
      have other : c ≠ ch := by simpa [Event.isAside] using aside
      exact ⟨if_neg other, trivial⟩
  | copyTxData c pdu bytes result =>
      have other : c ≠ ch := by simpa [Event.isAside] using aside
      cases result <;> first | exact ⟨rfl, trivial⟩ | exact ⟨if_neg other, trivial⟩
  | queueAdd c pdu frame =>
      have other : c ≠ ch := by simpa [Event.isAside] using aside
      exact ⟨if_neg other, trivial⟩
  | txConfirmation c pdu result =>
      have other : c ≠ ch := by simpa [Event.isAside] using aside
      cases result with
      | ok => exact ⟨if_neg other, fun here => absurd here other⟩
      | notOk => exact ⟨rfl, trivial⟩
  | startOfReception _ _ _ _ | copyRxData _ _ _ _ | rxIndication _ _ _ | reportError _ _ _
  | reportRuntimeError _ _ _ => exact ⟨rfl, trivial⟩

theorem Balanced.same {ledger : Ledger} (balanced : Balanced ch s ledger)
    (kept : t.txInfo ch = s.txInfo ch) : Balanced ch t ledger := by
  constructor
  · rw [kept]
    exact balanced.pending
  · rw [kept]
    exact balanced.idle
  · rw [kept]
    exact balanced.remaining
  · rw [kept]
    exact balanced.fits
  · exact balanced.last

theorem Aside.accounts {ledger : Ledger} (aside : Aside ch s t)
    (balanced : Balanced ch s ledger) : Accounts ch ledger s t := by
  obtain ⟨new, log, ignored⟩ := aside.log
  exact ⟨new, ledger, .ignored log fun e member => aside_record (ignored e member) ledger,
    balanced.same aside.view⟩

theorem Aside.stored {c : Nat} (other : c ≠ ch) (s : State) (tx : TxInfo) :
    Aside ch s (s.setTx c tx) := by
  have kept : (s.setTx c tx).txInfo ch = s.txInfo ch := by
    simp [Function.update_of_ne (Ne.symm other)]
  exact .same rfl kept

theorem cyclicChannel_aside {c : Nat} (cfg : Config) (env : Env) (other : c ≠ ch) (s : State) :
    Aside ch s (cyclicChannel cfg env s c) := by
  have elsewhere : (c != ch) = true := by simpa using other
  have copied : ∀ pdu bytes result, Aside ch s (s.emit (.copyTxData c pdu bytes result)) :=
    fun pdu bytes result => .event (e := Event.copyTxData c pdu bytes result) elsewhere rfl rfl
  unfold cyclicChannel
  simp only
  split
  · split
    · apply ((copied _ _ _).trans (Aside.stored other _ _)).trans
      exact .event (e := Event.queueAdd c _ _) elsewhere rfl rfl
    · exact copied _ _ _
  · exact .refl s

theorem cyclicChannels_aside (cfg : Config) (env : Env) (channels : List Nat)
    (absent : ch ∉ channels) (s : State) :
    Aside ch s (channels.foldl (cyclicChannel cfg env) s) := by
  induction channels generalizing s with
  | nil => exact .refl s
  | cons c channels ih =>
      have other : c ≠ ch := fun same => absent (by simp [same])
      have absent : ch ∉ channels := fun member => absent (by simp [member])
      exact (cyclicChannel_aside cfg env other s).trans (ih absent _)

theorem tpReportRxError_aside (cfg : Config) (c id : Nat) (error : ErrorId) (s : State) :
    Aside ch s (tpReportRxError cfg c id error s) := by
  have reported : Aside ch s (s.emit (.reportRuntimeError id .tpRx error)) := .event rfl rfl rfl
  unfold tpReportRxError
  simp only
  split
  · exact reported.trans (.event (e := Event.rxIndication c _ .notOk) rfl rfl rfl)
  · exact reported

theorem firstFrame_aside (cfg : Config) (env : Env) (c : Nat) (frame : List UInt8) (s : State) :
    Aside ch s (tpRxFirstFrame cfg env c frame s) := by
  have started : ∀ u : State, ∀ pdu length result,
      Aside ch u (u.emit (.startOfReception c pdu length result)) :=
    fun u pdu length result => .event (e := Event.startOfReception c pdu length result) rfl rfl rfl
  have copied : ∀ u : State, ∀ pdu bytes result,
      Aside ch u (u.emit (.copyRxData c pdu bytes result)) :=
    fun u pdu bytes result => .event (e := Event.copyRxData c pdu bytes result) rfl rfl rfl
  unfold tpRxFirstFrame
  simp only
  split
  · exact tpReportRxError_aside cfg c _ _ s
  · split
    · split
      · exact ((started _ _ _ _).trans (copied _ _ _ _)).trans (.same rfl rfl)
      · exact ((started _ _ _ _).trans (copied _ _ _ _)).trans (.same rfl rfl)
    · exact (started _ _ _ _).trans (.same rfl rfl)

theorem consecutiveFrame_aside (cfg : Config) (env : Env) (c : Nat) (frame : List UInt8)
    (s : State) : Aside ch s (tpRxConsecutiveFrame cfg env c frame s) := by
  have copied : ∀ pdu bytes result, Aside ch s (s.emit (.copyRxData c pdu bytes result)) :=
    fun pdu bytes result => .event (e := Event.copyRxData c pdu bytes result) rfl rfl rfl
  unfold tpRxConsecutiveFrame
  simp only
  split
  · exact tpReportRxError_aside cfg c _ _ s
  · split
    · exact tpReportRxError_aside cfg c _ _ s
    · split
      · exact (copied _ _ _).trans (.same rfl rfl)
      · exact (copied _ _ _).trans (tpReportRxError_aside cfg c _ _ _)

theorem rxIndication_aside (cfg : Config) (env : Env) (msgId : Nat) (msg : Option (List UInt8))
    (s : State) : Aside ch s (tpRxIndication cfg env msgId msg s) := by
  have reported : ∀ id error, Aside ch s (s.emit (.reportError id .tpRx error)) :=
    fun id error => .event (e := Event.reportError id .tpRx error) rfl rfl rfl
  have ended : ∀ c u, Aside ch u (endTransfer cfg c u) := by
    intro c u
    unfold endTransfer
    split
    · exact .event (e := Event.rxIndication c _ .ok) rfl rfl rfl
    · exact .refl u
  unfold tpRxIndication
  split
  · exact reported _ _
  · exact reported _ _
  · rename_i c frame _
    split
    · exact tpReportRxError_aside cfg c _ _ s
    · unfold processFrame
      split
      · exact (firstFrame_aside cfg env c frame s).trans (ended c _)
      · exact (consecutiveFrame_aside cfg env c frame s).trans (ended c _)

theorem record_transmit (ledger : Ledger) (length : Nat) :
    record ch ledger (.event (.transmit ch length)) =
      ⟨ledger.accepted + 1, ledger.inFlight, some ⟨length, 0⟩⟩ := if_pos rfl

theorem record_cancelled (ledger : Ledger) :
    record ch ledger (.cancelled ch) = { ledger with outstanding := none } := if_pos rfl

theorem record_confirmed (ledger : Ledger) :
    record ch ledger (.confirmed ch) = { ledger with inFlight := ledger.inFlight.tail } :=
  if_pos rfl

theorem cancelled_elsewhere {c : Nat} {ledger : Ledger} (other : c ≠ ch) :
    record ch ledger (.cancelled c) = ledger := if_neg other

theorem confirmed_elsewhere {c : Nat} {ledger : Ledger} (other : c ≠ ch) :
    record ch ledger (.confirmed c) = ledger := if_neg other

theorem record_packet (ledger : Ledger) (pdu imcPduId : Nat) (bytes frame : List UInt8) :
    record ch (record ch ledger (.event (.copyTxData ch pdu bytes .ok)))
        (.event (.queueAdd ch imcPduId frame)) =
      { ledger.queue bytes.length with inFlight := ledger.inFlight ++ [ledger.accepted] } := by
  simp [record, Ledger.queue]

theorem transmit_accounts {ledger : Ledger} (length : Nat) (some : 0 < length)
    (fits : length < 65536) (balanced : Balanced ch s ledger) :
    Accounts ch ledger s ((s.setTx ch { s.txInfo ch with
      sequence := 0, bytesRemaining := u16 length, offset := 0 }).emit (.transmit ch length)) := by
  have whole : u16 length = length := Nat.mod_eq_of_lt fits
  refine ⟨_, _, .event (e := Event.transmit ch length) rfl trivial, ?_⟩
  rw [record_transmit]
  constructor
  · simpa using balanced.pending
  · simp
  · simp [whole]
  · simpa [whole] using fits
  · intro transfer outstanding done
    obtain rfl : ⟨length, 0⟩ = transfer := Option.some.inj outstanding
    have empty : 0 = length := done
    omega

theorem cancel_balanced {ledger : Ledger} (balanced : Balanced ch s ledger) :
    Balanced ch (s.setTx ch { s.txInfo ch with bytesRemaining := 0 })
      { ledger with outstanding := none } := by
  constructor
  · simpa using balanced.pending
  · simp
  · simp
  · simp
  · simp

theorem Balanced.outstanding {ledger : Ledger} (balanced : Balanced ch s ledger)
    (busy : (s.txInfo ch).bytesRemaining > 0) :
    ∃ transfer, ledger.outstanding = some transfer := by
  apply Option.ne_none_iff_exists'.mp
  intro none
  have idle := balanced.idle none
  omega

theorem Balanced.packet {ledger : Ledger} (balanced : Balanced ch s ledger) {transfer : Transfer}
    {bytes : Nat} {u : State} (outstanding : ledger.outstanding = some transfer)
    (most : bytes ≤ (s.txInfo ch).bytesRemaining) (room : ledger.inFlight.length < 255)
    (pending : (u.txInfo ch).numPktsPending = (s.txInfo ch).numPktsPending + 1)
    (remaining : (u.txInfo ch).bytesRemaining = (s.txInfo ch).bytesRemaining - bytes) :
    Balanced ch u
      { ledger.queue bytes with inFlight := ledger.inFlight ++ [ledger.accepted] } := by
  have queued : (ledger.queue bytes).outstanding =
      some { transfer with queued := transfer.queued + bytes } := by
    simp [Ledger.queue, outstanding]
  have total := balanced.remaining transfer outstanding
  have fits := balanced.fits
  constructor
  · have before := balanced.pending
    rw [pending, UInt8.toNat_add, before, List.length_append]
    exact Nat.mod_eq_of_lt (Nat.succ_lt_succ room)
  · intro none
    rw [queued] at none
    exact absurd none (Option.some_ne_none _)
  · intro t outstanding
    obtain rfl := Option.some.inj (queued.symm.trans outstanding)
    simp only [remaining]
    omega
  · omega
  · intro _ _ _
    exact List.getLast?_concat

theorem cyclicChannel_accounts {ledger : Ledger} (cfg : Config) (env : Env)
    (room : (s.txInfo ch).bytesRemaining > 0 → ledger.inFlight.length < 255)
    (balanced : Balanced ch s ledger) : Accounts ch ledger s (cyclicChannel cfg env s ch) := by
  have same : Aside ch s s := .refl s
  unfold cyclicChannel
  simp only
  split
  · rename_i busy
    have room := room busy.1
    obtain ⟨transfer, outstanding⟩ := balanced.outstanding busy.1
    have most : bytesThisPacket cfg (s.txInfo ch).sequence (s.txInfo ch).bytesRemaining ≤
        (s.txInfo ch).bytesRemaining := Nat.min_le_right _ _
    generalize bytesThisPacket cfg (s.txInfo ch).sequence (s.txInfo ch).bytesRemaining = bytes
      at most ⊢
    have whole : u16 bytes = bytes := by
      have fits := balanced.fits
      exact Nat.mod_eq_of_lt (by omega)
    rw [whole]
    have size : ((env.copyTxData s.log ch bytes).2.read 0 bytes).length = bytes := by
      simp [Mem.read]
    generalize (env.copyTxData s.log ch bytes).2.read 0 bytes = data at size ⊢
    generalize (env.copyTxData s.log ch bytes).1 = result
    generalize ((_ : List UInt8) ++ data).take _ = frame
    split
    · rename_i ok
      subst ok
      refine ⟨_, _, (Extends.event (e := Event.copyTxData ch _ data .ok) rfl trivial).trans
        (.event (e := Event.queueAdd ch (cfg.msgCfg ch).imcPduId frame) rfl trivial), ?_⟩
      rw [record_packet, size]
      exact balanced.packet outstanding most room (by simp) (by simp)
    · rename_i refused
      have ignored : record ch ledger (.event (.copyTxData ch (cfg.msgCfg ch).upperTxToPduR data
          result)) = ledger := by
        cases result with
        | ok => exact absurd rfl refused
        | notOk | busy | ovfl => rfl
      refine ⟨[.copyTxData ch (cfg.msgCfg ch).upperTxToPduR data result], ledger, ?_,
        balanced.same rfl⟩
      apply Extends.ignored rfl
      intro e member
      obtain rfl := List.mem_singleton.mp member
      exact ⟨ignored, trivial⟩
  · exact same.accounts balanced

theorem Accounts.silent {ledger : Ledger} (log : t.log = s.log)
    (balanced : Balanced ch t ledger) : Accounts ch ledger s t := by
  refine ⟨[], ledger, ?_, balanced⟩
  rw [log]
  exact .refl ledger s.log

theorem Accounts.aside {ledger : Ledger} {u : State} (accounts : Accounts ch ledger s t)
    (aside : Aside ch t u) : Accounts ch ledger s u := by
  obtain ⟨first, after, extended, balanced⟩ := accounts
  obtain ⟨second, final, extended', balanced'⟩ := Aside.accounts aside balanced
  exact ⟨first ++ second, final, extended.trans extended', balanced'⟩

theorem Accounts.after {ledger : Ledger} {u : State} (accounts : Accounts ch ledger t u)
    (aside : Aside ch s t) : Accounts ch ledger s u := by
  obtain ⟨first, log, ignored⟩ := aside.log
  obtain ⟨second, after, extended, balanced⟩ := accounts
  have early : Extends (record ch) (Earned ch) Note.event ledger ledger s.log t.log first :=
    .ignored log fun e member => aside_record (ignored e member) ledger
  exact ⟨first ++ second, after, early.trans extended, balanced⟩

theorem tpCyclic_accounts {ledger : Ledger} (cfg : Config) (env : Env)
    (room : (s.txInfo ch).bytesRemaining > 0 → ledger.inFlight.length < 255)
    (balanced : Balanced ch s ledger) : Accounts ch ledger s (tpCyclic cfg env s) := by
  unfold tpCyclic
  by_cases served : ch ∈ List.range cfg.numMsg
  · obtain ⟨before, after, channels⟩ := List.append_of_mem served
    have distinct : (before ++ ch :: after).Nodup := channels ▸ List.nodup_range
    have absent : ch ∉ before ++ after := (List.nodup_middle.mp distinct).notMem
    have absentBefore : ch ∉ before := fun m => absent (List.mem_append_left after m)
    have absentAfter : ch ∉ after := fun m => absent (List.mem_append_right before m)
    have early := cyclicChannels_aside cfg env before absentBefore s
    rw [channels, List.foldl_append, List.foldl_cons]
    generalize before.foldl (cyclicChannel cfg env) s = u at early ⊢
    have kept : u.txInfo ch = s.txInfo ch := early.view
    have room : (u.txInfo ch).bytesRemaining > 0 → ledger.inFlight.length < 255 := by
      rw [kept]
      exact room
    have sent := cyclicChannel_accounts cfg env room (balanced.same kept)
    have late := cyclicChannels_aside cfg env after absentAfter (cyclicChannel cfg env u ch)
    exact (sent.aside late).after early
  · exact (cyclicChannels_aside cfg env _ served s).accounts balanced

theorem getLast_tail {packets : List Nat} {packet : Nat} (last : packets.getLast? = some packet)
    (more : packets.tail ≠ []) : packets.tail.getLast? = some packet := by
  cases packets with
  | nil => exact absurd rfl more
  | cons first rest =>
      have more : rest ≠ [] := more
      rwa [List.getLast?_cons_of_ne_nil more] at last

theorem txConfirmation_accounts {ledger : Ledger} (cfg : Config)
    (balanced : Balanced ch s ledger) (honest : ledger.inFlight ≠ [])
    (distinct : ledger.inFlight.length = 1 → ledger.outstanding ≠ none) {u : State}
    (counted : u = s.setTx ch { s.txInfo ch with
      numPktsPending := (s.txInfo ch).numPktsPending - 1 }) :
    Accounts ch { ledger with inFlight := ledger.inFlight.tail } s
      (if (u.txInfo ch).numPktsPending = 0 ∧ (u.txInfo ch).bytesRemaining = 0 then
        u.emit (.txConfirmation ch (cfg.msgCfg ch).upperTxToPduR .ok) else u) := by
  have log : u.log = s.log := by simp [counted]
  have bytes : (u.txInfo ch).bytesRemaining = (s.txInfo ch).bytesRemaining := by simp [counted]
  have some : 0 < ledger.inFlight.length := List.length_pos_iff.mpr honest
  have pending : (u.txInfo ch).numPktsPending.toNat = ledger.inFlight.tail.length := by
    have before := balanced.pending
    have one : (1 : UInt8) ≤ (s.txInfo ch).numPktsPending := by
      rw [UInt8.le_iff_toNat_le, before]
      exact some
    simp only [counted, State.setTx_txInfo, Function.update_self]
    rw [UInt8.toNat_sub_of_le _ _ one, before, List.length_tail]
    rfl
  clear counted
  split
  · rename_i finished
    have none : ledger.inFlight.tail = [] := by
      rw [finished.1] at pending
      exact List.length_eq_zero_iff.mp pending.symm
    have single : ledger.inFlight.length = 1 := by
      have left := congrArg List.length none
      rw [List.length_tail, List.length_nil] at left
      omega
    obtain ⟨transfer, outstanding⟩ := Option.ne_none_iff_exists'.mp (distinct single)
    have total := balanced.remaining transfer outstanding
    rw [← bytes, finished.2, Nat.add_zero] at total
    have complete : Ledger.Complete { ledger with inFlight := ledger.inFlight.tail } := by
      simp only [Ledger.Complete, outstanding, none]
      exact ⟨total, List.not_mem_nil⟩
    refine ⟨[.txConfirmation ch (cfg.msgCfg ch).upperTxToPduR .ok],
      ⟨ledger.accepted, ledger.inFlight.tail, .none⟩, ⟨?_, ⟨fun _ => complete, trivial⟩, ?_⟩, ?_⟩
    · rw [State.emit_log, log]
    · simp [record]
    · constructor
      · exact pending
      · exact fun _ => finished.2
      · simp
      · simp [finished.2]
      · simp
  · rename_i unfinished
    apply Accounts.silent log
    constructor
    · exact pending
    · rw [bytes]
      exact balanced.idle
    · rw [bytes]
      exact balanced.remaining
    · rw [bytes]
      exact balanced.fits
    · intro transfer outstanding queued
      apply getLast_tail (balanced.last transfer outstanding queued)
      intro none
      have total := balanced.remaining transfer outstanding
      rw [none, List.length_nil] at pending
      apply unfinished
      exact ⟨UInt8.toNat_inj.mp pending, by omega⟩

theorem step_accounts {ledger : Ledger} {op : Op} (honest : Honest cfg ch (s, ledger) op)
    (countable : Countable cfg ch (s, ledger) op) (balanced : Balanced ch s ledger) :
    Accounts ch ((op.told cfg s).foldl (record ch) ledger) s (step cfg env s op) := by
  have same : Aside ch s s := .refl s
  cases op with
  | transmit txPduId sduLength =>
      have reported : ∀ id error, Aside ch s (s.emit (.reportError id .tpTx error)) :=
        fun id error => .event (e := Event.reportError id .tpTx error) rfl rfl rfl
      simp only [step, transmit]
      split
      · exact (reported _ _).accounts balanced
      · exact (reported _ _).accounts balanced
      · rename_i length c found
        by_cases here : c = ch
        · subst here
          obtain ⟨some, fits⟩ := countable found
          exact transmit_accounts length some fits balanced
        · have elsewhere : (c != ch) = true := by simpa using here
          have accepted : ∀ u : State, Aside ch u (u.emit (.transmit c length)) :=
            fun u => .event (e := Event.transmit c length) elsewhere rfl rfl
          have aside := (Aside.stored here s { s.txInfo c with
            sequence := 0, bytesRemaining := u16 length, offset := 0 }).trans (accepted _)
          exact Aside.accounts aside balanced
  | cancelTransmit txPduId =>
      cases found : tpFindByPdurTxId cfg txPduId with
      | none =>
          simp only [step, cancelTransmit, Op.told, found]
          have reported : Aside ch s (s.emit (.reportError (txPduId % 256) .tpCancel .pdu)) :=
            .event rfl rfl rfl
          exact Aside.accounts reported balanced
      | some c =>
          simp only [step, cancelTransmit, Op.told, found]
          split
          · exact Aside.accounts same balanced
          · by_cases here : c = ch
            · subst here
              rw [List.foldl_cons, record_cancelled]
              exact .silent rfl (cancel_balanced balanced)
            · rw [List.foldl_cons, cancelled_elsewhere here]
              exact Aside.accounts (Aside.stored here s _) balanced
  | cyclic => exact tpCyclic_accounts cfg env countable balanced
  | txConfirmation msgId =>
      cases found : tpFindByImcId cfg msgId with
      | none =>
          simp only [step, tpTxConfirmation, Op.told, found]
          have reported : Aside ch s (s.emit (.reportError (msgId % 256) .tpRx .pdu)) :=
            .event rfl rfl rfl
          exact Aside.accounts reported balanced
      | some c =>
          simp only [step, tpTxConfirmation, Op.told, found]
          by_cases here : c = ch
          · subst here
            have honest : ledger.inFlight ≠ [] := honest found
            have pending : (s.txInfo c).numPktsPending > 0 := by
              rw [gt_iff_lt, UInt8.lt_iff_toNat_lt, balanced.pending]
              exact List.length_pos_iff.mpr honest
            rw [List.foldl_cons, record_confirmed, if_pos pending]
            exact txConfirmation_accounts cfg balanced honest (countable found) rfl
          · rw [List.foldl_cons, confirmed_elsewhere here]
            have elsewhere : (c != ch) = true := by simpa using here
            have confirmed : ∀ u : State, Aside ch s u → Aside ch s
                (if (u.txInfo c).numPktsPending = 0 ∧ (u.txInfo c).bytesRemaining = 0 then
                  u.emit (.txConfirmation c (cfg.msgCfg c).upperTxToPduR .ok) else u) := by
              intro u aside
              split
              · exact aside.trans (.event (e := Event.txConfirmation c _ .ok) elsewhere rfl rfl)
              · exact aside
            have aside : Aside ch s (if (s.txInfo c).numPktsPending > 0 then
                s.setTx c { s.txInfo c with numPktsPending := (s.txInfo c).numPktsPending - 1 }
                else s) := by
              split
              · exact Aside.stored here s _
              · exact same
            exact Aside.accounts (confirmed _ aside) balanced
  | rxIndication msgId msg => exact (rxIndication_aside cfg env msgId msg s).accounts balanced

theorem told_earned (ledger : Ledger) (op : Op) :
    Traces (record ch) (Earned ch) ledger (op.told cfg s) := by
  unfold Op.told
  split
  · split
    · trivial
    · split
      · trivial
      · exact ⟨trivial, trivial⟩
  · split
    · trivial
    · exact ⟨trivial, trivial⟩
  · trivial

theorem notes_earned {ledger : Ledger} {op : Op} (balanced : Balanced ch s ledger)
    (honest : Honest cfg ch (s, ledger) op) (countable : Countable cfg ch (s, ledger) op) :
    Traces (record ch) (Earned ch) ledger ((transmission cfg env).notes s op) ∧
      Balanced ch (step cfg env s op)
        (((transmission cfg env).notes s op).foldl (record ch) ledger) := by
  have accounts : Accounts ch ((op.told cfg s).foldl (record ch) ledger) s (step cfg env s op) :=
    step_accounts honest countable balanced
  obtain ⟨new, after, extended, balanced'⟩ := accounts
  obtain ⟨earned, seen⟩ := System.notes_extends (m := transmission cfg env)
    (told_earned ledger op) extended
  rw [seen]
  exact ⟨earned, balanced'⟩

/-- While the counters can tell the transfers apart, a transfer is confirmed as soon as its
last packet is, and at no other time. -/
theorem confirmations_earned (cfg : Config) (env : Env) (ch : Nat) (ops : List Op)
    (guarded : Guarded ((transmission cfg env).watch (record ch))
      (fun p op => Honest cfg ch p op ∧ Countable cfg ch p op) (initial, .start) ops) :
    Traces (record ch) (Earned ch) .start ((transmission cfg env).chronicle initial ops) ∧
      ¬ (((transmission cfg env).chronicle initial ops).foldl (record ch) .start).Complete := by
  have start : Balanced ch initial .start := by
    constructor
    · rfl
    · intro _
      rfl
    · simp [Ledger.start]
    · simp [initial]
    · simp [Ledger.start]
  obtain ⟨earned, balanced⟩ := System.chronicle_guarded (m := transmission cfg env)
    (fun _ _ _ balanced ok => notes_earned balanced ok.1 ok.2) ops guarded start
  exact ⟨earned, balanced.settled⟩

section Instances
variable (cfg : Config) (ch : Nat) (p : State × Ledger) (ledger : Ledger)

instance : (op : Op) → Decidable (Honest cfg ch p op)
  | .txConfirmation msgId => inferInstanceAs (Decidable (tpFindByImcId cfg msgId = some ch → _))
  | .transmit _ _ => inferInstanceAs (Decidable True)
  | .cancelTransmit _ => inferInstanceAs (Decidable True)
  | .cyclic => inferInstanceAs (Decidable True)
  | .rxIndication _ _ => inferInstanceAs (Decidable True)

instance : (op : Op) → Decidable (Countable cfg ch p op)
  | .transmit txPduId (some _) =>
    inferInstanceAs (Decidable (tpFindByPdurTxId cfg txPduId = some ch → _))
  | .transmit _ none => inferInstanceAs (Decidable True)
  | .txConfirmation msgId =>
    inferInstanceAs (Decidable (tpFindByImcId cfg msgId = some ch → _))
  | .cyclic => inferInstanceAs (Decidable ((p.1.txInfo ch).bytesRemaining > 0 → _))
  | .cancelTransmit _ => inferInstanceAs (Decidable True)
  | .rxIndication _ _ => inferInstanceAs (Decidable True)

instance : (n : Note) → Decidable (Earned ch ledger n)
  | .event (.txConfirmation c _ .ok) => inferInstanceAs (Decidable (c = ch → _))
  | .event (.txConfirmation _ _ .notOk) => inferInstanceAs (Decidable True)
  | .event (.transmit _ _) => inferInstanceAs (Decidable True)
  | .event (.copyTxData _ _ _ _) => inferInstanceAs (Decidable True)
  | .event (.queueAdd _ _ _) => inferInstanceAs (Decidable True)
  | .event (.startOfReception _ _ _ _) => inferInstanceAs (Decidable True)
  | .event (.copyRxData _ _ _ _) => inferInstanceAs (Decidable True)
  | .event (.rxIndication _ _ _) => inferInstanceAs (Decidable True)
  | .event (.reportError _ _ _) => inferInstanceAs (Decidable True)
  | .event (.reportRuntimeError _ _ _) => inferInstanceAs (Decidable True)
  | .cancelled _ => inferInstanceAs (Decidable True)
  | .confirmed _ => inferInstanceAs (Decidable True)

end Instances

def readyEnv : Env where
  getBuffer := fun _ _ => true
  copyTxData := fun _ _ _ => (.ok, fun _ => 0)
  startOfReception := fun _ _ _ => .notOk
  copyRxData := fun _ _ _ => .notOk

def replacement : List Op :=
  [.transmit 11 (some 9), .cyclic, .transmit 11 (some 4), .cyclic, .txConfirmation 14,
    .txConfirmation 14]

theorem confirmations_earned_replaced :
    Traces (record 0) (Earned 0) .start
        ((transmission (sampleConfig 8) readyEnv).chronicle initial replacement) ∧
      ¬ (((transmission (sampleConfig 8) readyEnv).chronicle initial replacement).foldl
        (record 0) .start).Complete :=
  confirmations_earned (sampleConfig 8) readyEnv 0 _ (by decide)

def cancellation : List Op :=
  [.transmit 11 (some 9), .cyclic, .cancelTransmit 11, .txConfirmation 14]

/-- A transfer that is cancelled while its packet is in flight is confirmed all the same, and
one without bytes is never confirmed. -/
theorem cancelled_transfer_confirmed :
    Guarded ((transmission (sampleConfig 8) readyEnv).watch (record 0))
        (Honest (sampleConfig 8) 0) (initial, .start) cancellation ∧
      ¬ Traces (record 0) (Earned 0) .start
        ((transmission (sampleConfig 8) readyEnv).chronicle initial cancellation) ∧
      (((transmission (sampleConfig 8) readyEnv).chronicle initial
        [.transmit 11 (some 0), .cyclic]).foldl (record 0) .start).Complete := by
  decide

end AnchorNode.Imc
