import AnchorNode.CanTp.Arrivals
import AnchorNode.CanTp.Clearing
import AnchorNode.Lib.Rounds

/-! Two nodes and the frames of one connection between them, and what a call to either node does
to the transfer. -/

namespace AnchorNode.CanTp

open AnchorNode.Lib

section Nodes
variable {b : Build} {cfg : Config b} {env : Env} {s s' : State} {c p : Nat}

/-- The burst queue names existing channels, and nothing is left in it between direct calls. -/
structure Orderly (cfg : Config b) (s : State) : Prop where
  queue : QueueOk b cfg s.burstQ
  drained : Drained b s.burstQ

theorem Orderly.step (orderly : Orderly cfg s) (op : Op) : Orderly cfg (step b cfg env s op) := by
  refine ⟨?_, step_drained op orderly.drained⟩
  cases call : op.isCall with
  | true =>
      have path : Path b cfg (fun _ => True) s (CanTp.step b cfg env s op) :=
        call_path orderly.queue call fun _ _ => trivial
      exact path.queue orderly.queue
  | false =>
      cases op with
      | init => exact resetModule_queue s
      | shutdown =>
          simp only [CanTp.step, shutdown]
          split
          · exact resetModule_queue s
          · exact orderly.queue
      | _ => cases call

theorem run_orderly (cfg : Config b) (env : Env) (ram : State) (ops : List Op) :
    Orderly cfg (run (CanTp.step b cfg env) (start b cfg ram) ops) := by
  have initial : Orderly cfg (start b cfg ram) := ⟨start_queue ram, resetModule_drained cfg _⟩
  generalize start b cfg ram = first at initial ⊢
  exact run_invariant (fun _ op before => before.step op) ops initial

/-- A call to a node while it serves a transfer on channel `c` and N-PDU `p` and no other there:
it drives the module, it confirms a frame of the N-PDU, or it is no concern of the channel. -/
inductive Lawful (cfg : Config b) (env : Env) (c p : Nat) (s : State) : Op → Prop
  | turn (alone : Alone cfg c p s) : Lawful cfg env c p s .mainFunction
  | confirm : Lawful cfg env c p s (.txConfirmation p)
  | elsewhere {op : Op} (apart : Apart cfg c p s (step b cfg env s op)) :
      Lawful cfg env c p s op

end Nodes

section Sender
variable {b : Build} {cfg : Config b} {env : Env} {x n : Nat} {fit : Sendable b cfg x n}
  {payload : List UInt8} {base : List Event} {bs e i m : Nat} {s s' : State}

structure TxConnected (cfg : Config b) (x : Nat) : Prop where
  configured : x < cfg.numberOfTxSdus
  format : (cfg.txSdu x).addressFormatId ≠ 4
  waits : ¬ (b.fcDisableSupport = true ∧ getBit (cfg.txSdu x).bitFields fcDisabled = true)

structure MaySend (b : Build) (s : State) (c : Nat) : Prop where
  turn : HasTurn b s c
  stMin : StMinOver b s c

theorem SenderAt.mainFunction (at' : SenderAt fit payload base bs e i m s)
    (provides : Provides cfg env x n payload base) (connected : TxConnected cfg x)
    (orderly : Orderly cfg s)
    (alone : Alone cfg (cfg.txSdu x).channelId (cfg.txSdu x).txConfirmationId s)
    (timely : ¬ Expired cfg s (cfg.txSdu x).channelId) :
    ∃ m', m ≤ m' ∧ (m = i → i < e → MaySend b s (cfg.txSdu x).channelId → m < m') ∧
      SenderAt fit payload base bs e i m' (mainFunction b cfg env s) := by
  have bound := cfg.txSdu_channel x connected.configured
  rcases mainFunction_turns env bound at'.running orderly.queue alone with
    ⟨s₁, first, ticks, last⟩ | ⟨others, apart⟩
  · obtain ⟨m', further, sends, at''⟩ := (at'.apart first).turn provides connected.format
      (mt (first.expired ticks).mp timely)
    refine ⟨m', further, fun idle open' may => sends idle open' ?_, at''.apart last⟩
    rintro sending
    rw [first.subState] at sending
    have elapsed := may.stMin sending
    simp only [elapsedTicks, getElapsedValue, first.channel, ticks] at elapsed ⊢
    exact elapsed
  · exact ⟨m, Nat.le_refl m, fun _ _ may => absurd may.turn others, at'.apart apart⟩

theorem SenderAt.lawful (at' : SenderAt fit payload base bs e i m s)
    (provides : Provides cfg env x n payload base) (connected : TxConnected cfg x)
    (orderly : Orderly cfg s) (timely : ¬ Expired cfg s (cfg.txSdu x).channelId) {op : Op}
    (lawful : Lawful cfg env (cfg.txSdu x).channelId (cfg.txSdu x).txConfirmationId s op) :
    ∃ i' m', i ≤ i' ∧ m ≤ m' ∧ SenderAt fit payload base bs e i' m' (step b cfg env s op) ∧
      (op = .txConfirmation (cfg.txSdu x).txConfirmationId → m ≤ i') ∧
      (op = .mainFunction → Alone cfg (cfg.txSdu x).channelId (cfg.txSdu x).txConfirmationId s →
        m = i → i < e → MaySend b s (cfg.txSdu x).channelId → m < m') := by
  have bound := cfg.txSdu_channel x connected.configured
  have pdu := cfg.txSdu_confirmation x connected.configured
  have behind := at'.phase.bounds.1
  by_cases confirms : op = .txConfirmation (cfg.txSdu x).txConfirmationId
  · subst confirms
    obtain ⟨m', further, at''⟩ := at'.frameConfirmed provides connected.format bound pdu
      connected.waits orderly.drained
    exact ⟨m, m', behind, further, at'', fun _ => Nat.le_refl m, nofun⟩
  by_cases drives : op = .mainFunction ∧
      Alone cfg (cfg.txSdu x).channelId (cfg.txSdu x).txConfirmationId s
  · obtain ⟨rfl, alone⟩ := drives
    obtain ⟨m', further, sends, at''⟩ := at'.mainFunction provides connected orderly alone timely
    exact ⟨i, m', Nat.le_refl i, further, at'', nofun, fun _ _ => sends⟩
  have apart : Apart cfg (cfg.txSdu x).channelId (cfg.txSdu x).txConfirmationId s
      (step b cfg env s op) := by
    cases lawful with
    | turn alone => exact absurd ⟨rfl, alone⟩ drives
    | confirm => exact absurd rfl confirms
    | elsewhere apart => exact apart
  exact ⟨i, m, Nat.le_refl i, Nat.le_refl m, at'.apart apart, fun own => absurd own confirms,
    fun own alone => absurd ⟨own, alone⟩ drives⟩

end Sender

section Receiver
variable {b b' : Build} {cfg : Config b} {cfg' : Config b'} {env : Env} {e : Pairing cfg cfg'}
  {n : Nat} {fit : Sendable b cfg e.x n} {payload bytes : List UInt8} {data : Mem}
  {base : List Event} {bs j f g h i m : Nat} {s s' : State}

theorem Pairing.connected (e : Pairing cfg cfg') : TxConnected cfg e.x :=
  ⟨e.x_lt, e.format, e.waitsForFc⟩

theorem ReceiverAt.mainFunction (at' : ReceiverAt fit payload base bs j f g h s)
    (grants : Grants env e n base) (whole : payload.length = n) (orderly : Orderly cfg' s)
    (alone : Alone cfg' (cfg'.rxSdu e.r).channelId (cfg'.rxSdu e.r).txConfirmationId s)
    (timely : ¬ Expired cfg' s (cfg'.rxSdu e.r).channelId) :
    (s.subState (cfg'.rxSdu e.r).channelId = .rxSendFc ∧
      ReceiverAt fit payload base bs j (fit.blockEnd bs j) (g + 1) g
        (mainFunction b' cfg' env s)) ∨
      (ReceiverAt fit payload base bs j f g h (mainFunction b' cfg' env s) ∧
        (HasTurn b' s (cfg'.rxSdu e.r).channelId →
          s.subState (cfg'.rxSdu e.r).channelId ≠ .rxSendFc)) := by
  have bound := cfg'.rxSdu_channel e.r e.r_lt
  rcases mainFunction_turns env bound at'.running orderly.queue alone with
    ⟨s₁, first, ticks, last⟩ | ⟨others, apart⟩
  · have before := at'.apart first
    rcases before.turn grants whole (mt (first.expired ticks).mp timely) with
      ⟨sending, sent⟩ | ⟨idle, same⟩
    · exact Or.inl ⟨first.subState ▸ sending, sent.apart last⟩
    · rw [same] at last
      exact Or.inr ⟨before.apart last, fun _ => first.subState ▸ idle⟩
  · exact Or.inr ⟨at'.apart apart, fun turn => absurd turn others⟩

/-- A lawful call to the receiver: the flow control frame that is due is sent, or the one in
flight may be confirmed. -/
theorem ReceiverAt.lawful (at' : ReceiverAt fit payload base bs j f g h s)
    (grants : Grants env e n base) (whole : payload.length = n) (orderly : Orderly cfg' s)
    (timely : ¬ Expired cfg' s (cfg'.rxSdu e.r).channelId) {op : Op}
    (lawful : Lawful cfg' env (cfg'.rxSdu e.r).channelId (cfg'.rxSdu e.r).txConfirmationId s op) :
    (s.subState (cfg'.rxSdu e.r).channelId = .rxSendFc ∧
      ReceiverAt fit payload base bs j (fit.blockEnd bs j) (g + 1) g (step b' cfg' env s op)) ∨
      ∃ h', h ≤ h' ∧ ReceiverAt fit payload base bs j f g h' (step b' cfg' env s op) ∧
        (op = .txConfirmation (cfg'.rxSdu e.r).txConfirmationId → g ≤ h') ∧
        (op = .mainFunction →
          Alone cfg' (cfg'.rxSdu e.r).channelId (cfg'.rxSdu e.r).txConfirmationId s →
            HasTurn b' s (cfg'.rxSdu e.r).channelId →
              s.subState (cfg'.rxSdu e.r).channelId ≠ .rxSendFc) := by
  have behind := at'.phase.bounds.2.2.1
  by_cases confirms : op = .txConfirmation (cfg'.rxSdu e.r).txConfirmationId
  · subst confirms
    exact Or.inr ⟨g, behind, at'.frameConfirmed, fun _ => Nat.le_refl g, nofun⟩
  by_cases drives : op = .mainFunction ∧
      Alone cfg' (cfg'.rxSdu e.r).channelId (cfg'.rxSdu e.r).txConfirmationId s
  · obtain ⟨rfl, alone⟩ := drives
    rcases at'.mainFunction grants whole orderly alone timely with sent | ⟨still, idle⟩
    · exact Or.inl sent
    · exact Or.inr ⟨h, Nat.le_refl h, still, nofun, fun _ _ => idle⟩
  have apart : Apart cfg' (cfg'.rxSdu e.r).channelId (cfg'.rxSdu e.r).txConfirmationId s
      (step b' cfg' env s op) := by
    cases lawful with
    | turn alone => exact absurd ⟨rfl, alone⟩ drives
    | confirm => exact absurd rfl confirms
    | elsewhere apart => exact apart
  exact Or.inr ⟨h, Nat.le_refl h, at'.apart apart, fun own => absurd own confirms,
    fun own alone => absurd ⟨own, alone⟩ drives⟩

theorem SenderAt.receives (at' : SenderAt fit payload base bs i i i s) (later : 0 < i)
    (unfinished : i < fit.cut.pieces) (provides : Provides cfg env e.x n payload base)
    (orderly : Orderly cfg s) (timely : ¬ Expired cfg s (cfg.txSdu e.x).channelId)
    (clears : Clears (cfg'.rxSdu e.r) bs bytes) (holds : data.read 0 bytes.length = bytes) :
    ∃ m', i ≤ m' ∧ SenderAt fit payload base bs (fit.blockEnd bs i) i m'
      (rxIndication b cfg env e.flowPdu (some ⟨some data, bytes.length⟩) s) := by
  have called : rxIndication b cfg env e.flowPdu (some ⟨some data, bytes.length⟩) s =
      receiveFrame b cfg env e.flowPdu ⟨some data, bytes.length⟩ s := by
    simp only [rxIndication, devCheck, if_pos at'.running, if_neg (Nat.not_le.mpr e.flowPdu_lt)]
  obtain ⟨ctx, channel, -, clear, announced, received⟩ :=
    receive_clear env clears holds (at'.phase.waits rfl rfl later unfinished)
  obtain ⟨cleared, now, queue⟩ := at'.cleared later rfl unfinished timely channel clear announced
  rw [called, received]
  exact cleared.burst provides e.format (by rw [queue]; exact orderly.drained)
    (cleared.timely now) _

end Receiver

end AnchorNode.CanTp
