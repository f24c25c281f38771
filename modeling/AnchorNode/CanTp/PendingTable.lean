import AnchorNode.CanTp.Ownership

/-! The pending-confirmation table: an entry names a channel that waits for exactly that
confirmation, so whoever is held up by an entry is held up by a waiting channel. -/

namespace AnchorNode.CanTp

open AnchorNode.Lib

variable {b : Build} {cfg : Config b} {env : Env} {lapse : Lapse → Prop}

/-- The channel with view `v` waits for the confirmation of N-PDU `p`. -/
def View.WaitsFor (b : Build) (cfg : Config b) (v : View) (p : Nat) : Prop :=
  (v.sub = .txWaitForTransmitConfirmation ∧
      (cfg.txSdu v.ch.activeSduId).txConfirmationId = p) ∨
    (v.sub = .rxWaitForFcTransmitConfirmation ∧
      (cfg.rxSdu v.ch.activeSduId).txConfirmationId = p)

def EntriesOk (b : Build) (cfg : Config b) (c : Nat) (v : View) : Prop :=
  ∀ p < cfg.numberOfTxPdus, v.table p = c → v.WaitsFor b cfg p

theorem ChannelStep.table {now c : Nat} {v v' : View} {events : List Event}
    (step : ChannelStep b cfg lapse now c v events v') (p : Nat) :
    v'.table p = v.table p ∨ v'.table p = c ∨ v'.table p = b.invalidChannel := by
  have written (q channel : Nat) (own : channel = c ∨ channel = b.invalidChannel) :
      Function.update v.table q channel p = v.table p ∨
        Function.update v.table q channel p = c ∨
        Function.update v.table q channel p = b.invalidChannel := by
    by_cases same : p = q
    · subst same
      rw [Function.update_self]
      exact Or.inr own
    · exact Or.inl (Function.update_of_ne same _ _)
  have released (waiting : Bool) (q : Nat) :
      releasedTable b waiting v.table q p = v.table p ∨
        releasedTable b waiting v.table q p = c ∨
        releasedTable b waiting v.table q p = b.invalidChannel := by
    unfold releasedTable
    split
    · exact written q _ (Or.inr rfl)
    · exact Or.inl rfl
  cases step with
  | txEnd => exact released _ _
  | rxEnd => exact released _ _
  | txSent => exact written _ _ (Or.inl rfl)
  | fcSent => exact written _ _ (Or.inl rfl)
  | txRefused => exact written _ _ (Or.inr rfl)
  | txBlockedTimeout => exact written _ _ (Or.inr rfl)
  | txDone => exact written _ _ (Or.inr rfl)
  | txNext => exact written _ _ (Or.inr rfl)
  | txAwaitFlow => exact written _ _ (Or.inr rfl)
  | txSkipFlow => exact written _ _ (Or.inr rfl)
  | fcRefused => exact written _ _ (Or.inr rfl)
  | fcConfirmedClear => exact written _ _ (Or.inr rfl)
  | fcConfirmedWait => exact written _ _ (Or.inr rfl)
  | fcConfirmedOverflow => exact written _ _ (Or.inr rfl)
  | _ => exact Or.inl rfl

section Entries
variable {c : Nat} {v v' : View}

theorem EntriesOk.none (entries : EntriesOk b cfg c v)
    (data : v.sub ≠ .txWaitForTransmitConfirmation)
    (flow : v.sub ≠ .rxWaitForFcTransmitConfirmation) :
    ∀ p < cfg.numberOfTxPdus, v.table p ≠ c := by
  intro p configured entry
  rcases entries p configured entry with ⟨waiting, -⟩ | ⟨waiting, -⟩
  · exact data waiting
  · exact flow waiting

theorem EntriesOk.data (entries : EntriesOk b cfg c v)
    (waiting : v.sub = .txWaitForTransmitConfirmation) :
    ∀ p < cfg.numberOfTxPdus, v.table p = c →
      p = (cfg.txSdu v.ch.activeSduId).txConfirmationId := by
  intro p configured entry
  rcases entries p configured entry with ⟨-, own⟩ | ⟨flow, -⟩
  · exact own.symm
  · simp [waiting] at flow

theorem EntriesOk.flow (entries : EntriesOk b cfg c v)
    (waiting : v.sub = .rxWaitForFcTransmitConfirmation) :
    ∀ p < cfg.numberOfTxPdus, v.table p = c →
      p = (cfg.rxSdu v.ch.activeSduId).txConfirmationId := by
  intro p configured entry
  rcases entries p configured entry with ⟨data, -⟩ | ⟨-, own⟩
  · simp [waiting] at data
  · exact own.symm

theorem EntriesOk.only {p : Nat} (entries : EntriesOk b cfg c v)
    (pending : p < cfg.numberOfTxPdus ∧ v.table p = c) :
    ∀ q < cfg.numberOfTxPdus, v.table q = c → q = p := by
  intro q configured entry
  rcases entries p pending.1 pending.2 with ⟨waiting, own⟩ | ⟨waiting, own⟩
  · exact (entries.data waiting q configured entry).trans own
  · exact (entries.flow waiting q configured entry).trans own

theorem entriesOk_of_none (none : ∀ p < cfg.numberOfTxPdus, v.table p ≠ c) :
    EntriesOk b cfg c v := fun p configured entry => absurd entry (none p configured)

theorem entriesOk_cleared {q : Nat} (bound : c < cfg.numberOfChannels)
    (only : ∀ p < cfg.numberOfTxPdus, v.table p = c → p = q)
    (table : v'.table = Function.update v.table q b.invalidChannel) :
    EntriesOk b cfg c v' := by
  refine entriesOk_of_none ?_
  intro p configured entry
  rw [table] at entry
  by_cases same : p = q
  · rw [same, Function.update_self, Build.invalidChannel] at entry
    have fit := cfg.channels_fit
    omega
  · rw [Function.update_of_ne same] at entry
    exact same (only p configured entry)

theorem entriesOk_unchanged (none : ∀ p < cfg.numberOfTxPdus, v.table p ≠ c)
    (table : v'.table = v.table) : EntriesOk b cfg c v' :=
  entriesOk_of_none (table ▸ none)

theorem Accepts.none {r : Nat} {replaced : List Event} (entries : EntriesOk b cfg c v)
    (replace : ¬ lapse .replacedPending) (accepts : Accepts b cfg lapse c r v replaced) :
    ∀ p < cfg.numberOfTxPdus, v.table p ≠ c := by
  obtain ⟨-, -, ⟨idle, -⟩ | ⟨reception, active, -, pending⟩⟩ := accepts
  · exact entries.none (by simp [idle]) (by simp [idle])
  · intro p configured entry
    rcases entries p configured entry with ⟨waiting, -⟩ | ⟨waiting, own⟩
    · simp [waiting, SubState.state] at reception
    · rw [active] at own
      exact replace (pending waiting (own ▸ entry))

theorem ReadyToSend.none {now : Nat} {pciId : Npci} (entries : EntriesOk b cfg c v)
    (ready : ReadyToSend b now v pciId) : ∀ p < cfg.numberOfTxPdus, v.table p ≠ c := by
  rcases ready with ⟨accepted, -⟩ | ⟨sending, -⟩
  · exact entries.none (by simp [accepted]) (by simp [accepted])
  · exact entries.none (by simp [sending]) (by simp [sending])

theorem entriesOk_sent {q : Nat} (none : ∀ p < cfg.numberOfTxPdus, v.table p ≠ c)
    (table : v'.table = Function.update v.table q c) (waits : v'.WaitsFor b cfg q) :
    EntriesOk b cfg c v' := by
  intro p configured entry
  by_cases same : p = q
  · exact same ▸ waits
  · rw [table, Function.update_of_ne same] at entry
    exact absurd entry (none p configured)

end Entries

theorem ChannelStep.entries {now c : Nat} {v v' : View} {events : List Event}
    (step : ChannelStep b cfg lapse now c v events v') (bound : c < cfg.numberOfChannels)
    (replace : ¬ lapse .replacedPending) (entries : EntriesOk b cfg c v) :
    EntriesOk b cfg c v' := by
  cases step with
  | txEnd ch busy =>
      simp only [releasedTable]
      split
      · rename_i waiting
        exact entriesOk_cleared bound (entries.data (by simpa using waiting)) rfl
      · rename_i free
        refine entriesOk_unchanged (entries.none (by simpa using free) ?_) rfl
        intro flow
        simp [flow, SubState.state] at busy
  | rxEnd ch busy =>
      simp only [releasedTable]
      split
      · rename_i waiting
        exact entriesOk_cleared bound (entries.flow (by simpa using waiting)) rfl
      · rename_i free
        refine entriesOk_unchanged (entries.none ?_ (by simpa using free)) rfl
        intro data
        simp [data, SubState.state] at busy
  | accept idle => exact entriesOk_unchanged (entries.none (by simp [idle]) (by simp [idle])) rfl
  | txPrepare accepted =>
      exact entriesOk_unchanged (entries.none (by simp [accepted]) (by simp [accepted])) rfl
  | txBuffer status waiting =>
      refine entriesOk_unchanged (entries.none ?_ ?_) rfl
      · rcases waiting with sub | sub <;> simp [sub]
      · rcases waiting with sub | sub <;> simp [sub]
  | txSendFailed ready => exact entriesOk_unchanged (ready.none entries) rfl
  | txSent ready => exact entriesOk_sent (ready.none entries) rfl (Or.inl ⟨rfl, rfl⟩)
  | txRefused ch ready =>
      exact entriesOk_cleared bound
        (fun p configured entry => absurd entry (ready.none entries p configured)) rfl
  | txBlockedTimeout accepted =>
      exact entriesOk_cleared bound (fun p configured entry =>
        absurd entry (entries.none (by simp [accepted]) (by simp [accepted]) p configured)) rfl
  | txDone waiting pending => exact entriesOk_cleared bound (entries.only pending) rfl
  | txNext waiting pending => exact entriesOk_cleared bound (entries.only pending) rfl
  | txAwaitFlow waiting pending => exact entriesOk_cleared bound (entries.only pending) rfl
  | txSkipFlow ch waiting pending => exact entriesOk_cleared bound (entries.only pending) rfl
  | txFlowWait waiting =>
      exact entriesOk_unchanged (entries.none (by simp [waiting]) (by simp [waiting])) rfl
  | txFlowClear x bs stMin waiting =>
      exact entriesOk_unchanged (entries.none (by simp [waiting]) (by simp [waiting])) rfl
  | txForeignConfirmation x ch waiting =>
      exact entriesOk_unchanged (entries.none (by simp [waiting]) (by simp [waiting])) rfl
  | txDropped r ch waiting =>
      exact entriesOk_unchanged (entries.none (by simp [waiting]) (by simp [waiting])) rfl
  | rxForeignIndication r ch waiting =>
      exact entriesOk_unchanged (entries.none (by simp [waiting]) (by simp [waiting])) rfl
  | rxDoubleIndication => exact entries
  | idleTouch ch idle =>
      exact entriesOk_unchanged (entries.none (by simp [idle]) (by simp [idle])) rfl
  | fcPrepare ch sending =>
      exact entriesOk_unchanged (entries.none (by simp [sending]) (by simp [sending])) rfl
  | fcSent sending =>
      exact entriesOk_sent (entries.none (by simp [sending]) (by simp [sending])) rfl
        (Or.inr ⟨rfl, rfl⟩)
  | fcRefused ch sending =>
      exact entriesOk_cleared bound (fun p configured entry =>
        absurd entry (entries.none (by simp [sending]) (by simp [sending]) p configured)) rfl
  | fcSkipped ch sending =>
      exact entriesOk_unchanged (entries.none (by simp [sending]) (by simp [sending])) rfl
  | fcConfirmedClear waiting pending => exact entriesOk_cleared bound (entries.only pending) rfl
  | fcConfirmedWait waiting pending => exact entriesOk_cleared bound (entries.only pending) rfl
  | fcConfirmedOverflow waiting pending =>
      exact entriesOk_cleared bound (entries.only pending) rfl
  | rxBrief ch accepted => exact entriesOk_unchanged (accepted.none entries replace) rfl
  | rxFirst accepted => exact entriesOk_unchanged (accepted.none entries replace) rfl
  | rxOverflow accepted => exact entriesOk_unchanged (accepted.none entries replace) rfl
  | rxConsecutive data room sub ch waiting =>
      exact entriesOk_unchanged (entries.none (by simp [waiting]) (by simp [waiting])) rfl
  | rxLast data room ch waiting =>
      exact entriesOk_unchanged (entries.none (by simp [waiting]) (by simp [waiting])) rfl
  | rxCopyFailed ch waiting =>
      exact entriesOk_unchanged (entries.none (by simp [waiting]) (by simp [waiting])) rfl

/-- Every entry of the table is free or names a channel that waits for that confirmation. -/
structure TableConsistent (b : Build) (cfg : Config b) (s : State) : Prop where
  range : ∀ p < cfg.numberOfTxPdus,
    s.txConfirmationChannel p < cfg.numberOfChannels ∨ s.txConfirmationChannel p = b.invalidChannel
  waits : ∀ p < cfg.numberOfTxPdus, ∀ c < cfg.numberOfChannels, s.txConfirmationChannel p = c →
    (s.view c).WaitsFor b cfg p

theorem Move.tableConsistent {s s' : State} (move : Move b cfg lapse s s')
    (replace : ¬ lapse .replacedPending) (before : TableConsistent b cfg s) :
    TableConsistent b cfg s' := by
  cases move with
  | silent silent =>
      constructor
      · simpa only [silent.table] using before.range
      · simpa only [silent.table, silent.view] using before.waits
  | channel bound step becomes =>
      rename_i d events v
      have table : s'.txConfirmationChannel = v.table := becomes.table
      constructor
      · intro p configured
        rw [table]
        rcases step.table p with same | own | free
        · rw [same]
          exact before.range p configured
        · exact Or.inl (own ▸ bound)
        · exact Or.inr free
      · intro p configured c inside entry
        rw [table] at entry
        by_cases here : c = d
        · subst here
          rw [becomes.view_here]
          exact step.entries bound replace (fun q valid pending => before.waits q valid c bound
            pending) p configured entry
        · rw [becomes.view_elsewhere here]
          rcases step.table p with same | own | free
          · exact before.waits p configured c inside (same.symm.trans entry)
          · exact absurd (entry.symm.trans own) here
          · rw [free, Build.invalidChannel] at entry
            have fit := cfg.channels_fit
            omega

theorem resetModule_tableConsistent (cfg : Config b) (s : State) :
    TableConsistent b cfg (resetModule b cfg s) := by
  constructor
  · intro p configured
    exact Or.inr (by simp [resetModule, configured])
  · intro p configured c inside entry
    have free : (resetModule b cfg s).txConfirmationChannel p = b.invalidChannel := by
      simp [resetModule, configured]
    rw [free, Build.invalidChannel] at entry
    have fit := cfg.channels_fit
    omega

def BlockedOn (b : Build) (cfg : Config b) (s : State) (d p : Nat) : Prop :=
  (((s.subState d = .txTransmissionRequestAccepted ∨ s.subState d = .txSendConsecutiveFrame) ∧
      (cfg.txSdu (s.channel d).activeSduId).txConfirmationId = p) ∨
    (s.subState d = .rxSendFc ∧ (cfg.rxSdu (s.channel d).activeSduId).txConfirmationId = p)) ∧
    s.txConfirmationChannel p ≠ b.invalidChannel

/-- Some channel is going to clear the entry of `p`: on the confirmation of `p`, or in its
turn of the main function once `AsAr` has passed. -/
def WillBeCleared (b : Build) (cfg : Config b) (env : Env) (s : State) (p : Nat) : Prop :=
  ∃ c < cfg.numberOfChannels, s.txConfirmationChannel p = c ∧ (s.view c).WaitsFor b cfg p ∧
    (confirmFrame b cfg p s).txConfirmationChannel p = b.invalidChannel ∧
    ((executeState b cfg env s c).txConfirmationChannel p = b.invalidChannel ∨
      (s.subState c = .txWaitForTransmitConfirmation ∧
        elapsedSince b s.ticks (s.channel c).initialTicks ≤
          (cfg.timeOut (cfg.txSdu (s.channel c).activeSduId).timeOutId).asArTicks) ∨
      (s.subState c = .rxWaitForFcTransmitConfirmation ∧
        elapsedSince b s.ticks (s.channel c).initialTicks ≤
          (cfg.timeOut (cfg.rxSdu (s.channel c).activeSduId).timeOutId).asArTicks))

theorem WaitsFor.cleared {s : State} {p : Nat} {c : Nat} (bound : c < cfg.numberOfChannels)
    (entry : s.txConfirmationChannel p = c) (waits : (s.view c).WaitsFor b cfg p) :
    WillBeCleared b cfg env s p := by
  refine ⟨c, bound, entry, waits, ?_, ?_⟩
  · simp only [confirmFrame, entry, if_pos bound]
    rcases waits with ⟨waiting, -⟩ | ⟨waiting, -⟩
    · have sub : s.subState c = .txWaitForTransmitConfirmation := waiting
      simp [sub]
    · have sub : s.subState c = .rxWaitForFcTransmitConfirmation := waiting
      simp [sub]
  · rcases waits with ⟨waiting, own⟩ | ⟨waiting, own⟩
    · have sub : s.subState c = .txWaitForTransmitConfirmation := waiting
      have mine : (cfg.txSdu (s.channel c).activeSduId).txConfirmationId = p := own
      by_cases late : elapsedSince b s.ticks (s.channel c).initialTicks >
          (cfg.timeOut (cfg.txSdu (s.channel c).activeSduId).timeOutId).asArTicks
      · refine Or.inl ?_
        simp [executeState, sub, txWaitForTransmitConfirmation, getElapsedValue_eq, late, mine]
      · exact Or.inr (Or.inl ⟨sub, Nat.le_of_not_lt late⟩)
    · have sub : s.subState c = .rxWaitForFcTransmitConfirmation := waiting
      have mine : (cfg.rxSdu (s.channel c).activeSduId).txConfirmationId = p := own
      by_cases late : elapsedSince b s.ticks (s.channel c).initialTicks >
          (cfg.timeOut (cfg.rxSdu (s.channel c).activeSduId).timeOutId).asArTicks
      · refine Or.inl ?_
        simp [executeState, sub, rxWaitForFcTransmitConfirmation, getElapsedValue_eq, late, mine]
      · exact Or.inr (Or.inr ⟨sub, Nat.le_of_not_lt late⟩)

theorem BlockedOn.configured {s : State} {d p : Nat} (owned : OwnedView b cfg d (s.view d))
    (blocked : BlockedOn b cfg s d p) : p < cfg.numberOfTxPdus := by
  rcases blocked.1 with ⟨sending, own⟩ | ⟨sending, own⟩
  · have busy : (s.view d).sub.state = .transmission := by
      rcases sending with sub | sub <;> simp [State.view, sub, SubState.state]
    exact own ▸ cfg.txSdu_confirmation _ (owned.transmission busy).1
  · have busy : (s.view d).sub.state = .reception := by
      simp [State.view, sending, SubState.state]
    exact own ▸ cfg.rxSdu_confirmation _ (owned.reception busy).1

/-- In every run in which no reception is replaced while its flow control frame is recorded
as unconfirmed, each entry of the table names a channel that waits for that confirmation,
and a channel that finds an entry taken waits for a channel that is going to clear it. -/
theorem pending_table_consistent (b : Build) (cfg : Config b) (env : Env) (s : State)
    (ops : List Op)
    (regular : Guarded (step b cfg env) (Avoids b cfg env [.replacedPending])
      (start b cfg s) ops) :
    TableConsistent b cfg (run (step b cfg env) (start b cfg s) ops) ∧
      ∀ d < cfg.numberOfChannels, ∀ p,
        BlockedOn b cfg (run (step b cfg env) (start b cfg s) ops) d p →
          WillBeCleared b cfg env (run (step b cfg env) (start b cfg s) ops) p := by
  have invariant : Owned b cfg (run (step b cfg env) (start b cfg s) ops) ∧
      TableConsistent b cfg (run (step b cfg env) (start b cfg s) ops) := by
    refine run_moves _ (fun s => Owned b cfg s ∧ TableConsistent b cfg s) ?_
      (start_queue s) ⟨start_owned s, ?_⟩ ?_ regular
    · rintro s s' move ⟨owned, consistent⟩
      exact ⟨move.owned owned, move.tableConsistent (by simp) consistent⟩
    · have reset := resetModule_tableConsistent cfg { s with log := [] }
      exact ⟨reset.range, reset.waits⟩
    · intro op _ reset s kept
      have owned := resetModule_owned cfg s
      have consistent := resetModule_tableConsistent cfg s
      cases op with
      | init => exact ⟨owned, consistent.range, consistent.waits⟩
      | shutdown =>
          simp only [step, shutdown]
          split
          · exact ⟨owned, consistent.range, consistent.waits⟩
          · exact ⟨kept.1, kept.2.range, kept.2.waits⟩
      | _ => cases reset
  obtain ⟨owned, consistent⟩ := invariant
  refine ⟨consistent, ?_⟩
  intro d bound p blocked
  have configured := blocked.configured (owned d bound)
  rcases consistent.range p configured with inside | free
  · exact WaitsFor.cleared inside rfl (consistent.waits p configured _ inside rfl)
  · exact absurd free blocked.2

theorem pending_table_consistent_reception :
    TableConsistent nodeBuild nodeConfig (run (step nodeBuild nodeConfig nodeEnv)
      (start nodeBuild nodeConfig nodeRam)
      [.rxIndication 0 (nodeFrame [0x10, 20, 1, 2, 3, 4, 5, 6]), .mainFunction,
        .txConfirmation 2, .rxIndication 0 (nodeFrame [0x21, 7, 8, 9, 10, 11, 12, 13])]) :=
  (pending_table_consistent nodeBuild nodeConfig nodeEnv nodeRam _ (by decide +kernel)).1

/-- A single frame that replaces a reception whose flow control frame is unconfirmed leaves
the entry of the flow control N-PDU behind on an idle channel. -/
theorem replaced_reception_stale_entry :
    ¬ TableConsistent nodeBuild nodeConfig (run (step nodeBuild nodeConfig nodeEnv)
      (start nodeBuild nodeConfig nodeRam)
      [.rxIndication 0 (nodeFrame [0x10, 20, 1, 2, 3, 4, 5, 6]), .mainFunction,
        .rxIndication 0 (nodeFrame [0x01, 9])]) := by
  intro consistent
  have waits := consistent.waits 2 (by decide) 0 (by decide) (by decide +kernel)
  rcases waits with ⟨waiting, -⟩ | ⟨waiting, -⟩
  · revert waiting
    decide +kernel
  · revert waiting
    decide +kernel

end AnchorNode.CanTp
