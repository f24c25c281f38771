import AnchorNode.AnchorCom.Windows

/-! From the payload of a request to the string on the wire: what the buffer of an entry holds in
each of its states until it is ready to be sent. -/

namespace AnchorNode.AnchorCom.Tx

open AnchorNode.Lib

variable {cfg : Config} {env : Env} {s t : State}

structure Lays (cfg : Config) (env : Env) (i : Nat) (e : Entry) (buf : Mem) (len : Nat)
    (msg : Secured) (fresh : List UInt8) : Prop where
  given : Fresh env e.truncFresh fresh
  count : fresh.length = freshLen
  length : len = msg.text.length
  short : msg.text.length + 11 < 65536
  holds : buf.read 0 (headerLen + msg.text.length + freshLen) =
    msg.authentic (getTxChanId cfg e.msgIdx i) fresh

def Stage.holds (cfg : Config) (env : Env) (log : List Event) (i : Nat) (e : Entry) (buf : Mem)
    (len : Nat) : Prop :=
  match e.queueState with
  | .queued => ∃ payload, .accepted e.ticket i e.msgIdx payload ∈ log ∧
      payload.length ≤ (cfg.msgCfg e.msgIdx).length ∧ len = payload.length ∧
      buf.read headerLen payload.length = payload
  | .encReady => ∃ payload msg fresh, .accepted e.ticket i e.msgIdx payload ∈ log ∧
      (cfg.msgCfg e.msgIdx).encDecFlag = true ∧ msg.pduId = (cfg.msgCfg e.msgIdx).pduId ∧
      msg.text = formatText cfg e.msgIdx payload ∧ Lays cfg env i e buf len msg fresh
  | .cmacReady => ∃ payload msg fresh,
      Composed cfg env log e.ticket i e.msgIdx payload fresh msg ∧
        Lays cfg env i e buf len msg fresh
  | _ => True

def Ready (cfg : Config) (env : Env) (log : List Event) (k : Nat) (buf : Mem) (len : Nat)
    (wire : List UInt8) : Prop :=
  Genuine cfg env log k wire ∧ len = wire.length ∧ buf.read chanIdLen wire.length = wire ∧
    wire.length < 65536

theorem Ready.later {log : List Event} {k len : Nat} {buf : Mem} {wire : List UInt8}
    (ready : Ready cfg env log k buf len wire) (events : List Event) :
    Ready cfg env (log ++ events) k buf len wire :=
  ⟨ready.1.later events, ready.2⟩

section Work
variable {log : List Event} {i : Nat} {e e' : Entry} {buf buf' : Mem} {len len' : Nat}
  {events : List Event}

theorem Lays.carry {msg : Secured} {fresh : List UInt8} (lays : Lays cfg env i e buf len msg fresh)
    (truncFresh : e'.truncFresh = e.truncFresh) (msgIdx : e'.msgIdx = e.msgIdx) :
    Lays cfg env i e' buf len msg fresh where
  given := by rw [truncFresh]; exact lays.given
  count := lays.count
  length := lays.length
  short := lays.short
  holds := by rw [msgIdx]; exact lays.holds

theorem Stage.holds_later (holds : Stage.holds cfg env log i e buf len) (events : List Event) :
    Stage.holds cfg env (log ++ events) i e buf len := by
  unfold Stage.holds at holds ⊢
  split
  · rename_i state
    simp only [state] at holds
    obtain ⟨payload, accepted, rest⟩ := holds
    exact ⟨payload, List.mem_append_left _ accepted, rest⟩
  · rename_i state
    simp only [state] at holds
    obtain ⟨payload, msg, fresh, accepted, rest⟩ := holds
    exact ⟨payload, msg, fresh, List.mem_append_left _ accepted, rest⟩
  · rename_i state
    simp only [state] at holds
    obtain ⟨payload, msg, fresh, composed, lays⟩ := holds
    exact ⟨payload, msg, fresh, composed.later events, lays⟩
  · trivial

theorem formatted_holds (known : e.msgIdx < cfg.numMsg) (state : e.queueState = .queued)
    (holds : Stage.holds cfg env log i e buf len) {fresh : Mem} {truncFresh : UInt8}
    (given : env.txFreshness log = some (fresh, truncFresh)) (events : List Event) :
    Stage.holds cfg env (log ++ events) i (formatEntry cfg truncFresh e)
      (formatBuffer cfg i e.msgIdx fresh len buf) (formatLength cfg e.msgIdx len) := by
  simp only [Stage.holds, state] at holds
  obtain ⟨payload, accepted, short, length, held⟩ := holds
  have bound := cfg.length_lt _ known
  have limit : maxMsgTx = 4096 := rfl
  let msg := formatted cfg e.msgIdx len buf
  have text : msg.text = formatText cfg e.msgIdx payload := by
    simp only [msg, formatted, length, held]
  have grown : formatLength cfg e.msgIdx len = msg.text.length :=
    (formatText_length cfg buf (by omega)).symm
  have few := formatLength_bound cfg e.msgIdx len
  have fits : msg.text.length + 11 < 65536 := by omega
  have lays : Lays cfg env i (formatEntry cfg truncFresh e)
      (formatBuffer cfg i e.msgIdx fresh len buf) (formatLength cfg e.msgIdx len) msg
      (fresh.read 0 freshLen) := by
    refine ⟨⟨log, fresh, given, rfl⟩, read_length _ _ _, grown, fits, ?_⟩
    exact formatBuffer_authentic cfg i e.msgIdx fresh buf (by omega)
  have later : .accepted e.ticket i e.msgIdx payload ∈ log ++ events :=
    List.mem_append_left _ accepted
  by_cases secret : (cfg.msgCfg e.msgIdx).encDecFlag = true
  · simp only [Stage.holds, formatEntry, secret, if_true] at lays ⊢
    exact ⟨payload, msg, _, later, trivial, rfl, text, lays⟩
  · simp only [Stage.holds, formatEntry, secret, if_false, Bool.false_eq_true] at lays ⊢
    refine ⟨payload, msg, _, ⟨later, rfl, ?_, fun encrypts => absurd encrypts secret⟩, lays⟩
    rw [Enciphers, if_neg secret]
    exact text

theorem encrypted_holds (state : e.queueState = .encReady)
    (holds : Stage.holds cfg env log i e buf len) {plain fresh cipher : List UInt8}
    (payload : plain = buf.read headerLen len)
    (vector : fresh = buf.read (headerLen + len) freshLen)
    (taken : (env.encrypt log plain fresh).1 = .ok)
    (read : cipher = (env.encrypt log plain fresh).2.read 0 len) :
    Stage.holds cfg env (log ++ [.encrypted e.ticket plain fresh cipher]) i
      { e with queueState := .cmacReady } (buf.write headerLen cipher) len := by
  simp only [Stage.holds, state] at holds
  obtain ⟨raw, msg, value, accepted, secret, pduId, text, lays⟩ := holds
  have length := lays.length
  have held := lays.holds
  rw [← lays.count] at held
  obtain ⟨_, _, _, middle, trailer⟩ := (msg.holds_authentic_iff _ _ _).mp held
  rw [← length] at middle trailer
  rw [lays.count] at trailer
  rw [middle, text] at payload
  rw [trailer] at vector
  have size : cipher.length = len := by rw [read, read_length]
  rw [payload, vector] at taken read ⊢
  refine ⟨raw, { msg with text := cipher }, value, ⟨List.mem_append_left _ accepted, pduId, ?_, ?_⟩,
    lays.given, lays.count, size.symm, ?_, ?_⟩
  · rw [Enciphers, if_pos secret, ← text, ← length]
    exact ⟨log, text ▸ taken, text ▸ read⟩
  · intro _
    exact List.mem_append_right _ (List.mem_singleton.mpr rfl)
  · have short := lays.short
    simp only
    omega
  · have written := encrypted_authentic held (size.trans length)
    rw [lays.count] at written
    exact written

/-- The work on an entry keeps what its buffer holds, but for an encryption that has failed and
leaves the entry where it was. -/
theorem Work.holds (work : Work cfg env log i e buf len e' buf' len' events)
    (known : e.msgIdx < cfg.numMsg) (holds : Stage.holds cfg env log i e buf len) :
    Stage.holds cfg env (log ++ events) i e' buf' len' ∨
      e.queueState = .encReady ∧ e'.queueState = .encReady := by
  cases work with
  | unfresh queued missing =>
      left
      rw [List.append_nil]
      simp only [Stage.holds, queued] at holds ⊢
      exact holds
  | formatted fresh truncFresh queued given =>
      exact Or.inl (formatted_holds known queued holds given _)
  | encrypted payload fresh cipher answer ready plain vector said read =>
      cases result : answer.1 with
      | ok =>
          left
          rw [← said] at result read
          exact encrypted_holds ready holds plain vector result read
      | pending => exact Or.inl trivial
      | fail => exact Or.inr ⟨ready, ready⟩
      | fatalFail => exact Or.inr ⟨ready, ready⟩
  | unauthenticated data cmacValue answer e' ready whole said read failed =>
      left
      have later := Stage.holds_later holds [.authenticated e.ticket data cmacValue]
      rcases failed with ⟨_, rfl⟩ | ⟨_, rfl⟩ | ⟨_, rfl⟩
      · trivial
      · simp only [Stage.holds, ready] at later ⊢
        obtain ⟨payload, msg, fresh, composed, lays⟩ := later
        exact ⟨payload, msg, fresh, composed, lays.carry rfl rfl⟩
      · simp only [Stage.holds, ready] at later ⊢
        obtain ⟨payload, msg, fresh, composed, lays⟩ := later
        exact ⟨payload, msg, fresh, composed, lays.carry rfl rfl⟩
  | sealed => exact Or.inl trivial

theorem Work.waiting (work : Work cfg env log i e buf len e' buf' len' events) :
    e.queueState.isSending = false := by
  cases work with
  | unfresh queued => rw [queued]; rfl
  | formatted _ _ queued => rw [queued]; rfl
  | encrypted _ _ _ _ ready => rw [ready]; rfl
  | unauthenticated _ _ _ _ ready => rw [ready]; rfl
  | sealed _ _ _ _ _ _ ready => rw [ready]; rfl

theorem Work.aside (work : Work cfg env log i e buf len e' buf' len' events) :
    ∀ f ∈ events, f.isAside = true := by
  intro f member
  cases work with
  | unfresh => cases member
  | formatted =>
      rw [List.mem_append, List.mem_singleton] at member
      rcases member with write | rfl
      · unfold formatWrites at write
        revert write
        split
        · split <;> simp <;> grind [Event.isAside]
        · simp
          grind [Event.isAside]
      · rfl
  | encrypted => rw [List.mem_singleton.mp member]; rfl
  | unauthenticated => rw [List.mem_singleton.mp member]; rfl
  | sealed =>
      simp only [List.mem_cons, List.not_mem_nil, or_false] at member
      rcases member with rfl | rfl | rfl | rfl <;> rfl

theorem Work.ready (work : Work cfg env log i e buf len e' buf' len' events)
    (holds : Stage.holds cfg env log i e buf len) (sending : e'.queueState.isSending = true) :
    ∃ wire, Ready cfg env (log ++ events) e.ticket buf' len' wire := by
  cases work with
  | unfresh queued => simp [queued, TxQueueState.isSending] at sending
  | formatted fresh truncFresh queued =>
      simp only [formatEntry] at sending
      split at sending <;> cases sending
  | encrypted payload fresh cipher answer ready =>
      cases result : answer.1 <;>
        simp [result, encryptionResult, ready, TxQueueState.isSending] at sending
  | unauthenticated data cmacValue answer e' ready whole said read failed =>
      rcases failed with ⟨_, rfl⟩ | ⟨_, rfl⟩ | ⟨_, rfl⟩ <;>
        simp [ready, TxQueueState.isSending] at sending
  | sealed data cmacValue answer offset buf' len' waiting whole said read taken place trailer
      grown =>
      simp only [Stage.holds, waiting] at holds
      obtain ⟨payload, msg, fresh, composed, lays⟩ := holds
      have work : Work cfg env log i e buf len _ _ _ _ := Work.sealed data cmacValue answer offset
        buf' len' waiting whole said read taken place trailer grown
      obtain ⟨cmac, size, _, tags, authenticated, _, wire, length⟩ :=
        work.seals waiting rfl lays.count lays.length lays.holds lays.short
      refine ⟨msg.wire e.truncFresh cmac, ⟨i, e.msgIdx, payload, msg, fresh, e.truncFresh, cmac,
        composed.later _, lays.given, tags, List.mem_append_right _ authenticated, rfl⟩,
        length, ?_, ?_⟩
      · rw [← length]
        exact wire
      · have short := lays.short
        have whole := msg.wire_length e.truncFresh cmac
        have sizes : cmacLen = 3 ∧ prefixLen = 2 := ⟨rfl, rfl⟩
        omega

end Work

end AnchorNode.AnchorCom.Tx
