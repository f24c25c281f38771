import AnchorNode.AnchorCom.TxPaths
import AnchorNode.AnchorCom.RxTexts

/-! A secured message and its two forms: the string that is authenticated, with the channel
id in front and the freshness value behind, and the string on the wire, which has neither but
ends with the truncated freshness value and the CMAC. -/

namespace AnchorNode.AnchorCom

open AnchorNode.Lib

/-- What both ends see of a message: the prefix and the text, encrypted or not. -/
structure Secured where
  pduId : UInt8
  flags : UInt8
  text : List UInt8
  deriving DecidableEq, Repr

namespace Secured

/-- The string that is authenticated. -/
def authentic (m : Secured) (chanId : UInt8) (fresh : List UInt8) : List UInt8 :=
  chanId :: m.pduId :: m.flags :: (m.text ++ fresh)

def wire (m : Secured) (truncFresh : UInt8) (cmac : List UInt8) : List UInt8 :=
  m.pduId :: m.flags :: (m.text ++ truncFresh :: cmac)

theorem wire_length (m : Secured) (truncFresh : UInt8) (cmac : List UInt8) :
    (m.wire truncFresh cmac).length = prefixLen + m.text.length + 1 + cmac.length := by
  simp only [wire, List.length_cons, List.length_append, prefixLen]
  omega

theorem authentic_eq_iff (m : Secured) (chanId chanId' : UInt8) (fresh : List UInt8) :
    m.authentic chanId fresh = m.authentic chanId' fresh ↔ chanId = chanId' := by
  simp [authentic]

theorem holds_authentic_iff (buf : Mem) (m : Secured) (chanId : UInt8) (fresh : List UInt8) :
    buf.read 0 (headerLen + m.text.length + fresh.length) = m.authentic chanId fresh ↔
      buf 0 = chanId ∧ buf 1 = m.pduId ∧ buf 2 = m.flags ∧
        buf.read headerLen m.text.length = m.text ∧
        buf.read (headerLen + m.text.length) fresh.length = fresh := by
  have header : buf.read 0 headerLen = [buf 0, buf 1, buf 2] := rfl
  rw [read_add, read_add, header, authentic, Nat.zero_add, Nat.zero_add]
  constructor
  · intro same
    simp only [List.cons_append, List.nil_append, List.cons.injEq] at same
    obtain ⟨first, second, third, rest⟩ := same
    obtain ⟨text, trailer⟩ := List.append_inj rest (by simp)
    exact ⟨first, second, third, text, trailer⟩
  · rintro ⟨rfl, second, third, text, trailer⟩
    rw [text, trailer, second, third]
    rfl

end Secured

end AnchorNode.AnchorCom

namespace AnchorNode.AnchorCom.Tx

open AnchorNode.Lib

section Format
variable (cfg : Config)

def formatFlags (m len : Nat) (old : UInt8) : UInt8 :=
  if (cfg.msgCfg m).encDecFlag then
    if paddingLen len ≠ 0 then 0x80 ||| (UInt8.ofNat (paddingLen len) &&& 0x0F) else 0
  else old

def formatText (m : Nat) (payload : List UInt8) : List UInt8 :=
  if (cfg.msgCfg m).encDecFlag then payload ++ List.replicate (paddingLen payload.length) 0
  else payload

def formatted (m len : Nat) (buf : Mem) : Secured where
  pduId := (cfg.msgCfg m).pduId
  flags := formatFlags cfg m len (buf 2)
  text := formatText cfg m (buf.read headerLen len)

theorem formatText_length {m len : Nat} (buf : Mem) (short : len + 15 < 65536) :
    (formatText cfg m (buf.read headerLen len)).length = formatLength cfg m len := by
  have few : paddingLen len ≤ 15 := by
    unfold paddingLen aesKeyLen
    split <;> omega
  unfold formatText formatLength
  by_cases secret : (cfg.msgCfg m).encDecFlag = true
  · rw [if_pos secret, List.length_append, read_length, List.length_replicate]
    split
    · rw [u16]
      omega
    · rename_i aligned
      simp only [secret, true_and, ne_eq, not_not] at aligned
      omega
  · rw [if_neg secret, if_neg (fun both => secret both.1), read_length]

theorem padBuffer_reads (len : Nat) (buf : Mem) :
    (padBuffer len buf) 0 = buf 0 ∧ (padBuffer len buf) 1 = buf 1 ∧
      (padBuffer len buf) 2 = (if paddingLen len ≠ 0 then
        0x80 ||| (UInt8.ofNat (paddingLen len) &&& 0x0F) else 0) ∧
      (padBuffer len buf).read headerLen (len + paddingLen len) =
        buf.read headerLen len ++ List.replicate (paddingLen len) 0 := by
  have size : headerLen = 3 := rfl
  have single : ∀ (mem : Mem) (byte : UInt8), mem.write 2 [byte] 2 = byte := fun _ _ => rfl
  have low : ∀ (mem : Mem) (byte : UInt8) (k : Nat), k < 2 → mem.write 2 [byte] k = mem k :=
    fun mem byte k small => write_outside mem 2 [byte] k (Or.inl small)
  have high : ∀ (mem : Mem) (byte : UInt8) (length : Nat),
      (mem.write 2 [byte]).read headerLen length = mem.read headerLen length :=
    fun mem byte length => read_write_after mem headerLen length 2 [byte] (Nat.le_refl 3)
  unfold padBuffer
  by_cases aligned : paddingLen len = 0
  · simp only [aligned, ne_eq, not_true_eq_false, if_false, single, low _ _ 0 (by decide),
      low _ _ 1 (by decide), high, Nat.add_zero, List.replicate_zero, List.append_nil]
    exact ⟨trivial, trivial, trivial, trivial⟩
  · have zeros : ∀ (mem : Mem), (mem.write (len + headerLen)
        (List.replicate (paddingLen len) 0)).read headerLen (len + paddingLen len) =
        mem.read headerLen len ++ List.replicate (paddingLen len) 0 := by
      intro mem
      rw [read_add, read_write_before _ _ _ _ _ (by omega), Nat.add_comm headerLen len]
      have written := read_write_same mem (len + headerLen) (List.replicate (paddingLen len) 0)
      rw [List.length_replicate] at written
      rw [written]
    have before : ∀ (mem : Mem) (k : Nat), k < 3 → mem.write (len + headerLen)
        (List.replicate (paddingLen len) 0) k = mem k :=
      fun mem k small => write_outside mem _ _ k (Or.inl (by omega))
    simp only [aligned, ne_eq, not_false_eq_true, if_true, single, low _ _ 0 (by decide),
      low _ _ 1 (by decide), before _ 0 (by decide), before _ 1 (by decide),
      before _ 2 (by decide), high, zeros]
    exact ⟨trivial, trivial, trivial, trivial⟩

theorem formatBuffer_authentic (i m : Nat) {len : Nat} (fresh buf : Mem)
    (short : len + 15 < 65536) :
    (formatBuffer cfg i m fresh len buf).read 0
      (headerLen + (formatted cfg m len buf).text.length + freshLen) =
      (formatted cfg m len buf).authentic (getTxChanId cfg m i) (fresh.read 0 freshLen) := by
  have size : headerLen = 3 := rfl
  have length : (formatted cfg m len buf).text.length = formatLength cfg m len :=
    formatText_length cfg buf short
  have count : (fresh.read 0 freshLen).length = freshLen := read_length _ _ _
  let chan := (buf.write 0 [getTxChanId cfg m i]).write 1 [(cfg.msgCfg m).pduId]
  let padded := if (cfg.msgCfg m).encDecFlag then padBuffer len chan else chan
  have text : padded.read headerLen (formatLength cfg m len) = (formatted cfg m len buf).text ∧
      padded 0 = getTxChanId cfg m i ∧ padded 1 = (cfg.msgCfg m).pduId ∧
      padded 2 = (formatted cfg m len buf).flags := by
    have payload : chan.read headerLen len = buf.read headerLen len := by
      rw [read_write_after _ _ _ _ _ (by simp [headerLen]),
        read_write_after _ _ _ _ _ (by simp [headerLen])]
    have old : chan 2 = buf 2 := rfl
    by_cases secret : (cfg.msgCfg m).encDecFlag = true
    · obtain ⟨zero, one, two, rest⟩ := padBuffer_reads len chan
      have grown : formatLength cfg m len = len + paddingLen len := by
        rw [← formatText_length cfg buf short, formatText, if_pos secret, List.length_append,
          read_length, List.length_replicate]
      simp only [padded, secret, if_true, zero, one, two, grown, rest, payload, formatted,
        formatText, formatFlags, read_length]
      exact ⟨trivial, rfl, rfl, trivial⟩
    · have same : formatLength cfg m len = len := by
        rw [← formatText_length cfg buf short, formatText, if_neg secret, read_length]
      simp only [padded, secret, Bool.false_eq_true, if_false, same, payload, formatted,
        formatText, formatFlags, old]
      exact ⟨trivial, rfl, rfl, trivial⟩
  have whole : formatBuffer cfg i m fresh len buf =
      padded.write (formatLength cfg m len + headerLen) (fresh.read 0 freshLen) := rfl
  have low : ∀ k < 3, formatBuffer cfg i m fresh len buf k = padded k := by
    intro k small
    rw [whole, write_outside _ _ _ _ (Or.inl (by omega))]
  have goal := (formatted cfg m len buf).holds_authentic_iff (formatBuffer cfg i m fresh len buf)
    (getTxChanId cfg m i) (fresh.read 0 freshLen)
  rw [count] at goal
  apply goal.mpr
  refine ⟨(low 0 (by decide)).trans text.2.1, (low 1 (by decide)).trans text.2.2.1,
    (low 2 (by decide)).trans text.2.2.2, ?_, ?_⟩
  · rw [whole, length, read_write_before _ _ _ _ _ (by omega)]
    exact text.1
  · have written := read_write_same padded (formatLength cfg m len + headerLen)
      (fresh.read 0 freshLen)
    rw [count] at written
    rw [whole, length, Nat.add_comm headerLen]
    exact written

end Format

section Seal
variable {buf : Mem} {m : Secured} {chanId : UInt8} {fresh : List UInt8}

theorem encrypted_authentic
    (holds : buf.read 0 (headerLen + m.text.length + fresh.length) = m.authentic chanId fresh)
    {cipher : List UInt8} (same : cipher.length = m.text.length) :
    (buf.write headerLen cipher).read 0 (headerLen + cipher.length + fresh.length) =
      { m with text := cipher }.authentic chanId fresh := by
  obtain ⟨zero, one, two, text, trailer⟩ := (m.holds_authentic_iff buf chanId fresh).mp holds
  have size : headerLen = 3 := rfl
  have low : ∀ k < 3, buf.write headerLen cipher k = buf k :=
    fun k small => write_outside buf headerLen cipher k (Or.inl small)
  apply (Secured.holds_authentic_iff _ { m with text := cipher } chanId fresh).mpr
  refine ⟨(low 0 (by decide)).trans zero, (low 1 (by decide)).trans one,
    (low 2 (by decide)).trans two, read_write_same _ _ _, ?_⟩
  rw [read_write_after _ _ _ _ _ (by simp), same]
  exact trailer

theorem trailer_wire
    (holds : buf.read 0 (headerLen + m.text.length + fresh.length) = m.authentic chanId fresh)
    (truncFresh : UInt8) {cmac : List UInt8} (size : cmac.length = cmacLen) :
    ((buf.write (m.text.length + headerLen) [truncFresh]).write
      (m.text.length + headerLen + 1) cmac).read chanIdLen
        (m.text.length + (appendLen + prefixLen)) = m.wire truncFresh cmac := by
  obtain ⟨_, one, two, text, _⟩ := (m.holds_authentic_iff buf chanId fresh).mp holds
  let trailed := (buf.write (m.text.length + headerLen) [truncFresh]).write
    (m.text.length + headerLen + 1) cmac
  have before : ∀ offset length, offset + length ≤ m.text.length + headerLen →
      trailed.read offset length = buf.read offset length := by
    intro offset length bound
    rw [read_write_before _ _ _ _ _ (by omega), read_write_before _ _ _ _ _ bound]
  have header : trailed.read 1 2 = [m.pduId, m.flags] := by
    rw [before 1 2 (by simp only [headerLen]; omega)]
    change [buf 1, buf 2] = _
    rw [one, two]
  have middle : trailed.read 3 m.text.length = m.text :=
    (before 3 m.text.length (by simp only [headerLen]; omega)).trans text
  have short : trailed.read (3 + m.text.length) 1 = [truncFresh] := by
    rw [read_write_before _ _ _ _ _ (by simp only [headerLen]; omega),
      show 3 + m.text.length = m.text.length + headerLen by simp only [headerLen]; omega]
    exact read_write_same buf (m.text.length + headerLen) [truncFresh]
  have last : trailed.read (3 + m.text.length + 1) 3 = cmac := by
    have written := read_write_same (buf.write (m.text.length + headerLen) [truncFresh])
      (m.text.length + headerLen + 1) cmac
    rw [size] at written
    rw [show 3 + m.text.length + 1 = m.text.length + headerLen + 1 by simp only [headerLen]; omega]
    exact written
  have pieces : trailed.read chanIdLen (m.text.length + (appendLen + prefixLen)) =
      trailed.read 1 2 ++ trailed.read 3 m.text.length ++ trailed.read (3 + m.text.length) 1 ++
        trailed.read (3 + m.text.length + 1) 3 := by
    rw [show m.text.length + (appendLen + prefixLen) = 2 + m.text.length + 1 + 3 by
      simp only [appendLen, prefixLen]; omega, read_add, read_add, read_add]
    simp only [chanIdLen, ← Nat.add_assoc]
  change trailed.read chanIdLen _ = _
  rw [pieces, header, middle, short, last]
  simp [Secured.wire]

end Seal

section Pass
variable {cfg : Config} {env : Env} {s : State} {i : Nat}

def prepare (cfg : Config) (env : Env) (i : Nat) (s : State) : State :=
  txPart2 cfg env i (s.queue i).head (txPart1 cfg env i (s.queue i).head s)

def Enciphers (cfg : Config) (env : Env) (m : Nat) (plain fresh text : List UInt8) : Prop :=
  if (cfg.msgCfg m).encDecFlag then
    ∃ log, (env.encrypt log plain fresh).1 = .ok ∧
      text = (env.encrypt log plain fresh).2.read 0 plain.length
  else text = plain

/-- The authentication of a string has ended well, with this CMAC. -/
def Tags (env : Env) (data cmac : List UInt8) : Prop :=
  ∃ log, (env.authenticate log data).1 = .ok ∧ cmac = (env.authenticate log data).2.read 0 cmacLen

structure Authenticable (s : State) (i : Nat) (msg : Secured) (chanId : UInt8)
    (fresh : List UInt8) (truncFresh : UInt8) : Prop where
  state : (s.front i).queueState = .cmacReady
  length : (s.msgTxInfo i (s.front i).msgIdx).length = msg.text.length
  holds : (s.buffer i (s.front i).msgIdx).read 0 (headerLen + msg.text.length + freshLen) =
    msg.authentic chanId fresh
  truncFresh : (s.front i).truncFresh = truncFresh

theorem formatted_front (atFront : AtFront cfg s i) {fresh : Mem} {truncFresh : UInt8}
    (given : env.txFreshness s.log = some (fresh, truncFresh)) :
    let t := (txFormatForCrypto cfg env i (s.queue i).head s).1
    AtFront cfg t i ∧ t.front i = formatEntry cfg truncFresh (s.front i) ∧
      (t.queue i).head = (s.queue i).head ∧
      t.buffer i (s.front i).msgIdx = formatBuffer cfg i (s.front i).msgIdx fresh
        (s.msgTxInfo i (s.front i).msgIdx).length (s.buffer i (s.front i).msgIdx) ∧
      (t.msgTxInfo i (s.front i).msgIdx).length =
        formatLength cfg (s.front i).msgIdx (s.msgTxInfo i (s.front i).msgIdx).length := by
  intro t
  have core := txFormatForCrypto_core atFront given
  have own : EntryOk cfg s.nextTicket i (formatEntry cfg truncFresh (s.front i)) :=
    ⟨atFront.own.anchorId, atFront.own.msgIdx, atFront.own.channel, atFront.own.ticket,
      atFront.own.broadcast⟩
  obtain ⟨front, entry, head⟩ := atFront.replaced (t := t) own (by rw [core]; rfl)
    (by rw [core]; rfl)
  refine ⟨front, entry, head, ?_, ?_⟩
  · rw [core]
    simp
  · rw [core]
    simp

theorem txPart1_unfresh (queued : (s.front i).queueState = .queued)
    (missing : env.txFreshness s.log = none) :
    txPart1 cfg env i (s.queue i).head s =
      s.setFront i { s.front i with errCounter := (s.front i).errCounter + 1 } := by
  simp [txPart1, txFormatForCrypto, missing, front_entry, queued, State.setFront]

def encryptFront (cfg : Config) (env : Env) (i : Nat) (s : State) : State :=
  let started := txStartEncryption env i (s.queue i).head s
  started.1.setEntry i (s.queue i).head
    (encryptionResult cfg started.2 (started.1.entry i (s.queue i).head))

theorem txPart1_given (atFront : AtFront cfg s i) (queued : (s.front i).queueState = .queued)
    {fresh : Mem} {truncFresh : UInt8} (given : env.txFreshness s.log = some (fresh, truncFresh)) :
    txPart1 cfg env i (s.queue i).head s =
      if (cfg.msgCfg (s.front i).msgIdx).encDecFlag then
        encryptFront cfg env i (txFormatForCrypto cfg env i (s.queue i).head s).1
      else (txFormatForCrypto cfg env i (s.queue i).head s).1 := by
  obtain ⟨_, entry, head, _, _⟩ := formatted_front atFront given
  have fine : (txFormatForCrypto cfg env i (s.queue i).head s).2 = .ok := by
    simp [txFormatForCrypto, given]
  simp only [txPart1, front_entry, queued, if_true, fine, ne_eq, not_true_eq_false, if_false]
  generalize (txFormatForCrypto cfg env i (s.queue i).head s).1 = u at *
  have place : u.entry i (s.queue i).head = formatEntry cfg truncFresh (s.front i) := by
    rw [← head]
    exact entry
  rw [place, formatEntry, encryptFront, head]
  by_cases secret : (cfg.msgCfg (s.front i).msgIdx).encDecFlag = true
  · simp [secret]
  · simp [secret]

theorem encryptFront_front (env : Env) (atFront : AtFront cfg s i) :
    let m := (s.front i).msgIdx
    let payload := (s.buffer i m).read headerLen (s.msgTxInfo i m).length
    let fresh := (s.buffer i m).read (headerLen + (s.msgTxInfo i m).length) freshLen
    let answer := env.encrypt s.log payload fresh
    let t := encryptFront cfg env i s
    t.front i = encryptionResult cfg answer.1 (s.front i) ∧ (t.queue i).head = (s.queue i).head ∧
      (t.queue i).isEmpty = false ∧ t.nextTicket = s.nextTicket ∧
      t.buffer i m = (s.buffer i m).write headerLen
        (answer.2.read 0 (s.msgTxInfo i m).length) ∧
      t.msgTxInfo = s.msgTxInfo := by
  have own := atFront.own.anchorId
  simp [encryptFront, txStartEncryption, front_entry, Core.front, Ring.front, atFront.filled]
  rw [show (s.queue i).slots (s.queue i).head = s.front i from rfl, own]
  simp

theorem txPart1_authenticable (atFront : AtFront cfg s i)
    (queued : (s.front i).queueState = .queued)
    (short : (s.msgTxInfo i (s.front i).msgIdx).length + 15 < 65536)
    (ready : ((txPart1 cfg env i (s.queue i).head s).front i).queueState = .cmacReady) :
    let m := (s.front i).msgIdx
    let plain := formatted cfg m (s.msgTxInfo i m).length (s.buffer i m)
    let t := txPart1 cfg env i (s.queue i).head s
    AtFront cfg t i ∧ (t.queue i).head = (s.queue i).head ∧
      (t.front i).ticket = (s.front i).ticket ∧ (t.front i).msgIdx = m ∧
    ∃ fresh truncFresh text, env.txFreshness s.log = some (fresh, truncFresh) ∧
      Enciphers cfg env m plain.text (fresh.read 0 freshLen) text ∧
      text.length = plain.text.length ∧
      Authenticable t i { plain with text } (getTxChanId cfg m i) (fresh.read 0 freshLen)
        truncFresh := by
  intro m plain t
  cases given : env.txFreshness s.log with
  | none =>
      rw [txPart1_unfresh queued given] at ready
      simp [Core.front, Ring.front, State.setFront] at ready
      rw [show (s.queue i).slots (s.queue i).head = s.front i from rfl, queued] at ready
      cases ready
  | some found =>
      obtain ⟨fresh, truncFresh⟩ := found
      obtain ⟨front, entry, head, buffer, length⟩ := formatted_front atFront given
      have holds := formatBuffer_authentic cfg i m fresh (s.buffer i m) short
      have plainLength : plain.text.length = formatLength cfg m (s.msgTxInfo i m).length :=
        formatText_length cfg (s.buffer i m) short
      have count : (fresh.read 0 freshLen).length = freshLen := read_length _ _ _
      have part1 : t = _ := txPart1_given atFront queued given
      generalize (txFormatForCrypto cfg env i (s.queue i).head s).1 = u at *
      have index : (u.front i).msgIdx = m := by
        rw [entry]
        rfl
      rw [← buffer] at holds
      by_cases secret : (cfg.msgCfg m).encDecFlag = true
      · rw [if_pos secret] at part1
        obtain ⟨entry', head', filled', next', buffer', info'⟩ := encryptFront_front env front
        rw [← part1] at entry' head' filled' next' buffer' info'
        simp only [index] at entry' buffer'
        obtain ⟨_, _, _, text, trailer⟩ := (plain.holds_authentic_iff (u.buffer i m)
          (getTxChanId cfg m i) (fresh.read 0 freshLen)).mp (by rw [count]; exact holds)
        rw [count] at trailer
        rw [← plainLength] at length
        rw [length, text, trailer] at entry' buffer'
        -- only a successful encryption leads on
        have done : (env.encrypt u.log plain.text (fresh.read 0 freshLen)).1 = .ok := by
          have ready : (t.front i).queueState = .cmacReady := ready
          rw [entry', entry] at ready
          cases answer : (env.encrypt u.log plain.text (fresh.read 0 freshLen)).1 with
          | ok => rfl
          | _ =>
              rw [answer] at ready
              simp [encryptionResult, formatEntry, m, secret] at ready
        rw [done] at entry'
        have own : EntryOk cfg t.nextTicket i (t.front i) := by
          rw [entry', next']
          exact ⟨front.own.anchorId, front.own.msgIdx, front.own.channel, front.own.ticket,
            front.own.broadcast⟩
        rw [entry] at entry'
        have index' : (t.front i).msgIdx = m := by
          rw [entry']
          rfl
        let cipher := (env.encrypt u.log plain.text (fresh.read 0 freshLen)).2.read 0
          plain.text.length
        have same : cipher.length = plain.text.length := read_length _ _ _
        refine ⟨⟨atFront.bound, filled', own⟩, head'.trans head, ?_, index', fresh, truncFresh,
          cipher, rfl, ?_, same, ready, ?_, ?_, ?_⟩
        · rw [entry']
          rfl
        · rw [Enciphers, if_pos secret]
          exact ⟨u.log, done, rfl⟩
        · rw [index', info', length]
          exact same.symm
        · have sealed := encrypted_authentic (by rw [count]; exact holds) same
          rw [count] at sealed
          rw [index', buffer']
          exact sealed
        · rw [entry']
          rfl
      · rw [if_neg secret] at part1
        rw [part1]
        refine ⟨front, head, by rw [entry]; rfl, index, fresh, truncFresh, plain.text, rfl, ?_,
          rfl, ?_, ?_, ?_, ?_⟩
        · rw [Enciphers, if_neg secret]
        · rw [entry]
          simp [formatEntry, m, secret]
        · rw [index, length, ← plainLength]
        · rw [index]
          exact holds
        · rw [entry]
          rfl

theorem Worked.fields {t : State} {e' : Entry} {buf' : Mem} {len' : Nat} {events : List Event}
    (worked : Worked cfg env s i t e' buf' len' events) :
    t.front i = e' ∧ (t.queue i).head = (s.queue i).head ∧
      (t.queue i).isEmpty = (s.queue i).isEmpty ∧
      t.buffer i (s.front i).msgIdx = buf' ∧ (t.msgTxInfo i (s.front i).msgIdx).length = len' ∧
      t.nextTicket = s.nextTicket ∧ t.log = s.log ++ events := by
  rw [worked.becomes]
  simp [Core.front, Ring.front, State.setFront]

/-- An entry that becomes ready to be sent has been authenticated, and its buffer holds the
string for the wire. -/
theorem Work.seals {log : List Event} {e e' : Entry} {buf buf' : Mem} {len len' : Nat}
    {events : List Event} (work : Work cfg env log i e buf len e' buf' len' events)
    (waits : e.queueState = .cmacReady) (ready : e'.queueState = .transReady) {msg : Secured}
    {chanId : UInt8} {fresh : List UInt8} (count : fresh.length = freshLen)
    (length : len = msg.text.length)
    (holds : buf.read 0 (headerLen + msg.text.length + freshLen) = msg.authentic chanId fresh)
    (short : msg.text.length + 11 < 65536) :
    ∃ cmac, cmac.length = cmacLen ∧ e' = { e with cmacValue := cmac, queueState := .transReady } ∧
      Tags env (msg.authentic chanId fresh) cmac ∧
      .authenticated e.ticket (msg.authentic chanId fresh) cmac ∈ events ∧
      .sealed e.ticket (msg.wire e.truncFresh cmac) ∈ events ∧
      buf'.read chanIdLen len' = msg.wire e.truncFresh cmac ∧
      len' = (msg.wire e.truncFresh cmac).length := by
  have sizes : headerLen = 3 ∧ freshLen = 8 ∧ appendLen = 4 ∧ prefixLen = 2 ∧ cmacLen = 3 :=
    ⟨rfl, rfl, rfl, rfl, rfl⟩
  cases work with
  | unfresh queued => simp [waits] at queued
  | formatted fresh truncFresh queued => simp [waits] at queued
  | encrypted payload fresh cipher answer secret => simp [waits] at secret
  | unauthenticated data cmac answer e' _ whole said read failed =>
      rcases failed with ⟨_, rfl⟩ | ⟨_, rfl⟩ | ⟨_, rfl⟩
      · cases ready
      · simp [waits] at ready
      · simp [waits] at ready
  | sealed data cmac answer offset buf' len' _ whole said read taken place trailer grown =>
      have size : cmac.length = cmacLen := by rw [read, read_length]
      have whole' : data = msg.authentic chanId fresh := by
        rw [whole, ← holds, length, u16]
        congr 1
        omega
      have place' : offset = msg.text.length + headerLen := by
        rw [place, length, u16]
        omega
      have grown' : len' = msg.text.length + (appendLen + prefixLen) := by
        rw [grown, length, u16]
        omega
      have wire : buf'.read chanIdLen len' = msg.wire e.truncFresh cmac := by
        rw [trailer, grown', place']
        exact trailer_wire (by rw [count]; exact holds) e.truncFresh size
      refine ⟨cmac, size, rfl, ⟨log, ?_, ?_⟩, ?_, ?_, wire, ?_⟩
      · rw [← whole', said, taken]
      · rw [← whole', read, said]
      · rw [whole']
        simp
      · rw [wire]
        simp
      · rw [grown', msg.wire_length]
        omega

theorem txPart2_seals {msg : Secured} {chanId truncFresh : UInt8} {fresh : List UInt8}
    (atFront : AtFront cfg s i) (count : fresh.length = freshLen)
    (waits : Authenticable s i msg chanId fresh truncFresh)
    (short : msg.text.length + 11 < 65536)
    (ready : ((txPart2 cfg env i (s.queue i).head s).front i).queueState = .transReady) :
    let t := txPart2 cfg env i (s.queue i).head s
    ∃ cmac events, cmac.length = cmacLen ∧ t.log = s.log ++ events ∧
      Tags env (msg.authentic chanId fresh) cmac ∧
      .authenticated (s.front i).ticket (msg.authentic chanId fresh) cmac ∈ events ∧
      .sealed (s.front i).ticket (msg.wire truncFresh cmac) ∈ events ∧
      (t.buffer i (s.front i).msgIdx).read chanIdLen
        (t.msgTxInfo i (s.front i).msgIdx).length = msg.wire truncFresh cmac ∧
      (t.msgTxInfo i (s.front i).msgIdx).length = (msg.wire truncFresh cmac).length := by
  intro t
  obtain ⟨e', buf', len', events, worked⟩ : ∃ e' buf' len' events,
      Worked cfg env s i (txPart2 cfg env i (s.queue i).head s) e' buf' len' events :=
    txPart2_worked atFront waits.state
  obtain ⟨entry, _, _, buffer, length, _, log⟩ := worked.fields
  have ready : (t.front i).queueState = .transReady := ready
  rw [entry] at ready
  obtain ⟨cmac, size, _, tags, authenticated, sealed, wire, grown⟩ :=
    worked.work.seals waits.state ready count waits.length waits.holds short
  rw [waits.truncFresh] at sealed wire grown
  refine ⟨cmac, events, size, log, tags, authenticated, sealed, ?_, ?_⟩
  · rw [buffer, length]
    exact wire
  · rw [length]
    exact grown

/-- What one cycle has made of the queued front entry of peer `i`: what is authenticated and
what goes on the wire are the two forms of one secured message, made from the stored
payload. -/
structure Prepared (cfg : Config) (env : Env) (i : Nat) (s : State) (msg : Secured) (fresh : Mem)
    (truncFresh : UInt8) (cmac : List UInt8) : Prop where
  given : env.txFreshness s.log = some (fresh, truncFresh)
  pduId : msg.pduId = (cfg.msgCfg (s.front i).msgIdx).pduId
  flags : msg.flags = formatFlags cfg (s.front i).msgIdx
    (s.msgTxInfo i (s.front i).msgIdx).length (s.buffer i (s.front i).msgIdx 2)
  text : Enciphers cfg env (s.front i).msgIdx (formatText cfg (s.front i).msgIdx
    ((s.buffer i (s.front i).msgIdx).read headerLen (s.msgTxInfo i (s.front i).msgIdx).length))
    (fresh.read 0 freshLen) msg.text
  length : msg.text.length = formatLength cfg (s.front i).msgIdx
    (s.msgTxInfo i (s.front i).msgIdx).length
  tag : cmac.length = cmacLen
  tags : Tags env (msg.authentic (getTxChanId cfg (s.front i).msgIdx i) (fresh.read 0 freshLen))
    cmac
  asked : authenticString (txPart1 cfg env i (s.queue i).head s) i =
    msg.authentic (getTxChanId cfg (s.front i).msgIdx i) (fresh.read 0 freshLen)
  authenticated : .authenticated (s.front i).ticket (msg.authentic
    (getTxChanId cfg (s.front i).msgIdx i) (fresh.read 0 freshLen)) cmac ∈ (prepare cfg env i s).log
  sealed : .sealed (s.front i).ticket (msg.wire truncFresh cmac) ∈ (prepare cfg env i s).log
  wire : ((prepare cfg env i s).buffer i (s.front i).msgIdx).read chanIdLen
    ((prepare cfg env i s).msgTxInfo i (s.front i).msgIdx).length = msg.wire truncFresh cmac
  stored : ((prepare cfg env i s).msgTxInfo i (s.front i).msgIdx).length =
    (msg.wire truncFresh cmac).length

theorem Authenticable.asked {msg : Secured} {chanId truncFresh : UInt8} {fresh : List UInt8}
    (waits : Authenticable s i msg chanId fresh truncFresh)
    (short : msg.text.length + 11 < 65536) : authenticString s i = msg.authentic chanId fresh := by
  have sizes : headerLen = 3 ∧ freshLen = 8 := ⟨rfl, rfl⟩
  rw [authenticString, waits.length, ← waits.holds, u16]
  congr 1
  omega

theorem formatLength_bound (cfg : Config) (m len : Nat) : formatLength cfg m len ≤ len + 15 := by
  have few : paddingLen len ≤ 15 := by
    unfold paddingLen aesKeyLen
    split <;> omega
  unfold formatLength u16
  split <;> omega

theorem txPart1_before (env : Env) (atFront : AtFront cfg s i)
    (queued : (s.front i).queueState = .queued) :
    ((txPart1 cfg env i (s.queue i).head s).queue i).head = (s.queue i).head ∧
      ((txPart1 cfg env i (s.queue i).head s).front i).queueState ≠ .transReady := by
  cases given : env.txFreshness s.log with
  | none =>
      rw [txPart1_unfresh queued given]
      simp [Core.front, Ring.front, State.setFront]
      rw [show (s.queue i).slots (s.queue i).head = s.front i from rfl, queued]
      simp
  | some found =>
      obtain ⟨fresh, truncFresh⟩ := found
      obtain ⟨front, entry, head, _, _⟩ := formatted_front atFront given
      rw [txPart1_given atFront queued given]
      generalize (txFormatForCrypto cfg env i (s.queue i).head s).1 = u at *
      split
      · rename_i secret
        obtain ⟨entry', head', _⟩ := encryptFront_front env front
        refine ⟨head'.trans head, ?_⟩
        rw [entry', entry]
        generalize (env.encrypt _ _ _).1 = answer
        cases answer <;> simp [encryptionResult, formatEntry, secret]
      · rename_i clear
        refine ⟨head, ?_⟩
        rw [entry]
        simp [formatEntry, clear]

theorem txPart2_ready (before : (s.front i).queueState ≠ .transReady)
    (ready : ((txPart2 cfg env i (s.queue i).head s).front i).queueState = .transReady) :
    (s.front i).queueState = .cmacReady := by
  by_contra other
  rw [txPart2_other other] at ready
  exact before ready

theorem prepare_first (atFront : AtFront cfg s i) (queued : (s.front i).queueState = .queued)
    (ready : ((prepare cfg env i s).front i).queueState = .transReady) :
    ((txPart1 cfg env i (s.queue i).head s).front i).queueState = .cmacReady := by
  obtain ⟨head, before⟩ := txPart1_before env atFront queued
  have ready' : ((txPart2 cfg env i ((txPart1 cfg env i (s.queue i).head s).queue i).head
      (txPart1 cfg env i (s.queue i).head s)).front i).queueState = .transReady := by
    rw [head]
    exact ready
  exact txPart2_ready before ready'

/-- The neighbours answer what is asked of them for the front entry of peer `i` at once: there is
a freshness value for it, an encrypted message is encrypted well, and it is authenticated well. -/
structure Answered (cfg : Config) (env : Env) (s : State) (i : Nat) : Prop where
  fresh : (env.txFreshness s.log).isSome = true
  encrypts : (cfg.msgCfg (s.front i).msgIdx).encDecFlag = true →
    ∀ events plain fresh, (env.encrypt (s.log ++ events) plain fresh).1 = .ok
  authenticates : ∀ events data, (env.authenticate (s.log ++ events) data).1 = .ok

theorem txPart1_log (env : Env) (atFront : AtFront cfg s i)
    (queued : (s.front i).queueState = .queued) :
    ∃ events, (txPart1 cfg env i (s.queue i).head s).log = s.log ++ events := by
  rcases @txPart1_worked cfg env s i atFront queued with ⟨_, _, _, events, worked⟩ |
    ⟨u, _, _, _, events, first, _, _, _, _, _, events', second⟩
  · exact ⟨events, worked.fields.2.2.2.2.2.2⟩
  · refine ⟨events ++ events', ?_⟩
    rw [second.fields.2.2.2.2.2.2, first.fields.2.2.2.2.2.2, List.append_assoc]

theorem txPart1_answered (atFront : AtFront cfg s i) (queued : (s.front i).queueState = .queued)
    (answered : Answered cfg env s i) :
    ((txPart1 cfg env i (s.queue i).head s).front i).queueState = .cmacReady := by
  obtain ⟨⟨fresh, truncFresh⟩, given⟩ := Option.isSome_iff_exists.mp answered.fresh
  obtain ⟨front, entry, _, _, _⟩ := formatted_front atFront given
  have log := congrArg Core.log (txFormatForCrypto_core atFront given)
  rw [txPart1_given atFront queued given]
  generalize (txFormatForCrypto cfg env i (s.queue i).head s).1 = u at *
  split
  · rename_i secret
    obtain ⟨entry', _⟩ := encryptFront_front env front
    rw [entry', show u.log = s.log ++ _ from log, answered.encrypts secret]
    rfl
  · rename_i clear
    rw [entry]
    simp [formatEntry, clear]

theorem Work.answered {log : List Event} {e e' : Entry} {buf buf' : Mem} {len len' : Nat}
    {events : List Event} (work : Work cfg env log i e buf len e' buf' len' events)
    (waits : e.queueState = .cmacReady)
    (authenticates : ∀ data, (env.authenticate log data).1 = .ok) :
    e'.queueState = .transReady := by
  cases work with
  | unfresh queued => simp [waits] at queued
  | formatted fresh truncFresh queued => simp [waits] at queued
  | encrypted payload fresh cipher answer secret => simp [waits] at secret
  | unauthenticated data cmac answer e' _ whole said read failed =>
      rw [← said, authenticates] at failed
      simp at failed
  | sealed => rfl

theorem prepare_ready (atFront : AtFront cfg s i) (queued : (s.front i).queueState = .queued)
    (short : (s.msgTxInfo i (s.front i).msgIdx).length + 15 < 65536)
    (answered : Answered cfg env s i) :
    ((prepare cfg env i s).front i).queueState = .transReady := by
  have first := txPart1_answered atFront queued answered
  obtain ⟨events, log⟩ := txPart1_log env atFront queued
  obtain ⟨front, head, _⟩ := txPart1_authenticable atFront queued short first
  obtain ⟨e', buf', len', events', worked⟩ := @txPart2_worked cfg env _ i front first
  rw [head] at worked
  change ((txPart2 cfg env i (s.queue i).head
    (txPart1 cfg env i (s.queue i).head s)).front i).queueState = .transReady
  rw [worked.fields.1]
  apply worked.work.answered first
  intro data
  rw [log]
  exact answered.authenticates events data

theorem prepare_seals (atFront : AtFront cfg s i) (queued : (s.front i).queueState = .queued)
    (short : (s.msgTxInfo i (s.front i).msgIdx).length + 26 < 65536)
    (ready : ((prepare cfg env i s).front i).queueState = .transReady) :
    ∃ msg fresh truncFresh cmac, Prepared cfg env i s msg fresh truncFresh cmac := by
  have first := prepare_first atFront queued ready
  obtain ⟨front, head, ticket, index, fresh, truncFresh, text, given, enciphers, same, waits⟩ :=
    txPart1_authenticable atFront queued (by omega) first
  have again : prepare cfg env i s =
      txPart2 cfg env i ((txPart1 cfg env i (s.queue i).head s).queue i).head
        (txPart1 cfg env i (s.queue i).head s) := by
    rw [head]
    rfl
  have length : text.length = formatLength cfg (s.front i).msgIdx
      (s.msgTxInfo i (s.front i).msgIdx).length :=
    same.trans (formatText_length cfg _ (by omega))
  have few := formatLength_bound cfg (s.front i).msgIdx (s.msgTxInfo i (s.front i).msgIdx).length
  rw [again] at ready
  have asked := waits.asked (by simp only; omega)
  obtain ⟨cmac, events, size, log, tags, authenticated, sealed, wire, grown⟩ :=
    txPart2_seals front (read_length _ _ _) waits (by simp only; omega) ready
  rw [← again, index] at wire grown
  rw [← again] at log
  rw [ticket] at authenticated sealed
  refine ⟨{ formatted cfg (s.front i).msgIdx (s.msgTxInfo i (s.front i).msgIdx).length
    (s.buffer i (s.front i).msgIdx) with text }, fresh, truncFresh, cmac, given, rfl,
    rfl, enciphers,
    length, size, tags, asked, ?_, ?_, wire, grown⟩
  · rw [log]
    exact List.mem_append_right _ authenticated
  · rw [log]
    exact List.mem_append_right _ sealed

end Pass

end AnchorNode.AnchorCom.Tx

namespace AnchorNode.AnchorCom.Rx

open AnchorNode.Lib

variable {cfg : Config} {env : Env} {j : Job} {m : Secured}

structure Job.Received (j : Job) (bytes : List UInt8) : Prop where
  state : j.entry.queueState = .queued
  dataLen : j.entry.dataLen = chanIdLen + bytes.length
  bytes : j.buffer.read chanIdLen bytes.length = bytes

theorem rxFormatForCmac_received {truncFresh : UInt8} {cmac : List UInt8}
    (size : cmac.length = cmacLen) (received : j.Received (m.wire truncFresh cmac))
    (known : findIdx cfg m.pduId < cfg.numMsg) {fresh : Mem}
    (given : env.rxFreshness j.log truncFresh = some fresh)
    (short : m.text.length + 11 < 65536) :
    ∃ buffer, rxFormatForCmac cfg env j =
      ({ j with
        entry := { j.entry with
          msgIdx := findIdx cfg m.pduId
          truncFresh
          cmacValue := cmac
          dataLen := headerLen + m.text.length + freshLen
          queueState := .cmacReady }
        buffer }, .ok) ∧
      buffer.read 0 (headerLen + m.text.length + freshLen) = m.authentic
        (getRxChanId cfg (findIdx cfg m.pduId) j.entry.anchorId) (fresh.read 0 freshLen) := by
  have sizes : headerLen = 3 ∧ appendLen = 4 ∧ chanIdLen = 1 ∧ cmacLen = 3 ∧ prefixLen = 2 ∧
    freshLen = 8 := ⟨rfl, rfl, rfl, rfl, rfl, rfl⟩
  have whole := m.wire_length truncFresh cmac
  have dataLen := received.dataLen
  have bytes := received.bytes
  have slices := read_slice bytes
  -- the parts of the message in the buffer
  have header : j.buffer.read 1 2 = [m.pduId, m.flags] := by
    have part := slices 0 2 (by omega)
    simpa [sizes.2.2.1, Secured.wire] using part
  have pdu : j.buffer 1 = m.pduId ∧ j.buffer 2 = m.flags := by
    have both : [j.buffer 1, j.buffer 2] = [m.pduId, m.flags] := header
    simpa using both
  have text : j.buffer.read 3 m.text.length = m.text := by
    have part := slices 2 m.text.length (by omega)
    simpa [sizes.2.2.1, Secured.wire] using part
  have trunc : j.buffer (m.text.length + 3) = truncFresh := by
    have part := slices (2 + m.text.length) 1 (by omega)
    have single : j.buffer.read (chanIdLen + (2 + m.text.length)) 1 =
        [j.buffer (m.text.length + 3)] := by
      rw [show chanIdLen + (2 + m.text.length) = m.text.length + 3 by omega]
      rfl
    rw [single] at part
    simpa [Secured.wire, Nat.add_comm 2] using part
  have tag : j.buffer.read (m.text.length + 4) cmacLen = cmac := by
    have part := slices (3 + m.text.length) 3 (by omega)
    rw [show chanIdLen + (3 + m.text.length) = m.text.length + 4 by omega] at part
    rw [sizes.2.2.2.1, part]
    have rest : (m.wire truncFresh cmac).drop (3 + m.text.length) = cmac := by
      simp [Secured.wire, Nat.add_comm 3]
    rw [rest, List.take_of_length_le (by omega)]
  have length : j.entry.dataLen = m.text.length + 7 := by omega
  have enough : j.entry.dataLen > 4 := by omega
  have known' : findIdx cfg (j.buffer chanIdLen) = findIdx cfg m.pduId := by
    rw [sizes.2.2.1, pdu.1]
  refine ⟨(j.buffer.write 0 [getRxChanId cfg (findIdx cfg m.pduId) j.entry.anchorId]).write
    (m.text.length + 3) (fresh.read 0 freshLen), ?_, ?_⟩
  · have place : j.entry.dataLen - appendLen = m.text.length + 3 := by omega
    have tagPlace : j.entry.dataLen - cmacLen = m.text.length + 4 := by omega
    have grown : u16 (j.entry.dataLen + appendLen) = headerLen + m.text.length + freshLen := by
      rw [u16]
      omega
    unfold rxFormatForCmac
    simp only [known', known, if_true, enough, place, tagPlace, trunc, tag, given, grown]
  · have count : (fresh.read 0 freshLen).length = freshLen := read_length _ _ _
    have goal := m.holds_authentic_iff
      ((j.buffer.write 0 [getRxChanId cfg (findIdx cfg m.pduId) j.entry.anchorId]).write
        (m.text.length + 3) (fresh.read 0 freshLen))
      (getRxChanId cfg (findIdx cfg m.pduId) j.entry.anchorId) (fresh.read 0 freshLen)
    rw [count] at goal
    apply goal.mpr
    have low : ∀ k < 3, ((j.buffer.write 0
        [getRxChanId cfg (findIdx cfg m.pduId) j.entry.anchorId]).write (m.text.length + 3)
        (fresh.read 0 freshLen)) k = (j.buffer.write 0
        [getRxChanId cfg (findIdx cfg m.pduId) j.entry.anchorId]) k :=
      fun k small => write_outside _ _ _ k (Or.inl (by omega))
    refine ⟨low 0 (by decide), (low 1 (by decide)).trans pdu.1,
      (low 2 (by decide)).trans pdu.2, ?_, ?_⟩
    · rw [read_write_before _ _ _ _ _ (by omega), read_write_after _ _ _ _ _ (by simp; omega)]
      exact text
    · have written := read_write_same (j.buffer.write 0
        [getRxChanId cfg (findIdx cfg m.pduId) j.entry.anchorId]) (m.text.length + 3)
        (fresh.read 0 freshLen)
      rw [count] at written
      rw [Nat.add_comm headerLen]
      exact written

end AnchorNode.AnchorCom.Rx
