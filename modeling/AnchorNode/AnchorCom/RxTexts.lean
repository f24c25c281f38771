import AnchorNode.Lib.Observer
import AnchorNode.AnchorCom.RxBuffers

/-! What a received message says: the bytes it arrived with and, as its payload is decrypted
in place, the text it holds now. -/

namespace AnchorNode.AnchorCom.Rx

open AnchorNode.Lib

/-- A message that has arrived from a peer, the current text of its payload, and whether it has
been decrypted well. -/
structure Text where
  peer : Nat
  bytes : List UInt8
  plain : List UInt8
  opened : Bool
  deriving DecidableEq

/-- The payload of a complete message, between its header and its trailer. -/
def body (bytes : List UInt8) : List UInt8 :=
  (bytes.drop headerLen).take (bytes.length - (headerLen + appendLen))

def headerPdu (bytes : List UInt8) : UInt8 := bytes.getD 1 0

def paddingLen (bytes : List UInt8) : Nat := (bytes.getD 2 0 &&& 0x0F).toNat

namespace Text

def msgIdx (cfg : Config) (t : Text) : Nat := findIdx cfg (headerPdu t.bytes)

def isEncrypted (cfg : Config) (t : Text) : Bool := (cfg.msgCfg (t.msgIdx cfg)).encDecFlag

/-- What the application is to receive: an encrypted message has lost its padding. -/
def content (cfg : Config) (t : Text) : List UInt8 :=
  if t.isEncrypted cfg then t.plain.take (t.plain.length - paddingLen t.bytes) else t.plain

end Text

abbrev Texts := Nat → Option Text

def trackText (texts : Texts) : Event → Texts
  | .arrived k _ i bytes => Function.update texts k (some ⟨i, bytes, body bytes, false⟩)
  | .decrypted k _ _ _ plain result =>
    Function.update texts k
      ((texts k).map fun t => { t with plain, opened := decide (result = .ok) })
  | _ => texts

def textsOf (log : List Event) : Texts := log.foldl trackText fun _ => none

/-- A message arrives once. An encrypted one is decrypted from the text it holds to what the
cipher answers, until that is done well. It is delivered as the message of its peer with the PDU
and the content it has, after it has been decrypted if it is encrypted. -/
def textAllowed (cfg : Config) (env : Env) (log : List Event) : Event → Prop
  | .arrived k _ _ _ => textsOf log k = none
  | .decrypted k i payload fresh plain result => ∃ t, textsOf log k = some t ∧ t.peer = i ∧
      t.isEncrypted cfg = true ∧ t.opened = false ∧ t.plain = payload ∧
      (env.decrypt log payload fresh).1 = result ∧
      (env.decrypt log payload fresh).2.read 0 payload.length = plain
  | .delivered k i pduId payload => ∃ t, textsOf log k = some t ∧ t.peer = i ∧
      headerPdu t.bytes = pduId ∧ t.opened = t.isEncrypted cfg ∧ t.content cfg = payload
  | _ => True

/-- Every message of the log keeps its text until it is delivered. -/
def Faithful (cfg : Config) (env : Env) (log : List Event) : Prop :=
  Recorded (textAllowed cfg env) log

theorem textsOf_append (log : List Event) (e : Event) :
    textsOf (log ++ [e]) = trackText (textsOf log) e := by
  simp [textsOf]

theorem textsOf_work {log events : List Event} {ticket peer : Nat}
    (work : ∀ e ∈ events, e.isWork ticket peer = true) {k : Nat} (other : k ≠ ticket) :
    textsOf (log ++ events) k = textsOf log k := by
  induction events generalizing log with
  | nil => rw [List.append_nil]
  | cons e es ih =>
      have first : trackText (textsOf log) e k = textsOf log k := by
        have this := work e (by simp)
        cases e with
        | decrypted k' =>
            have same : k' = ticket := by
              simp only [Event.isWork, Bool.and_eq_true, beq_iff_eq] at this
              exact this.1
            rw [trackText, Function.update_of_ne (same ▸ other)]
        | arrived => cases this
        | _ => rfl
      have rest := @ih (log ++ [e]) fun f member => work f (by simp [member])
      rw [List.append_assoc, List.singleton_append] at rest
      rw [rest, textsOf_append, first]

section Arithmetic

theorem sub16_of_le {n m : Nat} (le : m ≤ n) (bound : n < 65536) : sub16 n m = n - m := by
  unfold sub16
  omega

theorem paddingLen_le (bytes : List UInt8) : paddingLen bytes ≤ 15 := by
  unfold paddingLen
  rw [UInt8.toNat_and]
  exact Nat.and_le_right

end Arithmetic

/-- A message that is long enough for its header and its trailer, and whose text is as long
as its payload. -/
structure Text.Sound (t : Text) : Prop where
  long : headerLen + appendLen < t.bytes.length
  short : t.bytes.length < 65536
  plain : t.plain.length + (headerLen + appendLen) = t.bytes.length

theorem body_length {bytes : List UInt8} (long : headerLen + appendLen < bytes.length) :
    (body bytes).length + (headerLen + appendLen) = bytes.length := by
  have sizes : headerLen = 3 ∧ appendLen = 4 := ⟨rfl, rfl⟩
  rw [body, List.length_take, List.length_drop]
  omega

structure Laid (cfg : Config) (m : Nat) (buffer : Mem) (t : Text) : Prop where
  known : m < cfg.numMsg
  msgIdx : m = t.msgIdx cfg
  padding : buffer 2 = t.bytes.getD 2 0
  plain : buffer.read headerLen t.plain.length = t.plain

/-- What the state of an entry says about its buffer. -/
def Stage (cfg : Config) (e : Entry) (buffer : Mem) (t : Text) : Prop :=
  match e.queueState with
  | .queued => e.dataLen = t.bytes.length ∧ buffer.read 0 t.bytes.length = t.bytes ∧
      t.plain = body t.bytes ∧ t.opened = false
  | .cmacReady | .cmacRunning =>
    Laid cfg e.msgIdx buffer t ∧ e.dataLen = u16 (t.bytes.length + appendLen) ∧ t.opened = false
  | .decReady | .decRunning => Laid cfg e.msgIdx buffer t ∧ e.dataLen = t.bytes.length - appendLen ∧
      t.isEncrypted cfg = true ∧ t.opened = false
  | .processReady | .processDone => Laid cfg e.msgIdx buffer t ∧
      e.dataLen = headerLen + (t.content cfg).length ∧ t.opened = t.isEncrypted cfg
  | .idle => False

structure Holds (cfg : Config) (e : Entry) (buffer : Mem) (t : Text) : Prop where
  peer : t.peer = e.anchorId
  sound : t.Sound
  stage : Stage cfg e buffer t

/-- A job on a message whose log is faithful so far. -/
def Job.Honest (cfg : Config) (env : Env) (j : Job) : Prop :=
  Faithful cfg env j.log ∧ ∃ t, textsOf j.log j.entry.ticket = some t ∧ Holds cfg j.entry j.buffer t

theorem findIdx_pduId {cfg : Config} {pduId : UInt8} (known : findIdx cfg pduId < cfg.numMsg) :
    (cfg.msgCfg (findIdx cfg pduId)).pduId = pduId := by
  unfold findIdx at known ⊢
  cases found : (List.range cfg.numMsg).find? fun m => (cfg.msgCfg m).pduId == pduId with
  | none =>
      rw [found] at known
      simp at known
  | some m =>
      have hit := List.find?_some found
      simpa using hit

section Parts
variable {cfg : Config} {j : Job} (env : Env)

omit env in
theorem laid_formatted {m : Nat} {t : Text} {buffer fresh : Mem} (sound : t.Sound)
    (bytes : buffer.read 0 t.bytes.length = t.bytes) (plain : t.plain = body t.bytes)
    (known : m < cfg.numMsg) (msgIdx : m = t.msgIdx cfg) (chanId : UInt8) :
    Laid cfg m ((buffer.write 0 [chanId]).write (t.bytes.length - appendLen)
      (fresh.read 0 freshLen)) t := by
  have sizes : headerLen = 3 ∧ appendLen = 4 := ⟨rfl, rfl⟩
  have long := sound.long
  have length := sound.plain
  refine ⟨known, msgIdx, ?_, ?_⟩
  · rw [write_outside _ _ _ _ (Or.inl (by omega)), write_outside _ _ _ _ (Or.inr (by simp))]
    exact read_getD bytes (by omega)
  · rw [read_write_before _ _ _ _ _ (by omega), read_write_after _ _ _ _ _ (by simp; omega)]
    have slice := read_slice bytes headerLen t.plain.length (by omega)
    rw [Nat.zero_add] at slice
    rw [slice]
    nth_rewrite 2 [plain]
    rw [body, show t.plain.length = t.bytes.length - (headerLen + appendLen) by omega]

theorem rxPrepare_honest (honest : j.Honest cfg env) : (rxPrepare cfg env j).Honest cfg env := by
  obtain ⟨faithful, t, text, holds⟩ := honest
  have sizes : headerLen = 3 ∧ appendLen = 4 := ⟨rfl, rfl⟩
  unfold rxPrepare
  by_cases queued : j.entry.queueState = .queued
  · have stage := holds.stage
    simp only [Stage, queued] at stage
    obtain ⟨dataLen, bytes, plain, unopened⟩ := stage
    have pdu : j.buffer chanIdLen = headerPdu t.bytes :=
      read_getD bytes (by have := holds.sound.long; simp only [chanIdLen]; omega)
    -- what fails leaves the buffer and the length alone
    have again : ∀ e : Entry, e.queueState = .queued → e.dataLen = j.entry.dataLen →
        e.anchorId = j.entry.anchorId → Holds cfg e j.buffer t := by
      intro e state same peer
      refine ⟨holds.peer.trans peer.symm, holds.sound, ?_⟩
      simp only [Stage, state]
      exact ⟨same.trans dataLen, bytes, plain, unopened⟩
    rw [if_pos queued]
    unfold rxFormatForCmac
    by_cases known : findIdx cfg (j.buffer chanIdLen) < cfg.numMsg
    · have trailer : j.entry.dataLen > 4 := by
        have := holds.sound.long
        omega
      simp only [known, if_true, trailer]
      split
      · rename_i fresh _
        simp only [ne_eq, not_true_eq_false, if_false]
        refine ⟨faithful, t, text, holds.peer, holds.sound, ?_⟩
        simp only [Stage, dataLen]
        have place : findIdx cfg (j.buffer chanIdLen) = t.msgIdx cfg := by rw [pdu, Text.msgIdx]
        exact ⟨laid_formatted holds.sound bytes plain known place _, trivial, unopened⟩
      · simp only [ne_eq, reduceCtorEq, not_false_eq_true, if_true]
        exact ⟨faithful, t, text, again _ queued rfl rfl⟩
    · simp only [known, if_false, ne_eq, reduceCtorEq, not_false_eq_true, if_true]
      exact ⟨faithful, t, text, again _ queued rfl rfl⟩
  · rw [if_neg queued]
    exact ⟨faithful, t, text, holds⟩

theorem Job.Honest.failure {running : RxQueueState} (honest : j.Honest cfg env)
    (goesOn : ∀ t, Stage cfg j.entry j.buffer t →
      Stage cfg { j.entry with queueState := running } j.buffer t) (result : Result) :
    (j.setEntry (Rx.failure cfg running result j.entry)).Honest cfg env := by
  obtain ⟨faithful, t, text, holds⟩ := honest
  cases result with
  | pending => exact ⟨faithful, t, text, holds.peer, holds.sound, goesOn t holds.stage⟩
  | _ => exact ⟨faithful, t, text, holds.peer, holds.sound, holds.stage⟩

theorem rxStartCmac_honest (honest : j.Honest cfg env) : (rxStartCmac env j).1.Honest cfg env := by
  obtain ⟨faithful, t, text, holds⟩ := honest
  refine ⟨recorded_append.mpr ⟨faithful, trivial⟩, t, ?_, holds⟩
  rw [← text]
  simp only [rxStartCmac, Job.emit, textsOf_append, trackText]

theorem rxPart1_honest (honest : j.Honest cfg env) : (rxPart1 cfg env j).Honest cfg env := by
  have prepared := rxPrepare_honest env honest
  unfold rxPart1
  by_cases ready : (rxPrepare cfg env j).entry.queueState = .cmacReady
  · obtain ⟨faithful, t, text, holds⟩ := rxStartCmac_honest env prepared
    have same : (rxStartCmac env (rxPrepare cfg env j)).1.entry = (rxPrepare cfg env j).entry := rfl
    have stage := holds.stage
    simp only [Stage, same, ready] at stage
    obtain ⟨laid, dataLen, unopened⟩ := stage
    have sizes : headerLen = 3 ∧ appendLen = 4 ∧ freshLen = 8 := ⟨rfl, rfl, rfl⟩
    have long := holds.sound.long
    have short := holds.sound.short
    have length := holds.sound.plain
    simp only [ready, if_true]
    by_cases done : (rxStartCmac env (rxPrepare cfg env j)).2 = .ok
    · rw [if_pos done]
      refine ⟨faithful, t, text, holds.peer, holds.sound, ?_⟩
      have trimmed : sub16 (rxPrepare cfg env j).entry.dataLen freshLen =
          t.bytes.length - appendLen := by
        rw [dataLen, sub16, u16]
        omega
      have flag : (cfg.msgCfg (rxPrepare cfg env j).entry.msgIdx).encDecFlag =
          t.isEncrypted cfg := by rw [laid.msgIdx, Text.isEncrypted]
      by_cases encrypted : t.isEncrypted cfg = true
      · simp only [Stage, Job.setEntry, same, flag, encrypted, if_true]
        exact ⟨laid, trimmed, trivial, unopened⟩
      · simp only [Stage, Job.setEntry, same, flag, encrypted, Bool.false_eq_true, if_false]
        have clear : t.content cfg = t.plain := by rw [Text.content, if_neg encrypted]
        refine ⟨laid, ?_, ?_⟩
        · rw [trimmed, clear]
          omega
        · rw [unopened]
    · rw [if_neg done]
      apply (rxStartCmac_honest env prepared).failure
      intro u stage
      simp only [Stage, same, ready] at stage
      exact stage
  · simp only [ready, if_false]
    exact prepared

/-- The decryption works on whole blocks of the cipher. -/
def DecryptsBlocks (env : Env) : Prop :=
  ∀ log payload fresh, (env.decrypt log payload fresh).1 = .ok → payload.length % aesKeyLen = 0

theorem rxStartDecryption_text (honest : j.Honest cfg env)
    (ready : j.entry.queueState = .decReady) :
    let started := rxStartDecryption env j
    started.1.entry = j.entry ∧ Faithful cfg env started.1.log ∧
    ∃ t, textsOf started.1.log j.entry.ticket = some t ∧ t.peer = j.entry.anchorId ∧ t.Sound ∧
      Laid cfg j.entry.msgIdx started.1.buffer t ∧
      j.entry.dataLen = t.bytes.length - appendLen ∧ t.isEncrypted cfg = true ∧
      t.opened = decide (started.2 = .ok) := by
  obtain ⟨faithful, t, text, holds⟩ := honest
  have stage := holds.stage
  simp only [Stage, ready] at stage
  obtain ⟨laid, dataLen, encrypted, unopened⟩ := stage
  have sizes : headerLen = 3 ∧ appendLen = 4 := ⟨rfl, rfl⟩
  have short := holds.sound.short
  have length := holds.sound.plain
  have payloadLen : sub16 j.entry.dataLen headerLen = t.plain.length := by
    rw [dataLen, sub16_of_le (by omega) (by omega)]
    omega
  let answer := env.decrypt j.log t.plain (j.buffer.read (headerLen + t.plain.length) freshLen)
  let plain := answer.2.read 0 t.plain.length
  have started : rxStartDecryption env j =
      ({ entry := j.entry
         buffer := j.buffer.write headerLen plain
         log := j.log ++ [.decrypted j.entry.ticket j.entry.anchorId t.plain
           (j.buffer.read (headerLen + t.plain.length) freshLen) plain answer.1] }, answer.1) := by
    simp only [rxStartDecryption, payloadLen, laid.plain, Job.emit, answer, plain]
  have same : plain.length = t.plain.length := read_length _ _ _
  rw [started]
  refine ⟨rfl, recorded_append.mpr ⟨faithful, t, text, holds.peer, encrypted, unopened, rfl, rfl,
    rfl⟩, { t with plain, opened := decide (answer.1 = .ok) }, ?_, holds.peer,
    ⟨holds.sound.long, short, ?_⟩, ⟨laid.known, laid.msgIdx, ?_, read_write_same _ _ _⟩, dataLen,
    encrypted, rfl⟩
  · simp only [textsOf_append, trackText, Function.update_self, text, Option.map_some]
  · exact same ▸ length
  · have header : j.buffer.write headerLen plain 2 = j.buffer 2 :=
      write_outside _ _ _ _ (Or.inl (by omega))
    exact header.trans laid.padding

theorem rxPart2_honest (blocks : DecryptsBlocks env) (honest : j.Honest cfg env) :
    (rxPart2 cfg env j).Honest cfg env := by
  unfold rxPart2
  by_cases ready : j.entry.queueState = .decReady
  · obtain ⟨same, faithful, t, text, peer, sound, laid, dataLen, encrypted, opened⟩ :=
      rxStartDecryption_text env honest ready
    have sizes : headerLen = 3 ∧ appendLen = 4 ∧ aesKeyLen = 16 := ⟨rfl, rfl, rfl⟩
    have long := sound.long
    have short := sound.short
    have length := sound.plain
    simp only [ready, if_true]
    by_cases done : (rxStartDecryption env j).2 = .ok
    · rw [if_pos done]
      refine ⟨faithful, t, text, peer, sound, ?_⟩
      have whole := blocks _ _ _ done
      rw [read_length, dataLen, sub16_of_le (by omega) (by omega), sizes.2.2] at whole
      have padding : ((rxStartDecryption env j).1.buffer 2 &&& 0x0F).toNat =
          paddingLen t.bytes := by
        rw [laid.padding, paddingLen]
      have few := paddingLen_le t.bytes
      have enough : paddingLen t.bytes ≤ t.plain.length := by omega
      have content : t.content cfg = t.plain.take (t.plain.length - paddingLen t.bytes) := by
        rw [Text.content, if_pos encrypted]
      rw [done, decide_eq_true rfl, ← encrypted] at opened
      simp only [Stage, Job.setEntry, same]
      refine ⟨laid, ?_, opened⟩
      rw [padding, dataLen, sub16_of_le (by omega) (by omega), content, List.length_take]
      omega
    · rw [if_neg done]
      rw [decide_eq_false done] at opened
      have stage : Stage cfg (rxStartDecryption env j).1.entry (rxStartDecryption env j).1.buffer
          t := by
        simp only [Stage, same, ready]
        exact ⟨laid, dataLen, encrypted, opened⟩
      have again : (rxStartDecryption env j).1.Honest cfg env :=
        ⟨faithful, t, text, peer, sound, stage⟩
      apply again.failure
      intro u stage
      simp only [Stage, same, ready] at stage
      exact stage
  · rw [if_neg ready]
    exact honest

omit env in
theorem Text.content_prefix (cfg : Config) (t : Text) :
    t.plain.take (t.content cfg).length = t.content cfg := by
  unfold Text.content
  split
  · rw [List.length_take, List.take_eq_take_iff]
    omega
  · exact List.take_length

omit env in
theorem Laid.content {m : Nat} {buffer : Mem} {t : Text} (laid : Laid cfg m buffer t) :
    buffer.read headerLen (t.content cfg).length = t.content cfg := by
  have short : (t.content cfg).length ≤ t.plain.length := by
    rw [← t.content_prefix cfg, List.length_take]
    exact Nat.min_le_right _ _
  have slice := read_slice laid.plain 0 (t.content cfg).length (by omega)
  rw [Nat.add_zero, List.drop_zero] at slice
  rw [slice, t.content_prefix]

theorem rxDistributeMsg_honest (honest : j.Honest cfg env)
    (ready : j.entry.queueState = .processReady) :
    (rxDistributeMsg cfg j).1.Honest cfg env := by
  obtain ⟨faithful, t, text, holds⟩ := honest
  have stage := holds.stage
  simp only [Stage, ready] at stage
  obtain ⟨laid, dataLen, opened⟩ := stage
  have short : (t.content cfg).length ≤ t.plain.length := by
    rw [← t.content_prefix cfg, List.length_take]
    exact Nat.min_le_right _ _
  have sizes : headerLen = 3 ∧ appendLen = 4 := ⟨rfl, rfl⟩
  have bound := holds.sound.short
  have length := holds.sound.plain
  have payloadLen : sub16 j.entry.dataLen headerLen = (t.content cfg).length := by
    rw [dataLen, sub16_of_le (by omega) (by omega)]
    omega
  unfold rxDistributeMsg
  simp only
  split
  · refine ⟨recorded_append.mpr ⟨faithful, t, text, holds.peer, ?_, opened, ?_⟩, t, ?_, holds⟩
    · have pdu : (cfg.msgCfg j.entry.msgIdx).pduId = headerPdu t.bytes := by
        have known : t.msgIdx cfg < cfg.numMsg := laid.msgIdx ▸ laid.known
        rw [laid.msgIdx]
        exact findIdx_pduId known
      exact pdu.symm
    · rw [payloadLen, laid.content]
    · simp only [Job.emit, textsOf_append, trackText]
      exact text
  · exact ⟨faithful, t, text, holds⟩

theorem rxPart3_honest (honest : j.Honest cfg env) : (rxPart3 cfg j).Honest cfg env := by
  unfold rxPart3
  by_cases ready : j.entry.queueState = .processReady
  · have same : (rxDistributeMsg cfg j).1.entry = j.entry := by
      unfold rxDistributeMsg
      simp only
      split <;> rfl
    obtain ⟨faithful, t, text, holds⟩ := rxDistributeMsg_honest env honest ready
    have stage := holds.stage
    simp only [Stage, same, ready] at stage
    simp only [ready, if_true]
    split
    · refine ⟨faithful, t, text, holds.peer, holds.sound, ?_⟩
      simp only [Stage, Job.setEntry, same]
      exact stage
    · split
      · exact ⟨faithful, t, text, holds.peer, holds.sound, holds.stage⟩
      · exact ⟨faithful, t, text, holds.peer, holds.sound, holds.stage⟩
  · rw [if_neg ready]
    exact honest

theorem process_honest (blocks : DecryptsBlocks env) (honest : j.Honest cfg env) :
    (process cfg env j).Honest cfg env :=
  rxPart3_honest env (rxPart2_honest env blocks (rxPart1_honest env honest))

end Parts

end AnchorNode.AnchorCom.Rx
