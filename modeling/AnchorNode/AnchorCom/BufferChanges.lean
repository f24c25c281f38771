import AnchorNode.AnchorCom.Transmission
import AnchorNode.AnchorCom.Handover
import AnchorNode.AnchorCom.Retirement

/-! The two kinds of change that write a transmit buffer: the preparation of a front entry, and a
request of the application. -/

namespace AnchorNode.AnchorCom.Tx

open AnchorNode.Lib

variable {cfg : Config} {env : Env} {s t : State} {i : Nat}

structure Preserved (cfg : Config) (env : Env) (s t : Core) : Prop where
  kept : Kept cfg env t
  fronts : ∀ i < cfg.numLlTx, (s.queue i).isEmpty = false → (t.queue i).isEmpty = false →
    (t.front i).key = (s.front i).key → Sealed cfg env s i (s.front i) →
      Sealed cfg env t i (t.front i)

section Work
variable {e' : Entry} {buf' : Mem} {len' : Nat} {events : List Event}

theorem Worked.spares (worked : Worked cfg env s i t e' buf' len' events) {j m : Nat}
    (other : ¬ (j = i ∧ m = (s.front i).msgIdx)) : Spared s.toCore t.toCore j m events := by
  refine ⟨by rw [worked.becomes], ?_, ?_⟩
  · rw [worked.becomes]
    simp only [State.setInfo_buffer, State.setBuffer_buffer, State.setFront_buffer,
      Function.update_apply]
    grind
  · rw [worked.becomes]
    simp only [State.setInfo_msgTxInfo, State.setBuffer_msgTxInfo, State.setFront_msgTxInfo,
      Function.update_apply]
    grind

theorem Worked.places (worked : Worked cfg env s i t e' buf' len' events) :
    t.buffer i e'.msgIdx = buf' ∧ (t.msgTxInfo i e'.msgIdx).length = len' := by
  rw [key_msgIdx worked.work.key, worked.becomes]
  simp

theorem Kept.worked (kept : Kept cfg env s.toCore) (atFront : AtFront cfg s i)
    (worked : Worked cfg env s i t e' buf' len' events)
    (holds : Stage.holds cfg env s.log i (s.front i) (s.buffer i (s.front i).msgIdx)
      (s.msgTxInfo i (s.front i).msgIdx).length) : Preserved cfg env s.toCore t.toCore := by
  have filled := atFront.filled
  have work := worked.work
  have waiting := work.waiting
  have log : t.log = s.log ++ events := by rw [worked.becomes]
  have queue : t.queue = (s.setFront i e').queue := by rw [worked.becomes]; rfl
  have channels : t.chTxInfo = s.chTxInfo := by rw [worked.becomes]; rfl
  have elsewhere : ∀ j, j ≠ i → t.queue j = s.queue j := by
    intro j other
    simp [queue, other]
  -- the buffer of every other entry is spared
  have entries : ∀ j e, e ∈ t.entries j → j = i ∧ e = e' ∨
      e ∈ s.entries j ∧ ¬ (j = i ∧ e.msgIdx = (s.front i).msgIdx) := by
    intro j e member
    rw [Core.entries, queue] at member
    rcases entries_replaced filled member with here | ⟨old, tail⟩
    · exact Or.inl here
    · refine Or.inr ⟨old, ?_⟩
      rintro ⟨same, message⟩
      exact tail_apart (kept.single i atFront.bound) filled (tail same) message
  have flags : ∀ j < cfg.numLlTx, FlagsAt cfg env t.toCore j := by
    intro j bound
    by_cases here : j = i
    · subst here
      apply FlagsAt.idle
      · intro c channel
        rw [Core.flag, channels]
        exact (kept.flags j bound).waiting filled waiting c channel
      · intro imc
        exact absurd imc ((kept.flags j bound).ordinary filled)
    · have same := elsewhere j here
      have front : t.front j = s.front j := by rw [Core.front, same]; rfl
      apply (kept.flags j bound).carry
      · intro c set
        rwa [Core.flag, channels] at set
      · rw [same]
      · intro _
        rw [front]
        refine ⟨rfl, id, fun ready => ready.carry (worked.spares ?_) rfl ready.1⟩
        exact fun both => here both.1
  refine ⟨⟨?_, ?_, ?_, flags, ?_, ?_⟩, ?_⟩
  · intro j bound
    rw [keys_eq (s := (s.setFront i e').toCore) (congrFun queue j), keys_setFront filled work.key j]
    exact kept.single j bound
  · intro j bound e member unready
    rcases entries j e member with ⟨rfl, rfl⟩ | ⟨old, other⟩
    · rw [log, worked.places.1, worked.places.2]
      exact (work.holds atFront.own.msgIdx holds).resolve_right fun both => unready both.2
    · exact Stage.carry (kept.stages j bound e old unready) (worked.spares other) rfl rfl rfl
  · intro j bound e member running
    have sending : e.queueState.isSending = true := by
      rcases running with state | state <;> rw [state] <;> rfl
    rcases entries j e member with ⟨rfl, rfl⟩ | ⟨old, other⟩
    · obtain ⟨wire, ready⟩ := work.ready holds sending
      refine ⟨sending, wire, ?_⟩
      rw [log, worked.places.1, worked.places.2, key_ticket work.key]
      exact ready
    · exact (kept.sealed j bound e old running).carry (worked.spares other) rfl sending
  · intro c bound j peer window still
    rw [log] at still
    have before := kept.windows c bound j peer window (windowsOf_aside s.log work.aside still)
    have free : ¬ (sourceOf cfg c j = i ∧ (s.chTxInfo c j).txMsgIdx = (s.front i).msgIdx) := by
      rintro ⟨source, message⟩
      have front : s.front i ∈ s.entries (sourceOf cfg c j) := by
        rw [source]
        exact front_mem filled
      have sending := before.entries _ front message.symm
      rw [waiting] at sending
      cases sending
    apply before.carry (worked.spares free)
    · rw [channels]
      exact ⟨rfl, rfl⟩
    · intro e member same
      rcases entries _ e member with ⟨source, rfl⟩ | ⟨old, _⟩
      · exact absurd ⟨source, same.symm.trans (key_msgIdx work.key)⟩ free
      · exact before.entries e old same
  · rw [log]
    exact kept.sliced.aside work.aside
  · intro j bound _ _ key ready
    by_cases here : j = i
    · subst here
      rw [ready.1] at waiting
      cases waiting
    · have front : t.front j = s.front j := by rw [Core.front, elsewhere j here]; rfl
      rw [front]
      exact ready.carry (worked.spares fun both => here both.1) rfl ready.1

end Work

section Stored
variable {args : TransmitArgs} {m : Nat}

theorem storeData_buffer_other (cfg : Config) (args : TransmitArgs) (m : Nat) (s : State)
    {j k : Nat} (other : ¬ (j = otherEndIdxToUse cfg m args.otherEndIdx ∧ k = m)) :
    (storeData cfg args m s).buffer j k = s.buffer j k := by
  simp only [storeData_buffer, Function.update_apply]
  grind

structure StoredAs (cfg : Config) (args : TransmitArgs) (m i : Nat) (s t : Core)
    (events : List Event) : Prop where
  spares : ∀ j k, ¬ (j = i ∧ k = m) → Spared s t j k events
  log : t.log = s.log ++ events
  aside : ∀ e ∈ events, e.isAside = true
  channels : t.chTxInfo = s.chTxInfo
  queue : t.queue = s.queue ∨ (s.queue i).isFull = false ∧
    t.queue = Function.update s.queue i ((s.queue i).push (newEntry cfg s i m)) ∧
    .accepted s.nextTicket i m args.payload ∈ events ∧
    (t.msgTxInfo i m).length = u16 args.payload.length ∧
    (t.buffer i m).read headerLen args.payload.length = args.payload

theorem acceptData_storedAs (becomes : t.toCore = (acceptData cfg args m s).1.toCore) :
    ∃ events, StoredAs cfg args m (otherEndIdxToUse cfg m args.otherEndIdx) s.toCore t.toCore
      events := by
  have log := storeData_log cfg args m s
  have aside := requestWrites_all (P := fun e => e.isAside = true) (fun _ _ _ _ => rfl) cfg args m
  have holds := storeData_holds cfg args m s
  have length := storeData_length cfg args m s
  have others := fun j k => storeData_buffer_other cfg args m s (j := j) (k := k)
  have channels := storeData_chTxInfo cfg args m s
  generalize place : otherEndIdxToUse cfg m args.otherEndIdx = i at *
  cases room : (s.queue i).isFull with
  | true =>
      rw [← place] at room
      rw [acceptData_full room] at becomes
      rw [becomes]
      refine ⟨requestWrites cfg args m, ?_, log, aside, channels, Or.inl ?_⟩
      · intro j k other
        refine ⟨log, others j k other, ?_⟩
        rw [length, if_neg other]
      · rw [storeData_queue]
  | false =>
      have free := room
      rw [← place] at free
      rw [acceptData_room free, place] at becomes
      have grown : t.log = s.log ++ (requestWrites cfg args m ++
          [.accepted s.nextTicket i m args.payload]) := by
        rw [becomes, log, List.append_assoc]
      have kept : ∀ j k, (t.msgTxInfo j k).length =
          ((storeData cfg args m s).msgTxInfo j k).length := by
        intro j k
        rw [becomes]
        simp only [State.setInfo_msgTxInfo, State.setQueue_msgTxInfo, Function.update_apply]
        grind
      have buffer : t.buffer = (storeData cfg args m s).buffer := by rw [becomes]; rfl
      refine ⟨_, ?_, grown, ?_, ?_, Or.inr ⟨room, ?_, ?_, ?_, ?_⟩⟩
      · intro j k other
        refine ⟨grown, ?_, ?_⟩
        · rw [buffer]
          exact others j k other
        · rw [kept, length, if_neg other]
      · intro e member
        rcases List.mem_append.mp member with write | last
        · exact aside e write
        · rw [List.mem_singleton.mp last]
          rfl
      · rw [becomes]
        exact channels
      · rw [becomes]
        simp [storeData_queue]
      · exact List.mem_append_right _ (List.mem_singleton.mpr rfl)
      · rw [kept, length, if_pos ⟨rfl, rfl⟩, payload_length]
      · rw [buffer]
        exact holds

theorem Kept.stored (kept : Kept cfg env s.toCore)
    (undisturbed : Undisturbed cfg s (.transmit args)) (checked : checkTransmit cfg args = .ok m)
    (usable : bufferUsable cfg args.otherEndIdx m args.overwriteOldData s = true)
    (becomes : t.toCore = (acceptData cfg args m s).1.toCore) :
    Preserved cfg env s.toCore t.toCore := by
  have stores := storing_transmit checked usable
  have short := undisturbed.short _ stores
  have unqueued := undisturbed.unqueued _ stores
  have unread := undisturbed.unread _ stores
  have own := undisturbed.own _ stores
  obtain ⟨_, _, fits⟩ := checkTransmit_ok checked
  obtain ⟨events, stored⟩ := acceptData_storedAs becomes
  simp only at short unqueued unread own
  generalize otherEndIdxToUse cfg m args.otherEndIdx = i at *
  rw [← payload_length] at short fits
  have size : u16 args.payload.length = args.payload.length := Nat.mod_eq_of_lt short
  have free : ∀ j, ∀ e ∈ s.entries j, ¬ (j = i ∧ e.msgIdx = m) := by
    rintro j e member ⟨rfl, same⟩
    exact held_none unqueued member same
  have elsewhere : ∀ j, j ≠ i → t.queue j = s.queue j := by
    intro j other
    rcases stored.queue with same | ⟨_, queue, _⟩
    · rw [same]
    · rw [queue, Function.update_of_ne other]
  have fronts : ∀ j, (s.queue j).isEmpty = false →
      (t.queue j).isEmpty = false ∧ t.front j = s.front j := by
    intro j filled
    rcases stored.queue with same | ⟨room, queue, _⟩
    · rw [Core.front, same]
      exact ⟨filled, rfl⟩
    · by_cases here : j = i
      · subst here
        rw [Core.front, queue, Function.update_self]
        exact ⟨Ring.push_filled _ _ room, Ring.push_front _ _ room filled⟩
      · rw [Core.front, elsewhere j here]
        exact ⟨filled, rfl⟩
  have spared : ∀ j, ∀ e ∈ s.entries j, Spared s.toCore t.toCore j e.msgIdx events :=
    fun j e member => stored.spares j e.msgIdx (free j e member)
  -- the only new entry is the queued one of the request
  have entries : ∀ j, ∀ e ∈ t.entries j, e ∈ s.entries j ∨
      j = i ∧ e = newEntry cfg s.toCore i m ∧
        Stage.holds cfg env t.log i e (t.buffer i m) (t.msgTxInfo i m).length := by
    intro j e member
    rcases stored.queue with same | ⟨room, queue, accepted, length, holds⟩
    · rw [Core.entries, same] at member
      exact Or.inl member
    · by_cases here : j = i
      · subst here
        rw [Core.entries, queue, Function.update_self, Ring.push_toList _ _ room,
          List.mem_append, List.mem_singleton] at member
        refine member.imp_right fun last => ⟨rfl, last, ?_⟩
        rw [last, stored.log, length, size]
        simp only [Stage.holds, newEntry]
        exact ⟨args.payload, List.mem_append_right _ accepted, size ▸ fits, rfl, holds⟩
      · rw [Core.entries, elsewhere j here] at member
        exact Or.inl member
  have flags : ∀ j < cfg.numLlTx, FlagsAt cfg env t.toCore j := by
    intro j bound
    have before := kept.flags j bound
    have same : ∀ c, t.flag c j = s.flag c j := fun c => by rw [Core.flag, stored.channels]; rfl
    have carried : (t.queue j).isEmpty = (s.queue j).isEmpty → FlagsAt cfg env t.toCore j := by
      intro filled
      apply before.carry (fun c set => same c ▸ set) filled
      intro filled
      rw [(fronts j filled).2]
      exact ⟨rfl, id, fun ready => ready.carry (spared j _ (front_mem filled)) rfl ready.1⟩
    by_cases here : j = i
    · subst here
      cases filled : (s.queue j).isEmpty with
      | true =>
          apply FlagsAt.idle _ fun imc => absurd imc own
          intro c channel
          rw [same, ← Bool.not_eq_true]
          intro set
          rcases before.flagged c channel set with imc | ⟨other, _⟩
          · exact own imc
          · rw [filled] at other
            cases other
      | false => exact carried ((fronts j filled).1.trans filled.symm)
    · exact carried (by rw [elsewhere j here])
  refine ⟨⟨?_, ?_, ?_, flags, ?_, ?_⟩, ?_⟩
  · intro j bound
    rcases stored.queue with same | ⟨room, queue, _⟩
    · rw [keys_eq (s := s.toCore) (congrFun same j)]
      exact kept.single j bound
    · by_cases here : j = i
      · subst here
        rw [Core.keys, Core.entries, queue, Function.update_self, Ring.push_toList _ _ room,
          List.map_append, List.pairwise_append]
        refine ⟨kept.single j bound, List.pairwise_singleton _ _, ?_⟩
        intro k old l last
        obtain ⟨e, member, rfl⟩ := List.mem_map.mp old
        rw [List.mem_singleton.mp last]
        exact held_none unqueued member
      · rw [keys_eq (s := s.toCore) (elsewhere j here)]
        exact kept.single j bound
  · intro j bound e member unready
    rcases entries j e member with old | ⟨rfl, rfl, holds⟩
    · exact Stage.carry (kept.stages j bound e old unready) (spared j e old) rfl rfl rfl
    · exact holds
  · intro j bound e member running
    rcases entries j e member with old | ⟨_, rfl, _⟩
    · have before := kept.sealed j bound e old running
      exact before.carry (spared j e old) rfl before.1
    · rcases running with state | state <;> cases state
  · intro c bound j peer window still
    rw [stored.log] at still
    have opened := windowsOf_aside s.log stored.aside still
    have before := kept.windows c bound j peer window opened
    have other : ¬ (sourceOf cfg c j = i ∧ (s.chTxInfo c j).txMsgIdx = m) :=
      fun both => unread c bound j peer (List.ne_nil_of_mem opened) both.1 both.2
    apply before.carry (stored.spares _ _ other)
    · rw [stored.channels]
      exact ⟨rfl, rfl⟩
    · intro e member same
      rcases entries _ e member with old | ⟨source, rfl, _⟩
      · exact before.entries e old same
      · exact absurd ⟨source, same.symm⟩ other
  · rw [stored.log]
    exact kept.sliced.aside stored.aside
  · intro j bound filled _ _ ready
    rw [(fronts j filled).2]
    exact ready.carry (spared j _ (front_mem filled)) rfl ready.1

end Stored

end AnchorNode.AnchorCom.Tx
