import WireLab.Logic.StreamRing

/-!
# The streaming parser returns every batch once and in order

The host calls in any order, and the GPU completes the kernels whenever it likes. What
is returned is then a prefix of what was submitted, batch by batch with the results that
the CPU would have had; what is in flight is the rest.
-/

namespace WireLab

open Base Ring

namespace MetalStreamParser

/-- The parser, with what the host has submitted and was returned. -/
def system (depth : Nat) : TSys (Stream depth × History) (Action depth) where
  init p := Stream.create depth = some p.1 ∧ p.2 = {}
  step p action := (p.1.act action).map fun (stream, returned) => (stream, p.2.note returned)

/-- A call that is under way will find what it relies on. -/
def HostReady {depth : Nat} (stream : Stream depth) : Prop :=
  match stream.host with
  | .claiming batch => Stream.accepts batch = true
  | .filling batch => Stream.accepts batch = true ∧ stream.impl.busyCount < depth
  | _ => True

/-! ## Turns -/

variable {depth : Nat} {impl impl' : Impl depth} {history : History}

/-- What a step can do to the parser, and return. -/
inductive Turn (impl : Impl depth) : Impl depth → Option Return → Prop
  /-- A call begins, or has thrown. -/
  | stays {returned : Option Return} (hreturned : returned = none ∨ returned = some .refused) :
      Turn impl impl returned
  /-- The oldest batch is harvested. -/
  | reclaims (hbusy : impl.busyCount ≠ 0)
      (hcompleted : (impl.slots impl.oldestSlot).command ≠ some .running) :
      Turn impl impl.reclaimed none
  /-- A slot is filled. -/
  | fills {batch : PacketBatch} {memory : Nat} {impl' : Impl depth} {done : Bool}
      (haccepts : Stream.accepts batch = true) (hroom : impl.busyCount < depth)
      (hfill : impl.fillNext batch memory = (impl', done)) :
      Turn impl impl' (if done then some (.submitted batch) else some .refused)
  /-- The front of `ready` is returned. -/
  | takes {batch : Option Batch} {impl' : Impl depth} {returned : Return}
      (hpop : Stream.popReady impl = (batch, impl'))
      (hreturned : returned = .tried batch ∨
        returned = .collected batch ∧ (impl.ready = [] → impl.busyCount = 0)) :
      Turn impl impl' (some returned)
  /-- The oldest batch is harvested and returned. -/
  | harvests {batch : Option Batch} {impl' : Impl depth} {returned : Return}
      (hbusy : impl.busyCount ≠ 0)
      (hcompleted : (impl.slots impl.oldestSlot).command ≠ some .running)
      (hpop : Stream.popReady impl.reclaimed = (batch, impl'))
      (hreturned : returned = .tried batch ∨ returned = .collected batch) :
      Turn impl impl' (some returned)
  | drains (hidle : impl.busyCount = 0) :
      Turn impl { impl with ready := [] } (some (.drained impl.ready))
  | completes {index : Fin depth} {order : List (Nat × DevicePacketAnalysis)} {impl' : Impl depth}
      (hcomplete : impl.complete index order = some impl') : Turn impl impl' none

/-- A slot is claimed: the ring has room then. -/
theorem claimSlot_turn (hbounded : impl.busyCount ≤ depth) (hclaim : impl.claimSlot = .done impl') :
    Turn impl impl' none ∧ impl'.busyCount < depth := by
  have hpos : 0 < depth := impl.nextSlot.pos
  unfold Impl.claimSlot at hclaim
  split at hclaim
  · rename_i hroom
    obtain rfl := Impl.Harvest.done.inj hclaim
    exact ⟨.stays (.inl rfl), by omega⟩
  · rename_i hfull
    rcases impl.harvestOldest_cases true with ⟨-, heq⟩ | ⟨-, -, heq⟩ | ⟨hbusy, hcompleted, heq⟩
    · rw [heq] at hclaim
      cases hclaim
    · rw [heq] at hclaim
      cases hclaim
    · rw [heq] at hclaim
      obtain rfl := Impl.Harvest.done.inj hclaim
      refine ⟨.reclaims hbusy hcompleted, ?_⟩
      show impl.busyCount - 1 < depth
      omega

/-- A ring without room has a batch to harvest. -/
theorem claimSlot_ne_nothing (impl : Impl depth) : impl.claimSlot ≠ .nothing := by
  have hpos : 0 < depth := impl.nextSlot.pos
  unfold Impl.claimSlot
  split
  · simp
  · rename_i hfull
    rcases impl.harvestOldest_cases true with ⟨hbusy, -⟩ | ⟨-, -, heq⟩ | ⟨-, -, heq⟩
    · omega
    · simp [heq]
    · simp [heq]

/-- A call that goes on. -/
theorem resume_turn {stream stream' : Stream depth} (hhost : HostReady stream)
    (hbounded : stream.impl.busyCount ≤ depth) {memory : Nat} {returned : Option Return}
    (hresume : stream.resume memory = some (stream', returned)) :
    Turn stream.impl stream'.impl returned ∧ HostReady stream' := by
  obtain ⟨impl, host⟩ := stream
  unfold Stream.resume at hresume
  cases host with
  | idle => cases hresume
  | claiming batch =>
      dsimp only at hresume
      split at hresume
      · cases hresume
      · rename_i hnothing
        exact absurd hnothing (claimSlot_ne_nothing impl)
      · rename_i impl' hclaim
        obtain ⟨rfl, rfl⟩ := Prod.mk.inj (Option.some.inj hresume)
        obtain ⟨hturn, hroom⟩ := claimSlot_turn hbounded hclaim
        exact ⟨hturn, hhost, hroom⟩
  | filling batch =>
      dsimp only at hresume
      generalize hfill : impl.fillNext batch memory = filled at hresume
      obtain ⟨impl', done⟩ := filled
      obtain ⟨rfl, rfl⟩ := Prod.mk.inj (Option.some.inj hresume)
      have hturn := Turn.fills hhost.1 hhost.2 hfill
      cases done
      · exact ⟨hturn, trivial⟩
      · exact ⟨hturn, trivial⟩
  | collecting =>
      dsimp only at hresume
      split at hresume
      · rcases impl.harvestOldest_cases true with
          ⟨hidle, heq⟩ | ⟨-, -, heq⟩ | ⟨hbusy, hcompleted, heq⟩
        · rw [heq] at hresume
          obtain ⟨rfl, rfl⟩ := Prod.mk.inj (Option.some.inj hresume)
          exact ⟨.takes rfl (.inr ⟨rfl, fun _ => hidle⟩), trivial⟩
        · rw [heq] at hresume
          cases hresume
        · rw [heq] at hresume
          obtain ⟨rfl, rfl⟩ := Prod.mk.inj (Option.some.inj hresume)
          exact ⟨.harvests hbusy hcompleted rfl (.inr rfl), trivial⟩
      · rename_i hready
        obtain ⟨rfl, rfl⟩ := Prod.mk.inj (Option.some.inj hresume)
        refine ⟨.takes rfl (.inr ⟨rfl, fun hempty => ?_⟩), trivial⟩
        exact absurd (List.isEmpty_iff.mpr hempty) hready
  | draining =>
      dsimp only at hresume
      split at hresume
      · rename_i hnonzero
        rcases impl.harvestOldest_cases true with ⟨hzero, -⟩ | ⟨-, -, heq⟩ | ⟨hbusy, hcompleted, heq⟩
        · exact absurd hzero hnonzero
        · rw [heq] at hresume
          cases hresume
        · rw [heq] at hresume
          obtain ⟨rfl, rfl⟩ := Prod.mk.inj (Option.some.inj hresume)
          exact ⟨.reclaims hbusy hcompleted, trivial⟩
      · rename_i hidle
        obtain ⟨rfl, rfl⟩ := Prod.mk.inj (Option.some.inj hresume)
        exact ⟨.drains (not_not.mp hidle), trivial⟩

/-- **Every step is a turn.** -/
theorem act_turn {stream stream' : Stream depth} (hhost : HostReady stream)
    (hbounded : stream.impl.busyCount ≤ depth) {action : Action depth} {returned : Option Return}
    (hact : stream.act action = some (stream', returned)) :
    Turn stream.impl stream'.impl returned ∧ HostReady stream' := by
  obtain ⟨impl, host⟩ := stream
  cases action with
  | submit batch =>
      cases host with
      | idle =>
          simp only [Stream.act] at hact
          split at hact
          · rename_i haccepts
            obtain ⟨rfl, rfl⟩ := Prod.mk.inj (Option.some.inj hact)
            exact ⟨.stays (.inl rfl), haccepts⟩
          · obtain ⟨rfl, rfl⟩ := Prod.mk.inj (Option.some.inj hact)
            exact ⟨.stays (.inr rfl), trivial⟩
      | _ => cases hact
  | tryCollect =>
      cases host with
      | idle =>
          have hact := Option.some.inj hact
          simp only [Stream.tryCollect] at hact
          split at hact
          · rcases impl.harvestOldest_cases false with
              ⟨-, heq⟩ | ⟨-, -, heq⟩ | ⟨hbusy, hcompleted, heq⟩
            · rw [heq] at hact
              obtain ⟨rfl, rfl⟩ := Prod.mk.inj hact
              exact ⟨.takes rfl (.inl rfl), trivial⟩
            · rw [heq] at hact
              obtain ⟨rfl, rfl⟩ := Prod.mk.inj hact
              exact ⟨.takes rfl (.inl rfl), trivial⟩
            · rw [heq] at hact
              obtain ⟨rfl, rfl⟩ := Prod.mk.inj hact
              exact ⟨.harvests hbusy hcompleted rfl (.inl rfl), trivial⟩
          · obtain ⟨rfl, rfl⟩ := Prod.mk.inj hact
            exact ⟨.takes rfl (.inl rfl), trivial⟩
      | _ => cases hact
  | collect =>
      cases host with
      | idle =>
          obtain ⟨rfl, rfl⟩ := Prod.mk.inj (Option.some.inj hact)
          exact ⟨.stays (.inl rfl), trivial⟩
      | _ => cases hact
  | drain =>
      cases host with
      | idle =>
          obtain ⟨rfl, rfl⟩ := Prod.mk.inj (Option.some.inj hact)
          exact ⟨.stays (.inl rfl), trivial⟩
      | _ => cases hact
  | resume memory => exact resume_turn hhost hbounded hact
  | complete index order =>
      simp only [Stream.act, Option.bind_eq_bind, Option.bind_eq_some_iff] at hact
      obtain ⟨impl', hcomplete, hact⟩ := hact
      obtain ⟨rfl, rfl⟩ := Prod.mk.inj (Option.some.inj hact)
      refine ⟨.completes hcomplete, ?_⟩
      -- The call that is under way looks at no slot.
      obtain ⟨_, _, -, -, -, -, rfl⟩ := Impl.complete_cases hcomplete
      exact hhost

/-! ## What a turn keeps -/

theorem popReady_cases (impl : Impl depth) :
    (impl.ready = [] ∧ Stream.popReady impl = (none, impl)) ∨
    ∃ batch ready, impl.ready = batch :: ready ∧
      Stream.popReady impl = (some batch, { impl with ready }) := by
  unfold Stream.popReady
  cases hready : impl.ready with
  | nil => exact .inl ⟨rfl, rfl⟩
  | cons batch ready => exact .inr ⟨batch, ready, rfl, rfl⟩

/-- The front of `ready` is returned. -/
theorem popReady_holds (h : impl.Holds history) {batch : Option Batch}
    (hpop : Stream.popReady impl = (batch, impl')) :
    impl'.Holds { history with returned := history.returned ++ batch.toList } := by
  rcases popReady_cases impl with ⟨-, heq⟩ | ⟨first, ready, hready, heq⟩
  · obtain ⟨rfl, rfl⟩ := Prod.mk.inj (heq.symm.trans hpop)
    rw [Option.toList_none, List.append_nil]
    exact h
  · obtain ⟨rfl, rfl⟩ := Prod.mk.inj (heq.symm.trans hpop)
    exact h.taken hready

/-- **A turn keeps what the parser holds.** -/
theorem Turn.holds {returned : Option Return} (hturn : Turn impl impl' returned)
    (h : impl.Holds history) : impl'.Holds (history.note returned) := by
  cases hturn with
  | stays hreturned =>
      rcases hreturned with rfl | rfl
      · exact h
      · exact h
  | reclaims hbusy hcompleted => exact h.reclaimed hbusy hcompleted
  | fills haccepts hroom hfill => exact h.fillNext hroom haccepts hfill
  | takes hpop hreturned =>
      rcases hreturned with rfl | ⟨rfl, -⟩
      · exact popReady_holds h hpop
      · exact popReady_holds h hpop
  | harvests hbusy hcompleted hpop hreturned =>
      rcases hreturned with rfl | rfl
      · exact popReady_holds (h.reclaimed hbusy hcompleted) hpop
      · exact popReady_holds (h.reclaimed hbusy hcompleted) hpop
  | drains => exact h.taken (List.append_nil _).symm
  | completes hcomplete => exact h.complete hcomplete

/-- A call to collect that returns nothing, and every call to drain, leaves nothing. -/
theorem Turn.nothing_left {returned : Option Return} (hturn : Turn impl impl' returned) :
    (returned = some (.collected none) → impl'.inFlight = 0) ∧
      ∀ batches, returned = some (.drained batches) → impl'.inFlight = 0 := by
  cases hturn with
  | stays hreturned =>
      rcases hreturned with rfl | rfl
      · exact ⟨by simp, by simp⟩
      · exact ⟨by simp, by simp⟩
  | reclaims => exact ⟨by simp, by simp⟩
  | fills =>
      rename_i done _ _ _
      cases done
      · exact ⟨by simp, by simp⟩
      · exact ⟨by simp, by simp⟩
  | takes hpop hreturned =>
      rcases hreturned with rfl | ⟨rfl, hidle⟩
      · exact ⟨by simp, by simp⟩
      · refine ⟨fun hnone => ?_, by simp⟩
        obtain rfl := Return.collected.inj (Option.some.inj hnone)
        rcases popReady_cases impl with ⟨hready, heq⟩ | ⟨first, ready, -, heq⟩
        · obtain ⟨-, rfl⟩ := Prod.mk.inj (heq.symm.trans hpop)
          rw [Impl.inFlight, hready, hidle hready]
          rfl
        · cases (Prod.mk.inj (heq.symm.trans hpop)).1
  | harvests hbusy hcompleted hpop hreturned =>
      rcases hreturned with rfl | rfl
      · exact ⟨by simp, by simp⟩
      · refine ⟨fun hnone => ?_, by simp⟩
        obtain rfl := Return.collected.inj (Option.some.inj hnone)
        rcases popReady_cases impl.reclaimed with ⟨hready, -⟩ | ⟨first, ready, -, heq⟩
        · simp [Impl.reclaimed] at hready
        · cases (Prod.mk.inj (heq.symm.trans hpop)).1
  | drains hidle =>
      refine ⟨by simp, fun batches _ => ?_⟩
      show impl.busyCount + 0 = 0
      rw [hidle]
  | completes => exact ⟨by simp, by simp⟩

/-! ## Slots -/

/-- What the host has written to a slot is as it was. -/
structure SameBatch (slot slot' : Slot) : Prop where
  busy : slot'.busy = slot.busy
  bytes : slot'.bytes = slot.bytes
  offsets : slot'.offsets = slot.offsets
  lengths : slot'.lengths = slot.lengths
  senderIds : slot'.senderIds = slot.senderIds
  count : slot'.count = slot.count
  packetCount : slot'.packetCount = slot.packetCount
  sequence : slot'.sequence = slot.sequence
  timestampNs : slot'.timestampNs = slot.timestampNs

theorem SameBatch.refl (slot : Slot) : SameBatch slot slot :=
  ⟨rfl, rfl, rfl, rfl, rfl, rfl, rfl, rfl, rfl⟩

/-- No slot is written to while the batch in it has not been read: it is as it was, or it
is the oldest, and its results are read now. -/
def Unharmed (impl impl' : Impl depth) : Prop :=
  ∀ index, (impl.slots index).busy = true →
    SameBatch (impl.slots index) (impl'.slots index) ∨
      (index = impl.oldestSlot ∧ (impl'.slots index).busy = false ∧
        impl'.oldestSlot = next impl.oldestSlot ∧ impl'.busyCount + 1 = impl.busyCount)

theorem Unharmed.of_slots {impl impl' : Impl depth} (h : impl'.slots = impl.slots) :
    Unharmed impl impl' := by
  intro index _
  rw [h]
  exact .inl (.refl _)

theorem unharmed_reclaimed (impl : Impl depth) (hbusy : impl.busyCount ≠ 0) :
    Unharmed impl impl.reclaimed := by
  intro index _
  by_cases holdest : index = impl.oldestSlot
  · refine .inr ⟨holdest, ?_, rfl, Nat.sub_add_cancel (Nat.pos_of_ne_zero hbusy)⟩
    rw [holdest, show impl.reclaimed.slots = (impl.setSlot impl.oldestSlot _).slots from rfl,
      Impl.setSlot_same]
  · rw [show impl.reclaimed.slots index = impl.slots index from Impl.setSlot_other _ _ holdest]
    exact .inl (.refl _)

/-- Writing to the next slot, which is free, harms none. -/
theorem unharmed_next {impl impl' : Impl depth} {history : History} (h : impl.Holds history)
    (hroom : impl.busyCount < depth)
    (hother : ∀ index, index ≠ impl.nextSlot → impl'.slots index = impl.slots index) :
    Unharmed impl impl' := by
  intro index hbusy
  have hne : index ≠ impl.nextSlot := by
    rintro rfl
    rw [h.next_free hroom] at hbusy
    cases hbusy
  rw [hother index hne]
  exact .inl (.refl _)

/-- A result that is taken was not in a slot. -/
theorem popReady_slots {batch : Option Batch} (hpop : Stream.popReady impl = (batch, impl')) :
    impl'.slots = impl.slots ∧ impl'.oldestSlot = impl.oldestSlot ∧
      impl'.busyCount = impl.busyCount := by
  rcases popReady_cases impl with ⟨-, heq⟩ | ⟨first, ready, -, heq⟩
  · obtain ⟨-, rfl⟩ := Prod.mk.inj (heq.symm.trans hpop)
    exact ⟨rfl, rfl, rfl⟩
  · obtain ⟨-, rfl⟩ := Prod.mk.inj (heq.symm.trans hpop)
    exact ⟨rfl, rfl, rfl⟩

/-- Only the next slot is filled. -/
theorem fillNext_slots {batch : PacketBatch} {memory : Nat} {done : Bool}
    (hfill : impl.fillNext batch memory = (impl', done)) {index : Fin depth}
    (hother : index ≠ impl.nextSlot) : impl'.slots index = impl.slots index := by
  unfold Impl.fillNext at hfill
  dsimp only at hfill
  split at hfill
  · obtain ⟨rfl, -⟩ := Prod.mk.inj hfill
    exact Impl.setSlot_other _ _ hother
  · split at hfill
    · obtain ⟨rfl, -⟩ := Prod.mk.inj hfill
      exact Impl.setSlot_other _ _ hother
    · obtain ⟨rfl, -⟩ := Prod.mk.inj hfill
      exact Impl.setSlot_other _ _ hother

/-- **No turn harms a batch that has not been read.** -/
theorem Turn.unharmed {returned : Option Return} (hturn : Turn impl impl' returned)
    (h : impl.Holds history) : Unharmed impl impl' := by
  cases hturn with
  | stays => exact .of_slots rfl
  | reclaims hbusy => exact unharmed_reclaimed impl hbusy
  | fills _ hroom hfill => exact unharmed_next h hroom fun index => fillNext_slots hfill
  | takes hpop => exact .of_slots (popReady_slots hpop).1
  | harvests hbusy _ hpop =>
      obtain ⟨hslots, holdest, hcount⟩ := popReady_slots hpop
      unfold Unharmed
      rw [hslots, holdest, hcount]
      exact unharmed_reclaimed impl hbusy
  | drains => exact .of_slots rfl
  | completes hcomplete =>
      rename_i done _
      obtain ⟨writes, records, -, -, -, -, rfl⟩ := Impl.complete_cases hcomplete
      intro index _
      refine .inl ?_
      by_cases hsame : index = done
      · rw [hsame, Impl.setSlot_same]
        exact ⟨rfl, rfl, rfl, rfl, rfl, rfl, rfl, rfl, rfl⟩
      · rw [Impl.setSlot_other _ _ hsame]
        exact .refl _

/-! ## Runs -/

theorem create_sound {stream : Stream depth} (h : Stream.create depth = some stream) :
    stream.impl.Holds {} ∧ HostReady stream := by
  unfold Stream.create at h
  split at h
  · obtain rfl := Option.some.inj h
    refine ⟨?_, trivial⟩
    exact {
      accepted := by simp
      results := rfl
      counted := rfl
      bounded := Nat.zero_le _
      cursor := (ahead_zero _).symm
      sequence := rfl
      carried := fun k hk => absurd hk (Nat.not_lt_zero k)
      free := fun index hindex => by cases hindex }
  · cases h

theorem system_inductive (depth : Nat) :
    (system depth).Inductive fun p => p.1.impl.Holds p.2 ∧ HostReady p.1 where
  init p hinit := by
    obtain ⟨stream, history⟩ := p
    obtain ⟨hcreate, rfl⟩ := hinit
    exact create_sound hcreate
  step p action p' h hstep := by
    obtain ⟨⟨stream', returned⟩, hact, rfl⟩ := Option.map_eq_some_iff.mp hstep
    obtain ⟨hturn, hhost⟩ := act_turn h.2 h.1.bounded hact
    exact ⟨hturn.holds h.1, hhost⟩

/-- The oldest command can complete. -/
theorem oldest_completes (h : impl.Holds history) (hbusy : impl.busyCount ≠ 0)
    (hrunning : (impl.slots impl.oldestSlot).command = some .running) :
    ∃ order, (impl.complete impl.oldestSlot order).isSome := by
  obtain ⟨batch, hbatch, hcarries⟩ := h.carried 0 (by omega)
  rw [ahead_zero] at hcarries
  have hloaded := hcarries.running hrunning
  have haccepts := h.accepted batch (List.mem_of_getElem? hbatch)
  rw [Stream.accepts, Bool.and_eq_true, decide_eq_true_iff] at haccepts
  obtain ⟨records, hrecords, -⟩ := hloaded.analyses
  obtain ⟨writes, hwrites, hwithin⟩ :=
    complete_enabled hloaded haccepts.1 haccepts.2 hrecords
  refine ⟨writes, ?_⟩
  have hready : (impl.slots impl.oldestSlot).command = some .running ∧ writes.isPerm writes ∧
      ∀ write ∈ writes, write.1 < records.length :=
    ⟨hrunning, List.isPerm_iff.mpr (.refl writes), hwithin⟩
  simp only [Impl.complete, hwrites, hrecords, Option.bind_eq_bind, Option.bind_some]
  rw [if_pos hready]
  rfl

/-- A call that cannot go on waits for the oldest command, which the GPU can complete. -/
theorem waits_for_oldest {stream : Stream depth} (hholds : stream.impl.Holds history)
    (hcall : stream.host ≠ .idle) (memory : Nat) :
    (stream.resume memory).isSome ∨
      ∃ order, (stream.act (.complete stream.impl.oldestSlot order)).isSome := by
  obtain ⟨impl, host⟩ := stream
  have hwait (hbusy : impl.busyCount ≠ 0)
      (hrunning : (impl.slots impl.oldestSlot).command = some .running) :
      ∃ order, ((⟨impl, host⟩ : Stream depth).act (.complete impl.oldestSlot order)).isSome := by
    obtain ⟨order, hsome⟩ := oldest_completes hholds hbusy hrunning
    obtain ⟨impl', himpl'⟩ := Option.isSome_iff_exists.mp hsome
    exact ⟨order, by simp [Stream.act, himpl']⟩
  cases host with
  | idle => exact absurd rfl hcall
  | claiming batch =>
      simp only [Stream.resume, Impl.claimSlot]
      by_cases hroom : impl.busyCount ≠ depth
      · rw [if_pos hroom]
        exact .inl rfl
      rw [if_neg hroom]
      rcases impl.harvestOldest_cases true with ⟨-, heq⟩ | ⟨hbusy, hrunning, -⟩ | ⟨-, -, heq⟩
      · rw [heq]
        exact .inl rfl
      · exact .inr (hwait hbusy hrunning)
      · rw [heq]
        exact .inl rfl
  | filling batch => exact .inl rfl
  | collecting =>
      simp only [Stream.resume]
      by_cases hready : impl.ready.isEmpty = true
      · rw [if_pos hready]
        rcases impl.harvestOldest_cases true with ⟨-, heq⟩ | ⟨hbusy, hrunning, -⟩ | ⟨-, -, heq⟩
        · rw [heq]
          exact .inl rfl
        · exact .inr (hwait hbusy hrunning)
        · rw [heq]
          exact .inl rfl
      · rw [if_neg hready]
        exact .inl rfl
  | draining =>
      simp only [Stream.resume]
      by_cases hnonzero : impl.busyCount ≠ 0
      · rw [if_pos hnonzero]
        rcases impl.harvestOldest_cases true with ⟨-, heq⟩ | ⟨hbusy, hrunning, -⟩ | ⟨-, -, heq⟩
        · rw [heq]
          exact .inl rfl
        · exact .inr (hwait hbusy hrunning)
        · rw [heq]
          exact .inl rfl
      · rw [if_neg hnonzero]
        exact .inl rfl

end MetalStreamParser

open MetalStreamParser

/-- **Every batch once and in order.** In every run of the parser, by calls in any order
and completions at any time: what was returned is a prefix of the outcomes of what was
submitted, and what is in flight is the rest. No step writes to a slot whose batch has
not been read; a call to collect returns nothing only when nothing is in flight, and a
call to drain leaves nothing. A call that waits, waits for a command that can complete. -/
theorem stream_returns_in_order {depth : Nat} {stream : Stream depth} {history : History}
    (h : (system depth).Reachable (stream, history)) :
    history.returned <+: outcomes history.submitted ∧
    stream.impl.inFlight + history.returned.length = history.submitted.length ∧
    (∀ action stream' returned, stream.act action = some (stream', returned) →
      Unharmed stream.impl stream'.impl ∧
      (returned = some (.collected none) → stream'.impl.inFlight = 0) ∧
      ∀ batches, returned = some (.drained batches) → stream'.impl.inFlight = 0) ∧
    (stream.host ≠ .idle → ∀ memory, (stream.resume memory).isSome ∨
      ∃ order, (stream.act (.complete stream.impl.oldestSlot order)).isSome) := by
  obtain ⟨hholds, hhost⟩ := (system_inductive depth).invariant _ h
  refine ⟨?_, ?_, fun action stream' returned hact => ?_, waits_for_oldest hholds⟩
  · exact (hholds.results ▸ List.prefix_append _ _ :
      history.returned <+: (outcomes history.submitted).take _).trans (List.take_prefix _ _)
  · have hcounted := hholds.counted
    simp only [Impl.inFlight, Impl.harvested] at hcounted ⊢
    omega
  · obtain ⟨hturn, -⟩ := act_turn hhost hholds.bounded hact
    exact ⟨hturn.unharmed hholds, hturn.nothing_left⟩

/-- A short packet, whose record says only its length and port. -/
private def shortPacket : PacketBatch where
  packetBytes := [1, 2, 3]
  packetOffsets := [0, 3]
  packetLengths := [3]
  senderIds := [7]
  timestampNs := 5

/-- A ring of one slot: the second, empty batch reclaims the slot of the first, which is
collected afterwards. -/
private def reclaimRun : List (Action 1) :=
  [.submit shortPacket, .resume 0, .resume 6,
    .complete 0 [(0, { ingressPort := 7, frameLength := 3 })],
    .submit {}, .resume 0, .resume 0, .collect, .resume 0]

private def oneSlot : Stream 1 where
  impl := { slots := fun _ => {}, nextSlot := 0, oldestSlot := 0 }

private theorem reclaimRun_history :
    ((system 1).exec (oneSlot, {}) reclaimRun).map
      (fun p => (p.2.submitted.length, p.2.returned.map Batch.sequence)) = some (2, [0]) := by
  decide +kernel

theorem stream_returns_in_order_reclaimed :
    ∃ stream history, (system 1).exec (oneSlot, {}) reclaimRun = some (stream, history) ∧
      history.submitted.length = 2 ∧ history.returned.map Batch.sequence = [0] ∧
      history.returned <+: outcomes history.submitted ∧
      stream.impl.inFlight + history.returned.length = history.submitted.length ∧
      (∀ action stream' returned, stream.act action = some (stream', returned) →
        Unharmed stream.impl stream'.impl ∧
        (returned = some (.collected none) → stream'.impl.inFlight = 0) ∧
        ∀ batches, returned = some (.drained batches) → stream'.impl.inFlight = 0) ∧
      (stream.host ≠ .idle → ∀ memory, (stream.resume memory).isSome ∨
        ∃ order, (stream.act (.complete stream.impl.oldestSlot order)).isSome) := by
  obtain ⟨⟨stream, history⟩, hrun, hhistory⟩ := Option.map_eq_some_iff.mp reclaimRun_history
  obtain ⟨hsubmitted, hreturned⟩ := Prod.mk.inj hhistory
  have hstart : (system 1).Reachable (oneSlot, {}) := .init ⟨rfl, rfl⟩
  exact ⟨stream, history, hrun, hsubmitted, hreturned, stream_returns_in_order (hstart.exec hrun)⟩

end WireLab
