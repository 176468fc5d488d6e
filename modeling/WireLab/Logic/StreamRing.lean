import WireLab.Logic.StreamSlots

/-!
# The ring of the streaming parser

From the oldest slot on, as many slots as are busy hold the batches that were submitted
last, one after the other; before these come the results in `ready`, and before them
what was returned. `Impl.Holds` says so, and every call and every completion keeps it.
-/

namespace WireLab

open Base Ring

namespace MetalStreamParser

/-! ## History -/

/-- The batches that the host has submitted, and the results it was given for them. -/
structure History where
  submitted : List PacketBatch := []
  returned : List Batch := []

def History.note (history : History) : Option Return → History
  | some (.submitted batch) => { history with submitted := history.submitted ++ [batch] }
  | some (.tried batch) => { history with returned := history.returned ++ batch.toList }
  | some (.collected batch) => { history with returned := history.returned ++ batch.toList }
  | some (.drained batches) => { history with returned := history.returned ++ batches }
  | some .refused => history
  | none => history

/-- What is to be returned for a batch. -/
def outcome (batch : PacketBatch) (sequence : Nat) : Batch where
  packets := batch.analyses
  sequence := .ofNat sequence
  timestampNs := batch.timestampNs

def outcomes (submitted : List PacketBatch) : List Batch :=
  submitted.zipIdx.map fun (batch, sequence) => outcome batch sequence

theorem outcomes_getElem? (submitted : List PacketBatch) (k : Nat) :
    (outcomes submitted)[k]? = submitted[k]?.map fun batch => outcome batch k := by
  rw [outcomes, List.getElem?_map, List.getElem?_zipIdx]
  cases submitted[k]? with
  | none => rfl
  | some batch => simp

theorem length_outcomes (submitted : List PacketBatch) :
    (outcomes submitted).length = submitted.length := by
  rw [outcomes, List.length_map, List.length_zipIdx]

/-- A batch more has an outcome more. -/
theorem outcomes_append (submitted : List PacketBatch) (batch : PacketBatch) :
    outcomes (submitted ++ [batch]) = outcomes submitted ++ [outcome batch submitted.length] := by
  simp [outcomes, List.zipIdx_append]

/-! ## Slots that hold a batch -/

/-- A slot holds the batch that was submitted with a sequence number: its kernel still has
to run on it, or its results can be read. -/
structure Carries (slot : Slot) (batch : PacketBatch) (sequence : Nat) : Prop where
  busy : slot.busy = true
  sequence : slot.sequence = .ofNat sequence
  timestampNs : slot.timestampNs = batch.timestampNs
  running : slot.command = some .running → Loaded slot batch
  done : slot.command ≠ some .running → Impl.results slot = batch.analyses

namespace Impl
variable {depth : Nat}

/-- How many batches have left the ring. -/
def harvested (impl : Impl depth) (history : History) : Nat :=
  history.returned.length + impl.ready.length

/-- The parser holds what was submitted and not yet returned. -/
structure Holds (impl : Impl depth) (history : History) : Prop where
  accepted : ∀ batch ∈ history.submitted, Stream.accepts batch = true
  results : history.returned ++ impl.ready =
    (outcomes history.submitted).take (impl.harvested history)
  counted : impl.harvested history + impl.busyCount = history.submitted.length
  bounded : impl.busyCount ≤ depth
  cursor : impl.nextSlot = ahead impl.oldestSlot impl.busyCount
  sequence : impl.nextSequence = .ofNat history.submitted.length
  carried : ∀ k < impl.busyCount, ∃ batch,
    history.submitted[impl.harvested history + k]? = some batch ∧
      Carries (impl.slots (ahead impl.oldestSlot k)) batch (impl.harvested history + k)
  free : ∀ index, (impl.slots index).busy = true → ∃ k < impl.busyCount,
    index = ahead impl.oldestSlot k

theorem setSlot_same (impl : Impl depth) (index : Fin depth) (slot : Slot) :
    (impl.setSlot index slot).slots index = slot :=
  Function.update_self ..

theorem setSlot_other (impl : Impl depth) {index other : Fin depth} (slot : Slot)
    (h : other ≠ index) : (impl.setSlot index slot).slots other = impl.slots other :=
  Function.update_of_ne h ..

section
variable {impl impl' : Impl depth} {history : History}

/-- The slot that comes next is none of those that hold a batch. -/
theorem Holds.next_ne (h : impl.Holds history) (hroom : impl.busyCount < depth) {k : Nat}
    (hk : k < impl.busyCount) : ahead impl.oldestSlot k ≠ impl.nextSlot := by
  rw [h.cursor]
  intro hsame
  exact absurd (ahead_inj (by omega) hroom hsame) (by omega)

/-- The parser after its oldest batch was harvested. -/
def reclaimed (impl : Impl depth) : Impl depth :=
  let slot := impl.slots impl.oldestSlot
  { impl.setSlot impl.oldestSlot { slot with command := none, busy := false } with
    ready := impl.ready ++
      [{ packets := Impl.results slot, sequence := slot.sequence, timestampNs := slot.timestampNs }]
    oldestSlot := next impl.oldestSlot
    busyCount := impl.busyCount - 1 }

/-- What an attempt to harvest can come to. -/
theorem harvestOldest_cases (impl : Impl depth) (wait : Bool) :
    (impl.busyCount = 0 ∧ impl.harvestOldest wait = .nothing) ∨
    (impl.busyCount ≠ 0 ∧ (impl.slots impl.oldestSlot).command = some .running ∧
      impl.harvestOldest wait = if wait then .blocked else .nothing) ∨
    (impl.busyCount ≠ 0 ∧ (impl.slots impl.oldestSlot).command ≠ some .running ∧
      impl.harvestOldest wait = .done impl.reclaimed) := by
  unfold Impl.harvestOldest
  by_cases hbusy : impl.busyCount = 0
  · exact .inl ⟨hbusy, if_pos hbusy⟩
  by_cases hrunning : (impl.slots impl.oldestSlot).command = some .running
  · exact .inr (.inl ⟨hbusy, hrunning, by simp only [hbusy, hrunning, if_true, if_false]⟩)
  · refine .inr (.inr ⟨hbusy, hrunning, ?_⟩)
    simp only [hbusy, hrunning, if_false]
    rfl

/-- **The oldest batch is harvested** into `ready`, and its slot is free. -/
theorem Holds.reclaimed (h : impl.Holds history) (hbusy : impl.busyCount ≠ 0)
    (hcompleted : (impl.slots impl.oldestSlot).command ≠ some .running) :
    impl.reclaimed.Holds history := by
  obtain ⟨batch, hbatch, hcarries⟩ := h.carried 0 (by omega)
  rw [Nat.add_zero] at hbatch hcarries
  rw [ahead_zero] at hcarries
  have hcount := h.counted
  have hbounded := h.bounded
  have hharvested : impl.reclaimed.harvested history = impl.harvested history + 1 := by
    simp only [harvested, Impl.reclaimed, List.length_append, List.length_singleton]
    omega
  have hless : impl.reclaimed.busyCount = impl.busyCount - 1 := rfl
  exact {
    accepted := h.accepted
    results := by
      have hlast : (outcomes history.submitted)[impl.harvested history]? =
          some (outcome batch (impl.harvested history)) := by
        rw [outcomes_getElem?, hbatch]
        rfl
      rw [hharvested, List.take_add_one, hlast, ← h.results, List.append_assoc]
      simp only [Impl.reclaimed, Option.toList_some, hcarries.done hcompleted, hcarries.sequence,
        hcarries.timestampNs]
      rfl
    counted := by omega
    bounded := by omega
    cursor := by
      show impl.nextSlot = ahead (next impl.oldestSlot) (impl.busyCount - 1)
      rw [h.cursor, ahead_next]
      congr 1
      omega
    sequence := h.sequence
    -- the batches behind the oldest move up by one place
    carried := by
      intro k hk
      obtain ⟨later, hlater, hheld⟩ := h.carried (k + 1) (by omega)
      refine ⟨later, by rw [hharvested]; rw [← hlater]; congr 1; omega, ?_⟩
      have hother : ahead (next impl.oldestSlot) k ≠ impl.oldestSlot := by
        rw [ahead_next]
        intro hsame
        have hzero := ahead_inj (show k + 1 < depth by omega) (show 0 < depth by omega)
          (hsame.trans (ahead_zero _).symm)
        omega
      have hslot : impl.reclaimed.slots (ahead (next impl.oldestSlot) k) =
          impl.slots (ahead impl.oldestSlot (k + 1)) := by
        rw [← ahead_next]
        exact setSlot_other _ _ hother
      show Carries (impl.reclaimed.slots (ahead (next impl.oldestSlot) k)) _ _
      rw [hslot, hharvested, show impl.harvested history + 1 + k = impl.harvested history + (k + 1) by
        omega]
      exact hheld
    free := by
      intro index hindex
      -- the slot of the oldest is free now, and every other as it was
      by_cases holdest : index = impl.oldestSlot
      · subst holdest
        have hslot : (impl.reclaimed.slots impl.oldestSlot).busy = false := by
          rw [show impl.reclaimed.slots = (impl.setSlot impl.oldestSlot _).slots from rfl,
            setSlot_same]
        rw [hslot] at hindex
        cases hindex
      · rw [show impl.reclaimed.slots index = impl.slots index from setSlot_other _ _ holdest] at hindex
        obtain ⟨k, hk, rfl⟩ := h.free index hindex
        cases k with
        | zero => exact absurd (ahead_zero _) holdest
        | succ k => exact ⟨k, by omega, (ahead_next _ _).symm⟩ }

/-- Results are taken from the front of `ready`. -/
theorem Holds.taken (h : impl.Holds history) {batches ready : List Batch}
    (hready : impl.ready = batches ++ ready) :
    { impl with ready }.Holds { history with returned := history.returned ++ batches } := by
  have hharvested : ({ impl with ready } : Impl depth).harvested
      { history with returned := history.returned ++ batches } = impl.harvested history := by
    simp only [harvested, hready, List.length_append, Nat.add_assoc]
  exact {
    accepted := h.accepted
    results := by
      rw [hharvested, ← h.results, hready, List.append_assoc]
    counted := hharvested ▸ h.counted
    bounded := h.bounded
    cursor := h.cursor
    sequence := h.sequence
    carried := by
      rw [hharvested]
      exact h.carried
    free := h.free }

/-- What a call has changed outside of the ring does not matter. -/
theorem Holds.allocated (h : impl.Holds history) (allocations : Nat) :
    { impl with allocations }.Holds history :=
  ⟨h.accepted, h.results, h.counted, h.bounded, h.cursor, h.sequence, h.carried, h.free⟩

/-- A slot that is free, and stays so, may be written to. -/
theorem Holds.setNext (h : impl.Holds history) (hroom : impl.busyCount < depth) {slot : Slot}
    (hfree : slot.busy = false) : (impl.setSlot impl.nextSlot slot).Holds history where
  accepted := h.accepted
  results := h.results
  counted := h.counted
  bounded := h.bounded
  cursor := h.cursor
  sequence := h.sequence
  carried k hk := by
    have hslot : (impl.setSlot impl.nextSlot slot).slots (ahead impl.oldestSlot k) =
        impl.slots (ahead impl.oldestSlot k) := setSlot_other _ _ (h.next_ne hroom hk)
    show ∃ batch, history.submitted[impl.harvested history + k]? = some batch ∧
      Carries ((impl.setSlot impl.nextSlot slot).slots (ahead impl.oldestSlot k)) batch
        (impl.harvested history + k)
    rw [hslot]
    exact h.carried k hk
  free index hindex := by
    by_cases hnext : index = impl.nextSlot
    · rw [hnext, setSlot_same, hfree] at hindex
      cases hindex
    · rw [setSlot_other _ _ hnext] at hindex
      exact h.free index hindex

/-- **A batch is committed** to the next slot, and is the last in the ring. -/
theorem Holds.commitSlot (h : impl.Holds history) (hroom : impl.busyCount < depth)
    {batch : PacketBatch} (haccepts : Stream.accepts batch = true) {slot : Slot}
    (hrunning : slot.command = some .running → Loaded slot batch)
    (hdone : slot.command ≠ some .running → Impl.results slot = batch.analyses) :
    (impl.commitSlot slot batch.timestampNs).Holds
      { history with submitted := history.submitted ++ [batch] } := by
  have hcount := h.counted
  have hle : impl.harvested history ≤ (outcomes history.submitted).length := by
    rw [length_outcomes]
    omega
  have hother : ∀ k < impl.busyCount, (impl.commitSlot slot batch.timestampNs).slots
      (ahead impl.oldestSlot k) = impl.slots (ahead impl.oldestSlot k) :=
    fun k hk => setSlot_other _ _ (h.next_ne hroom hk)
  have hnext : (impl.commitSlot slot batch.timestampNs).slots (ahead impl.oldestSlot impl.busyCount) =
      { slot with
        sequence := impl.nextSequence
        timestampNs := batch.timestampNs
        busy := true } := by
    rw [← h.cursor]
    exact setSlot_same ..
  exact {
    accepted := List.forall_mem_append.mpr ⟨h.accepted, List.forall_mem_singleton.mpr haccepts⟩
    results := by
      show history.returned ++ impl.ready =
        (outcomes (history.submitted ++ [batch])).take (impl.harvested history)
      rw [outcomes_append, List.take_append_of_le_length hle, h.results]
    counted := by
      show impl.harvested history + (impl.busyCount + 1) = (history.submitted ++ [batch]).length
      rw [List.length_append, List.length_singleton]
      omega
    bounded := hroom
    cursor := by
      show next impl.nextSlot = ahead impl.oldestSlot (impl.busyCount + 1)
      rw [h.cursor, next_ahead]
    sequence := by
      show impl.nextSequence + 1 = .ofNat (history.submitted ++ [batch]).length
      rw [h.sequence, List.length_append, List.length_singleton, UInt64.ofNat_add]
      rfl
    carried := by
      intro k hk
      show ∃ held, (history.submitted ++ [batch])[impl.harvested history + k]? = some held ∧
        Carries ((impl.commitSlot slot batch.timestampNs).slots (ahead impl.oldestSlot k)) held
          (impl.harvested history + k)
      -- a batch that was in the ring, or the one that is committed
      rcases Nat.lt_succ_iff_lt_or_eq.mp hk with hlt | rfl
      · obtain ⟨held, hheld, hcarries⟩ := h.carried k hlt
        rw [hother k hlt, List.getElem?_append_left (by omega)]
        exact ⟨held, hheld, hcarries⟩
      · refine ⟨batch, ?_, ?_⟩
        · rw [hcount, List.getElem?_concat_length]
        · rw [hnext]
          exact ⟨rfl, hcount ▸ h.sequence, rfl,
            fun hcommand => ⟨(hrunning hcommand).bytes, (hrunning hcommand).offsets,
              (hrunning hcommand).lengths, (hrunning hcommand).senderIds, (hrunning hcommand).count,
              (hrunning hcommand).analyses, (hrunning hcommand).packetCount⟩,
            fun hcommand => hdone hcommand⟩
    free := by
      intro index hindex
      by_cases hsame : index = impl.nextSlot
      · exact ⟨impl.busyCount, Nat.lt_succ_self _, hsame.trans h.cursor⟩
      · rw [show (impl.commitSlot slot batch.timestampNs).slots index = impl.slots index from
          setSlot_other _ _ hsame] at hindex
        obtain ⟨k, hk, heq⟩ := h.free index hindex
        exact ⟨k, Nat.lt_succ_of_lt hk, heq⟩ }

/-- A slot that no batch is in is not busy. -/
theorem Holds.next_free (h : impl.Holds history) (hroom : impl.busyCount < depth) :
    (impl.slots impl.nextSlot).busy = false := by
  by_contra hbusy
  obtain ⟨k, hk, hsame⟩ := h.free impl.nextSlot (by simpa using hbusy)
  exact h.next_ne hroom hk hsame.symm

theorem ensureCapacities_busy (slot : Slot) (batch : PacketBatch) (device : Device) :
    (ensureCapacities slot batch device).1.busy = slot.busy := rfl

/-- **A batch that is submitted** is held, or the call has thrown and what was held is. -/
theorem Holds.fillNext (h : impl.Holds history) (hroom : impl.busyCount < depth)
    {batch : PacketBatch} (haccepts : Stream.accepts batch = true) {memory : Nat}
    {returned : Bool} (hfill : impl.fillNext batch memory = (impl', returned)) :
    impl'.Holds (history.note (if returned then some (.submitted batch) else some .refused)) := by
  unfold Impl.fillNext at hfill
  dsimp only at hfill
  split at hfill
  · rename_i hempty
    obtain ⟨rfl, rfl⟩ := Prod.mk.inj hfill
    refine h.commitSlot hroom haccepts (fun hcommand => by cases hcommand) fun _ => ?_
    rw [PacketBatch.analyses, hempty]
    rfl
  · generalize hensure : ensureCapacities (impl.slots impl.nextSlot) batch
      { available := memory, allocations := impl.allocations } = ensured at hfill
    obtain ⟨slot, device⟩ := ensured
    dsimp only at hfill
    have hbusy : slot.busy = false := by
      have hkeep := ensureCapacities_busy (impl.slots impl.nextSlot) batch
        { available := memory, allocations := impl.allocations }
      rw [hensure, h.next_free hroom] at hkeep
      exact hkeep
    split at hfill
    · obtain ⟨rfl, rfl⟩ := Prod.mk.inj hfill
      exact (h.allocated device.allocations).setNext hroom hbusy
    · rename_i hdone
      obtain ⟨rfl, rfl⟩ := Prod.mk.inj hfill
      refine (h.allocated device.allocations).commitSlot hroom haccepts (fun _ => ?_)
        fun hcommand => absurd rfl hcommand
      exact fillSlot_loaded hensure (by simpa using hdone) _

/-- What the completion of a command does. -/
theorem complete_cases {index : Fin depth} {order : List (Nat × DevicePacketAnalysis)}
    (hcomplete : impl.complete index order = some impl') :
    ∃ writes records, kernelWrites (impl.slots index) = some writes ∧
      (impl.slots index).analyses = some records ∧
      (impl.slots index).command = some .running ∧ order.Perm writes ∧
      impl' = impl.setSlot index
        { impl.slots index with
          command := some .completed
          analyses := some (order.foldl store records) } := by
  unfold Impl.complete at hcomplete
  simp only [Option.bind_eq_bind, Option.bind_eq_some_iff] at hcomplete
  obtain ⟨writes, hwrites, records, hrecords, hready⟩ := hcomplete
  split at hready
  · rename_i hrunning
    exact ⟨writes, records, hwrites, hrecords, hrunning.1, List.isPerm_iff.mp hrunning.2.1,
      (Option.some.inj hready).symm⟩
  · cases hready

/-- What the GPU completes, the host can read. -/
theorem Holds.complete (h : impl.Holds history) {index : Fin depth}
    {order : List (Nat × DevicePacketAnalysis)} (hcomplete : impl.complete index order = some impl') :
    impl'.Holds history := by
  obtain ⟨writes, records, hwrites, hrecords, hrunning, hperm, rfl⟩ := complete_cases hcomplete
  exact {
    accepted := h.accepted
    results := h.results
    counted := h.counted
    bounded := h.bounded
    cursor := h.cursor
    sequence := h.sequence
    carried := by
      intro k hk
      obtain ⟨batch, hbatch, hcarries⟩ := h.carried k hk
      refine ⟨batch, hbatch, ?_⟩
      by_cases hsame : ahead impl.oldestSlot k = index
      · have haccepts := h.accepted batch (List.mem_of_getElem? hbatch)
        rw [Stream.accepts, Bool.and_eq_true, decide_eq_true_iff] at haccepts
        rw [hsame] at hcarries
        have hresults := results_completed (hcarries.running hrunning) haccepts.1 haccepts.2
          hwrites hrecords hperm
        show Carries ((impl.setSlot index _).slots (ahead impl.oldestSlot k)) batch _
        rw [hsame, setSlot_same]
        refine ⟨hcarries.busy, hcarries.sequence, hcarries.timestampNs, fun hcommand => ?_,
          fun _ => hresults⟩
        cases hcommand
      · show Carries ((impl.setSlot index _).slots (ahead impl.oldestSlot k)) batch _
        rw [setSlot_other _ _ hsame]
        exact hcarries
    free := by
      intro other hother
      by_cases hsame : other = index
      · rw [hsame, setSlot_same] at hother
        exact h.free other (hsame ▸ hother)
      · rw [setSlot_other _ _ hsame] at hother
        exact h.free other hother }

end
end Impl
end MetalStreamParser
end WireLab
