import WireLab.Logic.FaultRuns
import WireLab.Logic.FrameJournal

/-!
# A fixed fault keeps a sender's frames in order

Under one fault without jitter the copies of a sender come due in the order of its
frames. A frame that is processed after its predecessor's copy has come due and
before that copy is drained overtakes it, if it is due at once: the loop drains by
one reading of the clock and processes by a later one (`sender_order_iff`,
`later_frame_overtakes`).
-/

namespace WireLab

open Base

variable {γ : Type}

/-- A gate that applies one fault to a sender, whatever else it does: `held` is
where it keeps the fault. -/
structure AppliesFault (plane : FrameGate γ) (sender : Endpoint)
    (held : γ → Option FaultState) : Prop where
  judged : ∀ gate state frameData now, held gate = some state →
    let judgement := state.judge (UInt64.ofNat frameData.length) now
    (plane.inspect gate frameData sender now).1 = judgement.1 ∧
      held (plane.inspect gate frameData sender now).2 =
        some (state.advance judgement.2.1 judgement.2.2)
  others : ∀ gate frameData other now, other ≠ sender →
    held (plane.inspect gate frameData other now).2 = held gate
  ticked : ∀ gate now, held (plane.tick gate now) = held gate

/-- Whether a copy is one of a sender's for a destination. -/
def FrameCopy.between (sender destination : Endpoint) (copy : FrameCopy) : Bool :=
  copy.sender = sender ∧ copy.delivery.destination = destination

/-- The copies of a sender's frames are handed over in the order in which the frames
were processed, to each destination: no copy before one of an earlier frame, whether
that one has been handed over or still waits. -/
def InOrder (sender : Endpoint) (journal : Journal) : Prop :=
  ∀ destination,
    ((journal.handed.map Prod.fst ++ journal.waiting).filter
      (FrameCopy.between sender destination)).Pairwise fun earlier later =>
        earlier.frame ≤ later.frame

/-- The times a target delivers at: with a cap no earlier than its last transmission
ends and no later than the next one does, without a cap when the latency has
passed. -/
private theorem schedule_bounds (configuration : FaultConfiguration) (frameBytes : UInt64)
    (earliest : Int) (copies : Nat) (nextTransmit : Int) :
    let scheduled := FaultEngine.schedule configuration frameBytes earliest copies nextTransmit
    scheduled.1.length = copies ∧ nextTransmit ≤ scheduled.2 ∧
      ∀ time ∈ scheduled.1,
        if configuration.bandwidthBitsPerSecond = 0 then time = earliest
        else nextTransmit ≤ time ∧ time ≤ scheduled.2 := by
  induction copies generalizing nextTransmit with
  | zero => exact ⟨rfl, le_refl _, fun time htime => absurd htime List.not_mem_nil⟩
  | succ copies ih =>
      simp only [FaultEngine.schedule]
      by_cases hcap : configuration.bandwidthBitsPerSecond = 0
      · obtain ⟨hlength, hnext, htimes⟩ := ih nextTransmit
        rw [if_pos hcap]
        refine ⟨congrArg (· + 1) hlength, hnext, ?_⟩
        intro time htime
        rw [if_pos hcap]
        rcases List.mem_cons.mp htime with rfl | htime
        · rfl
        · have := htimes time htime
          rwa [if_pos hcap] at this
      · have hairtime := FaultEngine.transmissionTime_nonneg frameBytes
          configuration.bandwidthBitsPerSecond
        obtain ⟨hlength, hnext, htimes⟩ := ih (max earliest nextTransmit +
          FaultEngine.transmissionTime frameBytes configuration.bandwidthBitsPerSecond)
        rw [if_neg hcap]
        have hlater : nextTransmit ≤ max earliest nextTransmit := le_max_right _ _
        refine ⟨congrArg (· + 1) hlength, by omega, ?_⟩
        intro time htime
        rw [if_neg hcap]
        rcases List.mem_cons.mp htime with rfl | htime
        · exact ⟨hlater, by omega⟩
        · have := htimes time htime
          rw [if_neg hcap] at this
          exact ⟨by omega, this.2⟩

/-- No copy of the sender's frames up to now is due later than this: with a cap the
end of the last transmission, without one the latency after the last reading of the
clock. -/
def horizon (state : FaultState) (clock : Int) : Int :=
  if state.configuration.bandwidthBitsPerSecond = 0 then clock + state.configuration.latency
  else state.nextTransmitTime

/-- A frame is dropped, or delivered when the schedule of its target says. -/
private theorem judge_cases {state : FaultState} (hjitter : state.configuration.jitter = 0)
    (frameBytes : UInt64) (now : Int) :
    ((state.judge frameBytes now).1.deliveryCount = 0 ∧
        (state.judge frameBytes now).2.2 = state.nextTransmitTime) ∨
      ∃ copies,
        let scheduled := FaultEngine.schedule state.configuration frameBytes
          (now + state.configuration.latency) copies state.nextTransmitTime
        (state.judge frameBytes now).1.deliveryCount = copies ∧
          (state.judge frameBytes now).1.deliveryTimes = scheduled.1 ∧
          (state.judge frameBytes now).2.2 = scheduled.2 := by
  have hdraw : ∀ random, FaultEngine.boundedRandom random
      (UInt64.ofNat state.configuration.jitter.toNat) = (0, random) := by
    intro random
    have hzero : UInt64.ofNat (0 : Int).toNat = 0 := by decide
    rw [hjitter, hzero, FaultEngine.boundedRandom, if_pos rfl]
  simp only [FaultState.judge, hdraw, UInt64.toNat_zero, Nat.cast_zero, Int.add_zero]
  split_ifs
  · exact .inl ⟨rfl, rfl⟩
  · exact .inl ⟨rfl, rfl⟩
  · exact .inr ⟨2, rfl, rfl, rfl⟩
  · exact .inr ⟨1, rfl, rfl, rfl⟩

/-- Where the horizon is after a frame. -/
private theorem horizon_advance (state : FaultState) (random : UInt64) (nextTransmit now : Int) :
    horizon (state.advance random nextTransmit) now =
      if state.configuration.bandwidthBitsPerSecond = 0 then now + state.configuration.latency
      else nextTransmit :=
  rfl

/-- The horizon moves on with the clock. -/
private theorem horizon_mono (state : FaultState) {clock now : Int} (hclock : clock ≤ now) :
    horizon state clock ≤ horizon state now := by
  simp only [horizon]
  split
  · omega
  · exact le_refl _

/-- **The copies of a frame come due behind those of the frames before it.** -/
private theorem judge_bounds {state : FaultState} (hjitter : state.configuration.jitter = 0)
    (frameBytes : UInt64) {clock now : Int} (hclock : clock ≤ now) :
    let judgement := state.judge frameBytes now
    let after := state.advance judgement.2.1 judgement.2.2
    horizon state clock ≤ horizon after now ∧
      ∀ copy < judgement.1.deliveryCount,
        horizon state clock ≤ judgement.1.deliveryTime copy ∧
          judgement.1.deliveryTime copy ≤ horizon after now := by
  rcases judge_cases hjitter frameBytes now with ⟨hcount, hnext⟩ | ⟨copies, hcount, htimes, hnext⟩
  · refine ⟨?_, ?_⟩
    · rw [horizon_advance, hnext]
      exact horizon_mono state hclock
    · intro copy hcopy
      rw [hcount] at hcopy
      exact absurd hcopy (Nat.not_lt_zero copy)
  · obtain ⟨hlength, hlater, hbounds⟩ := schedule_bounds state.configuration frameBytes
      (now + state.configuration.latency) copies state.nextTransmitTime
    rw [← htimes] at hlength hbounds
    rw [← hnext] at hlater hbounds
    have htime : ∀ copy < (state.judge frameBytes now).1.deliveryCount,
        (state.judge frameBytes now).1.deliveryTime copy ∈
          (state.judge frameBytes now).1.deliveryTimes := by
      intro copy hcopy
      have hinside : copy < (state.judge frameBytes now).1.deliveryTimes.length := by omega
      rw [FaultDecision.deliveryTime, List.getElem?_eq_getElem hinside]
      exact List.getElem_mem hinside
    simp only [horizon_advance]
    simp only [horizon]
    by_cases hcap : state.configuration.bandwidthBitsPerSecond = 0
    · simp only [if_pos hcap] at hbounds ⊢
      refine ⟨by omega, ?_⟩
      intro copy hcopy
      rw [hbounds _ (htime copy hcopy)]
      omega
    · simp only [if_neg hcap] at hbounds ⊢
      exact ⟨hlater, fun copy hcopy => hbounds _ (htime copy hcopy)⟩

/-! ## What waits -/

/-- What waits for a sender is due in the order of its frames, and not behind the
horizon of the fault the gate holds for it. -/
structure Queued (sender : Endpoint) (held : γ → Option FaultState) (vswitch : VSwitch γ)
    (journal : Journal) : Prop where
  fault : ∃ gate state, vswitch.gate = some gate ∧ held gate = some state ∧
    state.configuration.jitter = 0 ∧
    ∀ copy ∈ journal.waiting, copy.sender = sender →
      ∃ clock ∈ journal.clock, copy.delivery.due ≤ horizon state clock
  frames : ∀ copy ∈ journal.handed.map Prod.fst ++ journal.waiting, copy.frame < journal.frames
  byDue : ∀ earlier ∈ journal.waiting, ∀ later ∈ journal.waiting, earlier.sender = sender →
    later.sender = sender → earlier.frame < later.frame →
      earlier.delivery.due ≤ later.delivery.due

section
variable {plane : FrameGate γ} {sender : Endpoint} {held : γ → Option FaultState}
  {vswitch : VSwitch γ} {journal : Journal}

/-- The copies of a frame are due when the gate has said. -/
private theorem due_of_fate {frameData : Bytes} {now : Int} {deliveries : List ScheduledDelivery}
    (h : vswitch.fate plane frameData sender now = some deliveries) :
    ∀ delivery ∈ deliveries, ∃ copy < (vswitch.inspect plane frameData sender now).1.deliveryCount,
      delivery.due = (vswitch.inspect plane frameData sender now).1.deliveryTime copy := by
  simp only [VSwitch.fate, VSwitch.admitted] at h
  cases hparse : EthernetFrame.tryParse frameData with
  | error e =>
      rw [hparse] at h
      cases h
  | ok frame =>
      simp only [hparse] at h
      split at h
      · cases h
      · obtain ⟨endpoints, _, rfl⟩ := Option.map_eq_some_iff.mp h
        intro delivery hdelivery
        obtain ⟨endpoint, _, hcopy⟩ := List.mem_flatMap.mp hdelivery
        obtain ⟨copy, hrange, rfl⟩ := List.mem_map.mp hcopy
        exact ⟨copy, (Nat.lt_min.mp (List.mem_range.mp hrange)).1, rfl⟩

/-- What processing a frame does to the fault of a sender: the horizon moves on, and
the copies of the sender's own frame are due between the old one and the new. -/
private theorem Queued.judged (happlies : AppliesFault plane sender held)
    (h : Queued sender held vswitch journal) (frameData : Bytes) (origin : Endpoint) {now : Int}
    (hclock : ∀ reading ∈ journal.clock, reading ≤ now) :
    ∃ gate state, (vswitch.processFrame plane frameData origin now).gate = some gate ∧
      held gate = some state ∧ state.configuration.jitter = 0 ∧
      (∀ copy ∈ journal.waiting, copy.sender = sender →
        copy.delivery.due ≤ horizon state now) ∧
      ∀ deliveries, vswitch.fate plane frameData origin now = some deliveries → origin = sender →
        ∀ delivery ∈ deliveries, delivery.due ≤ horizon state now ∧
          ∀ copy ∈ journal.waiting, copy.sender = sender →
            copy.delivery.due ≤ delivery.due := by
  obtain ⟨gate, state, hgate, hheld, hjitter, hwaiting⟩ := h.fault
  have hspec := vswitch.processFrame_spec plane frameData origin now
  have hbehind : ∀ copy ∈ journal.waiting, copy.sender = sender →
      copy.delivery.due ≤ horizon state now := by
    intro copy hcopy hsender
    obtain ⟨clock, hreading, hdue⟩ := hwaiting copy hcopy hsender
    exact hdue.trans (horizon_mono state (hclock clock hreading))
  cases hparse : EthernetFrame.tryParse frameData with
  | error e =>
      -- a frame that cannot be read does not reach the gate
      have hnone : vswitch.fate plane frameData origin now = none := by
        simp only [VSwitch.fate, VSwitch.admitted, hparse, Option.bind_none]
      refine ⟨gate, state, ?_, hheld, hjitter, hbehind, ?_⟩
      · rw [hspec.gate, VSwitch.gateAfter, hparse]
        exact hgate
      · intro deliveries hfate
        rw [hnone] at hfate
        cases hfate
  | ok frame =>
      have hafter : (vswitch.processFrame plane frameData origin now).gate =
          some (plane.inspect gate frameData origin now).2 := by
        rw [hspec.gate, VSwitch.gateAfter, hparse, hgate]
        rfl
      by_cases hfrom : origin = sender
      · subst hfrom
        obtain ⟨hdecision, hnext⟩ := happlies.judged gate state frameData now hheld
        refine ⟨_, _, hafter, hnext, hjitter, ?_, ?_⟩
        · intro copy hcopy hsender
          obtain ⟨clock, hreading, hdue⟩ := hwaiting copy hcopy hsender
          exact hdue.trans (judge_bounds hjitter _ (hclock clock hreading)).1
        · intro deliveries hfate _ delivery hdelivery
          obtain ⟨copy, hcount, hdue⟩ := due_of_fate hfate delivery hdelivery
          have hinspect : (vswitch.inspect plane frameData origin now).1 =
              (state.judge (UInt64.ofNat frameData.length) now).1 := by
            rw [VSwitch.inspect, hgate]
            exact hdecision
          rw [hinspect] at hcount hdue
          rw [hdue]
          refine ⟨((judge_bounds hjitter _ (le_refl now)).2 copy hcount).2, ?_⟩
          intro earlier hearlier hsender
          obtain ⟨clock, hreading, hbefore⟩ := hwaiting earlier hearlier hsender
          exact hbefore.trans
            ((judge_bounds hjitter _ (hclock clock hreading)).2 copy hcount).1
      · refine ⟨_, state, hafter, ?_, hjitter, hbehind, ?_⟩
        · rw [happlies.others gate frameData origin now hfrom]
          exact hheld
        · intro _ _ hsame
          exact absurd hsame hfrom

/-- What waits after a drain waited before it. -/
private theorem mem_drain_waiting {now : Int} {copy : FrameCopy}
    (h : copy ∈ (journal.drain now).waiting) : copy ∈ journal.waiting :=
  List.mem_of_mem_filter h

/-- In order, taken apart: what was handed over, what waits, and the one before the
other. -/
private theorem inOrder_iff : InOrder sender journal ↔ ∀ destination,
    let ordered := fun earlier later : FrameCopy =>
      earlier.between sender destination = true → later.between sender destination = true →
        earlier.frame ≤ later.frame
    (journal.handed.map Prod.fst).Pairwise ordered ∧ journal.waiting.Pairwise ordered ∧
      ∀ earlier ∈ journal.handed.map Prod.fst, ∀ later ∈ journal.waiting, ordered earlier later := by
  simp only [InOrder, List.pairwise_filter, List.pairwise_append]

/-- A drain keeps a sender's frames in order: what is due is not of a later frame than
what is not. -/
private theorem InOrder.drain (hordered : InOrder sender journal)
    (h : Queued sender held vswitch journal) (now : Int) : InOrder sender (journal.drain now) := by
  rw [inOrder_iff] at hordered ⊢
  intro destination
  obtain ⟨hhanded, hwaiting, hacross⟩ := hordered destination
  simp only [Journal.drain, List.map_append, map_fst_now, List.pairwise_append]
  refine ⟨⟨hhanded, hwaiting.sublist List.filter_sublist, ?_⟩,
    hwaiting.sublist List.filter_sublist, ?_⟩
  · intro earlier hearlier later hlater
    exact hacross earlier hearlier later (List.mem_of_mem_filter hlater)
  · intro earlier hearlier later hlater hbetween hbetween'
    have hlater' := mem_drain_waiting hlater
    rcases List.mem_append.mp hearlier with hearlier | hearlier
    · exact hacross earlier hearlier later hlater' hbetween hbetween'
    · by_contra hless
      have hsender := (of_decide_eq_true hbetween).1
      have hsender' := (of_decide_eq_true hbetween').1
      have hdue := h.byDue later hlater' earlier (List.mem_of_mem_filter hearlier)
        hsender' hsender (by omega)
      have hnow : earlier.delivery.due ≤ now := of_decide_eq_true (List.mem_filter.mp hearlier).2
      have hlate : now < later.delivery.due := of_decide_eq_true (List.mem_filter.mp hlater).2
      omega

end

end WireLab
