import WireLab.Base.TSys
import WireLab.Logic.FaultRuns

/-!
# Fault timing in 64 bits

The engine adds latency, jitter and the time on the wire to times that are
signed 64-bit counts of nanoseconds, and none of these additions is guarded.
`evaluateChecked` is `evaluate` with every addition checked; it agrees with the
unbounded one exactly when the frame's times are in range (`fault_timing_iff`).
-/

namespace WireLab

open Base

/-- A value of the clock: a signed 64-bit count of nanoseconds. -/
def Representable (time : Int) : Prop := -2 ^ 63 ≤ time ∧ time ≤ nanosecondsMax

instance (time : Int) : Decidable (Representable time) :=
  inferInstanceAs (Decidable (_ ∧ _))

/-- The sum of two times, where it is one. -/
def addTime (time duration : Int) : Option Int :=
  if Representable (time + duration) then some (time + duration) else none

namespace FaultEngine

/-- `schedule`, with its additions checked. -/
def scheduleChecked (configuration : FaultConfiguration) (frameBytes : UInt64) (earliest : Int) :
    Nat → Int → Option (List Int × Int)
  | 0, nextTransmit => some ([], nextTransmit)
  | copies + 1, nextTransmit =>
      if configuration.bandwidthBitsPerSecond = 0 then
        (scheduleChecked configuration frameBytes earliest copies nextTransmit).map fun rest =>
          (earliest :: rest.1, rest.2)
      else
        let delivery := max earliest nextTransmit
        (addTime delivery
            (transmissionTime frameBytes configuration.bandwidthBitsPerSecond)).bind fun free =>
          (scheduleChecked configuration frameBytes earliest copies free).map fun rest =>
            (delivery :: rest.1, rest.2)

end FaultEngine

namespace FaultState

open FaultEngine

/-- `judge`, with its additions checked. -/
def judgeChecked (state : FaultState) (frameBytes : UInt64) (arrival : Int) :
    Option (FaultDecision × UInt64 × Int) :=
  let configuration := state.configuration
  if configuration.blackhole || configuration.isolated then
    some ({ dropped := true }, state.randomState, state.nextTransmitTime)
  else
    let loss := boundedRandom state.randomState (basisPointsPerPercentage - 1).toUInt64
    if loss.1 < configuration.lossBasisPoints.toUInt64 then
      some ({ dropped := true }, loss.2, state.nextTransmitTime)
    else
      let duplication := boundedRandom loss.2 (basisPointsPerPercentage - 1).toUInt64
      let deliveryCount :=
        if duplication.1 < configuration.duplicationBasisPoints.toUInt64 then 2 else 1
      let jitter := boundedRandom duplication.2 (UInt64.ofNat configuration.jitter.toNat)
      (addTime arrival configuration.latency).bind fun delayed =>
        (addTime delayed jitter.1.toNat).bind fun earliest =>
          (scheduleChecked configuration frameBytes earliest deliveryCount
              state.nextTransmitTime).map fun deliveries =>
            ({ deliveryCount, deliveryTimes := deliveries.1 }, jitter.2, deliveries.2)

/-- How many copies of a frame the target draws. -/
def drawnCopies (state : FaultState) : Nat :=
  let loss := boundedRandom state.randomState (basisPointsPerPercentage - 1).toUInt64
  let duplication := boundedRandom loss.2 (basisPointsPerPercentage - 1).toUInt64
  if duplication.1 < state.configuration.duplicationBasisPoints.toUInt64 then 2 else 1

/-- A frame that is due is due within the clock's range, and on a capped target
so is the end of the transmission of its copies. -/
def InRange (state : FaultState) (frameBytes : UInt64) (arrival : Int) : Prop :=
  ∀ due ∈ state.due? arrival, due ≤ nanosecondsMax ∧
    (state.configuration.bandwidthBitsPerSecond ≠ 0 →
      max due state.nextTransmitTime + state.drawnCopies *
        transmissionTime frameBytes state.configuration.bandwidthBitsPerSecond ≤ nanosecondsMax)

instance (state : FaultState) (frameBytes : UInt64) (arrival : Int) :
    Decidable (state.InRange frameBytes arrival) :=
  inferInstanceAs (Decidable (∀ due ∈ state.due? arrival, _ ∧ (_ → _)))

end FaultState

namespace FaultEngine

/-- The decision of `evaluate`, with its additions checked. -/
def evaluateChecked (engine : FaultEngine) (target : Bytes) (frameBytes : UInt64) (arrival : Int) :
    Option FaultDecision :=
  match engine.states.lookup target with
  | none => some { deliveryCount := 1, deliveryTimes := [arrival] }
  | some state => (state.judgeChecked frameBytes arrival).map Prod.fst

/-- A call whose time computations stay in range, and whose delivery times are no
earlier than its frame's arrival. -/
def Timed (engine : FaultEngine) : FaultOperation → Prop
  | .evaluate target frameBytes arrival =>
      engine.evaluateChecked target frameBytes arrival =
          some (engine.evaluate target frameBytes arrival).1 ∧
        ∀ time ∈ (engine.evaluate target frameBytes arrival).1.deliveryTimes, arrival ≤ time
  | _ => True

/-- A call on a target that has no fault, or whose times are in range. -/
def TimesInRange (engine : FaultEngine) : FaultOperation → Prop
  | .evaluate target frameBytes arrival =>
      ∀ state ∈ engine.states.lookup target, state.InRange frameBytes arrival
  | _ => True

instance (engine : FaultEngine) : ∀ operation, Decidable (engine.TimesInRange operation)
  | .evaluate target frameBytes arrival =>
      inferInstanceAs (Decidable (∀ state ∈ engine.states.lookup target,
        state.InRange frameBytes arrival))
  | .setFault _ _ => inferInstanceAs (Decidable True)
  | .clearFault _ => inferInstanceAs (Decidable True)

/-! ## The additions of one frame -/

section
variable {configuration : FaultConfiguration} {frameBytes : UInt64} {earliest : Int}

private theorem addTime_eq_some {time duration sum : Int} :
    addTime time duration = some sum ↔ Representable (time + duration) ∧ sum = time + duration := by
  unfold addTime
  split
  · next h => simp only [Option.some.injEq, h, true_and, eq_comm]
  · next h => simp only [h, false_and, iff_false]; simp

/-- What is laid out within range is what is laid out without one. -/
theorem schedule_of_checked (count : Nat) (nextTransmit : Int) {out : List Int × Int}
    (h : scheduleChecked configuration frameBytes earliest count nextTransmit = some out) :
    out = schedule configuration frameBytes earliest count nextTransmit := by
  induction count generalizing nextTransmit out with
  | zero => exact (Option.some.inj h).symm
  | succ count ih =>
      simp only [scheduleChecked, schedule] at h ⊢
      split at h
      · next hcap =>
          obtain ⟨rest, hrest, rfl⟩ := Option.map_eq_some_iff.mp h
          rw [if_pos hcap, ← ih _ hrest]
      · next hcap =>
          obtain ⟨free, hfree, hmap⟩ := Option.bind_eq_some_iff.mp h
          obtain ⟨rest, hrest, rfl⟩ := Option.map_eq_some_iff.mp hmap
          rw [if_neg hcap, ← (addTime_eq_some.mp hfree).2, ← ih _ hrest]

/-- Copies are laid out within range exactly when the last of them is off the
wire in time. -/
theorem scheduleChecked_isSome (hearliest : -2 ^ 63 ≤ earliest) (count : Nat)
    (nextTransmit : Int) :
    (scheduleChecked configuration frameBytes earliest (count + 1) nextTransmit).isSome = true ↔
      (configuration.bandwidthBitsPerSecond ≠ 0 →
        max earliest nextTransmit + ((count + 1 : Nat) : Int) *
          transmissionTime frameBytes configuration.bandwidthBitsPerSecond ≤ nanosecondsMax) := by
  have hnonneg := transmissionTime_nonneg frameBytes configuration.bandwidthBitsPerSecond
  by_cases hcap : configuration.bandwidthBitsPerSecond = 0
  · have hfree : ∀ n next, (scheduleChecked configuration frameBytes earliest n next).isSome = true := by
      intro n
      induction n with
      | zero => exact fun _ => rfl
      | succ n ih =>
          intro next
          rw [scheduleChecked, if_pos hcap, Option.isSome_map]
          exact ih next
    simp only [hfree, hcap, ne_eq, not_true_eq_false, false_implies]
  · simp only [ne_eq, hcap, not_false_eq_true, true_implies]
    generalize htime : transmissionTime frameBytes configuration.bandwidthBitsPerSecond = time
      at hnonneg
    induction count generalizing nextTransmit with
    | zero =>
        simp only [scheduleChecked, if_neg hcap, htime, Nat.zero_add, Nat.cast_one, one_mul]
        by_cases hfits : Representable (max earliest nextTransmit + time)
        · simp only [addTime, if_pos hfits, Option.bind_some, Option.map_some, Option.isSome_some,
            true_iff]
          exact hfits.2
        · simp only [addTime, if_neg hfits, Option.bind_none, Option.isSome_none,
            Bool.false_eq_true, false_iff]
          exact fun hlast => hfits ⟨by omega, hlast⟩
    | succ count ih =>
        have hmore : 0 ≤ ((count + 1 : Nat) : Int) * time :=
          mul_nonneg (Int.natCast_nonneg _) hnonneg
        have hsplit : ((count + 1 + 1 : Nat) : Int) * time =
            ((count + 1 : Nat) : Int) * time + time := by
          rw [Nat.cast_succ (count + 1), add_mul, one_mul]
        rw [scheduleChecked, if_neg hcap, hsplit]
        simp only [htime]
        by_cases hfits : Representable (max earliest nextTransmit + time)
        · simp only [addTime, if_pos hfits, Option.bind_some, Option.isSome_map, ih]
          omega
        · simp only [addTime, if_neg hfits, Option.bind_none, Option.isSome_none,
            Bool.false_eq_true, false_iff]
          exact fun hlast => hfits ⟨by omega, by omega⟩

/-- No copy is laid out before the earliest time. -/
theorem earliest_le_schedule (count : Nat) (nextTransmit : Int) :
    ∀ time ∈ (schedule configuration frameBytes earliest count nextTransmit).1,
      earliest ≤ time := by
  induction count generalizing nextTransmit with
  | zero => exact fun time htime => absurd htime (by simp [schedule])
  | succ count ih =>
      intro time htime
      simp only [schedule] at htime
      split at htime
      · rcases List.mem_cons.mp htime with rfl | hrest
        · exact le_refl _
        · exact ih _ time hrest
      · rcases List.mem_cons.mp htime with rfl | hrest
        · exact le_max_left _ _
        · exact ih _ time hrest

end

end FaultEngine

namespace FaultState

open FaultEngine

section
variable {state : FaultState} {frameBytes : UInt64} {arrival : Int}

/-- What is judged within range is what is judged without one. -/
theorem judge_of_checked {out : FaultDecision × UInt64 × Int}
    (h : state.judgeChecked frameBytes arrival = some out) :
    out = state.judge frameBytes arrival := by
  simp only [judgeChecked, judge] at h ⊢
  by_cases hblocked : (state.configuration.blackhole || state.configuration.isolated) = true
  · rw [if_pos hblocked] at h ⊢
    exact (Option.some.inj h).symm
  · rw [if_neg hblocked] at h ⊢
    by_cases hlost : (boundedRandom state.randomState (basisPointsPerPercentage - 1).toUInt64).1 <
        state.configuration.lossBasisPoints.toUInt64
    · rw [if_pos hlost] at h ⊢
      exact (Option.some.inj h).symm
    · rw [if_neg hlost] at h ⊢
      obtain ⟨delayed, hdelayed, h⟩ := Option.bind_eq_some_iff.mp h
      obtain ⟨earliest, hearliest, h⟩ := Option.bind_eq_some_iff.mp h
      obtain ⟨deliveries, hdeliveries, rfl⟩ := Option.map_eq_some_iff.mp h
      rw [schedule_of_checked _ _ hdeliveries, (addTime_eq_some.mp hearliest).2,
        (addTime_eq_some.mp hdelayed).2]

/-- **A frame is judged within range exactly when its times are.** -/
theorem judgeChecked_isSome (hacceptable : state.configuration.Acceptable)
    (harrival : Representable arrival) :
    (state.judgeChecked frameBytes arrival).isSome = true ↔ state.InRange frameBytes arrival := by
  simp only [judgeChecked, InRange, due?, drawnCopies]
  by_cases hblocked : (state.configuration.blackhole || state.configuration.isolated) = true
  · simp only [if_pos hblocked, Option.isSome_some, true_iff]
    exact fun due hdue => absurd hdue (by simp)
  · rw [if_neg hblocked, if_neg hblocked]
    generalize boundedRandom state.randomState (basisPointsPerPercentage - 1).toUInt64 = loss
    by_cases hlost : loss.1 < state.configuration.lossBasisPoints.toUInt64
    · simp only [if_pos hlost, Option.isSome_some, true_iff]
      exact fun due hdue => absurd hdue (by simp)
    · rw [if_neg hlost, if_neg hlost]
      generalize boundedRandom loss.2 (basisPointsPerPercentage - 1).toUInt64 = duplication
      generalize hjitter : (boundedRandom duplication.2
        (UInt64.ofNat state.configuration.jitter.toNat)).1.toNat = jitter
      have hlatency := hacceptable.1
      obtain ⟨hlow, hhigh⟩ := harrival
      -- One copy or two, there is a last one.
      obtain ⟨more, hcopies⟩ : ∃ more : Nat, (if duplication.1 <
          state.configuration.duplicationBasisPoints.toUInt64 then 2 else 1) = more + 1 := by
        split
        · exact ⟨1, rfl⟩
        · exact ⟨0, rfl⟩
      simp only [hcopies, Option.mem_def, Option.some.injEq, forall_eq']
      by_cases hdelayed : Representable (arrival + state.configuration.latency)
      · by_cases hdue : Representable (arrival + state.configuration.latency + jitter)
        · simp only [addTime, if_pos hdelayed, if_pos hdue, Option.bind_some, Option.isSome_map]
          rw [scheduleChecked_isSome hdue.1]
          exact ⟨fun h => ⟨hdue.2, h⟩, fun h => h.2⟩
        · simp only [addTime, if_pos hdelayed, if_neg hdue, Option.bind_some, Option.bind_none,
            Option.isSome_none, Bool.false_eq_true, false_iff]
          exact fun h => hdue ⟨by omega, h.1⟩
      · simp only [addTime, if_neg hdelayed, Option.bind_none, Option.isSome_none,
          Bool.false_eq_true, false_iff]
        exact fun h => hdelayed ⟨by omega, by omega⟩

/-- The copies of a frame that is due are laid out from then on. -/
private theorem times_judge (state : FaultState) (frameBytes : UInt64) (arrival : Int) :
    match state.due? arrival with
    | none => (state.judge frameBytes arrival).1.deliveryTimes = []
    | some due => ∃ count, (state.judge frameBytes arrival).1.deliveryTimes =
        (schedule state.configuration frameBytes due count state.nextTransmitTime).1 := by
  unfold judge due?
  simp only
  split_ifs
  · rfl
  · rfl
  · exact ⟨2, rfl⟩
  · exact ⟨1, rfl⟩

/-- No frame is due before it has arrived. -/
private theorem arrival_le_due (hacceptable : state.configuration.Acceptable) {due : Int}
    (h : state.due? arrival = some due) : arrival ≤ due := by
  have hlatency := hacceptable.1
  unfold due? at h
  simp only at h
  split_ifs at h
  have hdue := Option.some.inj h
  omega

/-- No copy of a frame is delivered before the frame has arrived. -/
theorem arrival_le_judge (hacceptable : state.configuration.Acceptable) (frameBytes : UInt64) :
    ∀ time ∈ (state.judge frameBytes arrival).1.deliveryTimes, arrival ≤ time := by
  have htimes := times_judge state frameBytes arrival
  intro time htime
  cases hdue : state.due? arrival with
  | none =>
      rw [hdue] at htimes
      simp only [htimes] at htime
      exact absurd htime (by simp)
  | some due =>
      rw [hdue] at htimes
      obtain ⟨count, hcount⟩ := htimes
      rw [hcount] at htime
      exact (arrival_le_due hacceptable hdue).trans (earliest_le_schedule count _ time htime)

end

end FaultState

namespace FaultEngine

/-- A target without a fault passes frames at once. -/
private theorem evaluate_eq_of_none {engine : FaultEngine} {target : Bytes} {frameBytes : UInt64}
    {arrival : Int} (h : engine.states.lookup target = none) :
    (engine.evaluate target frameBytes arrival).1 =
      { deliveryCount := 1, deliveryTimes := [arrival] } := by
  unfold evaluate
  split
  · rfl
  · next state hstate => exact absurd (h.symm.trans hstate) (by simp)

/-- A target with one has it judge the frame. -/
private theorem evaluate_eq_of_some {engine : FaultEngine} {target : Bytes} {frameBytes : UInt64}
    {arrival : Int} {state : FaultState} (h : engine.states.lookup target = some state) :
    (engine.evaluate target frameBytes arrival).1 = (state.judge frameBytes arrival).1 := by
  unfold evaluate
  split
  · next hnone => exact absurd (h.symm.trans hnone) (by simp)
  · next state' hstate =>
      obtain rfl := Option.some.inj (h.symm.trans hstate)
      rfl

/-- No copy of a frame is delivered before the frame has arrived. -/
theorem arrival_le_evaluate (engine : FaultEngine) (target : Bytes) (frameBytes : UInt64)
    (arrival : Int) :
    ∀ time ∈ (engine.evaluate target frameBytes arrival).1.deliveryTimes, arrival ≤ time := by
  cases hstate : engine.states.lookup target with
  | none =>
      rw [evaluate_eq_of_none hstate]
      intro time htime
      exact (List.mem_singleton.mp htime).ge
  | some state =>
      rw [evaluate_eq_of_some hstate]
      exact FaultState.arrival_le_judge (engine.accepted target state hstate) frameBytes

/-- One call: its time computations are right exactly when its times are in
range. -/
theorem timed_iff (engine : FaultEngine) (operation : FaultOperation)
    (harrival : ∀ target frameBytes arrival,
      operation = .evaluate target frameBytes arrival → Representable arrival) :
    engine.Timed operation ↔ engine.TimesInRange operation := by
  cases operation with
  | setFault target configuration => exact Iff.rfl
  | clearFault target => exact Iff.rfl
  | evaluate target frameBytes arrival =>
      have hrepresentable := harrival target frameBytes arrival rfl
      cases hstate : engine.states.lookup target with
      | none =>
          have hpasses : (engine.evaluate target frameBytes arrival).1 =
              { deliveryCount := 1, deliveryTimes := [arrival] } := evaluate_eq_of_none hstate
          simp only [Timed, TimesInRange, evaluateChecked, hstate, hpasses, List.mem_singleton,
            forall_eq, le_refl, and_self, Option.mem_def, reduceCtorEq, false_implies,
            implies_true]
      | some state =>
          have hacceptable := engine.accepted target state hstate
          have hjudged : (engine.evaluate target frameBytes arrival).1 =
              (state.judge frameBytes arrival).1 := evaluate_eq_of_some hstate
          simp only [Timed, TimesInRange, evaluateChecked, hstate, hjudged, Option.mem_def,
            Option.some.injEq, forall_eq']
          rw [← FaultState.judgeChecked_isSome hacceptable hrepresentable]
          constructor
          · rintro ⟨hchecked, _⟩
            obtain ⟨out, hout, _⟩ := Option.map_eq_some_iff.mp hchecked
            rw [hout]
            rfl
          · intro hsome
            obtain ⟨out, hout⟩ := Option.isSome_iff_exists.mp hsome
            refine ⟨?_, FaultState.arrival_le_judge hacceptable frameBytes⟩
            rw [hout, FaultState.judge_of_checked hout, Option.map_some]

end FaultEngine

/-- The engine over its calls. -/
def faultCalls : TSys FaultEngine FaultOperation where
  init _ := True
  step engine operation := some (engine.perform operation).2

/-- **Fault timing never overflows exactly when no frame's times leave the
clock's range.** Over any run of `set_fault`, `clear_fault` and `evaluate` calls
of an engine with arrivals that the clock can represent, every time computation
stays in range and every delivery is at or after its frame's arrival, if and only
if every frame that is due is due in range, and on a capped target is off the wire
in range. -/
theorem fault_timing_iff (engine : FaultEngine) (operations : List FaultOperation)
    (harrivals : ∀ target frameBytes arrival, .evaluate target frameBytes arrival ∈ operations →
      Representable arrival) :
    faultCalls.Steps (fun engine operation _ => engine.Timed operation) engine operations ↔
      faultCalls.Steps (fun engine operation _ => engine.TimesInRange operation) engine
        operations := by
  induction operations generalizing engine with
  | nil => exact Iff.rfl
  | cons operation operations ih =>
      have hone := engine.timed_iff operation fun target frameBytes arrival h =>
        harrivals target frameBytes arrival (by simp [h])
      have hrest := fun next => ih next fun target frameBytes arrival h =>
        harrivals target frameBytes arrival (by simp [h])
      simp only [TSys.Steps, hone, hrest]

/-- Two frames on a line of a million bits a second with a latency of five
milliseconds. -/
theorem fault_timing_iff_slowLine :
    faultCalls.Steps (fun engine operation _ => engine.Timed operation) {}
      [.setFault (bytes "h1") { latency := 5000000, bandwidthBitsPerSecond := 1000000 },
       .evaluate (bytes "h1") 1250 0, .evaluate (bytes "h1") 1250 1000] :=
  (fault_timing_iff {} _ (by
    intro target frameBytes arrival h
    simp only [List.mem_cons, FaultOperation.evaluate.injEq, reduceCtorEq, false_or,
      List.not_mem_nil, or_false] at h
    rcases h with ⟨_, _, rfl⟩ | ⟨_, _, rfl⟩
    · decide
    · decide)).mpr (by decide +kernel)

/-- The largest latency there is, and a frame that arrives a nanosecond after the
clock's epoch. -/
theorem fault_timing_overflows :
    ¬faultCalls.Steps (fun engine operation _ => engine.Timed operation) {}
      [.setFault (bytes "h1") { latency := 9223372036854775807 },
       .evaluate (bytes "h1") 64 1] := by
  intro h
  obtain ⟨⟨hchecked, _⟩, _⟩ := (h _ rfl).2 _ rfl
  have hnone : (faultCalls.exec {} [.setFault (bytes "h1") { latency := 9223372036854775807 }]).bind
      (fun engine => engine.evaluateChecked (bytes "h1") 64 1) = none := by decide +kernel
  exact absurd (hchecked.symm.trans hnone) (by simp)

end WireLab
