import Mathlib.Tactic.Ring
import WireLab.Base.Cells
import WireLab.Base.Pacing
import WireLab.Model.FaultEngine

/-!
# Runs of the fault engine

A run is any sequence of `set_fault`, `clear_fault` and `evaluate` calls. The
engine keeps one cell a target, the configured state beside the engine's seed,
and every call concerns the cell of its own target (`faultCells`).
-/

namespace WireLab

open Base

/-- A call of the engine. -/
inductive FaultOperation
  | setFault (target : Bytes) (configuration : FaultConfiguration)
  | clearFault (target : Bytes)
  | evaluate (target : Bytes) (frameBytes : UInt64) (arrival : Int)
  deriving DecidableEq, Repr

/-- What a call returns. -/
inductive FaultAnswer
  | installed (result : Except FaultConfigurationError Unit)
  | cleared (configured : Bool)
  | decided (decision : FaultDecision)

/-- The target a call names. -/
def FaultOperation.target : FaultOperation → Bytes
  | .setFault target _ => target
  | .clearFault target => target
  | .evaluate target _ _ => target

/-- The decision a call returned, if it was about a frame. -/
def FaultAnswer.decision? : FaultAnswer → Option FaultDecision
  | .decided decision => some decision
  | _ => none

namespace FaultEngine

/-- Make one call; a refused configuration leaves the engine as it was. -/
def perform (engine : FaultEngine) : FaultOperation → FaultAnswer × FaultEngine
  | .setFault target configuration =>
      match engine.setFault target configuration with
      | .error e => (.installed (.error e), engine)
      | .ok engine => (.installed (.ok ()), engine)
  | .clearFault target =>
      let cleared := engine.clearFault target
      (.cleared cleared.1, cleared.2)
  | .evaluate target frameBytes arrival =>
      let evaluated := engine.evaluate target frameBytes arrival
      (.decided evaluated.1, evaluated.2)

/-- What the engine keeps for a target, with the seed a new stream starts
from. -/
def cell (engine : FaultEngine) (target : Bytes) : UInt64 × Option FaultState :=
  (engine.seed, engine.states.lookup target)

/-- A call, seen by the cell of its target. -/
def act (cell : UInt64 × Option FaultState) :
    FaultOperation → FaultAnswer × UInt64 × Option FaultState
  | .setFault target configuration =>
      match validate target configuration with
      | .error e => (.installed (.error e), cell)
      | .ok () =>
          (.installed (.ok ()), cell.1,
            some { configuration, randomState := targetSeed cell.1 target })
  | .clearFault _ => (.cleared cell.2.isSome, cell.1, none)
  | .evaluate _ frameBytes arrival =>
      match cell.2 with
      | none => (.decided { deliveryCount := 1, deliveryTimes := [arrival] }, cell)
      | some state =>
          let judged := state.judge frameBytes arrival
          (.decided judged.1, cell.1, some (state.advance judged.2.1 judged.2.2))

/-! ## The engine is a store of cells -/

section
variable {engine engine' : FaultEngine} {target other : Bytes} {configuration : FaultConfiguration}

/-- What an accepted `set_fault` leaves in the cells. -/
theorem cell_setFault (other : Bytes) (h : engine.setFault target configuration = .ok engine') :
    validate target configuration = .ok () ∧
      engine'.cell other =
        if other = target then
          (engine.seed, some { configuration, randomState := targetSeed engine.seed target })
        else engine.cell other := by
  unfold setFault at h
  split at h
  · exact absurd h (by simp)
  · next hvalid =>
      obtain rfl := Except.ok.inj h
      refine ⟨hvalid, ?_⟩
      simp only [cell, Dict.lookup_insert]
      split
      · rfl
      · rfl

/-- A refused `set_fault` failed its checks. -/
theorem validate_of_setFault_error {e : FaultConfigurationError}
    (h : engine.setFault target configuration = .error e) :
    validate target configuration = .error e := by
  unfold setFault at h
  split at h
  · next hvalid => rw [hvalid, Except.error.inj h]
  · exact absurd h (by simp)

/-- What `clear_fault` leaves in the cells. -/
theorem cell_clearFault (engine : FaultEngine) (target other : Bytes) :
    (engine.clearFault target).2.cell other =
      if other = target then (engine.seed, none) else engine.cell other := by
  unfold clearFault
  split
  · simp only [cell, Dict.lookup_erase]
    split
    · rfl
    · rfl
  · next hnone =>
      split
      · next heq => rw [heq, cell, Option.not_isSome_iff_eq_none.mp hnone]
      · rfl

/-- What judging a frame leaves in the cells. -/
theorem cell_evaluate (engine : FaultEngine) (target other : Bytes) (frameBytes : UInt64)
    (arrival : Int) :
    FaultAnswer.decided (engine.evaluate target frameBytes arrival).1 =
        (act (engine.cell target) (.evaluate target frameBytes arrival)).1 ∧
      (engine.evaluate target frameBytes arrival).2.cell other =
        if other = target then (act (engine.cell target) (.evaluate target frameBytes arrival)).2
        else engine.cell other := by
  unfold evaluate
  split
  · next hnone =>
      simp only [act, cell, hnone, true_and]
      split
      · next heq => rw [heq, hnone]
      · rfl
  · next state hstate =>
      simp only [act, cell, hstate, Dict.lookup_insert, true_and]
      split
      · rfl
      · rfl

/-- Every call answers from the cell of its target and changes no other. -/
theorem perform_act (engine : FaultEngine) (operation : FaultOperation) (other : Bytes) :
    (engine.perform operation).1 = (act (engine.cell operation.target) operation).1 ∧
      (engine.perform operation).2.cell other =
        if other = operation.target then (act (engine.cell operation.target) operation).2
        else engine.cell other := by
  cases operation with
  | setFault target configuration =>
      simp only [perform, FaultOperation.target]
      cases hset : engine.setFault target configuration with
      | error e =>
          simp only [act, validate_of_setFault_error hset, true_and]
          split
          · next heq => rw [heq]
          · rfl
      | ok engine' =>
          obtain ⟨hvalid, hcell⟩ := cell_setFault other hset
          simp only [act, hvalid, true_and]
          exact hcell
  | clearFault target =>
      simp only [perform, FaultOperation.target, act, cell_clearFault, clearFault_fst, faultFor,
        Option.isSome_map]
      exact ⟨rfl, rfl⟩
  | evaluate target frameBytes arrival => exact cell_evaluate engine target other frameBytes arrival

end

end FaultEngine

/-- The engine as a store of one cell a target. -/
def faultCells : Cells FaultEngine Bytes (UInt64 × Option FaultState) FaultOperation FaultAnswer where
  run := FaultEngine.perform
  key := FaultOperation.target
  cell := FaultEngine.cell
  act := FaultEngine.act
  own engine operation := by
    obtain ⟨hanswer, hcell⟩ := engine.perform_act operation operation.target
    exact ⟨hanswer, hcell.trans (if_pos rfl)⟩
  other engine operation target htarget :=
    (engine.perform_act operation target).2.trans (if_neg htarget)

/-! ## The copies a target delivers -/

/-- A copy of a frame, with the time it is due. -/
structure DeliveredCopy where
  time : Int
  arrival : Int
  frameBytes : UInt64
  deriving DecidableEq, Repr

/-- The copies a decision about a frame delivers; a dropped frame has none. -/
def FaultDecision.copies (decision : FaultDecision) (frameBytes : UInt64) (arrival : Int) :
    List DeliveredCopy :=
  decision.deliveryTimes.map fun time => { time, arrival, frameBytes }

/-- The copies a call delivers. -/
def FaultOperation.copies : FaultOperation → FaultAnswer → List DeliveredCopy
  | .evaluate _ frameBytes arrival, .decided decision => decision.copies frameBytes arrival
  | _, _ => []

/-- The copies a run delivers from a target, in the order of the calls. -/
def FaultEngine.copies (target : Bytes) : FaultEngine → List FaultOperation → List DeliveredCopy
  | _, [] => []
  | engine, operation :: operations =>
      (if operation.target = target then operation.copies (engine.perform operation).1 else []) ++
        FaultEngine.copies target (engine.perform operation).2 operations

/-- How long a copy occupies the wire at a bandwidth. -/
def DeliveredCopy.airtime (bitsPerSecond : UInt64) (copy : DeliveredCopy) : Int :=
  FaultEngine.transmissionTime copy.frameBytes bitsPerSecond

/-- The bits of a copy. -/
def DeliveredCopy.bits (copy : DeliveredCopy) : Nat := copy.frameBytes.toNat * 8

namespace FaultEngine

theorem transmissionTime_nonneg (frameBytes bitsPerSecond : UInt64) :
    0 ≤ transmissionTime frameBytes bitsPerSecond := by
  unfold transmissionTime
  simp only
  split_ifs
  · exact le_refl 0
  · decide
  · decide
  · exact Int.natCast_nonneg _

/-- The rounded-up quotient, split into whole seconds and the rest. -/
private theorem ceilDiv_split (bits unit rate : Nat) (hrate : 0 < rate) :
    bits / rate * unit + (bits % rate * unit + rate - 1) / rate =
      (bits * unit + rate - 1) / rate := by
  have hsplit : bits * unit + rate - 1 =
      (bits % rate * unit + rate - 1) + rate * (bits / rate * unit) := by
    have hmul : bits * unit = bits % rate * unit + rate * (bits / rate * unit) := by
      conv_lhs => rw [← Nat.mod_add_div bits rate]
      ring
    omega
  rw [hsplit, Nat.add_mul_div_left _ _ hrate, Nat.add_comm]

/-- Where nothing overflows, a transmission takes its bits over the bandwidth, rounded
up to a nanosecond. -/
theorem transmissionTime_fits {frameBytes bitsPerSecond : UInt64}
    (hframe : frameBytes.toNat ≤ 65535) (hpos : 0 < bitsPerSecond.toNat)
    (hfits : frameBytes.toNat * 8 * 10 ^ 9 + bitsPerSecond.toNat < 2 ^ 64) :
    transmissionTime frameBytes bitsPerSecond =
      ((frameBytes.toNat * 8 * 10 ^ 9 + bitsPerSecond.toNat - 1) / bitsPerSecond.toNat : Nat) := by
  have hbits : (frameBytes * 8).toNat = frameBytes.toNat * 8 := by
    have hbyte : (8 : UInt64).toNat = 8 := rfl
    rw [UInt64.toNat_mul, hbyte]
    exact Nat.mod_eq_of_lt (by omega)
  unfold transmissionTime
  simp only
  generalize frameBytes * 8 = bits at hbits
  rw [← hbits]
  have hbound : bits.toNat ≤ 524280 := by omega
  have hsum : bits.toNat % bitsPerSecond.toNat * 10 ^ 9 + bitsPerSecond.toNat < 2 ^ 64 := by
    rw [← hbits] at hfits
    exact lt_of_le_of_lt (Nat.add_le_add_right (Nat.mul_le_mul_right _ (Nat.mod_le _ _)) _) hfits
  clear hbits hfits
  have hunit : nanosecondsPerSecond.toNat = 10 ^ 9 := rfl
  have hseconds : (bits / bitsPerSecond).toNat = bits.toNat / bitsPerSecond.toNat :=
    UInt64.toNat_div _ _
  have hremainder : (bits % bitsPerSecond).toNat = bits.toNat % bitsPerSecond.toNat :=
    UInt64.toNat_mod _ _
  have hfew : bits.toNat / bitsPerSecond.toNat ≤ bits.toNat := Nat.div_le_self _ _
  have hless : bits.toNat % bitsPerSecond.toNat ≤ bits.toNat := Nat.mod_le _ _
  -- neither the whole seconds nor the rest of them wrap
  have hwhole : (bits / bitsPerSecond * nanosecondsPerSecond).toNat =
      bits.toNat / bitsPerSecond.toNat * 10 ^ 9 := by
    rw [UInt64.toNat_mul, hseconds, hunit]
    clear hsum
    exact Nat.mod_eq_of_lt (by omega)
  have hpart : (bits % bitsPerSecond * nanosecondsPerSecond + bitsPerSecond - 1).toNat =
      bits.toNat % bitsPerSecond.toNat * 10 ^ 9 + bitsPerSecond.toNat - 1 := by
    have hraised : (bits % bitsPerSecond * nanosecondsPerSecond + bitsPerSecond).toNat =
        bits.toNat % bitsPerSecond.toNat * 10 ^ 9 + bitsPerSecond.toNat := by
      rw [UInt64.toNat_add, UInt64.toNat_mul, hremainder, hunit,
        Nat.mod_eq_of_lt (lt_of_le_of_lt (Nat.le_add_right _ _) hsum), Nat.mod_eq_of_lt hsum]
    have hone : (1 : UInt64).toNat = 1 := rfl
    have hle : (1 : UInt64) ≤ bits % bitsPerSecond * nanosecondsPerSecond + bitsPerSecond := by
      rw [UInt64.le_iff_toNat_le, hraised, hone]
      exact le_trans hpos (Nat.le_add_left _ _)
    rw [UInt64.toNat_sub_of_le _ _ hle, hraised, hone]
  clear hsum
  have htotal := ceilDiv_split bits.toNat (10 ^ 9) bitsPerSecond.toNat hpos
  have hsmall : (bits.toNat * 10 ^ 9 + bitsPerSecond.toNat - 1) / bitsPerSecond.toNat ≤
      bits.toNat * 10 ^ 9 := by
    rw [Nat.div_le_iff_le_mul_add_pred hpos]
    have : bits.toNat * 10 ^ 9 ≤ bitsPerSecond.toNat * (bits.toNat * 10 ^ 9) :=
      Nat.le_mul_of_pos_left _ hpos
    omega
  have hnanoseconds : (bits / bitsPerSecond * nanosecondsPerSecond +
      (bits % bitsPerSecond * nanosecondsPerSecond + bitsPerSecond - 1) / bitsPerSecond).toNat =
      (bits.toNat * 10 ^ 9 + bitsPerSecond.toNat - 1) / bitsPerSecond.toNat := by
    rw [UInt64.toNat_add, hwhole, UInt64.toNat_div, hpart, htotal]
    exact Nat.mod_eq_of_lt (by omega)
  split_ifs with hzero hmany hlong
  · -- An empty frame takes no time.
    subst hzero
    have hnone : ((0 : UInt64).toNat * 10 ^ 9 + bitsPerSecond.toNat - 1) / bitsPerSecond.toNat =
        0 := by
      rw [UInt64.toNat_zero, Nat.zero_mul, Nat.zero_add]
      exact Nat.div_eq_of_lt (by omega)
    rw [hnone]
    rfl
  · -- The seconds fit.
    have hmost : (UInt64.ofNat (2 ^ 64 - 1) / nanosecondsPerSecond).toNat = 18446744073 := rfl
    have := UInt64.lt_iff_toNat_lt.mp hmany
    omega
  · -- So do the nanoseconds.
    rw [hnanoseconds, nanosecondsMax] at hlong
    omega
  · rw [hnanoseconds]

/-- **Nothing overflows**: for frames of at most 65535 bytes and bandwidths up to
2⁶³ a transmission takes its bits over the bandwidth, rounded up to a
nanosecond. -/
theorem transmissionTime_eq {frameBytes bitsPerSecond : UInt64} (hframe : frameBytes.toNat ≤ 65535)
    (hpos : 0 < bitsPerSecond.toNat) (hle : bitsPerSecond.toNat ≤ 2 ^ 63) :
    transmissionTime frameBytes bitsPerSecond =
      ((frameBytes.toNat * 8 * 10 ^ 9 + bitsPerSecond.toNat - 1) / bitsPerSecond.toNat : Nat) :=
  transmissionTime_fits hframe hpos (by omega)

end FaultEngine

/-! ## Pacing -/

section
variable {configuration : FaultConfiguration}

/-- The copies `schedule` lays out wait for one another, from the end of the
last transmission on. -/
theorem schedule_paced (hcap : configuration.bandwidthBitsPerSecond ≠ 0) (frameBytes : UInt64)
    (earliest arrival : Int) (count : Nat) (nextTransmit : Int) :
    let scheduled := FaultEngine.schedule configuration frameBytes earliest count nextTransmit
    let copies := scheduled.1.map fun time => ({ time, arrival, frameBytes } : DeliveredCopy)
    let airtime := DeliveredCopy.airtime configuration.bandwidthBitsPerSecond
    Paced DeliveredCopy.time airtime nextTransmit copies ∧
      finish DeliveredCopy.time airtime nextTransmit copies = scheduled.2 ∧
      ∀ copy ∈ copies, earliest ≤ copy.time := by
  induction count generalizing nextTransmit with
  | zero => exact ⟨trivial, rfl, by simp [FaultEngine.schedule]⟩
  | succ count ih =>
      obtain ⟨hpaced, hfinish, hearliest⟩ := ih (max earliest nextTransmit +
        FaultEngine.transmissionTime frameBytes configuration.bandwidthBitsPerSecond)
      simp only [FaultEngine.schedule, if_neg hcap, List.map_cons, Paced, finish]
      refine ⟨⟨le_max_right _ _, hpaced⟩, hfinish, ?_⟩
      intro copy hcopy
      rcases List.mem_cons.mp hcopy with rfl | hcopy
      · exact le_max_left _ _
      · exact hearliest copy hcopy

/-- **One frame against a capped target**: its copies wait for the last
transmission and for one another, and none leaves before the configured
latency has passed. -/
theorem FaultState.judge_paced (state : FaultState)
    (hcap : state.configuration.bandwidthBitsPerSecond ≠ 0) (frameBytes : UInt64) (arrival : Int) :
    let judged := state.judge frameBytes arrival
    let copies := judged.1.copies frameBytes arrival
    let airtime := DeliveredCopy.airtime state.configuration.bandwidthBitsPerSecond
    Paced DeliveredCopy.time airtime state.nextTransmitTime copies ∧
      finish DeliveredCopy.time airtime state.nextTransmitTime copies = judged.2.2 ∧
      ∀ copy ∈ copies, copy.arrival + state.configuration.latency ≤ copy.time ∧
        copy.frameBytes = frameBytes := by
  unfold judge
  simp only
  split_ifs
  · exact ⟨trivial, rfl, by simp [FaultDecision.copies]⟩
  · exact ⟨trivial, rfl, by simp [FaultDecision.copies]⟩
  all_goals
    refine ⟨(schedule_paced hcap _ _ _ _ _).1, (schedule_paced hcap _ _ _ _ _).2.1, ?_⟩
    intro copy hcopy
    have hearliest := (schedule_paced hcap _ _ arrival _ _).2.2 copy hcopy
    obtain ⟨time, _, rfl⟩ := List.mem_map.mp hcopy
    refine ⟨?_, rfl⟩
    simp only at hearliest ⊢
    omega

/-- When a frame is due at the earliest, by what its target draws for it: its
arrival, the configured latency and the jitter. A frame that is dropped is not
due at all. -/
def FaultState.due? (state : FaultState) (arrival : Int) : Option Int :=
  let configuration := state.configuration
  if configuration.blackhole || configuration.isolated then none
  else
    let loss := FaultEngine.boundedRandom state.randomState
      (basisPointsPerPercentage - 1).toUInt64
    if loss.1 < configuration.lossBasisPoints.toUInt64 then none
    else
      let duplication := FaultEngine.boundedRandom loss.2
        (basisPointsPerPercentage - 1).toUInt64
      let jitter := FaultEngine.boundedRandom duplication.2
        (UInt64.ofNat configuration.jitter.toNat)
      some (arrival + configuration.latency + jitter.1.toNat)

/-- A frame that is due leaves when the line is free, and its duplicate after it;
a frame that is not has no copies. -/
theorem FaultState.copies_judge (state : FaultState)
    (hcap : state.configuration.bandwidthBitsPerSecond ≠ 0) (frameBytes : UInt64) (arrival : Int) :
    match state.due? arrival with
    | none => (state.judge frameBytes arrival).1.copies frameBytes arrival = []
    | some due => ∃ more, (state.judge frameBytes arrival).1.copies frameBytes arrival =
        { time := max due state.nextTransmitTime, arrival, frameBytes } :: more := by
  unfold judge due?
  simp only
  split_ifs
  · rfl
  · rfl
  all_goals
    simp only [FaultDecision.copies, FaultEngine.schedule, if_neg hcap, List.map_cons]
    exact ⟨_, rfl⟩

/-- Every call about the target judges a frame. -/
def OnlyFrames (target : Bytes) (operations : List FaultOperation) : Prop :=
  ∀ operation ∈ operations, operation.target = target →
    ∃ frameBytes arrival, operation = .evaluate target frameBytes arrival ∧
      frameBytes.toNat ≤ 65535

/-- What a call leaves of a target that another call is about. -/
theorem FaultEngine.cell_perform_other {engine : FaultEngine} {operation : FaultOperation}
    {target : Bytes} (h : operation.target ≠ target) :
    (engine.perform operation).2.cell target = engine.cell target :=
  faultCells.other engine operation target (Ne.symm h)

/-- What judging a frame returns and leaves of a configured target. -/
theorem FaultEngine.evaluate_configured {engine : FaultEngine} {target : Bytes} {seed : UInt64}
    {state : FaultState} (hcell : engine.cell target = (seed, some state)) (frameBytes : UInt64)
    (arrival : Int) :
    (engine.evaluate target frameBytes arrival).1 = (state.judge frameBytes arrival).1 ∧
      (engine.evaluate target frameBytes arrival).2.cell target =
        (seed, some (state.advance (state.judge frameBytes arrival).2.1
          (state.judge frameBytes arrival).2.2)) := by
  obtain ⟨hanswer, hcells⟩ := engine.cell_evaluate target target frameBytes arrival
  rw [hcell] at hanswer hcells
  exact ⟨FaultAnswer.decided.inj hanswer, hcells.trans (if_pos rfl)⟩

/-- The copies of a run of frames are paced from the end of the last
transmission on. -/
theorem FaultEngine.copies_paced {target : Bytes}
    (hcap : configuration.bandwidthBitsPerSecond ≠ 0) (operations : List FaultOperation)
    (hframes : OnlyFrames target operations) {engine : FaultEngine} {seed : UInt64}
    {state : FaultState} (hcell : engine.cell target = (seed, some state))
    (hstate : state.configuration = configuration) :
    Paced DeliveredCopy.time (DeliveredCopy.airtime configuration.bandwidthBitsPerSecond)
        state.nextTransmitTime (engine.copies target operations) ∧
      ∀ copy ∈ engine.copies target operations,
        copy.arrival + configuration.latency ≤ copy.time ∧ copy.frameBytes.toNat ≤ 65535 := by
  induction operations generalizing engine state with
  | nil => exact ⟨trivial, by simp [FaultEngine.copies]⟩
  | cons operation operations ih =>
      have hrest : OnlyFrames target operations := fun o ho => hframes o (by simp [ho])
      rw [FaultEngine.copies]
      by_cases htarget : operation.target = target
      · -- The frame is judged by the target's own state.
        obtain ⟨frameBytes, arrival, rfl, hsmall⟩ := hframes operation (by simp) htarget
        subst hstate
        obtain ⟨hpaced, hfinish, hcopies⟩ := state.judge_paced hcap frameBytes arrival
        obtain ⟨hdecision, hafter⟩ := evaluate_configured hcell frameBytes arrival
        obtain ⟨hpaced', hcopies'⟩ := ih hrest hafter (state.advance_configuration _ _)
        rw [if_pos htarget, perform, FaultOperation.copies, hdecision]
        refine ⟨paced_append.mpr ⟨hpaced, ?_⟩, ?_⟩
        · rw [hfinish]
          exact hpaced'
        · intro copy hcopy
          rcases List.mem_append.mp hcopy with hcopy | hcopy
          · obtain ⟨htime, hbytes⟩ := hcopies copy hcopy
            exact ⟨htime, hbytes ▸ hsmall⟩
          · exact hcopies' copy hcopy
      · rw [if_neg htarget, List.nil_append]
        exact ih hrest ((cell_perform_other htarget).trans hcell) hstate

end

end WireLab
