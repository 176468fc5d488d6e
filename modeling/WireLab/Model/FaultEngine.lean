import WireLab.Base.Bytes
import WireLab.Base.Dict

/-!
# The fault engine

`fault_engine.cpp`: a map from target names to fault configurations, and the
decision a configured fault takes about one frame. Every target draws from a
random stream of its own, seeded from the engine's seed and the target's name.

`FaultEngine.accepted` carries what `validate` checked, so a configuration read
back from the engine is known to be one it accepted.
-/

namespace WireLab

open Base

/-- Why a fault was refused. -/
inductive FaultConfigurationError
  | missingTarget
  | negativeLatency
  | invalidLossPercentage
  | invalidDuplicationPercentage
  deriving DecidableEq, Repr

/-- What a fault does to the frames of its target. Durations are nanoseconds. -/
structure FaultConfiguration where
  latency : Int := 0
  jitter : Int := 0
  lossBasisPoints : UInt32 := 0
  duplicationBasisPoints : UInt32 := 0
  bandwidthBitsPerSecond : UInt64 := 0
  blackhole : Bool := false
  isolated : Bool := false
  deriving DecidableEq, Repr

/-- The fate of one frame: dropped, or delivered at each of these times. -/
structure FaultDecision where
  dropped : Bool := false
  deliveryCount : Nat := 0
  deliveryTimes : List Int := []
  deriving DecidableEq, Repr

/-- A configured target, with its random stream and the end of its last
transmission. -/
structure FaultState where
  configuration : FaultConfiguration
  randomState : UInt64 := 0
  nextTransmitTime : Int := 0
  deriving DecidableEq, Repr

/-- A configured target, as `active_faults` reports it. -/
structure ActiveFault where
  target : Bytes
  configuration : FaultConfiguration
  deriving DecidableEq, Repr

def basisPointsPerPercentage : UInt32 := 10000
def nanosecondsPerSecond : UInt64 := 1000000000
def fnvOffsetBasis : UInt64 := 14695981039346656037
def fnvPrime : UInt64 := 1099511628211

/-- `std::chrono::nanoseconds::max()`. -/
def nanosecondsMax : Int := 2 ^ 63 - 1

/-! ## Validation -/

/-- What `validate` asks of a configuration, whatever the target. -/
def FaultConfiguration.Acceptable (configuration : FaultConfiguration) : Prop :=
  0 ≤ configuration.latency ∧ 0 ≤ configuration.jitter ∧
    configuration.lossBasisPoints ≤ basisPointsPerPercentage ∧
    configuration.duplicationBasisPoints ≤ basisPointsPerPercentage

/-- The checks of `set_fault`, in the order it makes them. -/
def FaultEngine.validate (target : Bytes) (configuration : FaultConfiguration) :
    Except FaultConfigurationError Unit :=
  if target.isEmpty then .error .missingTarget
  else if configuration.latency < 0 ∨ configuration.jitter < 0 then .error .negativeLatency
  else if configuration.lossBasisPoints > basisPointsPerPercentage then
    .error .invalidLossPercentage
  else if configuration.duplicationBasisPoints > basisPointsPerPercentage then
    .error .invalidDuplicationPercentage
  else .ok ()

theorem FaultEngine.validate_eq_ok {target : Bytes} {configuration : FaultConfiguration} :
    validate target configuration = .ok () ↔ target ≠ [] ∧ configuration.Acceptable := by
  unfold validate FaultConfiguration.Acceptable
  simp only [List.isEmpty_iff, gt_iff_lt]
  split_ifs with htarget hlatency hloss hduplication
  · simp [htarget]
  · simp only [false_iff]
    omega
  · simp only [false_iff, not_and]
    intro _ _ _ h
    exact absurd hloss (UInt32.not_lt.mpr h)
  · simp only [false_iff, not_and]
    intro _ _ _ _ h
    exact absurd hduplication (UInt32.not_lt.mpr h)
  · simp only [true_iff]
    exact ⟨htarget, by omega, by omega, UInt32.not_lt.mp hloss, UInt32.not_lt.mp hduplication⟩

/-- The empty configuration passes its own checks. -/
theorem FaultConfiguration.acceptable_default : ({} : FaultConfiguration).Acceptable :=
  ⟨le_refl 0, le_refl 0, by decide, by decide⟩

/-! ## The engine -/

theorem noTargets_accepted : ∀ target state,
    (∅ : Dict Bytes FaultState).lookup target = some state → state.configuration.Acceptable := by
  intro _ _ h
  exact absurd h (by simp)

/-- The configured targets. Every stored configuration was accepted. -/
structure FaultEngine where
  seed : UInt64 := 1
  states : Dict Bytes FaultState := ∅
  accepted : ∀ target state, states.lookup target = some state →
    state.configuration.Acceptable := by
      exact noTargets_accepted

namespace FaultEngine

/-- FNV-1a over the target, started from the engine's seed. -/
def targetSeed (seed : UInt64) (target : Bytes) : UInt64 :=
  target.foldl (fun hash character => (hash ^^^ character.toUInt64) * fnvPrime)
    (fnvOffsetBasis ^^^ seed)

/-- One SplitMix64 step: the drawn value and the advanced state. -/
def nextRandom (state : UInt64) : UInt64 × UInt64 :=
  let state := state + 0x9E3779B97F4A7C15
  let value := (state ^^^ (state >>> 30)) * 0xBF58476D1CE4E5B9
  let value := (value ^^^ (value >>> 27)) * 0x94D049BB133111EB
  (value ^^^ (value >>> 31), state)

/-- A draw from `0 .. upperInclusive`; an empty range draws nothing. -/
def boundedRandom (state : UInt64) (upperInclusive : UInt64) : UInt64 × UInt64 :=
  if upperInclusive = 0 then (0, state)
  else
    let (value, state) := nextRandom state
    (value % (upperInclusive + 1), state)

/-- How long a frame occupies the wire, rounded up and saturating. -/
def transmissionTime (frameBytes bitsPerSecond : UInt64) : Int :=
  let bits := frameBytes * 8
  if bits = 0 then 0
  else
    let seconds := bits / bitsPerSecond
    let remainder := bits % bitsPerSecond
    if seconds > UInt64.ofNat (2 ^ 64 - 1) / nanosecondsPerSecond then nanosecondsMax
    else
      let nanoseconds := seconds * nanosecondsPerSecond +
        (remainder * nanosecondsPerSecond + bitsPerSecond - 1) / bitsPerSecond
      if (nanoseconds.toNat : Int) > nanosecondsMax then nanosecondsMax else nanoseconds.toNat

/-- Install a fault, replacing the target's previous one and its random
stream. -/
def setFault (engine : FaultEngine) (target : Bytes) (configuration : FaultConfiguration) :
    Except FaultConfigurationError FaultEngine :=
  match h : validate target configuration with
  | .error e => .error e
  | .ok () => .ok
      { engine with
        states := engine.states.insert target
          { configuration, randomState := targetSeed engine.seed target }
        accepted := by
          intro t state hstate
          rw [Dict.lookup_insert] at hstate
          split at hstate
          · obtain rfl := Option.some.inj hstate
            exact (validate_eq_ok.mp h).2
          · exact engine.accepted t state hstate }

/-- Remove a fault; the flag says whether there was one. -/
def clearFault (engine : FaultEngine) (target : Bytes) : Bool × FaultEngine :=
  if (engine.states.lookup target).isSome then
    (true,
      { engine with
        states := engine.states.erase target
        accepted := by
          intro t state hstate
          rw [Dict.lookup_erase] at hstate
          split at hstate
          · exact absurd hstate (by simp)
          · exact engine.accepted t state hstate })
  else (false, engine)

/-- The configuration of a target, if it has one. -/
def faultFor (engine : FaultEngine) (target : Bytes) : Option FaultConfiguration :=
  (engine.states.lookup target).map FaultState.configuration

/-- Every configured target, ordered by name. -/
def activeFaults (engine : FaultEngine) : List ActiveFault :=
  (engine.states.entries.map fun entry => { target := entry.1, configuration := entry.2.configuration
    : ActiveFault }).insertionSort fun left right => left.target ≤ right.target

/-- The delivery times of `copies` copies: each waits for the previous one when
bandwidth is limited. Returns the end of the last transmission too. -/
def schedule (configuration : FaultConfiguration) (frameBytes : UInt64) (earliest : Int) :
    Nat → Int → List Int × Int
  | 0, nextTransmit => ([], nextTransmit)
  | copies + 1, nextTransmit =>
      if configuration.bandwidthBitsPerSecond = 0 then
        let (times, nextTransmit) := schedule configuration frameBytes earliest copies nextTransmit
        (earliest :: times, nextTransmit)
      else
        let delivery := max earliest nextTransmit
        let (times, nextTransmit) := schedule configuration frameBytes earliest copies
          (delivery + transmissionTime frameBytes configuration.bandwidthBitsPerSecond)
        (delivery :: times, nextTransmit)

end FaultEngine

namespace FaultState

open FaultEngine

/-- What a frame leaves behind on a configured target. -/
def advance (state : FaultState) (random : UInt64) (nextTransmit : Int) : FaultState :=
  { state with randomState := random, nextTransmitTime := nextTransmit }

@[simp]
theorem advance_configuration (state : FaultState) (random : UInt64)
    (nextTransmit : Int) : (state.advance random nextTransmit).configuration = state.configuration :=
  rfl

/-- One frame against a configured target: the decision, the random stream
after it and the end of the last transmission. A blocked target draws nothing
from its random stream. -/
def judge (state : FaultState) (frameBytes : UInt64) (arrival : Int) :
    FaultDecision × UInt64 × Int :=
  let configuration := state.configuration
  if configuration.blackhole || configuration.isolated then
    ({ dropped := true }, state.randomState, state.nextTransmitTime)
  else
    let loss := boundedRandom state.randomState (basisPointsPerPercentage - 1).toUInt64
    if loss.1 < configuration.lossBasisPoints.toUInt64 then
      ({ dropped := true }, loss.2, state.nextTransmitTime)
    else
      let duplication := boundedRandom loss.2 (basisPointsPerPercentage - 1).toUInt64
      let deliveryCount :=
        if duplication.1 < configuration.duplicationBasisPoints.toUInt64 then 2 else 1
      let jitter := boundedRandom duplication.2 (UInt64.ofNat configuration.jitter.toNat)
      let earliest := arrival + configuration.latency + jitter.1.toNat
      let deliveries :=
        schedule configuration frameBytes earliest deliveryCount state.nextTransmitTime
      ({ deliveryCount, deliveryTimes := deliveries.1 }, jitter.2, deliveries.2)

end FaultState

namespace FaultEngine

/-- One frame against a target; a target without a fault delivers at once. -/
def evaluate (engine : FaultEngine) (target : Bytes) (frameBytes : UInt64) (arrival : Int) :
    FaultDecision × FaultEngine :=
  match h : engine.states.lookup target with
  | none => ({ deliveryCount := 1, deliveryTimes := [arrival] }, engine)
  | some state =>
      let judged := state.judge frameBytes arrival
      (judged.1,
        { engine with
          states := engine.states.insert target (state.advance judged.2.1 judged.2.2)
          accepted := by
            intro t st hst
            rw [Dict.lookup_insert] at hst
            split at hst
            · rw [← Option.some.inj hst, FaultState.advance_configuration]
              exact engine.accepted target state h
            · exact engine.accepted t st hst })

/-! ## What the operations do to the configurations -/

section
variable {engine engine' : FaultEngine} {target other : Bytes} {configuration : FaultConfiguration}

/-- What is configured was accepted. -/
theorem faultFor_acceptable (h : engine.faultFor target = some configuration) :
    configuration.Acceptable := by
  obtain ⟨state, hstate, rfl⟩ := Option.map_eq_some_iff.mp h
  exact engine.accepted target state hstate

/-- An acceptable fault on a named target is installed. -/
theorem setFault_ok (engine : FaultEngine) (htarget : target ≠ []) (hok : configuration.Acceptable) :
    ∃ engine', engine.setFault target configuration = .ok engine' := by
  unfold setFault
  split
  · next e h => exact absurd h (by rw [validate_eq_ok.mpr ⟨htarget, hok⟩]; simp)
  · exact ⟨_, rfl⟩

/-- Only acceptable faults are installed. -/
theorem acceptable_of_setFault (h : engine.setFault target configuration = .ok engine') :
    configuration.Acceptable := by
  unfold setFault at h
  split at h
  · exact absurd h (by simp)
  · next hvalid => exact (validate_eq_ok.mp hvalid).2

/-- Installing a fault sets that target and no other. -/
theorem faultFor_setFault (h : engine.setFault target configuration = .ok engine') :
    engine'.faultFor other = if other = target then some configuration else engine.faultFor other := by
  unfold setFault at h
  split at h
  · exact absurd h (by simp)
  · obtain rfl := Except.ok.inj h
    simp only [faultFor, Dict.lookup_insert]
    split
    · rfl
    · rfl

/-- Clearing a target without a fault does nothing. -/
theorem clearFault_eq_false (h : (engine.clearFault target).1 = false) :
    engine.faultFor target = none ∧ (engine.clearFault target).2 = engine := by
  unfold clearFault at h ⊢
  split at h
  · exact absurd h (by simp)
  · next hnone =>
      rw [if_neg hnone, faultFor, Option.not_isSome_iff_eq_none.mp hnone]
      exact ⟨rfl, rfl⟩

/-- Clearing a fault empties that target and no other. -/
theorem faultFor_clearFault (h : (engine.clearFault target).1 = true) :
    (engine.clearFault target).2.faultFor other =
      if other = target then none else engine.faultFor other := by
  unfold clearFault at h ⊢
  split at h
  · next hsome =>
      rw [if_pos hsome]
      simp only [faultFor, Dict.lookup_erase]
      split
      · rfl
      · rfl
  · exact absurd h (by simp)

/-- The flag of `clear_fault` says whether a fault was configured. -/
theorem clearFault_fst (engine : FaultEngine) (target : Bytes) :
    (engine.clearFault target).1 = (engine.faultFor target).isSome := by
  simp only [clearFault, faultFor, Option.isSome_map]
  split
  · next h => exact h.symm
  · next h => simpa using h

/-- A target without a fault lets frames pass. -/
theorem evaluate_unset {frameBytes : UInt64} {arrival : Int} (h : engine.faultFor target = none) :
    (engine.evaluate target frameBytes arrival).1.dropped = false := by
  unfold evaluate
  split
  · rfl
  · next state hstate =>
      rw [faultFor, hstate] at h
      exact absurd h (by simp)

/-- A blackholed or isolated target drops every frame. -/
theorem evaluate_blocked {frameBytes : UInt64} {arrival : Int}
    (h : engine.faultFor target = some configuration)
    (hblocked : configuration.blackhole = true ∨ configuration.isolated = true) :
    (engine.evaluate target frameBytes arrival).1.dropped = true := by
  unfold evaluate
  split
  · next hstate =>
      rw [faultFor, hstate] at h
      exact absurd h (by simp)
  · next state hstate =>
      rw [faultFor, hstate] at h
      obtain rfl := Option.some.inj h
      simp only [FaultState.judge, Bool.or_eq_true, hblocked, if_true]

/-- Evaluating frames changes no configuration. -/
theorem faultFor_evaluate (frameBytes : UInt64) (arrival : Int) :
    (engine.evaluate target frameBytes arrival).2.faultFor other = engine.faultFor other := by
  unfold evaluate
  split
  · rfl
  · next state h =>
      simp only [faultFor, Dict.lookup_insert]
      split
      · next heq =>
          subst heq
          rw [h, Option.map_some, FaultState.advance_configuration, Option.map_some]
      · rfl

/-- The engine's faults, listed: exactly the configured targets. -/
theorem mem_activeFaults {fault : ActiveFault} :
    fault ∈ engine.activeFaults ↔ engine.faultFor fault.target = some fault.configuration := by
  simp only [activeFaults, List.mem_insertionSort, List.mem_map, faultFor, Option.map_eq_some_iff]
  constructor
  · rintro ⟨⟨key, state⟩, hmem, rfl⟩
    exact ⟨state, (Dict.mem_entries_iff _ _ _).mp hmem, rfl⟩
  · rintro ⟨state, hstate, hconf⟩
    refine ⟨⟨fault.target, state⟩, (Dict.mem_entries_iff _ _ _).mpr hstate, ?_⟩
    cases fault
    simp only at hconf
    rw [← hconf]

/-- A new engine has no faults. -/
@[simp]
theorem faultFor_new (seed : UInt64) : ({ seed } : FaultEngine).faultFor target = none := by
  simp only [faultFor, Dict.lookup_empty, Option.map_none]

end

end FaultEngine
end WireLab
