import WireLab.Logic.Lab
import WireLab.Model.TopologyYaml
import WireLab.Theorems.FaultTiming

/-!
# The latency of a link

`evaluate_link` adds a link's latency to what the fault engine decided, and stops
at the latest time the clock has. The guard is computed from the latency in
nanoseconds, which wraps for links of more than 18446744073709 milliseconds: a
delivery is then right only where the guard happens to stop it
(`link_latency_iff`).
-/

namespace WireLab

open Base TopologyController

/-- The latest time the clock has, less a link's latency, as a value of the
clock. -/
def latestBefore (latency : Int) : Int :=
  Int.bmod (nanosecondsMax - latency * 1000000) (2 ^ 64)

/-- A delivery across a link, as it should be. -/
def across (latency deliveryTime : Int) : Int :=
  min (deliveryTime + latency * 1000000) nanosecondsMax

/-- One delivery across a link, as the code computes it. -/
def delayedTime (latency deliveryTime : Int) : Int :=
  if latency = 0 then deliveryTime
  else if deliveryTime >
      Int.bmod (nanosecondsMax - Int.bmod (latency * 1000000) (2 ^ 64)) (2 ^ 64) then
    nanosecondsMax
  else Int.bmod (deliveryTime + Int.bmod (latency * 1000000) (2 ^ 64)) (2 ^ 64)

theorem deliveryTimes_delayed (decision : FaultDecision) (latency : Int) :
    (delayed decision latency).deliveryTimes =
      decision.deliveryTimes.map (delayedTime latency) := by
  unfold delayed delayedTime
  split
  · exact (List.map_id' _).symm
  · rfl

/-! ## One delivery -/

section
variable {latency time : Int}

/-- What wraps to a value of the clock differs from it by whole turns. -/
private theorem bmod_cases {x y : Int} (h : Int.bmod x (2 ^ 64) = y) :
    Representable y ∧ ∃ turns : Int, x = y + 2 ^ 64 * turns := by
  rw [Int.bmod_def] at h
  push_cast at h
  have hdiv := Int.mul_ediv_add_emod x 18446744073709551616
  unfold Representable nanosecondsMax
  split at h
  · exact ⟨by omega, x / 18446744073709551616, by omega⟩
  · exact ⟨by omega, x / 18446744073709551616 + 1, by omega⟩

/-- **One delivery is right exactly when it is a time of the clock, and the latency
does not wrap or the guard stops it.** -/
theorem delayedTime_iff (hlatency : 0 ≤ latency) (htime : -2 ^ 63 ≤ time) :
    (delayedTime latency time = across latency time ∧ time ≤ delayedTime latency time) ↔
      time ≤ nanosecondsMax ∧ (latency * 1000000 < 2 ^ 64 ∨ latestBefore latency ≤ time) := by
  unfold delayedTime across
  by_cases hzero : latency = 0
  · subst hzero
    simp only [if_true, zero_mul, add_zero, nanosecondsMax]
    omega
  · rw [if_neg hzero, Int.sub_bmod_bmod]
    change ((if time > latestBefore latency then _ else _) = _ ∧
      _ ≤ if time > latestBefore latency then _ else _) ↔ _
    unfold latestBefore
    generalize hwrapped : Int.bmod (latency * 1000000) (2 ^ 64) = wrapped
    generalize hlatest : Int.bmod (nanosecondsMax - latency * 1000000) (2 ^ 64) = latest
    generalize hsum : Int.bmod (time + wrapped) (2 ^ 64) = sum
    obtain ⟨⟨hwlow, hwhigh⟩, wturns, hw⟩ := bmod_cases hwrapped
    obtain ⟨⟨hllow, hlhigh⟩, lturns, hl⟩ := bmod_cases hlatest
    obtain ⟨⟨hslow, hshigh⟩, sturns, hs⟩ := bmod_cases hsum
    generalize hnanoseconds : latency * 1000000 = nanoseconds at hw hl
    have hpositive : 0 < nanoseconds := by omega
    simp only [nanosecondsMax] at hwhigh hlhigh hshigh hl ⊢
    split
    · omega
    · omega

end

/-! ## Whole decisions -/

/-- The latency `evaluate_link` finds is that of the link it is asked about:
links are unique. -/
theorem linkLatency_eq {topology : Topology} {link : TopologyLink} (hlink : link ∈ topology.links)
    {a b : Bytes} (hjoins : joins a b link = true) :
    linkLatency topology a b = link.latency := by
  unfold linkLatency
  cases hfound : topology.links.find? (joins a b) with
  | none => exact absurd hjoins (by simpa using List.find?_eq_none.mp hfound link hlink)
  | some found =>
      have hmem := List.mem_of_find?_eq_some hfound
      have hsame : s(found.from, found.to) = s(link.from, link.to) :=
        (joins_iff.mp (List.find?_some hfound)).symm.trans (joins_iff.mp hjoins)
      have : Std.Symm fun link other : TopologyLink =>
          s(link.from, link.to) ≠ s(other.from, other.to) := ⟨fun _ _ h => h.symm⟩
      have hunique : found = link := by
        by_contra hne
        exact topology.links_pairwise.forall hmem hlink hne hsame
      rw [Option.map_some, Option.getD_some, hunique]

/-- What `evaluate_link` decides about a frame on a link. -/
theorem evaluateLink_eq {controller : TopologyController} {topology : Topology}
    (htopology : controller.topology = some topology) {link : TopologyLink}
    (hlink : link ∈ topology.links) {a b : Bytes} (hjoins : joins a b link = true)
    (frameBytes : UInt64) (arrival : Int) :
    controller.evaluateLink a b frameBytes arrival =
      .ok (delayed (controller.faultEngine.evaluate (linkFaultTarget a b) frameBytes arrival).1
          link.latency,
        controller.withEngine
          (controller.faultEngine.evaluate (linkFaultTarget a b) frameBytes arrival).2) := by
  have hknown : isLink topology a b = true := List.any_eq_true.mpr ⟨link, hlink, hjoins⟩
  unfold evaluateLink
  rw [htopology]
  simp only [hknown, linkLatency_eq hlink hjoins, Bool.not_true, Bool.false_eq_true, if_false]

/-- **Link latency saturates exactly where its conversion does not wrap, or the
guard stops the delivery.** For every link of a topology, either way round, and
every arrival the clock can represent, each delivery time `evaluate_link` returns
is the fault engine's plus the latency in nanoseconds, at most the latest time
there is, and no earlier than the engine's, if and only if the engine's times are
times of the clock, and the latency is less than 2^64 nanoseconds or each of them
is at or after the guard that is computed. -/
theorem link_latency_iff (controller : TopologyController) {topology : Topology}
    (htopology : controller.topology = some topology) {link : TopologyLink}
    (hlink : link ∈ topology.links) {a b : Bytes} (hjoins : joins a b link = true)
    (frameBytes : UInt64) {arrival : Int} (harrival : Representable arrival) :
    (∃ decision controller',
        controller.evaluateLink a b frameBytes arrival = .ok (decision, controller') ∧
        List.Forall₂ (fun engineTime time =>
            time = across link.latency engineTime ∧ engineTime ≤ time)
          (controller.faultEngine.evaluate (linkFaultTarget a b) frameBytes arrival).1.deliveryTimes
          decision.deliveryTimes) ↔
      ∀ time ∈ (controller.faultEngine.evaluate (linkFaultTarget a b) frameBytes
          arrival).1.deliveryTimes,
        time ≤ nanosecondsMax ∧
          (link.latency * 1000000 < 2 ^ 64 ∨ latestBefore link.latency ≤ time) := by
  have hlow := controller.faultEngine.arrival_le_evaluate (linkFaultTarget a b) frameBytes arrival
  rw [evaluateLink_eq htopology hlink hjoins]
  generalize controller.faultEngine.evaluate (linkFaultTarget a b) frameBytes arrival = evaluated
    at hlow ⊢
  have hone : ∀ time ∈ evaluated.1.deliveryTimes,
      ((delayedTime link.latency time = across link.latency time ∧
          time ≤ delayedTime link.latency time) ↔
        time ≤ nanosecondsMax ∧
          (link.latency * 1000000 < 2 ^ 64 ∨ latestBefore link.latency ≤ time)) :=
    fun time htime => delayedTime_iff (topology.latency_nonneg hlink)
      (harrival.1.trans (hlow time htime))
  have hall : List.Forall₂ (fun engineTime time =>
        time = across link.latency engineTime ∧ engineTime ≤ time)
      evaluated.1.deliveryTimes (delayed evaluated.1 link.latency).deliveryTimes ↔
      ∀ time ∈ evaluated.1.deliveryTimes,
        time ≤ nanosecondsMax ∧
          (link.latency * 1000000 < 2 ^ 64 ∨ latestBefore link.latency ≤ time) := by
    rw [deliveryTimes_delayed, List.forall₂_map_right_iff, List.forall₂_same]
    exact forall₂_congr hone
  rw [← hall]
  constructor
  · rintro ⟨decision, controller', hdecided, hright⟩
    obtain ⟨rfl, _⟩ := Prod.mk.inj (Except.ok.inj hdecided)
    exact hright
  · intro hright
    exact ⟨_, _, rfl, hright⟩

/-- A topology of one link, as its author wrote it. -/
def wanYaml (milliseconds : Nat) : Bytes :=
  bytes "network:\n  name: wan\n" ++
    bytes "nodes:\n  -\n    id: sw\n    type: switch\n  -\n    id: h1\n    type: host\n" ++
    bytes "links:\n  -\n    from: h1\n    to: sw\n    latency_ms: " ++ decimal milliseconds ++
    bytes "\n"

/-- The topology of `wanYaml`. -/
def wanConfiguration (milliseconds : Nat) : TopologyConfiguration where
  name := bytes "wan"
  nodes := [{ id := bytes "sw", type := .switch }, { id := bytes "h1" }]
  links := [{ «from» := bytes "h1", «to» := bytes "sw", latency := milliseconds }]

/-- A link of twenty milliseconds. -/
def nearTopology : Topology where
  configuration := wanConfiguration 20
  switchIndex := 0
  created := by decide +kernel

/-- The shortest link whose latency wraps. -/
def farTopology : Topology where
  configuration := wanConfiguration 18446744073710
  switchIndex := 0
  created := by decide +kernel

/-- A frame that arrives at second one. -/
theorem link_latency_iff_nearTopology :
    ∃ decision controller',
      (({} : TopologyController).load nearTopology).evaluateLink (bytes "sw") (bytes "h1") 64
        1000000000 = .ok (decision, controller') ∧
      List.Forall₂ (fun engineTime time => time = across 20 engineTime ∧ engineTime ≤ time)
        ((({} : TopologyController).load nearTopology).faultEngine.evaluate
          (linkFaultTarget (bytes "sw") (bytes "h1")) 64 1000000000).1.deliveryTimes
        decision.deliveryTimes :=
  have hlink : ({ «from» := bytes "h1", «to» := bytes "sw", latency := 20 } : TopologyLink) ∈
      nearTopology.links := List.mem_singleton.mpr rfl
  (link_latency_iff (({} : TopologyController).load nearTopology) rfl hlink (by decide +kernel) 64
    (by decide)).mpr (by decide +kernel)

/-- The far topology is read from its file; a frame that arrives at the clock's
epoch is delivered 448384 nanoseconds later, not at the latest time there is. -/
theorem link_latency_wraps :
    topologyConfigurationFromYaml (wanYaml 18446744073710) = .ok farTopology.configuration ∧
    ¬∃ decision controller',
      (({} : TopologyController).load farTopology).evaluateLink (bytes "sw") (bytes "h1") 64 0 =
        .ok (decision, controller') ∧
      List.Forall₂ (fun engineTime time =>
          time = across 18446744073710 engineTime ∧ engineTime ≤ time)
        ((({} : TopologyController).load farTopology).faultEngine.evaluate
          (linkFaultTarget (bytes "sw") (bytes "h1")) 64 0).1.deliveryTimes
        decision.deliveryTimes := by
  refine ⟨by decide +kernel, ?_⟩
  rintro ⟨decision, controller', hdecided, hright⟩
  have hearly : ((({} : TopologyController).load farTopology).evaluateLink (bytes "sw")
      (bytes "h1") 64 0).toOption.map (fun decided => decided.1.deliveryTimes) =
        some [448384] := by decide +kernel
  have hengine : ((({} : TopologyController).load farTopology).faultEngine.evaluate
      (linkFaultTarget (bytes "sw") (bytes "h1")) 64 0).1.deliveryTimes = [0] := by decide +kernel
  rw [hdecided] at hearly
  have htimes : decision.deliveryTimes = [448384] := Option.some.inj hearly
  rw [hengine, htimes] at hright
  cases hright with
  | cons htime _ => exact absurd htime.1 (by decide)

end WireLab
