import WireLab.Logic.Lab

/-!
# Converting a rate limit

A rate in packets a second becomes a bandwidth in bits a second. The product is
taken in 64 bits and wraps, so the cap that ends up on the port is the rate's
bandwidth exactly when that fits in 64 bits (`rate_converted_iff`).
-/

namespace WireLab

open Base TopologyController PolicyEnforcer

/-- The size of a frame of an anomaly: the mean of what was observed, rounded
down, or the assumed size when that is zero. -/
def AnomalyEvent.frameBytes (anomaly : AnomalyEvent) (assumed : Nat) : Nat :=
  if anomaly.observedBytes / anomaly.observedPackets = 0 then assumed
  else anomaly.observedBytes / anomaly.observedPackets

/-- The bandwidth a decision asks for, with no bound on it. -/
def PolicyDecision.bitsPerSecond (decision : PolicyDecision) (assumed : Nat) : Nat :=
  decision.rateLimitPacketsPerSecond.toNat * decision.anomaly.frameBytes assumed * 8

/-- The decision was enforced, and the port's cap is the rate's bandwidth, capped
at the largest 64-bit value; it is no smaller than the rate, and not zero. -/
structure Converted (enforcer : PolicyEnforcer) (controller : TopologyController) (now : Int)
    (decision : PolicyDecision) (portId : Bytes) : Prop where
  accepted : (applyDecision enforcer controller now decision).1.outcome = .applied ∨
    (applyDecision enforcer controller now decision).1.outcome = .extended
  installed : ∃ fault,
    (applyDecision enforcer controller now decision).2.2.portFault portId = some fault ∧
    fault.bandwidthBitsPerSecond.toNat =
      min (decision.bitsPerSecond enforcer.config.assumedFrameBytes.toNat) (2 ^ 64 - 1) ∧
    decision.rateLimitPacketsPerSecond ≤ fault.bandwidthBitsPerSecond ∧
    fault.bandwidthBitsPerSecond ≠ 0

section
variable {engine : PolicyEngine} {anomalies : List AnomalyEvent} {decision : PolicyDecision}

/-- A decision to limit a rate has a rate: its rule was accepted. -/
theorem rate_ne_zero_of_decided (hdecided : decision ∈ (engine.evaluate anomalies).1)
    (hlimit : decision.action = .rateLimit) : decision.rateLimitPacketsPerSecond ≠ 0 := by
  obtain ⟨_, rule, hrule, haction, hrate⟩ := (engine.mem_evaluate anomalies decision.anomaly
    decision.action decision.rateLimitPacketsPerSecond).mp ⟨decision, hdecided, rfl, rfl, rfl⟩
  have hvalid := engine.wellFormed.valid rule (List.mem_of_find?_eq_some hrule)
  intro hzero
  simp only [PolicyRule.validate, haction.trans hlimit, hrate.trans hzero, and_self, if_true] at hvalid
  split at hvalid
  · exact absurd hvalid (by simp)
  · exact absurd hvalid (by simp)

/-- The frame size the enforcer computes, in 64 bits. -/
private theorem frameBytes_eq {anomaly : AnomalyEvent} (assumed : UInt64)
    (hbytes : anomaly.observedBytes < 2 ^ 64) :
    (let mean := if anomaly.observedPackets = 0 then assumed
        else UInt64.ofNat (anomaly.observedBytes / anomaly.observedPackets)
      if mean = 0 then assumed else mean).toNat = anomaly.frameBytes assumed.toNat := by
  have hmean : (UInt64.ofNat (anomaly.observedBytes / anomaly.observedPackets)).toNat =
      anomaly.observedBytes / anomaly.observedPackets :=
    UInt64.toNat_ofNat_of_lt' (lt_of_le_of_lt (Nat.div_le_self _ _) hbytes)
  unfold AnomalyEvent.frameBytes
  by_cases hnone : anomaly.observedPackets = 0
  · simp only [hnone, if_true, ite_self, Nat.div_zero]
  · simp only [hnone, if_false]
    by_cases hzero : anomaly.observedBytes / anomaly.observedPackets = 0
    · simp only [hzero, if_true]
      rfl
    · rw [if_neg, if_neg hzero, hmean]
      intro h
      exact hzero (hmean.symm.trans (congrArg UInt64.toNat h))

/-- **The conversion wraps.** -/
theorem rateLimitBits_toNat (config : PolicyEnforcerConfig)
    (hrate : decision.rateLimitPacketsPerSecond ≠ 0)
    (hbytes : decision.anomaly.observedBytes < 2 ^ 64) :
    (rateLimitBits config decision).toNat =
      decision.bitsPerSecond config.assumedFrameBytes.toNat % 2 ^ 64 := by
  have hframe := frameBytes_eq config.assumedFrameBytes hbytes
  have height : (8 : UInt64).toNat = 8 := rfl
  rw [rateLimitBits, if_neg hrate]
  simp only at hframe ⊢
  rw [UInt64.toNat_mul, UInt64.toNat_mul, hframe, height, Nat.mod_mul_mod, PolicyDecision.bitsPerSecond]

end

/-! ## The arithmetic of the cap -/

/-- A wrapped multiple of eight is never the largest value. -/
private theorem wraps_iff (product : Nat) :
    product * 8 % 2 ^ 64 = min (product * 8) (2 ^ 64 - 1) ↔ product * 8 < 2 ^ 64 := by
  omega

private theorem frameBytes_pos (anomaly : AnomalyEvent) {assumed : Nat} (h : 0 < assumed) :
    0 < anomaly.frameBytes assumed := by
  unfold AnomalyEvent.frameBytes
  split
  · exact h
  · next hmean => exact Nat.pos_of_ne_zero hmean

section
variable {enforcer : PolicyEnforcer} {controller : TopologyController} {decision : PolicyDecision}
  {portId : Bytes}

/-- What ends up on the port: the converted rate, unless it is zero. -/
private theorem installed_of_ne_zero (now : Int) (hlimit : decision.action = .rateLimit)
    (hport : controller.portIdAt decision.anomaly.ingressPort = some portId)
    (hlease : ∀ lease ∈ enforcer.leases.lookup portId,
      lease.action.kind.severity ≤ EnforcementKind.rateLimit.severity)
    (hbits : rateLimitBits enforcer.config decision ≠ 0) :
    ((applyDecision enforcer controller now decision).1.outcome = .applied ∨
      (applyDecision enforcer controller now decision).1.outcome = .extended) ∧
    ∃ fault, (applyDecision enforcer controller now decision).2.2.portFault portId = some fault ∧
      fault.bandwidthBitsPerSecond = rateLimitBits enforcer.config decision := by
  have hkind : EnforcementKind.ofAction decision.action = .rateLimit := by rw [hlimit]; rfl
  have hasked : Enforceable enforcer.config controller decision portId :=
    ⟨hport, by rw [hkind]; decide, fun _ => hbits⟩
  obtain ⟨lease, after, happly, henforces, himposed, _, _, houtcome⟩ :=
    applyDecision_imposes now hasked
  have hlimited : lease.imposed = (.rateLimit, rateLimitBits enforcer.config decision) := by
    rw [himposed, hkind]
    simp only [if_true, effective]
    split
    · rfl
    · next old hold => exact if_pos (hlease old hold)
  refine ⟨by rw [happly]; exact houtcome, lease.enforced, ?_, ?_⟩
  · rw [happly]
    exact (henforces.sets.fault (.port portId)).trans (if_pos rfl)
  · obtain ⟨hname, hrate⟩ := Prod.mk.inj hlimited
    rw [Lease.enforced, hname, overlay, hrate]

/-- A rate that converts to zero is refused. -/
private theorem refused_of_zero (controller : TopologyController) (now : Int) (hlimit : decision.action = .rateLimit)
    (hbits : rateLimitBits enforcer.config decision = 0) :
    (applyDecision enforcer controller now decision).1.outcome ≠ .applied ∧
      (applyDecision enforcer controller now decision).1.outcome ≠ .extended := by
  have hkind : EnforcementKind.ofAction decision.action = .rateLimit := by rw [hlimit]; rfl
  have hnone : ∀ p, ¬Enforceable enforcer.config controller decision p :=
    fun p hp => hp.rate hkind hbits
  obtain ⟨action, happly, hrefused⟩ := applyDecision_refused now hnone
  rw [happly]
  exact hrefused

end

/-- **A rate limit is converted exactly if and only if its bandwidth fits in 64
bits.** For any decision of an engine to limit the rate of a port that is not
under a stronger lease, under any configuration that assumes some frame size. -/
theorem rate_converted_iff (engine : PolicyEngine) (anomalies : List AnomalyEvent)
    (enforcer : PolicyEnforcer) (controller : TopologyController) (now : Int)
    (decision : PolicyDecision) (portId : Bytes)
    (hdecided : decision ∈ (engine.evaluate anomalies).1) (hlimit : decision.action = .rateLimit)
    (hframe : enforcer.config.assumedFrameBytes ≠ 0)
    (hbytes : decision.anomaly.observedBytes < 2 ^ 64)
    (hport : controller.portIdAt decision.anomaly.ingressPort = some portId)
    (hlease : ∀ lease ∈ enforcer.leases.lookup portId,
      lease.action.kind.severity ≤ EnforcementKind.rateLimit.severity) :
    Converted enforcer controller now decision portId ↔
      decision.bitsPerSecond enforcer.config.assumedFrameBytes.toNat < 2 ^ 64 := by
  have hrate := rate_ne_zero_of_decided hdecided hlimit
  have hbits := rateLimitBits_toNat enforcer.config hrate hbytes
  have hassumed : 0 < enforcer.config.assumedFrameBytes.toNat :=
    Nat.pos_of_ne_zero fun h => hframe (UInt64.toNat_inj.mp h)
  have hpackets : 0 < decision.rateLimitPacketsPerSecond.toNat :=
    Nat.pos_of_ne_zero fun h => hrate (UInt64.toNat_inj.mp h)
  -- A packet has at least a byte, so a rate is less than its bandwidth.
  have hsome : decision.rateLimitPacketsPerSecond.toNat ≤
      decision.bitsPerSecond enforcer.config.assumedFrameBytes.toNat := by
    have hsize := frameBytes_pos decision.anomaly hassumed
    have hproduct := Nat.le_mul_of_pos_right decision.rateLimitPacketsPerSecond.toNat hsize
    unfold PolicyDecision.bitsPerSecond
    omega
  constructor
  · intro h
    obtain ⟨fault, hfault, hcap, _, _⟩ := h.installed
    have hnonzero : rateLimitBits enforcer.config decision ≠ 0 := by
      intro hzero
      obtain ⟨happlied, hextended⟩ :=
        refused_of_zero controller now hlimit hzero
      exact h.accepted.elim happlied hextended
    obtain ⟨_, fault', hfault', hsame⟩ := installed_of_ne_zero now hlimit hport hlease hnonzero
    obtain rfl := Option.some.inj (hfault.symm.trans hfault')
    rw [hsame, hbits] at hcap
    exact (wraps_iff _).mp hcap
  · intro hfits
    rw [Nat.mod_eq_of_lt hfits] at hbits
    have hnonzero : rateLimitBits enforcer.config decision ≠ 0 := by
      intro hzero
      rw [hzero] at hbits
      have : (0 : UInt64).toNat = 0 := rfl
      omega
    obtain ⟨haccepted, fault, hfault, hsame⟩ :=
      installed_of_ne_zero now hlimit hport hlease hnonzero
    refine ⟨haccepted, fault, hfault, ?_, ?_, hsame ▸ hnonzero⟩
    · rw [hsame, hbits]
      omega
    · rw [hsame, UInt64.le_iff_toNat_le, hbits]
      exact hsome

/-- One rule: who storms is limited. -/
def limitStorms (rate : UInt64) (h : rate ≠ 0) : PolicyEngine where
  rules := [{ name := bytes "limit", anomalyType := .broadcastStorm, action := .rateLimit
              rateLimitPacketsPerSecond := rate }]
  wellFormed := by
    refine ⟨fun rule hrule => ?_, List.nodup_singleton _⟩
    rw [List.mem_singleton.mp hrule]
    simp only [PolicyRule.validate, h, and_false, if_false]
    rfl

/-- A storm of the first port: three packets of a hundred bytes in all. -/
def firstPortStorms : AnomalyEvent :=
  { ingressPort := 0, observedPackets := 3, observedBytes := 100 }

/-- What the rule decides about it. -/
def limitStorm (rate : UInt64) : PolicyDecision :=
  { ruleName := bytes "limit", action := .rateLimit, anomaly := firstPortStorms, hitCount := 1
    rateLimitPacketsPerSecond := rate }

theorem limitStorm_decided (rate : UInt64) (h : rate ≠ 0) :
    limitStorm rate ∈ ((limitStorms rate h).evaluate [firstPortStorms]).1 := by
  simp [PolicyEngine.evaluate, PolicyEngine.ruleFor, limitStorms, limitStorm, firstPortStorms,
    PolicyEngine.hitCount]

/-- A thousand packets of 33 bytes. -/
theorem rate_converted_iff_limitStorm :
    Converted {} (({} : TopologyController).load labTopology) 0 (limitStorm 1000) (bytes "h1") :=
  (rate_converted_iff (limitStorms 1000 (by decide)) [firstPortStorms] {} _ 0 (limitStorm 1000)
    (bytes "h1") (limitStorm_decided 1000 (by decide)) rfl (by decide) (by decide)
    (by decide +kernel) (by simp)).mpr (by decide +kernel)

/-- 2⁶¹ packets a second: in bits a second that is a multiple of 2⁶⁴, which
wraps to nothing and is refused. -/
theorem rate_wraps_to_nothing :
    (limitStorm (2 ^ 61) ∈ ((limitStorms (2 ^ 61) (by decide +kernel)).evaluate [firstPortStorms]).1) ∧
      (applyDecision {} (({} : TopologyController).load labTopology) 0 (limitStorm (2 ^ 61))).1.outcome =
        .rejected ∧
      ¬Converted {} (({} : TopologyController).load labTopology) 0 (limitStorm (2 ^ 61))
        (bytes "h1") := by
  have hrejected : (applyDecision {} (({} : TopologyController).load labTopology) 0
      (limitStorm (2 ^ 61))).1.outcome = .rejected := by decide +kernel
  refine ⟨limitStorm_decided _ _, hrejected, fun h => ?_⟩
  rcases h.accepted with happlied | hextended
  · exact absurd (hrejected.symm.trans happlied) (by decide)
  · exact absurd (hrejected.symm.trans hextended) (by decide)

end WireLab
