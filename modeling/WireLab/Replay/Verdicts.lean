import WireLab.Replay.Comments
import WireLab.Theorems.FirstMatch
import WireLab.Theorems.SlidingWindow

/-!
# The verdicts of a replay

What holds of every judgement of a replay: its anomalies are raised by its packets and
all of them came in by one port, its decisions are about its anomalies. The watch carries
it from batch to batch (`Sound.behind`), so that a packet has at most one anomaly of each
type (`length_matched_le`) and its comment fits (`length_comment_lt`).
-/

namespace WireLab

open Base

/-! ## One port -/

theorem withTransport_ingressPort (bytes : Bytes) (analysis : PacketAnalysis) :
    (withTransport bytes analysis).ingressPort = analysis.ingressPort := by
  unfold withTransport
  cases transport bytes <;> rfl

private theorem withHash_ingressPort (analysis : PacketAnalysis) (flowHash : UInt64) :
    { analysis with flowHash }.ingressPort = analysis.ingressPort := rfl

theorem hashed_ingressPort (analysis : PacketAnalysis) :
    analysis.hashed.ingressPort = analysis.ingressPort := withHash_ingressPort _ _

theorem analysisOf_ingressPort (bytes : Bytes) (ingressPort : UInt32) :
    (analysisOf bytes ingressPort).ingressPort = ingressPort := by
  unfold analysisOf
  split_ifs
  · rfl
  · rfl
  · rw [hashed_ingressPort]
    rfl
  · rw [hashed_ingressPort, transportAnalysis, withTransport_ingressPort]
    rfl
  · rfl
  · rfl

/-- An analysis of a batch is that of one of its packets, but for the classification. -/
theorem mem_judgeAll {learnedMacs : List MacAddress} {items : List Measured}
    {analysis : PacketAnalysis} (h : analysis ∈ judgeAll learnedMacs items) :
    ∃ item ∈ items, ∃ learned, analysis = judge learned item := by
  induction items generalizing learnedMacs with
  | nil => exact absurd h List.not_mem_nil
  | cons item items ih =>
      rcases List.mem_cons.mp h with rfl | hrest
      · exact ⟨item, List.mem_cons_self, learnedMacs, rfl⟩
      · obtain ⟨other, hother, hjudged⟩ := ih hrest
        exact ⟨other, List.mem_cons_of_mem _ hother, hjudged⟩

theorem judge_ingressPort (learnedMacs : List MacAddress) (item : Measured) :
    (judge learnedMacs item).ingressPort = item.1.ingressPort := by
  unfold judge
  split_ifs
  · rfl
  · rfl

theorem ingressPort_measured {packets : List CapturedPacket} {learnedMacs : List MacAddress}
    {analysis : PacketAnalysis}
    (h : analysis ∈ (analysisBatch learnedMacs (measuredPackets packets)).1.packets) :
    analysis.ingressPort = 0 := by
  rw [packets_analysisBatch] at h
  obtain ⟨item, hitem, learned, rfl⟩ := mem_judgeAll h
  obtain ⟨view, hview, rfl⟩ := List.mem_map.mp hitem
  obtain ⟨packet, _, rfl⟩ := List.mem_map.mp hview
  rw [judge_ingressPort]
  exact analysisOf_ingressPort packet.frame 0

/-! ## What is measured is counted -/

theorem transitions_le_length (ports : List UInt32) : transitions ports ≤ ports.length := by
  induction ports with
  | nil => exact Nat.le_refl 0
  | cons port ports ih =>
      cases ports with
      | nil => exact Nat.zero_le _
      | cons next ports =>
          show (if next ≠ port then 1 else 0) + transitions (next :: ports) ≤
            (next :: ports).length + 1
          split
          · omega
          · omega

theorem AnomalyType.measure_le_length (type : AnomalyType) (traffic : List ObservedPacket) :
    type.measure traffic ≤ traffic.length := by
  cases type with
  | macFlap =>
      have hports := transitions_le_length (traffic.map ObservedPacket.ingressPort)
      rwa [List.length_map] at hports
  | portScan =>
      have hports := List.toFinset_card_le (traffic.map ObservedPacket.destinationPort)
      rwa [List.length_map] at hports
  | broadcastStorm => exact Nat.le_refl _
  | unknownUnicastFlood => exact Nat.le_refl _
  | udpFlood => exact Nat.le_refl _
  | hotTalker => exact Nat.le_refl _
  | malformedFrame => exact Nat.le_refl _

/-! ## Soundness -/

/-- What a watch keeps, behind so many packets. -/
structure Watch.Sound (config : AnomalyDetectorConfig) (seen : Nat) (watch : Watch) : Prop where
  remembers : watch.pipeline.detector.Remembers
  config : watch.pipeline.detector.config = config
  ingress : ∀ observation ∈ watch.pipeline.detector.observations, observation.ingressPort = 0
  few : watch.pipeline.detector.observations.length ≤ seen
  rules : watch.pipeline.policies.rules = Replay.defaultRules

/-- A packet as the detector sees it; no type of anomaly reads the time. -/
def PacketAnalysis.observation (packet : PacketAnalysis) : ObservedPacket :=
  AnomalyDetector.observed 0 packet

/-- An anomaly that a packet counts towards. -/
structure RaisedBy (event : AnomalyEvent) (packet : PacketAnalysis) : Prop where
  counted : (event.type.source packet.observation).isSome = true
  sourceMac : event.sourceMac = (event.type.attributed packet.observation).sourceMac
  sourceIpv4 : event.sourceIpv4 = (event.type.attributed packet.observation).sourceIpv4

/-- What a judgement says, where so many packets have been seen with it. -/
structure Judgement.Sound (config : AnomalyDetectorConfig) (seen : Nat) (judgement : Judgement) :
    Prop where
  raised : ∀ event ∈ judgement.outcome.anomalies, ∃ packet ∈ judgement.analysis.packets,
    RaisedBy event packet
  ingress : ∀ event ∈ judgement.outcome.anomalies, event.ingressPort = 0
  distinct : (judgement.outcome.anomalies.map AnomalyEvent.active).Nodup
  packets : ∀ event ∈ judgement.outcome.anomalies, event.observedPackets ≤ seen
  destinations : ∀ event ∈ judgement.outcome.anomalies, event.observedDistinctDestinations ≤ seen
  threshold : ∀ event ∈ judgement.outcome.anomalies,
    event.threshold = event.type.threshold config
  window : ∀ event ∈ judgement.outcome.anomalies, event.windowDurationNs = config.windowDurationNs
  decided : Decides Replay.defaultRules judgement.outcome.anomalies judgement.outcome.decisions

theorem AnomalyType.source_observed (type : AnomalyType) (packet : PacketAnalysis)
    (timestampNs : Nat) :
    type.source (AnomalyDetector.observed timestampNs packet) = type.source packet.observation := by
  cases type <;> rfl

theorem AnomalyType.attributed_observed (type : AnomalyType) (packet : PacketAnalysis)
    (timestampNs : Nat) :
    type.attributed (AnomalyDetector.observed timestampNs packet) =
      type.attributed packet.observation := by
  cases type <;> rfl

theorem active_ne_of_eventLess {first second : AnomalyEvent} (h : eventLess first second = true) :
    first.active ≠ second.active := by
  intro hsame
  obtain ⟨htype, hmac, hipv4, hport⟩ := ActiveAnomaly.mk.inj hsame
  unfold eventLess at h
  rw [if_neg (not_not.mpr htype), if_neg (not_not.mpr hmac), if_neg (not_not.mpr hipv4),
    decide_eq_true_eq, hport] at h
  exact absurd h (UInt32.lt_irrefl _)

/-- Candidates are remembered under identities of their own. -/
theorem nodup_candidates (config : AnomalyDetectorConfig) (window : List ObservedPacket) :
    ((AnomalyDetector.candidates config window).map AnomalyEvent.active).Nodup := by
  rw [List.Nodup, List.pairwise_map]
  exact (candidates_sorted config window).imp active_ne_of_eventLess

section
variable {config : AnomalyDetectorConfig} {seen : Nat} {watch : Watch}
  (h : watch.Sound config seen) (packets : List CapturedPacket)
include h

/-- The evaluation of a batch, as the detector sees it. -/
private theorem Watch.Sound.detects : ∃ timestampNs,
    Detects watch.pipeline.detector (watch.judge packets).analysis timestampNs
        (watch.judge packets).outcome.anomalies (watch.behind packets).pipeline.detector ∧
      (watch.behind packets).pipeline.detector.observations.length ≤ seen + packets.length := by
  have hdetects := AnomalyDetector.evaluate_detects (watch.analyses packets).detected
  refine ⟨_, hdetects, ?_⟩
  rw [hdetects.window]
  have hsuffix := (watch.pipeline.detector.window_suffix (watch.judge packets).analysis
    (max watch.pipeline.lastTimestampNs (batchTimestampNs packets))).length_le
  have hlength := (watch.judge packets).paired
  rw [List.length_append, List.length_map, hlength] at hsuffix
  exact hsuffix.trans (Nat.add_le_add_right h.few _)

/-- What a watch remembers behind a batch came in by one port, too. -/
private theorem Watch.Sound.behind_ingress :
    ∀ observation ∈ (watch.behind packets).pipeline.detector.observations,
      observation.ingressPort = 0 := by
  obtain ⟨timestampNs, hdetects, _⟩ := h.detects packets
  intro observation hobservation
  rw [hdetects.window] at hobservation
  rcases List.mem_append.mp ((watch.pipeline.detector.window_suffix _ _).subset hobservation) with
    hold | hnew
  · exact h.ingress observation hold
  · obtain ⟨packet, hpacket, rfl⟩ := List.mem_map.mp hnew
    exact ingressPort_measured hpacket

/-- **A batch keeps the watch sound.** -/
theorem Watch.Sound.behind : (watch.behind packets).Sound config (seen + packets.length) := by
  obtain ⟨timestampNs, hdetects, hfew⟩ := h.detects packets
  refine ⟨hdetects.remembers_after, hdetects.config.trans h.config, h.behind_ingress packets, hfew,
    ?_⟩
  have hrules := watch.pipeline.policies.evaluate_rules (watch.judge packets).outcome.anomalies
  rw [(watch.analyses packets).decided] at hrules
  exact hrules.trans h.rules

/-- **A sound watch judges soundly.** -/
theorem Watch.Sound.judge : (watch.judge packets).Sound config (seen + packets.length) := by
  obtain ⟨timestampNs, hdetects, hfew⟩ := h.detects packets
  have hconfig : (watch.behind packets).pipeline.detector.config = config :=
    hdetects.config.trans h.config
  have hingress := h.behind_ingress packets
  have hdecides := watch.pipeline.policies.evaluate_decides (watch.judge packets).outcome.anomalies
  -- Each anomaly is the report of a source in the window behind the batch.
  have hreported : ∀ event ∈ (watch.judge packets).outcome.anomalies, ∃ type origin,
      report config (watch.behind packets).pipeline.detector.observations type origin = event := by
    intro event hevent
    obtain ⟨type, origin, _, hreport⟩ := mem_candidates.mp ((hdetects.reports event).mp hevent).1
    rw [hconfig] at hreport
    exact ⟨type, origin, hreport⟩
  have hmeasured : ∀ (type : AnomalyType) (origin : AnomalySource), type.measure (trafficOf type origin
      (watch.behind packets).pipeline.detector.observations) ≤ seen + packets.length := by
    intro type origin
    exact (type.measure_le_length _).trans ((List.length_filter_le _ _).trans hfew)
  exact {
    raised := by
      intro event hevent
      obtain ⟨origin, habout⟩ := hdetects.raised_by_batch h.remembers hevent
      obtain ⟨packet, hpacket, hsource, horigin⟩ := habout.exists_packet
      rw [AnomalyType.source_observed] at hsource
      rw [AnomalyType.attributed_observed] at horigin
      refine ⟨packet, hpacket, ?_, ?_, ?_⟩
      · rw [hsource]
        rfl
      · rw [← horigin]
        exact habout.sourceMac
      · rw [← horigin]
        exact habout.sourceIpv4
    ingress := by
      intro event hevent
      obtain ⟨type, origin, rfl⟩ := hreported event hevent
      show lastIngress (trafficOf type origin _) = 0
      rw [lastIngress]
      cases hlast : (trafficOf type origin
          (watch.behind packets).pipeline.detector.observations).getLast? with
      | none => rfl
      | some observation =>
          exact hingress observation (List.mem_filter.mp (List.mem_of_getLast? hlast)).1
    distinct := by
      have hevents := AnomalyDetector.evaluate_sublist (watch.analyses packets).detected
      exact (nodup_candidates _ _).sublist (hevents.map _)
    packets := by
      intro event hevent
      obtain ⟨type, origin, rfl⟩ := hreported event hevent
      show (if type = .portScan then 0 else type.measure _) ≤ _
      split
      · exact Nat.zero_le _
      · exact hmeasured type origin
    destinations := by
      intro event hevent
      obtain ⟨type, origin, rfl⟩ := hreported event hevent
      show (if type = .portScan then type.measure _ else 0) ≤ _
      split
      · exact hmeasured type origin
      · exact Nat.zero_le _
    threshold := by
      intro event hevent
      obtain ⟨type, origin, rfl⟩ := hreported event hevent
      rfl
    window := by
      intro event hevent
      obtain ⟨type, origin, rfl⟩ := hreported event hevent
      rfl
    decided := by
      rw [(watch.analyses packets).decided, h.rules] at hdecides
      exact hdecides }

end

theorem Judgement.Sound.mono {config : AnomalyDetectorConfig} {seen more : Nat}
    {judgement : Judgement} (h : judgement.Sound config seen) (hle : seen ≤ more) :
    judgement.Sound config more :=
  { h with
    packets := fun event hevent => (h.packets event hevent).trans hle
    destinations := fun event hevent => (h.destinations event hevent).trans hle }

/-- **Every judgement of a replay is sound**, by induction on its batches. -/
theorem Watch.Sound.judgements {config : AnomalyDetectorConfig} {seen : Nat} {watch : Watch}
    (h : watch.Sound config seen) (batches : List (List CapturedPacket)) :
    ∀ judgement ∈ watch.judgements batches,
      judgement.Sound config (seen + batches.flatten.length) := by
  induction batches generalizing seen watch with
  | nil => exact fun judgement hjudgement => absurd hjudgement List.not_mem_nil
  | cons packets batches ih =>
      intro judgement hjudgement
      rw [List.flatten_cons, List.length_append]
      rcases List.mem_cons.mp hjudgement with rfl | hlater
      · exact (h.judge packets).mono (by omega)
      · exact (ih (h.behind packets) judgement hlater).mono (by omega)

/-- A replay starts with a sound watch. -/
theorem ReplayOptions.sound_watch (options : ReplayOptions)
    (hwindow : options.detectorConfig.windowDurationNs ≠ 0) :
    (options.watch hwindow).Sound options.detectorConfig 0 where
  remembers := AnomalyDetector.remembers_fresh rfl rfl
  config := rfl
  ingress observation hobservation := absurd hobservation List.not_mem_nil
  few := Nat.le_refl 0
  rules := by
    show (Replay.defaultRules.foldl Replay.installRule {}).rules = Replay.defaultRules
    decide

theorem ReplayOptions.sound_judgements (options : ReplayOptions)
    (hwindow : options.detectorConfig.windowDurationNs ≠ 0) (contents : List CapturedPacket) :
    ∀ judgement ∈ options.judgements hwindow contents,
      judgement.Sound options.detectorConfig contents.length := by
  intro judgement hjudgement
  have hsound := (options.sound_watch hwindow).judgements _ judgement hjudgement
  rwa [flatten_chunks options.batchSize_toNat_ne_zero (Nat.le_refl _), Nat.zero_add] at hsound

/-! ## The anomalies of a packet -/

theorem isZero_zero : MacAddress.zero.isZero = true := by decide

/-- A type names its sources by hardware address, by IPv4 address or by port. -/
theorem AnomalyType.kinds (type : AnomalyType) :
    (type ≠ .malformedFrame ∧ ∀ observation, type.attributed observation = .mac observation.sourceMac) ∨
      (type ≠ .malformedFrame ∧
        ∀ observation, type.attributed observation = .ipv4 observation.sourceIpv4) ∨
      type = .malformedFrame := by
  cases type with
  | malformedFrame => exact .inr (.inr rfl)
  | udpFlood => exact .inr (.inl ⟨by decide, fun _ => rfl⟩)
  | portScan => exact .inr (.inl ⟨by decide, fun _ => rfl⟩)
  | broadcastStorm => exact .inl ⟨by decide, fun _ => rfl⟩
  | macFlap => exact .inl ⟨by decide, fun _ => rfl⟩
  | unknownUnicastFlood => exact .inl ⟨by decide, fun _ => rfl⟩
  | hotTalker => exact .inl ⟨by decide, fun _ => rfl⟩

theorem indicts_iff {event : AnomalyEvent} {packet : PacketAnalysis} :
    Replay.indicts packet event = true ↔
      (event.sourceMac.isZero = false ∧ event.sourceMac = packet.sourceMac) ∨
        (event.sourceIpv4 ≠ 0 ∧ event.sourceIpv4 = packet.sourceIpv4) ∨
        (event.type = .malformedFrame ∧ packet.classification = .malformed) := by
  simp only [Replay.indicts, Bool.or_eq_true, Bool.and_eq_true, Bool.not_eq_true',
    decide_eq_true_eq, or_assoc]

/-- What an anomaly that is attached to a packet is remembered under. -/
def AnomalyType.identity (type : AnomalyType) (packet : PacketAnalysis) : ActiveAnomaly where
  type := type
  sourceMac := (type.attributed packet.observation).sourceMac
  sourceIpv4 := (type.attributed packet.observation).sourceIpv4
  ingressPort := 0

/-- **An anomaly that is attached to a packet is known from its type**, where all packets
come in by one port. -/
theorem active_of_indicts {event : AnomalyEvent} {raiser packet : PacketAnalysis}
    (hraised : RaisedBy event raiser) (hingress : event.ingressPort = 0)
    (hindicts : Replay.indicts packet event = true) :
    event.active = event.type.identity packet := by
  obtain ⟨_, hmac, hipv4⟩ := hraised
  have hactive : event.active =
      ⟨event.type, event.sourceMac, event.sourceIpv4, event.ingressPort⟩ := rfl
  rcases event.type.kinds with ⟨hframe, hkind⟩ | ⟨hframe, hkind⟩ | hmalformed
  · -- By hardware address: the other two ways do not apply.
    rw [hkind] at hmac hipv4
    rw [hactive, AnomalyType.identity, hkind, hipv4, hingress]
    rcases indicts_iff.mp hindicts with ⟨_, hsame⟩ | ⟨hnonzero, _⟩ | ⟨htype, _⟩
    · rw [hsame]
      rfl
    · exact absurd hipv4 hnonzero
    · exact absurd htype hframe
  · -- By IPv4 address.
    rw [hkind] at hmac hipv4
    rw [hactive, AnomalyType.identity, hkind, hmac, hingress]
    rcases indicts_iff.mp hindicts with ⟨hnonzero, _⟩ | ⟨_, hsame⟩ | ⟨htype, _⟩
    · rw [hmac] at hnonzero
      exact absurd (isZero_zero.symm.trans hnonzero) (by decide)
    · rw [hsame]
      rfl
    · exact absurd htype hframe
  · rw [hmalformed] at hmac hipv4
    rw [hactive, hmac, hipv4, hingress, hmalformed]
    rfl

/-- All the types there are. -/
def allTypes : List AnomalyType :=
  [.broadcastStorm, .macFlap, .unknownUnicastFlood, .udpFlood, .portScan, .hotTalker,
    .malformedFrame]

theorem mem_allTypes (type : AnomalyType) : type ∈ allTypes := by
  cases type <;> decide

section
variable {config : AnomalyDetectorConfig} {seen : Nat} {judgement : Judgement}
  (h : judgement.Sound config seen) (packet : PacketAnalysis)
include h

/-- **At most one anomaly of each type** is attached to a packet. -/
theorem Judgement.Sound.matched_types :
    ((Replay.matched judgement.outcome packet).map AnomalyEvent.type).Nodup := by
  have hmatched : (Replay.matched judgement.outcome packet).Sublist judgement.outcome.anomalies :=
    List.filter_sublist
  have hactive := h.distinct.sublist (hmatched.map AnomalyEvent.active)
  have hidentity : (Replay.matched judgement.outcome packet).map AnomalyEvent.active =
      ((Replay.matched judgement.outcome packet).map AnomalyEvent.type).map
        fun type => type.identity packet := by
    rw [List.map_map]
    refine List.map_congr_left fun event hevent => ?_
    obtain ⟨hreported, hindicts⟩ := List.mem_filter.mp hevent
    obtain ⟨raiser, _, hraised⟩ := h.raised event hreported
    exact active_of_indicts hraised (h.ingress event hreported) hindicts
  rw [hidentity] at hactive
  exact hactive.of_map _

theorem Judgement.Sound.length_matched_le :
    (Replay.matched judgement.outcome packet).length ≤ 7 := by
  have hsubset := (h.matched_types packet).subperm fun type _ => mem_allTypes type
  have hlength := hsubset.length_le
  rwa [List.length_map] at hlength

end

/-- The decisions are about the anomalies, in their order. -/
theorem Decides.sublist {rules : List PolicyRule} {anomalies : List AnomalyEvent}
    {decisions : List PolicyDecision} (h : Decides rules anomalies decisions) :
    (decisions.map PolicyDecision.anomaly).Sublist anomalies := by
  induction h with
  | nil => exact .slnil
  | skip _ _ ih => exact ih.cons _
  | decide _ _ _ hanomaly _ _ ih =>
      rw [List.map_cons, hanomaly]
      exact ih.cons_cons _

/-- An anomaly is decided once, at most. -/
theorem Judgement.Sound.decided_once {config : AnomalyDetectorConfig} {seen : Nat}
    {judgement : Judgement} (h : judgement.Sound config seen) (identity : ActiveAnomaly) :
    (judgement.outcome.decisions.filter fun decision =>
      decision.anomaly.active = identity).length ≤ 1 := by
  have hdistinct := h.distinct.sublist (h.decided.sublist.map AnomalyEvent.active)
  have hcount := List.nodup_iff_count_le_one.mp hdistinct identity
  rw [List.map_map, List.count, List.countP_map, List.countP_eq_length_filter] at hcount
  refine le_trans (le_of_eq ?_) hcount
  congr 1

/-- **The comment of a packet is short**, whatever the capture. -/
theorem Judgement.Sound.length_comment_lt {options : ReplayOptions} {seen : Nat}
    {judgement : Judgement} (h : judgement.Sound options.detectorConfig seen)
    (hseen : seen < 2 ^ 64) (item : PacketAnalysis × CapturedPacket) :
    (judgement.annotate item).comment.length < 4096 := by
  have hfew := h.length_matched_le item.1
  have hdecided : (Replay.matchedDecisions judgement.outcome item.1).length ≤ 7 := by
    have hlines : (Replay.matchedDecisions judgement.outcome item.1).length ≤
        (Replay.matched judgement.outcome item.1).length * 1 :=
      Replay.length_lines fun anomaly _ => h.decided_once anomaly.active
    omega
  refine Replay.length_buildComment (fun anomaly hanomaly => ?_) (fun decision hdecision => ?_)
    hfew hdecided
  · have hreported := (List.mem_filter.mp hanomaly).1
    refine ⟨lt_of_le_of_lt (h.packets anomaly hreported) hseen,
      lt_of_le_of_lt (h.destinations anomaly hreported) hseen, ?_, ?_⟩
    · rw [h.threshold anomaly hreported]
      cases anomaly.type with
      | broadcastStorm => exact options.broadcastThreshold.toNat_lt
      | macFlap => exact options.macFlapThreshold.toNat_lt
      | unknownUnicastFlood => exact options.unknownUnicastThreshold.toNat_lt
      | udpFlood => exact options.udpThreshold.toNat_lt
      | portScan => exact options.portScanThreshold.toNat_lt
      | hotTalker => exact options.hotTalkerThreshold.toNat_lt
      | malformedFrame => exact options.malformedThreshold.toNat_lt
    · rw [h.window anomaly hreported]
      exact (options.windowMs * 1000000).toNat_lt
  · obtain ⟨anomaly, _, hdecision⟩ := List.mem_flatMap.mp hdecision
    exact PolicyEngine.ruleName_mem h.decided decision (List.mem_filter.mp hdecision).1

/-! ## Which packets an anomaly is attached to -/

theorem classification_ne_malformed (learnedMacs : List MacAddress) (destination : MacAddress) :
    classification learnedMacs destination ≠ .malformed := by
  unfold classification
  split_ifs
  · exact fun h => by cases h
  · exact fun h => by cases h
  · exact fun h => by cases h

/-- Only a frame without a whole Ethernet header is classified as malformed. -/
theorem judge_malformed_iff (learnedMacs : List MacAddress) (frame : Bytes) (length : UInt64) :
    (judge learnedMacs (analysisOf frame 0, length)).classification = .malformed ↔
      frame.length < 14 := by
  have hethernet := analysisOf_hasEthernet frame 0
  unfold judge
  split_ifs with h
  · have hlong := hethernet.mp h
    exact ⟨fun hmalformed => absurd hmalformed (classification_ne_malformed _ _), by omega⟩
  · have hshort := mt hethernet.mpr h
    refine ⟨fun _ => by omega, fun _ => analysisOf_classification frame 0⟩

/-- An analysis is that of the packet it stands beside. -/
theorem mem_zip_judgeAll {learnedMacs : List MacAddress} {packets : List CapturedPacket}
    {item : PacketAnalysis × CapturedPacket}
    (h : item ∈ (judgeAll learnedMacs (measuredPackets packets)).zip packets) :
    ∃ learned length, item.1 = judge learned (analysisOf item.2.frame 0, length) := by
  induction packets generalizing learnedMacs with
  | nil => exact absurd h (by simp)
  | cons packet packets ih =>
      rw [measuredPackets, parsedPackets, List.map_cons, List.map_cons, judgeAll, List.zip_cons_cons]
        at h
      rcases List.mem_cons.mp h with rfl | hrest
      · exact ⟨_, _, rfl⟩
      · exact ih hrest

/-- The packets of a judgement are analysed one by one. -/
structure Judgement.Analysed (judgement : Judgement) : Prop where
  malformed : ∀ item ∈ judgement.items,
    item.1.classification = .malformed ↔ item.2.frame.length < 14

theorem Watch.analysed_judge (watch : Watch) (packets : List CapturedPacket) :
    (watch.judge packets).Analysed where
  malformed item hitem := by
    have hzip : item ∈ (judgeAll watch.learnedMacs (measuredPackets packets)).zip packets := by
      rw [← packets_analysisBatch]
      exact hitem
    obtain ⟨learned, length, hjudged⟩ := mem_zip_judgeAll hzip
    rw [hjudged]
    exact judge_malformed_iff learned item.2.frame length

theorem Watch.analysed_judgements (watch : Watch) (batches : List (List CapturedPacket)) :
    ∀ judgement ∈ watch.judgements batches, judgement.Analysed := by
  induction batches generalizing watch with
  | nil => exact fun judgement hjudgement => absurd hjudgement List.not_mem_nil
  | cons packets batches ih =>
      intro judgement hjudgement
      rcases List.mem_cons.mp hjudgement with rfl | hlater
      · exact watch.analysed_judge packets
      · exact ih (watch.behind packets) judgement hlater

section
variable {config : AnomalyDetectorConfig} {seen : Nat} {judgement : Judgement}
  (hanalysed : judgement.Analysed) (hsound : judgement.Sound config seen)
include hanalysed hsound

/-- **Where an anomaly is attached**: to a packet of its own batch, if it names an address
that is not zero, or if frames of the batch are too short to have one. -/
theorem Judgement.attached_iff {event : AnomalyEvent} (hevent : event ∈ judgement.outcome.anomalies) :
    (∃ item ∈ judgement.items, Replay.indicts item.1 event = true) ↔
      event.sourceMac.isZero = false ∨ event.sourceIpv4 ≠ 0 ∨
        (event.type = .malformedFrame ∧ ∃ packet ∈ judgement.packets, packet.frame.length < 14) := by
  constructor
  · rintro ⟨item, hitem, hindicts⟩
    rcases indicts_iff.mp hindicts with ⟨hmac, _⟩ | ⟨hipv4, _⟩ | ⟨htype, hmalformed⟩
    · exact .inl hmac
    · exact .inr (.inl hipv4)
    · exact .inr (.inr ⟨htype, item.2, Judgement.mem_items hitem,
        (hanalysed.malformed item hitem).mp hmalformed⟩)
  · obtain ⟨raiser, hraiser, _, hmac, hipv4⟩ := hsound.raised event hevent
    rw [← judgement.map_items_fst] at hraiser
    obtain ⟨item, hitem, rfl⟩ := List.mem_map.mp hraiser
    rintro (hnonzero | hnonzero | ⟨htype, packet, hpacket, hshort⟩)
    · refine ⟨item, hitem, indicts_iff.mpr (.inl ⟨hnonzero, ?_⟩)⟩
      rcases event.type.kinds with ⟨_, hkind⟩ | ⟨_, hkind⟩ | hmalformed
      · rw [hmac, hkind]
        rfl
      · rw [hmac, hkind] at hnonzero
        exact absurd (isZero_zero.symm.trans hnonzero) (by decide)
      · rw [hmac, hmalformed] at hnonzero
        exact absurd (isZero_zero.symm.trans hnonzero) (by decide)
    · refine ⟨item, hitem, indicts_iff.mpr (.inr (.inl ⟨hnonzero, ?_⟩))⟩
      rcases event.type.kinds with ⟨_, hkind⟩ | ⟨_, hkind⟩ | hmalformed
      · rw [hipv4, hkind] at hnonzero
        exact absurd rfl hnonzero
      · rw [hipv4, hkind]
        rfl
      · rw [hipv4, hmalformed] at hnonzero
        exact absurd rfl hnonzero
    · rw [← judgement.map_items] at hpacket
      obtain ⟨other, hother, rfl⟩ := List.mem_map.mp hpacket
      exact ⟨other, hother, indicts_iff.mpr (.inr (.inr
        ⟨htype, (hanalysed.malformed other hother).mpr hshort⟩))⟩

end

end WireLab
