import WireLab.Logic.RaisedAnomalies
import WireLab.Replay.Judgements

/-!
# How long a comment is

A pcapng option has a 16-bit length, and the writer does not check it. The comment of a
packet stays below it: every number in it is a 64-bit one, and no two anomalies of a type
are about the same packet, since a type names its sources in one way only.
-/

namespace WireLab

open Base

/-! ## The texts -/

namespace Replay

theorem length_decimal_byte (value : UInt32) : (decimal (value &&& 0xff).toNat).length ≤ 3 := by
  refine length_decimal_le (by decide) ?_
  rw [UInt32.toNat_and]
  exact lt_of_le_of_lt Nat.and_le_right (by decide)

theorem length_ipv4String (address : UInt32) : (ipv4String address).length ≤ 15 := by
  have hfirst := length_decimal_byte (address >>> 24)
  have hsecond := length_decimal_byte (address >>> 16)
  have hthird := length_decimal_byte (address >>> 8)
  have hfourth := length_decimal_byte address
  have hdot : (bytes ".").length = 1 := by decide
  simp only [ipv4String, List.length_append, hdot]
  omega

theorem length_hexString (value : UInt64) : (hexString value).length = 16 := by
  rw [hexString, List.length_flatMap]
  rfl

theorem length_macAddress (mac : MacAddress) : mac.toString.length = 17 := by
  obtain ⟨octets, hsize⟩ := mac
  match octets, hsize with
  | [_, _, _, _, _, _], _ => rfl

theorem length_classification (classification : PacketClassification) :
    classification.toString.length ≤ 15 := by
  cases classification <;> decide

theorem length_validity (validity : PacketValidity) : validity.toString.length ≤ 19 := by
  cases validity <;> decide

theorem length_anomalyType (type : AnomalyType) : type.toString.length ≤ 21 := by
  cases type <;> decide

theorem length_action (action : PolicyAction) : action.toString.length ≤ 10 := by
  cases action <;> decide

/-- What is said of every packet. -/
theorem length_packetText (analysis : PacketAnalysis) : (packetText analysis).length ≤ 150 := by
  have hclassification := length_classification analysis.classification
  have hvalidity := length_validity analysis.validity
  have hprotocol : (decimal analysis.protocol.toNat).length ≤ 3 :=
    length_decimal_le (by decide) (lt_trans analysis.protocol.toNat_lt (by decide))
  have hsourcePort : (decimal analysis.sourcePort.toNat).length ≤ 5 :=
    length_decimal_le (by decide) (lt_trans analysis.sourcePort.toNat_lt (by decide))
  have hdestinationPort : (decimal analysis.destinationPort.toNat).length ≤ 5 :=
    length_decimal_le (by decide) (lt_trans analysis.destinationPort.toNat_lt (by decide))
  have hsource := length_ipv4String analysis.sourceIpv4
  have hdestination := length_ipv4String analysis.destinationIpv4
  have hflow := length_hexString analysis.flowHash
  have hprefix : (bytes "WireLab: ").length = 9 := by decide
  have hcomma : (bytes ", ").length = 2 := by decide
  have hproto : (bytes ", proto=").length = 8 := by decide
  have harrow : (bytes " -> ").length = 4 := by decide
  have hhash : (bytes ", flow=0x").length = 9 := by decide
  unfold packetText
  split_ifs <;>
    simp only [List.length_append, List.length_cons, List.length_nil, hprefix, hcomma, hproto,
      harrow, hhash] <;>
    omega

/-- An anomaly whose numbers are 64-bit ones. -/
structure Narrow (anomaly : AnomalyEvent) : Prop where
  packets : anomaly.observedPackets < 2 ^ 64
  destinations : anomaly.observedDistinctDestinations < 2 ^ 64
  threshold : anomaly.threshold < 2 ^ 64
  window : anomaly.windowDurationNs < 2 ^ 64

theorem length_decimal_narrow {n : Nat} (h : n < 2 ^ 64) : (decimal n).length ≤ 20 :=
  length_decimal_le (by decide) (lt_trans h (by decide))

theorem length_anomalyText {anomaly : AnomalyEvent} (h : Narrow anomaly) :
    (anomalyText anomaly).length ≤ 200 := by
  have htype := length_anomalyType anomaly.type
  have hpackets := length_decimal_narrow h.packets
  have hdestinations := length_decimal_narrow h.destinations
  have hthreshold := length_decimal_narrow h.threshold
  have hwindow := length_decimal_narrow (lt_of_le_of_lt (Nat.div_le_self _ 1000000) h.window)
  have hmac := length_macAddress anomaly.sourceMac
  have hipv4 := length_ipv4String anomaly.sourceIpv4
  have hprefix : (bytes "\nANOMALY ").length = 9 := by decide
  have hcolon : (bytes ": ").length = 2 := by decide
  have hdistinct : (bytes " destinations > threshold ").length = 26 := by decide
  have hcount : (bytes " packets > threshold ").length = 21 := by decide
  have hin : (bytes " in ").length = 4 := by decide
  have hms : (bytes " ms").length = 3 := by decide
  have hfrom : (bytes ", source ").length = 9 := by decide
  unfold anomalyText
  split_ifs <;>
    simp only [List.length_append, List.length_nil, hprefix, hcolon, hdistinct, hcount, hin, hms,
      hfrom] <;>
    omega

theorem length_policyText {decision : PolicyDecision}
    (h : decision.ruleName ∈ defaultRules.map PolicyRule.name) :
    (policyText decision).length ≤ 90 := by
  have hname : decision.ruleName.length ≤ 26 := by
    have hall : ∀ name ∈ defaultRules.map PolicyRule.name, name.length ≤ 26 := by decide
    exact hall _ h
  have haction := length_action decision.action
  have hrate := length_decimal_narrow decision.rateLimitPacketsPerSecond.toNat_lt
  have hprefix : (bytes "\nPOLICY ").length = 8 := by decide
  have harrow : (bytes " -> ").length = 4 := by decide
  have hat : (bytes " at ").length = 4 := by decide
  have hpps : (bytes " pps").length = 4 := by decide
  unfold policyText
  split_ifs <;>
    simp only [List.length_append, List.length_nil, hprefix, harrow, hat, hpps] <;>
    omega

/-- Lines of a bounded length, of which there are few. -/
theorem length_lines {α β : Type} {lines : List α} {text : α → List β} {bound : Nat}
    (h : ∀ line ∈ lines, (text line).length ≤ bound) :
    (lines.flatMap text).length ≤ lines.length * bound := by
  rw [List.length_flatMap]
  have hsum := List.sum_le_card_nsmul (lines.map fun line => (text line).length) bound
  rw [List.length_map] at hsum
  refine hsum fun length hlength => ?_
  obtain ⟨line, hline, rfl⟩ := List.mem_map.mp hlength
  exact h line hline

/-- **A comment of few lines is short.** -/
theorem length_buildComment {analysis : PacketAnalysis} {anomalies : List AnomalyEvent}
    {decisions : List PolicyDecision} (hanomalies : ∀ anomaly ∈ anomalies, Narrow anomaly)
    (hdecisions : ∀ decision ∈ decisions,
      decision.ruleName ∈ defaultRules.map PolicyRule.name)
    (hfew : anomalies.length ≤ 7) (hdecided : decisions.length ≤ 7) :
    (buildComment analysis anomalies decisions).length < 4096 := by
  have hpacket := length_packetText analysis
  have hfirst : (anomalies.flatMap anomalyText).length ≤ _ :=
    length_lines fun anomaly hanomaly => length_anomalyText (hanomalies anomaly hanomaly)
  have hsecond : (decisions.flatMap policyText).length ≤ _ :=
    length_lines fun decision hdecision => length_policyText (hdecisions decision hdecision)
  rw [buildComment, List.length_append, List.length_append]
  omega

end Replay

/-! ## Lines -/

namespace Replay

end Replay

/-! ## The anomalies of a packet -/

/-- What an observation counts against, where it counts. -/
def AnomalyType.attributed (type : AnomalyType) (observation : ObservedPacket) : AnomalySource :=
  match type with
  | .udpFlood => .ipv4 observation.sourceIpv4
  | .portScan => .ipv4 observation.sourceIpv4
  | .malformedFrame => .port observation.ingressPort
  | _ => .mac observation.sourceMac

private theorem map_ite_eq {α β : Type} {p : Prop} [Decidable p] {a : α} {wrap : α → β} {b : β}
    (h : (if p then some a else none).map wrap = some b) : b = wrap a := by
  split at h
  · exact (Option.some.inj h).symm
  · cases h

theorem AnomalyType.eq_attributed {type : AnomalyType} {observation : ObservedPacket}
    {origin : AnomalySource} (h : type.source observation = some origin) :
    origin = type.attributed observation := by
  cases type with
  | malformedFrame =>
      simp only [AnomalyType.source, ObservedPacket.malformedSource] at h
      split at h
      · cases h
      · exact (Option.some.inj h).symm
  | broadcastStorm =>
      have horigin := map_ite_eq h
      exact horigin
  | macFlap =>
      have horigin := map_ite_eq h
      exact horigin
  | unknownUnicastFlood =>
      have horigin := map_ite_eq h
      exact horigin
  | udpFlood =>
      have horigin := map_ite_eq h
      exact horigin
  | portScan =>
      have horigin := map_ite_eq h
      exact horigin
  | hotTalker =>
      have horigin := map_ite_eq h
      exact horigin

/-- An anomaly about the packets of a batch is about one of them. -/
theorem AnomalyEvent.About.exists_packet {event : AnomalyEvent} {origin : AnomalySource}
    {packets : List PacketAnalysis} {timestampNs : Nat}
    (h : event.About origin (packets.map (AnomalyDetector.observed timestampNs))) :
    ∃ packet ∈ packets, event.type.source (AnomalyDetector.observed timestampNs packet) = some origin ∧
      origin = event.type.attributed (AnomalyDetector.observed timestampNs packet) := by
  obtain ⟨observation, hmem⟩ := List.exists_mem_of_ne_nil _ h.present
  obtain ⟨hobserved, hsource⟩ := List.mem_filter.mp hmem
  obtain ⟨packet, hpacket, rfl⟩ := List.mem_map.mp hobserved
  rw [decide_eq_true_eq] at hsource
  exact ⟨packet, hpacket, hsource, AnomalyType.eq_attributed hsource⟩

end WireLab
