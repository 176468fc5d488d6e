import WireLab.Logic.GeneratedPackets

/-!
# Generated traffic is what it claims to be

A frame that has room for an IPv4 header is a valid IPv4 packet of its shape, whatever
the random bytes around its headers are.
-/

namespace WireLab

open Base TrafficGenerator

namespace Traffic

/-- The parser's report about a frame with a payload of some size is its shape's. -/
structure Genuine (shape : FrameShape) (size : Nat) (analysis : PacketAnalysis) : Prop where
  validity : analysis.validity = .valid
  ethertype : analysis.ethertype = WireLab.ethertypeIpv4
  destinationMac : analysis.destinationMac = shape.destinationMac
  sourceMac : analysis.sourceMac = shape.sourceMac
  sourceIpv4 : analysis.sourceIpv4.toNat = 10 * 2 ^ 24 + shape.sourceHost.toNat % 2 ^ 16
  destinationIpv4 :
    analysis.destinationIpv4.toNat = 10 * 2 ^ 24 + shape.destinationHost.toNat % 2 ^ 16
  udp : shape.udp = true → 28 ≤ size →
    analysis.protocol = WireLab.udpProtocol ∧ analysis.sourcePort = shape.sourcePort ∧
      analysis.destinationPort = shape.destinationPort

section
variable {frame : Bytes} {shape : FrameShape} {size : Nat} (h : SaysHeaders frame shape size)
include h

private theorem ipv4HeaderSize_eq : WireLab.ipv4HeaderSize frame = 20 := by
  rw [WireLab.ipv4HeaderSize, h.version]
  rfl

private theorem ipv4Intact (hsize : 20 ≤ size) : Ipv4Intact frame where
  fits := by
    rw [h.length]
    omega
  version := by
    rw [h.version]
    rfl
  header := (ipv4HeaderSize_eq h).ge
  total := by
    rw [ipv4HeaderSize_eq h, ipv4TotalSize, h.total]
    exact hsize
  within := by
    rw [ipv4TotalSize, h.total, h.length]

/-- The parser finds a transport header where one was written, and looks for none where
there was no room. -/
private theorem transport_of_hasUdp :
    transport frame = if hasUdp shape size then .udp else .other := by
  rw [transport, h.protocol]
  cases hasUdp shape size <;> rfl

private theorem transportIntact (hudp : hasUdp shape size = true → SaysUdp frame shape size) :
    TransportIntact frame := by
  have htransport := transport_of_hasUdp h
  cases hhas : hasUdp shape size with
  | false =>
      rw [hhas] at htransport
      simp [TransportIntact, htransport]
  | true =>
      rw [hhas] at htransport
      have hlong := long_of_hasUdp hhas
      have hlength := (hudp hhas).length
      simp only [TransportIntact, htransport, if_true, reduceCtorEq, false_implies, and_true,
        true_implies, transportSize, ipv4TotalSize, udpLength, transportStart, h.total,
        ipv4HeaderSize_eq h, hlength]
      omega

omit h in
/-- What is known of the packet before its flow is hashed. -/
private theorem reports_transport (ingressPort : UInt32) :
    let analysis := transportAnalysis frame ingressPort
    analysis.validity = .valid ∧ analysis.ethertype = u16At frame 12 ∧
      analysis.destinationMac = macAt frame 0 ∧ analysis.sourceMac = macAt frame 6 ∧
      analysis.sourceIpv4 = u32At frame 26 ∧ analysis.destinationIpv4 = u32At frame 30 ∧
      analysis.protocol = byteAt frame 23 := by
  rw [transportAnalysis, withTransport]
  cases transport frame <;> exact ⟨rfl, rfl, rfl, rfl, rfl, rfl, rfl⟩

private theorem reads_ports (hudp : hasUdp shape size = true) (ingressPort : UInt32) :
    (transportAnalysis frame ingressPort).sourcePort = u16At frame 34 ∧
      (transportAnalysis frame ingressPort).destinationPort = u16At frame 36 := by
  have htransport := transport_of_hasUdp h
  rw [hudp, if_pos rfl] at htransport
  simp only [transportAnalysis, withTransport, htransport, transportStart, ipv4HeaderSize_eq h,
    and_self]

omit h in
/-- The hash of a flow says nothing of the rest. -/
private theorem withHash_genuine {analysis : PacketAnalysis} (hgenuine : Genuine shape size analysis)
    (flowHash : UInt64) : Genuine shape size { analysis with flowHash } :=
  { hgenuine with }

/-- **The parser's report.** -/
private theorem genuine (hsize : 20 ≤ size)
    (hudp : hasUdp shape size = true → SaysUdp frame shape size) (ingressPort : UInt32) :
    Genuine shape size (analysisOf frame ingressPort) := by
  have hlength := h.length
  have hfragment : ¬ Fragment frame := by
    rw [Fragment, h.unfragmented]
    decide
  have hanalysis : analysisOf frame ingressPort = (transportAnalysis frame ingressPort).hashed := by
    rw [analysisOf, if_neg (by omega), if_neg (not_not.mpr h.ethertype),
      if_neg (not_not.mpr (ipv4Intact h hsize)), if_neg hfragment,
      if_pos (transportIntact h hudp)]
  have hreport := @reports_transport frame ingressPort
  rw [hanalysis]
  refine withHash_genuine ?_ _
  exact {
    validity := hreport.1
    ethertype := hreport.2.1.trans h.ethertype
    destinationMac := hreport.2.2.1.trans h.destination
    sourceMac := hreport.2.2.2.1.trans h.source
    sourceIpv4 := by
      rw [hreport.2.2.2.2.1]
      exact h.sourceIpv4
    destinationIpv4 := by
      rw [hreport.2.2.2.2.2.1]
      exact h.destinationIpv4
    udp := fun hshape hroom => by
      have hhas : hasUdp shape size = true := by
        rw [hasUdp, hshape, Bool.true_and, decide_eq_true_eq]
        exact hroom
      have hprotocol := h.protocol
      rw [hhas, if_pos rfl] at hprotocol
      obtain ⟨hsource, hdestination⟩ := reads_ports h hhas ingressPort
      exact ⟨hreport.2.2.2.2.2.2.trans hprotocol, hsource.trans (hudp hhas).sourcePort,
        hdestination.trans (hudp hhas).destinationPort⟩ }

end

/-! ## Addresses -/

/-- Every frame is sent by a host. -/
private theorem sourceMac_hostMac (config : TrafficGeneratorConfig) (scenario : TrafficScenario)
    (sequence entropy : UInt64) :
    ∃ host, (frameShape config scenario sequence entropy).sourceMac = hostMac host := by
  cases scenario <;> exact ⟨_, rfl⟩

/-- No host has an unknown address: the second bytes differ. -/
private theorem unknownMac_ne_hostMac (value : UInt64) (host : UInt32) :
    unknownMac value ≠ hostMac host := by
  intro heq
  have hsecond := congrArg (fun mac => mac.bytes[1]?) heq
  exact absurd hsecond (by simp [unknownMac, hostMac])

private theorem unknown_unreachable {config : TrafficGeneratorConfig} {sequence : UInt64}
    (h : frameScenario config sequence = .unknownUnicast) (other : TrafficGeneratorConfig)
    (number : UInt64) :
    (shapeOf config sequence).destinationMac ≠ (shapeOf other number).sourceMac := by
  obtain ⟨host, hhost⟩ := sourceMac_hostMac other (frameScenario other number) number
    (firstDraw other number).1
  have hunknown : (shapeOf config sequence).destinationMac =
      unknownMac (firstDraw config sequence).1 := by
    rw [shapeOf, h]
    rfl
  rw [hunknown, shapeOf, hhost]
  exact unknownMac_ne_hostMac _ host

/-- The scenarios whose frames are to be UDP datagrams. -/
def udpScenarios : List TrafficScenario := [.udpFlood, .portScan, .broadcastStorm]

private theorem shape_udp (config : TrafficGeneratorConfig) (scenario : TrafficScenario)
    (sequence entropy : UInt64) :
    (frameShape config scenario sequence entropy).udp = true ↔ scenario ∈ udpScenarios := by
  cases scenario <;> simp [frameShape, benignShape, udpScenarios]

end Traffic

open Traffic

/-- **Generated traffic is what it claims to be.** For every configuration that has hosts
and room for an IPv4 header, and every sequence number: exactly the bytes of the frame are
written; the parser finds a valid IPv4 packet with the addresses of its shape and, in a UDP
scenario that has room for the header, its ports; the words of the IPv4 header add up to
0xffff in ones' complement; and an unknown destination is the source of no frame of any
configuration. -/
theorem generated_traffic_genuine {config : TrafficGeneratorConfig}
    (hhosts : 2 ≤ config.hostCount.toNat)
    (hsize : 34 ≤ config.frameSize.toNat ∧ config.frameSize.toNat ≤ 65549)
    (sequence : UInt64) (out : Nat) :
    ∃ written frame,
      writeTrafficFrame config sequence (some out) = some (config.frameSize, written) ∧
      (∀ address, (∃ byte, (address, byte) ∈ written) ↔
        out ≤ address ∧ address < out + config.frameSize.toNat) ∧
      frame.length = config.frameSize.toNat ∧ written.memory.Shows out frame ∧
      (∀ ingressPort, ∃ analysis, parsePacket { bytes := frame, ingressPort } = some analysis ∧
        Genuine (shapeOf config sequence) (config.frameSize.toNat - 14) analysis) ∧
      ((shapeOf config sequence).udp = true ↔ frameScenario config sequence ∈ udpScenarios) ∧
      OnesComplement.sum 0xffff (ipv4Words frame 14) = 0xffff ∧
      (frameScenario config sequence = .unknownUnicast → ∀ other number,
        (shapeOf config sequence).destinationMac ≠ (shapeOf other number).sourceMac) := by
  obtain ⟨written, hwritten, hmemory⟩ := writeTrafficFrame_spec (by omega) hhosts sequence out
  have hlength := @length_frameBytes config (by omega) sequence
  have hpayload : 20 ≤ config.frameSize.toNat - 14 ∧ config.frameSize.toNat - 14 ≤ 65535 := by
    omega
  have hheaders := says_headers (shapeOf config sequence) sequence
    (firstDraw config sequence).2 hpayload
  refine ⟨written, frameBytes config sequence, hwritten, fun address => ?_, hlength, ?_,
    fun ingressPort => ?_, shape_udp _ _ _ _, hheaders.verifies, unknown_unreachable⟩
  · rw [← hlength]
    exact Writes.mem_iff_of_overlay hmemory address
  · rw [hmemory]
    exact Memory.shows_overlay _ _ _
  · have hfits : (frameBytes config sequence).length < 2 ^ 64 := by
      rw [hlength]
      omega
    exact ⟨_, parsePacket_eq hfits, genuine hheaders hpayload.1
      (fun hudp => says_udp _ _ _ hpayload hudp) ingressPort⟩

/-- The smallest frame of a UDP scenario. -/
theorem generated_traffic_genuine_flood :
    ∃ written frame,
      writeTrafficFrame { scenario := .udpFlood, frameSize := 42 } 7 (some 100) =
        some (42, written) ∧
      ∃ analysis, parsePacket { bytes := frame } = some analysis ∧
        analysis.destinationPort = udpFloodDestinationPort := by
  obtain ⟨written, frame, hwritten, -, -, -, hparse, -⟩ :=
    @generated_traffic_genuine { scenario := .udpFlood, frameSize := 42 } (by decide) (by decide)
      7 100
  obtain ⟨analysis, hanalysis, hgenuine⟩ := hparse 0
  exact ⟨written, frame, hwritten, analysis, hanalysis, (hgenuine.udp rfl (by decide)).2.2⟩

end WireLab
