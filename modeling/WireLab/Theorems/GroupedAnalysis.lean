import WireLab.Logic.GroupedBatches

/-!
# Where a batch ends does not matter

An analysis is the grouping of its packets by what they carry, with the classification
of each by the sources before it. So packets that are analysed in two batches have the
results, and key by key the sums, that they have in one.
-/

namespace WireLab

open Base PacketAnalysisAggregator

/-- **An analysis is a grouping.** Whatever was learned before: the aggregate of any
analyses reports them, and analyses that are aggregated in two parts give what they give
together. So it is with packets: the CPU analyzer parses each, tells a complete Ethernet
header by its 14 bytes, and groups them, as a list or as a batch of contiguous bytes. -/
theorem analysis_groups_packets (learnedMacs : List MacAddress) :
    (∀ packets frameLengths, Reports learnedMacs (measured packets frameLengths)
      (aggregate learnedMacs packets frameLengths).1) ∧
    (∀ first second firstLengths secondLengths wholeLengths,
      measured (first ++ second) wholeLengths =
          measured first firstLengths ++ measured second secondLengths →
        let (batch, learned) := aggregate learnedMacs first firstLengths
        let (batch', learned') := aggregate learned second secondLengths
        let (whole, learnedWhole) := aggregate learnedMacs (first ++ second) wholeLengths
        Combines batch batch' whole ∧ learnedWhole = learned') ∧
    ∀ first second : List PacketView,
      (∀ packet ∈ first ++ second, packet.bytes.length < 2 ^ 64) →
        (∀ packet ∈ first ++ second, ∃ analysis, parsePacket packet = some analysis ∧
          (analysis.HasEthernet ↔ 14 ≤ packet.bytes.length)) ∧
        (∀ batch timestampNs, PacketBatch.create first timestampNs = .ok batch →
          CpuPacketAnalyzer.analyzeBatch learnedMacs batch =
            CpuPacketAnalyzer.analyze learnedMacs first) ∧
        ∃ batch batch' whole learned learned',
          CpuPacketAnalyzer.analyze learnedMacs first = some (batch, learned) ∧
          CpuPacketAnalyzer.analyze learned second = some (batch', learned') ∧
          CpuPacketAnalyzer.analyze learnedMacs (first ++ second) = some (whole, learned') ∧
          Reports learnedMacs (parsedPackets first) batch ∧ Combines batch batch' whole := by
  refine ⟨fun packets frameLengths => ?_,
    fun first second firstLengths secondLengths wholeLengths hmeasured => ?_,
    fun first second hsize => ?_⟩
  · rw [aggregate_eq]
    exact analysisBatch_reports learnedMacs (measured packets frameLengths)
  · simp only [aggregate_eq, hmeasured]
    exact ⟨analysisBatch_append learnedMacs _ _, List.foldl_append⟩
  · obtain ⟨hfirst, hsecond⟩ := List.forall_mem_append.mp hsize
    refine ⟨fun packet hpacket => ?_, fun batch timestampNs hcreate => ?_, ?_⟩
    · exact ⟨_, parsePacket_eq (hsize packet hpacket), analysisOf_hasEthernet _ _⟩
    · rw [CpuPacketAnalyzer.analyze_eq hfirst,
        CpuPacketAnalyzer.analyzeBatch_eq (PacketBatch.holds_create hcreate)]
    · refine ⟨_, _, _, _, _, CpuPacketAnalyzer.analyze_eq hfirst learnedMacs,
        CpuPacketAnalyzer.analyze_eq hsecond _, ?_, analysisBatch_reports _ _,
        analysisBatch_append learnedMacs _ _⟩
      have hparsed : parsedPackets (first ++ second) =
          parsedPackets first ++ parsedPackets second := List.map_append
      rw [CpuPacketAnalyzer.analyze_eq hsize learnedMacs, hparsed]
      exact congrArg some (Prod.ext rfl List.foldl_append)

/-- Two empty analyses, and a frame that is too short in front of one that is broadcast. -/
theorem analysis_groups_packets_two :
    (let (batch, learned) := aggregate [] [{}] none
     let (batch', learned') := aggregate learned [{}] none
     let (whole, learnedWhole) := aggregate [] ([{}] ++ [{}]) none
     Combines batch batch' whole ∧ learnedWhole = learned') ∧
    ∃ batch batch' whole learned learned',
      CpuPacketAnalyzer.analyze [] [{ bytes := [1, 2, 3] }] = some (batch, learned) ∧
      CpuPacketAnalyzer.analyze learned [{ bytes := List.replicate 14 0xff }] =
        some (batch', learned') ∧
      CpuPacketAnalyzer.analyze [] [{ bytes := [1, 2, 3] }, { bytes := List.replicate 14 0xff }] =
        some (whole, learned') ∧
      Reports [] (parsedPackets [{ bytes := [1, 2, 3] }]) batch ∧ Combines batch batch' whole :=
  ⟨(analysis_groups_packets []).2.1 [{}] [{}] none none none rfl,
    ((analysis_groups_packets []).2.2 [{ bytes := [1, 2, 3] }]
      [{ bytes := List.replicate 14 0xff }] (by decide)).2.2⟩

end WireLab
