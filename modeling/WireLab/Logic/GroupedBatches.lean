import WireLab.Logic.BatchAnalysis

/-!
# Batches say what their packets do

`Reports` is what an analysis says of its packets, and `Combines` what two analyses say
together. The CPU's analysis reports its packets, and that of two parts, the second with
what the first has taught, combine to that of the whole.
-/

namespace WireLab

open Base PacketAnalysis PacketAnalysisAggregator

theorem isBroadcast_iff (mac : MacAddress) : mac.isBroadcast = true ↔ mac = .broadcast := by
  obtain ⟨bytes, hsize⟩ := mac
  constructor
  · intro hall
    have hbytes : bytes = List.replicate 6 0xff := by
      refine List.eq_replicate_iff.mpr ⟨hsize, fun byte hbyte => ?_⟩
      simpa using List.all_eq_true.mp hall byte hbyte
    subst hbytes
    rfl
  · intro h
    rw [h]
    decide

/-! ## What a batch reports -/

/-- A destination that was learned before some packets, or is the source of one of those
in front of a position. -/
def Known (learnedMacs : List MacAddress) (items : List Measured) (index : Nat)
    (mac : MacAddress) : Prop :=
  mac ∈ learnedMacs ∨ ∃ earlier item, earlier < index ∧ items[earlier]? = some item ∧
    item.1.HasEthernet ∧ item.1.sourceMac = mac

/-- The classification of the packet at a position. -/
structure Classified (learnedMacs : List MacAddress) (items : List Measured) (index : Nat)
    (destination : MacAddress) (outcome : PacketClassification) : Prop where
  broadcast : outcome = .broadcast ↔ destination = .broadcast
  known : outcome = .knownUnicast ↔
    destination ≠ .broadcast ∧ Known learnedMacs items index destination
  unknown : outcome = .unknownUnicast ↔
    destination ≠ .broadcast ∧ ¬ Known learnedMacs items index destination

/-- What a batch says of some packets that are analysed after `learnedMacs` were learned. -/
structure Reports (learnedMacs : List MacAddress) (items : List Measured)
    (batch : AnalysisBatch) : Prop where
  ethertypes : IsHistogram (ofEthernet ethertypeKey) items batch.ethertypeHistogram
  protocols : IsHistogram (ofIpv4 protocolKey) items batch.protocolHistogram
  destinationPorts : IsHistogram ofPorts items batch.destinationPortHistogram
  sources : IsMacRanking (ofEthernet sourceMac) items batch.sourceMacTraffic
  destinations : IsMacRanking (ofEthernet destinationMac) items batch.destinationMacTraffic
  matrix : IsMatrix items batch.macTrafficMatrix
  flows : IsFlowRanking items batch.flows
  /-- Every bucket counts the frames within its bounds, which are those of no other. -/
  sizes : batch.frameSizeHistogram = frameSizeBuckets.map (filled items)
  buckets : ∀ frameLength : UInt64, ∃! index : Nat, ∃ bucket : PacketSizeHistogramBucket,
    frameSizeBuckets[index]? = some bucket ∧
      bucket.inclusiveMinimum ≤ frameLength ∧ frameLength ≤ bucket.inclusiveMaximum
  length : batch.packets.length = items.length
  malformed : ∀ (index : Nat) (item : Measured), items[index]? = some item → ¬ item.1.HasEthernet →
    batch.packets[index]? = some item.1
  classified : ∀ (index : Nat) (item : Measured), items[index]? = some item → item.1.HasEthernet →
    ∃ outcome, batch.packets[index]? = some { item.1 with classification := outcome } ∧
      Classified learnedMacs items index item.1.destinationMac outcome
  receivedPackets : batch.receivedPackets = .ofNat items.length
  receivedBytes : batch.receivedBytes = (items.map Prod.snd).sum
  malformedPackets :
    batch.malformedPackets = .ofNat (items.countP fun item => item.1.validity ≠ .valid)
  broadcastPackets :
    batch.broadcastPackets = .ofNat (batch.packets.countP (WireLab.classified .broadcast))
  unknownUnicastPackets :
    batch.unknownUnicastPackets = .ofNat (batch.packets.countP (WireLab.classified .unknownUnicast))
  knownUnicastPackets :
    batch.knownUnicastPackets = .ofNat (batch.packets.countP (WireLab.classified .knownUnicast))
  partition : .ofNat (items.countP fun item => ¬ item.1.HasEthernet) + batch.broadcastPackets +
    batch.unknownUnicastPackets + batch.knownUnicastPackets = batch.receivedPackets

theorem known_iff (learnedMacs : List MacAddress) (items : List Measured) (index : Nat)
    (mac : MacAddress) :
    mac ∈ learnAll learnedMacs (items.take index) ↔ Known learnedMacs items index mac := by
  rw [mem_learnAll]
  refine or_congr Iff.rfl ⟨?_, ?_⟩
  · rintro ⟨item, hitem, hlearned⟩
    obtain ⟨earlier, hearlier⟩ := List.mem_iff_getElem?.mp hitem
    rw [List.getElem?_take] at hearlier
    split at hearlier
    · rename_i hlt
      exact ⟨earlier, item, hlt, hearlier, hlearned⟩
    · cases hearlier
  · rintro ⟨earlier, item, hlt, hitem, hlearned⟩
    refine ⟨item, List.mem_iff_getElem?.mpr ⟨earlier, ?_⟩, hlearned⟩
    rw [List.getElem?_take, if_pos hlt]
    exact hitem

/-- The classification by what was learned is that of the definition. -/
theorem classification_classified (learnedMacs : List MacAddress) (items : List Measured)
    (index : Nat) (destination : MacAddress) :
    Classified learnedMacs items index destination
      (classification (learnAll learnedMacs (items.take index)) destination) := by
  unfold classification
  by_cases hbroadcast : destination = .broadcast
  · rw [if_pos ((isBroadcast_iff destination).mpr hbroadcast)]
    exact ⟨by simp [hbroadcast], by simp [hbroadcast], by simp [hbroadcast]⟩
  rw [if_neg (mt (isBroadcast_iff destination).mp hbroadcast)]
  by_cases hknown : Known learnedMacs items index destination
  · rw [if_pos ((known_iff ..).mpr hknown)]
    exact ⟨by simp [hbroadcast], by simp [hbroadcast, hknown], by simp [hknown]⟩
  · rw [if_neg (mt (known_iff ..).mp hknown)]
    exact ⟨by simp [hbroadcast], by simp [hknown], by simp [hbroadcast, hknown]⟩

/-- Every packet is without a header or classified in one of the three ways. -/
theorem length_eq_classified (learnedMacs : List MacAddress) (items : List Measured) :
    items.countP (fun item => ¬ item.1.HasEthernet) +
        (judgeAll learnedMacs items).countP (classified .broadcast) +
        (judgeAll learnedMacs items).countP (classified .unknownUnicast) +
        (judgeAll learnedMacs items).countP (classified .knownUnicast) = items.length := by
  induction items generalizing learnedMacs with
  | nil => rfl
  | cons item items ih =>
      rw [judgeAll, List.length_cons, ← ih (learn learnedMacs item)]
      simp only [List.countP_cons]
      by_cases hethernet : item.1.HasEthernet
      · have hjudged : (judge learnedMacs item).HasEthernet := by
          rw [judge, if_pos hethernet]
          exact hethernet
        have houtcome : (judge learnedMacs item).classification =
            classification learnedMacs item.1.destinationMac := by rw [judge, if_pos hethernet]
        simp only [classified, hjudged, houtcome, true_and, hethernet, not_true_eq_false,
          decide_false, Bool.false_eq_true, if_false]
        unfold classification
        split
        · simp
          omega
        · split
          · simp
            omega
          · simp
            omega
      · have hjudged : judge learnedMacs item = item.1 := by rw [judge, if_neg hethernet]
        simp only [classified, hjudged, hethernet, false_and, decide_false, Bool.false_eq_true,
          if_false, not_false_eq_true, decide_true, if_true]
        omega

/-- **An analysis reports its packets.** -/
theorem analysisBatch_reports (learnedMacs : List MacAddress) (items : List Measured) :
    Reports learnedMacs items (analysisBatch learnedMacs items).1 where
  ethertypes := aggregateHistogram_spec _ items
  protocols := aggregateHistogram_spec _ items
  destinationPorts := aggregateHistogram_spec _ items
  sources := rankMacTraffic_spec _ items
  destinations := rankMacTraffic_spec _ items
  matrix := aggregateTrafficMatrix_spec items
  flows := rankFlows_spec items
  sizes := frameSizes_eq items
  buckets frameLength := by
    have hindex : frameSizeBucket frameLength < frameSizeBuckets.length := by
      rw [frameSizeBucket_eq]
      show _ < 7
      split_ifs <;> decide
    have hbucket := List.getElem?_eq_getElem hindex
    refine ⟨frameSizeBucket frameLength, ⟨_, hbucket, (frameSizeBucket_iff hbucket _).mp rfl⟩, ?_⟩
    rintro index ⟨bucket, hother, hbounds⟩
    exact ((frameSizeBucket_iff hother frameLength).mpr hbounds).symm
  length := by
    show ([] ++ judgeAll learnedMacs items).length = _
    rw [List.nil_append, judgeAll_length]
  malformed index item hitem hethernet := by
    show ([] ++ judgeAll learnedMacs items)[index]? = _
    rw [List.nil_append, judgeAll_getElem?, hitem, Option.map_some, judge, if_neg hethernet]
  classified index item hitem hethernet := by
    refine ⟨_, ?_, classification_classified learnedMacs items index item.1.destinationMac⟩
    show ([] ++ judgeAll learnedMacs items)[index]? = _
    rw [List.nil_append, judgeAll_getElem?, hitem, Option.map_some, judge, if_pos hethernet]
  receivedPackets := zero_add _
  receivedBytes := zero_add _
  malformedPackets := zero_add _
  broadcastPackets := zero_add _
  unknownUnicastPackets := zero_add _
  knownUnicastPackets := zero_add _
  partition := by
    show _ + (0 + _) + (0 + _) + (0 + _) = 0 + UInt64.ofNat items.length
    rw [zero_add, zero_add, zero_add, zero_add, ← UInt64.ofNat_add, ← UInt64.ofNat_add,
      ← UInt64.ofNat_add, length_eq_classified]

/-! ## Two batches and one -/

/-- A bucket that counts what two do. -/
def addBuckets (first second : PacketSizeHistogramBucket) : PacketSizeHistogramBucket :=
  { first with
    packetCount := first.packetCount + second.packetCount
    byteCount := first.byteCount + second.byteCount }

/-- What histograms say of a value. -/
abbrev histogramTally := tally HistogramEntry.value HistogramEntry.packetCount HistogramEntry.byteCount

abbrev macTally := tally MacTrafficRecord.mac MacTrafficRecord.packetCount MacTrafficRecord.byteCount

abbrev flowTally := tally FlowRecord.key FlowRecord.packetCount FlowRecord.byteCount

abbrev matrixTally := tally (fun entry : TrafficMatrixEntry => (entry.sourceMac, entry.destinationMac))
  TrafficMatrixEntry.packetCount TrafficMatrixEntry.byteCount

/-- A batch that says of its packets what two batches say together. -/
structure Combines (first second whole : AnalysisBatch) : Prop where
  packets : whole.packets = first.packets ++ second.packets
  sizes : whole.frameSizeHistogram =
    List.zipWith addBuckets first.frameSizeHistogram second.frameSizeHistogram
  ethertypes : ∀ value, histogramTally whole.ethertypeHistogram value =
    histogramTally first.ethertypeHistogram value + histogramTally second.ethertypeHistogram value
  protocols : ∀ value, histogramTally whole.protocolHistogram value =
    histogramTally first.protocolHistogram value + histogramTally second.protocolHistogram value
  destinationPorts : ∀ value, histogramTally whole.destinationPortHistogram value =
    histogramTally first.destinationPortHistogram value +
      histogramTally second.destinationPortHistogram value
  sources : ∀ mac, macTally whole.sourceMacTraffic mac =
    macTally first.sourceMacTraffic mac + macTally second.sourceMacTraffic mac
  destinations : ∀ mac, macTally whole.destinationMacTraffic mac =
    macTally first.destinationMacTraffic mac + macTally second.destinationMacTraffic mac
  matrix : ∀ macs, matrixTally whole.macTrafficMatrix macs =
    matrixTally first.macTrafficMatrix macs + matrixTally second.macTrafficMatrix macs
  flows : ∀ key, flowTally whole.flows key = flowTally first.flows key + flowTally second.flows key
  receivedPackets : whole.receivedPackets = first.receivedPackets + second.receivedPackets
  receivedBytes : whole.receivedBytes = first.receivedBytes + second.receivedBytes
  malformedPackets : whole.malformedPackets = first.malformedPackets + second.malformedPackets
  broadcastPackets : whole.broadcastPackets = first.broadcastPackets + second.broadcastPackets
  unknownUnicastPackets :
    whole.unknownUnicastPackets = first.unknownUnicastPackets + second.unknownUnicastPackets
  knownUnicastPackets :
    whole.knownUnicastPackets = first.knownUnicastPackets + second.knownUnicastPackets

theorem filled_append (first second : List Measured) (bucket : PacketSizeHistogramBucket) :
    filled (first ++ second) bucket = addBuckets (filled first bucket) (filled second bucket) := by
  simp only [filled, addBuckets, within, List.filter_append, List.length_append, List.map_append,
    List.sum_append, UInt64.ofNat_add]

theorem analysisBatch_append (learnedMacs : List MacAddress) (first second : List Measured) :
    Combines (analysisBatch learnedMacs first).1
      (analysisBatch (analysisBatch learnedMacs first).2 second).1
      (analysisBatch learnedMacs (first ++ second)).1 := by
  have hfirst := analysisBatch_reports learnedMacs first
  have hsecond := analysisBatch_reports (analysisBatch learnedMacs first).2 second
  have hwhole := analysisBatch_reports learnedMacs (first ++ second)
  have hpackets : (analysisBatch learnedMacs (first ++ second)).1.packets =
      (analysisBatch learnedMacs first).1.packets ++
        (analysisBatch (analysisBatch learnedMacs first).2 second).1.packets :=
    judgeAll_append learnedMacs first second
  exact {
    packets := hpackets
    sizes := by
      rw [hfirst.sizes, hsecond.sizes, hwhole.sizes, List.zipWith_map, List.zipWith_self]
      exact List.map_congr_left fun bucket _ => filled_append first second bucket
    ethertypes := hfirst.ethertypes.1.tally_append hsecond.ethertypes.1 hwhole.ethertypes.1
    protocols := hfirst.protocols.1.tally_append hsecond.protocols.1 hwhole.protocols.1
    destinationPorts :=
      hfirst.destinationPorts.1.tally_append hsecond.destinationPorts.1 hwhole.destinationPorts.1
    sources := hfirst.sources.1.tally_append hsecond.sources.1 hwhole.sources.1
    destinations := hfirst.destinations.1.tally_append hsecond.destinations.1 hwhole.destinations.1
    matrix := hfirst.matrix.1.tally_append hsecond.matrix.1 hwhole.matrix.1
    flows := hfirst.flows.1.tally_append hsecond.flows.1 hwhole.flows.1
    receivedPackets := by
      rw [hfirst.receivedPackets, hsecond.receivedPackets, hwhole.receivedPackets,
        List.length_append, UInt64.ofNat_add]
    receivedBytes := by
      rw [hfirst.receivedBytes, hsecond.receivedBytes, hwhole.receivedBytes, List.map_append,
        List.sum_append]
    malformedPackets := by
      rw [hfirst.malformedPackets, hsecond.malformedPackets, hwhole.malformedPackets,
        List.countP_append, UInt64.ofNat_add]
    broadcastPackets := by
      rw [hfirst.broadcastPackets, hsecond.broadcastPackets, hwhole.broadcastPackets, hpackets,
        List.countP_append, UInt64.ofNat_add]
    unknownUnicastPackets := by
      rw [hfirst.unknownUnicastPackets, hsecond.unknownUnicastPackets,
        hwhole.unknownUnicastPackets, hpackets, List.countP_append, UInt64.ofNat_add]
    knownUnicastPackets := by
      rw [hfirst.knownUnicastPackets, hsecond.knownUnicastPackets, hwhole.knownUnicastPackets,
        hpackets, List.countP_append, UInt64.ofNat_add] }

end WireLab
