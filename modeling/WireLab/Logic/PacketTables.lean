import Mathlib.Data.Prod.Lex
import Mathlib.Data.UInt
import WireLab.Model.PacketAnalyzer

/-!
# What a batch reports

The questions the analyzer's tables answer, put without sorting: which key a packet
carries, and how many packets and bytes there are with a key. `recorded` is the batch
after some packets in one go, and the loop computes it (`foldl_aggregatePacket`); each
table is then the grouping of what the packets carry (`Tabulates`).
-/

namespace WireLab

open Base

/-! ## Orders -/

/-- Where an address stands among the addresses. -/
def macRank (mac : MacAddress) : List ℕ := mac.bytes.map UInt8.toNat

theorem bytes_lt_iff (first second : Bytes) :
    first < second ↔ first.map UInt8.toNat < second.map UInt8.toNat := by
  induction first generalizing second with
  | nil =>
      cases second with
      | nil => simp
      | cons byte second => simp
  | cons first rest ih =>
      cases second with
      | nil => simp
      | cons byte second =>
          rw [List.map_cons, List.map_cons, List.cons_lt_cons_iff, List.cons_lt_cons_iff, ← ih,
            UInt8.lt_iff_toNat_lt, UInt8.toNat_inj]

theorem mac_lt_iff (first second : MacAddress) :
    first < second ↔ macRank first < macRank second :=
  bytes_lt_iff first.bytes second.bytes

theorem macRank_injective : Function.Injective macRank := by
  intro first second h
  have hbytes : first.bytes = second.bytes :=
    List.map_injective_iff.mpr (fun _ _ => UInt8.toNat_inj.mp) h
  cases first
  cases second
  subst hbytes
  rfl

/-- Where a five-tuple stands: by each of its fields in turn. -/
def flowRank (key : FlowKey) : List ℕ :=
  [key.sourceIpv4.toNat, key.destinationIpv4.toNat, key.sourcePort.toNat,
    key.destinationPort.toNat, key.protocol.toNat]

theorem flowRank_injective : Function.Injective flowRank := by
  intro first second h
  simp only [flowRank, List.cons.injEq, UInt32.toNat_inj, UInt16.toNat_inj, UInt8.toNat_inj] at h
  obtain ⟨h1, h2, h3, h4, h5, -⟩ := h
  cases first
  cases second
  simp only at h1 h2 h3 h4 h5
  subst h1 h2 h3 h4 h5
  rfl

/-- A comparator that looks at one field and leaves equal ones to the rest. -/
private theorem compare_field {α : Type} [DecidableEq α] (less : α → α → Prop) [DecidableRel less]
    (hirrefl : ∀ a, ¬ less a a) (first second : α) (rest : Bool) :
    (if first ≠ second then decide (less first second) else rest) = true ↔
      less first second ∨ first = second ∧ rest = true := by
  by_cases h : first = second
  · subst h
    simp [hirrefl]
  · rw [if_pos h, decide_eq_true_iff]
    simp [h]

open PacketAnalysisAggregator in
theorem flowKeyLess_iff (first second : FlowRecord) :
    flowKeyLess first second = true ↔ flowRank first.key < flowRank second.key := by
  unfold flowKeyLess flowRank
  rw [compare_field (· < ·) UInt32.lt_irrefl, compare_field (· < ·) UInt32.lt_irrefl,
    compare_field (· < ·) UInt16.lt_irrefl, compare_field (· < ·) UInt16.lt_irrefl,
    decide_eq_true_iff]
  simp only [List.cons_lt_cons_iff, List.lt_irrefl, and_false, or_false, UInt32.lt_iff_toNat_lt,
    UInt16.lt_iff_toNat_lt, UInt8.lt_iff_toNat_lt, UInt32.toNat_inj, UInt16.toNat_inj]

/-- Where a record stands in a ranking: more bytes first, then more packets, then by key. -/
def ranking (byteCount packetCount : UInt64) (key : List ℕ) : ℕᵒᵈ ×ₗ ℕᵒᵈ ×ₗ List ℕ :=
  toLex (OrderDual.toDual byteCount.toNat, toLex (OrderDual.toDual packetCount.toNat, key))

theorem ranking_lt_iff (bytes bytes' packets packets' : UInt64) (key key' : List ℕ) :
    ranking bytes packets key < ranking bytes' packets' key' ↔
      bytes' < bytes ∨ bytes' = bytes ∧
        (packets' < packets ∨ packets' = packets ∧ key < key') := by
  simp only [ranking, Prod.Lex.toLex_lt_toLex, OrderDual.toDual_lt_toDual, OrderDual.toDual_inj,
    UInt64.lt_iff_toNat_lt, UInt64.toNat_inj, eq_comm]

theorem ranking_key {bytes bytes' packets packets' : UInt64} {key key' : List ℕ}
    (h : ranking bytes packets key = ranking bytes' packets' key') : key = key' := by
  simp only [ranking, toLex_inj, Prod.mk.injEq] at h
  exact h.2.2

private theorem rankLess_iff (bytes bytes' packets packets' : UInt64) (key key' : List ℕ)
    (rest : Bool) (hrest : rest = true ↔ key < key') :
    (if bytes ≠ bytes' then decide (bytes > bytes')
      else if packets ≠ packets' then decide (packets > packets') else rest) = true ↔
      ranking bytes packets key < ranking bytes' packets' key' := by
  rw [compare_field (· > ·) UInt64.lt_irrefl, compare_field (· > ·) UInt64.lt_irrefl, hrest,
    ranking_lt_iff, eq_comm, @eq_comm _ packets]

/-! ## Tables of what packets carry -/

/-- A packet as the loop meets it: its analysis and its frame length. -/
abbrev Measured := PacketAnalysis × UInt64

section
variable {ρ κ : Type} [DecidableEq κ]

/-- Some packets that carry a key. -/
def carriers (carries : PacketAnalysis → Option κ) (items : List Measured) (k : κ) :
    List Measured :=
  items.filter fun item => carries item.1 = some k

/-- How many packets carry a key. -/
def packetsOf (carries : PacketAnalysis → Option κ) (items : List Measured) (k : κ) : UInt64 :=
  .ofNat (carriers carries items k).length

/-- How many bytes they have together. -/
def bytesOf (carries : PacketAnalysis → Option κ) (items : List Measured) (k : κ) : UInt64 :=
  ((carriers carries items k).map Prod.snd).sum

/-- A table is the grouping of some packets by what they carry: it has one record for
each key that is carried, and the record counts the packets that carry it. -/
structure Tabulates (carries : PacketAnalysis → Option κ) (key : ρ → κ)
    (packetCount byteCount : ρ → UInt64) (items : List Measured) (table : List ρ) : Prop where
  keys : ∀ k, k ∈ table.map key ↔ ∃ item ∈ items, carries item.1 = some k
  distinct : (table.map key).Nodup
  packets : ∀ record ∈ table, packetCount record = packetsOf carries items (key record)
  bytes : ∀ record ∈ table, byteCount record = bytesOf carries items (key record)

/-- The records that some packets leave. -/
def entries (carries : PacketAnalysis → Option κ) (record : PacketAnalysis → κ → UInt64 → ρ)
    (items : List Measured) : List ρ :=
  items.filterMap fun item => (carries item.1).map fun k => record item.1 k item.2

omit [DecidableEq κ] in
theorem entries_append (carries : PacketAnalysis → Option κ)
    (record : PacketAnalysis → κ → UInt64 → ρ) (first second : List Measured) :
    entries carries record (first ++ second) =
      entries carries record first ++ entries carries record second :=
  List.filterMap_append

variable {carries : PacketAnalysis → Option κ} {record : PacketAnalysis → κ → UInt64 → ρ}
  {key : ρ → κ} {packetCount byteCount : ρ → UInt64}

theorem packetsOf_append (first second : List Measured) (k : κ) :
    packetsOf carries (first ++ second) k = packetsOf carries first k + packetsOf carries second k := by
  rw [packetsOf, carriers, List.filter_append, List.length_append, UInt64.ofNat_add]
  rfl

theorem bytesOf_append (first second : List Measured) (k : κ) :
    bytesOf carries (first ++ second) k = bytesOf carries first k + bytesOf carries second k := by
  rw [bytesOf, carriers, List.filter_append, List.map_append, List.sum_append]
  rfl

section
variable (hkey : ∀ analysis k length, key (record analysis k length) = k)
  (hpackets : ∀ analysis k length, packetCount (record analysis k length) = 1)
  (hbytes : ∀ analysis k length, byteCount (record analysis k length) = length)
include hkey hpackets hbytes

/-- What the records with a key count together. -/
private theorem groupSum_entries (items : List Measured) (k : κ) :
    groupSum key (fun record => (packetCount record, byteCount record))
      (entries carries record items) k = (packetsOf carries items k, bytesOf carries items k) := by
  induction items with
  | nil => rfl
  | cons item items ih =>
      rw [← List.singleton_append, entries_append, groupSum_append, ih, packetsOf_append,
        bytesOf_append, ← Prod.mk_add_mk]
      congr 1
      cases hcarries : carries item.1 with
      | none => simp [entries, packetsOf, bytesOf, carriers, hcarries, groupSum, Prod.zero_eq_mk]
      | some carried =>
          have hone : entries carries record [item] = [record item.1 carried item.2] := by
            simp [entries, hcarries]
          rw [hone, groupSum_singleton, hkey, hpackets, hbytes]
          by_cases hsame : carried = k
          · simp [packetsOf, bytesOf, carriers, hcarries, hsame]
          · simp [packetsOf, bytesOf, carriers, hcarries, hsame, Prod.zero_eq_mk]

/-- **Grouping the records is grouping the packets.** -/
theorem tabulates_of_groups {items : List Measured} {table : List ρ}
    (h : Groups key (fun record => (packetCount record, byteCount record))
      (entries carries record items) table) :
    Tabulates carries key packetCount byteCount items table where
  keys k := by
    rw [h.keys, entries, List.map_filterMap, List.mem_filterMap]
    simp only [Option.map_map, Option.map_eq_some_iff, Function.comp_apply, hkey, exists_eq_right]
  distinct := h.distinct
  packets record hrecord := by
    have hsum := h.sums record hrecord
    rw [groupSum_entries hkey hpackets hbytes] at hsum
    exact congrArg Prod.fst hsum
  bytes record hrecord := by
    have hsum := h.sums record hrecord
    rw [groupSum_entries hkey hpackets hbytes] at hsum
    exact congrArg Prod.snd hsum

end

/-- What a table says of a key; of a key that it lacks, that there is nothing. -/
def tally (key : ρ → κ) (packetCount byteCount : ρ → UInt64) (table : List ρ) (k : κ) :
    UInt64 × UInt64 :=
  match table.find? fun record => key record = k with
  | some record => (packetCount record, byteCount record)
  | none => (0, 0)

theorem Tabulates.tally_eq {items : List Measured} {table : List ρ}
    (h : Tabulates carries key packetCount byteCount items table) (k : κ) :
    tally key packetCount byteCount table k =
      (packetsOf carries items k, bytesOf carries items k) := by
  unfold tally
  cases hfind : table.find? fun record => key record = k with
  | some record =>
      have hkey : key record = k := by simpa using List.find?_some hfind
      have hrecord := List.mem_of_find?_eq_some hfind
      rw [← hkey]
      exact Prod.ext (h.packets record hrecord) (h.bytes record hrecord)
  | none =>
      have hnone : carriers carries items k = [] := by
        refine List.filter_eq_nil_iff.mpr fun item hitem hcarries => ?_
        have hmem := (h.keys k).mpr ⟨item, hitem, by simpa using hcarries⟩
        obtain ⟨record, hrecord, hkey⟩ := List.mem_map.mp hmem
        exact absurd (List.find?_eq_none.mp hfind record hrecord) (by simp [hkey])
      rw [packetsOf, bytesOf, hnone]
      rfl

/-- Two tables tell of a key together what the table of all their packets tells. -/
theorem Tabulates.tally_append {first second : List Measured} {table table' whole : List ρ}
    (h : Tabulates carries key packetCount byteCount first table)
    (h' : Tabulates carries key packetCount byteCount second table')
    (hwhole : Tabulates carries key packetCount byteCount (first ++ second) whole) (k : κ) :
    tally key packetCount byteCount whole k =
      tally key packetCount byteCount table k + tally key packetCount byteCount table' k := by
  rw [h.tally_eq, h'.tally_eq, hwhole.tally_eq, packetsOf_append, bytesOf_append, Prod.mk_add_mk]

end

/-! ## What packets carry -/

namespace PacketAnalysis

/-- A packet with a complete Ethernet header. -/
def HasEthernet (analysis : PacketAnalysis) : Prop := analysis.validity ≠ .malformedEthernet

instance (analysis : PacketAnalysis) : Decidable analysis.HasEthernet :=
  inferInstanceAs (Decidable (_ ≠ _))

/-- What a packet carries if it has a complete Ethernet header. -/
def ofEthernet {κ : Type} (field : PacketAnalysis → κ) (analysis : PacketAnalysis) : Option κ :=
  if analysis.HasEthernet then some (field analysis) else none

/-- What a packet carries if it could be read to its transport header. -/
def ofIpv4 {κ : Type} (field : PacketAnalysis → κ) (analysis : PacketAnalysis) : Option κ :=
  if PacketAnalysisAggregator.isValidIpv4 analysis then some (field analysis) else none

def ethertypeKey (analysis : PacketAnalysis) : UInt32 := analysis.ethertype.toUInt32

def macPair (analysis : PacketAnalysis) : MacAddress × MacAddress :=
  (analysis.sourceMac, analysis.destinationMac)

def protocolKey (analysis : PacketAnalysis) : UInt32 := analysis.protocol.toUInt32

/-- Only TCP and UDP have ports. -/
def ofPorts (analysis : PacketAnalysis) : Option UInt32 :=
  if analysis.protocol = tcpProtocol ∨ analysis.protocol = udpProtocol then
    analysis.ofIpv4 fun analysis => analysis.destinationPort.toUInt32
  else none

end PacketAnalysis

/-! ## What packets teach -/

/-- The addresses learned after a packet. -/
def learn (learnedMacs : List MacAddress) (item : Measured) : List MacAddress :=
  if item.1.HasEthernet then learnedMacs.insert item.1.sourceMac else learnedMacs

def learnAll (learnedMacs : List MacAddress) (items : List Measured) : List MacAddress :=
  items.foldl learn learnedMacs

theorem mem_learn (learnedMacs : List MacAddress) (item : Measured) (mac : MacAddress) :
    mac ∈ learn learnedMacs item ↔
      mac ∈ learnedMacs ∨ item.1.HasEthernet ∧ item.1.sourceMac = mac := by
  by_cases h : item.1.HasEthernet
  · rw [learn, if_pos h, List.mem_insert_iff, eq_comm, or_comm]
    simp [h]
  · rw [learn, if_neg h]
    simp [h]

/-- **What is learned** are the sources of the packets with a complete header. -/
theorem mem_learnAll (learnedMacs : List MacAddress) (items : List Measured) (mac : MacAddress) :
    mac ∈ learnAll learnedMacs items ↔
      mac ∈ learnedMacs ∨ ∃ item ∈ items, item.1.HasEthernet ∧ item.1.sourceMac = mac := by
  induction items generalizing learnedMacs with
  | nil => simp [learnAll]
  | cons item items ih =>
      have hstep := ih (learn learnedMacs item)
      rw [learnAll, List.foldl_cons, ← learnAll, hstep, mem_learn]
      simp only [List.mem_cons, exists_eq_or_imp]
      exact or_assoc

/-- How a destination is classified by the addresses learned so far. -/
def classification (learnedMacs : List MacAddress) (destination : MacAddress) :
    PacketClassification :=
  if destination.isBroadcast then .broadcast
  else if destination ∈ learnedMacs then .knownUnicast
  else .unknownUnicast

/-- The analysis of a packet as it is reported. -/
def judge (learnedMacs : List MacAddress) (item : Measured) : PacketAnalysis :=
  if item.1.HasEthernet then
    { item.1 with classification := classification learnedMacs item.1.destinationMac }
  else item.1

/-- The analyses of some packets, each by what was learned before it. -/
def judgeAll (learnedMacs : List MacAddress) : List Measured → List PacketAnalysis
  | [] => []
  | item :: items => judge learnedMacs item :: judgeAll (learn learnedMacs item) items

theorem judgeAll_append (learnedMacs : List MacAddress) (first second : List Measured) :
    judgeAll learnedMacs (first ++ second) =
      judgeAll learnedMacs first ++ judgeAll (learnAll learnedMacs first) second := by
  induction first generalizing learnedMacs with
  | nil => rfl
  | cons item first ih =>
      rw [List.cons_append, judgeAll, judgeAll, ih, List.cons_append]
      rfl

theorem judgeAll_length (learnedMacs : List MacAddress) (items : List Measured) :
    (judgeAll learnedMacs items).length = items.length := by
  induction items generalizing learnedMacs with
  | nil => rfl
  | cons item items ih => rw [judgeAll, List.length_cons, ih, List.length_cons]

theorem judgeAll_getElem? (learnedMacs : List MacAddress) (items : List Measured) (index : Nat) :
    (judgeAll learnedMacs items)[index]? =
      items[index]?.map (judge (learnAll learnedMacs (items.take index))) := by
  induction items generalizing learnedMacs index with
  | nil => rfl
  | cons item items ih =>
      cases index with
      | zero => rfl
      | succ index =>
          rw [judgeAll, List.getElem?_cons_succ, ih, List.getElem?_cons_succ]
          rfl

/-- The packets with a complete header that were classified in a way. -/
def classified (as : PacketClassification) (analysis : PacketAnalysis) : Bool :=
  analysis.HasEthernet ∧ analysis.classification = as

/-! ## The loop -/

open PacketAnalysis PacketAnalysisAggregator

def histogramEntry (_ : PacketAnalysis) (value : UInt32) (frameLength : UInt64) : HistogramEntry :=
  { value, packetCount := 1, byteCount := frameLength }

def macRecord (_ : PacketAnalysis) (mac : MacAddress) (frameLength : UInt64) : MacTrafficRecord :=
  { mac, packetCount := 1, byteCount := frameLength }

def matrixEntry (_ : PacketAnalysis) (macs : MacAddress × MacAddress) (frameLength : UInt64) :
    TrafficMatrixEntry :=
  { sourceMac := macs.1, destinationMac := macs.2, packetCount := 1, byteCount := frameLength }

def flowRecord (analysis : PacketAnalysis) (key : FlowKey) (frameLength : UInt64) : FlowRecord :=
  { key, flowHash := analysis.flowHash, packetCount := 1, byteCount := frameLength }

/-- A frame length in its bucket. -/
def countSize (buckets : List PacketSizeHistogramBucket) (item : Measured) :
    List PacketSizeHistogramBucket :=
  buckets.modify (frameSizeBucket item.2) fun bucket =>
    { bucket with
      packetCount := bucket.packetCount + 1
      byteCount := bucket.byteCount + item.2 }

/-- A batch and what some packets add to it. -/
def recorded (batch : AnalysisBatch) (learnedMacs : List MacAddress) (items : List Measured) :
    AnalysisBatch where
  frameSizeHistogram := items.foldl countSize batch.frameSizeHistogram
  ethertypeHistogram := batch.ethertypeHistogram ++ entries (ofEthernet ethertypeKey) histogramEntry items
  protocolHistogram := batch.protocolHistogram ++ entries (ofIpv4 protocolKey) histogramEntry items
  destinationPortHistogram := batch.destinationPortHistogram ++ entries ofPorts histogramEntry items
  packets := batch.packets ++ judgeAll learnedMacs items
  sourceMacTraffic := batch.sourceMacTraffic ++ entries (ofEthernet sourceMac) macRecord items
  destinationMacTraffic :=
    batch.destinationMacTraffic ++ entries (ofEthernet destinationMac) macRecord items
  macTrafficMatrix := batch.macTrafficMatrix ++ entries (ofEthernet macPair) matrixEntry items
  flows := batch.flows ++ entries (ofIpv4 makeFlowKey) flowRecord items
  receivedPackets := batch.receivedPackets + .ofNat items.length
  receivedBytes := batch.receivedBytes + (items.map Prod.snd).sum
  malformedPackets :=
    batch.malformedPackets + .ofNat (items.countP fun item => item.1.validity ≠ .valid)
  broadcastPackets :=
    batch.broadcastPackets + .ofNat ((judgeAll learnedMacs items).countP (classified .broadcast))
  unknownUnicastPackets := batch.unknownUnicastPackets +
    .ofNat ((judgeAll learnedMacs items).countP (classified .unknownUnicast))
  knownUnicastPackets := batch.knownUnicastPackets +
    .ofNat ((judgeAll learnedMacs items).countP (classified .knownUnicast))

/-- Packets one after the other, or together. -/
theorem recorded_cons (batch : AnalysisBatch) (learnedMacs : List MacAddress) (item : Measured)
    (items : List Measured) :
    recorded (recorded batch learnedMacs [item]) (learn learnedMacs item) items =
      recorded batch learnedMacs (item :: items) := by
  have hcount (p : PacketAnalysis → Bool) :
      UInt64.ofNat ((judgeAll learnedMacs [item]).countP p) +
          UInt64.ofNat ((judgeAll (learn learnedMacs item) items).countP p) =
        UInt64.ofNat ((judgeAll learnedMacs (item :: items)).countP p) := by
    rw [← UInt64.ofNat_add, ← List.countP_append]
    rfl
  have hentries {ρ κ : Type} [DecidableEq κ] (carries : PacketAnalysis → Option κ)
      (record : PacketAnalysis → κ → UInt64 → ρ) :
      entries carries record [item] ++ entries carries record items =
        entries carries record (item :: items) := by
    rw [← entries_append, List.singleton_append]
  have hmalformed (p : Measured → Bool) :
      UInt64.ofNat ([item].countP p) + UInt64.ofNat (items.countP p) =
        UInt64.ofNat ((item :: items).countP p) := by
    rw [← UInt64.ofNat_add, ← List.countP_append, List.singleton_append]
  simp only [recorded, List.append_assoc, add_assoc, hcount, hentries, hmalformed,
    ← UInt64.ofNat_add, ← List.sum_append, ← List.map_append, ← List.length_append,
    List.singleton_append, List.foldl_cons, List.foldl_nil]
  rfl

/-- The classification, and the counter for it. -/
theorem classify_eq (learnedMacs : List MacAddress) (batch : AnalysisBatch)
    (analysis : PacketAnalysis) :
    let outcome := classification learnedMacs analysis.destinationMac
    classify learnedMacs batch analysis =
      (outcome,
        { batch with
          broadcastPackets := batch.broadcastPackets + if outcome = .broadcast then 1 else 0
          unknownUnicastPackets :=
            batch.unknownUnicastPackets + if outcome = .unknownUnicast then 1 else 0
          knownUnicastPackets :=
            batch.knownUnicastPackets + if outcome = .knownUnicast then 1 else 0 }) := by
  unfold classify classification
  by_cases hbroadcast : analysis.destinationMac.isBroadcast = true
  · simp [hbroadcast]
  · by_cases hlearned : analysis.destinationMac ∈ learnedMacs
    · simp [hbroadcast, hlearned]
    · simp [hbroadcast, hlearned]

/-- **One turn of the loop** adds what its packet has, and learns its source. -/
theorem aggregatePacket_eq (batch : AnalysisBatch) (learnedMacs : List MacAddress)
    (item : Measured) :
    aggregatePacket (batch, learnedMacs) item =
      (recorded batch learnedMacs [item], learn learnedMacs item) := by
  obtain ⟨analysis, frameLength⟩ := item
  have hone (p : Prop) [Decidable p] :
      UInt64.ofNat (if p then 1 else 0) = if p then 1 else 0 := by split <;> rfl
  unfold aggregatePacket
  by_cases hethernet : analysis.validity = .malformedEthernet
  · simp [hethernet, recorded, learn, HasEthernet, countFrame, entries, ofEthernet, ofIpv4,
      ofPorts, isValidIpv4, judgeAll, judge, classified, countSize]
  simp only [hethernet, if_false, classify_eq]
  by_cases hvalid : analysis.validity = .valid
  · by_cases hipv4 : analysis.ethertype = ethertypeIpv4
    · by_cases hports : analysis.protocol = tcpProtocol ∨ analysis.protocol = udpProtocol
      · simp [hvalid, hipv4, hports, hone, recorded, recordEthernet, learn, HasEthernet, countFrame,
          entries, ofEthernet, ofIpv4, ofPorts, isValidIpv4, judgeAll, judge, classified, countSize, histogramEntry, macRecord, matrixEntry, flowRecord, ethertypeKey,
          protocolKey, macPair, makeFlowKey]
      · simp [hvalid, hipv4, hports, hone, recorded, recordEthernet, learn, HasEthernet, countFrame,
          entries, ofEthernet, ofIpv4, ofPorts, isValidIpv4, judgeAll, judge, classified, countSize, histogramEntry, macRecord, matrixEntry, flowRecord, ethertypeKey,
          protocolKey, macPair, makeFlowKey]
    · simp [hvalid, hipv4, hone, recorded, recordEthernet, learn, HasEthernet, countFrame,
        entries, ofEthernet, ofIpv4, ofPorts, isValidIpv4, judgeAll, judge,
        classified, countSize, histogramEntry, macRecord, matrixEntry, ethertypeKey, macPair]
  · simp [hethernet, hvalid, hone, recorded, recordEthernet, learn, HasEthernet,
      countFrame, entries, ofEthernet, ofIpv4, ofPorts, isValidIpv4, judgeAll, judge,
      classified, countSize, histogramEntry, macRecord, matrixEntry, ethertypeKey, macPair]

/-- **The loop** over some packets. -/
theorem foldl_aggregatePacket (batch : AnalysisBatch) (learnedMacs : List MacAddress)
    (items : List Measured) :
    items.foldl aggregatePacket (batch, learnedMacs) =
      (recorded batch learnedMacs items, learnAll learnedMacs items) := by
  induction items generalizing batch learnedMacs with
  | nil => simp [recorded, entries, judgeAll, learnAll]
  | cons item items ih =>
      rw [List.foldl_cons, aggregatePacket_eq, ih, recorded_cons]
      rfl

/-! ## Frame sizes -/

/-- The place of a frame length among the buckets. -/
theorem frameSizeBucket_eq (frameLength : UInt64) :
    frameSizeBucket frameLength =
      if frameLength < 64 then 0 else if frameLength < 128 then 1
      else if frameLength < 256 then 2 else if frameLength < 512 then 3
      else if frameLength < 1024 then 4 else if frameLength < 1519 then 5 else 6 := by
  simp only [frameSizeBucket, frameSizeBucketMinimums, List.drop_succ_cons, List.drop_zero,
    List.takeWhile_cons, List.takeWhile_nil, decide_eq_true_iff, ← UInt64.not_lt]
  repeat' split
  all_goals first | rfl | contradiction

/-- A length is counted in the bucket whose bounds it is within. -/
theorem frameSizeBucket_iff {index : Nat} {bucket : PacketSizeHistogramBucket}
    (h : frameSizeBuckets[index]? = some bucket) (frameLength : UInt64) :
    frameSizeBucket frameLength = index ↔
      bucket.inclusiveMinimum ≤ frameLength ∧ frameLength ≤ bucket.inclusiveMaximum := by
  have hbuckets : frameSizeBuckets = [⟨0, 63, 0, 0⟩, ⟨64, 127, 0, 0⟩, ⟨128, 255, 0, 0⟩,
      ⟨256, 511, 0, 0⟩, ⟨512, 1023, 0, 0⟩, ⟨1024, 1518, 0, 0⟩,
      ⟨1519, 0xFFFFFFFFFFFFFFFF, 0, 0⟩] := by decide
  have hsmall : index < 7 := by
    by_contra hlarge
    rw [List.getElem?_eq_none (by rw [hbuckets]; simp; omega)] at h
    cases h
  have hmax := frameLength.toNat_lt
  rw [frameSizeBucket_eq]
  rw [hbuckets] at h
  clear hbuckets
  interval_cases index
  all_goals
    obtain rfl := Option.some.inj h
    clear h
    simp only [UInt64.lt_iff_toNat_lt, UInt64.le_iff_toNat_le, UInt64.toNat_ofNat]
    grind

/-- The frames whose length is within the bounds of a bucket. -/
def within (bucket : PacketSizeHistogramBucket) (items : List Measured) : List Measured :=
  items.filter fun item =>
    bucket.inclusiveMinimum ≤ item.2 ∧ item.2 ≤ bucket.inclusiveMaximum

/-- A bucket with the frames that are within its bounds. -/
def filled (items : List Measured) (bucket : PacketSizeHistogramBucket) :
    PacketSizeHistogramBucket :=
  { bucket with
    packetCount := .ofNat (within bucket items).length
    byteCount := ((within bucket items).map Prod.snd).sum }

private theorem foldl_countSize (buckets : List PacketSizeHistogramBucket) (items : List Measured)
    (index : Nat) :
    (items.foldl countSize buckets)[index]? = buckets[index]?.map fun bucket =>
      let inside := items.filter fun item => frameSizeBucket item.2 = index
      { bucket with
        packetCount := bucket.packetCount + .ofNat inside.length
        byteCount := bucket.byteCount + (inside.map Prod.snd).sum } := by
  induction items generalizing buckets with
  | nil =>
      cases hbucket : buckets[index]? with
      | none => simp [hbucket]
      | some bucket => simp [hbucket]
  | cons item items ih =>
      rw [List.foldl_cons, ih, countSize, List.getElem?_modify]
      cases hbucket : buckets[index]? with
      | none => simp
      | some bucket =>
          by_cases hsame : frameSizeBucket item.2 = index
          · simp [hsame, UInt64.ofNat_add, add_assoc, add_comm, add_left_comm]
          · simp [hsame]

/-- **The buckets** count the frames within their bounds. -/
theorem frameSizes_eq (items : List Measured) :
    items.foldl countSize frameSizeBuckets = frameSizeBuckets.map (filled items) := by
  refine List.ext_getElem? fun index => ?_
  rw [foldl_countSize, List.getElem?_map]
  cases hbucket : frameSizeBuckets[index]? with
  | none => rfl
  | some bucket =>
      have hinside : (items.filter fun item => frameSizeBucket item.2 = index) =
          within bucket items := by
        refine List.filter_congr fun item _ => ?_
        exact decide_eq_decide.mpr (frameSizeBucket_iff hbucket item.2)
      have hempty : bucket.packetCount = 0 ∧ bucket.byteCount = 0 := by
        have hall : ∀ bucket ∈ frameSizeBuckets, bucket.packetCount = 0 ∧ bucket.byteCount = 0 := by
          decide
        exact hall bucket (List.mem_of_getElem? hbucket)
      simp only [Option.map_some, hinside, hempty.1, hempty.2, zero_add]
      rfl

/-! ## The tables -/

/-- A histogram, by value. -/
def IsHistogram (carries : PacketAnalysis → Option UInt32) (items : List Measured)
    (histogram : List HistogramEntry) : Prop :=
  Tabulates carries HistogramEntry.value HistogramEntry.packetCount HistogramEntry.byteCount items
      histogram ∧
    histogram.Pairwise fun first second => first.value < second.value

theorem aggregateHistogram_spec (carries : PacketAnalysis → Option UInt32)
    (items : List Measured) :
    IsHistogram carries items (aggregateHistogram (entries carries histogramEntry items)) := by
  let weight (entry : HistogramEntry) := (entry.packetCount, entry.byteCount)
  have hgrouped (records : List HistogramEntry) :
      Groups HistogramEntry.value weight records (aggregateHistogram records) ∧
        (aggregateHistogram records).Pairwise fun first second =>
          first.value.toNat < second.value.toNat := by
    unfold aggregateHistogram
    refine sortMerge_groups UInt32.toNat (fun _ _ => UInt32.toNat_inj.mp) (fun first second => ?_)
      (fun _ _ => ?_) (fun _ _ => ?_) (fun _ _ => ?_) records
    · rw [decide_eq_true_iff, UInt32.lt_iff_toNat_lt]
    · exact beq_iff_eq
    · rfl
    · rfl
  obtain ⟨hgroups, hrising⟩ := hgrouped (entries carries histogramEntry items)
  refine ⟨tabulates_of_groups ?_ ?_ ?_ hgroups, hrising.imp UInt32.lt_iff_toNat_lt.mpr⟩
  all_goals exact fun _ _ _ => rfl

/-- Of two records of a ranking, the one that comes first. -/
def RanksBefore {κ : Type} (less : κ → κ → Prop) (bytes packets : UInt64) (key : κ)
    (bytes' packets' : UInt64) (key' : κ) : Prop :=
  bytes' < bytes ∨ bytes' = bytes ∧ (packets' < packets ∨ packets' = packets ∧ less key key')

/-- A ranking of addresses: by bytes, then packets, then address. -/
def IsMacRanking (carries : PacketAnalysis → Option MacAddress) (items : List Measured)
    (traffic : List MacTrafficRecord) : Prop :=
  Tabulates carries MacTrafficRecord.mac MacTrafficRecord.packetCount MacTrafficRecord.byteCount
      items traffic ∧
    traffic.Pairwise fun first second =>
      RanksBefore (· < ·) first.byteCount first.packetCount first.mac
        second.byteCount second.packetCount second.mac

theorem rankMacTraffic_spec (carries : PacketAnalysis → Option MacAddress)
    (items : List Measured) :
    IsMacRanking carries items
      (rankMacTraffic (aggregateMacTraffic (entries carries macRecord items))) := by
  let weight (record : MacTrafficRecord) := (record.packetCount, record.byteCount)
  have hgrouped (records : List MacTrafficRecord) :
      Groups MacTrafficRecord.mac weight records (aggregateMacTraffic records) := by
    unfold aggregateMacTraffic
    refine (sortMerge_groups macRank macRank_injective (fun first second => ?_)
      (fun _ _ => ?_) (fun _ _ => ?_) (fun _ _ => ?_) records).1
    · rw [decide_eq_true_iff, mac_lt_iff]
    · exact beq_iff_eq
    · rfl
    · rfl
  have hranked (records : List MacTrafficRecord) :
      Groups MacTrafficRecord.mac weight records (rankMacTraffic (aggregateMacTraffic records)) ∧
        (rankMacTraffic (aggregateMacTraffic records)).Pairwise fun first second =>
          ranking first.byteCount first.packetCount (macRank first.mac) <
            ranking second.byteCount second.packetCount (macRank second.mac) := by
    refine (hgrouped records).sortBy
      (fun record => ranking record.byteCount record.packetCount (macRank record.mac))
      (fun first second => rankLess_iff _ _ _ _ _ _ _ ?_)
      (fun _ _ heq => macRank_injective (ranking_key heq))
    rw [decide_eq_true_iff, mac_lt_iff]
  obtain ⟨hranked, hfalling⟩ := hranked (entries carries macRecord items)
  refine ⟨tabulates_of_groups ?_ ?_ ?_ hranked, hfalling.imp fun hless => ?_⟩
  rotate_left 3
  · rw [ranking_lt_iff, ← mac_lt_iff] at hless
    exact hless
  all_goals exact fun _ _ _ => rfl

/-- A ranking of flows: by bytes, then packets, then five-tuple. -/
def IsFlowRanking (items : List Measured) (flows : List FlowRecord) : Prop :=
  Tabulates (ofIpv4 makeFlowKey) FlowRecord.key FlowRecord.packetCount FlowRecord.byteCount
      items flows ∧
    flows.Pairwise fun first second =>
      RanksBefore (flowRank · < flowRank ·) first.byteCount first.packetCount first.key
        second.byteCount second.packetCount second.key

theorem rankFlows_spec (items : List Measured) :
    IsFlowRanking items
      (rankFlows (aggregateFlows (entries (ofIpv4 makeFlowKey) flowRecord items))) := by
  let weight (record : FlowRecord) := (record.packetCount, record.byteCount)
  have hgrouped (records : List FlowRecord) :
      Groups FlowRecord.key weight records (aggregateFlows records) := by
    unfold aggregateFlows
    refine (sortMerge_groups flowRank flowRank_injective flowKeyLess_iff
      (fun _ _ => ?_) (fun _ _ => ?_) (fun _ _ => ?_) records).1
    · exact beq_iff_eq
    · rfl
    · rfl
  have hranked (records : List FlowRecord) :
      Groups FlowRecord.key weight records (rankFlows (aggregateFlows records)) ∧
        (rankFlows (aggregateFlows records)).Pairwise fun first second =>
          ranking first.byteCount first.packetCount (flowRank first.key) <
            ranking second.byteCount second.packetCount (flowRank second.key) :=
    (hgrouped records).sortBy
      (fun record => ranking record.byteCount record.packetCount (flowRank record.key))
      (fun first second => rankLess_iff _ _ _ _ _ _ _ (flowKeyLess_iff first second))
      (fun _ _ heq => flowRank_injective (ranking_key heq))
  obtain ⟨hranked, hfalling⟩ := hranked (entries (ofIpv4 makeFlowKey) flowRecord items)
  refine ⟨tabulates_of_groups ?_ ?_ ?_ hranked, hfalling.imp (ranking_lt_iff _ _ _ _ _ _).mp⟩
  all_goals exact fun _ _ _ => rfl

/-- A matrix, by source and then destination. -/
def IsMatrix (items : List Measured) (matrix : List TrafficMatrixEntry) : Prop :=
  Tabulates (ofEthernet macPair) (fun entry => (entry.sourceMac, entry.destinationMac))
      TrafficMatrixEntry.packetCount TrafficMatrixEntry.byteCount items matrix ∧
    matrix.Pairwise fun first second =>
      first.sourceMac < second.sourceMac ∨
        first.sourceMac = second.sourceMac ∧ first.destinationMac < second.destinationMac

/-- Where a pair of addresses stands. -/
private def pairRank (macs : MacAddress × MacAddress) : List ℕ ×ₗ List ℕ :=
  toLex (macRank macs.1, macRank macs.2)

private theorem pairRank_lt_iff (first second : MacAddress × MacAddress) :
    pairRank first < pairRank second ↔
      first.1 < second.1 ∨ first.1 = second.1 ∧ first.2 < second.2 := by
  simp only [pairRank, Prod.Lex.toLex_lt_toLex, mac_lt_iff, macRank_injective.eq_iff]

theorem aggregateTrafficMatrix_spec (items : List Measured) :
    IsMatrix items
      (aggregateTrafficMatrix (entries (ofEthernet macPair) matrixEntry items)) := by
  have hinjective : Function.Injective pairRank := by
    intro first second h
    simp only [pairRank, toLex_inj, Prod.mk.injEq] at h
    exact Prod.ext (macRank_injective h.1) (macRank_injective h.2)
  have hless (first second : TrafficMatrixEntry) :
      (if first.sourceMac = second.sourceMac then
        decide (first.destinationMac < second.destinationMac)
        else decide (first.sourceMac < second.sourceMac)) = true ↔
        pairRank (first.sourceMac, first.destinationMac) <
          pairRank (second.sourceMac, second.destinationMac) := by
    rw [pairRank_lt_iff]
    split
    · rename_i hsame
      simp [hsame, mac_lt_iff]
    · rename_i hdiffer
      simp [hdiffer]
  let key (entry : TrafficMatrixEntry) := (entry.sourceMac, entry.destinationMac)
  let weight (entry : TrafficMatrixEntry) := (entry.packetCount, entry.byteCount)
  have hgrouped (records : List TrafficMatrixEntry) :
      Groups key weight records (aggregateTrafficMatrix records) ∧
        (aggregateTrafficMatrix records).Pairwise fun first second =>
          pairRank (key first) < pairRank (key second) := by
    unfold aggregateTrafficMatrix
    refine sortMerge_groups pairRank hinjective hless (fun _ _ => ?_) (fun _ _ => ?_)
      (fun _ _ => ?_) records
    · simp
    · rfl
    · rfl
  obtain ⟨hgroups, hrising⟩ := hgrouped (entries (ofEthernet macPair) matrixEntry items)
  refine ⟨tabulates_of_groups ?_ ?_ ?_ hgroups, hrising.imp (pairRank_lt_iff _ _).mp⟩
  all_goals exact fun _ _ _ => rfl

/-! ## The aggregate -/

/-- **The aggregate** is made of what all packets leave together. -/
theorem aggregate_eq (learnedMacs : List MacAddress) (packets : List PacketAnalysis)
    (frameLengths : Option (List UInt64)) :
    aggregate learnedMacs packets frameLengths =
      (finishTables (recorded { frameSizeHistogram := frameSizeBuckets } learnedMacs
        (measured packets frameLengths)), learnAll learnedMacs (measured packets frameLengths)) := by
  unfold aggregate
  cases packets with
  | nil => rfl
  | cons packet packets =>
      rw [List.isEmpty_cons, if_neg Bool.false_ne_true, foldl_aggregatePacket]

end WireLab
