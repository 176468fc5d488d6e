import WireLab.Base.Chunks
import WireLab.Logic.BatchAnalysis
import WireLab.Logic.CapturedPackets
import WireLab.Theorems.CaptureRoundTrip

/-!
# What a replay decides

Apart from files and errors a replay is a list of judgements: each batch is analysed by
the addresses learned before it and evaluated by the pipeline as it was left, and says of
each of its packets whether it is flagged and what is written of it. The tool computes
that list, counts it, and writes what it says (`run_returns`).
-/

namespace WireLab

open Base Base.Checked PacketAnalysisAggregator

/-! ## A pipeline that enforces nothing -/

/-- Without a controller the clock of the leases is not read. -/
theorem AnalysisPipeline.evaluate_detached {pipeline : AnalysisPipeline}
    (h : pipeline.attached = false) (controller : TopologyController) (batch : AnalysisBatch)
    (timestampNs : Nat) (now now' : Int) :
    pipeline.evaluate controller batch timestampNs now =
      pipeline.evaluate controller batch timestampNs now' := by
  simp only [evaluate, h]
  split
  · rfl
  · rfl

theorem AnalysisPipeline.isSome_evaluate (pipeline : AnalysisPipeline) (batch : AnalysisBatch)
    (timestampNs : Nat) : (pipeline.evaluate {} batch timestampNs 0).isSome = true := by
  obtain ⟨out, hout⟩ := pipeline.evaluate_returns {} batch timestampNs 0
  rw [hout]
  rfl

/-- What a replay remembers of the packets before. -/
structure Watch where
  pipeline : AnalysisPipeline
  learnedMacs : List MacAddress := []
  detached : pipeline.attached = false

/-- What was found in a batch: an analysis of each packet, and what the pipeline made of
them. -/
structure Judgement where
  packets : List CapturedPacket
  analysis : AnalysisBatch
  outcome : AnalysisOutcome
  paired : analysis.packets.length = packets.length

/-- Packets as they are analysed: they have all come in by the same port. -/
def measuredPackets (packets : List CapturedPacket) : List Measured :=
  parsedPackets (packets.map fun packet => { bytes := packet.frame })

theorem length_measuredPackets (packets : List CapturedPacket) :
    (measuredPackets packets).length = packets.length := by
  rw [measuredPackets, parsedPackets, List.length_map, List.length_map]

theorem packets_analysisBatch (learnedMacs : List MacAddress) (items : List Measured) :
    (analysisBatch learnedMacs items).1.packets = judgeAll learnedMacs items :=
  List.nil_append _

/-- The time of a batch is that of its last packet. -/
def batchTimestampNs (packets : List CapturedPacket) : Nat :=
  (packets.getLast?.map fun packet => packet.timestampNs.toNat).getD 0

namespace Watch

/-- The evaluation of a batch. -/
def evaluation (watch : Watch) (packets : List CapturedPacket) :
    AnalysisOutcome × AnalysisPipeline × TopologyController :=
  (watch.pipeline.evaluate {} (analysisBatch watch.learnedMacs (measuredPackets packets)).1
    (batchTimestampNs packets) 0).get (watch.pipeline.isSome_evaluate _ _)

theorem evaluate_eq (watch : Watch) (packets : List CapturedPacket) (now : Int) :
    watch.pipeline.evaluate {} (analysisBatch watch.learnedMacs (measuredPackets packets)).1
      (batchTimestampNs packets) now = some (watch.evaluation packets) := by
  rw [AnalysisPipeline.evaluate_detached watch.detached {} _ _ now 0]
  exact (Option.some_get _).symm

def judge (watch : Watch) (packets : List CapturedPacket) : Judgement where
  packets := packets
  analysis := (analysisBatch watch.learnedMacs (measuredPackets packets)).1
  outcome := (watch.evaluation packets).1
  paired := by rw [packets_analysisBatch, judgeAll_length, length_measuredPackets]

/-- What is remembered behind a batch. -/
def behind (watch : Watch) (packets : List CapturedPacket) : Watch where
  pipeline := (watch.evaluation packets).2.1
  learnedMacs := (analysisBatch watch.learnedMacs (measuredPackets packets)).2
  detached := by
    obtain ⟨hanalyses, _⟩ := AnalysisPipeline.evaluate_spec (watch.evaluate_eq packets 0)
    exact hanalyses.attached.trans watch.detached

/-- What the pipeline makes of a batch. -/
theorem analyses (watch : Watch) (packets : List CapturedPacket) :
    watch.pipeline.Analyses (watch.judge packets).analysis (batchTimestampNs packets)
      (watch.judge packets).outcome (watch.behind packets).pipeline := by
  obtain ⟨hanalyses, _⟩ := AnalysisPipeline.evaluate_spec (watch.evaluate_eq packets 0)
  exact hanalyses

/-- The judgements of batches, one after the other. -/
def judgements (watch : Watch) : List (List CapturedPacket) → List Judgement
  | [] => []
  | packets :: batches => watch.judge packets :: (watch.behind packets).judgements batches

/-- What is remembered behind all of them. -/
def after (watch : Watch) (batches : List (List CapturedPacket)) : Watch :=
  batches.foldl behind watch

end Watch

/-! ## What a judgement says of its packets -/

namespace Judgement

def items (judgement : Judgement) : List (PacketAnalysis × CapturedPacket) :=
  judgement.analysis.packets.zip judgement.packets

theorem map_items_fst (judgement : Judgement) :
    judgement.items.map Prod.fst = judgement.analysis.packets :=
  List.map_fst_zip judgement.paired.le

theorem map_items (judgement : Judgement) : judgement.items.map Prod.snd = judgement.packets :=
  List.map_snd_zip judgement.paired.ge

theorem mem_items {judgement : Judgement} {item : PacketAnalysis × CapturedPacket}
    (h : item ∈ judgement.items) : item.2 ∈ judgement.packets := (List.of_mem_zip h).2

/-- Whether a packet carries a verdict. -/
def flags (judgement : Judgement) (item : PacketAnalysis × CapturedPacket) : Bool :=
  !(Replay.matched judgement.outcome item.1).isEmpty

/-- What is written of a packet. -/
def annotate (judgement : Judgement) (item : PacketAnalysis × CapturedPacket) : PacketWrite where
  timestampNs := item.2.timestampNs
  frame := item.2.frame
  originalLength := item.2.originalLength
  comment := Replay.buildComment item.1 (Replay.matched judgement.outcome item.1)
    (Replay.matchedDecisions judgement.outcome item.1)

def flagged (judgement : Judgement) : List (PacketAnalysis × CapturedPacket) :=
  judgement.items.filter judgement.flags

/-- What is written of a batch. -/
def writes (onlyFlagged : Bool) (judgement : Judgement) : List PacketWrite :=
  (if onlyFlagged then judgement.flagged else judgement.items).map judgement.annotate

end Judgement

/-- The block of a packet. -/
def PacketWrite.block (write : PacketWrite) : Bytes :=
  PcapNgWriter.packetBlock write.timestampNs write.frame write.originalLength write.comment

/-- An output behind so many writes, so many of them of flagged packets. -/
def ReplayOutput.behind (output : ReplayOutput) (writes : List PacketWrite) (flagged : Nat) :
    ReplayOutput where
  writer :=
    { output.writer with
      stream := output.writer.stream ++ writes.flatMap PacketWrite.block
      writtenPackets := output.writer.writtenPackets + .ofNat writes.length }
  annotatedPackets := output.annotatedPackets + .ofNat flagged
  exportedPackets := output.exportedPackets + .ofNat writes.length

theorem ReplayOutput.behind_nil (output : ReplayOutput) : output.behind [] 0 = output := by
  simp [behind]

theorem ReplayOutput.behind_behind (output : ReplayOutput) (first second : List PacketWrite)
    (flagged more : Nat) :
    (output.behind first flagged).behind second more =
      output.behind (first ++ second) (flagged + more) := by
  simp [behind, List.append_assoc, UInt64.ofNat_add, add_assoc]

/-! ## One batch -/

/-- An environment whose files can be written. -/
structure ReplayEnvironment.Writable (env : ReplayEnvironment) (path : Bytes) : Prop where
  opens : env.opens path = true
  stores : ∀ offset, env.stores offset = true
  flushes : env.flushes = true

section
variable {env : ReplayEnvironment} (options : ReplayOptions) (capture : PcapCapture)

/-- A packet is written, skipped, and counted. -/
private theorem exportPacket_eq (hstores : ∀ offset, env.stores offset = true)
    (judgement : Judgement) (output : ReplayOutput) (analysis : PacketAnalysis)
    {packet : PcapPacket} (hfits : (capture.packetOf packet).Fits) :
    Replay.exportPacket env options capture judgement.outcome output (analysis, packet) =
      .ok (output.behind
        (if judgement.flags (analysis, capture.packetOf packet) || !options.onlyFlagged then
          [judgement.annotate (analysis, capture.packetOf packet)] else [])
        (if judgement.flags (analysis, capture.packetOf packet) then 1 else 0)) := by
  have hframe : ¬(capture.frame packet).length > pcapMaximumSnaplen.toNat :=
    not_lt.mpr hfits.frame
  simp only [Replay.exportPacket, PcapNgWriter.write, if_neg hframe, hstores, Bool.not_true,
    Bool.false_eq_true, if_false]
  show (if (!(judgement.flags (analysis, capture.packetOf packet)) && options.onlyFlagged) = true
    then _ else _) = _
  cases hflags : judgement.flags (analysis, capture.packetOf packet) with
  | true =>
      have hmatched : (Replay.matched judgement.outcome analysis).isEmpty = false := by
        simpa [Judgement.flags] using hflags
      simp [ReplayOutput.behind, hmatched]
      rfl
  | false =>
      have hmatched : (Replay.matched judgement.outcome analysis).isEmpty = true := by
        simpa [Judgement.flags] using hflags
      cases honly : options.onlyFlagged with
      | true => simp [ReplayOutput.behind, hmatched]
      | false =>
          simp [ReplayOutput.behind, hmatched]
          rfl

/-- A batch is written packet by packet, by induction on its packets. -/
private theorem exportPackets_eq (hstores : ∀ offset, env.stores offset = true)
    (judgement : Judgement) (items : List (PacketAnalysis × PcapPacket))
    (hfits : ∀ item ∈ items, (capture.packetOf item.2).Fits) (output : ReplayOutput) :
    items.foldlM (Replay.exportPacket env options capture judgement.outcome) output =
      .ok (output.behind
        (((items.map (Prod.map id capture.packetOf)).filter fun item =>
          judgement.flags item || !options.onlyFlagged).map judgement.annotate)
        ((items.map (Prod.map id capture.packetOf)).filter judgement.flags).length) := by
  induction items generalizing output with
  | nil => exact congrArg Except.ok output.behind_nil.symm
  | cons item items ih =>
      obtain ⟨analysis, packet⟩ := item
      have hrest := ih fun other hother => hfits other (List.mem_cons_of_mem _ hother)
      rw [List.foldlM_cons, exportPacket_eq options capture hstores judgement output analysis
        (hfits _ List.mem_cons_self)]
      show items.foldlM _ _ = _
      rw [hrest, ReplayOutput.behind_behind, List.map_cons, List.filter_cons, List.filter_cons]
      show Except.ok (output.behind _ _) = _
      congr 2
      · show _ = List.map judgement.annotate (if judgement.flags (analysis, capture.packetOf packet) ||
          !options.onlyFlagged then _ else _)
        split
        · rfl
        · rfl
      · show _ = (if judgement.flags (analysis, capture.packetOf packet) then _ else _ : List _).length
        split
        · rw [List.length_cons, Nat.add_comm]
        · exact Nat.zero_add _

end

/-- The same packets, whether the flagged ones are asked for or all. -/
private theorem filter_onlyFlagged (onlyFlagged : Bool) (judgement : Judgement) :
    (judgement.items.filter fun item => judgement.flags item || !onlyFlagged) =
      if onlyFlagged then judgement.flagged else judgement.items := by
  cases onlyFlagged with
  | true => simp [Judgement.flagged]
  | false => simp

theorem ReplayOptions.batchSize_toNat_ne_zero (options : ReplayOptions) :
    options.batchSize.toNat ≠ 0 := fun hzero => options.batched (UInt64.toNat_inj.mp hzero)

/-- How a replay has moved on by some judgements. -/
structure Reported (onlyFlagged : Bool) (judgements : List Judgement) (before after : Replay) :
    Prop where
  output : after.output = before.output.map fun output =>
    output.behind (judgements.flatMap (Judgement.writes onlyFlagged))
      (judgements.flatMap Judgement.flagged).length
  totals : after.totals = (judgements.map Judgement.analysis).foldl Replay.addTotals before.totals
  totalAnomalies : after.totalAnomalies = before.totalAnomalies +
    .ofNat (judgements.flatMap fun judgement => judgement.outcome.anomalies).length
  totalDecisions : after.totalDecisions = before.totalDecisions +
    .ofNat (judgements.flatMap fun judgement => judgement.outcome.decisions).length
  anomalyCounts : after.anomalyCounts =
    ((judgements.flatMap fun judgement => judgement.outcome.anomalies).map
      fun anomaly => anomaly.type.toString).foldl Replay.countName before.anomalyCounts
  ruleHits : after.ruleHits =
    ((judgements.flatMap fun judgement => judgement.outcome.decisions).map
      PolicyDecision.ruleName).foldl Replay.countName before.ruleHits

theorem reported_nil (onlyFlagged : Bool) (replay : Replay) :
    Reported onlyFlagged [] replay replay where
  output := by
    cases replay.output with
    | none => rfl
    | some output => exact congrArg some output.behind_nil.symm
  totals := rfl
  totalAnomalies := (add_zero _).symm
  totalDecisions := (add_zero _).symm
  anomalyCounts := rfl
  ruleHits := rfl

theorem Reported.append {onlyFlagged : Bool} {first second : List Judgement}
    {before middle after : Replay} (h : Reported onlyFlagged first before middle)
    (h' : Reported onlyFlagged second middle after) :
    Reported onlyFlagged (first ++ second) before after where
  output := by
    rw [h'.output, h.output, Option.map_map, List.flatMap_append, List.flatMap_append,
      List.length_append]
    congr 1
    funext output
    exact output.behind_behind _ _ _ _
  totals := by rw [h'.totals, h.totals, List.map_append, List.foldl_append]
  totalAnomalies := by
    rw [h'.totalAnomalies, h.totalAnomalies, List.flatMap_append, List.length_append,
      UInt64.ofNat_add, add_assoc]
  totalDecisions := by
    rw [h'.totalDecisions, h.totalDecisions, List.flatMap_append, List.length_append,
      UInt64.ofNat_add, add_assoc]
  anomalyCounts := by
    rw [h'.anomalyCounts, h.anomalyCounts, List.flatMap_append, List.map_append, List.foldl_append]
  ruleHits := by
    rw [h'.ruleHits, h.ruleHits, List.flatMap_append, List.map_append, List.foldl_append]

/-- A replay that remembers what a watch does. -/
structure FollowsWatch (replay : Replay) (watch : Watch) : Prop where
  pipeline : replay.pipeline = watch.pipeline
  learnedMacs : replay.learnedMacs = watch.learnedMacs

section
variable {env : ReplayEnvironment} (options : ReplayOptions) {capture : PcapCapture}
  (hstores : ∀ offset, env.stores offset = true)
include hstores

/-- **One batch** is judged, counted and written. -/
private theorem returns_replayBatch {packets : List PcapPacket}
    (hfits : ∀ packet ∈ packets, (capture.packetOf packet).Fits) {replay : Replay} {watch : Watch}
    (hfollows : FollowsWatch replay watch) :
    ∃ next, Returns (Replay.replayBatch env options capture packets replay) next ∧
      FollowsWatch next (watch.behind (packets.map capture.packetOf)) ∧
      Reported options.onlyFlagged [watch.judge (packets.map capture.packetOf)] replay next := by
  obtain ⟨hpipeline, hlearned⟩ := hfollows
  have hviews : packets.map (Replay.view capture) =
      (packets.map capture.packetOf).map fun packet => { bytes := packet.frame } := by
    rw [List.map_map]
    rfl
  have hsize : ∀ view ∈ packets.map (Replay.view capture), view.bytes.length < 2 ^ 64 := by
    intro view hview
    obtain ⟨packet, hpacket, rfl⟩ := List.mem_map.mp hview
    exact lt_of_le_of_lt (hfits packet hpacket).frame (by decide)
  have hanalyze := CpuPacketAnalyzer.analyze_eq hsize replay.learnedMacs
  rw [hviews, hlearned] at hanalyze
  have htimestamp : (packets.getLast?.map fun packet => packet.timestampNs.toNat).getD 0 =
      batchTimestampNs (packets.map capture.packetOf) := by
    rw [batchTimestampNs, List.getLast?_map, Option.map_map]
    rfl
  have hevaluate := watch.evaluate_eq (packets.map capture.packetOf) env.now
  unfold Replay.replayBatch
  rw [hviews, hlearned, hanalyze, htimestamp, hpipeline]
  simp only [measuredPackets] at hevaluate
  simp only [hevaluate]
  -- What is written of the batch is what its judgement says.
  have hexport := fun output => exportPackets_eq options capture hstores
    (watch.judge (packets.map capture.packetOf))
    ((watch.judge (packets.map capture.packetOf)).analysis.packets.zip packets)
    (fun item hitem => hfits _ (List.of_mem_zip hitem).2) output
  have hitems : (((watch.judge (packets.map capture.packetOf)).analysis.packets.zip packets).map
      (Prod.map id capture.packetOf)) = (watch.judge (packets.map capture.packetOf)).items := by
    rw [Judgement.items, ← List.zip_map, List.map_id]
    rfl
  rw [hitems, filter_onlyFlagged] at hexport
  generalize hcounted : Replay.countOutcome (watch.judge (packets.map capture.packetOf)).outcome
    { replay with
      learnedMacs := (watch.behind (packets.map capture.packetOf)).learnedMacs
      totals := Replay.addTotals replay.totals
        (watch.judge (packets.map capture.packetOf)).analysis
      pipeline := (watch.behind (packets.map capture.packetOf)).pipeline } = counted
  refine ⟨{ counted with
    output := replay.output.map fun output =>
      output.behind (Judgement.writes options.onlyFlagged
        (watch.judge (packets.map capture.packetOf)))
        (watch.judge (packets.map capture.packetOf)).flagged.length }, ?_, ?_, ?_⟩
  · have hkept : counted.output = replay.output := by
      rw [← hcounted]
      rfl
    cases houtput : replay.output with
    | none =>
        rw [houtput] at hkept
        have hnone : { counted with output := none } = counted := by
          rw [← hkept]
        rw [Option.map_none, hnone, ← hcounted]
        simp only [Replay.countOutcome, houtput]
        exact returns_pure _
    | some output =>
        rw [Option.map_some, ← hcounted]
        simp only [Replay.countOutcome, houtput]
        have hwritten : ((analysisBatch watch.learnedMacs (parsedPackets
              ((packets.map capture.packetOf).map fun packet => { bytes := packet.frame }))).1.packets.zip
            packets).foldlM (Replay.exportPacket env options capture
              (watch.evaluation (packets.map capture.packetOf)).1) output = _ := hexport output
        rw [hwritten]
        exact returns_pure _
  · subst hcounted
    exact ⟨rfl, rfl⟩
  · subst hcounted
    exact {
      output := by
        show Option.map _ _ = _
        rw [List.flatMap_singleton, List.flatMap_singleton]
      totals := rfl
      totalAnomalies := by
        rw [List.flatMap_singleton]
        rfl
      totalDecisions := by
        rw [List.flatMap_singleton]
        rfl
      anomalyCounts := by
        rw [List.flatMap_singleton]
        rfl
      ruleHits := by
        rw [List.flatMap_singleton]
        rfl }

/-- **Every batch**, by induction on the rounds: the packets left are worked through in
the chunks of what they hold. -/
private theorem returns_replayBatches (rounds : Nat) {packets : List PcapPacket}
    (hrounds : packets.length ≤ rounds)
    (hfits : ∀ packet ∈ packets, (capture.packetOf packet).Fits) {replay : Replay} {watch : Watch}
    (hfollows : FollowsWatch replay watch) :
    ∃ last, Returns (Replay.replayBatches env options capture rounds packets replay) last ∧
      FollowsWatch last (watch.after
        (chunks options.batchSize.toNat rounds (packets.map capture.packetOf))) ∧
      Reported options.onlyFlagged (watch.judgements
        (chunks options.batchSize.toNat rounds (packets.map capture.packetOf))) replay last := by
  have hbatch := options.batchSize_toNat_ne_zero
  induction rounds generalizing packets replay watch with
  | zero =>
      rw [List.eq_nil_of_length_eq_zero (Nat.le_zero.mp hrounds)]
      exact ⟨replay, returns_pure replay, hfollows, reported_nil _ replay⟩
  | succ rounds ih =>
      cases packets with
      | nil => exact ⟨replay, returns_pure replay, hfollows, reported_nil _ replay⟩
      | cons packet packets =>
          have hrest := length_drop_lt hbatch packet packets
          rw [List.length_cons] at hrounds
          obtain ⟨next, hnext, hfollows, hreported⟩ := returns_replayBatch options hstores
            (fun other hother => hfits other (List.mem_of_mem_take hother)) hfollows
          have hleft : ((packet :: packets).drop options.batchSize.toNat).length ≤ rounds := by
            omega
          obtain ⟨last, hlast, hremembered, hmore⟩ := ih hleft
            (fun other hother => hfits other (List.mem_of_mem_drop hother)) hfollows
          refine ⟨last, hnext.bind hlast, ?_⟩
          rw [List.map_cons, chunks, ← List.map_cons, ← List.map_take, ← List.map_drop]
          exact ⟨hremembered, hreported.append hmore⟩

end

/-! ## A whole replay -/

namespace ReplayOptions

variable (options : ReplayOptions) (hwindow : options.detectorConfig.windowDurationNs ≠ 0)

/-- What a replay starts with. -/
def watch : Watch where
  pipeline :=
    { detector := { config := options.detectorConfig, windowed := hwindow }
      policies := Replay.defaultRules.foldl Replay.installRule {} }
  detached := rfl

/-- What is decided about the packets of a capture. -/
def judgements (contents : List CapturedPacket) : List Judgement :=
  (options.watch hwindow).judgements
    (chunks options.batchSize.toNat contents.length contents)

/-- What is written about them. -/
def writes (contents : List CapturedPacket) : List PacketWrite :=
  (options.judgements hwindow contents).flatMap (Judgement.writes options.onlyFlagged)

/-- The output before anything is written. -/
def newOutput : Option ReplayOutput :=
  if options.output.isEmpty then none
  else some
    { writer := { stream := PcapNgWriter.header (bytes "wirelab") pcapMaximumSnaplen,
                  snaplen := pcapMaximumSnaplen } }

end ReplayOptions

/-- **A replay computes its judgements**: of every capture that is read, whatever the
options, where the output can be written. -/
theorem run_returns {env : ReplayEnvironment} {options : ReplayOptions} {data : Bytes}
    {capture : PcapCapture} (hfile : env.files options.input = some data)
    (hread : Returns (PcapCapture.fromBytes data) capture)
    (hwindow : options.detectorConfig.windowDurationNs ≠ 0)
    (hwritable : env.Writable options.output) :
    ∃ replay, Returns (Replay.run env options) replay ∧
      FollowsWatch replay ((options.watch hwindow).after
        (chunks options.batchSize.toNat capture.contents.length capture.contents)) ∧
      Reported options.onlyFlagged (options.judgements hwindow capture.contents)
        { pipeline := (options.watch hwindow).pipeline, output := options.newOutput } replay := by
  have hfits := (captured_of_returns hread).fits
  have hfollows : FollowsWatch
      { pipeline := (options.watch hwindow).pipeline, output := options.newOutput }
      (options.watch hwindow) := ⟨rfl, rfl⟩
  obtain ⟨replay, hreplay, hremembered, hreported⟩ := returns_replayBatches options hwritable.stores
    capture.packets.length (Nat.le_refl _)
    (fun packet hpacket => hfits _ (List.mem_map_of_mem hpacket)) hfollows
  have hpipeline : Replay.createPipeline options.detectorConfig =
      some (options.watch hwindow).pipeline := dif_pos hwindow
  have houtput : Replay.createOutput env options = .ok options.newOutput := by
    unfold Replay.createOutput ReplayOptions.newOutput
    split_ifs
    · rfl
    · rw [PcapNgWriter.create, hwritable.opens, hwritable.stores]
      rfl
  have hcapture : Returns (Replay.readCapture env options.input) capture := by
    rw [Replay.readCapture, hfile]
    exact hread
  refine ⟨replay, ?_, ?_, ?_⟩
  · refine (hcapture.adapt ReplayError.unreadable).bind ?_
    rw [hpipeline, houtput]
    refine hreplay.bind ?_
    rw [hwritable.flushes, Bool.not_true, Bool.and_false]
    exact returns_pure replay
  · rw [PcapCapture.contents, List.length_map]
    exact hremembered
  · rw [ReplayOptions.judgements, PcapCapture.contents, List.length_map]
    exact hreported

end WireLab
