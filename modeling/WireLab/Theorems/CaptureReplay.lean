import WireLab.Replay.Totals
import WireLab.Replay.WrittenCaptures

/-!
# Replaying captures

The capture a replay writes, against the capture it reads. Everything about a run goes
through the judgements of its batches (`written`).
-/

namespace WireLab

open Base Base.Checked

/-- A capture that is replayed into an output that can be written. -/
structure ReplayEnvironment.Replays (env : ReplayEnvironment) (options : ReplayOptions)
    (capture : PcapCapture) : Prop where
  reads : ∃ data, env.files options.input = some data ∧ data.length < 2 ^ 64 ∧
    (PcapCapture.fromBytes data).run = some (.ok capture)
  named : options.output ≠ []
  writable : env.Writable options.output
  window : options.detectorConfig.windowDurationNs ≠ 0

namespace ReplayEnvironment.Replays

variable {env : ReplayEnvironment} {options : ReplayOptions} {capture : PcapCapture}
  (h : env.Replays options capture)
include h

theorem fits : ∀ packet ∈ capture.contents, packet.Fits := by
  obtain ⟨data, _, _, hread⟩ := h.reads
  exact (captured_of_returns hread).fits

theorem few : capture.contents.length < 2 ^ 64 := by
  obtain ⟨data, _, hsize, hread⟩ := h.reads
  have hfew := (captured_of_returns hread).few
  rw [PcapCapture.contents, List.length_map]
  omega

/-- What a run leaves: the file behind the writes of its judgements. -/
theorem written : ∃ replay output, Returns (Replay.run env options) replay ∧
    replay.output = some output ∧
    FollowsWatch replay ((options.watch h.window).after
      (chunks options.batchSize.toNat capture.contents.length capture.contents)) ∧
    Reported options.onlyFlagged (options.judgements h.window capture.contents)
      { pipeline := (options.watch h.window).pipeline, output := options.newOutput } replay ∧
    output.writer.stream = writtenFile (options.writes h.window capture.contents) ∧
    output.exportedPackets = .ofNat (options.writes h.window capture.contents).length ∧
    output.annotatedPackets = .ofNat
      ((options.judgements h.window capture.contents).flatMap Judgement.flagged).length := by
  obtain ⟨data, hfile, _, hread⟩ := h.reads
  obtain ⟨replay, hreplay, hfollows, hreported⟩ := run_returns hfile hread h.window h.writable
  have houtput := hreported.output
  have hnamed : options.output.isEmpty = false := by simpa using h.named
  simp only [ReplayOptions.newOutput, hnamed, Bool.false_eq_true, if_false, Option.map_some]
    at houtput
  exact ⟨replay, _, hreplay, houtput, hfollows, hreported, rfl, zero_add _, zero_add _⟩

end ReplayEnvironment.Replays

/-- A classic capture of one packet, of which three of nine bytes were kept. -/
def shortCapture : Bytes :=
  [0xd4, 0xc3, 0xb2, 0xa1, 2, 0, 4, 0, 0, 0, 0, 0, 0, 0, 0, 0, 0, 0, 4, 0, 1, 0, 0, 0,
    7, 0, 0, 0, 0, 0, 0, 0, 3, 0, 0, 0, 9, 0, 0, 0, 1, 2, 3]

def shortCaptured : PcapCapture where
  bytes := shortCapture
  packets := [{ timestampNs := 7000000000, offset := 40, capturedLength := 3, originalLength := 9 }]

def shortEnvironment : ReplayEnvironment where
  files path := if path = bytes "in.pcap" then some shortCapture else none
  opens _ := true
  stores _ := true
  flushes := true

theorem defaultBatchSize_ne_zero : (256 : UInt64) ≠ 0 := by decide

def shortOptions : ReplayOptions where
  input := bytes "in.pcap"
  output := bytes "out.pcapng"
  malformedThreshold := 0
  batched := defaultBatchSize_ne_zero

theorem shortEnvironment_replays : shortEnvironment.Replays shortOptions shortCaptured where
  reads := ⟨shortCapture, by decide, by decide, by decide⟩
  named := by decide
  writable := ⟨rfl, fun _ => rfl, rfl⟩
  window := by decide

/-- **A replay keeps the capture.** Whatever the capture, the thresholds and the batch
size, the annotated file is read back packet for packet: the times and the bytes are those
of the capture, an original length is kept unless it is below the captured one, and the
count that is printed is the number of packets. -/
theorem replay_keeps_capture (env : ReplayEnvironment) (options : ReplayOptions)
    (capture : PcapCapture) (h : env.Replays options capture)
    (hall : options.onlyFlagged = false) :
    ∃ replay output exported,
      (Replay.run env options).run = some (.ok replay) ∧ replay.output = some output ∧
      (PcapCapture.fromBytes output.writer.stream).run = some (.ok exported) ∧
      (exported.packets.map fun packet =>
          (packet.timestampNs, exported.frame packet, packet.originalLength)) =
        (capture.packets.map fun packet => (packet.timestampNs, capture.frame packet,
          max packet.originalLength (capture.frame packet).length)) ∧
      output.exportedPackets = .ofNat capture.packets.length := by
  obtain ⟨replay, output, hreplay, houtput, _, _, hstream, hexported, _⟩ := h.written
  have hfound := options.found_writes h.window capture.contents
  rw [ReplayOptions.writes, hall] at hstream hexported
  obtain ⟨exported, hread, hcontents⟩ := contents_written fun write hwrite =>
    (options.writes_fit h.window h.fits h.few false write hwrite).1
  rw [← hstream] at hread
  rw [hfound] at hcontents
  refine ⟨replay, output, exported, hreplay, houtput, hread, ?_, ?_⟩
  · have hpackets := congrArg (List.map fun packet : CapturedPacket =>
      (packet.timestampNs, packet.frame, packet.originalLength)) hcontents
    rw [PcapCapture.contents, PcapCapture.contents, List.map_map, List.map_map, List.map_map]
      at hpackets
    exact hpackets
  · have hlength := congrArg List.length hfound
    have hcount : capture.contents.length = capture.packets.length := List.length_map _
    rw [List.length_map, List.length_map, hcount] at hlength
    rw [hexported, hlength]

theorem replay_keeps_capture_short :
    ∃ replay output exported,
      (Replay.run shortEnvironment shortOptions).run = some (.ok replay) ∧
      replay.output = some output ∧
      (PcapCapture.fromBytes output.writer.stream).run = some (.ok exported) ∧
      (exported.packets.map fun packet =>
          (packet.timestampNs, exported.frame packet, packet.originalLength)) =
        [(7000000000, [1, 2, 3], 9)] ∧
      output.exportedPackets = 1 :=
  replay_keeps_capture shortEnvironment shortOptions shortCaptured shortEnvironment_replays rfl

/-- **Replaying an annotated capture annotates it again**, byte for byte: with the same
options the second file is the first, and what is counted is counted again. -/
theorem replay_idempotent (env env' : ReplayEnvironment) (options : ReplayOptions)
    (path : Bytes) (capture : PcapCapture) (replay : Replay) (output : ReplayOutput)
    (h : env.Replays options capture) (hall : options.onlyFlagged = false)
    (hrun : (Replay.run env options).run = some (.ok replay))
    (houtput : replay.output = some output)
    (hfile : env'.files path = some output.writer.stream)
    (hwritable : env'.Writable options.output) :
    ∃ replay' output',
      (Replay.run env' { options with input := path }).run = some (.ok replay') ∧
      replay'.output = some output' ∧ output'.writer.stream = output.writer.stream ∧
      output'.annotatedPackets = output.annotatedPackets ∧
      output'.exportedPackets = output.exportedPackets ∧ replay'.totals = replay.totals ∧
      replay'.totalAnomalies = replay.totalAnomalies ∧
      replay'.totalDecisions = replay.totalDecisions ∧
      replay'.anomalyCounts = replay.anomalyCounts ∧ replay'.ruleHits = replay.ruleHits := by
  obtain ⟨first, written, hfirst, hwritten, _, hreported, hstream, hexported, hannotated⟩ :=
    h.written
  obtain rfl : first = replay := Returns.unique hfirst hrun
  obtain rfl : written = output := Option.some.inj (hwritten.symm.trans houtput)
  have hfound := options.found_writes h.window capture.contents
  rw [ReplayOptions.writes, hall] at hstream hexported
  obtain ⟨exported, hread, hcontents⟩ := contents_written fun write hwrite =>
    (options.writes_fit h.window h.fits h.few false write hwrite).1
  rw [← hstream] at hread
  rw [hfound] at hcontents
  obtain ⟨second, hsecond, _, hagain⟩ :=
    @run_returns env' { options with input := path } _ exported hfile hread h.window hwritable
  -- The second replay judges the same packets, behind their export.
  have hjudged : ({ options with input := path } : ReplayOptions).judgements h.window
      exported.contents = (options.judgements h.window capture.contents).map Judgement.exported := by
    rw [hcontents]
    exact options.judgements_exported h.window capture.contents
  rw [hjudged] at hagain
  have hnamed : options.output.isEmpty = false := by simpa using h.named
  have hrewritten := hagain.output
  simp only [ReplayOptions.newOutput, hnamed, Bool.false_eq_true, if_false, Option.map_some]
    at hrewritten
  refine ⟨second, _, hsecond, hrewritten, ?_, ?_, ?_, ?_, ?_, ?_, ?_, ?_⟩
  · show PcapNgWriter.header _ _ ++ _ = _
    rw [hstream, writtenFile, hall, List.flatMap_map, List.flatMap_assoc, List.flatMap_assoc]
    congr 1
    exact List.flatMap_congr fun judgement _ => judgement.writes_exported
  · show 0 + _ = _
    rw [hannotated, zero_add, List.flatMap_map, List.length_flatMap, List.length_flatMap]
    simp only [Judgement.length_flagged_exported]
  · show 0 + _ = _
    rw [hexported, zero_add, hall, List.flatMap_map, List.length_flatMap, List.length_flatMap]
    simp only [Judgement.length_writes_exported]
  · rw [hagain.totals, hreported.totals, List.map_map]
    rfl
  · rw [hagain.totalAnomalies, hreported.totalAnomalies, List.flatMap_map]
    rfl
  · rw [hagain.totalDecisions, hreported.totalDecisions, List.flatMap_map]
    rfl
  · rw [hagain.anomalyCounts, hreported.anomalyCounts, List.flatMap_map]
    rfl
  · rw [hagain.ruleHits, hreported.ruleHits, List.flatMap_map]
    rfl

theorem replay_idempotent_short :
    ∃ env replay output replay' output',
      (Replay.run shortEnvironment shortOptions).run = some (.ok replay) ∧
      replay.output = some output ∧
      (Replay.run env { shortOptions with input := bytes "out.pcapng" }).run =
        some (.ok replay') ∧
      replay'.output = some output' ∧ output'.writer.stream = output.writer.stream := by
  obtain ⟨replay, output, hreplay, houtput, _⟩ := shortEnvironment_replays.written
  obtain ⟨replay', output', hreplay', houtput', hstream, _⟩ := replay_idempotent shortEnvironment
    { shortEnvironment with files := fun _ => some output.writer.stream } shortOptions
    (bytes "out.pcapng") shortCaptured replay output shortEnvironment_replays rfl hreplay houtput
    rfl ⟨rfl, fun _ => rfl, rfl⟩
  exact ⟨_, replay, output, replay', output', hreplay, houtput, hreplay', houtput', hstream⟩

/-- **What a replay adds up.** However the capture is cut into batches, the totals and the
learned addresses are those of one analysis of all its packets; each printed table accounts
for the events above it, and what it says of a rule is what the policy engine counted. -/
theorem replay_totals (env : ReplayEnvironment) (options : ReplayOptions)
    (capture : PcapCapture) (h : env.Replays options capture) :
    ∃ replay whole,
      (Replay.run env options).run = some (.ok replay) ∧
      CpuPacketAnalyzer.analyze [] (capture.packets.map (Replay.view capture)) =
        some (whole, replay.learnedMacs) ∧
      SameTotals replay.totals whole ∧
      (replay.anomalyCounts.entries.map Sigma.snd).sum = replay.totalAnomalies ∧
      (replay.ruleHits.entries.map Sigma.snd).sum = replay.totalDecisions ∧
      ∀ name, (replay.ruleHits.lookup name).getD 0 = replay.pipeline.policies.hitCount name := by
  obtain ⟨replay, output, hreplay, _, hfollows, hreported, _⟩ := h.written
  have hviews : capture.packets.map (Replay.view capture) =
      capture.contents.map fun packet => { bytes := packet.frame } := by
    rw [PcapCapture.contents, List.map_map]
    rfl
  have hsize : ∀ view ∈ capture.packets.map (Replay.view capture), view.bytes.length < 2 ^ 64 := by
    intro view hview
    rw [hviews] at hview
    obtain ⟨packet, hpacket, rfl⟩ := List.mem_map.mp hview
    exact lt_of_le_of_lt (h.fits packet hpacket).frame (by decide)
  have hbatches := flatten_chunks options.batchSize_toNat_ne_zero
    (Nat.le_refl capture.contents.length)
  refine ⟨replay, (analysisBatch [] (measuredPackets capture.contents)).1, hreplay, ?_, ?_, ?_, ?_,
    ?_⟩
  · rw [CpuPacketAnalyzer.analyze_eq hsize, hviews, hfollows.learnedMacs, learnedMacs_after,
      hbatches]
    rfl
  · rw [hreported.totals]
    have htotals := totals_judgements (options.watch h.window)
      (chunks options.batchSize.toNat capture.contents.length capture.contents) {}
    rw [hbatches] at htotals
    exact htotals.trans (sameTotals_fresh _)
  · rw [hreported.anomalyCounts, hreported.totalAnomalies, (counts_names _).2, List.length_map]
    exact (zero_add _).symm
  · rw [hreported.ruleHits, hreported.totalDecisions, (counts_names _).2, List.length_map]
    exact (zero_add _).symm
  · intro name
    rw [hreported.ruleHits, (counts_names _).1, hfollows.pipeline, hits_judgements,
      List.countP_map]
    exact (zero_add _).symm

theorem replay_totals_short :
    ∃ replay whole,
      (Replay.run shortEnvironment shortOptions).run = some (.ok replay) ∧
      CpuPacketAnalyzer.analyze [] [{ bytes := [1, 2, 3] }] = some (whole, replay.learnedMacs) ∧
      SameTotals replay.totals whole := by
  obtain ⟨replay, whole, hreplay, hanalyze, htotals, _⟩ :=
    replay_totals shortEnvironment shortOptions shortCaptured shortEnvironment_replays
  exact ⟨replay, whole, hreplay, hanalyze, htotals⟩

/-- **What is said about the packets.** The file and the counts of a run are those of its
judgements. In each of them, every anomaly is attached to a packet of its batch exactly if
it names an address that is not zero, or reports malformed frames and one of them is too
short for an Ethernet header; no packet has two anomalies of a type; every decision is about
an anomaly of the batch, by the first rule for it; and no comment is longer than an option
can say. -/
theorem replay_verdicts (env : ReplayEnvironment) (options : ReplayOptions)
    (capture : PcapCapture) (h : env.Replays options capture) :
    ∃ replay, ∃ judgements : List Judgement,
      (Replay.run env options).run = some (.ok replay) ∧
      judgements.flatMap Judgement.packets = capture.contents ∧
      Reported options.onlyFlagged judgements
        { pipeline := (options.watch h.window).pipeline, output := options.newOutput } replay ∧
      ∀ judgement ∈ judgements,
        (∀ event ∈ judgement.outcome.anomalies,
          (∃ item ∈ judgement.items, Replay.indicts item.1 event = true) ↔
            event.sourceMac.isZero = false ∨ event.sourceIpv4 ≠ 0 ∨
              (event.type = .malformedFrame ∧
                ∃ packet ∈ judgement.packets, packet.frame.length < 14)) ∧
        (∀ packet, ((Replay.matched judgement.outcome packet).map AnomalyEvent.type).Nodup) ∧
        Decides Replay.defaultRules judgement.outcome.anomalies judgement.outcome.decisions ∧
        ∀ item ∈ judgement.items, (judgement.annotate item).comment.length < 4096 := by
  obtain ⟨replay, output, hreplay, _, _, hreported, _⟩ := h.written
  refine ⟨replay, _, hreplay, options.packets_judgements h.window capture.contents, hreported, ?_⟩
  intro judgement hjudgement
  have hsound := options.sound_judgements h.window capture.contents judgement hjudgement
  have hanalysed := (options.watch h.window).analysed_judgements _ judgement hjudgement
  refine ⟨fun event hevent => Judgement.attached_iff hanalysed hsound hevent, hsound.matched_types,
    hsound.decided, fun item _ => hsound.length_comment_lt h.few item⟩

theorem replay_verdicts_short :
    ∃ replay, ∃ judgements : List Judgement,
      (Replay.run shortEnvironment shortOptions).run = some (.ok replay) ∧
      judgements.flatMap Judgement.packets =
        [{ timestampNs := 7000000000, frame := [1, 2, 3], originalLength := 9 }] ∧
      ∀ judgement ∈ judgements, ∀ item ∈ judgement.items,
        (judgement.annotate item).comment.length < 4096 := by
  obtain ⟨replay, judgements, hreplay, hpackets, _, hverdicts⟩ :=
    replay_verdicts shortEnvironment shortOptions shortCaptured shortEnvironment_replays
  exact ⟨replay, judgements, hreplay, hpackets, fun judgement hjudgement =>
    (hverdicts judgement hjudgement).2.2.2⟩

end WireLab
