import WireLab.Logic.BenchmarkSlices

/-!
# Slices do not change a benchmark's counters

A caller that shares its thread hands a run a budget of packets at a time. Whatever the
budgets, and however late a streaming device answers, the run counts what a single call
of `advance` counts.
-/

namespace WireLab

open Base

variable {β τ : Type}

/-- A call of `advance`: what its clocks read, and its budget. -/
structure Slice where
  latencyNs : Nat → UInt64
  sliceNs : UInt64
  budget : UInt64

namespace BenchmarkRun

def slice (run : BenchmarkRun β τ) (slice : Slice) : UInt64 × BenchmarkRun β τ :=
  run.advance slice.latencyNs slice.sliceNs slice.budget

def slices (run : BenchmarkRun β τ) (slices : List Slice) : BenchmarkRun β τ :=
  slices.foldl (fun run next => (run.slice next).2) run

end BenchmarkRun

/-- A run that fills in its next batch, in a slice or after another batch. -/
inductive AtBatch (start : BenchmarkRun β τ) : BenchmarkRun β τ → Prop
  | slice (slices : List Slice) : (∀ slice ∈ slices, 0 < slice.budget) →
      (start.slices slices).finished = false → AtBatch start (start.slices slices)
  | batch (run : BenchmarkRun β τ) (latencyNs : UInt64) : AtBatch start run →
      (run.advanceBatch latencyNs).2.2.finished = false →
        AtBatch start (run.advanceBatch latencyNs).2.2

/-- What a caller may rely on who advances a run in slices. -/
structure SlicingKeepsCounters (start : BenchmarkRun β τ) : Prop where
  progress : ∀ slices, (∀ slice ∈ slices, 0 < slice.budget) →
    (start.slices slices).finished = false → ∀ next : Slice, 0 < next.budget →
      let completed := ((start.slices slices).slice next).1
      0 < completed ∧ completed.toNat < next.budget.toNat + start.config.batchSize.toNat
  built : ∀ run, AtBatch start run → ∀ latencyNs, (run.advanceBatch latencyNs).1 = true
  whole : ∀ whole : Slice, start.config.packetCount ≤ whole.budget →
    (start.slice whole).2.finished = true
  counters : ∀ slices, (∀ slice ∈ slices, 0 < slice.budget) →
    (start.slices slices).finished = true →
      (start.slices slices).receivedPackets = start.config.packetCount ∧
      ∀ whole : Slice, start.config.packetCount ≤ whole.budget →
        (start.slices slices).counters = (start.slice whole).2.counters

section
variable {ledger : Ledger β} {learned : List MacAddress} {frame : UInt64 → Bytes}
  {start : BenchmarkRun β τ}

/-- A slice that comes after the end does nothing. -/
theorem Between.slice (h : Between ledger learned frame start) (next : Slice)
    (hbudget : 0 < next.budget) :
    Between ledger learned frame (start.slice next).2 ∧
      (start.slice next).2.config = start.config := by
  cases hfinished : start.finished with
  | true =>
      rw [BenchmarkRun.slice, BenchmarkRun.advance, if_pos (.inr hfinished)]
      exact ⟨h, rfl⟩
  | false =>
      obtain ⟨completed, run', hadvance, hbetween, hconfig, -⟩ :=
        h.advance hfinished (UInt64.lt_iff_toNat_lt.mp hbudget)
      rw [BenchmarkRun.slice, hadvance]
      exact ⟨hbetween, hconfig⟩

theorem Between.slices (h : Between ledger learned frame start) {slices : List Slice}
    (hbudgets : ∀ slice ∈ slices, 0 < slice.budget) :
    Between ledger learned frame (start.slices slices) ∧
      (start.slices slices).config = start.config := by
  induction slices generalizing start with
  | nil => exact ⟨h, rfl⟩
  | cons next slices ih =>
      obtain ⟨hnext, hlater⟩ := List.forall_mem_cons.mp hbudgets
      obtain ⟨hbetween, hconfig⟩ := h.slice next hnext
      obtain ⟨hbetween', hconfig'⟩ := ih hbetween hlater
      exact ⟨hbetween', hconfig'.trans hconfig⟩

/-- Every batch of a run is filled in between two others. -/
theorem AtBatch.sliced (h : Between ledger learned frame start) {run : BenchmarkRun β τ}
    (hat : AtBatch start run) : Sliced ledger learned frame run ∧ run.finished = false := by
  induction hat with
  | slice slices hbudgets hleft => exact ⟨(h.slices hbudgets).1.toSliced, hleft⟩
  | batch run latencyNs _ hleft ih =>
      obtain ⟨current, run', hbatch, -, hsliced⟩ := ih.1.advanceBatch ih.2 latencyNs
      rw [hbatch] at hleft ⊢
      exact ⟨hsliced, hleft⟩

theorem framesAnalysis_receivedPackets (learned : List MacAddress) (frame : UInt64 → Bytes)
    (count : UInt64) :
    (framesAnalysis learned frame count.toNat).1.receivedPackets = count := by
  rw [framesAnalysis, (analysisBatch_reports learned _).receivedPackets, parsedPackets,
    List.length_map, frameViews, List.length_map, List.length_range, UInt64.ofNat_toNat]

/-- A run that nothing has happened to keeps its counters in slices. -/
theorem Between.keeps (h : Between ledger learned frame start)
    (hfresh : start.completedPackets = 0) (hcount : start.config.packetCount ≠ 0) :
    SlicingKeepsCounters start := by
  have hleft : start.finished = false := by
    rw [finished_eq_false, hfresh]
    exact UInt64.pos_iff_ne_zero.mpr hcount
  have hwhole : ∀ whole : Slice, start.config.packetCount ≤ whole.budget →
      Between ledger learned frame (start.slice whole).2 ∧
        (start.slice whole).2.config = start.config ∧ (start.slice whole).2.finished = true := by
    intro whole hbudget
    rw [UInt64.le_iff_toNat_le] at hbudget
    have hpositive : 0 < whole.budget.toNat :=
      (UInt64.pos_iff_ne_zero.mpr hcount : 0 < start.config.packetCount.toNat).trans_le hbudget
    obtain ⟨completed, run', hadvance, hbetween, hconfig, -, -, hend, hcompleted⟩ :=
      h.advance hleft hpositive
    rw [BenchmarkRun.slice, hadvance]
    refine ⟨hbetween, hconfig, hend.elim id fun hspent => ?_⟩
    -- Whoever spends such a budget is at the end.
    refine Bool.of_not_eq_false fun hunfinished => ?_
    rw [finished_eq_false, hconfig, hcompleted] at hunfinished
    omega
  refine ⟨fun slices hbudgets hunfinished next hbudget => ?_, fun run hat latencyNs => ?_,
    fun whole hbudget => (hwhole whole hbudget).2.2, fun slices hbudgets hfinished => ?_⟩
  · obtain ⟨hbetween, hconfig⟩ := h.slices hbudgets
    obtain ⟨completed, run', hadvance, -, -, hprogress, hover, -⟩ :=
      hbetween.advance hunfinished (UInt64.lt_iff_toNat_lt.mp hbudget)
    rw [hconfig] at hover
    rw [BenchmarkRun.slice, hadvance]
    exact ⟨hprogress, hover⟩
  · obtain ⟨hsliced, hunfinished⟩ := hat.sliced h
    obtain ⟨current, run', hbatch, -⟩ := hsliced.advanceBatch hunfinished latencyNs
    rw [hbatch]
  · obtain ⟨hbetween, hconfig⟩ := h.slices hbudgets
    have hcounters := hbetween.final hfinished
    rw [hconfig] at hcounters
    refine ⟨?_, fun whole hbudget => ?_⟩
    · exact (congrArg Prod.fst hcounters).trans (framesAnalysis_receivedPackets learned frame _)
    · obtain ⟨hbetween', hconfig', hfinished'⟩ := hwhole whole hbudget
      rw [hcounters, hbetween'.final hfinished', hconfig']

end

/-- What `create` builds, over a device that answers as the CPU and owes nothing yet. -/
theorem create_between {allocates : Nat → Bool} {config : BenchmarkConfig}
    {factory : BenchmarkBackendFactory β} {traffic : TrafficSourceFactory τ} {run : BenchmarkRun β τ}
    (hcreate : BenchmarkRun.create allocates config (some factory) (some traffic) = some (.ok run))
    {ledger : Ledger β} (hbackend : AnswersLikeCpu run.backend ledger)
    (hpending : ledger.pending run.analyzer = []) {frame : UInt64 → Bytes}
    (hfill : FillsBySequence run.source.fill frame)
    (hsize : ∀ sequence, (frame sequence).length = config.traffic.frameSize.toNat) :
    Between ledger (ledger.learned run.analyzer) frame run ∧ run.completedPackets = 0 ∧
      run.config.packetCount ≠ 0 := by
  obtain ⟨hcount, hbatch, hshort, hfits, backend, analyzer, source, -, -, -, rfl⟩ :=
    create_ok hcreate
  have hframe : config.traffic.frameSize.toNat ≤ 9000 := UInt64.le_iff_toNat_le.mp hshort
  have hbytes : config.batchSize.toNat * config.traffic.frameSize.toNat ≤ 4294967295 := by
    have hdivided := UInt64.le_iff_toNat_le.mp hfits
    rw [UInt64.toNat_div] at hdivided
    exact (Nat.mul_le_mul_right _ hdivided).trans (Nat.div_mul_le_self _ _)
  have hsized : Sized ({ config, backend, analyzer, source } : BenchmarkRun β τ) :=
    ⟨UInt64.pos_iff_ne_zero.mpr hbatch, Nat.zero_le _⟩
  refine ⟨⟨⟨hsized, hbackend, hfill, hsize, hframe.trans (by decide), hbytes,
    ⟨0, rfl, rfl, ?_⟩, fun _ => hpending⟩, fun _ => hpending⟩, rfl, hcount⟩
  rw [hpending]
  rfl

/-! ## The CPU's devices -/

/-- The CPU never owes an answer. -/
def cpuLedger : Ledger (List MacAddress) where
  pending _ := []
  learned := id

theorem cpuDevices_answer : AnswersLikeCpu cpuDevices.analyzer cpuLedger where
  timing _ h := by simp [cpuDevices] at h
  streaming _ h := by simp [cpuDevices] at h
  analyze _ device device' batch analysis h := ⟨rfl, h.symm⟩

theorem CpuTrafficSource.length_frame (config : TrafficGeneratorConfig) (sequence : UInt64) :
    (CpuTrafficSource.frame config sequence).length = config.frameSize.toNat := by
  rw [CpuTrafficSource.frame, List.length_map, List.length_range]

theorem cpuDevices_fill (config : TrafficGeneratorConfig) :
    FillsBySequence (cpuDevices.source config).fill (CpuTrafficSource.frame config) :=
  fun _ _ _ => rfl

/-- **Slicing keeps the counters** of every run that can be created: on the CPU, and on a
streaming device that answers each batch as the CPU would, in order, whenever it does. -/
theorem slicing_keeps_counters :
    (∀ allocates config run,
      BenchmarkRun.create allocates config (some (cpuBenchmarkBackendFactory cpuDevices))
          (some (cpuTrafficSourceFactory cpuDevices)) = some (.ok run) →
        SlicingKeepsCounters run) ∧
    ∀ (β τ : Type) (allocates : Nat → Bool) (config : BenchmarkConfig)
      (factory : BenchmarkBackendFactory β) (traffic : TrafficSourceFactory τ)
      (run : BenchmarkRun β τ) (streaming : StreamingPacketAnalyzer β) (ledger : Ledger β)
      (frame : UInt64 → Bytes),
      BenchmarkRun.create allocates config (some factory) (some traffic) = some (.ok run) →
      run.backend.streaming = some streaming → StreamsLikeCpu streaming ledger →
      (∀ timing, run.backend.timing = some timing → ∀ device,
        ledger.pending (timing device).2 = ledger.pending device ∧
          ledger.learned (timing device).2 = ledger.learned device) →
      ledger.pending run.analyzer = [] → FillsBySequence run.source.fill frame →
      (∀ sequence, (frame sequence).length = config.traffic.frameSize.toNat) →
        SlicingKeepsCounters run := by
  refine ⟨fun allocates config run hcreate => ?_, fun β τ allocates config factory traffic run
    streaming ledger frame hcreate hstreaming hdevice htiming hpending hfill hsize => ?_⟩
  · obtain ⟨-, -, -, -, backend, analyzer, source, hfactory, -, htraffic, hrun⟩ := create_ok hcreate
    have hbackend : run.backend = cpuDevices.analyzer := by
      rw [cpuBenchmarkBackendFactory] at hfactory
      split at hfactory
      · simp at hfactory
      · rw [hrun]
        exact (Except.ok.inj hfactory).symm
    have hsource : run.source = cpuDevices.source config.traffic := by
      rw [cpuTrafficSourceFactory] at htraffic
      split at htraffic
      · simp at htraffic
      · rw [hrun]
        exact (Option.some.inj (Except.ok.inj htraffic)).symm
    have hanswers : AnswersLikeCpu run.backend cpuLedger := by
      rw [hbackend]
      exact cpuDevices_answer
    have hfill : FillsBySequence run.source.fill (CpuTrafficSource.frame config.traffic) := by
      rw [hsource]
      exact cpuDevices_fill config.traffic
    obtain ⟨hbetween, hfresh, hcount⟩ := create_between hcreate hanswers rfl hfill
      (CpuTrafficSource.length_frame config.traffic)
    exact hbetween.keeps hfresh hcount
  · have hanswers : AnswersLikeCpu run.backend ledger := by
      refine ⟨htiming, fun other hother => ?_, fun hnone => ?_⟩
      · obtain rfl : streaming = other := Option.some.inj (hstreaming.symm.trans hother)
        exact hdevice
      · rw [hstreaming] at hnone
        contradiction
    obtain ⟨hbetween, hfresh, hcount⟩ := create_between hcreate hanswers hpending hfill hsize
    exact hbetween.keeps hfresh hcount

/-- A device that answers a batch once another one waits behind it. -/
def lateAnalyzer : StreamingPacketAnalyzer (List PacketBatch × List MacAddress) where
  submit device batch := (device.1 ++ [batch], device.2)
  tryCollect
    | (oldest :: next :: waiting, learned) =>
        let (analysis, learned) := CpuPacketAnalyzer.answer learned oldest
        (some analysis, (next :: waiting, learned))
    | device => (none, device)
  drain device :=
    let (analyses, learned) := answerAll device.2 device.1
    (analyses, ([], learned))
  inFlight device := device.1.length

def lateLedger : Ledger (List PacketBatch × List MacAddress) where
  pending := Prod.fst
  learned := Prod.snd

theorem lateAnalyzer_streams : StreamsLikeCpu lateAnalyzer lateLedger := by
  refine ⟨fun device batch => ⟨rfl, rfl⟩, fun device device' h => ?_,
    fun device device' analysis h => ?_, fun device device' analyses h => ?_, fun device => rfl⟩
  · obtain ⟨waiting, learned⟩ := device
    match waiting, h with
    | [], h => obtain ⟨-, rfl⟩ := Prod.mk.inj h; exact ⟨rfl, rfl⟩
    | [batch], h => obtain ⟨-, rfl⟩ := Prod.mk.inj h; exact ⟨rfl, rfl⟩
    | oldest :: next :: waiting, h => exact absurd (Prod.mk.inj h).1 (Option.some_ne_none _)
  · obtain ⟨waiting, learned⟩ := device
    match waiting, h with
    | [], h => exact absurd (Prod.mk.inj h).1.symm (Option.some_ne_none _)
    | [batch], h => exact absurd (Prod.mk.inj h).1.symm (Option.some_ne_none _)
    | oldest :: next :: waiting, h =>
        obtain ⟨hanalysis, rfl⟩ := Prod.mk.inj h
        exact ⟨oldest, rfl, Prod.ext (Option.some.inj hanalysis).symm rfl⟩
  · obtain ⟨rfl, rfl⟩ := Prod.mk.inj h
    exact ⟨rfl, rfl⟩

def lateBackend : BenchmarkBackend (List PacketBatch × List MacAddress) where
  analyzer := some ([], [])
  analyze device _ := ({}, device)
  streaming := some lateAnalyzer

/-- Three frames in batches of two, on the CPU and on a device that answers late. -/
theorem slicing_keeps_counters_late :
    let config : BenchmarkConfig := { packetCount := 3, batchSize := 2 }
    let source := cpuDevices.source config.traffic
    SlicingKeepsCounters { config, backend := cpuDevices.analyzer, analyzer := [], source } ∧
      SlicingKeepsCounters { config, backend := lateBackend, analyzer := ([], []), source } :=
  ⟨slicing_keeps_counters.1 (fun _ => true) { packetCount := 3, batchSize := 2 } _ rfl,
    slicing_keeps_counters.2 _ _ (fun _ => true) { packetCount := 3, batchSize := 2 }
      (fun _ => .ok lateBackend) (cpuTrafficSourceFactory cpuDevices) _ lateAnalyzer lateLedger _ rfl
      rfl lateAnalyzer_streams (fun _ h => nomatch h) rfl (cpuDevices_fill _)
      (CpuTrafficSource.length_frame _)⟩

end WireLab
