import WireLab.Logic.BenchmarkRuns
import WireLab.Logic.GroupedBatches
import WireLab.Logic.TrafficBytes
import WireLab.Model.BenchmarkDevices

/-!
# Slices of a benchmark

A device owes answers to the batches that were submitted and not answered (`Ledger`).
However late the answers come, what a run has counted is the CPU's analysis of the
frames before those (`Accounts`); so it does not depend on the slices.
-/

namespace WireLab

open Base

variable {β τ : Type}

/-! ## Devices that answer as the CPU -/

/-- What a device has yet to answer for, and what its answers have taught it. -/
structure Ledger (β : Type) where
  pending : β → List PacketBatch
  learned : β → List MacAddress

/-- The answers to some batches, and what is learned after them. -/
def answerAll (learned : List MacAddress) : List PacketBatch → List AnalysisBatch × List MacAddress
  | [] => ([], learned)
  | batch :: rest =>
      let (analysis, learned) := CpuPacketAnalyzer.answer learned batch
      let (analyses, learned) := answerAll learned rest
      (analysis :: analyses, learned)

/-- A streaming analyzer answers each batch once, in order, as the CPU would, and takes
its time. -/
structure StreamsLikeCpu (streaming : StreamingPacketAnalyzer β) (ledger : Ledger β) : Prop where
  submit : ∀ device batch, ledger.pending (streaming.submit device batch) =
      ledger.pending device ++ [batch] ∧
    ledger.learned (streaming.submit device batch) = ledger.learned device
  nothing : ∀ device device', streaming.tryCollect device = (none, device') →
    ledger.pending device' = ledger.pending device ∧ ledger.learned device' = ledger.learned device
  answer : ∀ device device' analysis, streaming.tryCollect device = (some analysis, device') →
    ∃ batch, ledger.pending device = batch :: ledger.pending device' ∧
      (analysis, ledger.learned device') = CpuPacketAnalyzer.answer (ledger.learned device) batch
  drain : ∀ device device' analyses, streaming.drain device = (analyses, device') →
    ledger.pending device' = [] ∧
      (analyses, ledger.learned device') = answerAll (ledger.learned device) (ledger.pending device)
  inFlight : ∀ device, streaming.inFlight device = (ledger.pending device).length

/-- An analyzer answers each batch at once. -/
def AnalyzesLikeCpu (analyze : β → PacketBatch → AnalysisBatch × β) (ledger : Ledger β) : Prop :=
  ∀ device device' batch analysis, analyze device batch = (analysis, device') →
    ledger.pending device' = ledger.pending device ∧
      (analysis, ledger.learned device') = CpuPacketAnalyzer.answer (ledger.learned device) batch

/-- A backend in either way. To ask a device for its timing changes no answer. -/
structure AnswersLikeCpu (backend : BenchmarkBackend β) (ledger : Ledger β) : Prop where
  timing : ∀ timing, backend.timing = some timing → ∀ device,
    ledger.pending (timing device).2 = ledger.pending device ∧
      ledger.learned (timing device).2 = ledger.learned device
  streaming : ∀ streaming, backend.streaming = some streaming → StreamsLikeCpu streaming ledger
  analyze : backend.streaming = none → AnalyzesLikeCpu backend.analyze ledger

/-- A source fills in the frames of consecutive sequence numbers. -/
def FillsBySequence (fill : τ → UInt64 → UInt64 → List Bytes × τ) (frame : UInt64 → Bytes) : Prop :=
  ∀ source firstSequence count, (fill source firstSequence count).1 =
    (List.range count.toNat).map fun index => frame (firstSequence + .ofNat index)

/-! ## Frames -/

/-- Consecutive frames of a run, as an analyzer receives them. -/
def frameViews (frame : UInt64 → Bytes) (first count : Nat) : List PacketView :=
  (List.range count).map fun index => { bytes := frame (.ofNat (first + index)) }

theorem frameViews_append (frame : UInt64 → Bytes) (first count more : Nat) :
    frameViews frame first (count + more) =
      frameViews frame first count ++ frameViews frame (first + count) more := by
  simp only [frameViews, List.range_add, List.map_append, List.map_map]
  congr 1
  refine List.map_congr_left fun index _ => ?_
  simp only [Function.comp_apply, Nat.add_assoc]

/-- What is counted of some packets. -/
abbrev Counters := UInt64 × UInt64 × UInt64 × UInt64 × UInt64 × UInt64

def AnalysisBatch.counters (batch : AnalysisBatch) : Counters :=
  (batch.receivedPackets, batch.receivedBytes, batch.malformedPackets, batch.broadcastPackets,
    batch.unknownUnicastPackets, batch.knownUnicastPackets)

def BenchmarkRun.counters (run : BenchmarkRun β τ) : Counters :=
  (run.receivedPackets, run.receivedBytes, run.malformedPackets, run.broadcastPackets,
    run.unknownUnicastPackets, run.knownUnicastPackets)

theorem Combines.counters {first second whole : AnalysisBatch} (h : Combines first second whole) :
    whole.counters = first.counters + second.counters := by
  simp only [AnalysisBatch.counters, h.receivedPackets, h.receivedBytes, h.malformedPackets,
    h.broadcastPackets, h.unknownUnicastPackets, h.knownUnicastPackets, Prod.mk_add_mk]

/-- The analysis of a run's first frames. -/
def framesAnalysis (learned : List MacAddress) (frame : UInt64 → Bytes) (count : Nat) :
    AnalysisBatch × List MacAddress :=
  analysisBatch learned (parsedPackets (frameViews frame 0 count))

/-- The analysis of some frames more. -/
theorem framesAnalysis_add (learned : List MacAddress) (frame : UInt64 → Bytes) (count more : Nat) :
    let before := framesAnalysis learned frame count
    let later := analysisBatch before.2 (parsedPackets (frameViews frame count more))
    (framesAnalysis learned frame (count + more)).1.counters =
        before.1.counters + later.1.counters ∧
      (framesAnalysis learned frame (count + more)).2 = later.2 := by
  have hparsed : parsedPackets (frameViews frame 0 (count + more)) =
      parsedPackets (frameViews frame 0 count) ++ parsedPackets (frameViews frame count more) := by
    rw [frameViews_append, Nat.zero_add]
    exact List.map_append
  simp only [framesAnalysis, hparsed]
  exact ⟨(analysisBatch_append learned _ _).counters, List.foldl_append⟩

/-! ## Building a batch -/

theorem length_frameViews_bytes {frame : UInt64 → Bytes} {size : Nat}
    (hsize : ∀ sequence, (frame sequence).length = size) (first count : Nat) :
    ((frameViews frame first count).flatMap PacketView.bytes).length = count * size := by
  rw [List.length_flatMap, frameViews, List.map_map]
  have hconstant : (fun view : PacketView => view.bytes.length) ∘
      (fun index => ({ bytes := frame (.ofNat (first + index)) } : PacketView)) =
        fun _ => size := funext fun index => hsize _
  rw [hconstant, List.map_const', List.sum_replicate, List.length_range, smul_eq_mul]

/-! ## Accounting -/

/-- Batches of consecutive frames, from one sequence number to another. -/
def HoldFrames (frame : UInt64 → Bytes) : List PacketBatch → Nat → Nat → Prop
  | [], first, last => first = last
  | batch :: rest, first, last =>
      ∃ count, batch.Holds (frameViews frame first count) ∧ HoldFrames frame rest (first + count) last

theorem HoldFrames.append {frame : UInt64 → Bytes} {batches : List PacketBatch} {first last count : Nat}
    {batch : PacketBatch} (h : HoldFrames frame batches first last)
    (hholds : batch.Holds (frameViews frame last count)) :
    HoldFrames frame (batches ++ [batch]) first (last + count) := by
  induction batches generalizing first with
  | nil =>
      obtain rfl : first = last := h
      exact ⟨count, hholds, rfl⟩
  | cons earlier batches ih =>
      obtain ⟨size, hearlier, hrest⟩ := h
      exact ⟨size, hearlier, ih hrest⟩

/-- A run has counted its first frames, and its device owes the answers for those from
there to `submitted`. -/
structure Accounts (ledger : Ledger β) (learned : List MacAddress) (frame : UInt64 → Bytes)
    (run : BenchmarkRun β τ) (accounted submitted : Nat) : Prop where
  counters : run.counters = (framesAnalysis learned frame accounted).1.counters
  learned : ledger.learned run.analyzer = (framesAnalysis learned frame accounted).2
  pending : HoldFrames frame (ledger.pending run.analyzer) accounted submitted

section
variable {ledger : Ledger β} {learned : List MacAddress} {frame : UInt64 → Bytes}
  {run : BenchmarkRun β τ} {accounted submitted : Nat}

/-- The answer for a batch that holds packets. -/
theorem answer_eq {batch : PacketBatch} {packets : List PacketView} (h : batch.Holds packets)
    (learned : List MacAddress) :
    CpuPacketAnalyzer.answer learned batch = analysisBatch learned (parsedPackets packets) := by
  rw [CpuPacketAnalyzer.answer, CpuPacketAnalyzer.analyzeBatch_eq h]
  rfl

theorem account_counters (run : BenchmarkRun β τ) (analysis : AnalysisBatch) :
    (run.account analysis).counters = run.counters + analysis.counters := by
  dsimp only [BenchmarkRun.account]
  cases run.backend.timing with
  | none => rfl
  | some timing => rfl

/-- An answer is counted, and the device is asked for its timing. -/
theorem account_ledger (hbackend : AnswersLikeCpu run.backend ledger) (analysis : AnalysisBatch) :
    ledger.pending (run.account analysis).analyzer = ledger.pending run.analyzer ∧
      ledger.learned (run.account analysis).analyzer = ledger.learned run.analyzer := by
  dsimp only [BenchmarkRun.account]
  cases htiming : run.backend.timing with
  | none => exact ⟨rfl, rfl⟩
  | some timing => exact hbackend.timing timing htiming run.analyzer

/-- **An answer is counted**: that of the oldest batch the device owed one for. -/
theorem Accounts.account {batch : PacketBatch} {analysis : AnalysisBatch}
    (hcounters : run.counters = (framesAnalysis learned frame accounted).1.counters)
    (hbackend : AnswersLikeCpu run.backend ledger)
    (hpending : HoldFrames frame (batch :: ledger.pending run.analyzer) accounted submitted)
    (hanswer : (analysis, ledger.learned run.analyzer) =
      CpuPacketAnalyzer.answer (framesAnalysis learned frame accounted).2 batch) :
    ∃ accounted', Accounts ledger learned frame (run.account analysis) accounted' submitted := by
  obtain ⟨count, hholds, hrest⟩ := hpending
  rw [answer_eq hholds] at hanswer
  obtain ⟨hanalysis, hlearned⟩ := Prod.mk.inj hanswer
  obtain ⟨hadd, hlater⟩ := framesAnalysis_add learned frame accounted count
  obtain ⟨hpending', hlearned'⟩ := account_ledger hbackend analysis
  refine ⟨accounted + count, ?_, ?_, ?_⟩
  · rw [account_counters, hadd, hanalysis, ← hcounters]
    rfl
  · rw [hlearned', hlater]
    exact hlearned
  · rw [hpending']
    exact hrest

/-- The answers that have come by now are counted. -/
theorem Accounts.collect (h : Accounts ledger learned frame run accounted submitted)
    (hbackend : AnswersLikeCpu run.backend ledger) {streaming : StreamingPacketAnalyzer β}
    (hstreaming : run.backend.streaming = some streaming) (fuel : Nat) :
    ∃ accounted', Accounts ledger learned frame (BenchmarkRun.collect streaming fuel run)
      accounted' submitted := by
  have hdevice := hbackend.streaming streaming hstreaming
  induction fuel generalizing run accounted with
  | zero => exact ⟨accounted, h⟩
  | succ fuel ih =>
      cases htry : streaming.tryCollect run.analyzer with
      | mk answer device' =>
      cases answer with
      | none =>
          obtain ⟨hpending, hlearned⟩ := hdevice.nothing _ _ htry
          simp only [BenchmarkRun.collect, htry]
          refine ⟨accounted, h.counters, ?_, ?_⟩
          · exact hlearned.trans h.learned
          · show HoldFrames frame (ledger.pending device') accounted submitted
            rw [hpending]
            exact h.pending
      | some analysis =>
          obtain ⟨batch, hpending, hanswer⟩ := hdevice.answer _ _ _ htry
          rw [h.learned] at hanswer
          have hcounters : ({ run with analyzer := device' } : BenchmarkRun β τ).counters =
              (framesAnalysis learned frame accounted).1.counters := h.counters
          obtain ⟨counted, hcounted⟩ :=
            Accounts.account hcounters hbackend (hpending ▸ h.pending) hanswer
          have hsame : SameRun run ({ run with analyzer := device' }.account analysis) :=
            (account_same _ analysis).ofAnalyzer
          simp only [BenchmarkRun.collect, htry]
          exact ih hcounted (by rw [hsame.backend]; exact hbackend)
            (by rw [hsame.backend]; exact hstreaming)

/-- The answers to the batches that are owed, together. -/
theorem answers_counters {batches analyses : List _} {learned' : List MacAddress}
    (hfollows : HoldFrames frame batches accounted submitted)
    (hanswers : answerAll (framesAnalysis learned frame accounted).2 batches = (analyses, learned')) :
    (framesAnalysis learned frame accounted).1.counters +
        (analyses.map AnalysisBatch.counters).sum =
          (framesAnalysis learned frame submitted).1.counters ∧
      learned' = (framesAnalysis learned frame submitted).2 := by
  induction batches generalizing accounted analyses learned' with
  | nil =>
      obtain rfl : accounted = submitted := hfollows
      obtain ⟨rfl, rfl⟩ := Prod.mk.inj hanswers
      simp
  | cons batch batches ih =>
      obtain ⟨count, hholds, hrest⟩ := hfollows
      obtain ⟨hadd, hlater⟩ := framesAnalysis_add learned frame accounted count
      rw [answerAll, answer_eq hholds] at hanswers
      cases hanswered : answerAll (framesAnalysis learned frame (accounted + count)).2 batches with
      | mk later last =>
      obtain ⟨hcounters, hlast⟩ := ih hrest hanswered
      rw [hlater] at hanswered
      dsimp only at hanswers
      rw [hanswered] at hanswers
      obtain ⟨rfl, rfl⟩ := Prod.mk.inj hanswers
      refine ⟨?_, hlast⟩
      rw [← hcounters, hadd, List.map_cons, List.sum_cons, add_assoc]

theorem foldl_account (analyses : List AnalysisBatch) (run : BenchmarkRun β τ)
    (hbackend : AnswersLikeCpu run.backend ledger) :
    let final := analyses.foldl BenchmarkRun.account run
    final.counters = run.counters + (analyses.map AnalysisBatch.counters).sum ∧
      ledger.pending final.analyzer = ledger.pending run.analyzer ∧
      ledger.learned final.analyzer = ledger.learned run.analyzer := by
  induction analyses generalizing run with
  | nil => exact ⟨by simp, rfl, rfl⟩
  | cons analysis analyses ih =>
      have hsame := account_same run analysis
      obtain ⟨hcounters, hpending, hlearned⟩ := ih (run.account analysis)
        (hsame.backend ▸ hbackend)
      obtain ⟨hpending', hlearned'⟩ := account_ledger hbackend analysis
      refine ⟨?_, hpending.trans hpending', hlearned.trans hlearned'⟩
      rw [List.foldl_cons, hcounters, account_counters, List.map_cons, List.sum_cons, add_assoc]

/-- **The rest is drained** at the end of a run, which then has counted everything that
was submitted. -/
theorem Accounts.drained (h : Accounts ledger learned frame run accounted submitted)
    (hbackend : AnswersLikeCpu run.backend ledger) {streaming : StreamingPacketAnalyzer β}
    (hstreaming : run.backend.streaming = some streaming) (hfinished : run.finished = true) :
    Accounts ledger learned frame run.drained submitted submitted ∧
      ledger.pending run.drained.analyzer = [] := by
  cases hdrain : streaming.drain run.analyzer with
  | mk analyses device' =>
  obtain ⟨hempty, hanswers⟩ := (hbackend.streaming streaming hstreaming).drain _ _ _ hdrain
  obtain ⟨hcounters, hpending, hlearned⟩ :=
    foldl_account analyses { run with analyzer := device' } hbackend
  rw [h.learned] at hanswers
  obtain ⟨hsum, hlast⟩ := answers_counters h.pending hanswers.symm
  simp only [BenchmarkRun.drained, hstreaming, hfinished, if_true, hdrain]
  refine ⟨⟨?_, ?_, ?_⟩, hpending.trans hempty⟩
  · rw [hcounters, ← hsum, ← h.counters]
    rfl
  · rw [hlearned, ← hlast]
  · rw [hpending]
    show HoldFrames frame (ledger.pending device') submitted submitted
    rw [hempty]
    rfl

/-! ## Runs -/

/-- A run between two batches. A device that does not stream owes nothing. -/
structure Sliced (ledger : Ledger β) (learned : List MacAddress) (frame : UInt64 → Bytes)
    (run : BenchmarkRun β τ) : Prop extends Sized run where
  backend : AnswersLikeCpu run.backend ledger
  fill : FillsBySequence run.source.fill frame
  size : ∀ sequence, (frame sequence).length = run.config.traffic.frameSize.toNat
  short : run.config.traffic.frameSize.toNat ≤ 65535
  fits : run.config.batchSize.toNat * run.config.traffic.frameSize.toNat ≤ 4294967295
  accounts : ∃ accounted, Accounts ledger learned frame run accounted run.completedPackets.toNat
  settled : run.backend.streaming = none → ledger.pending run.analyzer = []

/-- What a batch or a slice has to establish anew. -/
theorem Sliced.kept (h : Sliced ledger learned frame run) {run' : BenchmarkRun β τ}
    (hsized : Sized run') (hconfig : run'.config = run.config) (hbackend : run'.backend = run.backend)
    (hfill : run'.source.fill = run.source.fill)
    (haccounts : ∃ accounted, Accounts ledger learned frame run' accounted run'.completedPackets.toNat)
    (hsettled : run.backend.streaming = none → ledger.pending run'.analyzer = []) :
    Sliced ledger learned frame run' where
  toSized := hsized
  backend := by rw [hbackend]; exact h.backend
  fill := by rw [hfill]; exact h.fill
  size := by rw [hconfig]; exact h.size
  short := by rw [hconfig]; exact h.short
  fits := by rw [hconfig]; exact h.fits
  accounts := haccounts
  settled := by rw [hbackend]; exact hsettled

/-- The next batch holds the frames that follow. -/
theorem Sliced.filled (h : Sliced ledger learned frame run) {current : UInt64}
    (hcurrent : current.toNat ≤ run.config.batchSize.toNat) :
    ∃ batch, PacketBatch.create
        ((run.source.fill run.source.source run.completedPackets current).1.map
          fun bytes => ({ bytes } : PacketView)) 0 = .ok batch ∧
      batch.Holds (frameViews frame run.completedPackets.toNat current.toNat) := by
  have hviews : ((run.source.fill run.source.source run.completedPackets current).1.map
      fun bytes => ({ bytes } : PacketView)) =
        frameViews frame run.completedPackets.toNat current.toNat := by
    rw [h.fill, frameViews, List.map_map]
    refine List.map_congr_left fun index _ => ?_
    rw [Function.comp_apply, UInt64.ofNat_add, UInt64.ofNat_toNat]
  have hshort : ∀ packet ∈ frameViews frame run.completedPackets.toNat current.toNat,
      packet.bytes.length ≤ 65535 := by
    intro packet hpacket
    obtain ⟨index, -, rfl⟩ := List.mem_map.mp hpacket
    exact (h.size _).trans_le h.short
  have hfits : ((frameViews frame run.completedPackets.toNat current.toNat).flatMap
      PacketView.bytes).length ≤ 4294967295 := by
    rw [length_frameViews_bytes h.size]
    exact (Nat.mul_le_mul_right _ hcurrent).trans h.fits
  rw [hviews]
  obtain ⟨batch, hbatch⟩ := PacketBatch.create_fits hshort hfits 0
  exact ⟨batch, hbatch, PacketBatch.holds_create hbatch⟩

/-- **One batch**: it can be built, and is counted now or later. -/
theorem Sliced.advanceBatch (h : Sliced ledger learned frame run) (hleft : run.finished = false)
    (latencyNs : UInt64) :
    ∃ current run', run.advanceBatch latencyNs = (true, current, run') ∧
      Turned run current.toNat run' ∧ Sliced ledger learned frame run' := by
  obtain ⟨-, hsize, -⟩ := h.toSized.current hleft
  generalize hcurrent : min run.config.batchSize
    (run.config.packetCount - run.completedPackets) = current at hsize
  obtain ⟨batch, hcreate, hholds⟩ := h.filled hsize
  obtain ⟨accounted, haccounts⟩ := h.accounts
  have hturned := advanceBatch_turned h.toSized hleft latencyNs
  -- Once the batch is with the device, whatever it has answered by now.
  have hturn : ∀ analysed : BenchmarkRun β τ,
      run.advanceBatch latencyNs = (true, current,
        { analysed with completedPackets := analysed.completedPackets + current }) →
      (∃ accounted', Accounts ledger learned frame analysed accounted'
        (run.completedPackets.toNat + current.toNat)) →
      (run.backend.streaming = none → ledger.pending analysed.analyzer = []) →
        ∃ current' run', run.advanceBatch latencyNs = (true, current', run') ∧
          Turned run current'.toNat run' ∧ Sliced ledger learned frame run' := by
    intro analysed heq ⟨accounted', haccounts'⟩ hsettled
    rw [heq] at hturned
    obtain ⟨current', run', hrun, hturned⟩ | ⟨run', hrun, -⟩ := hturned
    · obtain ⟨-, hrun⟩ := Prod.mk.inj hrun
      obtain ⟨rfl, rfl⟩ := Prod.mk.inj hrun
      refine ⟨current, _, heq, hturned, h.kept (hturned.sized h.toSized) hturned.config
        hturned.backend hturned.fill ⟨accounted', haccounts'.counters, haccounts'.learned, ?_⟩
        hsettled⟩
      rw [hturned.completed]
      exact haccounts'.pending
    · exact absurd (Prod.mk.inj hrun).1 (by decide)
  cases hfilled : run.source.fill run.source.source run.completedPackets current with
  | mk frames source' =>
  rw [hfilled] at hcreate
  cases hstreaming : run.backend.streaming with
  | some streaming =>
      obtain ⟨hpending, hlearned⟩ :=
        (h.backend.streaming streaming hstreaming).submit run.analyzer batch
      have hsubmitted : Accounts ledger learned frame
          { run with
            source := { run.source with source := source' }
            analyzer := streaming.submit run.analyzer batch }
          accounted (run.completedPackets.toNat + current.toNat) := by
        refine ⟨haccounts.counters, hlearned.trans haccounts.learned, ?_⟩
        show HoldFrames frame (ledger.pending (streaming.submit run.analyzer batch)) _ _
        rw [hpending]
        exact haccounts.pending.append hholds
      have haccounts' := hsubmitted.collect h.backend hstreaming
        (streaming.inFlight (streaming.submit run.analyzer batch) + 1)
      refine hturn _ ?_ haccounts' fun hnone => ?_
      · simp only [BenchmarkRun.advanceBatch, hcurrent, hfilled, hcreate, hstreaming]
      · rw [hstreaming] at hnone
        contradiction
  | none =>
      cases hanalyze : run.backend.analyze run.analyzer batch with
      | mk analysis device' =>
      obtain ⟨hpending, hanswer⟩ := h.backend.analyze hstreaming _ _ _ _ hanalyze
      have hnothing : ledger.pending run.analyzer = [] := h.settled hstreaming
      have hfollows := haccounts.pending.append hholds
      rw [hnothing, List.nil_append] at hfollows
      rw [haccounts.learned] at hanswer
      have hcounters : ({ run with
          source := { run.source with source := source' }
          analyzer := device'
          analysisLatencyNs := run.analysisLatencyNs ++ [latencyNs] } : BenchmarkRun β τ).counters =
            (framesAnalysis learned frame accounted).1.counters := haccounts.counters
      have hfollows' : HoldFrames frame (batch :: ledger.pending device') accounted
          (run.completedPackets.toNat + current.toNat) := by
        rw [hpending, hnothing]
        exact hfollows
      have haccounts' := Accounts.account hcounters h.backend hfollows' hanswer
      have hsettled : ∀ measured : BenchmarkRun β τ, measured.backend = run.backend →
          measured.analyzer = device' → ledger.pending (measured.account analysis).analyzer = [] := by
        intro measured hbackend hanalyzer
        rw [(account_ledger (by rw [hbackend]; exact h.backend) analysis).1, hanalyzer, hpending,
          hnothing]
      refine hturn _ ?_ haccounts' fun _ => hsettled _ rfl rfl
      simp only [BenchmarkRun.advanceBatch, hcurrent, hfilled, hcreate, hstreaming, hanalyze]

/-- A run between two slices: one that is finished is owed nothing. -/
structure Between (ledger : Ledger β) (learned : List MacAddress) (frame : UInt64 → Bytes)
    (run : BenchmarkRun β τ) : Prop extends Sliced ledger learned frame run where
  owed : run.finished = true → ledger.pending run.analyzer = []

/-- What is due at the end of a run is counted, and the run can be advanced again. -/
theorem Sliced.drained (h : Sliced ledger learned frame run) (elapsedNs : UInt64) :
    Between ledger learned frame { run.drained with elapsedNs } := by
  have hsame := drained_same run
  obtain ⟨accounted, haccounts⟩ := h.accounts
  have haccounts' : (∃ accounted', Accounts ledger learned frame run.drained accounted'
      run.completedPackets.toNat) ∧
      (run.backend.streaming = none ∨ run.finished = true →
        ledger.pending run.drained.analyzer = []) := by
    cases hstreaming : run.backend.streaming with
    | none =>
        have heq : run.drained = run := by rw [BenchmarkRun.drained, hstreaming]
        rw [heq]
        exact ⟨⟨accounted, haccounts⟩, fun _ => h.settled hstreaming⟩
    | some streaming =>
        cases hfinished : run.finished with
        | false =>
            have heq : run.drained = run := by
              rw [BenchmarkRun.drained, hstreaming, hfinished]
              rfl
            rw [heq]
            refine ⟨⟨accounted, haccounts⟩, ?_⟩
            rintro (hnone | hdone) <;> contradiction
        | true =>
            obtain ⟨hall, hempty⟩ := haccounts.drained h.backend hstreaming hfinished
            exact ⟨⟨_, hall⟩, fun _ => hempty⟩
  obtain ⟨⟨accounted', hcounters, hlearned, hpending⟩, howed⟩ := haccounts'
  obtain ⟨hpositive, hcompleted⟩ := hsame.sized h.toSized
  refine ⟨h.kept ⟨hpositive, hcompleted⟩ hsame.config hsame.backend hsame.fill
    ⟨accounted', hcounters, hlearned, ?_⟩ fun hnone => howed (.inl hnone), fun hdone => ?_⟩
  · show HoldFrames frame _ accounted' run.drained.completedPackets.toNat
    rw [hsame.completedPackets]
    exact hpending
  · exact howed (.inr (hsame.finished.symm.trans hdone))

/-- **One slice** makes progress, within a batch of its budget. -/
theorem Between.advance {latencyNs : Nat → UInt64} {sliceNs maxPackets : UInt64}
    (h : Between ledger learned frame run) (hleft : run.finished = false)
    (hbudget : 0 < maxPackets.toNat) :
    ∃ completed run', run.advance latencyNs sliceNs maxPackets = (completed, run') ∧
      Between ledger learned frame run' ∧ run'.config = run.config ∧
      0 < completed.toNat ∧ completed.toNat < maxPackets.toNat + run.config.batchSize.toNat ∧
      (run'.finished = true ∨ maxPackets.toNat ≤ completed.toNat) ∧
      run'.completedPackets.toNat = run.completedPackets.toNat + completed.toNat := by
  have hloop : ∃ completed looped,
      BenchmarkRun.advanceLoop latencyNs maxPackets maxPackets.toNat 0 run = (completed, looped) ∧
        (Sliced ledger learned frame looped ∧ looped.config = run.config ∧
          completed.toNat < maxPackets.toNat + run.config.batchSize.toNat ∧
          looped.completedPackets.toNat = run.completedPackets.toNat + completed.toNat) ∧
        (looped.finished = true ∨ maxPackets.toNat ≤ completed.toNat) := by
    refine advanceLoop_rule (P := fun here middle => Sliced ledger learned frame middle ∧
      middle.config = run.config ∧ here.toNat < maxPackets.toNat + run.config.batchSize.toNat ∧
      middle.completedPackets.toNat = run.completedPackets.toNat + here.toNat)
      ?_ ?_ ?_ ?_ ⟨h.toSliced, rfl, Nat.lt_add_right _ hbudget, rfl⟩ hleft hbudget (Nat.sub_le _ _)
    · rintro here middle ⟨hsliced, -, -, hcompleted⟩
      exact ⟨hsliced.toSized, by omega⟩
    · rintro here middle _ current run' ⟨hsliced, hconfig, -, hcompleted⟩ hunfinished hhere heq
        hturned hsum
      obtain ⟨current', run'', heq', -, hsliced'⟩ := hsliced.advanceBatch hunfinished _
      rw [heq] at heq'
      obtain ⟨rfl, rfl⟩ := Prod.mk.inj (Prod.mk.inj heq').2
      have hbatch := hturned.batch
      have hcompleted' := hturned.completed
      rw [hconfig] at hbatch
      exact ⟨hsliced', hturned.config.trans hconfig, by omega, by omega⟩
    · rintro here middle _ run' ⟨hsliced, -, -, -⟩ hunfinished heq -
      obtain ⟨current', run'', heq', -⟩ := hsliced.advanceBatch hunfinished _
      rw [heq] at heq'
      exact absurd (Prod.mk.inj heq').1 (by decide)
    · exact fun here middle hmiddle hend => ⟨hmiddle, hend⟩
  obtain ⟨completed, looped, hloop, ⟨hsliced, hconfig, hover, hcompleted⟩, hend⟩ := hloop
  have hsame := drained_same looped
  refine ⟨completed, _, advance_eq hleft hbudget hloop, hsliced.drained _,
    hsame.config.trans hconfig, ?_, hover, hend.imp_left hsame.finished.trans, ?_⟩
  · -- A slice that has done nothing has not come to the end either.
    by_contra hnone
    rcases hend with hfinished | hspent
    · rw [finished_eq_false] at hleft
      rw [finished_eq_true, hconfig] at hfinished
      omega
    · omega
  · exact (congrArg UInt64.toNat hsame.completedPackets).trans hcompleted

/-- A run that is finished has counted every frame. -/
theorem Between.final (h : Between ledger learned frame run) (hfinished : run.finished = true) :
    run.counters = (framesAnalysis learned frame run.config.packetCount.toNat).1.counters := by
  obtain ⟨accounted, hcounters, -, hpending⟩ := h.accounts
  rw [h.owed hfinished] at hpending
  obtain rfl : accounted = run.completedPackets.toNat := hpending
  rw [hcounters, le_antisymm h.completed ((finished_eq_true run).mp hfinished)]

end

end WireLab
