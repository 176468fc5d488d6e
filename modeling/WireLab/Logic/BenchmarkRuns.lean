import WireLab.Model.Benchmark

/-!
# How far a benchmark run goes

What holds of every device and every source of frames: counting changes no progress
(`SameRun`), a batch takes a run one batch on or ends it (`advanceBatch_turned`), and a
slice within its run's packets takes as long as it is measured (`advance_counts`).
-/

namespace WireLab

open Base

variable {β τ : Type}

/-- What a run keeps whatever it counts. -/
structure SameRun (run run' : BenchmarkRun β τ) : Prop where
  config : run'.config = run.config
  backend : run'.backend = run.backend
  fill : run'.source.fill = run.source.fill
  completedPackets : run'.completedPackets = run.completedPackets
  elapsedNs : run'.elapsedNs = run.elapsedNs

theorem SameRun.trans {first second third : BenchmarkRun β τ} (h : SameRun first second)
    (h' : SameRun second third) : SameRun first third :=
  ⟨h'.config.trans h.config, h'.backend.trans h.backend, h'.fill.trans h.fill,
    h'.completedPackets.trans h.completedPackets, h'.elapsedNs.trans h.elapsedNs⟩

/-- The device of a run, and what its last look at a device has told, do not matter. -/
theorem SameRun.ofAnalyzer {run run' : BenchmarkRun β τ} {analyzer : β}
    (h : SameRun { run with analyzer } run') : SameRun run run' :=
  ⟨h.config, h.backend, h.fill, h.completedPackets, h.elapsedNs⟩

theorem account_same (run : BenchmarkRun β τ) (analysis : AnalysisBatch) :
    SameRun run (run.account analysis) := by
  dsimp only [BenchmarkRun.account]
  cases run.backend.timing with
  | none => exact ⟨rfl, rfl, rfl, rfl, rfl⟩
  | some timing => exact ⟨rfl, rfl, rfl, rfl, rfl⟩

theorem foldl_account_same (analyses : List AnalysisBatch) (run : BenchmarkRun β τ) :
    SameRun run (analyses.foldl BenchmarkRun.account run) := by
  induction analyses generalizing run with
  | nil => exact ⟨rfl, rfl, rfl, rfl, rfl⟩
  | cons analysis analyses ih => exact (account_same run analysis).trans (ih _)

theorem collect_same (streaming : StreamingPacketAnalyzer β) (fuel : Nat) (run : BenchmarkRun β τ) :
    SameRun run (BenchmarkRun.collect streaming fuel run) := by
  induction fuel generalizing run with
  | zero => exact ⟨rfl, rfl, rfl, rfl, rfl⟩
  | succ fuel ih =>
      rw [BenchmarkRun.collect]
      split
      · exact ⟨rfl, rfl, rfl, rfl, rfl⟩
      · exact ((account_same _ _).trans (ih _)).ofAnalyzer

theorem finished_eq_false (run : BenchmarkRun β τ) :
    run.finished = false ↔ run.completedPackets.toNat < run.config.packetCount.toNat := by
  rw [BenchmarkRun.finished, decide_eq_false_iff_not, ge_iff_le, UInt64.le_iff_toNat_le, not_le]

theorem finished_eq_true (run : BenchmarkRun β τ) :
    run.finished = true ↔ run.config.packetCount.toNat ≤ run.completedPackets.toNat := by
  rw [BenchmarkRun.finished, decide_eq_true_eq, ge_iff_le, UInt64.le_iff_toNat_le]

/-- A run that `create` could have built, at its end or before it. -/
structure Sized (run : BenchmarkRun β τ) : Prop where
  positive : 0 < run.config.batchSize.toNat
  completed : run.completedPackets.toNat ≤ run.config.packetCount.toNat

theorem SameRun.sized {run run' : BenchmarkRun β τ} (h : SameRun run run') (hsized : Sized run) :
    Sized run' where
  positive := by rw [h.config]; exact hsized.positive
  completed := by rw [h.config, h.completedPackets]; exact hsized.completed

theorem SameRun.finished {run run' : BenchmarkRun β τ} (h : SameRun run run') :
    run'.finished = run.finished := by
  rw [BenchmarkRun.finished, BenchmarkRun.finished, h.completedPackets, h.config]

/-- How far one batch takes a run. -/
structure Turned (run : BenchmarkRun β τ) (current : Nat) (run' : BenchmarkRun β τ) : Prop where
  config : run'.config = run.config
  backend : run'.backend = run.backend
  fill : run'.source.fill = run.source.fill
  elapsedNs : run'.elapsedNs = run.elapsedNs
  completed : run'.completedPackets.toNat = run.completedPackets.toNat + current
  positive : 0 < current
  batch : current ≤ run.config.batchSize.toNat
  left : run'.completedPackets.toNat ≤ run.config.packetCount.toNat

section
variable {run : BenchmarkRun β τ}

theorem Turned.sized {current : Nat} {run' : BenchmarkRun β τ} (h : Turned run current run')
    (hsized : Sized run) : Sized run' where
  positive := by rw [h.config]; exact hsized.positive
  completed := by rw [h.config]; exact h.left

/-- The size of the next batch. -/
theorem Sized.current (h : Sized run) (hleft : run.finished = false) :
    let current := min run.config.batchSize (run.config.packetCount - run.completedPackets)
    0 < current.toNat ∧ current.toNat ≤ run.config.batchSize.toNat ∧
      run.completedPackets.toNat + current.toNat ≤ run.config.packetCount.toNat := by
  rw [finished_eq_false] at hleft
  have hpositive := h.positive
  have hremaining := UInt64.toNat_sub_of_le _ _ (UInt64.le_iff_toNat_le.mpr h.completed)
  simp only [UInt64.toNat_min, hremaining]
  omega

/-- A run whose batch could not be built has come to its end. -/
structure GivenUp (run run' : BenchmarkRun β τ) : Prop where
  config : run'.config = run.config
  backend : run'.backend = run.backend
  elapsedNs : run'.elapsedNs = run.elapsedNs
  completed : run'.completedPackets = run.config.packetCount

/-- **One batch**, if it can be built. -/
theorem advanceBatch_turned (h : Sized run) (hleft : run.finished = false) (latencyNs : UInt64) :
    (∃ current run', run.advanceBatch latencyNs = (true, current, run') ∧
      Turned run current.toNat run') ∨
    ∃ run', run.advanceBatch latencyNs = (false, 0, run') ∧ GivenUp run run' := by
  obtain ⟨hpositive, hbatch, hroom⟩ := h.current hleft
  generalize hcurrent : min run.config.batchSize
    (run.config.packetCount - run.completedPackets) = current at hpositive hbatch hroom
  -- Whatever was counted by the way.
  have hcount : ∀ analysed : BenchmarkRun β τ, SameRun run analysed →
      Turned run current.toNat
        { analysed with completedPackets := analysed.completedPackets + current } := by
    intro analysed hsame
    have hcompleted : (analysed.completedPackets + current).toNat =
        run.completedPackets.toNat + current.toNat := by
      have := run.config.packetCount.toNat_lt
      rw [hsame.completedPackets, UInt64.toNat_add, Nat.mod_eq_of_lt (by omega)]
    exact ⟨hsame.config, hsame.backend, hsame.fill, hsame.elapsedNs, hcompleted, hpositive, hbatch,
      hcompleted.trans_le hroom⟩
  cases hfilled : run.source.fill run.source.source run.completedPackets current with
  | mk frames source =>
  cases hcreate : PacketBatch.create (frames.map fun bytes => ({ bytes } : PacketView)) 0 with
  | error e =>
      simp only [BenchmarkRun.advanceBatch, hcurrent, hfilled, hcreate]
      exact .inr ⟨_, rfl, rfl, rfl, rfl, rfl⟩
  | ok batch =>
      cases hstreaming : run.backend.streaming with
      | some streaming =>
          simp only [BenchmarkRun.advanceBatch, hcurrent, hfilled, hcreate, hstreaming]
          refine .inl ⟨current, _, rfl, hcount _ ?_⟩
          obtain ⟨hconfig, hbackend, hfill, hcompleted, helapsed⟩ := collect_same streaming
            (streaming.inFlight (streaming.submit run.analyzer batch) + 1)
            { run with
              source := { run.source with source }
              analyzer := streaming.submit run.analyzer batch }
          exact ⟨hconfig, hbackend, hfill, hcompleted, helapsed⟩
      | none =>
          simp only [BenchmarkRun.advanceBatch, hcurrent, hfilled, hcreate, hstreaming]
          refine .inl ⟨current, _, rfl, hcount _ ?_⟩
          obtain ⟨hconfig, hbackend, hfill, hcompleted, helapsed⟩ := account_same _ _
          exact ⟨hconfig, hbackend, hfill, hcompleted, helapsed⟩

end

/-! ## Slices -/

/-- **The rule of a slice's batches.** `P` holds with the packets completed so far in front
of every batch, and `Q` when the last one is done or could not be built. -/
theorem advanceLoop_rule {latencyNs : Nat → UInt64} {maxPackets : UInt64}
    {P Q : UInt64 → BenchmarkRun β τ → Prop}
    (hsized : ∀ here run, P here run → Sized run ∧ here.toNat ≤ run.completedPackets.toNat)
    (hbatch : ∀ here run latencyNs current run', P here run → run.finished = false →
      here.toNat < maxPackets.toNat → run.advanceBatch latencyNs = (true, current, run') →
      Turned run current.toNat run' → (here + current).toNat = here.toNat + current.toNat →
        P (here + current) run')
    (hbroken : ∀ here run latencyNs run', P here run → run.finished = false →
      run.advanceBatch latencyNs = (false, 0, run') → GivenUp run run' → Q here run')
    (hdone : ∀ here run, P here run → run.finished = true ∨ maxPackets.toNat ≤ here.toNat →
      Q here run)
    {fuel : Nat} {here : UInt64} {run : BenchmarkRun β τ} (h : P here run)
    (hleft : run.finished = false) (hhere : here.toNat < maxPackets.toNat)
    (hfuel : maxPackets.toNat - here.toNat ≤ fuel) :
    ∃ completed run', BenchmarkRun.advanceLoop latencyNs maxPackets fuel here run = (completed, run') ∧
      Q completed run' := by
  induction fuel generalizing here run with
  | zero => omega
  | succ fuel ih =>
      obtain ⟨hrun, hbefore⟩ := hsized here run h
      rcases advanceBatch_turned hrun hleft (latencyNs fuel) with
        ⟨current, run', heq, hturned⟩ | ⟨run', heq, hgivenUp⟩
      · have hsum : (here + current).toNat = here.toNat + current.toNat := by
          have := hturned.completed
          have := hturned.left
          have := run.config.packetCount.toNat_lt
          rw [UInt64.toNat_add, Nat.mod_eq_of_lt (by omega)]
        have hnext := hbatch here run _ current run' h hleft hhere heq hturned hsum
        have hpositive := hturned.positive
        simp only [BenchmarkRun.advanceLoop, heq]
        split
        · next hagain =>
          obtain ⟨hmore, hunfinished⟩ := hagain
          exact ih hnext (by simpa using hunfinished) (UInt64.lt_iff_toNat_lt.mp hmore) (by omega)
        · next hstop =>
          refine ⟨_, run', rfl, hdone _ run' hnext ?_⟩
          rw [UInt64.lt_iff_toNat_lt] at hstop
          cases hfinished : run'.finished with
          | true => exact .inl rfl
          | false => exact .inr (not_lt.mp fun hmore => hstop ⟨hmore, by simp [hfinished]⟩)
      · simp only [BenchmarkRun.advanceLoop, heq]
        exact ⟨here, run', rfl, hbroken here run _ run' h hleft heq hgivenUp⟩

/-- A run once the answers that are due at its end are counted. -/
def BenchmarkRun.drained (run : BenchmarkRun β τ) : BenchmarkRun β τ :=
  match run.backend.streaming with
  | some streaming =>
      if run.finished then
        let (analyses, analyzer) := streaming.drain run.analyzer
        analyses.foldl account { run with analyzer }
      else run
  | none => run

theorem drained_same (run : BenchmarkRun β τ) : SameRun run run.drained := by
  rw [BenchmarkRun.drained]
  split
  · split
    · exact (foldl_account_same _ _).ofAnalyzer
    · exact ⟨rfl, rfl, rfl, rfl, rfl⟩
  · exact ⟨rfl, rfl, rfl, rfl, rfl⟩

section
variable {run : BenchmarkRun β τ} {latencyNs : Nat → UInt64} {sliceNs maxPackets : UInt64}

/-- A slice with something to do. -/
theorem advance_eq (hleft : run.finished = false) (hbudget : 0 < maxPackets.toNat)
    {completed : UInt64} {looped : BenchmarkRun β τ}
    (hloop : BenchmarkRun.advanceLoop latencyNs maxPackets maxPackets.toNat 0 run =
      (completed, looped)) :
    run.advance latencyNs sliceNs maxPackets =
      (completed, { looped.drained with elapsedNs := looped.elapsedNs + sliceNs }) := by
  have hrun : ¬ (maxPackets = 0 ∨ run.finished = true) := by
    rintro (rfl | hfinished)
    · exact absurd hbudget (by decide)
    · rw [hleft] at hfinished
      contradiction
  rw [← (drained_same looped).elapsedNs]
  rw [BenchmarkRun.advance, if_neg hrun, hloop]
  rfl

variable (latencyNs sliceNs) in
/-- **A slice stays within its run**, and either gets on or ends it. -/
theorem advance_counts (h : Sized run) (hleft : run.finished = false)
    (hbudget : 0 < maxPackets.toNat) :
    ∃ advanced run', run.advance latencyNs sliceNs maxPackets = (advanced, run') ∧
      Sized run' ∧ run'.config = run.config ∧ run'.elapsedNs = run.elapsedNs + sliceNs ∧
      run.completedPackets.toNat < run'.completedPackets.toNat ∧
      (advanced = 0 → run'.finished = true) := by
  have hunfinished := (finished_eq_false run).mp hleft
  have hloop : ∃ completed looped,
      BenchmarkRun.advanceLoop latencyNs maxPackets maxPackets.toNat 0 run = (completed, looped) ∧
        Sized looped ∧ looped.config = run.config ∧ looped.elapsedNs = run.elapsedNs ∧
        run.completedPackets.toNat < looped.completedPackets.toNat ∧
        (completed = 0 → looped.finished = true) := by
    -- the loop counts what it completes, and nothing else of the run moves
    refine advanceLoop_rule (P := fun here run' => Sized run' ∧ run'.config = run.config ∧
      run'.elapsedNs = run.elapsedNs ∧
      run'.completedPackets.toNat = run.completedPackets.toNat + here.toNat)
      ?_ ?_ ?_ ?_ ⟨h, rfl, rfl, rfl⟩ hleft hbudget (Nat.sub_le _ _)
    · rintro here middle ⟨hsized, -, -, hcompleted⟩
      exact ⟨hsized, by omega⟩
    · rintro here middle _ current run' ⟨hsized, hconfig, helapsed, hcompleted⟩ - - - hturned hsum
      have hcompleted' := hturned.completed
      exact ⟨hturned.sized hsized, hturned.config.trans hconfig, hturned.elapsedNs.trans helapsed,
        by omega⟩
    · rintro here middle _ run' ⟨hsized, hconfig, helapsed, hcompleted⟩ - - hgivenUp
      have hall : run'.completedPackets.toNat = run'.config.packetCount.toNat := by
        rw [hgivenUp.completed, hgivenUp.config]
      have hmiddle := hsized.completed
      rw [hconfig] at hmiddle
      rw [hgivenUp.config, hconfig] at hall
      refine ⟨⟨?_, ?_⟩, hgivenUp.config.trans hconfig, hgivenUp.elapsedNs.trans helapsed, by omega,
        fun _ => ?_⟩
      · rw [hgivenUp.config]; exact hsized.positive
      · rw [hgivenUp.config, hconfig]; exact hall.le
      · rw [finished_eq_true, hgivenUp.config, hconfig]; exact hall.ge
    · rintro here middle ⟨hsized, hconfig, helapsed, hcompleted⟩ hend
      refine ⟨hsized, hconfig, helapsed, ?_, ?_⟩
      · rcases hend with hfinished | hspent
        · rw [finished_eq_true, hconfig] at hfinished
          omega
        · omega
      · rintro rfl
        exact hend.resolve_right (not_le.mpr hbudget)
  obtain ⟨completed, looped, hloop, hsized, hconfig, helapsed, hprogress, hend⟩ := hloop
  have hsame := drained_same looped
  refine ⟨completed, _, advance_eq hleft hbudget hloop, ?_, hsame.config.trans hconfig, ?_, ?_,
    fun hnone => hsame.finished.trans (hend hnone)⟩
  · obtain ⟨hpositive, hcompleted⟩ := hsame.sized hsized
    exact ⟨hpositive, hcompleted⟩
  · rw [helapsed]
  · show _ < looped.drained.completedPackets.toNat
    rw [hsame.completedPackets]
    exact hprogress

/-- What keeps `create` from returning is the allocator. -/
theorem create_threw {allocates : Nat → Bool} {config : BenchmarkConfig}
    {factory : Option (BenchmarkBackendFactory β)} {traffic : Option (TrafficSourceFactory τ)}
    (h : BenchmarkRun.create allocates config factory traffic = none) :
    config.packetCount ≠ 0 ∧ allocates (BenchmarkRun.reservedLatencies config).toNat = false := by
  have hcounts : ¬(config.packetCount = 0 ∨ config.batchSize = 0) := by
    intro hcounts
    simp only [BenchmarkRun.create, if_pos hcounts, reduceCtorEq] at h
  refine ⟨fun hzero => hcounts (.inl hzero), ?_⟩
  cases hallocates : allocates (BenchmarkRun.reservedLatencies config).toNat with
  | false => rfl
  | true =>
      simp only [BenchmarkRun.create, hallocates, if_true] at h
      repeat' split at h
      all_goals cases h

/-- What `create` has checked of a run it builds. -/
theorem create_ok {allocates : Nat → Bool} {config : BenchmarkConfig}
    {factory : BenchmarkBackendFactory β} {traffic : TrafficSourceFactory τ}
    (h : BenchmarkRun.create allocates config (some factory) (some traffic) = some (.ok run)) :
    config.packetCount ≠ 0 ∧ config.batchSize ≠ 0 ∧ config.traffic.frameSize ≤ maxBenchmarkFrameSize ∧
      config.batchSize ≤ .ofNat (2 ^ 32 - 1) / config.traffic.frameSize ∧
      ∃ backend analyzer source, factory config = .ok backend ∧ backend.analyzer = some analyzer ∧
        traffic config = .ok (some source) ∧ run = { config, backend, analyzer, source } := by
  unfold BenchmarkRun.create at h
  split at h
  · simp at h
  next hcounts =>
  split at h
  · simp at h
  next hsize =>
  split at h
  · simp at h
  split at h
  · simp at h
  next hbatch =>
  rw [not_or] at hcounts hsize
  refine ⟨hcounts.1, hcounts.2, UInt64.not_lt.mp hsize.2, UInt64.not_lt.mp hbatch, ?_⟩
  dsimp only at h
  cases hfactory : factory config with
  | error e => rw [hfactory] at h; simp at h
  | ok backend =>
  rw [hfactory] at h
  dsimp only at h
  cases hanalyzer : backend.analyzer with
  | none => rw [hanalyzer] at h; simp at h
  | some analyzer =>
  rw [hanalyzer] at h
  dsimp only at h
  cases htraffic : traffic config with
  | error e => rw [htraffic] at h; simp at h
  | ok source =>
  cases source with
  | none => rw [htraffic] at h; simp at h
  | some source =>
  rw [htraffic] at h
  dsimp only at h
  split at h
  · exact ⟨backend, analyzer, source, rfl, hanalyzer, rfl,
      (Except.ok.inj (Option.some.inj h)).symm⟩
  · simp at h

end

end WireLab
