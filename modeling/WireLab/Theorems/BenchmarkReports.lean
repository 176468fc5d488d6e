import WireLab.Logic.BenchmarkRuns
import WireLab.Logic.SessionRuns

/-!
# Benchmark reports

A report measures the backends of its queue one after the other, and passes those
that no run can be built for. However its calls fall between the others of a session,
what it has completed is its share of the queue (`Reached`): it ends, with all of the
work accounted for and one row for each backend that a run was built for
(`report_accounted`).
-/

namespace WireLab

open Base

variable {δ β τ : Type}

namespace BenchmarkReport

/-- A run can be built for a backend. -/
def creates (env : SessionEnvironment δ β τ) (config : BenchmarkConfig) (label : Bytes) : Bool :=
  match BenchmarkRun.create env.allocates
    { config with backend := SessionDetail.benchmarkBackendId label }
    (some env.benchmarkFactory) (some env.trafficFactory) with
  | some (.ok _) => true
  | _ => false

/-- The ids of the backends that runs can be built for, among some labels. -/
def measurable (env : SessionEnvironment δ β τ) (config : BenchmarkConfig) (labels : List Bytes) :
    List Bytes :=
  (labels.filter (creates env config)).map SessionDetail.benchmarkBackendId

/-- What a report has behind it at an index of its queue. -/
structure Reached (env : SessionEnvironment δ β τ) (report : BenchmarkReport β τ) : Prop where
  index_le : report.index ≤ report.queue.length
  total : report.totalPackets.toNat = report.config.packetCount.toNat * report.queue.length
  results : report.results.map BenchmarkResult.backend =
    measurable env report.config (report.queue.take report.index)
  rows : report.rows.map ReportRow.backendId = report.results.map BenchmarkResult.backend

/-- No run is armed. -/
structure Unarmed (env : SessionEnvironment δ β τ) (report : BenchmarkReport β τ) : Prop
    extends Reached env report where
  unarmed : report.run = none
  completed : report.completedPackets.toNat = report.config.packetCount.toNat * report.index

/-- A run is armed, and is not done. -/
structure Armed (env : SessionEnvironment δ β τ) (report : BenchmarkReport β τ)
    (run : BenchmarkRun β τ) : Prop extends Reached env report where
  armed : report.run = some run
  label : ∃ label, report.queue[report.index]? = some label ∧ creates env report.config label ∧
    run.config = { report.config with backend := SessionDetail.benchmarkBackendId label }
  sized : Sized run
  unfinished : run.finished = false
  completed : report.completedPackets.toNat =
    report.config.packetCount.toNat * report.index + run.completedPackets.toNat

/-- What a report keeps from its start to its end. -/
structure SameReport (report report' : BenchmarkReport β τ) : Prop where
  config : report'.config = report.config
  queue : report'.queue = report.queue
  totalPackets : report'.totalPackets = report.totalPackets
  sliceBudget : report'.sliceBudget = report.sliceBudget
  running : report'.running = report.running

theorem SameReport.refl (report : BenchmarkReport β τ) : SameReport report report :=
  ⟨rfl, rfl, rfl, rfl, rfl⟩

theorem SameReport.trans {first second third : BenchmarkReport β τ} (h : SameReport first second)
    (h' : SameReport second third) : SameReport first third :=
  ⟨h'.config.trans h.config, h'.queue.trans h.queue, h'.totalPackets.trans h.totalPackets,
    h'.sliceBudget.trans h.sliceBudget, h'.running.trans h.running⟩

theorem SameReport.progressed {report report' : BenchmarkReport β τ}
    (h : SameReport report report') : SameReport report report'.progressed :=
  ⟨h.config, h.queue, h.totalPackets, h.sliceBudget, h.running⟩

variable {env : SessionEnvironment δ β τ} {report report' : BenchmarkReport β τ}
  {run : BenchmarkRun β τ}

theorem measurable_snoc (config : BenchmarkConfig) (labels : List Bytes) (label : Bytes) :
    measurable env config (labels ++ [label]) =
      measurable env config labels ++
        if creates env config label then [SessionDetail.benchmarkBackendId label] else [] := by
  unfold measurable
  rw [List.filter_append, List.map_append]
  cases hcreates : creates env config label with
  | true => simp [hcreates]
  | false => simp [hcreates]

/-- The share of some backends of a queue stays within the total. -/
theorem Reached.share_le (h : Reached env report) {index : Nat}
    (hindex : index ≤ report.queue.length) :
    report.config.packetCount.toNat * index ≤ report.totalPackets.toNat := by
  rw [h.total]
  exact Nat.mul_le_mul_left _ hindex

theorem Unarmed.completed_le (h : Unarmed env report) :
    report.completedPackets.toNat ≤ report.totalPackets.toNat := by
  rw [h.completed]
  exact h.share_le h.index_le

theorem Armed.index_lt (h : Armed env report run) : report.index < report.queue.length := by
  obtain ⟨label, hlabel, -⟩ := h.label
  exact (List.getElem?_eq_some_iff.mp hlabel).1

theorem Armed.packetCount (h : Armed env report run) :
    run.config.packetCount = report.config.packetCount := by
  obtain ⟨label, -, -, hconfig⟩ := h.label
  rw [hconfig]

theorem Armed.completed_lt (h : Armed env report run) :
    report.completedPackets.toNat < report.totalPackets.toNat := by
  have hleft := (finished_eq_false run).mp h.unfinished
  have hshare := h.share_le (Nat.succ_le_of_lt h.index_lt)
  rw [h.packetCount] at hleft
  rw [Nat.mul_succ] at hshare
  rw [h.completed]
  omega

/-! ## Arming the next backend -/

/-- How arming ends. -/
inductive Arming (env : SessionEnvironment δ β τ) (report : BenchmarkReport β τ) :
    Begun × BenchmarkReport β τ → Prop
  | armed {report' : BenchmarkReport β τ} {run : BenchmarkRun β τ} (h : Armed env report' run)
      (same : SameReport report report')
      (grows : report.completedPackets.toNat ≤ report'.completedPackets.toNat) :
      Arming env report (.armed, report')
  | exhausted {report' : BenchmarkReport β τ} (h : Unarmed env report')
      (last : report'.index = report'.queue.length) (same : SameReport report report')
      (grows : report.completedPackets.toNat ≤ report'.completedPackets.toNat) :
      Arming env report (.exhausted, report')
  | threw {report' : BenchmarkReport β τ} (h : Unarmed env report')
      (left : report'.completedPackets.toNat < report'.totalPackets.toNat)
      (refused : env.allocates (BenchmarkRun.reservedLatencies report.config).toNat = false)
      (same : SameReport report report')
      (grows : report.completedPackets.toNat ≤ report'.completedPackets.toNat) :
      Arming env report (.threw, report')

/-- Arming behind a step that has got somewhere. -/
theorem Arming.after {result : Begun × BenchmarkReport β τ} (h : Arming env report' result)
    (hsame : SameReport report report')
    (hgrows : report.completedPackets.toNat ≤ report'.completedPackets.toNat) :
    Arming env report result := by
  cases h with
  | armed harmed same grows => exact .armed harmed (hsame.trans same) (hgrows.trans grows)
  | exhausted hdone last same grows =>
      exact .exhausted hdone last (hsame.trans same) (hgrows.trans grows)
  | threw hdone left refused same grows =>
      rw [hsame.config] at refused
      exact .threw hdone left refused (hsame.trans same) (hgrows.trans grows)

/-- The share of a backend that no run can be built for counts as done. -/
theorem Unarmed.pass (h : Unarmed env report) {label : Bytes}
    (hlabel : report.queue[report.index]? = some label)
    (hcreates : creates env report.config label = false) :
    let next := { report with
      completedPackets := report.completedPackets + report.config.packetCount
      index := report.index + 1 }
    Unarmed env next ∧ report.completedPackets.toNat ≤ next.completedPackets.toNat := by
  have hindex := (List.getElem?_eq_some_iff.mp hlabel).1
  have hshare := h.share_le (Nat.succ_le_of_lt hindex)
  have htotal := report.totalPackets.toNat_lt
  have hcompleted := h.completed
  rw [Nat.mul_succ] at hshare
  have hsum : (report.completedPackets + report.config.packetCount).toNat =
      report.completedPackets.toNat + report.config.packetCount.toNat := by
    rw [UInt64.toNat_add, Nat.mod_eq_of_lt (by omega)]
  refine ⟨⟨⟨hindex, h.total, ?_, h.rows⟩, h.unarmed, ?_⟩, ?_⟩
  · show report.results.map BenchmarkResult.backend =
      measurable env report.config (report.queue.take (report.index + 1))
    rw [List.take_add_one, hlabel, Option.toList_some, measurable_snoc, hcreates, h.results]
    simp
  · show (report.completedPackets + report.config.packetCount).toNat =
      report.config.packetCount.toNat * (report.index + 1)
    rw [hsum, hcompleted, Nat.mul_succ]
  · show _ ≤ (report.completedPackets + report.config.packetCount).toNat
    omega

theorem beginBackends_arming {labels : List Bytes} (h : Unarmed env report)
    (hlabels : report.queue.drop report.index = labels) :
    Arming env report (beginBackends env labels report) := by
  induction labels generalizing report with
  | nil =>
      have hend : report.index = report.queue.length :=
        le_antisymm h.index_le (List.drop_eq_nil_iff.mp hlabels)
      exact .exhausted h hend (.refl report) le_rfl
  | cons label rest ih =>
      have hlabel : report.queue[report.index]? = some label := by
        rw [← List.head?_drop, hlabels]
        rfl
      have hrest : report.queue.drop (report.index + 1) = rest := by
        rw [← List.tail_drop, hlabels]
        rfl
      unfold beginBackends
      cases hcreate : BenchmarkRun.create env.allocates
          { report.config with backend := SessionDetail.benchmarkBackendId label }
          (some env.benchmarkFactory) (some env.trafficFactory) with
      | none =>
          obtain ⟨hpackets, hrefused⟩ := create_threw hcreate
          have hpackets : report.config.packetCount ≠ 0 := hpackets
          have hleft : report.completedPackets.toNat < report.totalPackets.toNat := by
            have hshare := h.share_le
              (Nat.succ_le_of_lt (List.getElem?_eq_some_iff.mp hlabel).1)
            have hpositive := Nat.pos_of_ne_zero fun hzero => hpackets (UInt64.toNat_inj.mp hzero)
            rw [Nat.mul_succ] at hshare
            rw [h.completed]
            omega
          exact .threw h hleft hrefused (.refl report) le_rfl
      | some result =>
          cases result with
          | error e =>
              have hcreates : creates env report.config label = false := by
                rw [creates, hcreate]
              obtain ⟨hpassed, hgrows⟩ := h.pass hlabel hcreates
              exact (ih hpassed hrest).after ⟨rfl, rfl, rfl, rfl, rfl⟩ hgrows
          | ok run =>
              have hcreates : creates env report.config label = true := by
                rw [creates, hcreate]
              obtain ⟨hpackets, hbatch, -, -, backend, analyzer, source, -, -, -, rfl⟩ :=
                create_ok hcreate
              let config := { report.config with backend := SessionDetail.benchmarkBackendId label }
              let run : BenchmarkRun β τ := { config, backend, analyzer, source }
              refine .armed (?_ : Armed env _ run) ⟨rfl, rfl, rfl, rfl, rfl⟩ le_rfl
              refine ⟨⟨h.index_le, h.total, h.results, h.rows⟩, rfl, ⟨label, hlabel, hcreates, rfl⟩,
                ⟨?_, Nat.zero_le _⟩, ?_, h.completed⟩
              · exact Nat.pos_of_ne_zero fun hzero => hbatch (UInt64.toNat_inj.mp hzero)
              · rw [finished_eq_false]
                exact Nat.pos_of_ne_zero fun hzero => hpackets (UInt64.toNat_inj.mp hzero)

theorem beginNext_arming (h : Unarmed env report) : Arming env report (report.beginNext env) :=
  beginBackends_arming h rfl

/-! ## Steps -/

/-- What is left of a report behind a slice: the run goes on, or it was the last slice and
its result is kept. -/
theorem Armed.advanced (h : Armed env report run) (hbudget : 0 < report.sliceBudget.toNat)
    (latencyNs : Nat → UInt64) (sliceNs : UInt64) :
    let next := report.advanced latencyNs sliceNs run
    SameReport report next ∧ report.completedPackets.toNat < next.completedPackets.toNat ∧
      ((∃ run', Armed env next run') ∨ Unarmed env next) := by
  obtain ⟨moved, run', hadvance, hsized, hconfig, -, hmore, -⟩ :=
    advance_counts latencyNs sliceNs h.sized h.unfinished hbudget
  have hcompleted := h.completed
  have hcount : run'.config.packetCount = report.config.packetCount := by
    rw [hconfig, h.packetCount]
  have hwithin := hsized.completed
  have hshare := h.share_le (Nat.succ_le_of_lt h.index_lt)
  have htotal := report.totalPackets.toNat_lt
  rw [hcount] at hwithin
  rw [Nat.mul_succ] at hshare
  -- The difference is counted exactly.
  have hdifference : (run'.completedPackets - run.completedPackets).toNat =
      run'.completedPackets.toNat - run.completedPackets.toNat :=
    UInt64.toNat_sub_of_le _ _ (UInt64.le_iff_toNat_le.mpr hmore.le)
  have hsum : (report.completedPackets + (run'.completedPackets - run.completedPackets)).toNat =
      report.config.packetCount.toNat * report.index + run'.completedPackets.toNat := by
    rw [UInt64.toNat_add, hdifference, Nat.mod_eq_of_lt (by omega)]
    omega
  obtain ⟨label, hlabel, hcreates, hrun⟩ := h.label
  unfold BenchmarkReport.advanced
  simp only [hadvance]
  split_ifs with hfinished
  · have hall : run'.completedPackets.toNat = report.config.packetCount.toNat := by
      rw [finished_eq_true, hcount] at hfinished
      omega
    refine ⟨⟨rfl, rfl, rfl, rfl, rfl⟩, ?_, .inr ⟨⟨h.index_lt, h.total, ?_, ?_⟩, rfl, ?_⟩⟩
    · show _ < (report.completedPackets + (run'.completedPackets - run.completedPackets)).toNat
      omega
    · show (report.results ++ [run'.result]).map BenchmarkResult.backend =
        measurable env report.config (report.queue.take (report.index + 1))
      rw [List.take_add_one, hlabel, Option.toList_some, measurable_snoc, if_pos hcreates,
        List.map_append, h.results, List.map_singleton]
      show _ ++ [run'.config.backend] = _
      rw [hconfig, hrun]
    · show (rebuildRows _).rows.map ReportRow.backendId = _
      unfold rebuildRows
      rw [List.map_map]
      rfl
    · show (report.completedPackets + (run'.completedPackets - run.completedPackets)).toNat =
        report.config.packetCount.toNat * (report.index + 1)
      rw [hsum, hall, Nat.mul_succ]
  · refine ⟨⟨rfl, rfl, rfl, rfl, rfl⟩, ?_, .inl ⟨run', ⟨h.index_le, h.total, h.results, h.rows⟩,
      rfl, ⟨label, hlabel, hcreates, hconfig.trans hrun⟩, hsized, by simpa using hfinished, hsum⟩⟩
    show _ < (report.completedPackets + (run'.completedPackets - run.completedPackets)).toNat
    omega

/-- A share of the progress is shown. -/
theorem Armed.progressed (h : Armed env report run) : Armed env report.progressed run :=
  ⟨⟨h.index_le, h.total, h.results, h.rows⟩, h.armed, h.label, h.sized, h.unfinished, h.completed⟩

theorem Unarmed.finished (h : Unarmed env report) : Unarmed env report.finished :=
  ⟨⟨h.index_le, h.total, h.results, h.rows⟩, rfl, h.completed⟩

/-- How a step ends: a run goes on or the next one is armed, the report ends, or a
constructor throws. -/
inductive ReportStep (env : SessionEnvironment δ β τ) (report : BenchmarkReport β τ) :
    Completion × BenchmarkReport β τ → Prop
  | went {report' : BenchmarkReport β τ} {run : BenchmarkRun β τ} (h : Armed env report' run)
      (same : SameReport report report')
      (grows : report.completedPackets.toNat < report'.completedPackets.toNat) :
      ReportStep env report (.returned, report')
  | ended {report' : BenchmarkReport β τ} (h : Unarmed env report')
      (last : report'.index = report'.queue.length) (same : SameReport report report')
      (grows : report.completedPackets.toNat ≤ report'.completedPackets.toNat) :
      ReportStep env report (.returned, report'.finished)
  | threw {report' : BenchmarkReport β τ} (h : Unarmed env report')
      (left : report'.completedPackets.toNat < report'.totalPackets.toNat)
      (refused : env.allocates (BenchmarkRun.reservedLatencies report.config).toNat = false)
      (same : SameReport report report')
      (grows : report.completedPackets.toNat ≤ report'.completedPackets.toNat) :
      ReportStep env report (.threw, report')

/-- A step behind the arming of its run. -/
theorem ReportStep.after {result : Completion × BenchmarkReport β τ}
    (h : ReportStep env report' result) (hsame : SameReport report report')
    (hgrows : report.completedPackets.toNat ≤ report'.completedPackets.toNat) :
    ReportStep env report result := by
  cases h with
  | went harmed same grows => exact .went harmed (hsame.trans same) (hgrows.trans_lt grows)
  | ended hdone last same grows =>
      exact .ended hdone last (hsame.trans same) (hgrows.trans grows)
  | threw hdone left refused same grows =>
      rw [hsame.config] at refused
      exact .threw hdone left refused (hsame.trans same) (hgrows.trans grows)

/-- Whatever a report has done: it stands between two runs or in one, and it ends behind
the last of its queue. -/
structure Accounted (env : SessionEnvironment δ β τ) (report : BenchmarkReport β τ) : Prop where
  stands : Unarmed env report ∨ ∃ run, Armed env report run
  going : report.running = true → 0 < report.sliceBudget.toNat ∧
    report.completedPackets.toNat < report.totalPackets.toNat
  ended : report.running = false → Unarmed env report ∧ report.index = report.queue.length

theorem ReportStep.accounted {result : Completion × BenchmarkReport β τ}
    (h : ReportStep env report result) (hgoing : 0 < report.sliceBudget.toNat)
    (hrunning : report.running = true) : Accounted env result.2 := by
  cases h with
  | went harmed same grows =>
      refine ⟨.inr ⟨_, harmed⟩, fun _ => ⟨?_, harmed.completed_lt⟩, fun hended => ?_⟩
      · rw [same.sliceBudget]
        exact hgoing
      · rw [same.running, hrunning] at hended
        contradiction
  | ended hdone last same grows =>
      exact ⟨.inl hdone.finished, fun hrunning => absurd hrunning Bool.false_ne_true,
        fun _ => ⟨hdone.finished, last⟩⟩
  | threw hdone left refused same grows =>
      refine ⟨.inl hdone, fun _ => ⟨?_, left⟩, fun hended => ?_⟩
      · rw [same.sliceBudget]
        exact hgoing
      · rw [same.running, hrunning] at hended
        contradiction

/-- Where a report has been exported to is not accounted for. -/
theorem Accounted.exported (h : Accounted env report) (exportPath : Bytes) :
    Accounted env { report with exportPath } := by
  have hunarmed : Unarmed env report → Unarmed env { report with exportPath } := fun h =>
    ⟨⟨h.index_le, h.total, h.results, h.rows⟩, h.unarmed, h.completed⟩
  refine ⟨h.stands.imp hunarmed ?_, h.going, fun hended => ⟨hunarmed (h.ended hended).1,
    (h.ended hended).2⟩⟩
  rintro ⟨run, h⟩
  exact ⟨run, ⟨h.index_le, h.total, h.results, h.rows⟩, h.armed, h.label, h.sized, h.unfinished,
    h.completed⟩

theorem Accounted.completed_le (h : Accounted env report) :
    report.completedPackets.toNat ≤ report.totalPackets.toNat := by
  rcases h.stands with hunarmed | ⟨run, harmed⟩
  · exact hunarmed.completed_le
  · exact harmed.completed_lt.le

end BenchmarkReport

/-! ## Reports of a session -/

namespace Session

open BenchmarkReport

variable {env : SessionEnvironment δ β τ} {session : Session δ β τ}

/-- **The rest of a step**, behind the armed run. -/
theorem advanceReport_step {run : BenchmarkRun β τ} (h : BenchmarkReport.Armed env session.report run)
    (hbudget : 0 < session.report.sliceBudget.toNat) (latencyNs : Nat → UInt64)
    (sliceNs : UInt64) :
    let result := session.advanceReport env latencyNs sliceNs run
    ReportStep env session.report (result.1, result.2.report) := by
  obtain ⟨hsame, hgrows, hnext⟩ := h.advanced hbudget latencyNs sliceNs
  unfold advanceReport
  simp only
  rcases hnext with ⟨run', hrun⟩ | hunarmed
  · rw [hrun.armed]
    exact .went hrun.progressed hsame.progressed hgrows
  · rw [hunarmed.unarmed]
    have harming := beginNext_arming hunarmed
    generalize (session.report.advanced latencyNs sliceNs run).beginNext env = result at harming
    cases harming with
    | armed harmed same grows =>
        exact .went harmed.progressed (hsame.trans same).progressed (hgrows.trans_le grows)
    | exhausted hdone last same grows =>
        exact .ended hdone last (hsame.trans same) (hgrows.le.trans grows)
    | threw hdone left refused same grows =>
        rw [hsame.config] at refused
        exact .threw hdone left refused (hsame.trans same) (hgrows.le.trans grows)

/-- **A step of a running report.** -/
theorem runReportStep_step (h : Accounted env session.report)
    (hrunning : session.report.running = true) (latencyNs : Nat → UInt64) (sliceNs : UInt64) :
    let result := session.runReportStep env latencyNs sliceNs
    ReportStep env session.report (result.1, result.2.report) := by
  have hbudget := (h.going hrunning).1
  unfold runReportStep
  rw [hrunning]
  rcases h.stands with hunarmed | ⟨run, harmed⟩
  · simp only [Bool.not_true, Bool.false_eq_true, if_false, hunarmed.unarmed]
    have harming := beginNext_arming hunarmed
    generalize session.report.beginNext env = result at harming
    cases harming with
    | @armed report' run harmed same grows =>
        simp only [harmed.armed]
        have hbudget' : 0 < (session.withReport report').report.sliceBudget.toNat := by
          rw [← same.sliceBudget] at hbudget
          exact hbudget
        exact (advanceReport_step harmed hbudget' latencyNs sliceNs).after same grows
    | exhausted hdone last same grows => exact .ended hdone last same grows
    | threw hdone left refused same grows => exact .threw hdone left refused same grows
  · simp only [Bool.not_true, Bool.false_eq_true, if_false, harmed.armed]
    exact advanceReport_step harmed hbudget latencyNs sliceNs

/-! ### A report that starts -/

/-- What a report is asked for has room in its counters. -/
theorem configured_counts (scenario : TrafficScenario) (packets frameSize seed : Int32)
    {batchSize : Int32} (hbatch : 0 < batchSize.toInt) :
    let config := BenchmarkReport.configured scenario packets batchSize frameSize seed
    config.packetCount.toNat < 2 ^ 31 ∧ 0 < config.batchSize.toNat := by
  have hpackets := packets.toInt_lt
  have hsize := batchSize.toInt_lt
  simp only [BenchmarkReport.configured, UInt64.toNat_ofNat']
  rw [Nat.mod_eq_of_lt (by omega), Nat.mod_eq_of_lt (by omega)]
  omega

/-- A report that starts stands in front of its queue. -/
theorem started_unarmed (hlabels : env.availableBackends.length ≤ 2 ^ 33) (generatedAt : Bytes)
    {config : BenchmarkConfig} (hpackets : config.packetCount.toNat < 2 ^ 31)
    {report : BenchmarkReport β τ} (hunarmed : report.run = none) :
    Unarmed env (report.started env generatedAt config) := by
  refine ⟨⟨Nat.zero_le _, ?_, rfl, rfl⟩, hunarmed, ?_⟩
  · show (config.packetCount * .ofNat env.availableBackends.length).toNat =
      config.packetCount.toNat * env.availableBackends.length
    have hproduct : config.packetCount.toNat * env.availableBackends.length ≤
        (2 ^ 31 - 1) * 2 ^ 33 := Nat.mul_le_mul (Nat.le_sub_one_of_lt hpackets) hlabels
    have hlength : (UInt64.ofNat env.availableBackends.length).toNat =
        env.availableBackends.length := by
      rw [UInt64.toNat_ofNat', Nat.mod_eq_of_lt (by omega)]
    rw [UInt64.toNat_mul, hlength, Nat.mod_eq_of_lt (by omega)]
  · rfl

/-- **A report that is accepted** starts with its configuration and the available
backends, and stands accounted for. -/
theorem runBenchmarkReport_accepted (hlabels : env.availableBackends.length ≤ 2 ^ 33)
    (h : Accounted env session.report) {scenario : Bytes}
    {packets batchSize frameSize seed : Int32} (generatedAt : Bytes) {config : BenchmarkConfig}
    (haccepted : session.acceptedReport scenario packets batchSize frameSize seed = some config) :
    let result :=
      session.runBenchmarkReport env scenario packets batchSize frameSize seed generatedAt
    Accounted env result.2.report ∧ result.2.report.config = config ∧
      result.2.report.queue = env.availableBackends ∧
      (env.allocates (BenchmarkRun.reservedLatencies config).toNat = true → result.1 = .returned) := by
  unfold acceptedReport at haccepted
  split at haccepted
  · cases haccepted
  next hidle =>
  have hidle : session.report.running = false := by simpa using hidle
  split at haccepted
  · cases haccepted
  next parsed hparsed =>
  split at haccepted
  · cases haccepted
  next hsettings =>
  obtain rfl := Option.some.inj haccepted
  simp only [not_or, not_le, not_lt] at hsettings
  obtain ⟨hcount, hbatch⟩ := configured_counts parsed packets frameSize seed hsettings.2.1
  generalize hconfig : BenchmarkReport.configured parsed packets batchSize frameSize seed = config
    at hcount hbatch
  have harming := beginNext_arming
    (started_unarmed hlabels generatedAt hcount (h.ended hidle).1.unarmed)
  have hbudget : 0 < (session.report.started env generatedAt config).sliceBudget.toNat := by
    show 0 < (max config.batchSize ((config.packetCount + 19) / 20)).toNat
    rw [UInt64.toNat_max]
    omega
  have hrunning : (session.report.started env generatedAt config).running = true := rfl
  have hsettings : ¬(packets.toInt ≤ 0 ∨ batchSize.toInt ≤ 0 ∨ seed.toInt < 0 ∨
      frameSize.toInt < ethernetHeaderSize ∨ frameSize.toInt > maxBenchmarkFrameSize.toNat) := by
    omega
  unfold runBenchmarkReport
  rw [hidle, hparsed]
  simp only [Bool.false_eq_true, if_false, if_neg hsettings, hconfig]
  generalize (session.report.started env generatedAt config).beginNext env = result at harming
  -- What arming leaves is what a step would leave.
  cases harming with
  | @armed report' run harmed same grows =>
      refine ⟨⟨.inr ⟨run, harmed⟩, fun _ => ⟨?_, harmed.completed_lt⟩, fun hended => ?_⟩,
        same.config, same.queue, fun _ => rfl⟩
      · exact same.sliceBudget ▸ hbudget
      · have hrunning' : report'.running = true := same.running
        exact absurd (hrunning'.symm.trans hended) (by decide)
  | exhausted hdone last same grows =>
      exact ⟨⟨.inl hdone.finished, fun hrunning => absurd hrunning Bool.false_ne_true,
        fun _ => ⟨hdone.finished, last⟩⟩, same.config, same.queue, fun _ => rfl⟩
  | @threw report' hdone left refused same grows =>
      refine ⟨⟨.inl hdone, fun _ => ⟨?_, left⟩, fun hended => ?_⟩, same.config, same.queue,
        fun hgrants => ?_⟩
      · exact same.sliceBudget ▸ hbudget
      · have hrunning' : report'.running = true := same.running
        exact absurd (hrunning'.symm.trans hended) (by decide)
      · rw [show env.allocates (BenchmarkRun.reservedLatencies config).toNat = false from refused]
          at hgrants
        contradiction

/-- A report that is refused is a message. -/
theorem runBenchmarkReport_refused {scenario : Bytes} {packets batchSize frameSize seed : Int32}
    (generatedAt : Bytes)
    (h : session.acceptedReport scenario packets batchSize frameSize seed = none) :
    (session.runBenchmarkReport env scenario packets batchSize frameSize seed
      generatedAt).2.report = session.report := by
  unfold runBenchmarkReport
  unfold acceptedReport at h
  split at h
  · next hrunning => rw [if_pos hrunning]; rfl
  next hidle =>
  rw [if_neg hidle]
  cases hscenario : trafficScenarioFromString scenario with
  | error e => rfl
  | ok parsed =>
      rw [hscenario] at h
      dsimp only at h ⊢
      split at h
      · next hsettings =>
        simp only [if_pos hsettings]
        rfl
      · cases h

/-! ## Every report -/

/-- What a report says is accounted for after any run of the commands. -/
theorem accounted_inductive (env : SessionEnvironment δ β τ)
    (hlabels : env.availableBackends.length ≤ 2 ^ 33) :
    (sessionCommands env).Inductive fun session => Accounted env session.report where
  init session hinit := by
    obtain ⟨now, rfl⟩ := hinit
    have hunarmed : Unarmed env ({} : BenchmarkReport β τ) := ⟨⟨le_rfl, rfl, rfl, rfl⟩, rfl, rfl⟩
    exact ⟨.inl hunarmed, fun hrunning => absurd hrunning Bool.false_ne_true,
      fun _ => ⟨hunarmed, rfl⟩⟩
  step session command session' h hstep := by
    obtain rfl := Option.some.inj hstep
    by_cases hreports : command.reports = true
    · cases command with
      | runBenchmarkReport scenario packets batchSize frameSize seed generatedAt =>
          cases haccepted : session.acceptedReport scenario packets batchSize frameSize seed with
          | none =>
              have hsame : (session.runBenchmarkReport env scenario packets batchSize frameSize seed
                  generatedAt).2.report = session.report :=
                runBenchmarkReport_refused generatedAt haccepted
              exact hsame.symm ▸ h
          | some config =>
              exact (runBenchmarkReport_accepted hlabels h generatedAt haccepted).1
      | runReportStep latencyNs sliceNs =>
          by_cases hrunning : session.report.running = true
          · exact (runReportStep_step h hrunning latencyNs sliceNs).accounted
              (h.going hrunning).1 hrunning
          · show Accounted env (session.runReportStep env latencyNs sliceNs).2.report
            unfold runReportStep
            rw [if_pos (by simpa using hrunning)]
            exact h
      | exportReport jsonWritten csvWritten path =>
          obtain ⟨exportPath, hsame⟩ := exportReport_report session jsonWritten csvWritten path
          show Accounted env (session.exportReport jsonWritten csvWritten path).2.report
          rw [hsame]
          exact h.exported exportPath
      | _ => cases hreports
    · show Accounted env (command.perform env session).2.report
      rw [perform_report (by simpa using hreports)]
      exact h

/-- A step of no report changes nothing. -/
theorem runReportStep_idle (h : session.report.running = false) (latencyNs : Nat → UInt64)
    (sliceNs : UInt64) : session.runReportStep env latencyNs sliceNs = (.returned, session) := by
  unfold runReportStep
  rw [h]
  rfl

/-- Calls of `run_report_step`, each with the times it measures. -/
def reportSteps (env : SessionEnvironment δ β τ) (session : Session δ β τ)
    (calls : List ((Nat → UInt64) × UInt64)) : Session δ β τ :=
  calls.foldl (fun session call => (session.runReportStep env call.1 call.2).2) session

/-- Every call returns. -/
def StepsReturn (env : SessionEnvironment δ β τ) (session : Session δ β τ)
    (calls : List ((Nat → UInt64) × UInt64)) : Prop :=
  ∀ before call after, calls = before ++ call :: after →
    ((reportSteps env session before).runReportStep env call.1 call.2).1 = .returned

theorem reportSteps_idle (h : session.report.running = false)
    (calls : List ((Nat → UInt64) × UInt64)) : reportSteps env session calls = session := by
  induction calls with
  | nil => rfl
  | cons call calls ih =>
      show reportSteps env (session.runReportStep env call.1 call.2).2 calls = session
      rw [runReportStep_idle h]
      exact ih

/-- **A report ends**: a packet is completed in every step before the last. -/
theorem reportSteps_ends (h : Accounted env session.report)
    {calls : List ((Nat → UInt64) × UInt64)} (hreturn : StepsReturn env session calls)
    (henough : session.report.totalPackets.toNat ≤
      session.report.completedPackets.toNat + calls.length) :
    (reportSteps env session calls).report.running = false := by
  induction calls generalizing session with
  | nil =>
      by_contra hended
      have hrunning : session.report.running = true := by
        rw [Bool.not_eq_false] at hended
        exact hended
      have hleft := (h.going hrunning).2
      rw [List.length_nil] at henough
      omega
  | cons call calls ih =>
      by_cases hrunning : session.report.running = true
      · have hstep := runReportStep_step h hrunning call.1 call.2
        have hfirst := hreturn [] call calls rfl
        have hrest : StepsReturn env (session.runReportStep env call.1 call.2).2 calls :=
          fun before other after hsplit => hreturn (call :: before) other after (by rw [hsplit]; rfl)
        have haccounted := hstep.accounted (h.going hrunning).1 hrunning
        show (reportSteps env (session.runReportStep env call.1 call.2).2
          calls).report.running = false
        generalize hresult : session.runReportStep env call.1 call.2 = result
          at hstep hrest haccounted
        change (session.runReportStep env call.1 call.2).1 = .returned at hfirst
        rw [hresult] at hfirst
        obtain ⟨completion, session'⟩ := result
        obtain rfl : completion = .returned := hfirst
        simp only at hstep hrest haccounted ⊢
        generalize hreport : session'.report = report' at hstep
        cases hstep with
        | went harmed same grows =>
            refine ih haccounted hrest ?_
            rw [hreport, same.totalPackets]
            rw [List.length_cons] at henough
            omega
        | ended hdone last same grows =>
            rw [reportSteps_idle (by rw [hreport]; rfl), hreport]
            rfl
      · have hidle : session.report.running = false := by simpa using hrunning
        rw [reportSteps_idle hidle]
        exact hidle

end Session

/-- **What is accounted for** in a session, whatever its commands have been. -/
structure ReportAccounted (env : SessionEnvironment δ β τ) (session : Session δ β τ) : Prop where
  /-- A report that is accepted has the available backends to measure. -/
  accepted : ∀ scenario packets batchSize frameSize seed generatedAt config,
    session.acceptedReport scenario packets batchSize frameSize seed = some config →
      let report :=
        (session.runBenchmarkReport env scenario packets batchSize frameSize seed
          generatedAt).2.report
      report.config = config ∧ report.queue = env.availableBackends
  /-- The total is the packets of a run for each backend. -/
  total : session.report.totalPackets.toNat =
    session.report.config.packetCount.toNat * session.report.queue.length
  completed_le : session.report.completedPackets.toNat ≤ session.report.totalPackets.toNat
  /-- A step takes nothing back, and measures the same. -/
  grows : ∀ latencyNs sliceNs,
    let report := (session.runReportStep env latencyNs sliceNs).2.report
    session.report.completedPackets.toNat ≤ report.completedPackets.toNat ∧
      report.config = session.report.config ∧ report.queue = session.report.queue ∧
      report.totalPackets = session.report.totalPackets
  /-- Enough steps end a report, unless memory for a run runs out. -/
  ends : ∀ calls, Session.StepsReturn env session calls →
    session.report.totalPackets.toNat ≤ session.report.completedPackets.toNat + calls.length →
      (Session.reportSteps env session calls).report.running = false
  returns :
    env.allocates (BenchmarkRun.reservedLatencies session.report.config).toNat = true →
      ∀ latencyNs sliceNs, (session.runReportStep env latencyNs sliceNs).1 = .returned
  /-- At the end all work is done, and a row stands for every backend that a run could
  be built for, in order. -/
  ended : session.report.running = false →
    session.report.completedPackets = session.report.totalPackets ∧
      session.report.rows.map ReportRow.backendId =
        BenchmarkReport.measurable env session.report.config session.report.queue
  /-- Without a report, a step changes nothing. -/
  idle : session.report.running = false →
    ∀ latencyNs sliceNs, session.runReportStep env latencyNs sliceNs = (.returned, session)

open BenchmarkReport Session in
/-- **A benchmark report always finishes with its work accounted for.** In every session
that commands can lead to, whatever backends are available and whichever of them fail. -/
theorem report_accounted (env : SessionEnvironment δ β τ)
    (hlabels : env.availableBackends.length ≤ 2 ^ 33) {session : Session δ β τ}
    (h : (sessionCommands env).Reachable session) : ReportAccounted env session := by
  have haccounted := (accounted_inductive env hlabels).invariant session h
  have hreached : Reached env session.report := by
    rcases haccounted.stands with hunarmed | ⟨run, harmed⟩
    · exact hunarmed.toReached
    · exact harmed.toReached
  refine ⟨?_, hreached.total, haccounted.completed_le, ?_, ?_, ?_, ?_, ?_⟩
  · intro scenario packets batchSize frameSize seed generatedAt config haccepted
    obtain ⟨-, hconfig, hqueue, -⟩ :=
      runBenchmarkReport_accepted hlabels haccounted generatedAt haccepted
    exact ⟨hconfig, hqueue⟩
  · intro latencyNs sliceNs
    by_cases hrunning : session.report.running = true
    · have hstep := runReportStep_step haccounted hrunning latencyNs sliceNs
      generalize session.runReportStep env latencyNs sliceNs = result at hstep
      obtain ⟨completion, session'⟩ := result
      simp only at hstep ⊢
      generalize session'.report = report' at hstep
      cases hstep with
      | went harmed same grows => exact ⟨grows.le, same.config, same.queue, same.totalPackets⟩
      | ended hdone last same grows => exact ⟨grows, same.config, same.queue, same.totalPackets⟩
      | threw hdone left refused same grows =>
          exact ⟨grows, same.config, same.queue, same.totalPackets⟩
    · rw [runReportStep_idle (by simpa using hrunning)]
      exact ⟨le_rfl, rfl, rfl, rfl⟩
  · intro calls hreturn henough
    exact reportSteps_ends haccounted hreturn henough
  · intro hgrants latencyNs sliceNs
    by_cases hrunning : session.report.running = true
    · have hstep := runReportStep_step haccounted hrunning latencyNs sliceNs
      generalize session.runReportStep env latencyNs sliceNs = result at hstep
      obtain ⟨completion, session'⟩ := result
      simp only at hstep ⊢
      generalize session'.report = report' at hstep
      cases hstep with
      | went harmed same grows => rfl
      | ended hdone last same grows => rfl
      | threw hdone left refused same grows =>
          rw [hgrants] at refused
          contradiction
    · rw [runReportStep_idle (by simpa using hrunning)]
  · intro hended
    obtain ⟨hunarmed, hlast⟩ := haccounted.ended hended
    constructor
    · rw [← UInt64.toNat_inj, hunarmed.completed, hlast, hunarmed.total]
    · rw [hunarmed.rows, hunarmed.results, hlast, List.take_length]
  · intro hidle latencyNs sliceNs
    exact runReportStep_idle hidle latencyNs sliceNs

/-- A machine with a GPU that is gone when it is measured. -/
def lostGpu : SessionEnvironment Unit Unit Unit where
  accelerated := [bytes "Metal"]
  benchmarkFactory := fun config =>
    if config.backend ≠ bytes "cpu" then .error .backendUnavailable
    else .ok { analyzer := some (), analyze := fun _ _ => ({}, ()) }
  trafficFactory := fun _ => .ok (some
    { source := ()
      fill := fun _ _ count => (List.replicate count.toNat (List.replicate 64 0), ()) })
  allocates := fun _ => true
  formatFixed := fun _ _ => []
  lround := fun _ => 0

/-- Three packets in two steps, of which the GPU's share is passed. -/
def lostGpuCalls : List SessionCommand :=
  [.runBenchmarkReport (bytes "mixed-traffic") 3 2 64 7 [],
    .runReportStep (fun _ => 5) 10, .runReportStep (fun _ => 5) 10]

theorem report_accounted_lostGpu :
    ∃ session, (sessionCommands lostGpu).exec (Session.create 0) lostGpuCalls = some session ∧
      session.report.running = false ∧ ReportAccounted lostGpu session := by
  have hrun := TSys.exec_returns (T := sessionCommands lostGpu) (fun session command => ⟨_, rfl⟩)
    lostGpuCalls (Session.create 0)
  obtain ⟨session, hsession⟩ := hrun
  have hended : ((sessionCommands lostGpu).exec (Session.create 0) lostGpuCalls).map
      (fun session => session.report.running) = some false := by
    decide +kernel
  rw [hsession] at hended
  exact ⟨session, hsession, Option.some.inj hended,
    report_accounted lostGpu (by decide) (.exec (.init ⟨0, rfl⟩) hsession)⟩

end WireLab
