import WireLab.Logic.Publishing
import WireLab.Theorems.StartTraffic

/-!
# The dirty mask

A command that changes what a session publishes raises the bit that covers it, but
for four ways to change a value silently (`Unreported`): a new topology clears the
rows of the policies, and a constructor that throws keeps a command from reaching
the bit of what it has changed already. A run in which these find their bit raised
is reported in full, and no other is (`dirty_mask_reports_iff`).
-/

namespace WireLab

open Base

variable {δ β τ : Type}

namespace BenchmarkReport

/-- Arming the first of some backends that a run can be built for runs out of
memory. -/
def armingThrows (env : SessionEnvironment δ β τ) (config : BenchmarkConfig) :
    List Bytes → Bool
  | [] => false
  | label :: rest =>
      match BenchmarkRun.create env.allocates
        { config with backend := SessionDetail.benchmarkBackendId label }
        (some env.benchmarkFactory) (some env.trafficFactory) with
      | none => true
      | some (.ok _) => false
      | some (.error _) => armingThrows env config rest

/-- The next backend cannot be armed for want of memory. -/
def nextThrows (env : SessionEnvironment δ β τ) (report : BenchmarkReport β τ) : Bool :=
  armingThrows env report.config (report.queue.drop report.index)

/-- What arming the next of some backends does: it throws as said, leaves the results
and what is shown of them, and if it throws, the stage too. -/
structure Begins (env : SessionEnvironment δ β τ) (labels : List Bytes)
    (report : BenchmarkReport β τ) (result : Begun × BenchmarkReport β τ) : Prop where
  threw : result.1 = .threw ↔ armingThrows env report.config labels = true
  results : result.2.results = report.results
  rows : result.2.rows = report.rows
  progress : result.2.progress = report.progress
  stage : result.1 = .threw → result.2.stage = report.stage

theorem beginBackends_begins (env : SessionEnvironment δ β τ) (labels : List Bytes)
    (report : BenchmarkReport β τ) :
    Begins env labels report (beginBackends env labels report) := by
  induction labels generalizing report with
  | nil => exact ⟨by simp [beginBackends, armingThrows], rfl, rfl, rfl, fun _ => rfl⟩
  | cons label rest ih =>
      unfold beginBackends
      split
      · next hnone => exact ⟨by simp [armingThrows, hnone], rfl, rfl, rfl, fun _ => rfl⟩
      · next run hrun =>
          refine ⟨by simp [armingThrows, hrun], rfl, rfl, rfl, ?_⟩
          intro hthrew
          cases hthrew
      · next error herror =>
          have hrest := ih
            { report with
              completedPackets := report.completedPackets + report.config.packetCount
              index := report.index + 1 }
          refine ⟨hrest.threw.trans ?_, hrest.results, hrest.rows, hrest.progress, hrest.stage⟩
          simp only [armingThrows, herror]

theorem beginNext_begins (env : SessionEnvironment δ β τ) (report : BenchmarkReport β τ) :
    Begins env (report.queue.drop report.index) report (report.beginNext env) :=
  beginBackends_begins env _ report

/-- There is a row for every result. -/
def Tabulated (report : BenchmarkReport β τ) : Prop := report.rows.length = report.results.length

theorem Tabulated.beginNext (env : SessionEnvironment δ β τ) {report : BenchmarkReport β τ}
    (h : report.Tabulated) : (report.beginNext env).2.Tabulated := by
  have hbegins := beginNext_begins env report
  show _ = _
  rw [hbegins.rows, hbegins.results]
  exact h

theorem Tabulated.advanced {report : BenchmarkReport β τ} (h : report.Tabulated)
    (latencyNs : Nat → UInt64) (sliceNs : UInt64) (run : BenchmarkRun β τ) :
    (report.advanced latencyNs sliceNs run).Tabulated := by
  simp only [BenchmarkReport.advanced]
  split
  · exact List.length_map _
  · exact h

/-- The run of a report is over with its last slice, and there is a result more. -/
theorem advanced_last {report : BenchmarkReport β τ} {latencyNs : Nat → UInt64} {sliceNs : UInt64}
    {run : BenchmarkRun β τ} :
    (report.advanced latencyNs sliceNs run).run = none ↔
      (run.advance latencyNs sliceNs report.sliceBudget).2.finished = true := by
  simp only [BenchmarkReport.advanced]
  split
  · next hlast => exact ⟨fun _ => hlast, fun _ => rfl⟩
  · next hgoing => exact ⟨fun hnone => (Option.some_ne_none _ hnone).elim, fun h => absurd h hgoing⟩

theorem advanced_results (report : BenchmarkReport β τ) {latencyNs : Nat → UInt64}
    {sliceNs : UInt64} {run : BenchmarkRun β τ}
    (hlast : (run.advance latencyNs sliceNs report.sliceBudget).2.finished = true) :
    (report.advanced latencyNs sliceNs run).results.length = report.results.length + 1 := by
  simp only [BenchmarkReport.advanced, if_pos hlast]
  exact List.length_append

end BenchmarkReport

namespace Session

/-- A constructor of traffic throws: there are too few hosts for the generator, or the
backend has no device. -/
def Unconstructible (env : SessionEnvironment δ β τ) (backend : Bytes)
    (session : Session δ β τ) : Prop :=
  session.hosts.length % 2 ^ 32 < 2 ∨ analyzerFor env backend = none

/-- What changes in silence: a call changes a value that a bit covers, and does not
raise it. -/
inductive Unreported (env : SessionEnvironment δ β τ) (session : Session δ β τ) :
    SessionCommand → SessionDirty → Prop
  /-- A new topology clears the rows of the policies. -/
  | cleared {command} (hcommits : session.commits command = true)
      (hshown : session.policyActions ≠ [] ∨ session.enforcedPorts ≠ []) :
      Unreported env session command .policies
  /-- Traffic is admitted on another backend, and a constructor throws. -/
  | unstarted {scenario seed backend} {packetsPerTick frameSize : Int32}
      (hadmitted : ¬StartRefused env scenario packetsPerTick frameSize backend session)
      (hthrows : session.Unconstructible env backend)
      (hother : backend ≠ session.activeBackend) :
      Unreported env session (.startTraffic scenario packetsPerTick frameSize seed backend)
        .trafficState
  /-- A report starts with nothing to show, and its first run cannot be built. -/
  | emptied {scenario generatedAt} {packets batchSize frameSize seed : Int32}
      {config : BenchmarkConfig}
      (haccepted : session.acceptedReport scenario packets batchSize frameSize seed = some config)
      (hthrows : BenchmarkReport.armingThrows env config env.availableBackends = true)
      (hshown : session.report.rows ≠ [] ∨ session.report.progress ≠ 0.0) :
      Unreported env session
        (.runBenchmarkReport scenario packets batchSize frameSize seed generatedAt) .report
  /-- A run ends, and the next cannot be built. -/
  | measured {latencyNs sliceNs} {armed : BenchmarkReport β τ} {run : BenchmarkRun β τ}
      (hstepping : session.stepping env = some (armed, run))
      (hlast : (run.advance latencyNs sliceNs armed.sliceBudget).2.finished = true)
      (hthrows : (armed.advanced latencyNs sliceNs run).nextThrows env = true) :
      Unreported env session (.runReportStep latencyNs sliceNs) .report

/-- What differs from the state the mask was taken in is covered by the mask. -/
def Announced (start session : Session δ β τ) : Prop :=
  ∀ flag, session.marked flag ∨ session.published flag = start.published flag

/-! ## What every session keeps -/

/-- The actions of the policies stay within their limit, and a report has a row for
every result. -/
structure Kept (session : Session δ β τ) : Prop where
  actions : session.policyActions.length ≤ 200
  tabulated : session.report.Tabulated

theorem newest_length {α : Type} (limit : Nat) (entries : List α) :
    (newest limit entries).length ≤ limit := by
  rw [newest, List.length_drop]
  omega

variable {env : SessionEnvironment δ β τ} {session : Session δ β τ}

theorem stopTraffic_policyActions (session : Session δ β τ) :
    session.stopTraffic.policyActions = session.policyActions := by
  unfold stopTraffic
  split
  · rfl
  · rfl

theorem showOutcome_policyActions (outcome : AnalysisOutcome) (session : Session δ β τ) :
    (session.showOutcome outcome).policyActions = (session.withOutcome outcome).policyActions := by
  unfold showOutcome
  split
  · simp only [rebuildPolicyRows, rebuildFaultRows, mark]
  · rfl

theorem actions_perform (env : SessionEnvironment δ β τ)
    (h : session.policyActions.length ≤ 200) (command : SessionCommand) :
    (command.perform env session).2.policyActions.length ≤ 200 := by
  have houtcome := perform_outcome env session command
  generalize command.perform env session = result at houtcome
  cases houtcome with
  | replaced path configuration topology message now => exact Nat.zero_le 200
  | stopped => exact session.stopTraffic_policyActions ▸ h
  | halted message => exact session.stopTraffic_policyActions ▸ h
  | ticked =>
      show (showOutcome _ _).policyActions.length ≤ 200
      rw [showOutcome_policyActions]
      simp only [withOutcome, newest_length]
  | _ => exact h

theorem advanceReport_tabulated (latencyNs : Nat → UInt64) (sliceNs : UInt64)
    (run : BenchmarkRun β τ) (h : session.report.Tabulated) :
    (session.advanceReport env latencyNs sliceNs run).2.report.Tabulated := by
  have hadvanced := h.advanced latencyNs sliceNs run
  have hbegun := hadvanced.beginNext env
  unfold advanceReport
  simp only
  split
  · exact hadvanced
  · generalize (session.report.advanced latencyNs sliceNs run).beginNext env = result at hbegun
    obtain ⟨begun, report⟩ := result
    cases begun with
    | armed => exact hbegun
    | exhausted => exact hbegun
    | threw => exact hbegun

theorem tabulated_perform (env : SessionEnvironment δ β τ) (h : session.report.Tabulated)
    (command : SessionCommand) : (command.perform env session).2.report.Tabulated := by
  by_cases hreports : command.reports = true
  · cases command with
    | runBenchmarkReport scenario packets batchSize frameSize seed generatedAt =>
        show (session.runBenchmarkReport env scenario packets batchSize frameSize seed
          generatedAt).2.report.Tabulated
        unfold runBenchmarkReport
        split
        · exact h
        · split
          · exact h
          · next parsed hparsed =>
              split
              · exact h
              · have hstarted : (session.report.started env generatedAt
                    (BenchmarkReport.configured parsed packets batchSize frameSize
                      seed)).Tabulated := rfl
                have hbegun := hstarted.beginNext env
                simp only
                generalize (session.report.started env generatedAt (BenchmarkReport.configured
                  parsed packets batchSize frameSize seed)).beginNext env = result at hbegun
                obtain ⟨begun, report⟩ := result
                cases begun with
                | armed => exact hbegun
                | exhausted => exact hbegun
                | threw => exact hbegun
    | runReportStep latencyNs sliceNs =>
        show (session.runReportStep env latencyNs sliceNs).2.report.Tabulated
        unfold runReportStep
        split
        · exact h
        · split
          · exact advanceReport_tabulated latencyNs sliceNs _ h
          · have hbegun := h.beginNext env
            generalize session.report.beginNext env = result at hbegun
            obtain ⟨begun, report⟩ := result
            cases begun with
            | exhausted => exact hbegun
            | threw => exact hbegun
            | armed =>
                simp only
                split
                · exact hbegun
                · exact advanceReport_tabulated latencyNs sliceNs _ hbegun
    | exportReport jsonWritten csvWritten path =>
        obtain ⟨exportPath, hsame⟩ := session.exportReport_report jsonWritten csvWritten path
        show (session.exportReport jsonWritten csvWritten path).2.report.Tabulated
        rw [hsame]
        exact h
    | _ => cases hreports
  · rw [perform_report (by simpa using hreports)]
    exact h

theorem Kept.perform (env : SessionEnvironment δ β τ) (h : session.Kept)
    (command : SessionCommand) : (command.perform env session).2.Kept :=
  ⟨actions_perform env h.actions command, tabulated_perform env h.tabulated command⟩

theorem kept_reachable (h : (sessionCommands env).Reachable session) : session.Kept := by
  have hinductive : (sessionCommands env).Inductive Session.Kept :=
    { init := by
        rintro _ ⟨now, rfl⟩
        exact ⟨Nat.zero_le 200, rfl⟩
      step := by
        intro session command session' hkept hstep
        obtain rfl := Option.some.inj hstep
        exact hkept.perform env command }
  exact hinductive.invariant session h

/-! ## What the silent calls do -/

/-- With settings that are admitted, the constructors of traffic throw for want of
hosts or of a device. -/
theorem constructTraffic_cases (env : SessionEnvironment δ β τ) (session : Session δ β τ)
    (hsize : ¬session.frameSize.toInt < 14) :
    (session.Unconstructible env session.activeBackend →
      ∃ generator analyzer,
        session.constructTraffic env = (.threw, session.withGenerator generator analyzer)) ∧
    (¬session.Unconstructible env session.activeBackend →
      (session.constructTraffic env).1 = .returned) := by
  have hsized : .ofNat ethernetHeaderSize ≤ session.generatorConfig.frameSize :=
    ethernetHeaderSize_le_frameSize hsize
  have hcount : 2 ≤ session.generatorConfig.hostCount ↔ _ := two_le_hostCount session.hosts.length
  unfold constructTraffic DeterministicTrafficGenerator.create
  rw [dif_pos hsized]
  by_cases hhosts : 2 ≤ session.generatorConfig.hostCount
  · have hmany : ¬session.hosts.length % 2 ^ 32 < 2 := Nat.not_lt.mpr (hcount.mp hhosts)
    rw [dif_pos hhosts]
    cases hanalyzer : analyzerFor env session.activeBackend with
    | none => exact ⟨fun _ => ⟨_, _, rfl⟩, fun hnot => absurd (.inr hanalyzer) hnot⟩
    | some analyzer =>
        refine ⟨?_, fun _ => rfl⟩
        rintro (hfew | hnone)
        · exact absurd hfew hmany
        · exact absurd (hanalyzer.symm.trans hnone) (Option.some_ne_none analyzer)
  · have hfew : session.hosts.length % 2 ^ 32 < 2 := Nat.lt_of_not_le (mt hcount.mpr hhosts)
    rw [dif_neg hhosts]
    exact ⟨fun _ => ⟨session.trafficGenerator, session.trafficAnalyzer, rfl⟩,
      fun hnot => absurd (.inl hfew) hnot⟩

theorem runBenchmarkReport_threw {scenario generatedAt : Bytes}
    {packets batchSize frameSize seed : Int32} {config : BenchmarkConfig}
    {report : BenchmarkReport β τ}
    (haccepted : session.acceptedReport scenario packets batchSize frameSize seed = some config)
    (hthrew : (session.report.started env generatedAt config).beginNext env = (.threw, report)) :
    session.runBenchmarkReport env scenario packets batchSize frameSize seed generatedAt =
      (.threw, session.withReport report) := by
  unfold acceptedReport at haccepted
  unfold runBenchmarkReport
  split at haccepted
  · cases haccepted
  · next hidle =>
      rw [if_neg hidle]
      split at haccepted
      · cases haccepted
      · next parsed hparsed =>
          simp only [hparsed]
          split at haccepted
          · cases haccepted
          · next hsettings =>
              obtain rfl := Option.some.inj haccepted
              rw [if_neg hsettings, hthrew]

theorem advanceReport_threw (session : Session δ β τ) {latencyNs : Nat → UInt64} {sliceNs : UInt64}
    {run : BenchmarkRun β τ} {report : BenchmarkReport β τ}
    (hlast : (session.report.advanced latencyNs sliceNs run).run = none)
    (hthrew : (session.report.advanced latencyNs sliceNs run).beginNext env = (.threw, report)) :
    session.advanceReport env latencyNs sliceNs run = (.threw, session.withReport report) := by
  unfold advanceReport
  simp only [hlast, hthrew]

theorem runReportStep_threw {latencyNs : Nat → UInt64} {sliceNs : UInt64}
    {armed report : BenchmarkReport β τ} {run : BenchmarkRun β τ}
    (hstepping : session.stepping env = some (armed, run))
    (hlast : (armed.advanced latencyNs sliceNs run).run = none)
    (hthrew : (armed.advanced latencyNs sliceNs run).beginNext env = (.threw, report)) :
    session.runReportStep env latencyNs sliceNs = (.threw, session.withReport report) := by
  unfold stepping at hstepping
  unfold runReportStep
  split at hstepping
  · cases hstepping
  · next hrunning =>
      rw [if_neg hrunning]
      cases hrun : session.report.run with
      | some run' =>
          simp only [hrun] at hstepping ⊢
          obtain ⟨rfl, rfl⟩ := Prod.mk.inj (Option.some.inj hstepping)
          exact session.advanceReport_threw hlast hthrew
      | none =>
          simp only [hrun] at hstepping ⊢
          generalize session.report.beginNext env = result at hstepping ⊢
          obtain ⟨begun, armed'⟩ := result
          cases begun with
          | armed =>
              obtain ⟨run', hrun', heq⟩ := Option.map_eq_some_iff.mp hstepping
              obtain ⟨rfl, rfl⟩ := Prod.mk.inj heq
              simp only [hrun']
              exact (session.withReport armed').advanceReport_threw hlast hthrew
          | threw => cases hstepping
          | exhausted => cases hstepping

/-- The report whose run a step advances has the rows there were. -/
theorem stepping_rows {armed : BenchmarkReport β τ} {run : BenchmarkRun β τ}
    (h : session.stepping env = some (armed, run)) :
    armed.rows = session.report.rows ∧ armed.results = session.report.results := by
  unfold stepping at h
  split at h
  · cases h
  · split at h
    · obtain ⟨rfl, rfl⟩ := Prod.mk.inj (Option.some.inj h)
      exact ⟨rfl, rfl⟩
    · split at h
      · next armed' harmed =>
          obtain ⟨run', _, heq⟩ := Option.map_eq_some_iff.mp h
          obtain ⟨rfl, rfl⟩ := Prod.mk.inj heq
          have hbegins := BenchmarkReport.beginNext_begins env session.report
          rw [harmed] at hbegins
          exact ⟨hbegins.rows, hbegins.results⟩
      · cases h

/-- **What changes in silence changes, and raises no bit.** -/
theorem Unreported.silent (hkept : session.Kept) {command : SessionCommand} {flag : SessionDirty}
    (h : Unreported env session command flag) :
    (command.perform env session).2.published flag ≠ session.published flag ∧
      ((command.perform env session).2.marked flag → session.marked flag) := by
  cases h with
  | cleared hcommits hshown =>
      obtain ⟨configuration, topology, hrequested, hcreate⟩ := commits_iff.mp hcommits
      obtain ⟨path, message, now, hperform⟩ := perform_accepted env hrequested hcreate
      obtain ⟨hrows, hmarked⟩ :=
        (session.withPath path).replaceTopology_policies configuration topology message now
      rw [hperform]
      refine ⟨?_, hmarked.mp⟩
      rw [hrows]
      intro heq
      obtain ⟨_, hrest⟩ := Prod.mk.inj heq
      obtain ⟨hactions, hports⟩ := Prod.mk.inj hrest
      exact hshown.elim (fun hne => hne hactions.symm) fun hne => hne hports.symm
  | @unstarted scenario seed backend packetsPerTick frameSize hadmitted hthrows hother =>
      obtain ⟨parsed, _, hsize, _, hcall⟩ := startTraffic_of_admitted seed hadmitted
      have hthrows' : (session.withTrafficSettings parsed packetsPerTick frameSize seed
          backend).Unconstructible env backend := hthrows
      obtain ⟨generator, analyzer, hthrew⟩ := (constructTraffic_cases env
        (session.withTrafficSettings parsed packetsPerTick frameSize seed backend) hsize).1
          hthrows'
      have hperform := hcall.trans hthrew
      refine ⟨?_, ?_⟩
      · intro heq
        simp only [SessionCommand.perform, hperform] at heq
        exact hother (Prod.mk.inj heq).2
      · simp only [SessionCommand.perform, hperform]
        exact id
  | @emptied scenario generatedAt packets batchSize frameSize seed config haccepted hthrows hshown =>
      have hbegins := BenchmarkReport.beginNext_begins env
        (session.report.started env generatedAt config)
      generalize hresult : (session.report.started env generatedAt config).beginNext env = result
        at hbegins
      obtain ⟨begun, report⟩ := result
      obtain rfl : begun = .threw := hbegins.threw.mpr hthrows
      simp only [SessionCommand.perform, runBenchmarkReport_threw haccepted hresult]
      refine ⟨?_, id⟩
      intro heq
      obtain ⟨hrows, hrest⟩ := Prod.mk.inj heq
      obtain ⟨hprogress, _⟩ := Prod.mk.inj hrest
      rcases hshown with hne | hne
      · exact hne (hrows.symm.trans hbegins.rows)
      · exact hne (hprogress.symm.trans hbegins.progress)
  | @measured latencyNs sliceNs armed run hstepping hlast hthrows =>
      have hbegins := BenchmarkReport.beginNext_begins env (armed.advanced latencyNs sliceNs run)
      generalize hresult : (armed.advanced latencyNs sliceNs run).beginNext env = result at hbegins
      obtain ⟨begun, report⟩ := result
      obtain rfl : begun = .threw := hbegins.threw.mpr hthrows
      simp only [SessionCommand.perform,
        runReportStep_threw hstepping (BenchmarkReport.advanced_last.mpr hlast) hresult]
      refine ⟨?_, id⟩
      intro heq
      -- the rows are one more than they were
      obtain ⟨hrows, hresults⟩ := stepping_rows hstepping
      have harmed : armed.Tabulated := by
        show armed.rows.length = armed.results.length
        rw [hrows, hresults]
        exact hkept.tabulated
      have hafter : (armed.advanced latencyNs sliceNs run).rows.length =
          (armed.advanced latencyNs sliceNs run).results.length :=
        harmed.advanced latencyNs sliceNs run
      have hbefore : armed.rows.length = armed.results.length := harmed
      have hmore := BenchmarkReport.advanced_results armed hlast
      have hsame : report.rows = armed.rows := (Prod.mk.inj heq).1.trans hrows.symm
      have hlength := hbegins.rows.symm.trans hsame
      have : (armed.advanced latencyNs sliceNs run).rows.length = armed.rows.length :=
        congrArg List.length hlength
      omega

/-! ## What the other calls do -/

/-- A command that throws as it starts traffic changes the backend in silence, or not
at all. -/
theorem unstarted_reports {scenario backend : Bytes} {seed : UInt64}
    {packetsPerTick frameSize : Int32} {session' : Session δ β τ} {parsed : TrafficScenario}
    {generator : Option DeterministicTrafficGenerator} {analyzer : Option (TrafficAnalyzer δ)}
    (hcall : session.startTraffic env scenario packetsPerTick frameSize seed backend =
      (.threw, session'))
    (hsession : session' = (session.withTrafficSettings parsed packetsPerTick frameSize seed
      backend).withGenerator generator analyzer) :
    Reports {flag | Unreported env session
      (.startTraffic scenario packetsPerTick frameSize seed backend) flag} session session' := by
  have hstored : Reports {.trafficState} session session' := by
    subst hsession
    exact .of_silent rfl fun flag hflag => by cases flag <;> first | rfl | exact absurd rfl hflag
  -- a call that is refused returns
  have hadmitted : ¬StartRefused env scenario packetsPerTick frameSize backend session := by
    intro hrefused
    obtain ⟨_, hreturned, _⟩ := startTraffic_of_refused seed hrefused
    rw [hcall] at hreturned
    cases hreturned
  refine hstored.resolve ?_
  rintro flag rfl
  by_cases hother : backend = session.activeBackend
  · refine .inr (.inr ?_)
    subst hsession
    exact congrArg (Prod.mk _) hother
  · refine .inl (.unstarted hadmitted ?_ hother)
    by_contra hconstructible
    obtain ⟨parsed', _, hsize, _, hstart⟩ := startTraffic_of_admitted seed hadmitted
    have hreturned := (constructTraffic_cases env (session.withTrafficSettings parsed'
      packetsPerTick frameSize seed backend) hsize).2 hconstructible
    rw [← hstart, hcall] at hreturned
    cases hreturned

/-- A command that throws as it builds a run changes the report in silence, or not at
all. -/
theorem reportThrew_reports {command : SessionCommand} {report : BenchmarkReport β τ}
    (h : ReportThrows env session command report) :
    Reports {flag | Unreported env session command flag} session (session.withReport report) := by
  refine (session.withReport_reports report).resolve ?_
  rintro flag rfl
  cases h with
  | @starting scenario generatedAt packets batchSize frameSize seed config report haccepted hthrew =>
      have hbegins := BenchmarkReport.beginNext_begins env
        (session.report.started env generatedAt config)
      rw [hthrew] at hbegins
      by_cases hshown : session.report.rows ≠ [] ∨ session.report.progress ≠ 0.0
      · exact .inl (.emptied haccepted (hbegins.threw.mp rfl) hshown)
      · rw [not_or, not_not, not_not] at hshown
        have hrows : report.rows = session.report.rows := hbegins.rows.trans hshown.1.symm
        have hprogress : report.progress = session.report.progress :=
          hbegins.progress.trans hshown.2.symm
        have hstage : report.stage = session.report.stage := hbegins.stage rfl
        refine .inr (.inr ?_)
        show (report.rows, report.progress, report.stage) = _
        rw [hrows, hprogress, hstage]
        rfl
  | arming hthrew =>
      have hbegins := BenchmarkReport.beginNext_begins env session.report
      rw [hthrew] at hbegins
      refine .inr (.inr ?_)
      show (report.rows, report.progress, report.stage) = _
      rw [hbegins.rows, hbegins.progress, hbegins.stage rfl]
      rfl
  | @advancing latencyNs sliceNs armed report run hstepping hlast hthrew =>
      have hbegins := BenchmarkReport.beginNext_begins env (armed.advanced latencyNs sliceNs run)
      rw [hthrew] at hbegins
      exact .inl (.measured hstepping (BenchmarkReport.advanced_last.mp hlast)
        (hbegins.threw.mp rfl))

/-- **Every change is reported**, but for those that are made in silence. -/
theorem reports_perform (env : SessionEnvironment δ β τ) (hkept : session.Kept)
    {command : SessionCommand} (hcommand : command ≠ .takeDirty) :
    Reports {flag | Unreported env session command flag} session
      (command.perform env session).2 := by
  have houtcome := perform_outcome env session command
  generalize hresult : command.perform env session = result at houtcome
  cases houtcome with
  | taken => exact absurd rfl hcommand
  | idle => exact .of_silent rfl fun _ _ => rfl
  | told path message =>
      exact ((session.withPath_reports path).trans (setStatus_reports _ _)).of_nothing
  | replaced path configuration topology message now hrequested hcreate =>
      have hreplaced := (session.withPath_reports path).of_nothing.trans
        ((session.withPath path).replaceTopology_reports configuration topology message now)
      by_cases hshown : session.policyActions ≠ [] ∨ session.enforcedPorts ≠ []
      · refine hreplaced.mono ?_
        rintro flag rfl
        exact .cleared (commits_iff.mpr ⟨configuration, topology, hrequested, hcreate⟩) hshown
      · rw [not_or, not_not, not_not] at hshown
        refine hreplaced.resolve ?_
        rintro flag rfl
        refine .inr (.inr ?_)
        rw [(replaceTopology_policies _ _ _ _ _).1]
        show (session.policyRules, [], []) =
          (session.policyRules, session.policyActions, session.enforcedPorts)
        rw [hshown.1, hshown.2]
  | selected kind id summary => exact (withSelection_reports _ _ _ _ _ _).of_nothing
  | faulted controller message =>
      have hengines := session.withEngines_reports session.analysisPipeline controller
      exact ((hengines.trans (setStatus_reports _ _)).trans (rebuildFaultRows_reports _)).of_nothing
  | policed policies message =>
      have hpolicies : Reports ∅ session (session.withPolicies policies) :=
        .of_silent rfl fun flag _ => by cases flag <;> rfl
      exact ((hpolicies.trans (setStatus_reports _ _)).trans
        (rebuildPolicyRows_reports _)).of_nothing
  | @released _ pipeline controller message =>
      have hengines := session.withEngines_reports pipeline controller
      have hfaults := (hengines.trans (setStatus_reports _ message)).trans
        (rebuildFaultRows_reports _)
      exact (hfaults.trans (rebuildPolicyRows_reports _)).of_nothing.settle.of_nothing
  | unstarted parsed => exact unstarted_reports hresult rfl
  | @started scenario seed backend packetsPerTick frameSize parsed generator analyzer =>
      have hstored : Reports {.trafficState} session
          ((session.withTrafficSettings parsed packetsPerTick frameSize seed backend).withGenerator
            (some generator) (some analyzer)) :=
        .of_silent rfl fun flag hflag => by cases flag <;> first | rfl | exact absurd rfl hflag
      exact hstored.runTraffic.of_nothing
  | stopped => exact session.stopTraffic_reports.of_nothing
  | halted message =>
      exact (session.stopTraffic_reports.trans (setStatus_reports _ message)).of_nothing
  | tickThrew => exact .of_silent rfl fun flag _ => by cases flag <;> rfl
  | @ticked arrival _ generator analysis analyzer outcome pipeline controller throughput latency =>
      have hanalysed := session.analysed_reports generator arrival analyzer analysis
      have hengines := hanalysed.trans
        (withEngines_reports _ pipeline controller).of_nothing
      have hactions := session.analysed_policyActions generator arrival analyzer analysis
      generalize session.analysed generator arrival analyzer analysis = analysed
        at hengines hactions
      have hshown : (analysed.withEngines pipeline controller).policyActions.length ≤ 200 := by
        show analysed.policyActions.length ≤ 200
        rw [hactions]
        exact hkept.actions
      exact ((hengines.trans (showOutcome_reports hshown outcome)).showTraffic env throughput
        latency).of_nothing
  | reportThrew report hthrows => exact reportThrew_reports hthrows
  | progressed report =>
      exact (session.withReport_reports report).settle.of_nothing
  | reported report message =>
      exact ((session.withReport_reports report).trans
        (setStatus_reports _ message).of_nothing).settle.of_nothing

/-- One command announces what it changes exactly when what it changes in silence has
been announced. -/
theorem announced_step {start : Session δ β τ} (hkept : session.Kept)
    (h : Announced start session) {command : SessionCommand} (hcommand : command ≠ .takeDirty) :
    Announced start (command.perform env session).2 ↔
      ∀ flag, Unreported env session command flag → session.marked flag := by
  have hreports := reports_perform env hkept hcommand
  constructor
  · intro hafter flag hunreported
    obtain ⟨hdiffers, hmask⟩ := hunreported.silent hkept
    rcases h flag with hmarked | hsame
    · exact hmarked
    · rcases hafter flag with hmarked | hsame'
      · exact hmask hmarked
      · exact absurd (hsame'.trans hsame.symm) hdiffers
  · intro hannounced flag
    obtain ⟨hmask, howed | hmarked | hsame⟩ := hreports flag
    · exact .inl (hmask (hannounced flag howed))
    · exact .inl hmarked
    · exact (h flag).imp hmask hsame.trans

end Session

open Session

/-- **The dirty mask reports every change** between two calls of `take_dirty`, in every
state the commands lead to, exactly when a value that changes in silence has had its
bit raised before. -/
theorem dirty_mask_reports_iff {env : SessionEnvironment δ β τ} {session : Session δ β τ}
    (hreachable : (sessionCommands env).Reachable session) (commands : List SessionCommand)
    (hcommands : ∀ command ∈ commands, command ≠ .takeDirty) :
    (sessionCommands env).States (Announced session.takeDirty.2) session.takeDirty.2 commands ↔
      (sessionCommands env).Steps
        (fun before command _ => ∀ flag, Unreported env before command flag → before.marked flag)
        session.takeDirty.2 commands := by
  have hkept := kept_reachable (hreachable.step (a := .takeDirty) rfl)
  have hadmitted : (sessionCommands env).Steps (fun _ command _ => command ≠ .takeDirty)
      session.takeDirty.2 commands := TSys.Steps.of_forall hcommands _
  refine TSys.States.iff_admitted (I := Kept) ?_ ?_ commands _ hkept (fun flag => .inr rfl) hadmitted
  · intro before command after h _ hstep
    obtain rfl := Option.some.inj hstep
    exact h.perform env command
  · intro before command after h hannounced hcommand hstep
    obtain rfl := Option.some.inj hstep
    exact announced_step h hannounced hcommand

/-- The guarded lab, as a node is added to it. -/
theorem dirty_mask_reports_iff_guardedLab :
    (sessionCommands cpuBuild).States (Announced guardedLab.takeDirty.2) guardedLab.takeDirty.2
        [.addNode (bytes "extra") (bytes "host") 7] ↔
      (sessionCommands cpuBuild).Steps
        (fun before command _ =>
          ∀ flag, Unreported cpuBuild before command flag → before.marked flag)
        guardedLab.takeDirty.2 [.addNode (bytes "extra") (bytes "host") 7] :=
  dirty_mask_reports_iff guardedLab_reachable _ (by simp)

/-- Adding a node clears the rows of the policies, and the mask says nothing of it. -/
theorem policies_cleared_silently :
    (sessionCommands cpuBuild).Reachable guardedLab ∧
      (guardedLab.policyActions.length, guardedLab.enforcedPorts.length) = (1, 1) ∧
      ((sessionCommands cpuBuild).exec guardedLab.takeDirty.2
          [.addNode (bytes "extra") (bytes "host") 7]).map
        (fun after => (after.policyActions.length, after.enforcedPorts.length,
          after.takeDirty.1 &&& SessionDirty.policies.bit)) = some (0, 0, 0) ∧
      ¬(sessionCommands cpuBuild).States (Announced guardedLab.takeDirty.2)
        guardedLab.takeDirty.2 [.addNode (bytes "extra") (bytes "host") 7] := by
  have hshown : (guardedLab.policyActions.length, guardedLab.enforcedPorts.length) = (1, 1) := by
    decide +kernel
  have hafter : ((sessionCommands cpuBuild).exec guardedLab.takeDirty.2
      [.addNode (bytes "extra") (bytes "host") 7]).map
        (fun after => (after.policyActions.length, after.enforcedPorts.length,
          after.takeDirty.1 &&& SessionDirty.policies.bit)) = some (0, 0, 0) := by
    decide +kernel
  refine ⟨guardedLab_reachable, hshown, hafter, ?_⟩
  intro hstates
  obtain ⟨after, hrun, hcleared⟩ := Option.map_eq_some_iff.mp hafter
  obtain ⟨hactions, hrest⟩ := Prod.mk.inj hcleared
  obtain ⟨_, hmask⟩ := Prod.mk.inj hrest
  rcases hstates.last hrun .policies with hmarked | hsame
  · exact hmarked hmask
  · obtain ⟨_, hrows⟩ := Prod.mk.inj hsame
    obtain ⟨heq, _⟩ := Prod.mk.inj hrows
    have hone : guardedLab.policyActions.length = 1 := (Prod.mk.inj hshown).1
    have hlength : after.policyActions.length = guardedLab.policyActions.length :=
      congrArg List.length heq
    omega

end WireLab
