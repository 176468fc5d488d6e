import WireLab.Logic.ReportDocument
import WireLab.Theorems.BenchmarkReports

/-!
# Exported reports

A report is exported twice, as a JSON document and as a table. The two say the same of
every backend that was measured, column by column, and the provenance is that of the
rows, whatever commands a session has had.
-/

namespace WireLab

open Base Base.Json

variable {δ β τ : Type}

/-! ## What the rows tell -/

namespace BenchmarkReport

open BenchmarkRun

variable {env : SessionEnvironment δ β τ} {report : BenchmarkReport β τ} {run : BenchmarkRun β τ}

/-- The rows and the results are those of the scenario in the provenance, each over all
its packets; a report that runs measures just that. -/
structure Described (report : BenchmarkReport β τ) : Prop where
  rows : ∀ row ∈ report.rows, row.backendLabel = SessionDetail.benchmarkBackendLabel row.backendId ∧
    row.scenario = report.provenance.scenario ∧ row.packets = report.provenance.packets
  results : ∀ result ∈ report.results, result.scenario = report.provenance.scenario ∧
    result.completedPackets = report.provenance.packets
  named : report.results = [] ∨
    ∃ scenario : TrafficScenario, report.provenance.scenario = scenario.toString
  tabulated : report.rows.length = report.results.length
  going : report.running = true →
    report.provenance.scenario = report.config.traffic.scenario.toString ∧
      report.provenance.packets = report.config.packetCount

/-- Arming moves on in the queue, and changes nothing else that is told. -/
theorem beginBackends_frame (env : SessionEnvironment δ β τ) (labels : List Bytes)
    (report : BenchmarkReport β τ) :
    ∃ run stage completedPackets index, (beginBackends env labels report).2 =
      { report with run, stage, completedPackets, index } := by
  induction labels generalizing report with
  | nil => exact ⟨_, _, _, _, rfl⟩
  | cons label rest ih =>
      unfold beginBackends
      split
      · exact ⟨_, _, _, _, rfl⟩
      · exact ⟨_, _, _, _, rfl⟩
      · obtain ⟨run, stage, completedPackets, index, hrest⟩ := ih
          { report with
            completedPackets := report.completedPackets + report.config.packetCount
            index := report.index + 1 }
        exact ⟨run, stage, completedPackets, index, hrest⟩

theorem Described.beginNext (h : report.Described) (env : SessionEnvironment δ β τ) :
    (report.beginNext env).2.Described := by
  obtain ⟨run, stage, completedPackets, index, hframe⟩ :=
    beginBackends_frame env (report.queue.drop report.index) report
  rw [BenchmarkReport.beginNext, hframe]
  exact ⟨h.rows, h.results, h.named, h.tabulated, h.going⟩

/-- The last slice of a run adds its result, which is over all its packets. -/
theorem Described.advanced (h : report.Described) (harmed : Armed env report run)
    (hrunning : report.running = true) (hbudget : 0 < report.sliceBudget.toNat)
    (latencyNs : Nat → UInt64) (sliceNs : UInt64) :
    (report.advanced latencyNs sliceNs run).Described := by
  obtain ⟨moved, run', hadvance, hsized, hconfig, -⟩ :=
    advance_counts latencyNs sliceNs harmed.sized harmed.unfinished hbudget
  obtain ⟨label, -, -, hrun⟩ := harmed.label
  obtain ⟨hscenario, hpackets⟩ := h.going hrunning
  unfold BenchmarkReport.advanced
  simp only [hadvance]
  split
  · next hfinished =>
      have hall : run'.completedPackets = report.provenance.packets := by
        rw [finished_eq_true] at hfinished
        have hwithin := hsized.completed
        rw [hconfig, harmed.packetCount] at hfinished hwithin
        rw [hpackets, ← UInt64.toNat_inj]
        omega
      have hresults : ∀ result ∈ report.results ++ [run'.result],
          result.scenario = report.provenance.scenario ∧
            result.completedPackets = report.provenance.packets := by
        intro result hresult
        rcases List.mem_append.mp hresult with hold | hnew
        · exact h.results result hold
        · obtain rfl := List.mem_singleton.mp hnew
          refine ⟨?_, hall⟩
          show run'.config.traffic.scenario.toString = _
          rw [hconfig, hrun, hscenario]
      refine ⟨?_, hresults, .inr ⟨_, hscenario⟩, List.length_map _, h.going⟩
      intro row hrow
      obtain ⟨result, hresult, rfl⟩ := List.mem_map.mp hrow
      exact ⟨rfl, hresults result hresult⟩
  · exact ⟨h.rows, h.results, h.named, h.tabulated, h.going⟩

theorem Described.finished (h : report.Described) : report.finished.Described :=
  ⟨h.rows, h.results, h.named, h.tabulated, fun hrunning => absurd hrunning Bool.false_ne_true⟩

theorem started_described (env : SessionEnvironment δ β τ) (generatedAt : Bytes)
    (config : BenchmarkConfig) (report : BenchmarkReport β τ) :
    (report.started env generatedAt config).Described :=
  ⟨fun _ hnone => absurd hnone List.not_mem_nil, fun _ hnone => absurd hnone List.not_mem_nil,
    .inl rfl, rfl, fun _ => ⟨rfl, rfl⟩⟩

end BenchmarkReport

namespace Session

open BenchmarkReport

variable {env : SessionEnvironment δ β τ} {session : Session δ β τ}

theorem advanceReport_described {run : BenchmarkRun β τ} (h : session.report.Described)
    (harmed : BenchmarkReport.Armed env session.report run) (hrunning : session.report.running = true)
    (hbudget : 0 < session.report.sliceBudget.toNat) (latencyNs : Nat → UInt64)
    (sliceNs : UInt64) :
    (session.advanceReport env latencyNs sliceNs run).2.report.Described := by
  have hadvanced := h.advanced harmed hrunning hbudget latencyNs sliceNs
  unfold advanceReport
  simp only
  split
  · exact ⟨hadvanced.rows, hadvanced.results, hadvanced.named, hadvanced.tabulated,
      hadvanced.going⟩
  · have hbegun := hadvanced.beginNext env
    generalize (session.report.advanced latencyNs sliceNs run).beginNext env = result at hbegun
    obtain ⟨begun, report⟩ := result
    cases begun with
    | armed => exact ⟨hbegun.rows, hbegun.results, hbegun.named, hbegun.tabulated, hbegun.going⟩
    | exhausted => exact hbegun.finished
    | threw => exact hbegun

theorem runReportStep_described (haccounted : Accounted env session.report)
    (h : session.report.Described) (latencyNs : Nat → UInt64) (sliceNs : UInt64) :
    (session.runReportStep env latencyNs sliceNs).2.report.Described := by
  by_cases hrunning : session.report.running = true
  · have hbudget := (haccounted.going hrunning).1
    unfold runReportStep
    rw [hrunning]
    rcases haccounted.stands with hunarmed | ⟨run, harmed⟩
    · simp only [Bool.not_true, Bool.false_eq_true, if_false, hunarmed.unarmed]
      have harming := beginNext_arming hunarmed
      have hbegun := h.beginNext env
      generalize session.report.beginNext env = result at harming hbegun
      cases harming with
      | @armed report' run harmed same =>
          simp only [harmed.armed]
          rw [← same.sliceBudget] at hbudget
          rw [← same.running] at hrunning
          exact advanceReport_described hbegun harmed hrunning hbudget latencyNs sliceNs
      | exhausted => exact hbegun.finished
      | threw => exact hbegun
    · simp only [Bool.not_true, Bool.false_eq_true, if_false, harmed.armed]
      exact advanceReport_described h harmed hrunning hbudget latencyNs sliceNs
  · rw [runReportStep_idle (by simpa using hrunning)]
    exact h

theorem runBenchmarkReport_described (h : session.report.Described) (scenario : Bytes)
    (packets batchSize frameSize seed : Int32) (generatedAt : Bytes) :
    (session.runBenchmarkReport env scenario packets batchSize frameSize seed
      generatedAt).2.report.Described := by
  unfold runBenchmarkReport
  split
  · exact h
  · split
    · exact h
    · next parsed hparsed =>
        split
        · exact h
        · have hbegun := (started_described env generatedAt (BenchmarkReport.configured parsed
            packets batchSize frameSize seed) session.report).beginNext env
          simp only
          generalize (session.report.started env generatedAt (BenchmarkReport.configured parsed
            packets batchSize frameSize seed)).beginNext env = result at hbegun
          obtain ⟨begun, report⟩ := result
          cases begun with
          | armed => exact hbegun
          | exhausted => exact hbegun.finished
          | threw => exact hbegun

/-- **The rows are those of the provenance**, after any run of the commands. -/
theorem described_inductive (env : SessionEnvironment δ β τ)
    (hlabels : env.availableBackends.length ≤ 2 ^ 33) :
    (sessionCommands env).Inductive fun session =>
      Accounted env session.report ∧ session.report.Described where
  init session hinit := by
    refine ⟨(accounted_inductive env hlabels).init session hinit, ?_⟩
    obtain ⟨now, rfl⟩ := hinit
    exact ⟨fun _ hnone => absurd hnone List.not_mem_nil, fun _ hnone => absurd hnone
      List.not_mem_nil, .inl rfl, rfl, fun hrunning => absurd hrunning Bool.false_ne_true⟩
  step session command session' h hstep := by
    refine ⟨(accounted_inductive env hlabels).step session command session' h.1 hstep, ?_⟩
    obtain rfl := Option.some.inj hstep
    by_cases hreports : command.reports = true
    · cases command with
      | runBenchmarkReport scenario packets batchSize frameSize seed generatedAt =>
          exact runBenchmarkReport_described h.2 scenario packets batchSize frameSize seed
            generatedAt
      | runReportStep latencyNs sliceNs => exact runReportStep_described h.1 h.2 latencyNs sliceNs
      | exportReport jsonWritten csvWritten path =>
          obtain ⟨exportPath, hsame⟩ := exportReport_report session jsonWritten csvWritten path
          show (session.exportReport jsonWritten csvWritten path).2.report.Described
          rw [hsame]
          exact ⟨h.2.rows, h.2.results, h.2.named, h.2.tabulated, h.2.going⟩
      | _ => cases hreports
    · show (command.perform env session).2.report.Described
      rw [perform_report (by simpa using hreports)]
      exact h.2

end Session

/-! ## The table -/

/-- What a text of lines and cells says: every line ends with a newline, and there are
commas between its cells. -/
def csvTable (text : Bytes) : List (List Bytes) :=
  (text.splitOn newline).dropLast.map fun line => line.splitOn comma

namespace ReportText

/-- A text that a cell can hold as it is. -/
def Cell (text : Bytes) : Prop := comma ∉ text ∧ newline ∉ text

instance (text : Bytes) : Decidable (Cell text) := inferInstanceAs (Decidable (_ ∧ _))

theorem csvLine_eq {fields : List Bytes} (h : fields ≠ []) :
    csvLine fields = [comma].intercalate fields ++ [newline] := by
  induction fields with
  | nil => exact absurd rfl h
  | cons field fields ih =>
      cases fields with
      | nil => rw [csvLine, List.intercalate_singleton]; rfl
      | cons next fields =>
          rw [csvLine, ih (List.cons_ne_nil _ _), List.intercalate_cons_cons]
          · simp only [List.append_assoc]
          · exact List.cons_ne_nil _ _

private theorem newline_notMem_intercalate {fields : List Bytes}
    (h : ∀ field ∈ fields, Cell field) : newline ∉ [comma].intercalate fields := by
  induction fields with
  | nil => exact List.not_mem_nil
  | cons field fields ih =>
      have hfield := (h field List.mem_cons_self).2
      have hrest := ih fun other hother => h other (List.mem_cons_of_mem _ hother)
      cases fields with
      | nil => rwa [List.intercalate_singleton]
      | cons next fields =>
          rw [List.intercalate_cons_cons]
          simp only [List.mem_append, List.mem_singleton, not_or]
          exact ⟨⟨hfield, by decide⟩, hrest⟩

/-- **A table reads as its lines.** -/
theorem csvTable_lines {lines : List (List Bytes)}
    (h : ∀ line ∈ lines, line ≠ [] ∧ ∀ field ∈ line, Cell field) :
    csvTable (lines.flatMap csvLine) = lines := by
  have hsplit : (lines.flatMap csvLine).splitOn newline =
      lines.map (fun line => [comma].intercalate line) ++ [[]] := by
    induction lines with
    | nil => exact List.splitOn_nil _
    | cons line lines ih =>
        obtain ⟨hline, hcells⟩ := h line List.mem_cons_self
        rw [List.flatMap_cons, csvLine_eq hline, List.append_assoc, List.singleton_append,
          List.splitOn_append_cons_self_of_not_mem (newline_notMem_intercalate hcells),
          ih fun other hother => h other (List.mem_cons_of_mem _ hother)]
        rfl
  rw [csvTable, hsplit, List.dropLast_concat, List.map_map]
  conv_rhs => rw [← List.map_id lines]
  refine List.map_congr_left fun line hline => ?_
  obtain ⟨hne, hcells⟩ := h line hline
  exact List.splitOn_intercalate comma (fun field hfield => (hcells field hfield).1) hne

/-! ## What the rows print -/

private theorem labels_cells : ∀ label ∈ [bytes "CUDA", bytes "Metal", bytes "Metal (live)",
    bytes "CPU"], Cell label := by decide +kernel

private theorem label_cell (id : Bytes) : Cell (SessionDetail.benchmarkBackendLabel id) := by
  refine labels_cells _ ?_
  unfold SessionDetail.benchmarkBackendLabel
  split
  · simp
  · split
    · simp
    · split
      · simp
      · simp

private theorem scenario_cell (scenario : TrafficScenario) : Cell scenario.toString := by
  have hcells : ∀ scenario ∈ [TrafficScenario.knownUnicast, .broadcast, .unknownUnicast, .mixed,
      .udpFlood, .portScan, .broadcastStorm], Cell scenario.toString := by decide +kernel
  cases scenario <;> exact hcells _ (by simp)

private theorem decimal_cell (n : Nat) : Cell (decimal n) :=
  ⟨fun hcomma => absurd (isDigit_of_mem_decimal hcomma) (by decide),
    fun hnewline => absurd (isDigit_of_mem_decimal hnewline) (by decide)⟩

private theorem columns_cells : (csvColumns.map bytes).Nodup ∧
    ∀ column ∈ csvColumns.map bytes, Cell column := by decide +kernel

private theorem fields_cells {format : NumberFormat} (hgeneral : ∀ x, Cell (format.general x))
    {row : ReportRow} (hlabel : Cell row.backendLabel) (hscenario : Cell row.scenario) :
    ∀ field ∈ csvFields format row, Cell field := by
  simp only [csvFields, List.forall_mem_cons, List.not_mem_nil, false_implies, implies_true,
    and_true, hlabel, hscenario, hgeneral, decimal_cell]

/-! ## Agreement -/

/-- A value of a document and a cell of a table agree: they are the same text or count,
or print the same double. -/
inductive Agrees (format : NumberFormat) : Tree → Bytes → Prop
  | text (value : Bytes) : Agrees format (.string value) value
  | count (n : UInt64) : Agrees format (count n) (decimal n.toNat)
  | measure (x : Float) : Agrees format (.word (format.json x)) (format.general x)

/-- A line agrees with the members of an object, column by column. -/
def LineAgrees (format : NumberFormat) (columns : List Bytes) (members : List (Bytes × Tree))
    (line : List Bytes) : Prop :=
  List.Forall₂ (fun column cell => ∃ value, (column, value) ∈ members ∧ Agrees format value cell)
    columns line

theorem row_agrees (format : NumberFormat) (row : ReportRow) :
    LineAgrees format (csvColumns.map bytes) (rowMembers format row) (csvFields format row) := by
  simp only [LineAgrees, csvColumns, csvFields, List.map_cons, List.map_nil, List.forall₂_cons,
    List.forall₂_nil_left_iff, and_true]
  -- a column is a text, a count or a measure of the row
  and_intros
  all_goals
    first
    | refine ⟨_, ?_, .count _⟩
    | refine ⟨_, ?_, .measure _⟩
    | refine ⟨_, ?_, .text _⟩
    simp [rowMembers]

/-- What an export says: the document reads as one tree, the table as columns and lines,
and a line agrees with an object for every result, in order. All objects are of the
scenario and the packets in the provenance. -/
structure Exported (format : NumberFormat) (measured : Nat) (json csv : Bytes)
    (provenance : List (Bytes × Tree)) (results : List (List (Bytes × Tree)))
    (columns : List Bytes) (lines : List (List Bytes)) : Prop where
  reads : ∀ tree : Tree, tree.Document json ↔
    tree = .object [(bytes "provenance", .object provenance),
      (bytes "results", .array (results.map .object))]
  table : csvTable csv = columns :: lines
  unrepeated : columns.Nodup
  measured : results.length = measured
  agree : List.Forall₂ (LineAgrees format columns) results lines
  described : ∀ members ∈ results, ∀ key ∈ [bytes "scenario", bytes "packets"],
    ∃ value, (key, value) ∈ members ∧ (key, value) ∈ provenance

/-- A session whose report has been exported. -/
theorem exportedFiles_of_exported {format : NumberFormat} {session : Session δ β τ} {path : Bytes}
    (h : (session.exportReport true true path).1 = true) :
    session.exportedFiles format true true path =
      [(Session.reportPath path ++ bytes ".json",
          reportJson format session.report.provenance session.report.rows),
        (Session.reportPath path ++ bytes ".csv", reportCsv format session.report.rows)] := by
  unfold Session.exportReport at h
  unfold Session.exportedFiles
  split at h
  · cases h
  · next hrows =>
      simp only at h ⊢
      split at h
      · cases h
      · next hpath =>
          rw [if_neg]
          · rfl
          · rintro (hnone | hnone | hnone)
            · exact hrows hnone
            · exact hpath hnone
            · cases hnone

end ReportText

open ReportText in
/-- **An exported report says one thing twice.** In every session that commands can lead
to, an export writes a document that reads as one JSON tree and a table whose lines agree
with the objects of the tree, column by column, with a line and an object for every
result, all of the scenario and the packets that the provenance names. -/
theorem exported_report_agrees (env : SessionEnvironment δ β τ)
    (hlabels : env.availableBackends.length ≤ 2 ^ 33) {format : NumberFormat}
    (hgeneral : ∀ measure, Cell (format.general measure)) {session : Session δ β τ}
    (h : (sessionCommands env).Reachable session)
    (hprintable : ∀ row ∈ session.report.rows, row.Printable format) {path : Bytes}
    (hexported : (session.exportReport true true path).1 = true) :
    ∃ json csv provenance results columns lines,
      session.exportedFiles format true true path =
          [(Session.reportPath path ++ bytes ".json", json),
            (Session.reportPath path ++ bytes ".csv", csv)] ∧
        Exported format session.report.results.length json csv provenance results columns lines := by
  obtain ⟨-, hdescribed⟩ := (Session.described_inductive env hlabels).invariant session h
  obtain ⟨hunrepeated, hcolumns⟩ := columns_cells
  refine ⟨_, _, provenanceMembers session.report.provenance,
    session.report.rows.map (rowMembers format), csvColumns.map bytes,
    session.report.rows.map (csvFields format), exportedFiles_of_exported hexported, ?_⟩
  have hdocument := reportJson_document session.report.provenance hprintable
  -- with a row there is a result, and with a result the scenario is one of those
  have hcells : ∀ row ∈ session.report.rows, ∀ field ∈ csvFields format row, Cell field := by
    intro row hrow
    obtain ⟨hlabel, hscenario, -⟩ := hdescribed.rows row hrow
    have hnamed : ∃ scenario : TrafficScenario,
        session.report.provenance.scenario = scenario.toString := by
      rcases hdescribed.named with hnone | hnamed
      · have hlength := hdescribed.tabulated
        rw [hnone] at hlength
        rw [List.length_eq_zero_iff.mp hlength] at hrow
        exact absurd hrow List.not_mem_nil
      · exact hnamed
    obtain ⟨scenario, hnamed⟩ := hnamed
    refine fields_cells hgeneral ?_ ?_
    · rw [hlabel]
      exact label_cell _
    · rw [hscenario, hnamed]
      exact scenario_cell scenario
  refine ⟨?_, ?_, hunrepeated, ?_, ?_, ?_⟩
  · intro tree
    rw [List.map_map]
    constructor
    · exact fun hread => hread.unique hdocument
    · rintro rfl
      exact hdocument
  · have hlines := @csvTable_lines
      (csvColumns.map bytes :: session.report.rows.map (csvFields format)) (by
        intro line hline
        rcases List.mem_cons.mp hline with rfl | hline
        · exact ⟨List.cons_ne_nil _ _, hcolumns⟩
        · obtain ⟨row, hrow, rfl⟩ := List.mem_map.mp hline
          exact ⟨List.cons_ne_nil _ _, hcells row hrow⟩)
    rwa [List.flatMap_cons, List.flatMap_map] at hlines
  · rw [List.length_map, hdescribed.tabulated]
  · rw [List.forall₂_map_left_iff, List.forall₂_map_right_iff, List.forall₂_same]
    exact fun row _ => row_agrees format row
  · intro members hmembers key hkey
    obtain ⟨row, hrow, rfl⟩ := List.mem_map.mp hmembers
    obtain ⟨-, hscenario, hpackets⟩ := hdescribed.rows row hrow
    simp only [List.mem_cons, List.not_mem_nil, or_false] at hkey
    rcases hkey with rfl | rfl
    · exact ⟨.string row.scenario, by simp [rowMembers], by simp [provenanceMembers, hscenario]⟩
    · exact ⟨count row.packets, by simp [rowMembers], by simp [provenanceMembers, hpackets]⟩

/-- Doubles that all print as zero. -/
def zeroFormat : NumberFormat where
  general _ := decimal 0
  json _ := decimal 0

open ReportText in
theorem exported_report_agrees_lostGpu : ∃ session,
    (sessionCommands lostGpu).exec (Session.create 0) lostGpuCalls = some session ∧
      session.report.results.length = 1 ∧
      ∃ json csv provenance results columns lines,
        session.exportedFiles zeroFormat true true (bytes "lab.json") =
            [(Session.reportPath (bytes "lab.json") ++ bytes ".json", json),
              (Session.reportPath (bytes "lab.json") ++ bytes ".csv", csv)] ∧
          Exported zeroFormat session.report.results.length json csv provenance results columns
            lines := by
  obtain ⟨session, hsession⟩ := TSys.exec_returns (T := sessionCommands lostGpu)
    (fun session command => ⟨_, rfl⟩) lostGpuCalls (Session.create 0)
  have hmeasured : ((sessionCommands lostGpu).exec (Session.create 0) lostGpuCalls).map
      (fun session => (session.report.results.length,
        (session.exportReport true true (bytes "lab.json")).1)) = some (1, true) := by
    decide +kernel
  rw [hsession] at hmeasured
  obtain ⟨hone, hexported⟩ := Prod.mk.inj (Option.some.inj hmeasured)
  have hzero : Json.NumberText (decimal 0) :=
    ⟨[], decimal 0, [], [], by simp, decimal_integerText 0, .inl rfl, .inl rfl, by simp⟩
  exact ⟨session, hsession, hone,
    exported_report_agrees lostGpu (by decide) (fun _ => decimal_cell 0)
      (.exec (.init ⟨0, rfl⟩) hsession) (fun _ _ _ _ => hzero) hexported⟩

end WireLab
