import WireLab.Logic.SessionRuns

/-!
# What a session publishes

The values that each bit of the mask covers (`published`), and what a call may owe:
`Reports owed` says that every value it changes is covered by a bit that is raised,
but for the bits in `owed`. The helpers of a session are followed one by one;
`reports_perform` puts them together, and `Unreported` is what is left owing.
-/

namespace WireLab

open Base

variable {δ β τ : Type}

theorem SessionDirty.bit_ne_zero (flag : SessionDirty) : flag.bit ≠ 0 := by
  cases flag <;> decide

/-- The bits of two flags have nothing in common. -/
theorem SessionDirty.bit_and_bit {f g : SessionDirty} (h : f ≠ g) : f.bit &&& g.bit = 0 := by
  cases f <;> cases g <;> first | rfl | exact absurd rfl h

namespace Session

/-- What a bit covers. -/
abbrev Published : SessionDirty → Type
  | .topology => Bytes × List NodeRow × List LinkRow
  | .selection => SelectionKind × Bytes × Bytes × Bytes × Bytes
  | .status => Bytes
  | .trafficState => Bool × Bytes
  | .telemetry => List MetricSample × List MacTableRow × List PortStateRow × List PacketRow ×
      List AnomalyRow × Bytes
  | .faults => List FaultRow
  | .policies => List PolicyRow × List PolicyActionRow × List EnforcedPortRow
  | .report => List ReportRow × Float × Bytes

/-- The values that the bit of a flag covers. -/
def published (session : Session δ β τ) : (flag : SessionDirty) → Published flag
  | .topology =>
      (session.topologyConfiguration.name, session.topologyNodes, session.topologyLinks)
  | .selection => (session.selectionKind, session.selectedId, session.selectedFirst,
      session.selectedSecond, session.selectedSummary)
  | .status => session.statusMessage
  | .trafficState => (session.trafficRunning, session.activeBackend)
  | .telemetry => (session.metricsHistory, session.macTable, session.portStates,
      session.packetRows, session.anomalyRows, session.trafficResult)
  | .faults => session.activeFaults
  | .policies => (session.policyRules, session.policyActions, session.enforcedPorts)
  | .report => (session.report.rows, session.report.progress, session.report.stage)

/-- The mask contains the bit of a flag. -/
def marked (session : Session δ β τ) (flag : SessionDirty) : Prop :=
  session.dirty &&& flag.bit ≠ 0

/-- A flag that is raised is marked, and no other. -/
theorem marked_mark (session : Session δ β τ) (flag other : SessionDirty) :
    (session.mark flag).marked other ↔ other = flag ∨ session.marked other := by
  have hdistrib : (session.dirty ||| flag.bit) &&& other.bit =
      (session.dirty &&& other.bit) ||| (flag.bit &&& other.bit) :=
    UInt32.toBitVec_inj.mp BitVec.and_or_distrib_right
  show (session.dirty ||| flag.bit) &&& other.bit ≠ 0 ↔ _
  rw [hdistrib, Ne, UInt32.or_eq_zero_iff, not_and_or]
  by_cases heq : other = flag
  · subst heq
    have hbit : other.bit &&& other.bit ≠ 0 := by
      rw [UInt32.and_self]
      exact other.bit_ne_zero
    exact ⟨fun _ => .inl rfl, fun _ => .inr hbit⟩
  · rw [SessionDirty.bit_and_bit (Ne.symm heq)]
    simp only [heq, marked, not_true, or_false, false_or, ne_eq]

/-- Every value that differs is covered by a bit that is raised, but for what is owed. -/
def Reports (owed : Set SessionDirty) (before after : Session δ β τ) : Prop :=
  ∀ flag, (before.marked flag → after.marked flag) ∧
    (flag ∈ owed ∨ after.marked flag ∨ after.published flag = before.published flag)

namespace Reports

variable {owed owed' : Set SessionDirty} {a b c : Session δ β τ}

theorem mono (h : Reports owed a b) (hsub : owed ⊆ owed') : Reports owed' a b := fun flag =>
  ⟨(h flag).1, (h flag).2.imp_left fun hmem => hsub hmem⟩

/-- What is owed may be settled flag by flag: a bit is raised, or nothing has changed. -/
theorem resolve (h : Reports owed a b) (hsettled : ∀ flag ∈ owed,
    flag ∈ owed' ∨ b.marked flag ∨ b.published flag = a.published flag) : Reports owed' a b := by
  intro flag
  obtain ⟨hkept, hflag⟩ := h flag
  exact ⟨hkept, hflag.elim (hsettled flag) .inr⟩

theorem trans (hab : Reports owed a b) (hbc : Reports owed b c) : Reports owed a c := by
  intro flag
  obtain ⟨hkept, hfirst⟩ := hab flag
  obtain ⟨hkept', hsecond⟩ := hbc flag
  refine ⟨hkept' ∘ hkept, ?_⟩
  rcases hfirst with howed | hmarked | hsame
  · exact .inl howed
  · exact .inr (.inl (hkept' hmarked))
  · rcases hsecond with howed | hmarked | hsame'
    · exact .inl howed
    · exact .inr (.inl hmarked)
    · exact .inr (.inr (hsame'.trans hsame))

/-- A helper that raises no bit owes what it changes. -/
theorem of_silent (hdirty : b.dirty = a.dirty)
    (hsame : ∀ flag ∉ owed, b.published flag = a.published flag) : Reports owed a b := by
  intro flag
  have hmarked : b.marked flag ↔ a.marked flag := by rw [marked, marked, hdirty]
  refine ⟨hmarked.mpr, ?_⟩
  by_cases hmem : flag ∈ owed
  · exact .inl hmem
  · exact .inr (.inr (hsame flag hmem))

/-- Raising a bit settles it. -/
theorem mark (h : Reports owed a b) (flag : SessionDirty) :
    Reports (owed \ {flag}) a (b.mark flag) := by
  intro other
  obtain ⟨hkept, hother⟩ := h other
  have hsame : (b.mark flag).published other = b.published other := by cases other <;> rfl
  rw [marked_mark, hsame]
  refine ⟨fun hmarked => .inr (hkept hmarked), ?_⟩
  by_cases heq : other = flag
  · exact .inr (.inl (.inl heq))
  · rcases hother with howed | hmarked | hsame'
    · exact .inl ⟨howed, heq⟩
    · exact .inr (.inl (.inr hmarked))
    · exact .inr (.inr hsame')

/-- Raising the bit of what is owed leaves nothing owing. -/
theorem settle {flag : SessionDirty} (h : Reports {flag} a b) : Reports ∅ a (b.mark flag) :=
  (h.mark flag).mono fun _ hother => (hother.2 hother.1).elim

/-- What owes nothing owes nothing of anything. -/
theorem of_nothing (h : Reports ∅ a b) : Reports owed a b := h.mono (Set.empty_subset owed)

end Reports

/-! ## The helpers of a session -/

section
variable (session : Session δ β τ)

theorem withEngines_reports (pipeline : AnalysisPipeline) (controller : TopologyController) :
    Reports ∅ session (session.withEngines pipeline controller) :=
  .of_silent rfl fun flag _ => by cases flag <;> rfl

theorem setStatus_reports (message : Bytes) : Reports ∅ session (session.setStatus message) := by
  have hmessage : Reports {.status} session { session with statusMessage := message } :=
    .of_silent rfl fun flag hflag => by cases flag <;> first | rfl | exact absurd rfl hflag
  exact hmessage.settle

theorem withSelection_reports (kind : SelectionKind) (id first second summary : Bytes) :
    Reports ∅ session (session.withSelection kind id first second summary) := by
  have hselection : Reports {.selection} session
      { session with
        selectionKind := kind, selectedId := id, selectedFirst := first
        selectedSecond := second, selectedSummary := summary } :=
    .of_silent rfl fun flag hflag => by cases flag <;> first | rfl | exact absurd rfl hflag
  exact hselection.settle

theorem rebuildFaultRows_reports : Reports ∅ session session.rebuildFaultRows := by
  have hrows : Reports {.faults} session
      { session with activeFaults := faultRows session.topologyController } :=
    .of_silent rfl fun flag hflag => by cases flag <;> first | rfl | exact absurd rfl hflag
  exact hrows.settle

theorem rebuildPolicyRows_reports : Reports ∅ session session.rebuildPolicyRows := by
  have hrows : Reports {.policies} session
      { session with
        policyRules := policyRows session.analysisPipeline.policies
        enforcedPorts := enforcedPortRows session.analysisPipeline.enforcer } :=
    .of_silent rfl fun flag hflag => by cases flag <;> first | rfl | exact absurd rfl hflag
  exact hrows.settle

theorem withReport_reports (report : BenchmarkReport β τ) :
    Reports {.report} session (session.withReport report) :=
  .of_silent rfl fun flag hflag => by cases flag <;> first | rfl | exact absurd rfl hflag

theorem withPath_reports (path : Bytes) : Reports ∅ session (session.withPath path) :=
  .of_silent rfl fun flag _ => by cases flag <;> rfl

/-! ### Traffic -/

theorem stopTraffic_reports : Reports ∅ session session.stopTraffic := by
  unfold stopTraffic
  split
  · exact .of_silent rfl fun flag _ => by cases flag <;> rfl
  · have hstopped : Reports {.trafficState} session { session with trafficRunning := false } :=
      .of_silent rfl fun flag hflag => by cases flag <;> first | rfl | exact absurd rfl hflag
    exact (hstopped.trans (setStatus_reports _ _).of_nothing).settle

/-- Traffic that runs is reported, with its backend. -/
theorem Reports.runTraffic {before session : Session δ β τ}
    (h : Reports {.trafficState} before session) : Reports ∅ before session.runTraffic := by
  have hrunning : Reports {.trafficState} session { session with trafficRunning := true } :=
    .of_silent rfl fun flag hflag => by cases flag <;> first | rfl | exact absurd rfl hflag
  exact ((h.trans hrunning).trans (setStatus_reports _ _).of_nothing).settle

/-- Up to the pipeline, a tick changes nothing but telemetry. -/
theorem analysed_reports (generator : DeterministicTrafficGenerator) (arrival : Int)
    (analyzer : Option (TrafficAnalyzer δ)) (analysis : AnalysisBatch) :
    Reports {.telemetry} session (session.analysed generator arrival analyzer analysis) :=
  .of_silent rfl fun flag hflag => by cases flag <;> first | rfl | exact absurd rfl hflag

theorem analysed_policyActions (generator : DeterministicTrafficGenerator) (arrival : Int)
    (analyzer : Option (TrafficAnalyzer δ)) (analysis : AnalysisBatch) :
    (session.analysed generator arrival analyzer analysis).policyActions = session.policyActions :=
  rfl

/-- What a pipeline answers that neither released nor enforced anything adds no row. -/
theorem newest_nothing {α : Type} {limit : Nat} {entries : List α} (h : entries.length ≤ limit) :
    newest limit (entries ++ [] ++ []) = entries := by
  rw [List.append_nil, List.append_nil, newest, Nat.sub_eq_zero_of_le h, List.drop_zero]

/-- The rows of the policies are rebuilt whenever there are new ones. -/
theorem showOutcome_reports {session : Session δ β τ} (h : session.policyActions.length ≤ 200)
    (outcome : AnalysisOutcome) : Reports {.telemetry} session (session.showOutcome outcome) := by
  unfold showOutcome
  split
  · have hrows : Reports {.telemetry, .policies} session (session.withOutcome outcome) := by
      refine .of_silent rfl ?_
      intro flag hflag
      cases flag with
      | policies => exact absurd (.inr rfl) hflag
      | telemetry => exact absurd (.inl rfl) hflag
      | _ => rfl
    have hfaults := hrows.trans (rebuildFaultRows_reports _).of_nothing
    have hpolicies := hfaults.trans (rebuildPolicyRows_reports _).of_nothing
    refine hpolicies.resolve ?_
    rintro flag (rfl | rfl)
    · exact .inl rfl
    · exact .inr (.inl ((marked_mark _ _ _).mpr (.inl rfl)))
  · next hnothing =>
      obtain ⟨hreleased, henforced⟩ : outcome.released = [] ∧ outcome.enforced = [] := by
        simpa using hnothing
      refine .of_silent rfl ?_
      intro flag hflag
      cases flag with
      | policies =>
          simp only [published, withOutcome, hreleased, henforced, List.map_nil, newest_nothing h]
      | telemetry => exact absurd rfl hflag
      | _ => rfl

/-- The last of a tick settles the telemetry. -/
theorem Reports.showTraffic {before session : Session δ β τ}
    (h : Reports {.telemetry} before session) (env : SessionEnvironment δ β τ)
    (throughputMbps averageLatencyMs : Float) :
    Reports ∅ before (session.showTraffic env throughputMbps averageLatencyMs) := by
  have hrows : Reports {.telemetry} session
      { session with
        portStates := session.portStateRows
        trafficResult := trafficSummary env session throughputMbps averageLatencyMs } :=
    .of_silent rfl fun flag hflag => by cases flag <;> first | rfl | exact absurd rfl hflag
  exact (h.trans hrows).settle

/-! ### A new topology -/

/-- The simulation is forgotten with the actions and the ports of the policies, which
the bit it raises does not cover. -/
theorem resetSimulation_reports (now : Int) :
    Reports {.policies} session (session.resetSimulation now) := by
  let cleared : Session δ β τ := { session.resetSimulation now with dirty := session.dirty }
  have hcleared : Reports {.policies, .telemetry} session cleared := by
    refine .of_silent rfl ?_
    intro flag hflag
    cases flag with
    | policies => exact absurd (.inl rfl) hflag
    | telemetry => exact absurd (.inr rfl) hflag
    | _ => rfl
  refine (hcleared.mark .telemetry).mono ?_
  rintro flag ⟨rfl | rfl, hother⟩
  · rfl
  · exact absurd rfl hother

theorem withTopology_reports (configuration : TopologyConfiguration) (topology : Topology) :
    Reports {.topology} session (session.withTopology configuration topology) :=
  .of_silent rfl fun flag hflag => by cases flag <;> first | rfl | exact absurd rfl hflag

theorem rebuildTopologyRows_reports : Reports {.topology} session session.rebuildTopologyRows :=
  .of_silent rfl fun flag hflag => by cases flag <;> first | rfl | exact absurd rfl hflag

/-- A new topology is reported, but for the rows of the policies that it clears. -/
theorem replaceTopology_reports (configuration : TopologyConfiguration) (topology : Topology)
    (message : Bytes) (now : Int) :
    Reports {.policies} session (session.replaceTopology configuration topology message now) := by
  have hname : ∀ s : Session δ β τ,
      Reports {.policies, .topology} s (s.withTopology configuration topology) := fun s =>
    (s.withTopology_reports configuration topology).mono (Set.singleton_subset_iff.mpr (.inr rfl))
  have hrows : ∀ s : Session δ β τ,
      Reports {.policies, .topology} s s.rebuildTopologyRows := fun s =>
    s.rebuildTopologyRows_reports.mono (Set.singleton_subset_iff.mpr (.inr rfl))
  have hreset : ∀ s : Session δ β τ,
      Reports {.policies, .topology} s (s.resetSimulation now) := fun s =>
    (s.resetSimulation_reports now).mono (Set.singleton_subset_iff.mpr (.inl rfl))
  have hstopped := session.stopTraffic_reports.of_nothing.trans (hname _)
  have hcleared := hstopped.trans (withSelection_reports _ .none [] [] [] []).of_nothing
  have hrebuilt := (hcleared.trans (hreset _)).trans (hrows _)
  have htold := (hrebuilt.trans (rebuildFaultRows_reports _).of_nothing).trans
    (setStatus_reports _ message).of_nothing
  refine (htold.mark .topology).mono ?_
  rintro flag ⟨rfl | rfl, hother⟩
  · rfl
  · exact absurd rfl hother

/-- Stopping traffic leaves the rows of the policies and their bit alone. -/
theorem stopTraffic_policies :
    session.stopTraffic.policyRules = session.policyRules ∧
      (session.stopTraffic.marked .policies ↔ session.marked .policies) := by
  unfold stopTraffic
  split
  · exact ⟨rfl, Iff.rfl⟩
  · refine ⟨rfl, ?_⟩
    rw [marked_mark, setStatus, marked_mark]
    exact (or_iff_right (by decide)).trans (or_iff_right (by decide))

/-- What a new topology leaves of the policies: their rules, and the bit as it was. -/
theorem replaceTopology_policies (configuration : TopologyConfiguration) (topology : Topology)
    (message : Bytes) (now : Int) :
    (session.replaceTopology configuration topology message now).published .policies =
        (session.policyRules, [], []) ∧
      ((session.replaceTopology configuration topology message now).marked .policies ↔
        session.marked .policies) := by
  obtain ⟨hrules, hmarked⟩ := session.stopTraffic_policies
  constructor
  · exact congrArg (fun rules => (rules, [], [])) hrules
  · show ((((((session.stopTraffic.mark .selection).mark .telemetry).mark .faults).mark
      .status).mark .topology).marked .policies) ↔ _
    simp only [marked_mark, hmarked, reduceCtorEq, false_or]

end
end Session
end WireLab
