import WireLab.Logic.SessionRuns

/-!
# The rows and the engines

What a session shows of its rules, leases, faults and ports is a copy (`Mirrors`),
rebuilt by whoever changes an engine. Two calls forget a part of it: an edit of the
topology resets the hits of the rules and leaves their rows, and a release by hand
takes a lease and leaves the rows of the ports. Every other call keeps the copy, so
that a run mirrors its engines exactly where these two have nothing to forget
(`rows_mirror_engines_iff`).
-/

namespace WireLab

open Base

variable {δ β τ : Type}

/-- Deciding on anomalies that have no rule counts nothing. -/
theorem PolicyEngine.evaluate_undecided {engine : PolicyEngine} {anomalies : List AnomalyEvent}
    (h : (engine.evaluate anomalies).1 = []) : (engine.evaluate anomalies).2 = engine := by
  induction anomalies with
  | nil => rfl
  | cons anomaly rest ih =>
      unfold evaluate at h ⊢
      split at h
      · exact ih h
      · cases h

namespace PolicyEnforcer

/-- A decision is answered, whatever comes of it. -/
theorem apply_unanswered {enforcer : PolicyEnforcer} {decisions : List PolicyDecision}
    {controller : TopologyController} {now : Int}
    (h : (enforcer.apply decisions controller now).1 = []) : decisions = [] := by
  cases decisions with
  | nil => rfl
  | cons decision decisions => cases h

/-- Where no lease is answered as released, none has run out. -/
theorem releaseExpired_nothing {enforcer : PolicyEnforcer} {controller : TopologyController}
    {now : Int} (h : (enforcer.releaseExpired controller now).1 = []) :
    enforcer.releaseExpired controller now = ([], enforcer, controller) := by
  have hnone : enforcer.expired now = [] := by
    have hlength : (enforcer.releaseExpired controller now).1.length =
        (enforcer.expired now).length := by
      simp only [releaseExpired, List.length_insertionSort, List.length_map]
    rw [h] at hlength
    exact List.length_eq_zero_iff.mp hlength.symm
  simp only [releaseExpired, hnone, List.map_nil, List.foldl_nil, List.insertionSort_nil]

end PolicyEnforcer

/-- A batch that releases and enforces nothing leaves rules, leases and faults alone. -/
theorem AnalysisPipeline.evaluate_quiet {pipeline after : AnalysisPipeline}
    {controller controller' : TopologyController} {batch : AnalysisBatch} {timestampNs : Nat}
    {now : Int} {outcome : AnalysisOutcome} (hattached : pipeline.attached = true)
    (h : pipeline.evaluate controller batch timestampNs now = some (outcome, after, controller'))
    (hreleased : outcome.released = []) (henforced : outcome.enforced = []) :
    after.policies = pipeline.policies ∧ after.enforcer = pipeline.enforcer ∧
      controller' = controller := by
  obtain ⟨hanalyses, ⟨hdetached, _⟩ | ⟨_, enforcer, middle, hreleases, happlies⟩⟩ :=
    evaluate_spec h
  · rw [hattached] at hdetached
    cases hdetached
  · rw [hreleased] at hreleases
    rw [henforced] at happlies
    have hquiet := PolicyEnforcer.releaseExpired_nothing (congrArg Prod.fst hreleases)
    rw [hreleases] at hquiet
    obtain ⟨rfl, rfl⟩ := Prod.mk.inj (Prod.mk.inj hquiet).2
    have hdecisions := PolicyEnforcer.apply_unanswered (congrArg Prod.fst happlies)
    have hdecided := hanalyses.decided
    rw [hdecisions] at happlies hdecided
    obtain ⟨henforcer, hcontroller⟩ := Prod.mk.inj (Prod.mk.inj happlies).2
    refine ⟨?_, henforcer.symm, hcontroller.symm⟩
    have hundecided := PolicyEngine.evaluate_undecided (congrArg Prod.fst hdecided)
    rwa [hdecided] at hundecided

namespace Session

/-- The rows say what the engines say. -/
structure Mirrors (session : Session δ β τ) : Prop where
  policyRules : session.policyRules = policyRows session.analysisPipeline.policies
  enforcedPorts : session.enforcedPorts = enforcedPortRows session.analysisPipeline.enforcer
  activeFaults : session.activeFaults = faultRows session.topologyController
  portStates : ∀ row ∈ session.portStates,
    row.enforced = session.analysisPipeline.enforcer.isEnforced row.id

/-- What a call forgets has nothing to say: an edit that is accepted finds no hits, and
a release of a lease finds no row of its port. -/
def ForgetsNothing (session : Session δ β τ) (command : SessionCommand) : Prop :=
  (session.commits command = true → ∀ rule ∈ session.analysisPipeline.policies.rules,
    session.analysisPipeline.policies.hitCount rule.name = 0) ∧
  ∀ portId, command = .releaseEnforcement portId →
    session.analysisPipeline.enforcer.isEnforced portId = true →
      ∀ row ∈ session.portStates, row.id ≠ portId

theorem Mirrors.congr {session session' : Session δ β τ} (h : session.Mirrors)
    (hrules : session'.policyRules = session.policyRules)
    (hports : session'.enforcedPorts = session.enforcedPorts)
    (hfaults : session'.activeFaults = session.activeFaults)
    (hstates : session'.portStates = session.portStates)
    (hpolicies : session'.analysisPipeline.policies = session.analysisPipeline.policies)
    (henforcer : session'.analysisPipeline.enforcer = session.analysisPipeline.enforcer)
    (hcontroller : faultRows session'.topologyController = faultRows session.topologyController) :
    session'.Mirrors where
  policyRules := by rw [hrules, hpolicies, h.policyRules]
  enforcedPorts := by rw [hports, henforcer, h.enforcedPorts]
  activeFaults := by rw [hfaults, hcontroller, h.activeFaults]
  portStates := by
    rw [hstates, henforcer]
    exact h.portStates

/-! ## Engines that every session keeps -/

variable {env : SessionEnvironment δ β τ} {session : Session δ β τ}

theorem stopTraffic_pipeline (session : Session δ β τ) :
    session.stopTraffic.analysisPipeline = session.analysisPipeline := by
  unfold stopTraffic
  split
  · rfl
  · rfl

theorem stopTraffic_mirrors (h : session.Mirrors) : session.stopTraffic.Mirrors := by
  unfold stopTraffic
  split
  · exact h
  · exact h.congr rfl rfl rfl rfl rfl rfl rfl

theorem showOutcome_pipeline (outcome : AnalysisOutcome) (session : Session δ β τ) :
    (session.showOutcome outcome).analysisPipeline = session.analysisPipeline := by
  unfold showOutcome
  split
  · rfl
  · rfl

/-- The pipeline of a session stays attached. -/
theorem attached_perform (env : SessionEnvironment δ β τ)
    (h : session.analysisPipeline.attached = true) (command : SessionCommand) :
    (command.perform env session).2.analysisPipeline.attached = true := by
  have houtcome := perform_outcome env session command
  generalize command.perform env session = result at houtcome
  cases houtcome with
  | replaced path configuration topology message now =>
      show (session.withPath path).stopTraffic.analysisPipeline.attached = true
      rw [stopTraffic_pipeline]
      exact h
  | @released _ pipeline controller message hreleased =>
      show pipeline.attached = true
      unfold AnalysisPipeline.release at hreleased
      rw [h] at hreleased
      obtain ⟨_, rfl, _⟩ := by
        simpa only [Bool.not_true, Bool.false_eq_true, if_false, Prod.mk.injEq] using hreleased
      rfl
  | stopped => exact (congrArg _ session.stopTraffic_pipeline).trans h
  | halted message => exact (congrArg _ session.stopTraffic_pipeline).trans h
  | @ticked _ _ _ _ _ outcome pipeline controller _ _ _ _ _ hevaluated =>
      show (showOutcome outcome _).analysisPipeline.attached = true
      rw [showOutcome_pipeline]
      exact (AnalysisPipeline.evaluate_spec hevaluated).1.attached.trans h
  | _ => exact h

/-! ## The calls that forget -/

/-- A reset forgets every count. -/
theorem hitCount_reset (engine : PolicyEngine) (name : Bytes) :
    engine.reset.hitCount name = 0 := by
  simp only [PolicyEngine.hitCount, PolicyEngine.reset, Dict.lookup_empty, Option.getD_none]

/-- The rows of the rules outlive a reset where nothing was counted. -/
theorem policyRows_reset (engine : PolicyEngine) :
    policyRows engine = policyRows engine.reset ↔
      ∀ rule ∈ engine.rules, engine.hitCount rule.name = 0 := by
  unfold policyRows
  show engine.rules.map _ = engine.rules.map _ ↔ _
  rw [List.map_inj_left]
  refine forall₂_congr ?_
  intro rule _
  unfold policyRow
  rw [hitCount_reset]
  constructor
  · intro heq
    exact congrArg PolicyRow.hits heq
  · intro hzero
    rw [hzero]

/-- An edit that is accepted mirrors the engines where it finds no hits. -/
theorem replaceTopology_mirrors (h : session.Mirrors) (configuration : TopologyConfiguration)
    (topology : Topology) (message : Bytes) (now : Int) :
    (session.replaceTopology configuration topology message now).Mirrors ↔
      ∀ rule ∈ session.analysisPipeline.policies.rules,
        session.analysisPipeline.policies.hitCount rule.name = 0 := by
  have hpipeline := session.stopTraffic_pipeline
  have hengine : (session.replaceTopology configuration topology message now).analysisPipeline =
      session.analysisPipeline.reset := congrArg AnalysisPipeline.reset hpipeline
  have hrules : (session.replaceTopology configuration topology message now).policyRules =
      policyRows session.analysisPipeline.policies := by
    rw [← h.policyRules]
    show session.stopTraffic.policyRules = session.policyRules
    unfold stopTraffic
    split
    · rfl
    · rfl
  rw [← policyRows_reset, ← hrules]
  constructor
  · intro hafter
    rw [hafter.policyRules, hengine]
    rfl
  · intro hreset
    exact
      { policyRules := by
          rw [hreset, hengine]
          rfl
        enforcedPorts := by
          rw [hengine]
          rfl
        activeFaults := rfl
        portStates := fun row hrow => absurd hrow List.not_mem_nil }

/-- What a release by hand makes of a session. -/
def afterRelease (pipeline : AnalysisPipeline) (controller : TopologyController) (message : Bytes)
    (session : Session δ β τ) : Session δ β τ :=
  (((session.withEngines pipeline controller).setStatus
    message).rebuildFaultRows.rebuildPolicyRows).mark .telemetry

/-- A release that finds a lease mirrors the engines where the port has no row. -/
theorem afterRelease_mirrors (h : session.Mirrors) {portId : Bytes} {pipeline : AnalysisPipeline}
    {controller : TopologyController} (message : Bytes)
    (hreleased : session.analysisPipeline.release session.topologyController portId =
      (true, pipeline, controller)) :
    (session.afterRelease pipeline controller message).Mirrors ↔
      ∀ row ∈ session.portStates, row.id ≠ portId := by
  obtain ⟨hlease, _, hport⟩ := release_found hreleased
  have henforced : ∀ other, pipeline.enforcer.isEnforced other =
      if other = portId then false else session.analysisPipeline.enforcer.isEnforced other := by
    intro other
    obtain ⟨lease, hlookup⟩ := Option.isSome_iff_exists.mp hlease
    have henforcer : pipeline.enforcer = session.analysisPipeline.enforcer.discard portId := by
      rw [releasePort_leased hlookup] at hport
      exact (Prod.mk.inj hport).1
    rw [henforcer, PolicyEnforcer.isEnforced, PolicyEnforcer.lookup_discard]
    split
    · rfl
    · rfl
  constructor
  · rintro hafter row hrow rfl
    have hsays : row.enforced = pipeline.enforcer.isEnforced row.id := hafter.portStates row hrow
    rw [henforced, if_pos rfl, h.portStates row hrow, hlease] at hsays
    cases hsays
  · intro hother
    exact
      { policyRules := rfl
        enforcedPorts := rfl
        activeFaults := rfl
        portStates := by
          intro row hrow
          show row.enforced = pipeline.enforcer.isEnforced row.id
          rw [henforced, if_neg (hother row hrow)]
          exact h.portStates row hrow }

/-! ## The calls that keep the copy -/

/-- The rows of the faults depend on the topology and its faults. -/
theorem faultRows_congr {before after : TopologyController} (h : Undisturbed before after) :
    faultRows after = faultRows before := by
  unfold faultRows
  rw [h.activeFaults]

/-- The rows of the rules, the leases and the faults say what the engines say. -/
def RowsCurrent (session : Session δ β τ) : Prop :=
  session.policyRules = policyRows session.analysisPipeline.policies ∧
    session.enforcedPorts = enforcedPortRows session.analysisPipeline.enforcer ∧
    session.activeFaults = faultRows session.topologyController

/-- Where a batch released or enforced anything the rows are rebuilt; else they have to
be right already. -/
theorem showOutcome_rowsCurrent {outcome : AnalysisOutcome} {session : Session δ β τ}
    (hquiet : outcome.released = [] → outcome.enforced = [] → session.RowsCurrent) :
    (session.showOutcome outcome).RowsCurrent := by
  unfold showOutcome
  split
  · exact ⟨rfl, rfl, rfl⟩
  · next hnothing =>
      obtain ⟨hreleased, henforced⟩ : outcome.released = [] ∧ outcome.enforced = [] := by
        simpa using hnothing
      obtain ⟨hrules, hports, hfaults⟩ := hquiet hreleased henforced
      exact ⟨hrules, hports, hfaults⟩

/-- A tick shows what its pipeline did, and every port as it stands. -/
theorem ticked_mirrors (hattached : session.analysisPipeline.attached = true) (h : session.Mirrors)
    {arrival now : Int} {generator : DeterministicTrafficGenerator} {analysis : AnalysisBatch}
    {analyzer : Option (TrafficAnalyzer δ)} {outcome : AnalysisOutcome}
    {pipeline : AnalysisPipeline} {controller : TopologyController} {elapsed : Nat}
    (throughputMbps averageLatencyMs : Float)
    (hevaluated : session.analysisPipeline.evaluate
      (session.sendTick arrival (session.tickFrames generator)).controller analysis elapsed now =
        some (outcome, pipeline, controller)) :
    ((((session.analysed generator arrival analyzer analysis).withEngines pipeline
      controller).showOutcome outcome).showTraffic env throughputMbps averageLatencyMs).Mirrors := by
  have hquiet : outcome.released = [] → outcome.enforced = [] →
      ((session.analysed generator arrival analyzer analysis).withEngines pipeline
        controller).RowsCurrent := by
    intro hreleased henforced
    obtain ⟨hpolicies, henforcer, hcontroller⟩ :=
      AnalysisPipeline.evaluate_quiet hattached hevaluated hreleased henforced
    refine ⟨?_, ?_, ?_⟩
    · show session.policyRules = policyRows pipeline.policies
      rw [hpolicies, h.policyRules]
    · show session.enforcedPorts = enforcedPortRows pipeline.enforcer
      rw [henforcer, h.enforcedPorts]
    · show session.activeFaults = faultRows controller
      rw [hcontroller, faultRows_congr (session.sendTick_undisturbed arrival _), h.activeFaults]
  obtain ⟨hrules, hports, hfaults⟩ := showOutcome_rowsCurrent hquiet
  exact
    { policyRules := hrules
      enforcedPorts := hports
      activeFaults := hfaults
      portStates := by
        intro row hrow
        obtain ⟨host, _, rfl⟩ := List.mem_map.mp hrow
        rfl }

/-- A release that finds a lease ends it. -/
theorem releaseEnforcement_found (hattached : session.analysisPipeline.attached = true)
    {portId : Bytes} (hlease : session.analysisPipeline.enforcer.isEnforced portId = true) :
    ∃ pipeline controller message,
      session.analysisPipeline.release session.topologyController portId =
        (true, pipeline, controller) ∧
      session.releaseEnforcement portId = session.afterRelease pipeline controller message := by
  have hflag : (session.analysisPipeline.release session.topologyController portId).1 = true := by
    unfold AnalysisPipeline.release
    rw [hattached]
    exact hlease
  unfold releaseEnforcement
  generalize session.analysisPipeline.release session.topologyController portId = released
    at hflag ⊢
  obtain ⟨flag, pipeline, controller⟩ := released
  obtain rfl : flag = true := hflag
  exact ⟨pipeline, controller, _, rfl, rfl⟩

/-- A call that neither commits a topology nor ends a live lease leaves the rows like the
engines: what it changes it rebuilds. -/
private theorem mirrors_perform (env : SessionEnvironment δ β τ)
    (hattached : session.analysisPipeline.attached = true) (h : session.Mirrors)
    {command : SessionCommand} (hcommits : ¬session.commits command = true)
    (hreleases : ¬∃ portId, command = .releaseEnforcement portId ∧
      session.analysisPipeline.enforcer.isEnforced portId = true) :
    (command.perform env session).2.Mirrors := by
  have houtcome := perform_outcome env session command
  generalize command.perform env session = result at houtcome
  cases houtcome with
  | replaced path configuration topology message now hrequested hcreate =>
      exact absurd (commits_iff.mpr ⟨configuration, topology, hrequested, hcreate⟩) hcommits
  | faulted controller message =>
      exact
        { policyRules := h.policyRules
          enforcedPorts := h.enforcedPorts
          activeFaults := rfl
          portStates := h.portStates }
  | policed policies message =>
      exact
        { policyRules := rfl
          enforcedPorts := rfl
          activeFaults := h.activeFaults
          portStates := h.portStates }
  | released message hreleased =>
      exact absurd ⟨_, rfl, (release_found hreleased).1⟩ hreleases
  | stopped => exact stopTraffic_mirrors h
  | halted message => exact (stopTraffic_mirrors h).congr rfl rfl rfl rfl rfl rfl rfl
  | tickThrew =>
      exact h.congr rfl rfl rfl rfl rfl rfl
        (faultRows_congr (session.sendTick_undisturbed _ _))
  | ticked throughputMbps averageLatencyMs elapsed _ _ hevaluated =>
      exact ticked_mirrors hattached h throughputMbps averageLatencyMs hevaluated
  | _ => exact h.congr rfl rfl rfl rfl rfl rfl rfl

/-- **One call keeps the rows like the engines exactly when what it forgets has nothing
to say.** -/
theorem mirrors_step (env : SessionEnvironment δ β τ)
    (hattached : session.analysisPipeline.attached = true) (h : session.Mirrors)
    (command : SessionCommand) :
    (command.perform env session).2.Mirrors ↔ session.ForgetsNothing command := by
  by_cases hcommits : session.commits command = true
  · obtain ⟨configuration, topology, hrequested, hcreate⟩ := commits_iff.mp hcommits
    obtain ⟨path, message, now, hperform⟩ := perform_accepted env hrequested hcreate
    have hmirrors : (session.withPath path).Mirrors := h.congr rfl rfl rfl rfl rfl rfl rfl
    rw [hperform, replaceTopology_mirrors hmirrors]
    constructor
    · intro hzero
      refine ⟨fun _ => hzero, ?_⟩
      rintro portId rfl
      cases hrequested
    · intro hforgets
      exact hforgets.1 hcommits
  · by_cases hreleases : ∃ portId, command = .releaseEnforcement portId ∧
        session.analysisPipeline.enforcer.isEnforced portId = true
    · obtain ⟨portId, rfl, hlease⟩ := hreleases
      obtain ⟨pipeline, controller, message, hreleased, hperform⟩ :=
        releaseEnforcement_found hattached hlease
      show (session.releaseEnforcement portId).Mirrors ↔ _
      rw [hperform, afterRelease_mirrors h message hreleased]
      constructor
      · intro hother
        refine ⟨fun htrue => absurd htrue hcommits, ?_⟩
        intro portId' hcommand _
        obtain rfl := SessionCommand.releaseEnforcement.inj hcommand
        exact hother
      · intro hforgets
        exact hforgets.2 portId rfl hlease
    · have hforgets : session.ForgetsNothing command := by
        refine ⟨fun htrue => absurd htrue hcommits, ?_⟩
        intro portId hcommand hlease
        exact absurd ⟨portId, hcommand, hlease⟩ hreleases
      refine iff_of_true ?_ hforgets
      exact mirrors_perform env hattached h hcommits hreleases

end Session

open Session

/-- **The rows of a session mirror its engines** in a run of the commands from a new
session exactly when no edit that is accepted forgets a hit, and no release by hand
forgets the row of its port. -/
theorem rows_mirror_engines_iff (env : SessionEnvironment δ β τ) (now : Int)
    (commands : List SessionCommand) :
    (sessionCommands env).States Mirrors (Session.create now) commands ↔
      (sessionCommands env).Steps (fun before command _ => before.ForgetsNothing command)
        (Session.create now) commands := by
  refine TSys.States.iff_steps (I := fun session => session.analysisPipeline.attached = true)
    ?_ ?_ commands _ rfl ?_
  · intro before command after h hstep
    obtain rfl := Option.some.inj hstep
    exact attached_perform env h command
  · intro before command after h hmirrors hstep
    obtain rfl := Option.some.inj hstep
    exact mirrors_step env h hmirrors command
  · exact ⟨rfl, rfl, rfl, fun row hrow => absurd hrow List.not_mem_nil⟩

/-- The calls that make the guarded lab, from a new session. -/
def guardedRun : List SessionCommand :=
  [.addNode (bytes "core") (bytes "switch") 1, .addNode (bytes "client") (bytes "host") 2,
   .addNode (bytes "server") (bytes "host") 3] ++ guardedCalls

/-- Where the port of a lease is released, its row still says that it is enforced; where
a node is added, the row of the rule still says that it was hit. -/
theorem rows_left_behind :
    ((sessionCommands cpuBuild).exec (Session.create 0)
        (guardedRun ++ [.releaseEnforcement (bytes "client")])).map
      (fun session => (session.portStates.any fun row => row.id = bytes "client" && row.enforced,
        session.analysisPipeline.enforcer.isEnforced (bytes "client"))) = some (true, false) ∧
    ((sessionCommands cpuBuild).exec (Session.create 0)
        (guardedRun ++ [.addNode (bytes "extra") (bytes "host") 7])).map
      (fun session => (session.policyRules.map PolicyRow.hits,
        session.analysisPipeline.policies.hitCount (bytes "guard"))) = some ([1], 0) ∧
    ¬(sessionCommands cpuBuild).States Mirrors (Session.create 0)
      (guardedRun ++ [.releaseEnforcement (bytes "client")]) := by
  have hreleased : ((sessionCommands cpuBuild).exec (Session.create 0)
      (guardedRun ++ [.releaseEnforcement (bytes "client")])).map
        (fun session => (session.portStates.any fun row => row.id = bytes "client" && row.enforced,
          session.analysisPipeline.enforcer.isEnforced (bytes "client"))) = some (true, false) := by
    decide +kernel
  refine ⟨hreleased, by decide +kernel, ?_⟩
  intro hstates
  obtain ⟨session, hrun, hleft⟩ := Option.map_eq_some_iff.mp hreleased
  obtain ⟨hshown, hlease⟩ := Prod.mk.inj hleft
  obtain ⟨row, hrow, hclient⟩ := List.any_eq_true.mp hshown
  obtain ⟨hid, henforced⟩ : row.id = bytes "client" ∧ row.enforced = true := by
    simpa using hclient
  have hsays := (hstates.last hrun).portStates row hrow
  rw [hid, hlease, henforced] at hsays
  cases hsays

end WireLab
