import WireLab.Logic.BenchmarkRuns
import WireLab.Logic.Dispatch

/-!
# What calls do to the benchmark of a service

A dispatch starts a benchmark, stops it, or does not touch it (`dispatch_benchmark`).
A slice advances it, and ends it when it has finished or is out of time
(`advanceBenchmark_ends`).
-/

namespace WireLab

open Base

/-- The operation an event tells of. -/
def ControlEvent.operationId? : ControlEvent → Option Bytes
  | .benchmarkProgress event => some event.operationId
  | .benchmarkResult event => some event.operationId
  | .switchMetrics _ | .faultState _ | .topologyState _ | .anomalyDetected _ | .policyAction _
  | .supervisionState _ => none

/-- No event tells of an operation. -/
def Silent (events : List ControlEvent) : Prop := ∀ event ∈ events, event.operationId? = none

/-- The request of a start that was accepted. -/
def startedBy (json : Bytes) (reply : ControlReply) : Option ControlRequest :=
  match controlRequestFromJson json with
  | .ok request =>
      if request.command = .startBenchmark ∧ reply.accepted then some request else none
  | .error _ => none

section
variable {β τ : Type} {service service' : ControlService β τ} {controller : TopologyController}
  {env : Environment} {request : ControlRequest} {d : Dispatched β τ}

/-- A service's benchmark is not touched. -/
structure SameBenchmark (service service' : ControlService β τ) : Prop where
  benchmarkRun : service'.benchmarkRun = service.benchmarkRun
  benchmarkOperationId : service'.benchmarkOperationId = service.benchmarkOperationId
  benchmarkDeadlineNs : service'.benchmarkDeadlineNs = service.benchmarkDeadlineNs
  nextBenchmarkId : service'.nextBenchmarkId = service.nextBenchmarkId

theorem SameBenchmark.refl (service : ControlService β τ) : SameBenchmark service service :=
  ⟨rfl, rfl, rfl, rfl⟩

theorem sameBenchmark_takeSequence (service : ControlService β τ) :
    SameBenchmark service service.takeSequence :=
  ⟨rfl, rfl, rfl, rfl⟩

/-- An answer without news of a benchmark. -/
theorem silent_events {dispatch : ControlDispatch} (hprogress : dispatch.benchmarkProgressEvent = none)
    (hresult : dispatch.benchmarkResultEvent = none) : Silent dispatch.events := by
  intro event hevent
  simp only [ControlDispatch.events, hprogress, hresult, Option.toList_none, List.map_nil,
    List.append_nil, List.mem_append, List.mem_map] at hevent
  rcases hevent with ((⟨_, -, rfl⟩ | ⟨_, -, rfl⟩) | ⟨_, -, rfl⟩) | ⟨_, -, rfl⟩ <;> rfl

/-- A call that is not about benchmarks. -/
structure Aside (service : ControlService β τ) (d : Dispatched β τ) : Prop where
  same : SameBenchmark service d.2.1
  silent : Silent d.1.events

theorem Refuses.aside (h : Refuses service controller d) : Aside service d := by
  obtain ⟨requestId, error, rfl⟩ := h
  exact ⟨.refl service, silent_events rfl rfl⟩

private theorem faultChanged_aside (firstEndpoint secondEndpoint : Bytes) (active : Bool)
    (outcome : Option Bytes × TopologyController) :
    Aside service (service.faultChanged request firstEndpoint secondEndpoint active outcome) := by
  unfold ControlService.faultChanged
  split
  · exact ⟨.refl service, silent_events rfl rfl⟩
  · exact ⟨sameBenchmark_takeSequence service, silent_events rfl rfl⟩

private theorem withController_aside {command : Dispatched β τ} (h : Aside service command) :
    Aside service (service.withController controller request command) := by
  unfold ControlService.withController
  split
  · exact ⟨.refl service, silent_events rfl rfl⟩
  · exact h

/-- Every other command leaves the benchmark alone. -/
theorem execute_aside (hstart : request.command ≠ .startBenchmark) (hstop : request.command ≠ .stopRun)
    (h : service.execute controller env request = some d) : Aside service d := by
  unfold ControlService.execute at h
  cases hcommand : request.command with
  | startBenchmark => exact absurd hcommand hstart
  | stopRun => exact absurd hcommand hstop
  | getSwitchState =>
      simp only [hcommand] at h
      exact Option.some.inj h ▸ ⟨sameBenchmark_takeSequence service, silent_events rfl rfl⟩
  | getSupervisionState =>
      simp only [hcommand, ControlService.getSupervisionState] at h
      split at h
      · exact Option.some.inj h ▸ ⟨.refl service, silent_events rfl rfl⟩
      · exact Option.some.inj h ▸ ⟨sameBenchmark_takeSequence service, silent_events rfl rfl⟩
  | loadTopology =>
      simp only [hcommand, ControlService.loadTopology] at h
      split at h
      · exact Option.some.inj h ▸ ⟨.refl service, silent_events rfl rfl⟩
      · split at h
        · exact Option.some.inj h ▸ ⟨.refl service, silent_events rfl rfl⟩
        · exact Option.some.inj h ▸ ⟨sameBenchmark_takeSequence service, silent_events rfl rfl⟩
  | getActiveFaults =>
      simp only [hcommand] at h
      refine Option.some.inj h ▸ withController_aside ?_
      unfold ControlService.getActiveFaults
      split
      · exact ⟨.refl service, silent_events rfl rfl⟩
      · exact ⟨⟨rfl, rfl, rfl, rfl⟩, silent_events rfl rfl⟩
  | setPortFault =>
      simp only [hcommand] at h
      exact Option.some.inj h ▸ withController_aside (faultChanged_aside _ _ _ _)
  | clearPortFault =>
      simp only [hcommand] at h
      exact Option.some.inj h ▸ withController_aside (faultChanged_aside _ _ _ _)
  | setLinkFault =>
      simp only [hcommand] at h
      exact Option.some.inj h ▸ withController_aside (faultChanged_aside _ _ _ _)
  | clearLinkFault =>
      simp only [hcommand] at h
      exact Option.some.inj h ▸ withController_aside (faultChanged_aside _ _ _ _)

/-- **What a dispatch does to the benchmark.** -/
inductive BenchmarkEffect (service : ControlService β τ) (json : Bytes) : Dispatched β τ → Prop
  | aside {d : Dispatched β τ} : Aside service d → startedBy json d.1.reply = none →
      BenchmarkEffect service json d
  | started {d : Dispatched β τ} {request : ControlRequest} {run : BenchmarkRun β τ}
      {progress : BenchmarkProgressEvent} :
      service.benchmarkRun = none → startedBy json d.1.reply = some request →
      Sized run → run.finished = false → run.config.packetCount = request.benchmark.packetCount →
      run.completedPackets = 0 → run.elapsedNs = 0 →
      d.1.reply.operationId = bytes "benchmark-" ++ decimal service.nextBenchmarkId.toNat →
      d.1.events = [.benchmarkProgress progress] →
      progress.operationId = d.1.reply.operationId → progress.completedPackets = 0 →
      progress.totalPackets = run.config.packetCount →
      d.2.1.benchmarkRun = some run →
      d.2.1.benchmarkOperationId = d.1.reply.operationId →
      d.2.1.benchmarkDeadlineNs = request.benchmark.durationSeconds.toUInt64 * 1000000000 →
      d.2.1.nextBenchmarkId = service.nextBenchmarkId + 1 → BenchmarkEffect service json d
  | stopped {d : Dispatched β τ} {run : BenchmarkRun β τ} {result : BenchmarkResultEvent} :
      service.benchmarkRun = some run → startedBy json d.1.reply = none →
      d.1.events = [.benchmarkResult result] →
      result.operationId = service.benchmarkOperationId → result.completed = false →
      result.result.completedPackets = run.completedPackets →
      result.result.totalPackets = run.config.packetCount →
      d.2.1.benchmarkRun = none → d.2.1.nextBenchmarkId = service.nextBenchmarkId →
      BenchmarkEffect service json d

theorem startedBy_refused {json : Bytes} {reply : ControlReply} (h : reply.accepted = false) :
    startedBy json reply = none := by
  unfold startedBy
  split
  · rw [if_neg (by simp [h])]
  · rfl

/-- A fresh run has everything in front of it. -/
theorem create_fresh {allocates : Nat → Bool} {config : BenchmarkConfig}
    {factory : BenchmarkBackendFactory β} {traffic : TrafficSourceFactory τ} {run : BenchmarkRun β τ}
    (h : BenchmarkRun.create allocates config (some factory) (some traffic) = some (.ok run)) :
    Sized run ∧ run.finished = false ∧ run.config = config ∧ run.completedPackets = 0 ∧
      run.elapsedNs = 0 := by
  obtain ⟨hcount, hbatch, -, -, backend, analyzer, source, -, -, -, rfl⟩ := create_ok h
  refine ⟨⟨UInt64.pos_iff_ne_zero.mpr hbatch, Nat.zero_le _⟩, ?_, rfl, rfl, rfl⟩
  rw [finished_eq_false]
  exact UInt64.pos_iff_ne_zero.mpr hcount

theorem dispatch_benchmark {json : Bytes} (h : service.dispatch controller env json = some d) :
    BenchmarkEffect service json d := by
  cases hadmits : service.admits controller json with
  | none =>
      obtain ⟨d', hd', hrefuses⟩ := dispatch_of_not_admits env hadmits
      rw [hd'] at h
      obtain rfl := Option.some.inj h
      exact .aside hrefuses.aside (startedBy_refused hrefuses.unchanged.1)
  | some request =>
      have hparse := (ControlService.admits_eq_some.mp hadmits).1
      rw [dispatch_of_admits hadmits] at h
      by_cases hstart : request.command = .startBenchmark
      · simp only [ControlService.execute, hstart, ControlService.startBenchmark] at h
        have hrefused : ∀ error, BenchmarkEffect service json
            (service.reject controller request.requestId error, service, controller) :=
          fun error => .aside (refuses_reject _ _).aside (startedBy_refused rfl)
        split at h
        · exact Option.some.inj h ▸ hrefused _
        · next hidle =>
          split at h
          · exact Option.some.inj h ▸ hrefused _
          · split at h
            · exact absurd h (by simp)
            · exact Option.some.inj h ▸ hrefused _
            · next hcreate =>
              obtain ⟨hsized, hleft, hconfig, hcompleted, helapsed⟩ := create_fresh hcreate
              obtain rfl := Option.some.inj h
              have hstarted : ∀ reply : ControlReply, reply.accepted = true →
                  startedBy json reply = some request := by
                intro reply haccepted
                simp only [startedBy, hparse, hstart, haccepted, and_self, if_true]
              exact .started (by simpa using hidle) (hstarted _ rfl) hsized hleft (hconfig ▸ rfl)
                hcompleted helapsed rfl rfl rfl hcompleted rfl rfl rfl rfl rfl
      · have hother : ∀ reply, startedBy json reply = none := by
          intro reply
          simp only [startedBy, hparse, hstart, false_and, if_false]
        by_cases hstop : request.command = .stopRun
        · simp only [ControlService.execute, hstop, ControlService.stopRun] at h
          split at h
          · exact .aside (Option.some.inj h ▸ (refuses_reject _ _).aside) (hother _)
          · next run hactive =>
            obtain rfl := Option.some.inj h
            exact .stopped hactive (hother _) rfl rfl rfl rfl rfl rfl rfl
        · exact .aside (execute_aside hstart hstop h) (hother _)

/-- The time a run was given is over. -/
def ControlService.OutOfTime (service : ControlService β τ) (run : BenchmarkRun β τ) : Prop :=
  service.benchmarkDeadlineNs ≠ 0 ∧ service.benchmarkDeadlineNs ≤ run.elapsedNs

/-- **What a slice does to the benchmark**: it gets on, and then it has ended or goes on. -/
inductive SliceEffect (service : ControlService β τ) (run run' : BenchmarkRun β τ) :
    BenchmarkEventDispatch × ControlService β τ → Prop
  | ended {out : BenchmarkEventDispatch × ControlService β τ} {progress : BenchmarkProgressEvent}
      {result : BenchmarkResultEvent} :
      run'.finished = true ∨ service.OutOfTime run' →
      out.1.events = [.benchmarkProgress progress, .benchmarkResult result] →
      progress.operationId = service.benchmarkOperationId →
      progress.completedPackets = run'.completedPackets →
      progress.totalPackets = run.config.packetCount →
      result.operationId = service.benchmarkOperationId → result.completed = true →
      result.result.completedPackets = run'.completedPackets →
      result.result.totalPackets = run.config.packetCount →
      out.2.benchmarkRun = none → out.2.nextBenchmarkId = service.nextBenchmarkId →
      SliceEffect service run run' out
  | going {out : BenchmarkEventDispatch × ControlService β τ} {progress : BenchmarkProgressEvent} :
      run'.finished = false → ¬ service.OutOfTime run' →
      out.1.events = [.benchmarkProgress progress] →
      progress.operationId = service.benchmarkOperationId →
      progress.completedPackets = run'.completedPackets →
      progress.totalPackets = run.config.packetCount →
      out.2.benchmarkRun = some run' →
      out.2.benchmarkOperationId = service.benchmarkOperationId →
      out.2.benchmarkDeadlineNs = service.benchmarkDeadlineNs →
      out.2.nextBenchmarkId = service.nextBenchmarkId → SliceEffect service run run' out

theorem advanceBenchmark_effect {run : BenchmarkRun β τ} (hactive : service.benchmarkRun = some run)
    (hsized : Sized run) (hleft : run.finished = false) (controller : TopologyController)
    (latencyNs : Nat → UInt64) (sliceNs : UInt64) {maxPackets : UInt64} (hbudget : 0 < maxPackets) :
    ∃ run', Sized run' ∧ run'.config = run.config ∧ run'.elapsedNs = run.elapsedNs + sliceNs ∧
      run.completedPackets.toNat ≤ run'.completedPackets.toNat ∧
      SliceEffect service run run'
        (service.advanceBenchmark controller latencyNs sliceNs maxPackets) := by
  obtain ⟨advanced, run', hadvance, hsized', hconfig, helapsed, hprogress, hend⟩ :=
    advance_counts _ _ hsized hleft (UInt64.lt_iff_toNat_lt.mp hbudget)
  refine ⟨run', hsized', hconfig, helapsed, hprogress.le, ?_⟩
  -- A run that is not at its end has got on.
  have hmoved : ¬ (advanced = 0 ∧ (!run'.finished) = true) := by
    rintro ⟨hnone, hunfinished⟩
    rw [hend hnone] at hunfinished
    contradiction
  have htotal : run'.totalPackets = run.config.packetCount := by rw [← hconfig]; rfl
  simp only [ControlService.advanceBenchmark, hactive]
  rw [hadvance]
  simp only [if_neg hmoved]
  split
  · next hends =>
    refine .ended ?_ rfl rfl rfl htotal rfl rfl rfl htotal rfl rfl
    rw [Bool.or_eq_true, Bool.and_eq_true, decide_eq_true_iff, decide_eq_true_iff] at hends
    exact hends
  · next hgoes =>
    rw [Bool.or_eq_true, Bool.and_eq_true, decide_eq_true_iff, decide_eq_true_iff, not_or] at hgoes
    exact .going (by simpa using hgoes.1) hgoes.2 rfl rfl rfl htotal rfl rfl rfl rfl

end

end WireLab
