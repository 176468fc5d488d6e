import WireLab.Logic.Dispatch
import WireLab.Logic.Enforcement

/-!
# The event stream as news of the faults

A client that folds the news it receives over its picture of the faults
(`reconstruct`). This module says what the news of one call amounts to: the
faults after a dispatch or an analysed batch are those before it with the news
folded over them (`Accepts.news`, `evaluate_news`).
-/

namespace WireLab

open Base TopologyController PolicyEnforcer

/-- Fold news over a picture of the faults. -/
def follow (view : FaultKey → Option FaultConfiguration) (news : List FaultNews) :
    FaultKey → Option FaultConfiguration :=
  news.foldl FaultNews.apply view

/-- The picture a client has that has followed the events from an empty one. -/
def reconstruct (events : List ControlEvent) : FaultKey → Option FaultConfiguration :=
  follow (fun _ => none) (newsOf events)

theorem follow_append (view : FaultKey → Option FaultConfiguration) (xs ys : List FaultNews) :
    follow view (xs ++ ys) = follow (follow view xs) ys :=
  List.foldl_append

/-- News that report final values, of every key that has changed, lead to the
final picture, however often a key is reported. -/
theorem follow_of_final {view final : FaultKey → Option FaultConfiguration}
    {news : List FaultNews}
    (hnews : ∀ n ∈ news, ∃ key, n = .changed key (final key))
    (hrest : ∀ key, (∀ n ∈ news, n ≠ .changed key (final key)) → view key = final key) :
    follow view news = final := by
  induction news generalizing view with
  | nil => exact funext fun key => hrest key (by simp)
  | cons n news ih =>
      obtain ⟨k, rfl⟩ := hnews n (by simp)
      refine @ih (Function.update view k (final k)) (fun n hn => hnews n (by simp [hn]))
        fun key hkey => ?_
      by_cases hk : key = k
      · rw [hk, Function.update_self]
      · rw [Function.update_of_ne hk]
        refine hrest key fun n hn => ?_
        rcases List.mem_cons.mp hn with rfl | hmem
        · exact fun h => hk (FaultNews.changed.inj h).1.symm
        · exact hkey n hmem

/-! ## Dispatches -/

section
variable {β τ : Type} {service : ControlService β τ} {controller : TopologyController}
  {env : Environment} {request : ControlRequest} {d : Dispatched β τ}

/-- **The news of an executed request** lead from the faults before it to the
faults after it. -/
theorem Effect.news {news : List FaultNews} {controller' : TopologyController}
    (h : Effect service controller env request news controller') :
    follow controller.faultAt news = controller'.faultAt := by
  cases h with
  | observed => rfl
  | @listed faults _ hlist =>
      -- A listing repeats what is configured.
      refine follow_of_final (fun n hn => ?_) fun _ _ => rfl
      obtain ⟨fault, hfault, rfl⟩ := List.mem_map.mp hn
      refine ⟨.ofEndpoints fault.firstEndpoint fault.secondEndpoint, ?_⟩
      rw [(mem_activeFaults hlist _).mp ⟨fault, hfault, rfl, rfl⟩]
      rfl
  | loaded => exact funext fun key => (faultAt_load _ key).symm
  | changed _ _ hsets =>
      refine funext fun key => ?_
      simp only [follow, List.foldl_cons, List.foldl_nil, FaultNews.apply, Function.update_apply,
        hsets.fault]

/-! ## Analysed batches -/

/-- The events of an analysed batch are numbered from the service's counter. -/
theorem analysisEvents_numbered (service : ControlService β τ) (controller : TopologyController)
    (outcome : AnalysisOutcome) :
    Consecutive (· + 1) service.nextEventSequence
        ((service.analysisEvents controller outcome).1.events.map ControlEvent.sequence) ∧
      (service.analysisEvents controller outcome).2.nextEventSequence =
        (· + 1)^[(service.analysisEvents controller outcome).1.events.length]
          service.nextEventSequence := by
  simp only [ControlService.analysisEvents]
  split
  · simp only [AnalysisEventDispatch.events, List.map_nil, List.append_nil, List.map_append,
      List.map_map, List.length_append, List.length_map, length_stamp, stamp_snd]
    refine ⟨.append (consecutive_stamp fun _ _ => rfl) ?_, ?_⟩
    · rw [List.length_map, length_stamp]
      exact consecutive_stamp fun _ _ => rfl
    · rw [← Function.iterate_add_apply, Nat.add_comm]
  · simp only [AnalysisEventDispatch.events, List.map_append, List.map_map, List.length_append,
      List.length_map, length_stamp, stamp_snd]
    refine ⟨.append (.append (consecutive_stamp fun _ _ => rfl) ?_) ?_, ?_⟩
    · rw [List.length_map, length_stamp]
      exact consecutive_stamp fun _ _ => rfl
    · rw [List.length_append, List.length_map, List.length_map, length_stamp, length_stamp,
        Nat.add_comm, Function.iterate_add_apply]
      exact consecutive_stamp fun _ _ => rfl
    · rw [← Function.iterate_add_apply, ← Function.iterate_add_apply]
      congr 1
      omega

/-- A bound service reports each port enforcement changed with its fault. -/
theorem newsOf_analysisEvents (hbound : service.bound = true) (outcome : AnalysisOutcome) :
    newsOf (service.analysisEvents controller outcome).1.events =
      (ControlService.enforcementChanges controller outcome).map fun change =>
        .changed (.port change.1)
          (if change.2 then some ((controller.portFault change.1).getD {}) else none) := by
  simp only [ControlService.analysisEvents, hbound, Bool.not_true, Bool.false_eq_true, if_false,
    AnalysisEventDispatch.events, newsOf_append, newsOf_faultState]
  have hquiet : ∀ (anomalies : List AnomalyDetectedEvent) (policies : List PolicyActionEvent),
      newsOf (anomalies.map .anomalyDetected) ++ newsOf (policies.map .policyAction) = [] := by
    intro anomalies policies
    simp [newsOf, List.filterMap_map, Function.comp_def, ControlEvent.news]
  rw [hquiet, List.nil_append]
  exact map_stamp fun _ _ => rfl

/-- The analysis leaves the rest of the service alone. -/
theorem analysisEvents_service (service : ControlService β τ) (controller : TopologyController)
    (outcome : AnalysisOutcome) :
    (service.analysisEvents controller outcome).2.bound = service.bound := by
  simp only [ControlService.analysisEvents]
  split <;> rfl

end

/-- A port that is not one of the topology has no fault. -/
private theorem portFault_nil (controller : TopologyController) :
    controller.portFault [] = none := by
  cases hfault : controller.portFault [] with
  | none => rfl
  | some configuration =>
      obtain ⟨topology, _, hport⟩ := isPort_of_portFault hfault
      exact absurd rfl (ne_nil_of_isPort hport)

/-- The change an answer reports, as news. -/
private def changeNews (controller : TopologyController) (change : Bytes × Bool) : FaultNews :=
  .changed (.port change.1) (if change.2 then some ((controller.portFault change.1).getD {}) else none)

/-- A change whose flag says whether there is a fault reports the fault. -/
private theorem changeNews_eq {controller : TopologyController} {p : Bytes} {active : Bool}
    (h : active = (controller.portFault p).isSome) :
    changeNews controller (p, active) = .changed (.port p) (controller.faultAt (.port p)) := by
  simp only [changeNews, h, faultAt_port]
  cases controller.portFault p <;> rfl

/-- The answers of a call that were enforced. -/
private def isEnforcement (action : EnforcementAction) : Prop :=
  action.outcome = .applied ∨ action.outcome = .extended

/-- Which changes are reported: of the ports that were released, and of those
that were enforced. -/
private theorem mem_enforcementChanges {controller : TopologyController}
    {outcome : AnalysisOutcome} {change : Bytes × Bool} :
    change ∈ ControlService.enforcementChanges controller outcome ↔
      change.1 ≠ [] ∧
        ((∃ action ∈ outcome.released,
            change = (action.portId, (controller.portFault action.portId).isSome)) ∨
          ∃ action ∈ outcome.enforced, isEnforcement action ∧ change = (action.portId, true)) := by
  simp only [ControlService.enforcementChanges, List.mem_filter, List.mem_append, List.mem_map,
    Bool.or_eq_true, decide_eq_true_eq, Bool.not_eq_true', List.isEmpty_eq_false_iff, isEnforcement]
  constructor
  · rintro ⟨⟨action, hmem, rfl⟩ | ⟨action, ⟨hmem, houtcome⟩, rfl⟩, hnamed⟩
    · exact ⟨hnamed, .inl ⟨action, hmem, rfl⟩⟩
    · exact ⟨hnamed, .inr ⟨action, hmem, houtcome, rfl⟩⟩
  · rintro ⟨hnamed, ⟨action, hmem, rfl⟩ | ⟨action, hmem, houtcome, rfl⟩⟩
    · exact ⟨.inl ⟨action, hmem, rfl⟩, hnamed⟩
    · exact ⟨.inr ⟨action, ⟨hmem, houtcome⟩, rfl⟩, hnamed⟩

/-- **What enforcement reports is what it changed**: the changes of a call lead
from the faults before it to the faults after it. -/
theorem follow_enforcementChanges {enforcer : PolicyEnforcer} {controller : TopologyController}
    {decisions : List PolicyDecision} {now : Int} {outcome : AnalysisOutcome}
    {middle after : PolicyEnforcer × TopologyController}
    (hreleased : enforcer.releaseExpired controller now = (outcome.released, middle))
    (henforced : middle.1.apply decisions middle.2 now = (outcome.enforced, after)) :
    follow controller.faultAt
        ((ControlService.enforcementChanges after.2 outcome).map (changeNews after.2)) =
      after.2.faultAt := by
  have happlies : Applies outcome.enforced middle after := by
    have h := apply_applies decisions middle.1 middle.2 now
    rwa [henforced] at h
  have hflag : ∀ change ∈ ControlService.enforcementChanges after.2 outcome,
      changeNews after.2 change = .changed (.port change.1) (after.2.faultAt (.port change.1)) := by
    intro change hchange
    obtain ⟨_, ⟨action, _, rfl⟩ | ⟨action, hmem, houtcome, rfl⟩⟩ :=
      mem_enforcementChanges.mp hchange
    · exact changeNews_eq rfl
    · exact changeNews_eq (happlies.isSome_of_mem hmem houtcome).symm
  refine follow_of_final (fun n hn => ?_) fun key hkey => ?_
  · obtain ⟨change, hchange, rfl⟩ := List.mem_map.mp hn
    exact ⟨_, hflag change hchange⟩
  · -- A key nobody reports was not touched.
    have hquiet : ∀ change ∈ ControlService.enforcementChanges after.2 outcome,
        key ≠ .port change.1 := by
      rintro change hchange rfl
      exact hkey _ (List.mem_map_of_mem hchange) (hflag change hchange)
    by_cases hnil : key = .port []
    · rw [hnil, faultAt_port, faultAt_port, portFault_nil, portFault_nil]
    · have hmiddle : middle.2.faultAt key = controller.faultAt key := by
        have hsame := faultAt_releaseExpired enforcer controller now key
        rw [hreleased] at hsame
        refine hsame fun action hmem hport => ?_
        have hnamed : action.portId ≠ [] := fun h => hnil (h ▸ hport)
        exact hquiet _ (mem_enforcementChanges.mpr ⟨hnamed, .inl ⟨action, hmem, rfl⟩⟩) hport
      rw [happlies.faultAt, hmiddle]
      intro action hmem houtcome hport
      have hnamed : action.portId ≠ [] := fun h => hnil (h ▸ hport)
      exact hquiet _ (mem_enforcementChanges.mpr ⟨hnamed, .inr ⟨action, hmem, houtcome, rfl⟩⟩) hport

section
variable {β τ : Type} {service : ControlService β τ} {controller controller' : TopologyController}
  {pipeline pipeline' : AnalysisPipeline} {batch : AnalysisBatch} {timestampNs : Nat} {now : Int}
  {outcome : AnalysisOutcome}

/-- **The news of an analysed batch** lead from the faults before it to the
faults after it. -/
theorem evaluate_news (service : ControlService β τ) (hbound : service.bound = true)
    (h : pipeline.evaluate controller batch timestampNs now =
      some (outcome, pipeline', controller')) :
    follow controller.faultAt
        (newsOf (service.analysisEvents controller' outcome).1.events) = controller'.faultAt := by
  rw [newsOf_analysisEvents hbound]
  obtain ⟨_, ⟨_, hreleased, henforced, _, rfl⟩ | ⟨_, enforcer, middle, hreleased, henforced⟩⟩ :=
    AnalysisPipeline.evaluate_spec h
  · simp only [ControlService.enforcementChanges, hreleased, henforced]
    rfl
  · exact follow_enforcementChanges hreleased henforced

end
end WireLab
