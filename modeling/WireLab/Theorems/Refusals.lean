import WireLab.Logic.Lab

/-!
# Rejected commands change nothing

A reply that does not accept is all that its call left behind.
-/

namespace WireLab

open Base

/-- **Rejected commands change nothing.** If the reply is not accepted, the
service (its benchmark, operation id and event counter) and the controller (its
topology, revision and every fault) are exactly what they were, and there are no
events; and every reply carries the revision that is current after the call. -/
theorem refused_dispatch_changes_nothing {β τ : Type} (service : ControlService β τ)
    (controller : TopologyController) (env : Environment) (json : Bytes)
    (out : ControlDispatch) (service' : ControlService β τ) (controller' : TopologyController)
    (h : service.dispatch controller env json = some (out, service', controller')) :
    (out.reply.accepted = false →
      service' = service ∧ controller' = controller ∧ out.events = []) ∧
    out.reply.topologyRevision = service'.currentTopologyRevision controller' := by
  rcases dispatch_cases h with hrefuses | ⟨request, _, haccepts⟩
  · obtain ⟨_, hevents, hsame, hrevision⟩ := hrefuses.unchanged
    obtain ⟨rfl, rfl⟩ := Prod.mk.inj hsame
    exact ⟨fun _ => ⟨rfl, rfl, hevents⟩, hrevision⟩
  · refine ⟨fun hrejected => ?_, haccepts.revision⟩
    rw [haccepts.accepted] at hrejected
    exact absurd hrejected (by simp)

/-- A fault for a port the lab does not have is refused at the last check. -/
theorem refused_dispatch_changes_nothing_unknownPort :
    ∃ out service' controller',
      labService.dispatch (({} : TopologyController).load labTopology) labEnv
        (slowPort 1 "h9" 5) = some (out, service', controller') ∧
      out.reply.error = bytes "unknown topology port" ∧ out.events = [] ∧
      service' = labService := by
  have hvalue : (labService.dispatch (({} : TopologyController).load labTopology) labEnv
      (slowPort 1 "h9" 5)).map (fun d => (d.1.reply.accepted, d.1.reply.error)) =
        some (false, bytes "unknown topology port") := by
    decide +kernel
  obtain ⟨⟨out, service', controller'⟩, hdispatch, hread⟩ := Option.map_eq_some_iff.mp hvalue
  have hreply := Prod.mk.inj hread
  obtain ⟨hservice, _, hevents⟩ :=
    (refused_dispatch_changes_nothing _ _ _ _ _ _ _ hdispatch).1 hreply.1
  exact ⟨out, service', controller', hdispatch, hreply.2, hevents, hservice⟩

end WireLab
