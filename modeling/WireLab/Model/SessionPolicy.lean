import WireLab.Model.Session

/-!
# The policies of a session

`session_policy.cpp`: the rules an operator adds, removes and switches, and the lease
an operator ends by hand.
-/

namespace WireLab

open Base

namespace Session

variable {δ β τ : Type}

/-- The session with its engine's rules replaced. -/
def withPolicies (policies : PolicyEngine) (session : Session δ β τ) : Session δ β τ :=
  { session with analysisPipeline := { session.analysisPipeline with policies } }

def addPolicy (name anomalyType action : Bytes) (rateLimitPps : UInt64) (session : Session δ β τ) :
    Session δ β τ :=
  match anomalyTypeFromDisplayName anomalyType, policyActionFromDisplayName action with
  | some anomalyType, some action =>
      match session.analysisPipeline.policies.addRule
        { name := SessionDetail.trimmed name, anomalyType, action,
          rateLimitPacketsPerSecond := rateLimitPps } with
      | .error e => session.setStatus (bytes "Policy rejected: " ++ e.toString)
      | .ok policies =>
          ((session.withPolicies policies).setStatus
            (bytes "Policy " ++ name ++ bytes " added.")).rebuildPolicyRows
  | _, _ => session.setStatus (bytes "Unknown anomaly type or policy action.")

def removePolicy (name : Bytes) (session : Session δ β τ) : Session δ β τ :=
  match session.analysisPipeline.policies.removeRule name with
  | none => session.setStatus (bytes "No policy named " ++ name ++ bytes ".")
  | some policies =>
      ((session.withPolicies policies).setStatus
        (bytes "Policy " ++ name ++ bytes " removed.")).rebuildPolicyRows

def setPolicyEnabled (name : Bytes) (enabled : Bool) (session : Session δ β τ) :
    Session δ β τ :=
  match session.analysisPipeline.policies.setEnabled name enabled with
  | none => session.setStatus (bytes "No policy named " ++ name ++ bytes ".")
  | some policies =>
      ((session.withPolicies policies).setStatus
        (bytes "Policy " ++ name ++ bytes " " ++
          (if enabled then bytes "enabled" else bytes "disabled") ++ bytes ".")).rebuildPolicyRows

def releaseEnforcement (portId : Bytes) (session : Session δ β τ) : Session δ β τ :=
  match session.analysisPipeline.release session.topologyController portId with
  | (false, _, _) =>
      session.setStatus (bytes "Port " ++ portId ++ bytes " is not under enforcement.")
  | (true, analysisPipeline, topologyController) =>
      (((session.withEngines analysisPipeline topologyController).setStatus
        (bytes "Released enforcement on " ++ portId ++
          bytes ".")).rebuildFaultRows.rebuildPolicyRows).mark .telemetry

end Session
end WireLab
