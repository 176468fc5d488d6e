import WireLab.Model.AnomalyDetector

/-!
# The policy engine

`policy_engine.cpp`: an ordered list of rules. An anomaly is decided by the
first enabled rule for its type, and a rule counts its hits.

`PolicyEngine.wellFormed` carries what every mutation checks: the rules are
valid and their names distinct.
-/

namespace WireLab

open Base

inductive PolicyAction
  | allow
  | drop
  | mirror
  | rateLimit
  | quarantine
  | alertOnly
  deriving DecidableEq, Repr

def PolicyAction.toString : PolicyAction → Bytes
  | .allow => bytes "allow"
  | .drop => bytes "drop"
  | .mirror => bytes "mirror"
  | .rateLimit => bytes "rate_limit"
  | .quarantine => bytes "quarantine"
  | .alertOnly => bytes "alert_only"

inductive PolicyConfigurationError
  | emptyName
  | duplicateName
  | missingRateLimit
  deriving DecidableEq, Repr

def PolicyConfigurationError.toString : PolicyConfigurationError → Bytes
  | .emptyName => bytes "policy name must not be empty"
  | .duplicateName => bytes "policy names must be unique"
  | .missingRateLimit => bytes "rate-limit policies require a packet rate"

structure PolicyRule where
  name : Bytes
  anomalyType : AnomalyType := .broadcastStorm
  action : PolicyAction := .alertOnly
  enabled : Bool := true
  rateLimitPacketsPerSecond : UInt64 := 0
  deriving DecidableEq, Repr

structure PolicyDecision where
  ruleName : Bytes
  action : PolicyAction := .alertOnly
  anomaly : AnomalyEvent := {}
  hitCount : UInt64 := 0
  rateLimitPacketsPerSecond : UInt64 := 0
  deriving DecidableEq

/-- The checks on one rule. -/
def PolicyRule.validate (rule : PolicyRule) : Except PolicyConfigurationError Unit :=
  if rule.name.isEmpty then .error .emptyName
  else if rule.action = .rateLimit ∧ rule.rateLimitPacketsPerSecond = 0 then
    .error .missingRateLimit
  else .ok ()

/-- What the engine keeps true of its rules. -/
structure PolicyRule.WellFormed (rules : List PolicyRule) : Prop where
  valid : ∀ rule ∈ rules, rule.validate = .ok ()
  distinct : (rules.map PolicyRule.name).Nodup

theorem PolicyRule.wellFormed_nil : PolicyRule.WellFormed [] := ⟨by simp, by simp⟩

/-- The loop of `set_rules`: each rule is checked, and its name against the names before
it. -/
def PolicyRule.validateAll : List Bytes → List PolicyRule → Except PolicyConfigurationError Unit
  | _, [] => .ok ()
  | names, rule :: rules =>
      match rule.validate with
      | .error e => .error e
      | .ok () =>
          if rule.name ∈ names then .error .duplicateName
          else validateAll (rule.name :: names) rules

/-- What the loop accepts is well formed, and its names are none of those before it. -/
theorem PolicyRule.wellFormed_of_validateAll {names : List Bytes} {rules : List PolicyRule}
    (h : PolicyRule.validateAll names rules = .ok ()) :
    PolicyRule.WellFormed rules ∧ ∀ rule ∈ rules, rule.name ∉ names := by
  induction rules generalizing names with
  | nil => exact ⟨wellFormed_nil, by simp⟩
  | cons rule rules ih =>
      unfold validateAll at h
      split at h
      · cases h
      · next hvalid =>
          split at h
          · cases h
          · next hfresh =>
              obtain ⟨hwell, hunseen⟩ := ih h
              have hdistinct : rule.name ∉ rules.map PolicyRule.name := fun hmem => by
                obtain ⟨other, hother, heq⟩ := List.mem_map.mp hmem
                exact hunseen other hother (heq ▸ List.mem_cons_self)
              refine ⟨⟨?_, List.nodup_cons.mpr ⟨hdistinct, hwell.distinct⟩⟩, ?_⟩
              · intro other hmem
                rcases List.mem_cons.mp hmem with rfl | hrest
                · exact hvalid
                · exact hwell.valid other hrest
              · intro other hmem hseen
                rcases List.mem_cons.mp hmem with rfl | hrest
                · exact hfresh hseen
                · exact hunseen other hrest (List.mem_cons_of_mem _ hseen)

structure PolicyEngine where
  rules : List PolicyRule := []
  hitCounts : Dict Bytes UInt64 := ∅
  wellFormed : PolicyRule.WellFormed rules := by
    exact PolicyRule.wellFormed_nil

namespace PolicyEngine

/-- Replace the rules, and forget their counts. -/
def setRules (engine : PolicyEngine) (rules : List PolicyRule) :
    Except PolicyConfigurationError PolicyEngine :=
  match hvalid : PolicyRule.validateAll [] rules with
  | .error e => .error e
  | .ok () => .ok
      { engine with
        rules, hitCounts := ∅, wellFormed := (PolicyRule.wellFormed_of_validateAll hvalid).1 }

/-- Append a rule with a new name. -/
def addRule (engine : PolicyEngine) (rule : PolicyRule) :
    Except PolicyConfigurationError PolicyEngine :=
  match hvalid : rule.validate with
  | .error e => .error e
  | .ok () =>
      if hnew : rule.name ∈ engine.rules.map PolicyRule.name then .error .duplicateName
      else .ok
        { engine with
          rules := engine.rules ++ [rule]
          wellFormed := by
            refine ⟨fun other hmem => ?_, ?_⟩
            · rcases List.mem_append.mp hmem with hold | hlast
              · exact engine.wellFormed.valid other hold
              · rw [List.mem_singleton.mp hlast, hvalid]
            · rw [List.map_append, List.map_singleton]
              exact engine.wellFormed.distinct.append (List.nodup_singleton _)
                fun name hmem hlast => hnew (List.mem_singleton.mp hlast ▸ hmem) }

/-- The first enabled rule for a type of anomaly. -/
def ruleFor (engine : PolicyEngine) (type : AnomalyType) : Option PolicyRule :=
  engine.rules.find? fun rule => rule.enabled && rule.anomalyType = type

def hitCount (engine : PolicyEngine) (name : Bytes) : UInt64 :=
  (engine.hitCounts.lookup name).getD 0

/-- Decide each anomaly that has a rule, in order. -/
def evaluate : PolicyEngine → List AnomalyEvent → List PolicyDecision × PolicyEngine
  | engine, [] => ([], engine)
  | engine, anomaly :: rest =>
      match engine.ruleFor anomaly.type with
      | none => evaluate engine rest
      | some rule =>
          let hitCount := engine.hitCount rule.name + 1
          let (decisions, engine) := evaluate
            { engine with hitCounts := engine.hitCounts.insert rule.name hitCount } rest
          ({ ruleName := rule.name, action := rule.action, anomaly, hitCount,
             rateLimitPacketsPerSecond := rule.rateLimitPacketsPerSecond } :: decisions, engine)

def reset (engine : PolicyEngine) : PolicyEngine := { engine with hitCounts := ∅ }

/-- Remove a rule and its count; `none` where there is no rule of the name. -/
def removeRule (engine : PolicyEngine) (name : Bytes) : Option PolicyEngine :=
  if engine.rules.any fun rule => rule.name = name then
    some
      { rules := engine.rules.eraseP fun rule => rule.name = name
        hitCounts := engine.hitCounts.erase name
        wellFormed :=
          ⟨fun rule hrule => engine.wellFormed.valid rule (List.mem_of_mem_eraseP hrule),
            engine.wellFormed.distinct.sublist (List.eraseP_sublist.map _)⟩ }
  else none

/-- Switch a rule on or off; there is at most one of the name. -/
def setEnabled (engine : PolicyEngine) (name : Bytes) (enabled : Bool) : Option PolicyEngine :=
  let switched (rule : PolicyRule) : PolicyRule :=
    if rule.name = name then { rule with enabled } else rule
  if engine.rules.any fun rule => rule.name = name then
    some
      { engine with
        rules := engine.rules.map switched
        wellFormed := by
          have hname : ∀ rule, (switched rule).name = rule.name := fun rule => by
            simp only [switched]
            split <;> rfl
          have hvalidate : ∀ rule, (switched rule).validate = rule.validate := fun rule => by
            simp only [switched]
            split <;> rfl
          refine ⟨fun rule hrule => ?_, ?_⟩
          · obtain ⟨old, hold, rfl⟩ := List.mem_map.mp hrule
            rw [hvalidate]
            exact engine.wellFormed.valid old hold
          · rw [List.map_map, show PolicyRule.name ∘ switched = PolicyRule.name from funext hname]
            exact engine.wellFormed.distinct }
  else none

/-- Deciding leaves the rules alone. -/
theorem evaluate_rules (engine : PolicyEngine) (anomalies : List AnomalyEvent) :
    (engine.evaluate anomalies).2.rules = engine.rules := by
  induction anomalies generalizing engine with
  | nil => rfl
  | cons anomaly rest ih =>
      unfold evaluate
      split
      · exact ih engine
      · exact ih _

/-- **First match.** The decisions are the anomalies that have a rule, each with
the action and rate of its first enabled rule. -/
theorem mem_evaluate (engine : PolicyEngine) (anomalies : List AnomalyEvent)
    (anomaly : AnomalyEvent) (action : PolicyAction) (rate : UInt64) :
    (∃ decision ∈ (engine.evaluate anomalies).1, decision.anomaly = anomaly ∧
        decision.action = action ∧ decision.rateLimitPacketsPerSecond = rate) ↔
      anomaly ∈ anomalies ∧ ∃ rule, engine.ruleFor anomaly.type = some rule ∧
        rule.action = action ∧ rule.rateLimitPacketsPerSecond = rate := by
  induction anomalies generalizing engine with
  | nil => simp [evaluate]
  | cons first rest ih =>
      unfold evaluate
      split
      · next hnone =>
          rw [ih engine, List.mem_cons]
          constructor
          · rintro ⟨hmem, hrule⟩
            exact ⟨.inr hmem, hrule⟩
          · rintro ⟨rfl | hmem, rule, hrule, hrest⟩
            · rw [hnone] at hrule
              exact absurd hrule (by simp)
            · exact ⟨hmem, rule, hrule, hrest⟩
      · next rule hrule =>
          -- The counted hit does not change which rule decides the rest.
          have hsame : ∀ counts type,
              ({ engine with hitCounts := counts } : PolicyEngine).ruleFor type =
                engine.ruleFor type := fun _ _ => rfl
          simp only [List.mem_cons, exists_eq_or_imp, ih, hsame]
          constructor
          · rintro (⟨rfl, haction, hrate⟩ | ⟨hmem, hrest⟩)
            · exact ⟨.inl rfl, rule, hrule, haction, hrate⟩
            · exact ⟨.inr hmem, hrest⟩
          · rintro ⟨rfl | hmem, rule', hrule', haction, hrate⟩
            · rw [hrule] at hrule'
              obtain rfl := Option.some.inj hrule'
              exact .inl ⟨rfl, haction, hrate⟩
            · exact .inr ⟨hmem, rule', hrule', haction, hrate⟩

end PolicyEngine
end WireLab
