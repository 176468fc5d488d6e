import WireLab.Base.TSys
import WireLab.Model.PolicyEngine

/-!
# First match

The policy engine over its calls. What each rule has decided since it was added, or
since the counts were last forgotten, is a history variable that reads the answers of
the calls; the counts of the engine are that history (`Counts`).
-/

namespace WireLab

open Base

/-- A call of a policy engine that may change it. -/
inductive PolicyCall
  | setRules (rules : List PolicyRule)
  | addRule (rule : PolicyRule)
  | removeRule (name : Bytes)
  | setEnabled (name : Bytes) (enabled : Bool)
  | evaluate (anomalies : List AnomalyEvent)
  | reset

/-- What a call answers. -/
inductive PolicyAnswer
  | configured (result : Except PolicyConfigurationError Unit)
  | found (found : Bool)
  | decided (decisions : List PolicyDecision)
  | done

/-- The answer to a change of the rules, and the engine behind it. -/
def PolicyEngine.configure (engine : PolicyEngine) :
    Except PolicyConfigurationError PolicyEngine → PolicyAnswer × PolicyEngine
  | .error e => (.configured (.error e), engine)
  | .ok engine => (.configured (.ok ()), engine)

/-- The answer to a search for a rule, and the engine behind it. -/
def PolicyEngine.look (engine : PolicyEngine) : Option PolicyEngine → PolicyAnswer × PolicyEngine
  | none => (.found false, engine)
  | some engine => (.found true, engine)

/-- What a call makes of an engine. -/
def PolicyCall.run (engine : PolicyEngine) : PolicyCall → PolicyAnswer × PolicyEngine
  | .setRules rules => engine.configure (engine.setRules rules)
  | .addRule rule => engine.configure (engine.addRule rule)
  | .removeRule name => engine.look (engine.removeRule name)
  | .setEnabled name enabled => engine.look (engine.setEnabled name enabled)
  | .evaluate anomalies =>
      let (decisions, engine) := engine.evaluate anomalies
      (.decided decisions, engine)
  | .reset => (.done, engine.reset)

/-- How often each rule has decided, told from the calls and their answers alone: none
at all where a call adds the rule, replaces the rules or resets. -/
def PolicyCall.count (decided : Bytes → Nat) : PolicyCall → PolicyAnswer → Bytes → Nat
  | .setRules _, .configured (.ok ()) => fun _ => 0
  | .addRule rule, .configured (.ok ()) => Function.update decided rule.name 0
  | .evaluate _, .decided decisions => fun name =>
      decided name + decisions.countP fun decision => decision.ruleName = name
  | .reset, _ => fun _ => 0
  | _, _ => decided

/-- A policy engine over its calls, from a new one, with its history. -/
def policyCalls : TSys (PolicyEngine × (Bytes → Nat)) PolicyCall :=
  TSys.withGhost
    { init engine := engine = {}
      step engine call := some (call.run engine).2 }
    (fun _ => 0) fun decided engine call _ => call.count decided (call.run engine).1

/-- The first enabled rule of a list for a type of anomaly. -/
def FirstRule (rules : List PolicyRule) (type : AnomalyType) (rule : PolicyRule) : Prop :=
  ∃ earlier later, rules = earlier ++ rule :: later ∧ rule.enabled = true ∧
    rule.anomalyType = type ∧
    ∀ other ∈ earlier, ¬(other.enabled = true ∧ other.anomalyType = type)

/-- The decisions of a list of anomalies: one after the other, each anomaly that has a
rule is decided by its first one, and the others are not. -/
inductive Decides (rules : List PolicyRule) : List AnomalyEvent → List PolicyDecision → Prop
  | nil : Decides rules [] []
  | skip {anomaly anomalies decisions} (hnone : ∀ rule, ¬FirstRule rules anomaly.type rule)
      (hrest : Decides rules anomalies decisions) : Decides rules (anomaly :: anomalies) decisions
  | decide {anomaly anomalies decisions} {rule : PolicyRule} {decision : PolicyDecision}
      (hrule : FirstRule rules anomaly.type rule)
      (hname : decision.ruleName = rule.name) (haction : decision.action = rule.action)
      (hanomaly : decision.anomaly = anomaly)
      (hrate : decision.rateLimitPacketsPerSecond = rule.rateLimitPacketsPerSecond)
      (hrest : Decides rules anomalies decisions) :
      Decides rules (anomaly :: anomalies) (decision :: decisions)

namespace PolicyEngine

variable {engine : PolicyEngine} {name : Bytes}

/-- `ruleFor` finds the first enabled rule. -/
theorem ruleFor_eq_some {type : AnomalyType} {rule : PolicyRule} :
    engine.ruleFor type = some rule ↔ FirstRule engine.rules type rule := by
  rw [ruleFor, List.find?_eq_some_iff_append]
  simp only [Bool.and_eq_true, decide_eq_true_eq, Bool.not_eq_true', Bool.and_eq_false_iff,
    decide_eq_false_iff_not, FirstRule]
  constructor
  · rintro ⟨⟨henabled, htype⟩, earlier, later, heq, hearlier⟩
    refine ⟨earlier, later, heq, henabled, htype, fun other hmem hother => ?_⟩
    rcases hearlier other hmem with hdisabled | hdiffers
    · rw [hother.1] at hdisabled
      cases hdisabled
    · exact hdiffers hother.2
  · rintro ⟨earlier, later, heq, henabled, htype, hearlier⟩
    refine ⟨⟨henabled, htype⟩, earlier, later, heq, fun other hmem => ?_⟩
    by_cases hother : other.enabled = true
    · exact .inr fun heq => hearlier other hmem ⟨hother, heq⟩
    · exact .inl (by simpa using hother)

/-- **What is decided is decided by first match**, in the order of the anomalies. -/
theorem evaluate_decides (engine : PolicyEngine) (anomalies : List AnomalyEvent) :
    Decides engine.rules anomalies (engine.evaluate anomalies).1 := by
  induction anomalies generalizing engine with
  | nil => exact .nil
  | cons anomaly anomalies ih =>
      unfold evaluate
      split
      · next hnone =>
          refine .skip (fun rule hrule => ?_) (ih engine)
          rw [ruleFor_eq_some.mpr hrule] at hnone
          cases hnone
      · next rule hrule =>
          -- The counted hit does not change the rules that decide the rest.
          have hrest := ih { engine with
            hitCounts := engine.hitCounts.insert rule.name (engine.hitCount rule.name + 1) }
          exact .decide (ruleFor_eq_some.mp hrule) rfl rfl rfl rfl hrest

/-- What is decided is decided by a rule of the list. -/
theorem ruleName_mem {anomalies : List AnomalyEvent} {decisions : List PolicyDecision}
    {rules : List PolicyRule} (h : Decides rules anomalies decisions) :
    ∀ decision ∈ decisions, decision.ruleName ∈ rules.map PolicyRule.name := by
  induction h with
  | nil => simp
  | skip _ _ ih => exact ih
  | decide hrule hname _ _ _ _ ih =>
      intro decision hmem
      rcases List.mem_cons.mp hmem with rfl | hrest
      · obtain ⟨earlier, later, heq, _⟩ := hrule
        rw [hname, heq]
        exact List.mem_map_of_mem (by simp)
      · exact ih decision hrest

/-- Each decision counts for its rule. -/
theorem hitCount_evaluate (engine : PolicyEngine) (anomalies : List AnomalyEvent) (name : Bytes) :
    (engine.evaluate anomalies).2.hitCount name = engine.hitCount name +
      .ofNat ((engine.evaluate anomalies).1.countP fun decision => decision.ruleName = name) := by
  induction anomalies generalizing engine with
  | nil => simp [evaluate]
  | cons anomaly anomalies ih =>
      unfold evaluate
      split
      · exact ih engine
      · next rule hrule =>
          simp only [ih, List.countP_cons, decide_eq_true_eq, UInt64.ofNat_add]
          have hcounted : ∀ count, ({ engine with
              hitCounts := engine.hitCounts.insert rule.name count } : PolicyEngine).hitCount name =
                if name = rule.name then count else engine.hitCount name := by
            intro count
            simp only [hitCount, Dict.lookup_insert]
            split <;> rfl
          rw [hcounted]
          by_cases hname : name = rule.name
          · subst hname
            have hone : UInt64.ofNat 1 = 1 := rfl
            simp only [if_true, hone]
            rw [UInt64.add_assoc, UInt64.add_comm 1]
          · simp [hname, Ne.symm hname]

/-! ## The counts -/

/-- The counts are the history of the rules that are there, and nothing is counted for
other names. -/
structure Counts (engine : PolicyEngine) (decided : Bytes → Nat) : Prop where
  present : ∀ name ∈ engine.rules.map PolicyRule.name,
    engine.hitCount name = .ofNat (decided name)
  absent : ∀ name ∉ engine.rules.map PolicyRule.name, engine.hitCount name = 0

variable {engine' : PolicyEngine} {decided : Bytes → Nat}

/-- Forgotten counts are all zero. -/
theorem Counts.forgotten (h : engine.hitCounts = ∅) : Counts engine fun _ => 0 where
  present name _ := by rw [hitCount, h, Dict.lookup_empty]; rfl
  absent name _ := by rw [hitCount, h, Dict.lookup_empty]; rfl

/-- Rules that are replaced are counted anew. -/
theorem Counts.setRules {rules : List PolicyRule} (h : engine.setRules rules = .ok engine') :
    Counts engine' fun _ => 0 := by
  unfold PolicyEngine.setRules at h
  split at h
  · cases h
  · cases h
    exact .forgotten rfl

/-- A rule that is added starts at zero: nothing was counted for its name. -/
theorem Counts.addRule {rule : PolicyRule} (hcounts : Counts engine decided)
    (h : engine.addRule rule = .ok engine') :
    Counts engine' (Function.update decided rule.name 0) := by
  unfold PolicyEngine.addRule at h
  split at h
  · cases h
  · split at h
    · cases h
    · next hnew =>
        cases h
        refine ⟨fun name hmem => ?_, fun name hmem => ?_⟩
        · rw [List.map_append, List.mem_append, List.map_singleton, List.mem_singleton] at hmem
          by_cases hname : name = rule.name
          · subst hname
            rw [Function.update_self]
            exact hcounts.absent rule.name hnew
          · rw [Function.update_of_ne hname]
            exact hcounts.present name (hmem.resolve_right hname)
        · refine hcounts.absent name fun hold => hmem ?_
          rw [List.map_append]
          exact List.mem_append_left _ hold

/-- The names and the counts behind a removal. -/
theorem removeRule_some (h : engine.removeRule name = some engine') :
    engine'.rules.map PolicyRule.name = (engine.rules.map PolicyRule.name).erase name ∧
      engine'.hitCounts = engine.hitCounts.erase name := by
  unfold PolicyEngine.removeRule at h
  split at h
  · obtain rfl := Option.some.inj h
    refine ⟨?_, rfl⟩
    have hsame : ((· == name) ∘ PolicyRule.name) = fun rule => decide (rule.name = name) :=
      funext fun rule => by simp [beq_eq_decide]
    rw [List.erase_eq_eraseP', List.eraseP_map, hsame]
  · cases h

/-- A rule that is removed takes its count along. -/
theorem Counts.removeRule (hcounts : Counts engine decided)
    (h : engine.removeRule name = some engine') : Counts engine' decided := by
  obtain ⟨hnames, hhits⟩ := removeRule_some h
  have hmem : ∀ other, other ∈ engine'.rules.map PolicyRule.name ↔
      other ≠ name ∧ other ∈ engine.rules.map PolicyRule.name := fun other => by
    rw [hnames, engine.wellFormed.distinct.mem_erase_iff]
  have hcount : ∀ other, engine'.hitCount other =
      if other = name then 0 else engine.hitCount other := fun other => by
    simp only [hitCount, hhits, Dict.lookup_erase]
    split <;> rfl
  refine ⟨fun other hpresent => ?_, fun other habsent => ?_⟩
  · obtain ⟨hother, hold⟩ := (hmem other).mp hpresent
    rw [hcount, if_neg hother]
    exact hcounts.present other hold
  · rw [hcount]
    split
    · rfl
    · next hother => exact hcounts.absent other fun hold => habsent ((hmem other).mpr ⟨hother, hold⟩)

/-- Switching a rule leaves names and counts. -/
theorem Counts.setEnabled {enabled : Bool} (hcounts : Counts engine decided)
    (h : engine.setEnabled name enabled = some engine') : Counts engine' decided := by
  have hkept : engine'.rules.map PolicyRule.name = engine.rules.map PolicyRule.name ∧
      engine'.hitCounts = engine.hitCounts := by
    unfold PolicyEngine.setEnabled at h
    simp only at h
    split at h
    · obtain rfl := Option.some.inj h
      refine ⟨?_, rfl⟩
      rw [List.map_map]
      refine List.map_congr_left fun rule _ => ?_
      simp only [Function.comp_apply]
      split <;> rfl
    · cases h
  have hcount : ∀ other, engine'.hitCount other = engine.hitCount other := fun other => by
    simp only [hitCount, hkept.2]
  refine ⟨fun other hmem => ?_, fun other hmem => ?_⟩
  · rw [hcount]
    exact hcounts.present other (hkept.1 ▸ hmem)
  · rw [hcount]
    exact hcounts.absent other (hkept.1 ▸ hmem)

/-- Decisions are counted for the rules that made them. -/
theorem Counts.evaluate (hcounts : Counts engine decided) (anomalies : List AnomalyEvent) :
    Counts (engine.evaluate anomalies).2 fun name => decided name +
      (engine.evaluate anomalies).1.countP fun decision => decision.ruleName = name := by
  have hrules := evaluate_rules engine anomalies
  refine ⟨fun name hmem => ?_, fun name hmem => ?_⟩
  · rw [hrules] at hmem
    rw [hitCount_evaluate, hcounts.present name hmem, UInt64.ofNat_add]
  · rw [hrules] at hmem
    have hnone : (engine.evaluate anomalies).1.countP (fun decision => decision.ruleName = name) = 0 := by
      rw [List.countP_eq_zero]
      intro decision hdecision
      have hname := ruleName_mem (evaluate_decides engine anomalies) decision hdecision
      simpa using fun heq : decision.ruleName = name => hmem (heq ▸ hname)
    rw [hitCount_evaluate, hcounts.absent name hmem, hnone]
    rfl

/-- **Every call keeps the counts.** -/
theorem Counts.run (hcounts : Counts engine decided) (call : PolicyCall) :
    Counts (call.run engine).2 (call.count decided (call.run engine).1) := by
  cases call with
  | setRules rules =>
      simp only [PolicyCall.run]
      cases hset : engine.setRules rules with
      | error e => exact hcounts
      | ok engine' => exact .setRules hset
  | addRule rule =>
      simp only [PolicyCall.run]
      cases hadd : engine.addRule rule with
      | error e => exact hcounts
      | ok engine' => exact hcounts.addRule hadd
  | removeRule name =>
      simp only [PolicyCall.run]
      cases hremove : engine.removeRule name with
      | none => exact hcounts
      | some engine' => exact hcounts.removeRule hremove
  | setEnabled name enabled =>
      simp only [PolicyCall.run]
      cases hset : engine.setEnabled name enabled with
      | none => exact hcounts
      | some engine' => exact hcounts.setEnabled hset
  | evaluate anomalies => exact hcounts.evaluate anomalies
  | reset => exact .forgotten rfl

theorem counts_reachable (h : policyCalls.Reachable (engine, decided)) : Counts engine decided := by
  have hinductive : policyCalls.Inductive fun state => Counts state.1 state.2 :=
    { init := by
        rintro ⟨_, _⟩ ⟨rfl, rfl⟩
        exact .forgotten rfl
      step := by
        rintro ⟨engine, decided⟩ call ⟨_, _⟩ hcounts hstep
        obtain ⟨hrun, rfl⟩ := TSys.withGhost_step.mp hstep
        obtain rfl := Option.some.inj hrun
        exact Counts.run hcounts call }
  exact hinductive.invariant (engine, decided) h

/-- A call that is refused is `set_rules` or `add_rule`. -/
theorem run_refused {call : PolicyCall} {e : PolicyConfigurationError}
    (h : (call.run engine).1 = .configured (.error e)) : (call.run engine).2 = engine := by
  cases call with
  | setRules rules =>
      simp only [PolicyCall.run] at h ⊢
      cases hset : engine.setRules rules with
      | error e => rfl
      | ok engine' =>
          rw [hset] at h
          cases h
  | addRule rule =>
      simp only [PolicyCall.run] at h ⊢
      cases hadd : engine.addRule rule with
      | error e => rfl
      | ok engine' =>
          rw [hadd] at h
          cases h
  | removeRule name =>
      simp only [PolicyCall.run] at h
      cases hremove : engine.removeRule name with
      | none =>
          rw [hremove] at h
          cases h
      | some engine' =>
          rw [hremove] at h
          cases h
  | setEnabled name enabled =>
      simp only [PolicyCall.run] at h
      cases hset : engine.setEnabled name enabled with
      | none =>
          rw [hset] at h
          cases h
      | some engine' =>
          rw [hset] at h
          cases h
  | evaluate anomalies => cases h
  | reset => cases h

/-- A rule that is valid has a name, and a rate where it limits one. -/
theorem validate_ok {rule : PolicyRule} (h : rule.validate = .ok ()) :
    rule.name ≠ [] ∧ (rule.action = .rateLimit → rule.rateLimitPacketsPerSecond ≠ 0) := by
  unfold PolicyRule.validate at h
  split at h
  · cases h
  · next hname =>
      split at h
      · cases h
      · next hrate =>
          exact ⟨by simpa using hname, fun haction hzero => hrate ⟨haction, hzero⟩⟩

end PolicyEngine

/-- **The policy engine is first-match, with exact counts.** In every state that any
sequence of calls leads to, the names of the rules are distinct and none is empty, and
a rule that limits a rate has one; a refused call changes nothing; `evaluate` decides
each anomaly that has an enabled rule, in order, by its first one; and the hit count of
a rule is the number of its decisions since it was added or the counts were last
forgotten, in 64 bits. A name without a rule has none. -/
theorem policy_first_match {engine : PolicyEngine} {decided : Bytes → Nat}
    (h : policyCalls.Reachable (engine, decided)) :
    (engine.rules.map PolicyRule.name).Nodup ∧
    (∀ rule ∈ engine.rules, rule.name ≠ [] ∧
      (rule.action = .rateLimit → rule.rateLimitPacketsPerSecond ≠ 0)) ∧
    (∀ (call : PolicyCall) e, (call.run engine).1 = .configured (.error e) →
      (call.run engine).2 = engine) ∧
    (∀ anomalies, Decides engine.rules anomalies (engine.evaluate anomalies).1) ∧
    (∀ rule ∈ engine.rules, engine.hitCount rule.name = .ofNat (decided rule.name)) ∧
    ∀ name ∉ engine.rules.map PolicyRule.name, engine.hitCount name = 0 := by
  have hcounts := PolicyEngine.counts_reachable h
  exact ⟨engine.wellFormed.distinct,
    fun rule hrule => PolicyEngine.validate_ok (engine.wellFormed.valid rule hrule),
    fun _ _ => PolicyEngine.run_refused, PolicyEngine.evaluate_decides engine,
    fun rule hrule => hcounts.present _ (List.mem_map_of_mem hrule), hcounts.absent⟩

/-- A rule that decides twice, is removed, added again and decides once more. -/
def readdedCalls : List PolicyCall :=
  [.addRule { name := [0x77] }, .evaluate [{}, {}], .removeRule [0x77],
    .addRule { name := [0x77] }, .evaluate [{}]]

/-- Where these calls lead. -/
def readded : PolicyEngine × (Bytes → Nat) :=
  readdedCalls.foldl (fun state call =>
    ((call.run state.1).2, call.count state.2 (call.run state.1).1)) ({}, fun _ => 0)

theorem policy_first_match_readded : readded.2 [0x77] = 1 ∧ readded.1.rules.length = 1 ∧
    ∀ rule ∈ readded.1.rules, readded.1.hitCount rule.name = .ofNat (readded.2 rule.name) := by
  have hexec : policyCalls.exec ({}, fun _ => 0) readdedCalls = some readded := rfl
  have hreachable : policyCalls.Reachable readded := .exec (.init ⟨rfl, rfl⟩) hexec
  exact ⟨by decide +kernel, by decide +kernel, (policy_first_match hreachable).2.2.2.2.1⟩

end WireLab
