import WireLab.Base.Counters
import WireLab.Logic.GroupedBatches
import WireLab.Replay.Judgements
import WireLab.Theorems.FirstMatch

/-!
# What a replay adds up

The totals are those of the whole capture, however it is cut into batches
(`totals_judgements`), the rule hits those of the policy engine (`hits_judgements`), and
each table of names accounts for its events (`counts_names`).
-/

namespace WireLab

open Base

/-! ## Packets and bytes -/

/-- Batches of which a replay says the same in its totals. -/
structure SameTotals (first second : AnalysisBatch) : Prop where
  receivedPackets : first.receivedPackets = second.receivedPackets
  receivedBytes : first.receivedBytes = second.receivedBytes
  malformedPackets : first.malformedPackets = second.malformedPackets
  broadcastPackets : first.broadcastPackets = second.broadcastPackets
  unknownUnicastPackets : first.unknownUnicastPackets = second.unknownUnicastPackets
  knownUnicastPackets : first.knownUnicastPackets = second.knownUnicastPackets

theorem SameTotals.trans {first second third : AnalysisBatch} (h : SameTotals first second)
    (h' : SameTotals second third) : SameTotals first third where
  receivedPackets := h.receivedPackets.trans h'.receivedPackets
  receivedBytes := h.receivedBytes.trans h'.receivedBytes
  malformedPackets := h.malformedPackets.trans h'.malformedPackets
  broadcastPackets := h.broadcastPackets.trans h'.broadcastPackets
  unknownUnicastPackets := h.unknownUnicastPackets.trans h'.unknownUnicastPackets
  knownUnicastPackets := h.knownUnicastPackets.trans h'.knownUnicastPackets

/-- Two batches are added one after the other, or as one. -/
theorem Combines.addTotals {first second whole : AnalysisBatch} (h : Combines first second whole)
    (totals : AnalysisBatch) :
    SameTotals (Replay.addTotals (Replay.addTotals totals first) second)
      (Replay.addTotals totals whole) where
  receivedPackets := by
    show _ + _ + _ = _ + _
    rw [h.receivedPackets, add_assoc]
  receivedBytes := by
    show _ + _ + _ = _ + _
    rw [h.receivedBytes, add_assoc]
  malformedPackets := by
    show _ + _ + _ = _ + _
    rw [h.malformedPackets, add_assoc]
  broadcastPackets := by
    show _ + _ + _ = _ + _
    rw [h.broadcastPackets, add_assoc]
  unknownUnicastPackets := by
    show _ + _ + _ = _ + _
    rw [h.unknownUnicastPackets, add_assoc]
  knownUnicastPackets := by
    show _ + _ + _ = _ + _
    rw [h.knownUnicastPackets, add_assoc]

theorem sameTotals_fresh (analysis : AnalysisBatch) :
    SameTotals (Replay.addTotals {} analysis) analysis :=
  ⟨zero_add _, zero_add _, zero_add _, zero_add _, zero_add _, zero_add _⟩

theorem measuredPackets_append (first second : List CapturedPacket) :
    measuredPackets (first ++ second) = measuredPackets first ++ measuredPackets second := by
  rw [measuredPackets, parsedPackets, List.map_append, List.map_append]
  rfl

/-- **The totals do not depend on the batches**, by induction on them. -/
theorem totals_judgements (watch : Watch) (batches : List (List CapturedPacket))
    (totals : AnalysisBatch) :
    SameTotals
      (((watch.judgements batches).map Judgement.analysis).foldl Replay.addTotals totals)
      (Replay.addTotals totals
        (analysisBatch watch.learnedMacs (measuredPackets batches.flatten)).1) := by
  induction batches generalizing watch totals with
  | nil => exact ⟨(add_zero _).symm, (add_zero _).symm, (add_zero _).symm, (add_zero _).symm,
      (add_zero _).symm, (add_zero _).symm⟩
  | cons packets batches ih =>
      have hcombined := analysisBatch_append watch.learnedMacs (measuredPackets packets)
        (measuredPackets batches.flatten)
      rw [List.flatten_cons, measuredPackets_append]
      exact (ih (watch.behind packets) _).trans (hcombined.addTotals totals)

/-- The addresses learned do not depend on the batches either. -/
theorem learnedMacs_after (watch : Watch) (batches : List (List CapturedPacket)) :
    (watch.after batches).learnedMacs =
      (analysisBatch watch.learnedMacs (measuredPackets batches.flatten)).2 := by
  induction batches generalizing watch with
  | nil => rfl
  | cons packets batches ih =>
      show ((watch.behind packets).after batches).learnedMacs = _
      rw [ih, List.flatten_cons, measuredPackets_append]
      show learnAll (learnAll watch.learnedMacs _) _ = learnAll watch.learnedMacs (_ ++ _)
      rw [learnAll, learnAll, learnAll, List.foldl_append]

/-! ## Rules and names -/

/-- A rule has hit as often as the decisions say. -/
theorem hits_judgements (watch : Watch) (batches : List (List CapturedPacket)) (name : Bytes) :
    (watch.after batches).pipeline.policies.hitCount name =
      watch.pipeline.policies.hitCount name + .ofNat
        (((watch.judgements batches).flatMap fun judgement => judgement.outcome.decisions).countP
          fun decision => decision.ruleName = name) := by
  induction batches generalizing watch with
  | nil => exact (add_zero _).symm
  | cons packets batches ih =>
      have hstep := watch.pipeline.policies.hitCount_evaluate
        (watch.judge packets).outcome.anomalies name
      rw [(watch.analyses packets).decided] at hstep
      show ((watch.behind packets).after batches).pipeline.policies.hitCount name = _
      rw [ih, hstep, Watch.judgements, List.flatMap_cons, List.countP_append, UInt64.ofNat_add,
        add_assoc]

theorem nsmul_one_uint64 (n : Nat) : n • (1 : UInt64) = .ofNat n := by
  induction n with
  | zero => rfl
  | succ n ih => rw [succ_nsmul, ih, UInt64.ofNat_add]; rfl

/-- A table of names counts each name and, together, all of them. -/
theorem counts_names (names : List Bytes) :
    (∀ name, ((names.foldl Replay.countName (∅ : Dict Bytes UInt64)).lookup name).getD 0 =
        .ofNat (names.countP fun other => other = name)) ∧
      ((names.foldl Replay.countName (∅ : Dict Bytes UInt64)).entries.map Sigma.snd).sum =
        .ofNat names.length := by
  have hcount : Replay.countName = countUp (1 : UInt64) := rfl
  rw [hcount]
  refine ⟨fun name => ?_, ?_⟩
  · rw [getD_lookup_countUp, Dict.lookup_empty, Option.getD_none, zero_add, nsmul_one_uint64]
  · rw [sum_countUp, nsmul_one_uint64]

end WireLab
