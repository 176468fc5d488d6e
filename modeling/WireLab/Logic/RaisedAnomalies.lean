import WireLab.Logic.Detection

/-!
# What raises an anomaly

The detector reports what exceeds in the window and did not at the evaluation before.
The window loses packets at its front only, and nothing that is measured of a source's
traffic rises with that. So a source that the new packets say nothing about exceeds only
if it did already, and what is reported was raised by the batch (`raised_by_batch`).
-/

namespace WireLab

open Base

/-! ## Less traffic measures less -/

theorem transitions_cons_le (port : UInt32) (ports : List UInt32) :
    transitions ports ≤ transitions (port :: ports) := by
  cases ports with
  | nil => exact Nat.zero_le _
  | cons next ports =>
      show _ ≤ (if next ≠ port then 1 else 0) + transitions (next :: ports)
      omega

theorem transitions_suffix {later ports : List UInt32} (h : later <:+ ports) :
    transitions later ≤ transitions ports := by
  obtain ⟨earlier, rfl⟩ := h
  induction earlier with
  | nil => exact Nat.le_refl _
  | cons port earlier ih => exact ih.trans (transitions_cons_le port (earlier ++ later))

/-- **What is measured falls** where traffic is dropped at the front. -/
theorem AnomalyType.measure_suffix (type : AnomalyType) {later traffic : List ObservedPacket}
    (h : later <:+ traffic) : type.measure later ≤ type.measure traffic := by
  cases type with
  | macFlap => exact transitions_suffix (h.map ObservedPacket.ingressPort)
  | portScan =>
      refine Finset.card_le_card fun port hport => ?_
      rw [List.mem_toFinset] at hport ⊢
      exact (h.map ObservedPacket.destinationPort).subset hport
  | broadcastStorm => exact h.length_le
  | unknownUnicastFlood => exact h.length_le
  | udpFlood => exact h.length_le
  | hotTalker => exact h.length_le
  | malformedFrame => exact h.length_le

theorem lastIngress_suffix {later traffic : List ObservedPacket} (h : later <:+ traffic)
    (hne : later ≠ []) : lastIngress later = lastIngress traffic := by
  obtain ⟨earlier, rfl⟩ := h
  rw [lastIngress, lastIngress, List.getLast?_append_of_ne_nil _ hne]

theorem trafficOf_append (type : AnomalyType) (source : AnomalySource)
    (first second : List ObservedPacket) :
    trafficOf type source (first ++ second) =
      trafficOf type source first ++ trafficOf type source second := List.filter_append ..

theorem trafficOf_eq_nil {type : AnomalyType} {source : AnomalySource}
    {window : List ObservedPacket} :
    trafficOf type source window = [] ↔
      ∀ observation ∈ window, type.source observation ≠ some source := by
  rw [trafficOf, List.filter_eq_nil_iff]
  exact forall₂_congr fun observation _ => by rw [decide_eq_true_eq]

/-! ## One evaluation -/

/-- What is remembered as active exceeds in the window. -/
def AnomalyDetector.Remembers (detector : AnomalyDetector) : Prop :=
  detector.activeAnomalies =
    (AnomalyDetector.candidates detector.config detector.observations).map AnomalyEvent.active

/-- A detector that has seen nothing remembers nothing. -/
theorem AnomalyDetector.remembers_fresh {detector : AnomalyDetector}
    (hempty : detector.observations = []) (hnone : detector.activeAnomalies = []) :
    detector.Remembers := by
  have hcandidates : AnomalyDetector.candidates detector.config [] = [] := by
    refine List.eq_nil_iff_forall_not_mem.mpr fun event hevent => ?_
    obtain ⟨type, source, hexceeds, _⟩ := mem_candidates.mp hevent
    exact hexceeds.traffic_ne_nil rfl
  rw [Remembers, hempty, hnone, hcandidates, List.map_nil]

theorem Detects.remembers_after {before after : AnomalyDetector} {batch : AnalysisBatch}
    {timestampNs : Nat} {events : List AnomalyEvent}
    (h : Detects before batch timestampNs events after) : after.Remembers := h.remembers

/-- The window drops packets at the front. -/
theorem AnomalyDetector.window_suffix (detector : AnomalyDetector) (batch : AnalysisBatch)
    (timestampNs : Nat) :
    detector.window batch timestampNs <:+
      detector.observations ++ batch.packets.map (observed timestampNs) :=
  List.dropWhile_suffix _

/-- What is reported are candidates, in their order. -/
theorem AnomalyDetector.evaluate_sublist {before after : AnomalyDetector} {batch : AnalysisBatch}
    {timestampNs : Nat} {events : List AnomalyEvent}
    (h : before.evaluate batch timestampNs = some (events, after)) :
    events.Sublist (AnomalyDetector.candidates after.config after.observations) := by
  simp only [evaluate] at h
  split at h
  · exact absurd h (by simp)
  · obtain ⟨rfl, rfl⟩ := Prod.mk.inj (Option.some.inj h)
    exact List.filter_sublist

/-- How an anomaly is about the traffic of a source. -/
structure AnomalyEvent.About (event : AnomalyEvent) (source : AnomalySource)
    (traffic : List ObservedPacket) : Prop where
  sourceMac : event.sourceMac = source.sourceMac
  sourceIpv4 : event.sourceIpv4 = source.sourceIpv4
  present : trafficOf event.type source traffic ≠ []
  ingressPort : event.ingressPort = lastIngress (trafficOf event.type source traffic)

section
variable {before after : AnomalyDetector} {batch : AnalysisBatch} {timestampNs : Nat}
  {events : List AnomalyEvent}

/-- **A batch raises its own anomalies**: what is reported is about a source that packets
of the batch come from, and names the port by which the last of them came in. -/
theorem Detects.raised_by_batch (h : Detects before batch timestampNs events after)
    (hremembers : before.Remembers) {event : AnomalyEvent} (hevent : event ∈ events) :
    ∃ source, event.About source (batch.packets.map (AnomalyDetector.observed timestampNs)) := by
  obtain ⟨hcandidate, hnew⟩ := (h.reports event).mp hevent
  obtain ⟨type, source, hexceeds, rfl⟩ := mem_candidates.mp hcandidate
  rw [h.config, h.window] at hexceeds
  have hsuffix := (before.window_suffix batch timestampNs).filter
    fun observation => type.source observation = some source
  have hmeasured := type.measure_suffix hsuffix
  have hlast := lastIngress_suffix hsuffix hexceeds.traffic_ne_nil
  -- The new packets say something about the source, or it was active before.
  have hpresent : trafficOf type source
      (batch.packets.map (AnomalyDetector.observed timestampNs)) ≠ [] := by
    intro hsilent
    have hold : ((before.observations ++ batch.packets.map
        (AnomalyDetector.observed timestampNs)).filter fun observation =>
          type.source observation = some source) = trafficOf type source before.observations := by
      rw [← trafficOf, trafficOf_append, hsilent, List.append_nil]
    rw [hold] at hmeasured hlast
    have hearlier : Exceeds before.config before.observations type source :=
      ⟨hexceeds.enabled, lt_of_lt_of_le hexceeds.above hmeasured⟩
    refine hnew ?_
    rw [hremembers]
    refine List.mem_map.mpr ⟨_, mem_candidates.mpr ⟨type, source, hearlier, rfl⟩, ?_⟩
    rw [h.config, h.window]
    show (⟨type, _, _, lastIngress (trafficOf type source before.observations)⟩ : ActiveAnomaly) =
      ⟨type, _, _, lastIngress (trafficOf type source (before.window batch timestampNs))⟩
    rw [← hlast]
    rfl
  refine ⟨source, rfl, rfl, hpresent, ?_⟩
  show lastIngress (trafficOf type source after.observations) = _
  rw [h.window]
  refine hlast.trans ?_
  rw [← trafficOf, trafficOf_append]
  exact (lastIngress_suffix (List.suffix_append _ _) hpresent).symm

end

end WireLab
