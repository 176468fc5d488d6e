import WireLab.Model.AnomalyDetector

/-!
# Detection by definition

The detector counts a window in one pass with eight counters. By definition an
anomaly is simpler: each type measures the traffic of each source in the window,
and a source exceeds when its measurement is over the type's threshold. The two
agree (`mem_candidates`).
-/

namespace WireLab

open Base

/-- Who the anomalies of a type are attributed to. -/
inductive AnomalySource
  | mac (address : MacAddress)
  | ipv4 (address : UInt32)
  | port (ingressPort : UInt32)
  deriving DecidableEq

namespace AnomalyType

/-- The source an observation counts against, if it counts. -/
def source (type : AnomalyType) (observation : ObservedPacket) : Option AnomalySource :=
  match type with
  | .broadcastStorm => observation.broadcastSource.map .mac
  | .macFlap => observation.flapSource.map .mac
  | .unknownUnicastFlood => observation.unknownUnicastSource.map .mac
  | .udpFlood => observation.udpSource.map .ipv4
  | .portScan => observation.scanSource.map .ipv4
  | .hotTalker => observation.talkerSource.map .mac
  | .malformedFrame => observation.malformedSource.map .port

/-- What is measured of a source's traffic: port changes, distinct destination
ports, or packets. -/
def measure (type : AnomalyType) (traffic : List ObservedPacket) : Nat :=
  match type with
  | .macFlap => transitions (traffic.map ObservedPacket.ingressPort)
  | .portScan => (traffic.map ObservedPacket.destinationPort).toFinset.card
  | _ => traffic.length

def threshold (type : AnomalyType) (config : AnomalyDetectorConfig) : Nat :=
  match type with
  | .broadcastStorm => config.broadcastPacketsThreshold
  | .macFlap => config.macFlapTransitionsThreshold
  | .unknownUnicastFlood => config.unknownUnicastPacketsThreshold
  | .udpFlood => config.udpPacketsThreshold
  | .portScan => config.portScanDestinationsThreshold
  | .hotTalker => config.hotTalkerPacketsThreshold
  | .malformedFrame => config.malformedFramesThreshold

end AnomalyType

/-- The traffic of a source in a window. -/
def trafficOf (type : AnomalyType) (source : AnomalySource) (window : List ObservedPacket) :
    List ObservedPacket :=
  window.filter fun observation => type.source observation = some source

/-- The port the last packet came in by. -/
def lastIngress (traffic : List ObservedPacket) : UInt32 :=
  (traffic.getLast?.map ObservedPacket.ingressPort).getD 0

def totalBytes (traffic : List ObservedPacket) : Nat :=
  (traffic.map fun observation => observation.frameLength.toNat).sum

/-- A source is over the threshold of a type that is switched on. -/
structure Exceeds (config : AnomalyDetectorConfig) (window : List ObservedPacket)
    (type : AnomalyType) (source : AnomalySource) : Prop where
  enabled : type.threshold config ≠ 0
  above : type.threshold config < type.measure (trafficOf type source window)

/-- The address fields of the events about a source. -/
def AnomalySource.sourceMac : AnomalySource → MacAddress
  | .mac address => address
  | .ipv4 _ => .zero
  | .port _ => .zero

def AnomalySource.sourceIpv4 : AnomalySource → UInt32
  | .mac _ => 0
  | .ipv4 address => address
  | .port _ => 0

/-- What is reported about a source. -/
def report (config : AnomalyDetectorConfig) (window : List ObservedPacket) (type : AnomalyType)
    (source : AnomalySource) : AnomalyEvent :=
  let traffic := trafficOf type source window
  { type
    sourceMac := source.sourceMac
    sourceIpv4 := source.sourceIpv4
    ingressPort := lastIngress traffic
    observedPackets := if type = .portScan then 0 else type.measure traffic
    observedBytes := if type = .portScan ∨ type = .macFlap then 0 else totalBytes traffic
    observedDistinctDestinations := if type = .portScan then type.measure traffic else 0
    threshold := type.threshold config
    windowDurationNs := config.windowDurationNs }

/-! ## The counters -/

/-- Counting packets one by one. -/
private theorem foldl_count (traffic : List ObservedPacket) :
    traffic.foldl TrafficCounter.count {} =
      { packets := traffic.length, bytes := totalBytes traffic,
        ingressPort := lastIngress traffic } := by
  induction traffic using List.reverseRecOn with
  | nil => rfl
  | append_singleton traffic observation ih =>
      simp [List.foldl_append, ih, TrafficCounter.count, totalBytes, lastIngress]

/-- Collecting destination ports one by one. -/
private theorem foldl_destinations (traffic : List ObservedPacket) :
    traffic.foldl (fun found observation => insert observation.destinationPort found) ∅ =
      (traffic.map ObservedPacket.destinationPort).toFinset := by
  induction traffic using List.reverseRecOn with
  | nil => rfl
  | append_singleton traffic observation ih =>
      rw [List.foldl_append, ih]
      ext port
      simp

/-- Remembering the port of the last packet. -/
private theorem foldl_ingressPort (traffic : List ObservedPacket) :
    traffic.foldl (fun _ observation => observation.ingressPort) 0 = lastIngress traffic := by
  induction traffic using List.reverseRecOn with
  | nil => rfl
  | append_singleton traffic observation ih => simp [List.foldl_append, lastIngress]

/-- Collecting ingress ports one by one. -/
private theorem foldl_ingressPorts (traffic : List ObservedPacket) :
    traffic.foldl (fun ports observation => ports ++ [observation.ingressPort]) [] =
      traffic.map ObservedPacket.ingressPort := by
  induction traffic using List.reverseRecOn with
  | nil => rfl
  | append_singleton traffic observation ih => simp [List.foldl_append, ih]

/-- One pass groups the window eight ways. -/
private theorem foldl_observe (window : List ObservedPacket) (tally : Tally) :
    window.foldl Tally.observe tally =
      { broadcasts :=
          group ObservedPacket.broadcastSource {} TrafficCounter.count tally.broadcasts window
        unknownUnicasts :=
          group ObservedPacket.unknownUnicastSource {} TrafficCounter.count
            tally.unknownUnicasts window
        udpSources := group ObservedPacket.udpSource {} TrafficCounter.count tally.udpSources window
        scanDestinations :=
          group ObservedPacket.scanSource ∅
            (fun found observation => insert observation.destinationPort found)
            tally.scanDestinations window
        scanIngressPorts :=
          group ObservedPacket.scanSource 0 (fun _ observation => observation.ingressPort)
            tally.scanIngressPorts window
        ingressPorts :=
          group ObservedPacket.flapSource []
            (fun ports observation => ports ++ [observation.ingressPort])
            tally.ingressPorts window
        sourceTraffic :=
          group ObservedPacket.talkerSource {} TrafficCounter.count tally.sourceTraffic window
        malformedIngressPorts :=
          group ObservedPacket.malformedSource {} TrafficCounter.count
            tally.malformedIngressPorts window } := by
  induction window generalizing tally with
  | nil => rfl
  | cons observation window ih => exact ih (tally.observe observation)

/-! ## The candidates -/

section
variable {config : AnomalyDetectorConfig} {window : List ObservedPacket} {event : AnomalyEvent}

theorem candidate?_eq_some {type : AnomalyType} {sourceMac : MacAddress}
    {sourceIpv4 ingressPort : UInt32} {packets bytes destinations threshold : Nat} :
    candidate? config type sourceMac sourceIpv4 ingressPort packets bytes destinations threshold =
        some event ↔
      threshold ≠ 0 ∧ (threshold < packets ∨ threshold < destinations) ∧
        { type, sourceMac, sourceIpv4, ingressPort, observedPackets := packets,
          observedBytes := bytes, observedDistinctDestinations := destinations, threshold,
          windowDurationNs := config.windowDurationNs } = event := by
  unfold candidate?
  split
  · next hoff => simp [hoff]
  · next hon =>
      split
      · next hbelow =>
          simp only [reduceCtorEq, false_iff]
          rintro ⟨_, hover, _⟩
          omega
      · next hbelow =>
          have hover : threshold < packets ∨ threshold < destinations := by omega
          simp only [Option.some.injEq, ne_eq, hon, not_false_iff, hover, true_and]

/-- Nothing is measured of no traffic. -/
theorem Exceeds.traffic_ne_nil {type : AnomalyType} {source : AnomalySource}
    (h : Exceeds config window type source) : trafficOf type source window ≠ [] := by
  intro hnil
  have habove := h.above
  rw [hnil] at habove
  cases type <;> exact absurd habove (Nat.not_lt_zero _)

/-- The group of a key is the traffic of its source. -/
private theorem filter_key {K : Type} [DecidableEq K] {key : ObservedPacket → Option K}
    {type : AnomalyType} (wrap : K → AnomalySource) (hwrap : Function.Injective wrap)
    (hsource : ∀ observation, type.source observation = (key observation).map wrap)
    (window : List ObservedPacket) (k : K) :
    (window.filter fun observation => key observation = some k) =
      trafficOf type (wrap k) window := by
  refine List.filter_congr fun observation _ => ?_
  have hkey : (key observation).map wrap = some (wrap k) ↔ key observation = some k :=
    (Option.map_injective hwrap).eq_iff' rfl
  simp only [hsource, hkey]

/-- A detector that groups the window by its type's source finds what exceeds,
if its candidates are right group by group. -/
private theorem mem_detector {K V : Type} [DecidableEq K] {key : ObservedPacket → Option K}
    {empty : V} {step : V → ObservedPacket → V} {f : (Sigma fun _ : K => V) → Option AnomalyEvent}
    {type : AnomalyType} (wrap : K → AnomalySource) (hwrap : Function.Injective wrap)
    (hsource : ∀ observation, type.source observation = (key observation).map wrap)
    (hf : ∀ k, f ⟨k, (trafficOf type (wrap k) window).foldl step empty⟩ = some event ↔
      Exceeds config window type (wrap k) ∧ report config window type (wrap k) = event) :
    event ∈ (group key empty step ∅ window).entries.filterMap f ↔
      ∃ source, Exceeds config window type source ∧ report config window type source = event := by
  have htraffic := filter_key wrap hwrap hsource window
  rw [List.mem_filterMap]
  constructor
  · rintro ⟨⟨k, v⟩, hmem, hfound⟩
    obtain ⟨_, rfl⟩ := lookup_group_iff.mp ((Dict.mem_entries_iff _ k v).mp hmem)
    rw [htraffic] at hfound
    exact ⟨wrap k, (hf k).mp hfound⟩
  · rintro ⟨source, hexceeds, hreport⟩
    -- A source that exceeds has traffic, whose group it is.
    obtain ⟨observation, hmem⟩ := List.exists_mem_of_ne_nil _ hexceeds.traffic_ne_nil
    have hkey := (List.mem_filter.mp hmem).2
    rw [decide_eq_true_eq, hsource, Option.map_eq_some_iff] at hkey
    obtain ⟨k, _, rfl⟩ := hkey
    refine ⟨⟨k, _⟩, (Dict.mem_entries_iff _ k _).mpr (lookup_group_iff.mpr ⟨?_, rfl⟩), ?_⟩
    · rw [htraffic]
      exact hexceeds.traffic_ne_nil
    · rw [htraffic]
      exact (hf k).mpr ⟨hexceeds, hreport⟩

/-- A detector that counts packets per source address. -/
private theorem mem_macCandidates (key : ObservedPacket → Option MacAddress) (type : AnomalyType)
    (hsource : ∀ observation, type.source observation = (key observation).map .mac)
    (hmeasure : ∀ traffic, type.measure traffic = traffic.length)
    (hreport : ∀ address, report config window type (.mac address) =
      { type, sourceMac := address, sourceIpv4 := 0
        ingressPort := lastIngress (trafficOf type (.mac address) window)
        observedPackets := (trafficOf type (.mac address) window).length
        observedBytes := totalBytes (trafficOf type (.mac address) window)
        observedDistinctDestinations := 0
        threshold := type.threshold config
        windowDurationNs := config.windowDurationNs }) :
    event ∈ macCandidates config type (type.threshold config)
        (group key {} TrafficCounter.count ∅ window) ↔
      ∃ source, Exceeds config window type source ∧ report config window type source = event := by
  refine mem_detector .mac (fun _ _ => AnomalySource.mac.inj) hsource fun address => ?_
  rw [foldl_count, candidate?_eq_some, hreport]
  constructor
  · rintro ⟨hon, hover, hevent⟩
    refine ⟨⟨hon, ?_⟩, hevent⟩
    rw [hmeasure]
    exact hover.resolve_right (Nat.not_lt_zero _)
  · rintro ⟨⟨hon, hover⟩, hevent⟩
    rw [hmeasure] at hover
    exact ⟨hon, .inl hover, hevent⟩

private theorem mem_udpCandidates :
    event ∈ udpCandidates config (group ObservedPacket.udpSource {} TrafficCounter.count ∅ window) ↔
      ∃ source, Exceeds config window .udpFlood source ∧
        report config window .udpFlood source = event := by
  refine mem_detector .ipv4 (fun _ _ => AnomalySource.ipv4.inj) (fun _ => rfl)
    fun address => ?_
  rw [foldl_count, candidate?_eq_some]
  constructor
  · rintro ⟨hon, hover, hevent⟩
    exact ⟨⟨hon, hover.resolve_right (Nat.not_lt_zero _)⟩, hevent⟩
  · rintro ⟨⟨hon, hover⟩, hevent⟩
    exact ⟨hon, .inl hover, hevent⟩

private theorem scanSource_ipv4 (observation : ObservedPacket) :
    AnomalyType.portScan.source observation = observation.scanSource.map .ipv4 :=
  rfl

private theorem mem_scanCandidates :
    event ∈ scanCandidates config
        (group ObservedPacket.scanSource ∅
          (fun found observation => insert observation.destinationPort found) ∅ window)
        (group ObservedPacket.scanSource 0 (fun _ observation => observation.ingressPort) ∅
          window) ↔
      ∃ source, Exceeds config window .portScan source ∧
        report config window .portScan source = event := by
  refine mem_detector .ipv4 (fun _ _ => AnomalySource.ipv4.inj) (fun _ => rfl)
    fun address => ?_
  rw [foldl_destinations, candidate?_eq_some, getD_lookup_group,
    filter_key .ipv4 (fun _ _ => AnomalySource.ipv4.inj) scanSource_ipv4, foldl_ingressPort]
  constructor
  · rintro ⟨hon, hover, hevent⟩
    exact ⟨⟨hon, hover.resolve_left (Nat.not_lt_zero _)⟩, hevent⟩
  · rintro ⟨⟨hon, hover⟩, hevent⟩
    exact ⟨hon, .inr hover, hevent⟩

private theorem mem_flapCandidates :
    event ∈ flapCandidates config
        (group ObservedPacket.flapSource []
          (fun ports observation => ports ++ [observation.ingressPort]) ∅ window) ↔
      ∃ source, Exceeds config window .macFlap source ∧
        report config window .macFlap source = event := by
  refine mem_detector .mac (fun _ _ => AnomalySource.mac.inj) (fun _ => rfl)
    fun address => ?_
  rw [foldl_ingressPorts, candidate?_eq_some]
  simp only [List.getLast?_map]
  constructor
  · rintro ⟨hon, hover, hevent⟩
    exact ⟨⟨hon, hover.resolve_right (Nat.not_lt_zero _)⟩, hevent⟩
  · rintro ⟨⟨hon, hover⟩, hevent⟩
    exact ⟨hon, .inl hover, hevent⟩

/-- Malformed frames come in by the port they are attributed to. -/
private theorem lastIngress_malformed {port : UInt32}
    (h : trafficOf .malformedFrame (.port port) window ≠ []) :
    lastIngress (trafficOf .malformedFrame (.port port) window) = port := by
  have hlast := (List.mem_filter.mp (List.getLast_mem h)).2
  rw [decide_eq_true_eq, AnomalyType.source, Option.map_eq_some_iff] at hlast
  obtain ⟨port', hsource, hport⟩ := hlast
  obtain rfl := AnomalySource.port.inj hport
  rw [ObservedPacket.malformedSource] at hsource
  split at hsource
  · exact absurd hsource (by simp)
  · rw [lastIngress, List.getLast?_eq_getLast_of_ne_nil h]
    exact Option.some.inj hsource

private theorem mem_malformedCandidates :
    event ∈ malformedCandidates config
        (group ObservedPacket.malformedSource {} TrafficCounter.count ∅ window) ↔
      ∃ source, Exceeds config window .malformedFrame source ∧
        report config window .malformedFrame source = event := by
  refine mem_detector .port (fun _ _ => AnomalySource.port.inj) (fun _ => rfl)
    fun port => ?_
  rw [foldl_count, candidate?_eq_some]
  constructor
  · rintro ⟨hon, hover, hevent⟩
    have hexceeds : Exceeds config window .malformedFrame (.port port) :=
      ⟨hon, hover.resolve_right (Nat.not_lt_zero _)⟩
    refine ⟨hexceeds, ?_⟩
    simp only [report, lastIngress_malformed hexceeds.traffic_ne_nil]
    exact hevent
  · rintro ⟨hexceeds, hevent⟩
    simp only [report, lastIngress_malformed hexceeds.traffic_ne_nil] at hevent
    exact ⟨hexceeds.enabled, .inl hexceeds.above, hevent⟩

/-- **The detector finds what exceeds**: the candidates of a window are the
reports on the sources over their thresholds. -/
theorem mem_candidates :
    event ∈ AnomalyDetector.candidates config window ↔
      ∃ type source, Exceeds config window type source ∧
        report config window type source = event := by
  have hstorm := @mem_macCandidates config window event ObservedPacket.broadcastSource
    .broadcastStorm (fun _ => rfl) (fun _ => rfl) fun _ => rfl
  have hflood := @mem_macCandidates config window event ObservedPacket.unknownUnicastSource
    .unknownUnicastFlood (fun _ => rfl) (fun _ => rfl) fun _ => rfl
  have htalker := @mem_macCandidates config window event ObservedPacket.talkerSource
    .hotTalker (fun _ => rfl) (fun _ => rfl) fun _ => rfl
  simp only [AnomalyType.threshold] at hstorm hflood htalker
  simp only [AnomalyDetector.candidates, List.mem_insertionSort, foldl_observe, Tally.candidates,
    List.mem_append, hstorm, hflood, htalker, mem_udpCandidates, mem_scanCandidates,
    mem_flapCandidates, mem_malformedCandidates]
  constructor
  · rintro ((((((h | h) | h) | h) | h) | h) | h)
    all_goals exact ⟨_, h⟩
  · rintro ⟨type, h⟩
    cases type <;> simp only [h, true_or, or_true]

end

/-! ## One evaluation -/

/-- What an evaluation does: the window moves on, the detector remembers what
exceeds in it, and reports what it did not remember before. -/
structure Detects (before : AnomalyDetector) (batch : AnalysisBatch) (timestampNs : Nat)
    (events : List AnomalyEvent) (after : AnomalyDetector) : Prop where
  config : after.config = before.config
  window : after.observations = before.window batch timestampNs
  remembers : after.activeAnomalies =
    (AnomalyDetector.candidates after.config after.observations).map AnomalyEvent.active
  reports : ∀ event, event ∈ events ↔
    event ∈ AnomalyDetector.candidates after.config after.observations ∧
      event.active ∉ before.activeAnomalies

theorem AnomalyDetector.evaluate_detects {before after : AnomalyDetector} {batch : AnalysisBatch}
    {timestampNs : Nat} {events : List AnomalyEvent}
    (h : before.evaluate batch timestampNs = some (events, after)) :
    Detects before batch timestampNs events after := by
  simp only [evaluate] at h
  split at h
  · exact absurd h (by simp)
  · obtain ⟨rfl, rfl⟩ := Prod.mk.inj (Option.some.inj h)
    exact ⟨rfl, rfl, rfl, fun event => by rw [List.mem_filter, decide_eq_true_eq]⟩

end WireLab
