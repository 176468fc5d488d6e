import WireLab.Logic.BatchAnalysis
import WireLab.Logic.Containment
import WireLab.Logic.RaisedAnomalies

/-!
# Who is contained

What a supervisor has observed are frames it was asked about, each under the number of its
sender (`Traced`). So a lease always has its frames: as many of one source as the threshold
of an anomaly asks for, the last of them by a sender of the leased port (`Accused`), and
whatever the supervisor is asked keeps that (`supervisorGate_accountable`).
-/

namespace WireLab

open Base TopologyController PolicyEnforcer

/-- Of two lists that agree pairwise, a part of the second agrees with a part of the
first. -/
theorem forall₂_sublist {A B : Type} {R : A → B → Prop} {as : List A} {bs cs : List B}
    (h : List.Forall₂ R as bs) (hpart : cs.Sublist bs) :
    ∃ part, part.Sublist as ∧ List.Forall₂ R part cs := by
  induction hpart generalizing as with
  | slnil =>
      cases h
      exact ⟨[], .slnil, .nil⟩
  | cons b hpart ih =>
      cases h with
      | @cons a _ as _ _ hrest =>
          obtain ⟨part, hsublist, hagree⟩ := ih hrest
          exact ⟨part, hsublist.cons a, hagree⟩
  | cons_cons b hpart ih =>
      cases h with
      | @cons a _ as _ hfirst hrest =>
          obtain ⟨part, hsublist, hagree⟩ := ih hrest
          exact ⟨a :: part, hsublist.cons_cons a, .cons hfirst hagree⟩

/-- What the last elements are. -/
theorem forall₂_getLast? {A B : Type} {R : A → B → Prop} {as : List A} {bs : List B} {b : B}
    (h : List.Forall₂ R as bs) (hlast : bs.getLast? = some b) :
    ∃ a, as.getLast? = some a ∧ R a b := by
  induction h with
  | nil => cases hlast
  | @cons a b' as bs hfirst hrest ih =>
      cases hrest with
      | nil =>
          obtain rfl := Option.some.inj hlast
          exact ⟨a, rfl, hfirst⟩
      | cons hsecond hmore =>
          rw [List.getLast?_cons_cons] at hlast ⊢
          exact ih hlast

/-! ## Observations -/

/-- An analyzer that says of every packet what the packet says, and classifies it by some
addresses it has learned. -/
def PacketAnalyzer.Judges {α : Type} (analyzer : PacketAnalyzer α) : Prop :=
  ∀ object views, (∀ view ∈ views, view.bytes.length < 2 ^ 64) →
    List.Forall₂ (fun view packet => ∃ learnedMacs,
        packet = judge learnedMacs
          (analysisOf view.bytes view.ingressPort, .ofNat view.bytes.length))
      views (analyzer.analyze object views).1.packets

/-- A frame in the batch, under the number of its sender. -/
structure Batches (bindings : Dict Bytes Binding) (frame : Endpoint × Bytes) (view : PacketView) :
    Prop where
  bytes : view.bytes = frame.2
  fits : frame.2.length ≤ receiveBuffer
  bound : ∃ binding, bindings.lookup frame.1.toString = some binding ∧
    view.ingressPort = binding.ingressPort

/-- A frame as the detector keeps it. -/
def Notes (bindings : Dict Bytes Binding) (frame : Endpoint × Bytes) (observation : ObservedPacket) :
    Prop :=
  ∃ binding learnedMacs timestampNs, bindings.lookup frame.1.toString = some binding ∧
    observation = AnomalyDetector.observed timestampNs
      (judge learnedMacs (analysisOf frame.2 binding.ingressPort, .ofNat frame.2.length))

/-- A binding lasts. -/
def BindingsLast (bindings later : Dict Bytes Binding) : Prop :=
  ∀ name binding, bindings.lookup name = some binding → later.lookup name = some binding

section
variable {bindings later : Dict Bytes Binding} {frame : Endpoint × Bytes}

theorem Notes.lasts (h : BindingsLast bindings later) {observation : ObservedPacket}
    (hnotes : Notes bindings frame observation) : Notes later frame observation := by
  obtain ⟨binding, learnedMacs, timestampNs, hbound, hobservation⟩ := hnotes
  exact ⟨binding, learnedMacs, timestampNs, h _ _ hbound, hobservation⟩

theorem Batches.lasts (h : BindingsLast bindings later) {view : PacketView}
    (hbatches : Batches bindings frame view) : Batches later frame view := by
  obtain ⟨binding, hbound, hport⟩ := hbatches.bound
  exact ⟨hbatches.bytes, hbatches.fits, binding, h _ _ hbound, hport⟩

/-- What is in a batch came in whole. -/
theorem length_batched {frames : List (Endpoint × Bytes)} {views : List PacketView}
    {view : PacketView} (hviews : List.Forall₂ (Batches bindings) frames views)
    (hview : view ∈ views) : view.bytes.length ≤ receiveBuffer := by
  induction hviews with
  | nil => exact absurd hview List.not_mem_nil
  | cons hfirst _ ih =>
      rcases List.mem_cons.mp hview with rfl | hrest
      · rw [hfirst.bytes]
        exact hfirst.fits
      · exact ih hrest

/-- Analysed packets are noted. -/
theorem notes_analysed {frames : List (Endpoint × Bytes)} {views : List PacketView}
    {packets : List PacketAnalysis} (hviews : List.Forall₂ (Batches bindings) frames views)
    (hpackets : List.Forall₂ (fun view packet => ∃ learnedMacs,
        packet = judge learnedMacs
          (analysisOf view.bytes view.ingressPort, .ofNat view.bytes.length)) views packets)
    (timestampNs : Nat) :
    List.Forall₂ (Notes bindings) frames
      (packets.map (AnomalyDetector.observed timestampNs)) := by
  induction hviews generalizing packets with
  | nil =>
      cases hpackets
      exact .nil
  | cons hfirst hrest ih =>
      cases hpackets with
      | cons hpacket hmore =>
          obtain ⟨learnedMacs, rfl⟩ := hpacket
          obtain ⟨binding, hbound, hport⟩ := hfirst.bound
          refine .cons ⟨binding, learnedMacs, timestampNs, hbound, ?_⟩ (ih hmore)
          rw [hfirst.bytes, hport]

end

/-! ## What a frame says on its own -/

theorem analysisOf_port (bytes : Bytes) (ingressPort : UInt32) :
    analysisOf bytes ingressPort = { analysisOf bytes 0 with ingressPort } := by
  unfold analysisOf
  split_ifs
  · rfl
  · rfl
  · rfl
  · unfold transportAnalysis withTransport
    cases transport bytes <;> rfl
  · rfl
  · rfl

/-- A frame counts towards an anomaly of a source: by its addresses, or as a datagram of
UDP. -/
def CountsFor (type : AnomalyType) (source : AnomalySource) (frameData : Bytes) : Prop :=
  match type, source with
  | .broadcastStorm, .mac address =>
      14 ≤ frameData.length ∧ macAt frameData 6 = address ∧
        (macAt frameData 0).isBroadcast = true
  | .unknownUnicastFlood, .mac address =>
      14 ≤ frameData.length ∧ macAt frameData 6 = address ∧
        (macAt frameData 0).isBroadcast = false
  | .udpFlood, .ipv4 address =>
      (analysisOf frameData 0).validity = .valid ∧ (analysisOf frameData 0).protocol = 17 ∧
        (analysisOf frameData 0).sourceIpv4 = address
  | _, _ => False

section
variable {learnedMacs : List MacAddress} {frameData : Bytes} {ingressPort : UInt32}
  {timestampNs : Nat} {size : UInt64}

/-- A frame that is classified has addresses, and one of a kind is classified by where it
goes. -/
theorem judge_classified {as : PacketClassification} (has : as ≠ .malformed)
    (h : (judge learnedMacs (analysisOf frameData ingressPort, size)).classification = as) :
    14 ≤ frameData.length ∧ classification learnedMacs (macAt frameData 0) = as ∧
      (judge learnedMacs (analysisOf frameData ingressPort, size)).sourceMac =
        macAt frameData 6 := by
  by_cases hethernet : (analysisOf frameData ingressPort).HasEthernet
  · have hlength := (analysisOf_hasEthernet frameData ingressPort).mp hethernet
    have hheader := analysisOf_header frameData ingressPort
    rw [if_neg (not_lt.mpr hlength)] at hheader
    obtain ⟨hdestination, hrest⟩ := Prod.mk.inj hheader
    obtain ⟨hsource, _⟩ := Prod.mk.inj hrest
    rw [judge, if_pos hethernet] at h ⊢
    refine ⟨hlength, ?_, hsource⟩
    rw [← h]
    show _ = classification learnedMacs (analysisOf frameData ingressPort).destinationMac
    rw [hdestination]
    rfl
  · rw [judge, if_neg hethernet, analysisOf_classification] at h
    exact absurd h.symm has

theorem classification_broadcast {destination : MacAddress}
    (h : classification learnedMacs destination = .broadcast) : destination.isBroadcast = true := by
  unfold classification at h
  split at h
  · next hbroadcast => exact hbroadcast
  · split at h
    · cases h
    · cases h

theorem classification_unknown {destination : MacAddress}
    (h : classification learnedMacs destination = .unknownUnicast) :
    destination.isBroadcast = false := by
  unfold classification at h
  split at h
  · cases h
  · next hunicast => exact Bool.eq_false_iff.mpr hunicast

/-- **What counts against a source** says so itself, whatever was learned before it. -/
theorem countsFor_source {type : AnomalyType} {source : AnomalySource}
    (htype : type = .broadcastStorm ∨ type = .unknownUnicastFlood ∨ type = .udpFlood)
    (h : type.source (AnomalyDetector.observed timestampNs
      (judge learnedMacs (analysisOf frameData ingressPort, size))) = some source) :
    CountsFor type source frameData := by
  rcases htype with rfl | rfl | rfl
  · obtain ⟨address, haddress, rfl⟩ := Option.map_eq_some_iff.mp h
    unfold ObservedPacket.broadcastSource at haddress
    split at haddress
    · next hclass =>
        obtain ⟨hlength, hwhere, hsource⟩ := judge_classified (by simp) hclass
        exact ⟨hlength, hsource.symm.trans (Option.some.inj haddress),
          classification_broadcast hwhere⟩
    · cases haddress
  · obtain ⟨address, haddress, rfl⟩ := Option.map_eq_some_iff.mp h
    unfold ObservedPacket.unknownUnicastSource at haddress
    split at haddress
    · next hclass =>
        obtain ⟨hlength, hwhere, hsource⟩ := judge_classified (by simp) hclass
        exact ⟨hlength, hsource.symm.trans (Option.some.inj haddress),
          classification_unknown hwhere⟩
    · cases haddress
  · obtain ⟨address, haddress, rfl⟩ := Option.map_eq_some_iff.mp h
    unfold ObservedPacket.udpSource at haddress
    split at haddress
    · next hudp =>
        have hsame : ∀ item : Measured, (judge learnedMacs item).validity = item.1.validity ∧
            (judge learnedMacs item).protocol = item.1.protocol ∧
            (judge learnedMacs item).sourceIpv4 = item.1.sourceIpv4 := by
          intro item
          unfold judge
          split
          · exact ⟨rfl, rfl, rfl⟩
          · exact ⟨rfl, rfl, rfl⟩
        obtain ⟨hvalidity, hprotocol, hipv4⟩ := hsame (analysisOf frameData ingressPort, size)
        have hport := analysisOf_port frameData ingressPort
        refine ⟨?_, ?_, ?_⟩
        · exact (congrArg PacketAnalysis.validity hport).symm.trans
            (hvalidity.symm.trans hudp.1)
        · exact (congrArg PacketAnalysis.protocol hport).symm.trans
            (hprotocol.symm.trans hudp.2)
        · exact (congrArg PacketAnalysis.sourceIpv4 hport).symm.trans
            (hipv4.symm.trans (Option.some.inj haddress))
    · cases haddress

end

/-- Frames whose observations count against a source count themselves. -/
theorem countsFor_noted {bindings : Dict Bytes Binding} {type : AnomalyType}
    {source : AnomalySource} {frames : List (Endpoint × Bytes)} {traffic : List ObservedPacket}
    (htype : type = .broadcastStorm ∨ type = .unknownUnicastFlood ∨ type = .udpFlood)
    (hnoted : List.Forall₂ (Notes bindings) frames traffic)
    (hsource : ∀ observation ∈ traffic, type.source observation = some source) :
    ∀ frame ∈ frames, CountsFor type source frame.2 := by
  induction hnoted with
  | nil => exact fun frame hframe => absurd hframe List.not_mem_nil
  | @cons first observation frames traffic hfirst hrest ih =>
      intro frame hframe
      rcases List.mem_cons.mp hframe with rfl | hlater
      · obtain ⟨binding, learnedMacs, timestampNs, _, rfl⟩ := hfirst
        exact countsFor_source htype (hsource _ List.mem_cons_self)
      · exact ih (fun other hother => hsource other (List.mem_cons_of_mem _ hother)) frame hlater

/-- An observation has the number that its frame was judged under. -/
theorem ingress_judged (learnedMacs : List MacAddress) (timestampNs : Nat) (frameData : Bytes)
    (ingressPort : UInt32) :
    (AnomalyDetector.observed timestampNs (judge learnedMacs
      (analysisOf frameData ingressPort, .ofNat frameData.length))).ingressPort = ingressPort := by
  show (judge learnedMacs (analysisOf frameData ingressPort, _)).ingressPort = ingressPort
  have hport := congrArg PacketAnalysis.ingressPort (analysisOf_port frameData ingressPort)
  unfold judge
  split
  · exact hport
  · exact hport

/-! ## Supervisors -/

section
variable {α : Type} {analyzer : PacketAnalyzer α} {supervisor after : SwitchSupervisor α}
  {seen later : List (Endpoint × Bytes)} {now : Int}

/-- What was observed, and what is still in the batch, are frames that were asked about. -/
structure Traced (seen : List (Endpoint × Bytes)) (supervisor : SwitchSupervisor α)
    (old new : List (Endpoint × Bytes)) : Prop where
  part : (old ++ new).Sublist seen
  observed : List.Forall₂ (Notes supervisor.bindings) old supervisor.pipeline.detector.observations
  batched : List.Forall₂ (Batches supervisor.bindings) new supervisor.batch

/-- The frames behind a lease: those of a source exceed the threshold of an anomaly that a
policy acts on, and the last of them came in by the leased port. -/
structure Accuses (seen : List (Endpoint × Bytes)) (supervisor : SwitchSupervisor α)
    (portId : Bytes) (type : AnomalyType) (source : AnomalySource)
    (frames : List (Endpoint × Bytes)) (traffic : List ObservedPacket) : Prop where
  ruled : ∃ rule ∈ supervisor.pipeline.policies.rules, rule.anomalyType = type ∧
    EnforcementKind.ofAction rule.action ≠ .none
  part : frames.Sublist seen
  noted : List.Forall₂ (Notes supervisor.bindings) frames traffic
  source : ∀ observation ∈ traffic, type.source observation = some source
  above : type.threshold supervisor.pipeline.detector.config < type.measure traffic
  port : supervisor.controller.portIdAt (lastIngress traffic) = some portId

def Accused (seen : List (Endpoint × Bytes)) (supervisor : SwitchSupervisor α) (portId : Bytes) :
    Prop :=
  ∃ type source frames traffic, Accuses seen supervisor portId type source frames traffic

/-- The bindings last, and what an accusation refers to stays. -/
structure Continues (before after : SwitchSupervisor α) : Prop where
  bindings : BindingsLast before.bindings after.bindings
  rules : after.pipeline.policies.rules = before.pipeline.policies.rules
  config : after.pipeline.detector.config = before.pipeline.detector.config
  topology : after.controller.topology = before.controller.topology

/-- An accusation stands. -/
theorem Accused.continues (h : Continues supervisor after) (hseen : seen.Sublist later)
    {portId : Bytes} (haccused : Accused seen supervisor portId) : Accused later after portId := by
  obtain ⟨type, source, frames, traffic, haccuses⟩ := haccused
  refine ⟨type, source, frames, traffic, ?_, haccuses.part.trans hseen, ?_, haccuses.source, ?_, ?_⟩
  · rw [h.rules]
    exact haccuses.ruled
  · exact haccuses.noted.imp fun _ _ hnotes => hnotes.lasts h.bindings
  · rw [h.config]
    exact haccuses.above
  · rw [portIdAt_congr h.topology]
    exact haccuses.port

/-- Every lease has its frames. -/
structure Accountable (seen : List (Endpoint × Bytes)) (supervisor : SwitchSupervisor α) :
    Prop where
  governed : Governed supervisor
  traced : ∃ old new, Traced seen supervisor old new
  accused : ∀ portId, supervisor.pipeline.enforcer.isEnforced portId = true →
    Accused seen supervisor portId

theorem SwitchSupervisor.record_batch (supervisor : SwitchSupervisor α) (frameData : Bytes)
    (sender : Endpoint) :
    (supervisor.record frameData sender).2.batch = supervisor.batch ∨
      (supervisor.record frameData sender).2.batch = supervisor.batch ++
        [{ bytes := frameData, ingressPort := (supervisor.bind sender).1.ingressPort }] := by
  have hsame : (supervisor.bind sender).2.batch = supervisor.batch := by
    unfold SwitchSupervisor.bind
    split
    · rfl
    · rfl
  unfold SwitchSupervisor.record
  dsimp only
  split
  · exact .inr (by rw [hsame])
  · exact .inl hsame

/-- A frame goes into the batch, if there is room for it. -/
theorem Accountable.record (h : Accountable seen supervisor) {frameData : Bytes}
    (sender : Endpoint) (hfits : frameData.length ≤ receiveBuffer) :
    Accountable (seen ++ [(sender, frameData)]) (supervisor.record frameData sender).2 := by
  obtain ⟨_, hpipeline, hcontroller, _⟩ := record_same supervisor frameData sender
  have hlasts : BindingsLast supervisor.bindings (supervisor.record frameData sender).2.bindings := by
    intro name binding hbound
    rw [supervisor.record_bindings]
    exact SwitchSupervisor.lookup_bind_of_some hbound sender
  have hcontinues : Continues supervisor (supervisor.record frameData sender).2 :=
    ⟨hlasts, by rw [hpipeline], by rw [hpipeline], by rw [hcontroller]⟩
  have hseen : seen.Sublist (seen ++ [(sender, frameData)]) := List.sublist_append_left _ _
  refine ⟨h.governed.record frameData sender, ?_, ?_⟩
  · obtain ⟨old, new, htraced⟩ := h.traced
    have hold : List.Forall₂ (Notes (supervisor.record frameData sender).2.bindings) old
        (supervisor.record frameData sender).2.pipeline.detector.observations := by
      rw [hpipeline]
      exact htraced.observed.imp fun _ _ hnotes => hnotes.lasts hlasts
    have hnew : List.Forall₂ (Batches (supervisor.record frameData sender).2.bindings) new
        supervisor.batch := htraced.batched.imp fun _ _ hbatches => hbatches.lasts hlasts
    have hbound := supervisor.lookup_bind sender
    rw [← supervisor.record_bindings frameData sender] at hbound
    rcases supervisor.record_batch frameData sender with hfull | hroom
    · exact ⟨old, new, htraced.part.trans hseen, hold, hfull ▸ hnew⟩
    · refine ⟨old, new ++ [(sender, frameData)], ?_, hold, ?_⟩
      · rw [← List.append_assoc]
        exact htraced.part.append_right _
      · rw [hroom]
        exact List.rel_append hnew (.cons ⟨rfl, hfits, _, hbound, rfl⟩ .nil)
  · intro portId hlease
    rw [hpipeline] at hlease
    exact (h.accused portId hlease).continues hcontinues hseen

/-- Judging a frame accuses nobody. -/
theorem Accountable.judge (h : Accountable seen supervisor) (portId frameData : Bytes)
    (arrival : Int) : Accountable seen (supervisor.judge portId frameData arrival).2 := by
  have hjudged := h.governed.judge portId frameData arrival
  have hsame : (supervisor.judge portId frameData arrival).2.pipeline = supervisor.pipeline ∧
      (supervisor.judge portId frameData arrival).2.bindings = supervisor.bindings ∧
      (supervisor.judge portId frameData arrival).2.batch = supervisor.batch ∧
      (supervisor.judge portId frameData arrival).2.controller.topology =
        supervisor.controller.topology := by
    unfold SwitchSupervisor.judge
    dsimp only
    split
    · exact ⟨rfl, rfl, rfl, rfl⟩
    · split
      · exact ⟨rfl, rfl, rfl, rfl⟩
      · next hout => exact ⟨rfl, rfl, rfl, (faultAt_evaluatePort hout).1⟩
  obtain ⟨hpipeline, hbindings, hbatch, htopology⟩ := hsame
  refine ⟨hjudged, ?_, ?_⟩
  · obtain ⟨old, new, htraced⟩ := h.traced
    refine ⟨old, new, htraced.part, ?_, ?_⟩
    · rw [hbindings, hpipeline]
      exact htraced.observed
    · rw [hbindings, hbatch]
      exact htraced.batched
  · intro port hlease
    rw [hpipeline] at hlease
    refine (h.accused port hlease).continues ⟨?_, ?_, ?_, htopology⟩ (List.Sublist.refl seen)
    · intro name binding hbound
      rw [hbindings]
      exact hbound
    · rw [hpipeline]
    · rw [hpipeline]

/-- **An analysis accuses** whom it contains: what exceeds in the window are frames that were
asked about. -/
theorem Accountable.analyse (hjudges : analyzer.Judges) (h : Accountable seen supervisor)
    (hanalyses : SwitchSupervisor.AnalysesBatch analyzer now supervisor after) :
    Accountable seen after := by
  have hgoverned := h.governed.analyse hanalyses
  obtain ⟨outcome, hevaluate⟩ := hanalyses.evaluated
  obtain ⟨hanalysed, hwhole⟩ := AnalysisPipeline.evaluate_spec hevaluate
  have hdetects := AnomalyDetector.evaluate_detects hanalysed.detected
  have hrules : after.pipeline.policies.rules = supervisor.pipeline.policies.rules := by
    have hsame := supervisor.pipeline.policies.evaluate_rules outcome.anomalies
    rwa [hanalysed.decided] at hsame
  have hcontinues : Continues supervisor after := by
    refine ⟨?_, hrules, hdetects.config, (evaluate_topology hevaluate).1⟩
    intro name binding hbound
    rw [hanalyses.bindings]
    exact hbound
  -- the window is a part of what was observed before and what the batch adds
  obtain ⟨old, new, htraced⟩ := h.traced
  have hsizes : ∀ view ∈ supervisor.batch, view.bytes.length < 2 ^ 64 := by
    intro view hview
    exact lt_of_le_of_lt (length_batched htraced.batched hview) (by decide)
  have hadded := notes_analysed htraced.batched
    (hjudges supervisor.analyzer supervisor.batch hsizes)
    (max supervisor.pipeline.lastTimestampNs (SwitchSupervisor.timestampNs now))
  have hwindow : ∃ frames, frames.Sublist seen ∧
      List.Forall₂ (Notes after.bindings) frames after.pipeline.detector.observations := by
    have hsuffix := supervisor.pipeline.detector.window_suffix
      (analyzer.analyze supervisor.analyzer supervisor.batch).1
      (max supervisor.pipeline.lastTimestampNs (SwitchSupervisor.timestampNs now))
    obtain ⟨frames, hframes, hnoted⟩ :=
      forall₂_sublist (List.rel_append htraced.observed hadded) hsuffix.sublist
    rw [hdetects.window, hanalyses.bindings]
    exact ⟨frames, hframes.trans htraced.part, hnoted⟩
  obtain ⟨frames, hframes, hnoted⟩ := hwindow
  refine ⟨hgoverned, ⟨frames, [], ?_, hnoted, ?_⟩, ?_⟩
  · rw [List.append_nil]
    exact hframes
  · rw [hanalyses.batch]
    exact .nil
  · intro portId hlease
    rcases hwhole with ⟨hdetached, _⟩ | ⟨_, enforcer, middle, hreleases, happlies⟩
    · rw [h.governed.attached] at hdetached
      cases hdetached
    have henforced : (enforcer.apply outcome.decisions middle now).2.1.isEnforced portId = true := by
      rw [happlies]
      exact hlease
    rcases (isEnforced_apply enforcer middle outcome.decisions now portId).mp henforced with
      hold | ⟨decision, hdecision, henforceable⟩
    · -- an old lease has its frames
      obtain ⟨lease, hlookup⟩ := Option.isSome_iff_exists.mp hold
      have hkept : (supervisor.pipeline.enforcer.releaseExpired supervisor.controller
          now).2.1.leases.lookup portId = some lease := by
        rw [hreleases]
        exact hlookup
      have hearlier : supervisor.pipeline.enforcer.isEnforced portId = true := by
        rw [isEnforced, (lookup_releaseExpired.mp hkept).1]
        rfl
      exact (h.accused portId hearlier).continues hcontinues (List.Sublist.refl seen)
    · -- a new one has those of the source that exceeds
      have hmem : decision ∈ (supervisor.pipeline.policies.evaluate outcome.anomalies).1 := by
        rw [hanalysed.decided]
        exact hdecision
      obtain ⟨hevent, rule, hrule, haction, _⟩ :=
        (supervisor.pipeline.policies.mem_evaluate outcome.anomalies _ _ _).mp
          ⟨decision, hmem, rfl, rfl, rfl⟩
      obtain ⟨type, source, hexceeds, hreport⟩ :=
        mem_candidates.mp ((hdetects.reports decision.anomaly).mp hevent).1
      have htraffic : (trafficOf type source after.pipeline.detector.observations).Sublist
          after.pipeline.detector.observations := List.filter_sublist
      obtain ⟨part, hpart, hagree⟩ := forall₂_sublist hnoted htraffic
      refine ⟨type, source, part, _, ⟨?_, hpart.trans hframes, hagree, ?_, hexceeds.above, ?_⟩⟩
      · refine ⟨rule, hrules ▸ List.mem_of_find?_eq_some hrule, ?_, haction ▸ henforceable.kind⟩
        have hfound := List.find?_some hrule
        simp only [Bool.and_eq_true, decide_eq_true_eq] at hfound
        rw [hfound.2, ← hreport]
        rfl
      · intro observation hobservation
        have hcounted := (List.mem_filter.mp hobservation).2
        exact of_decide_eq_true hcounted
      · have hport := henforceable.port
        rw [← hreport] at hport
        have htopology : middle.topology = after.controller.topology := by
          have hafter := (apply_applies outcome.decisions enforcer middle now).topology
          rw [happlies] at hafter
          exact hafter.1.symm
        rw [portIdAt_congr htopology] at hport
        exact hport

/-- **What a supervisor is asked** leaves every lease its frames. -/
theorem supervisorGate_accountable (hjudges : analyzer.Judges) :
    (supervisorGate analyzer).Keeps Accountable := by
  refine supervisorGate_keeps ?_ ?_ ?_ ?_
  · exact fun _ _ h => h.governed.uncontrolled
  · exact fun _ _ _ sender h hfits => h.record sender hfits
  · exact fun _ _ _ _ h hanalyses => h.analyse hjudges hanalyses
  · exact fun _ _ portId frameData arrival h => h.judge portId frameData arrival

end
end WireLab
