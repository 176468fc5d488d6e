import WireLab.Logic.Forwarding
import WireLab.Logic.GroupedBatches

/-!
# Broadcast is always flooded

A frame to everyone is looked up in the table before it is recognised. As long as
nobody has sent from the broadcast address nothing is found there and the frame is
flooded; the first frame from that address that passes the gate ends it
(`broadcast_flooded_iff`, `broadcast_captured`).
-/

namespace WireLab

open Base

variable {γ : Type}

/-- What a frame says, if it passes the gate. -/
def ForwardingCall.frame (plane : FrameGate γ) (vswitch : VSwitch γ) :
    ForwardingCall → Option (EthernetFrame × Endpoint)
  | .processFrame frameData sender now =>
      (vswitch.admitted plane frameData sender now).map fun passed => (passed.1, sender)
  | .drainDue _ => none
  | .tick _ => none

/-- A frame to everyone that passes the gate is counted as a broadcast, and goes to
every learned endpoint other than the sender's. -/
def FloodsBroadcast (plane : FrameGate γ) (before : VSwitch γ) (call : ForwardingCall)
    (after : VSwitch γ) : Prop :=
  ∀ frame sender, call.frame plane before = some (frame, sender) →
    frame.dstMac.isBroadcast = true →
      after.metrics.broadcastPackets = before.metrics.broadcastPackets + 1 ∧
      ∀ endpoint ∈ (before.tableFor frame sender).getAllEndpoints, endpoint ≠ sender →
        before.copiesFor endpoint < after.copiesFor endpoint

/-- Whether a call teaches the broadcast address: it is the source of a frame that
passes the gate. -/
def ForwardingCall.teachesBroadcast (plane : FrameGate γ) (vswitch : VSwitch γ)
    (call : ForwardingCall) : Bool :=
  (call.frame plane vswitch).any fun passed => passed.1.srcMac.isBroadcast

/-- The switch, and whether the broadcast address has been taught. -/
def teaching (plane : FrameGate γ) : TSys (VSwitch γ × Bool) ForwardingCall :=
  (forwarding plane).withGhost false fun taught before call _ =>
    taught || call.teachesBroadcast plane before

/-- The history says what the table has learned. -/
private def TellsTaught (state : VSwitch γ × Bool) : Prop :=
  state.2 = (state.1.macTable.lookup .broadcast).isSome

section
variable {plane : FrameGate γ} {before after : VSwitch γ} {call : ForwardingCall}

/-- A frame teaches its source and nothing else. -/
private theorem lookup_tableFor_broadcast (vswitch : VSwitch γ) (frame : EthernetFrame)
    (sender : Endpoint) :
    ((vswitch.tableFor frame sender).lookup .broadcast).isSome =
      ((vswitch.macTable.lookup .broadcast).isSome || frame.srcMac.isBroadcast) := by
  simp only [VSwitch.tableFor, MacTable.insert, MacTable.lookup, Dict.lookup_insert]
  by_cases hsource : MacAddress.broadcast = frame.srcMac
  · rw [if_pos hsource, (isBroadcast_iff frame.srcMac).mpr hsource.symm, Option.isSome_some,
      Bool.or_true]
  · have hother : frame.srcMac.isBroadcast = false := by
      cases hb : frame.srcMac.isBroadcast with
      | false => rfl
      | true => exact absurd ((isBroadcast_iff frame.srcMac).mp hb).symm hsource
    rw [if_neg hsource, hother, Bool.or_false]

/-- The table learns the broadcast address when the history says so. -/
private theorem tellsTaught_step {state state' : VSwitch γ × Bool} (h : TellsTaught state)
    (hstep : (teaching plane).step state call = some state') : TellsTaught state' := by
  obtain ⟨hnext, hnote⟩ := TSys.withGhost_step.mp hstep
  have hperform : call.perform plane state.1 = state'.1 := Option.some.inj hnext
  show state'.2 = _
  rw [hnote, h, ← hperform]
  cases call with
  | processFrame frameData sender now =>
      have hspec := state.1.processFrame_spec plane frameData sender now
      show _ = ((state.1.processFrame plane frameData sender now).macTable.lookup _).isSome
      rw [hspec.macTable]
      simp only [VSwitch.taught, ForwardingCall.teachesBroadcast, ForwardingCall.frame]
      cases state.1.admitted plane frameData sender now with
      | none => simp only [Option.map_none, Option.any_none, Bool.or_false]
      | some passed =>
          rw [lookup_tableFor_broadcast]
          rfl
  | drainDue now =>
      obtain ⟨delivered, hoffers, heq⟩ := state.1.drainDue_eq now
      show _ = ((state.1.drainDue now).macTable.lookup _).isSome
      rw [heq, hoffers.macTable]
      exact Bool.or_false _
  | tick now => exact Bool.or_false _

/-- A copy for everyone named is one more than there was. -/
private theorem copies_named {decision : FaultDecision} (frameData : Bytes) {endpoint : Endpoint}
    {endpoints : List Endpoint} (hpos : 0 < decision.deliveryCount) (hmem : endpoint ∈ endpoints) :
    0 < (endpoints.flatMap (decision.deliveries frameData)).countP (·.destination = endpoint) := by
  rw [List.countP_pos_iff]
  refine ⟨{ due := decision.deliveryTime 0, frameData, destination := endpoint }, ?_, ?_⟩
  · rw [List.mem_flatMap]
    refine ⟨endpoint, hmem, List.mem_map.mpr ⟨0, ?_, rfl⟩⟩
    rw [List.mem_range]
    exact Nat.lt_min.mpr ⟨hpos, by decide⟩
  · exact decide_eq_true rfl

/-- A frame to everyone is flooded exactly when the table it is forwarded by has
not learned the broadcast address. -/
private theorem floods_iff {frameData : Bytes} {sender : Endpoint} {now : Int}
    {frame : EthernetFrame} {decision : FaultDecision}
    (h : before.admitted plane frameData sender now = some (frame, decision))
    (hbroadcast : frame.dstMac.isBroadcast = true) :
    FloodsBroadcast plane before (.processFrame frameData sender now)
        (before.processFrame plane frameData sender now) ↔
      (before.tableFor frame sender).lookup .broadcast = none := by
  obtain ⟨hpos, _⟩ := VSwitch.admitted_count h
  have hspec := before.processFrame_spec plane frameData sender now
  have hdst : frame.dstMac = .broadcast := (isBroadcast_iff _).mp hbroadcast
  have hframe : ForwardingCall.frame plane before (.processFrame frameData sender now) =
      some (frame, sender) := by
    simp only [ForwardingCall.frame, h, Option.map_some]
  constructor
  · intro hfloods
    have hcounted := (hfloods frame sender hframe hbroadcast).1
    rw [hspec.broadcasts] at hcounted
    by_contra hsome
    -- a learned broadcast address is not counted
    have hflooded : before.flooded plane frameData sender now = false := by
      simp only [VSwitch.flooded, h, hdst, Option.isNone_eq_false_iff.mpr
        (Option.isSome_iff_ne_none.mpr hsome), Bool.false_and]
    rw [hflooded] at hcounted
    exact absurd ((UInt64.add_right_inj _).mp hcounted) (by decide)
  · intro hnone frame' sender' hframe' _
    obtain ⟨rfl, rfl⟩ := Prod.mk.inj (Option.some.inj (hframe.symm.trans hframe'))
    have hlookup : (before.tableFor frame sender).lookup frame.dstMac = none := by
      rw [hdst]
      exact hnone
    constructor
    · have hflooded : before.flooded plane frameData sender now = true := by
        simp only [VSwitch.flooded, h, hlookup, hbroadcast, Option.isNone_none, Bool.and_self]
      rw [hspec.broadcasts, if_pos hflooded]
    · intro endpoint hknown hother
      obtain ⟨mac, hmac⟩ := MacTable.mem_getAllEndpoints.mp hknown
      have hmem : endpoint ∈ (before.tableFor frame sender).getAllEndpointsExcept frame.srcMac := by
        have hsource := before.lookup_tableFor frame sender
        have hne : mac ≠ frame.srcMac := by
          rintro rfl
          exact hother (Option.some.inj (hmac.symm.trans hsource))
        exact MacTable.mem_getAllEndpointsExcept.mpr ⟨mac, hmac, hne⟩
      have hfate : before.fate plane frameData sender now = some
          (((before.tableFor frame sender).getAllEndpointsExcept frame.srcMac).flatMap
            (decision.deliveries frameData)) := by
        simp only [VSwitch.fate, h, Option.bind_some, VSwitch.destinations, hlookup, hbroadcast,
          if_true, Option.map_some]
      rw [before.copiesFor_processFrame plane (by rw [hfate, Option.getD_some])]
      have := copies_named frameData hpos hmem
      omega

/-- One call floods what it should exactly when it is not a frame to everyone that
is forwarded after the broadcast address was taught. -/
private theorem floods_step {state state' : VSwitch γ × Bool} (h : TellsTaught state)
    (hstep : (teaching plane).step state call = some state') :
    FloodsBroadcast plane state.1 call state'.1 ↔
      ((call.frame plane state.1).any (fun passed => passed.1.dstMac.isBroadcast) = true →
        state'.2 = false) := by
  obtain ⟨hnext, hnote⟩ := TSys.withGhost_step.mp hstep
  have hperform : call.perform plane state.1 = state'.1 := Option.some.inj hnext
  rw [← hperform]
  cases hframe : call.frame plane state.1 with
  | none =>
      constructor
      · intro _ hany
        cases hany
      · intro _ frame sender hsome
        rw [hframe] at hsome
        cases hsome
  | some passed =>
      obtain ⟨frame, sender⟩ := passed
      cases call with
      | drainDue now => cases hframe
      | tick now => cases hframe
      | processFrame frameData sender' now =>
          obtain ⟨⟨frame', decision⟩, hadmitted, heq⟩ := Option.map_eq_some_iff.mp hframe
          obtain ⟨rfl, rfl⟩ := Prod.mk.inj heq
          cases hbroadcast : frame'.dstMac.isBroadcast with
          | false =>
              constructor
              · intro _ hany
                rw [Option.any_some, hbroadcast] at hany
                cases hany
              · intro _ frame sender hsome htrue
                obtain ⟨rfl, rfl⟩ := Prod.mk.inj (Option.some.inj (hframe.symm.trans hsome))
                rw [hbroadcast] at htrue
                cases htrue
          | true =>
              rw [show ForwardingCall.perform plane state.1 (.processFrame frameData sender' now) =
                state.1.processFrame plane frameData sender' now from rfl,
                floods_iff hadmitted hbroadcast, Option.any_some, hbroadcast]
              have hlearned := lookup_tableFor_broadcast state.1 frame' sender'
              rw [hnote, h, ForwardingCall.teachesBroadcast, hframe, Option.any_some, ← hlearned]
              cases (state.1.tableFor frame' sender').lookup .broadcast with
              | none => simp
              | some endpoint => simp

end

/-- **Broadcast is flooded** in a run of the switch exactly when no frame to everyone
that passes the gate comes after, or is itself, a frame from the broadcast address
that passes it. -/
theorem broadcast_flooded_iff (plane : FrameGate γ) (calls : List ForwardingCall)
    {start : VSwitch γ} (hstart : (forwarding plane).init start) :
    (teaching plane).Steps (fun before call after => FloodsBroadcast plane before.1 call after.1)
        (start, false) calls ↔
      (teaching plane).Steps
        (fun before call after =>
          (call.frame plane before.1).any (fun passed => passed.1.dstMac.isBroadcast) = true →
            after.2 = false)
        (start, false) calls := by
  have htells : TellsTaught (start, false) := by
    obtain ⟨results, gate, rfl⟩ := hstart
    rfl
  constructor
  · intro hfloods
    refine TSys.Steps.of_inductive (I := TellsTaught) ?_ calls _ htells hfloods
    intro before call after h hflood hstep
    exact ⟨(floods_step h hstep).mp hflood, tellsTaught_step h hstep⟩
  · intro hsteps
    refine TSys.Steps.of_inductive (I := TellsTaught) ?_ calls _ htells hsteps
    intro before call after h hquiet hstep
    exact ⟨(floods_step h hstep).mpr hquiet, tellsTaught_step h hstep⟩

/-- A frame from the broadcast address, one from a host, and one to everyone. -/
def captureCalls : List ForwardingCall :=
  [.processFrame (headerFrame (labMac 9) .broadcast) (labHost 1) 0,
   .processFrame (headerFrame (labMac 9) (labMac 2)) (labHost 2) 1,
   .processFrame (headerFrame .broadcast (labMac 3)) (labHost 3) 2]

/-- A switch that has just been started, in that run. -/
theorem broadcast_flooded_iff_capture :
    (teaching openGate).Steps
        (fun before call after => FloodsBroadcast openGate before.1 call after.1)
        (bareSwitch, false) captureCalls ↔
      (teaching openGate).Steps
        (fun before call after =>
          (call.frame openGate before.1).any (fun passed => passed.1.dstMac.isBroadcast) = true →
            after.2 = false)
        (bareSwitch, false) captureCalls :=
  broadcast_flooded_iff openGate captureCalls ⟨_, _, rfl⟩

/-- The frame to everyone goes to the host that sent from the broadcast address, to
nobody else, and is not counted as a broadcast. -/
theorem broadcast_captured :
    ((forwarding openGate).exec bareSwitch captureCalls).map
        (fun after => (after.socket.sent.map Prod.snd, after.metrics.broadcastPackets)) =
      some ([labHost 1], 0) ∧
    ¬(teaching openGate).Steps
        (fun before call after => FloodsBroadcast openGate before.1 call after.1)
        (bareSwitch, false) captureCalls := by
  refine ⟨by decide +kernel, ?_⟩
  intro hfloods
  obtain ⟨_, hfloods⟩ := hfloods _ rfl
  obtain ⟨_, hfloods⟩ := hfloods _ rfl
  obtain ⟨hlast, _⟩ := hfloods _ rfl
  have hcounted := (hlast { dstMac := .broadcast, srcMac := labMac 3, ethertype := 0x800 }
    (labHost 3) (by decide +kernel) (by decide)).1
  exact absurd hcounted (by decide +kernel)

end WireLab
