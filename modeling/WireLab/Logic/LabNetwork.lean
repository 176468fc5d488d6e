import WireLab.Logic.Forwarding
import WireLab.Model.VPort

/-!
# What a turn of the lab network does

A turn of the switch hands over copies that satisfy whatever the frames that were received
make true of them (`Carries`). A frame that a gate lets through was read from the device
of its sender, and let in by one of the turns (`Entered`); what the switch carries to an
endpoint is such a frame, and the endpoint has sent one itself (`Carried`).
-/

namespace WireLab

open Base

variable {γ : Type} {plane : FrameGate γ}

/-! ## A turn of the switch -/

namespace VSwitch

/-- What is put on the network behind what was already there is new. -/
theorem mem_newlySent {before after : VSwitch γ} {new : List (Bytes × Endpoint)}
    {send : Bytes × Endpoint} (hsent : after.socket.sent = before.socket.sent ++ new)
    (h : send ∈ before.newlySent after) : send ∈ new := by
  unfold newlySent at h
  obtain ⟨⟨sent, index⟩, hmem, rfl⟩ := List.mem_map.mp h
  have hdropped := List.mem_of_mem_filter hmem
  rw [hsent, List.zipIdx_append, List.drop_left' (List.length_zipIdx)] at hdropped
  exact List.fst_mem_of_mem_zipIdx hdropped

/-- Every copy that waits satisfies `C`, and every entry of the table `L`. -/
structure Holds (C : Bytes → Endpoint → Prop) (L : MacAddress → Endpoint → Prop)
    (vswitch : VSwitch γ) : Prop where
  pending : ∀ copy ∈ vswitch.pending, C copy.frameData copy.destination
  learned : ∀ mac endpoint, vswitch.macTable.lookup mac = some endpoint → L mac endpoint

/-- A call keeps what holds, and hands over nothing but copies that satisfy `C`. -/
structure Carries (C : Bytes → Endpoint → Prop) (L : MacAddress → Endpoint → Prop)
    (before after : VSwitch γ) : Prop where
  holds : after.Holds C L
  sent : ∃ new, after.socket.sent = before.socket.sent ++ new ∧ ∀ send ∈ new, C send.1 send.2

variable {C : Bytes → Endpoint → Prop} {L : MacAddress → Endpoint → Prop}
  {before after vswitch : VSwitch γ}

theorem Carries.trans {first second third : VSwitch γ} (h : Carries C L first second)
    (h' : Carries C L second third) : Carries C L first third := by
  obtain ⟨new, hnew, hsatisfied⟩ := h.sent
  obtain ⟨new', hnew', hsatisfied'⟩ := h'.sent
  refine ⟨h'.holds, new ++ new', ?_, ?_⟩
  · rw [hnew', hnew, List.append_assoc]
  · intro send hsend
    exact (List.mem_append.mp hsend).elim (hsatisfied send) (hsatisfied' send)

/-- The datagrams of some copies satisfy what the copies do. -/
theorem datagrams_satisfy {copies : List ScheduledDelivery}
    (h : ∀ copy ∈ copies, C copy.frameData copy.destination) :
    ∀ send ∈ copies.map ScheduledDelivery.datagram, C send.1 send.2 := by
  intro send hsend
  obtain ⟨copy, hcopy, rfl⟩ := List.mem_map.mp hsend
  exact h copy hcopy

theorem drainDue_carries (h : vswitch.Holds C L) (now : Int) :
    Carries C L vswitch (vswitch.drainDue now) := by
  obtain ⟨delivered, hoffers, hdrained⟩ := vswitch.drainDue_eq now
  rw [hdrained]
  refine ⟨⟨?_, ?_⟩, _, hoffers.sent, datagrams_satisfy ?_⟩
  · exact fun copy hcopy => h.pending copy (List.mem_of_mem_filter hcopy)
  · intro mac endpoint hlookup
    exact h.learned mac endpoint (hoffers.macTable ▸ hlookup)
  · exact fun copy hcopy => h.pending copy (List.mem_of_mem_filter hcopy)

theorem tick_carries (h : vswitch.Holds C L) (now : Int) :
    Carries C L vswitch (vswitch.tick plane now) := by
  refine ⟨⟨h.pending, h.learned⟩, [], (List.append_nil _).symm, ?_⟩
  exact fun send hsend => absurd hsend List.not_mem_nil

/-- A frame goes to the endpoint behind its destination, or is flooded to those behind
other sources than its own. -/
theorem mem_destinations {table : MacTable} {frame : EthernetFrame} {endpoints : List Endpoint}
    {endpoint : Endpoint} (h : destinations table frame = some endpoints)
    (hmem : endpoint ∈ endpoints) :
    ∃ mac, table.lookup mac = some endpoint ∧
      (frame.dstMac = mac ∨ (frame.dstMac.isBroadcast = true ∧ mac ≠ frame.srcMac)) := by
  unfold destinations at h
  split at h
  · next destination hlookup =>
      obtain rfl := Option.some.inj h
      obtain rfl := List.mem_singleton.mp hmem
      exact ⟨frame.dstMac, hlookup, .inl rfl⟩
  · split at h
    · next hbroadcast =>
        obtain rfl := Option.some.inj h
        obtain ⟨mac, hlookup, hne⟩ := MacTable.mem_getAllEndpointsExcept.mp hmem
        exact ⟨mac, hlookup, .inr ⟨hbroadcast, hne⟩⟩
    · cases h

/-- The copies of a frame's fate are copies of the frame, for its destinations. -/
theorem mem_fate {frameData : Bytes} {sender : Endpoint} {now : Int}
    {copies : List ScheduledDelivery} {copy : ScheduledDelivery}
    (h : vswitch.fate plane frameData sender now = some copies) (hmem : copy ∈ copies) :
    ∃ frame decision endpoints,
      vswitch.admitted plane frameData sender now = some (frame, decision) ∧
      destinations (vswitch.tableFor frame sender) frame = some endpoints ∧
      copy.frameData = frameData ∧ copy.destination ∈ endpoints := by
  obtain ⟨⟨frame, decision⟩, hadmitted, hrest⟩ := Option.bind_eq_some_iff.mp h
  obtain ⟨endpoints, hdestinations, rfl⟩ := Option.map_eq_some_iff.mp hrest
  obtain ⟨endpoint, hendpoint, hcopy⟩ := List.mem_flatMap.mp hmem
  obtain ⟨index, _, rfl⟩ := List.mem_map.mp hcopy
  exact ⟨frame, decision, endpoints, hadmitted, hdestinations, rfl, hendpoint⟩

/-- The table behind a frame, if its source may be learned. -/
theorem tableFor_learned {frame : EthernetFrame} {sender : Endpoint} (h : vswitch.Holds C L)
    (hsource : L frame.srcMac sender) (mac : MacAddress) (endpoint : Endpoint)
    (hlookup : (vswitch.tableFor frame sender).lookup mac = some endpoint) : L mac endpoint := by
  simp only [tableFor, MacTable.insert, MacTable.lookup, Dict.lookup_insert] at hlookup
  split at hlookup
  · next hmac =>
      obtain rfl := Option.some.inj hlookup
      exact hmac ▸ hsource
  · exact h.learned mac endpoint hlookup

/-- **A frame is carried**: what its copies have to satisfy follows from what is learned of
their destinations. -/
theorem processFrame_carries (h : vswitch.Holds C L) (frameData : Bytes) (sender : Endpoint)
    (now : Int)
    (hsource : ∀ frame decision,
      vswitch.admitted plane frameData sender now = some (frame, decision) → L frame.srcMac sender)
    (hcopies : ∀ frame decision,
      vswitch.admitted plane frameData sender now = some (frame, decision) → ∀ mac endpoint,
        L mac endpoint →
        (frame.dstMac = mac ∨ (frame.dstMac.isBroadcast = true ∧ mac ≠ frame.srcMac)) →
          C frameData endpoint) :
    Carries C L vswitch (vswitch.processFrame plane frameData sender now) := by
  have hprocesses := vswitch.processFrame_spec plane frameData sender now
  have hfate : ∀ copy ∈ (vswitch.fate plane frameData sender now).getD [],
      C copy.frameData copy.destination := by
    intro copy hcopy
    cases hfate : vswitch.fate plane frameData sender now with
    | none =>
        rw [hfate] at hcopy
        exact absurd hcopy List.not_mem_nil
    | some copies =>
        rw [hfate] at hcopy
        obtain ⟨frame, decision, endpoints, hadmitted, hdestinations, hdata, hendpoint⟩ :=
          mem_fate hfate hcopy
        obtain ⟨mac, hlookup, hreason⟩ := mem_destinations hdestinations hendpoint
        have hlearned := tableFor_learned h (hsource frame decision hadmitted) mac _ hlookup
        rw [hdata]
        exact hcopies frame decision hadmitted mac _ hlearned hreason
  refine ⟨⟨?_, ?_⟩, _, hprocesses.sent, datagrams_satisfy ?_⟩
  · intro copy hcopy
    rw [hprocesses.pending] at hcopy
    rcases List.mem_append.mp hcopy with hearlier | hnow
    · exact h.pending copy hearlier
    · exact hfate copy (List.mem_of_mem_filter hnow)
  · intro mac endpoint hlookup
    rw [hprocesses.macTable, taught] at hlookup
    split at hlookup
    · exact h.learned mac endpoint hlookup
    · next frame decision hadmitted =>
        exact tableFor_learned h (hsource frame decision hadmitted) mac endpoint hlookup
  · exact fun copy hcopy => hfate copy (List.mem_of_mem_filter hcopy)

end VSwitch

/-! ## Frames of the network -/

/-- The turns that a network has taken. -/
abbrev LabHistory (γ : Type) := List (Parties.Turn (LabNetwork γ) LabTurn Datagram)

namespace LabNetwork

/-- In a turn, the switch receives a frame from a sender and lets it in. -/
def Admits (plane : FrameGate γ) (turn : Parties.Turn (LabNetwork γ) LabTurn Datagram)
    (sender : Endpoint) (data : Bytes) (frame : EthernetFrame) : Prop :=
  ∃ drained now ticked datagram decision, turn.input = .vswitch drained now ticked ∧
    turn.received = some datagram ∧ datagram.source = sender ∧
    datagram.data.take receiveBuffer = data ∧
    (turn.before.vswitch.drainDue drained).admitted plane data sender now = some (frame, decision)

/-- A frame was read from the device of the port with an endpoint. -/
def Reads (network : LabNetwork γ) (endpoint : Endpoint) (data : Bytes) : Prop :=
  ∃ port ∈ network.ports, port.endpoint = endpoint ∧ data ∈ port.read

/-- A frame came in through the port with an endpoint, and one of the turns let it in. -/
structure Entered (plane : FrameGate γ) (past : LabHistory γ) (network : LabNetwork γ)
    (sender : Endpoint) (data : Bytes) (frame : EthernetFrame) : Prop where
  read : network.Reads sender data
  admitted : ∃ turn ∈ past, Admits plane turn sender data frame

/-- A frame may be carried to an endpoint: it entered the lab, and so did a frame of the
endpoint itself, from the address it is sent to, or from any but its source if it is
broadcast. -/
def Carried (plane : FrameGate γ) (past : LabHistory γ) (network : LabNetwork γ) (data : Bytes)
    (destination : Endpoint) : Prop :=
  ∃ sender frame own ownFrame, network.Entered plane past sender data frame ∧
    network.Entered plane past destination own ownFrame ∧
    (frame.dstMac = ownFrame.srcMac ∨
      (frame.dstMac.isBroadcast = true ∧ ownFrame.srcMac ≠ frame.srcMac))

/-- An address is learned behind an endpoint: a frame from it entered there. -/
def Learned (plane : FrameGate γ) (past : LabHistory γ) (network : LabNetwork γ)
    (mac : MacAddress) (endpoint : Endpoint) : Prop :=
  ∃ own ownFrame, network.Entered plane past endpoint own ownFrame ∧ ownFrame.srcMac = mac

/-- What was read stays read. -/
def Grows (before after : LabNetwork γ) : Prop :=
  ∀ endpoint data, before.Reads endpoint data → after.Reads endpoint data

section
variable {past : LabHistory γ} {network before after : LabNetwork γ} {data : Bytes}
  {endpoint : Endpoint}

theorem Grows.entered (h : Grows before after) (turns : LabHistory γ) {frame : EthernetFrame}
    (hentered : before.Entered plane past endpoint data frame) :
    after.Entered plane (past ++ turns) endpoint data frame := by
  obtain ⟨turn, hturn, hadmits⟩ := hentered.admitted
  exact ⟨h _ _ hentered.read, turn, List.mem_append_left _ hturn, hadmits⟩

theorem Grows.carried (h : Grows before after) (turns : LabHistory γ)
    (hcarried : before.Carried plane past data endpoint) :
    after.Carried plane (past ++ turns) data endpoint := by
  obtain ⟨sender, frame, own, ownFrame, hentered, hown, hreason⟩ := hcarried
  exact ⟨sender, frame, own, ownFrame, h.entered turns hentered, h.entered turns hown, hreason⟩

theorem Grows.learned (h : Grows before after) (turns : LabHistory γ) {mac : MacAddress}
    (hlearned : before.Learned plane past mac endpoint) :
    after.Learned plane (past ++ turns) mac endpoint := by
  obtain ⟨own, ownFrame, hown, hmac⟩ := hlearned
  exact ⟨own, ownFrame, h.entered turns hown, hmac⟩

end
end LabNetwork
end WireLab
