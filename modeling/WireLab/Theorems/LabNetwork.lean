import WireLab.Logic.LabRuns

/-!
# The lab network

Whatever the network loses, repeats and reorders, however the turns of the ports and of
the switch fall, and whatever gate is set: a frame that a port writes to its device was
read from a device, let in by the switch and carried byte for byte, and the port has been
heard itself from the address it is sent to (`lab_carries_frames`).
-/

namespace WireLab

open Base

/-- **What comes out of the lab went into it.** After every run of the turns of the ports
and the switch, every frame that a port has written to its device was read, as it is, from
the device of some port, and let in by the switch in one of the turns; and so was a frame
from the port's own device, whose source is the address the frame is sent to, or any but
the frame's own source if it is broadcast. -/
theorem lab_carries_frames {γ : Type} (plane : FrameGate γ) {network : LabNetwork γ}
    (hidle : network.Idle) {labels : List (LabTurn × Option Nat)}
    {state : LabNetwork γ × List Datagram}
    (hrun : (labNetwork plane).system.exec (network, []) labels = some state) :
    ∀ port ∈ state.1.ports, ∀ frame ∈ port.written,
      frame.length ≤ etherMaxLen ∧
        state.1.Carried plane ((labNetwork plane).turns (network, []) labels) frame
          port.endpoint := by
  obtain ⟨hkept, -⟩ := (LabNetwork.labNetwork_sound plane).exec hidle.kept hrun
  intro port hport frame hframe
  have hcarried := hkept.written port hport frame hframe
  exact ⟨hkept.length_le hcarried, hcarried⟩

/-- Two ports at a switch without a gate. -/
def smallNetwork : LabNetwork Unit where
  address := labHost 0
  vswitch := bareSwitch
  ports :=
    [{ endpoint := labHost 1, vswitchEndpoint := labHost 0 },
      { endpoint := labHost 2, vswitchEndpoint := labHost 0 }]

/-- The first host is heard, and the second one answers it. -/
def heardAndAnswered : List (LabTurn × Option Nat) :=
  [(.tapToSwitch 0 (some (headerFrame (labMac 9) (labMac 1))) true, none),
    (.vswitch 0 0 0, some 0),
    (.tapToSwitch 1 (some (headerFrame (labMac 1) (labMac 2))) true, none),
    (.vswitch 1 1 1, some 1),
    (.switchToTap 0 true, some 2)]

theorem lab_carries_frames_answer : ∃ state,
    (labNetwork openGate).system.exec (smallNetwork, []) heardAndAnswered = some state ∧
      state.1.Carried openGate
        ((labNetwork openGate).turns (smallNetwork, []) heardAndAnswered)
        (headerFrame (labMac 1) (labMac 2)) (labHost 1) := by
  have hidle : smallNetwork.Idle := by
    refine ⟨rfl, rfl, rfl, ?_, ?_, ?_⟩
    · decide
    · decide
    · decide
  have hwritten : ((labNetwork openGate).system.exec (smallNetwork, []) heardAndAnswered).map
      (fun state => state.1.ports.map fun port => (port.endpoint, port.written)) =
        some [(labHost 1, [headerFrame (labMac 1) (labMac 2)]), (labHost 2, [])] := by
    decide +kernel
  obtain ⟨state, hexec, hports⟩ := Option.map_eq_some_iff.mp hwritten
  have hanswered : (labHost 1, [headerFrame (labMac 1) (labMac 2)]) ∈
      state.1.ports.map fun port => (port.endpoint, port.written) := by
    rw [hports]
    exact List.mem_cons_self
  obtain ⟨port, hport, hprinted⟩ := List.mem_map.mp hanswered
  obtain ⟨hendpoint, hframes⟩ := Prod.mk.inj hprinted
  have hcarried := lab_carries_frames openGate hidle hexec port hport
    (headerFrame (labMac 1) (labMac 2)) (by rw [hframes]; exact List.mem_cons_self)
  exact ⟨state, hexec, hendpoint ▸ hcarried.2⟩

end WireLab
