import WireLab.Logic.LabNetwork

/-!
# Runs of the lab network

What a lab network keeps over its turns (`Kept`), and what its datagrams say (`Truth`): a
datagram to the switch was read by the port it comes from, and one to a port is carried
there rightly. Every turn keeps both (`labNetwork_sound`).
-/

namespace WireLab

open Base

variable {γ : Type} {plane : FrameGate γ}

namespace LabNetwork

/-- What every lab network keeps. -/
structure Kept (plane : FrameGate γ) (past : LabHistory γ) (network : LabNetwork γ) : Prop where
  connected : ∀ port ∈ network.ports, port.vswitchEndpoint = network.address
  distinct : (network.address :: network.ports.map VPort.endpoint).Nodup
  short : ∀ port ∈ network.ports, ∀ data ∈ port.read, data.length ≤ etherMaxLen
  holds : network.vswitch.Holds (network.Carried plane past) (network.Learned plane past)
  written : ∀ port ∈ network.ports, ∀ data ∈ port.written,
    network.Carried plane past data port.endpoint

/-- The truth of a datagram: one to the switch was read by the port it comes from, and one
to a port is carried there rightly. -/
structure Truth (plane : FrameGate γ) (past : LabHistory γ) (network : LabNetwork γ)
    (datagram : Datagram) : Prop where
  up : datagram.destination = network.address → network.Reads datagram.source datagram.data
  down : datagram.destination ≠ network.address →
    network.Carried plane past datagram.data datagram.destination

section
variable {past : LabHistory γ} {network before after : LabNetwork γ} {data : Bytes}
  {endpoint : Endpoint}

theorem Grows.truth (h : Grows before after) (haddress : after.address = before.address)
    (turns : LabHistory γ) {datagram : Datagram} (htrue : before.Truth plane past datagram) :
    after.Truth plane (past ++ turns) datagram where
  up hup := h _ _ (htrue.up (haddress ▸ hup))
  down hdown := h.carried turns (htrue.down (haddress ▸ hdown))

/-- No port has the address of the switch. -/
theorem Kept.apart (h : network.Kept plane past) (hreads : network.Reads endpoint data) :
    endpoint ≠ network.address := by
  obtain ⟨port, hport, rfl, _⟩ := hreads
  intro heq
  exact (List.nodup_cons.mp h.distinct).1 (List.mem_map.mpr ⟨port, hport, heq⟩)

/-- A frame that is carried is no longer than a device reads. -/
theorem Kept.length_le (h : network.Kept plane past)
    (hcarried : network.Carried plane past data endpoint) : data.length ≤ etherMaxLen := by
  obtain ⟨_, _, _, _, hentered, _⟩ := hcarried
  obtain ⟨port, hport, -, hdata⟩ := hentered.read
  exact h.short port hport data hdata

end

/-! ## A port's turn -/

section
variable {past : LabHistory γ} {network : LabNetwork γ} {index : Nat} {port port' : VPort}

/-- Of the ports behind a turn, one is the one whose turn it was. -/
theorem mem_replacePort {other : VPort} (h : other ∈ (network.replacePort index port').ports) :
    other ∈ network.ports ∨ other = port' :=
  List.mem_or_eq_of_mem_set h

/-- A port reads more, under the same endpoint. -/
theorem grows_replacePort (hport : network.ports[index]? = some port) (port' : VPort)
    (hendpoint : port'.endpoint = port.endpoint) (hread : ∀ data ∈ port.read, data ∈ port'.read) :
    network.Grows (network.replacePort index port') := by
  obtain ⟨hindex, rfl⟩ := List.getElem?_eq_some_iff.mp hport
  rintro endpoint data ⟨other, hother, rfl, hdata⟩
  obtain ⟨at_, hat, rfl⟩ := List.getElem_of_mem hother
  by_cases hsame : index = at_
  · subst hsame
    exact ⟨port', List.mem_set hindex port', hendpoint, hread data hdata⟩
  · have hkept : (network.ports.set index port')[at_]? = some network.ports[at_] := by
      rw [List.getElem?_set_ne hsame, List.getElem?_eq_getElem hat]
    exact ⟨network.ports[at_], List.mem_of_getElem? hkept, rfl, hdata⟩

theorem endpoints_replacePort (hport : network.ports[index]? = some port)
    (hendpoint : port'.endpoint = port.endpoint) :
    (network.replacePort index port').ports.map VPort.endpoint =
      network.ports.map VPort.endpoint := by
  show (network.ports.set index port').map VPort.endpoint = _
  rw [List.map_set, hendpoint]
  refine List.ext_getElem? fun at_ => ?_
  by_cases hsame : index = at_
  · subst hsame
    obtain ⟨hindex, rfl⟩ := List.getElem?_eq_some_iff.mp hport
    rw [List.getElem?_set_self (by rw [List.length_map]; exact hindex), List.getElem?_map, hport,
      Option.map_some]
  · rw [List.getElem?_set_ne hsame]

/-- **A port's turn keeps the network**, if what it has read fits its buffer, and what it
has written is carried to it. -/
theorem Kept.replacePort (h : network.Kept plane past) (hport : network.ports[index]? = some port)
    (port' : VPort) (turns : LabHistory γ) (hendpoint : port'.endpoint = port.endpoint)
    (hconnected : port'.vswitchEndpoint = port.vswitchEndpoint)
    (hread : ∀ data ∈ port.read, data ∈ port'.read)
    (hshort : ∀ data ∈ port'.read, data.length ≤ etherMaxLen)
    (hwritten : ∀ data ∈ port'.written, network.Carried plane past data port'.endpoint) :
    (network.replacePort index port').Kept plane (past ++ turns) := by
  have hgrows := grows_replacePort hport port' hendpoint hread
  have hmem := List.mem_of_getElem? hport
  refine ⟨?_, ?_, ?_, ⟨?_, ?_⟩, ?_⟩
  · intro other hother
    rcases mem_replacePort hother with hold | rfl
    · exact h.connected other hold
    · exact hconnected.trans (h.connected port hmem)
  · rw [endpoints_replacePort hport hendpoint]
    exact h.distinct
  · intro other hother
    rcases mem_replacePort hother with hold | rfl
    · exact h.short other hold
    · exact hshort
  · exact fun copy hcopy => hgrows.carried turns (h.holds.pending copy hcopy)
  · exact fun mac endpoint hlookup => hgrows.learned turns (h.holds.learned mac endpoint hlookup)
  · intro other hother data hdata
    rcases mem_replacePort hother with hold | rfl
    · exact hgrows.carried turns (h.written other hold data hdata)
    · exact hgrows.carried turns (hwritten data hdata)

end

/-! ## Turns -/

/-- A turn keeps the network, tells the truth, and leaves what was told true. -/
structure Sounds (plane : FrameGate γ) (past : LabHistory γ)
    (turn : Parties.Turn (LabNetwork γ) LabTurn Datagram) (after : LabNetwork γ)
    (sent : List Datagram) : Prop where
  kept : after.Kept plane (past ++ [turn])
  sent : ∀ datagram ∈ sent, after.Truth plane (past ++ [turn]) datagram
  stays : ∀ datagram, turn.before.Truth plane past datagram →
    after.Truth plane (past ++ [turn]) datagram

section
variable {past : LabHistory γ} {network after : LabNetwork γ} {sent : List Datagram} {index : Nat}

/-- A port reads a frame, and what it sends of it was read. -/
theorem tapToSwitch_sounds {frame : Option Bytes} {sends : Bool} (h : network.Kept plane past)
    (hturn : network.turn plane (.tapToSwitch index frame sends) none = some (after, sent)) :
    Sounds plane past
      { before := network, input := .tapToSwitch index frame sends, received := none } after
      sent := by
  obtain ⟨port, hport, hafter⟩ := Option.map_eq_some_iff.mp hturn
  have hmem := List.mem_of_getElem? hport
  cases frame with
  | none =>
      obtain ⟨rfl, rfl⟩ := Prod.mk.inj hafter
      have hkept := h.replacePort hport port
        [{ before := network, input := .tapToSwitch index none sends, received := none }] rfl rfl
        (fun _ hdata => hdata) (h.short port hmem) (h.written port hmem)
      have hgrows := grows_replacePort hport port rfl fun _ hdata => hdata
      exact ⟨hkept, fun _ hnone => absurd hnone List.not_mem_nil, fun _ => hgrows.truth rfl _⟩
  | some frame =>
      let turn : Parties.Turn (LabNetwork γ) LabTurn Datagram :=
        { before := network, input := .tapToSwitch index (some frame) sends, received := none }
      let reads : VPort := { port with read := port.read ++ [frame.take etherMaxLen] }
      have hread : ∀ data ∈ port.read, data ∈ reads.read := fun data hdata =>
        List.mem_append_left _ hdata
      have hshort : ∀ data ∈ reads.read, data.length ≤ etherMaxLen := by
        intro data hdata
        rcases List.mem_append.mp hdata with hold | hnew
        · exact h.short port hmem data hold
        · obtain rfl := List.mem_singleton.mp hnew
          exact List.length_take_le _ _
      have hkept := h.replacePort hport reads [turn] rfl rfl hread hshort (h.written port hmem)
      have hgrows := grows_replacePort hport reads rfl hread
      obtain ⟨hindex, -⟩ := List.getElem?_eq_some_iff.mp hport
      have hreads : (network.replacePort index reads).Reads port.endpoint
          (frame.take etherMaxLen) :=
        ⟨reads, List.mem_set hindex reads, rfl, List.mem_append_right _ List.mem_cons_self⟩
      have hsent : (network.replacePort index reads).Truth plane (past ++ [turn])
          { data := frame.take etherMaxLen, source := port.endpoint
            destination := port.vswitchEndpoint } :=
        ⟨fun _ => hreads, fun hother => absurd (h.connected port hmem) hother⟩
      simp only [VPort.forwardTapToSwitch] at hafter
      split at hafter
      · obtain ⟨rfl, rfl⟩ := Prod.mk.inj hafter
        refine ⟨hkept, fun datagram hdatagram => ?_, fun _ => hgrows.truth rfl _⟩
        obtain rfl := List.mem_singleton.mp hdatagram
        exact hsent
      · obtain ⟨rfl, rfl⟩ := Prod.mk.inj hafter
        exact ⟨hkept, fun _ hnone => absurd hnone List.not_mem_nil, fun _ => hgrows.truth rfl _⟩

/-- A port writes what was carried to it, whole. -/
theorem switchToTap_sounds {writes : Bool} {datagram : Datagram} (h : network.Kept plane past)
    (htrue : network.Truth plane past datagram)
    (hturn : network.turn plane (.switchToTap index writes) (some datagram) =
      some (after, sent)) :
    Sounds plane past
      { before := network, input := .switchToTap index writes, received := some datagram } after
      sent := by
  let turn : Parties.Turn (LabNetwork γ) LabTurn Datagram :=
    { before := network, input := .switchToTap index writes, received := some datagram }
  obtain ⟨port, hport, hafter⟩ := Option.bind_eq_some_iff.mp hturn
  have hmem := List.mem_of_getElem? hport
  split at hafter
  · next hdestination =>
      obtain ⟨rfl, rfl⟩ := Prod.mk.inj (Option.some.inj hafter)
      have hapart : datagram.destination ≠ network.address := by
        rw [hdestination]
        intro heq
        exact (List.nodup_cons.mp h.distinct).1 (List.mem_map.mpr ⟨port, hmem, heq⟩)
      have hcarried := htrue.down hapart
      have hwhole : datagram.data.take etherMaxLen = datagram.data :=
        List.take_of_length_le (h.length_le hcarried)
      rw [hdestination] at hcarried
      -- whatever was written, the port has read nothing more
      have hwrites : ∀ written, (∀ data ∈ written, network.Carried plane past data port.endpoint) →
          Sounds plane past turn (network.replacePort index { port with written }) [] := by
        intro written hwritten
        have hgrows := grows_replacePort hport { port with written } rfl fun _ hdata => hdata
        exact ⟨h.replacePort hport { port with written } [turn] rfl rfl (fun _ hdata => hdata)
            (h.short port hmem) hwritten,
          fun _ hnone => absurd hnone List.not_mem_nil, fun _ => hgrows.truth rfl _⟩
      unfold VPort.forwardSwitchToTap
      simp only [hwhole]
      split
      · refine hwrites _ fun data hdata => ?_
        rcases List.mem_append.mp hdata with hold | hnew
        · exact h.written port hmem data hold
        · obtain rfl := List.mem_singleton.mp hnew
          exact hcarried
      · exact hwrites _ (h.written port hmem)
  · cases hafter

/-- What the switch keeps is no part of what was read. -/
theorem grows_vswitch (network : LabNetwork γ) (vswitch : VSwitch γ) :
    network.Grows { network with vswitch } :=
  fun _ _ hreads => hreads

/-- **The switch's turn**: it receives what a port has read, and sends what it carries
rightly. -/
theorem vswitch_sounds {drained processed ticked : Int} {received : Option Datagram}
    (h : network.Kept plane past)
    (htrue : ∀ datagram ∈ received, network.Truth plane past datagram)
    (hturn : network.turn plane (.vswitch drained processed ticked) received =
      some (after, sent)) :
    Sounds plane past { before := network, input := .vswitch drained processed ticked, received }
      after sent := by
  let turn : Parties.Turn (LabNetwork γ) LabTurn Datagram :=
    { before := network, input := .vswitch drained processed ticked, received }
  have hsame : network.Grows network := fun _ _ hreads => hreads
  have hholds : network.vswitch.Holds (network.Carried plane (past ++ [turn]))
      (network.Learned plane (past ++ [turn])) :=
    ⟨fun copy hcopy => hsame.carried [turn] (h.holds.pending copy hcopy),
      fun mac endpoint hlookup => hsame.learned [turn] (h.holds.learned mac endpoint hlookup)⟩
  unfold LabNetwork.turn at hturn
  simp only at hturn
  split at hturn
  · next hall =>
      obtain ⟨rfl, rfl⟩ := Prod.mk.inj (Option.some.inj hturn)
      have hcarries : VSwitch.Carries (network.Carried plane (past ++ [turn]))
          (network.Learned plane (past ++ [turn])) network.vswitch
          (network.vswitch.turn plane
            { drained
              received := received.map fun datagram =>
                (datagram.data.take receiveBuffer, datagram.source, processed)
              ticked }) := by
        have hdrained := VSwitch.drainDue_carries hholds drained
        unfold VSwitch.turn
        cases received with
        | none => exact hdrained.trans (VSwitch.tick_carries hdrained.holds ticked)
        | some datagram =>
            obtain ⟨port, hport, hendpoint, hdata⟩ :=
              (htrue datagram rfl).up (of_decide_eq_true hall)
            -- the buffer of the switch holds all that a device reads
            have hfits : datagram.data.length ≤ receiveBuffer :=
              (h.short port hport _ hdata).trans (by decide)
            have hwhole := List.take_of_length_le hfits
            have hread : network.Reads datagram.source (datagram.data.take receiveBuffer) := by
              rw [hwhole]
              exact ⟨port, hport, hendpoint, hdata⟩
            have hentered (frame : EthernetFrame) (decision : FaultDecision)
                (hadmitted : (network.vswitch.drainDue drained).admitted plane
                  (datagram.data.take receiveBuffer) datagram.source processed =
                    some (frame, decision)) :
                network.Entered plane (past ++ [turn]) datagram.source
                  (datagram.data.take receiveBuffer) frame :=
              ⟨hread, turn, List.mem_append_right _ List.mem_cons_self, drained, processed, ticked,
                datagram, decision, rfl, rfl, rfl, rfl, hadmitted⟩
            have hprocessed := VSwitch.processFrame_carries hdrained.holds
              (datagram.data.take receiveBuffer) datagram.source processed
              (fun frame decision hadmitted => ⟨_, frame, hentered frame decision hadmitted, rfl⟩)
              (by
                rintro frame decision hadmitted mac endpoint ⟨own, ownFrame, hown, rfl⟩ hreason
                exact ⟨_, frame, own, ownFrame, hentered frame decision hadmitted, hown, hreason⟩)
            have hboth := hdrained.trans hprocessed
            exact hboth.trans (VSwitch.tick_carries hboth.holds ticked)
      have hgrows := network.grows_vswitch (network.vswitch.turn plane
        { drained
          received := received.map fun datagram =>
            (datagram.data.take receiveBuffer, datagram.source, processed)
          ticked })
      refine ⟨⟨h.connected, h.distinct, h.short, ⟨?_, ?_⟩, ?_⟩, ?_, fun _ => hgrows.truth rfl _⟩
      · intro copy hcopy
        simpa only [List.append_nil] using hgrows.carried [] (hcarries.holds.pending copy hcopy)
      · intro mac endpoint hlookup
        simpa only [List.append_nil] using
          hgrows.learned [] (hcarries.holds.learned mac endpoint hlookup)
      · exact fun port hport data hdata => hgrows.carried _ (h.written port hport data hdata)
      · intro datagram hdatagram
        obtain ⟨send, hsend, rfl⟩ := List.mem_map.mp hdatagram
        obtain ⟨new, hnew, hsatisfied⟩ := hcarries.sent
        have hcarried := hsatisfied send (VSwitch.mem_newlySent hnew hsend)
        have hto := hcarried
        obtain ⟨_, _, _, _, _, hown, _⟩ := hto
        refine ⟨fun hup => absurd hup (h.apart hown.read), fun _ => ?_⟩
        simpa only [List.append_nil] using hgrows.carried [] hcarried
  · cases hturn

/-- **Every turn of the lab network keeps it, and tells the truth.** -/
theorem turn_sounds {turn : Parties.Turn (LabNetwork γ) LabTurn Datagram}
    (h : turn.before.Kept plane past)
    (htrue : ∀ datagram ∈ turn.received, turn.before.Truth plane past datagram)
    (hturn : turn.before.turn plane turn.input turn.received = some (after, sent)) :
    Sounds plane past turn after sent := by
  obtain ⟨network, input, received⟩ := turn
  cases input with
  | tapToSwitch index frame sends =>
      cases received with
      | none => exact tapToSwitch_sounds h hturn
      | some datagram => cases hturn
  | switchToTap index writes =>
      cases received with
      | none => cases hturn
      | some datagram => exact switchToTap_sounds h (htrue datagram rfl) hturn
  | vswitch drained processed ticked => exact vswitch_sounds h htrue hturn

end

/-- An idle network has carried nothing. -/
theorem Idle.kept {network : LabNetwork γ} (h : network.Idle) : network.Kept plane [] := by
  refine ⟨h.connected, h.distinct, ?_, ⟨?_, ?_⟩, ?_⟩
  · intro port hport data hdata
    rw [(h.untouched port hport).1] at hdata
    exact absurd hdata List.not_mem_nil
  · intro copy hcopy
    rw [h.pending] at hcopy
    exact absurd hcopy List.not_mem_nil
  · intro mac endpoint hlookup
    rw [MacTable.lookup, h.macTable, Dict.lookup_empty] at hlookup
    cases hlookup
  · intro port hport data hdata
    rw [(h.untouched port hport).2] at hdata
    exact absurd hdata List.not_mem_nil

/-- **The turns of the lab network keep it, and tell the truth.** -/
theorem labNetwork_sound (plane : FrameGate γ) :
    (labNetwork plane).Sound (Kept plane) (Truth plane) := by
  intro past turn after sent h htrue hturn
  have hsounds := turn_sounds h htrue hturn
  exact ⟨hsounds.kept, hsounds.sent, hsounds.stays⟩

end LabNetwork
end WireLab
