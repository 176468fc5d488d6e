import WireLab.Base.TSys
import WireLab.Model.VSwitch

/-!
# What the calls of the switch do

The receive loop makes three calls: it drains the copies that have come due, it
processes a frame, and it ticks the gate. `fate` is what processing a frame
amounts to: nothing is scheduled, or these copies are, of which those that are
due leave at once (`processFrame_dropped`, `processFrame_forwarded`).
-/

namespace WireLab

open Base

/-- A call of the receive loop, with its clock reading. -/
inductive ForwardingCall
  | processFrame (frameData : Bytes) (sender : Endpoint) (now : Int)
  | drainDue (now : Int)
  | tick (now : Int)

def ForwardingCall.clock : ForwardingCall → Int
  | .processFrame _ _ now => now
  | .drainDue now => now
  | .tick now => now

/-- The copies of a frame for one destination, one for each delivery time. -/
def FaultDecision.deliveries (decision : FaultDecision) (frameData : Bytes) (destination : Endpoint) :
    List ScheduledDelivery :=
  (List.range (min decision.deliveryCount deliveryTimesSize)).map fun copy =>
    { due := decision.deliveryTime copy, frameData, destination }

/-- What the socket is handed of a copy. -/
def ScheduledDelivery.datagram (copy : ScheduledDelivery) : Bytes × Endpoint :=
  (copy.frameData, copy.destination)

/-- Whether a copy is due. -/
def ScheduledDelivery.isDue (now : Int) (copy : ScheduledDelivery) : Bool := copy.due ≤ now

/-- Whether a copy has to wait. -/
def ScheduledDelivery.isLate (now : Int) (copy : ScheduledDelivery) : Bool := now < copy.due

theorem ScheduledDelivery.isLate_eq (now : Int) (copy : ScheduledDelivery) :
    copy.isLate now = !copy.isDue now := by
  simp only [isLate, isDue, ← Int.not_le, decide_not]

/-- A target delivers a frame at most twice. -/
theorem FaultState.judge_count (state : FaultState) (frameBytes : UInt64) (arrival : Int) :
    (state.judge frameBytes arrival).1.deliveryCount ≤ deliveryTimesSize := by
  simp only [judge]
  split
  · exact Nat.zero_le _
  · split
    · exact Nat.zero_le _
    · show (if _ then 2 else 1) ≤ 2
      split
      · exact Nat.le_refl 2
      · exact Nat.le_succ 1

namespace VSwitch

variable {γ : Type} {plane : FrameGate γ} {vswitch : VSwitch γ}

/-! ## Copies -/

/-- Deliver a copy, or defer it. -/
def offer (now : Int) (vswitch : VSwitch γ) (copy : ScheduledDelivery) : VSwitch γ :=
  if copy.isDue now then vswitch.deliver copy.frameData copy.destination
  else { vswitch with pending := vswitch.pending ++ [copy] }

/-- The number of copies that were delivered or dropped and of frames that were
dropped, as the counters have it. -/
def handled (vswitch : VSwitch γ) : UInt64 :=
  vswitch.metrics.forwardedPackets + vswitch.metrics.droppedPackets

/-- What handing over some copies and deferring others does: the table, the gate
and the other counters stay. -/
structure Offers (before : VSwitch γ) (delivered deferred : List ScheduledDelivery)
    (after : VSwitch γ) : Prop where
  results : after.socket.results = before.socket.results
  sent : after.socket.sent = before.socket.sent ++ delivered.map ScheduledDelivery.datagram
  pending : after.pending = before.pending ++ deferred
  handled : after.handled = before.handled + UInt64.ofNat delivered.length
  broadcasts : after.metrics.broadcastPackets = before.metrics.broadcastPackets
  macTable : after.macTable = before.macTable
  gate : after.gate = before.gate

theorem Offers.refl (vswitch : VSwitch γ) : vswitch.Offers [] [] vswitch where
  results := rfl
  sent := (List.append_nil _).symm
  pending := (List.append_nil _).symm
  handled := by simp
  broadcasts := rfl
  macTable := rfl
  gate := rfl

theorem Offers.trans {first second third : VSwitch γ}
    {delivered delivered' deferred deferred' : List ScheduledDelivery}
    (h : first.Offers delivered deferred second) (h' : second.Offers delivered' deferred' third) :
    first.Offers (delivered ++ delivered') (deferred ++ deferred') third where
  results := h'.results.trans h.results
  sent := by rw [h'.sent, h.sent, List.map_append, List.append_assoc]
  pending := by rw [h'.pending, h.pending, List.append_assoc]
  handled := by
    rw [h'.handled, h.handled, List.length_append, UInt64.ofNat_add, UInt64.add_assoc]
  broadcasts := h'.broadcasts.trans h.broadcasts
  macTable := h'.macTable.trans h.macTable
  gate := h'.gate.trans h.gate

/-- A copy is handed over once, and the send counts as forwarded or as dropped. -/
theorem deliver_offers (vswitch : VSwitch γ) (copy : ScheduledDelivery) :
    vswitch.Offers [copy] [] (vswitch.deliver copy.frameData copy.destination) := by
  have hhandled : (vswitch.deliver copy.frameData copy.destination).handled =
      vswitch.handled + 1 := by
    simp only [deliver, handled]
    split
    · simp only [SwitchMetrics.recordForwarded]
      ac_rfl
    · simp only [SwitchMetrics.recordDrop]
      rw [UInt64.add_assoc]
  have hbroadcasts : (vswitch.deliver copy.frameData copy.destination).metrics.broadcastPackets =
      vswitch.metrics.broadcastPackets := by
    simp only [deliver]
    split
    · rfl
    · rfl
  exact
    { results := rfl
      sent := rfl
      pending := (List.append_nil _).symm
      handled := hhandled
      broadcasts := hbroadcasts
      macTable := rfl
      gate := rfl }

theorem offer_offers (now : Int) (vswitch : VSwitch γ) (copy : ScheduledDelivery) :
    vswitch.Offers ([copy].filter (·.isDue now)) ([copy].filter (·.isLate now))
      (vswitch.offer now copy) := by
  simp only [offer, List.filter_singleton, ScheduledDelivery.isLate_eq]
  cases copy.isDue now with
  | true => exact deliver_offers vswitch copy
  | false =>
      exact
        { results := rfl
          sent := (List.append_nil _).symm
          pending := rfl
          handled := by simp [handled]
          broadcasts := rfl
          macTable := rfl
          gate := rfl }

/-- Of some copies, those that are due are handed over and the others wait. -/
theorem offerAll_offers (now : Int) (copies : List ScheduledDelivery) (vswitch : VSwitch γ) :
    vswitch.Offers (copies.filter (·.isDue now)) (copies.filter (·.isLate now))
      (copies.foldl (offer now) vswitch) := by
  induction copies generalizing vswitch with
  | nil => exact .refl vswitch
  | cons copy copies ih =>
      have h := (offer_offers now vswitch copy).trans (ih (vswitch.offer now copy))
      rwa [← List.filter_append, ← List.filter_append] at h

/-- Scheduling a frame offers its copies. -/
theorem schedule_eq (vswitch : VSwitch γ) (frameData : Bytes) (destination : Endpoint)
    (decision : FaultDecision) (now : Int) :
    vswitch.schedule frameData destination decision now =
      (decision.deliveries frameData destination).foldl (offer now) vswitch := by
  simp only [schedule, FaultDecision.deliveries, List.foldl_map, offer, ScheduledDelivery.isDue,
    decide_eq_true_eq]

/-- Scheduling a frame for several destinations offers all their copies. -/
theorem scheduleAll_eq (frameData : Bytes) (decision : FaultDecision) (now : Int)
    (endpoints : List Endpoint) (vswitch : VSwitch γ) :
    endpoints.foldl (fun vswitch endpoint => vswitch.schedule frameData endpoint decision now)
        vswitch =
      (endpoints.flatMap (decision.deliveries frameData)).foldl (offer now) vswitch := by
  induction endpoints generalizing vswitch with
  | nil => rfl
  | cons endpoint endpoints ih =>
      rw [List.foldl_cons, ih, schedule_eq, List.flatMap_cons, List.foldl_append]

/-! ## Draining -/

/-- Draining hands over what has come due, and leaves the rest as it was. -/
theorem drainDue_eq (vswitch : VSwitch γ) (now : Int) :
    ∃ delivered : VSwitch γ,
      vswitch.Offers (vswitch.pending.filter (·.isDue now)) [] delivered ∧
      vswitch.drainDue now =
        { delivered with pending := vswitch.pending.filter (·.isLate now) } := by
  have hdeliver : ∀ (copies : List ScheduledDelivery) (vswitch : VSwitch γ),
      vswitch.Offers copies []
        (copies.foldl (fun vswitch delivery =>
          vswitch.deliver delivery.frameData delivery.destination) vswitch) := by
    intro copies
    induction copies with
    | nil => exact fun vswitch => .refl vswitch
    | cons copy copies ih => exact fun vswitch => (deliver_offers vswitch copy).trans (ih _)
  simp only [drainDue]
  split
  · next hempty =>
      rw [List.isEmpty_iff] at hempty
      refine ⟨vswitch, ?_, ?_⟩
      · rw [hempty]
        exact .refl vswitch
      · cases vswitch
        simp only at hempty
        rw [hempty]
        rfl
  · refine ⟨_, hdeliver (vswitch.pending.filter (·.isDue now)) vswitch, ?_⟩
    have hlate : vswitch.pending.filter (·.isLate now) =
        vswitch.pending.filter (fun copy => !copy.isDue now) :=
      List.filter_congr fun copy _ => copy.isLate_eq now
    rw [hlate, List.partition_eq_filter_filter]
    rfl

/-! ## Processing a frame -/

/-- A frame that is well formed and passes the gate, with the decision about
it. -/
def admitted (plane : FrameGate γ) (vswitch : VSwitch γ) (frameData : Bytes) (sender : Endpoint)
    (now : Int) : Option (EthernetFrame × FaultDecision) :=
  match EthernetFrame.tryParse frameData with
  | .error _ => none
  | .ok frame =>
      let decision := (vswitch.inspect plane frameData sender now).1
      if decision.dropped || decision.deliveryCount = 0 then none else some (frame, decision)

/-- The table a frame is forwarded by: it has learned the frame's own source. -/
def tableFor (vswitch : VSwitch γ) (frame : EthernetFrame) (sender : Endpoint) : MacTable :=
  (vswitch.macTable.insert frame.srcMac sender).2

/-- Where a frame goes; nowhere if its destination is unknown. -/
def destinations (table : MacTable) (frame : EthernetFrame) : Option (List Endpoint) :=
  match table.lookup frame.dstMac with
  | some destination => some [destination]
  | none =>
      if frame.dstMac.isBroadcast then some (table.getAllEndpointsExcept frame.srcMac) else none

/-- What becomes of a frame: it is dropped, or these copies of it are
scheduled. -/
def fate (plane : FrameGate γ) (vswitch : VSwitch γ) (frameData : Bytes) (sender : Endpoint)
    (now : Int) : Option (List ScheduledDelivery) :=
  (vswitch.admitted plane frameData sender now).bind fun (frame, decision) =>
    (destinations (vswitch.tableFor frame sender) frame).map fun endpoints =>
      endpoints.flatMap (decision.deliveries frameData)

/-- What a frame teaches: the source of one that passes the gate. -/
def taught (plane : FrameGate γ) (vswitch : VSwitch γ) (frameData : Bytes) (sender : Endpoint)
    (now : Int) : MacTable :=
  match vswitch.admitted plane frameData sender now with
  | none => vswitch.macTable
  | some (frame, _) => vswitch.tableFor frame sender

/-- Whether a frame goes out as a broadcast. -/
def flooded (plane : FrameGate γ) (vswitch : VSwitch γ) (frameData : Bytes) (sender : Endpoint)
    (now : Int) : Bool :=
  match vswitch.admitted plane frameData sender now with
  | none => false
  | some (frame, _) =>
      ((vswitch.tableFor frame sender).lookup frame.dstMac).isNone && frame.dstMac.isBroadcast

/-- The gate after a frame: it saw every frame that is well formed. -/
def gateAfter (plane : FrameGate γ) (vswitch : VSwitch γ) (frameData : Bytes) (sender : Endpoint)
    (now : Int) : Option γ :=
  match EthernetFrame.tryParse frameData with
  | .error _ => vswitch.gate
  | .ok _ => vswitch.gate.map fun gate => (plane.inspect gate frameData sender now).2

/-- What processing a frame does, branch by branch. -/
structure Processes (plane : FrameGate γ) (before : VSwitch γ) (frameData : Bytes)
    (sender : Endpoint) (now : Int) (after : VSwitch γ) : Prop where
  results : after.socket.results = before.socket.results
  sent : after.socket.sent = before.socket.sent ++
    (((before.fate plane frameData sender now).getD []).filter (·.isDue now)).map
      ScheduledDelivery.datagram
  pending : after.pending = before.pending ++
    ((before.fate plane frameData sender now).getD []).filter (·.isLate now)
  handled : after.handled = before.handled +
    match before.fate plane frameData sender now with
    | none => 1
    | some copies => UInt64.ofNat (copies.filter (·.isDue now)).length
  broadcasts : after.metrics.broadcastPackets = before.metrics.broadcastPackets +
    if before.flooded plane frameData sender now then 1 else 0
  macTable : after.macTable = before.taught plane frameData sender now
  gate : after.gate = before.gateAfter plane frameData sender now

/-- Copies that are offered once the frame has been counted, judged and
learned. -/
private theorem Processes.of_offers {plane : FrameGate γ} {before middle after : VSwitch γ}
    {frameData : Bytes} {sender : Endpoint} {now : Int} {copies : List ScheduledDelivery}
    (h : middle.Offers (copies.filter (·.isDue now)) (copies.filter (·.isLate now)) after)
    (hfate : before.fate plane frameData sender now = some copies)
    (hsocket : middle.socket = before.socket) (hpending : middle.pending = before.pending)
    (hhandled : middle.handled = before.handled)
    (hbroadcasts : middle.metrics.broadcastPackets = before.metrics.broadcastPackets +
      if before.flooded plane frameData sender now then 1 else 0)
    (htable : middle.macTable = before.taught plane frameData sender now)
    (hgate : middle.gate = before.gateAfter plane frameData sender now) :
    before.Processes plane frameData sender now after where
  results := by rw [h.results, hsocket]
  sent := by rw [h.sent, hsocket, hfate, Option.getD_some]
  pending := by rw [h.pending, hpending, hfate, Option.getD_some]
  handled := by rw [h.handled, hhandled, hfate]
  broadcasts := by rw [h.broadcasts, hbroadcasts]
  macTable := by rw [h.macTable, htable]
  gate := by rw [h.gate, hgate]

/-- A frame that is dropped without being scheduled. -/
private theorem Processes.of_dropped {plane : FrameGate γ} {before after : VSwitch γ}
    {frameData : Bytes} {sender : Endpoint} {now : Int}
    (hfate : before.fate plane frameData sender now = none)
    (hflooded : before.flooded plane frameData sender now = false)
    (hsocket : after.socket = before.socket) (hpending : after.pending = before.pending)
    (hhandled : after.handled = before.handled + 1)
    (hbroadcasts : after.metrics.broadcastPackets = before.metrics.broadcastPackets)
    (htable : after.macTable = before.taught plane frameData sender now)
    (hgate : after.gate = before.gateAfter plane frameData sender now) :
    before.Processes plane frameData sender now after where
  results := by rw [hsocket]
  sent := by rw [hsocket, hfate]; exact (List.append_nil _).symm
  pending := by rw [hpending, hfate]; exact (List.append_nil _).symm
  handled := by rw [hhandled, hfate]
  broadcasts := by rw [hbroadcasts, hflooded]; simp
  macTable := htable
  gate := hgate

/-- One more drop is one more packet handled. -/
private theorem handled_drop (forwarded dropped : UInt64) :
    forwarded + (dropped + 1) = forwarded + dropped + 1 :=
  (UInt64.add_assoc _ _ _).symm

/-- Learning counts nothing but addresses. -/
private theorem learn_metrics (vswitch : VSwitch γ) (mac : MacAddress) (sender : Endpoint) :
    (vswitch.learn mac sender).handled = vswitch.handled ∧
      (vswitch.learn mac sender).metrics.broadcastPackets = vswitch.metrics.broadcastPackets := by
  simp only [learn, handled]
  split
  · exact ⟨rfl, rfl⟩
  · exact ⟨rfl, rfl⟩

/-- Asking the gate about a frame leaves the rest of the switch as it was. -/
private theorem inspect_counted {frameData : Bytes} {sender : Endpoint} {now : Int}
    (plane : FrameGate γ) (vswitch : VSwitch γ) (metrics : SwitchMetrics) {frame : EthernetFrame}
    (hparse : EthernetFrame.tryParse frameData = .ok frame) :
    inspect plane { vswitch with metrics } frameData sender now =
      ((vswitch.inspect plane frameData sender now).1,
        { vswitch with metrics, gate := vswitch.gateAfter plane frameData sender now }) := by
  simp only [inspect, gateAfter, hparse]
  cases vswitch.gate with
  | none => rfl
  | some gate => rfl

/-- **What processing a frame does**: it scheduled the copies of its fate, and
handed over those that were due. -/
theorem processFrame_spec (plane : FrameGate γ) (vswitch : VSwitch γ) (frameData : Bytes)
    (sender : Endpoint) (now : Int) :
    vswitch.Processes plane frameData sender now
      (vswitch.processFrame plane frameData sender now) := by
  simp only [processFrame]
  cases hparse : EthernetFrame.tryParse frameData with
  | error e =>
      have hadmitted : vswitch.admitted plane frameData sender now = none := by
        simp only [admitted, hparse]
      refine .of_dropped ?_ ?_ rfl rfl (handled_drop _ _) rfl ?_ ?_
      · simp only [fate, hadmitted, Option.bind_none]
      · simp only [flooded, hadmitted]
      · simp only [taught, hadmitted]
      · simp only [gateAfter, hparse]
  | ok frame =>
      simp only
      rw [inspect_counted plane vswitch _ hparse]
      generalize hdecision : (vswitch.inspect plane frameData sender now).1 = decision
      split
      · next hblocked =>
          have hadmitted : vswitch.admitted plane frameData sender now = none := by
            simp only [admitted, hparse, hdecision, if_pos hblocked]
          refine .of_dropped ?_ ?_ rfl rfl (handled_drop _ _) rfl ?_ rfl
          · simp only [fate, hadmitted, Option.bind_none]
          · simp only [flooded, hadmitted]
          · simp only [taught, hadmitted]
      · next hpasses =>
          have hadmitted : vswitch.admitted plane frameData sender now =
              some (frame, decision) := by
            simp only [admitted, hparse, hdecision, if_neg hpasses]
          have htaught : vswitch.taught plane frameData sender now =
              vswitch.tableFor frame sender := by
            simp only [taught, hadmitted]
          -- the table that has learned the frame's own source decides where it goes
          split
          · next destination hlookup =>
              have hlookup : (vswitch.tableFor frame sender).lookup frame.dstMac =
                  some destination := hlookup
              rw [schedule_eq]
              refine .of_offers (offerAll_offers now _ _) ?_ rfl rfl ?_ ?_ htaught.symm rfl
              · simp only [fate, hadmitted, Option.bind_some, destinations, hlookup,
                  Option.map_some, List.flatMap_cons, List.flatMap_nil, List.append_nil]
              · exact (learn_metrics _ _ _).1
              · simp only [flooded, hadmitted, hlookup, Option.isNone_some, Bool.false_and,
                  Bool.false_eq_true, if_false]
                exact (learn_metrics _ _ _).2.trans (UInt64.add_zero _).symm
          · next hlookup =>
              have hlookup : (vswitch.tableFor frame sender).lookup frame.dstMac = none := hlookup
              split
              · next hbroadcast =>
                  rw [scheduleAll_eq]
                  refine .of_offers (offerAll_offers now _ _) ?_ rfl rfl ?_ ?_ htaught.symm rfl
                  · simp only [fate, hadmitted, Option.bind_some, destinations, hlookup,
                      hbroadcast, if_true, Option.map_some]
                    rfl
                  · exact (learn_metrics _ _ _).1
                  · simp only [flooded, hadmitted, hlookup, hbroadcast, Option.isNone_none,
                      Bool.and_self, if_true]
                    exact congrArg (· + 1) (learn_metrics _ _ _).2
              · next hunicast =>
                  refine .of_dropped ?_ ?_ rfl rfl ?_ ?_ htaught.symm rfl
                  · simp only [fate, hadmitted, Option.bind_some, destinations, hlookup,
                      if_neg hunicast, Option.map_none]
                  · simp only [flooded, hadmitted, hlookup, hunicast, Bool.and_false]
                  · exact (handled_drop _ _).trans (congrArg (· + 1) (learn_metrics _ _ _).1)
                  · exact (learn_metrics _ _ _).2

end VSwitch

variable {γ : Type}

/-! ## Copies for an endpoint -/

/-- The copies an endpoint was handed or will be handed. -/
def VSwitch.copiesFor (vswitch : VSwitch γ) (endpoint : Endpoint) : Nat :=
  (vswitch.socket.sent.countP fun datagram => datagram.2 = endpoint) +
    vswitch.pending.countP fun copy => copy.destination = endpoint

/-- Of the copies that are offered, each is either handed over or waits. -/
private theorem countP_due_late (now : Int) (p : ScheduledDelivery → Bool)
    (copies : List ScheduledDelivery) :
    (copies.filter (·.isDue now)).countP p + (copies.filter (·.isLate now)).countP p =
      copies.countP p := by
  induction copies with
  | nil => rfl
  | cons copy copies ih =>
      rw [List.countP_cons, ← ih, List.filter_cons, List.filter_cons, copy.isLate_eq]
      cases copy.isDue now with
      | true =>
          simp only [if_true, Bool.not_true, Bool.false_eq_true, if_false, List.countP_cons]
          omega
      | false =>
          simp only [Bool.false_eq_true, if_false, Bool.not_false, if_true, List.countP_cons]
          omega

/-- A frame adds the copies of its fate. -/
theorem VSwitch.copiesFor_processFrame (plane : FrameGate γ) (vswitch : VSwitch γ)
    {frameData : Bytes} {sender : Endpoint} {now : Int} {copies : List ScheduledDelivery}
    (hfate : (vswitch.fate plane frameData sender now).getD [] = copies) (endpoint : Endpoint) :
    (vswitch.processFrame plane frameData sender now).copiesFor endpoint =
      vswitch.copiesFor endpoint + copies.countP (·.destination = endpoint) := by
  have h := vswitch.processFrame_spec plane frameData sender now
  have hsplit := countP_due_late now (·.destination = endpoint) copies
  rw [VSwitch.copiesFor, h.sent, h.pending, hfate, List.countP_append, List.countP_append,
    List.countP_map]
  have hdue : ((copies.filter (·.isDue now)).countP
      ((fun datagram : Bytes × Endpoint => decide (datagram.2 = endpoint)) ∘
        ScheduledDelivery.datagram)) =
      (copies.filter (·.isDue now)).countP (·.destination = endpoint) := rfl
  rw [hdue, VSwitch.copiesFor]
  omega

/-- An endpoint is learned by the address of some entry. -/
theorem MacTable.mem_getAllEndpoints {table : MacTable} {endpoint : Endpoint} :
    endpoint ∈ table.getAllEndpoints ↔ ∃ mac, table.lookup mac = some endpoint := by
  simp only [MacTable.getAllEndpoints, MacTable.lookup, List.mem_map]
  constructor
  · rintro ⟨entry, hmem, rfl⟩
    exact ⟨entry.1, (Dict.mem_entries_iff _ _ _).mp hmem⟩
  · rintro ⟨mac, hlookup⟩
    exact ⟨⟨mac, endpoint⟩, (Dict.mem_entries_iff _ _ _).mpr hlookup, rfl⟩

theorem MacTable.mem_getAllEndpointsExcept {table : MacTable} {excludeMac : MacAddress}
    {endpoint : Endpoint} :
    endpoint ∈ table.getAllEndpointsExcept excludeMac ↔
      ∃ mac, table.lookup mac = some endpoint ∧ mac ≠ excludeMac := by
  simp only [getAllEndpointsExcept, lookup, List.mem_filterMap, Option.ite_none_right_eq_some,
    Option.some.injEq]
  constructor
  · rintro ⟨entry, hmem, hne, rfl⟩
    exact ⟨entry.1, (Dict.mem_entries_iff _ _ _).mp hmem, hne⟩
  · rintro ⟨mac, hlookup, hne⟩
    exact ⟨⟨mac, endpoint⟩, (Dict.mem_entries_iff _ _ _).mpr hlookup, hne, rfl⟩

section
variable {plane : FrameGate γ} {vswitch : VSwitch γ} {frameData : Bytes} {sender : Endpoint}
  {now : Int} {frame : EthernetFrame} {decision : FaultDecision}

/-- A frame passes the gate for at least one copy, and for no more than there are
delivery times. -/
theorem VSwitch.admitted_count
    (h : vswitch.admitted plane frameData sender now = some (frame, decision)) :
    0 < decision.deliveryCount ∧ decision.deliveryCount ≤ deliveryTimesSize := by
  simp only [admitted] at h
  split at h
  · cases h
  · split at h
    · cases h
    · next hpasses =>
        obtain ⟨rfl, rfl⟩ := Prod.mk.inj (Option.some.inj h)
        simp only [Bool.or_eq_true, decide_eq_true_eq, not_or] at hpasses
        refine ⟨Nat.pos_of_ne_zero hpasses.2, ?_⟩
        simp only [inspect]
        cases vswitch.gate with
        | none => exact show 1 ≤ deliveryTimesSize by decide
        | some gate => exact plane.bounded gate frameData sender now

/-- The sender's endpoint is the one behind the frame's source. -/
theorem VSwitch.lookup_tableFor (vswitch : VSwitch γ) (frame : EthernetFrame) (sender : Endpoint) :
    (vswitch.tableFor frame sender).lookup frame.srcMac = some sender := by
  simp only [tableFor, MacTable.insert, MacTable.lookup, Dict.lookup_insert, if_true]

end

/-! ## Runs -/

/-- Make a call. -/
def ForwardingCall.perform (plane : FrameGate γ) (vswitch : VSwitch γ) :
    ForwardingCall → VSwitch γ
  | .processFrame frameData sender now => vswitch.processFrame plane frameData sender now
  | .drainDue now => vswitch.drainDue now
  | .tick now => vswitch.tick plane now

/-- A switch that has just been started, whatever its gate and its socket do, and
the calls made on it. -/
def forwarding (plane : FrameGate γ) : TSys (VSwitch γ) ForwardingCall where
  init vswitch := ∃ results gate, vswitch = { socket := { results }, gate }
  step vswitch call := some (call.perform plane vswitch)

/-- The calls of one turn of the receive loop. -/
def LoopTurn.calls (turn : LoopTurn) : List ForwardingCall :=
  .drainDue turn.drained ::
    (turn.received.elim [] fun (frameData, sender, now) => [.processFrame frameData sender now]) ++
    [.tick turn.ticked]

/-- A turn of the loop makes its calls in order. -/
theorem exec_calls (plane : FrameGate γ) (vswitch : VSwitch γ) (turn : LoopTurn) :
    (forwarding plane).exec vswitch turn.calls = some (vswitch.turn plane turn) := by
  simp only [LoopTurn.calls, VSwitch.turn]
  cases turn.received with
  | none => rfl
  | some received => rfl

/-! ## A small lab -/

/-- A gate that lets every frame pass at once. -/
def openGate : FrameGate Unit where
  inspect gate _ _ arrival := ({ deliveryCount := 1, deliveryTimes := [arrival] }, gate)
  tick gate _ := gate
  tickInterval _ := 250
  bounded _ _ _ _ := Nat.le_succ 1

/-- A switch without a gate, on a network that takes every datagram. -/
def bareSwitch : VSwitch Unit where
  socket := { results := fun _ => true }

/-- A host on the lab's network. -/
def labHost (number : UInt8) : Endpoint where
  address := bytes "10.0.0." ++ decimal number.toNat
  port := 4000

/-- The address of a host, or of anything else that has a number. -/
def labMac (number : UInt8) : MacAddress where
  bytes := [2, 0, 0, 0, 0, number]
  size := rfl

/-- A bare header. -/
def headerFrame (destination source : MacAddress) : Bytes :=
  destination.bytes ++ source.bytes ++ [8, 0]

end WireLab
