import WireLab.Base.Tally
import WireLab.Logic.SessionRuns

/-!
# What becomes of the frames

A log of the frames of a tick, each with the host it came in on and the copies of it
that left its link; a frame without copies is dropped. `sendFrames_books` says that
the loop counts exactly its log (`Books`): on the ports, in the tick's totals, and in
what it delivers.
-/

namespace WireLab

open Base

variable {δ β τ : Type}

/-- What became of a frame. -/
structure FrameFate where
  /-- Where its host stands among the hosts. -/
  position : Nat
  host : Bytes
  frame : Bytes
  /-- A fault of its port or its link duplicates. -/
  duplicated : Bool
  copies : Nat

namespace FrameFate

/-- A drop counts once. -/
def drops (fate : FrameFate) : Nat := if fate.copies = 0 then 1 else 0

def deliveredBytes (fate : FrameFate) : Nat := fate.copies * fate.frame.length

/-- The copies, as an analyzer sees them. -/
def views (fate : FrameFate) : List PacketView :=
  List.replicate fate.copies { bytes := fate.frame, ingressPort := .ofNat fate.position }

end FrameFate

/-- How many frames came in on a host. -/
def receivedOn (log : List FrameFate) (host : Bytes) : Nat :=
  Base.tally FrameFate.host (fun _ => 1) host log

/-- How many copies of them left its link. -/
def forwardedOn (log : List FrameFate) (host : Bytes) : Nat :=
  Base.tally FrameFate.host FrameFate.copies host log

def droppedOn (log : List FrameFate) (host : Bytes) : Nat :=
  Base.tally FrameFate.host FrameFate.drops host log

/-- What a log counts on a host, in 64 bits. -/
def countersOf (log : List FrameFate) (host : Bytes) : PortCounters where
  received := .ofNat (receivedOn log host)
  forwarded := .ofNat (forwardedOn log host)
  dropped := .ofNat (droppedOn log host)

namespace Session

/-- A fault that duplicates. -/
def duplicates (fault : Option FaultConfiguration) : Bool :=
  fault.any fun configuration => configuration.duplicationBasisPoints ≠ 0

/-- A fault on a host's way to the switch duplicates. -/
def wayDuplicates (links : List TopologyLink) (switchId host : Bytes)
    (controller : TopologyController) : Bool :=
  duplicates (controller.portFault host) ||
    (linkOf links host switchId).any fun link => duplicates (controller.linkFault link.from link.to)

/-- What becomes of the frames of a tick. -/
def frameFates (session : Session δ β τ) (switchId : Bytes) (arrival : Int) :
    List (Bytes × Nat) → TopologyController → List FrameFate
  | [], _ => []
  | (frame, index) :: frames, controller =>
      let position := (session.hostIndexOf index).toNat
      let host := (session.hosts[position]?).getD []
      let links := session.topologyConfiguration.links
      let routed := routeFrame links switchId arrival host (.ofNat frame.length) controller
      { position
        host
        frame
        duplicated := wayDuplicates links switchId host controller
        copies := (routed.1.map Prod.fst).getD 0 } ::
        frameFates session switchId arrival frames routed.2

/-- What becomes of the frames of the next tick. -/
def tickFates (session : Session δ β τ) (arrival : Int) (frames : List Bytes) : List FrameFate :=
  session.frameFates session.switchId arrival frames.zipIdx session.topologyController

end Session

/-! ## Counting a log -/

instance : Add PortCounters where
  add a b :=
    { received := a.received + b.received
      forwarded := a.forwarded + b.forwarded
      dropped := a.dropped + b.dropped }

namespace PortCounters

variable (a b c : PortCounters)

@[simp]
theorem received_add : (a + b).received = a.received + b.received := rfl

@[simp]
theorem forwarded_add : (a + b).forwarded = a.forwarded + b.forwarded := rfl

@[simp]
theorem dropped_add : (a + b).dropped = a.dropped + b.dropped := rfl

theorem add_assoc : a + b + c = a + (b + c) := by
  ext
  · simp only [received_add, UInt64.add_assoc]
  · simp only [forwarded_add, UInt64.add_assoc]
  · simp only [dropped_add, UInt64.add_assoc]

theorem add_zero : a + {} = a := by
  ext
  · exact congrArg UInt64.toNat (UInt64.add_zero _)
  · exact congrArg UInt64.toNat (UInt64.add_zero _)
  · exact congrArg UInt64.toNat (UInt64.add_zero _)

end PortCounters

theorem countersOf_append (xs ys : List FrameFate) (host : Bytes) :
    countersOf (xs ++ ys) host = countersOf xs host + countersOf ys host := by
  unfold countersOf receivedOn forwardedOn droppedOn
  simp only [tally_append, UInt64.ofNat_add]
  rfl

theorem countersOf_single (fate : FrameFate) (host : Bytes) :
    countersOf [fate] host =
      if host = fate.host then
        { received := 1, forwarded := .ofNat fate.copies, dropped := .ofNat fate.drops }
      else {} := by
  unfold countersOf receivedOn forwardedOn droppedOn
  simp only [tally_cons, tally_nil, Nat.add_zero]
  by_cases h : host = fate.host
  · simp only [h, if_true]
    rfl
  · simp only [if_neg h, if_neg (Ne.symm h)]
    rfl

namespace Session

/-- What is counted on a host so far. -/
def TrafficTick.countersAt (tick : TrafficTick) (host : Bytes) : PortCounters :=
  (tick.portCounters.lookup host).getD {}

/-- A tick has counted a log more. -/
structure Books (tick : TrafficTick) (log : List FrameFate) (tick' : TrafficTick) : Prop where
  counters : ∀ host, tick'.countersAt host = tick.countersAt host + countersOf log host
  delivered : tick'.delivered = tick.delivered ++ log.flatMap FrameFate.views
  tickBytes : tick'.tickBytes = tick.tickBytes + .ofNat (log.map FrameFate.deliveredBytes).sum
  tickDropped : tick'.tickDropped = tick.tickDropped + .ofNat (log.map FrameFate.drops).sum

theorem Books.nil (tick : TrafficTick) : Books tick [] tick where
  counters _ := (PortCounters.add_zero _).symm
  delivered := (List.append_nil _).symm
  tickBytes := (UInt64.add_zero _).symm
  tickDropped := (UInt64.add_zero _).symm

theorem Books.trans {a b c : TrafficTick} {xs ys : List FrameFate} (hab : Books a xs b)
    (hbc : Books b ys c) : Books a (xs ++ ys) c where
  counters host := by
    rw [hbc.counters, hab.counters, countersOf_append, PortCounters.add_assoc]
  delivered := by
    rw [hbc.delivered, hab.delivered, List.flatMap_append, List.append_assoc]
  tickBytes := by
    rw [hbc.tickBytes, hab.tickBytes, List.map_append, List.sum_append, UInt64.ofNat_add,
      UInt64.add_assoc]
  tickDropped := by
    rw [hbc.tickDropped, hab.tickDropped, List.map_append, List.sum_append, UInt64.ofNat_add,
      UInt64.add_assoc]

/-! ## One frame -/

/-- What is routed is delivered at least once. -/
theorem routeFrame_pos {links : List TopologyLink} {switchId host : Bytes} {arrival : Int}
    {frameBytes : UInt64} {controller controller' : TopologyController} {deliveries : Nat}
    {latency : Int}
    (h : routeFrame links switchId arrival host frameBytes controller =
      (some (deliveries, latency), controller')) : deliveries ≠ 0 := by
  unfold routeFrame at h
  split at h
  · cases h
  · split at h
    · cases h
    · split at h
      · cases h
      · split at h
        · cases h
        · simp only at h
          split at h
          · cases h
          · next hkept =>
              obtain ⟨hrouted, _⟩ := Prod.mk.inj h
              obtain ⟨rfl, _⟩ := Prod.mk.inj (Option.some.inj hrouted)
              exact (not_or.mp hkept).2

theorem countersAt_count (tick : TrafficTick) (host other : Bytes) (f : PortCounters → PortCounters) :
    (tick.count host f).countersAt other =
      if other = host then f (tick.countersAt host) else tick.countersAt other := by
  unfold TrafficTick.countersAt TrafficTick.count
  simp only [Dict.lookup_insert]
  split
  · rfl
  · rfl

theorem countersAt_receive (tick : TrafficTick) (host other : Bytes)
    (controller : TopologyController) :
    ((tick.receive host).withController controller).countersAt other =
      if other = host then { tick.countersAt host with received := (tick.countersAt host).received + 1 }
      else tick.countersAt other :=
  countersAt_count tick host other fun counters => { counters with received := counters.received + 1 }

theorem countersAt_drop (tick : TrafficTick) (host other : Bytes) :
    (tick.drop host).countersAt other =
      if other = host then { tick.countersAt host with dropped := (tick.countersAt host).dropped + 1 }
      else tick.countersAt other :=
  countersAt_count tick host other fun counters => { counters with dropped := counters.dropped + 1 }

theorem countersAt_deliver (tick : TrafficTick) (host other frame : Bytes) (hostIndex : UInt64)
    (deliveries : Nat) (latency : Int) :
    (tick.deliver host hostIndex frame deliveries latency).countersAt other =
      if other = host then
        { tick.countersAt host with
          forwarded := (tick.countersAt host).forwarded + .ofNat deliveries }
      else tick.countersAt other :=
  countersAt_count tick host other fun counters => { counters with forwarded := counters.forwarded + .ofNat deliveries }

/-- A frame that is dropped is counted as received, and as dropped. -/
theorem books_drop (tick : TrafficTick) (controller : TopologyController) {fate : FrameFate}
    (hcopies : fate.copies = 0) :
    Books tick [fate] (((tick.receive fate.host).withController controller).drop fate.host) where
  counters other := by
    have hdrops : fate.drops = 1 := if_pos hcopies
    rw [countersOf_single, hcopies, hdrops]
    rw [countersAt_drop, countersAt_receive, countersAt_receive]
    by_cases h : other = fate.host
    · simp only [h, if_true]
      ext
      · rfl
      · exact congrArg UInt64.toNat (UInt64.add_zero _).symm
      · rfl
    · simp only [if_neg h, PortCounters.add_zero]
  delivered := by
    simp only [List.flatMap_cons, List.flatMap_nil, FrameFate.views, hcopies, List.replicate_zero,
      List.append_nil]
    rfl
  tickBytes := by
    simp only [List.map_cons, List.map_nil, List.sum_cons, List.sum_nil, FrameFate.deliveredBytes,
      hcopies, Nat.zero_mul, Nat.add_zero]
    exact (UInt64.add_zero _).symm
  tickDropped := by
    have hdrops : fate.drops = 1 := if_pos hcopies
    simp only [List.map_cons, List.map_nil, List.sum_cons, List.sum_nil, hdrops]
    rfl

/-- A frame that is delivered is counted as received, and as forwarded once a copy. -/
theorem books_deliver (tick : TrafficTick) (controller : TopologyController) (latency : Int)
    {fate : FrameFate} {hostIndex : UInt64} (hposition : fate.position = hostIndex.toNat)
    (hcopies : fate.copies ≠ 0) :
    Books tick [fate] (((tick.receive fate.host).withController controller).deliver fate.host
      hostIndex fate.frame fate.copies latency) where
  counters other := by
    have hdrops : fate.drops = 0 := if_neg hcopies
    rw [countersOf_single, hdrops]
    rw [countersAt_deliver, countersAt_receive, countersAt_receive]
    by_cases h : other = fate.host
    · simp only [h, if_true]
      ext
      · rfl
      · rfl
      · exact congrArg UInt64.toNat (UInt64.add_zero _).symm
    · simp only [if_neg h, PortCounters.add_zero]
  delivered := by
    simp only [List.flatMap_cons, List.flatMap_nil, FrameFate.views, hposition, List.append_nil]
    rfl
  tickBytes := by
    simp only [List.map_cons, List.map_nil, List.sum_cons, List.sum_nil, FrameFate.deliveredBytes,
      Nat.add_zero, UInt64.ofNat_mul]
    rfl
  tickDropped := by
    have hdrops : fate.drops = 0 := if_neg hcopies
    simp only [List.map_cons, List.map_nil, List.sum_cons, List.sum_nil, hdrops]
    exact (UInt64.add_zero _).symm

/-- One frame is counted as what becomes of it. -/
theorem sendFrame_books (links : List TopologyLink) (switchId : Bytes) (arrival : Int)
    (hostIndex : UInt64) (tick : TrafficTick) {fate : FrameFate}
    (hposition : fate.position = hostIndex.toNat)
    (hcopies : fate.copies = ((routeFrame links switchId arrival fate.host
      (.ofNat fate.frame.length) tick.controller).1.map Prod.fst).getD 0) :
    Books tick [fate] (sendFrame links switchId arrival fate.host hostIndex fate.frame tick) := by
  unfold sendFrame
  simp only
  split
  · next controller hroute =>
      have hroute : routeFrame links switchId arrival fate.host (.ofNat fate.frame.length)
        tick.controller = (none, controller) := hroute
      rw [hroute] at hcopies
      exact books_drop tick controller hcopies
  · next deliveries latency controller hroute =>
      have hroute : routeFrame links switchId arrival fate.host (.ofNat fate.frame.length)
        tick.controller = (some (deliveries, latency), controller) := hroute
      rw [hroute] at hcopies
      obtain rfl : fate.copies = deliveries := hcopies
      exact books_deliver tick controller latency hposition (routeFrame_pos hroute)

/-- The controller goes on to the next frame. -/
theorem sendFrame_controller (links : List TopologyLink) (switchId : Bytes) (arrival : Int)
    (host : Bytes) (hostIndex : UInt64) (frame : Bytes) (tick : TrafficTick) :
    (sendFrame links switchId arrival host hostIndex frame tick).controller =
      (routeFrame links switchId arrival host (.ofNat frame.length) tick.controller).2 := by
  unfold sendFrame
  simp only
  split
  · next controller hroute => exact (congrArg Prod.snd hroute).symm
  · next deliveries latency controller hroute => exact (congrArg Prod.snd hroute).symm

/-- **The loop counts exactly what becomes of its frames.** -/
theorem sendFrames_books (session : Session δ β τ) (switchId : Bytes) (arrival : Int)
    (frames : List (Bytes × Nat)) (tick : TrafficTick) :
    Books tick (session.frameFates switchId arrival frames tick.controller)
      (session.sendFrames switchId arrival frames tick) := by
  induction frames generalizing tick with
  | nil => exact .nil tick
  | cons head frames ih =>
      obtain ⟨frame, index⟩ := head
      unfold frameFates sendFrames
      simp only
      rw [← sendFrame_controller _ _ _ _ (session.hostIndexOf index)]
      exact (sendFrame_books _ _ _ _ _ rfl rfl).trans (ih _)

/-! ## Copies -/

/-- A target whose fault does not duplicate delivers a frame once at most. -/
theorem deliveryCount_judge {state : FaultState} (frameBytes : UInt64) (arrival : Int)
    (h : state.configuration.duplicationBasisPoints = 0) :
    (state.judge frameBytes arrival).1.deliveryCount ≤ 1 := by
  unfold FaultState.judge
  simp only
  split_ifs with hblocked hlost hduplicated
  · exact Nat.zero_le 1
  · exact Nat.zero_le 1
  · rw [h] at hduplicated
    exact absurd hduplicated UInt64.not_lt_zero
  · exact Nat.le_refl 1

theorem deliveryCount_evaluate {engine : FaultEngine} {target : Bytes} (frameBytes : UInt64)
    (arrival : Int) (h : duplicates (engine.faultFor target) = false) :
    (engine.evaluate target frameBytes arrival).1.deliveryCount ≤ 1 := by
  unfold FaultEngine.evaluate
  split
  · exact Nat.le_refl 1
  · next state hstate =>
      refine deliveryCount_judge frameBytes arrival ?_
      rw [FaultEngine.faultFor, hstate] at h
      simpa [duplicates] using h

section
variable {controller controller' : TopologyController} {decision : FaultDecision}

theorem deliveryCount_evaluatePort {host : Bytes} {frameBytes : UInt64} {arrival : Int}
    (h : controller.evaluatePort host frameBytes arrival = .ok (decision, controller'))
    (hsingle : duplicates (controller.portFault host) = false) : decision.deliveryCount ≤ 1 := by
  unfold TopologyController.evaluatePort at h
  unfold TopologyController.portFault at hsingle
  split at h
  · cases h
  · next topology htopology =>
      split at h
      · cases h
      · next hport =>
          obtain ⟨rfl, _⟩ := Prod.mk.inj (Except.ok.inj h)
          rw [htopology] at hsingle
          refine deliveryCount_evaluate frameBytes arrival ?_
          simpa [by simpa using hport] using hsingle

theorem deliveryCount_evaluateLink {a b : Bytes} {frameBytes : UInt64} {arrival : Int}
    (h : controller.evaluateLink a b frameBytes arrival = .ok (decision, controller'))
    (hsingle : duplicates (controller.linkFault a b) = false) : decision.deliveryCount ≤ 1 := by
  unfold TopologyController.evaluateLink at h
  unfold TopologyController.linkFault at hsingle
  split at h
  · cases h
  · next topology htopology =>
      split at h
      · cases h
      · next hlink =>
          obtain ⟨rfl, _⟩ := Prod.mk.inj (Except.ok.inj h)
          rw [htopology] at hsingle
          have hone : (controller.faultEngine.evaluate (linkFaultTarget a b) frameBytes
              arrival).1.deliveryCount ≤ 1 := by
            refine deliveryCount_evaluate frameBytes arrival ?_
            simpa [by simpa using hlink] using hsingle
          unfold TopologyController.delayed
          split
          · exact hone
          · exact hone

end

/-- Where no fault on the way duplicates, one copy arrives at most. -/
theorem copies_le_one {links : List TopologyLink} {switchId host : Bytes}
    {controller : TopologyController} (arrival : Int) (frameBytes : UInt64)
    (h : wayDuplicates links switchId host controller = false) :
    ((routeFrame links switchId arrival host frameBytes controller).1.map Prod.fst).getD 0 ≤ 1 := by
  obtain ⟨hport, hlink⟩ := Bool.or_eq_false_iff.mp h
  unfold routeFrame
  split
  · exact Nat.zero_le 1
  · next portDecision middle heqPort =>
      have hfirst := deliveryCount_evaluatePort heqPort hport
      have hsame := evaluatePort_undisturbed heqPort
      split
      · exact Nat.zero_le 1
      · split
        · exact Nat.zero_le 1
        · next link hfound =>
            rw [hfound] at hlink
            have hkept : middle.linkFault link.from link.to = controller.linkFault link.from link.to :=
              hsame.fault (.link s(link.from, link.to))
            split
            · exact Nat.zero_le 1
            · next linkDecision after heqLink =>
                have hsecond := deliveryCount_evaluateLink heqLink (hkept ▸ hlink)
                simp only
                split
                · exact Nat.zero_le 1
                · exact Nat.mul_le_mul hfirst hsecond

/-! ## Hosts -/

/-- A frame comes in on one of the hosts. -/
theorem hostIndexOf_lt (session : Session δ β τ) (hhosts : session.hosts ≠ []) (index : Nat) :
    (session.hostIndexOf index).toNat < session.hosts.length := by
  have hpositive := List.length_pos_iff.mpr hhosts
  unfold hostIndexOf
  generalize session.tickSequence * _ + _ = turn
  rw [UInt64.toNat_mod, UInt64.toNat_ofNat']
  have hturn := turn.toNat_lt
  -- A multiple of 2^64 hosts, which no machine holds, would make the remainder the turn.
  by_cases hwraps : session.hosts.length % 2 ^ 64 = 0
  · rw [hwraps, Nat.mod_zero]
    omega
  · have hbelow := Nat.mod_lt turn.toNat (Nat.pos_of_ne_zero hwraps)
    have hat := Nat.mod_le session.hosts.length (2 ^ 64)
    omega

/-- What holds of a frame that was sent. -/
structure Routed (hosts : List Bytes) (fate : FrameFate) : Prop where
  host : hosts[fate.position]? = some fate.host
  single : fate.duplicated = false → fate.copies ≤ 1

theorem frameFates_routed (session : Session δ β τ) (hhosts : session.hosts ≠ [])
    (switchId : Bytes) (arrival : Int) (frames : List (Bytes × Nat))
    (controller : TopologyController) :
    ∀ fate ∈ session.frameFates switchId arrival frames controller, Routed session.hosts fate := by
  induction frames generalizing controller with
  | nil => exact fun fate hfate => absurd hfate List.not_mem_nil
  | cons head frames ih =>
      obtain ⟨frame, index⟩ := head
      intro fate hfate
      unfold frameFates at hfate
      rcases List.mem_cons.mp hfate with rfl | hfate
      · have hbelow := session.hostIndexOf_lt hhosts index
        refine ⟨?_, fun hsingle => copies_le_one arrival _ hsingle⟩
        simp only [List.getElem?_eq_getElem hbelow, Option.getD_some]
      · exact ih _ fate hfate

/-- Every frame has its fate, in order. -/
theorem map_frame_frameFates (session : Session δ β τ) (switchId : Bytes) (arrival : Int)
    (frames : List (Bytes × Nat)) (controller : TopologyController) :
    (session.frameFates switchId arrival frames controller).map FrameFate.frame =
      frames.map Prod.fst := by
  induction frames generalizing controller with
  | nil => rfl
  | cons head frames ih =>
      obtain ⟨frame, index⟩ := head
      unfold frameFates
      rw [List.map_cons, List.map_cons, ih]

theorem map_frame_tickFates (session : Session δ β τ) (arrival : Int) (frames : List Bytes) :
    (session.tickFates arrival frames).map FrameFate.frame = frames := by
  rw [tickFates, map_frame_frameFates, List.zipIdx_map_fst]

/-- **A tick counts exactly what becomes of its frames.** -/
theorem sendTick_books (session : Session δ β τ) (arrival : Int) (frames : List Bytes) :
    Books session.startTick (session.tickFates arrival frames)
      (session.sendTick arrival frames) :=
  session.sendFrames_books session.switchId arrival frames.zipIdx session.startTick

end Session

/-! ## The law -/

/-- The counters of the hosts are those of the whole log. -/
theorem sum_countersOf {hosts : List Bytes} (hnodup : hosts.Nodup) {log : List FrameFate}
    (hhosts : ∀ fate ∈ log, fate.host ∈ hosts) (weight : FrameFate → Nat) :
    (hosts.map fun host => UInt64.ofNat (Base.tally FrameFate.host weight host log)).sum =
      .ofNat (log.map weight).sum := by
  have hsum : ∀ keys : List Bytes,
      (keys.map fun host => UInt64.ofNat (Base.tally FrameFate.host weight host log)).sum =
        .ofNat (keys.map fun host => Base.tally FrameFate.host weight host log).sum := by
    intro keys
    induction keys with
    | nil => rfl
    | cons key keys ih => simp only [List.map_cons, List.sum_cons, ih, UInt64.ofNat_add]
  rw [hsum, sum_tally weight hnodup hhosts]

/-- A frame is dropped, or forwarded at least once. -/
theorem receivedOn_le (log : List FrameFate) (host : Bytes) :
    receivedOn log host ≤ forwardedOn log host + droppedOn log host := by
  unfold receivedOn forwardedOn droppedOn
  rw [← tally_add]
  refine tally_mono _ _ fun fate _ => ?_
  unfold FrameFate.drops
  split
  · omega
  · omega

/-- Where nothing is duplicated, a frame is dropped or forwarded once. -/
theorem receivedOn_eq {log : List FrameFate} {host : Bytes}
    (hsingle : ∀ fate ∈ log, fate.host = host → fate.copies ≤ 1) :
    receivedOn log host = forwardedOn log host + droppedOn log host := by
  unfold receivedOn forwardedOn droppedOn
  rw [← tally_add]
  refine tally_congr _ _ fun fate hfate hhost => ?_
  have hone := hsingle fate hfate hhost
  unfold FrameFate.drops
  split
  · omega
  · omega

end WireLab
