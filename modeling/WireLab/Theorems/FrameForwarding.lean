import WireLab.Logic.Forwarding

/-!
# Where a frame goes

A table that has learned one address for each endpoint sends every frame that
passes the gate exactly where it should go. Two addresses behind one endpoint are
enough to send copies back or twice: what is excluded is the sender's address, and
what is delivered to is an endpoint (`frame_forwarded_iff`, `frame_sent_back`).
-/

namespace WireLab

open Base

variable {γ : Type}

/-- What forwarding promises of a frame that passes the gate for so many copies:
a unicast frame with a learned destination goes to that endpoint, a broadcast to
every learned endpoint, and nothing goes to the sender's. -/
structure Forwards (before : VSwitch γ) (frame : EthernetFrame) (sender : Endpoint) (count : Nat)
    (after : VSwitch γ) : Prop where
  unicast : frame.dstMac.isBroadcast = false → ∀ destination,
    (before.tableFor frame sender).lookup frame.dstMac = some destination → ∀ endpoint,
      after.copiesFor endpoint = before.copiesFor endpoint +
        if endpoint = destination ∧ endpoint ≠ sender then count else 0
  broadcast : frame.dstMac.isBroadcast = true → ∀ endpoint,
    after.copiesFor endpoint = before.copiesFor endpoint +
      if endpoint ∈ (before.tableFor frame sender).getAllEndpoints ∧ endpoint ≠ sender then count
      else 0

/-- What a table has to keep apart for a frame: a learned destination is not behind
the sender's endpoint, and a broadcast finds one address for each endpoint. Where
someone has taught the broadcast address, its endpoint is the only one there is
besides the sender's. -/
structure KeepsApart (table : MacTable) (frame : EthernetFrame) (sender : Endpoint) : Prop where
  elsewhere : ∀ destination, table.lookup frame.dstMac = some destination → destination ≠ sender
  alone : ∀ destination, table.lookup frame.dstMac = some destination →
    frame.dstMac.isBroadcast = true →
      ∀ endpoint ∈ table.getAllEndpoints, endpoint = sender ∨ endpoint = destination
  single : table.lookup frame.dstMac = none → frame.dstMac.isBroadcast = true →
    ∀ mac mac' endpoint, table.lookup mac = some endpoint → table.lookup mac' = some endpoint →
      mac = mac'

/-! ## Counting copies -/

/-- A destination gets as many copies as the decision is for. -/
private theorem countP_deliveries {decision : FaultDecision} (frameData : Bytes)
    (destination endpoint : Endpoint) (hbounded : decision.deliveryCount ≤ deliveryTimesSize) :
    (decision.deliveries frameData destination).countP (·.destination = endpoint) =
      if destination = endpoint then decision.deliveryCount else 0 := by
  rw [FaultDecision.deliveries, List.countP_map, Nat.min_eq_left hbounded]
  split
  · next heq =>
      rw [List.countP_eq_length.mpr, List.length_range]
      intro copy _
      exact decide_eq_true heq
  · next hne =>
      rw [List.countP_eq_zero]
      intro copy _
      simpa using hne

/-- Several destinations get their copies once for every time they are named. -/
private theorem countP_flatMap_deliveries {decision : FaultDecision} (frameData : Bytes)
    (endpoint : Endpoint) (hbounded : decision.deliveryCount ≤ deliveryTimesSize)
    (endpoints : List Endpoint) :
    (endpoints.flatMap (decision.deliveries frameData)).countP (·.destination = endpoint) =
      endpoints.count endpoint * decision.deliveryCount := by
  induction endpoints with
  | nil => simp
  | cons first endpoints ih =>
      rw [List.flatMap_cons, List.countP_append, ih, countP_deliveries frameData first endpoint hbounded,
        List.count_cons]
      by_cases heq : first = endpoint
      · rw [if_pos heq, if_pos (beq_iff_eq.mpr heq), Nat.add_mul, Nat.one_mul, Nat.add_comm]
      · rw [if_neg heq, if_neg (by simpa using heq), Nat.add_zero, Nat.zero_add]

/-! ## How often a broadcast names an endpoint -/

/-- The addresses a broadcast reaches an endpoint by. -/
private def addressesOf (table : MacTable) (excludeMac : MacAddress) (endpoint : Endpoint) :
    List MacAddress :=
  (table.table.entries.filter fun entry => entry.2 = endpoint ∧ entry.1 ≠ excludeMac).map (·.1)

private theorem count_getAllEndpointsExcept (table : MacTable) (excludeMac : MacAddress)
    (endpoint : Endpoint) :
    (table.getAllEndpointsExcept excludeMac).count endpoint =
      (addressesOf table excludeMac endpoint).length := by
  rw [MacTable.getAllEndpointsExcept, addressesOf, List.length_map]
  induction table.table.entries with
  | nil => rfl
  | cons entry entries ih =>
      rw [List.filterMap_cons, List.filter_cons]
      by_cases hmac : entry.1 = excludeMac
      · simp only [hmac, ne_eq, not_true, if_false, and_false, decide_false, Bool.false_eq_true]
        exact ih
      · simp only [hmac, ne_eq, not_false_eq_true, if_true, and_true, List.count_cons, ih,
          beq_iff_eq]
        by_cases heq : entry.2 = endpoint
        · simp only [heq, if_true, decide_true, List.length_cons]
        · simp only [heq, if_false, decide_false, Bool.false_eq_true, Nat.add_zero]

private theorem mem_addressesOf {table : MacTable} {excludeMac mac : MacAddress}
    {endpoint : Endpoint} :
    mac ∈ addressesOf table excludeMac endpoint ↔
      table.lookup mac = some endpoint ∧ mac ≠ excludeMac := by
  simp only [addressesOf, List.mem_map, List.mem_filter, decide_eq_true_eq, MacTable.lookup]
  constructor
  · rintro ⟨entry, ⟨hmem, rfl, hne⟩, rfl⟩
    exact ⟨(Dict.mem_entries_iff _ _ _).mp hmem, hne⟩
  · rintro ⟨hlookup, hne⟩
    exact ⟨⟨mac, endpoint⟩, ⟨(Dict.mem_entries_iff _ _ _).mpr hlookup, rfl, hne⟩, rfl⟩

private theorem addressesOf_nodup (table : MacTable) (excludeMac : MacAddress)
    (endpoint : Endpoint) : (addressesOf table excludeMac endpoint).Nodup :=
  (List.filter_sublist.map _).nodup table.table.nodupKeys

/-- A broadcast names every learned endpoint but the sender's once exactly when no
two addresses share an endpoint. -/
private theorem named_once_iff {table : MacTable} {srcMac : MacAddress} {sender : Endpoint}
    (hsource : table.lookup srcMac = some sender) :
    (∀ endpoint, (table.getAllEndpointsExcept srcMac).count endpoint =
        if endpoint ∈ table.getAllEndpoints ∧ endpoint ≠ sender then 1 else 0) ↔
      ∀ mac mac' endpoint, table.lookup mac = some endpoint → table.lookup mac' = some endpoint →
        mac = mac' := by
  simp only [count_getAllEndpointsExcept]
  constructor
  · intro hcount
    -- the sender's endpoint has no address but the source
    have hsender : ∀ mac, table.lookup mac = some sender → mac = srcMac := by
      intro mac hmac
      have hnone := hcount sender
      rw [if_neg (fun h => h.2 rfl), List.length_eq_zero_iff] at hnone
      by_contra hne
      exact absurd (mem_addressesOf.mpr ⟨hmac, hne⟩) (by rw [hnone]; exact List.not_mem_nil)
    intro mac mac' endpoint hmac hmac'
    by_cases heq : endpoint = sender
    · subst heq
      rw [hsender mac hmac, hsender mac' hmac']
    · have hone := hcount endpoint
      rw [if_pos ⟨MacTable.mem_getAllEndpoints.mpr ⟨mac, hmac⟩, heq⟩, List.length_eq_one_iff] at hone
      obtain ⟨only, honly⟩ := hone
      have hother : ∀ mac, table.lookup mac = some endpoint → mac = only := by
        intro mac hmac
        have hne : mac ≠ srcMac := by
          rintro rfl
          exact heq (Option.some.inj (hmac.symm.trans hsource))
        have hmem := mem_addressesOf.mpr ⟨hmac, hne⟩
        rw [honly] at hmem
        exact List.mem_singleton.mp hmem
      rw [hother mac hmac, hother mac' hmac']
  · intro hsingle endpoint
    split
    · next hknown =>
        obtain ⟨mac, hmac⟩ := MacTable.mem_getAllEndpoints.mp hknown.1
        have hne : mac ≠ srcMac := by
          rintro rfl
          exact hknown.2 (Option.some.inj (hmac.symm.trans hsource))
        have hmem := mem_addressesOf.mpr ⟨hmac, hne⟩
        refine Nat.le_antisymm ?_ (List.length_pos_of_mem hmem)
        have hsubset : addressesOf table srcMac endpoint ⊆ [mac] := by
          intro other hother
          exact List.mem_singleton.mpr
            (hsingle other mac endpoint (mem_addressesOf.mp hother).1 hmac)
        exact (addressesOf_nodup _ _ _).length_le_of_subset hsubset
    · next hunknown =>
        rw [List.length_eq_zero_iff, List.eq_nil_iff_forall_not_mem]
        intro mac hmem
        obtain ⟨hmac, hne⟩ := mem_addressesOf.mp hmem
        refine hunknown ⟨MacTable.mem_getAllEndpoints.mpr ⟨mac, hmac⟩, ?_⟩
        rintro rfl
        exact hne (hsingle mac srcMac endpoint hmac hsource)

/-- How often a frame names an endpoint as a destination. -/
private def named (table : MacTable) (frame : EthernetFrame) (endpoint : Endpoint) : Nat :=
  match VSwitch.destinations table frame with
  | none => 0
  | some endpoints => endpoints.count endpoint

/-- Every endpoint is named as often as it should be. -/
private structure NamesOnce (table : MacTable) (frame : EthernetFrame) (sender : Endpoint) :
    Prop where
  unicast : frame.dstMac.isBroadcast = false → ∀ destination,
    table.lookup frame.dstMac = some destination → ∀ endpoint,
      named table frame endpoint = if endpoint = destination ∧ endpoint ≠ sender then 1 else 0
  broadcast : frame.dstMac.isBroadcast = true → ∀ endpoint, named table frame endpoint =
    if endpoint ∈ table.getAllEndpoints ∧ endpoint ≠ sender then 1 else 0

section
variable {table : MacTable} {frame : EthernetFrame} {sender destination : Endpoint}

/-- A frame to a learned address names its endpoint and no other. -/
private theorem named_learned (hlookup : table.lookup frame.dstMac = some destination)
    (endpoint : Endpoint) :
    named table frame endpoint = if endpoint = destination then 1 else 0 := by
  simp only [named, VSwitch.destinations, hlookup, List.count_singleton, beq_iff_eq,
    eq_comm (a := destination)]

/-- Who names a learned destination once keeps it apart. -/
private theorem NamesOnce.keepsApart (hlookup : table.lookup frame.dstMac = some destination)
    (h : NamesOnce table frame sender) : KeepsApart table frame sender := by
  have hall : ∀ other, table.lookup frame.dstMac = some other → other = destination :=
    fun other hother => Option.some.inj (hother.symm.trans hlookup)
  have helsewhere : destination ≠ sender := by
    intro heq
    have hone : named table frame destination = 1 := by rw [named_learned hlookup, if_pos rfl]
    cases hb : frame.dstMac.isBroadcast with
    | false =>
        rw [h.unicast hb destination hlookup, if_neg fun hboth => hboth.2 heq] at hone
        exact absurd hone (by decide)
    | true =>
        rw [h.broadcast hb, if_neg fun hboth => hboth.2 heq] at hone
        exact absurd hone (by decide)
  refine ⟨?_, ?_, ?_⟩
  · intro other hother
    rw [hall other hother]
    exact helsewhere
  · intro other hother hb endpoint hknown
    rw [hall other hother]
    by_contra hneither
    rw [not_or] at hneither
    have hone := h.broadcast hb endpoint
    rw [named_learned hlookup, if_neg hneither.2, if_pos ⟨hknown, hneither.1⟩] at hone
    exact absurd hone (by decide)
  · intro hnone
    rw [hlookup] at hnone
    cases hnone

/-- A learned destination that is kept apart is named once. -/
private theorem KeepsApart.namesOnce (hlookup : table.lookup frame.dstMac = some destination)
    (h : KeepsApart table frame sender) : NamesOnce table frame sender := by
  have helsewhere := h.elsewhere destination hlookup
  constructor
  · intro _ other hother endpoint
    obtain rfl := Option.some.inj (hother.symm.trans hlookup)
    rw [named_learned hlookup]
    by_cases heq : endpoint = other
    · rw [if_pos heq, if_pos ⟨heq, heq ▸ helsewhere⟩]
    · rw [if_neg heq, if_neg fun hboth => heq hboth.1]
  · intro hb endpoint
    rw [named_learned hlookup]
    by_cases heq : endpoint = destination
    · subst heq
      rw [if_pos rfl, if_pos ⟨MacTable.mem_getAllEndpoints.mpr ⟨_, hlookup⟩, helsewhere⟩]
    · rw [if_neg heq, if_neg]
      rintro ⟨hknown, hne⟩
      rcases h.alone destination hlookup hb endpoint hknown with hsame | hsame
      · exact hne hsame
      · exact heq hsame

/-- Where nobody has taught the destination, only a broadcast has something to keep
apart. -/
private theorem keepsApart_unlearned (hlookup : table.lookup frame.dstMac = none) :
    KeepsApart table frame sender ↔ (frame.dstMac.isBroadcast = true →
      ∀ mac mac' endpoint, table.lookup mac = some endpoint → table.lookup mac' = some endpoint →
        mac = mac') := by
  have hunlearned : ∀ destination, table.lookup frame.dstMac ≠ some destination := by
    intro destination hsome
    rw [hlookup] at hsome
    cases hsome
  constructor
  · intro hapart
    exact hapart.single hlookup
  · intro hsingle
    refine ⟨?_, ?_, ?_⟩
    · intro destination hsome
      exact absurd hsome (hunlearned destination)
    · intro destination hsome
      exact absurd hsome (hunlearned destination)
    · intro _ hb
      exact hsingle hb

/-- Every endpoint is named as often as it should be exactly when the table keeps
the addresses apart. -/
private theorem namesOnce_iff (hsource : table.lookup frame.srcMac = some sender) :
    NamesOnce table frame sender ↔ KeepsApart table frame sender := by
  cases hlookup : table.lookup frame.dstMac with
  | some destination => exact ⟨NamesOnce.keepsApart hlookup, KeepsApart.namesOnce hlookup⟩
  | none =>
      have hnamed : frame.dstMac.isBroadcast = true → ∀ endpoint, named table frame endpoint =
          (table.getAllEndpointsExcept frame.srcMac).count endpoint := by
        intro hb endpoint
        simp only [named, VSwitch.destinations, hlookup, hb, if_true]
      rw [keepsApart_unlearned hlookup]
      constructor
      · intro h hb
        refine (named_once_iff hsource).mp fun endpoint => ?_
        rw [← hnamed hb, h.broadcast hb]
      · intro hsingle
        refine ⟨?_, ?_⟩
        · intro _ destination hsome
          rw [hlookup] at hsome
          cases hsome
        · intro hb endpoint
          rw [hnamed hb]
          exact (named_once_iff hsource).mpr (hsingle hb) endpoint

end

/-! ## The result -/

section
variable {plane : FrameGate γ} {vswitch : VSwitch γ} {frameData : Bytes} {sender : Endpoint}
  {now : Int} {frame : EthernetFrame} {decision : FaultDecision}

/-- **A frame is forwarded once to each destination and never back** exactly when
the table keeps the addresses apart. -/
theorem frame_forwarded_iff
    (h : vswitch.admitted plane frameData sender now = some (frame, decision)) :
    Forwards vswitch frame sender decision.deliveryCount
        (vswitch.processFrame plane frameData sender now) ↔
      KeepsApart (vswitch.tableFor frame sender) frame sender := by
  obtain ⟨hpos, hbounded⟩ := VSwitch.admitted_count h
  generalize htable : vswitch.tableFor frame sender = table
  have hsource : table.lookup frame.srcMac = some sender := htable ▸ vswitch.lookup_tableFor _ _
  have hadds : ∀ endpoint, (vswitch.processFrame plane frameData sender now).copiesFor endpoint =
      vswitch.copiesFor endpoint + named table frame endpoint * decision.deliveryCount := by
    intro endpoint
    rw [vswitch.copiesFor_processFrame plane rfl]
    simp only [VSwitch.fate, h, Option.bind_some, htable, named]
    cases VSwitch.destinations table frame with
    | none => simp only [Option.map_none, Option.getD_none, List.countP_nil, Nat.zero_mul]
    | some endpoints =>
        exact congrArg _ (countP_flatMap_deliveries frameData endpoint hbounded endpoints)
  -- what an endpoint should get is the decision's count or nothing
  have hcount : ∀ (endpoint : Endpoint) (p : Prop) [Decidable p],
      (vswitch.processFrame plane frameData sender now).copiesFor endpoint =
          vswitch.copiesFor endpoint + (if p then decision.deliveryCount else 0) ↔
        named table frame endpoint = if p then 1 else 0 := by
    intro endpoint p _
    rw [hadds, Nat.add_left_cancel_iff]
    split
    · exact ⟨fun heq => Nat.eq_of_mul_eq_mul_right hpos (heq.trans (Nat.one_mul _).symm),
        fun heq => by rw [heq, Nat.one_mul]⟩
    · exact ⟨fun heq => (Nat.mul_eq_zero.mp heq).resolve_right (Nat.pos_iff_ne_zero.mp hpos),
        fun heq => by rw [heq, Nat.zero_mul]⟩
  rw [← namesOnce_iff hsource]
  constructor
  · intro hforwards
    refine ⟨?_, ?_⟩
    · intro hb destination hlookup endpoint
      exact (hcount endpoint _).mp (hforwards.unicast hb destination (htable ▸ hlookup) endpoint)
    · intro hb endpoint
      have := hforwards.broadcast hb endpoint
      rw [htable] at this
      exact (hcount endpoint _).mp this
  · rintro ⟨hunicast, hbroadcast⟩
    refine ⟨?_, ?_⟩
    · intro hb destination hlookup endpoint
      exact (hcount endpoint _).mpr (hunicast hb destination (htable ▸ hlookup) endpoint)
    · intro hb endpoint
      rw [htable]
      exact (hcount endpoint _).mpr (hbroadcast hb endpoint)

end

/-- The first frame of a host, to an address that nobody has. -/
theorem frame_forwarded_iff_first :
    Forwards bareSwitch { dstMac := labMac 9, srcMac := labMac 1, ethertype := 0x800 } (labHost 1) 1
        (bareSwitch.processFrame openGate (headerFrame (labMac 9) (labMac 1)) (labHost 1) 0) ↔
      KeepsApart
        (bareSwitch.tableFor { dstMac := labMac 9, srcMac := labMac 1, ethertype := 0x800 }
          (labHost 1))
        { dstMac := labMac 9, srcMac := labMac 1, ethertype := 0x800 } (labHost 1) :=
  frame_forwarded_iff (show bareSwitch.admitted openGate (headerFrame (labMac 9) (labMac 1))
    (labHost 1) 0 = some ({ dstMac := labMac 9, srcMac := labMac 1, ethertype := 0x800 },
      { deliveryCount := 1, deliveryTimes := [0] }) by decide +kernel)

/-- A switch that has heard of two addresses behind one endpoint. -/
def sharedSwitch : VSwitch Unit :=
  (bareSwitch.processFrame openGate (headerFrame (labMac 9) (labMac 1)) (labHost 1) 0).processFrame
    openGate (headerFrame (labMac 9) (labMac 2)) (labHost 1) 1

/-- A frame from one of them to the other goes back to where it came from. -/
theorem frame_sent_back :
    (forwarding openGate).Reachable sharedSwitch ∧
      ∃ frame decision, sharedSwitch.admitted openGate (headerFrame (labMac 2) (labMac 1))
          (labHost 1) 2 = some (frame, decision) ∧
        ¬Forwards sharedSwitch frame (labHost 1) decision.deliveryCount
          (sharedSwitch.processFrame openGate (headerFrame (labMac 2) (labMac 1)) (labHost 1)
            2) := by
  have hreachable : (forwarding openGate).Reachable sharedSwitch := by
    have hinit : (forwarding openGate).Reachable bareSwitch := .init ⟨_, _, rfl⟩
    have hfirst := hinit.step
      (a := .processFrame (headerFrame (labMac 9) (labMac 1)) (labHost 1) 0) rfl
    exact hfirst.step (a := .processFrame (headerFrame (labMac 9) (labMac 2)) (labHost 1) 1) rfl
  refine ⟨hreachable, { dstMac := labMac 2, srcMac := labMac 1, ethertype := 0x800 },
    { deliveryCount := 1, deliveryTimes := [2] }, by decide +kernel, ?_⟩
  intro hforwards
  have hback := hforwards.unicast (by decide) (labHost 1) (by decide +kernel) (labHost 1)
  rw [if_neg fun h => h.2 rfl] at hback
  exact absurd hback (by decide +kernel)

end WireLab
