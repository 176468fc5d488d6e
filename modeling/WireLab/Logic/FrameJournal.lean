import WireLab.Logic.Forwarding

/-!
# The journal of a switch

A history of the copies a switch had to do with: what was scheduled, what was handed
over and when, and what waits. It is kept by what each frame amounts to (`fate`) and
by the clock, and names the frame and the sender of every copy; the switch itself
keeps neither. `FollowsJournal` says that the switch does what its journal says.
-/

namespace WireLab

open Base

variable {γ : Type}

/-- A copy of the `frame`-th frame that was processed. -/
structure FrameCopy where
  frame : Nat
  sender : Endpoint
  delivery : ScheduledDelivery
  deriving DecidableEq

/-- The frames that were processed, those of them that were dropped without being
scheduled, and the copies of the others. Copies were handed over at the clock reading
beside them. -/
structure Journal where
  clock : Option Int := none
  frames : Nat := 0
  refused : Nat := 0
  scheduled : List FrameCopy := []
  handed : List (FrameCopy × Int) := []
  waiting : List FrameCopy := []

namespace Journal

/-- Schedule copies: those that are due are handed over. -/
def schedule (journal : Journal) (copies : List FrameCopy) (now : Int) : Journal :=
  { journal with
    scheduled := journal.scheduled ++ copies
    handed := journal.handed ++ (copies.filter (·.delivery.isDue now)).map fun copy => (copy, now)
    waiting := journal.waiting ++ copies.filter (·.delivery.isLate now) }

/-- Hand over the copies that have come due. -/
def drain (journal : Journal) (now : Int) : Journal :=
  { journal with
    handed := journal.handed ++
      (journal.waiting.filter (·.delivery.isDue now)).map fun copy => (copy, now)
    waiting := journal.waiting.filter (·.delivery.isLate now) }

/-- The copies of the next frame. -/
def nextCopies (journal : Journal) (sender : Endpoint) (deliveries : List ScheduledDelivery) :
    List FrameCopy :=
  deliveries.map fun delivery => { frame := journal.frames, sender, delivery }

/-- Count a frame, with what became of it. -/
def process (journal : Journal) (sender : Endpoint) (now : Int) :
    Option (List ScheduledDelivery) → Journal
  | none => { journal with frames := journal.frames + 1, refused := journal.refused + 1 }
  | some deliveries =>
      { journal.schedule (journal.nextCopies sender deliveries) now with
        frames := journal.frames + 1 }

/-- What a call adds. -/
def note (plane : FrameGate γ) (journal : Journal) (before : VSwitch γ) (call : ForwardingCall) :
    Journal :=
  let noted :=
    match call with
    | .processFrame frameData sender now =>
        journal.process sender now (before.fate plane frameData sender now)
    | .drainDue now => journal.drain now
    | .tick _ => journal
  { noted with clock := some call.clock }

end Journal

/-- The switch with its journal. -/
def journaled (plane : FrameGate γ) : TSys (VSwitch γ × Journal) ForwardingCall :=
  (forwarding plane).withGhost {} fun journal before call _ => journal.note plane before call

/-- The switch does what its journal says. The counters are 64 bits wide, and so is
their sum. -/
structure FollowsJournal (vswitch : VSwitch γ) (journal : Journal) : Prop where
  sent : vswitch.socket.sent = journal.handed.map fun entry => entry.1.delivery.datagram
  pending : vswitch.pending = journal.waiting.map FrameCopy.delivery
  scheduled : journal.scheduled.Perm (journal.handed.map Prod.fst ++ journal.waiting)
  punctual : ∀ entry ∈ journal.handed, entry.1.delivery.due ≤ entry.2
  counted : vswitch.metrics.forwardedPackets + vswitch.metrics.droppedPackets +
      UInt64.ofNat vswitch.pending.length =
    UInt64.ofNat (journal.scheduled.length + journal.refused)

/-- Of some copies, those that are due and those that wait are all of them. -/
private theorem perm_due_late (now : Int) (copies : List FrameCopy) :
    copies.Perm (copies.filter (·.delivery.isDue now) ++ copies.filter (·.delivery.isLate now)) := by
  have hlate : copies.filter (·.delivery.isLate now) =
      copies.filter (fun copy => !copy.delivery.isDue now) :=
    List.filter_congr fun copy _ => copy.delivery.isLate_eq now
  rw [hlate]
  exact (List.filter_append_perm _ copies).symm

/-- Of some deliveries, those that are due and those that are late are all of them. -/
private theorem length_due_late (now : Int) (deliveries : List ScheduledDelivery) :
    deliveries.length =
      (deliveries.filter (·.isDue now)).length + (deliveries.filter (·.isLate now)).length := by
  have hlate : deliveries.filter (·.isLate now) =
      deliveries.filter (fun delivery => !delivery.isDue now) :=
    List.filter_congr fun delivery _ => delivery.isLate_eq now
  rw [hlate]
  exact List.length_eq_length_filter_add (ScheduledDelivery.isDue now)

/-- What a filter keeps of the deliveries of some copies. -/
private theorem filter_deliveries (p : ScheduledDelivery → Bool) (copies : List FrameCopy) :
    (copies.map FrameCopy.delivery).filter p =
      (copies.filter fun copy => p copy.delivery).map FrameCopy.delivery := by
  rw [List.filter_map]
  rfl

/-- Copies that are handed over now are due now. -/
private theorem punctual_append {handed : List (FrameCopy × Int)} {copies : List FrameCopy}
    {now : Int} (h : ∀ entry ∈ handed, entry.1.delivery.due ≤ entry.2) :
    ∀ entry ∈ handed ++ (copies.filter (·.delivery.isDue now)).map (fun copy => (copy, now)),
      entry.1.delivery.due ≤ entry.2 := by
  intro entry hentry
  rcases List.mem_append.mp hentry with hbefore | hnow
  · exact h entry hbefore
  · obtain ⟨copy, hcopy, rfl⟩ := List.mem_map.mp hnow
    exact of_decide_eq_true (List.mem_filter.mp hcopy).2

/-- What is handed over now is the copies that are due. -/
theorem map_fst_now (copies : List FrameCopy) (now : Int) :
    (copies.map fun copy => (copy, now)).map Prod.fst = copies := by
  rw [List.map_map]
  exact List.map_id _

section
variable {vswitch : VSwitch γ} {journal : Journal}

/-- Copies that are scheduled are handled or wait. -/
private theorem counted_append {handled : UInt64} {pending scheduled refused : Nat}
    (due late : Nat)
    (h : handled + UInt64.ofNat pending = UInt64.ofNat (scheduled + refused)) :
    handled + UInt64.ofNat due + UInt64.ofNat (pending + late) =
      UInt64.ofNat (scheduled + (due + late) + refused) := by
  have hsum : scheduled + (due + late) + refused = scheduled + refused + due + late := by omega
  rw [hsum, UInt64.ofNat_add, UInt64.ofNat_add, UInt64.ofNat_add, ← h]
  ac_rfl

/-- A frame that is not scheduled counts as dropped. -/
private theorem FollowsJournal.refusing {plane : FrameGate γ} (h : FollowsJournal vswitch journal)
    {frameData : Bytes} {sender : Endpoint} {now : Int}
    (hfate : vswitch.fate plane frameData sender now = none) :
    FollowsJournal (vswitch.processFrame plane frameData sender now)
      (journal.process sender now none) := by
  have hspec := vswitch.processFrame_spec plane frameData sender now
  have hpending : (vswitch.processFrame plane frameData sender now).pending = vswitch.pending := by
    rw [hspec.pending, hfate]
    exact List.append_nil _
  exact
    { sent := by
        rw [hspec.sent, hfate]
        exact (List.append_nil _).trans h.sent
      pending := hpending.trans h.pending
      scheduled := h.scheduled
      punctual := h.punctual
      counted := by
        have hcounted : vswitch.handled + UInt64.ofNat vswitch.pending.length = _ := h.counted
        have hone : (vswitch.processFrame plane frameData sender now).handled =
            vswitch.handled + 1 := by
          rw [hspec.handled, hfate]
        show (vswitch.processFrame plane frameData sender now).handled + _ =
          UInt64.ofNat (journal.scheduled.length + (journal.refused + 1))
        rw [hone, hpending, ← Nat.add_assoc, UInt64.ofNat_add, ← hcounted]
        show _ = _ + 1
        ac_rfl }

/-- The copies of a frame that is scheduled leave now or wait. -/
private theorem FollowsJournal.scheduling {plane : FrameGate γ} (h : FollowsJournal vswitch journal)
    {frameData : Bytes} {sender : Endpoint} {now : Int} {deliveries : List ScheduledDelivery}
    (hfate : vswitch.fate plane frameData sender now = some deliveries) :
    FollowsJournal (vswitch.processFrame plane frameData sender now)
      (journal.process sender now (some deliveries)) := by
  have hspec := vswitch.processFrame_spec plane frameData sender now
  have hhandled := hspec.handled
  have hmap : (journal.nextCopies sender deliveries).map FrameCopy.delivery = deliveries := by
    simp only [Journal.nextCopies, List.map_map]
    exact List.map_id _
  have hpending : (vswitch.processFrame plane frameData sender now).pending =
      vswitch.pending ++ deliveries.filter (·.isLate now) := by
    rw [hspec.pending, hfate, Option.getD_some]
  rw [hfate] at hhandled
  have hprocess : journal.process sender now (some deliveries) =
      { journal.schedule (journal.nextCopies sender deliveries) now with
        frames := journal.frames + 1 } := rfl
  rw [hprocess]
  generalize journal.nextCopies sender deliveries = copies at hmap ⊢
  exact
    { sent := by
        rw [hspec.sent, hfate, Option.getD_some, h.sent, ← hmap, filter_deliveries]
        simp only [Journal.schedule, List.map_append, List.map_map]
        rfl
      pending := by
        rw [hpending, h.pending, ← hmap, filter_deliveries]
        exact List.map_append.symm
      scheduled := by
        -- the copies go behind what was handed over and behind what waits
        simp only [Journal.schedule, List.map_append, map_fst_now]
        refine (h.scheduled.append (perm_due_late now copies)).trans ?_
        simp only [List.append_assoc]
        refine List.Perm.append_left _ ?_
        rw [← List.append_assoc, ← List.append_assoc]
        exact List.perm_append_comm.append_right _
      punctual := punctual_append h.punctual
      counted := by
        show (vswitch.processFrame plane frameData sender now).handled + _ =
          UInt64.ofNat ((journal.scheduled ++ copies).length + journal.refused)
        rw [hhandled, hpending, List.length_append, List.length_append,
          show copies.length = deliveries.length by rw [← hmap, List.length_map],
          length_due_late now deliveries]
        exact counted_append _ _ h.counted }

/-- Processing a frame keeps the books. -/
private theorem FollowsJournal.processed (plane : FrameGate γ) (h : FollowsJournal vswitch journal)
    (frameData : Bytes) (sender : Endpoint) (now : Int) :
    FollowsJournal (vswitch.processFrame plane frameData sender now)
      (journal.process sender now (vswitch.fate plane frameData sender now)) := by
  cases hfate : vswitch.fate plane frameData sender now with
  | none => exact h.refusing hfate
  | some deliveries => exact h.scheduling hfate

/-- Draining keeps the books. -/
private theorem FollowsJournal.drained (h : FollowsJournal vswitch journal) (now : Int) :
    FollowsJournal (vswitch.drainDue now) (journal.drain now) := by
  obtain ⟨delivered, hoffers, heq⟩ := vswitch.drainDue_eq now
  have hwaiting : vswitch.pending.filter (·.isLate now) =
      (journal.waiting.filter (·.delivery.isLate now)).map FrameCopy.delivery := by
    rw [h.pending, filter_deliveries]
  rw [heq]
  exact
    { sent := by
        show delivered.socket.sent = _
        rw [hoffers.sent, h.sent, h.pending, filter_deliveries]
        simp only [Journal.drain, List.map_append, List.map_map]
        rfl
      pending := hwaiting
      scheduled := by
        simp only [Journal.drain, List.map_append, map_fst_now, List.append_assoc]
        exact h.scheduled.trans ((perm_due_late now journal.waiting).append_left _)
      punctual := punctual_append h.punctual
      counted := by
        show delivered.handled + UInt64.ofNat (vswitch.pending.filter (·.isLate now)).length = _
        rw [hoffers.handled, UInt64.add_assoc, ← UInt64.ofNat_add, ← length_due_late now]
        exact h.counted }

end

/-- **A switch does what its journal says.** -/
theorem followsJournal_inductive (plane : FrameGate γ) :
    (journaled plane).Inductive fun state => FollowsJournal state.1 state.2 where
  init := by
    rintro ⟨vswitch, journal⟩ ⟨⟨results, gate, rfl⟩, rfl⟩
    exact ⟨rfl, rfl, List.Perm.nil, fun entry hentry => absurd hentry List.not_mem_nil, rfl⟩
  step := by
    rintro state call state' h hstep
    obtain ⟨hnext, hnote⟩ := TSys.withGhost_step.mp hstep
    obtain ⟨after, journal'⟩ := state'
    obtain rfl : call.perform plane state.1 = after := Option.some.inj hnext
    simp only at hnote
    rw [hnote]
    cases call with
    | processFrame frameData sender now =>
        have hkept := FollowsJournal.processed plane h frameData sender now
        exact ⟨hkept.sent, hkept.pending, hkept.scheduled, hkept.punctual, hkept.counted⟩
    | drainDue now =>
        have hkept := h.drained now
        exact ⟨hkept.sent, hkept.pending, hkept.scheduled, hkept.punctual, hkept.counted⟩
    | tick now => exact ⟨h.sent, h.pending, h.scheduled, h.punctual, h.counted⟩

end WireLab
