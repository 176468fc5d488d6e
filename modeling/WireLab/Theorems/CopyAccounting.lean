import WireLab.Logic.FrameJournal

/-!
# No frame copy is lost, duplicated or early

The journal of a run says which copies were scheduled, handed over and deferred,
by what each frame amounts to and by the clock; the switch keeps the books it says
(`copies_accounted`).
-/

namespace WireLab

open Base

variable {γ : Type}

/-- A wait ends in time: it is not negative, and no longer than what is left until
any copy is due. -/
structure WaitsInTime (plane : FrameGate γ) (vswitch : VSwitch γ) (now : Int) : Prop where
  nonneg : 0 ≤ vswitch.waitBudget plane now
  short : ∀ copy ∈ vswitch.pending,
    vswitch.waitBudget plane now * 1000000 ≤ max 0 (copy.due - now)

/-- Cutting a time to whole milliseconds does not make it longer. -/
private theorem tdiv_milliseconds_le (time : Int) : time.tdiv 1000000 * 1000000 ≤ max 0 time := by
  rcases Int.le_total 0 time with hpos | hneg
  · rw [Int.tdiv_eq_ediv_of_nonneg hpos]
    have := Int.ediv_mul_le time (show (1000000 : Int) ≠ 0 by decide)
    omega
  · have hcut : (-time).tdiv 1000000 = -(time.tdiv 1000000) := Int.neg_tdiv _ _
    have hquotient : 0 ≤ (-time).tdiv 1000000 := Int.tdiv_nonneg (by omega) (by decide)
    omega

/-- The smallest of some deadlines is at most each of them. -/
private theorem foldl_min_le (deadline : ScheduledDelivery → Int) (copies : List ScheduledDelivery)
    (budget : Int) :
    copies.foldl (fun budget copy => min budget (deadline copy)) budget ≤ budget ∧
      ∀ copy ∈ copies,
        copies.foldl (fun budget copy => min budget (deadline copy)) budget ≤ deadline copy := by
  induction copies generalizing budget with
  | nil => exact ⟨le_refl _, fun copy hcopy => absurd hcopy List.not_mem_nil⟩
  | cons first copies ih =>
      obtain ⟨hbudget, hdeadlines⟩ := ih (min budget (deadline first))
      refine ⟨hbudget.trans (min_le_left _ _), ?_⟩
      intro copy hcopy
      rcases List.mem_cons.mp hcopy with rfl | hcopy
      · exact hbudget.trans (min_le_right _ _)
      · exact hdeadlines copy hcopy

/-- Every wait ends in time. -/
private theorem waits_in_time (plane : FrameGate γ) (vswitch : VSwitch γ) (now : Int) :
    WaitsInTime plane vswitch now := by
  have hleast := foldl_min_le (fun copy => (copy.due - now).tdiv 1000000) vswitch.pending
    ((vswitch.gate.map plane.tickInterval).getD 250)
  constructor
  · simp only [VSwitch.waitBudget]
    split
    · exact le_refl 0
    · next h => exact Int.not_lt.mp h
  · intro copy hcopy
    have hdeadline := hleast.2 copy hcopy
    have hcut := tdiv_milliseconds_le (copy.due - now)
    simp only [VSwitch.waitBudget]
    split
    · omega
    · omega

/-- **No frame copy is lost, duplicated or early**, whatever calls are made with
whatever clock readings, and whichever sends fail: every copy that was scheduled was
handed over once, when it was due, or still waits, and the counters say so; draining
leaves nothing that is due; and no wait outlasts a deadline. -/
theorem copies_accounted (plane : FrameGate γ) :
    (journaled plane).Invariant fun state =>
      FollowsJournal state.1 state.2 ∧
        ∀ now, (∀ copy ∈ (state.1.drainDue now).pending, now < copy.due) ∧
          WaitsInTime plane state.1 now := by
  intro state hreachable
  refine ⟨(followsJournal_inductive plane).invariant state hreachable, fun now => ⟨?_, ?_⟩⟩
  · intro copy hcopy
    obtain ⟨delivered, _, heq⟩ := state.1.drainDue_eq now
    rw [heq] at hcopy
    exact of_decide_eq_true (List.mem_filter.mp hcopy).2
  · exact waits_in_time plane state.1 now

end WireLab
