import WireLab.Logic.BatchAnalysis
import WireLab.Logic.GroupedBatches
import WireLab.Theorems.Supervision

/-!
# Every frame is analysed once, under its sender

The supervisor's analyzer is watched: it remembers what it is handed
(`PacketAnalyzer.logged`). What it was handed and what is still in the batch are
together the frames that were inspected, in order, each under the number of its
sender, and the number of a sender is its place among the senders in the order
they were first seen (`frames_analysed_once`). The numbers have 32 bits, so two
senders share one once there are more than `2 ^ 32` of them
(`ingress_numbers_repeat`).
-/

namespace WireLab

open Base

variable {α : Type}

/-! ## Watching a supervisor -/

/-- An analyzer that remembers what it is handed. -/
def PacketAnalyzer.logged (analyzer : PacketAnalyzer α) : PacketAnalyzer (α × List PacketView) where
  analyze object views :=
    ((analyzer.analyze object.1 views).1,
      ((analyzer.analyze object.1 views).2, object.2 ++ views))

/-- An analyzer that reports how many packets it was handed. -/
def PacketAnalyzer.Counts (analyzer : PacketAnalyzer α) : Prop :=
  ∀ object views, (∀ view ∈ views, view.bytes.length < 2 ^ 64) →
    (analyzer.analyze object views).1.receivedPackets = .ofNat views.length

/-- The analyzer a supervisor has of its own. -/
def cpuAnalyzer : PacketAnalyzer (List MacAddress) where
  analyze learnedMacs views := (CpuPacketAnalyzer.analyze learnedMacs views).getD ({}, learnedMacs)

theorem cpuAnalyzer_counts : cpuAnalyzer.Counts := by
  intro learnedMacs views hsizes
  show ((CpuPacketAnalyzer.analyze learnedMacs views).getD ({}, learnedMacs)).1.receivedPackets = _
  rw [CpuPacketAnalyzer.analyze_eq hsizes, Option.getD_some,
    (analysisBatch_reports learnedMacs _).receivedPackets, parsedPackets, List.length_map]

/-- The frame a call inspects, and its sender. -/
def SwitchCall.frame : SwitchCall → Option (Bytes × Endpoint)
  | .inspect frameData sender _ _ => some (frameData, sender)
  | .load _ => none
  | .tick _ _ => none

/-- The history variable: the frames inspected so far. -/
def inspected {σ : Type} (frames : List (Bytes × Endpoint)) (_ : σ) (call : SwitchCall) (_ : σ) :
    List (Bytes × Endpoint) :=
  frames ++ call.frame.toList

/-- The number of a sender: its place among the senders, in the order they were
first seen, as 32 bits. -/
def ingressNumber (senders : List Endpoint) (sender : Endpoint) : UInt32 :=
  .ofNat (senders.eraseDups.idxOf sender)

/-- What holds between calls: every sender has its number, what was analysed and
what is in the batch are the frames that were inspected, they are counted, and
the batch has room. -/
structure Analysed (number : Endpoint → UInt32)
    (state : Supervised (α × List PacketView) × List (Bytes × Endpoint)) : Prop where
  numbered : ∀ frame ∈ state.2,
    (state.1.supervisor.bindings.lookup frame.2.toString).map Binding.ingressPort =
      some (number frame.2)
  handed : state.1.supervisor.analyzer.2 ++ state.1.supervisor.batch =
    state.2.map fun frame => { bytes := frame.1, ingressPort := number frame.2 }
  counted : state.1.supervisor.analysedFrames + .ofNat state.1.supervisor.batch.length =
    .ofNat state.2.length
  room : state.1.supervisor.batch.length < state.1.supervisor.config.maxBatchFrames

/-! ## Numbers of senders -/

/-- An endpoint is known by its text: the port is what follows the last colon. -/
theorem Endpoint.toString_inj {endpoint other : Endpoint} (h : endpoint.toString = other.toString) :
    endpoint = other := by
  have hreversed := congrArg List.reverse h
  simp only [Endpoint.toString, List.reverse_append, List.reverse_cons, List.append_assoc,
    List.singleton_append] at hreversed
  have hplain : ∀ n, colon ∉ (decimal n).reverse := fun n hmem =>
    colon_notMem_decimal n (List.mem_reverse.mp hmem)
  obtain ⟨hport, haddress⟩ := split_inj (hplain _) (hplain _) hreversed
  have hport : endpoint.port = other.port :=
    UInt16.toNat_inj.mp (decimal_inj (List.reverse_inj.mp hport))
  have haddress : endpoint.address = other.address := List.reverse_inj.mp haddress
  cases endpoint
  cases other
  rw [Endpoint.mk.injEq]
  exact ⟨haddress, hport⟩

section
variable {senders more : List Endpoint} {sender : Endpoint}

/-- A number lasts. -/
theorem ingressNumber_append (h : sender ∈ senders) :
    ingressNumber (senders ++ more) sender = ingressNumber senders sender := by
  rw [ingressNumber, List.eraseDups_append,
    List.idxOf_append_of_mem (List.mem_eraseDups.mpr h), ingressNumber]

/-- A new sender gets the next number. -/
theorem ingressNumber_new (h : sender ∉ senders) :
    ingressNumber (senders ++ [sender]) sender = .ofNat senders.eraseDups.length ∧
      (senders ++ [sender]).eraseDups.length = senders.eraseDups.length + 1 := by
  have hnew : [sender].removeAll senders = [sender] := by
    simp [List.removeAll, h]
  rw [ingressNumber, List.eraseDups_append, hnew]
  have hfresh : sender ∉ senders.eraseDups := fun hmem => h (List.mem_eraseDups.mp hmem)
  rw [List.idxOf_append_of_notMem hfresh]
  simp [List.eraseDups_cons]

/-- A sender that is known changes no number. -/
theorem eraseDups_known (h : sender ∈ senders) :
    (senders ++ [sender]).eraseDups = senders.eraseDups := by
  have hknown : [sender].removeAll senders = [] := by
    simp [List.removeAll, h]
  rw [List.eraseDups_append, hknown, List.eraseDups_nil, List.append_nil]

/-- Numbers that fit are distinct. -/
theorem ingressNumber_inj {other : Endpoint} (hfew : senders.eraseDups.length ≤ 2 ^ 32)
    (h : sender ∈ senders) (hother : other ∈ senders)
    (hsame : ingressNumber senders sender = ingressNumber senders other) : sender = other := by
  have hlt : ∀ endpoint ∈ senders, senders.eraseDups.idxOf endpoint < 2 ^ 32 := by
    intro endpoint hmem
    have := List.idxOf_lt_length_iff.mpr (List.mem_eraseDups.mpr hmem)
    omega
  have hnat := congrArg UInt32.toNat hsame
  rw [ingressNumber, ingressNumber, UInt32.toNat_ofNat', UInt32.toNat_ofNat',
    Nat.mod_eq_of_lt (hlt _ h), Nat.mod_eq_of_lt (hlt _ hother)] at hnat
  exact (List.idxOf_inj (List.mem_eraseDups.mpr h)).mp hnat

end

/-! ## The calls -/

section
variable {analyzer : PacketAnalyzer α} {supervisor after : SwitchSupervisor (α × List PacketView)}
  {frames : List (Bytes × Endpoint)}

/-- The invariant: `Analysed` by the numbers so far, and a binding for every
sender that was seen. -/
private structure Observing (supervisor : SwitchSupervisor (α × List PacketView))
    (frames : List (Bytes × Endpoint)) : Prop where
  numbered : ∀ sender, (supervisor.bindings.lookup sender.toString).map Binding.ingressPort =
    if sender ∈ frames.map Prod.snd then some (ingressNumber (frames.map Prod.snd) sender) else none
  bound : supervisor.bindings.keys.length = (frames.map Prod.snd).eraseDups.length
  handed : supervisor.analyzer.2 ++ supervisor.batch = frames.map fun frame =>
    { bytes := frame.1, ingressPort := ingressNumber (frames.map Prod.snd) frame.2 }
  counted : supervisor.analysedFrames + .ofNat supervisor.batch.length = .ofNat frames.length

/-- What an analysis does to the frames: it takes the batch, or it leaves it. -/
private structure Flushes (supervisor after : SwitchSupervisor (α × List PacketView)) : Prop where
  bindings : after.bindings = supervisor.bindings
  config : after.config = supervisor.config
  handed : after.analyzer.2 ++ after.batch = supervisor.analyzer.2 ++ supervisor.batch
  counted : after.analysedFrames + .ofNat after.batch.length =
    supervisor.analysedFrames + .ofNat supervisor.batch.length
  left : after.batch = [] ∨ after.batch = supervisor.batch ∧ supervisor.full = false

private theorem Observing.flushes (h : Observing supervisor frames) (hflushes : Flushes supervisor after) :
    Observing after frames := by
  refine ⟨?_, ?_, ?_, ?_⟩
  · rw [hflushes.bindings]
    exact h.numbered
  · rw [hflushes.bindings]
    exact h.bound
  · rw [hflushes.handed]
    exact h.handed
  · rw [hflushes.counted]
    exact h.counted

private theorem Flushes.publish (h : Flushes supervisor after) :
    Flushes supervisor after.publish.2 := by
  unfold SwitchSupervisor.publish
  split
  · exact ⟨h.bindings, h.config, h.handed, h.counted, h.left⟩
  · exact h

/-- **An analysis** hands over the batch, once. -/
private theorem analyse_flushes (hcounts : analyzer.Counts) {now : Int} {outcome : AnalysisOutcome}
    (hsizes : ∀ view ∈ supervisor.batch, view.bytes.length < 2 ^ 64)
    (hanalyse : supervisor.analyse analyzer.logged now = some (outcome, after)) :
    Flushes supervisor after := by
  simp only [SwitchSupervisor.analyse] at hanalyse
  split at hanalyse
  · exact absurd hanalyse (by simp)
  · obtain ⟨_, rfl⟩ := Prod.mk.inj (Option.some.inj hanalyse)
    refine ⟨rfl, rfl, ?_, ?_, .inl rfl⟩
    · exact List.append_nil _
    · have hreceived := hcounts supervisor.analyzer.1 supervisor.batch hsizes
      show supervisor.analysedFrames +
        (analyzer.analyze supervisor.analyzer.1 supervisor.batch).1.receivedPackets + .ofNat 0 = _
      rw [hreceived]
      exact UInt64.add_zero _

/-- **A tick** takes the batch or leaves it, and takes a full one. -/
private theorem tick_flushes (hcounts : analyzer.Counts)
    {served : TopologyController → TopologyController} {now : Int} {outcome : TickOutcome}
    (hsizes : ∀ view ∈ supervisor.batch, view.bytes.length < 2 ^ 64)
    (htick : supervisor.tick analyzer.logged served now = some (outcome, after)) :
    Flushes supervisor after := by
  -- The control plane does not touch the frames.
  have hserve : ∃ controller, supervisor.serve served = { supervisor with controller } := by
    unfold SwitchSupervisor.serve
    split
    · exact ⟨_, rfl⟩
    · exact ⟨supervisor.controller, rfl⟩
  obtain ⟨controller, hserve⟩ := hserve
  simp only [SwitchSupervisor.tick, hserve] at htick
  split at htick
  · next hdue =>
      obtain ⟨_, rfl⟩ := Prod.mk.inj (Option.some.inj htick)
      have hpartial : SwitchSupervisor.full { supervisor with controller } = false := by
        simp only [Bool.not_eq_true', SwitchSupervisor.due, Bool.or_eq_false_iff] at hdue
        exact hdue.2
      exact ⟨rfl, rfl, rfl, rfl, .inr ⟨rfl, hpartial⟩⟩
  · split at htick
    · exact absurd htick (by simp)
    · next analysis supervisor' hanalyse =>
        have hanalysed : Flushes { supervisor with controller } supervisor' :=
          analyse_flushes hcounts hsizes hanalyse
        have hflushes : Flushes supervisor supervisor' :=
          ⟨hanalysed.bindings, hanalysed.config, hanalysed.handed, hanalysed.counted,
            hanalysed.left⟩
        split at htick
        · obtain ⟨_, rfl⟩ := Prod.mk.inj (Option.some.inj htick)
          exact hflushes
        · obtain ⟨_, rfl⟩ := Prod.mk.inj (Option.some.inj htick)
          exact hflushes.publish

/-- Judging a frame does not touch the frames. -/
private theorem judge_same (supervisor : SwitchSupervisor α) (portId frameData : Bytes) (arrival : Int) :
    (supervisor.judge portId frameData arrival).2.bindings = supervisor.bindings ∧
      (supervisor.judge portId frameData arrival).2.config = supervisor.config ∧
      (supervisor.judge portId frameData arrival).2.analyzer = supervisor.analyzer ∧
      (supervisor.judge portId frameData arrival).2.batch = supervisor.batch ∧
      (supervisor.judge portId frameData arrival).2.analysedFrames =
        supervisor.analysedFrames := by
  unfold SwitchSupervisor.judge
  dsimp only
  split
  · exact ⟨rfl, rfl, rfl, rfl, rfl⟩
  · split
    · exact ⟨rfl, rfl, rfl, rfl, rfl⟩
    · exact ⟨rfl, rfl, rfl, rfl, rfl⟩

/-- **Binding** a sender gives it its number and leaves the other numbers. -/
private theorem Observing.bind (h : Observing supervisor frames) (frameData : Bytes)
    (sender : Endpoint) :
    (supervisor.bind sender).1.ingressPort =
        ingressNumber ((frames ++ [(frameData, sender)]).map Prod.snd) sender ∧
      (∀ other, ((supervisor.bind sender).2.bindings.lookup other.toString).map
          Binding.ingressPort =
        if other ∈ (frames ++ [(frameData, sender)]).map Prod.snd then
          some (ingressNumber ((frames ++ [(frameData, sender)]).map Prod.snd) other) else none) ∧
      (supervisor.bind sender).2.bindings.keys.length =
        ((frames ++ [(frameData, sender)]).map Prod.snd).eraseDups.length ∧
      (supervisor.bind sender).2 =
        { supervisor with bindings := (supervisor.bind sender).2.bindings } := by
  rw [List.map_append, List.map_singleton]
  have hsender := h.numbered sender
  unfold SwitchSupervisor.bind
  cases hlookup : supervisor.bindings.lookup sender.toString with
  | some binding =>
      rw [hlookup, Option.map_some] at hsender
      -- a sender that has been seen keeps its number
      have hseen : sender ∈ frames.map Prod.snd := by
        by_contra hnew
        rw [if_neg hnew] at hsender
        exact absurd hsender (by simp)
      rw [if_pos hseen] at hsender
      refine ⟨?_, fun other => ?_, ?_, rfl⟩
      · rw [ingressNumber_append hseen]
        exact Option.some.inj hsender
      · show (supervisor.bindings.lookup other.toString).map Binding.ingressPort = _
        rw [h.numbered other, ingressNumber, ingressNumber, eraseDups_known hseen]
        simp only [List.mem_append, List.mem_singleton]
        have hiff : (other ∈ frames.map Prod.snd ∨ other = sender) ↔
            other ∈ frames.map Prod.snd := or_iff_left_of_imp fun heq => heq ▸ hseen
        simp only [hiff]
      · rw [eraseDups_known hseen]
        exact h.bound
  | none =>
      rw [hlookup, Option.map_none] at hsender
      -- a new sender gets the next one
      have hnew : sender ∉ frames.map Prod.snd := by
        intro hseen
        rw [if_pos hseen] at hsender
        exact absurd hsender (by simp)
      obtain ⟨hnumber, hlength⟩ := ingressNumber_new hnew
      refine ⟨?_, fun other => ?_, ?_, rfl⟩
      · show UInt32.ofNat supervisor.bindings.keys.length = _
        rw [hnumber, h.bound]
      · show ((supervisor.bindings.insert sender.toString _).lookup other.toString).map _ = _
        rw [Dict.lookup_insert]
        by_cases hsame : other = sender
        · subst hsame
          rw [if_pos rfl, if_pos (by simp), hnumber, ← h.bound]
          rfl
        · rw [if_neg fun htext => hsame (Endpoint.toString_inj htext), h.numbered other]
          by_cases hseen : other ∈ frames.map Prod.snd
          · rw [if_pos hseen, if_pos (List.mem_append_left _ hseen), ingressNumber_append hseen]
          · rw [if_neg hseen, if_neg (by simp [hsame, hseen])]
      · show (supervisor.bindings.insert sender.toString _).keys.length = _
        rw [hlength, ← h.bound, AList.keys, AList.keys,
          AList.entries_insert_of_notMem (AList.lookup_eq_none.mp hlookup)]
        rfl

/-- The frames that were handed over keep their numbers. -/
private theorem numbers_append (frame : Bytes × Endpoint) :
    (frames.map fun earlier =>
        PacketView.mk earlier.1 (ingressNumber ((frames ++ [frame]).map Prod.snd) earlier.2)) =
      frames.map fun earlier =>
        PacketView.mk earlier.1 (ingressNumber (frames.map Prod.snd) earlier.2) := by
  refine List.map_congr_left fun earlier hearlier => ?_
  rw [List.map_append, ingressNumber_append (List.mem_map_of_mem hearlier)]

/-- **Recording** puts the frame behind the others, where the batch has room. -/
private theorem Observing.record (h : Observing supervisor frames)
    (hroom : supervisor.batch.length < supervisor.config.maxBatchFrames) (frameData : Bytes)
    (sender : Endpoint) :
    Observing (supervisor.record frameData sender).2 (frames ++ [(frameData, sender)]) ∧
      (supervisor.record frameData sender).2.config = supervisor.config := by
  obtain ⟨hnumber, hnumbered, hbound, hrest⟩ := h.bind frameData sender
  unfold SwitchSupervisor.record
  generalize supervisor.bind sender = bound at hnumber hnumbered hbound hrest ⊢
  obtain ⟨binding, bound⟩ := bound
  dsimp only at hnumber hnumbered hbound hrest ⊢
  have hbatch := congrArg SwitchSupervisor.batch hrest
  have hconfig := congrArg SwitchSupervisor.config hrest
  have hanalyzer := congrArg SwitchSupervisor.analyzer hrest
  have hcount := congrArg SwitchSupervisor.analysedFrames hrest
  dsimp only at hbatch hconfig hanalyzer hcount
  rw [if_pos (by rw [hbatch, hconfig]; exact hroom)]
  refine ⟨⟨hnumbered, hbound, ?_, ?_⟩, hconfig⟩
  · show bound.analyzer.2 ++ (bound.batch ++ _) = _
    rw [hanalyzer, hbatch, ← List.append_assoc, h.handed, List.map_append, numbers_append,
      List.map_singleton, hnumber]
  · show bound.analysedFrames + .ofNat (bound.batch ++ [_]).length = _
    rw [hcount, hbatch, List.length_append, List.length_append, List.length_singleton,
      List.length_singleton, UInt64.ofNat_add, UInt64.ofNat_add, ← UInt64.add_assoc, h.counted]

/-- What an inspection or a tick leaves: the frames watched, and room. -/
private def Roomy (supervisor : SwitchSupervisor (α × List PacketView))
    (frames : List (Bytes × Endpoint)) : Prop :=
  Observing supervisor frames ∧ supervisor.batch.length < supervisor.config.maxBatchFrames ∧
    ∀ frame ∈ frames, frame.1.length < 2 ^ 64

/-- The frames in a batch are as short as those inspected. -/
private theorem Observing.sizes (h : Observing supervisor frames)
    (hsizes : ∀ frame ∈ frames, frame.1.length < 2 ^ 64) :
    ∀ view ∈ supervisor.batch, view.bytes.length < 2 ^ 64 := by
  intro view hview
  have hmem := List.mem_append_right supervisor.analyzer.2 hview
  rw [h.handed, List.mem_map] at hmem
  obtain ⟨frame, hframe, rfl⟩ := hmem
  exact hsizes frame hframe

private theorem Roomy.tick (h : Roomy supervisor frames) (hcounts : analyzer.Counts)
    {served : TopologyController → TopologyController} {now : Int} {outcome : TickOutcome}
    (htick : supervisor.tick analyzer.logged served now = some (outcome, after)) :
    Roomy after frames := by
  obtain ⟨hwatched, hroom, hsizes⟩ := h
  have hflushes := tick_flushes hcounts (hwatched.sizes hsizes) htick
  refine ⟨hwatched.flushes hflushes, ?_, hsizes⟩
  rw [hflushes.config]
  rcases hflushes.left with hempty | ⟨hsame, _⟩
  · rw [hempty, List.length_nil]
    omega
  · rw [hsame]
    exact hroom

/-- **An inspection** records its frame, and leaves room for the next one. -/
private theorem Roomy.inspect (h : Roomy supervisor frames) (hcounts : analyzer.Counts)
    {served : TopologyController → TopologyController} {frameData : Bytes} {sender : Endpoint}
    {arrival : Int} {decision : FaultDecision} {outcome : TickOutcome}
    (hsize : frameData.length < 2 ^ 64)
    (hinspect : supervisor.inspect analyzer.logged served frameData sender arrival =
      some (decision, outcome, after)) :
    Roomy after (frames ++ [(frameData, sender)]) := by
  obtain ⟨hwatched, hroom, hsizes⟩ := h
  obtain ⟨hrecorded, hconfig⟩ := hwatched.record hroom frameData sender
  have hsizes' : ∀ frame ∈ frames ++ [(frameData, sender)], frame.1.length < 2 ^ 64 := by
    intro frame hframe
    rcases List.mem_append.mp hframe with hold | hnew
    · exact hsizes frame hold
    · rw [List.mem_singleton.mp hnew]
      exact hsize
  simp only [SwitchSupervisor.inspect] at hinspect
  split at hinspect
  · exact absurd hinspect (by simp)
  · next outcome' ready hready =>
      simp only [Option.some.injEq, Prod.mk.injEq] at hinspect
      obtain ⟨_, _, rfl⟩ := hinspect
      have hticked : Roomy ready (frames ++ [(frameData, sender)]) := by
        split at hready
        · -- A full batch is taken by the tick, whatever the clock says.
          next hfull =>
            have hflushes := tick_flushes hcounts (hrecorded.sizes hsizes') hready
            refine ⟨hrecorded.flushes hflushes, ?_, hsizes'⟩
            rcases hflushes.left with hempty | ⟨_, hpartial⟩
            · rw [hempty, hflushes.config, hconfig, List.length_nil]
              omega
            · exact absurd (hfull.symm.trans hpartial) (by simp)
        · next hpartial =>
            obtain ⟨_, rfl⟩ := Prod.mk.inj (Option.some.inj hready)
            refine ⟨hrecorded, ?_, hsizes'⟩
            simp only [SwitchSupervisor.full, decide_eq_true_eq] at hpartial
            omega
      obtain ⟨hbindings, hconfig, hanalyzer, hbatch, hcount⟩ :=
        judge_same ready (supervisor.record frameData sender).1.portId frameData arrival
      obtain ⟨hwatched, hroom, _⟩ := hticked
      refine ⟨⟨?_, ?_, ?_, ?_⟩, ?_, hsizes'⟩
      · rw [hbindings]
        exact hwatched.numbered
      · rw [hbindings]
        exact hwatched.bound
      · rw [hanalyzer, hbatch]
        exact hwatched.handed
      · rw [hcount, hbatch]
        exact hwatched.counted
      · rw [hbatch, hconfig]
        exact hroom

end

/-! ## Runs -/

/-- The senders of the frames that some calls inspect. -/
def senders (calls : List SwitchCall) : List Endpoint :=
  (calls.filterMap SwitchCall.frame).map Prod.snd

section
variable {analyzer : PacketAnalyzer α}

/-- What is watched is analysed by the numbers of all the senders of the run. -/
private theorem Roomy.analysed {state : Supervised (α × List PacketView) × List (Bytes × Endpoint)}
    (h : Roomy state.1.supervisor state.2) (more : List Endpoint) :
    Analysed (ingressNumber (state.2.map Prod.snd ++ more)) state := by
  obtain ⟨hwatched, hroom, _⟩ := h
  refine ⟨fun frame hframe => ?_, ?_, hwatched.counted, hroom⟩
  · have hmem : frame.2 ∈ state.2.map Prod.snd := List.mem_map_of_mem hframe
    rw [hwatched.numbered, if_pos hmem, ingressNumber_append hmem]
  · rw [hwatched.handed]
    refine List.map_congr_left fun frame hframe => ?_
    rw [ingressNumber_append (List.mem_map_of_mem hframe)]

private theorem roomy_step (hcounts : analyzer.Counts)
    {state after : Supervised (α × List PacketView) × List (Bytes × Endpoint)} {call : SwitchCall}
    (h : Roomy state.1.supervisor state.2)
    (hsizes : ∀ frame ∈ call.frame, frame.1.length < 2 ^ 64)
    (hstep : ((supervising analyzer.logged).withGhost [] inspected).step state call =
      some after) :
    Roomy after.1.supervisor after.2 ∧ after.2 = state.2 ++ call.frame.toList := by
  obtain ⟨hcall, hframes⟩ := TSys.withGhost_step.mp hstep
  rw [hframes, inspected]
  refine ⟨?_, rfl⟩
  cases call with
  | load topology =>
      rw [← Option.some.inj hcall, SwitchCall.frame, Option.toList_none, List.append_nil]
      obtain ⟨hwatched, hrest⟩ := h
      exact ⟨⟨hwatched.numbered, hwatched.bound, hwatched.handed, hwatched.counted⟩, hrest⟩
  | tick now loads =>
      obtain ⟨⟨outcome, supervisor⟩, htick, hafter⟩ := Option.map_eq_some_iff.mp hcall
      rw [← hafter, SwitchCall.frame, Option.toList_none, List.append_nil]
      exact h.tick hcounts htick
  | inspect frameData sender arrival loads =>
      obtain ⟨⟨decision, outcome, supervisor⟩, hinspect, hafter⟩ := Option.map_eq_some_iff.mp hcall
      rw [← hafter]
      exact h.inspect hcounts (hsizes _ rfl) hinspect

/-- A run keeps every state analysed, by the numbers of all its senders. -/
private theorem roomy_run (hcounts : analyzer.Counts) (calls : List SwitchCall)
    (state : Supervised (α × List PacketView) × List (Bytes × Endpoint))
    (h : Roomy state.1.supervisor state.2)
    (hsizes : ∀ call ∈ calls, ∀ frame ∈ call.frame, frame.1.length < 2 ^ 64) :
    ((supervising analyzer.logged).withGhost [] inspected).States
      (Analysed (ingressNumber (state.2.map Prod.snd ++ senders calls))) state calls := by
  induction calls generalizing state with
  | nil => exact h.analysed _
  | cons call calls ih =>
      refine ⟨h.analysed _, fun after hstep => ?_⟩
      obtain ⟨hafter, hframes⟩ := roomy_step hcounts h (hsizes call (List.mem_cons_self ..)) hstep
      have hsenders : state.2.map Prod.snd ++ senders (call :: calls) =
          after.2.map Prod.snd ++ senders calls := by
        rw [hframes, List.map_append, List.append_assoc]
        refine congrArg (state.2.map Prod.snd ++ ·) ?_
        cases hcall : call.frame with
        | none => rw [senders, List.filterMap_cons_none hcall]; rfl
        | some frame => rw [senders, List.filterMap_cons_some hcall]; rfl
      rw [hsenders]
      exact ih after hafter fun other hother => hsizes other (List.mem_cons_of_mem _ hother)

/-- A supervisor as it is made, watched. -/
def watchedSupervisor (object : α) (pipeline : AnalysisPipeline) (controller : TopologyController)
    (config : SwitchSupervisorConfig) (controlled : Bool) : Supervised (α × List PacketView) where
  supervisor := { SwitchSupervisor.create pipeline controller config (object, []) with controlled }

/-- **Every inspected frame is analysed once, under its sender.** In every run of
inspections, ticks and loads the frames handed to the analyzer and those in the
batch are the frames inspected, in order, each under its sender's number; they
are counted; there is always room in the batch; and a sender has one number in
the whole run, which is its own while there are at most `2 ^ 32` senders. -/
theorem frames_analysed_once (analyzer : PacketAnalyzer α) (hcounts : analyzer.Counts) (object : α)
    (pipeline : AnalysisPipeline) (controller : TopologyController)
    (config : SwitchSupervisorConfig) (controlled : Bool) (hbatch : 1 ≤ config.maxBatchFrames)
    (calls : List SwitchCall)
    (hsizes : ∀ call ∈ calls, ∀ frame ∈ call.frame, frame.1.length < 2 ^ 64) :
    (∃ final, (supervising analyzer.logged).exec
      (watchedSupervisor object pipeline controller config controlled) calls = some final) ∧
    ∃ number : Endpoint → UInt32,
      ((supervising analyzer.logged).withGhost [] inspected).States (Analysed number)
        (watchedSupervisor object pipeline controller config controlled, []) calls ∧
      ((senders calls).eraseDups.length ≤ 2 ^ 32 →
        ∀ sender ∈ senders calls, ∀ other ∈ senders calls,
          number sender = number other → sender = other) := by
  refine ⟨supervising_returns analyzer.logged _ calls, ingressNumber (senders calls), ?_,
    fun hfew sender hsender other hother => ingressNumber_inj hfew hsender hother⟩
  refine roomy_run hcounts calls
    (watchedSupervisor object pipeline controller config controlled, [])
    ⟨⟨fun sender => rfl, rfl, rfl, rfl⟩, ?_, fun frame hframe => ?_⟩ hsizes
  · show 0 < config.maxBatchFrames
    omega
  · exact absurd hframe (List.not_mem_nil)

end

/-- The first frame of two senders, each in a batch of its own. -/
theorem frames_analysed_once_twoSenders :
    ∃ number : Endpoint → UInt32,
      ((supervising cpuAnalyzer.logged).withGhost [] inspected).States (Analysed number)
        (watchedSupervisor [] guardedLab.supervisor.pipeline {} { maxBatchFrames := 1 } false, [])
        [.inspect [1] { address := bytes "a", port := 1 } 5 [],
          .inspect [2] { address := bytes "a", port := 2 } 3 [], .tick 4 []] ∧
      number { address := bytes "a", port := 1 } ≠ number { address := bytes "a", port := 2 } := by
  obtain ⟨_, number, hanalysed, hdistinct⟩ := frames_analysed_once cpuAnalyzer cpuAnalyzer_counts []
    guardedLab.supervisor.pipeline {} { maxBatchFrames := 1 } false (by decide)
    [.inspect [1] { address := bytes "a", port := 1 } 5 [],
      .inspect [2] { address := bytes "a", port := 2 } 3 [], .tick 4 []]
    (by simp [SwitchCall.frame])
  refine ⟨number, hanalysed, fun hsame => ?_⟩
  exact absurd (hdistinct (by decide) _ (by decide) _ (by decide) hsame) (by decide)

/-! ## More senders than numbers -/

/-- A frame from each of `count` senders. -/
def crowd (count : Nat) : List SwitchCall :=
  (List.range count).map fun index => .inspect [] { address := decimal index, port := 1 } 0 []

theorem senders_crowd (count : Nat) :
    senders (crowd count) =
      (List.range count).map fun index => { address := decimal index, port := 1 } := by
  rw [senders, crowd, List.filterMap_map]
  show List.map Prod.snd (List.filterMap (some ∘ fun index =>
    (([] : Bytes), ({ address := decimal index, port := 1 } : Endpoint))) (List.range count)) = _
  rw [List.filterMap_eq_map, List.map_map]
  rfl

/-- **The numbers of senders repeat.** After one frame from each of `2 ^ 32 + 1`
senders two of them have the same number. -/
theorem ingress_numbers_repeat :
    ¬∀ calls : List SwitchCall, ∃ number : Endpoint → UInt32,
      ((supervising cpuAnalyzer.logged).withGhost [] inspected).States (Analysed number)
        (watchedSupervisor [] guardedLab.supervisor.pipeline {} {} false, []) calls ∧
      ∀ sender ∈ senders calls, ∀ other ∈ senders calls,
        number sender = number other → sender = other := by
  intro h
  obtain ⟨number, _, hdistinct⟩ := h (crowd (2 ^ 32 + 1))
  have hinj : ∀ endpoint ∈ senders (crowd (2 ^ 32 + 1)),
      ∀ other ∈ senders (crowd (2 ^ 32 + 1)),
        (number endpoint).toNat = (number other).toNat → endpoint = other :=
    fun endpoint hmem other hother hsame =>
      hdistinct endpoint hmem other hother (UInt32.toNat_inj.mp hsame)
  rw [senders_crowd] at hinj
  -- The numbers of the crowd are that many distinct ones below `2 ^ 32`.
  have hnodup : ((List.range (2 ^ 32 + 1)).map fun index =>
      (number { address := decimal index, port := 1 }).toNat).Nodup := by
    refine List.Nodup.map_on (fun index hindex other hother hsame => ?_) List.nodup_range
    have hendpoint := hinj _ (List.mem_map_of_mem hindex) _ (List.mem_map_of_mem hother) hsame
    exact decimal_inj (congrArg Endpoint.address hendpoint)
  have hbelow : ((List.range (2 ^ 32 + 1)).map fun index =>
      (number { address := decimal index, port := 1 }).toNat) ⊆ List.range (2 ^ 32) := by
    intro value hvalue
    obtain ⟨index, _, rfl⟩ := List.mem_map.mp hvalue
    exact List.mem_range.mpr (UInt32.toNat_lt _)
  have hlength := (List.subperm_of_subset hnodup hbelow).length_le
  rw [List.length_map, List.length_range, List.length_range] at hlength
  omega

end WireLab
