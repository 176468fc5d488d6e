import WireLab.Logic.BenchmarkOperations
import WireLab.Logic.Lab

/-!
# The lifecycle of a benchmark operation

Starts, stops and slices come from different clients in any order. What is told of an
operation is a start without progress, progress that never goes back, and one result
when it ends; between its start and its result, and only then, its run is active.
-/

namespace WireLab

open Base

variable {β τ : Type}

/-- A slice with something to do, timed by a clock that counts nanoseconds in 63 bits. -/
structure TimedSlice where
  latencyNs : Nat → UInt64
  sliceNs : UInt64
  budget : UInt64
  positive : 0 < budget
  short : sliceNs.toNat < 2 ^ 63

/-- An accepted start, the slices its run was given, and the events until the next. -/
structure Operation where
  request : ControlRequest
  id : Bytes
  slices : List TimedSlice := []
  events : List ControlEvent

/-- A service, its operations so far and all events it produced. -/
structure Bench (β τ : Type) where
  service : ControlService β τ
  past : List Operation := []
  current : Option Operation := none
  events : List ControlEvent := []

/-- A call, with the controller as it is then. -/
inductive BenchCall
  | dispatch (controller : TopologyController) (env : Environment) (json : Bytes)
  | advance (controller : TopologyController) (slice : TimedSlice)
  | analysis (controller : TopologyController) (outcome : AnalysisOutcome)

/-- The events that tell of an operation. -/
def toldOf (events : List ControlEvent) : List ControlEvent :=
  events.filter fun event => event.operationId?.isSome

/-- The operations, in the order of their starts. -/
def Bench.operations (bench : Bench β τ) : List Operation := bench.past ++ bench.current.toList

/-- Events are put down to the operation that was started last. -/
def Bench.emit (bench : Bench β τ) (service : ControlService β τ) (events : List ControlEvent) :
    Bench β τ where
  service
  past := bench.past
  current := bench.current.map fun op => { op with events := op.events ++ toldOf events }
  events := bench.events ++ events

/-- A slice is put down to the operation whose run it advances. -/
def Bench.give (bench : Bench β τ) (slice : TimedSlice) : Bench β τ :=
  if bench.service.benchmarkActive then
    { bench with current := bench.current.map fun op => { op with slices := op.slices ++ [slice] } }
  else bench

/-- A service that has not run a benchmark yet, with calls in any order. -/
def benching (β τ : Type) : TSys (Bench β τ) BenchCall where
  init bench := bench.service.benchmarkRun = none ∧ bench.service.nextBenchmarkId = 1 ∧
    bench.past = [] ∧ bench.current = none ∧ bench.events = []
  step bench
    | .dispatch controller env json =>
        (bench.service.dispatch controller env json).map fun (dispatch, service, _) =>
          match startedBy json dispatch.reply with
          | some request =>
              { service
                past := bench.operations
                current := some
                  { request, id := dispatch.reply.operationId, events := toldOf dispatch.events }
                events := bench.events ++ dispatch.events }
          | none => bench.emit service dispatch.events
    | .advance controller slice =>
        let (dispatch, service) := bench.service.advanceBenchmark controller slice.latencyNs
          slice.sliceNs slice.budget
        some ((bench.give slice).emit service dispatch.events)
    | .analysis controller outcome =>
        let (dispatch, service) := bench.service.analysisEvents controller outcome
        some (bench.emit service dispatch.events)

/-! ## Sound operations -/

namespace Operation

/-- How long the slices of an operation took. -/
def elapsedNs (op : Operation) : Nat := (op.slices.map (·.sliceNs.toNat)).sum

/-- The time the request gave is over. -/
def OutOfTime (op : Operation) : Prop :=
  op.request.benchmark.durationSeconds ≠ 0 ∧
    op.request.benchmark.durationSeconds.toNat * 1000000000 ≤ op.elapsedNs

/-- What the events of an operation say. -/
structure Tells (op : Operation) (progress : List BenchmarkProgressEvent)
    (results : List BenchmarkResultEvent) : Prop where
  events : op.events = progress.map .benchmarkProgress ++ results.map .benchmarkResult
  started : progress.head?.map (·.completedPackets) = some 0
  onwards : progress.Pairwise fun earlier later => earlier.completedPackets ≤ later.completedPackets
  within : ∀ event ∈ progress, event.operationId = op.id ∧
    event.totalPackets = op.request.benchmark.packetCount ∧
    event.completedPackets ≤ event.totalPackets
  results : ∀ event ∈ results, event.operationId = op.id ∧
    progress.getLast?.map (·.completedPackets) = some event.result.completedPackets ∧
    event.result.totalPackets = op.request.benchmark.packetCount ∧
    (event.completed = true ↔
      event.result.completedPackets = event.result.totalPackets ∨ op.OutOfTime)

/-- An operation is told of until its one result, which ends its run. -/
def Sound (op : Operation) (active : Bool) : Prop :=
  ∃ progress results, op.Tells progress results ∧ results.length = if active then 0 else 1

end Operation

/-- The operation whose run is active. -/
structure Runs (service : ControlService β τ) (run : BenchmarkRun β τ) (op : Operation) : Prop where
  sized : Sized run
  unfinished : run.finished = false
  packets : run.config.packetCount = op.request.benchmark.packetCount
  named : service.benchmarkOperationId = op.id
  deadline : service.benchmarkDeadlineNs = op.request.benchmark.durationSeconds.toUInt64 * 1000000000
  elapsed : op.request.benchmark.durationSeconds ≠ 0 → run.elapsedNs.toNat = op.elapsedNs
  inTime : ¬ op.OutOfTime
  tells : ∃ progress, op.Tells progress [] ∧
    progress.getLast?.map (·.completedPackets) = some run.completedPackets ∧
    ∀ event ∈ progress, event.completedPackets ≤ run.completedPackets

/-- A sound history of operations. -/
structure Told (bench : Bench β τ) : Prop where
  past : ∀ op ∈ bench.past, op.Sound false
  idle : bench.service.benchmarkRun = none → ∀ op, bench.current = some op → op.Sound false
  active : ∀ run, bench.service.benchmarkRun = some run →
    ∃ op, bench.current = some op ∧ Runs bench.service run op
  events : toldOf bench.events = bench.operations.flatMap Operation.events
  ids : ∀ index op, bench.operations[index]? = some op →
    op.id = bytes "benchmark-" ++ decimal ((index + 1) % 2 ^ 64)
  next : bench.service.nextBenchmarkId.toNat = (bench.operations.length + 1) % 2 ^ 64

section
variable {bench bench' : Bench β τ} {op : Operation} {run : BenchmarkRun β τ}
  {service' : ControlService β τ}

theorem toldOf_append (events later : List ControlEvent) :
    toldOf (events ++ later) = toldOf events ++ toldOf later :=
  List.filter_append events later

theorem toldOf_silent {events : List ControlEvent} (h : Silent events) : toldOf events = [] := by
  refine List.filter_eq_nil_iff.mpr fun event hevent => ?_
  rw [h event hevent]
  exact Bool.false_ne_true

/-- What is told since the last start is told of the last operation. -/
theorem operations_emit (bench : Bench β τ) (service' : ControlService β τ)
    {events : List ControlEvent} (hlast : bench.current = none → toldOf events = []) :
    ((bench.emit service' events).operations.flatMap Operation.events =
        bench.operations.flatMap Operation.events ++ toldOf events) ∧
      (bench.emit service' events).operations.map Operation.id = bench.operations.map Operation.id := by
  cases hcurrent : bench.current with
  | none => simp [Bench.operations, Bench.emit, hcurrent, hlast hcurrent]
  | some op => simp [Bench.operations, Bench.emit, hcurrent, List.flatMap_append]

/-- Ids are those of the starts so far. -/
theorem ids_of_map {operations operations' : List Operation}
    (hsame : operations'.map Operation.id = operations.map Operation.id)
    (hids : ∀ index op, operations[index]? = some op →
      op.id = bytes "benchmark-" ++ decimal ((index + 1) % 2 ^ 64)) :
    ∀ index op, operations'[index]? = some op →
      op.id = bytes "benchmark-" ++ decimal ((index + 1) % 2 ^ 64) := by
  intro index op hop
  have hid : (operations'.map Operation.id)[index]? = some op.id := by
    rw [List.getElem?_map, hop]
    rfl
  rw [hsame, List.getElem?_map] at hid
  obtain ⟨op', hop', hid'⟩ := Option.map_eq_some_iff.mp hid
  rw [← hid', hids index op' hop']

/-- A call that does not touch the benchmark. -/
theorem Told.silent (h : Told bench) (hsame : SameBenchmark bench.service service')
    {events : List ControlEvent} (hsilent : Silent events) : Told (bench.emit service' events) := by
  have hnothing := toldOf_silent hsilent
  obtain ⟨hevents, hids⟩ := operations_emit bench service' fun _ => hnothing
  have hcurrent : (bench.emit service' events).current = bench.current := by
    simp [Bench.emit, hnothing]
  refine ⟨h.past, fun hidle op hop => ?_, fun run hrun => ?_, ?_, ids_of_map hids h.ids, ?_⟩
  · exact h.idle (hsame.benchmarkRun.symm.trans hidle) op (hcurrent ▸ hop)
  · obtain ⟨op, hop, hruns⟩ := h.active run (hsame.benchmarkRun.symm.trans hrun)
    exact ⟨op, hcurrent.trans hop, { hruns with
      named := hsame.benchmarkOperationId.trans hruns.named
      deadline := hsame.benchmarkDeadlineNs.trans hruns.deadline }⟩
  · rw [hevents, ← h.events]
    exact toldOf_append _ _
  · have hlength := congrArg List.length hids
    rw [List.length_map, List.length_map] at hlength
    rw [hlength, ← h.next]
    exact congrArg UInt64.toNat hsame.nextBenchmarkId

/-- More is told of the last operation. -/
theorem Told.more (h : Told bench) {op' : Operation} {events : List ControlEvent}
    (hcurrent : bench.current = some op) (hid : op'.id = op.id)
    (hevents : op'.events = op.events ++ toldOf events)
    (hnext : service'.nextBenchmarkId = bench.service.nextBenchmarkId)
    (hidle : service'.benchmarkRun = none → op'.Sound false)
    (hactive : ∀ run, service'.benchmarkRun = some run → Runs service' run op') :
    Told ({ service := service', past := bench.past, current := some op'
            events := bench.events ++ events } : Bench β τ) := by
  have hids : (bench.past ++ [op']).map Operation.id = bench.operations.map Operation.id := by
    simp [Bench.operations, hcurrent, hid]
  refine ⟨h.past, fun hnone op hop => ?_, fun run hrun => ⟨op', rfl, hactive run hrun⟩, ?_,
    ids_of_map hids h.ids, ?_⟩
  · obtain rfl := Option.some.inj hop
    exact hidle hnone
  · rw [toldOf_append, h.events]
    simp [Bench.operations, hcurrent, hevents]
  · have hlength := congrArg List.length hids
    rw [List.length_map, List.length_map] at hlength
    show service'.nextBenchmarkId.toNat = ((bench.past ++ [op']).length + 1) % 2 ^ 64
    rw [hlength, ← h.next, hnext]

/-- **A start**: the operations before it have ended. -/
theorem Told.started (h : Told bench) (hidle : bench.service.benchmarkRun = none)
    {events : List ControlEvent} (hevents : op.events = toldOf events)
    (hid : op.id = bytes "benchmark-" ++ decimal bench.service.nextBenchmarkId.toNat)
    (hnext : service'.nextBenchmarkId = bench.service.nextBenchmarkId + 1)
    (hrun : service'.benchmarkRun = some run) (hruns : Runs service' run op) :
    Told ({ service := service', past := bench.operations, current := some op
            events := bench.events ++ events } : Bench β τ) := by
  refine ⟨fun earlier hearlier => ?_, fun hnone => ?_, fun run' hrun' => ⟨op, rfl, ?_⟩, ?_,
    fun index op' hop' => ?_, ?_⟩
  · rcases List.mem_append.mp hearlier with hpast | hlast
    · exact h.past earlier hpast
    · exact h.idle hidle earlier (by simpa using hlast)
  · rw [hrun] at hnone
    contradiction
  · obtain rfl := Option.some.inj (hrun.symm.trans hrun')
    exact hruns
  · rw [toldOf_append, h.events]
    simp [Bench.operations, hevents]
  · have hoperations : (bench.operations ++ [op])[index]? = some op' := hop'
    rcases Nat.lt_trichotomy index bench.operations.length with hless | rfl | hmore
    · rw [List.getElem?_append_left hless] at hoperations
      exact h.ids index op' hoperations
    · rw [List.getElem?_append_right le_rfl, Nat.sub_self] at hoperations
      obtain rfl := Option.some.inj hoperations
      rw [hid, h.next]
    · rw [List.getElem?_eq_none (by simp; omega)] at hoperations
      contradiction
  · show service'.nextBenchmarkId.toNat = ((bench.operations ++ [op]).length + 1) % 2 ^ 64
    rw [hnext, UInt64.toNat_add, h.next, List.length_append, List.length_singleton]
    exact Nat.mod_add_mod _ _ _

/-! ## One operation -/

/-- An operation that has just been started. -/
theorem runs_started {service : ControlService β τ} {progress : BenchmarkProgressEvent}
    (hsized : Sized run) (hleft : run.finished = false)
    (hpackets : run.config.packetCount = op.request.benchmark.packetCount)
    (hcompleted : run.completedPackets = 0) (helapsed : run.elapsedNs = 0)
    (hslices : op.slices = []) (hevents : op.events = [.benchmarkProgress progress])
    (hid : progress.operationId = op.id) (hzero : progress.completedPackets = 0)
    (htotal : progress.totalPackets = run.config.packetCount)
    (hnamed : service.benchmarkOperationId = op.id)
    (hdeadline : service.benchmarkDeadlineNs =
      op.request.benchmark.durationSeconds.toUInt64 * 1000000000) :
    Runs service run op := by
  refine ⟨hsized, hleft, hpackets, hnamed, hdeadline, fun _ => ?_, ?_, [progress], ⟨hevents, ?_, ?_,
    ?_, ?_⟩, ?_, ?_⟩
  · rw [helapsed, Operation.elapsedNs, hslices]
    rfl
  · rintro ⟨hlimited, hover⟩
    have hpositive : 0 < op.request.benchmark.durationSeconds.toNat := UInt32.pos_iff_ne_zero.mpr hlimited
    simp only [Operation.elapsedNs, hslices, List.map_nil, List.sum_nil] at hover
    omega
  · simp [hzero]
  · exact List.pairwise_singleton _ _
  · intro event hevent
    obtain rfl := List.mem_singleton.mp hevent
    refine ⟨hid, htotal.trans hpackets, ?_⟩
    rw [hzero]
    exact UInt64.zero_le
  · simp
  · simp [hzero, hcompleted]
  · intro event hevent
    obtain rfl := List.mem_singleton.mp hevent
    rw [hzero]
    exact UInt64.zero_le

/-- A run that is stopped was neither finished nor out of time. -/
theorem Runs.stopped {service : ControlService β τ} (h : Runs service run op)
    {result : BenchmarkResultEvent} (hid : result.operationId = service.benchmarkOperationId)
    (hstopped : result.completed = false)
    (hcompleted : result.result.completedPackets = run.completedPackets)
    (htotal : result.result.totalPackets = run.config.packetCount) :
    ({ op with events := op.events ++ [.benchmarkResult result] } : Operation).Sound false := by
  obtain ⟨progress, htells, hlast, -⟩ := h.tells
  refine ⟨progress, [result], ⟨?_, htells.started, htells.onwards, htells.within, ?_⟩, rfl⟩
  · simp [htells.events]
  · intro event hevent
    obtain rfl := List.mem_singleton.mp hevent
    refine ⟨hid.trans h.named, hlast.trans (congrArg some hcompleted.symm), htotal.trans h.packets, ?_⟩
    have hleft := (finished_eq_false run).mp h.unfinished
    constructor
    · intro hdone
      rw [hstopped] at hdone
      contradiction
    · rintro (hall | hover)
      · rw [hcompleted, htotal] at hall
        rw [hall] at hleft
        exact absurd hleft (Nat.lt_irrefl _)
      · exact absurd hover h.inTime

/-- An operation that has been given a slice, and the event of it. -/
def Operation.sliced (op : Operation) (slice : TimedSlice) (events : List ControlEvent) : Operation :=
  { op with slices := op.slices ++ [slice], events := op.events ++ events }

theorem elapsedNs_sliced (op : Operation) (slice : TimedSlice) (events : List ControlEvent) :
    (op.sliced slice events).elapsedNs = op.elapsedNs + slice.sliceNs.toNat := by
  simp [Operation.sliced, Operation.elapsedNs]

/-- The sum of the slices' times does not wrap before the run is out of time. -/
theorem Runs.elapsed_slice {service : ControlService β τ} {run' : BenchmarkRun β τ}
    (h : Runs service run op) {slice : TimedSlice} (helapsed : run'.elapsedNs = run.elapsedNs + slice.sliceNs)
    (events : List ControlEvent) :
    (op.request.benchmark.durationSeconds ≠ 0 →
      run'.elapsedNs.toNat = (op.sliced slice events).elapsedNs) ∧
    (service.OutOfTime run' ↔ (op.sliced slice events).OutOfTime) := by
  have hdeadline : service.benchmarkDeadlineNs.toNat =
      op.request.benchmark.durationSeconds.toNat * 1000000000 := by
    have hseconds := op.request.benchmark.durationSeconds.toNat_lt
    rw [h.deadline, UInt64.toNat_mul, UInt32.toNat_toUInt64]
    exact Nat.mod_eq_of_lt (by simp only [UInt64.reduceToNat]; omega)
  have hsum : op.request.benchmark.durationSeconds ≠ 0 →
      run'.elapsedNs.toNat = (op.sliced slice events).elapsedNs := by
    intro hlimited
    have hbefore := h.elapsed hlimited
    have hseconds := op.request.benchmark.durationSeconds.toNat_lt
    have hshort := slice.short
    have hintime : op.elapsedNs < op.request.benchmark.durationSeconds.toNat * 1000000000 :=
      not_le.mp fun hover => h.inTime ⟨hlimited, hover⟩
    rw [elapsedNs_sliced, helapsed, UInt64.toNat_add, hbefore]
    exact Nat.mod_eq_of_lt (by omega)
  have hlimit : service.benchmarkDeadlineNs ≠ 0 ↔ op.request.benchmark.durationSeconds ≠ 0 := by
    rw [← UInt64.pos_iff_ne_zero, ← UInt32.pos_iff_ne_zero, UInt64.lt_iff_toNat_lt,
      UInt32.lt_iff_toNat_lt, hdeadline]
    show 0 < _ ↔ 0 < _
    omega
  refine ⟨hsum, ?_⟩
  rw [ControlService.OutOfTime, Operation.OutOfTime, hlimit, UInt64.le_iff_toNat_le, hdeadline]
  refine and_congr_right fun hlimited => ?_
  rw [hsum hlimited]
  rfl

/-- What is told of an operation whose run got on. -/
theorem Runs.tells_slice {service : ControlService β τ} {run' : BenchmarkRun β τ}
    (h : Runs service run op) {slice : TimedSlice} {event : BenchmarkProgressEvent}
    (hsized : Sized run') (hconfig : run'.config = run.config)
    (hprogress : run.completedPackets.toNat ≤ run'.completedPackets.toNat)
    (hid : event.operationId = service.benchmarkOperationId)
    (hcompleted : event.completedPackets = run'.completedPackets)
    (htotal : event.totalPackets = run.config.packetCount) :
    ∃ progress, (op.sliced slice [.benchmarkProgress event]).Tells progress [] ∧
      progress.getLast?.map (·.completedPackets) = some run'.completedPackets ∧
      ∀ earlier ∈ progress, earlier.completedPackets ≤ run'.completedPackets := by
  obtain ⟨progress, htells, hlast, hearlier⟩ := h.tells
  have hall : ∀ earlier ∈ progress, earlier.completedPackets ≤ run'.completedPackets :=
    fun earlier hmem => UInt64.le_trans (hearlier earlier hmem) (UInt64.le_iff_toNat_le.mpr hprogress)
  refine ⟨progress ++ [event], ⟨?_, ?_, ?_, ?_, by simp⟩, by simp [hcompleted], ?_⟩
  · simp [Operation.sliced, htells.events]
  · rw [List.head?_append_of_ne_nil]
    · exact htells.started
    · rintro rfl
      simp at hlast
  · refine List.pairwise_append.mpr ⟨htells.onwards, List.pairwise_singleton _ _, ?_⟩
    intro earlier hmem later hlater
    obtain rfl := List.mem_singleton.mp hlater
    rw [hcompleted]
    exact hall earlier hmem
  · intro told htold
    rcases List.mem_append.mp htold with hold | hnew
    · exact htells.within told hold
    · obtain rfl := List.mem_singleton.mp hnew
      refine ⟨hid.trans h.named, htotal.trans h.packets, ?_⟩
      rw [hcompleted, htotal, ← hconfig]
      exact UInt64.le_iff_toNat_le.mpr hsized.completed
  · intro told htold
    rcases List.mem_append.mp htold with hold | hnew
    · exact hall told hold
    · obtain rfl := List.mem_singleton.mp hnew
      rw [hcompleted]
      exact UInt64.le_refl _

/-! ## Every call -/

/-- A run that got on and goes on. -/
theorem Runs.going {service service' : ControlService β τ} {run' : BenchmarkRun β τ}
    (h : Runs service run op) {slice : TimedSlice} {event : BenchmarkProgressEvent}
    (hsized : Sized run') (hconfig : run'.config = run.config)
    (helapsed : run'.elapsedNs = run.elapsedNs + slice.sliceNs)
    (hprogress : run.completedPackets.toNat ≤ run'.completedPackets.toNat)
    (hleft : run'.finished = false) (hintime : ¬ service.OutOfTime run')
    (hid : event.operationId = service.benchmarkOperationId)
    (hcompleted : event.completedPackets = run'.completedPackets)
    (htotal : event.totalPackets = run.config.packetCount)
    (hnamed : service'.benchmarkOperationId = service.benchmarkOperationId)
    (hdeadline : service'.benchmarkDeadlineNs = service.benchmarkDeadlineNs) :
    Runs service' run' (op.sliced slice [.benchmarkProgress event]) := by
  obtain ⟨hsum, hlimit⟩ := h.elapsed_slice helapsed [.benchmarkProgress event]
  exact
    { sized := hsized
      unfinished := hleft
      packets := (congrArg (·.packetCount) hconfig).trans h.packets
      named := hnamed.trans h.named
      deadline := hdeadline.trans h.deadline
      elapsed := hsum
      inTime := fun hover => hintime (hlimit.mpr hover)
      tells := h.tells_slice hsized hconfig hprogress hid hcompleted htotal }

/-- A run that has ended by itself. -/
theorem Runs.ended {service : ControlService β τ} {run' : BenchmarkRun β τ}
    (h : Runs service run op) {slice : TimedSlice} {event : BenchmarkProgressEvent}
    {result : BenchmarkResultEvent} (hsized : Sized run') (hconfig : run'.config = run.config)
    (helapsed : run'.elapsedNs = run.elapsedNs + slice.sliceNs)
    (hprogress : run.completedPackets.toNat ≤ run'.completedPackets.toNat)
    (hends : run'.finished = true ∨ service.OutOfTime run')
    (hid : event.operationId = service.benchmarkOperationId)
    (hcompleted : event.completedPackets = run'.completedPackets)
    (htotal : event.totalPackets = run.config.packetCount)
    (hid' : result.operationId = service.benchmarkOperationId) (hdone : result.completed = true)
    (hcompleted' : result.result.completedPackets = run'.completedPackets)
    (htotal' : result.result.totalPackets = run.config.packetCount) :
    (op.sliced slice [.benchmarkProgress event, .benchmarkResult result]).Sound false := by
  obtain ⟨-, hlimit⟩ :=
    h.elapsed_slice helapsed [.benchmarkProgress event, .benchmarkResult result]
  have htells : ∃ progress, (op.sliced slice [.benchmarkProgress event]).Tells progress [] ∧ _ :=
    h.tells_slice hsized hconfig hprogress hid hcompleted htotal
  obtain ⟨progress, ⟨hevents, hstarted, honwards, hwithin, -⟩, hlast, -⟩ := htells
  refine ⟨progress, [result], ⟨?_, hstarted, honwards, hwithin, ?_⟩, rfl⟩
  · simp only [Operation.sliced, List.map_nil, List.append_nil] at hevents ⊢
    rw [← hevents, List.append_assoc]
    rfl
  · intro told htold
    obtain rfl := List.mem_singleton.mp htold
    refine ⟨hid'.trans h.named, hlast.trans (congrArg some hcompleted'.symm), htotal'.trans h.packets,
      fun _ => hends.imp (fun hfinished => ?_) hlimit.mp, fun _ => hdone⟩
    have hall := (finished_eq_true run').mp hfinished
    have hmost := hsized.completed
    rw [hcompleted', htotal', ← hconfig]
    exact UInt64.toNat_inj.mp (by omega)

/-- **Every call** keeps the history of operations sound. -/
theorem told_step (h : Told bench) {call : BenchCall}
    (hstep : (benching β τ).step bench call = some bench') : Told bench' := by
  cases call with
  | dispatch controller env json =>
      obtain ⟨⟨dispatch, service', controller'⟩, hdispatch, rfl⟩ := Option.map_eq_some_iff.mp hstep
      dsimp only
      cases dispatch_benchmark hdispatch with
      | aside haside hstart =>
          rw [hstart]
          exact h.silent haside.same haside.silent
      | started hidle hstart hsized hleft hpackets hcompleted helapsed hid hevents hnamed hzero htotal
          hrun hname hdeadline hnext =>
          rw [hstart]
          dsimp only at hid hevents hnamed hrun hname hdeadline hnext ⊢
          refine h.started hidle rfl hid hnext hrun (runs_started hsized hleft hpackets hcompleted
            helapsed rfl ?_ hnamed hzero htotal hname hdeadline)
          rw [hevents]
          rfl
      | stopped hactive hstart hevents hid hstopped hcompleted htotal hnone hnext =>
          rw [hstart]
          obtain ⟨op, hcurrent, hruns⟩ := h.active _ hactive
          have hsound := hruns.stopped hid hstopped hcompleted htotal
          dsimp only at hevents hnone hnext
          simp only [Bench.emit, hcurrent, Option.map_some, hevents]
          refine h.more hcurrent rfl rfl hnext (fun _ => hsound) fun run hrun => ?_
          rw [hnone] at hrun
          contradiction
  | advance controller slice =>
      have hbench' : (bench.give slice).emit
          (bench.service.advanceBenchmark controller slice.latencyNs slice.sliceNs slice.budget).2
          (bench.service.advanceBenchmark controller slice.latencyNs slice.sliceNs
            slice.budget).1.events = bench' := Option.some.inj hstep
      cases hactive : bench.service.benchmarkRun with
      | none =>
          rw [← hbench']
          simp only [ControlService.advanceBenchmark, Bench.give, ControlService.benchmarkActive,
            hactive, Option.isSome_none, Bool.false_eq_true, if_false]
          exact h.silent (.refl _) fun event hevent => absurd hevent (List.not_mem_nil)
      | some run =>
          obtain ⟨op, hcurrent, hruns⟩ := h.active run hactive
          obtain ⟨run', hsized, hconfig, helapsed, hprogress, heffect⟩ :=
            advanceBenchmark_effect hactive hruns.sized hruns.unfinished controller slice.latencyNs
              slice.sliceNs slice.positive
          rw [← hbench']
          generalize bench.service.advanceBenchmark controller slice.latencyNs slice.sliceNs
            slice.budget = out at heffect ⊢
          have hgive : ∀ events, (bench.give slice).emit out.2 events =
              { service := out.2, past := bench.past
                current := some (op.sliced slice (toldOf events)), events := bench.events ++ events } := by
            intro events
            simp [Bench.give, ControlService.benchmarkActive, hactive, Bench.emit, hcurrent,
              Operation.sliced]
          rw [hgive]
          cases heffect with
          | ended hends hevents hid hcompleted htotal hid' hdone hcompleted' htotal' hnone hnext =>
              rw [hevents]
              refine h.more hcurrent rfl rfl hnext (fun _ => hruns.ended hsized hconfig helapsed
                hprogress hends hid hcompleted htotal hid' hdone hcompleted' htotal') fun run hrun => ?_
              rw [hnone] at hrun
              contradiction
          | going hleft hintime hevents hid hcompleted htotal hrun hnamed hdeadline hnext =>
              rw [hevents]
              refine h.more hcurrent rfl rfl hnext (fun hnone => ?_) fun run'' hrun'' => ?_
              · rw [hrun] at hnone
                contradiction
              · obtain rfl := Option.some.inj (hrun.symm.trans hrun'')
                exact hruns.going hsized hconfig helapsed hprogress hleft hintime hid hcompleted htotal
                  hnamed hdeadline
  | analysis controller outcome =>
      have hbench' : bench.emit (bench.service.analysisEvents controller outcome).2
          (bench.service.analysisEvents controller outcome).1.events = bench' := Option.some.inj hstep
      rw [← hbench']
      refine h.silent ?_ ?_
      · simp only [ControlService.analysisEvents]
        split <;> exact ⟨rfl, rfl, rfl, rfl⟩
      · intro event hevent
        simp only [AnalysisEventDispatch.events, List.mem_append, List.mem_map] at hevent
        rcases hevent with (⟨_, -, rfl⟩ | ⟨_, -, rfl⟩) | ⟨_, -, rfl⟩ <;> rfl

theorem told_reachable (h : (benching β τ).Reachable bench) : Told bench := by
  refine TSys.Inductive.invariant (T := benching β τ)
    ⟨fun start hinit => ?_, fun _ _ _ hbefore hstep => told_step hbefore hstep⟩ bench h
  obtain ⟨hidle, hnext, hpast, hcurrent, hevents⟩ := hinit
  have hnone : start.operations = [] := by rw [Bench.operations, hpast, hcurrent]; rfl
  refine ⟨?_, ?_, fun run hrun => ?_, ?_, ?_, ?_⟩
  · rw [hpast]; simp
  · rw [hcurrent]; simp
  · rw [hidle] at hrun
    contradiction
  · rw [hevents, hnone]; rfl
  · rw [hnone]; simp
  · rw [hnone, hnext]; rfl

end

/-- What a history of operations says: each has been told of soundly, and only the last
can have an active run. -/
structure Lifecycle (bench : Bench β τ) : Prop where
  past : ∀ op ∈ bench.past, op.Sound false
  current : ∀ op, bench.current = some op → op.Sound bench.service.benchmarkActive
  idle : bench.current = none → bench.service.benchmarkActive = false
  events : toldOf bench.events = bench.operations.flatMap Operation.events
  ids : ∀ index op, bench.operations[index]? = some op →
    op.id = bytes "benchmark-" ++ decimal ((index + 1) % 2 ^ 64)
  distinct : ∀ (index index' : Nat) (op op' : Operation), bench.operations[index]? = some op →
    bench.operations[index']? = some op' → (op.id = op'.id ↔ index % 2 ^ 64 = index' % 2 ^ 64)
  own : ∀ (index : Nat) (op : Operation), bench.operations[index]? = some op →
    (∀ (index' : Nat) (op' : Operation), bench.operations[index']? = some op' → op'.id = op.id → index' = index) →
      bench.events.filter (fun event => event.operationId? = some op.id) = op.events

/-- All events of an operation carry its id. -/
theorem Operation.Sound.named {op : Operation} {active : Bool} (h : op.Sound active) :
    ∀ event ∈ op.events, event.operationId? = some op.id := by
  obtain ⟨progress, results, htells, -⟩ := h
  intro event hevent
  rw [htells.events, List.mem_append, List.mem_map, List.mem_map] at hevent
  rcases hevent with ⟨told, htold, rfl⟩ | ⟨told, htold, rfl⟩
  · exact congrArg some (htells.within told htold).1
  · exact congrArg some (htells.results told htold).1

/-- The events with an id that one operation has are that operation's. -/
theorem filter_own {operations : List Operation} {index : Nat} {op : Operation}
    (hnamed : ∀ op ∈ operations, ∀ event ∈ op.events, event.operationId? = some op.id)
    (hop : operations[index]? = some op)
    (hunique : ∀ (index' : Nat) (op' : Operation), operations[index']? = some op' → op'.id = op.id → index' = index) :
    (operations.flatMap Operation.events).filter (fun event => event.operationId? = some op.id) =
      op.events := by
  induction operations generalizing index with
  | nil => simp at hop
  | cons first operations ih =>
      obtain ⟨hfirst, hrest⟩ := List.forall_mem_cons.mp hnamed
      rw [List.flatMap_cons, List.filter_append]
      cases index with
      | zero =>
          obtain rfl : first = op := Option.some.inj hop
          have hothers : ∀ event ∈ operations.flatMap Operation.events,
              ¬ event.operationId? = some first.id := by
            intro event hevent hid
            obtain ⟨other, hother, hmem⟩ := List.mem_flatMap.mp hevent
            obtain ⟨position, hposition⟩ := List.getElem?_of_mem hother
            rw [hrest other hother event hmem] at hid
            have := hunique (position + 1) other hposition (Option.some.inj hid)
            omega
          rw [List.filter_eq_self.mpr fun event hevent => by simpa using hfirst event hevent,
            List.filter_eq_nil_iff.mpr fun event hevent => by simpa using hothers event hevent,
            List.append_nil]
      | succ index =>
          have hother : first.id ≠ op.id := by
            intro hid
            have := hunique 0 first rfl hid
            omega
          rw [List.filter_eq_nil_iff.mpr fun event hevent => by
              rw [hfirst event hevent]
              simpa using hother, List.nil_append]
          refine ih hrest hop fun index' op' hop' hid => ?_
          have := hunique (index' + 1) op' hop' hid
          omega

/-- **The lifecycle of a benchmark operation**, whatever the calls and their order, on any
devices and any factories. -/
theorem benchmark_lifecycle (bench : Bench β τ) (h : (benching β τ).Reachable bench) :
    Lifecycle bench := by
  have htold := told_reachable h
  have hcurrent : ∀ op, bench.current = some op → op.Sound bench.service.benchmarkActive := by
    intro op hop
    rw [ControlService.benchmarkActive]
    cases hrun : bench.service.benchmarkRun with
    | none => exact htold.idle hrun op hop
    | some run =>
        obtain ⟨op', hop', hruns⟩ := htold.active run hrun
        obtain rfl := Option.some.inj (hop.symm.trans hop')
        obtain ⟨progress, htells, -⟩ := hruns.tells
        exact ⟨progress, [], htells, rfl⟩
  have hnamed : ∀ op ∈ bench.operations, ∀ event ∈ op.events, event.operationId? = some op.id := by
    intro op hop
    rcases List.mem_append.mp hop with hpast | hlast
    · exact (htold.past op hpast).named
    · exact (hcurrent op (by simpa using hlast)).named
  refine ⟨htold.past, hcurrent, fun hnone => ?_, htold.events, htold.ids,
    fun index index' op op' hop hop' => ?_, fun index op hop hunique => ?_⟩
  · rw [ControlService.benchmarkActive]
    cases hrun : bench.service.benchmarkRun with
    | none => rfl
    | some run =>
        obtain ⟨op, hop, -⟩ := htold.active run hrun
        rw [hnone] at hop
        contradiction
  · rw [htold.ids index op hop, htold.ids index' op' hop']
    constructor
    · intro hid
      have := decimal_inj (List.append_cancel_left hid)
      omega
    · intro hmod
      rw [Nat.add_mod, hmod, ← Nat.add_mod]
  · have hevents : bench.events.filter (fun event => event.operationId? = some op.id) =
        (toldOf bench.events).filter (fun event => event.operationId? = some op.id) := by
      rw [toldOf, List.filter_filter]
      refine List.filter_congr fun event _ => ?_
      cases hid : event.operationId? with
      | none => simp
      | some id => simp
    rw [hevents, htold.events]
    exact filter_own hnamed hop hunique

/-! ## Runs of the lab -/

def stopLab : Bytes := labRequest 0 "stop_run" []

/-- What `benchmarkLab` asks for. -/
def labBenchmark : BenchmarkParameters where
  scenario := bytes "mixed-traffic"
  packetCount := 100
  durationSeconds := 1

theorem benchmarkLab_parses : controlRequestFromJson (benchmarkLab 100) =
    .ok { requestId := bytes "r1", command := .startBenchmark, benchmark := labBenchmark } := by
  decide +kernel

theorem stopLab_parses : controlRequestFromJson stopLab =
    .ok { requestId := bytes "r1", command := .stopRun } := by
  decide +kernel

/-- The lab's service, between benchmarks. -/
structure LabIdle (service : ControlService Unit Unit) : Prop where
  cpu : service.cpu = labDevices
  bound : service.bound = true
  backends : service.benchmarkBackends = none
  sources : service.trafficSources = none
  idle : service.benchmarkRun = none

theorem LabIdle.start {bench : Bench Unit Unit} (h : LabIdle bench.service) :
    ∃ bench' run, (benching Unit Unit).step bench (.dispatch {} labEnv (benchmarkLab 100)) =
        some bench' ∧ LabIdle { bench'.service with benchmarkRun := none } ∧
      bench'.service.benchmarkRun = some run ∧
      bench'.operations.length = bench.operations.length + 1 := by
  have hadmits : bench.service.admits {} (benchmarkLab 100) =
      some { requestId := bytes "r1", command := .startBenchmark, benchmark := labBenchmark } := by
    exact ControlService.admits_eq_some.mpr ⟨benchmarkLab_parses, by decide, (if_pos h.bound).symm⟩
  have hscenario : trafficScenarioFromString labBenchmark.scenario = .ok .mixed := by decide +kernel
  have hcreate : BenchmarkRun.create labEnv.allocates (ControlService.benchmarkConfig labBenchmark .mixed)
      (some (cpuBenchmarkBackendFactory labDevices)) (some (cpuTrafficSourceFactory labDevices)) =
        some (.ok { config := ControlService.benchmarkConfig labBenchmark .mixed
                    backend := labDevices.analyzer, analyzer := ()
                    source := labDevices.source
                      (ControlService.benchmarkConfig labBenchmark .mixed).traffic }) := rfl
  simp only [benching, dispatch_of_admits hadmits, ControlService.execute,
    ControlService.startBenchmark, h.idle, Option.isSome_none, Bool.false_eq_true, if_false,
    hscenario, h.backends, h.sources, Option.getD_none, h.cpu, hcreate]
  simp only [Option.map_some, startedBy, benchmarkLab_parses, ControlService.accept, and_self, if_true]
  refine ⟨_, _, rfl, ⟨rfl, h.bound, rfl, rfl, rfl⟩, rfl, ?_⟩
  exact List.length_append

theorem LabIdle.stop {bench : Bench Unit Unit} {run : BenchmarkRun Unit Unit}
    (h : LabIdle { bench.service with benchmarkRun := none })
    (hrun : bench.service.benchmarkRun = some run) :
    ∃ bench', (benching Unit Unit).step bench (.dispatch {} labEnv stopLab) = some bench' ∧
      LabIdle bench'.service ∧ bench'.operations.length = bench.operations.length := by
  have hadmits : bench.service.admits {} stopLab =
      some { requestId := bytes "r1", command := .stopRun } := by
    exact ControlService.admits_eq_some.mpr ⟨stopLab_parses, by decide, (if_pos h.bound).symm⟩
  simp only [benching, dispatch_of_admits hadmits, ControlService.execute, ControlService.stopRun,
    hrun, Option.map_some, startedBy, stopLab_parses, reduceCtorEq, false_and, if_false]
  refine ⟨_, rfl, ⟨h.cpu, h.bound, h.backends, h.sources, rfl⟩, ?_⟩
  simp only [Bench.operations, Bench.emit, List.length_append]
  cases bench.current <;> rfl

/-- Some benchmarks that are started and stopped. -/
def rounds : Nat → List BenchCall
  | 0 => []
  | count + 1 =>
      .dispatch {} labEnv (benchmarkLab 100) :: .dispatch {} labEnv stopLab :: rounds count

theorem LabIdle.rounds {bench : Bench Unit Unit} (h : LabIdle bench.service) (count : Nat) :
    ∃ bench', (benching Unit Unit).exec bench (rounds count) = some bench' ∧
      bench'.operations.length = bench.operations.length + count := by
  induction count generalizing bench with
  | zero => exact ⟨bench, rfl, rfl⟩
  | succ count ih =>
      obtain ⟨started, run, hstart, hidle, hrun, hlength⟩ := h.start
      obtain ⟨stopped, hstop, hidle', hlength'⟩ := hidle.stop hrun
      obtain ⟨bench', hexec, hlength''⟩ := ih hidle'
      refine ⟨bench', ?_, by omega⟩
      simp only [WireLab.rounds, TSys.exec, hstart, hstop, Option.bind_some, hexec]

theorem rounds_reachable (count : Nat) :
    ∃ bench, (benching Unit Unit).exec { service := labService } (rounds count) = some bench ∧
      (benching Unit Unit).Reachable bench ∧ bench.operations.length = count := by
  have hidle : LabIdle labService := ⟨rfl, rfl, rfl, rfl, rfl⟩
  have hrounds : ∃ bench, (benching Unit Unit).exec { service := labService } (rounds count) =
      some bench ∧ bench.operations.length = 0 + count := LabIdle.rounds hidle _
  obtain ⟨bench, hexec, hlength⟩ := hrounds
  exact ⟨bench, hexec, .exec (.init ⟨rfl, rfl, rfl, rfl, rfl⟩) hexec, by omega⟩

/-- A benchmark of the lab that is started and stopped. -/
theorem benchmark_lifecycle_stoppedLab :
    ∃ bench, (benching Unit Unit).exec { service := labService } (rounds 1) = some bench ∧
      bench.operations.length = 1 ∧ Lifecycle bench := by
  obtain ⟨bench, hexec, hreachable, hlength⟩ := rounds_reachable 1
  exact ⟨bench, hexec, hlength, benchmark_lifecycle bench hreachable⟩

/-- **An id comes back** after 2 ^ 64 starts: that of the first operation is the last one's. -/
theorem operation_id_comes_back :
    ∃ calls bench, (benching Unit Unit).exec { service := labService } calls = some bench ∧
      ∃ (first later : Nat) (op op' : Operation), first ≠ later ∧
        bench.operations[first]? = some op ∧ bench.operations[later]? = some op' ∧ op.id = op'.id := by
  obtain ⟨bench, hexec, hreachable, hlength⟩ := rounds_reachable (2 ^ 64 + 1)
  have htold := told_reachable hreachable
  have hfirst := List.getElem?_eq_getElem (show 0 < bench.operations.length by omega)
  have hlater := List.getElem?_eq_getElem (show 2 ^ 64 < bench.operations.length by omega)
  refine ⟨_, bench, hexec, 0, 2 ^ 64, _, _, by decide, hfirst, hlater, ?_⟩
  rw [htold.ids _ _ hfirst, htold.ids _ _ hlater]
  rfl

end WireLab
