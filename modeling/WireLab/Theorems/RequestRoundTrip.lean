import WireLab.Logic.JsonWriting
import WireLab.Logic.RequestText

/-!
# Requests round-trip

`to_json` and the request parser were written separately: one goes by the command
it knows, the other meets the parameters before or after it. A request is still
read back from its own text, and from every text that says the same with its
members in another order, more blanks, or other spellings of its strings.
-/

namespace WireLab

open Base Base.Json ControlRequestParser

/-! ## What a request says -/

/-- The parts of a fault configuration, in the order they are written. -/
def FaultConfiguration.parameterList (configuration : FaultConfiguration) : List Parameter :=
  [.latency configuration.latency, .jitter configuration.jitter,
    .loss configuration.lossBasisPoints, .duplication configuration.duplicationBasisPoints,
    .bandwidth configuration.bandwidthBitsPerSecond, .blackhole configuration.blackhole,
    .isolated configuration.isolated]

/-- The parameters a command is written with, in their order. -/
def ControlRequest.parameterList (request : ControlRequest) : List Parameter :=
  let benchmark := request.benchmark
  let fault := request.fault
  match request.command with
  | .loadTopology => [.topologyPath request.topology.path]
  | .startBenchmark =>
      [.scenario benchmark.scenario, .backend benchmark.backend, .generator benchmark.generator,
        .batchSize benchmark.batchSize, .durationSeconds benchmark.durationSeconds,
        .seed benchmark.seed, .packetCount benchmark.packetCount, .frameSize benchmark.frameSize]
  | .setPortFault => .portId fault.portId :: fault.configuration.parameterList
  | .setLinkFault =>
      .firstEndpoint fault.firstEndpoint :: .secondEndpoint fault.secondEndpoint ::
        fault.configuration.parameterList
  | .clearPortFault => [.portId fault.portId]
  | .clearLinkFault => [.firstEndpoint fault.firstEndpoint, .secondEndpoint fault.secondEndpoint]
  | .getSwitchState | .getActiveFaults | .getSupervisionState | .stopRun => []

/-- The members a request is written with, around its parameters. -/
def ControlRequest.memberList (request : ControlRequest) (parameters : List Parameter) :
    List RequestMember :=
  [.apiVersion request.apiVersion, .requestId request.requestId, .command request.command,
    .topologyRevision request.topologyRevision] ++
    if parameters.isEmpty then [] else [.parameters parameters]

/-- A text that says `request`: its members and its parameters in any order, each
string in any spelling, and blanks around any token. -/
def ControlRequest.SaidBy (request : ControlRequest) (text : Bytes) : Prop :=
  ∃ parameters all before object after, parameters.Perm request.parameterList ∧
    all.Perm (request.memberList parameters) ∧ Blank before ∧ Blank after ∧
    ObjectText requestMembers all object ∧ text = before ++ (object ++ after)

/-- The fields that the command of a request does not use hold their defaults. -/
def ControlRequest.OthersDefault (request : ControlRequest) : Prop :=
  let fault := request.fault
  match request.command with
  | .loadTopology => request.benchmark = {} ∧ request.fault = {}
  | .startBenchmark => request.topology = {} ∧ request.fault = {}
  | .setPortFault =>
      request.benchmark = {} ∧ request.topology = {} ∧ fault.firstEndpoint = [] ∧
        fault.secondEndpoint = []
  | .setLinkFault => request.benchmark = {} ∧ request.topology = {} ∧ fault.portId = []
  | .clearPortFault =>
      request.benchmark = {} ∧ request.topology = {} ∧ fault.firstEndpoint = [] ∧
        fault.secondEndpoint = [] ∧ fault.configuration = {}
  | .clearLinkFault =>
      request.benchmark = {} ∧ request.topology = {} ∧ fault.portId = [] ∧
        fault.configuration = {}
  | .getSwitchState | .getActiveFaults | .getSupervisionState | .stopRun =>
      request.benchmark = {} ∧ request.topology = {} ∧ request.fault = {}

/-- Milliseconds, some or none, that nanoseconds can hold. -/
def WholeMilliseconds (nanoseconds : Int) : Prop :=
  ∃ n : Nat, nanoseconds = n * 1000000 ∧ nanoseconds < 2 ^ 63

/-! ## The text of a request -/

theorem WholeMilliseconds.text {nanoseconds : Int} (h : WholeMilliseconds nanoseconds) :
    MillisecondsText nanoseconds (jsonInt (milliseconds nanoseconds)) := by
  obtain ⟨n, rfl, hbound⟩ := h
  have hdiv : milliseconds (n * 1000000) = n := Int.mul_tdiv_cancel _ (by decide)
  refine ⟨n, ?_, by omega, ?_⟩
  · rw [hdiv, jsonInt, if_neg (by omega), Int.natAbs_natCast]
    exact decimal_numeral n
  · exact (Int.bmod_eq_of_le (by omega) (by omega)).symm

private theorem members_written {configuration : FaultConfiguration}
    (hlatency : WholeMilliseconds configuration.latency)
    (hjitter : WholeMilliseconds configuration.jitter) :
    List.Forall₂ (WritesMember parameterMembers) configuration.parameterList configuration.members :=
  .cons ⟨rfl, hlatency.text⟩ <| .cons ⟨rfl, hjitter.text⟩ <|
    .cons ⟨rfl, decimal_numeral _⟩ <| .cons ⟨rfl, decimal_numeral _⟩ <|
    .cons ⟨rfl, decimal_numeral _⟩ <| .cons ⟨rfl, jsonBool_text _⟩ <|
    .cons ⟨rfl, jsonBool_text _⟩ .nil

/-- The parameters are written in their order. -/
theorem ControlRequest.parameters_written {request : ControlRequest}
    (hlatency : WholeMilliseconds request.fault.configuration.latency)
    (hjitter : WholeMilliseconds request.fault.configuration.jitter) :
    List.Forall₂ (WritesMember parameterMembers) request.parameterList request.parameters := by
  unfold ControlRequest.parameterList ControlRequest.parameters
  cases request.command with
  | loadTopology => exact .cons ⟨rfl, jsonString_text _⟩ .nil
  | startBenchmark =>
      exact .cons ⟨rfl, jsonString_text _⟩ <| .cons ⟨rfl, jsonString_text _⟩ <|
        .cons ⟨rfl, jsonString_text _⟩ <| .cons ⟨rfl, decimal_numeral _⟩ <|
        .cons ⟨rfl, decimal_numeral _⟩ <| .cons ⟨rfl, decimal_numeral _⟩ <|
        .cons ⟨rfl, decimal_numeral _⟩ <| .cons ⟨rfl, decimal_numeral _⟩ .nil
  | setPortFault => exact .cons ⟨rfl, jsonString_text _⟩ (members_written hlatency hjitter)
  | setLinkFault =>
      exact .cons ⟨rfl, jsonString_text _⟩ <| .cons ⟨rfl, jsonString_text _⟩ <|
        members_written hlatency hjitter
  | clearPortFault => exact .cons ⟨rfl, jsonString_text _⟩ .nil
  | clearLinkFault =>
      exact .cons ⟨rfl, jsonString_text _⟩ <| .cons ⟨rfl, jsonString_text _⟩ .nil
  | getSwitchState => exact .nil
  | getActiveFaults => exact .nil
  | getSupervisionState => exact .nil
  | stopRun => exact .nil

private theorem isEmpty_congr {α β : Type} {l : List α} {l' : List β}
    (h : l.length = l'.length) : l.isEmpty = l'.isEmpty := by
  rw [Bool.eq_iff_iff, List.isEmpty_iff_length_eq_zero, List.isEmpty_iff_length_eq_zero, h]

/-- A request's own text says it. -/
theorem ControlRequest.saidBy_toJson {request : ControlRequest}
    (hlatency : WholeMilliseconds request.fault.configuration.latency)
    (hjitter : WholeMilliseconds request.fault.configuration.jitter) :
    request.SaidBy request.toJson := by
  have hparameters := request.parameters_written hlatency hjitter
  have hempty : request.parameters.isEmpty = request.parameterList.isEmpty :=
    isEmpty_congr hparameters.length_eq.symm
  refine ⟨request.parameterList, request.memberList request.parameterList, [], request.toJson, [],
    .refl _, .refl _, blank_nil, blank_nil, jsonObject_text ?_, by simp⟩
  have hlast : List.Forall₂ (WritesMember requestMembers)
      (if request.parameterList.isEmpty then [] else [.parameters request.parameterList])
      (if request.parameters.isEmpty then []
        else [("parameters", jsonObject request.parameters)]) := by
    rw [hempty]
    split
    · exact .nil
    · exact .cons ⟨rfl, jsonObject_text hparameters⟩ .nil
  exact .cons ⟨rfl, decimal_numeral _⟩ <| .cons ⟨rfl, jsonString_text _⟩ <|
    .cons ⟨rfl, jsonString_text _⟩ <| .cons ⟨rfl, decimal_numeral _⟩ hlast

/-! ## Reading it -/

/-- Each parameter is written once. -/
theorem ControlRequest.parameterList_nodup (request : ControlRequest) :
    (request.parameterList.map Parameter.name).Nodup := by
  unfold ControlRequest.parameterList FaultConfiguration.parameterList
  cases request.command <;> dsimp only [List.map, Parameter.name] <;> decide

/-- Each member is written once. -/
theorem ControlRequest.memberList_nodup (request : ControlRequest) (parameters : List Parameter) :
    ((request.memberList parameters).map RequestMember.name).Nodup := by
  unfold ControlRequest.memberList
  split <;>
    simp only [List.cons_append, List.nil_append, List.append_nil, List.map_cons, List.map_nil,
      RequestMember.name] <;>
    decide

/-- At the start every parameter may be given. -/
private theorem parameter_fresh (a : Parameter) : Parameter.fresh {} a := by
  cases a <;> rfl

/-- The members are fresh in any order. -/
private theorem members_fresh {request : ControlRequest} {parameters : List Parameter}
    {all : List RequestMember} (hparameters : parameters.Perm request.parameterList)
    (hall : all.Perm (request.memberList parameters)) :
    FreshAll RequestMember.fresh RequestMember.set {} all := by
  refine RequestMember.freshAll_iff.mpr ⟨fun a ha => ?_, ?_⟩
  · have hmem := hall.mem_iff.mp ha
    cases a with
    | parameters given =>
        refine ⟨rfl, Parameter.freshAll_iff.mpr ⟨fun a _ => parameter_fresh a, ?_⟩⟩
        obtain rfl : given = parameters := by
          unfold ControlRequest.memberList at hmem
          split at hmem <;> simp at hmem
          exact hmem
        exact (hparameters.map _).nodup_iff.mpr request.parameterList_nodup
    | apiVersion => rfl
    | requestId => rfl
    | command => rfl
    | topologyRevision => rfl
  · exact (hall.map _).nodup_iff.mpr (request.memberList_nodup parameters)

/-- The members in their order make the request again. -/
private theorem finish_memberList {request : ControlRequest} (hothers : request.OthersDefault) :
    finish ((request.memberList request.parameterList).foldl RequestMember.set {}) =
      .ok request := by
  obtain ⟨apiVersion, requestId, command, topologyRevision, benchmark, topology, fault⟩ := request
  cases command
  all_goals
    simp only [ControlRequest.memberList, ControlRequest.parameterList,
      FaultConfiguration.parameterList, List.isEmpty_cons, List.isEmpty_nil, Bool.false_eq_true,
      if_true, if_false, List.cons_append, List.nil_append, List.append_nil, List.foldl_cons,
      List.foldl_nil, RequestMember.set, RequestState.withRequest, Parameter.set, Parameter.store,
      Parameter.note]
  case loadTopology =>
    obtain ⟨rfl, rfl⟩ := hothers
    rfl
  case startBenchmark =>
    obtain ⟨rfl, rfl⟩ := hothers
    rfl
  case setPortFault =>
    obtain ⟨portId, firstEndpoint, secondEndpoint, configuration⟩ := fault
    obtain ⟨rfl, rfl, rfl, rfl⟩ := hothers
    rfl
  case setLinkFault =>
    obtain ⟨portId, firstEndpoint, secondEndpoint, configuration⟩ := fault
    obtain ⟨rfl, rfl, rfl⟩ := hothers
    rfl
  case clearPortFault =>
    obtain ⟨portId, firstEndpoint, secondEndpoint, configuration⟩ := fault
    obtain ⟨rfl, rfl, rfl, rfl, rfl⟩ := hothers
    rfl
  case clearLinkFault =>
    obtain ⟨portId, firstEndpoint, secondEndpoint, configuration⟩ := fault
    obtain ⟨rfl, rfl, rfl, rfl⟩ := hothers
    rfl
  -- The other commands have no parameters.
  all_goals
    obtain ⟨rfl, rfl, rfl⟩ := hothers
    rfl

/-- The order of the parameters does not matter. -/
private theorem foldl_parameters {request : ControlRequest} {parameters : List Parameter}
    (hparameters : parameters.Perm request.parameterList) (state : RequestState) :
    (request.memberList parameters).foldl RequestMember.set state =
      (request.memberList request.parameterList).foldl RequestMember.set state := by
  have hfold (state : ParameterState) : parameters.foldl Parameter.set state =
      request.parameterList.foldl Parameter.set state :=
    foldl_set_perm parameterMembers Parameter.set_comm hparameters
      ((hparameters.map _).nodup_iff.mpr request.parameterList_nodup) state
  have hempty : parameters.isEmpty = request.parameterList.isEmpty :=
    isEmpty_congr hparameters.length_eq
  unfold ControlRequest.memberList
  rw [hempty]
  split
  · rfl
  · simp only [List.foldl_append, List.foldl_cons, List.foldl_nil, RequestMember.set, hfold]

/-- **A request is read from every text that says it.** -/
private theorem parse_saidBy {request : ControlRequest} (hothers : request.OthersDefault)
    {text : Bytes} (hsaid : request.SaidBy text) : controlRequestFromJson text = .ok request := by
  obtain ⟨parameters, all, before, object, after, hparameters, hall, hbefore, hafter, hobject,
    rfl⟩ := hsaid
  refine parse_iff.mpr ⟨all, before, object, after, hbefore, hafter, hobject,
    members_fresh hparameters hall, ?_, rfl⟩
  have hnodup := (hall.map _).nodup_iff.mpr (request.memberList_nodup parameters)
  have hfold : all.foldl RequestMember.set {} =
      (request.memberList parameters).foldl RequestMember.set {} :=
    foldl_set_perm requestMembers RequestMember.set_comm hall hnodup {}
  rw [hfold, foldl_parameters hparameters]
  exact finish_memberList hothers

/-- **Requests round-trip.** -/
theorem request_round_trip (request : ControlRequest) (hothers : request.OthersDefault)
    (hlatency : WholeMilliseconds request.fault.configuration.latency)
    (hjitter : WholeMilliseconds request.fault.configuration.jitter) :
    controlRequestFromJson request.toJson = .ok request ∧ request.SaidBy request.toJson ∧
      ∀ text, request.SaidBy text → controlRequestFromJson text = .ok request := by
  have hsaid := request.saidBy_toJson hlatency hjitter
  exact ⟨parse_saidBy hothers hsaid, hsaid, fun _ => parse_saidBy hothers⟩

/-- A fault on a link whose names need escapes. -/
private def linkFault : ControlRequest where
  requestId := bytes "r\"1"
  command := .setLinkFault
  topologyRevision := 3
  fault := {
    firstEndpoint := bytes "h1\n"
    secondEndpoint := bytes "sw"
    configuration := { latency := 5000000, lossBasisPoints := 10, isolated := true } }

theorem request_round_trip_linkFault :
    controlRequestFromJson linkFault.toJson = .ok linkFault ∧ linkFault.SaidBy linkFault.toJson ∧
      ∀ text, linkFault.SaidBy text → controlRequestFromJson text = .ok linkFault :=
  request_round_trip linkFault ⟨rfl, rfl, rfl⟩ ⟨5, rfl, by decide⟩ ⟨0, rfl, by decide⟩

/-- The parameters come first, and a name is spelled with a code. -/
example :
    controlRequestFromJson (bytes ("\x7b \"parameters\":\x7b\"port_id\":\"\\u0068\\u0031\"\x7d," ++
      "\"topology_revision\": 2, \"command\":\"clear_port_fault\"," ++
      "\"request_id\":\"a\",\"api_version\":1\x7d\n")) =
      .ok { requestId := bytes "a", command := .clearPortFault, topologyRevision := 2,
            fault := { portId := bytes "h1" } } := by
  decide +kernel

end WireLab
