import WireLab.Base.JsonSyntax
import WireLab.Logic.RequestText

/-!
# The request parser accepts only its grammar

What the parser accepts is an object with the members it knows, each once, and the
parameters its command takes. As a text it is JSON but for one thing: a numeral
may begin with zeros, which JSON does not allow. That is all the parser lets
through, so an accepted text is JSON exactly if no numeral of it does.
-/

namespace WireLab

open Base Base.Json JsonScanner ControlRequestParser

/-! ## The parameters of a command -/

def faultParameters : List Bytes :=
  [bytes "latency_ms", bytes "jitter_ms", bytes "loss_basis_points",
    bytes "duplication_basis_points", bytes "bandwidth_bits_per_second", bytes "blackhole",
    bytes "isolated"]

/-- The parameters a command cannot do without. -/
def ControlCommand.required : ControlCommand → List Bytes
  | .loadTopology => [bytes "topology_path"]
  | .startBenchmark =>
      [bytes "scenario", bytes "backend", bytes "batch_size", bytes "duration_seconds",
        bytes "seed"]
  | .setPortFault => bytes "port_id" :: faultParameters
  | .clearPortFault => [bytes "port_id"]
  | .setLinkFault => bytes "first_endpoint" :: bytes "second_endpoint" :: faultParameters
  | .clearLinkFault => [bytes "first_endpoint", bytes "second_endpoint"]
  | .getSwitchState | .getActiveFaults | .getSupervisionState | .stopRun => []

/-- The parameters a command takes. -/
def ControlCommand.allowed (command : ControlCommand) : List Bytes :=
  match command with
  | .startBenchmark =>
      command.required ++ [bytes "generator", bytes "packets", bytes "frame_size"]
  | _ => command.required

/-- A valid set of parameters has only those the command takes. -/
private theorem allowed_of_given {fields : ParameterFields} {command : ControlCommand}
    (hvalid : fields.validFor command = true) {a : Parameter} (ha : a.given fields = true) :
    a.name ∈ command.allowed := by
  cases command <;> cases a <;> dsimp only [Parameter.given] at ha <;> first
    | (dsimp only [Parameter.name]; decide)
    | exact absurd hvalid (by
        simp [ParameterFields.validFor, ParameterFields.hasBenchmark, ParameterFields.hasFault, ha])

/-- A valid set of parameters has those the command requires. -/
private theorem given_of_required {fields : ParameterFields} {command : ControlCommand}
    (hvalid : fields.validFor command = true) :
    ∀ name ∈ command.required, ∃ a : Parameter, a.name = name ∧ a.given fields = true := by
  have hfault : fields.fault = true →
      ∀ name ∈ faultParameters, ∃ a : Parameter, a.name = name ∧ a.given fields = true := by
    intro h
    simp only [ParameterFields.fault, Bool.and_eq_true] at h
    obtain ⟨⟨⟨⟨⟨⟨hlatency, hjitter⟩, hloss⟩, hduplication⟩, hbandwidth⟩, hblackhole⟩, hisolated⟩ := h
    simp only [faultParameters, List.forall_mem_cons]
    exact ⟨⟨.latency 0, rfl, hlatency⟩, ⟨.jitter 0, rfl, hjitter⟩, ⟨.loss 0, rfl, hloss⟩,
      ⟨.duplication 0, rfl, hduplication⟩, ⟨.bandwidth 0, rfl, hbandwidth⟩,
      ⟨.blackhole true, rfl, hblackhole⟩, ⟨.isolated true, rfl, hisolated⟩, by simp⟩
  cases command with
  | loadTopology =>
      simp only [ParameterFields.validFor, Bool.and_eq_true] at hvalid
      simp only [ControlCommand.required, List.forall_mem_cons]
      exact ⟨⟨.topologyPath [], rfl, hvalid.1.1.1.1.1⟩, by simp⟩
  | startBenchmark =>
      simp only [ParameterFields.validFor, ParameterFields.benchmark, Bool.and_eq_true] at hvalid
      obtain ⟨⟨⟨⟨⟨⟨⟨⟨⟨hscenario, hbackend⟩, hbatch⟩, hduration⟩, hseed⟩, _⟩, _⟩, _⟩, _⟩, _⟩ := hvalid
      simp only [ControlCommand.required, List.forall_mem_cons]
      exact ⟨⟨.scenario [], rfl, hscenario⟩, ⟨.backend .cpu, rfl, hbackend⟩,
        ⟨.batchSize 0, rfl, hbatch⟩, ⟨.durationSeconds 0, rfl, hduration⟩, ⟨.seed 0, rfl, hseed⟩,
        by simp⟩
  | setPortFault =>
      simp only [ParameterFields.validFor, Bool.and_eq_true] at hvalid
      obtain ⟨⟨⟨⟨⟨hport, _⟩, hconfiguration⟩, _⟩, _⟩, _⟩ := hvalid
      simp only [ControlCommand.required, List.forall_mem_cons]
      exact ⟨⟨.portId [], rfl, hport⟩, hfault hconfiguration⟩
  | clearPortFault =>
      simp only [ParameterFields.validFor, Bool.and_eq_true] at hvalid
      simp only [ControlCommand.required, List.forall_mem_cons]
      exact ⟨⟨.portId [], rfl, hvalid.1.1.1.1.1⟩, by simp⟩
  | setLinkFault =>
      simp only [ParameterFields.validFor, Bool.and_eq_true] at hvalid
      obtain ⟨⟨⟨⟨⟨hfirst, hsecond⟩, _⟩, hconfiguration⟩, _⟩, _⟩ := hvalid
      simp only [ControlCommand.required, List.forall_mem_cons]
      exact ⟨⟨.firstEndpoint [], rfl, hfirst⟩, ⟨.secondEndpoint [], rfl, hsecond⟩,
        hfault hconfiguration⟩
  | clearLinkFault =>
      simp only [ParameterFields.validFor, Bool.and_eq_true] at hvalid
      obtain ⟨⟨⟨⟨⟨hfirst, hsecond⟩, _⟩, _⟩, _⟩, _⟩ := hvalid
      simp only [ControlCommand.required, List.forall_mem_cons]
      exact ⟨⟨.firstEndpoint [], rfl, hfirst⟩, ⟨.secondEndpoint [], rfl, hsecond⟩, by simp⟩
  | getSwitchState => exact absurd hvalid (by simp [ParameterFields.validFor])
  | getActiveFaults => exact absurd hvalid (by simp [ParameterFields.validFor])
  | getSupervisionState => exact absurd hvalid (by simp [ParameterFields.validFor])
  | stopRun => exact absurd hvalid (by simp [ParameterFields.validFor])

/-! ## What an accepted text says -/

/-- What the members of an accepted object come to. -/
theorem finish_ok {state : RequestState} {request : ControlRequest}
    (h : finish state = .ok request) :
    state.parameters.request = request ∧ state.hasCommand = true ∧
      (state.hasParameters = false → requiresParameters request.command = false) ∧
      (state.hasParameters = true → state.parameters.fields.validFor request.command = true) := by
  unfold ControlRequestParser.finish at h
  dsimp only at h
  split at h
  · exact absurd h (by simp)
  next hmembers =>
  split at h
  · exact absurd h (by simp)
  next hrequires =>
  split at h
  · split at h
    · exact absurd h (by simp)
    · exact absurd h (by simp)
  next hvalid =>
  obtain rfl := Except.ok.inj h
  simp only [Bool.or_eq_true, Bool.not_eq_true', not_or, Bool.not_eq_false] at hmembers
  simp only [Bool.and_eq_true, Bool.not_eq_true', not_and, Bool.not_eq_true] at hrequires
  simp only [Bool.and_eq_true, Bool.not_eq_true', not_and, Bool.not_eq_false] at hvalid
  exact ⟨rfl, hmembers.1.2, hrequires, hvalid⟩

/-- A member that can no longer be given has been given. -/
private theorem member_given {all : List RequestMember} {a : RequestMember}
    (hstart : RequestMember.fresh {} a)
    (hstale : ¬ RequestMember.fresh (all.foldl RequestMember.set {}) a) :
    ∃ b ∈ all, b.name = a.name := by
  by_contra hnone
  refine hstale ((fresh_foldl requestMembers RequestMember.fresh_set).mpr
    ⟨hstart, fun b hb hname => hnone ⟨b, hb, hname.symm⟩⟩)

/-- The flags of the parameters are the names that were given. -/
private theorem given_iff {all : List Parameter} {a : Parameter} :
    a.given (all.foldl Parameter.set {}).fields = true ↔ a.name ∈ all.map Parameter.name := by
  have hstart : Parameter.fresh {} a := by
    cases a <;> rfl
  have hfresh : Parameter.fresh (all.foldl Parameter.set {}) a ↔
      Parameter.fresh {} a ∧ ∀ b ∈ all, a.name ≠ b.name :=
    fresh_foldl parameterMembers Parameter.fresh_set
  rw [Parameter.fresh, Bool.not_eq_true', iff_true_intro hstart, true_and] at hfresh
  rw [← Bool.not_eq_false, hfresh, List.mem_map]
  push Not
  exact ⟨fun ⟨b, hb, h⟩ => ⟨b, hb, h.symm⟩, fun ⟨b, hb, h⟩ => ⟨b, hb, h.symm⟩⟩

/-- The other members leave the flags of the parameters alone. -/
private theorem fields_foldl {rest : List RequestMember} {state : RequestState}
    (hrest : ∀ b ∈ rest, b.name ≠ bytes "parameters") :
    (rest.foldl RequestMember.set state).parameters.fields = state.parameters.fields := by
  induction rest generalizing state with
  | nil => rfl
  | cons b rest ih =>
      rw [List.foldl_cons, ih fun c hc => hrest c (List.mem_cons_of_mem _ hc)]
      have hb := hrest b List.mem_cons_self
      cases b with
      | parameters all => exact absurd rfl hb
      | _ => rfl

/-- What the members of an accepted request are: known, each given once, and with
the parameters its command takes and needs. -/
structure Listed (request : ControlRequest) (all : List RequestMember) : Prop where
  once : (all.map RequestMember.name).Nodup
  command : .command request.command ∈ all
  parametersOnce : ∀ parameters, .parameters parameters ∈ all →
    (parameters.map Parameter.name).Nodup
  allowed : ∀ parameters, .parameters parameters ∈ all → ∀ a ∈ parameters,
    a.name ∈ request.command.allowed
  required : ∀ name ∈ request.command.required, ∃ parameters,
    .parameters parameters ∈ all ∧ name ∈ parameters.map Parameter.name

theorem listed_of_finish {all : List RequestMember} {request : ControlRequest}
    (hall : FreshAll RequestMember.fresh RequestMember.set {} all)
    (hfinish : finish (all.foldl RequestMember.set {}) = .ok request) : Listed request all := by
  obtain ⟨hfresh, hnodup⟩ := RequestMember.freshAll_iff.mp hall
  obtain ⟨hrequest, hcommand, hwithout, hvalid⟩ := finish_ok hfinish
  -- Its parameters come first as well as in their place.
  have hfields : ∀ parameters, .parameters parameters ∈ all →
      (all.foldl RequestMember.set {}).parameters.fields =
          (parameters.foldl Parameter.set {}).fields ∧
        (all.foldl RequestMember.set {}).hasParameters = true := by
    intro parameters hmem
    obtain ⟨rest, hrest, hfirst⟩ := foldl_set_first requestMembers
      RequestMember.set_comm hmem hnodup {}
    obtain ⟨rest', hlast⟩ := foldl_set_last requestMembers
      RequestMember.set_comm hmem hnodup {}
    exact ⟨by rw [hfirst, fields_foldl hrest]; rfl, by rw [hlast]; rfl⟩
  refine ⟨hnodup, ?_, ?_, ?_, ?_⟩
  · have hstale : ¬ RequestMember.fresh (all.foldl RequestMember.set {}) (.command .stopRun) := by
      simp only [RequestMember.fresh, hcommand, Bool.not_true, Bool.false_eq_true, not_false_eq_true]
    obtain ⟨b, hb, hname⟩ := member_given (a := .command .stopRun) rfl hstale
    cases b with
    | command command =>
        obtain ⟨rest, hlast⟩ := foldl_set_last requestMembers
          RequestMember.set_comm hb hnodup {}
        obtain rfl : command = request.command := by
          rw [← hrequest, hlast]
          rfl
        exact hb
    | _ => exact absurd hname (by dsimp only [RequestMember.name]; decide)
  · intro parameters hmem
    exact (Parameter.freshAll_iff.mp (hfresh _ hmem).2).2
  · intro parameters hmem a ha
    obtain ⟨hflags, hhas⟩ := hfields parameters hmem
    have hgiven := given_iff.mpr (List.mem_map_of_mem (f := Parameter.name) ha)
    exact allowed_of_given (hflags ▸ hvalid hhas) hgiven
  · intro name hname
    cases hhas : (all.foldl RequestMember.set {}).hasParameters with
    | false =>
        -- Without parameters the command needs none.
        have hnone := hwithout hhas
        have hempty : request.command.required = [] := by
          cases hcommand : request.command <;> rw [hcommand] at hnone <;> first
            | rfl
            | exact absurd hnone (by decide)
        exact absurd (hempty ▸ hname) List.not_mem_nil
    | true =>
        have hstale : ¬ RequestMember.fresh (all.foldl RequestMember.set {}) (.parameters []) := by
          simp only [RequestMember.fresh, hhas, Bool.not_true, Bool.false_eq_true, false_and,
            not_false_eq_true]
        obtain ⟨b, hb, hname'⟩ := member_given (a := .parameters []) ⟨rfl, trivial⟩ hstale
        cases b with
        | parameters parameters =>
            obtain ⟨a, rfl, hgiven⟩ := given_of_required (hvalid hhas) name hname
            rw [(hfields parameters hb).1] at hgiven
            exact ⟨parameters, hb, given_iff.mp hgiven⟩
        | _ => exact absurd hname' (by dsimp only [RequestMember.name]; decide)

/-- A request text as it should be: JSON, and an object with the right members. -/
structure Grammatical (input : Bytes) (request : ControlRequest) : Prop where
  json : JsonObject input
  members : ∃ all before object after, Blank before ∧ Blank after ∧
    ObjectText requestMembers all object ∧ input = before ++ (object ++ after) ∧
    Listed request all

/-- The parser's loops take no more rounds than the text has bytes, and leave an end
of it. -/
structure WithinText (input : Bytes) : Prop where
  rounds : ∀ state fuel, input.length ≤ fuel →
    readMembers fuel state input = readMembers input.length state input
  parameterRounds : ∀ state fuel, input.length ≤ fuel →
    readParameterMembers fuel state input = readParameterMembers input.length state input
  rest : ∀ fuel state state' rest,
    readMembers fuel state input = .ok (state', rest) → rest <:+ input
  parameterRest : ∀ fuel state state' rest,
    readParameterMembers fuel state input = .ok (state', rest) → rest <:+ input

theorem within_text (input : Bytes) : WithinText input where
  rounds state fuel hfuel := by
    rw [readMembers_eq, readMembers_eq]
    exact membersLoop_fuel readMember_implements state input hfuel le_rfl
  parameterRounds state fuel hfuel := by
    rw [readParameterMembers_eq, readParameterMembers_eq]
    exact membersLoop_fuel readParameter_implements state input hfuel le_rfl
  rest fuel state state' rest h := by
    rw [readMembers_eq] at h
    obtain ⟨all, body, _, _, _, rfl⟩ := membersLoop_sound readMember_implements h
    exact ⟨body ++ [closeBrace], by rw [List.append_assoc, List.singleton_append]⟩
  parameterRest fuel state state' rest h := by
    rw [readParameterMembers_eq] at h
    obtain ⟨all, body, _, _, _, rfl⟩ := membersLoop_sound readParameter_implements h
    exact ⟨body ++ [closeBrace], by rw [List.append_assoc, List.singleton_append]⟩

/-! ## Numbers -/

private theorem boolText_json {value : Bool} {text : Bytes} (h : BoolText value text) :
    JsonText .value text := by
  refine .literal ?_
  cases value with
  | true => exact h ▸ List.mem_cons_self
  | false => exact h ▸ List.mem_cons_of_mem _ List.mem_cons_self

private theorem stringText_json {value text : Bytes} (h : StringText value text) :
    JsonText .value text := by
  obtain ⟨body, hbody, rfl⟩ := h
  exact .string hbody.body

/-- The value of a parameter is JSON as far as a scan gets through it. -/
private theorem parameter_ifScanned (a : Parameter) (text : Bytes) (h : a.Reads text) :
    JsonIfScanned .value text := by
  cases a with
  | topologyPath | scenario | generator | portId | firstEndpoint | secondEndpoint | backend =>
      exact (stringText_json h).ifScanned
  | batchSize | durationSeconds | frameSize | loss | duplication | seed | packetCount
  | bandwidth => exact h.ifScanned
  | latency | jitter =>
      obtain ⟨n, hn, _⟩ := h
      exact hn.ifScanned
  | blackhole | isolated => exact (boolText_json h).ifScanned

private theorem member_ifScanned (a : RequestMember) (text : Bytes) (h : a.Reads text) :
    JsonIfScanned .value text := by
  cases a with
  | apiVersion | topologyRevision => exact h.ifScanned
  | requestId | command => exact (stringText_json h).ifScanned
  | parameters => exact @ObjectText.ifScanned _ parameterMembers parameter_ifScanned _ _ h

/-- **The request parser accepts only its grammar**, but for zeros that begin a
number: an accepted text is as it should be if and only if no number of it begins
with a zero and goes on with a digit. -/
theorem accepted_requests_grammatical (input : Bytes) :
    (∀ request, controlRequestFromJson input = .ok request →
      (Grammatical input request ↔ NoSuperfluousZero input)) ∧ WithinText input := by
  refine ⟨fun request haccepted => ?_, within_text input⟩
  obtain ⟨all, before, object, after, hbefore, hafter, hobject, hall, hfinish, rfl⟩ :=
    parse_iff.mp haccepted
  constructor
  · intro h
    exact h.json.noSuperfluousZero
  · intro hzero
    obtain ⟨place, hscan⟩ := Option.isSome_iff_exists.mp hzero
    rw [scan_blank hbefore, scan_append] at hscan
    obtain ⟨place', hscan', _⟩ := Option.bind_eq_some_iff.mp hscan
    have hjson := (@ObjectText.ifScanned _ requestMembers member_ifScanned _ _ hobject
      place' hscan').1
    have hhead : object.head? = some openBrace := by
      cases hobject with
      | empty => rfl
      | filled => rfl
    exact ⟨⟨before, object, after, hbefore, hafter, hjson, hhead, rfl⟩,
      all, before, object, after, hbefore, hafter, hobject, rfl, listed_of_finish hall hfinish⟩

/-- A request whose version is written with a zero in front. -/
def zeroVersion : Bytes :=
  bytes ("\x7b\"api_version\":01,\"request_id\":\"a\",\"command\":\"stop_run\"," ++
    "\"topology_revision\":0\x7d")

theorem accepted_request_not_grammatical :
    ¬ ∀ input request, controlRequestFromJson input = .ok request → Grammatical input request := by
  intro h
  have haccepted : controlRequestFromJson zeroVersion =
      .ok { requestId := bytes "a", command := .stopRun } := by decide +kernel
  have hzero : ¬ NoSuperfluousZero zeroVersion := by decide +kernel
  exact hzero (h _ _ haccepted).json.noSuperfluousZero

/-- A request without such a number. -/
def plainVersion : Bytes :=
  bytes ("\x7b\"api_version\":1,\"request_id\":\"a\",\"command\":\"stop_run\"," ++
    "\"topology_revision\":0\x7d")

theorem accepted_requests_grammatical_plain :
    Grammatical plainVersion { requestId := bytes "a", command := .stopRun } :=
  ((accepted_requests_grammatical plainVersion).1 _ (by decide +kernel)).mpr (by decide +kernel)

end WireLab
