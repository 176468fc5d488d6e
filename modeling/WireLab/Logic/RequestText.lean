import WireLab.Logic.ObjectReader

/-!
# The texts of requests

What a request may be made of: `Parameter` is one parameter with its value,
`RequestMember` one member of the request object. Each knows its name, the texts
of its value (`Reads`), whether it may still be given (`fresh`) and what it stores
(`set`). The parser's readers implement exactly these, so a text is accepted if
and only if it lists members that together make a complete request
(`parse_iff`).
-/

namespace WireLab

open Base Base.Json JsonScanner

/-! ## Values -/

/-- Milliseconds; the nanoseconds they stand for wrap. -/
def MillisecondsText (nanoseconds : Int) (text : Bytes) : Prop :=
  ∃ n, Numeral n text ∧ n ≤ 2 ^ 63 - 1 ∧ nanoseconds = Int.bmod ((n : Int) * 1000000) (2 ^ 64)

namespace ControlRequestParser

theorem scans_milliseconds : Scans readMilliseconds MillisecondsText where
  complete hw htext hrest := by
    obtain ⟨n, hn, hle, hvalue⟩ := htext
    have hread : readUInt (2 ^ 64 - 1) _ = .ok (n, _) :=
      (readUInt_iff (by decide)).mpr ⟨_, _, hw, hn, hle.trans (by decide), hrest, rfl⟩
    simp only [readMilliseconds, hread, if_neg (Nat.not_lt.mpr hle), hvalue]
  sound h := by
    unfold readMilliseconds at h
    split at h
    · exact absurd h (by simp)
    · next n left hread =>
        split at h
        · exact absurd h (by simp)
        · next hle =>
            obtain ⟨rfl, rfl⟩ := Prod.mk.inj (Except.ok.inj h)
            obtain ⟨w, text, hw, hn, _, _, hinput⟩ := (readUInt_iff (by decide)).mp hread
            exact ⟨w, text, hw, ⟨n, hn, Nat.not_lt.mp hle, rfl⟩, hinput⟩

theorem commandNames_iff {value : Bytes} {command : ControlCommand} :
    commandNames.lookup value = some command ↔ value = command.toString := by
  constructor
  · intro h
    obtain ⟨before, after, hnames, _⟩ := List.lookup_eq_some_iff.mp h
    have hmem : (value, command) ∈ commandNames := by rw [hnames]; simp
    simp only [commandNames, List.mem_cons, Prod.mk.injEq, List.not_mem_nil, or_false] at hmem
    rcases hmem with ⟨rfl, rfl⟩ | ⟨rfl, rfl⟩ | ⟨rfl, rfl⟩ | ⟨rfl, rfl⟩ | ⟨rfl, rfl⟩ | ⟨rfl, rfl⟩ |
      ⟨rfl, rfl⟩ | ⟨rfl, rfl⟩ | ⟨rfl, rfl⟩ | ⟨rfl, rfl⟩ <;> rfl
  · rintro rfl
    cases command <;> decide

theorem scans_command : Scans readCommand fun command => StringText command.toString where
  complete {command w text rest} hw htext hrest := by
    refine bind_ok.mpr ⟨_, scans_string.complete hw htext hrest, ?_⟩
    have hlookup : commandNames.lookup command.toString = some command := commandNames_iff.mpr rfl
    simp only [hlookup]
  sound {command input rest} h := by
    obtain ⟨⟨value, left⟩, hread, hlookup⟩ := bind_ok.mp h
    obtain ⟨w, text, hw, htext, rfl⟩ := scans_string.sound hread
    dsimp only at hlookup
    split at hlookup
    · next found hfound =>
        obtain ⟨rfl, rfl⟩ := Prod.mk.inj (Except.ok.inj hlookup)
        exact ⟨w, text, hw, commandNames_iff.mp hfound ▸ htext, rfl⟩
    · exact absurd hlookup (by simp)

theorem scans_backend : Scans readBackend fun backend => StringText backend.toString where
  complete {backend w text rest} hw htext hrest := by
    refine bind_ok.mpr ⟨_, scans_string.complete hw htext hrest, ?_⟩
    cases backend with
    | cpu => rfl
    | cuda => rfl
  sound {backend input rest} h := by
    obtain ⟨⟨value, left⟩, hread, hvalue⟩ := bind_ok.mp h
    obtain ⟨w, text, hw, htext, rfl⟩ := scans_string.sound hread
    dsimp only at hvalue
    split at hvalue
    · next hcpu =>
        obtain ⟨rfl, rfl⟩ := Prod.mk.inj (Except.ok.inj hvalue)
        subst hcpu
        exact ⟨w, text, hw, htext, rfl⟩
    · split at hvalue
      · next hcuda =>
          obtain ⟨rfl, rfl⟩ := Prod.mk.inj (Except.ok.inj hvalue)
          subst hcuda
          exact ⟨w, text, hw, htext, rfl⟩
      · exact absurd hvalue (by simp)

/-! ## Parameters -/

/-- One parameter with its value. -/
inductive Parameter
  | topologyPath (path : Bytes)
  | scenario (scenario : Bytes)
  | backend (backend : AnalyzerBackend)
  | generator (generator : Bytes)
  | batchSize (batchSize : UInt32)
  | durationSeconds (durationSeconds : UInt32)
  | seed (seed : UInt64)
  | packetCount (packetCount : UInt64)
  | frameSize (frameSize : UInt32)
  | portId (portId : Bytes)
  | firstEndpoint (firstEndpoint : Bytes)
  | secondEndpoint (secondEndpoint : Bytes)
  | latency (latency : Int)
  | jitter (jitter : Int)
  | loss (lossBasisPoints : UInt32)
  | duplication (duplicationBasisPoints : UInt32)
  | bandwidth (bandwidthBitsPerSecond : UInt64)
  | blackhole (blackhole : Bool)
  | isolated (isolated : Bool)

namespace Parameter

def name : Parameter → Bytes
  | .topologyPath _ => bytes "topology_path"
  | .scenario _ => bytes "scenario"
  | .backend _ => bytes "backend"
  | .generator _ => bytes "generator"
  | .batchSize _ => bytes "batch_size"
  | .durationSeconds _ => bytes "duration_seconds"
  | .seed _ => bytes "seed"
  | .packetCount _ => bytes "packets"
  | .frameSize _ => bytes "frame_size"
  | .portId _ => bytes "port_id"
  | .firstEndpoint _ => bytes "first_endpoint"
  | .secondEndpoint _ => bytes "second_endpoint"
  | .latency _ => bytes "latency_ms"
  | .jitter _ => bytes "jitter_ms"
  | .loss _ => bytes "loss_basis_points"
  | .duplication _ => bytes "duplication_basis_points"
  | .bandwidth _ => bytes "bandwidth_bits_per_second"
  | .blackhole _ => bytes "blackhole"
  | .isolated _ => bytes "isolated"

/-- The texts of its value. -/
def Reads : Parameter → Bytes → Prop
  | .topologyPath value | .scenario value | .generator value | .portId value
  | .firstEndpoint value | .secondEndpoint value => StringText value
  | .backend value => StringText value.toString
  | .batchSize value | .durationSeconds value | .frameSize value | .loss value
  | .duplication value => Numeral value.toNat
  | .seed value | .packetCount value | .bandwidth value => Numeral value.toNat
  | .latency value | .jitter value => MillisecondsText value
  | .blackhole value | .isolated value => BoolText value

/-- Whether it has been given. -/
def given (fields : ParameterFields) : Parameter → Bool
  | .topologyPath _ => fields.topologyPath
  | .scenario _ => fields.scenario
  | .backend _ => fields.backend
  | .generator _ => fields.generator
  | .batchSize _ => fields.batchSize
  | .durationSeconds _ => fields.durationSeconds
  | .seed _ => fields.seed
  | .packetCount _ => fields.packetCount
  | .frameSize _ => fields.frameSize
  | .portId _ => fields.portId
  | .firstEndpoint _ => fields.firstEndpoint
  | .secondEndpoint _ => fields.secondEndpoint
  | .latency _ => fields.latency
  | .jitter _ => fields.jitter
  | .loss _ => fields.loss
  | .duplication _ => fields.duplication
  | .bandwidth _ => fields.bandwidth
  | .blackhole _ => fields.blackhole
  | .isolated _ => fields.isolated

/-- The flags once it has been given. -/
def note (fields : ParameterFields) : Parameter → ParameterFields
  | .topologyPath _ => { fields with topologyPath := true }
  | .scenario _ => { fields with scenario := true }
  | .backend _ => { fields with backend := true }
  | .generator _ => { fields with generator := true }
  | .batchSize _ => { fields with batchSize := true }
  | .durationSeconds _ => { fields with durationSeconds := true }
  | .seed _ => { fields with seed := true }
  | .packetCount _ => { fields with packetCount := true }
  | .frameSize _ => { fields with frameSize := true }
  | .portId _ => { fields with portId := true }
  | .firstEndpoint _ => { fields with firstEndpoint := true }
  | .secondEndpoint _ => { fields with secondEndpoint := true }
  | .latency _ => { fields with latency := true }
  | .jitter _ => { fields with jitter := true }
  | .loss _ => { fields with loss := true }
  | .duplication _ => { fields with duplication := true }
  | .bandwidth _ => { fields with bandwidth := true }
  | .blackhole _ => { fields with blackhole := true }
  | .isolated _ => { fields with isolated := true }

/-- The request with its value. -/
def store (request : ControlRequest) : Parameter → ControlRequest
  | .topologyPath value => { request with topology.path := value }
  | .scenario value => { request with benchmark.scenario := value }
  | .backend value => { request with benchmark.backend := value }
  | .generator value => { request with benchmark.generator := value }
  | .batchSize value => { request with benchmark.batchSize := value }
  | .durationSeconds value => { request with benchmark.durationSeconds := value }
  | .seed value => { request with benchmark.seed := value }
  | .packetCount value => { request with benchmark.packetCount := value }
  | .frameSize value => { request with benchmark.frameSize := value }
  | .portId value => { request with fault.portId := value }
  | .firstEndpoint value => { request with fault.firstEndpoint := value }
  | .secondEndpoint value => { request with fault.secondEndpoint := value }
  | .latency value => { request with fault.configuration.latency := value }
  | .jitter value => { request with fault.configuration.jitter := value }
  | .loss value => { request with fault.configuration.lossBasisPoints := value }
  | .duplication value => { request with fault.configuration.duplicationBasisPoints := value }
  | .bandwidth value => { request with fault.configuration.bandwidthBitsPerSecond := value }
  | .blackhole value => { request with fault.configuration.blackhole := value }
  | .isolated value => { request with fault.configuration.isolated := value }

def fresh (state : ParameterState) (parameter : Parameter) : Prop :=
  (!parameter.given state.fields) = true

def set (state : ParameterState) (parameter : Parameter) : ParameterState where
  request := parameter.store state.request
  fields := parameter.note state.fields

end Parameter

/-- The parameters as members of an object. -/
def parameterMembers : Members Parameter where
  name := Parameter.name
  Reads := Parameter.Reads

/-- A parameter makes its own name stale, and no other. -/
theorem Parameter.fresh_set (state : ParameterState) (a b : Parameter) :
    Parameter.fresh (Parameter.set state b) a ↔ Parameter.fresh state a ∧ a.name ≠ b.name := by
  unfold Parameter.fresh
  cases a <;> cases b <;>
    dsimp only [Parameter.name, Parameter.given, Parameter.set, Parameter.note] <;> first
    | exact ⟨fun h => ⟨h, by decide⟩, And.left⟩
    | exact ⟨fun h => absurd h (by decide), fun h => absurd rfl h.2⟩

/-- Parameters of different names are stored in different places. -/
theorem Parameter.set_comm (state : ParameterState) (a b : Parameter) (h : a.name ≠ b.name) :
    Parameter.set (Parameter.set state a) b = Parameter.set (Parameter.set state b) a := by
  cases a <;> cases b <;>
    dsimp only [Parameter.set, Parameter.note, Parameter.store] <;> first
    | rfl
    | exact absurd rfl h

theorem Parameter.freshAll_iff {state : ParameterState} {all : List Parameter} :
    FreshAll Parameter.fresh Parameter.set state all ↔
      (∀ a ∈ all, Parameter.fresh state a) ∧ (all.map Parameter.name).Nodup :=
  WireLab.freshAll_iff parameterMembers Parameter.fresh_set

/-- What else the request holds does not matter to its parameters. -/
theorem Parameter.foldl_set_request {change : ControlRequest → ControlRequest}
    (hchange : ∀ request (a : Parameter), a.store (change request) = change (a.store request))
    (all : List Parameter) (state : ParameterState) :
    all.foldl Parameter.set { state with request := change state.request } =
      { all.foldl Parameter.set state with
        request := change (all.foldl Parameter.set state).request } := by
  induction all generalizing state with
  | nil => rfl
  | cons a all ih =>
      simp only [List.foldl_cons, Parameter.set, hchange]
      exact ih (Parameter.set state a)

private theorem readParameter_sound {state state' : ParameterState} {key input rest : Bytes}
    (h : readParameter state key input = .ok (state', rest)) :
    ∃ a w value, parameterMembers.name a = key ∧ Parameter.fresh state a ∧
      parameterMembers.Reads a value ∧ Blank w ∧ state' = Parameter.set state a ∧
      input = w ++ (value ++ rest) := by
  unfold readParameter at h
  rcases ite_eq_iff.mp h with ⟨hif, h⟩ | ⟨_, h⟩
  · exact branch_sound scans_string hif .topologyPath h fun _ => ⟨rfl, id, fun _ => id⟩
  rcases ite_eq_iff.mp h with ⟨hif, h⟩ | ⟨_, h⟩
  · exact branch_sound scans_string hif .scenario h fun _ => ⟨rfl, id, fun _ => id⟩
  rcases ite_eq_iff.mp h with ⟨hif, h⟩ | ⟨_, h⟩
  · exact branch_sound scans_backend hif .backend h fun _ => ⟨rfl, id, fun _ => id⟩
  rcases ite_eq_iff.mp h with ⟨hif, h⟩ | ⟨_, h⟩
  · exact branch_sound scans_string hif .generator h fun _ => ⟨rfl, id, fun _ => id⟩
  rcases ite_eq_iff.mp h with ⟨hif, h⟩ | ⟨_, h⟩
  · exact branch_sound scans_uint32 hif .batchSize h fun _ => ⟨rfl, id, fun _ => id⟩
  rcases ite_eq_iff.mp h with ⟨hif, h⟩ | ⟨_, h⟩
  · exact branch_sound scans_uint32 hif .durationSeconds h fun _ => ⟨rfl, id, fun _ => id⟩
  rcases ite_eq_iff.mp h with ⟨hif, h⟩ | ⟨_, h⟩
  · exact branch_sound scans_uint64 hif .seed h fun _ => ⟨rfl, id, fun _ => id⟩
  rcases ite_eq_iff.mp h with ⟨hif, h⟩ | ⟨_, h⟩
  · exact branch_sound scans_uint64 hif .packetCount h fun _ => ⟨rfl, id, fun _ => id⟩
  rcases ite_eq_iff.mp h with ⟨hif, h⟩ | ⟨_, h⟩
  · exact branch_sound scans_uint32 hif .frameSize h fun _ => ⟨rfl, id, fun _ => id⟩
  rcases ite_eq_iff.mp h with ⟨hif, h⟩ | ⟨_, h⟩
  · exact branch_sound scans_string hif .portId h fun _ => ⟨rfl, id, fun _ => id⟩
  rcases ite_eq_iff.mp h with ⟨hif, h⟩ | ⟨_, h⟩
  · exact branch_sound scans_string hif .firstEndpoint h fun _ => ⟨rfl, id, fun _ => id⟩
  rcases ite_eq_iff.mp h with ⟨hif, h⟩ | ⟨_, h⟩
  · exact branch_sound scans_string hif .secondEndpoint h fun _ => ⟨rfl, id, fun _ => id⟩
  rcases ite_eq_iff.mp h with ⟨hif, h⟩ | ⟨_, h⟩
  · exact branch_sound scans_milliseconds hif .latency h fun _ => ⟨rfl, id, fun _ => id⟩
  rcases ite_eq_iff.mp h with ⟨hif, h⟩ | ⟨_, h⟩
  · exact branch_sound scans_milliseconds hif .jitter h fun _ => ⟨rfl, id, fun _ => id⟩
  rcases ite_eq_iff.mp h with ⟨hif, h⟩ | ⟨_, h⟩
  · exact branch_sound scans_uint32 hif .loss h fun _ => ⟨rfl, id, fun _ => id⟩
  rcases ite_eq_iff.mp h with ⟨hif, h⟩ | ⟨_, h⟩
  · exact branch_sound scans_uint32 hif .duplication h fun _ => ⟨rfl, id, fun _ => id⟩
  rcases ite_eq_iff.mp h with ⟨hif, h⟩ | ⟨_, h⟩
  · exact branch_sound scans_uint64 hif .bandwidth h fun _ => ⟨rfl, id, fun _ => id⟩
  rcases ite_eq_iff.mp h with ⟨hif, h⟩ | ⟨_, h⟩
  · exact branch_sound scans_bool hif .blackhole h fun _ => ⟨rfl, id, fun _ => id⟩
  rcases ite_eq_iff.mp h with ⟨hif, h⟩ | ⟨_, h⟩
  · exact branch_sound scans_bool hif .isolated h fun _ => ⟨rfl, id, fun _ => id⟩
  exact absurd h (by simp)

private theorem readParameter_complete {state : ParameterState} {a : Parameter}
    {w value rest : Bytes} (hfresh : Parameter.fresh state a)
    (hvalue : parameterMembers.Reads a value) (hw : Blank w) (hrest : NoDigit rest) :
    readParameter state (parameterMembers.name a) (w ++ (value ++ rest)) =
      .ok (Parameter.set state a, rest) := by
  unfold readParameter
  cases a
  -- The keys before its own are other keys.
  all_goals
    dsimp only [parameterMembers, Parameter.name]
    repeat refine (if_neg fun h => absurd h.1 (by decide)).trans ?_
    refine (if_pos ⟨rfl, hfresh⟩).trans ?_
  case topologyPath v =>
    exact branch_complete scans_string hw hvalue hrest fun v => Parameter.set state (.topologyPath v)
  case scenario v =>
    exact branch_complete scans_string hw hvalue hrest fun v => Parameter.set state (.scenario v)
  case backend v =>
    exact branch_complete scans_backend hw hvalue hrest fun v => Parameter.set state (.backend v)
  case generator v =>
    exact branch_complete scans_string hw hvalue hrest fun v => Parameter.set state (.generator v)
  case batchSize v =>
    exact branch_complete scans_uint32 hw hvalue hrest fun v => Parameter.set state (.batchSize v)
  case durationSeconds v =>
    exact branch_complete scans_uint32 hw hvalue hrest fun v => Parameter.set state (.durationSeconds v)
  case seed v =>
    exact branch_complete scans_uint64 hw hvalue hrest fun v => Parameter.set state (.seed v)
  case packetCount v =>
    exact branch_complete scans_uint64 hw hvalue hrest fun v => Parameter.set state (.packetCount v)
  case frameSize v =>
    exact branch_complete scans_uint32 hw hvalue hrest fun v => Parameter.set state (.frameSize v)
  case portId v =>
    exact branch_complete scans_string hw hvalue hrest fun v => Parameter.set state (.portId v)
  case firstEndpoint v =>
    exact branch_complete scans_string hw hvalue hrest fun v => Parameter.set state (.firstEndpoint v)
  case secondEndpoint v =>
    exact branch_complete scans_string hw hvalue hrest fun v => Parameter.set state (.secondEndpoint v)
  case latency v =>
    exact branch_complete scans_milliseconds hw hvalue hrest fun v => Parameter.set state (.latency v)
  case jitter v =>
    exact branch_complete scans_milliseconds hw hvalue hrest fun v => Parameter.set state (.jitter v)
  case loss v =>
    exact branch_complete scans_uint32 hw hvalue hrest fun v => Parameter.set state (.loss v)
  case duplication v =>
    exact branch_complete scans_uint32 hw hvalue hrest fun v => Parameter.set state (.duplication v)
  case bandwidth v =>
    exact branch_complete scans_uint64 hw hvalue hrest fun v => Parameter.set state (.bandwidth v)
  case blackhole v =>
    exact branch_complete scans_bool hw hvalue hrest fun v => Parameter.set state (.blackhole v)
  case isolated v =>
    exact branch_complete scans_bool hw hvalue hrest fun v => Parameter.set state (.isolated v)

/-- **The parameter reader reads parameters.** -/
theorem readParameter_implements :
    Implements parameterMembers Parameter.fresh Parameter.set readParameter where
  complete := readParameter_complete
  sound := readParameter_sound

theorem readParameterMembers_eq (fuel : Nat) (state : ParameterState) (input : Bytes) :
    readParameterMembers fuel state input = membersLoop readParameter fuel state input := by
  induction fuel generalizing state input with
  | zero => rfl
  | succ fuel ih =>
      simp only [readParameterMembers, membersLoop, ih]
      rfl

private theorem readParameters_eq (state : ParameterState) (input : Bytes) :
    readParameters state input = readObject readParameter state input := by
  simp only [readParameters, readObject, readParameterMembers_eq] <;> rfl

/-- The parameter object is read exactly if it lists parameters not given yet. -/
theorem readParameters_iff {state state' : ParameterState} {input rest : Bytes} :
    readParameters state input = .ok (state', rest) ↔ ∃ all w text, Blank w ∧
      ObjectText parameterMembers all text ∧ FreshAll Parameter.fresh Parameter.set state all ∧
      state' = all.foldl Parameter.set state ∧ input = w ++ (text ++ rest) := by
  rw [readParameters_eq]
  exact readObject_iff readParameter_implements

/-! ## Members of a request -/

/-- One member of a request with its value. -/
inductive RequestMember
  | apiVersion (apiVersion : UInt32)
  | requestId (requestId : Bytes)
  | command (command : ControlCommand)
  | topologyRevision (topologyRevision : UInt64)
  | parameters (all : List Parameter)

namespace RequestMember

def name : RequestMember → Bytes
  | .apiVersion _ => bytes "api_version"
  | .requestId _ => bytes "request_id"
  | .command _ => bytes "command"
  | .topologyRevision _ => bytes "topology_revision"
  | .parameters _ => bytes "parameters"

/-- The texts of its value. -/
def Reads : RequestMember → Bytes → Prop
  | .apiVersion value => Numeral value.toNat
  | .requestId value => StringText value
  | .command value => StringText value.toString
  | .topologyRevision value => Numeral value.toNat
  | .parameters all => ObjectText parameterMembers all

/-- Whether it may be given: once, and each of its parameters once. -/
def fresh (state : RequestState) : RequestMember → Prop
  | .apiVersion _ => (!state.hasApiVersion) = true
  | .requestId _ => (!state.hasRequestId) = true
  | .command _ => (!state.hasCommand) = true
  | .topologyRevision _ => (!state.hasTopologyRevision) = true
  | .parameters all =>
      (!state.hasParameters) = true ∧
        FreshAll Parameter.fresh Parameter.set state.parameters all

def set (state : RequestState) : RequestMember → RequestState
  | .apiVersion value =>
      { state.withRequest { state.parameters.request with apiVersion := value } with
        hasApiVersion := true }
  | .requestId value =>
      { state.withRequest { state.parameters.request with requestId := value } with
        hasRequestId := true }
  | .command value =>
      { state.withRequest { state.parameters.request with command := value } with
        hasCommand := true }
  | .topologyRevision value =>
      { state.withRequest { state.parameters.request with topologyRevision := value } with
        hasTopologyRevision := true }
  | .parameters all =>
      { state with parameters := all.foldl Parameter.set state.parameters, hasParameters := true }

end RequestMember

/-- The members of a request object. -/
def requestMembers : Members RequestMember where
  name := RequestMember.name
  Reads := RequestMember.Reads

/-- A member makes its own name stale, and no other. -/
theorem RequestMember.fresh_set (state : RequestState) (a b : RequestMember) :
    RequestMember.fresh (RequestMember.set state b) a ↔
      RequestMember.fresh state a ∧ a.name ≠ b.name := by
  cases a <;> cases b <;>
    simp only [RequestMember.fresh, Parameter.freshAll_iff] <;>
    dsimp only [RequestMember.name, RequestMember.set, RequestState.withRequest] <;> first
    | exact ⟨fun h => ⟨h, by decide⟩, And.left⟩
    | exact ⟨fun h => absurd h (by decide), fun h => absurd rfl h.2⟩
    | exact ⟨fun h => absurd h.1 (by decide), fun h => absurd rfl h.2⟩

/-- The parameters may come before or after another member. -/
theorem RequestMember.set_parameters_comm (state : RequestState) (all : List Parameter)
    (b : RequestMember) (h : b.name ≠ bytes "parameters") :
    RequestMember.set (RequestMember.set state (.parameters all)) b =
      RequestMember.set (RequestMember.set state b) (.parameters all) := by
  have hchange : ∀ change : ControlRequest → ControlRequest,
      (∀ request (a : Parameter), a.store (change request) = change (a.store request)) →
      (RequestMember.set state (.parameters all)).withRequest
          (change (RequestMember.set state (.parameters all)).parameters.request) =
        RequestMember.set (state.withRequest (change state.parameters.request))
          (.parameters all) := by
    intro change hcomm
    have hfold := Parameter.foldl_set_request hcomm all state.parameters
    simp only [RequestMember.set, RequestState.withRequest]
    rw [hfold]
  cases b with
  | apiVersion value =>
      exact congrArg (fun state : RequestState => { state with hasApiVersion := true })
        (hchange (fun request => { request with apiVersion := value })
          fun request a => by cases a <;> rfl)
  | requestId value =>
      exact congrArg (fun state : RequestState => { state with hasRequestId := true })
        (hchange (fun request => { request with requestId := value })
          fun request a => by cases a <;> rfl)
  | command value =>
      exact congrArg (fun state : RequestState => { state with hasCommand := true })
        (hchange (fun request => { request with command := value })
          fun request a => by cases a <;> rfl)
  | topologyRevision value =>
      exact congrArg (fun state : RequestState => { state with hasTopologyRevision := true })
        (hchange (fun request => { request with topologyRevision := value })
          fun request a => by cases a <;> rfl)
  | parameters => exact absurd rfl h

/-- Members of different names are stored in different places. -/
theorem RequestMember.set_comm (state : RequestState) (a b : RequestMember)
    (h : a.name ≠ b.name) :
    RequestMember.set (RequestMember.set state a) b =
      RequestMember.set (RequestMember.set state b) a := by
  cases a with
  | parameters all => exact RequestMember.set_parameters_comm state all b h.symm
  | _ =>
      cases b with
      | parameters all => exact (RequestMember.set_parameters_comm state all _ h).symm
      | _ =>
          first
          | rfl
          | exact absurd rfl h

theorem RequestMember.freshAll_iff {state : RequestState} {all : List RequestMember} :
    FreshAll RequestMember.fresh RequestMember.set state all ↔
      (∀ a ∈ all, RequestMember.fresh state a) ∧ (all.map RequestMember.name).Nodup :=
  WireLab.freshAll_iff requestMembers RequestMember.fresh_set

private theorem readMember_sound {state state' : RequestState} {key input rest : Bytes}
    (h : readMember state key input = .ok (state', rest)) :
    ∃ a w value, requestMembers.name a = key ∧ RequestMember.fresh state a ∧
      requestMembers.Reads a value ∧ Blank w ∧ state' = RequestMember.set state a ∧
      input = w ++ (value ++ rest) := by
  unfold readMember at h
  rcases ite_eq_iff.mp h with ⟨hif, h⟩ | ⟨_, h⟩
  · exact branch_sound scans_uint32 hif .apiVersion h fun _ => ⟨rfl, id, fun _ => id⟩
  rcases ite_eq_iff.mp h with ⟨hif, h⟩ | ⟨_, h⟩
  · exact branch_sound scans_string hif .requestId h fun _ => ⟨rfl, id, fun _ => id⟩
  rcases ite_eq_iff.mp h with ⟨hif, h⟩ | ⟨_, h⟩
  · exact branch_sound scans_command hif .command h fun _ => ⟨rfl, id, fun _ => id⟩
  rcases ite_eq_iff.mp h with ⟨hif, h⟩ | ⟨_, h⟩
  · exact branch_sound scans_uint64 hif .topologyRevision h fun _ => ⟨rfl, id, fun _ => id⟩
  rcases ite_eq_iff.mp h with ⟨hif, h⟩ | ⟨_, h⟩
  · obtain ⟨⟨parameters, left⟩, hread, hstore⟩ := bind_ok.mp h
    obtain ⟨rfl, rfl⟩ := Prod.mk.inj (Except.ok.inj hstore)
    obtain ⟨all, w, text, hw, htext, hall, rfl, rfl⟩ := readParameters_iff.mp hread
    exact ⟨.parameters all, w, text, hif.1.symm, ⟨hif.2, hall⟩, htext, hw, rfl, rfl⟩
  exact absurd h (by simp)

private theorem readMember_complete {state : RequestState} {a : RequestMember}
    {w value rest : Bytes} (hfresh : RequestMember.fresh state a)
    (hvalue : requestMembers.Reads a value) (hw : Blank w) (hrest : NoDigit rest) :
    readMember state (requestMembers.name a) (w ++ (value ++ rest)) =
      .ok (RequestMember.set state a, rest) := by
  unfold readMember
  cases a
  all_goals
    dsimp only [requestMembers, RequestMember.name]
    repeat refine (if_neg fun h => absurd h.1 (by decide)).trans ?_
  case apiVersion v =>
    refine (if_pos ⟨rfl, hfresh⟩).trans ?_
    exact branch_complete scans_uint32 hw hvalue hrest fun v =>
      RequestMember.set state (.apiVersion v)
  case requestId v =>
    refine (if_pos ⟨rfl, hfresh⟩).trans ?_
    exact branch_complete scans_string hw hvalue hrest fun v =>
      RequestMember.set state (.requestId v)
  case command v =>
    refine (if_pos ⟨rfl, hfresh⟩).trans ?_
    exact branch_complete scans_command hw hvalue hrest fun v =>
      RequestMember.set state (.command v)
  case topologyRevision v =>
    refine (if_pos ⟨rfl, hfresh⟩).trans ?_
    exact branch_complete scans_uint64 hw hvalue hrest fun v =>
      RequestMember.set state (.topologyRevision v)
  case parameters all =>
    refine (if_pos ⟨rfl, hfresh.1⟩).trans ?_
    exact bind_ok.mpr ⟨_, readParameters_iff.mpr ⟨all, w, value, hw, hvalue, hfresh.2, rfl, rfl⟩,
      rfl⟩

/-- **The member reader reads members of requests.** -/
theorem readMember_implements :
    Implements requestMembers RequestMember.fresh RequestMember.set readMember where
  complete := readMember_complete
  sound := readMember_sound

theorem readMembers_eq (fuel : Nat) (state : RequestState) (input : Bytes) :
    readMembers fuel state input = membersLoop readMember fuel state input := by
  induction fuel generalizing state input with
  | zero => rfl
  | succ fuel ih =>
      simp only [readMembers, membersLoop, ih]
      rfl

/-- **What the parser accepts**: an object whose members, each given once, make a
complete request, with blanks around it. -/
theorem parse_iff {input : Bytes} {request : ControlRequest} :
    parse input = .ok request ↔ ∃ all before text after, Blank before ∧ Blank after ∧
      ObjectText requestMembers all text ∧
      FreshAll RequestMember.fresh RequestMember.set {} all ∧
      finish (all.foldl RequestMember.set {}) = .ok request ∧ input = before ++ (text ++ after) := by
  have hparse : parse input = parseObject readMember finish {} input := by
    simp only [parse, parseObject, readMembers_eq] <;> rfl
  rw [hparse]
  exact parseObject_iff readMember_implements (fun _ => by simp [finish])

end ControlRequestParser
end WireLab
