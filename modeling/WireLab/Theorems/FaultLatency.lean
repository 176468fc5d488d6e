import WireLab.Logic.JsonWriting
import WireLab.Logic.Lab
import WireLab.Theorems.RequestGrammar

/-!
# The latency a request asks for

A fault command gives its latency and jitter in milliseconds. The reader takes
any signed 64-bit number of them, and the conversion to nanoseconds wraps: what
is stored is what was asked for exactly if that many nanoseconds are a signed
64-bit number (`latency_exact_iff`).

The numbers a text gives are a matter of its grammar: `Asks` is the grammar of
requests with the two numbers written out. Every accepted fault command asks for
some numbers (`exists_asks`), and it is they that are converted
(`stored_of_asks`).
-/

namespace WireLab

open Base Base.Json JsonScanner ControlRequestParser TopologyController

/-! ## The grammar with numbers -/

/-- The parameters that count milliseconds. -/
def ControlRequestParser.Parameter.countsMilliseconds : Parameter → Bool
  | .latency _ | .jitter _ => true
  | _ => false

/-- Parameters as a request has them; those that count milliseconds give the
numbers that `numbers` has under their names. -/
def numberedParameters (numbers : Bytes → Nat) : Members Parameter where
  name := Parameter.name
  Reads a text := a.Reads text ∧ (a.countsMilliseconds = true → Numeral (numbers a.name) text)

/-- The members of a request, with such parameters. -/
def numberedMembers (numbers : Bytes → Nat) : Members RequestMember where
  name := RequestMember.name
  Reads a text :=
    match a with
    | .parameters all => ObjectText (numberedParameters numbers) all text
    | a => a.Reads text

/-- A text that lists the members of a request, each once, and among its
parameters a latency and a jitter of so many milliseconds. -/
def Asks (json : Bytes) (latency jitter : Nat) : Prop :=
  ∃ numbers all parameters before object after, Blank before ∧ Blank after ∧
    json = before ++ (object ++ after) ∧ ObjectText (numberedMembers numbers) all object ∧
    FreshAll RequestMember.fresh RequestMember.set {} all ∧ .parameters parameters ∈ all ∧
    (∃ value, .latency value ∈ parameters) ∧ (∃ value, .jitter value ∈ parameters) ∧
    numbers (bytes "latency_ms") = latency ∧ numbers (bytes "jitter_ms") = jitter

/-- The number a parameter that counts milliseconds gives. -/
private theorem exists_number (a : Parameter) {text : Bytes} (h : a.Reads text) :
    ∃ n, a.countsMilliseconds = true → Numeral n text := by
  cases a with
  | latency value =>
      obtain ⟨n, hn, _⟩ := h
      exact ⟨n, fun _ => hn⟩
  | jitter value =>
      obtain ⟨n, hn, _⟩ := h
      exact ⟨n, fun _ => hn⟩
  | _ => exact ⟨0, fun h => absurd h (by simp [Parameter.countsMilliseconds])⟩

/-- One member: its number is the one under its name. -/
private theorem memberText_numbered {a : Parameter} {text : Bytes}
    (h : MemberText parameterMembers a text) (numbers : Bytes → Nat) :
    ∃ n, MemberText (numberedParameters (Function.update numbers a.name n)) a text := by
  cases h with
  | mk hbefore hkey hafterKey hbeforeValue hvalue hafter =>
      obtain ⟨n, hn⟩ := exists_number a hvalue
      refine ⟨n, .mk hbefore hkey hafterKey hbeforeValue ⟨hvalue, fun hcounts => ?_⟩ hafter⟩
      rw [Function.update_self]
      exact hn hcounts

/-- Parameters of different names give one number under each name. -/
private theorem exists_numberedParameters {all : List Parameter} {body : Bytes}
    (h : MembersText parameterMembers all body) (hnodup : (all.map Parameter.name).Nodup) :
    ∃ numbers, MembersText (numberedParameters numbers) all body := by
  induction h with
  | one h =>
      obtain ⟨n, hn⟩ := memberText_numbered h fun _ => 0
      exact ⟨_, .one hn⟩
  | @more a rest text texts h hrest ih =>
      obtain ⟨hnew, hnodup⟩ := List.nodup_cons.mp hnodup
      obtain ⟨numbers, hnumbers⟩ := ih hnodup
      obtain ⟨n, hn⟩ := memberText_numbered h numbers
      refine ⟨_, .more hn (hnumbers.mono ?_ ?_)⟩
      · exact fun _ => rfl
      intro b hb value hvalue
      refine ⟨hvalue.1, fun hcounts => ?_⟩
      have hname : b.name ≠ a.name := fun hsame =>
        hnew (hsame ▸ List.mem_map_of_mem (f := Parameter.name) hb)
      rw [Function.update_of_ne hname]
      exact hvalue.2 hcounts

private theorem exists_numberedObject {all : List Parameter} {text : Bytes}
    (h : ObjectText parameterMembers all text) (hnodup : (all.map Parameter.name).Nodup) :
    ∃ numbers, ObjectText (numberedParameters numbers) all text := by
  cases h with
  | empty hblank => exact ⟨fun _ => 0, .empty hblank⟩
  | filled h =>
      obtain ⟨numbers, hnumbers⟩ := exists_numberedParameters h hnodup
      exact ⟨numbers, .filled hnumbers⟩

/-- One member of a request; only its parameters have numbers. -/
private theorem memberText_numberedMembers {a : RequestMember} {text : Bytes}
    (h : MemberText requestMembers a text)
    (honce : ∀ parameters, a = .parameters parameters → (parameters.map Parameter.name).Nodup) :
    ∃ numbers, MemberText (numberedMembers numbers) a text := by
  cases h with
  | mk hbefore hkey hafterKey hbeforeValue hvalue hafter =>
      cases a with
      | parameters all =>
          obtain ⟨numbers, hnumbers⟩ := exists_numberedObject hvalue (honce all rfl)
          exact ⟨numbers, .mk hbefore hkey hafterKey hbeforeValue hnumbers hafter⟩
      | _ => exact ⟨fun _ => 0, .mk hbefore hkey hafterKey hbeforeValue hvalue hafter⟩

/-- Any numbers will do for members that are not parameters. -/
private theorem reads_numbered {a : RequestMember} (ha : a.name ≠ bytes "parameters")
    {members : Members RequestMember} (hmembers : members = requestMembers ∨
      ∃ numbers, members = numberedMembers numbers) (numbers : Bytes → Nat) (value : Bytes)
    (h : members.Reads a value) : (numberedMembers numbers).Reads a value := by
  cases a with
  | parameters all => exact absurd rfl ha
  | _ =>
      rcases hmembers with rfl | ⟨_, rfl⟩
      · exact h
      · exact h

private theorem exists_numberedMembers {all : List RequestMember} {body : Bytes}
    (h : MembersText requestMembers all body) (hnodup : (all.map RequestMember.name).Nodup)
    (honce : ∀ parameters, .parameters parameters ∈ all →
      (parameters.map Parameter.name).Nodup) :
    ∃ numbers, MembersText (numberedMembers numbers) all body := by
  induction h with
  | @one a text h =>
      obtain ⟨numbers, hnumbers⟩ := memberText_numberedMembers h fun parameters hsame =>
        honce parameters (by simp [hsame])
      exact ⟨numbers, .one hnumbers⟩
  | @more a rest text texts h hrest ih =>
      obtain ⟨hnew, hnodup⟩ := List.nodup_cons.mp hnodup
      obtain ⟨numbers, hnumbers⟩ := ih hnodup fun parameters hmem =>
        honce parameters (List.mem_cons_of_mem _ hmem)
      by_cases ha : a.name = bytes "parameters"
      · -- The numbers are this member's; the others have none.
        obtain ⟨own, hown⟩ := memberText_numberedMembers h fun parameters hsame =>
          honce parameters (by simp [hsame])
        refine ⟨own, .more hown (hnumbers.mono ?_ fun b hb value hvalue => ?_)⟩
        · exact fun _ => rfl
        refine reads_numbered (fun hname => hnew ?_) (.inr ⟨numbers, rfl⟩) own value hvalue
        rw [ha, ← hname]
        exact List.mem_map_of_mem (f := RequestMember.name) hb
      · refine ⟨numbers, .more (h.mono ?_ (reads_numbered ha (.inl rfl) numbers)) hnumbers⟩
        rfl

/-- **Every accepted fault command asks for a latency and a jitter.** -/
theorem exists_asks {json : Bytes} {request : ControlRequest}
    (hparse : controlRequestFromJson json = .ok request)
    (hcommand : request.command = .setPortFault ∨ request.command = .setLinkFault) :
    ∃ latency jitter, Asks json latency jitter := by
  obtain ⟨all, before, object, after, hbefore, hafter, hobject, hall, hfinish, hjson⟩ :=
    parse_iff.mp hparse
  have hlisted := listed_of_finish hall hfinish
  have hrequired : ∀ name ∈ faultParameters, ∃ parameters, .parameters parameters ∈ all ∧
      name ∈ parameters.map Parameter.name := by
    intro name hname
    refine hlisted.required name ?_
    rcases hcommand with hcommand | hcommand
    · rw [hcommand]
      exact List.mem_cons_of_mem _ hname
    · rw [hcommand]
      exact List.mem_cons_of_mem _ (List.mem_cons_of_mem _ hname)
  obtain ⟨parameters, hmem, hlatency⟩ := hrequired (bytes "latency_ms") (by simp [faultParameters])
  obtain ⟨parameters', hmem', hjitter⟩ := hrequired (bytes "jitter_ms") (by simp [faultParameters])
  have hsame : RequestMember.parameters parameters' = .parameters parameters :=
    List.inj_on_of_nodup_map hlisted.once hmem' hmem rfl
  obtain rfl := RequestMember.parameters.inj hsame
  obtain ⟨a, ha, haname⟩ := List.mem_map.mp hlatency
  obtain ⟨b, hb, hbname⟩ := List.mem_map.mp hjitter
  obtain ⟨numbers, hnumbers⟩ : ∃ numbers, ObjectText (numberedMembers numbers) all object := by
    cases hobject with
    | empty => exact absurd hmem (by simp)
    | filled h =>
        obtain ⟨numbers, hnumbers⟩ := exists_numberedMembers h hlisted.once hlisted.parametersOnce
        exact ⟨numbers, .filled hnumbers⟩
  refine ⟨_, _, numbers, all, parameters', before, object, after, hbefore, hafter, hjson, hnumbers,
    hall, hmem, ?_, ?_, rfl, rfl⟩
  · cases a with
    | latency value => exact ⟨value, ha⟩
    | _ => exact absurd haname (by dsimp only [Parameter.name]; decide)
  · cases b with
    | jitter value => exact ⟨value, hb⟩
    | _ => exact absurd hbname (by dsimp only [Parameter.name]; decide)

/-! ## What is stored -/

/-- The members as the parser lists them. -/
private theorem requestMembers_of_numbered {numbers : Bytes → Nat} {all : List RequestMember}
    {object : Bytes} (h : ObjectText (numberedMembers numbers) all object) :
    ObjectText requestMembers all object := by
  refine h.mono ?_ fun a _ value hvalue => ?_
  · exact fun _ => rfl
  · cases a with
    | parameters parameters =>
        have hobject : ObjectText (numberedParameters numbers) parameters value := hvalue
        show ObjectText parameterMembers parameters value
        refine hobject.mono ?_ ?_
        · exact fun _ => rfl
        · exact fun _ _ _ hread => hread.1
    | _ => exact hvalue

/-- A number of milliseconds as it is read from its numeral. -/
private theorem value_of_numeral {value : Int} {n : Nat} {text : Bytes}
    (hvalue : MillisecondsText value text) (hn : Numeral n text) :
    value = Int.bmod ((n : Int) * 1000000) (2 ^ 64) := by
  obtain ⟨k, hk, _, hconverted⟩ := hvalue
  rw [hconverted, ← hk.2.2, hn.2.2]

/-- **The latency and jitter of a parsed request are the numbers it asks for**,
converted. -/
theorem stored_of_asks {json : Bytes} {latency jitter : Nat} {request : ControlRequest}
    (hasks : Asks json latency jitter) (hparse : controlRequestFromJson json = .ok request) :
    request.fault.configuration.latency = Int.bmod ((latency : Int) * 1000000) (2 ^ 64) ∧
      request.fault.configuration.jitter = Int.bmod ((jitter : Int) * 1000000) (2 ^ 64) := by
  obtain ⟨numbers, all, parameters, before, object, after, hbefore, hafter, hjson, hobject, hall,
    hmem, ⟨delay, hdelay⟩, ⟨spread, hspread⟩, rfl, rfl⟩ := hasks
  obtain ⟨all', before', object', after', hbefore', hafter', hobject', hall', hfinish, hjson'⟩ :=
    parse_iff.mp hparse
  -- Both listings are what the reader reads, so they come to the same.
  have hread : readObject readMember {} json = .ok (all.foldl RequestMember.set {}, after) :=
    (readObject_iff readMember_implements).mpr
      ⟨all, before, object, hbefore, requestMembers_of_numbered hobject, hall, rfl, hjson⟩
  have hread' : readObject readMember {} json = .ok (all'.foldl RequestMember.set {}, after') :=
    (readObject_iff readMember_implements).mpr
      ⟨all', before', object', hbefore', hobject', hall', rfl, hjson'⟩
  have hsame := (Prod.mk.inj (Except.ok.inj (hread.symm.trans hread'))).1
  have hrequest := (finish_ok hfinish).1
  rw [← hsame] at hrequest
  obtain ⟨hfresh, hnodup⟩ := RequestMember.freshAll_iff.mp hall
  have honce := (Parameter.freshAll_iff.mp (hfresh _ hmem).2).2
  -- The parameters may as well come last, and each of them last of all.
  obtain ⟨rest, hlast⟩ := foldl_set_last requestMembers RequestMember.set_comm hmem hnodup {}
  have hfold : request = (parameters.foldl Parameter.set
      (rest.foldl RequestMember.set {}).parameters).request := by
    rw [← hrequest, hlast]
    rfl
  obtain ⟨ptext, hptext⟩ := hobject.reads _ hmem
  have hparameters : ObjectText (numberedParameters numbers) parameters ptext := hptext
  constructor
  · obtain ⟨others, hothers⟩ := foldl_set_last parameterMembers Parameter.set_comm hdelay honce
      (rest.foldl RequestMember.set {}).parameters
    obtain ⟨text, htext, hnumeral⟩ := hparameters.reads _ hdelay
    rw [hfold, hothers]
    exact value_of_numeral htext (hnumeral rfl)
  · obtain ⟨others, hothers⟩ := foldl_set_last parameterMembers Parameter.set_comm hspread honce
      (rest.foldl RequestMember.set {}).parameters
    obtain ⟨text, htext, hnumeral⟩ := hparameters.reads _ hspread
    rw [hfold, hothers]
    exact value_of_numeral htext (hnumeral rfl)

/-- A wrapped product is the product where that is a signed 64-bit number. -/
private theorem bmod_eq_iff (n : Nat) :
    Int.bmod ((n : Int) * 1000000) (2 ^ 64) = (n : Int) * 1000000 ↔
      (n : Int) * 1000000 < 2 ^ 63 := by
  constructor
  · intro h
    have hlt := Int.bmod_lt (x := (n : Int) * 1000000) (m := 2 ^ 64) (by decide)
    rw [h] at hlt
    omega
  · intro h
    exact Int.bmod_eq_of_le (by omega) (by omega)

section
variable {β τ : Type}

/-- The fault that a request's target has. -/
def ControlRequest.storedFault (request : ControlRequest) (controller : TopologyController) :
    Option FaultConfiguration :=
  match request.command with
  | .setLinkFault => controller.linkFault request.fault.firstEndpoint request.fault.secondEndpoint
  | _ => controller.portFault request.fault.portId

/-- What an accepted fault command stores is its configuration. -/
theorem storedFault_of_accepted {service : ControlService β τ} {controller : TopologyController}
    {env : Environment} {json : Bytes} {request : ControlRequest} {d : Dispatched β τ}
    (hdispatch : service.dispatch controller env json = some d)
    (haccepted : d.1.reply.accepted = true) (hparse : controlRequestFromJson json = .ok request)
    (hcommand : request.command = .setPortFault ∨ request.command = .setLinkFault) :
    request.storedFault d.2.2 = some request.fault.configuration := by
  rcases dispatch_cases hdispatch with hrefuses | ⟨request', hadmits, haccepts⟩
  · exact absurd (hrefuses.unchanged.1.symm.trans haccepted) (by simp)
  · have hsame := (ControlService.admits_eq_some.mp hadmits).1
    obtain rfl := Except.ok.inj (hparse.symm.trans hsame)
    rcases hcommand with hcommand | hcommand
    · have htarget : request.faultTarget =
          some (.port request.fault.portId, some request.fault.configuration) := by
        simp only [ControlRequest.faultTarget, hcommand]
      simp only [ControlRequest.storedFault, hcommand]
      exact ((haccepts.effect.sets htarget).fault _).trans (if_pos rfl)
    · have htarget : request.faultTarget =
          some (.link s(request.fault.firstEndpoint, request.fault.secondEndpoint),
            some request.fault.configuration) := by
        simp only [ControlRequest.faultTarget, hcommand]
      simp only [ControlRequest.storedFault, hcommand]
      exact ((haccepts.effect.sets htarget).fault _).trans (if_pos rfl)

/-- **A fault's latency means what the request said exactly when its nanoseconds
are a signed 64-bit number.** Every accepted `set_port_fault` and
`set_link_fault` asks for some milliseconds of latency and jitter, and whatever
it asks for, the stored configuration has exactly these in nanoseconds if and
only if both fit. -/
theorem latency_exact_iff (service : ControlService β τ) (controller : TopologyController)
    (env : Environment) (json : Bytes) (request : ControlRequest) (d : Dispatched β τ)
    (hdispatch : service.dispatch controller env json = some d)
    (haccepted : d.1.reply.accepted = true) (hparse : controlRequestFromJson json = .ok request)
    (hcommand : request.command = .setPortFault ∨ request.command = .setLinkFault) :
    (∃ latency jitter, Asks json latency jitter) ∧
      ∀ latency jitter, Asks json latency jitter →
        ((∃ fault, request.storedFault d.2.2 = some fault ∧
            fault.latency = latency * 1000000 ∧ fault.jitter = jitter * 1000000) ↔
          (latency : Int) * 1000000 < 2 ^ 63 ∧ (jitter : Int) * 1000000 < 2 ^ 63) := by
  refine ⟨exists_asks hparse hcommand, fun latency jitter hasks => ?_⟩
  obtain ⟨hlatency, hjitter⟩ := stored_of_asks hasks hparse
  have hstored := storedFault_of_accepted hdispatch haccepted hparse hcommand
  rw [hstored, ← bmod_eq_iff, ← bmod_eq_iff, ← hlatency, ← hjitter]
  constructor
  · rintro ⟨fault, hfault, hdelay, hspread⟩
    obtain rfl := Option.some.inj hfault
    exact ⟨hdelay, hspread⟩
  · rintro ⟨hdelay, hspread⟩
    exact ⟨_, rfl, hdelay, hspread⟩

end

/-- The parameters of a request to slow the first port down. -/
def slowPortParameters (latency : Nat) : List Parameter :=
  [.portId (bytes "h1"), .latency (Int.bmod ((latency : Int) * 1000000) (2 ^ 64)), .jitter 0, .loss 0,
    .duplication 0, .bandwidth 0, .blackhole false, .isolated false]

/-- Slowing the lab's first port down asks for that latency and no jitter. -/
theorem asks_slowPort {latency : Nat} (hbound : latency ≤ 2 ^ 63 - 1) :
    Asks (slowPort 1 "h1" latency) latency 0 := by
  have hparameters : List.Forall₂ (WritesMember (numberedParameters fun name =>
      if name = bytes "latency_ms" then latency else 0)) (slowPortParameters latency)
      [("port_id", jsonString (bytes "h1")), ("latency_ms", decimal latency),
        ("jitter_ms", decimal 0), ("loss_basis_points", decimal 0),
        ("duplication_basis_points", decimal 0), ("bandwidth_bits_per_second", decimal 0),
        ("blackhole", jsonBool false), ("isolated", jsonBool false)] :=
    .cons ⟨rfl, jsonString_text _, by simp [Parameter.countsMilliseconds]⟩ <|
      .cons ⟨rfl, ⟨latency, decimal_numeral _, hbound, rfl⟩, fun _ => decimal_numeral latency⟩ <|
      .cons ⟨rfl, ⟨0, decimal_numeral 0, by decide, rfl⟩, fun _ => decimal_numeral 0⟩ <|
      .cons ⟨rfl, decimal_numeral 0, by simp [Parameter.countsMilliseconds]⟩ <|
      .cons ⟨rfl, decimal_numeral 0, by simp [Parameter.countsMilliseconds]⟩ <|
      .cons ⟨rfl, decimal_numeral 0, by simp [Parameter.countsMilliseconds]⟩ <|
      .cons ⟨rfl, jsonBool_text false, by simp [Parameter.countsMilliseconds]⟩ <|
      .cons ⟨rfl, jsonBool_text false, by simp [Parameter.countsMilliseconds]⟩ .nil
  have hmembers : List.Forall₂ (WritesMember (numberedMembers fun name =>
      if name = bytes "latency_ms" then latency else 0))
      [.apiVersion 1, .requestId (bytes "r1"), .command .setPortFault, .topologyRevision 1,
        .parameters (slowPortParameters latency)]
      [("api_version", decimal 1), ("request_id", jsonString (bytes "r1")),
        ("command", jsonString (bytes "set_port_fault")), ("topology_revision", decimal 1),
        ("parameters", jsonObject
          [("port_id", jsonString (bytes "h1")), ("latency_ms", decimal latency),
            ("jitter_ms", decimal 0), ("loss_basis_points", decimal 0),
            ("duplication_basis_points", decimal 0), ("bandwidth_bits_per_second", decimal 0),
            ("blackhole", jsonBool false), ("isolated", jsonBool false)])] :=
    .cons ⟨rfl, decimal_numeral 1⟩ <| .cons ⟨rfl, jsonString_text _⟩ <|
      .cons ⟨rfl, jsonString_text _⟩ <| .cons ⟨rfl, decimal_numeral 1⟩ <|
      .cons ⟨rfl, jsonObject_text hparameters⟩ .nil
  refine ⟨_, _, slowPortParameters latency, [], _, [], blank_nil, blank_nil, ?_,
    jsonObject_text hmembers, ?_, by simp, ⟨_, List.mem_cons_of_mem _ List.mem_cons_self⟩,
    ⟨0, by simp [slowPortParameters]⟩, if_pos rfl, if_neg (by decide)⟩
  · rw [List.append_nil, List.nil_append]
    rfl
  · have honce : ((slowPortParameters latency).map Parameter.name).Nodup := by
      dsimp only [slowPortParameters, List.map, Parameter.name]
      decide
    refine RequestMember.freshAll_iff.mpr ⟨fun a ha => ?_, ?_⟩
    swap
    · dsimp only [List.map, RequestMember.name]
      decide
    simp only [List.mem_cons, List.not_mem_nil, or_false] at ha
    rcases ha with rfl | rfl | rfl | rfl | rfl
    · rfl
    · rfl
    · rfl
    · rfl
    · exact ⟨rfl, Parameter.freshAll_iff.mpr ⟨by simp [slowPortParameters, Parameter.fresh,
        Parameter.given], honce⟩⟩

/-- A port of the lab slowed down by five milliseconds. -/
theorem latency_exact_iff_slowPort :
    ∃ d, ∃ request : ControlRequest, labService.dispatch (({} : TopologyController).load labTopology) labEnv
        (slowPort 1 "h1" 5) = some d ∧
      ∃ fault, request.storedFault d.2.2 = some fault ∧ fault.latency = (5 : Nat) * 1000000 ∧
        fault.jitter = (0 : Nat) * 1000000 := by
  have hanswers : (labService.dispatch (({} : TopologyController).load labTopology) labEnv
      (slowPort 1 "h1" 5)).any (fun d => d.1.reply.accepted) = true := by decide +kernel
  have hparses : (controlRequestFromJson (slowPort 1 "h1" 5)).toOption.any
      (fun request => decide (request.command = .setPortFault)) = true := by decide +kernel
  obtain ⟨d, hd, haccepted⟩ := (Option.any_eq_true _ _).mp hanswers
  cases hrequest : controlRequestFromJson (slowPort 1 "h1" 5) with
  | error e =>
      rw [hrequest] at hparses
      cases hparses
  | ok request =>
      rw [hrequest] at hparses
      refine ⟨d, request, hd, ?_⟩
      exact ((latency_exact_iff labService _ labEnv _ request d hd haccepted hrequest
        (.inl (of_decide_eq_true hparses))).2 5 0 (asks_slowPort (by decide))).mpr (by decide)

/-- Five hours and a bit more than half a millisecond, in milliseconds: accepted,
and stored as less than half a millisecond. -/
theorem latency_wraps :
    Asks (slowPort 1 "h1" 18446744073710) 18446744073710 0 ∧
      (labService.dispatch (({} : TopologyController).load labTopology) labEnv
        (slowPort 1 "h1" 18446744073710)).any (fun d => d.1.reply.accepted &&
          d.2.2.portFault (bytes "h1") = some { latency := 448384 }) = true :=
  ⟨asks_slowPort (by decide), by decide +kernel⟩

end WireLab
