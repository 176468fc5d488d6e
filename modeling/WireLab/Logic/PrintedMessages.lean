import WireLab.Base.JsonSyntax
import WireLab.Logic.Framing
import WireLab.Logic.JsonWriting

/-!
# Every message is one line of JSON

The serialisers print no raw newline: strings escape it, and nothing else prints
one. What they print is JSON, so every request, reply and event is one object on
one line (`printed_message`) that a line can carry (`message_lined`).
-/

namespace WireLab

open Base Base.Json

/-- JSON without a raw newline. -/
structure Printed (part : Part) (text : Bytes) : Prop where
  json : JsonText part text
  line : newline ∉ text

/-- A double in fixed notation: digits, a point and more digits. -/
def FixedNotation (text : Bytes) : Prop :=
  ∃ sign integer fraction, sign ∈ [[], [0x2D]] ∧ IntegerText integer ∧ Digits fraction ∧
    text = sign ++ (integer ++ 0x2E :: fraction)

/-- Zero, as it is printed. -/
theorem fixedNotation_zero : FixedNotation (bytes "0.000000") := by
  have hsplit : bytes "0.000000" = [] ++ (decimal 0 ++ 0x2E :: bytes "000000") := by
    decide +kernel
  refine ⟨[], decimal 0, bytes "000000", by decide, decimal_integerText 0, ?_, hsplit⟩
  exact ⟨by decide +kernel, by decide +kernel⟩

private theorem newline_notMem_jsonCharacter :
    ∀ n < 256, newline ∉ jsonCharacter (UInt8.ofNat n) := by decide +kernel

private theorem newline_notMem_jsonString (value : Bytes) : newline ∉ jsonString value := by
  simp only [jsonString, List.mem_append, List.mem_cons, List.mem_flatMap, not_or, not_exists,
    not_and, List.not_mem_nil, not_false_eq_true, and_true]
  refine ⟨⟨by decide, fun c _ => ?_⟩, by decide⟩
  have hc := newline_notMem_jsonCharacter c.toNat (UInt8.toNat_lt c)
  rwa [UInt8.ofNat_toNat] at hc

private theorem newline_notMem_digits {digits : Bytes} (h : ∀ c ∈ digits, isDigit c = true) :
    newline ∉ digits := fun hmem => absurd (h newline hmem) (by decide)

@[simp] theorem printed_string (value : Bytes) : Printed .value (jsonString value) where
  json := .string (jsonString_spells value).body
  line := newline_notMem_jsonString value

theorem integer_json {sign integer : Bytes} (hsign : sign ∈ [[], [0x2D]])
    (hinteger : IntegerText integer) : JsonText .value (sign ++ integer) :=
  .number ⟨sign, integer, [], [], hsign, hinteger, .inl rfl, .inl rfl, by simp⟩

@[simp] theorem printed_decimal (n : Nat) : Printed .value (decimal n) where
  json := @integer_json [] _ (by simp) (decimal_integerText n)
  line := newline_notMem_digits fun _ => isDigit_of_mem_decimal

@[simp] theorem printed_int (value : Int) : Printed .value (jsonInt value) := by
  unfold jsonInt
  split
  · refine ⟨@integer_json [0x2D] _ (by simp) (decimal_integerText _), ?_⟩
    simp only [List.mem_cons, not_or]
    exact ⟨by decide, (printed_decimal _).line⟩
  · exact printed_decimal _

@[simp] theorem printed_bool (value : Bool) : Printed .value (jsonBool value) := by
  cases value with
  | true => exact ⟨.literal (by simp [jsonBool]), by decide⟩
  | false => exact ⟨.literal (by simp [jsonBool]), by decide⟩

theorem printed_fixed {text : Bytes} (h : FixedNotation text) : Printed .value text := by
  obtain ⟨sign, integer, fraction, hsign, hinteger, hfraction, rfl⟩ := h
  refine ⟨.number ⟨sign, integer, 0x2E :: fraction, [], hsign, hinteger,
    .inr ⟨fraction, hfraction, rfl⟩, .inl rfl, by simp⟩, ?_⟩
  simp only [List.mem_append, List.mem_cons, not_or]
  refine ⟨?_, newline_notMem_digits hinteger.1.2, by decide, newline_notMem_digits hfraction.2⟩
  simp only [List.mem_cons, List.not_mem_nil, or_false] at hsign
  rcases hsign with rfl | rfl <;> decide

private theorem printed_member {member : String × Bytes} (h : Printed .value member.2) :
    Printed .member (jsonMember member) where
  json := by
    have hmember := JsonText.member blank_nil (jsonString_spells (bytes member.1)).body blank_nil
      (.element blank_nil h.json blank_nil)
    simpa only [jsonMember, jsonString, List.nil_append, List.append_nil, List.append_assoc,
      List.cons_append] using hmember
  line := by
    simp only [jsonMember, List.mem_append, List.mem_cons, not_or]
    exact ⟨newline_notMem_jsonString _, by decide, h.line⟩

/-- What stands between brackets has commas between its items. -/
private theorem printed_intercalate {item items : Part} (hone : ∀ {text}, JsonText item text →
      JsonText items text)
    (hmore : ∀ {text texts}, JsonText item text → JsonText items texts →
      JsonText items (text ++ comma :: texts))
    {text : Bytes} {texts : List Bytes} (h : ∀ t ∈ text :: texts, Printed item t) :
    Printed items ([comma].intercalate (text :: texts)) := by
  induction texts generalizing text with
  | nil =>
      have htext := h text List.mem_cons_self
      rw [List.intercalate_singleton]
      exact ⟨hone htext.json, htext.line⟩
  | cons later texts ih =>
      have htext := h text List.mem_cons_self
      have hrest := ih fun t ht => h t (List.mem_cons_of_mem _ ht)
      rw [List.intercalate_cons_cons, List.append_assoc, List.singleton_append]
      refine ⟨hmore htext.json hrest.json, ?_⟩
      simp only [List.mem_append, List.mem_cons, not_or]
      exact ⟨htext.line, by decide, hrest.line⟩

private theorem newline_notMem_between {first last : UInt8} {body : Bytes}
    (hfirst : newline ≠ first) (hbody : newline ∉ body) (hlast : newline ≠ last) :
    newline ∉ first :: (body ++ [last]) := by
  simp only [List.mem_cons, List.mem_append, List.not_mem_nil, or_false, not_or]
  exact ⟨hfirst, hbody, hlast⟩

/-- **An object is printed on one line** if its values are. -/
theorem printed_object {members : List (String × Bytes)}
    (h : ∀ member ∈ members, Printed .value member.2) : Printed .value (jsonObject members) := by
  cases members with
  | nil => exact ⟨.emptyObject blank_nil, by decide⟩
  | cons member members =>
      have hbody : Printed .members ([comma].intercalate ((member :: members).map jsonMember)) := by
        refine printed_intercalate .oneMember .moreMembers fun text htext => ?_
        rw [← List.map_cons] at htext
        obtain ⟨written, hwritten, rfl⟩ := List.mem_map.mp htext
        exact printed_member (h written hwritten)
      exact ⟨.object hbody.json, newline_notMem_between (by decide) hbody.line (by decide)⟩

theorem printed_array {items : List Bytes} (h : ∀ item ∈ items, Printed .value item) :
    Printed .value (jsonArray items) := by
  cases items with
  | nil => exact ⟨.emptyArray blank_nil, by decide⟩
  | cons item items =>
      have hbody : Printed .elements ([comma].intercalate (item :: items)) := by
        refine @printed_intercalate .element _ .oneElement .moreElements _ _ fun text htext => ?_
        have htext := h text htext
        have helement := JsonText.element blank_nil htext.json blank_nil
        rw [List.nil_append, List.append_nil] at helement
        exact ⟨helement, htext.line⟩
      exact ⟨.array hbody.json, newline_notMem_between (by decide) hbody.line (by decide)⟩

/-- What is sent over a control connection. -/
inductive ControlMessage
  | request (request : ControlRequest)
  | reply (reply : ControlReply)
  | event (event : ControlEvent)

def ControlMessage.toJson (fixed : Float → Bytes) : ControlMessage → Bytes
  | .request value => value.toJson
  | .reply value => value.toJson
  | .event value => value.toJson fixed

private theorem printed_configuration (configuration : FaultConfiguration) :
    ∀ member ∈ configuration.members, Printed .value member.2 := by
  simp [FaultConfiguration.members]

private theorem printed_parameters (request : ControlRequest) :
    ∀ member ∈ request.parameters, Printed .value member.2 := by
  unfold ControlRequest.parameters
  cases request.command <;>
    simp only [List.forall_mem_cons, printed_string, printed_decimal, true_and] <;> first
    | exact printed_configuration _
    | simp

private theorem printed_stamp (stamp : EventStamp) (event : String) :
    ∀ member ∈ stamp.members event, Printed .value member.2 := by
  simp [EventStamp.members]

private theorem printed_anomaly (anomaly : AnomalyEvent) : Printed .value anomaly.toJson :=
  printed_object (by simp)

/-- An event is its stamp and members of its own. -/
private theorem printed_event {stamp : EventStamp} {event : String}
    {members : List (String × Bytes)} (h : ∀ member ∈ members, Printed .value member.2) :
    Printed .value (jsonObject (stamp.members event ++ members)) :=
  printed_object fun member hmember =>
    (List.mem_append.mp hmember).elim (printed_stamp stamp event member) (h member)

private theorem printed_result {fixed : Float → Bytes}
    (hfixed : ∀ x : Float, x.isFinite = true ∨ x = 0.0 → FixedNotation (fixed x))
    (event : BenchmarkResultEvent) : Printed .value (event.toJson fixed) := by
  have hnumber (x : Float) : Printed .value (jsonNumber fixed x) := by
    refine printed_fixed (hfixed _ ?_)
    split
    · next hfinite => exact .inl hfinite
    · exact .inr rfl
  refine printed_event ?_
  simp only [List.forall_mem_cons, printed_string, printed_bool, true_and]
  refine ⟨printed_object ?_, by simp⟩
  simp only [List.forall_mem_cons, printed_string, printed_decimal, hnumber, true_and]
  exact ⟨printed_object (by simp), by simp⟩

/-- **Every message is one line of JSON.** -/
theorem printed_message {fixed : Float → Bytes}
    (hfixed : ∀ x : Float, x.isFinite = true ∨ x = 0.0 → FixedNotation (fixed x))
    (message : ControlMessage) : Printed .value (message.toJson fixed) := by
  cases message with
  | request request =>
      refine printed_object (List.forall_mem_append.mpr ⟨by simp, ?_⟩)
      split
      · simp
      · simpa using printed_object (printed_parameters request)
  | reply reply =>
      refine printed_object ?_
      simp only [List.forall_mem_cons, printed_string, printed_decimal, printed_bool, true_and]
      refine ⟨?_, by simp⟩
      split <;> exact printed_string _
  | event event =>
      cases event with
      | switchMetrics event =>
          refine printed_event (List.forall_mem_singleton.mpr (printed_object ?_))
          simp
      | faultState event =>
          have hsecond : ∀ member ∈ (if event.secondEndpoint.isEmpty then []
              else [("second_endpoint", jsonString event.secondEndpoint)]),
              Printed .value member.2 := by
            split <;> simp
          have hconfiguration : ∀ member ∈ (if !event.active then []
              else [("configuration", jsonObject event.configuration.members)]),
              Printed .value member.2 := by
            split
            · simp
            · simpa using printed_object (printed_configuration event.configuration)
          refine printed_object (List.forall_mem_append.mpr ⟨List.forall_mem_append.mpr
            ⟨List.forall_mem_append.mpr ⟨printed_stamp _ _, by simp⟩, hsecond⟩, hconfiguration⟩)
      | topologyState event =>
          refine printed_event ?_
          simp only [List.forall_mem_cons, printed_string, true_and]
          refine ⟨printed_array fun node hnode => ?_, printed_array fun link hlink => ?_, by simp⟩
          · obtain ⟨node, _, rfl⟩ := List.mem_map.mp hnode
            exact printed_object (by simp)
          · obtain ⟨link, _, rfl⟩ := List.mem_map.mp hlink
            exact printed_object (by simp)
      | anomalyDetected event =>
          exact printed_event (List.forall_mem_singleton.mpr (printed_anomaly _))
      | policyAction event =>
          refine printed_event ?_
          simp only [List.forall_mem_cons, printed_string, printed_decimal, true_and]
          exact ⟨printed_anomaly _, by simp⟩
      | supervisionState event =>
          refine printed_event ?_
          simp only [List.forall_mem_cons, printed_decimal, true_and]
          refine ⟨printed_array fun binding hbinding => ?_, by simp⟩
          obtain ⟨binding, _, rfl⟩ := List.mem_map.mp hbinding
          exact printed_object (by simp)
      | benchmarkProgress event => exact printed_event (by simp)
      | benchmarkResult event => exact printed_result hfixed event

/-- A message as text is an object: it has its braces. -/
theorem message_braces (fixed : Float → Bytes) (message : ControlMessage) :
    ∃ body, message.toJson fixed = openBrace :: (body ++ [closeBrace]) := by
  have hobject (members : List (String × Bytes)) :
      ∃ body, jsonObject members = openBrace :: (body ++ [closeBrace]) := ⟨_, rfl⟩
  cases message with
  | request request => exact hobject _
  | reply reply => exact hobject _
  | event event =>
      cases event with
      | switchMetrics => exact hobject _
      | faultState => exact hobject _
      | topologyState => exact hobject _
      | anomalyDetected => exact hobject _
      | policyAction => exact hobject _
      | supervisionState => exact hobject _
      | benchmarkProgress => exact hobject _
      | benchmarkResult => exact hobject _

theorem message_lined {fixed : Float → Bytes}
    (hfixed : ∀ x : Float, x.isFinite = true ∨ x = 0.0 → FixedNotation (fixed x))
    {messages : List ControlMessage} :
    ∀ line ∈ messages.map (ControlMessage.toJson fixed), Lined line := by
  intro line hmem
  obtain ⟨message, _, rfl⟩ := List.mem_map.mp hmem
  have hprinted := printed_message hfixed message
  obtain ⟨body, hbody⟩ := message_braces fixed message
  refine ⟨by rw [hbody]; simp, hprinted.line, ?_⟩
  rw [hbody, ← List.cons_append, List.getLast?_append]
  exact (by decide : some closeBrace ≠ some (0x0D : UInt8))

end WireLab
