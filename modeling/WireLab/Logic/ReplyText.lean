import WireLab.Logic.JsonWriting
import WireLab.Logic.ObjectReader

/-!
# The texts of replies

What a reply may be made of, as for requests: `ReplyMember` is one member of the
reply object, and the parser accepts exactly the objects whose members, each given
once, include the four that every reply has (`parse_iff`). So it reads back every
reply that is written (`parse_reply`), and no event (`parse_event`): after its
first member an event has one that no reply has.
-/

namespace WireLab

open Base Base.Json JsonScanner

namespace ControlReplyParser

/-- One member of a reply with its value. -/
inductive ReplyMember
  | apiVersion (apiVersion : UInt32)
  | requestId (requestId : Bytes)
  | accepted (accepted : Bool)
  | topologyRevision (topologyRevision : UInt64)
  | operationId (operationId : Bytes)
  | error (error : Bytes)

namespace ReplyMember

def name : ReplyMember → Bytes
  | .apiVersion _ => bytes "api_version"
  | .requestId _ => bytes "request_id"
  | .accepted _ => bytes "accepted"
  | .topologyRevision _ => bytes "topology_revision"
  | .operationId _ => bytes "operation_id"
  | .error _ => bytes "error"

/-- The texts of its value. -/
def Reads : ReplyMember → Bytes → Prop
  | .apiVersion value => Numeral value.toNat
  | .topologyRevision value => Numeral value.toNat
  | .requestId value | .operationId value | .error value => StringText value
  | .accepted value => BoolText value

def given (state : ReplyState) : ReplyMember → Bool
  | .apiVersion _ => state.hasApiVersion
  | .requestId _ => state.hasRequestId
  | .accepted _ => state.hasAccepted
  | .topologyRevision _ => state.hasTopologyRevision
  | .operationId _ => state.hasOperationId
  | .error _ => state.hasError

def fresh (state : ReplyState) (a : ReplyMember) : Prop := (!a.given state) = true

def set (state : ReplyState) : ReplyMember → ReplyState
  | .apiVersion value =>
      { state with reply := { state.reply with apiVersion := value }, hasApiVersion := true }
  | .requestId value =>
      { state with reply := { state.reply with requestId := value }, hasRequestId := true }
  | .accepted value =>
      { state with reply := { state.reply with accepted := value }, hasAccepted := true }
  | .topologyRevision value =>
      { state with
        reply := { state.reply with topologyRevision := value }, hasTopologyRevision := true }
  | .operationId value =>
      { state with reply := { state.reply with operationId := value }, hasOperationId := true }
  | .error value =>
      { state with reply := { state.reply with error := value }, hasError := true }

end ReplyMember

/-- The members of a reply object. -/
def replyMembers : Members ReplyMember where
  name := ReplyMember.name
  Reads := ReplyMember.Reads

private theorem readMember_sound {state state' : ReplyState} {key input rest : Bytes}
    (h : readMember state key input = .ok (state', rest)) :
    ∃ a w value, replyMembers.name a = key ∧ ReplyMember.fresh state a ∧
      replyMembers.Reads a value ∧ Blank w ∧ state' = ReplyMember.set state a ∧
      input = w ++ (value ++ rest) := by
  unfold readMember at h
  rcases ite_eq_iff.mp h with ⟨hif, h⟩ | ⟨_, h⟩
  · exact branch_sound scans_uint32 hif .apiVersion h fun _ => ⟨rfl, id, fun _ => id⟩
  rcases ite_eq_iff.mp h with ⟨hif, h⟩ | ⟨_, h⟩
  · exact branch_sound scans_string hif .requestId h fun _ => ⟨rfl, id, fun _ => id⟩
  rcases ite_eq_iff.mp h with ⟨hif, h⟩ | ⟨_, h⟩
  · exact branch_sound scans_bool hif .accepted h fun _ => ⟨rfl, id, fun _ => id⟩
  rcases ite_eq_iff.mp h with ⟨hif, h⟩ | ⟨_, h⟩
  · exact branch_sound scans_uint64 hif .topologyRevision h fun _ => ⟨rfl, id, fun _ => id⟩
  rcases ite_eq_iff.mp h with ⟨hif, h⟩ | ⟨_, h⟩
  · exact branch_sound scans_string hif .operationId h fun _ => ⟨rfl, id, fun _ => id⟩
  rcases ite_eq_iff.mp h with ⟨hif, h⟩ | ⟨_, h⟩
  · exact branch_sound scans_string hif .error h fun _ => ⟨rfl, id, fun _ => id⟩
  exact absurd h (by simp)

private theorem readMember_complete {state : ReplyState} {a : ReplyMember}
    {w value rest : Bytes} (hfresh : ReplyMember.fresh state a)
    (hvalue : replyMembers.Reads a value) (hw : Blank w) (hrest : NoDigit rest) :
    readMember state (replyMembers.name a) (w ++ (value ++ rest)) =
      .ok (ReplyMember.set state a, rest) := by
  unfold readMember
  cases a
  all_goals
    dsimp only [replyMembers, ReplyMember.name]
    repeat refine (if_neg fun h => absurd h.1 (by decide)).trans ?_
    refine (if_pos ⟨rfl, hfresh⟩).trans ?_
  case apiVersion v =>
    exact branch_complete scans_uint32 hw hvalue hrest fun v => ReplyMember.set state (.apiVersion v)
  case requestId v =>
    exact branch_complete scans_string hw hvalue hrest fun v => ReplyMember.set state (.requestId v)
  case accepted v =>
    exact branch_complete scans_bool hw hvalue hrest fun v => ReplyMember.set state (.accepted v)
  case topologyRevision v =>
    exact branch_complete scans_uint64 hw hvalue hrest fun v =>
      ReplyMember.set state (.topologyRevision v)
  case operationId v =>
    exact branch_complete scans_string hw hvalue hrest fun v =>
      ReplyMember.set state (.operationId v)
  case error v =>
    exact branch_complete scans_string hw hvalue hrest fun v => ReplyMember.set state (.error v)

/-- **The member reader reads members of replies.** -/
theorem readMember_implements :
    Implements replyMembers ReplyMember.fresh ReplyMember.set readMember where
  complete := readMember_complete
  sound := readMember_sound

theorem readMembers_eq (fuel : Nat) (state : ReplyState) (input : Bytes) :
    readMembers fuel state input = membersLoop readMember fuel state input := by
  induction fuel generalizing state input with
  | zero => rfl
  | succ fuel ih =>
      simp only [readMembers, membersLoop, ih]
      rfl

/-- What a complete object must have had. -/
def finish (state : ReplyState) : Except ControlParseError ControlReply :=
  if !state.hasApiVersion || !state.hasRequestId || !state.hasAccepted ||
      !state.hasTopologyRevision then .error .missingRequiredField
  else .ok state.reply

theorem parse_eq (input : Bytes) : parse input = parseObject readMember finish {} input := by
  simp only [parse, parseObject, readMembers_eq]
  rfl

/-- **What the parser accepts**: an object whose members, each given once, make a
complete reply, with blanks around it. -/
theorem parse_iff {input : Bytes} {reply : ControlReply} :
    parse input = .ok reply ↔ ∃ all before text after, Blank before ∧ Blank after ∧
      ObjectText replyMembers all text ∧ FreshAll ReplyMember.fresh ReplyMember.set {} all ∧
      finish (all.foldl ReplyMember.set {}) = .ok reply ∧ input = before ++ (text ++ after) := by
  rw [parse_eq]
  exact parseObject_iff readMember_implements (fun _ => by simp [finish])

end ControlReplyParser
open ControlReplyParser

/-- The field that the verdict of a reply does not use is empty. -/
def ControlReply.OtherEmpty (reply : ControlReply) : Prop :=
  (if reply.accepted then reply.error else reply.operationId) = []

/-! ## Replies -/

/-- The members a reply is written with. -/
def ControlReply.memberList (reply : ControlReply) : List ReplyMember :=
  [.apiVersion reply.apiVersion, .requestId reply.requestId, .accepted reply.accepted,
    .topologyRevision reply.topologyRevision,
    if reply.accepted then .operationId reply.operationId else .error reply.error]

theorem ControlReply.toJson_text (reply : ControlReply) :
    ObjectText replyMembers reply.memberList reply.toJson := by
  refine jsonObject_text <| .cons ⟨rfl, decimal_numeral _⟩ <| .cons ⟨rfl, jsonString_text _⟩ <|
    .cons ⟨rfl, jsonBool_text _⟩ <| .cons ⟨rfl, decimal_numeral _⟩ <| .cons ?_ .nil
  split
  · exact ⟨rfl, jsonString_text _⟩
  · exact ⟨rfl, jsonString_text _⟩

/-- A reply is read back from its text. -/
theorem parse_reply {reply : ControlReply} (hother : reply.OtherEmpty) :
    controlReplyFromJson reply.toJson = .ok reply := by
  refine parse_iff.mpr ⟨reply.memberList, [], _, [], blank_nil, blank_nil, reply.toJson_text,
    ?_, ?_, by simp⟩
  · obtain ⟨apiVersion, requestId, accepted, topologyRevision, operationId, error⟩ := reply
    cases accepted with
    | true => exact ⟨rfl, rfl, rfl, rfl, rfl, trivial⟩
    | false => exact ⟨rfl, rfl, rfl, rfl, rfl, trivial⟩
  · obtain ⟨apiVersion, requestId, accepted, topologyRevision, operationId, error⟩ := reply
    cases accepted with
    | true =>
        obtain rfl : error = [] := hother
        rfl
    | false =>
        obtain rfl : operationId = [] := hother
        rfl

/-- Every written reply is read, and carries its id; only the unused field is lost. -/
theorem parse_written (reply : ControlReply) :
    ∃ parsed, controlReplyFromJson reply.toJson = .ok parsed ∧
      parsed.requestId = reply.requestId := by
  cases hverdict : reply.accepted with
  | true =>
      have hsame : reply.toJson = { reply with error := [] }.toJson := by
        simp only [ControlReply.toJson, hverdict, if_true]
      rw [hsame]
      exact ⟨_, parse_reply (by simp [ControlReply.OtherEmpty, hverdict]), rfl⟩
  | false =>
      have hsame : reply.toJson = { reply with operationId := [] }.toJson := by
        simp only [ControlReply.toJson, hverdict, Bool.false_eq_true, if_false]
      rw [hsame]
      exact ⟨_, parse_reply (by simp [ControlReply.OtherEmpty, hverdict]), rfl⟩

/-! ## Events -/

/-- No reply has an event's second member. -/
private theorem readMember_eventSequence (state : ReplyState) (input : Bytes) :
    readMember state (bytes "event_sequence") input = .error .invalidField := by
  unfold readMember
  repeat refine (if_neg fun h => absurd h.1 (by decide)).trans ?_
  rfl

/-- An object that begins as events do is refused. -/
private theorem parse_stamped (apiVersion : UInt32) (eventSequence : Bytes)
    (rest : List (String × Bytes)) :
    controlReplyFromJson (jsonObject (("api_version", decimal apiVersion.toNat) ::
      ("event_sequence", eventSequence) :: rest)) = .error .invalidField := by
  have hfirst : MemberText replyMembers (.apiVersion apiVersion)
      (jsonMember ("api_version", decimal apiVersion.toNat)) :=
    jsonMember_text ⟨rfl, decimal_numeral _⟩
  -- What follows the first member begins with the name of the second.
  obtain ⟨value, htext⟩ : ∃ value, jsonObject (("api_version", decimal apiVersion.toNat) ::
      ("event_sequence", eventSequence) :: rest) =
        openBrace :: (jsonMember ("api_version", decimal apiVersion.toNat) ++ comma ::
          (quote :: ((bytes "event_sequence").flatMap jsonCharacter ++ quote :: colon :: value))) := by
    cases rest with
    | nil =>
        refine ⟨eventSequence ++ [closeBrace], ?_⟩
        simp [jsonObject, jsonMember, jsonString, List.intercalate]
    | cons member rest =>
        refine ⟨eventSequence ++ comma ::
          ([comma].intercalate ((member :: rest).map jsonMember) ++ [closeBrace]), ?_⟩
        simp [jsonObject, jsonMember, jsonString, List.intercalate_cons_cons]
  obtain ⟨w, later, hw, hstart⟩ := hfirst.starts
  rw [controlReplyFromJson, parse_eq, htext]
  generalize hbody : jsonMember ("api_version", decimal apiVersion.toNat) ++ comma ::
    (quote :: ((bytes "event_sequence").flatMap jsonCharacter ++ quote :: colon :: value)) = body
  have hopen : consume openBrace (openBrace :: body) = .ok body :=
    (consume_iff (by decide)).mpr ⟨[], blank_nil, rfl⟩
  have hclose : consume closeBrace body = .error .malformedJson := by
    rw [← hbody, hstart, List.append_assoc, List.cons_append]
    exact consume_other hw (by decide) (by decide) _
  obtain ⟨fuel, hfuel⟩ : ∃ fuel, body.length = fuel + 1 + 1 :=
    ⟨body.length - 2, by
      rw [← hbody]
      simp only [List.length_append, List.length_cons]
      omega⟩
  have hfresh : ReplyMember.fresh {} (.apiVersion apiVersion) := rfl
  have hloop : membersLoop readMember body.length {} body = .error .invalidField := by
    rw [hfuel, ← hbody, membersLoop_more readMember_implements hfirst (fuel + 1) hfresh]
    exact membersLoop_refused fuel (jsonString_spells _) (readMember_eventSequence _ _)
  simp only [parseObject, hopen, hclose, hloop, bind, Except.bind]

/-- No event is a reply. -/
theorem parse_event (fixed : Float → Bytes) (event : ControlEvent) :
    controlReplyFromJson (event.toJson fixed) = .error .invalidField := by
  cases event with
  | switchMetrics event => exact parse_stamped event.apiVersion _ _
  | faultState event => exact parse_stamped event.apiVersion _ _
  | topologyState event => exact parse_stamped event.apiVersion _ _
  | anomalyDetected event => exact parse_stamped event.apiVersion _ _
  | policyAction event => exact parse_stamped event.apiVersion _ _
  | supervisionState event => exact parse_stamped event.apiVersion _ _
  | benchmarkProgress event => exact parse_stamped event.apiVersion _ _
  | benchmarkResult event => exact parse_stamped event.apiVersion _ _

end WireLab
