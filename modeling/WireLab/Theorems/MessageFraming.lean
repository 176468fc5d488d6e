import WireLab.Logic.PrintedMessages

/-!
# Framing is sound, however the bytes arrive

Messages on lines of their own are found again, once each and in order, by the
server's splitter and by the client's, whatever the reads that bring them.
-/

namespace WireLab

open Base Base.Json

section
variable {fixed : Float → Bytes}

/-- What has arrived of a stream of messages: the complete ones, and the beginning
of the next. -/
private theorem arrived
    (hfixed : ∀ x : Float, x.isFinite = true ∨ x = 0.0 → FixedNotation (fixed x))
    {messages : List ControlMessage} {front rest : Bytes}
    (h : front ++ rest = lines (messages.map (ControlMessage.toJson fixed))) :
    ∃ complete later partialBytes, messages = complete ++ later ∧
      StartsNext partialBytes (later.map (ControlMessage.toJson fixed)) ∧
      front = lines (complete.map (ControlMessage.toJson fixed)) ++ partialBytes ∧
      (rest = [] → later = []) ∧
      takeMessages front = (complete.map (ControlMessage.toJson fixed), partialBytes) := by
  obtain ⟨completeLines, laterLines, partialBytes, hsplit, rfl, hbegins⟩ := lines_front h
  obtain ⟨complete, later, rfl, rfl, rfl⟩ := List.map_eq_append_iff.mp hsplit
  refine ⟨complete, later, partialBytes, rfl, hbegins, rfl, ?_, ?_⟩
  · rintro rfl
    rw [List.append_nil, List.map_append] at h
    exact List.map_eq_nil_iff.mp (lines_whole (message_lined hfixed) hbegins h)
  · rw [takeMessages_lines (message_lined hfixed),
      takeMessages_unended (hbegins.line (message_lined hfixed)), List.append_nil]

/-- **Framing is sound, however the bytes arrive.** Every message is one JSON object
on one line. Of any stream of messages, cut into reads in any way, the server's
splitter and the client's take the messages that are complete, once each and in
order; what stays buffered is the beginning of the next. -/
theorem messages_framed
    (hfixed : ∀ x : Float, x.isFinite = true ∨ x = 0.0 → FixedNotation (fixed x)) :
    (∀ message : ControlMessage,
      JsonObject (message.toJson fixed) ∧ newline ∉ message.toJson fixed) ∧
    (∀ (messages : List ControlMessage) (reads : List Bytes) (rest : Bytes),
      reads.flatten ++ rest = lines (messages.map (ControlMessage.toJson fixed)) →
      ∃ complete later partialBytes, messages = complete ++ later ∧
        StartsNext partialBytes (later.map (ControlMessage.toJson fixed)) ∧
        reads.flatten = lines (complete.map (ControlMessage.toJson fixed)) ++ partialBytes ∧
        (rest = [] → later = []) ∧
        reads.foldl feed ([], []) =
          (complete.map (ControlMessage.toJson fixed), partialBytes)) ∧
    (∀ (messages : List ControlMessage) (calls : List InboxCall) (rest : Bytes),
      calls.flatMap InboxCall.bytes ++ rest =
        lines (messages.map (ControlMessage.toJson fixed)) →
      ∃ taken waiting later partialBytes, messages = taken ++ (waiting ++ later) ∧
        StartsNext partialBytes (later.map (ControlMessage.toJson fixed)) ∧
        calls.flatMap InboxCall.bytes =
          lines ((taken ++ waiting).map (ControlMessage.toJson fixed)) ++ partialBytes ∧
        (rest = [] → later = []) ∧
        (calls.foldl InboxCall.run ([], [])).1 = taken.map (ControlMessage.toJson fixed) ∧
        (takeMessage (calls.foldl InboxCall.run ([], [])).2).1 =
          (waiting.map (ControlMessage.toJson fixed)).head? ∧
        (waiting = [] →
          (takeMessage (calls.foldl InboxCall.run ([], [])).2).2 = partialBytes)) := by
  refine ⟨fun message => ?_, fun messages reads rest h => ?_, fun messages calls rest h => ?_⟩
  · have hprinted := printed_message hfixed message
    obtain ⟨body, hbody⟩ := message_braces fixed message
    refine ⟨⟨[], _, [], blank_nil, blank_nil, hprinted.json, by rw [hbody]; rfl, by simp⟩,
      hprinted.line⟩
  · obtain ⟨complete, later, partialBytes, hmessages, hbegins, hfront, hwhole, htaken⟩ :=
      arrived hfixed h
    exact ⟨complete, later, partialBytes, hmessages, hbegins, hfront, hwhole,
      (feed_reads reads).trans htaken⟩
  · obtain ⟨complete, later, partialBytes, rfl, hbegins, hfront, hwhole, htaken⟩ :=
      arrived hfixed h
    have hcalls := (takeMessages_calls calls).symm.trans htaken
    generalize calls.foldl InboxCall.run ([], []) = state at hcalls ⊢
    obtain ⟨hboth, hunended⟩ := Prod.mk.inj hcalls
    obtain ⟨taken, waiting, rfl, hyielded, hwaiting⟩ := List.map_eq_append_iff.mp hboth.symm
    have hhead := (takeMessage_spec state.2).1
    rw [← hwaiting] at hhead
    refine ⟨taken, waiting, later, partialBytes, by rw [List.append_assoc], hbegins, hfront, hwhole,
      hyielded.symm, hhead, ?_⟩
    rintro rfl
    exact (takeMessage_none hhead).trans hunended

end

/-- The result of a run that was stopped before its first packet. -/
def stoppedResult : ControlEvent :=
  .benchmarkResult {
    eventSequence := 1
    topologyRevision := 0
    operationId := bytes "op"
    completed := false
    result := {
      backend := bytes "cpu", scenario := bytes "udp", seed := 1, frameSize := 64, batchSize := 1
      totalPackets := 0, completedPackets := 0, receivedPackets := 0, receivedBytes := 0
      malformedPackets := 0, broadcastPackets := 0, unknownUnicastPackets := 0
      knownUnicastPackets := 0, elapsedNs := 0, packetsPerSecond := 0.0
      goodputBitsPerSecond := 0.0, lossPercentage := 0.0, batchAnalysisLatencyP50Ns := 0
      batchAnalysisLatencyP95Ns := 0, batchAnalysisLatencyP99Ns := 0, timing := {} } }

/-- Its doubles print as zero with six decimals; the stream is cut after its first byte. -/
theorem messages_framed_stoppedResult :
    let toJson := ControlMessage.toJson fun _ => bytes "0.000000"
    let messages := [.event stoppedResult, .reply {}]
    let stream := lines (messages.map toJson)
    JsonObject (toJson (.event stoppedResult)) ∧
      ∃ complete later partialBytes, messages = complete ++ later ∧
        StartsNext partialBytes (later.map toJson) ∧
        [stream.take 1, stream.drop 1].flatten = lines (complete.map toJson) ++ partialBytes ∧
        (([] : Bytes) = [] → later = []) ∧
        [stream.take 1, stream.drop 1].foldl feed ([], []) =
          (complete.map toJson, partialBytes) := by
  have hfixed : ∀ x : Float, x.isFinite = true ∨ x = 0.0 →
      FixedNotation ((fun _ => bytes "0.000000") x) := fun _ _ => fixedNotation_zero
  refine ⟨((messages_framed hfixed).1 _).1, (messages_framed hfixed).2.1 _ _ [] ?_⟩
  rw [List.append_nil, List.flatten_cons, List.flatten_cons, List.flatten_nil, List.append_nil,
    List.take_append_drop]

end WireLab
