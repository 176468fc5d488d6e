import WireLab.Logic.ReplyText

/-!
# Replies and events are distinguishable on the wire

A client tells replies from events by parsing: what parses is a reply. Every reply
the serialiser writes is read back, and no event parses, whatever its fields hold:
after its first member every event has a member that no reply has.
-/

namespace WireLab

open Base Base.Json JsonScanner ControlReplyParser

/-- **Replies and events are distinguishable on the wire.** -/
theorem replies_events_apart :
    (∀ reply : ControlReply, reply.OtherEmpty →
      controlReplyFromJson reply.toJson = .ok reply) ∧
    ∀ (fixed : Float → Bytes) (event : ControlEvent),
      controlReplyFromJson (event.toJson fixed) = .error .invalidField :=
  ⟨fun _ => parse_reply, parse_event⟩

theorem replies_events_apart_rejected :
    controlReplyFromJson (ControlReply.toJson { requestId := bytes "\"1", error := bytes "no\n" }) =
        .ok { requestId := bytes "\"1", error := bytes "no\n" } ∧
      controlReplyFromJson (ControlEvent.toJson (fun _ => []) (.supervisionState
        { eventSequence := 1, topologyRevision := 0, analysedFrames := 0, blockedFrames := 0,
          bindings := [{ portId := bytes "\"accepted\":true", endpoint := [] }] })) =
        .error .invalidField :=
  ⟨replies_events_apart.1 _ rfl, replies_events_apart.2 _ _⟩

end WireLab
