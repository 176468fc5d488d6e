import WireLab.Logic.Sending

/-!
# Partial sends never corrupt a client's stream

A connection as a system of its own (`sending`): messages are queued, events are
pushed and the outbox is flushed in any order, while the socket takes as much as
it likes, blocks or fails. The invariant is `Flows`; every connection of the
server has it as well.
-/

namespace WireLab

open Base

section
variable {σ : Type} {platform : Platform σ} {config : ControlServerConfig}

/-- What the server does to a connection's outbox. -/
inductive SendingCall
  | enqueue (message : Message)
  | broadcast (event : ControlEvent)
  | flush

def SendingCall.run (platform : Platform σ) (config : ControlServerConfig) (client : Client σ) :
    SendingCall → Client σ
  | .enqueue message => client.enqueue platform config message
  | .broadcast event => client.push platform config event
  | .flush => (client.flush platform).2

/-- Sending to one connection, from its first message on. -/
def sending (platform : Platform σ) (config : ControlServerConfig) :
    TSys (Client σ) SendingCall where
  init client := ∃ socket, client = { socket }
  step client call := some (call.run platform config client)

private theorem flows_run {client : Client σ} (h : Flows platform.fixed config client)
    (call : SendingCall) : Flows platform.fixed config (call.run platform config client) := by
  cases call with
  | enqueue message => exact h.enqueue message
  | broadcast event => exact h.talks (.push event (.refl client))
  | flush => exact h.flushRounds _

/-- Nothing is done to a connection that has been given up. -/
private theorem run_congested {client : Client σ} (h : Flows platform.fixed config client)
    (hcongested : client.congested = true) (call : SendingCall) :
    call.run platform config client = client := by
  have hempty := h.silent hcongested
  have henqueue : ∀ message, client.enqueue platform config message = client :=
    fun message => if_pos hcongested
  cases call with
  | enqueue message => exact henqueue message
  | broadcast event =>
      simp only [SendingCall.run, Client.push, henqueue, hempty, List.isEmpty_nil, if_true]
  | flush =>
      simp only [SendingCall.run, Client.flush, hempty, List.length_nil, Client.flushRounds]

/-- **Partial sends never corrupt a client's stream.** Whatever the socket
answers: the bytes it has taken are a prefix of the messages enqueued, each with
its newline; the outbox stays within its bound; and a connection that has been
marked congested is left alone. So it is for every connection of the server. -/
theorem partial_sends_keep_stream (platform : Platform σ) (config : ControlServerConfig) :
    (∀ client, (sending platform config).Reachable client →
      client.handed <+: wire platform.fixed client.log ∧
      client.outbox.length ≤ config.maxPendingBytes ∧
      (client.congested = true → ∀ calls after,
        (sending platform config).exec client calls = some after →
          after.handed = client.handed ∧ after.log = client.log ∧ after.outbox = [])) ∧
    (∀ (β τ : Type) (server : ControlServer σ β τ), (serving platform β τ).Reachable server →
      ∀ client, client ∈ server.clients ∨ client ∈ server.departed →
        client.handed <+: wire platform.fixed client.log ∧
        client.outbox.length ≤ server.config.maxPendingBytes ∧
        (client.congested = true → client.outbox = [])) := by
  constructor
  · intro client hreach
    have hflows : Flows platform.fixed config client := by
      refine TSys.Inductive.invariant (T := sending platform config)
        ⟨fun start hinit => ?_, fun before call after hbefore hstep => ?_⟩ client hreach
      · obtain ⟨socket, rfl⟩ := hinit
        exact flows_fresh _ _ socket
      · exact Option.some.inj hstep ▸ flows_run hbefore call
    refine ⟨hflows.handed.trans hflows.offered, hflows.bounded, fun hcongested calls after hrun => ?_⟩
    have hstays : after = client := by
      induction calls with
      | nil => exact (Option.some.inj hrun).symm
      | cons call calls ih =>
          simp only [TSys.exec, sending, Option.bind_some, run_congested hflows hcongested] at hrun
          exact ih hrun
    rw [hstays]
    exact ⟨rfl, rfl, hflows.silent hcongested⟩
  · intro β τ server hreach client hclient
    have heveryone := flows_everyone hreach
    have hflows : Flows platform.fixed server.config client := by
      rcases hclient with hlive | hdeparted
      · exact heveryone.live client hlive
      · exact heveryone.departed client hdeparted
    exact ⟨hflows.handed.trans hflows.offered, hflows.bounded, hflows.silent⟩

end
end WireLab
