import WireLab.Logic.Scripts

/-!
# The request size limit and pipelined requests

`drain` holds the size limit against everything that has piled up since the last
poll, not against a request: a client whose requests are all short is cut off as
soon as enough of them wait together, and those it sent later are never looked
at. As long as what waits fits, nobody is cut off for it, and every request that
arrives is dispatched once, in order.
-/

namespace WireLab

open Base

section
variable {α : Type} {send : α → Bytes → Sent × α} {fixed : Float → Bytes}

/-- The complete requests that have arrived from a client. -/
def Client.arrived (client : Client (Scripted α)) : List Bytes :=
  (takeMessages (streamOf client.socket.answers client.socket.position)).1

/-- What is known of a client between two reads. -/
private structure Served (cap : Nat) (client : Client (Scripted α)) : Prop where
  asked : client.asked = client.arrived
  inbox : client.inbox = buffered client.socket.answers client.socket.position
  partly : client.inbox = unfinished (streamOf client.socket.answers client.socket.position)
  fits : FitsUntil cap client.socket.answers client.socket.position
  drained : client.drained ≠ .outgrown

/-- What is known of it when it is gone. -/
private def Dismissed (cap : Nat) (client : Client (Scripted α)) : Prop :=
  client.asked = client.arrived ∧
    (client.drained = .outgrown ↔ ¬ FitsUntil cap client.socket.answers client.socket.position)

private theorem Served.dismissed {cap : Nat} {client : Client (Scripted α)} (h : Served cap client) :
    Dismissed cap client :=
  ⟨h.asked, fun hgrown => absurd hgrown h.drained, fun hnot => absurd h.fits hnot⟩

private theorem Served.talks {config : ControlServerConfig} {cap : Nat}
    {before after : Client (Scripted α)} (h : Served cap before)
    (htalks : Talks (scripted send fixed) config before [] after) : Served cap after := by
  obtain ⟨hanswers, hposition⟩ := htalks.script
  obtain ⟨hinbox, hdrained, hasked⟩ := htalks.frame
  rw [List.append_nil] at hasked
  refine ⟨?_, ?_, ?_, ?_, ?_⟩
  · rw [hasked, Client.arrived, hanswers, hposition]
    exact h.asked
  · rw [hinbox, hanswers, hposition]
    exact h.inbox
  · rw [hinbox, hanswers, hposition]
    exact h.partly
  · rw [hanswers, hposition]
    exact h.fits
  · rw [hdrained]
    exact h.drained

/-- A read dispatches what it completes, whether or not the connection is kept. -/
private theorem Served.reads {config : ControlServerConfig} {client after : Client (Scripted α)}
    (h : Served config.maxRequestBytes client)
    (htalks : Talks (scripted send fixed) config (client.reads (scripted send fixed) config)
      (client.requests (scripted send fixed) config) after) :
    let last := { after with inbox := client.partialRequest (scripted send fixed) config }
    Dismissed config.maxRequestBytes last ∧
      (last.drained ≠ .outgrown → Served config.maxRequestBytes last) := by
  obtain ⟨position, more, hend, hstream, hcase⟩ := drain_scripted send fixed
    (config.maxRequestBytes + 1) client.socket client.inbox (by omega) h.inbox.symm h.fits
  obtain ⟨hanswers, hposition⟩ := htalks.script
  obtain ⟨-, hdrained, hasked⟩ := htalks.frame
  have hsocket : (client.reads (scripted send fixed) config).socket =
      { client.socket with position } := congrArg Prod.fst hend
  have hbuffer : (client.drains (scripted send fixed) config).2.2 = client.inbox ++ more :=
    congrArg Prod.snd hend
  rw [hsocket] at hanswers hposition
  have hending : after.drained = (client.drains (scripted send fixed) config).1 := hdrained
  -- The stream up to here splits as its first part and then the buffer do.
  have hsplit : takeMessages (streamOf client.socket.answers position) =
      (client.arrived ++ (takeMessages (client.inbox ++ more)).1,
        (takeMessages (client.inbox ++ more)).2) := by
    rw [hstream, takeMessages_append, takeMessages_snd, ← h.partly]
    rfl
  have hmessages : after.asked = after.arrived := by
    rw [Client.arrived, hanswers, hposition, hsplit, hasked]
    show client.asked ++ (takeMessages (client.drains (scripted send fixed) config).2.2).1 = _
    rw [hbuffer, h.asked]
  have htail : client.partialRequest (scripted send fixed) config =
      (takeMessages (client.inbox ++ more)).2 := by
    rw [Client.partialRequest, hbuffer]
  refine ⟨⟨hmessages, ?_⟩, fun hopen => ?_⟩
  · show after.drained = .outgrown ↔ ¬ FitsUntil _ after.socket.answers after.socket.position
    rw [hanswers, hposition, hending]
    rcases hcase with ⟨hgrown, hnot⟩ | ⟨hnot, hfits, _⟩
    · exact ⟨fun _ => hnot, fun _ => hgrown⟩
    · exact ⟨fun hgrown => absurd hgrown hnot, fun hover => absurd hfits hover⟩
  · rcases hcase with ⟨hgrown, _⟩ | ⟨_, hfits, hleft⟩
    · exact absurd (hending.trans hgrown) hopen
    · refine ⟨hmessages, ?_, ?_, ?_, hopen⟩
      · show client.partialRequest _ config = buffered after.socket.answers after.socket.position
        rw [hanswers, hposition, hleft, htail, takeMessages_snd]
      · show client.partialRequest _ config =
          unfinished (streamOf after.socket.answers after.socket.position)
        rw [hanswers, hposition, ← takeMessages_snd, hsplit, htail]
      · show FitsUntil _ after.socket.answers after.socket.position
        rw [hanswers, hposition]
        exact hfits

private theorem served_stable (send : α → Bytes → Sent × α) (fixed : Float → Bytes)
    (config : ControlServerConfig) :
    Stable (scripted send fixed) config (fun socket => socket.position = 0)
      (Served config.maxRequestBytes) (Dismissed config.maxRequestBytes) where
  connects socket hfresh := by
    refine ⟨?_, ?_, ?_, ?_, Drained.noConfusion⟩
    · show [] = (takeMessages (streamOf socket.answers socket.position)).1
      rw [hfresh]
      rfl
    · show [] = buffered socket.answers socket.position
      rw [hfresh]
      rfl
    · show [] = unfinished (streamOf socket.answers socket.position)
      rw [hfresh]
      rfl
    · show FitsUntil _ socket.answers socket.position
      rw [hfresh]
      exact fun i hi => absurd hi (Nat.not_lt_zero i)
  talks := Served.talks
  serves {client after} h hopen htalks := by
    have hkept : after.drained ≠ .outgrown := by
      have hdrained : after.drained = (client.drains (scripted send fixed) config).1 :=
        htalks.frame.2.1
      rw [hdrained]
      intro hgrown
      rw [hgrown] at hopen
      exact absurd hopen (by decide)
    have hread := (h.reads htalks).2 hkept
    have hflushed : Talks (scripted send fixed) config _ [] _ :=
      (Talks.refl { after with inbox := client.partialRequest (scripted send fixed) config }).flushed
    exact hread.talks hflushed
  leaves := Served.dismissed

/-- **Requests that fit together are all served.** In every run, every request
that has arrived from a client is dispatched once, in order; and a connection is
cut off for its size exactly when what waited for one poll, together with the
partial request before it, was larger than `max_request_bytes`. -/
theorem requests_that_fit_are_served {β τ : Type} (send : α → Bytes → Sent × α)
    (fixed : Float → Bytes) (server : ControlServer (Scripted α) β τ)
    (calls : List (ServerCall (Scripted α)))
    (hinit : (serving (scripted send fixed) β τ).init server)
    (hfresh : ∀ call ∈ calls, call.Brings fun socket => socket.position = 0) :
    (serving (scripted send fixed) β τ).States
      (fun after => ∀ client, client ∈ after.clients ∨ client ∈ after.departed →
        ((∀ n, FitsUntil server.config.maxRequestBytes client.socket.answers n) →
          client.drained ≠ .outgrown) ∧
        client.asked = client.arrived ∧
        (client.drained = .outgrown ↔
          ¬ FitsUntil server.config.maxRequestBytes client.socket.answers client.socket.position))
      server calls := by
  have hbrings : (serving (scripted send fixed) β τ).Steps
      (fun _ call _ => call.Brings fun socket => socket.position = 0) server calls :=
    TSys.Steps.of_forall hfresh server
  refine TSys.States.of_inductive
    (I := fun after => Everyone (Served server.config.maxRequestBytes)
      (Dismissed server.config.maxRequestBytes) after ∧ after.config = server.config)
    (fun after hafter client hclient => ?_) (fun before call after hbefore hcall hstep => ?_)
    calls server ?_ hbrings
  · have hgone : Dismissed server.config.maxRequestBytes client := by
      rcases hclient with hlive | hdeparted
      · exact (hafter.1.live client hlive).dismissed
      · exact hafter.1.departed client hdeparted
    exact ⟨fun hfits hgrown => hgone.2.mp hgrown (hfits _), hgone.1, hgone.2⟩
  · exact (served_stable send fixed server.config).step hbefore.1 hbefore.2 hcall
      (ServerCall.each_of_forall (cutsTo_of_reads fun h htalks => (h.reads htalks).1) call) hstep
  · obtain ⟨hclients, hdeparted⟩ := hinit
    exact ⟨⟨by simp [hclients], by simp [hdeparted]⟩, rfl⟩

end

/-- Three short requests: two that wait together, and a third behind them. -/
def threeRequests : Nat → Received :=
  let request := labRequest 0 "get_switch_state" [] ++ [newline]
  script [.ofBytes (request ++ request), .ofBytes request]

/-- With the limit as it comes, all three are dispatched. -/
theorem requests_that_fit_are_served_three :
    ∃ server client, (serving scriptedLab Unit Unit).exec (scriptedServer 65536)
        (connectAndRead threeRequests) = some server ∧ server.clients = [client] ∧
      client.asked = client.arrived ∧ client.asked.length = 3 ∧ client.drained ≠ .outgrown := by
  have hrun : ((serving scriptedLab Unit Unit).exec (scriptedServer 65536)
      (connectAndRead threeRequests)).map (fun server => server.clients.map fun client =>
        (client.asked.length, client.drained)) = some [(3, .empty)] := by
    decide +kernel
  obtain ⟨server, hexec, hread⟩ := Option.map_eq_some_iff.mp hrun
  obtain ⟨client, hclients, hclient⟩ := List.map_eq_singleton_iff.mp hread
  obtain ⟨hlength, hdrained⟩ := Prod.mk.inj hclient
  have hstates := requests_that_fit_are_served (fun _ text => (.taken text.length, ()))
    (fun _ => []) (scriptedServer 65536) (connectAndRead threeRequests) ⟨rfl, rfl⟩
    (by simp [connectAndRead, ServerCall.Brings])
  obtain ⟨-, hasked, -⟩ := hstates.last hexec client (.inl (by rw [hclients]; exact List.mem_singleton_self _))
  exact ⟨server, client, hexec, hclients, hasked, hlength, by rw [hdrained]; decide⟩

/-- **The limit hits short requests.** Each of the three requests is shorter than
the limit; the client is cut off for its size, and its last request is never
dispatched. -/
theorem request_limit_hits_short_requests :
    (∀ line ∈ (splitLines (streamOf threeRequests 2)).1, line.length + 1 ≤ 100) ∧
    (takeMessages (streamOf threeRequests 2)).1.length = 3 ∧
    ∃ server client, (serving scriptedLab Unit Unit).exec (scriptedServer 100)
        (connectAndRead threeRequests) = some server ∧ server.departed = [client] ∧
      client.drained = .outgrown ∧ client.asked.length = 2 := by
  have hrun : ((serving scriptedLab Unit Unit).exec (scriptedServer 100)
      (connectAndRead threeRequests)).map (fun server => server.departed.map fun client =>
        (client.drained, client.asked.length)) = some [(.outgrown, 2)] := by
    decide +kernel
  obtain ⟨server, hexec, hread⟩ := Option.map_eq_some_iff.mp hrun
  obtain ⟨client, hdeparted, hclient⟩ := List.map_eq_singleton_iff.mp hread
  obtain ⟨hdrained, hlength⟩ := Prod.mk.inj hclient
  exact ⟨by decide +kernel, by decide +kernel, server, client, hexec, hdeparted, hdrained, hlength⟩

end WireLab
