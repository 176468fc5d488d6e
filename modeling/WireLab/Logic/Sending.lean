import WireLab.Logic.Connections

/-!
# What the server has sent

The messages enqueued to a connection, each followed by a newline, are its
stream (`wire`). `Flows` says where the stream stands: what the socket has taken
and what is queued make up the whole of it until the connection is given up;
from then on nothing is queued. Queueing and flushing keep it whatever the
socket answers (`Flows.enqueue`, `Flows.flushRounds`), so it holds of every
connection of the server (`flows_stable`).
-/

namespace WireLab

open Base

/-- A log as it goes over the wire. -/
def wire (fixed : Float → Bytes) (log : List Message) : Bytes :=
  log.flatMap fun message => message.toJson fixed ++ [newline]

theorem wire_append (fixed : Float → Bytes) (xs ys : List Message) :
    wire fixed (xs ++ ys) = wire fixed xs ++ wire fixed ys :=
  List.flatMap_append

section
variable {σ : Type} {platform : Platform σ} {config : ControlServerConfig}

/-- Where a connection's stream stands. -/
structure Flows (fixed : Float → Bytes) (config : ControlServerConfig) (client : Client σ) :
    Prop where
  whole : client.congested = false → client.handed ++ client.outbox = wire fixed client.log
  handed : client.handed <+: client.offered
  offered : client.offered <+: wire fixed client.log
  bounded : client.outbox.length ≤ config.maxPendingBytes
  silent : client.congested = true → client.outbox = []

theorem flows_fresh (fixed : Float → Bytes) (config : ControlServerConfig) (socket : σ) :
    Flows fixed config ({ socket } : Client σ) where
  whole _ := rfl
  handed := List.prefix_refl _
  offered := List.nil_prefix
  bounded := Nat.zero_le _
  silent h := absurd h (by simp)

/-- A message joins the queue, or the connection is given up. -/
theorem Flows.enqueue {client : Client σ} (h : Flows platform.fixed config client)
    (message : Message) : Flows platform.fixed config (client.enqueue platform config message) := by
  unfold Client.enqueue
  split
  · exact h
  · next hlive =>
      dsimp only
      split
      · exact ⟨fun hfalse => absurd hfalse (by simp), h.handed, h.offered, Nat.zero_le _, fun _ => rfl⟩
      · next hfits =>
          have hwire : wire platform.fixed (client.log ++ [message]) =
              wire platform.fixed client.log ++ (message.toJson platform.fixed ++ [newline]) := by
            rw [wire_append]
            simp only [wire, List.flatMap_cons, List.flatMap_nil, List.append_nil]
          have hwhole := h.whole (by simpa using hlive)
          refine ⟨fun _ => ?_, h.handed, ?_, ?_, fun htrue => absurd htrue hlive⟩
          · rw [hwire, ← hwhole]
            simp only [List.append_assoc]
          · rw [hwire]
            exact h.offered.trans (List.prefix_append _ _)
          · simp only [List.length_append, List.length_singleton]
            omega

/-- The stream does not depend on what is read. -/
theorem Flows.of_same {before after : Client σ} (h : Flows platform.fixed config before)
    (hcongested : after.congested = before.congested) (hlog : after.log = before.log)
    (hhanded : after.handed = before.handed) (hoffered : after.offered = before.offered)
    (houtbox : after.outbox = before.outbox) : Flows platform.fixed config after where
  whole hlive := by rw [hhanded, houtbox, hlog, h.whole (hcongested ▸ hlive)]
  handed := by rw [hhanded, hoffered]; exact h.handed
  offered := by rw [hoffered, hlog]; exact h.offered
  bounded := houtbox ▸ h.bounded
  silent htrue := houtbox ▸ h.silent (hcongested ▸ htrue)

/-- Where something is queued, the connection has not been given up. -/
theorem Flows.uncongested {client : Client σ} (h : Flows platform.fixed config client)
    (hfull : client.outbox ≠ []) : client.congested = false := by
  cases hcongested : client.congested with
  | false => rfl
  | true => exact absurd (h.silent hcongested) hfull

/-- Giving the socket all that is queued, of which it takes some. -/
theorem Flows.gives {client : Client σ} (h : Flows platform.fixed config client)
    (hlive : client.congested = false) (socket : σ) (taken : Nat) :
    Flows platform.fixed config
      { client with
        socket
        offered := client.handed ++ client.outbox
        outbox := client.outbox.drop taken
        handed := client.handed ++ client.outbox.take taken } where
  whole _ := by
    simpa only [List.append_assoc, List.take_append_drop] using h.whole hlive
  handed := (List.prefix_append_right_inj client.handed).mpr (List.take_prefix _ _)
  offered := h.whole hlive ▸ List.prefix_refl _
  bounded := by
    rw [List.length_drop]
    exact (Nat.sub_le _ _).trans h.bounded
  silent htrue := absurd (htrue.symm.trans hlive) (by simp)

/-- However much the socket takes, and however it ends. -/
theorem Flows.flushRounds {client : Client σ} (h : Flows platform.fixed config client)
    (rounds : Nat) : Flows platform.fixed config (client.flushRounds platform rounds).2 := by
  induction rounds generalizing client with
  | zero => exact h
  | succ rounds ih =>
      unfold Client.flushRounds
      split
      · exact h
      · next hfull =>
          have hlive := h.uncongested (by simpa using hfull)
          -- The socket is given all that is queued, and takes nothing of it.
          have hgiven : ∀ socket, Flows platform.fixed config
              { client with socket, offered := client.handed ++ client.outbox } :=
            fun socket => (h.gives hlive socket 0).of_same rfl rfl (List.append_nil _).symm rfl rfl
          dsimp only
          split
          · exact hgiven _
          · exact hgiven _
          · next more socket _ => exact ih (h.gives hlive socket (more + 1))

theorem Flows.talks {before after : Client σ} {requests : List Bytes}
    (h : Flows platform.fixed config before) (htalks : Talks platform config before requests after) :
    Flows platform.fixed config after :=
  htalks.preserves (fun message _ hclient => hclient.enqueue message)
    (fun client hclient => hclient.flushRounds client.outbox.length)
    (fun _ _ hclient => hclient.of_same rfl rfl rfl rfl rfl) h

theorem Flows.reads {client after : Client σ} (h : Flows platform.fixed config client)
    (htalks : Talks platform config (client.reads platform config)
      (client.requests platform config) after) :
    Flows platform.fixed config { after with inbox := client.partialRequest platform config } := by
  have hread : Flows platform.fixed config (client.reads platform config) :=
    h.of_same rfl rfl rfl rfl rfl
  exact (hread.talks htalks).of_same rfl rfl rfl rfl rfl

theorem flows_stable (platform : Platform σ) (config : ControlServerConfig) :
    Stable platform config (fun _ => True) (Flows platform.fixed config)
      (Flows platform.fixed config) where
  connects socket _ := flows_fresh _ _ socket
  talks := Flows.talks
  serves h _ htalks := (h.reads htalks).talks (Talks.refl _).flushed
  leaves := id

/-! ## What has been offered -/

/-- All that is queued has been given to the socket at least once, unless the
connection has been given up. -/
def Offers (fixed : Float → Bytes) (client : Client σ) : Prop :=
  client.congested = true ∨ client.offered = wire fixed client.log

/-- A flush gives the socket all that is queued. -/
theorem Flows.flushRounds_offered {client : Client σ} (h : Flows platform.fixed config client)
    (rounds : Nat) (hsends : client.offered = wire platform.fixed client.log ∨
      0 < rounds ∧ client.outbox ≠ []) :
    (client.flushRounds platform rounds).2.offered = wire platform.fixed client.log := by
  induction rounds generalizing client with
  | zero => exact hsends.elim id fun hround => absurd hround.1 (Nat.lt_irrefl 0)
  | succ rounds ih =>
      unfold Client.flushRounds
      split
      · next hempty =>
          exact hsends.elim id fun hround => absurd (List.isEmpty_iff.mp hempty) hround.2
      · next hfull =>
          have hlive := h.uncongested (by simpa using hfull)
          have hgiven : client.handed ++ client.outbox = wire platform.fixed client.log :=
            h.whole hlive
          dsimp only
          split
          · exact hgiven
          · exact hgiven
          · next more socket _ => exact ih (h.gives hlive socket (more + 1)) (.inl hgiven)

/-- A push offers everything: what is not pushed overflows. -/
theorem Flows.push_offers {client : Client σ} (h : Flows platform.fixed config client)
    (event : ControlEvent) : Offers platform.fixed (client.push platform config event) := by
  have hqueued := h.enqueue (.event event)
  unfold Client.push
  dsimp only
  split
  · next hempty =>
      -- An event that has been queued is not an empty text.
      left
      by_cases hlive : client.congested = true
      · rw [Client.enqueue, if_pos hlive]
        exact hlive
      · unfold Client.enqueue at hempty ⊢
        rw [if_neg hlive] at hempty ⊢
        dsimp only at hempty ⊢
        split at hempty
        · next hover => rw [if_pos hover]
        · exact absurd hempty (by simp)
  · next hfull =>
      have hlength : (client.enqueue platform config (.event event)).outbox ≠ [] := by
        simpa using hfull
      have hoffered := hqueued.flushRounds_offered
        (client.enqueue platform config (.event event)).outbox.length
        (.inr ⟨List.length_pos_iff.mpr hlength, hlength⟩)
      right
      rw [Client.flush, hoffered, (flushRounds_frame _ _).2.2.1]

/-- The flush at the end of a turn offers everything. -/
theorem Flows.flushed_offers {client : Client σ} (h : Flows platform.fixed config client) :
    Offers platform.fixed (client.flushed platform) := by
  unfold Client.flushed
  split
  · next hempty =>
      by_cases hlive : client.congested = true
      · exact .inl hlive
      · -- Nothing is queued: the socket has taken the whole stream.
        have hwhole := h.whole (by simpa using hlive)
        rw [List.isEmpty_iff.mp hempty, List.append_nil] at hwhole
        refine .inr (h.offered.eq_of_length_le ?_)
        rw [← hwhole]
        exact h.handed.length_le
  · next hfull =>
      have houtbox : client.outbox ≠ [] := by simpa using hfull
      have hoffered := h.flushRounds_offered client.outbox.length
        (.inr ⟨List.length_pos_iff.mpr houtbox, houtbox⟩)
      right
      rw [Client.flush, hoffered, (flushRounds_frame _ _).2.2.1]

/-- Talking without answering keeps everything offered. -/
theorem Offers.talks {before after : Client σ} (h : Offers platform.fixed before)
    (hflows : Flows platform.fixed config before)
    (htalks : Talks platform config before [] after) : Offers platform.fixed after := by
  generalize hnone : ([] : List Bytes) = requests at htalks
  induction htalks with
  | refl => exact h
  | push event htalks _ => exact (hflows.talks htalks).push_offers event
  | reply dispatch request _ _ => simp at hnone
  | @flush requests after htalks ih =>
      rcases ih hnone with hcongested | hoffered
      · exact .inl ((flushRounds_frame _ _).2.1.trans hcongested)
      · right
        rw [Client.flush, (hflows.talks htalks).flushRounds_offered _ (.inl hoffered),
          (flushRounds_frame _ _).2.2.1]

/-- **Every connection of the server flows.** -/
theorem flows_everyone {β τ : Type} {server : ControlServer σ β τ}
    (h : (serving platform β τ).Reachable server) :
    Everyone (Flows platform.fixed server.config) (Flows platform.fixed server.config) server := by
  refine TSys.Inductive.invariant (T := serving platform β τ)
    (P := fun server => Everyone (Flows platform.fixed server.config)
      (Flows platform.fixed server.config) server)
    ⟨fun start hinit => ?_, fun before call after hbefore hstep => ?_⟩ server h
  · obtain ⟨hclients, hdeparted⟩ := hinit
    exact ⟨by simp [hclients], by simp [hdeparted]⟩
  · obtain ⟨hafter, hconfig⟩ := (flows_stable platform before.config).step hbefore rfl
      (by cases call <;> simp [ServerCall.Brings])
      (ServerCall.each_of_forall (cutsTo_of_reads Flows.reads) call) hstep
    exact hconfig ▸ hafter

end
end WireLab
