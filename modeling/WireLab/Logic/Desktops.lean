import WireLab.Logic.SessionRuns
import WireLab.Model.Desktop

/-!
# What a desktop does

A call that raises no bit and throws nothing leaves its session as it was (`Loud`), so
where a drain finds nothing, nothing has changed but a message of the boundary that was
cleared (`tick_quiet`). Rows are read back as they are written (`reading_eq`). The
session behind a desktop is one that commands lead to (`session_reachable`).
-/

namespace WireLab

open Base

variable {δ β τ : Type}

/-! ## Crossing the boundary -/

theorem EnumBridge.ofU32_asU32 {α : Type} (bridge : EnumBridge α) (value : α) :
    bridge.ofU32 (bridge.asU32 value) = value := by
  unfold EnumBridge.ofU32
  rw [bridge.agrees value]
  rfl

/-- What is read of the views of a table are its rows, if a row is read back as it was. -/
theorem collectRows_rowAt {ρ V : Type} {view : ρ → V} {convert : V → ρ} (zero : V)
    (hback : ∀ row, convert (view row) = row) (rows : List ρ) :
    collectRows rows.length (rowAt rows view zero) convert = rows := by
  refine List.ext_getElem (by simp [collectRows]) ?_
  intro index hindex hrow
  simp only [collectRows, List.getElem_map, List.getElem_range, rowAt,
    List.getElem?_eq_getElem hrow]
  exact hback _

theorem NodeRow.row_view (row : NodeRow) : row.view.row = row := by
  simp only [NodeView.row, NodeRow.view, EnumBridge.ofU32_asU32]

theorem FaultRow.row_view (row : FaultRow) : row.view.row = row := rfl

theorem PolicyRow.row_view (row : PolicyRow) : row.view.row = row := by
  simp only [PolicyView.row, PolicyRow.view, EnumBridge.ofU32_asU32]

theorem PolicyActionRow.row_view (row : PolicyActionRow) : row.view.row = row := by
  simp only [PolicyActionView.row, PolicyActionRow.view, EnumBridge.ofU32_asU32]

theorem EnforcedPortRow.row_view (row : EnforcedPortRow) : row.view.row = row := by
  simp only [EnforcedPortView.row, EnforcedPortRow.view, EnumBridge.ofU32_asU32]

theorem PacketRow.row_view (row : PacketRow) : row.view.row = row := by
  simp only [AnalysedPacketView.row, PacketRow.view, EnumBridge.ofU32_asU32]

theorem AnomalyRow.row_view (row : AnomalyRow) : row.view.row = row := by
  simp only [AnomalyView.row, AnomalyRow.view, EnumBridge.ofU32_asU32]

/-- What a session holds for its getters. -/
def Session.shown (session : Session δ β τ) : SessionReading where
  hasTopology := session.hasTopology
  topologyName := session.topologyConfiguration.name
  nodes := session.topologyNodes
  links := session.topologyLinks
  selectionKind := session.selectionKind
  selectedId := session.selectedId
  selectedSummary := session.selectedSummary
  faults := session.activeFaults
  policies := session.policyRules
  policyActions := session.policyActions
  enforcedPorts := session.enforcedPorts
  trafficRunning := session.trafficRunning
  activeBackend := session.activeBackend
  trafficResult := session.trafficResult
  metricsHistory := session.metricsHistory
  macTable := session.macTable
  portStates := session.portStates
  packets := session.packetRows
  anomalies := session.anomalyRows
  reportRunning := session.report.running
  reportProgress := session.report.progress
  reportStage := session.report.stage
  reportExportPath := session.report.exportPath
  reportRows := session.report.rows
  reportProvenance := session.report.provenance

namespace SessionHandle

/-- **Nothing is lost at the boundary**: what the binding reads is what the session holds. -/
theorem reading_eq (handle : SessionHandle δ β τ) : handle.reading = handle.session.shown := by
  unfold reading nodes faults policies policyActions enforcedPorts packets anomalies selectionKind
  rw [collectRows_rowAt {} NodeRow.row_view, collectRows_rowAt {} FaultRow.row_view,
    collectRows_rowAt {} PolicyRow.row_view, collectRows_rowAt {} PolicyActionRow.row_view,
    collectRows_rowAt {} EnforcedPortRow.row_view, collectRows_rowAt {} PacketRow.row_view,
    collectRows_rowAt {} AnomalyRow.row_view, EnumBridge.ofU32_asU32]
  rfl

end SessionHandle

/-! ## Bits -/

theorem SessionDirty.or_bit_ne_zero (mask : UInt32) (flag : SessionDirty) : mask ||| flag.bit ≠ 0 := by
  rw [Ne, UInt32.or_eq_zero_iff, not_and]
  intro _
  cases flag <;> decide

namespace Session

/-- A call is loud, or it leaves the session as it was. -/
inductive Loud (session : Session δ β τ) : Completion × Session δ β τ → Prop
  | raised {completion : Completion} {after : Session δ β τ} (h : after.dirty ≠ 0) :
      Loud session (completion, after)
  | threw (after : Session δ β τ) : Loud session (.threw, after)
  | unchanged : Loud session (.returned, session)

theorem Loud.marked {session : Session δ β τ} {completion : Completion} (after : Session δ β τ)
    (flag : SessionDirty) : Loud session (completion, after.mark flag) :=
  .raised (SessionDirty.or_bit_ne_zero _ _)

/-- **A call that is not heard does nothing.** -/
theorem perform_loud (env : SessionEnvironment δ β τ) (session : Session δ β τ)
    {command : SessionCommand} (hguarded : command ≠ .takeDirty) :
    Loud session (command.perform env session) := by
  have houtcome := perform_outcome env session command
  generalize command.perform env session = result at houtcome
  cases houtcome with
  | taken => exact absurd rfl hguarded
  | idle => exact .unchanged
  | unstarted => exact .threw _
  | tickThrew => exact .threw _
  | reportThrew => exact .threw _
  | stopped =>
      unfold stopTraffic
      split
      · exact .unchanged
      · exact .marked _ _
  | _ => exact .marked _ _

end Session

/-! ## Calls through the guard -/

namespace SessionHandle

variable {env : SessionEnvironment δ β τ} {handle : SessionHandle δ β τ} {call : GuardedCall}

/-- The bits that the next drain answers. -/
def pending (handle : SessionHandle δ β τ) : UInt32 := handle.session.dirty ||| handle.extraDirty

/-- The session behind a guarded call is the one the command leaves. -/
theorem guard_session (env : SessionEnvironment δ β τ) (call : GuardedCall)
    (handle : SessionHandle δ β τ) :
    (handle.guard env call).session = (call.command.perform env handle.session).2 := by
  unfold guard
  simp only
  split
  · next session heq => rw [heq]
  · next session heq =>
      rw [heq]
      rfl

/-- A call whose bits are none has changed nothing, and shows no error. -/
theorem guard_quiet (hquiet : (handle.guard env call).pending = 0) :
    handle.guard env call = { handle with lastError := [] } := by
  have hloud := Session.perform_loud env handle.session call.guarded
  unfold guard at hquiet ⊢
  simp only at hquiet ⊢
  generalize call.command.perform env handle.session = result at hloud hquiet
  cases hloud with
  | @raised completion after hraised =>
      cases completion with
      | returned => exact absurd (UInt32.or_eq_zero_iff.mp hquiet).1 hraised
      | threw => exact absurd (UInt32.or_eq_zero_iff.mp hquiet).1 hraised
  | threw after =>
      -- an exception raises the bit of the status
      exact absurd (UInt32.or_eq_zero_iff.mp hquiet).2 (SessionDirty.or_bit_ne_zero _ _)
  | unchanged => rfl

/-- The message of the boundary is the error of the call, or none. -/
theorem guard_lastError (env : SessionEnvironment δ β τ) (call : GuardedCall)
    (handle : SessionHandle δ β τ) :
    (handle.guard env call).lastError =
      match (call.command.perform env handle.session).1 with
      | .returned => []
      | .threw => internalError call.thrown := by
  unfold guard
  simp only
  split
  · next session heq => rw [heq]
  · next session heq =>
      rw [heq]
      rfl

theorem takeDirty_fst (handle : SessionHandle δ β τ) : handle.takeDirty.1 = handle.pending := rfl

/-- Draining takes nothing but bits. -/
theorem takeDirty_snd (handle : SessionHandle δ β τ) :
    handle.takeDirty.2.session = handle.session.takeDirty.2 ∧
      handle.takeDirty.2.lastError = handle.lastError :=
  ⟨rfl, rfl⟩

/-- What a drain shows is what was shown before. -/
theorem takeDirty_shown (handle : SessionHandle δ β τ) :
    handle.takeDirty.2.session.shown = handle.session.shown ∧
      handle.takeDirty.2.statusMessage = handle.statusMessage :=
  ⟨rfl, rfl⟩

end SessionHandle

/-! ## Events -/

namespace Desktop

variable {env : SessionEnvironment δ β τ} {desktop after : Desktop δ β τ}

@[simp] theorem ensureTicks_session (desktop : Desktop δ β τ) :
    desktop.ensureTicks.session = desktop.session := rfl

@[simp] theorem ensureTicks_notified (desktop : Desktop δ β τ) :
    desktop.ensureTicks.notified = desktop.notified := rfl

@[simp] theorem ensureTicks_frame (desktop : Desktop δ β τ) :
    desktop.ensureTicks.frame = desktop.frame := rfl

/-- Behind `ensure_ticks`, a task is held where it was and where something runs. -/
theorem ensureTicks_ticks (desktop : Desktop δ β τ) :
    desktop.ensureTicks.trafficTick =
        (desktop.trafficTick || desktop.session.session.trafficRunning) ∧
      desktop.ensureTicks.reportTick =
        (desktop.reportTick || desktop.session.session.report.running) := by
  have hstarts : ∀ running held : Bool,
      (if running && !held then true else held) = (held || running) := by
    decide
  exact ⟨hstarts _ _, hstarts _ _⟩

@[simp] theorem drain_frame (desktop : Desktop δ β τ) : desktop.drain.frame = desktop.frame := rfl

/-- Behind a drain, no frame is asked for only if none was, and no bit was raised. -/
theorem drain_notified (desktop : Desktop δ β τ) :
    desktop.drain.notified = false ↔ desktop.notified = false ∧ desktop.session.pending = 0 := by
  show (desktop.notified || desktop.session.pending != 0) = false ↔ _
  rw [Bool.or_eq_false_iff, bne_eq_false_iff_eq]

/-- A call and the drain behind it: no frame is asked for only if the session is as it
was, but for an error that is no longer shown. -/
theorem tick_quiet {call : GuardedCall} (hquiet : (desktop.tick env call).notified = false) :
    desktop.notified = false ∧
      (desktop.tick env call).session.session.shown = desktop.session.session.shown ∧
      (desktop.tick env call).session.lastError = [] ∧
      (desktop.tick env call).session.session.statusMessage =
        desktop.session.session.statusMessage := by
  obtain ⟨hnotified, hpending⟩ := (drain_notified _).mp hquiet
  have hguard := SessionHandle.guard_quiet hpending
  refine ⟨hnotified, ?_⟩
  unfold tick
  rw [hguard]
  exact ⟨rfl, rfl, rfl⟩

/-- A command is a tick, and tasks are started behind it. -/
theorem command_eq (env : SessionEnvironment δ β τ) (call : GuardedCall)
    (desktop : Desktop δ β τ) : desktop.command env call = (desktop.tick env call).ensureTicks :=
  rfl

/-- What a timer of the traffic does, when it fires. -/
theorem trafficFires_cases {arrival now : Int} {thrown : Option Bytes}
    (h : desktop.trafficFires env arrival now thrown = some after) :
    desktop.trafficTick = true ∧
      ((desktop.session.session.trafficRunning = false ∧
          after = { desktop with trafficTick := false }) ∨
        (desktop.session.session.trafficRunning = true ∧
          after = desktop.tick env
            ⟨.runTrafficStep arrival now, thrown, SessionCommand.noConfusion⟩)) := by
  unfold trafficFires at h
  split at h
  · cases h
  · next hheld =>
      refine ⟨by simpa using hheld, ?_⟩
      split at h
      · next hstopped => exact .inl ⟨by simpa using hstopped, (Option.some.inj h).symm⟩
      · next hrunning => exact .inr ⟨by simpa using hrunning, (Option.some.inj h).symm⟩

/-- What a timer of the report does, when it fires. -/
theorem reportFires_cases {latencyNs : Nat → UInt64} {sliceNs : UInt64} {thrown : Option Bytes}
    (h : desktop.reportFires env latencyNs sliceNs thrown = some after) :
    desktop.reportTick = true ∧
      ((desktop.session.session.report.running = false ∧
          after = { desktop with reportTick := false }) ∨
        (desktop.session.session.report.running = true ∧
          after = desktop.tick env
            ⟨.runReportStep latencyNs sliceNs, thrown, SessionCommand.noConfusion⟩)) := by
  unfold reportFires at h
  split at h
  · cases h
  · next hheld =>
      refine ⟨by simpa using hheld, ?_⟩
      split at h
      · next hstopped => exact .inl ⟨by simpa using hstopped, (Option.some.inj h).symm⟩
      · next hrunning => exact .inr ⟨by simpa using hrunning, (Option.some.inj h).symm⟩

/-- **What an event does to a desktop.** -/
inductive Event (env : SessionEnvironment δ β τ) (desktop : Desktop δ β τ) :
    DesktopEvent → Desktop δ β τ → Prop
  | commanded (call : GuardedCall) :
      Event env desktop (.command call) (desktop.tick env call).ensureTicks
  /-- A task that finds nothing running ends. -/
  | trafficEnded {arrival now : Int} {thrown : Option Bytes}
      (hheld : desktop.trafficTick = true)
      (hstopped : desktop.session.session.trafficRunning = false) :
      Event env desktop (.trafficTimer arrival now thrown) { desktop with trafficTick := false }
  | trafficStepped {arrival now : Int} {thrown : Option Bytes}
      (hheld : desktop.trafficTick = true)
      (hrunning : desktop.session.session.trafficRunning = true) :
      Event env desktop (.trafficTimer arrival now thrown) (desktop.tick env
        ⟨.runTrafficStep arrival now, thrown, SessionCommand.noConfusion⟩)
  | reportEnded {latencyNs : Nat → UInt64} {sliceNs : UInt64} {thrown : Option Bytes}
      (hheld : desktop.reportTick = true)
      (hstopped : desktop.session.session.report.running = false) :
      Event env desktop (.reportTimer latencyNs sliceNs thrown) { desktop with reportTick := false }
  | reportStepped {latencyNs : Nat → UInt64} {sliceNs : UInt64} {thrown : Option Bytes}
      (hheld : desktop.reportTick = true)
      (hrunning : desktop.session.session.report.running = true) :
      Event env desktop (.reportTimer latencyNs sliceNs thrown) (desktop.tick env
        ⟨.runReportStep latencyNs sliceNs, thrown, SessionCommand.noConfusion⟩)
  | notified : Event env desktop .notify { desktop with notified := true }
  | drawn : Event env desktop .draw desktop.draw

theorem step_event {event : DesktopEvent} (h : desktop.step env event = some after) :
    Event env desktop event after := by
  cases event with
  | command call =>
      obtain rfl := Option.some.inj h
      exact .commanded call
  | trafficTimer arrival now thrown =>
      obtain ⟨hheld, ⟨hstopped, rfl⟩ | ⟨hrunning, rfl⟩⟩ := trafficFires_cases h
      · exact .trafficEnded hheld hstopped
      · exact .trafficStepped hheld hrunning
  | reportTimer latencyNs sliceNs thrown =>
      obtain ⟨hheld, ⟨hstopped, rfl⟩ | ⟨hrunning, rfl⟩⟩ := reportFires_cases h
      · exact .reportEnded hheld hstopped
      · exact .reportStepped hheld hrunning
  | notify =>
      obtain rfl := Option.some.inj h
      exact .notified
  | draw =>
      obtain rfl := Option.some.inj h
      exact .drawn

/-- The session behind a tick: the command's, with its mask drained. -/
theorem tick_session (env : SessionEnvironment δ β τ) (call : GuardedCall)
    (desktop : Desktop δ β τ) :
    (desktop.tick env call).session.session =
      (call.passed.command.perform env desktop.session.session).2.takeDirty.2 := by
  show (desktop.session.guard env call.passed).session.takeDirty.2 = _
  rw [SessionHandle.guard_session]

/-- **Behind a desktop there is a session that commands lead to.** -/
theorem session_reachable (h : (desktops env).Reachable desktop) :
    (sessionCommands env).Reachable desktop.session.session := by
  have hticked : ∀ (desktop : Desktop δ β τ) (call : GuardedCall),
      (sessionCommands env).Reachable desktop.session.session →
      (sessionCommands env).Reachable (desktop.tick env call).session.session := by
    intro desktop call hbefore
    rw [tick_session]
    have hperformed := TSys.Reachable.step (T := sessionCommands env)
      (a := call.passed.command) hbefore rfl
    exact .step (T := sessionCommands env) (a := .takeDirty) hperformed rfl
  induction h with
  | init hinit =>
      obtain ⟨now, session, hopened, rfl⟩ := hinit
      obtain rfl := Option.some.inj hopened
      exact .step (T := sessionCommands env) (a := .takeDirty) (.init ⟨now, rfl⟩) rfl
  | step _ hstep ih =>
      cases step_event hstep with
      | commanded call => exact hticked _ call ih
      | trafficStepped => exact hticked _ _ ih
      | reportStepped => exact hticked _ _ ih
      | _ => exact ih

end Desktop
end WireLab
