import WireLab.Logic.Desktops
import WireLab.Theorems.BenchmarkReports

/-!
# The desktop over its session

What a user sees of a lab is the session (`frame_shows_session`); a lab that claims to
run is one that is stepped, and one that is stopped stays as it is (`desktop_clocked`);
and a report that is started is carried to its end by its timer
(`desktop_finishes_report`).
-/

namespace WireLab

open Base

variable {δ β τ : Type}

/-! ## The frame -/

/-- A frame shows a session: everything the binding reads, and its status. An error of
the boundary may outlive its command in the footer, until something is drawn. -/
structure Frame.Shows (frame : Frame) (handle : SessionHandle δ β τ) : Prop where
  reading : frame.reading = handle.session.shown
  status : frame.status = footerStatus handle.statusMessage ∨
    (handle.lastError = [] ∧ ∃ thrown, frame.status = internalError thrown)

theorem internalError_ne_nil (thrown : Option Bytes) : internalError thrown ≠ [] := by
  cases thrown with
  | none => decide
  | some what => exact List.append_ne_nil_of_left_ne_nil (by decide) _

namespace Desktop

variable {env : SessionEnvironment δ β τ} {desktop after : Desktop δ β τ}

/-- What is drawn is fresh, or a frame is asked for. -/
structure Fresh (desktop : Desktop δ β τ) : Prop where
  shows : desktop.notified = false → desktop.frame.Shows desktop.session
  attributed : desktop.session.lastError = [] ∨
    ∃ thrown, desktop.session.lastError = internalError thrown

variable (env) in
/-- A call whose drain finds nothing leaves the frame as good as it was. -/
theorem Fresh.tick (h : desktop.Fresh) (call : GuardedCall) : (desktop.tick env call).Fresh := by
  constructor
  · intro hquiet
    obtain ⟨hnotified, hshown, hcleared, hmessage⟩ := tick_quiet hquiet
    obtain ⟨hreading, hstatus⟩ := h.shows hnotified
    have hstatus' : (desktop.tick env call).session.statusMessage =
        desktop.session.session.statusMessage := by
      unfold SessionHandle.statusMessage
      rw [hcleared, hmessage]
      rfl
    refine ⟨hreading.trans hshown.symm, ?_⟩
    rcases hstatus with hsame | ⟨-, hoverdue⟩
    · rcases h.attributed with hnone | ⟨thrown, herror⟩
      · -- nothing was shadowed, so the message is the session's before and after
        left
        show desktop.frame.status = _
        rw [hsame, hstatus']
        unfold SessionHandle.statusMessage
        rw [hnone]
        rfl
      · right
        refine ⟨hcleared, thrown, ?_⟩
        have herrs := internalError_ne_nil thrown
        show desktop.frame.status = _
        rw [hsame, SessionHandle.statusMessage, herror, if_pos herrs, footerStatus, if_neg]
        exact mt List.isEmpty_iff.mp herrs
    · exact .inr ⟨hcleared, hoverdue⟩
  · show (desktop.session.guard env call.passed).lastError = [] ∨ _
    have herror := SessionHandle.guard_lastError env call.passed desktop.session
    cases hcompletion : (call.passed.command.perform env desktop.session.session).1 with
    | returned => exact .inl (by rw [herror, hcompletion])
    | threw => exact .inr ⟨call.passed.thrown, by
        show (desktop.session.guard env call.passed).lastError = _
        rw [herror, hcompletion]⟩

theorem Fresh.draw (h : desktop.Fresh) : desktop.draw.Fresh :=
  ⟨fun _ => ⟨desktop.session.reading_eq, .inl rfl⟩, h.attributed⟩

theorem fresh_inductive (env : SessionEnvironment δ β τ) : (desktops env).Inductive Fresh where
  init desktop hinit := by
    obtain ⟨now, session, hopened, rfl⟩ := hinit
    obtain rfl := Option.some.inj hopened
    exact ⟨fun hquiet => absurd hquiet (Bool.noConfusion : ¬true = false), .inl rfl⟩
  step desktop event after h hstep := by
    cases step_event hstep with
    | commanded call =>
        obtain ⟨hshows, hattributed⟩ := h.tick env call
        exact ⟨hshows, hattributed⟩
    | trafficEnded => exact ⟨h.shows, h.attributed⟩
    | trafficStepped => exact h.tick env _
    | reportEnded => exact ⟨h.shows, h.attributed⟩
    | reportStepped => exact h.tick env _
    | notified =>
        exact ⟨fun hquiet => absurd hquiet (Bool.noConfusion : ¬true = false), h.attributed⟩
    | drawn => exact h.draw

end Desktop

/-- **What is on the screen is the session**: whatever commands, timers and frames came
before, either a frame is asked for, or the last one shows every row, count and text that
the session holds now. -/
theorem frame_shows_session (env : SessionEnvironment δ β τ) {desktop : Desktop δ β τ}
    (h : (desktops env).Reachable desktop) :
    desktop.notified = true ∨ desktop.frame.Shows desktop.session := by
  have hfresh := (Desktop.fresh_inductive env).invariant desktop h
  cases hnotified : desktop.notified with
  | true => exact .inl rfl
  | false => exact .inr (hfresh.shows hnotified)

/-- A desktop whose session has just been opened. -/
def openedDesktop : Desktop Unit Unit Unit where
  session :=
    { session := ((Session.create 0).takeDirty.2 : Session Unit Unit Unit)
      extraDirty := (Session.create 0 : Session Unit Unit Unit).takeDirty.1 }

/-- A user asks for a report of three packets. -/
def reportAsked : List DesktopEvent :=
  [.command
    { command := .runBenchmarkReport (bytes "mixed-traffic") 3 2 64 7 []
      guarded := SessionCommand.noConfusion }]

/-- A slice of it is measured, and drawn. -/
def sliceMeasured : List DesktopEvent := [.reportTimer (fun _ => 5) 10 none, .draw]

/-- A report is asked for, a slice of it is measured, and the frame shows it. -/
theorem frame_shows_session_lostGpu : ∃ desktop,
    (desktops lostGpu).exec openedDesktop (reportAsked ++ sliceMeasured) = some desktop ∧
      desktop.frame.Shows desktop.session := by
  have hopened : (desktops lostGpu).Reachable openedDesktop := .init ⟨0, _, rfl, rfl⟩
  have hdrawn : ((desktops lostGpu).exec openedDesktop (reportAsked ++ sliceMeasured)).map
      Desktop.notified = some false := by
    decide +kernel
  obtain ⟨desktop, hdesktop, hnotified⟩ := Option.map_eq_some_iff.mp hdrawn
  rcases frame_shows_session lostGpu (hopened.exec hdesktop) with hasked | hshows
  · rw [hnotified] at hasked
    contradiction
  · exact ⟨desktop, hdesktop, hshows⟩

/-! ## The clock -/

def DesktopEvent.isCommand : DesktopEvent → Bool
  | .command _ => true
  | _ => false

def DesktopEvent.isTrafficTimer : DesktopEvent → Bool
  | .trafficTimer .. => true
  | _ => false

def DesktopEvent.isReportTimer : DesktopEvent → Bool
  | .reportTimer .. => true
  | _ => false

/-- Everything but the report is the same, with the bits and the status it moves. -/
def Session.SameLab (session session' : Session δ β τ) : Prop :=
  ∃ dirty statusMessage report, session' = { session with dirty, statusMessage, report }

theorem Session.SameLab.refl (session : Session δ β τ) : session.SameLab session := ⟨_, _, _, rfl⟩

theorem Session.SameLab.trans {first second third : Session δ β τ} (h : first.SameLab second)
    (h' : second.SameLab third) : first.SameLab third := by
  obtain ⟨_, _, _, rfl⟩ := h
  obtain ⟨dirty, statusMessage, report, rfl⟩ := h'
  exact ⟨dirty, statusMessage, report, rfl⟩

theorem Session.advanceReport_sameLab (env : SessionEnvironment δ β τ) (session : Session δ β τ)
    (latencyNs : Nat → UInt64) (sliceNs : UInt64) (run : BenchmarkRun β τ) :
    session.SameLab (session.advanceReport env latencyNs sliceNs run).2 := by
  unfold advanceReport
  simp only
  split
  · exact ⟨_, _, _, rfl⟩
  · split
    · exact ⟨_, _, _, rfl⟩
    · exact ⟨_, _, _, rfl⟩
    · exact ⟨_, _, _, rfl⟩

/-- A step of the report leaves the lab alone. -/
theorem Session.runReportStep_sameLab (env : SessionEnvironment δ β τ) (session : Session δ β τ)
    (latencyNs : Nat → UInt64) (sliceNs : UInt64) :
    session.SameLab (session.runReportStep env latencyNs sliceNs).2 := by
  unfold runReportStep
  split
  · exact .refl session
  · split
    · exact session.advanceReport_sameLab env latencyNs sliceNs _
    · split
      · exact ⟨_, _, _, rfl⟩
      · exact ⟨_, _, _, rfl⟩
      · next report _ =>
          have harmed : session.SameLab (session.withReport report) := ⟨_, _, _, rfl⟩
          split
          · exact harmed
          · exact harmed.trans (Session.advanceReport_sameLab env _ latencyNs sliceNs _)

/-- A tick of the traffic starts neither traffic nor a report. -/
theorem Session.runTrafficStep_running (env : SessionEnvironment δ β τ) (session : Session δ β τ)
    (arrival now : Int) :
    (session.runTrafficStep env arrival now).2.report = session.report := by
  show ((SessionCommand.runTrafficStep arrival now).perform env session).2.report = session.report
  exact perform_report rfl

namespace Desktop

variable {env : SessionEnvironment δ β τ} {desktop after : Desktop δ β τ}

/-- What runs has a task. -/
structure Ticked (desktop : Desktop δ β τ) : Prop where
  traffic : desktop.session.session.trafficRunning = true → desktop.trafficTick = true
  report : desktop.session.session.report.running = true → desktop.reportTick = true

/-- Without a command, the lab of a desktop whose traffic is stopped stays as it is. -/
theorem stopped_step {event : DesktopEvent}
    (hstopped : desktop.session.session.trafficRunning = false) (hevent : event.isCommand = false)
    (hstep : desktop.step env event = some after) :
    desktop.session.session.SameLab after.session.session ∧
      (after.trafficTick = true → desktop.trafficTick = true ∧ event.isTrafficTimer = false) := by
  cases step_event hstep with
  | commanded => cases hevent
  | trafficEnded => exact ⟨.refl _, fun hheld => absurd hheld Bool.false_ne_true⟩
  | trafficStepped hheld hrunning =>
      rw [hstopped] at hrunning
      exact absurd hrunning Bool.false_ne_true
  | reportEnded => exact ⟨.refl _, fun hheld => ⟨hheld, rfl⟩⟩
  | reportStepped =>
      refine ⟨?_, fun hheld => ⟨hheld, rfl⟩⟩
      have hstepped := desktop.session.session.runReportStep_sameLab env
      rw [tick_session]
      exact (hstepped _ _).trans ⟨_, _, _, rfl⟩
  | notified => exact ⟨.refl _, fun hheld => ⟨hheld, rfl⟩⟩
  | drawn => exact ⟨.refl _, fun hheld => ⟨hheld, rfl⟩⟩

theorem ticked_inductive (env : SessionEnvironment δ β τ) : (desktops env).Inductive Ticked where
  init desktop hinit := by
    obtain ⟨now, session, hopened, rfl⟩ := hinit
    obtain rfl := Option.some.inj hopened
    exact ⟨fun hrunning => absurd hrunning Bool.false_ne_true,
      fun hrunning => absurd hrunning Bool.false_ne_true⟩
  step desktop event after h hstep := by
    cases step_event hstep with
    | commanded call =>
        obtain ⟨htraffic, hreport⟩ := (desktop.tick env call).ensureTicks_ticks
        constructor
        · intro hrunning
          rw [htraffic, Bool.or_eq_true]
          exact .inr hrunning
        · intro hrunning
          rw [hreport, Bool.or_eq_true]
          exact .inr hrunning
    | trafficEnded hheld hstopped =>
        exact ⟨fun hrunning => absurd (hstopped.symm.trans hrunning) Bool.false_ne_true, h.report⟩
    | trafficStepped hheld =>
        refine ⟨fun _ => hheld, fun hrunning => h.report ?_⟩
        rw [tick_session] at hrunning
        -- a tick leaves the report alone, so its task is the one there was
        have hsame := desktop.session.session.runTrafficStep_running env
        exact (congrArg BenchmarkReport.running (hsame _ _)).symm.trans hrunning
    | reportEnded hheld hstopped =>
        exact ⟨h.traffic, fun hrunning => absurd (hstopped.symm.trans hrunning) Bool.false_ne_true⟩
    | @reportStepped latencyNs sliceNs _ hheld =>
        refine ⟨fun hrunning => h.traffic ?_, fun _ => hheld⟩
        rw [tick_session] at hrunning
        obtain ⟨dirty, statusMessage, report, hsame⟩ :=
          desktop.session.session.runReportStep_sameLab env latencyNs sliceNs
        change (desktop.session.session.runReportStep env latencyNs sliceNs).2.trafficRunning = _
          at hrunning
        rw [hsame] at hrunning
        exact hrunning
    | notified => exact ⟨h.traffic, h.report⟩
    | drawn => exact ⟨h.traffic, h.report⟩

/-- A run without a command, of a desktop whose traffic is stopped. -/
theorem stopped_run {events : List DesktopEvent}
    (hstopped : desktop.session.session.trafficRunning = false)
    (hevents : ∀ event ∈ events, event.isCommand = false)
    (hrun : (desktops env).exec desktop events = some after) :
    desktop.session.session.SameLab after.session.session ∧
      (after.trafficTick = true →
        desktop.trafficTick = true ∧ ∀ event ∈ events, event.isTrafficTimer = false) := by
  induction events generalizing desktop with
  | nil =>
      obtain rfl := Option.some.inj hrun
      exact ⟨.refl _, fun hheld => ⟨hheld, fun event hevent => absurd hevent List.not_mem_nil⟩⟩
  | cons event events ih =>
      simp only [TSys.exec, Option.bind_eq_some_iff] at hrun
      obtain ⟨middle, hstep, hrest⟩ := hrun
      have hfirst := hevents event List.mem_cons_self
      obtain ⟨hsame, hticks⟩ := stopped_step hstopped hfirst hstep
      have hstopped' : middle.session.session.trafficRunning = false := by
        obtain ⟨_, _, _, hsession⟩ := hsame
        rw [hsession]
        exact hstopped
      obtain ⟨hsame', hticks'⟩ :=
        ih hstopped' (fun other hother => hevents other (List.mem_cons_of_mem _ hother)) hrest
      refine ⟨hsame.trans hsame', fun hheld => ?_⟩
      obtain ⟨hheld', hlater⟩ := hticks' hheld
      obtain ⟨hheld'', hnow⟩ := hticks hheld'
      exact ⟨hheld'', List.forall_mem_cons.mpr ⟨hnow, hlater⟩⟩

end Desktop

/-- The clock of a desktop is right: what runs has a task that steps it, and what is
stopped stays as it is until the next command, while its task ends with its timer. -/
structure PhaseClocked (env : SessionEnvironment δ β τ) (desktop : Desktop δ β τ) : Prop where
  traffic : desktop.session.session.trafficRunning = true → desktop.trafficTick = true
  report : desktop.session.session.report.running = true → desktop.reportTick = true
  stopped : desktop.session.session.trafficRunning = false → ∀ events after,
    (∀ event ∈ events, event.isCommand = false) →
      (desktops env).exec desktop events = some after →
        desktop.session.session.SameLab after.session.session ∧
          ((∃ event ∈ events, event.isTrafficTimer = true) → after.trafficTick = false)

/-- **A lab that claims to run is stepped, and a stopped one is frozen**, in every run of
commands, timers and frames. -/
theorem desktop_clocked (env : SessionEnvironment δ β τ) {desktop : Desktop δ β τ}
    (h : (desktops env).Reachable desktop) : PhaseClocked env desktop := by
  have hticked := (Desktop.ticked_inductive env).invariant desktop h
  refine ⟨hticked.traffic, hticked.report, ?_⟩
  intro hstopped events after hevents hrun
  obtain ⟨hsame, hticks⟩ := Desktop.stopped_run hstopped hevents hrun
  refine ⟨hsame, ?_⟩
  rintro ⟨event, hevent, htimer⟩
  by_contra hheld
  have hnone := (hticks (by simpa using hheld)).2 event hevent
  rw [hnone] at htimer
  contradiction

theorem desktop_clocked_lostGpu : ∃ desktop,
    (desktops lostGpu).exec openedDesktop (reportAsked ++ sliceMeasured) = some desktop ∧
      desktop.session.session.report.running = true ∧ PhaseClocked lostGpu desktop := by
  have hopened : (desktops lostGpu).Reachable openedDesktop := .init ⟨0, _, rfl, rfl⟩
  have hrunning : ((desktops lostGpu).exec openedDesktop (reportAsked ++ sliceMeasured)).map
      (fun desktop => desktop.session.session.report.running) = some true := by
    decide +kernel
  obtain ⟨desktop, hdesktop, hreport⟩ := Option.map_eq_some_iff.mp hrunning
  exact ⟨desktop, hdesktop, hreport, desktop_clocked lostGpu (hopened.exec hdesktop)⟩

/-! ## The report -/

namespace BenchmarkReport

/-- What a report that runs on keeps, and how far it gets. -/
structure Further (report report' : BenchmarkReport β τ) (packets : Nat) : Prop where
  config : report'.config = report.config
  total : report'.totalPackets = report.totalPackets
  grows : report.completedPackets.toNat + packets ≤ report'.completedPackets.toNat

theorem Further.refl (report : BenchmarkReport β τ) : Further report report 0 :=
  ⟨rfl, rfl, le_rfl⟩

theorem Further.trans {first second third : BenchmarkReport β τ} {packets packets' : Nat}
    (h : Further first second packets) (h' : Further second third packets') :
    Further first third (packets + packets') := by
  refine ⟨h'.config.trans h.config, h'.total.trans h.total, ?_⟩
  have hfirst := h.grows
  have hsecond := h'.grows
  omega

end BenchmarkReport

namespace Session

open BenchmarkReport

variable {env : SessionEnvironment δ β τ} {session : Session δ β τ}

/-- A step of a report that is not its last gets further, unless memory runs out. -/
theorem runReportStep_further (h : Accounted env session.report)
    (hmemory : env.allocates (BenchmarkRun.reservedLatencies session.report.config).toNat = true)
    (hrunning : session.report.running = true) {latencyNs : Nat → UInt64} {sliceNs : UInt64}
    (hafter : (session.runReportStep env latencyNs sliceNs).2.report.running = true) :
    Further session.report (session.runReportStep env latencyNs sliceNs).2.report 1 := by
  have hstep := runReportStep_step h hrunning latencyNs sliceNs
  generalize session.runReportStep env latencyNs sliceNs = result at hstep hafter ⊢
  obtain ⟨completion, session'⟩ := result
  simp only at hstep hafter ⊢
  generalize session'.report = report' at hstep hafter ⊢
  cases hstep with
  | went harmed same grows => exact ⟨same.config, same.totalPackets, grows⟩
  | ended => exact absurd hafter Bool.false_ne_true
  | threw hdone left refused =>
      rw [hmemory] at refused
      contradiction

/-- While a report runs, no command takes anything back. -/
theorem perform_further (h : Accounted env session.report)
    (hmemory : env.allocates (BenchmarkRun.reservedLatencies session.report.config).toNat = true)
    (hrunning : session.report.running = true) (command : SessionCommand)
    (hafter : (command.perform env session).2.report.running = true) :
    Further session.report (command.perform env session).2.report 0 := by
  by_cases hreports : command.reports = true
  · cases command with
    | runBenchmarkReport scenario packets batchSize frameSize seed generatedAt =>
        have hrefused : session.acceptedReport scenario packets batchSize frameSize seed = none := by
          rw [acceptedReport, if_pos hrunning]
        have hsame : (session.runBenchmarkReport env scenario packets batchSize frameSize seed
            generatedAt).2.report = session.report :=
          runBenchmarkReport_refused generatedAt hrefused
        show Further session.report (session.runBenchmarkReport env scenario packets batchSize
          frameSize seed generatedAt).2.report 0
        rw [hsame]
        exact .refl _
    | runReportStep latencyNs sliceNs =>
        obtain ⟨hconfig, htotal, hgrows⟩ := runReportStep_further h hmemory hrunning hafter
        exact ⟨hconfig, htotal, (Nat.le_succ _).trans hgrows⟩
    | exportReport jsonWritten csvWritten path =>
        obtain ⟨exportPath, hsame⟩ := session.exportReport_report jsonWritten csvWritten path
        show Further session.report (session.exportReport jsonWritten csvWritten path).2.report 0
        rw [hsame]
        exact ⟨rfl, rfl, le_rfl⟩
    | _ => cases hreports
  · rw [perform_report (by simpa using hreports)]
    exact .refl _

end Session

namespace Desktop

open BenchmarkReport Session

variable {env : SessionEnvironment δ β τ} {desktop after : Desktop δ β τ}

/-- The report of the session behind a desktop. -/
abbrev report (desktop : Desktop δ β τ) : BenchmarkReport β τ := desktop.session.session.report

/-- What an event brings a report forward at least. -/
def packetsOf (event : DesktopEvent) : Nat := if event.isReportTimer then 1 else 0

/-- An event while a report runs on. -/
theorem step_further {event : DesktopEvent} (h : Accounted env desktop.report)
    (hmemory : env.allocates (BenchmarkRun.reservedLatencies desktop.report.config).toNat = true)
    (hrunning : desktop.report.running = true) (hafter : after.report.running = true)
    (hstep : desktop.step env event = some after) :
    Further desktop.report after.report (packetsOf event) := by
  have hticked : ∀ call : GuardedCall, (desktop.tick env call).report =
      (call.passed.command.perform env desktop.session.session).2.report := by
    intro call
    rw [report, tick_session]
    rfl
  cases step_event hstep with
  | commanded call =>
      show Further _ (desktop.tick env call).report 0
      change (desktop.tick env call).report.running = true at hafter
      rw [hticked] at hafter ⊢
      exact perform_further h hmemory hrunning _ hafter
  | trafficStepped hheld htraffic =>
      rw [hticked] at hafter ⊢
      exact perform_further h hmemory hrunning _ hafter
  | reportStepped hheld _ =>
      rw [hticked] at hafter ⊢
      exact runReportStep_further h hmemory hrunning hafter
  | reportEnded hheld hstopped =>
      rw [report, hstopped] at hrunning
      contradiction
  | trafficEnded => exact .refl _
  | notified => exact .refl _
  | drawn => exact .refl _

/-- A run in which a report is never seen to end. -/
theorem run_further (hlabels : env.availableBackends.length ≤ 2 ^ 33)
    {events : List DesktopEvent} (hreach : (desktops env).Reachable desktop)
    (hmemory : env.allocates (BenchmarkRun.reservedLatencies desktop.report.config).toNat = true)
    (hrun : (desktops env).exec desktop events = some after)
    (hstates : (desktops env).States (fun desktop => desktop.report.running = true) desktop events) :
    Further desktop.report after.report (events.countP DesktopEvent.isReportTimer) := by
  induction events generalizing desktop with
  | nil =>
      obtain rfl := Option.some.inj hrun
      exact .refl _
  | cons event events ih =>
      simp only [TSys.exec, Option.bind_eq_some_iff] at hrun
      obtain ⟨middle, hstep, hrest⟩ := hrun
      obtain ⟨hrunning, hlater⟩ := hstates
      have haccounted := (accounted_inductive env hlabels).invariant _ (session_reachable hreach)
      have hnext := hlater middle hstep
      have hfirst := step_further haccounted hmemory hrunning hnext.head hstep
      have hsecond := ih (.step hreach hstep) (by rw [hfirst.config]; exact hmemory) hrest hnext
      have htotal := hfirst.trans hsecond
      rw [List.countP_cons, Nat.add_comm]
      exact htotal

end Desktop

/-- **A report is carried to its end by its timer**: as long as it is not seen to end,
whatever commands, ticks and frames fall between, its timer has fired less often than
there were packets left, and can fire once more. -/
theorem desktop_finishes_report (env : SessionEnvironment δ β τ)
    (hlabels : env.availableBackends.length ≤ 2 ^ 33) {desktop after : Desktop δ β τ}
    {events : List DesktopEvent} (h : (desktops env).Reachable desktop)
    (hmemory : env.allocates (BenchmarkRun.reservedLatencies desktop.report.config).toNat = true)
    (hrun : (desktops env).exec desktop events = some after)
    (hgoing : (desktops env).States (fun desktop => desktop.report.running = true) desktop events) :
    desktop.report.completedPackets.toNat + events.countP DesktopEvent.isReportTimer <
        desktop.report.totalPackets.toNat ∧
      ∀ latencyNs sliceNs thrown, ∃ next,
        (desktops env).step after (.reportTimer latencyNs sliceNs thrown) = some next := by
  have hfurther := Desktop.run_further hlabels h hmemory hrun hgoing
  have hrunning := hgoing.last hrun
  have hreach := h.exec hrun
  have haccounted := (Session.accounted_inductive env hlabels).invariant _
    (Desktop.session_reachable hreach)
  have hticked := (Desktop.ticked_inductive env).invariant after hreach
  constructor
  · have hleft := (haccounted.going hrunning).2
    have htotal := congrArg UInt64.toNat hfurther.total
    have hgrows := hfurther.grows
    change after.report.completedPackets.toNat < after.report.totalPackets.toNat at hleft
    omega
  · intro latencyNs sliceNs thrown
    have hheld := hticked.report hrunning
    show ∃ next, after.reportFires env latencyNs sliceNs thrown = some next
    unfold Desktop.reportFires
    rw [hheld]
    split
    · contradiction
    · split
      · exact ⟨_, rfl⟩
      · exact ⟨_, rfl⟩

theorem desktop_finishes_report_lostGpu : ∃ desktop after,
    (desktops lostGpu).exec openedDesktop reportAsked = some desktop ∧
      (desktops lostGpu).exec desktop sliceMeasured = some after ∧
      desktop.report.completedPackets.toNat + 1 < desktop.report.totalPackets.toNat := by
  have hopened : (desktops lostGpu).Reachable openedDesktop := .init ⟨0, _, rfl, rfl⟩
  have hasked : ((desktops lostGpu).exec openedDesktop reportAsked).isSome = true := by
    decide +kernel
  obtain ⟨desktop, hdesktop⟩ := Option.isSome_iff_exists.mp hasked
  have hmeasured : (((desktops lostGpu).exec openedDesktop reportAsked).bind fun desktop =>
      (desktops lostGpu).exec desktop sliceMeasured).isSome = true := by
    decide +kernel
  rw [hdesktop] at hmeasured
  obtain ⟨after, hafter⟩ := Option.isSome_iff_exists.mp hmeasured
  have hgoing : ((desktops lostGpu).exec openedDesktop reportAsked).all (fun desktop =>
      decide ((desktops lostGpu).States (fun desktop => desktop.report.running = true) desktop
        sliceMeasured)) = true := by
    decide +kernel
  rw [hdesktop] at hgoing
  exact ⟨desktop, after, hdesktop, hafter,
    (desktop_finishes_report lostGpu (by decide) (hopened.exec hdesktop) rfl hafter
      (of_decide_eq_true hgoing)).1⟩

end WireLab
