import WireLab.Base.TSys
import WireLab.Model.SessionBoundary

/-!
# The desktop

`app.rs`: the view that owns a session, and the clock that drives it. Every command is
followed by draining the mask, and a mask that is not empty asks for a frame. While
traffic or a report runs, a task steps it whenever its timer fires.

A timer may fire at any time, and so may a frame be drawn. The pages, the forms and the
dialogs are left out: what reaches the session of them is one call of the binding
(`DesktopEvent.command`), and what they show is what the binding answers.
-/

namespace WireLab

open Base

/-- A call of the binding, as the boundary gets it. -/
def GuardedCall.passed (call : GuardedCall) : GuardedCall where
  command := call.command.passed
  thrown := call.thrown
  guarded := by
    have hguarded := call.guarded
    cases hcommand : call.command with
    | takeDirty => exact absurd hcommand hguarded
    | _ => exact SessionCommand.noConfusion

/-- What `render` draws: the getters of the binding, and the text of the footer. -/
structure Frame where
  reading : SessionReading := {}
  status : Bytes := []

/-- The text of the footer. -/
def footerStatus (status : Bytes) : Bytes := if status.isEmpty then bytes "Ready." else status

/-- `WireLab`. A task that is held is `true`; `frame` is the last that was drawn. -/
structure Desktop (δ β τ : Type) where
  session : SessionHandle δ β τ
  trafficTick : Bool := false
  reportTick : Bool := false
  notified : Bool := true
  frame : Frame := {}

/-- What happens to a desktop. -/
inductive DesktopEvent
  /-- A button, a menu or a dialog calls `command`. -/
  | command (call : GuardedCall)
  /-- The timer of the traffic fires. -/
  | trafficTimer (arrival now : Int) (thrown : Option Bytes)
  /-- The timer of the report fires. -/
  | reportTimer (latencyNs : Nat → UInt64) (sliceNs : UInt64) (thrown : Option Bytes)
  /-- A form or the page changes. -/
  | notify
  | draw

namespace Desktop

variable {δ β τ : Type}

/-- `ensure_ticks`. -/
def ensureTicks (desktop : Desktop δ β τ) : Desktop δ β τ :=
  let core := desktop.session.session
  let trafficTick :=
    if core.trafficRunning && !desktop.trafficTick then true else desktop.trafficTick
  let reportTick := if core.report.running && !desktop.reportTick then true else desktop.reportTick
  { desktop with trafficTick, reportTick }

/-- Drain the mask; a frame is asked for when anything changed. -/
def drain (desktop : Desktop δ β τ) : Desktop δ β τ :=
  let (dirty, session) := desktop.session.takeDirty
  { desktop with session, notified := desktop.notified || dirty != 0 }

def settle (desktop : Desktop δ β τ) : Desktop δ β τ := desktop.drain.ensureTicks

def command (env : SessionEnvironment δ β τ) (call : GuardedCall) (desktop : Desktop δ β τ) :
    Desktop δ β τ :=
  { desktop with session := desktop.session.guard env call.passed }.settle

/-- A step that a task takes: a call of the binding, and the mask is drained. -/
def tick (env : SessionEnvironment δ β τ) (call : GuardedCall) (desktop : Desktop δ β τ) :
    Desktop δ β τ :=
  { desktop with session := desktop.session.guard env call.passed }.drain

/-- The timer of the traffic fires: a task that finds traffic stopped ends. -/
def trafficFires (env : SessionEnvironment δ β τ) (arrival now : Int) (thrown : Option Bytes)
    (desktop : Desktop δ β τ) : Option (Desktop δ β τ) :=
  if !desktop.trafficTick then none
  else if !desktop.session.session.trafficRunning then some { desktop with trafficTick := false }
  else
    some (desktop.tick env
      { command := .runTrafficStep arrival now, thrown, guarded := SessionCommand.noConfusion })

/-- The timer of the report fires. -/
def reportFires (env : SessionEnvironment δ β τ) (latencyNs : Nat → UInt64) (sliceNs : UInt64)
    (thrown : Option Bytes) (desktop : Desktop δ β τ) : Option (Desktop δ β τ) :=
  if !desktop.reportTick then none
  else if !desktop.session.session.report.running then some { desktop with reportTick := false }
  else
    some (desktop.tick env
      { command := .runReportStep latencyNs sliceNs, thrown, guarded := SessionCommand.noConfusion })

/-- Draw a frame. -/
def draw (desktop : Desktop δ β τ) : Desktop δ β τ :=
  { desktop with
    notified := false
    frame :=
      { reading := desktop.session.reading
        status := footerStatus desktop.session.statusMessage } }

/-- What an event makes of a desktop; a timer fires only while its task is held. -/
def step (env : SessionEnvironment δ β τ) (desktop : Desktop δ β τ) :
    DesktopEvent → Option (Desktop δ β τ)
  | .command call => some (desktop.command env call)
  | .trafficTimer arrival now thrown => desktop.trafficFires env arrival now thrown
  | .reportTimer latencyNs sliceNs thrown => desktop.reportFires env latencyNs sliceNs thrown
  | .notify => some { desktop with notified := true }
  | .draw => some desktop.draw

end Desktop

/-- A desktop over its events, from one that has just opened its session. -/
def desktops {δ β τ : Type} (env : SessionEnvironment δ β τ) :
    TSys (Desktop δ β τ) DesktopEvent where
  init desktop := ∃ now session,
    SessionHandle.openSession wirelabFfiAbiVersion now = some session ∧ desktop = { session }
  step desktop event := desktop.step env event

end WireLab
