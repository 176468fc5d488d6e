import WireLab.Base.TSys
import WireLab.Model.SessionPolicy
import WireLab.Model.SessionTopology

/-!
# The commands of a session

The commands of `session_report.cpp`, and the public commands of a session as one
system (`sessionCommands`): a label carries a command's arguments and what the call
reads from the clock, the files and the devices. A call that throws takes the session
as far as it got.
-/

namespace WireLab

open Base

namespace Session

variable {δ β τ : Type}

/-- The session with its report replaced. -/
def withReport (report : BenchmarkReport β τ) (session : Session δ β τ) : Session δ β τ :=
  { session with report }

def finishReport (session : Session δ β τ) : Session δ β τ :=
  ((session.withReport session.report.finished).setStatus
    (bytes "Benchmark report complete.")).mark .report

def runBenchmarkReport (env : SessionEnvironment δ β τ) (scenario : Bytes)
    (packets batchSize frameSize seed : Int32) (generatedAt : Bytes) (session : Session δ β τ) :
    Completion × Session δ β τ :=
  if session.report.running then
    (.returned, session.setStatus (bytes "A benchmark report is already running."))
  else
    match trafficScenarioFromString scenario with
    | .error _ => (.returned, session.setStatus (bytes "Report settings are invalid."))
    | .ok parsedScenario =>
        if packets.toInt ≤ 0 ∨ batchSize.toInt ≤ 0 ∨ seed.toInt < 0 ∨
            frameSize.toInt < ethernetHeaderSize ∨
            frameSize.toInt > maxBenchmarkFrameSize.toNat then
          (.returned, session.setStatus (bytes "Report settings are invalid."))
        else
          let config := BenchmarkReport.configured parsedScenario packets batchSize frameSize seed
          match (session.report.started env generatedAt config).beginNext env with
          | (.threw, report) => (.threw, session.withReport report)
          | (.exhausted, report) => (.returned, (session.withReport report).finishReport)
          | (.armed, report) =>
              (.returned, ((session.withReport report).setStatus
                (bytes "Benchmark report running on " ++ decimal report.queue.length ++
                  bytes " backend(s).")).mark .report)

/-- The rest of a step, behind the armed run. -/
def advanceReport (env : SessionEnvironment δ β τ) (latencyNs : Nat → UInt64) (sliceNs : UInt64)
    (run : BenchmarkRun β τ) (session : Session δ β τ) : Completion × Session δ β τ :=
  let report := session.report.advanced latencyNs sliceNs run
  match report.run with
  | some _ => (.returned, (session.withReport report.progressed).mark .report)
  | none =>
      match report.beginNext env with
      | (.threw, report) => (.threw, session.withReport report)
      | (.exhausted, report) => (.returned, (session.withReport report).finishReport)
      | (.armed, report) => (.returned, (session.withReport report.progressed).mark .report)

def runReportStep (env : SessionEnvironment δ β τ) (latencyNs : Nat → UInt64) (sliceNs : UInt64)
    (session : Session δ β τ) : Completion × Session δ β τ :=
  if !session.report.running then (.returned, session)
  else
    match session.report.run with
    | some run => session.advanceReport env latencyNs sliceNs run
    | none =>
        match session.report.beginNext env with
        | (.threw, report) => (.threw, session.withReport report)
        | (.exhausted, report) => (.returned, (session.withReport report).finishReport)
        | (.armed, report) =>
            match report.run with
            | none => (.returned, session.withReport report)
            | some run => (session.withReport report).advanceReport env latencyNs sliceNs run

/-- What an export that fails leaves. -/
def failExport (message : Bytes) (session : Session δ β τ) : Bool × Session δ β τ :=
  (false, ((session.withReport { session.report with exportPath := message }).setStatus
    message).mark .report)

/-- The path of an export, without its extension. -/
def reportPath (path : Bytes) : Bytes :=
  let localPath := SessionDetail.stripFileUrl path
  if endsWithJson localPath then localPath.take (localPath.length - 5) else localPath

/-- Export the report. The flags say whether each file could be written. -/
def exportReport (jsonWritten csvWritten : Bool) (path : Bytes) (session : Session δ β τ) :
    Bool × Session δ β τ :=
  if session.report.rows.isEmpty then
    session.failExport (bytes "Run a benchmark report before exporting.")
  else
    let localPath := reportPath path
    if localPath.isEmpty then session.failExport (bytes "Choose a file name for the report.")
    else
      let jsonPath := localPath ++ bytes ".json"
      let csvPath := localPath ++ bytes ".csv"
      if !jsonWritten then session.failExport (bytes "Could not write " ++ jsonPath)
      else if !csvWritten then session.failExport (bytes "Could not write " ++ csvPath)
      else
        (true, ((session.withReport { session.report with exportPath := jsonPath }).setStatus
          (bytes "Exported report to " ++ SessionDetail.fileNameOf jsonPath ++ bytes " and " ++
            SessionDetail.fileNameOf csvPath)).mark .report)

end Session

/-! ## The system -/

/-- A call of a public command. -/
inductive SessionCommand
  | takeDirty
  | openTopology (files : Files) (path : Bytes) (now : Int)
  | saveTopology (opens stores : Bool) (path : Bytes)
  | addNode (id type : Bytes) (now : Int)
  | addLink («from» «to» : Bytes) (latencyMs : Int32) (now : Int)
  | removeSelected (now : Int)
  | selectNode (id : Bytes)
  | selectLink («from» «to» : Bytes)
  | clearSelection
  | applySelectedFault (latencyMs : Int32) (lossPercent : Float) (blackhole : Bool)
  | clearFault (firstEndpoint secondEndpoint : Bytes)
  | addPolicy (name anomalyType action : Bytes) (rateLimitPps : UInt64)
  | removePolicy (name : Bytes)
  | setPolicyEnabled (name : Bytes) (enabled : Bool)
  | releaseEnforcement (portId : Bytes)
  | startTraffic (scenario : Bytes) (packetsPerTick frameSize : Int32) (seed : UInt64)
      (backend : Bytes)
  | stopTraffic
  | runTrafficStep (arrival now : Int)
  | runBenchmarkReport (scenario : Bytes) (packets batchSize frameSize seed : Int32)
      (generatedAt : Bytes)
  | runReportStep (latencyNs : Nat → UInt64) (sliceNs : UInt64)
  | exportReport (jsonWritten csvWritten : Bool) (path : Bytes)

variable {δ β τ : Type}

/-- What a call makes of a session. -/
def SessionCommand.perform (env : SessionEnvironment δ β τ) (session : Session δ β τ) :
    SessionCommand → Completion × Session δ β τ
  | .takeDirty => (.returned, session.takeDirty.2)
  | .openTopology files path now => (.returned, session.openTopology files path now)
  | .saveTopology opens stores path => (.returned, (session.saveTopology opens stores path).2)
  | .addNode id type now => (.returned, session.addNode id type now)
  | .addLink a b latencyMs now => (.returned, session.addLink a b latencyMs now)
  | .removeSelected now => (.returned, session.removeSelected now)
  | .selectNode id => (.returned, session.selectNode id)
  | .selectLink a b => (.returned, session.selectLink a b)
  | .clearSelection => (.returned, session.clearSelection)
  | .applySelectedFault latencyMs lossPercent blackhole =>
      (.returned, session.applySelectedFault env latencyMs lossPercent blackhole)
  | .clearFault first second => (.returned, session.clearFault first second)
  | .addPolicy name anomalyType action rate =>
      (.returned, session.addPolicy name anomalyType action rate)
  | .removePolicy name => (.returned, session.removePolicy name)
  | .setPolicyEnabled name enabled => (.returned, session.setPolicyEnabled name enabled)
  | .releaseEnforcement portId => (.returned, session.releaseEnforcement portId)
  | .startTraffic scenario packetsPerTick frameSize seed backend =>
      session.startTraffic env scenario packetsPerTick frameSize seed backend
  | .stopTraffic => (.returned, session.stopTraffic)
  | .runTrafficStep arrival now => session.runTrafficStep env arrival now
  | .runBenchmarkReport scenario packets batchSize frameSize seed generatedAt =>
      session.runBenchmarkReport env scenario packets batchSize frameSize seed generatedAt
  | .runReportStep latencyNs sliceNs => session.runReportStep env latencyNs sliceNs
  | .exportReport jsonWritten csvWritten path =>
      (.returned, (session.exportReport jsonWritten csvWritten path).2)

/-- A session over its commands, from a new one. -/
def sessionCommands (env : SessionEnvironment δ β τ) : TSys (Session δ β τ) SessionCommand where
  init session := ∃ now, session = Session.create now
  step session command := some (command.perform env session).2

end WireLab
