import WireLab.Model.SessionTraffic
import WireLab.Model.TopologyYaml

/-!
# The topology of a session

`session_topology.cpp`: opening, saving and editing the topology, the selection, and
the faults an operator configures on it. An edit is made on a copy of the
configuration, which is then committed.
-/

namespace WireLab

open Base

namespace Session

variable {δ β τ : Type}

/-- The session with its selection replaced. -/
def withSelection (kind : SelectionKind) (id first second summary : Bytes)
    (session : Session δ β τ) : Session δ β τ :=
  { session with
    selectionKind := kind
    selectedId := id
    selectedFirst := first
    selectedSecond := second
    selectedSummary := summary }.mark .selection

def clearSelection (session : Session δ β τ) : Session δ β τ :=
  session.withSelection .none [] [] [] []

/-- The session with its topology replaced. -/
def withTopology (configuration : TopologyConfiguration) (topology : Topology)
    (session : Session δ β τ) : Session δ β τ :=
  { session with
    topologyConfiguration := configuration
    topologyController := session.topologyController.load topology }

/-- What `commit_topology` does behind its check. -/
def replaceTopology (configuration : TopologyConfiguration) (topology : Topology)
    (successMessage : Bytes) (now : Int) (session : Session δ β τ) : Session δ β τ :=
  let session := session.stopTraffic.withTopology configuration topology
  let session := (session.clearSelection.resetSimulation now).rebuildTopologyRows
  (session.rebuildFaultRows.setStatus successMessage).mark .topology

/-- Replace the topology, if it is one; the flag says so. -/
def commitTopology (configuration : TopologyConfiguration) (successMessage : Bytes) (now : Int)
    (session : Session δ β τ) : Bool × Session δ β τ :=
  match Topology.create configuration with
  | .error e => (false, session.setStatus (bytes "Topology validation failed: " ++ e.toString))
  | .ok topology => (true, session.replaceTopology configuration topology successMessage now)

/-- The session with the path of its topology replaced, which nothing reads. -/
def withPath (topologyPath : Bytes) (session : Session δ β τ) : Session δ β τ :=
  { session with topologyPath }

def openTopology (files : Files) (path : Bytes) (now : Int) (session : Session δ β τ) :
    Session δ β τ :=
  let localPath := SessionDetail.stripFileUrl path
  match topologyConfigurationFromYamlFile files localPath with
  | .error e => session.setStatus (bytes "Open topology failed: " ++ e.toString)
  | .ok configuration =>
      ((session.withPath localPath).commitTopology configuration
        (bytes "Loaded " ++ configuration.name) now).2

/-- Save the topology. The flags say whether the file opens and whether it takes what
is written; what is given to it is the text. -/
def saveTopology (opens stores : Bool) (path : Bytes) (session : Session δ β τ) :
    Option Bytes × Session δ β τ :=
  if !session.hasTopology then (none, session.setStatus (bytes "There is no topology to save."))
  else
    let localPath := SessionDetail.stripFileUrl path
    if !opens then
      (none, session.setStatus (bytes "Could not open " ++ path ++ bytes " for writing."))
    else
      let text := topologyYaml session.topologyConfiguration
      if !stores then
        (some text, session.setStatus (bytes "Writing " ++ localPath ++ bytes " failed."))
      else
        (some text, (session.withPath localPath).setStatus
          (bytes "Saved topology to " ++ SessionDetail.fileNameOf localPath))

/-! ## Selection -/

def selectNode (id : Bytes) (session : Session δ β τ) : Session δ β τ :=
  match session.topologyConfiguration.nodes.find? fun node => node.id = id with
  | none => session
  | some found =>
      let connected := session.topologyConfiguration.links.countP fun link =>
        link.from = found.id || link.to = found.id
      session.withSelection .node id id []
        (found.type.toString ++ bytes " node" ++ SessionDetail.middleDot ++ decimal connected ++
          bytes " connected link(s)")

def selectLink («from» «to» : Bytes) (session : Session δ β τ) : Session δ β τ :=
  match session.topologyConfiguration.links.find? (TopologyController.joins «from» «to») with
  | none => session
  | some found =>
      session.withSelection .link («from» ++ SessionDetail.leftRightArrow ++ «to») found.from found.to
        (jsonInt found.latency ++ bytes " ms base latency")

/-! ## Edits -/

/-- The configuration with a node more; one without a name gets one. -/
def withNode (configuration : TopologyConfiguration) (id type : Bytes) : TopologyConfiguration :=
  { configuration with
    name := if configuration.name.isEmpty then bytes "untitled-lab" else configuration.name
    nodes := configuration.nodes ++
      [{ id := SessionDetail.trimmed id
         type := if SessionDetail.equalsIgnoreCase type (bytes "switch") then .switch else .host }] }

def withLink (configuration : TopologyConfiguration) («from» «to» : Bytes) (latencyMs : Int32) :
    TopologyConfiguration :=
  { configuration with
    links := configuration.links ++
      [{ «from» := SessionDetail.trimmed «from», «to» := SessionDetail.trimmed «to»
         latency := latencyMs.toInt }] }

/-- The configuration without a node and its links. -/
def withoutNode (configuration : TopologyConfiguration) (id : Bytes) : TopologyConfiguration :=
  { configuration with
    nodes := configuration.nodes.filter fun node => node.id ≠ id
    links := configuration.links.filter fun link => !(link.from = id || link.to = id) }

def withoutLink (configuration : TopologyConfiguration) (first second : Bytes) :
    TopologyConfiguration :=
  { configuration with
    links := configuration.links.filter fun link => !TopologyController.joins first second link }

def addNode (id type : Bytes) (now : Int) (session : Session δ β τ) : Session δ β τ :=
  (session.commitTopology (withNode session.topologyConfiguration id type)
    (bytes "Added node " ++ SessionDetail.trimmed id) now).2

def addLink («from» «to» : Bytes) (latencyMs : Int32) (now : Int) (session : Session δ β τ) :
    Session δ β τ :=
  (session.commitTopology (withLink session.topologyConfiguration «from» «to» latencyMs)
    (bytes "Added link " ++ SessionDetail.trimmed «from» ++ SessionDetail.leftRightArrow ++
      SessionDetail.trimmed «to») now).2

def removeSelected (now : Int) (session : Session δ β τ) : Session δ β τ :=
  let message := bytes "Removed " ++ session.selectedId
  match session.selectionKind with
  | .none => session
  | .node =>
      (session.commitTopology (withoutNode session.topologyConfiguration session.selectedFirst)
        message now).2
  | .link =>
      (session.commitTopology
        (withoutLink session.topologyConfiguration session.selectedFirst session.selectedSecond)
        message now).2

/-! ## Faults -/

/-- The fault of an operator's form. -/
def formFault (env : SessionEnvironment δ β τ) (latencyMs : Int32) (lossPercent : Float)
    (blackhole : Bool) : FaultConfiguration where
  latency := latencyMs.toInt * 1000000
  lossBasisPoints := UInt32.ofInt (env.lround (lossPercent * 100.0))
  blackhole := blackhole

/-- Configure a fault on what is selected. -/
def setSelectedFault (configuration : FaultConfiguration) (session : Session δ β τ) :
    Except TopologyControllerError TopologyController :=
  if session.selectionKind = .link then
    session.topologyController.setLinkFault session.selectedFirst session.selectedSecond configuration
  else session.topologyController.setPortFault session.selectedFirst configuration

def applySelectedFault (env : SessionEnvironment δ β τ) (latencyMs : Int32) (lossPercent : Float)
    (blackhole : Bool) (session : Session δ β τ) : Session δ β τ :=
  if session.selectionKind = .none then
    session.setStatus (bytes "Select a host or link before applying a fault.")
  else
    match session.setSelectedFault (formFault env latencyMs lossPercent blackhole) with
    | .error e =>
        (session.setStatus (bytes "Apply fault failed: " ++ e.toString)).rebuildFaultRows
    | .ok topologyController =>
        ((session.withEngines session.analysisPipeline topologyController).setStatus
          (bytes "Applied fault to " ++ session.selectedId)).rebuildFaultRows

def clearFault (firstEndpoint secondEndpoint : Bytes) (session : Session δ β τ) :
    Session δ β τ :=
  let (cleared, topologyController) :=
    if secondEndpoint.isEmpty then session.topologyController.clearPortFault firstEndpoint
    else session.topologyController.clearLinkFault firstEndpoint secondEndpoint
  ((session.withEngines session.analysisPipeline topologyController).setStatus
    (if cleared then bytes "Cleared fault."
      else bytes "The selected fault was no longer active.")).rebuildFaultRows

end Session
end WireLab
