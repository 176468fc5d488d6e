import WireLab.Logic.SessionRuns
import WireLab.Theorems.StartTraffic

/-!
# Topology edits

An edit of the topology is all or nothing (`topology_edit_atomic`): a configuration
that is refused changes the status message and nothing else, and one that is accepted
is the topology in force with the edit that was asked for. What the edit is made on
and what is selected is in force in every reachable session (`Settled`), which makes
the code's `remove_if` remove exactly one node, or one link.
-/

namespace WireLab

open Base TopologyController

variable {δ β τ : Type}

/-- An edit of the topology. -/
inductive TopologyEdit
  | openTopology (files : Files) (path : Bytes)
  | addNode (id type : Bytes)
  | addLink («from» «to» : Bytes) (latencyMs : Int32)
  | removeSelected

namespace TopologyEdit

/-- The call that makes an edit, at a time. -/
def command (now : Int) : TopologyEdit → SessionCommand
  | openTopology files path => .openTopology files path now
  | addNode id type => .addNode id type now
  | addLink a b latencyMs => .addLink a b latencyMs now
  | removeSelected => .removeSelected now

/-- What an edit asks for, of the topology in force. -/
inductive Requests (session : Session δ β τ) : TopologyEdit → TopologyConfiguration → Prop
  | openTopology {files path configuration}
      (hread : topologyConfigurationFromYamlFile files (SessionDetail.stripFileUrl path) =
        .ok configuration) :
      Requests session (.openTopology files path) configuration
  /-- A node more; the first one gives the topology its name. -/
  | addNode {id type : Bytes} :
      Requests session (.addNode id type)
        { name := if session.hasTopology then session.inForce.name else bytes "untitled-lab"
          nodes := session.inForce.nodes ++
            [{ id := SessionDetail.trimmed id
               type := if SessionDetail.equalsIgnoreCase type (bytes "switch") then .switch
                else .host }]
          links := session.inForce.links }
  | addLink {a b : Bytes} {latencyMs : Int32} :
      Requests session (.addLink a b latencyMs)
        { session.inForce with
          links := session.inForce.links ++
            [{ «from» := SessionDetail.trimmed a, «to» := SessionDetail.trimmed b
               latency := latencyMs.toInt }] }
  /-- The selected node and its links less. -/
  | removeNode {node : TopologyNode} (hselected : session.selectionKind = .node)
      (hnode : node ∈ session.inForce.nodes) (hid : node.id = session.selectedFirst) :
      Requests session .removeSelected
        { session.inForce with
          nodes := session.inForce.nodes.erase node
          links := session.inForce.links.filter fun link =>
            link.from ≠ node.id ∧ link.to ≠ node.id }
  /-- The selected link less. -/
  | removeLink {link : TopologyLink} (hselected : session.selectionKind = .link)
      (hlink : link ∈ session.inForce.links) (hfrom : link.from = session.selectedFirst)
      (hto : link.to = session.selectedSecond) :
      Requests session .removeSelected
        { session.inForce with links := session.inForce.links.erase link }

end TopologyEdit

namespace Topology

variable (topology : Topology)

/-- Keeping the nodes with another id takes one node out. -/
theorem filter_nodes {node : TopologyNode} (hnode : node ∈ topology.configuration.nodes) :
    topology.configuration.nodes.filter (fun other => other.id ≠ node.id) =
      topology.configuration.nodes.erase node := by
  have hids : (topology.configuration.nodes.map TopologyNode.id).Nodup := topology.nodeIds_nodup
  rw [(List.Nodup.of_map _ hids).erase_eq_filter]
  refine List.filter_congr fun other hother => ?_
  have hsame : other.id = node.id ↔ other = node :=
    ⟨fun h => List.inj_on_of_nodup_map hids hother hnode h, fun h => h ▸ rfl⟩
  simp only [ne_eq, hsame, bne, decide_not, Bool.beq_eq_decide_eq]

/-- Keeping the links between other endpoints takes one link out. -/
theorem filter_links {link : TopologyLink} (hlink : link ∈ topology.configuration.links) :
    topology.configuration.links.filter (fun other => !joins link.from link.to other) =
      topology.configuration.links.erase link := by
  have hends := topology.links_pairwise
  have hdistinct : topology.configuration.links.Nodup := by
    refine hends.imp ?_
    rintro link other hne rfl
    exact hne rfl
  rw [hdistinct.erase_eq_filter]
  refine List.filter_congr fun other hother => ?_
  have hsame : joins link.from link.to other = true ↔ other = link := by
    rw [joins_iff]
    constructor
    · intro h
      by_contra hne
      have : Std.Symm fun link other : TopologyLink =>
          s(link.from, link.to) ≠ s(other.from, other.to) := ⟨fun _ _ h => h.symm⟩
      exact hends.forall hother hlink hne h.symm
    · rintro rfl
      rfl
  by_cases h : other = link
  · rw [hsame.mpr h, h, bne_self_eq_false, Bool.not_true]
  · rw [Bool.eq_false_iff.mpr (mt hsame.mp h), bne_iff_ne.mpr h, Bool.not_false]

end Topology

namespace TopologyEdit

open Session

section
variable {session : Session δ β τ} {configuration : TopologyConfiguration}

/-- Something is in force only where there is a topology. -/
theorem exists_topology_of_mem {α : Type} (entries : TopologyConfiguration → List α)
    (hempty : entries {} = []) {entry : α} (h : entry ∈ entries session.inForce) :
    ∃ topology, session.topologyController.topology = some topology ∧
      session.inForce = topology.configuration := by
  cases htopology : session.topologyController.topology with
  | none =>
      have hnone : session.inForce = {} := by
        unfold inForce
        rw [htopology]
        rfl
      rw [hnone, hempty] at h
      cases h
  | some topology =>
      refine ⟨topology, rfl, ?_⟩
      unfold inForce
      rw [htopology]
      rfl

/-- A node more, in a settled session. -/
theorem withNode_eq (hsettled : session.Settled) (id type : Bytes) :
    withNode session.topologyConfiguration id type =
      { name := if session.hasTopology then session.inForce.name else bytes "untitled-lab"
        nodes := session.inForce.nodes ++
          [{ id := SessionDetail.trimmed id
             type := if SessionDetail.equalsIgnoreCase type (bytes "switch") then .switch
              else .host }]
        links := session.inForce.links } := by
  have hname : (if session.inForce.name.isEmpty then bytes "untitled-lab"
      else session.inForce.name) =
      if session.hasTopology then session.inForce.name else bytes "untitled-lab" := by
    unfold inForce Session.hasTopology TopologyController.hasTopology
    cases session.topologyController.topology with
    | none => rfl
    | some topology =>
        have hnamed : topology.configuration.name.isEmpty = false := by
          simpa [Topology.name] using topology.name_ne_nil
        simp only [Option.map_some, Option.getD_some, hnamed, Option.isSome_some, if_true,
          Bool.false_eq_true, if_false]
  unfold withNode
  rw [hsettled.configuration, hname]

/-- The selected node less, in a settled session. -/
theorem withoutNode_eq (hsettled : session.Settled) {node : TopologyNode}
    (hnode : node ∈ session.inForce.nodes) (hid : node.id = session.selectedFirst) :
    withoutNode session.topologyConfiguration session.selectedFirst =
      { session.inForce with
        nodes := session.inForce.nodes.erase node
        links := session.inForce.links.filter fun link =>
          link.from ≠ node.id ∧ link.to ≠ node.id } := by
  obtain ⟨topology, _, hforce⟩ := exists_topology_of_mem (·.nodes) rfl hnode
  rw [hforce] at hnode
  rw [hsettled.configuration, hforce, ← hid, ← topology.filter_nodes hnode]
  simp only [withoutNode, Bool.not_or, ne_eq, Bool.decide_and, decide_not]

/-- The selected link less, in a settled session. -/
theorem withoutLink_eq (hsettled : session.Settled) {link : TopologyLink}
    (hlink : link ∈ session.inForce.links) (hfrom : link.from = session.selectedFirst)
    (hto : link.to = session.selectedSecond) :
    withoutLink session.topologyConfiguration session.selectedFirst session.selectedSecond =
      { session.inForce with links := session.inForce.links.erase link } := by
  obtain ⟨topology, _, hforce⟩ := exists_topology_of_mem (·.links) rfl hlink
  rw [hforce] at hlink
  rw [hsettled.configuration, hforce, ← hfrom, ← hto, ← topology.filter_links hlink]
  rfl

/-- In a settled session the code commits what the edit asks for. -/
theorem requests_iff (hsettled : session.Settled) (edit : TopologyEdit) (now : Int) :
    edit.Requests session configuration ↔
      session.requested (edit.command now) = some configuration := by
  constructor
  · intro hrequests
    cases hrequests with
    | openTopology hread =>
        simp only [command, requested, hread]
        rfl
    | addNode => exact congrArg some (withNode_eq hsettled _ _)
    | addLink =>
        simp only [command, requested, withLink, hsettled.configuration]
    | removeNode hselected hnode hid =>
        simp only [command, requested, hselected, withoutNode_eq hsettled hnode hid]
    | removeLink hselected hlink hfrom hto =>
        simp only [command, requested, hselected, withoutLink_eq hsettled hlink hfrom hto]
  · intro hrequested
    cases edit with
    | openTopology files path =>
        refine .openTopology ?_
        simp only [command, requested] at hrequested
        generalize topologyConfigurationFromYamlFile files (SessionDetail.stripFileUrl path) = read
          at hrequested ⊢
        cases read with
        | error e => cases hrequested
        | ok configuration => cases hrequested; rfl
    | addNode id type =>
        obtain rfl := Option.some.inj hrequested
        rw [withNode_eq hsettled]
        exact .addNode
    | addLink a b latencyMs =>
        obtain rfl := Option.some.inj hrequested
        rw [withLink, hsettled.configuration]
        exact .addLink
    | removeSelected =>
        simp only [command, requested] at hrequested
        have hselection := hsettled.selection
        cases hkind : session.selectionKind with
        | none =>
            rw [hkind] at hrequested
            cases hrequested
        | node =>
            rw [hkind] at hrequested hselection
            obtain ⟨node, hnode, hid⟩ := hselection
            obtain rfl := Option.some.inj hrequested
            rw [withoutNode_eq hsettled hnode hid]
            exact .removeNode hkind hnode hid
        | link =>
            rw [hkind] at hrequested hselection
            obtain ⟨link, hlink, hfrom, hto⟩ := hselection
            obtain rfl := Option.some.inj hrequested
            rw [withoutLink_eq hsettled hlink hfrom hto]
            exact .removeLink hkind hlink hfrom hto

/-- Where nothing is asked for, there is a message at most. -/
theorem perform_unrequested (env : SessionEnvironment δ β τ) {edit : TopologyEdit} {now : Int}
    (h : session.requested (edit.command now) = none) :
    (edit.command now).perform env session = (.returned, session) ∨
      ∃ message, (edit.command now).perform env session =
        (.returned, session.setStatus message) := by
  cases edit with
  | openTopology files path =>
      simp only [command, requested] at h
      simp only [command, SessionCommand.perform, Session.openTopology]
      generalize topologyConfigurationFromYamlFile files (SessionDetail.stripFileUrl path) = read
        at h ⊢
      cases read with
      | error e => exact .inr ⟨_, rfl⟩
      | ok configuration => cases h
  | addNode id type => cases h
  | addLink a b latencyMs => cases h
  | removeSelected =>
      simp only [command, requested] at h
      cases hkind : session.selectionKind with
      | none =>
          refine .inl ?_
          simp only [command, SessionCommand.perform, Session.removeSelected, hkind]
      | node =>
          rw [hkind] at h
          cases h
      | link =>
          rw [hkind] at h
          cases h

end

end TopologyEdit

/-- **An edit of the topology is all or nothing.** For every reachable session and
every edit: a configuration that is asked for and accepted is the topology in force
after the call, and what is edited next; where none is, the session is the same but
for its status message, and for the path of the file opened last, which nothing
reads. -/
theorem topology_edit_atomic (env : SessionEnvironment δ β τ) {session : Session δ β τ}
    (hreachable : (sessionCommands env).Reachable session) (edit : TopologyEdit) (now : Int) :
    (∀ configuration topology, edit.Requests session configuration →
        Topology.create configuration = .ok topology →
      ((edit.command now).perform env session).2.topologyController.topology = some topology ∧
        ((edit.command now).perform env session).2.topologyConfiguration = configuration ∧
        topology.configuration = configuration) ∧
    ((∀ configuration topology, edit.Requests session configuration →
        Topology.create configuration ≠ .ok topology) →
      ((edit.command now).perform env session).2 = session ∨
        ∃ path, (session.withPath path).OnlyStatus ((edit.command now).perform env session).2) := by
  have hsettled := Session.settled_reachable hreachable
  constructor
  · intro configuration topology hrequests hcreate
    have hrequested := (TopologyEdit.requests_iff hsettled edit now).mp hrequests
    obtain ⟨path, message, _, hperform⟩ := Session.perform_accepted env hrequested hcreate
    rw [hperform]
    exact ⟨rfl, rfl, Session.create_configuration hcreate⟩
  · intro hrefused
    cases hrequested : session.requested (edit.command now) with
    | none =>
        rcases TopologyEdit.perform_unrequested env hrequested with hsame | ⟨message, htold⟩
        · exact .inl (congrArg Prod.snd hsame)
        · exact .inr ⟨session.topologyPath, message, congrArg Prod.snd htold⟩
    | some configuration =>
        have hrequests := (TopologyEdit.requests_iff hsettled edit now).mpr hrequested
        cases hcreate : Topology.create configuration with
        | ok topology => exact absurd hcreate (hrefused configuration topology hrequests)
        | error error => exact .inr (Session.perform_refused env hrequested hcreate)

/-- A link added to the small lab. -/
def linkedConfiguration : TopologyConfiguration where
  name := bytes "untitled-lab"
  nodes := [{ id := bytes "core", type := .switch }, { id := bytes "client" },
    { id := bytes "server" }]
  links := [{ «from» := bytes "client", «to» := bytes "core", latency := 3 }]

def linkedTopology : Topology where
  configuration := linkedConfiguration
  switchIndex := 0
  created := by decide +kernel

theorem topology_edit_atomic_twoHosts :
    (((TopologyEdit.addLink (bytes "client") (bytes " core ") 3).command 4).perform
      Session.cpuBuild Session.twoHosts).2.topologyController.topology = some linkedTopology := by
  have hrequests : (TopologyEdit.addLink (bytes "client") (bytes " core ") 3).Requests
      Session.twoHosts linkedConfiguration := by
    have hlinked : linkedConfiguration =
        { Session.twoHosts.inForce with
          links := Session.twoHosts.inForce.links ++
            [{ «from» := SessionDetail.trimmed (bytes "client")
               «to» := SessionDetail.trimmed (bytes " core ")
               latency := (3 : Int32).toInt }] } := by decide +kernel
    rw [hlinked]
    exact .addLink
  exact ((topology_edit_atomic Session.cpuBuild Session.twoHosts_reachable _ 4).1
    linkedConfiguration linkedTopology hrequests rfl).1

end WireLab
