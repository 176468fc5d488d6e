import Mathlib.Data.Sym.Sym2
import WireLab.Base.Bytes

/-!
# Topologies

`topology.cpp`: a network of one switch and its hosts, and the checks
`Topology::create` makes before a configuration becomes one. A `Topology` can
only be built from a configuration that passed them, so its node ids are
non-empty and distinct and every link joins two of its nodes
(`Topology.nodeId_ne_nil`, `Topology.nodeIds_nodup`, `Topology.from_mem`,
`Topology.to_mem`).
-/

namespace WireLab

open Base

inductive TopologyNodeType
  | host
  | switch
  deriving DecidableEq, Repr

inductive TopologyValidationError
  | missingName
  | missingNodes
  | missingNodeId
  | duplicateNodeId
  | missingSwitch
  | multipleSwitches
  | unknownLinkEndpoint
  | selfLink
  | duplicateLink
  | invalidLinkShape
  | negativeLatency
  deriving DecidableEq, Repr

structure TopologyNode where
  id : Bytes
  type : TopologyNodeType := .host
  deriving DecidableEq, Repr

/-- A link; its latency is in milliseconds. -/
structure TopologyLink where
  «from» : Bytes
  «to» : Bytes
  latency : Int := 0
  deriving DecidableEq, Repr

structure TopologyConfiguration where
  name : Bytes := []
  nodes : List TopologyNode := []
  links : List TopologyLink := []
  deriving DecidableEq, Repr

def TopologyNodeType.toString : TopologyNodeType → Bytes
  | .host => bytes "host"
  | .switch => bytes "switch"

def TopologyValidationError.toString : TopologyValidationError → Bytes
  | .missingName => bytes "topology name is required"
  | .missingNodes => bytes "topology requires at least one node"
  | .missingNodeId => bytes "topology node id is required"
  | .duplicateNodeId => bytes "topology node ids must be unique"
  | .missingSwitch => bytes "topology requires exactly one switch"
  | .multipleSwitches => bytes "topology requires exactly one switch"
  | .unknownLinkEndpoint => bytes "topology link endpoint does not exist"
  | .selfLink => bytes "topology link cannot connect a node to itself"
  | .duplicateLink => bytes "topology links must be unique"
  | .invalidLinkShape => bytes "topology links must connect the switch to a host"
  | .negativeLatency => bytes "topology link latency cannot be negative"

/-! ## The checks of `create` -/

/-- The key under which a link is unique, whichever way round it is written. -/
def linkKey (first second : Bytes) : Bytes :=
  if first < second then first ++ 0 :: second else second ++ 0 :: first

/-- What the node loop has gathered. -/
structure NodeScan where
  nodeIds : List Bytes := []
  switchCount : Nat := 0
  switchIndex : Nat := 0

/-- The node loop, from position `index`. -/
def scanNodes : List TopologyNode → Nat → NodeScan → Except TopologyValidationError NodeScan
  | [], _, scan => .ok scan
  | node :: rest, index, scan =>
      if node.id.isEmpty then .error .missingNodeId
      else if node.id ∈ scan.nodeIds then .error .duplicateNodeId
      else if node.type = .switch then
        scanNodes rest (index + 1)
          { nodeIds := node.id :: scan.nodeIds, switchCount := scan.switchCount + 1,
            switchIndex := index }
      else scanNodes rest (index + 1) { scan with nodeIds := node.id :: scan.nodeIds }

/-- The link loop: `linkKeys` are the links already seen. -/
def scanLinks (nodeIds : List Bytes) (switchId : Bytes) :
    List TopologyLink → List Bytes → Except TopologyValidationError Unit
  | [], _ => .ok ()
  | link :: rest, linkKeys =>
      if link.from = link.to then .error .selfLink
      else if link.from ∉ nodeIds ∨ link.to ∉ nodeIds then .error .unknownLinkEndpoint
      else if linkKey link.from link.to ∈ linkKeys then .error .duplicateLink
      else if link.latency < 0 then .error .negativeLatency
      else if (link.from = switchId ↔ link.to = switchId) then .error .invalidLinkShape
      else scanLinks nodeIds switchId rest (linkKey link.from link.to :: linkKeys)

/-- The checks of `create`; the answer is the position of the switch. -/
def TopologyConfiguration.validate (configuration : TopologyConfiguration) :
    Except TopologyValidationError Nat :=
  if configuration.name.isEmpty then .error .missingName
  else if configuration.nodes.isEmpty then .error .missingNodes
  else
    match scanNodes configuration.nodes 0 {} with
    | .error e => .error e
    | .ok scan =>
        if scan.switchCount = 0 then .error .missingSwitch
        else if scan.switchCount > 1 then .error .multipleSwitches
        else
          let switchId := (configuration.nodes[scan.switchIndex]?.map TopologyNode.id).getD []
          match scanLinks scan.nodeIds switchId configuration.links [] with
          | .error e => .error e
          | .ok () => .ok scan.switchIndex

/-- A configuration that `create` accepted. -/
structure Topology where
  configuration : TopologyConfiguration
  switchIndex : Nat
  created : configuration.validate = .ok switchIndex

namespace Topology

def create (configuration : TopologyConfiguration) : Except TopologyValidationError Topology :=
  match h : configuration.validate with
  | .error e => .error e
  | .ok switchIndex => .ok { configuration, switchIndex, created := h }

def name (topology : Topology) : Bytes := topology.configuration.name
def nodes (topology : Topology) : List TopologyNode := topology.configuration.nodes
def links (topology : Topology) : List TopologyLink := topology.configuration.links

/-- The node ids, in declaration order. -/
def nodeIds (topology : Topology) : List Bytes := topology.nodes.map TopologyNode.id

end Topology

/-- A star of two hosts around one switch. -/
def labTopology : Topology where
  configuration :=
    { name := bytes "lab"
      nodes := [{ id := bytes "sw", type := .switch }, { id := bytes "h1" }, { id := bytes "h2" }]
      links := [{ «from» := bytes "h1", «to» := bytes "sw" },
        { «from» := bytes "h2", «to» := bytes "sw" }] }
  switchIndex := 0
  created := by decide

/-! ## What the checks guarantee -/

/-- The node loop gathers the ids of distinct, named nodes. -/
theorem scanNodes_spec {nodes : List TopologyNode} {index : Nat} {scan out : NodeScan}
    (h : scanNodes nodes index scan = .ok out) :
    (∀ id ∈ out.nodeIds, id ∈ scan.nodeIds ∨ id ∈ nodes.map TopologyNode.id) ∧
      (∀ node ∈ nodes, node.id ≠ [] ∧ node.id ∉ scan.nodeIds) ∧
      (nodes.map TopologyNode.id).Nodup := by
  induction nodes generalizing index scan with
  | nil =>
      obtain rfl := Except.ok.inj h
      exact ⟨fun id hid => .inl hid, by simp, by simp⟩
  | cons node rest ih =>
      -- Both kinds of node put their id in front of the ids seen so far.
      have hstep : node.id ≠ [] ∧ node.id ∉ scan.nodeIds ∧
          ∃ scan', scan'.nodeIds = node.id :: scan.nodeIds ∧
            scanNodes rest (index + 1) scan' = .ok out := by
        unfold scanNodes at h
        split_ifs at h with hid hseen hswitch
        · exact ⟨by simpa using hid, hseen, _, rfl, h⟩
        · exact ⟨by simpa using hid, hseen, _, rfl, h⟩
      obtain ⟨hid, hfresh, scan', hids, hrest⟩ := hstep
      obtain ⟨hout, hnodes, hnodup⟩ := ih hrest
      refine ⟨fun id hmem => ?_, fun other hmem => ?_, ?_⟩
      · rcases hout id hmem with hseen | htail
        · rw [hids] at hseen
          rcases List.mem_cons.mp hseen with rfl | hold
          · exact .inr (by simp)
          · exact .inl hold
        · exact .inr (List.mem_cons_of_mem _ htail)
      · rcases List.mem_cons.mp hmem with rfl | htail
        · exact ⟨hid, hfresh⟩
        · have := hnodes other htail
          rw [hids] at this
          exact ⟨this.1, fun hold => this.2 (List.mem_cons_of_mem _ hold)⟩
      · refine List.nodup_cons.mpr ⟨fun hmem => ?_, hnodup⟩
        obtain ⟨other, hother, heq⟩ := List.mem_map.mp hmem
        have := (hnodes other hother).2
        rw [hids, heq] at this
        exact this List.mem_cons_self

/-- The link loop accepts only links between known nodes. -/
theorem scanLinks_spec {nodeIds : List Bytes} {switchId : Bytes} {links : List TopologyLink}
    {linkKeys : List Bytes} (h : scanLinks nodeIds switchId links linkKeys = .ok ()) :
    ∀ link ∈ links, link.from ∈ nodeIds ∧ link.to ∈ nodeIds := by
  induction links generalizing linkKeys with
  | nil => simp
  | cons link rest ih =>
      unfold scanLinks at h
      split_ifs at h with _ hknown
      intro other hmem
      rcases List.mem_cons.mp hmem with rfl | htail
      · simpa only [not_or, not_not] using hknown
      · exact ih h other htail

/-- The link loop accepts no negative latency. -/
theorem scanLinks_latency {nodeIds : List Bytes} {switchId : Bytes} {links : List TopologyLink}
    {linkKeys : List Bytes} (h : scanLinks nodeIds switchId links linkKeys = .ok ()) :
    ∀ link ∈ links, 0 ≤ link.latency := by
  induction links generalizing linkKeys with
  | nil => simp
  | cons link rest ih =>
      unfold scanLinks at h
      split_ifs at h with _ _ _ hnegative
      intro other hmem
      rcases List.mem_cons.mp hmem with rfl | htail
      · exact Int.not_lt.mp hnegative
      · exact ih h other htail

/-- The key of a link does not depend on the way round it is written. -/
theorem linkKey_congr {a b c d : Bytes} (h : s(a, b) = s(c, d)) : linkKey a b = linkKey c d := by
  have hswap : ∀ x y : Bytes, linkKey x y = linkKey y x := by
    intro x y
    unfold linkKey
    by_cases hxy : x < y
    · rw [if_pos hxy, if_neg (List.lt_asymm hxy)]
    · by_cases hyx : y < x
      · rw [if_neg hxy, if_pos hyx]
      · rw [List.le_antisymm (List.not_lt.mp hyx) (List.not_lt.mp hxy)]
  rcases Sym2.eq_iff.mp h with ⟨rfl, rfl⟩ | ⟨rfl, rfl⟩
  · rfl
  · exact hswap a b

/-- The link loop accepts only links that join different endpoints from one
another and from the links already seen. -/
theorem scanLinks_pairwise {nodeIds : List Bytes} {switchId : Bytes} {links : List TopologyLink}
    {linkKeys : List Bytes} (h : scanLinks nodeIds switchId links linkKeys = .ok ()) :
    (links.Pairwise fun link other => s(link.from, link.to) ≠ s(other.from, other.to)) ∧
      ∀ link ∈ links, linkKey link.from link.to ∉ linkKeys := by
  induction links generalizing linkKeys with
  | nil => exact ⟨.nil, by simp⟩
  | cons link rest ih =>
      unfold scanLinks at h
      split_ifs at h with _ _ hseen
      obtain ⟨hrest, hfresh⟩ := ih h
      refine ⟨List.pairwise_cons.mpr ⟨fun other hother hsame => ?_, hrest⟩, fun other hmem => ?_⟩
      · exact hfresh other hother (linkKey_congr hsame ▸ List.mem_cons_self)
      · rcases List.mem_cons.mp hmem with rfl | htail
        · exact hseen
        · exact fun hold => hfresh other htail (List.mem_cons_of_mem _ hold)

namespace Topology

variable (topology : Topology)

/-- What an accepted configuration went through. -/
private theorem scans :
    ∃ scan switchId, scanNodes topology.nodes 0 {} = .ok scan ∧
      scanLinks scan.nodeIds switchId topology.links [] = .ok () := by
  have h := topology.created
  unfold TopologyConfiguration.validate at h
  split_ifs at h
  split at h
  · exact absurd h (by simp)
  · next scan hscan =>
      split_ifs at h
      dsimp only at h
      split at h
      · exact absurd h (by simp)
      · next hlinks => exact ⟨scan, _, hscan, hlinks⟩

/-- No node is nameless. -/
theorem nodeId_ne_nil {id : Bytes} (h : id ∈ topology.nodeIds) : id ≠ [] := by
  obtain ⟨scan, _, hscan, _⟩ := topology.scans
  obtain ⟨node, hnode, rfl⟩ := List.mem_map.mp h
  exact ((scanNodes_spec hscan).2.1 node hnode).1

/-- Node ids are distinct. -/
theorem nodeIds_nodup : topology.nodeIds.Nodup := by
  obtain ⟨scan, _, hscan, _⟩ := topology.scans
  exact (scanNodes_spec hscan).2.2

private theorem endpoints_mem {link : TopologyLink} (h : link ∈ topology.links) :
    link.from ∈ topology.nodeIds ∧ link.to ∈ topology.nodeIds := by
  obtain ⟨scan, _, hscan, hlinks⟩ := topology.scans
  obtain ⟨hfrom, hto⟩ := scanLinks_spec hlinks link h
  have hids := (scanNodes_spec hscan).1
  exact ⟨(hids _ hfrom).resolve_left (by simp), (hids _ hto).resolve_left (by simp)⟩

/-- No latency is negative. -/
theorem latency_nonneg {link : TopologyLink} (h : link ∈ topology.links) : 0 ≤ link.latency := by
  obtain ⟨scan, switchId, _, hlinks⟩ := topology.scans
  exact scanLinks_latency hlinks link h

/-- A topology has a name. -/
theorem name_ne_nil : topology.name ≠ [] := by
  intro hnil
  have h := topology.created
  unfold TopologyConfiguration.validate at h
  rw [show topology.configuration.name = [] from hnil] at h
  cases h

/-- No two links join the same endpoints, whichever way round. -/
theorem links_pairwise : topology.links.Pairwise fun link other =>
    s(link.from, link.to) ≠ s(other.from, other.to) := by
  obtain ⟨scan, switchId, _, hlinks⟩ := topology.scans
  exact (scanLinks_pairwise hlinks).1

/-- A link starts at a node of the topology. -/
theorem from_mem {link : TopologyLink} (h : link ∈ topology.links) :
    link.from ∈ topology.nodeIds :=
  (topology.endpoints_mem h).1

/-- A link ends at a node of the topology. -/
theorem to_mem {link : TopologyLink} (h : link ∈ topology.links) :
    link.to ∈ topology.nodeIds :=
  (topology.endpoints_mem h).2

end Topology
end WireLab
