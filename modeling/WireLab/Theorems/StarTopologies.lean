import WireLab.Model.Topology

/-!
# Star topologies

What `Topology::create` accepts: the documented stars (`Star`) whose links have
distinct keys (`create_ok_iff`). Ids without a zero byte never make two keys collide
(`linkKey_injective`); the ids of `collidingStar` do, and it is refused for a duplicate
link that it does not have.
-/

namespace WireLab

open Base

/-- A star as it is documented: named, of distinct named nodes with exactly one switch
among them, every link between the switch and a host, no pair joined twice, and no
latency negative. -/
structure Star (configuration : TopologyConfiguration) : Prop where
  name : configuration.name ≠ []
  nodes : configuration.nodes ≠ []
  ids : ∀ node ∈ configuration.nodes, node.id ≠ []
  distinct : (configuration.nodes.map TopologyNode.id).Nodup
  switch : (configuration.nodes.filter fun node => node.type = .switch).length = 1
  links : ∀ link ∈ configuration.links,
    ∃ switch ∈ configuration.nodes, ∃ host ∈ configuration.nodes,
      switch.type = .switch ∧ host.type = .host ∧ s(link.from, link.to) = s(switch.id, host.id)
  unique : configuration.links.Pairwise fun link other =>
    s(link.from, link.to) ≠ s(other.from, other.to)
  latency : ∀ link ∈ configuration.links, 0 ≤ link.latency

/-! ## The node loop -/

/-- The node loop goes through distinct, named nodes: it counts the switches, and the
position it keeps is that of one. -/
theorem scanNodes_complete {nodes : List TopologyNode} (index : Nat) (scan : NodeScan)
    (hids : ∀ node ∈ nodes, node.id ≠ [] ∧ node.id ∉ scan.nodeIds)
    (hdistinct : (nodes.map TopologyNode.id).Nodup) :
    ∃ out, scanNodes nodes index scan = .ok out := by
  induction nodes generalizing index scan with
  | nil => exact ⟨scan, rfl⟩
  | cons node rest ih =>
      obtain ⟨hfresh, hdistinct⟩ := List.nodup_cons.mp hdistinct
      obtain ⟨hid, hunseen⟩ := hids node List.mem_cons_self
      have hrest : ∀ other ∈ rest, other.id ≠ [] ∧ other.id ∉ node.id :: scan.nodeIds := by
        intro other hother
        obtain ⟨hother', hunseen'⟩ := hids other (List.mem_cons_of_mem _ hother)
        refine ⟨hother', fun hmem => ?_⟩
        rcases List.mem_cons.mp hmem with heq | hseen
        · exact hfresh (heq ▸ List.mem_map_of_mem hother)
        · exact hunseen' hseen
      unfold scanNodes
      rw [if_neg (by simpa using hid), if_neg hunseen]
      split
      · exact ih _ _ hrest hdistinct
      · exact ih _ _ hrest hdistinct

/-- What the node loop has counted. -/
theorem scanNodes_counts {nodes : List TopologyNode} {index : Nat} {scan out : NodeScan}
    (h : scanNodes nodes index scan = .ok out) :
    (∀ id, id ∈ out.nodeIds ↔ id ∈ nodes.map TopologyNode.id ∨ id ∈ scan.nodeIds) ∧
      out.switchCount = scan.switchCount +
        (nodes.filter fun node => node.type = .switch).length ∧
      (out.switchIndex = scan.switchIndex ∧ out.switchCount = scan.switchCount ∨
        ∃ offset node, nodes[offset]? = some node ∧ node.type = .switch ∧
          out.switchIndex = index + offset) := by
  induction nodes generalizing index scan with
  | nil =>
      obtain rfl := Except.ok.inj h
      exact ⟨by simp, rfl, .inl ⟨rfl, rfl⟩⟩
  | cons node rest ih =>
      unfold scanNodes at h
      split_ifs at h with hid hseen hswitch
      · obtain ⟨hmem, hcount, hindex⟩ := ih h
        refine ⟨fun id => ?_, ?_, .inr ?_⟩
        · rw [hmem, List.map_cons, List.mem_cons, List.mem_cons]
          tauto
        · rw [hcount, List.filter_cons_of_pos (by simpa using hswitch), List.length_cons]
          show scan.switchCount + 1 + _ = scan.switchCount + (_ + 1)
          omega
        · rcases hindex with ⟨hindex, _⟩ | ⟨offset, other, hother, htype, hindex⟩
          · exact ⟨0, node, rfl, hswitch, hindex⟩
          · exact ⟨offset + 1, other, hother, htype, by omega⟩
      · obtain ⟨hmem, hcount, hindex⟩ := ih h
        refine ⟨fun id => ?_, ?_, ?_⟩
        · rw [hmem, List.map_cons, List.mem_cons, List.mem_cons]
          tauto
        · rw [hcount, List.filter_cons_of_neg (by simpa using hswitch)]
        · rcases hindex with hnone | ⟨offset, other, hother, htype, hindex⟩
          · exact .inl hnone
          · exact .inr ⟨offset + 1, other, hother, htype, by omega⟩

/-! ## The link loop -/

/-- A link that the link loop lets pass, but for its key. -/
def LinkShaped (nodeIds : List Bytes) (switchId : Bytes) (link : TopologyLink) : Prop :=
  link.from ≠ link.to ∧ link.from ∈ nodeIds ∧ link.to ∈ nodeIds ∧ 0 ≤ link.latency ∧
    ¬(link.from = switchId ↔ link.to = switchId)

theorem scanLinks_ok_iff {nodeIds : List Bytes} {switchId : Bytes} {links : List TopologyLink}
    {linkKeys : List Bytes} :
    scanLinks nodeIds switchId links linkKeys = .ok () ↔
      (∀ link ∈ links, LinkShaped nodeIds switchId link) ∧
      (links.map fun link => linkKey link.from link.to).Nodup ∧
      ∀ link ∈ links, linkKey link.from link.to ∉ linkKeys := by
  induction links generalizing linkKeys with
  | nil => simp [scanLinks]
  | cons link rest ih =>
      unfold scanLinks
      constructor
      · intro h
        split_ifs at h with hself hknown hseen hnegative hshape
        obtain ⟨hrest, hnodup, hunseen⟩ := ih.mp h
        rw [not_or, not_not, not_not] at hknown
        refine ⟨?_, ?_, ?_⟩
        · intro other hother
          rcases List.mem_cons.mp hother with rfl | htail
          · exact ⟨hself, hknown.1, hknown.2, not_lt.mp hnegative, hshape⟩
          · exact hrest other htail
        · rw [List.map_cons, List.nodup_cons]
          refine ⟨fun hmem => ?_, hnodup⟩
          obtain ⟨other, hother, heq⟩ := List.mem_map.mp hmem
          exact hunseen other hother (heq ▸ List.mem_cons_self)
        · intro other hother
          rcases List.mem_cons.mp hother with rfl | htail
          · exact hseen
          · exact fun hmem => hunseen other htail (List.mem_cons_of_mem _ hmem)
      · rintro ⟨hshaped, hnodup, hunseen⟩
        obtain ⟨hself, hfrom, hto, hlatency, hshape⟩ := hshaped link List.mem_cons_self
        rw [List.map_cons, List.nodup_cons] at hnodup
        rw [if_neg hself, if_neg (by rw [not_or, not_not, not_not]; exact ⟨hfrom, hto⟩),
          if_neg (hunseen link List.mem_cons_self), if_neg (not_lt.mpr hlatency), if_neg hshape]
        refine ih.mpr ⟨fun other hother => hshaped other (List.mem_cons_of_mem _ hother),
          hnodup.2, fun other hother hmem => ?_⟩
        rcases List.mem_cons.mp hmem with heq | hseen
        · exact hnodup.1 (List.mem_map.mpr ⟨other, hother, heq⟩)
        · exact hunseen other (List.mem_cons_of_mem _ hother) hseen

/-! ## Stars -/

section
variable {configuration : TopologyConfiguration} {hub : TopologyNode}

/-- The one switch of a list of nodes. -/
structure Hub (nodes : List TopologyNode) (hub : TopologyNode) : Prop where
  mem : hub ∈ nodes
  switch : hub.type = .switch
  only : ∀ node ∈ nodes, node.type = .switch → node = hub

/-- Where one node passes the filter, it is the only switch. -/
theorem hub_of_filter {nodes : List TopologyNode} (hmem : hub ∈ nodes) (hswitch : hub.type = .switch)
    (h : (nodes.filter fun node => node.type = .switch).length = 1) : Hub nodes hub := by
  obtain ⟨one, hone⟩ := List.length_eq_one_iff.mp h
  have heq : ∀ node ∈ nodes, node.type = .switch → node = one := by
    intro node hnode htype
    have hfilter : node ∈ nodes.filter fun node => node.type = .switch :=
      List.mem_filter.mpr ⟨hnode, by simpa using htype⟩
    rwa [hone, List.mem_singleton] at hfilter
  exact ⟨hmem, hswitch, fun node hnode htype =>
    (heq node hnode htype).trans (heq hub hmem hswitch).symm⟩

/-- The endpoints of a link are the hub and a host exactly if both are nodes and one of
them alone is the hub. -/
theorem linkShaped_iff {nodes : List TopologyNode} (hhub : Hub nodes hub)
    (hdistinct : (nodes.map TopologyNode.id).Nodup) {nodeIds : List Bytes}
    (hids : ∀ id, id ∈ nodeIds ↔ id ∈ nodes.map TopologyNode.id) (link : TopologyLink) :
    LinkShaped nodeIds hub.id link ↔ 0 ≤ link.latency ∧
      ∃ switch ∈ nodes, ∃ host ∈ nodes, switch.type = .switch ∧ host.type = .host ∧
        s(link.from, link.to) = s(switch.id, host.id) := by
  have hnode : ∀ {id}, id ∈ nodeIds → id ≠ hub.id → ∃ host ∈ nodes, host.type = .host ∧ host.id = id := by
    intro id hmem hother
    obtain ⟨node, hnode, rfl⟩ := List.mem_map.mp ((hids id).mp hmem)
    refine ⟨node, hnode, ?_, rfl⟩
    cases htype : node.type with
    | host => rfl
    | switch => exact absurd (congrArg TopologyNode.id (hhub.only node hnode htype)) hother
  constructor
  · rintro ⟨_, hfrom, hto, hlatency, hshape⟩
    refine ⟨hlatency, hub, hhub.mem, ?_⟩
    by_cases hup : link.from = hub.id
    · have hdown : link.to ≠ hub.id := fun hdown => hshape ⟨fun _ => hdown, fun _ => hup⟩
      obtain ⟨host, hmem, htype, hid⟩ := hnode hto hdown
      exact ⟨host, hmem, hhub.switch, htype, by rw [hup, hid]⟩
    · have hdown : link.to = hub.id := by
        by_contra hdown
        exact hshape ⟨fun h => absurd h hup, fun h => absurd h hdown⟩
      obtain ⟨host, hmem, htype, hid⟩ := hnode hfrom hup
      exact ⟨host, hmem, hhub.switch, htype, by rw [hdown, hid, Sym2.eq_swap]⟩
  · rintro ⟨hlatency, switch, hswitch, host, hhost, htype, hhosted, hends⟩
    obtain rfl := hhub.only switch hswitch htype
    have hdiffer : host.id ≠ switch.id := by
      intro heq
      obtain rfl := List.inj_on_of_nodup_map hdistinct hhost hswitch heq
      rw [hhosted] at htype
      cases htype
    have hswitchId := (hids _).mpr (List.mem_map_of_mem hswitch)
    have hhostId := (hids _).mpr (List.mem_map_of_mem hhost)
    rcases Sym2.eq_iff.mp hends with ⟨hfrom, hto⟩ | ⟨hfrom, hto⟩
    · refine ⟨?_, ?_, ?_, hlatency, ?_⟩
      · rw [hfrom, hto]
        exact hdiffer.symm
      · rwa [hfrom]
      · rwa [hto]
      · rw [hfrom, hto]
        exact fun hiff => hdiffer (hiff.mp rfl)
    · refine ⟨?_, ?_, ?_, hlatency, ?_⟩
      · rw [hfrom, hto]
        exact hdiffer
      · rwa [hfrom]
      · rwa [hto]
      · rw [hfrom, hto]
        exact fun hiff => hdiffer (hiff.mpr rfl)

/-- The id that the link loop takes for the switch's. -/
def switchIdOf (configuration : TopologyConfiguration) (scan : NodeScan) : Bytes :=
  (configuration.nodes[scan.switchIndex]?.map TopologyNode.id).getD []

/-- What a configuration has to go through. -/
theorem validate_ok_iff {switchIndex : Nat} :
    configuration.validate = .ok switchIndex ↔
      configuration.name ≠ [] ∧ configuration.nodes ≠ [] ∧
        ∃ scan, scanNodes configuration.nodes 0 {} = .ok scan ∧ scan.switchCount = 1 ∧
          scanLinks scan.nodeIds (switchIdOf configuration scan) configuration.links [] = .ok () ∧
          scan.switchIndex = switchIndex := by
  unfold TopologyConfiguration.validate
  constructor
  · intro h
    split_ifs at h with hname hnodes
    split at h
    · cases h
    · next scan hscan =>
        split_ifs at h with hnone hmany
        dsimp only at h
        split at h
        · cases h
        · next hlinks =>
            exact ⟨by simpa using hname, by simpa using hnodes, scan, hscan, by omega, hlinks,
              Except.ok.inj h⟩
  · rintro ⟨hname, hnodes, scan, hscan, hone, hlinks, rfl⟩
    rw [if_neg (by simpa using hname), if_neg (by simpa using hnodes), hscan]
    simp only
    rw [if_neg (by omega), if_neg (by omega)]
    unfold switchIdOf at hlinks
    rw [hlinks]

/-- What the node loop leaves is the ids and the hub. -/
theorem hub_of_scan {nodes : List TopologyNode} {scan : NodeScan}
    (hscan : scanNodes nodes 0 {} = .ok scan) (hone : scan.switchCount = 1) :
    (nodes.filter fun node => node.type = .switch).length = 1 ∧
      (∀ id, id ∈ scan.nodeIds ↔ id ∈ nodes.map TopologyNode.id) ∧
      ∃ hub, Hub nodes hub ∧ (nodes[scan.switchIndex]?.map TopologyNode.id).getD [] = hub.id := by
  obtain ⟨hids, hcount, hindex⟩ := scanNodes_counts hscan
  have hlength : (nodes.filter fun node => node.type = .switch).length = 1 := by
    rw [hone] at hcount
    exact (hcount.trans (Nat.zero_add _)).symm
  refine ⟨hlength, fun id => by simp [hids], ?_⟩
  rcases hindex with ⟨_, hnone⟩ | ⟨offset, hub, hat, htype, hindex⟩
  · rw [hone] at hnone
    cases hnone
  · rw [Nat.zero_add] at hindex
    refine ⟨hub, hub_of_filter (List.mem_of_getElem? hat) htype hlength, ?_⟩
    rw [hindex, hat]
    rfl

/-- **`create` accepts the stars whose links have distinct keys.** -/
theorem create_ok_iff (configuration : TopologyConfiguration) :
    (∃ topology, Topology.create configuration = .ok topology) ↔ Star configuration ∧
      (configuration.links.map fun link => linkKey link.from link.to).Nodup := by
  have hcreate : (∃ topology, Topology.create configuration = .ok topology) ↔
      ∃ switchIndex, configuration.validate = .ok switchIndex := by
    unfold Topology.create
    constructor
    · rintro ⟨topology, h⟩
      split at h
      · cases h
      · next switchIndex hvalidate => exact ⟨switchIndex, hvalidate⟩
    · rintro ⟨switchIndex, hvalidate⟩
      split
      · next herror =>
          rw [hvalidate] at herror
          cases herror
      · exact ⟨_, rfl⟩
  rw [hcreate]
  constructor
  · rintro ⟨switchIndex, hvalidate⟩
    obtain ⟨hname, hnodes, scan, hscan, hone, hlinks, _⟩ := validate_ok_iff.mp hvalidate
    obtain ⟨hlength, hids, hub, hhub, hid⟩ := hub_of_scan hscan hone
    obtain ⟨_, hnamed, hdistinct⟩ := scanNodes_spec hscan
    have hpairwise := (scanLinks_pairwise hlinks).1
    unfold switchIdOf at hlinks
    rw [hid, scanLinks_ok_iff] at hlinks
    obtain ⟨hshaped, hkeys, _⟩ := hlinks
    have hends := fun link hlink => (linkShaped_iff hhub hdistinct hids link).mp (hshaped link hlink)
    exact ⟨
      { name := hname
        nodes := hnodes
        ids := fun node hnode => (hnamed node hnode).1
        distinct := hdistinct
        switch := hlength
        links := fun link hlink => (hends link hlink).2
        unique := hpairwise
        latency := fun link hlink => (hends link hlink).1 }, hkeys⟩
  · rintro ⟨hstar, hkeys⟩
    obtain ⟨scan, hscan⟩ := scanNodes_complete 0 {}
      (fun node hnode => ⟨hstar.ids node hnode, by simp⟩) hstar.distinct
    have hone : scan.switchCount = 1 := by
      rw [(scanNodes_counts hscan).2.1, hstar.switch]
    obtain ⟨_, hids, hub, hhub, hid⟩ := hub_of_scan hscan hone
    refine ⟨scan.switchIndex, validate_ok_iff.mpr
      ⟨hstar.name, hstar.nodes, scan, hscan, hone, ?_, rfl⟩⟩
    unfold switchIdOf
    rw [hid, scanLinks_ok_iff]
    exact ⟨fun link hlink => (linkShaped_iff hhub hstar.distinct hids link).mpr
      ⟨hstar.latency link hlink, hstar.links link hlink⟩, hkeys, by simp⟩

end

/-! ## Keys -/

/-- Two texts without a zero byte are told apart behind it. -/
theorem append_zero_injective {a b c d : Bytes} (ha : 0 ∉ a) (hc : 0 ∉ c)
    (h : a ++ 0 :: b = c ++ 0 :: d) : a = c ∧ b = d := by
  induction a generalizing c with
  | nil =>
      cases c with
      | nil => exact ⟨rfl, (List.cons.inj h).2⟩
      | cons y c => exact absurd ((List.cons.inj h).1 ▸ List.mem_cons_self) hc
  | cons x a ih =>
      cases c with
      | nil => exact absurd ((List.cons.inj h).1.symm ▸ List.mem_cons_self) ha
      | cons y c =>
          obtain ⟨rfl, hrest⟩ := List.cons.inj h
          obtain ⟨rfl, hbd⟩ := ih (fun hmem => ha (List.mem_cons_of_mem _ hmem))
            (fun hmem => hc (List.mem_cons_of_mem _ hmem)) hrest
          exact ⟨rfl, hbd⟩

/-- **Without zero bytes the key of a link is its pair of ends.** -/
theorem linkKey_injective {a b c d : Bytes} (ha : 0 ∉ a) (hb : 0 ∉ b) (hc : 0 ∉ c) (hd : 0 ∉ d)
    (h : linkKey a b = linkKey c d) : s(a, b) = s(c, d) := by
  unfold linkKey at h
  split_ifs at h
  · obtain ⟨rfl, rfl⟩ := append_zero_injective ha hc h
    rfl
  · obtain ⟨rfl, rfl⟩ := append_zero_injective ha hd h
    exact Sym2.eq_swap
  · obtain ⟨rfl, rfl⟩ := append_zero_injective hb hc h
    exact Sym2.eq_swap
  · obtain ⟨rfl, rfl⟩ := append_zero_injective hb hd h
    rfl

/-! ## What is accepted -/

/-- `create` accepts a configuration exactly if it is a star, and what it makes of one
holds its nodes and its links. -/
def AcceptsStars (configuration : TopologyConfiguration) : Prop :=
  ((∃ topology, Topology.create configuration = .ok topology) ↔ Star configuration) ∧
    ∀ topology, Topology.create configuration = .ok topology →
      topology.name = configuration.name ∧ topology.nodes = configuration.nodes ∧
        topology.links = configuration.links

/-- What `create` makes of a configuration holds it. -/
theorem create_holds {configuration : TopologyConfiguration} {topology : Topology}
    (h : Topology.create configuration = .ok topology) :
    topology.name = configuration.name ∧ topology.nodes = configuration.nodes ∧
      topology.links = configuration.links := by
  unfold Topology.create at h
  split at h
  · cases h
  · cases h
    exact ⟨rfl, rfl, rfl⟩

theorem acceptsStars_of_keys {configuration : TopologyConfiguration}
    (h : Star configuration →
      (configuration.links.map fun link => linkKey link.from link.to).Nodup) :
    AcceptsStars configuration := by
  refine ⟨?_, fun _ => create_holds⟩
  rw [create_ok_iff]
  exact ⟨fun hboth => hboth.1, fun hstar => ⟨hstar, h hstar⟩⟩

/-- Where no id has a zero byte, validation accepts exactly the documented stars. -/
theorem acceptsStars_of_plain {configuration : TopologyConfiguration}
    (h : ∀ node ∈ configuration.nodes, 0 ∉ node.id) : AcceptsStars configuration := by
  refine acceptsStars_of_keys fun hstar => ?_
  have hplain : ∀ link ∈ configuration.links, 0 ∉ link.from ∧ 0 ∉ link.to := by
    intro link hlink
    obtain ⟨switch, hswitch, host, hhost, _, _, hends⟩ := hstar.links link hlink
    rcases Sym2.eq_iff.mp hends with ⟨hfrom, hto⟩ | ⟨hfrom, hto⟩
    · rw [hfrom, hto]
      exact ⟨h switch hswitch, h host hhost⟩
    · rw [hfrom, hto]
      exact ⟨h host hhost, h switch hswitch⟩
  rw [List.Nodup, List.pairwise_map]
  refine hstar.unique.imp_of_mem fun {link other} hlink hother hdiffer hkey => hdiffer ?_
  obtain ⟨hfrom, hto⟩ := hplain link hlink
  obtain ⟨hfrom', hto'⟩ := hplain other hother
  exact linkKey_injective hfrom hto hfrom' hto' hkey

/-- **Validation accepts exactly the documented stars whose links have distinct keys.**
For every configuration, whatever its texts are made of, `create` succeeds exactly if
it is a star, with its nodes and links, if and only if the keys of the links are
distinct where it is one. -/
theorem create_accepts_stars_iff (configuration : TopologyConfiguration) :
    AcceptsStars configuration ↔ (Star configuration →
      (configuration.links.map fun link => linkKey link.from link.to).Nodup) := by
  constructor
  · rintro ⟨hiff, _⟩ hstar
    exact ((create_ok_iff configuration).mp (hiff.mpr hstar)).2
  · exact acceptsStars_of_keys

/-- A star whose two links have one key: the switch is `a0b0a`, the hosts are `a0b` and
`b0a`. -/
def collidingStar : TopologyConfiguration where
  name := bytes "lab"
  nodes :=
    [{ id := [0x61, 0, 0x62, 0, 0x61], type := .switch }, { id := [0x61, 0, 0x62] },
      { id := [0x62, 0, 0x61] }]
  links :=
    [{ «from» := [0x61, 0, 0x62], «to» := [0x61, 0, 0x62, 0, 0x61] },
      { «from» := [0x62, 0, 0x61], «to» := [0x61, 0, 0x62, 0, 0x61] }]

theorem create_refuses_star : Star collidingStar ∧
    collidingStar.validate = .error .duplicateLink ∧ ¬AcceptsStars collidingStar := by
  have hstar : Star collidingStar :=
    { name := by decide
      nodes := by decide
      ids := by decide
      distinct := by decide
      switch := by decide
      links := by decide
      unique := by decide
      latency := by decide }
  refine ⟨hstar, by decide, fun haccepts => ?_⟩
  obtain ⟨topology, hcreate⟩ := haccepts.1.mpr hstar
  exact absurd (((create_ok_iff collidingStar).mp ⟨topology, hcreate⟩).2) (by decide)

end WireLab
