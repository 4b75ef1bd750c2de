import Tryorama.Analysis.Records
import Tryorama.Model.ConductorConfigs

/-!
# The waiter's networks, the agents, and the signals

`refreshWaiter` names the nodes of its networks inline (`${name}::${i.id}`), while
`makeInstanceConfig` names each agent with `makeAgentId`, and `onSignal` names the node of an
observation with `makeAgentId` too. The three agree. For every shorthand config, the network
of a DNA has as nodes the agent names of the instances of that DNA, in the order of the
conductors and of their instances (`network_nodes_are_agent_names`); and for every config,
the node of each observation `onSignal` hands to the `Waiter` is a node of the network of
the DNA it reports (`observed_node_in_network`).

Node ids are not injective, though: `makeAgentId("a::b", "c")` and `makeAgentId("a", "b::c")`
are one id, so two instances of one DNA on two conductors can be one node, listed twice in
their network, and their signals are observations of the same node
(`colliding_instances_share_node`).
-/

set_option autoImplicit false

namespace Tryorama.Analysis.Networks

open Tryorama.Model Tryorama.Model.Orchestrator

/-! ## Grouping by DNA -/

/-- INTERNAL: the grouping loop appends to each DNA's group the ids of the nodes of that DNA,
in order. -/
theorem get_foldl_group (nodes : List (String × String)) (acc : StrRecord (List String))
    (dna : String) :
    ((nodes.foldl (fun groups (n : String × String) =>
        groups.set n.2 ((groups.get n.2).getD [] ++ [n.1])) acc).get dna).getD [] =
      (acc.get dna).getD [] ++ (nodes.filter (·.2 = dna)).map (·.1) := by
  induction nodes generalizing acc with
  | nil => simp
  | cons n nodes ih =>
    rw [List.foldl_cons, ih]
    by_cases h : n.2 = dna
    · subst h; simp
    · simp [Record.get_set_ne _ _ (Ne.symm h), h]

/-- Each DNA's group holds the ids of the nodes of that DNA, in order. -/
theorem groupByDna_get (nodes : List (String × String)) (dna : String) :
    ((groupByDna nodes).get dna).getD [] = (nodes.filter (·.2 = dna)).map (·.1) := by
  simpa using get_foldl_group nodes [] dna

/-! ## The networks and the agents -/

/-- INTERNAL: in a desugared config, each instance's agent is named after its conductor and
its id. -/
theorem agentName_of_desugared (config : StrRecord (StrRecord String)) :
    ∀ c ∈ desugarConductorConfig config, ∀ i ∈ c.2, i.agentName = c.1 ++ "::" ++ i.id := by
  suffices ∀ (l : List (String × StrRecord String)) (acc : StrRecord (List InstanceConfig)),
      (∀ c ∈ acc, ∀ i ∈ c.2, i.agentName = c.1 ++ "::" ++ i.id) →
      ∀ c ∈ l.foldl (fun newConfig (c : String × StrRecord String) =>
        newConfig.set c.1 ((Record.ownEntries c.2).map fun i => makeInstanceConfig c.1 i.1 i.2)) acc,
        ∀ i ∈ c.2, i.agentName = c.1 ++ "::" ++ i.id from this _ [] (by simp)
  intro l
  induction l with
  | nil => exact fun acc h => h
  | cons c l ih =>
    refine fun acc h => ih _ fun ⟨name, instances⟩ he i hi => ?_
    rcases Record.mem_set he with he | ⟨rfl, rfl⟩
    · exact h _ he i hi
    · obtain ⟨j, -, rfl⟩ := List.mem_map.mp hi
      rfl

/-- INTERNAL: when every agent is named after its conductor and its id, the nodes
`refreshWaiter` names are the agents' names, with their DNAs. -/
theorem waiterNodes_eq {cfg : StrRecord (List InstanceConfig)}
    (h : ∀ c ∈ cfg, ∀ i ∈ c.2, i.agentName = c.1 ++ "::" ++ i.id) :
    waiterNodes cfg = ((Record.ownEntries cfg).flatMap (·.2)).map fun i => (i.agentName, i.dna) := by
  simp only [waiterNodes, List.map_flatMap]
  exact List.flatMap_congr fun c hc => List.map_congr_left fun i hi => by
    rw [h c (Record.mem_ownEntries.mp hc) i hi]

/-- For every shorthand config, the network `refreshWaiter` builds for a DNA has as nodes the
agent names of the instances of that DNA, conductor by conductor in `_.toPairs` order, and
in order within each conductor. -/
theorem network_nodes_are_agent_names (config : StrRecord (StrRecord String)) (dna : String) :
    ((networkModels (desugarConductorConfig config)).get dna).getD [] =
      (((Record.ownEntries (desugarConductorConfig config)).flatMap (·.2)).filter (·.dna = dna)).map
        (·.agentName) := by
  rw [networkModels, groupByDna_get, waiterNodes_eq (agentName_of_desugared config), List.filter_map,
    List.map_map]
  rfl

/-! ## Signals -/

/-- For every config, the node of an observation `onSignal` hands to the `Waiter` is a node of
the network `refreshWaiter` built for the DNA the observation reports. -/
theorem observed_node_in_network (cfg : StrRecord (List InstanceConfig))
    {conductorName instanceId node dna : String}
    (h : onSignal cfg conductorName instanceId = .ok (node, dna)) :
    node ∈ ((networkModels cfg).get dna).getD [] := by
  unfold onSignal at h
  rcases hc : cfg.get conductorName with _ | instances <;> simp only [hc] at h
  · cases h
  rcases hi : instances.find? (·.id = instanceId) with _ | i <;> simp only [hi] at h
  · cases h
  obtain ⟨rfl, rfl⟩ := Prod.mk.inj (Except.ok.inj h)
  obtain rfl : i.id = instanceId := by simpa using List.find?_some hi
  rw [networkModels, groupByDna_get]
  refine List.mem_map.mpr ⟨(makeAgentId conductorName i.id, i.dna), List.mem_filter.mpr ⟨?_, by simp⟩, rfl⟩
  exact List.mem_flatMap.mpr ⟨(conductorName, instances), Record.mem_ownEntries.mpr (Record.mem_of_get hc),
    List.mem_map.mpr ⟨i, List.mem_of_find?_eq_some hi, rfl⟩⟩

/-- A conductor `a::b` with an instance `c`, and a conductor `a` with an instance `b::c`, both
of DNA `dna`. -/
def collidingConfig : StrRecord (List InstanceConfig) :=
  desugarConductorConfig [("a::b", [("c", "dna")]), ("a", [("b::c", "dna")])]

theorem colliding_instances_share_node :
    onSignal collidingConfig "a::b" "c" = .ok ("a::b::c", "dna") ∧
      onSignal collidingConfig "a" "b::c" = .ok ("a::b::c", "dna") ∧
      ((networkModels collidingConfig).get "dna").getD [] = ["a::b::c", "a::b::c"] ∧
      "a::b::c" ∈ ((networkModels collidingConfig).get "dna").getD [] :=
  have hs : onSignal collidingConfig "a::b" "c" = .ok ("a::b::c", "dna") := rfl
  ⟨hs, rfl, by decide, observed_node_in_network collidingConfig hs⟩

end Tryorama.Analysis.Networks
