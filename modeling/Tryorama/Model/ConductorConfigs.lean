import Tryorama.Model.Value

/-!
# The legacy `Orchestrator`'s conductor configs, its waiter's networks, and its signals

The constructor of `Orchestrator` (part_008:288-324) turns the shorthand config it is given
into `conductorConfigs` with `desugarConductorConfig` (part_008:518-530): for each conductor
name and each of its instances, `makeInstanceConfig` (part_008:532-541) builds an instance
config whose agent is named `makeAgentId(conductorName, instanceId)` (part_008:543),
`conductorName::instanceId`. `refreshWaiter` (part_008:460-480) then builds the `Waiter`'s
networks: it names each instance of each conductor `name::id`, groups these node ids by the
id of their DNA with `_.groupBy`, and makes each group a `FullSyncNetwork`. `onSignal`
(part_008:326-335) reports each signal of an instance to the `Waiter` as an observation of
node `makeAgentId(conductorName, instanceId)` on the DNA of the instance's config, and
throws for an instance the config does not have.

A shorthand config is here each conductor's instances, each with the id of its DNA config:
the only part of a DNA config the code reads. The bridges a config also carries, the
signal's stringification, and the `Waiter` and `FullSyncNetwork` of `@holochain/hachiko`
are left out. `Object.entries` and `_.toPairs` list an object's properties in
`Record.ownEntries` order: keys that are array indices first.
-/

set_option autoImplicit false

namespace Tryorama.Model.Orchestrator

open Tryorama.Model

/-- `makeAgentId(conductorName, instanceId)`. -/
def makeAgentId (conductorName instanceId : String) : String := conductorName ++ "::" ++ instanceId

/-- An instance config `makeInstanceConfig` builds: its id, its agent's id and name, and
the id of its DNA config. -/
structure InstanceConfig where
  id : String
  agentId : String
  agentName : String
  dna : String
  deriving Repr, DecidableEq

/-- `makeInstanceConfig(conductorName, instanceId, dnaConfig)`. -/
def makeInstanceConfig (conductorName instanceId dna : String) : InstanceConfig :=
  ⟨instanceId, instanceId, makeAgentId conductorName instanceId, dna⟩

/-- `desugarConductorConfig(config)`: each conductor's instances, in order, as instance
configs. -/
def desugarConductorConfig (config : StrRecord (StrRecord String)) : StrRecord (List InstanceConfig) :=
  (Record.ownEntries config).foldl (fun newConfig (c : String × StrRecord String) =>
    newConfig.set c.1 ((Record.ownEntries c.2).map fun i => makeInstanceConfig c.1 i.1 i.2)) []

/-- `_.groupBy(nodes, n => n.dna)`: for each DNA id, in the order it first appears, the
node ids of that DNA, in order. -/
def groupByDna (nodes : List (String × String)) : StrRecord (List String) :=
  nodes.foldl (fun groups (n : String × String) => groups.set n.2 ((groups.get n.2).getD [] ++ [n.1])) []

/-- The nodes `refreshWaiter` names: `name::id` for each instance `id` of each conductor
`name`, in `_.toPairs` order, with the id of the instance's DNA. -/
def waiterNodes (conductorConfigs : StrRecord (List InstanceConfig)) : List (String × String) :=
  (Record.ownEntries conductorConfigs).flatMap fun c => c.2.map fun i => (c.1 ++ "::" ++ i.id, i.dna)

/-- The `NetworkMap` of `refreshWaiter`: each DNA id with the node ids of its
`FullSyncNetwork`. -/
def networkModels (conductorConfigs : StrRecord (List InstanceConfig)) : StrRecord (List String) :=
  groupByDna (waiterNodes conductorConfigs)

/-- What `onSignal` throws for an instance the config does not have. -/
def notConfiguredError (conductorName instanceId : String) : ErrorValue :=
  .error ("Got a signal from a not-configured instance! conductor: " ++ conductorName ++
    ", instance: " ++ instanceId)

/-- `onSignal({conductorName, instanceId, signal})`: the node and the DNA of the observation
it passes to `waiter.handleObservation`, or what it throws. Reading `instances` of a
conductor the config does not have throws a `TypeError`. -/
def onSignal (conductorConfigs : StrRecord (List InstanceConfig)) (conductorName instanceId : String) :
    Except ErrorValue (String × String) :=
  match conductorConfigs.get conductorName with
  | none => throw typeError
  | some instances =>
    match instances.find? (·.id = instanceId) with
    | none => throw (notConfiguredError conductorName instanceId)
    | some instanceConfig => pure (makeAgentId conductorName instanceId, instanceConfig.dna)

end Tryorama.Model.Orchestrator
