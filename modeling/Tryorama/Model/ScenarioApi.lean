import Tryorama.Model.Orchestrator

/-!
# The legacy `ScenarioApi`: `players` and `_cleanup`

`ScenarioApi.players(machines, spawnArgs)` (part_008:642-759) walks `machines`: for a remote
endpoint it opens a TryCP session (`_getClient`) and pushes it to `_trycpClients`; then, for
each player of the machine, it throws unless the player's config seed is a function, awaits
the seed's arguments and the seed itself, throws unless the config has an
`environment_path`, and stores a builder for the player under its name in `playerBuilders`.
Only when every config has passed does it run the builders: each writes its player's config
and builds a `Player`. The players built are merged into `_localPlayers` by name
(`{ ...this._localPlayers, ...players }`), and, when `spawnArgs` asks for it, spawned one
after the other, each with its apps initialized when `spawnArgs` is an object.
`_cleanup(signal)` (part_008:818-829) calls `cleanup` on every player of `_localPlayers`
and resets every TryCP client. `for...in`, `_.mapValues`, `Object.values` and `_.values`
list an object's properties in `Record.ownEntries` order.

A remote machine can have no player: its seed arguments come from `trycp.setup`, and the
`TrycpClient` of the sources (part_008:566-574) has no `setup`, so calling it throws a
`TypeError`. `promiseSerialObject` comes from `./util`, which is not among the sources; it
is taken to await the builders, all started at once by `_.mapValues`, in key order, and to
reject with the first rejection. What each call outside the sources does (the TryCP
session, the seed arguments, the seed, the file write, `spawn`, `initializeApps`) is a field
of `PlayersAnswers`. A `Player` is its index among the players built so far.
-/

set_option autoImplicit false

namespace Tryorama.Model.ScenarioApi

open Tryorama.Model Tryorama.Model.Orchestrator

/-- `LOCAL_MACHINE_ID`. -/
def localMachineId : String := "local"

/-- What `players` throws for a player whose config seed is not a function. -/
def seedError (playerName : String) : ErrorValue :=
  .error ("Config for player \x27" ++ playerName ++ "\x27 contains something other than a " ++
    "function. Either use Config.gen to create a seed function, or supply one manually.")

/-- What `players` throws for a config without `environment_path`. -/
def environmentPathError : ErrorValue := .error "Generated config does not have environment_path set"

/-- How the calls of one `players` turn out: `trycpSession(endpoint)`,
`localConfigSeedArgs()` and the seed for each player, the write of each player's config,
and each player's `spawn` and `initializeApps`. -/
structure PlayersAnswers where
  trycpSession : String → Except ErrorValue Unit
  localConfigSeedArgs : String → Except ErrorValue Unit
  configSeed : String → String → Except ErrorValue Value
  writeFile : String → Except ErrorValue Unit
  spawn : String → Except ErrorValue Unit
  initializeApps : String → Except ErrorValue Unit

/-- A `ScenarioApi`: `_localPlayers` (each name to its `Player`), `_trycpClients` (by
endpoint), every `Player` built so far with its name and config, the configs written, and
the players `spawn` went through on. -/
structure ApiState where
  localPlayers : StrRecord Nat
  trycpClients : List String
  built : List (String × Value)
  written : List (String × Value)
  spawned : List Nat
  deriving Repr, DecidableEq

/-- A `ScenarioApi` as its constructor leaves it. -/
def ApiState.init : ApiState := ⟨[], [], [], [], []⟩

/-- One pass of the loop over a machine's players (part_008:665-728): the builders with
this player's config stored under its name, or what threw. -/
def collectPlayer (answers : PlayersAnswers) (endpoint : String) (builders : StrRecord Value)
    (playerName : String) (configSeed : Value) : Except ErrorValue (StrRecord Value) := do
  if configSeed ≠ .fn then throw (seedError playerName)
  -- `trycp.setup(playerName)` on a remote machine: not a member of `TrycpClient`
  if endpoint ≠ localMachineId then throw typeError
  answers.localConfigSeedArgs playerName
  let configJson ← answers.configSeed endpoint playerName
  match configJson with
  | .null => throw typeError
  | _ =>
    if ((configJson.get? "environment_path").getD .null).truthy then
      pure (builders.set playerName configJson)
    else throw environmentPathError

/-- The loop over `machines` (part_008:646-729): the TryCP clients as it leaves them, and the
builders' configs by player name, or what threw. -/
def collectMachines (answers : PlayersAnswers) :
    List String → StrRecord Value → List (String × List (String × Value)) →
      List String × Except ErrorValue (StrRecord Value)
  | clients, builders, [] => (clients, .ok builders)
  | clients, builders, (endpoint, configs) :: machines =>
    let opened : Except ErrorValue (List String) :=
      if endpoint = localMachineId then .ok clients
      else (answers.trycpSession endpoint).map fun _ => clients ++ [endpoint]
    match opened with
    | .error e => (clients, .error e)
    | .ok clients =>
      match (Record.ownEntries configs).foldlM
          (fun b (p : String × Value) => collectPlayer answers endpoint b p.1 p.2) builders with
      | .error e => (clients, .error e)
      | .ok builders => collectMachines answers clients builders machines

/-- `typeof v === "object"`. -/
def typeofObject : Value → Bool
  | .null | .bin _ | .arr _ | .obj _ => true
  | _ => false

/-- `autoSpawn`: `spawnArgs` is `undefined`, `true`, or of type `"object"`. -/
def autoSpawn : Option Value → Bool
  | none => true
  | some (.bool b) => b
  | some v => typeofObject v

/-- `spawnArgs && typeof spawnArgs === "object"`: apps are initialized after each spawn. -/
def initializesApps : Option Value → Bool
  | none => false
  | some v => v.truthy && typeofObject v

/-- One pass of the auto-spawn loop: `spawn`, then `initializeApps` when asked for; the
player is spawned when `spawn` went through. -/
def spawnPlayer (answers : PlayersAnswers) (spawnArgs : Option Value) (player : String × Nat) :
    List Nat × Except ErrorValue Unit :=
  match answers.spawn player.1 with
  | .error e => ([], .error e)
  | .ok () =>
    ([player.2], if initializesApps spawnArgs then answers.initializeApps player.1 else .ok ())

/-- `players(machines, spawnArgs)`: the `ScenarioApi` it leaves, and the players it returns
by name, or what it threw. -/
def players (answers : PlayersAnswers) (s : ApiState) (machines : List (String × List (String × Value)))
    (spawnArgs : Option Value) : ApiState × Except ErrorValue (StrRecord Nat) :=
  match collectMachines answers s.trycpClients [] (Record.ownEntries machines) with
  | (clients, .error e) => ({ s with trycpClients := clients }, .error e)
  | (clients, .ok builders) =>
    let builders := Record.ownEntries builders
    let s := { s with trycpClients := clients, written := s.written ++ builders }
    match (forAwait (fun b => ([], answers.writeFile b.1)) builders : List Unit × _).2 with
    | .error e => (s, .error e)
    | .ok () =>
      let newPlayers : StrRecord Nat := builders.enum.map fun b => (b.2.1, s.built.length + b.1)
      let s := { s with localPlayers := newPlayers.foldl (fun r p => r.set p.1 p.2) s.localPlayers,
                        built := s.built ++ builders }
      if autoSpawn spawnArgs then
        let r := forAwait (spawnPlayer answers spawnArgs) (Record.ownEntries newPlayers)
        ({ s with spawned := s.spawned ++ r.1 }, r.2.map fun _ => newPlayers)
      else (s, .ok newPlayers)

/-- `_cleanup(signal)`: the players whose `cleanup` it calls, in order, and the TryCP
clients it resets and closes. -/
def cleanup (s : ApiState) : List Nat × List String :=
  ((Record.ownEntries s.localPlayers).map (·.2), s.trycpClients)

/-- The states of a `ScenarioApi` over every sequence of `players` calls, whatever each
call's machines, spawn arguments and answers. -/
inductive Reachable : ApiState → Prop where
  | init : Reachable ApiState.init
  | players {s : ApiState} (answers : PlayersAnswers) (machines : List (String × List (String × Value)))
      (spawnArgs : Option Value) : Reachable s → Reachable (players answers s machines spawnArgs).1

end Tryorama.Model.ScenarioApi
