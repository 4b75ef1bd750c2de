import Mathlib.Logic.Function.Basic
import Tryorama.Model.EnableApp

/-!
# `TryCpConductor.installAgentsApps` and `TryCpConductor.installApp`

`installAgentsApps(options)` (part_006:841-883) walks `options.agentsApps` in order and, for
each entry, awaits in turn: the entry's `agentPubKey`, or else a new key from
`generateAgentPubKey()`; the admin call `installApp` with a request for the entry's app
bundle or path, that key, the entry's membrane proofs (`{}` by default), the id
`options.installedAppId ?? app-${uuidv4()}` and `options.networkSeed`; and
`enableAndGetAgentApp` of the app it installed. Between building the request and sending
it, it logs the key through `encodeHashToBase64(agent_key)`, which is evaluated whatever the
log level. The first call that throws ends the loop.

The conductor is its answers: `AdminAnswers` gives, for the entry at index `i`, what each
of those calls answered. The conductor answers one call at a time, so every conductor
behaviour is one such family. `Uuids` is the contract of `uuidv4`, which the sources call
but do not contain: the values it returns during a call do not repeat. `HashEncoder` is
that of `encodeHashToBase64`, which they do not contain either: it is given a `HoloHash`, a
byte array, and returns for every byte string; whether it returns for another key is left
open.

`installApp(appBundleSource, options?)` (part_006:802-831) is the same body for one agent
but for the log line, with its own source text: it reads the key, the membrane proofs, the
id and the network seed from the optional `AppOptions`, and uses the answers and the uuid of
index `0`.
-/

set_option autoImplicit false

namespace Tryorama.Model.InstallAgentsApps

open Tryorama.Model Tryorama.Model.EnableApp

/-- An entry of `options.agentsApps`: the app bundle source (`{ bundle }` or `{ path }`), and
its `agentPubKey` and `membraneProofs` when set. -/
structure AppForAgent where
  app : Value
  agentPubKey : Option Value
  membraneProofs : Option Value
  deriving Repr, DecidableEq

/-- `AgentsAppsOptions` as `installAgentsApps` reads it. -/
structure AgentsAppsOptions where
  agentsApps : List AppForAgent
  installedAppId : Option String
  networkSeed : Option String
  deriving Repr, DecidableEq

/-- The admin interface's answers, by the index of the entry they are for. -/
structure AdminAnswers where
  generateAgentPubKey : Nat → Except ErrorValue Bytes
  installApp : Nat → Value → Except ErrorValue AppInfo
  enableApp : Nat → String → Except ErrorValue (List String)

/-- `uuidv4()`: the value it returns for the entry at index `i`; it never repeats. -/
structure Uuids where
  next : Nat → String
  injective : Function.Injective next

/-- `encodeHashToBase64(hash)`: whether it returns for a key, or throws. -/
structure HashEncoder where
  encodes : Value → Bool
  encodes_bin : ∀ b, encodes (.bin b) = true

/-- `appForAgent.agentPubKey ?? (await this.adminWs().generateAgentPubKey())`. -/
def agentKey (answers : AdminAnswers) (i : Nat) (appForAgent : AppForAgent) :
    Except ErrorValue Value :=
  match appForAgent.agentPubKey with
  | some .null | none => (answers.generateAgentPubKey i).map .bin
  | some key => pure key

/-- `options.installedAppId ?? app-${uuidv4()}`. -/
def installedAppId (uuids : Uuids) (options : AgentsAppsOptions) (i : Nat) : String :=
  match options.installedAppId with
  | some id => id
  | none => "app-" ++ uuids.next i

/-- The `InstallAppRequest` of an entry: `{ bundle, ... }` when `"bundle" in
appForAgent.app`, else `{ path, ... }`; the `in` test throws on a primitive. -/
def installAppRequest (appForAgent : AppForAgent) (agentKey : Value) (installedAppId : String)
    (networkSeed : Option String) : Except ErrorValue Value :=
  let rest : List (String × Value) :=
    [("agent_key", agentKey),
     ("membrane_proofs", Value.nullish appForAgent.membraneProofs (.obj .nil)),
     ("installed_app_id", .str installedAppId),
     ("network_seed", (networkSeed.map .str).getD .null)]
  match appForAgent.app.hasKey "bundle" with
  | none => throw typeError
  | some true => pure (.obj (.ofList (("bundle", (appForAgent.app.get? "bundle").getD .null) :: rest)))
  | some false => pure (.obj (.ofList (("path", (appForAgent.app.get? "path").getD .null) :: rest)))

/-- The body of the loop for the entry at index `i`: the request it sends to `installApp`,
if it gets that far, and the `AgentApp` it pushes, or what it threw. -/
def installEntry (encoder : HashEncoder) (uuids : Uuids) (answers : AdminAnswers)
    (options : AgentsAppsOptions) (i : Nat) (appForAgent : AppForAgent) :
    Option Value × Except ErrorValue AgentApp :=
  match agentKey answers i appForAgent with
  | .error e => (none, .error e)
  | .ok key =>
    match installAppRequest appForAgent key (installedAppId uuids options i) options.networkSeed with
    | .error e => (none, .error e)
    | .ok request =>
      -- `logger.debug(... ${encodeHashToBase64(agent_key)})`
      if !encoder.encodes key then (none, .error typeError) else
      (some request, do
        let installedAppInfo ← answers.installApp i request
        enableAndGetAgentApp (answers.enableApp i installedAppInfo.installedAppId) key
          installedAppInfo)

/-- The loop from the entry at index `i` on: the requests sent to `installApp`, in order,
and the `AgentApp`s, or what the first entry that failed threw. -/
def installFrom (encoder : HashEncoder) (uuids : Uuids) (answers : AdminAnswers)
    (options : AgentsAppsOptions) : Nat → List AppForAgent → List Value × Except ErrorValue (List AgentApp)
  | _, [] => ([], .ok [])
  | i, appForAgent :: rest =>
    match installEntry encoder uuids answers options i appForAgent with
    | (sent, .error e) => (sent.toList, .error e)
    | (sent, .ok agentApp) =>
      let next := installFrom encoder uuids answers options (i + 1) rest
      (sent.toList ++ next.1, next.2.map (agentApp :: ·))

/-- `installAgentsApps(options)`: the `installApp` requests it sends, and what it returns. -/
def installAgentsApps (encoder : HashEncoder) (uuids : Uuids) (answers : AdminAnswers)
    (options : AgentsAppsOptions) : List Value × Except ErrorValue (List AgentApp) :=
  installFrom encoder uuids answers options 0 options.agentsApps

/-- `AppOptions` as `installApp` reads it. -/
structure AppOptions where
  agentPubKey : Option Value
  membraneProofs : Option Value
  installedAppId : Option String
  networkSeed : Option String
  deriving Repr, DecidableEq

/-- `installApp(appBundleSource, options?)`: the request it sends to `installApp`, if it
gets that far, and the `AgentApp` it returns, or what it threw; `options?.x` is absent when
`options` is. -/
def installApp (uuids : Uuids) (answers : AdminAnswers) (appBundleSource : Value)
    (options : Option AppOptions) : Option Value × Except ErrorValue AgentApp :=
  let agentKey : Except ErrorValue Value :=
    match options.bind (·.agentPubKey) with
    | some .null | none => (answers.generateAgentPubKey 0).map .bin
    | some key => pure key
  let installedAppId : String :=
    match options.bind (·.installedAppId) with
    | some id => id
    | none => "app-" ++ uuids.next 0
  match agentKey with
  | .error e => (none, .error e)
  | .ok key =>
    match installAppRequest ⟨appBundleSource, none, options.bind (·.membraneProofs)⟩ key
        installedAppId (options.bind (·.networkSeed)) with
    | .error e => (none, .error e)
    | .ok request =>
      (some request, do
        let installedAppInfo ← answers.installApp 0 request
        enableAndGetAgentApp (answers.enableApp 0 installedAppInfo.installedAppId) key
          installedAppInfo)

end Tryorama.Model.InstallAgentsApps
