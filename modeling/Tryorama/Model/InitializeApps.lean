import Tryorama.Model.AgentSharing

/-!
# The legacy `Player`'s app installation

`initializeApps(init)` (part_008:183-210) passes `_conductorGuard`, collects the agent ids
of `init` once each, throws if one of them already has a key in `_agentIdToKey`, and awaits
a `Promise.all` of one `generateAgentPubKey()` per agent. It then stores the keys and calls
`this._conductor!.installApp(agent_key, app)` for every app of `init`, in order, and
returns: nothing awaits those calls. `installApp(agent_key, app)` (part_008:221-224) calls
the conductor's `installApp` the same way.

`_agentIdToKey` starts as `{}`: reading it under an id it has no key for finds what it
inherits from `Object.prototype` (`Record.getProp`), so an id such as `constructor` counts
as one that already has a key.

A state is one call of either: the key generation of each agent with its outcome,
`_agentIdToKey`, the conductor's `installApp` calls made with theirs, and the promise the
call returned. The conductor answers the calls in any order and may reject any of them:
each answer is an `Action`, and between two answers the program runs to quiescence.
-/

set_option autoImplicit false

namespace Tryorama.Model.InitializeApps

open Tryorama.Model Tryorama.Model.AgentSharing

/-- An entry of an `Initialization`: the agent it installs for, and the hApp bundle; the
entry as a whole goes to `installApp`. -/
structure InitApp where
  agentId : String
  bundle : Value
  deriving Repr, DecidableEq

/-- `[...new Set(ids)]`: each id once, in the order of its first occurrence. -/
def uniqueIds : List String → List String
  | [] => []
  | a :: as => a :: (uniqueIds as).filter (· ≠ a)

/-- `${agent_key}` of a key: its bytes, in decimal, joined by commas. -/
def keyString (key : Bytes) : String := ",".intercalate (key.map fun b => toString b.toNat)

/-- What `_conductorGuard(context)` throws when no conductor is running. -/
def guardError (context : String) : ErrorValue :=
  .error ("Attempted conductor action when no conductor is running! You must `.spawn()` " ++
    "first.\nAction: " ++ context)

/-- One call of `initializeApps` or `installApp`: each agent's key generation and its
outcome, `_agentIdToKey`, the conductor's `installApp` calls made (the key, the app, the
outcome), and the call's own promise. -/
structure State where
  keys : List (String × Outcome)
  agentIdToKey : StrRecord Value
  installs : List (Value × InitApp × Outcome)
  result : Outcome
  deriving Repr, DecidableEq

/-- The key a resolved `generateAgentPubKey()` gave. -/
def resolvedKey : Outcome → Value
  | .resolved key => key
  | _ => .null

/-- The `Promise.all` of the key generations, once one more settled: when every one has
resolved and the call is still pending, the keys go into `_agentIdToKey`, `installApp` is
called for each app of `init` with the key of its agent, and the call returns. -/
def State.afterKeys (init : List InitApp) (s : State) : State :=
  if s.result = .pending ∧ s.keys.all (·.2.isResolved) then
    let record := s.keys.foldl (fun r k => r.set k.1 (resolvedKey k.2)) s.agentIdToKey
    { s with agentIdToKey := record,
             installs := init.map fun app => ((Record.getProp record app.agentId).getD .null, app, .pending),
             result := .resolved .null }
  else s

/-- `initializeApps(init)` up to its first `await`, on a player whose conductor is running
when `conductor` holds and whose `_agentIdToKey` is `agentIdToKey`. -/
def initializeApps (conductor : Bool) (agentIdToKey : StrRecord Value) (init : List InitApp) :
    State :=
  if !conductor then ⟨[], agentIdToKey, [], .rejected (guardError "Player.initializeApps")⟩
  else
    let agents := uniqueIds (init.map (·.agentId))
    match agents.find? fun a => (Record.getProp agentIdToKey a).any Value.truthy with
    | some a => ⟨[], agentIdToKey, [], .rejected (.error
        ("Player.initializeApps: agent key already exists for " ++ a ++ "!"))⟩
    | none => State.afterKeys init ⟨agents.map (·, .pending), agentIdToKey, [], .pending⟩

/-- `installApp(agent_key, app)` on the player. -/
def installApp (conductor : Bool) (agentIdToKey : StrRecord Value) (agentKey : Bytes)
    (app : InitApp) : State :=
  if conductor then ⟨[], agentIdToKey, [(.bin agentKey, app, .pending)], .resolved .null⟩
  else ⟨[], agentIdToKey, [], .rejected
    (guardError ("Player.installApp(" ++ keyString agentKey ++ ")"))⟩

/-- An answer of the conductor: to the key generation of agent `i`, or to `installApp`
call `k`. -/
inductive Action where
  | resolveKey (i : Nat) (key : Bytes)
  | rejectKey (i : Nat) (reason : ErrorValue)
  | resolveInstall (k : Nat)
  | rejectInstall (k : Nat) (reason : ErrorValue)
  deriving Repr, DecidableEq

/-- The effect of an answer; `none` when the call it answers is not pending. Nothing awaits
an `installApp` call, so its answer changes nothing but the call. -/
def step (init : List InitApp) (s : State) : Action → Option State
  | .resolveKey i key =>
    match s.keys[i]? with
    | some (a, .pending) =>
      some (State.afterKeys init { s with keys := s.keys.set i (a, .resolved (.bin key)) })
    | _ => none
  | .rejectKey i reason =>
    match s.keys[i]? with
    | some (a, .pending) =>
      some { s with keys := s.keys.set i (a, .rejected reason),
                    result := match s.result with
                      | .pending => .rejected reason
                      | r => r }
    | _ => none
  | .resolveInstall k =>
    match s.installs[k]? with
    | some (key, app, .pending) =>
      some { s with installs := s.installs.set k (key, app, .resolved .null) }
    | _ => none
  | .rejectInstall k reason =>
    match s.installs[k]? with
    | some (key, app, .pending) =>
      some { s with installs := s.installs.set k (key, app, .rejected reason) }
    | _ => none

/-- Run the answers of a list in order; `none` as soon as one answers no pending call. -/
def run (init : List InitApp) : State → List Action → Option State
  | s, [] => some s
  | s, a :: as => (step init s a).bind (run init · as)

end Tryorama.Model.InitializeApps
