import Mathlib.Data.List.Basic

/-!
# The legacy `Player`: `spawn` and `kill`

`Player` (part_008:1-235) keeps the conductor it runs in `_conductor`. `spawn` checks
that no conductor is there, awaits `onJoin()` and `_spawnConductor(...)`, stores the
new conductor in `_conductor`, and awaits its `initialize()`. `kill` takes the
conductor out of `_conductor`, awaits its `kill(signal)`, then `onLeave()`.
`_conductorGuard` lets an action through when `_conductor` is not `null`.

Calls of `spawn` and `kill` run concurrently: each runs synchronously up to its first
`await`, and on from there when the awaited promise settles. A state holds `_conductor`,
every conductor `_spawnConductor` returned (whether `kill` was invoked on it, and how far
its `initialize()` got), and where each call is suspended. `onJoin`, `_spawnConductor`,
`initialize`, `kill` and `onLeave` each resolve or reject, in any order: that choice is
the `resolve` or `reject` action of the call awaiting it.
-/

set_option autoImplicit false

namespace Tryorama.Model.Player

/-- How far a conductor's `initialize()` got. -/
inductive InitState where
  | pending
  | succeeded
  | failed
  deriving Repr, DecidableEq

/-- A conductor `_spawnConductor` returned: whether `kill` was invoked on it, and its
`initialize()`. -/
structure SpawnedConductor where
  killInvoked : Bool
  init : InitState
  deriving Repr, DecidableEq

/-- Where a call of `spawn` or `kill` is suspended, or that it has returned or thrown. -/
inductive Task where
  | spawnJoining
  | spawnSpawning
  | spawnInitializing (c : Nat)
  | killKilling
  | killLeaving
  | done
  deriving Repr, DecidableEq

/-- The player: `_conductor` (an index into `spawned`), the conductors spawned so far, and
the calls of `spawn` and `kill` made so far. -/
structure State where
  conductor : Option Nat
  spawned : List SpawnedConductor
  tasks : List Task
  deriving Repr, DecidableEq

/-- A new player: `this._conductor = null`. -/
def State.init : State := ⟨none, [], []⟩

/-- `_conductorGuard` lets an action through. -/
def State.guardAdmits (s : State) : Bool := s.conductor.isSome

/-- An event: a call of `spawn` or `kill`, or the promise call `t` awaits settling. -/
inductive Action where
  | spawn
  | kill
  | resolve (t : Nat)
  | reject (t : Nat)
  deriving Repr, DecidableEq

/-- `spawn` (part_008:133-150) up to its first `await`: return at once when a conductor is
there, else call `onJoin()`. -/
def State.spawn (s : State) : State :=
  if s.conductor.isSome then { s with tasks := s.tasks ++ [.done] }
  else { s with tasks := s.tasks ++ [.spawnJoining] }

/-- `kill` (part_008:152-165) up to its first `await`: take the conductor out of
`_conductor` and call its `kill`, or return `false`. -/
def State.kill (s : State) : State :=
  match s.conductor with
  | some c =>
    { s with conductor := none,
             spawned := s.spawned.modify (fun sc => { sc with killInvoked := true }) c,
             tasks := s.tasks ++ [.killKilling] }
  | none => { s with tasks := s.tasks ++ [.done] }

/-- The promise call `t` awaits resolves, and the call runs on to its next `await`:
`_spawnConductor` is called after `onJoin`; the conductor it returns goes into
`_conductor` and its `initialize()` is called; `onLeave` is called after `kill`. -/
def State.resolve (s : State) (t : Nat) : Option State :=
  match s.tasks[t]? with
  | some .spawnJoining => some { s with tasks := s.tasks.set t .spawnSpawning }
  | some .spawnSpawning =>
    some { conductor := some s.spawned.length,
           spawned := s.spawned ++ [⟨false, .pending⟩],
           tasks := s.tasks.set t (.spawnInitializing s.spawned.length) }
  | some (.spawnInitializing c) =>
    some { s with spawned := s.spawned.modify (fun sc => { sc with init := .succeeded }) c,
                  tasks := s.tasks.set t .done }
  | some .killKilling => some { s with tasks := s.tasks.set t .killLeaving }
  | some .killLeaving => some { s with tasks := s.tasks.set t .done }
  | _ => none

/-- The promise call `t` awaits rejects, and the call throws; a failed `initialize()`
leaves its conductor in `_conductor`. -/
def State.reject (s : State) (t : Nat) : Option State :=
  match s.tasks[t]? with
  | some (.spawnInitializing c) =>
    some { s with spawned := s.spawned.modify (fun sc => { sc with init := .failed }) c,
                  tasks := s.tasks.set t .done }
  | some .done | none => none
  | some _ => some { s with tasks := s.tasks.set t .done }

/-- One event; `none` when call `t` awaits nothing. -/
def step (s : State) : Action → Option State
  | .spawn => some s.spawn
  | .kill => some s.kill
  | .resolve t => s.resolve t
  | .reject t => s.reject t

/-- Run the events of a list in order. -/
def run : State → List Action → Option State
  | s, [] => some s
  | s, a :: as => (step s a).bind (run · as)

/-- The states of a player over every interleaving and outcome of its calls. -/
inductive Reachable : State → Prop where
  | init : Reachable State.init
  | step {s s' : State} (a : Action) : Reachable s → step s a = some s' → Reachable s'

/-- A run from a reachable state ends in a reachable state. -/
theorem Reachable.run {s s' : State} {as : List Action} (hs : Reachable s)
    (h : run s as = some s') : Reachable s' := by
  induction as generalizing s with
  | nil => exact Option.some.inj h ▸ hs
  | cons a as ih =>
    obtain ⟨s₁, h₁, h₂⟩ := Option.bind_eq_some.mp h
    exact ih (.step a hs h₁) h₂

end Tryorama.Model.Player
