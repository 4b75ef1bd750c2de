import Tryorama.Model.Value

/-!
# The legacy `Orchestrator`: `runScenario` and `run`

`Orchestrator` (part_008:274-511) runs the scenarios registered with it against the
conductors registered with it. `runScenario(scenario)` (part_008:404-453) awaits
`refreshWaiter()`, applies `middleware` to the scenario, and then:

* awaits `prepareRun(config)` of `this.conductors[i]` for the `i`-th entry of
  `conductorConfigs`, in order; the `catch` rethrows the first throw at once;
* in a `try`, builds `new ScenarioApi(this.waiter, conductorMap)`, awaits
  `api.consistent()` and then the scenario; the `catch` rethrows through `failTest`;
* in the `finally`, awaits `cleanupRun(config)` of each conductor, in the same order; its
  `catch` rethrows, and that throw replaces the one in flight.

`this.conductors[i]` is `undefined` when fewer conductors than configs were registered,
and calling a method on it throws a `TypeError`.

The constructor (part_008:289-321) leaves `haveAllConductors` pending; `registerConductor`
(part_008:334-342) pushes each conductor that connected and resolves it once there are as
many conductors as configs. The constructor does not start the `Callbacks` server that would
call `registerConductor` (the line is commented out), so only a caller of the method does.
`run()` (part_008:482-501) first awaits `haveAllConductors`; then it runs the scenarios
registered with `.only`, when there is one, else all of them, in the order they were
registered, awaiting each `execute()`, and then calls `close()`; a rejection ends it before
`close()`.

The conductors, the `Waiter` of `@holochain/hachiko`, `middleware`, `executor` and the
`ScenarioApi` of `./api` are not among the sources (the `ScenarioApi` of part_008:618-830
is another one, whose constructor takes other arguments): what each of their calls does is
a field of `RunAnswers`, or a function `execute` of the scenario's index. An `execute()` is
taken not to register more scenarios.
-/

set_option autoImplicit false

namespace Tryorama.Model.Orchestrator

open Tryorama.Model

/-- A call `runScenario` makes, in the order it makes them. -/
inductive RunEvent where
  | prepareRun (i : Nat)
  | scenario
  | cleanupRun (i : Nat)
  deriving Repr, DecidableEq

/-- How the calls of one `runScenario` turn out: `refreshWaiter()`, `middleware(scenario)`,
`prepareRun` of the conductor at each index, `new ScenarioApi(...)`, `api.consistent()`, the
scenario, and `cleanupRun` of each conductor. -/
structure RunAnswers where
  refreshWaiter : Except ErrorValue Unit
  middleware : Except ErrorValue Unit
  prepareRun : Nat → Except ErrorValue Unit
  newWaiter : Except ErrorValue Unit
  consistent : Except ErrorValue Unit
  scenario : Except ErrorValue Unit
  cleanupRun : Nat → Except ErrorValue Unit

/-- `await this.conductors[i].method(config)`: the call, or a `TypeError` when there is no
conductor `i`. -/
def onConductor (conductors i : Nat) (event : RunEvent) (answer : Except ErrorValue Unit) :
    List RunEvent × Except ErrorValue Unit :=
  if i < conductors then ([event], answer) else ([], throw typeError)

/-- A `for` loop whose body is awaited: the calls of each pass, up to the first throw. -/
def forAwait {α β : Type} (body : α → List β × Except ErrorValue Unit) :
    List α → List β × Except ErrorValue Unit
  | [] => ([], pure ())
  | a :: as =>
    match body a with
    | (ev, .error e) => (ev, .error e)
    | (ev, .ok ()) =>
      let rest := forAwait body as
      (ev ++ rest.1, rest.2)

/-- The `try` block of the scenario (part_008:429-435). -/
def scenarioBody (answers : RunAnswers) : List RunEvent × Except ErrorValue Unit :=
  match answers.newWaiter with
  | .error e => ([], .error e)
  | .ok () =>
    match answers.consistent with
    | .error e => ([], .error e)
    | .ok () => ([.scenario], answers.scenario)

/-- `runScenario(scenario)` with `conductors` conductors registered and `configs` entries in
`conductorConfigs`: the calls it made, and how it settled. -/
def runScenario (answers : RunAnswers) (conductors configs : Nat) :
    List RunEvent × Except ErrorValue Unit :=
  match answers.refreshWaiter, answers.middleware with
  | .error e, _ => ([], .error e)
  | .ok (), .error e => ([], .error e)
  | .ok (), .ok () =>
    let setup := forAwait (fun i => onConductor conductors i (.prepareRun i) (answers.prepareRun i))
      (List.range configs)
    match setup.2 with
    | .error e => (setup.1, .error e)
    | .ok () =>
      let body := scenarioBody answers
      let cleanup := forAwait
        (fun i => onConductor conductors i (.cleanupRun i) (answers.cleanupRun i))
        (List.range configs)
      (setup.1 ++ body.1 ++ cleanup.1,
        match cleanup.2 with
        | .error e => .error e
        | .ok () => body.2)

/-- The scenarios `run()` walks, each with its index and whether it was registered with
`.only`: those registered with `.only` when there is one (`onlyTests`), else all of them. -/
def selectedScenarios (only : List Bool) : List (Nat × Bool) :=
  let scenarios := (List.range only.length).zip only
  let onlyTests := scenarios.filter (·.2)
  if onlyTests.length > 0 then onlyTests else scenarios

/-- An `Orchestrator` between its calls: the number of entries of `conductorConfigs`, the
conductors `registerConductor` pushed, whether `haveAllConductors` has resolved, and the
scenarios registered, in order, each by whether it was registered with `.only`. -/
structure OrchestratorState where
  configs : Nat
  conductors : Nat
  haveAllConductors : Bool
  scenarios : List Bool
  deriving Repr, DecidableEq

/-- The constructor, for a config of `configs` conductors. -/
def OrchestratorState.init (configs : Nat) : OrchestratorState := ⟨configs, 0, false, []⟩

/-- `registerScenario(desc, scenario)`, or `registerScenario.only(desc, scenario)` when
`only` holds (part_008:386-402). -/
def OrchestratorState.registerScenario (s : OrchestratorState) (only : Bool) : OrchestratorState :=
  { s with scenarios := s.scenarios ++ [only] }

/-- `registerConductor(externalConductor)` once `_newExternalConductor` has settled, resolving
when `connected` holds: the conductor is pushed, and `haveAllConductors` resolves when
`this.conductors.length >= Object.keys(this.conductorConfigs).length`. -/
def OrchestratorState.registerConductor (s : OrchestratorState) (connected : Bool) : OrchestratorState :=
  if connected then
    { s with conductors := s.conductors + 1,
             haveAllConductors := s.haveAllConductors || decide (s.configs ≤ s.conductors + 1) }
  else s

/-- The states of an `Orchestrator` over every sequence of registrations. -/
inductive Reachable : OrchestratorState → Prop where
  | init (configs : Nat) : Reachable (.init configs)
  | registerScenario {s : OrchestratorState} (only : Bool) : Reachable s → Reachable (s.registerScenario only)
  | registerConductor {s : OrchestratorState} (connected : Bool) :
      Reachable s → Reachable (s.registerConductor connected)

/-- `run()` on an orchestrator in state `s`, with `execute i` the outcome of the `i`-th
scenario's `execute()`: `none` while it awaits `haveAllConductors`; past the `await`, the
scenarios it executed, in order, whether it reached `close()`, and how it settled. `s` is
the state `run()` goes past the `await` in: the one it is called in, or the one the
`registerConductor` that resolves `haveAllConductors` leaves. -/
def OrchestratorState.run (s : OrchestratorState) (execute : Nat → Except ErrorValue Unit) :
    Option (List Nat × Bool × Except ErrorValue Unit) :=
  if s.haveAllConductors then
    let r := forAwait (fun sc => ([sc.1], execute sc.1)) (selectedScenarios s.scenarios)
    some (r.1, r.2.toBool, r.2)
  else none

end Tryorama.Model.Orchestrator
