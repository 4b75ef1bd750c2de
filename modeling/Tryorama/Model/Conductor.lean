import Tryorama.Model.ConductorCalls

/-!
# A `TryCpConductor`'s app interface

`TryCpConductor` (part_006) keeps one number for its App API: `appInterfacePort`.
`adminWs().attachAppInterface` sets it once the conductor has answered that it attached an
interface; `connectAppInterface`, `disconnectAppInterface`, `on`, `off` and every `appWs()`
call read it after `assert(this.appInterfacePort)`, which throws when it is `undefined` or
`0`; `shutDown` disconnects it first when it is truthy. `connectAppInterface`, `on` and
`off` write the handler for that port into the `signalHandlers` of the conductor's
`TryCpClient`, `connectAppInterface` only once the server has accepted the connection.

A state is the port, the client's handler table, and the requests the conductor sent, in
order. What each TryCP call settles with is the server's answer: `Answers` gives it for the
request sent `i`-th, and each method checks it as `Tryorama.Model.ConductorCalls` says. A
method ends with the conductor as it leaves it and what it returns or throws; one that
throws after a call has still sent that call's request.
-/

set_option autoImplicit false

namespace Tryorama.Model.Conductor

open Tryorama.Model Tryorama.Model.ConductorCalls

/-- What `tryCpClient.call` settles with for the request sent `i`-th, by `i` and the request:
the TryCP server's answer as the client processed it, or the rejection. -/
abbrev Answers := Nat → TryCpRequest → Except ErrorValue TryCpSuccessResponse

/-- A `TryCpConductor`: its `id`, `appInterfacePort`, the `signalHandlers` of its client,
and the requests it sent. -/
structure State where
  id : String
  appInterfacePort : Option Nat
  signalHandlers : NumRecord (Option Handler)
  sent : List TryCpRequest
  deriving Repr, DecidableEq

/-- `const response = await this.tryCpClient.call(request)` and the checks `check` makes of
the answer: the request is sent whatever comes of it. -/
def State.call (answers : Answers) (s : State) (request : TryCpRequest)
    (check : TryCpSuccessResponse → Except ErrorValue Value) : State × Except ErrorValue Value :=
  ({ s with sent := s.sent ++ [request] }, answers s.sent.length request >>= check)

/-- `assert(this.appInterfacePort, message)`, then `body` at the port: the port, when it is
set and not `0`; the assertion throws before anything is sent. -/
def State.withPort (s : State) (message : String) (body : Nat → State × Except ErrorValue Value) :
    State × Except ErrorValue Value :=
  match s.appInterfacePort with
  | some (n + 1) => body (n + 1)
  | _ => (s, .error (.error message))

/-- The rest of a method, once the step before it returned; a throw ends the method. -/
def andThen (r : State × Except ErrorValue Value) (next : State → Value → State × Except ErrorValue Value) :
    State × Except ErrorValue Value :=
  match r with
  | (s, .ok v) => next s v
  | (s, .error e) => (s, .error e)

/-- The `data` of an `attach_app_interface` request: `{ port }`, or `{}`. -/
def attachData : Option Nat → Value
  | some port => .obj (.cons "port" (.num port) .nil)
  | none => .obj .nil

/-- The request `attachAppInterface` sends: the `attach_app_interface` Admin API message with
`request ?? { port }`, where `port` is the one `getPort` found free. -/
def attachRequest (id : String) (request : Option (Option Nat)) (freePort : Nat) : TryCpRequest :=
  ((ConductorCalls.attachAppInterface (request.map attachData) freePort).call id).request

/-- `adminWs().attachAppInterface(request)` (part_006:498-509): `request` is absent
(`none`), `{}` (`some none`) or `{ port }`; when it is absent, the port `getPort` finds free
is asked for. Once `callAdminApi` has the conductor's `app_interface_attached` response, the
port of the request is stored, and `{ port: response.data.port }` returned. -/
def State.attachAppInterface (answers : Answers) (s : State) (request : Option (Option Nat))
    (freePort : Nat) : State × Except ErrorValue Value :=
  andThen (s.call answers (attachRequest s.id request freePort) fun answer => do
      let response ← callAdminApi answer
      assertType response "app_interface_attached"
      pure response)
    fun s response => ({ s with appInterfacePort := request.getD (some freePort) }, attachedPort response)

/-- `connectAppInterface(signalHandler)` (part_006:246-255). -/
def State.connectAppInterface (answers : Answers) (s : State) (signalHandler : Option Handler) :
    State × Except ErrorValue Value :=
  s.withPort "no app interface attached to conductor" fun port =>
    andThen (s.call answers (.connectAppInterface port) assertSuccess) fun s response =>
      ({ s with signalHandlers := s.signalHandlers.set port signalHandler }, .ok response)

/-- `disconnectAppInterface()` (part_006:262-270). -/
def State.disconnectAppInterface (answers : Answers) (s : State) : State × Except ErrorValue Value :=
  s.withPort "no app interface attached" fun port =>
    s.call answers (.disconnectAppInterface port) assertSuccess

/-- `on(signalHandler)` (part_006:277-280). -/
def State.on (s : State) (signalHandler : Handler) : State × Except ErrorValue Value :=
  s.withPort "no app interface attached to conductor" fun port =>
    ({ s with signalHandlers := s.signalHandlers.set port (some signalHandler) }, .ok .null)

/-- `off()` (part_006:285-288). -/
def State.off (s : State) : State × Except ErrorValue Value :=
  s.withPort "no app interface attached to conductor" fun port =>
    ({ s with signalHandlers := s.signalHandlers.set port none }, .ok .null)

/-- `callAppApi(message)` (part_006:670-680), which every `appWs()` call goes through; it
checks the answer as `callAdminApi` does. -/
def State.callAppApi (answers : Answers) (s : State) (message : AppMessage) :
    State × Except ErrorValue Value :=
  s.withPort "No App interface attached to conductor" fun port =>
    s.call answers (.callAppInterface port message) callAdminApi

/-- `if (this.appInterfacePort)`. -/
def truthy : Option Nat → Bool
  | some (_ + 1) => true
  | _ => false

/-- `shutDown()` (part_006:187-198): disconnect the app interface when the port is truthy,
then shut the conductor down. Its own `assert` on the disconnect's answer repeats the one
`disconnectAppInterface` has made. -/
def State.shutDown (answers : Answers) (s : State) : State × Except ErrorValue Value :=
  andThen (if truthy s.appInterfacePort then s.disconnectAppInterface answers else (s, .ok .null))
    fun s _ => s.call answers (.shutdown s.id none) assertSuccess

/-- A call on the conductor's app interface, awaited before the next. -/
inductive Op where
  | attach (request : Option (Option Nat)) (freePort : Nat)
  | connect (signalHandler : Option Handler)
  | disconnect
  | on (signalHandler : Handler)
  | off
  | callApp (message : AppMessage)
  deriving Repr, DecidableEq

/-- One call. -/
def State.apply (answers : Answers) (s : State) : Op → State × Except ErrorValue Value
  | .attach request freePort => s.attachAppInterface answers request freePort
  | .connect h => s.connectAppInterface answers h
  | .disconnect => s.disconnectAppInterface answers
  | .on h => s.on h
  | .off => s.off
  | .callApp message => s.callAppApi answers message

/-- The calls in order, each awaited; the first that throws ends the sequence. -/
def State.applyAll (answers : Answers) : State → List Op → State × Except ErrorValue Value
  | s, [] => (s, .ok .null)
  | s, op :: ops => andThen (s.apply answers op) fun s _ => State.applyAll answers s ops

end Tryorama.Model.Conductor
