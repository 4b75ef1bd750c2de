import Mathlib.Data.List.Nodup
import Tryorama.Model.Value

/-!
# From an installed app to an `AgentApp`

`enableAndGetAgentApp(conductor, agentPubKey, installedAppInfo)` (part_007:104-150) enables
the app, throws when `enableApp` reports errors, and then walks `cell_info`: for each role
name in `Object.keys` order, and each `cellInfo` of that role in array order, a
`Provisioned` cell is pushed to `cells` and set in `namedCells` under the role name, a
`Cloned` cell with a truthy `clone_id` under its clone id, and anything else throws
`"Stem cells are not implemented"`. `getCallableCell` (part_007:152-172) spreads the cell
and adds a `callZome` that forwards the request to the app interface.

`namedCells` is a `Map`: its keys are the values the code passes to `set`, and `set` on a
key already there replaces the cell and keeps the key's place.
-/

set_option autoImplicit false

namespace Tryorama.Model.EnableApp

open Tryorama.Model

/-- `installedAppInfo` as `enableAndGetAgentApp` reads it: `installed_app_id`, and
`cell_info` with its role names in the order `Object.keys` lists them; an object has each
key once. -/
structure AppInfo where
  installedAppId : String
  cellInfo : List (String × List Value)
  nodup : (cellInfo.map (·.1)).Nodup

/-- `{ ...cell, callZome }`: the cell it spreads, and the agent key `callZome` closes over. -/
structure CallableCell where
  cell : Value
  agentPubKey : Value
  deriving Repr, DecidableEq

/-- `getCallableCell(conductor, cell, agentPubKey)`. -/
def getCallableCell (cell agentPubKey : Value) : CallableCell := ⟨cell, agentPubKey⟩

/-- The request `callZome(request)` passes to `conductor.appWs().callZome`:
`{ ...request, cap_secret: null, cell_id: cell.cell_id, provenance: request.provenance ??
agentPubKey, payload: request.payload ?? null }`. Reading `cell_id` off a nullish cell
throws. -/
def CallableCell.callZome (c : CallableCell) (request : Fields) : Except ErrorValue Fields :=
  match c.cell with
  | .null => throw typeError
  | cell => pure ((((request.set "cap_secret" .null).set "cell_id"
      ((cell.get? "cell_id").getD .null)).set "provenance"
      (Value.nullish (request.get "provenance") c.agentPubKey)).set "payload"
      (Value.nullish (request.get "payload") .null))

/-- `namedCells`, a `Map` in insertion order. -/
abbrev NamedCells := Record Value CallableCell

/-- The `AgentApp` the function returns. -/
structure AgentApp where
  appId : String
  agentPubKey : Value
  cells : List CallableCell
  namedCells : NamedCells

/-- What the loop throws for a `cellInfo` that is neither kind. -/
def stemError : ErrorValue := .error "Stem cells are not implemented"

/-- The body of the inner `forEach`: one `cellInfo` of role `roleName`, with `cells` and
`namedCells` so far. -/
def addCell (agentPubKey : Value) (roleName : String) (acc : List CallableCell × NamedCells)
    (cellInfo : Value) : Except ErrorValue (List CallableCell × NamedCells) :=
  match cellInfo.hasKey "provisioned" with
  | none => throw typeError
  | some true =>
    let callableCell := getCallableCell ((cellInfo.get? "provisioned").getD .null) agentPubKey
    pure (acc.1 ++ [callableCell], acc.2.set (.str roleName) callableCell)
  | some false =>
    match cellInfo.hasKey "cloned" with
    | some true =>
      match (cellInfo.get? "cloned").getD .null with
      | .null => throw typeError
      | cloned =>
        let cloneId := (cloned.get? "clone_id").getD .null
        if cloneId.truthy then
          let callableCell := getCallableCell cloned agentPubKey
          pure (acc.1 ++ [callableCell], acc.2.set cloneId callableCell)
        else throw stemError
    | _ => throw stemError

/-- `enableAndGetAgentApp(conductor, agentPubKey, installedAppInfo)`, where `enableApp` is
the answer to `enableApp({ installed_app_id })`: its `errors` as `${}` prints each of
them, or the reason it rejected with. -/
def enableAndGetAgentApp (enableApp : Except ErrorValue (List String)) (agentPubKey : Value)
    (installedAppInfo : AppInfo) : Except ErrorValue AgentApp := do
  let errors ← enableApp
  if errors.length != 0 then
    throw (.error ("failed to enable app: " ++ ",".intercalate errors))
  let (cells, namedCells) ← installedAppInfo.cellInfo.foldlM
    (fun acc role => role.2.foldlM (addCell agentPubKey role.1) acc) ([], [])
  pure ⟨installedAppInfo.installedAppId, agentPubKey, cells, namedCells⟩

end Tryorama.Model.EnableApp
