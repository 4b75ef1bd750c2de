import Tryorama.Model.Client
import Tryorama.Model.Request

/-!
# The calls of a `TryCpConductor` and the answers they accept

Every method of `TryCpConductor` (part_006:136-803) that talks to the TryCP server sends one
request with `tryCpClient.call`, awaits what the call resolves with, and asserts something of
it before it returns:

* `configure` and `startUp` (part_006:152-178) assert the answer is
  `TRYCP_SUCCESS_RESPONSE`, which is `null` (types.ts:225);
* `downloadDna` and `saveDna` (part_006:212-238) assert it is a string, the path of the DNA;
* `callAdminApi(message)` (part_006:298-307) sends `message` to the conductor's Admin API
  and asserts the answer is neither `null` nor a string: what is left is the Admin API's
  decoded response. Each method of `adminWs()` (part_006:316-667) passes its own message to
  `callAdminApi` and looks at that response. Fourteen assert that `response.type` is the tag
  of their answer and return `response.data`; `grantZomeCallCapability`, `addAgentInfo` and
  `deleteCloneCell` assert the tag and return nothing; `attachAppInterface` asserts the tag
  and returns `{ port: response.data.port }`; `grantSigningKey` is
  `grantZomeCallCapability` of a grant to one key, and returns the grant's secret;
  `dumpState` asserts no tag, only that `response.data` is a string, which it parses.

A call is the request it sends and what it makes of the answer. A failed `assert` throws the
`AssertionError` of `node:assert`, whose message quotes the expression. What the model
leaves to the caller: the random cap secret, the free port `getPort` finds, and `JSON.parse`
of the state dump with its escaped newlines removed. What `attachAppInterface` stores in
the conductor is `Tryorama.Model.Conductor`'s.
-/

set_option autoImplicit false

namespace Tryorama.Model.ConductorCalls

open Tryorama.Model

/-- The `AssertionError` `assert(expression)` throws when the expression is falsy. -/
def assertionError (expression : String) : ErrorValue :=
  .error ("The expression evaluated to a falsy value:\n\n  assert(" ++ expression ++ ")\n")

/-- A method of `TryCpConductor` that makes one TryCP call: the request, and what the method
returns or throws once the call has resolved with an answer. -/
structure ConductorCall where
  request : TryCpRequest
  handle : TryCpSuccessResponse → Except ErrorValue Value

/-- How the method's promise settles when the promise of its TryCP call is in state `st`:
`none` while that one is pending; a rejection passes through. -/
def ConductorCall.outcome (k : ConductorCall) : PState → Option (Except ErrorValue Value)
  | .pending => none
  | .resolved response => some (k.handle response)
  | .rejected reason => some (.error reason)

/-! ## Calls to the TryCP server itself -/

/-- `assert(response === TRYCP_SUCCESS_RESPONSE); return response;`. -/
def assertSuccess : TryCpSuccessResponse → Except ErrorValue Value
  | .null => pure .null
  | _ => throw (assertionError "response === TRYCP_SUCCESS_RESPONSE")

/-- `assert(typeof response === "string"); return response;`. -/
def assertString : TryCpSuccessResponse → Except ErrorValue Value
  | .str s => pure (.str s)
  | _ => throw (assertionError "typeof response === \"string\"")

/-- `DEFAULT_PARTIAL_PLAYER_CONFIG` (part_006:68-72). -/
def defaultPartialPlayerConfig : String :=
  "signing_service_uri: ~\nencryption_service_uri: ~\ndecryption_service_uri: ~\ndpki: ~\nnetwork: ~"

/-- `configure(partialConfig)`: `partialConfig || DEFAULT_PARTIAL_PLAYER_CONFIG`. -/
def configure (id : String) (partialConfig : Option String) : ConductorCall :=
  let partialConfig := match partialConfig with
    | some s => if s.isEmpty then defaultPartialPlayerConfig else s
    | none => defaultPartialPlayerConfig
  ⟨.configurePlayer id partialConfig, assertSuccess⟩

/-- `startUp(options)`. -/
def startUp (id : String) (logLevel : Option String) : ConductorCall :=
  ⟨.startup id logLevel, assertSuccess⟩

/-- `downloadDna(url)`, with `url.href`. -/
def downloadDna (url : String) : ConductorCall := ⟨.downloadDna url, assertString⟩

/-- `saveDna(dnaContent)`. -/
def saveDna (dnaContent : Bytes) : ConductorCall := ⟨.saveDna "./entry.dna" dnaContent, assertString⟩

/-! ## The Admin API -/

/-- The checks of `callAdminApi` on the answer: the Admin API's response. -/
def callAdminApi : TryCpSuccessResponse → Except ErrorValue Value
  | .null => throw (assertionError "response !== TRYCP_SUCCESS_RESPONSE")
  | .str _ => throw (assertionError "typeof response !== \"string\"")
  | .api response => pure response

/-- A method of `adminWs()`: the message it passes to `callAdminApi`, and what it makes of the
response. -/
structure AdminMethod where
  message : AdminMessage
  handle : Value → Except ErrorValue Value

/-- The method as a call of the conductor `id`. -/
def AdminMethod.call (m : AdminMethod) (id : String) : ConductorCall :=
  ⟨.callAdminInterface id m.message, fun answer => callAdminApi answer >>= m.handle⟩

/-- An Admin API method returns only from a decoded response of the Admin API that it
accepts. -/
theorem AdminMethod.call_handle_eq_ok (m : AdminMethod) (id : String)
    {answer : TryCpSuccessResponse} {d : Value} :
    (m.call id).handle answer = .ok d ↔ ∃ response, answer = .api response ∧ m.handle response = .ok d := by
  cases answer <;> simp [AdminMethod.call, callAdminApi]

/-- `assert(response.type === responseType)`. -/
def assertType (response : Value) (responseType : String) : Except ErrorValue Unit :=
  if response.typeIs responseType then pure ()
  else throw (assertionError ("response.type === \"" ++ responseType ++ "\""))

/-- The methods that send `{ type, data }`, assert the tag of the answer, and return
`result` of the response. -/
def typedMethod (type : String) (data : Option Value) (responseType : String)
    (result : Value → Except ErrorValue Value) : AdminMethod :=
  ⟨⟨type, data⟩, fun response => do assertType response responseType; result response⟩

/-- A typed method accepts a response exactly when it carries the method's tag and `result`
accepts it. -/
theorem typedMethod_handle_eq_ok {type responseType : String} {data : Option Value}
    {result : Value → Except ErrorValue Value} {response d : Value} :
    (typedMethod type data responseType result).handle response = .ok d ↔
      response.typeIs responseType = true ∧ result response = .ok d := by
  by_cases h : response.typeIs responseType <;> simp [typedMethod, assertType, h]

/-- `return response.data;`. -/
def responseData (response : Value) : Except ErrorValue Value :=
  pure ((response.get? "data").getD .null)

/-- A method with no `return`. -/
def returnsNothing (_ : Value) : Except ErrorValue Value := pure .null

def registerDna (request : Value) : AdminMethod :=
  typedMethod "register_dna" (some request) "dna_registered" responseData

def getDnaDefinition (dnaHash : Value) : AdminMethod :=
  typedMethod "get_dna_definition" (some dnaHash) "dna_definition_returned" responseData

def grantZomeCallCapability (request : Value) : AdminMethod :=
  typedMethod "grant_zome_call_capability" (some request) "zome_call_capability_granted"
    returnsNothing

def generateAgentPubKey : AdminMethod :=
  typedMethod "generate_agent_pub_key" none "agent_pub_key_generated" responseData

def installApp (data : Value) : AdminMethod :=
  typedMethod "install_app" (some data) "app_installed" responseData

def enableApp (request : Value) : AdminMethod :=
  typedMethod "enable_app" (some request) "app_enabled" responseData

def disableApp (request : Value) : AdminMethod :=
  typedMethod "disable_app" (some request) "app_disabled" responseData

def startApp (request : Value) : AdminMethod :=
  typedMethod "start_app" (some request) "app_started" responseData

def uninstallApp (request : Value) : AdminMethod :=
  typedMethod "uninstall_app" (some request) "app_uninstalled" responseData

def listApps (request : Value) : AdminMethod :=
  typedMethod "list_apps" (some request) "apps_listed" responseData

def listCellIds : AdminMethod :=
  typedMethod "list_cell_ids" none "cell_ids_listed" responseData

def listDnas : AdminMethod :=
  typedMethod "list_dnas" none "dnas_listed" responseData

/-- `return { port: response.data.port }`, which reads `port` of a `data` that may be
nullish. -/
def attachedPort (response : Value) : Except ErrorValue Value :=
  match (response.get? "data").getD .null with
  | .null => throw typeError
  | data => pure (.obj (.ofList [("port", (data.get? "port").getD .null)]))

/-- `attachAppInterface(request)`: `request ?? { port }` with the port `getPort` found free,
and `{ port: response.data.port }`. -/
def attachAppInterface (request : Option Value) (freePort : Nat) : AdminMethod :=
  typedMethod "attach_app_interface" (some (Value.nullish request (.obj (.ofList [("port", .num freePort)]))))
    "app_interface_attached" attachedPort

def listAppInterfaces : AdminMethod :=
  typedMethod "list_app_interfaces" none "app_interfaces_listed" responseData

/-- `agentInfo(req)`: `{ cell_id: req.cell_id || null }`. -/
def agentInfo (req : Value) : AdminMethod :=
  let cellId := (req.get? "cell_id").getD .null
  typedMethod "agent_info" (some (.obj (.ofList [("cell_id", if cellId.truthy then cellId else .null)])))
    "agent_info" responseData

def addAgentInfo (request : Value) : AdminMethod :=
  typedMethod "add_agent_info" (some request) "agent_info_added" returnsNothing

def deleteCloneCell (request : Value) : AdminMethod :=
  typedMethod "delete_clone_cell" (some request) "clone_cell_deleted" returnsNothing

def dumpFullState (request : Value) : AdminMethod :=
  typedMethod "dump_full_state" (some request) "full_state_dumped" responseData

/-- `grantSigningKey(cellId, functions, signingKey)` with `capSecret` the secret
`randomCapSecret()` made: a grant tagged `zome-call-signing-key` of `functions`, assigned to
`signingKey` alone, and the secret as the result. -/
def grantSigningKey (capSecret : Bytes) (cellId functions signingKey : Value) : AdminMethod :=
  let grant := grantZomeCallCapability (.obj (.ofList [("cell_id", cellId),
    ("cap_grant", .obj (.ofList [("tag", .str "zome-call-signing-key"), ("functions", functions),
      ("access", .obj (.ofList [("Assigned", .obj (.ofList [("secret", .bin capSecret),
        ("assignees", .arr (.ofList [signingKey]))]))]))]))]))
  { grant with handle := fun response => (grant.handle response).map fun _ => .bin capSecret }

end Tryorama.Model.ConductorCalls
