import Tryorama.Model.Value

/-!
# The requests a TryCP client sends

`TryCpRequest` (`types.ts:26-37`) is a union of eleven request shapes, each an object
with a `type` tag. `call` never looks at the TypeScript type: it reads the request as
a JavaScript object. So the union is here a Lean inductive together with the object
each request is at run time (`TryCpRequest.toValue`), and everything `call` does is
over `Value`.

An optional property (`signal?`, `data?`) is absent from the object when it is not given.
`startUp` (part_006:170-176) always writes `log_level`, `undefined` when no level is given,
which msgpack sends as `nil`. A `ConductorId` is a string, a `Buffer` or `Uint8Array` is bytes, and
a zome call's payload and an admin request's data are any value.
-/

set_option autoImplicit false

namespace Tryorama.Model

/-- `CallZomeRequest` of `@holochain/client`: the data of a zome call. -/
structure CallZomeRequest where
  capSecret : Option Bytes
  cellId : Bytes × Bytes
  zomeName : String
  fnName : String
  payload : Value
  provenance : Bytes
  deriving Repr, DecidableEq

/-- `RequestCallAppInterfaceMessage` (`types.ts:128`): a zome call or an app info request. -/
inductive AppMessage where
  | zomeCall (data : CallZomeRequest)
  | appInfo (installedAppId : String)
  deriving Repr, DecidableEq

/-- `RequestAdminInterfaceData` (`types.ts:162-169`): an Admin API request. -/
structure AdminMessage where
  type : String
  data : Option Value
  deriving Repr, DecidableEq

/-- `TryCpRequest` (`types.ts:26-37`). -/
inductive TryCpRequest where
  | downloadDna (url : String)
  | saveDna (id : String) (content : Bytes)
  | configurePlayer (id : String) (partialConfig : String)
  | startup (id : String) (logLevel : Option String)
  | shutdown (id : String) (signal : Option String)
  | reset
  | connectAppInterface (port : Nat)
  | disconnectAppInterface (port : Nat)
  | callAppInterface (port : Nat) (message : AppMessage)
  | callAppInterfaceEncoded (port : Nat) (message : Bytes)
  | callAdminInterface (id : String) (message : AdminMessage)
  deriving Repr, DecidableEq

/-- An optional property: present with its value, or absent. -/
def optField (key : String) : Option Value → List (String × Value)
  | some v => [(key, v)]
  | none => []

/-- A zome call's data as an object. -/
def CallZomeRequest.toValue (d : CallZomeRequest) : Value :=
  .obj (.ofList [("cap_secret", (d.capSecret.map Value.bin).getD .null),
    ("cell_id", .arr (.ofList [.bin d.cellId.1, .bin d.cellId.2])),
    ("zome_name", .str d.zomeName), ("fn_name", .str d.fnName), ("payload", d.payload),
    ("provenance", .bin d.provenance)])

/-- An App API message as an object. -/
def AppMessage.toValue : AppMessage → Value
  | .zomeCall data => .obj (.ofList [("type", .str "zome_call"), ("data", data.toValue)])
  | .appInfo installedAppId => .obj (.ofList [("type", .str "app_info"),
      ("data", .obj (.ofList [("installed_app_id", .str installedAppId)]))])

/-- An Admin API message as an object. -/
def AdminMessage.toValue (m : AdminMessage) : Value :=
  .obj (.ofList ([("type", .str m.type)] ++ optField "data" m.data))

/-- A request as the object `call` receives. -/
def TryCpRequest.toValue : TryCpRequest → Value
  | .downloadDna url => .obj (.ofList [("type", .str "download_dna"), ("url", .str url)])
  | .saveDna id content =>
    .obj (.ofList [("type", .str "save_dna"), ("id", .str id), ("content", .bin content)])
  | .configurePlayer id partialConfig => .obj (.ofList [("type", .str "configure_player"),
      ("id", .str id), ("partial_config", .str partialConfig)])
  | .startup id logLevel => .obj (.ofList [("type", .str "startup"), ("id", .str id),
      ("log_level", (logLevel.map Value.str).getD .null)])
  | .shutdown id signal => .obj (.ofList ([("type", .str "shutdown"), ("id", .str id)] ++
      optField "signal" (signal.map Value.str)))
  | .reset => .obj (.ofList [("type", .str "reset")])
  | .connectAppInterface port =>
    .obj (.ofList [("type", .str "connect_app_interface"), ("port", .num port)])
  | .disconnectAppInterface port =>
    .obj (.ofList [("type", .str "disconnect_app_interface"), ("port", .num port)])
  | .callAppInterface port message => .obj (.ofList [("type", .str "call_app_interface"),
      ("port", .num port), ("message", message.toValue)])
  | .callAppInterfaceEncoded port message => .obj (.ofList
      [("type", .str "call_app_interface"), ("port", .num port), ("message", .bin message)])
  | .callAdminInterface id message => .obj (.ofList [("type", .str "call_admin_interface"),
      ("id", .str id), ("message", message.toValue)])

/-- Every request of the union but `RequestCallAppInterfaceEncoded`, whose message is
already bytes. -/
def TryCpRequest.structured : TryCpRequest → Bool
  | .callAppInterfaceEncoded _ _ => false
  | _ => true

end Tryorama.Model
