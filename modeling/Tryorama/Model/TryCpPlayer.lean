import Tryorama.Model.Request

/-!
# The TryCP `Player`'s zome call

`Player.callZome(port, request)` (part_005:444-464) encodes the payload of the caller's
`request` in place (`request.payload = msgpack.encode(request.payload)`), and then calls
`tryCpClient.call` with an App API call whose `message` is the encoding of
`{ type: "zome_call", data: request }`. That message is already bytes, so the request
`call` gets is `RequestCallAppInterfaceEncoded`.
-/

set_option autoImplicit false

namespace Tryorama.Model.TryCpPlayer

open Tryorama.Model

/-- `callZome(port, request)` up to `tryCpClient.call`: the caller's `request` as it is left,
and the request passed to `call`, or what threw on the way. -/
def callZome (mp : MsgPack) (port : Nat) (request : Value) :
    Value × Except ErrorValue TryCpRequest :=
  match mp.encode ((request.get? "payload").getD .null) with
  | .error e => (request, .error e)
  | .ok payload =>
    match request.set? "payload" (.bin payload) with
    | none => (request, .error typeError)
    | some request' =>
      match mp.encode (.obj (.ofList [("type", .str "zome_call"), ("data", request')])) with
      | .error e => (request', .error e)
      | .ok message => (request', .ok (.callAppInterfaceEncoded port message))

end Tryorama.Model.TryCpPlayer
