import Tryorama.Model.Value

/-!
# What `call` puts on the wire

Lines 209-234 of `TryCpClient.call`: a zome call's payload is msgpack-encoded in
place, then the message of an Admin or App API call is, and then the whole
`{ id, request }` object is. The request object is the caller's own (the
`serverCall` literal only points at it), so each step changes it; each function
below returns the request as changed together with the result or the error
thrown, since a throw keeps the changes made before it.

`getFormattedRequestLog`, which `call` runs first, throws only on a request that is
no object and on a zome call whose cell id or provenance `Buffer.from` refuses;
`requestLogThrows` says when.
-/

set_option autoImplicit false

namespace Tryorama.Model

/-- `request.type === "call_app_interface" && "data" in request.message &&
request.message.type === "zome_call"`; `none` when the `in` test throws. -/
def isZomeCall (request : Value) : Option Bool :=
  if request.typeIs "call_app_interface" then
    let message := (request.get? "message").getD .null
    match message.hasKey "data" with
    | none => none
    | some true => some (message.typeIs "zome_call")
    | some false => some false
  else some false

/-- Lines 215-223: `message.data.payload = msgpack.encode(message.data.payload)` for a
zome call. -/
def encodeZomePayload (mp : MsgPack) (request : Value) : Value × Except ErrorValue Unit :=
  match isZomeCall request with
  | none => (request, .error typeError)
  | some false => (request, .ok ())
  | some true =>
    let message := (request.get? "message").getD .null
    match (message.get? "data").getD .null with
    | .null => (request, .error typeError)
    | data =>
      match mp.encode ((data.get? "payload").getD .null) with
      | .error e => (request, .error e)
      | .ok b =>
        match ((data.set? "payload" (.bin b)).bind (message.set? "data")).bind
            (request.set? "message") with
        | some request' => (request', .ok ())
        | none => (request, .error typeError)

/-- Lines 226-231: `request.message = msgpack.encode(request.message)` for an Admin or App
API call. -/
def encodeMessage (mp : MsgPack) (request : Value) : Value × Except ErrorValue Unit :=
  if request.typeIs "call_admin_interface" || request.typeIs "call_app_interface" then
    match mp.encode ((request.get? "message").getD .null) with
    | .error e => (request, .error e)
    | .ok b =>
      match request.set? "message" (.bin b) with
      | some request' => (request', .ok ())
      | none => (request, .error typeError)
  else (request, .ok ())

/-- `const serverCall: _TryCpCall = { id: requestId, request }`. -/
def serverCall (id : Nat) (request : Value) : Value :=
  .obj (.cons "id" (.num id) (.cons "request" request .nil))

/-- Lines 209-234 of `call`: the request as changed, and the frame `msgpack.encode(serverCall)`
or the error thrown on the way. -/
def encodeServerCall (mp : MsgPack) (id : Nat) (request : Value) :
    Value × Except ErrorValue Bytes :=
  match encodeZomePayload mp request with
  | (r₁, .error e) => (r₁, .error e)
  | (r₁, .ok ()) =>
    match encodeMessage mp r₁ with
    | (r₂, .error e) => (r₂, .error e)
    | (r₂, .ok ()) => (r₂, mp.encode (serverCall id r₂))

/-- `Buffer.from(v)` accepts `v`: a string, a byte array, an array, or an array-like object. -/
def Value.bufferable : Value → Bool
  | .str _ | .bin _ | .arr _ => true
  | .obj fs => (fs.get "length").isSome
  | _ => false

/-- `v[0]` and `v[1]` of an array with two items at least. -/
def Value.pair? : Value → Option (Value × Value)
  | .arr (.cons a (.cons b _)) => some (a, b)
  | _ => none

/-- `getFormattedRequestLog` (trycp-client.ts:268-290) throws: the zome-call test throws,
a zome call's `cell_id[0]`, `cell_id[1]` or `provenance` is missing or refused by
`Buffer.from`, or `"content" in request` throws because the request is no object. -/
def requestLogThrows (request : Value) : Bool :=
  (match isZomeCall request with
    | none => true
    | some false => false
    | some true =>
      let data := (((request.get? "message").getD .null).get? "data").getD .null
      match (data.get? "cell_id").bind Value.pair?, data.get? "provenance" with
      | some (a, b), some provenance => !(a.bufferable && b.bufferable && provenance.bufferable)
      | _, _ => true) ||
    (request.hasKey "content").isNone

/-- The caller's request object once `call` has returned or thrown. `serverCall.request` is
that object, not a copy, so lines 215-231 write the encoded payload and message into it; a
throw of the request log comes before them and leaves it as it was. -/
def callRequest (mp : MsgPack) (request : Value) : Value :=
  if requestLogThrows request then request
  else match encodeZomePayload mp request with
    | (r₁, .error _) => r₁
    | (r₁, .ok ()) => (encodeMessage mp r₁).1

end Tryorama.Model
