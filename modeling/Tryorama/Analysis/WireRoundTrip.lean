import Tryorama.Model.Wire
import Tryorama.Model.Request
import Tryorama.Model.TaggedCodec

/-!
# What the server reads from a frame

The TryCP server is not among the sources. `serverRead` reads a frame the way the
server is described to: msgpack-decode the frame; for an Admin or App API call,
msgpack-decode its `message` once more; and for a zome call, its payload once more.

Every request of the union but one comes back as it was sent
(`serverRead_call_frame`): `call` encodes exactly what the server decodes. The one is
`RequestCallAppInterfaceEncoded`, whose `message` is already msgpack bytes. `call`
tests `"data" in` those bytes (false, so no payload encoding) and then encodes the
`message` again, bytes and all: the server's one decode of `message` gives back the
bytes, not the message they encode, and the frame is not the one the structured
request with the same message sends (`preencoded_message_read_as_bytes`).
-/

set_option autoImplicit false

namespace Tryorama.Analysis.WireRoundTrip

open Tryorama.Model

/-- A zome call's payload decoded once more, in place; other messages as they are. -/
def decodeZomePayload (mp : MsgPack) (message : Value) : Option Value :=
  if message.typeIs "zome_call" then
    match (message.get? "data").bind (·.get? "payload") with
    | some (.bin b) =>
      match mp.decode b with
      | .ok payload =>
        ((message.get? "data").bind (·.set? "payload" payload)).bind (message.set? "data")
      | .error _ => none
    | _ => none
  else some message

/-- A request as the server reads it: the `message` of an Admin or App API call decoded
once more, and a zome call's payload too. -/
def readRequest (mp : MsgPack) (request : Value) : Option Value :=
  if request.typeIs "call_admin_interface" || request.typeIs "call_app_interface" then
    match request.get? "message" with
    | some (.bin m) =>
      match mp.decode m with
      | .ok message =>
        (if request.typeIs "call_app_interface" then decodeZomePayload mp message
          else some message).bind (request.set? "message")
      | .error _ => none
    | _ => none
  else some request

/-- A frame as the server reads it: the id and the request. -/
def serverRead (mp : MsgPack) (frame : Bytes) : Option (Nat × Value) :=
  match mp.decode frame with
  | .ok call =>
    match call.get? "id", call.get? "request" with
    | some (.num (.ofNat id)), some request => (readRequest mp request).map (id, ·)
    | _, _ => none
  | .error _ => none

/-- INTERNAL: the server reads the id and the request of an encoded `{ id, request }`. -/
theorem serverRead_of_encode (mp : MsgPack) {id : Nat} {request : Value} {frame : Bytes}
    (h : mp.encode (serverCall id request) = .ok frame) :
    serverRead mp frame = (readRequest mp request).map (id, ·) := by
  simp [serverRead, mp.decode_encode _ _ h, serverCall, Value.get?, Fields.get]

/-- For any codec that keeps the msgpack contract, the server reads every structured
request back from the frame `call` sends for it, with the id `call` gave it. -/
theorem serverRead_call_frame (mp : MsgPack) (id : Nat) (r : TryCpRequest) (frame : Bytes)
    (hr : r.structured = true) (h : (encodeServerCall mp id r.toValue).2 = .ok frame) :
    serverRead mp frame = some (id, r.toValue) := by
  cases r
  case callAppInterfaceEncoded => cases hr
  case callAdminInterface cid msg =>
    simp [encodeServerCall, encodeZomePayload, isZomeCall, TryCpRequest.toValue, Fields.ofList,
      Value.typeIs, Value.get?, Fields.get, encodeMessage] at h
    rcases hm : mp.encode msg.toValue with e | m <;> simp [hm, Value.set?, Fields.set] at h
    rw [serverRead_of_encode mp h]
    simp [readRequest, Value.typeIs, Value.get?, Fields.get, Fields.set, mp.decode_encode _ _ hm,
      Value.set?, TryCpRequest.toValue, Fields.ofList]
  case callAppInterface port msg =>
    cases msg with
    | appInfo installedAppId =>
      simp [encodeServerCall, encodeZomePayload, isZomeCall, TryCpRequest.toValue,
        AppMessage.toValue, Fields.ofList, Value.typeIs, Value.get?, Value.hasKey, Fields.get,
        encodeMessage] at h
      rcases hm : mp.encode _ with e | m <;> rw [hm] at h <;> simp [Value.set?, Fields.set] at h
      rw [serverRead_of_encode mp h]
      simp [readRequest, decodeZomePayload, Value.typeIs, Value.get?, Fields.get, Fields.set,
        mp.decode_encode _ _ hm, Value.set?, TryCpRequest.toValue, AppMessage.toValue,
        Fields.ofList]
    | zomeCall d =>
      simp [encodeServerCall, encodeZomePayload, isZomeCall, TryCpRequest.toValue,
        AppMessage.toValue, CallZomeRequest.toValue, Fields.ofList, Value.typeIs, Value.get?,
        Value.hasKey, Fields.get, encodeMessage] at h
      rcases hp : mp.encode d.payload with e | p <;>
        simp [hp, Value.set?, Fields.set, Fields.get, Value.get?, Value.typeIs] at h
      rcases hm : mp.encode _ with e | m <;> rw [hm] at h <;> simp at h
      rw [serverRead_of_encode mp h]
      simp [readRequest, decodeZomePayload, Value.typeIs, Value.get?, Fields.get, Fields.set,
        mp.decode_encode _ _ hm, mp.decode_encode _ _ hp, Value.set?, TryCpRequest.toValue,
        AppMessage.toValue, CallZomeRequest.toValue, Fields.ofList]
  all_goals
    simp [encodeServerCall, encodeZomePayload, isZomeCall, encodeMessage, TryCpRequest.toValue,
      Fields.ofList, Value.typeIs, Value.get?, Fields.get] at h
    rw [serverRead_of_encode mp h]
    simp [readRequest, TryCpRequest.toValue, Fields.ofList, Value.typeIs, Value.get?, Fields.get]

/-- For any codec that keeps the msgpack contract: when `call` sends an App API call whose
message is already the bytes `m` of a message, the server reads back the bytes `m` as the
message, not the message they encode; and the frame is not the one `call` sends for the
structured request with that message. -/
theorem preencoded_message_read_as_bytes (mp : MsgPack) (id port : Nat) (msg : AppMessage)
    (m frame frame' : Bytes) (hm : mp.encode msg.toValue = .ok m)
    (hs : (encodeServerCall mp id (TryCpRequest.callAppInterface port msg).toValue).2 = .ok frame)
    (he : (encodeServerCall mp id (TryCpRequest.callAppInterfaceEncoded port m).toValue).2 =
      .ok frame') :
    serverRead mp frame' = some (id, (TryCpRequest.callAppInterfaceEncoded port m).toValue) ∧
      frame' ≠ frame := by
  have hread : serverRead mp frame' =
      some (id, (TryCpRequest.callAppInterfaceEncoded port m).toValue) := by
    simp [encodeServerCall, encodeZomePayload, isZomeCall, TryCpRequest.toValue, Fields.ofList,
      Value.typeIs, Value.get?, Value.hasKey, Fields.get, encodeMessage] at he
    rcases hb : mp.encode (.bin m) with e | b <;> rw [hb] at he <;>
      simp [Value.set?, Fields.set] at he
    rw [serverRead_of_encode mp he]
    simp [readRequest, decodeZomePayload, Value.typeIs, Value.get?, Fields.get, Fields.set,
      mp.decode_encode _ _ hb, Value.set?, TryCpRequest.toValue, Fields.ofList]
  refine ⟨hread, fun hf => ?_⟩
  have hstruct := serverRead_call_frame mp id (.callAppInterface port msg) frame rfl hs
  rw [← hf, hread] at hstruct
  cases msg <;> simp [TryCpRequest.toValue, AppMessage.toValue, Fields.ofList] at hstruct

/-- An app info request. -/
def appInfoMessage : AppMessage := .appInfo "app"

/-- What `msgpack.encode` gives for `appInfoMessage`, with the tagged codec. -/
def appInfoBytes : Bytes :=
  (TaggedCodec.msgPack.encode appInfoMessage.toValue).toOption.getD []

/-- The frame `call` sends for a request with id `0`, with the tagged codec. -/
def frameOf (r : TryCpRequest) : Bytes :=
  (encodeServerCall TaggedCodec.msgPack 0 r.toValue).2.toOption.getD []

theorem preencoded_app_info_read_as_bytes :
    TaggedCodec.msgPack.encode appInfoMessage.toValue = .ok appInfoBytes ∧
    (encodeServerCall TaggedCodec.msgPack 0 (TryCpRequest.callAppInterface 0 appInfoMessage).toValue).2 =
      .ok (frameOf (.callAppInterface 0 appInfoMessage)) ∧
    (encodeServerCall TaggedCodec.msgPack 0
        (TryCpRequest.callAppInterfaceEncoded 0 appInfoBytes).toValue).2 =
      .ok (frameOf (.callAppInterfaceEncoded 0 appInfoBytes)) ∧
    serverRead TaggedCodec.msgPack (frameOf (.callAppInterfaceEncoded 0 appInfoBytes)) =
      some (0, (TryCpRequest.callAppInterfaceEncoded 0 appInfoBytes).toValue) ∧
    frameOf (.callAppInterfaceEncoded 0 appInfoBytes) ≠ frameOf (.callAppInterface 0 appInfoMessage) :=
  have hm : TaggedCodec.msgPack.encode appInfoMessage.toValue = .ok appInfoBytes := rfl
  have hs : (encodeServerCall TaggedCodec.msgPack 0
      (TryCpRequest.callAppInterface 0 appInfoMessage).toValue).2 =
      .ok (frameOf (.callAppInterface 0 appInfoMessage)) := rfl
  have he : (encodeServerCall TaggedCodec.msgPack 0
      (TryCpRequest.callAppInterfaceEncoded 0 appInfoBytes).toValue).2 =
      .ok (frameOf (.callAppInterfaceEncoded 0 appInfoBytes)) := rfl
  ⟨hm, hs, he, preencoded_message_read_as_bytes TaggedCodec.msgPack 0 0 appInfoMessage _ _ _ hm hs he⟩

end Tryorama.Analysis.WireRoundTrip
