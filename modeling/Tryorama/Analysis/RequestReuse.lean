import Tryorama.Analysis.WireRoundTrip
import Tryorama.Model.Client
import Tryorama.Model.TryCpPlayer

/-!
# Sending one request object twice

`call` keeps no copy of the request it is given: `serverCall.request` is the caller's
object, and `call` writes a zome call's encoded payload and then the encoded message into
it (`callRequest`). The legacy `call` (trycp-client.ts:411-432) encodes `serverCall` and
leaves the request alone, and `getFormattedRequestLog` changes a `cloneDeep` of it.

So after `call` the caller holds another request: the message of its Admin or App API
call is now bytes. Passed to `call` again, it is sent with those bytes as its message, and
the server reads them as the message, not the one sent the first time
(`call_twice_sends_changed_request`). The TryCP `Player.callZome` does the same to the
payload of its request (part_005:448): a second `callZome` with one object sends the
encoding of the first one's encoded payload (`callZome_twice_encodes_payload_twice`).
-/

set_option autoImplicit false

namespace Tryorama.Analysis.RequestReuse

open Tryorama.Model Tryorama.Model.TryCpPlayer Tryorama.Analysis.WireRoundTrip

variable (mp : MsgPack)

/-! ## What `call` does to its request -/

/-- The request log throws on no request of the union. -/
theorem requestLogThrows_toValue (r : TryCpRequest) : requestLogThrows r.toValue = false := by
  cases r with
  | callAppInterface port msg =>
    cases msg <;> simp [requestLogThrows, isZomeCall, TryCpRequest.toValue, AppMessage.toValue,
      CallZomeRequest.toValue, Fields.ofList, Values.ofList, Value.typeIs, Value.get?,
      Value.hasKey, Fields.get, Value.pair?, Value.bufferable]
  | _ => simp [requestLogThrows, isZomeCall, TryCpRequest.toValue, Fields.ofList, Value.typeIs,
      Value.get?, Value.hasKey, Fields.get, optField]

/-- INTERNAL: the request as `call` left it is `callRequest`. -/
theorem encodeServerCall_fst (id : Nat) {v : Value} (h : requestLogThrows v = false) :
    (encodeServerCall mp id v).1 = callRequest mp v := by
  simp only [encodeServerCall, callRequest, h, Bool.false_eq_true, if_false]
  rcases encodeZomePayload mp v with ⟨r₁, e | ⟨⟩⟩
  · rfl
  · dsimp only; rcases encodeMessage mp r₁ with ⟨r₂, e | ⟨⟩⟩ <;> rfl

/-- INTERNAL: `call` sends a frame just when both encodings returned and `serverCall` with
the request as changed encoded. -/
theorem encodeServerCall_ok {id : Nat} {v : Value} {frame : Bytes}
    (h : (encodeServerCall mp id v).2 = .ok frame) :
    ∃ r₁ r₂, encodeZomePayload mp v = (r₁, .ok ()) ∧ encodeMessage mp r₁ = (r₂, .ok ()) ∧
      mp.encode (serverCall id r₂) = .ok frame ∧ encodeServerCall mp id v = (r₂, .ok frame) := by
  unfold encodeServerCall at h ⊢
  rcases hz : encodeZomePayload mp v with ⟨r₁, e | ⟨⟩⟩ <;> rw [hz] at h
  · simp at h
  rcases hm : encodeMessage mp r₁ with ⟨r₂, e | ⟨⟩⟩ <;> simp only [hm] at h
  · simp at h
  exact ⟨r₁, r₂, rfl, hm, h, by simp only [hm]; exact Prod.ext rfl h⟩

/-- INTERNAL: writing a property other than `type` keeps the type. -/
theorem typeIs_of_set? {v v' w : Value} {key : String} (hk : key ≠ "type")
    (h : v.set? key w = some v') (t : String) : v'.typeIs t = v.typeIs t := by
  cases v <;> simp only [Value.set?, Option.some.injEq, reduceCtorEq] at h
  subst h
  simp [Value.typeIs, Value.get?, Fields.get_set_ne _ _ (Ne.symm hk)]

/-- INTERNAL: encoding a zome call's payload keeps the request's type. -/
theorem encodeZomePayload_typeIs (v : Value) (t : String) :
    (encodeZomePayload mp v).1.typeIs t = v.typeIs t := by
  unfold encodeZomePayload
  split <;> try rfl
  dsimp only
  repeat (split <;> try rfl)
  rename_i h
  obtain ⟨_, _, h⟩ := Option.bind_eq_some.mp h
  exact typeIs_of_set? (by decide) h t

/-- INTERNAL: encoding the message of an Admin or App API call writes its bytes into the
request object. -/
theorem encodeMessage_ok {v v' : Value}
    (htype : (v.typeIs "call_admin_interface" || v.typeIs "call_app_interface") = true)
    (h : encodeMessage mp v = (v', .ok ())) :
    ∃ fs b, v = .obj fs ∧ v' = .obj (fs.set "message" (.bin b)) ∧
      mp.encode ((fs.get "message").getD .null) = .ok b := by
  simp only [encodeMessage, htype, if_true] at h
  split at h
  · simp at h
  rename_i b hb
  split at h
  · rename_i v'' hs
    cases v <;> simp only [Value.set?, Option.some.injEq, reduceCtorEq] at hs
    obtain ⟨rfl, -⟩ := Prod.mk.inj h
    exact ⟨_, b, rfl, hs.symm, hb⟩
  · simp at h

/-- After `call` encoded an Admin or App API call, the request is an object of the same type
whose message is bytes. -/
theorem encodeServerCall_message {id : Nat} {v : Value} {frame : Bytes}
    (htype : (v.typeIs "call_admin_interface" || v.typeIs "call_app_interface") = true)
    (h : (encodeServerCall mp id v).2 = .ok frame) :
    ∃ fs b, encodeServerCall mp id v = (.obj (fs.set "message" (.bin b)), .ok frame) ∧
      mp.encode (serverCall id (.obj (fs.set "message" (.bin b)))) = .ok frame ∧
      ∀ t, (Value.obj fs).typeIs t = v.typeIs t := by
  obtain ⟨r₁, r₂, hz, hm, hf, he⟩ := encodeServerCall_ok mp h
  have ht : ∀ t, r₁.typeIs t = v.typeIs t := fun t => by
    simpa [hz] using encodeZomePayload_typeIs mp v t
  obtain ⟨fs, b, rfl, rfl, -⟩ := encodeMessage_ok mp (by rw [ht, ht]; exact htype) hm
  exact ⟨fs, b, he, hf, ht⟩

/-- INTERNAL: a message that is already bytes comes out of the server's decoding as it went
into `call`. -/
theorem decodeZomePayload_bin (m : Bytes) : decodeZomePayload mp (.bin m) = some (.bin m) := by
  simp [decodeZomePayload, Value.typeIs, Value.get?]

/-- An Admin or App API call whose message is already bytes passes the request log, is sent
whenever the object encodes, and the server reads it back as it is: the bytes are its
message. -/
theorem resend_frame (id id' : Nat) {fs : Fields} {m : Bytes}
    (htype : ((Value.obj fs).typeIs "call_admin_interface" ||
      (Value.obj fs).typeIs "call_app_interface") = true)
    (hm : fs.get "message" = some (.bin m)) (hp : (serverCall id' (.obj fs)).packable = true) :
    requestLogThrows (.obj fs) = false ∧
      ∃ frame, (encodeServerCall mp id (.obj fs)).2 = .ok frame ∧
        serverRead mp frame = some (id, .obj fs) := by
  have hz : isZomeCall (.obj fs) = some false := by
    simp [isZomeCall, Value.get?, hm, Value.hasKey]
  refine ⟨by simp [requestLogThrows, hz, Value.hasKey], ?_⟩
  obtain ⟨b, hb⟩ := mp.encode_ok_of_packable
    (show (Value.bin m).packable = true by simp [Value.packable, Value.noFn, Value.depth, maxDepth])
  have hd := Fields.depth_set fs hm (show (Value.bin b).depth = (Value.bin m).depth from rfl)
  have hn := Fields.noFn_set fs hm (show (Value.bin b).noFn = (Value.bin m).noFn from rfl)
  obtain ⟨frame, hf⟩ := mp.encode_ok_of_packable
    (show (serverCall id (.obj (fs.set "message" (.bin b)))).packable = true by
      simpa [serverCall, Value.packable, Value.depth, Fields.depth, Value.noFn, Fields.noFn, hd,
        hn] using hp)
  have henc : encodeServerCall mp id (.obj fs) = (.obj (fs.set "message" (.bin b)), .ok frame) := by
    simp [encodeServerCall, encodeZomePayload, hz, encodeMessage, htype, Value.get?, hm, hb,
      Value.set?, hf]
  refine ⟨frame, by rw [henc], ?_⟩
  have ht : ∀ t, (Value.obj (fs.set "message" (.bin b))).typeIs t = (Value.obj fs).typeIs t :=
    typeIs_of_set? (by decide)
      (show (Value.obj fs).set? "message" (.bin b) = some (.obj (fs.set "message" (.bin b))) from rfl)
  rw [serverRead_of_encode mp hf]
  simp only [readRequest, ht, htype, if_true, Value.get?, Fields.get_set_self,
    mp.decode_encode _ _ hb, decodeZomePayload_bin]
  split_ifs <;> simp [Value.set?, Fields.set_of_get fs hm]

/-- INTERNAL: the message of a request of the union is an object, never bytes, unless it is
the one whose message is already encoded. -/
theorem message_ne_bin {r : TryCpRequest} (hr : r.structured = true) (b : Bytes) :
    r.toValue.get? "message" ≠ some (.bin b) := by
  cases r with
  | callAppInterface port msg =>
    cases msg <;> simp [TryCpRequest.toValue, AppMessage.toValue, Fields.ofList, Value.get?,
      Fields.get]
  | callAppInterfaceEncoded => cases hr
  | callAdminInterface id msg =>
    simp [TryCpRequest.toValue, AdminMessage.toValue, Fields.ofList, Value.get?, Fields.get]
  | _ => simp [TryCpRequest.toValue, Fields.ofList, Value.get?, Fields.get, optField] <;>
    split <;> simp [Fields.ofList, Fields.get]

/-! ## Two calls with one object -/

/-- INTERNAL: a `call` that encodes stores its entry, sends its frame, and moves `requestId`
on. -/
theorem World.call_of_ok (c : Nat) (cl : Client) {w : World} {v : Value} {frame : Bytes}
    (hlog : requestLogThrows v = false) (h : (encodeServerCall mp w.requestId v).2 = .ok frame) :
    w.call mp c cl v =
      { w with requestId := w.requestId + 1,
               clients := w.clients.set c (Client.send
                 { cl with requestPromises := cl.requestPromises.set w.requestId w.promises.length }
                 w.requestId frame),
               promises := w.promises ++ [⟨c, w.requestId, true, .pending⟩] } := by
  simp [World.call, hlog, h]

/-- From any world, two `call`s on an open client with one Admin or App API request object
send two frames, and the server reads the second as another request: the object as the
first `call` left it, whose message is the bytes that `call` encoded. -/
theorem call_twice_sends_changed_request (util : Util) {w : World} {c : Nat} {cl : Client}
    {r : TryCpRequest} {frame : Bytes} (hc : w.clients[c]? = some cl)
    (hopen : cl.readyState = .open) (hr : r.structured = true)
    (htype : (r.toValue.typeIs "call_admin_interface" || r.toValue.typeIs "call_app_interface") = true)
    (hs : (encodeServerCall mp w.requestId r.toValue).2 = .ok frame) :
    callRequest mp r.toValue ≠ r.toValue ∧
    ∃ w' cl' frame', run mp util w [.call c r.toValue, .call c (callRequest mp r.toValue)] = some w' ∧
      w'.clients[c]? = some cl' ∧
      cl'.sent = cl.sent ++ [(w.requestId, frame), (w.requestId + 1, frame')] ∧
      serverRead mp frame = some (w.requestId, r.toValue) ∧
      serverRead mp frame' = some (w.requestId + 1, callRequest mp r.toValue) := by
  have hlog := requestLogThrows_toValue r
  obtain ⟨fs, b, he, hf, ht⟩ := encodeServerCall_message mp htype hs
  have hreq : callRequest mp r.toValue = .obj (fs.set "message" (.bin b)) := by
    rw [← encodeServerCall_fst mp w.requestId hlog, he]
  have ht' : ∀ t, (Value.obj (fs.set "message" (.bin b))).typeIs t = r.toValue.typeIs t :=
    fun t => (typeIs_of_set? (by decide)
      (show (Value.obj fs).set? "message" (.bin b) = some (.obj (fs.set "message" (.bin b)))
        from rfl) t).trans (ht t)
  obtain ⟨hlog', frame', hs', hread'⟩ := resend_frame mp (w.requestId + 1) w.requestId
    (by rw [ht', ht']; exact htype)
    (show (fs.set "message" (.bin b)).get "message" = some (.bin b) by simp)
    (mp.packable_of_encode_ok hf)
  have hlt := (List.getElem?_eq_some_iff.mp hc).1
  refine ⟨fun heq => message_ne_bin hr b (by rw [← heq, hreq]; simp [Value.get?]), ?_⟩
  rw [hreq]
  have hw₁ := World.call_of_ok mp c cl hlog hs
  set cl₁ := Client.send
    { cl with requestPromises := cl.requestPromises.set w.requestId w.promises.length }
    w.requestId frame
  have hc₁ : (w.call mp c cl r.toValue).clients[c]? = some cl₁ := by
    rw [hw₁]; exact List.getElem?_set_self hlt
  have hs₁ : (encodeServerCall mp (w.call mp c cl r.toValue).requestId
      (.obj (fs.set "message" (.bin b)))).2 = .ok frame' := by rw [hw₁]; exact hs'
  have hw₂ := World.call_of_ok mp c cl₁ hlog' hs₁
  obtain ⟨cl₂, hc₂, hsent⟩ : ∃ cl₂,
      ((w.call mp c cl r.toValue).call mp c cl₁ (.obj (fs.set "message" (.bin b)))).clients[c]? =
        some cl₂ ∧ cl₂.sent = cl.sent ++ [(w.requestId, frame), (w.requestId + 1, frame')] :=
    ⟨_, by rw [hw₂]; exact List.getElem?_set_self (by simpa [hw₁] using hlt),
      by simp [cl₁, Client.send, hopen, hw₁]⟩
  exact ⟨_, cl₂, frame', by simp only [run, step, hc, hc₁, Option.map_some', Option.some_bind],
    hc₂, hsent, serverRead_call_frame mp _ r frame hr hs, hread'⟩

/-! ## Two zome calls with one request object -/

/-- INTERNAL: what `callZome` does to an object whose payload and message encode. -/
theorem callZome_ok {port : Nat} {fs : Fields} {r : TryCpRequest}
    (h : (callZome mp port (.obj fs)).2 = .ok r) :
    ∃ b m, mp.encode ((fs.get "payload").getD .null) = .ok b ∧
      mp.encode (.obj (.ofList [("type", .str "zome_call"),
        ("data", .obj (fs.set "payload" (.bin b)))])) = .ok m ∧
      callZome mp port (.obj fs) =
        (.obj (fs.set "payload" (.bin b)), .ok (.callAppInterfaceEncoded port m)) := by
  simp only [callZome, Value.get?, Value.set?] at h ⊢
  rcases hb : mp.encode ((fs.get "payload").getD .null) with e | b <;> rw [hb] at h
  · simp at h
  dsimp only at h ⊢
  rcases hm : mp.encode (.obj (.ofList [("type", .str "zome_call"),
      ("data", .obj (fs.set "payload" (.bin b)))])) with e | m <;> rw [hm] at h
  · simp at h
  exact ⟨b, m, rfl, hm, by simp only [hm]⟩

/-- For any codec, two `callZome`s with one request object encode its payload twice: the
first sends the encoding of the payload, the second the encoding of those bytes, inside a
message that is already bytes. -/
theorem callZome_twice_encodes_payload_twice (port : Nat) (d : CallZomeRequest)
    {r : TryCpRequest} (hs : (callZome mp port d.toValue).2 = .ok r) :
    ∃ b₁ b₂ m₂, (callZome mp port d.toValue).1.get? "payload" = some (.bin b₁) ∧
      mp.decode b₁ = .ok d.payload ∧
      (callZome mp port (callZome mp port d.toValue).1).1.get? "payload" = some (.bin b₂) ∧
      mp.decode b₂ = .ok (.bin b₁) ∧
      (callZome mp port (callZome mp port d.toValue).1).2 = .ok (.callAppInterfaceEncoded port m₂) ∧
      mp.decode m₂ = .ok (.obj (.ofList [("type", .str "zome_call"),
        ("data", (callZome mp port (callZome mp port d.toValue).1).1)])) := by
  obtain ⟨fs, hfs, hpay⟩ : ∃ fs, d.toValue = .obj fs ∧ fs.get "payload" = some d.payload :=
    ⟨_, rfl, by simp [Fields.ofList, Fields.get]⟩
  rw [hfs] at hs ⊢
  obtain ⟨b₁, m₁, hb₁, hm₁, hc₁⟩ := callZome_ok mp hs
  obtain ⟨b₂, hb₂⟩ := mp.encode_ok_of_packable
    (show (Value.bin b₁).packable = true by simp [Value.packable, Value.noFn, Value.depth, maxDepth])
  have hget : (fs.set "payload" (.bin b₁)).get "payload" = some (.bin b₁) := by simp
  have hd : (fs.set "payload" (.bin b₂)).depth = (fs.set "payload" (.bin b₁)).depth := by
    simpa using Fields.depth_set _ hget (show (Value.bin b₂).depth = (Value.bin b₁).depth from rfl)
  have hn : (fs.set "payload" (.bin b₂)).noFn = (fs.set "payload" (.bin b₁)).noFn := by
    simpa using Fields.noFn_set _ hget (show (Value.bin b₂).noFn = (Value.bin b₁).noFn from rfl)
  obtain ⟨m₂, hm₂⟩ := mp.encode_ok_of_packable
    (show (Value.obj (.ofList [("type", .str "zome_call"),
      ("data", .obj (fs.set "payload" (.bin b₂)))])).packable = true by
      simpa [Fields.ofList, Value.packable, Value.depth, Fields.depth, Value.noFn, Fields.noFn,
        hd, hn] using mp.packable_of_encode_ok hm₁)
  have hc₂ : callZome mp port (.obj (fs.set "payload" (.bin b₁))) =
      (.obj (fs.set "payload" (.bin b₂)), .ok (.callAppInterfaceEncoded port m₂)) := by
    simp [callZome, Value.get?, Value.set?, hb₂, hm₂]
  rw [hc₁, hc₂]
  refine ⟨b₁, b₂, m₂, by simp [Value.get?], ?_, by simp [Value.get?], mp.decode_encode _ _ hb₂, rfl,
    mp.decode_encode _ _ hm₂⟩
  simpa [hpay] using mp.decode_encode _ _ hb₁

/-! ## Reusing a request object -/

/-- For any codec, `call` and the TryCP `Player.callZome` change the request object they are
given, so reusing it sends something else. A second `call`, on an open client, with an Admin
or App API request object that a first `call` sent, sends the object as the first `call`
left it: the server reads another request, whose message is the bytes the first call
encoded. A second `callZome` with one request object encodes its payload twice. -/
theorem reused_request_changes_what_is_sent (util : Util) {w : World} {c : Nat} {cl : Client}
    {r : TryCpRequest} {frame : Bytes} (hc : w.clients[c]? = some cl)
    (hopen : cl.readyState = .open) (hr : r.structured = true)
    (htype : (r.toValue.typeIs "call_admin_interface" || r.toValue.typeIs "call_app_interface") = true)
    (hs : (encodeServerCall mp w.requestId r.toValue).2 = .ok frame)
    (port : Nat) (d : CallZomeRequest) {r' : TryCpRequest}
    (hz : (callZome mp port d.toValue).2 = .ok r') :
    (callRequest mp r.toValue ≠ r.toValue ∧
      ∃ w' cl' frame', run mp util w [.call c r.toValue, .call c (callRequest mp r.toValue)] =
          some w' ∧ w'.clients[c]? = some cl' ∧
        cl'.sent = cl.sent ++ [(w.requestId, frame), (w.requestId + 1, frame')] ∧
        serverRead mp frame = some (w.requestId, r.toValue) ∧
        serverRead mp frame' = some (w.requestId + 1, callRequest mp r.toValue)) ∧
    (∃ b₁ b₂ m₂, (callZome mp port d.toValue).1.get? "payload" = some (.bin b₁) ∧
      mp.decode b₁ = .ok d.payload ∧
      (callZome mp port (callZome mp port d.toValue).1).1.get? "payload" = some (.bin b₂) ∧
      mp.decode b₂ = .ok (.bin b₁) ∧
      (callZome mp port (callZome mp port d.toValue).1).2 = .ok (.callAppInterfaceEncoded port m₂) ∧
      mp.decode m₂ = .ok (.obj (.ofList [("type", .str "zome_call"),
        ("data", (callZome mp port (callZome mp port d.toValue).1).1)]))) :=
  ⟨call_twice_sends_changed_request mp util hc hopen hr htype hs,
    callZome_twice_encodes_payload_twice mp port d hz⟩

/-- A zome call with an empty cell id and provenance and a `null` payload. -/
def nullZomeCall : CallZomeRequest := ⟨none, ([], []), "zome", "fn", .null, []⟩

/-- The request `callZome` passes to `call` for `nullZomeCall` on port `0`, with the tagged
codec. -/
def nullZomeCallSent : TryCpRequest :=
  ((callZome TaggedCodec.msgPack 0 nullZomeCall.toValue).2.toOption.getD .reset)

/-- One client, and no request made yet. -/
def oneClient : World := ⟨0, [Client.init], [], []⟩

theorem app_info_request_sent_twice :
    oneClient.clients[0]? = some Client.init ∧ Client.init.readyState = .open ∧
    (TryCpRequest.callAppInterface 0 appInfoMessage).structured = true ∧
    ((TryCpRequest.callAppInterface 0 appInfoMessage).toValue.typeIs "call_admin_interface" ||
      (TryCpRequest.callAppInterface 0 appInfoMessage).toValue.typeIs "call_app_interface") = true ∧
    (encodeServerCall TaggedCodec.msgPack oneClient.requestId
      (TryCpRequest.callAppInterface 0 appInfoMessage).toValue).2 =
      .ok (frameOf (.callAppInterface 0 appInfoMessage)) ∧
    (callZome TaggedCodec.msgPack 0 nullZomeCall.toValue).2 = .ok nullZomeCallSent ∧
    ((callRequest TaggedCodec.msgPack (TryCpRequest.callAppInterface 0 appInfoMessage).toValue ≠
        (TryCpRequest.callAppInterface 0 appInfoMessage).toValue ∧
      ∃ w' cl' frame', run TaggedCodec.msgPack (Util.fixed .other) oneClient
          [.call 0 (TryCpRequest.callAppInterface 0 appInfoMessage).toValue,
           .call 0 (callRequest TaggedCodec.msgPack
             (TryCpRequest.callAppInterface 0 appInfoMessage).toValue)] = some w' ∧
        w'.clients[0]? = some cl' ∧
        cl'.sent = Client.init.sent ++ [(oneClient.requestId,
          frameOf (.callAppInterface 0 appInfoMessage)), (oneClient.requestId + 1, frame')] ∧
        serverRead TaggedCodec.msgPack (frameOf (.callAppInterface 0 appInfoMessage)) =
          some (oneClient.requestId, (TryCpRequest.callAppInterface 0 appInfoMessage).toValue) ∧
        serverRead TaggedCodec.msgPack frame' = some (oneClient.requestId + 1,
          callRequest TaggedCodec.msgPack (TryCpRequest.callAppInterface 0 appInfoMessage).toValue)) ∧
    (∃ b₁ b₂ m₂,
      (callZome TaggedCodec.msgPack 0 nullZomeCall.toValue).1.get? "payload" = some (.bin b₁) ∧
      TaggedCodec.msgPack.decode b₁ = .ok nullZomeCall.payload ∧
      (callZome TaggedCodec.msgPack 0
        (callZome TaggedCodec.msgPack 0 nullZomeCall.toValue).1).1.get? "payload" =
          some (.bin b₂) ∧
      TaggedCodec.msgPack.decode b₂ = .ok (.bin b₁) ∧
      (callZome TaggedCodec.msgPack 0 (callZome TaggedCodec.msgPack 0 nullZomeCall.toValue).1).2 =
        .ok (.callAppInterfaceEncoded 0 m₂) ∧
      TaggedCodec.msgPack.decode m₂ = .ok (.obj (.ofList [("type", .str "zome_call"),
        ("data", (callZome TaggedCodec.msgPack 0
          (callZome TaggedCodec.msgPack 0 nullZomeCall.toValue).1).1)])))) :=
  have hs : (encodeServerCall TaggedCodec.msgPack oneClient.requestId
      (TryCpRequest.callAppInterface 0 appInfoMessage).toValue).2 =
      .ok (frameOf (.callAppInterface 0 appInfoMessage)) := rfl
  have hz : (callZome TaggedCodec.msgPack 0 nullZomeCall.toValue).2 = .ok nullZomeCallSent := rfl
  have hc : oneClient.clients[0]? = some Client.init := rfl
  have hr : (TryCpRequest.callAppInterface 0 appInfoMessage).structured = true := rfl
  ⟨hc, rfl, hr, rfl, hs, hz, reused_request_changes_what_is_sent TaggedCodec.msgPack
    (Util.fixed .other) hc rfl hr rfl hs 0 nullZomeCall hz⟩

end Tryorama.Analysis.RequestReuse
