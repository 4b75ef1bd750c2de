import Tryorama.Model.Wire

/-!
# The TryCP client

`TryCpClient` (`trycp-client.ts`, the version with signal handlers) owns one
websocket to a TryCP server. `call` stores the new promise's `resolve`/`reject`
under the module-level `requestId`, encodes and sends the request, and then
increments `requestId`; the `message` listener installed by `create` routes each
frame either to a signal handler, by port, or to the stored promise, by id.

The model is the whole process: `World` holds the one `requestId` every client
shares, every client created so far, every promise `call` created, and the
signal-handler calls made. `step` is one macrotask of the event loop: a `call`,
a `setSignalHandler`, one incoming frame, `close`, or the socket's `close`
event. `call` and the listener run to completion (neither awaits), so the
interleavings of the program are the sequences of steps.

The decoders of `./util` and `JSON.stringify` are not among the sources; they
are the fields of `Util`, and every result holds for every choice of them.
-/

set_option autoImplicit false

namespace Tryorama.Model

/-- The `0` outcome's value as the server sends it (`_TryCpSuccessResponseSeralized`). -/
inductive SuccessSerialized where
  | null
  | str (s : String)
  | bytes (b : Bytes)
  deriving Repr, DecidableEq

/-- The `response` field of a response frame, as the listener tests it: `"0" in` first,
then `"1" in`, else an unknown response type; `"0" in` throws on a value that is not an
object. -/
inductive TryCpResponse where
  | success (value : SuccessSerialized)
  | failure (reason : ErrorValue)
  | unknown
  | primitive
  deriving Repr, DecidableEq

/-- A decoded frame: a signal for a port, a response for a request id, or a wrapper of any
other `type`, for which neither branch of the listener runs. -/
inductive ResponseWrapper where
  | signal (port : Nat) (data : Bytes)
  | response (id : Nat) (response : TryCpResponse)
  | other
  deriving Repr, DecidableEq

/-- What a call resolves with (`TryCpSuccessResponse`). -/
inductive TryCpSuccessResponse where
  | null
  | str (s : String)
  | api (response : Value)
  deriving Repr, DecidableEq

/-- The helpers `trycp-client.ts` imports from `./util`, which is not among the sources,
and `JSON.stringify(·, null, 4)`. -/
structure Util where
  deserializeTryCpResponse : Bytes → Except ErrorValue ResponseWrapper
  deserializeTryCpSignal : Bytes → Except ErrorValue Value
  deserializeApiResponse : Bytes → Except ErrorValue Value
  stringify : Option Value → String

/-- A truthy primitive other than a string: `"BYTES_PER_ELEMENT" in` it throws. -/
def Value.truthyPrimitive : Value → Bool
  | .bool b => b
  | .num n => n ≠ 0
  | _ => false

/-- `getFormattedResponseLog` throws: `"data" in response` on a primitive, or
`"BYTES_PER_ELEMENT" in response.data` on a truthy non-string primitive. -/
def formattedResponseLogThrows (response : Value) : Bool :=
  match response.hasKey "data" with
  | none => true
  | some false => false
  | some true => (response.get? "data").any Value.truthyPrimitive

/-- `processSuccessResponse` (trycp-client.ts:137-158): `null` and strings pass through;
bytes are decoded as an API response, and an `error` response throws. -/
def processSuccessResponse (util : Util) :
    SuccessSerialized → Except ErrorValue TryCpSuccessResponse
  | .null => .ok .null
  | .str s => .ok (.str s)
  | .bytes b => do
    let response ← util.deserializeApiResponse b
    if response.typeIs "error" then
      throw (.error ("error response from Admin API\n" ++ util.stringify (response.get? "data")))
    if formattedResponseLogThrows response then throw typeError
    pure (.api response)

/-- Decoders that read every frame as `wrapper` and every signal and API payload as
`null`: a server that always sends the same frame, for concrete runs. -/
def Util.fixed (wrapper : ResponseWrapper) : Util where
  deserializeTryCpResponse _ := .ok wrapper
  deserializeTryCpSignal _ := .ok .null
  deserializeApiResponse _ := .ok .null
  stringify _ := ""

/-- A websocket's `readyState` once `create` has resolved (it resolves on `open`). -/
inductive ReadyState where
  | open
  | closing
  | closed
  deriving Repr, DecidableEq

/-- A signal handler (`AppSignalCb`), by identity. -/
abbrev Handler := Nat

/-- One `TryCpClient`: its socket's state, `requestPromises` (each id to the promise whose
`resolve`/`reject` it holds), `signalHandlers`, and the frames the socket sent, each with
the id it carries. -/
structure Client where
  readyState : ReadyState
  requestPromises : NumRecord Nat
  signalHandlers : NumRecord (Option Handler)
  sent : List (Nat × Bytes)
  deriving Repr, DecidableEq

/-- A client as `create` resolves it. -/
def Client.init : Client := ⟨.open, [], [], []⟩

/-- `ws.send`: an open socket sends the frame; a closing or closed one drops it. -/
def Client.send (cl : Client) (id : Nat) (frame : Bytes) : Client :=
  if cl.readyState = .open then { cl with sent := cl.sent ++ [(id, frame)] } else cl

/-- `setSignalHandler` (trycp-client.ts:46-48). -/
def Client.setSignalHandler (cl : Client) (port : Nat) (signalHandler : Option Handler) :
    Client :=
  { cl with signalHandlers := cl.signalHandlers.set port signalHandler }

/-- The state of a promise. -/
inductive PState where
  | pending
  | resolved (value : TryCpSuccessResponse)
  | rejected (reason : ErrorValue)
  deriving Repr, DecidableEq

/-- A promise `call` created: on which client, for which request id, whether `call`
returned it (it does not when it throws after creating it), and its state. -/
structure PromiseRec where
  client : Nat
  id : Nat
  returned : Bool
  state : PState
  deriving Repr, DecidableEq

/-- `resolve`/`reject`: a promise settles once; later calls do nothing. -/
def PromiseRec.settle (pr : PromiseRec) (st : PState) : PromiseRec :=
  match pr.state with
  | .pending => { pr with state := st }
  | _ => pr

/-- What the listener does outside its client's fields: the `resolve` or `reject` it
calls, and the signal handler it calls. -/
structure Reaction where
  settle : Option (Nat × PState) := none
  invoke : Option (Handler × Value) := none
  deriving Repr, DecidableEq

/-- The settlement a response makes of its promise; `none` when the listener throws
before settling (an unknown response type, or `"0" in` a primitive). -/
def settlement (util : Util) : TryCpResponse → Option PState
  | .success v => some (match processSuccessResponse util v with
      | .ok r => .resolved r
      | .error e => .rejected e)
  | .failure e => some (.rejected e)
  | .unknown | .primitive => none

/-- The `message` listener `TryCpClient.create` installs (trycp-client.ts:72-129); the
outer `try`/`catch` makes every throw a return with nothing further done. -/
def Client.onMessage (util : Util) (cl : Client) (encodedResponse : Bytes) :
    Client × Reaction :=
  match util.deserializeTryCpResponse encodedResponse with
  | .error _ => (cl, {})
  | .ok (.signal port data) =>
    match (cl.signalHandlers.get port).join with
    | none => (cl, {})
    | some h =>
      match util.deserializeTryCpSignal data with
      | .error _ => (cl, {})
      | .ok signal => (cl, { invoke := some (h, signal) })
  | .ok (.response id response) =>
    match cl.requestPromises.get id with
    | none => (cl, {})
    | some p =>
      match settlement util response with
      | none => (cl, {})
      | some st =>
        ({ cl with requestPromises := cl.requestPromises.delete id }, { settle := some (p, st) })
  | .ok .other => (cl, {})

/-- `close()` (trycp-client.ts:165-176): `ws.close(1000)` starts the closing handshake of
an open socket. Nothing else: no pending request is touched. -/
def Client.close (cl : Client) : Client :=
  if cl.readyState = .open then { cl with readyState := .closing } else cl

/-- The socket's `close` event, after `close()` or when the server or the network ends the
connection; the client registers no listener for it but `close()`'s own promise. -/
def Client.socketClosed (cl : Client) : Client := { cl with readyState := .closed }

/-- The process: the module-level `requestId` all clients share, the clients created so
far, the promises `call` created, and the signal-handler calls made, in order. -/
structure World where
  requestId : Nat
  clients : List Client
  promises : List PromiseRec
  invoked : List (Handler × Value)
  deriving Repr, DecidableEq

/-- The process before any client exists (`let requestId = 0`). -/
def World.init : World := ⟨0, [], [], []⟩

/-- `TryCpClient.call` (trycp-client.ts:198-239) on client `c`: the request log, the new
promise stored under `requestId`, the encoding, `ws.send`, and `requestId++`. A throw
in the encoding leaves the stored entry and the unreturned promise, and `requestId`. -/
def World.call (mp : MsgPack) (w : World) (c : Nat) (cl : Client) (request : Value) : World :=
  if requestLogThrows request then w
  else
    let stored := { cl with requestPromises := cl.requestPromises.set w.requestId w.promises.length }
    match (encodeServerCall mp w.requestId request).2 with
    | .error _ =>
      { w with clients := w.clients.set c stored,
               promises := w.promises ++ [⟨c, w.requestId, false, .pending⟩] }
    | .ok frame =>
      { w with requestId := w.requestId + 1,
               clients := w.clients.set c (stored.send w.requestId frame),
               promises := w.promises ++ [⟨c, w.requestId, true, .pending⟩] }

/-- One frame on client `c`'s socket: the listener runs, then the `resolve`/`reject` and
the signal handler it called take effect. -/
def World.receive (util : Util) (w : World) (c : Nat) (cl : Client) (frame : Bytes) : World :=
  let r := cl.onMessage util frame
  { w with clients := w.clients.set c r.1,
           promises := match r.2.settle with
             | some (p, st) => w.promises.modify (·.settle st) p
             | none => w.promises,
           invoked := w.invoked ++ r.2.invoke.toList }

/-- One macrotask of the process. -/
inductive Action where
  | create
  | call (c : Nat) (request : Value)
  | setSignalHandler (c : Nat) (port : Nat) (signalHandler : Option Handler)
  | receive (c : Nat) (frame : Bytes)
  | close (c : Nat)
  | socketClosed (c : Nat)
  deriving Repr, DecidableEq

/-- The effect of an action; `none` when it cannot happen (no such client, or a frame or a
`close` event on a closed socket). -/
def step (mp : MsgPack) (util : Util) (w : World) : Action → Option World
  | .create => some { w with clients := w.clients ++ [Client.init] }
  | .call c request => w.clients[c]?.map fun cl => w.call mp c cl request
  | .setSignalHandler c port h =>
    w.clients[c]?.map fun cl => { w with clients := w.clients.set c (cl.setSignalHandler port h) }
  | .receive c frame =>
    w.clients[c]?.bind fun cl =>
      if cl.readyState = .closed then none else some (w.receive util c cl frame)
  | .close c => w.clients[c]?.map fun cl => { w with clients := w.clients.set c cl.close }
  | .socketClosed c =>
    w.clients[c]?.bind fun cl =>
      if cl.readyState = .closed then none
      else some { w with clients := w.clients.set c cl.socketClosed }

/-- Run the actions of a list in order; `none` as soon as one cannot happen. -/
def run (mp : MsgPack) (util : Util) : World → List Action → Option World
  | w, [] => some w
  | w, a :: as => (step mp util w a).bind (run mp util · as)

/-- The states of the process over every interleaving of its actions. -/
inductive Reachable (mp : MsgPack) (util : Util) : World → Prop where
  | init : Reachable mp util World.init
  | step {w w' : World} (a : Action) :
      Reachable mp util w → step mp util w a = some w' → Reachable mp util w'

/-- A run from a reachable world ends in a reachable world. -/
theorem Reachable.run {mp : MsgPack} {util : Util} {w w' : World} {as : List Action}
    (hw : Reachable mp util w) (h : run mp util w as = some w') : Reachable mp util w' := by
  induction as generalizing w with
  | nil => exact Option.some.inj h ▸ hw
  | cons a as ih =>
    obtain ⟨w₁, h₁, h₂⟩ := Option.bind_eq_some.mp h
    exact ih (.step a hw h₁) h₂

/-! ## Lists of clients and promises -/

/-- INTERNAL: reading a list after writing an index it has. -/
theorem getElem?_set_of_getElem? {α : Type} {l : List α} {c c' : Nat} {x y : α}
    (h : l[c]? = some y) : (l.set c x)[c']? = if c = c' then some x else l[c']? := by
  simp [List.getElem?_set, (List.getElem?_eq_some_iff.mp h).1]

/-- INTERNAL: writing an index the value it has changes nothing. -/
theorem set_self_of_getElem? {α : Type} {l : List α} {c : Nat} {x : α} (h : l[c]? = some x) :
    l.set c x = l := by
  apply List.ext_getElem?
  intro c'
  rw [getElem?_set_of_getElem? h]
  split_ifs with hc
  · subst hc; exact h.symm
  · rfl

/-- INTERNAL: an index of a list with one more item is an old index or the new one. -/
theorem getElem?_concat_eq_some {α : Type} {l : List α} {x y : α} {n : Nat}
    (h : (l ++ [x])[n]? = some y) : l[n]? = some y ∨ (n = l.length ∧ y = x) := by
  rcases Nat.lt_or_ge n l.length with hn | hn
  · exact .inl (by rwa [List.getElem?_append_left hn] at h)
  · rw [List.getElem?_append_right hn] at h
    rcases hk : n - l.length with _ | k
    · simp_all; omega
    · simp_all

/-- INTERNAL: an old index reads the same after an append. -/
theorem getElem?_append_of_getElem? {α : Type} {l l' : List α} {n : Nat} {y : α}
    (h : l[n]? = some y) : (l ++ l')[n]? = some y := by
  rw [List.getElem?_append_left (List.getElem?_eq_some_iff.mp h).1, h]

/-! ## What each operation does -/

namespace PromiseRec

variable (pr : PromiseRec) (st : PState)

@[simp] theorem settle_client : (pr.settle st).client = pr.client := by unfold settle; split <;> rfl

@[simp] theorem settle_id : (pr.settle st).id = pr.id := by unfold settle; split <;> rfl

@[simp] theorem settle_returned : (pr.settle st).returned = pr.returned := by
  unfold settle; split <;> rfl

/-- INTERNAL: settling a pending promise gives it the state. -/
theorem settle_of_pending {pr : PromiseRec} (h : pr.state = .pending) :
    pr.settle st = { pr with state := st } := by simp [settle, h]

/-- INTERNAL: settling a settled promise does nothing. -/
theorem settle_of_ne_pending {pr : PromiseRec} (h : pr.state ≠ .pending) : pr.settle st = pr := by
  unfold settle; split <;> simp_all

end PromiseRec

namespace Client

variable (cl : Client)

@[simp] theorem send_requestPromises (id : Nat) (frame : Bytes) :
    (cl.send id frame).requestPromises = cl.requestPromises := by unfold send; split <;> rfl

@[simp] theorem send_signalHandlers (id : Nat) (frame : Bytes) :
    (cl.send id frame).signalHandlers = cl.signalHandlers := by unfold send; split <;> rfl

@[simp] theorem send_readyState (id : Nat) (frame : Bytes) :
    (cl.send id frame).readyState = cl.readyState := by unfold send; split <;> rfl

@[simp] theorem close_requestPromises : cl.close.requestPromises = cl.requestPromises := by
  unfold close; split <;> rfl

@[simp] theorem close_signalHandlers : cl.close.signalHandlers = cl.signalHandlers := by
  unfold close; split <;> rfl

/-- The listener does one of three things: nothing; call the handler set for a signal's
port with the decoded signal; or settle the promise stored under a response's id and
delete that entry. -/
theorem onMessage_cases (util : Util) (frame : Bytes) :
    cl.onMessage util frame = (cl, {}) ∨
    (∃ port data h s, util.deserializeTryCpResponse frame = .ok (.signal port data) ∧
      (cl.signalHandlers.get port).join = some h ∧ util.deserializeTryCpSignal data = .ok s ∧
      cl.onMessage util frame = (cl, { invoke := some (h, s) })) ∨
    (∃ id response p st, util.deserializeTryCpResponse frame = .ok (.response id response) ∧
      cl.requestPromises.get id = some p ∧ settlement util response = some st ∧
      cl.onMessage util frame =
        ({ cl with requestPromises := cl.requestPromises.delete id }, { settle := some (p, st) })) := by
  rcases hd : util.deserializeTryCpResponse frame with _ | (⟨port, data⟩ | ⟨id, response⟩ | _)
  · exact .inl (by simp only [onMessage, hd])
  · rcases hh : (cl.signalHandlers.get port).join with _ | h
    · exact .inl (by simp only [onMessage, hd, hh])
    rcases hs : util.deserializeTryCpSignal data with _ | s
    · exact .inl (by simp only [onMessage, hd, hh, hs])
    · exact .inr (.inl ⟨port, data, h, s, rfl, hh, hs, by simp only [onMessage, hd, hh, hs]⟩)
  · rcases hp : cl.requestPromises.get id with _ | p
    · exact .inl (by simp only [onMessage, hd, hp])
    rcases hst : settlement util response with _ | st
    · exact .inl (by simp only [onMessage, hd, hp, hst])
    · exact .inr (.inr ⟨id, response, p, st, rfl, hp, hst, by simp only [onMessage, hd, hp, hst]⟩)
  · exact .inl (by simp only [onMessage, hd])

/-- The listener never changes the signal handlers. -/
@[simp] theorem onMessage_signalHandlers (util : Util) (frame : Bytes) :
    (cl.onMessage util frame).1.signalHandlers = cl.signalHandlers := by
  rcases cl.onMessage_cases util frame with h | ⟨_, _, _, _, _, _, _, h⟩ | ⟨_, _, _, _, _, _, _, h⟩ <;>
    rw [h]

/-- On a signal frame the listener changes no field of its client, and calls the handler
set for the port, if there is one, with the decoded signal, if it decodes. -/
theorem onMessage_of_signal (util : Util) {frame : Bytes} {port : Nat} {data : Bytes}
    (hd : util.deserializeTryCpResponse frame = .ok (.signal port data)) :
    cl.onMessage util frame = (cl, { invoke :=
      match (cl.signalHandlers.get port).join, util.deserializeTryCpSignal data with
      | some h, .ok signal => some (h, signal)
      | _, _ => none }) := by
  rcases hh : (cl.signalHandlers.get port).join with _ | h <;>
    rcases hs : util.deserializeTryCpSignal data with e | signal <;>
    simp only [onMessage, hd, hh, hs]

/-- On a response frame the listener calls no signal handler. -/
theorem onMessage_of_response_invoke (util : Util) {frame : Bytes} {id : Nat}
    {response : TryCpResponse}
    (hd : util.deserializeTryCpResponse frame = .ok (.response id response)) :
    (cl.onMessage util frame).2.invoke = none := by
  simp only [onMessage, hd]
  split
  · rfl
  · split <;> rfl

end Client

/-- A frame keeps the number of promises. -/
@[simp] theorem World.receive_promises_length (util : Util) (w : World) (c : Nat) (cl : Client)
    (frame : Bytes) : (w.receive util c cl frame).promises.length = w.promises.length := by
  simp only [World.receive]; split <;> simp

/-- `call` either throws in the request log and changes nothing, or stores a new pending
promise under `requestId` on client `c`; `requestId` moves on only when the frame was
encoded, and nothing else changes but client `c`'s sent frames, which only an open socket
adds to. -/
theorem World.call_cases (mp : MsgPack) (w : World) (c : Nat) (cl : Client) (request : Value) :
    w.call mp c cl request = w ∨
    ∃ returned cl', w.call mp c cl request =
      { w with requestId := if returned then w.requestId + 1 else w.requestId,
               clients := w.clients.set c cl',
               promises := w.promises ++ [⟨c, w.requestId, returned, .pending⟩] } ∧
      cl'.requestPromises = cl.requestPromises.set w.requestId w.promises.length ∧
      cl'.signalHandlers = cl.signalHandlers ∧ cl'.readyState = cl.readyState ∧
      (cl.readyState ≠ .open → cl'.sent = cl.sent) := by
  unfold World.call
  split_ifs
  · exact .inl rfl
  · refine .inr ?_
    split
    · exact ⟨false, _, rfl, rfl, rfl, rfl, fun _ => rfl⟩
    · exact ⟨true, _, rfl, by simp, by simp, by simp, fun h => by simp [Client.send, h]⟩

/-- What a step can be: its action, the client it runs on, and the world after it. -/
theorem step_cases {mp : MsgPack} {util : Util} {w w' : World} {a : Action}
    (hs : step mp util w a = some w') :
    (a = .create ∧ w' = { w with clients := w.clients ++ [Client.init] }) ∨
    (∃ c cl request, a = .call c request ∧ w.clients[c]? = some cl ∧
      w' = w.call mp c cl request) ∨
    (∃ c cl port h, a = .setSignalHandler c port h ∧ w.clients[c]? = some cl ∧
      w' = { w with clients := w.clients.set c (cl.setSignalHandler port h) }) ∨
    (∃ c cl frame, a = .receive c frame ∧ w.clients[c]? = some cl ∧ cl.readyState ≠ .closed ∧
      w' = w.receive util c cl frame) ∨
    (∃ c cl, a = .close c ∧ w.clients[c]? = some cl ∧
      w' = { w with clients := w.clients.set c cl.close }) ∨
    (∃ c cl, a = .socketClosed c ∧ w.clients[c]? = some cl ∧ cl.readyState ≠ .closed ∧
      w' = { w with clients := w.clients.set c cl.socketClosed }) := by
  cases a with
  | create => exact .inl ⟨rfl, (Option.some.inj hs).symm⟩
  | call c request =>
    obtain ⟨cl, hc, rfl⟩ := Option.map_eq_some'.mp hs
    exact .inr (.inl ⟨c, cl, request, rfl, hc, rfl⟩)
  | setSignalHandler c port h =>
    obtain ⟨cl, hc, rfl⟩ := Option.map_eq_some'.mp hs
    exact .inr (.inr (.inl ⟨c, cl, port, h, rfl, hc, rfl⟩))
  | receive c frame =>
    obtain ⟨cl, hc, h⟩ := Option.bind_eq_some.mp hs
    split_ifs at h with hcl
    exact .inr (.inr (.inr (.inl ⟨c, cl, frame, rfl, hc, hcl, (Option.some.inj h).symm⟩)))
  | close c =>
    obtain ⟨cl, hc, rfl⟩ := Option.map_eq_some'.mp hs
    exact .inr (.inr (.inr (.inr (.inl ⟨c, cl, rfl, hc, rfl⟩))))
  | socketClosed c =>
    obtain ⟨cl, hc, h⟩ := Option.bind_eq_some.mp hs
    split_ifs at h with hcl
    exact .inr (.inr (.inr (.inr (.inr ⟨c, cl, rfl, hc, hcl, (Option.some.inj h).symm⟩))))

end Tryorama.Model
