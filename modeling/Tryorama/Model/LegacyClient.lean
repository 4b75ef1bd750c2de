import Tryorama.Model.Client

/-!
# The second `TryCpClient`

`trycp-client.ts` holds a second, earlier version of the client (lines 292-433). It
has no signal handlers, `call` encodes `{ id, request }` as it is, and its `message`
listener has no `try`/`catch`: every throw in it leaves the listener. So the listener
returns an `Except`, whose error is an exception that escapes into the websocket.

Its `decodeTryCpResponse` comes from `./util`, which is not among the sources; it is a
parameter, as the first version's decoders are.

`LegacyWorld` is the process with such clients, as `World` is for the first version: the
module-level `requestId`, the clients, the promises `call` created, and the exceptions the
listener threw into the socket. A step is one macrotask: `create`, a `call`, one frame,
`close`, or the socket's `close` event.
-/

set_option autoImplicit false

namespace Tryorama.Model

/-- A frame as the second version's `decodeTryCpResponse` returns it: its `id`, `none`
when the frame has none (a signal), and its `response`. -/
structure LegacyResponse where
  id : Option Nat
  response : TryCpResponse
  deriving Repr, DecidableEq

/-- The second version's client: its socket's state, `requestPromises`, and the frames
it sent. -/
structure LegacyClient where
  readyState : ReadyState
  requestPromises : NumRecord Nat
  sent : List (Nat × Bytes)
  deriving Repr, DecidableEq

/-- A client as `create` resolves it. -/
def LegacyClient.init : LegacyClient := ⟨.open, [], []⟩

/-- `response[0]` as the second version resolves with it, undecoded. -/
def SuccessSerialized.raw : SuccessSerialized → TryCpSuccessResponse
  | .null => .null
  | .str s => .str s
  | .bytes b => .api (.bin b)

/-- Lines 356-364: `"0" in` resolves, `"1" in` rejects, any other object is only logged,
and `"0" in` a primitive throws. -/
def legacySettlement : TryCpResponse → Except ErrorValue (Option PState)
  | .success v => .ok (some (.resolved v.raw))
  | .failure e => .ok (some (.rejected e))
  | .unknown => .ok none
  | .primitive => .error typeError

/-- The listener of the second version (trycp-client.ts:345-365): decode, destructure
`requestPromises[id]` (a `TypeError` when there is no entry, or no id), settle, and
`delete` the entry; what it returns is the promise settled, if one is. -/
def LegacyClient.onMessage (decodeTryCpResponse : Bytes → Except ErrorValue LegacyResponse)
    (cl : LegacyClient) (encodedResponse : Bytes) :
    Except ErrorValue (LegacyClient × Option (Nat × PState)) := do
  let responseWrapper ← decodeTryCpResponse encodedResponse
  match responseWrapper.id with
  | none => throw typeError
  | some id =>
    match cl.requestPromises.get id with
    | none => throw typeError
    | some p =>
      let st ← legacySettlement responseWrapper.response
      pure ({ cl with requestPromises := cl.requestPromises.delete id }, st.map (p, ·))

/-- `ws.send`: an open socket sends the frame; a closing or closed one drops it. -/
def LegacyClient.send (cl : LegacyClient) (id : Nat) (frame : Bytes) : LegacyClient :=
  if cl.readyState = .open then { cl with sent := cl.sent ++ [(id, frame)] } else cl

/-- `call` of the second version (trycp-client.ts:411-432) with `requestId` and the index
`p` of the promise it creates: store the entry, encode `{ id, request }` unchanged, send.
The caller increments `requestId` when no error is returned. -/
def LegacyClient.call (mp : MsgPack) (requestId p : Nat) (cl : LegacyClient) (request : Value) :
    LegacyClient × Except ErrorValue Unit :=
  let stored := { cl with requestPromises := cl.requestPromises.set requestId p }
  match mp.encode (serverCall requestId request) with
  | .error e => (stored, .error e)
  | .ok frame => (stored.send requestId frame, .ok ())

/-- `close()` of the second version (lines 378-389): as in the first, `ws.close(1000)`. -/
def LegacyClient.close (cl : LegacyClient) : LegacyClient :=
  if cl.readyState = .open then { cl with readyState := .closing } else cl

/-- The socket's `close` event. -/
def LegacyClient.socketClosed (cl : LegacyClient) : LegacyClient := { cl with readyState := .closed }

/-- The process with second-version clients: the module-level `requestId`, the clients
created so far, the promises `call` created, and the exceptions that escaped the listener,
in order. -/
structure LegacyWorld where
  requestId : Nat
  clients : List LegacyClient
  promises : List PromiseRec
  escaped : List ErrorValue
  deriving Repr, DecidableEq

namespace LegacyWorld

/-- The process before any client exists (`let requestId = 0`). -/
def init : LegacyWorld := ⟨0, [], [], []⟩

/-- `call` on client `c`: the new promise, stored under `requestId`, and `requestId++`
unless the encoding threw, in which case `call` does not return the promise. -/
def call (mp : MsgPack) (w : LegacyWorld) (c : Nat) (cl : LegacyClient) (request : Value) :
    LegacyWorld :=
  match cl.call mp w.requestId w.promises.length request with
  | (cl', .error _) =>
    { w with clients := w.clients.set c cl',
             promises := w.promises ++ [⟨c, w.requestId, false, .pending⟩] }
  | (cl', .ok ()) =>
    { w with requestId := w.requestId + 1,
             clients := w.clients.set c cl',
             promises := w.promises ++ [⟨c, w.requestId, true, .pending⟩] }

/-- One frame on client `c`'s socket: the listener either throws, with nothing done, and
the exception escapes, or returns after settling at most one promise. -/
def receive (decodeTryCpResponse : Bytes → Except ErrorValue LegacyResponse) (w : LegacyWorld)
    (c : Nat) (cl : LegacyClient) (frame : Bytes) : LegacyWorld :=
  match cl.onMessage decodeTryCpResponse frame with
  | .error e => { w with escaped := w.escaped ++ [e] }
  | .ok (cl', settled) =>
    { w with clients := w.clients.set c cl',
             promises := match settled with
               | some (p, st) => w.promises.modify (·.settle st) p
               | none => w.promises }

/-- One macrotask of the process. -/
inductive Action where
  | create
  | call (c : Nat) (request : Value)
  | receive (c : Nat) (frame : Bytes)
  | close (c : Nat)
  | socketClosed (c : Nat)
  deriving Repr, DecidableEq

/-- The effect of an action; `none` when it cannot happen (no such client, or a frame or a
`close` event on a closed socket). -/
def step (mp : MsgPack) (decodeTryCpResponse : Bytes → Except ErrorValue LegacyResponse)
    (w : LegacyWorld) : Action → Option LegacyWorld
  | .create => some { w with clients := w.clients ++ [LegacyClient.init] }
  | .call c request => w.clients[c]?.map fun cl => w.call mp c cl request
  | .receive c frame =>
    w.clients[c]?.bind fun cl =>
      if cl.readyState = .closed then none else some (w.receive decodeTryCpResponse c cl frame)
  | .close c => w.clients[c]?.map fun cl => { w with clients := w.clients.set c cl.close }
  | .socketClosed c =>
    w.clients[c]?.bind fun cl =>
      if cl.readyState = .closed then none
      else some { w with clients := w.clients.set c cl.socketClosed }

/-- Run the actions of a list in order; `none` as soon as one cannot happen. -/
def run (mp : MsgPack) (decodeTryCpResponse : Bytes → Except ErrorValue LegacyResponse) :
    LegacyWorld → List Action → Option LegacyWorld
  | w, [] => some w
  | w, a :: as => (step mp decodeTryCpResponse w a).bind (run mp decodeTryCpResponse · as)

/-- The states of the process over every interleaving of its actions. -/
inductive Reachable (mp : MsgPack) (decodeTryCpResponse : Bytes → Except ErrorValue LegacyResponse) :
    LegacyWorld → Prop where
  | init : Reachable mp decodeTryCpResponse init
  | step {w w' : LegacyWorld} (a : Action) :
      Reachable mp decodeTryCpResponse w → step mp decodeTryCpResponse w a = some w' →
        Reachable mp decodeTryCpResponse w'

/-- A run from a reachable world ends in a reachable world. -/
theorem Reachable.run {mp : MsgPack} {decode : Bytes → Except ErrorValue LegacyResponse}
    {w w' : LegacyWorld} {as : List Action} (hw : Reachable mp decode w)
    (h : run mp decode w as = some w') : Reachable mp decode w' := by
  induction as generalizing w with
  | nil => exact Option.some.inj h ▸ hw
  | cons a as ih =>
    obtain ⟨w₁, h₁, h₂⟩ := Option.bind_eq_some.mp h
    exact ih (.step a hw h₁) h₂

end LegacyWorld

/-! ## What each operation does -/

namespace LegacyClient

variable (cl : LegacyClient)

@[simp] theorem send_requestPromises (id : Nat) (frame : Bytes) :
    (cl.send id frame).requestPromises = cl.requestPromises := by unfold send; split <;> rfl

@[simp] theorem close_requestPromises : cl.close.requestPromises = cl.requestPromises := by
  unfold close; split <;> rfl

/-- The listener throws, or it read the entry of a response's id, deleted that entry alone,
and settled the entry's promise as `legacySettlement` says. -/
theorem onMessage_cases (decode : Bytes → Except ErrorValue LegacyResponse) (frame : Bytes) :
    (∃ e, cl.onMessage decode frame = .error e) ∨
    ∃ id response p s, decode frame = .ok ⟨some id, response⟩ ∧
      cl.requestPromises.get id = some p ∧ legacySettlement response = .ok s ∧
      cl.onMessage decode frame =
        .ok ({ cl with requestPromises := cl.requestPromises.delete id }, s.map (p, ·)) := by
  rcases hd : decode frame with e | ⟨_ | id, response⟩
  · exact .inl ⟨e, by simp [onMessage, hd]⟩
  · exact .inl ⟨typeError, by simp [onMessage, hd]⟩
  rcases hp : cl.requestPromises.get id with _ | p
  · exact .inl ⟨typeError, by simp [onMessage, hd, hp]⟩
  rcases hs : legacySettlement response with e | s
  · exact .inl ⟨e, by simp [onMessage, hd, hp, hs]⟩
  · exact .inr ⟨id, response, p, s, rfl, hp, hs, by simp [onMessage, hd, hp, hs]⟩

end LegacyClient

namespace LegacyWorld

variable (mp : MsgPack) (decode : Bytes → Except ErrorValue LegacyResponse) (w : LegacyWorld)
  (c : Nat) (cl : LegacyClient)

/-- `call` stores a new pending promise under `requestId` on client `c`, and moves
`requestId` on exactly when it returns the promise. -/
theorem call_cases (request : Value) :
    ∃ returned cl', w.call mp c cl request =
      { w with requestId := if returned then w.requestId + 1 else w.requestId,
               clients := w.clients.set c cl',
               promises := w.promises ++ [⟨c, w.requestId, returned, .pending⟩] } ∧
      cl'.requestPromises = cl.requestPromises.set w.requestId w.promises.length := by
  unfold call LegacyClient.call
  split <;> rename_i h <;> split at h <;> cases h
  · exact ⟨false, _, rfl, rfl⟩
  · exact ⟨true, _, rfl, by simp⟩

/-- A frame either escapes the listener and changes nothing else, or reads the entry of a
response's id, deletes that entry alone, and settles the entry's promise. -/
theorem receive_cases (frame : Bytes) :
    (∃ e, w.receive decode c cl frame = { w with escaped := w.escaped ++ [e] }) ∨
    ∃ id response p s, decode frame = .ok ⟨some id, response⟩ ∧
      cl.requestPromises.get id = some p ∧ legacySettlement response = .ok s ∧
      w.receive decode c cl frame =
        { w with clients := w.clients.set c { cl with requestPromises := cl.requestPromises.delete id },
                 promises := match s with
                   | some st => w.promises.modify (·.settle st) p
                   | none => w.promises } := by
  rcases cl.onMessage_cases decode frame with ⟨e, h⟩ | ⟨id, response, p, s, hd, hp, hs, h⟩
  · exact .inl ⟨e, by simp [receive, h]⟩
  · refine .inr ⟨id, response, p, s, hd, hp, hs, ?_⟩
    cases s <;> simp [receive, h]

variable {mp decode w}

/-- What a step can be: its action, the client it runs on, and the world after it. -/
theorem step_cases {w' : LegacyWorld} {a : Action} (hs : step mp decode w a = some w') :
    (a = .create ∧ w' = { w with clients := w.clients ++ [LegacyClient.init] }) ∨
    (∃ c cl request, a = .call c request ∧ w.clients[c]? = some cl ∧
      w' = w.call mp c cl request) ∨
    (∃ c cl frame, a = .receive c frame ∧ w.clients[c]? = some cl ∧ cl.readyState ≠ .closed ∧
      w' = w.receive decode c cl frame) ∨
    (∃ c cl, a = .close c ∧ w.clients[c]? = some cl ∧
      w' = { w with clients := w.clients.set c cl.close }) ∨
    (∃ c cl, a = .socketClosed c ∧ w.clients[c]? = some cl ∧ cl.readyState ≠ .closed ∧
      w' = { w with clients := w.clients.set c cl.socketClosed }) := by
  cases a with
  | create => exact .inl ⟨rfl, (Option.some.inj hs).symm⟩
  | call c request =>
    obtain ⟨cl, hc, rfl⟩ := Option.map_eq_some'.mp hs
    exact .inr (.inl ⟨c, cl, request, rfl, hc, rfl⟩)
  | receive c frame =>
    obtain ⟨cl, hc, h⟩ := Option.bind_eq_some.mp hs
    split_ifs at h with hcl
    exact .inr (.inr (.inl ⟨c, cl, frame, rfl, hc, hcl, (Option.some.inj h).symm⟩))
  | close c =>
    obtain ⟨cl, hc, rfl⟩ := Option.map_eq_some'.mp hs
    exact .inr (.inr (.inr (.inl ⟨c, cl, rfl, hc, rfl⟩)))
  | socketClosed c =>
    obtain ⟨cl, hc, h⟩ := Option.bind_eq_some.mp hs
    split_ifs at h with hcl
    exact .inr (.inr (.inr (.inr ⟨c, cl, rfl, hc, hcl, (Option.some.inj h).symm⟩)))

end LegacyWorld

end Tryorama.Model
