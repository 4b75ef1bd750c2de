import Tryorama.Model.Conductor

/-!
# Which app-interface port a conductor addresses

`attachAppInterface` returns the port the conductor reports, but stores the port of its
request. Everything after it addresses the stored port: with a request for port `q` and a
reported port `p`, `connectAppInterface` connects `q`, and when `q` is `0` (ask the
conductor to pick) or absent the assertion in `connectAppInterface` throws and `shutDown`
sends no `disconnect_app_interface` at all (`later_calls_use_requested_port`).

There is one port. Each `attachAppInterface` overwrites it, and `shutDown` disconnects that
one port, when it is truthy, whether or not it was ever connected, and no other; it sends
`shutdown` once the server has accepted the disconnect, throws without sending it when the
server refuses, and removes no signal handler (`shutDown_disconnects_last_attached`).
Everything holds whatever the TryCP server answers.
-/

set_option autoImplicit false

namespace Tryorama.Analysis.AppInterface

open Tryorama.Model Tryorama.Model.ConductorCalls Tryorama.Model.Conductor

/-- The port the conductor stores after a sequence of calls: the one the last
`attachAppInterface` asked for, or `start` when there is none. -/
def lastAttached (start : Option Nat) (ops : List Op) : Option Nat :=
  ops.foldl (fun port op => match op with
    | .attach request freePort => request.getD (some freePort)
    | _ => port) start

/-! ## Shutting down -/

/-- The requests `shutDown` sends from a conductor whose port is `port`, when the server
accepts them. -/
def shutDownRequests (id : String) (port : Option Nat) : List TryCpRequest :=
  (match port with
    | some (n + 1) => [.disconnectAppInterface (n + 1)]
    | _ => []) ++ [.shutdown id none]

/-- Send `requests` in order, each asserted to be answered with `TRYCP_SUCCESS_RESPONSE`,
until the server refuses one. -/
def State.callAll (answers : Answers) (s : State) : List TryCpRequest → State × Except ErrorValue Value
  | [] => (s, .ok .null)
  | r :: rs => andThen (s.call answers r assertSuccess) fun s _ => State.callAll answers s rs

/-- INTERNAL: a call whose answer is asserted to be `TRYCP_SUCCESS_RESPONSE` returns `null`
when it returns. -/
theorem State.call_assertSuccess_andThen (answers : Answers) (s : State) (r : TryCpRequest) :
    andThen (s.call answers r assertSuccess) (fun s _ => (s, .ok .null)) = s.call answers r assertSuccess := by
  rcases h : answers s.sent.length r with e | (_ | _ | _) <;> simp [State.call, h, andThen, assertSuccess]

/-- `shutDown` sends `disconnect_app_interface` for the stored port when it is truthy, then,
once the server has accepted it, `shutdown`. -/
theorem State.shutDown_eq (answers : Answers) (s : State) :
    s.shutDown answers = State.callAll answers s (shutDownRequests s.id s.appInterfacePort) := by
  rcases hp : s.appInterfacePort with _ | _ | n <;>
    simp only [State.shutDown, truthy, hp, shutDownRequests, State.callAll, State.disconnectAppInterface,
      State.withPort, State.call_assertSuccess_andThen, if_false, if_true, List.nil_append,
      List.singleton_append, Bool.false_eq_true]
  · rfl
  · rfl
  · rcases h : answers s.sent.length (.disconnectAppInterface (n + 1)) with e | (_ | _ | _) <;>
      simp [andThen, State.call, h, assertSuccess, State.call_assertSuccess_andThen]

/-- INTERNAL: sending requests changes nothing but the requests sent: the first `k` of them,
all of them when none was refused. -/
theorem State.callAll_state (answers : Answers) (s : State) (rs : List TryCpRequest) :
    ∃ k, (State.callAll answers s rs).1 = { s with sent := s.sent ++ rs.take k } ∧
      ((State.callAll answers s rs).2.isOk → k = rs.length) := by
  induction rs generalizing s with
  | nil => exact ⟨0, by simp [State.callAll], fun _ => rfl⟩
  | cons r rs ih =>
    rcases h : answers s.sent.length r >>= assertSuccess with e | v
    · refine ⟨1, ?_, fun hok => ?_⟩
      · simp [State.callAll, andThen, State.call, h]
      · simp [State.callAll, andThen, State.call, h, Except.isOk, Except.toBool] at hok
    · obtain ⟨k, hk, hok⟩ := ih { s with sent := s.sent ++ [r] }
      refine ⟨k + 1, ?_, fun h' => ?_⟩
      · simp only [State.callAll, andThen, State.call, h]
        rw [hk]
        simp
      · simp only [State.callAll, andThen, State.call, h] at h'
        simp [hok h']

/-! ## The stored port -/

/-- A step that keeps the conductor's id and port, whatever it returns or throws. -/
def KeepsPort (s : State) (r : State × Except ErrorValue Value) : Prop :=
  r.1.id = s.id ∧ r.1.appInterfacePort = s.appInterfacePort

section Frame

variable {answers : Answers} {s : State}

theorem keepsPort_call (request : TryCpRequest) (check : TryCpSuccessResponse → Except ErrorValue Value) :
    KeepsPort s (s.call answers request check) :=
  ⟨rfl, rfl⟩

theorem keepsPort_withPort {message : String} {body : Nat → State × Except ErrorValue Value}
    (h : ∀ n, KeepsPort s (body n)) : KeepsPort s (s.withPort message body) := by
  unfold State.withPort
  split
  · exact h _
  · exact ⟨rfl, rfl⟩

theorem keepsPort_andThen {r : State × Except ErrorValue Value}
    {next : State → Value → State × Except ErrorValue Value} (hr : KeepsPort s r)
    (hnext : ∀ s' v, KeepsPort s' (next s' v)) : KeepsPort s (andThen r next) := by
  rcases r with ⟨s₁, e | v⟩
  · exact hr
  · exact ⟨(hnext s₁ v).1.trans hr.1, (hnext s₁ v).2.trans hr.2⟩

/-- INTERNAL: every call but `attachAppInterface` keeps the conductor's id and port. -/
theorem State.apply_keepsPort {op : Op} (hop : ∀ request freePort, op ≠ .attach request freePort) :
    KeepsPort s (s.apply answers op) := by
  cases op with
  | attach request freePort => exact absurd rfl (hop request freePort)
  | connect => exact keepsPort_withPort fun _ => keepsPort_andThen (keepsPort_call _ _) fun _ _ => ⟨rfl, rfl⟩
  | disconnect | callApp => exact keepsPort_withPort fun _ => keepsPort_call _ _
  | «on» | off => exact keepsPort_withPort fun _ => ⟨rfl, rfl⟩

/-- INTERNAL: an `attachAppInterface` that returned keeps the conductor's id and stores the
port of its request. -/
theorem State.attachAppInterface_port {request : Option (Option Nat)} {freePort : Nat} {s' : State}
    {v : Value} (h : s.attachAppInterface answers request freePort = (s', .ok v)) :
    s'.id = s.id ∧ s'.appInterfacePort = request.getD (some freePort) := by
  unfold State.attachAppInterface andThen at h
  split at h
  · next hcall =>
    obtain ⟨rfl, -⟩ := Prod.mk.inj hcall
    obtain ⟨rfl, -⟩ := Prod.mk.inj h
    exact ⟨rfl, rfl⟩
  · cases h

end Frame

/-- INTERNAL: a call that returned keeps the conductor's id, and only `attachAppInterface`
changes its port. -/
theorem State.apply_port {answers : Answers} {s s' : State} {op : Op} {v : Value}
    (h : s.apply answers op = (s', .ok v)) :
    s'.id = s.id ∧ s'.appInterfacePort = lastAttached s.appInterfacePort [op] := by
  by_cases hop : ∃ request freePort, op = .attach request freePort
  · obtain ⟨request, freePort, rfl⟩ := hop
    exact State.attachAppInterface_port h
  · push_neg at hop
    have hk : KeepsPort s (s.apply answers op) := State.apply_keepsPort hop
    rw [h] at hk
    refine ⟨hk.1, hk.2.trans ?_⟩
    cases op <;> first | rfl | exact absurd rfl (hop _ _)

/-- After any sequence of calls that returned, the conductor stores the port the last
`attachAppInterface` asked for. -/
theorem State.applyAll_port {answers : Answers} {s s' : State} {ops : List Op} {v : Value}
    (h : s.applyAll answers ops = (s', .ok v)) :
    s'.id = s.id ∧ s'.appInterfacePort = lastAttached s.appInterfacePort ops := by
  induction ops generalizing s with
  | nil => cases h; exact ⟨rfl, rfl⟩
  | cons op ops ih =>
    simp only [State.applyAll, andThen] at h
    split at h
    · next s₁ v₁ h₁ =>
      obtain ⟨hid, hport⟩ := State.apply_port h₁
      obtain ⟨hid', hport'⟩ := ih h
      exact ⟨hid'.trans hid, hport'.trans (by rw [hport]; rfl)⟩
    · cases h

/-! ## Every call addresses the requested port -/

/-- What a call that asserts the port does on a conductor `s` whose port is `port`: `body n`
when `port` is a truthy `n`; else it throws `message` and changes nothing. -/
def atPort (s : State) (port : Option Nat) (message : String)
    (body : Nat → State × Except ErrorValue Value) : State × Except ErrorValue Value :=
  match port with
  | some (n + 1) => body (n + 1)
  | _ => (s, .error (.error message))

/-- INTERNAL: after an `attachAppInterface` the conductor answered with
`app_interface_attached`, the conductor has sent the request and stores its port. -/
theorem State.attachAppInterface_attached (answers : Answers) (s : State) (request : Option (Option Nat))
    (freePort : Nat) {response : Value}
    (hanswer : answers s.sent.length (attachRequest s.id request freePort) = .ok (.api response))
    (htype : response.typeIs "app_interface_attached" = true) :
    s.attachAppInterface answers request freePort =
      ({ s with appInterfacePort := request.getD (some freePort),
                sent := s.sent ++ [attachRequest s.id request freePort] }, attachedPort response) := by
  simp [State.attachAppInterface, State.call, andThen, hanswer, callAdminApi, assertType, htype]

/-- Whatever port the conductor reports in its `app_interface_attached` response, and
whatever the server answers afterwards, every call after `attachAppInterface` with a request
for `port` (`{}` is `none`) addresses `port`: `connectAppInterface`, `on`, `off` and
`callAppApi` act on it when it is truthy and throw otherwise, and `shutDown` disconnects
it, or nothing when it is falsy. `attachAppInterface` itself returns the reported port. -/
theorem later_calls_use_requested_port (answers : Answers) (s : State) (port : Option Nat)
    (freePort : Nat) {response : Value}
    (hanswer : answers s.sent.length (attachRequest s.id (some port) freePort) = .ok (.api response))
    (htype : response.typeIs "app_interface_attached" = true)
    (h : Option Handler) (handler : Handler) (message : AppMessage) :
    let s' := (s.attachAppInterface answers (some port) freePort).1
    (s.attachAppInterface answers (some port) freePort).2 = attachedPort response ∧
    s'.appInterfacePort = port ∧
    s'.connectAppInterface answers h = atPort s' port "no app interface attached to conductor" (fun n =>
      andThen (s'.call answers (.connectAppInterface n) assertSuccess) fun s r =>
        ({ s with signalHandlers := s.signalHandlers.set n h }, .ok r)) ∧
    s'.on handler = atPort s' port "no app interface attached to conductor" (fun n =>
      ({ s' with signalHandlers := s'.signalHandlers.set n (some handler) }, .ok .null)) ∧
    s'.off = atPort s' port "no app interface attached to conductor" (fun n =>
      ({ s' with signalHandlers := s'.signalHandlers.set n none }, .ok .null)) ∧
    s'.callAppApi answers message = atPort s' port "No App interface attached to conductor" (fun n =>
      s'.call answers (.callAppInterface n message) callAdminApi) ∧
    s'.shutDown answers = State.callAll answers s' (shutDownRequests s.id port) := by
  rw [State.attachAppInterface_attached answers s (some port) freePort hanswer htype]
  exact ⟨rfl, rfl, rfl, rfl, rfl, rfl, State.shutDown_eq _ _⟩

/-- A new conductor with id `c`. -/
def newConductor : State := ⟨"c", none, [], []⟩

/-- The `app_interface_attached` response for port `port`. -/
def attachedResponse (port : Value) : Value :=
  .obj (.ofList [("type", .str "app_interface_attached"), ("data", .obj (.ofList [("port", port)]))])

/-- A TryCP server that accepts every request: it attaches the port an `attach_app_interface`
request asks for, and answers `TRYCP_SUCCESS_RESPONSE` to anything else. -/
def acceptAll : Answers := fun _ request =>
  match request with
  | .callAdminInterface _ ⟨"attach_app_interface", some data⟩ =>
    .ok (.api (attachedResponse ((data.get? "port").getD .null)))
  | _ => .ok .null

/-- A conductor that attaches port `30001` whatever port it is asked for. -/
def attachesPort30001 : Answers := fun _ request =>
  match request with
  | .callAdminInterface _ ⟨"attach_app_interface", _⟩ => .ok (.api (attachedResponse (.num 30001)))
  | _ => .ok .null

/-- A request for port `0`, which the conductor answers with port `30001`: the call returns
`{ port: 30001 }`, yet `connectAppInterface` throws and `shutDown` sends only `shutdown`. -/
theorem port_zero_attach_not_connected :
    attachesPort30001 newConductor.sent.length (attachRequest newConductor.id (some (some 0)) 30000) =
        .ok (.api (attachedResponse (.num 30001))) ∧
      (attachedResponse (.num 30001)).typeIs "app_interface_attached" = true ∧
      (newConductor.attachAppInterface attachesPort30001 (some (some 0)) 30000).2 =
        .ok (.obj (.ofList [("port", .num 30001)])) ∧
      ((newConductor.attachAppInterface attachesPort30001 (some (some 0)) 30000).1.connectAppInterface
        attachesPort30001 none).2 = .error (.error "no app interface attached to conductor") ∧
      ((newConductor.attachAppInterface attachesPort30001 (some (some 0)) 30000).1.shutDown
        attachesPort30001).1.sent =
        [attachRequest "c" (some (some 0)) 30000, .shutdown "c" none] :=
  have hanswer : attachesPort30001 newConductor.sent.length (attachRequest newConductor.id (some (some 0)) 30000) =
      .ok (.api (attachedResponse (.num 30001))) := rfl
  have htype : (attachedResponse (.num 30001)).typeIs "app_interface_attached" = true := by decide
  have h := later_calls_use_requested_port attachesPort30001 newConductor (some 0) 30000 hanswer htype none 7
    (.appInfo "app")
  ⟨hanswer, htype, h.1.trans rfl, by rw [h.2.2.1]; rfl, by rw [h.2.2.2.2.2.2]; rfl⟩

/-! ## Shutting down after any calls -/

/-- After any sequence of `attachAppInterface`, `connectAppInterface`, `on`, `off` and other
app-interface calls that returned, and whatever the server answers, `shutDown` sends
`disconnect_app_interface` for exactly the port the last `attachAppInterface` asked for,
when it is truthy, and no other, then `shutdown` once the server has accepted the
disconnect; when the server refuses the disconnect, it throws without sending `shutdown`.
It changes nothing but the requests sent: every signal handler of the client stays. -/
theorem shutDown_disconnects_last_attached (answers : Answers) {s s' : State} {ops : List Op}
    {v : Value} (h : s.applyAll answers ops = (s', .ok v)) :
    s'.shutDown answers =
      State.callAll answers s' (shutDownRequests s.id (lastAttached s.appInterfacePort ops)) ∧
    (∃ k, (s'.shutDown answers).1 = { s' with
        sent := s'.sent ++ (shutDownRequests s.id (lastAttached s.appInterfacePort ops)).take k } ∧
      ((s'.shutDown answers).2.isOk → k = (shutDownRequests s.id (lastAttached s.appInterfacePort ops)).length)) ∧
    ∀ n e, lastAttached s.appInterfacePort ops = some (n + 1) →
      (answers s'.sent.length (.disconnectAppInterface (n + 1)) >>= assertSuccess) = .error e →
      s'.shutDown answers = ({ s' with sent := s'.sent ++ [.disconnectAppInterface (n + 1)] }, .error e) := by
  obtain ⟨hid, hport⟩ := State.applyAll_port h
  have hshut : s'.shutDown answers =
      State.callAll answers s' (shutDownRequests s.id (lastAttached s.appInterfacePort ops)) := by
    rw [State.shutDown_eq, hid, hport]
  refine ⟨hshut, hshut ▸ State.callAll_state answers s' _, fun n e hn he => ?_⟩
  rw [hshut, hn]
  simp [shutDownRequests, State.callAll, andThen, State.call, he]

/-- Attach port `5`, connect it with handler `7`, attach port `6`. -/
def twoAttaches : List Op :=
  [.attach (some (some 5)) 0, .connect (some 7), .attach (some (some 6)) 0]

/-- The conductor after `twoAttaches`. -/
def twoAttached : State := (newConductor.applyAll acceptAll twoAttaches).1

/-- A server that accepts everything but a `disconnect_app_interface`, which it refuses. -/
def refusesDisconnect : Answers := fun i request =>
  match request with
  | .disconnectAppInterface _ => .error (.str "no such interface")
  | _ => acceptAll i request

theorem two_attaches_disconnect_six :
    newConductor.applyAll acceptAll twoAttaches = (twoAttached, .ok .null) ∧
    newConductor.applyAll refusesDisconnect twoAttaches = (twoAttached, .ok .null) ∧
    (twoAttached.shutDown acceptAll =
        State.callAll acceptAll twoAttached
          (shutDownRequests newConductor.id (lastAttached newConductor.appInterfacePort twoAttaches)) ∧
      (twoAttached.shutDown refusesDisconnect).1.sent = twoAttached.sent ++ [.disconnectAppInterface 6] ∧
      (twoAttached.shutDown refusesDisconnect).2 = .error (.str "no such interface")) :=
  have h : newConductor.applyAll acceptAll twoAttaches = (twoAttached, .ok .null) := rfl
  have h' : newConductor.applyAll refusesDisconnect twoAttaches = (twoAttached, .ok .null) := rfl
  have hrefused := (shutDown_disconnects_last_attached refusesDisconnect h').2.2 5 (.str "no such interface")
    rfl rfl
  ⟨h, h', (shutDown_disconnects_last_attached acceptAll h).1, by rw [hrefused], by rw [hrefused]⟩

/-- Port `5` connected with handler `7`, then port `6` attached: `shutDown` disconnects
port `6`, which was never connected, never port `5`, and handler `7` stays set for port `5`. -/
theorem shutDown_leaves_first_port_connected :
    ∃ s, (match newConductor.applyAll acceptAll twoAttaches with
        | (s, .ok _) => s.shutDown acceptAll
        | r => r) = (s, .ok .null) ∧
      .connectAppInterface 5 ∈ s.sent ∧ .disconnectAppInterface 5 ∉ s.sent ∧
      .disconnectAppInterface 6 ∈ s.sent ∧ s.signalHandlers.get 5 = some (some 7) :=
  ⟨_, rfl, by decide, by decide, by decide, rfl⟩

end Tryorama.Analysis.AppInterface
