import Tryorama.Analysis.PendingMap
import Tryorama.Analysis.RequestReuse
import Tryorama.Model.ConductorCalls

/-!
# A conductor's method returns from the server's answer to its own call

A `TryCpConductor` shares its `TryCpClient` with the other conductors made on it, and the
module-level request counter with every client of the process; the server answers in any
order. Still, what a method returns comes from the answer to its own request. From any
reachable world, along any run that begins with the method's call: when the method has
resolved, a frame of the run on its client decoded to a success response carrying the
call's request id, and the method accepted what that response's value decodes to
(`call_answered`). So a typed method of the Admin API returns only the data of an Admin API
response of its own tag, decoded from the answer to its own request
(`admin_method_returns_answer_of_its_tag`), and `configure` and `startUp` return only when
the server answered their own request with `TRYCP_SUCCESS_RESPONSE`
(`success_call_answered_with_null`).

The run lemma under these is `promise_run`, by induction from `Correlation.promise_step`:
along a run, a promise stays as it is, or it was pending and a frame of the run on its
client, carrying its id, settled it for good.
-/

set_option autoImplicit false

namespace Tryorama.Analysis.ConductorAnswers

open Tryorama.Model Tryorama.Model.ConductorCalls Tryorama.Analysis.Correlation
  Tryorama.Analysis.PendingMap Tryorama.Analysis.RequestReuse

variable {mp : MsgPack} {util : Util}

/-! ## Promises along a run -/

/-- INTERNAL: along a run from a world whose entries hold their own promises, a promise stays
as it is, or it was pending and a frame of the run on its client, carrying its id, settled
it; a settled promise never changes again. -/
theorem promise_run {w w' : World} {as : List Action} (hw : EntriesOwned w)
    (hrun : run mp util w as = some w') {p : Nat} {pr : PromiseRec} (hp : w.promises[p]? = some pr) :
    w'.promises[p]? = some pr ∨
      (pr.state = .pending ∧ ∃ frame response st, Action.receive pr.client frame ∈ as ∧
        util.deserializeTryCpResponse frame = .ok (.response pr.id response) ∧
        settlement util response = some st ∧ w'.promises[p]? = some { pr with state := st }) := by
  induction as generalizing w pr with
  | nil => exact .inl (Option.some.inj hrun ▸ hp)
  | cons a as ih =>
    obtain ⟨w₁, h₁, h₂⟩ := Option.bind_eq_some.mp hrun
    rcases promise_step hw h₁ hp with h | ⟨hpend, frame, response, st, rfl, hd, hst, h⟩
    · rcases ih (hw.step h₁) h₂ h with h' | ⟨hpend, frame, response, st, hmem, hd, hst, h'⟩
      · exact .inl h'
      · exact .inr ⟨hpend, frame, response, st, List.mem_cons_of_mem _ hmem, hd, hst, h'⟩
    · rcases ih (hw.step h₁) h₂ h with h' | ⟨hsettled, -⟩
      · exact .inr ⟨hpend, frame, response, st, List.mem_cons_self _ _, hd, hst, h'⟩
      · exact absurd hsettled (settlement_ne_pending hst)

/-! ## What a call resolves with -/

/-- INTERNAL: `call` of a request whose log does not throw adds one pending promise of the
client, for the current request id. -/
theorem World.call_promises (mp : MsgPack) (c : Nat) (cl : Client) {w : World} {v : Value}
    (hlog : requestLogThrows v = false) :
    ∃ returned, (w.call mp c cl v).promises = w.promises ++ [⟨c, w.requestId, returned, .pending⟩] := by
  simp only [World.call, hlog, Bool.false_eq_true, ↓reduceIte]
  split <;> exact ⟨_, rfl⟩

/-- INTERNAL: a response whose settlement resolves a promise is a success, whose value
`processSuccessResponse` turns into what the promise resolves with. -/
theorem settlement_eq_resolved {response : TryCpResponse} {answer : TryCpSuccessResponse}
    (h : settlement util response = some (.resolved answer)) :
    ∃ v, response = .success v ∧ processSuccessResponse util v = .ok answer := by
  cases response with
  | success v =>
    simp only [settlement, Option.some.injEq] at h
    split at h <;> rename_i hv <;> cases h
    exact ⟨v, rfl, hv⟩
  | failure e => simp [settlement] at h
  | unknown | primitive => simp [settlement] at h

/-- INTERNAL: bytes go through `processSuccessResponse` only as the Admin API response they
decode to. -/
theorem processSuccessResponse_bytes {b : Bytes} {answer : TryCpSuccessResponse}
    (h : processSuccessResponse util (.bytes b) = .ok answer) :
    ∃ response, util.deserializeApiResponse b = .ok response ∧ answer = .api response := by
  simp only [processSuccessResponse] at h
  rcases hd : util.deserializeApiResponse b with e | r <;>
    simp only [hd, except_error_bind, except_ok_bind] at h
  · cases h
  · split_ifs at h <;> cases h
    exact ⟨r, rfl, rfl⟩

/-- INTERNAL: what `processSuccessResponse` makes an Admin API response of are bytes that
decode to it. -/
theorem processSuccessResponse_eq_api {v : SuccessSerialized} {response : Value}
    (h : processSuccessResponse util v = .ok (.api response)) :
    ∃ b, v = .bytes b ∧ util.deserializeApiResponse b = .ok response := by
  cases v with
  | null | str _ => simp [processSuccessResponse] at h
  | bytes b =>
    obtain ⟨r, hd, he⟩ := processSuccessResponse_bytes h
    cases he
    exact ⟨b, rfl, hd⟩

/-- INTERNAL: only the value `null` goes through `processSuccessResponse` as
`TRYCP_SUCCESS_RESPONSE`. -/
theorem processSuccessResponse_eq_null {v : SuccessSerialized}
    (h : processSuccessResponse util v = .ok .null) : v = .null := by
  cases v with
  | null => rfl
  | str _ => simp [processSuccessResponse] at h
  | bytes b =>
    obtain ⟨r, -, he⟩ := processSuccessResponse_bytes h
    cases he

/-- INTERNAL: once a conductor's method has made its call, when the method has resolved with
`d`, a frame of the run on the conductor's client decoded to a success response carrying the
call's request id, and the method accepted the answer that response's value decodes to,
with result `d`. -/
theorem call_answered (k : ConductorCall) {w₀ w : World} {c : Nat} {as : List Action}
    (hw : Reachable mp util w₀) (hrun : run mp util w₀ (.call c k.request.toValue :: as) = some w)
    {pr : PromiseRec} (hp : w.promises[w₀.promises.length]? = some pr) {d : Value}
    (hd : k.outcome pr.state = some (.ok d)) :
    ∃ frame v answer, Action.receive c frame ∈ as ∧
      util.deserializeTryCpResponse frame = .ok (.response w₀.requestId (.success v)) ∧
      processSuccessResponse util v = .ok answer ∧ k.handle answer = .ok d := by
  obtain ⟨w₁, h₁, h₂⟩ := Option.bind_eq_some.mp hrun
  obtain ⟨cl, -, rfl⟩ := Option.map_eq_some'.mp h₁
  obtain ⟨returned, hcall⟩ := World.call_promises mp c cl (requestLogThrows_toValue k.request)
  have hnew : (w₀.call mp c cl k.request.toValue).promises[w₀.promises.length]? =
      some ⟨c, w₀.requestId, returned, .pending⟩ := by
    rw [hcall]; simp
  rcases promise_run (EntriesOwned.reachable (.step _ hw h₁)) h₂ hnew with h |
      ⟨-, frame, response, st, hmem, hframe, hst, h⟩ <;>
    obtain rfl := Option.some.inj (hp.symm.trans h)
  · simp [ConductorCall.outcome] at hd
  cases st with
  | resolved answer =>
    obtain ⟨v, rfl, hv⟩ := settlement_eq_resolved hst
    exact ⟨frame, v, answer, hmem, hframe, hv, by simpa [ConductorCall.outcome] using hd⟩
  | pending | rejected _ => simp [ConductorCall.outcome] at hd

/-! ## The Admin API -/

/-- A typed method of the Admin API that has resolved with `d` was answered, on its
conductor's client and for its own request id, with bytes that decode to an Admin API
response of the method's own tag, and `d` is the method's result of that response: its
`data`, for most of them. -/
theorem admin_method_returns_answer_of_its_tag (type : String) (data : Option Value)
    (responseType : String) (result : Value → Except ErrorValue Value) (id : String)
    {w₀ w : World} {c : Nat} {as : List Action} (hw : Reachable mp util w₀)
    (hrun : run mp util w₀ (.call c (TryCpRequest.callAdminInterface id ⟨type, data⟩).toValue :: as) =
      some w)
    {pr : PromiseRec} (hp : w.promises[w₀.promises.length]? = some pr) {d : Value}
    (hd : ((typedMethod type data responseType result).call id).outcome pr.state = some (.ok d)) :
    ∃ frame b response, Action.receive c frame ∈ as ∧
      util.deserializeTryCpResponse frame = .ok (.response w₀.requestId (.success (.bytes b))) ∧
      util.deserializeApiResponse b = .ok response ∧
      response.typeIs responseType = true ∧ result response = .ok d := by
  obtain ⟨frame, v, answer, hmem, hframe, hv, hk⟩ :=
    call_answered ((typedMethod type data responseType result).call id) hw hrun hp hd
  obtain ⟨response, rfl, hm⟩ := (AdminMethod.call_handle_eq_ok _ id).mp hk
  obtain ⟨b, rfl, hb⟩ := processSuccessResponse_eq_api hv
  exact ⟨frame, b, response, hmem, hframe, hb, typedMethod_handle_eq_ok.mp hm⟩

/-- One client, before any call. -/
def oneClient : World := ⟨0, [Client.init], [], []⟩

/-- The Admin API response of the concrete run: a registered DNA's hash. -/
def dnaRegistered : Value := .obj (.ofList [("type", .str "dna_registered"), ("data", .str "hash")])

/-- A server whose every frame answers request `0` with bytes that decode to
`dnaRegistered`. -/
def answersDnaRegistered : Util :=
  { Util.fixed (.response 0 (.success (.bytes []))) with
    deserializeApiResponse := fun _ => .ok dnaRegistered }

/-- `registerDna` of conductor `conductor` on `oneClient`, and the server's answer. -/
def registerDnaAnswered : World :=
  (run TaggedCodec.msgPack answersDnaRegistered oneClient
    [.call 0 (TryCpRequest.callAdminInterface "conductor" ⟨"register_dna", some (.str "dna")⟩).toValue,
     .receive 0 []]).getD World.init

theorem registerDna_returns_registered_hash :
    run TaggedCodec.msgPack answersDnaRegistered oneClient
        [.call 0 (TryCpRequest.callAdminInterface "conductor" ⟨"register_dna", some (.str "dna")⟩).toValue,
         .receive 0 []] = some registerDnaAnswered ∧
      registerDnaAnswered.promises[0]? = some ⟨0, 0, true, .resolved (.api dnaRegistered)⟩ ∧
      ((registerDna (.str "dna")).call "conductor").outcome (.resolved (.api dnaRegistered)) =
        some (.ok (.str "hash")) ∧
      ∃ frame b response, Action.receive 0 frame ∈ [Action.receive 0 []] ∧
        answersDnaRegistered.deserializeTryCpResponse frame = .ok (.response 0 (.success (.bytes b))) ∧
        answersDnaRegistered.deserializeApiResponse b = .ok response ∧
        response.typeIs "dna_registered" = true ∧ responseData response = .ok (.str "hash") :=
  have hs : run TaggedCodec.msgPack answersDnaRegistered oneClient
      [.call 0 (TryCpRequest.callAdminInterface "conductor" ⟨"register_dna", some (.str "dna")⟩).toValue,
       .receive 0 []] = some registerDnaAnswered := rfl
  ⟨hs, rfl, rfl, admin_method_returns_answer_of_its_tag "register_dna" (some (.str "dna"))
    "dna_registered" responseData "conductor" (.step .create .init rfl) hs rfl rfl⟩

/-! ## Calls to the TryCP server -/

/-- A call that asserts `TRYCP_SUCCESS_RESPONSE`, as `configure` and `startUp` do, resolves
only once the server has answered its own request, on its client, with a success of value
`null`; it then returns `null`. -/
theorem success_call_answered_with_null (k : ConductorCall) (hk : k.handle = assertSuccess)
    {w₀ w : World} {c : Nat} {as : List Action} (hw : Reachable mp util w₀)
    (hrun : run mp util w₀ (.call c k.request.toValue :: as) = some w)
    {pr : PromiseRec} (hp : w.promises[w₀.promises.length]? = some pr) {d : Value}
    (hd : k.outcome pr.state = some (.ok d)) :
    d = .null ∧ ∃ frame, Action.receive c frame ∈ as ∧
      util.deserializeTryCpResponse frame = .ok (.response w₀.requestId (.success .null)) := by
  obtain ⟨frame, v, answer, hmem, hframe, hv, hh⟩ := call_answered k hw hrun hp hd
  rw [hk] at hh
  cases answer with
  | null =>
    obtain rfl := processSuccessResponse_eq_null hv
    simp only [assertSuccess, except_pure, Except.ok.injEq] at hh
    exact ⟨hh.symm, frame, hmem, hframe⟩
  | str _ | api _ => simp [assertSuccess] at hh

/-- `configure` of conductor `conductor` on `oneClient`, and the server's answer. -/
def configureAnswered : World :=
  (run TaggedCodec.msgPack answerZero oneClient
    [.call 0 (configure "conductor" none).request.toValue, .receive 0 []]).getD World.init

theorem configure_answered_with_null :
    run TaggedCodec.msgPack answerZero oneClient
        [.call 0 (configure "conductor" none).request.toValue, .receive 0 []] = some configureAnswered ∧
      configureAnswered.promises[0]? = some ⟨0, 0, true, .resolved .null⟩ ∧
      (configure "conductor" none).outcome (.resolved .null) = some (.ok .null) ∧
      (Value.null = .null ∧ ∃ frame, Action.receive 0 frame ∈ [Action.receive 0 []] ∧
        answerZero.deserializeTryCpResponse frame = .ok (.response 0 (.success .null))) :=
  have hs : run TaggedCodec.msgPack answerZero oneClient
      [.call 0 (configure "conductor" none).request.toValue, .receive 0 []] = some configureAnswered := rfl
  ⟨hs, rfl, rfl, success_call_answered_with_null (configure "conductor" none) rfl (.step .create .init rfl)
    hs rfl rfl⟩

end Tryorama.Analysis.ConductorAnswers
