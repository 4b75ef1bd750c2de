import Tryorama.Analysis.FrameRobustness

/-!
# The second client over whole runs

The second version of `TryCpClient` keeps the first one's correlation: from any reachable
world, a promise changes only when a response frame carrying its own id arrives on its own
client, and it then takes the outcome of that response (`legacy_settled_only_by_own_frame`);
such a frame always does settle it (`legacy_answer_settles_call`). The invariant is
`LegacyOwned`: every entry a client keeps under an id holds the pending promise that `call`
created on that client for that id.

The two versions part in what a response makes of the promise
(`both_clients_settle_only_by_own_response`). The first resolves with what
`processSuccessResponse` makes of outcome `0`, and rejects when that decodes to an Admin or
App API `error` response; the second resolves with outcome `0`'s value as it came, an API
error included (`legacy_resolves_api_error`).

It does not keep the first one's liveness. Its listener only logs a response whose outcome
is neither `0` nor `1`, and then runs its `delete`; the call's promise is left pending with
no entry, and no later step of any run settles it (`unknown_response_orphans_call`). The
first version throws before its `delete` and keeps the entry
(`PendingMap.unknown_outcome_keeps_entry`), so a later answer still settles the call.
-/

set_option autoImplicit false

namespace Tryorama.Analysis.LegacyProtocol

open Tryorama.Model
open Tryorama.Analysis.FrameRobustness (answersZero)

variable {mp : MsgPack} {decode : Bytes → Except ErrorValue LegacyResponse}

/-! ## The invariant -/

/-- Every entry of a client's `requestPromises` holds the pending promise that `call`
created on that client for that request id. -/
def LegacyOwned (w : LegacyWorld) : Prop :=
  ∀ (c : Nat) (cl : LegacyClient), w.clients[c]? = some cl → ∀ k p,
    cl.requestPromises.get k = some p → ∃ pr : PromiseRec,
      w.promises[p]? = some pr ∧ pr.client = c ∧ pr.id = k ∧ pr.state = .pending

/-- INTERNAL: a world whose entries are old ones, each over a promise kept as it was, keeps
the invariant. -/
theorem LegacyOwned.of_sub {w w' : LegacyWorld} (hw : LegacyOwned w)
    (hcl : ∀ (c : Nat) (cl' : LegacyClient), w'.clients[c]? = some cl' →
      ∀ k p, cl'.requestPromises.get k = some p → ∃ cl : LegacyClient, w.clients[c]? = some cl ∧
        cl.requestPromises.get k = some p ∧ w'.promises[p]? = w.promises[p]?) :
    LegacyOwned w' := by
  intro c cl' hc k p hk
  obtain ⟨cl, hcl, hk', hp⟩ := hcl c cl' hc k p hk
  rw [hp]
  exact hw c cl hcl k p hk'

/-- INTERNAL: replacing client `c` by one with the same entries keeps the invariant. -/
theorem LegacyOwned.of_entries {w : LegacyWorld} (hw : LegacyOwned w) {c : Nat}
    {cl cl' : LegacyClient} (hc : w.clients[c]? = some cl)
    (h : cl'.requestPromises = cl.requestPromises) :
    LegacyOwned { w with clients := w.clients.set c cl' } := by
  refine hw.of_sub (fun c' cl'' hc' k p hk => ?_)
  simp only [getElem?_set_of_getElem? hc] at hc'
  split_ifs at hc' with hcc
  · cases hc'; subst hcc; exact ⟨cl, hc, h ▸ hk, rfl⟩
  · exact ⟨cl'', hc', hk, rfl⟩

/-- INTERNAL: `call` keeps the invariant: the entry it writes holds the promise it
creates. -/
theorem LegacyOwned.call {w : LegacyWorld} (hw : LegacyOwned w) {c : Nat} {cl : LegacyClient}
    (hc : w.clients[c]? = some cl) (request : Value) : LegacyOwned (w.call mp c cl request) := by
  obtain ⟨ret, cl', h, hrp⟩ := LegacyWorld.call_cases mp w c cl request
  rw [h]
  intro c' cl'' hc' k p hk
  have old : ∀ cl₀ : LegacyClient, w.clients[c']? = some cl₀ → cl₀.requestPromises.get k = some p →
      ∃ pr : PromiseRec, (w.promises ++ [⟨c, w.requestId, ret, .pending⟩])[p]? = some pr ∧
        pr.client = c' ∧ pr.id = k ∧ pr.state = .pending := fun cl₀ hc₀ hk₀ => by
    obtain ⟨pr, hpr, h1⟩ := hw c' cl₀ hc₀ k p hk₀
    exact ⟨pr, getElem?_append_of_getElem? hpr, h1⟩
  simp only [getElem?_set_of_getElem? hc] at hc'
  split_ifs at hc' with hcc
  · cases hc'; subst hcc
    rw [hrp, Record.get_set] at hk
    split_ifs at hk with hkid
    · cases hk; exact ⟨_, List.getElem?_concat_length _ _, rfl, hkid.symm, rfl⟩
    · exact old cl hc hk
  · exact old cl'' hc' hk

/-- INTERNAL: after client `c` drops its entry for `id`, every entry a client keeps is an old
one, and not that of `id` on client `c`. -/
theorem entries_of_delete {clients : List LegacyClient} {c id : Nat} {cl : LegacyClient}
    (hc : clients[c]? = some cl) {c' k p : Nat} {cl' : LegacyClient}
    (hc' : (clients.set c { cl with requestPromises := cl.requestPromises.delete id })[c']? = some cl')
    (hk : cl'.requestPromises.get k = some p) :
    ∃ cl₀ : LegacyClient, clients[c']? = some cl₀ ∧ cl₀.requestPromises.get k = some p ∧
      (c' = c → k ≠ id) := by
  simp only [getElem?_set_of_getElem? hc] at hc'
  split_ifs at hc' with hcc
  · cases hc'; subst hcc
    rw [Record.get_delete] at hk
    split_ifs at hk with hkid
    exact ⟨cl, hc, hk, fun _ => hkid⟩
  · exact ⟨cl', hc', hk, fun h => absurd h.symm hcc⟩

/-- INTERNAL: one frame keeps the invariant: the listener settles only the promise of the
entry it reads, and deletes that entry. -/
theorem LegacyOwned.receive {w : LegacyWorld} (hw : LegacyOwned w) {c : Nat} {cl : LegacyClient}
    (hc : w.clients[c]? = some cl) (frame : Bytes) :
    LegacyOwned (w.receive decode c cl frame) := by
  rcases LegacyWorld.receive_cases decode w c cl frame with ⟨e, h⟩ | ⟨id, response, q, s, -, hq, -, h⟩ <;>
    rw [h]
  · exact hw
  obtain ⟨prq, hprq, hqc, hqid, -⟩ := hw c cl hc id q hq
  refine hw.of_sub (fun c' cl' hc' k p hk => ?_)
  obtain ⟨cl₀, hc₀, hk₀, hne⟩ := entries_of_delete hc hc' hk
  have hqp : q ≠ p := by
    rintro rfl
    obtain ⟨pr', hpr', rfl, rfl, -⟩ := hw c' cl₀ hc₀ k q hk₀
    cases hprq.symm.trans hpr'
    exact hne hqc hqid
  refine ⟨cl₀, hc₀, hk₀, ?_⟩
  cases s <;> simp [List.getElem?_modify, hqp]

/-- Every step keeps `LegacyOwned`. -/
theorem LegacyOwned.step {w w' : LegacyWorld} {a : LegacyWorld.Action} (hw : LegacyOwned w)
    (hs : LegacyWorld.step mp decode w a = some w') : LegacyOwned w' := by
  rcases LegacyWorld.step_cases hs with ⟨-, rfl⟩ | ⟨c, cl, request, -, hc, rfl⟩ |
      ⟨c, cl, frame, -, hc, -, rfl⟩ | ⟨c, cl, -, hc, rfl⟩ | ⟨c, cl, -, hc, -, rfl⟩
  · refine hw.of_sub (fun c' cl' hc' k p hk => ?_)
    rcases getElem?_concat_eq_some hc' with hc' | ⟨-, rfl⟩
    · exact ⟨cl', hc', hk, rfl⟩
    · simp [LegacyClient.init] at hk
  · exact hw.call hc request
  · exact hw.receive hc frame
  · exact hw.of_entries hc (LegacyClient.close_requestPromises cl)
  · exact hw.of_entries hc rfl

/-- Every reachable world has `LegacyOwned`. -/
theorem LegacyOwned.reachable {w : LegacyWorld} (h : LegacyWorld.Reachable mp decode w) : LegacyOwned w := by
  induction h with
  | init => intro c cl hc; simp [LegacyWorld.init] at hc
  | step a _ hs ih => exact ih.step hs

/-! ## Settlement -/

/-- INTERNAL: a frame on client `c` leaves a promise as it is, or the promise is a pending
one of client `c`, the frame decodes to a response carrying the promise's id, and the
promise takes that response's settlement. -/
theorem receive_promise {w : LegacyWorld} (hw : LegacyOwned w) {c : Nat} {cl : LegacyClient}
    (hc : w.clients[c]? = some cl) (frame : Bytes) {p : Nat} {pr : PromiseRec}
    (hp : w.promises[p]? = some pr) :
    (w.receive decode c cl frame).promises[p]? = some pr ∨
      (pr.client = c ∧ pr.state = .pending ∧ ∃ response st,
        decode frame = .ok ⟨some pr.id, response⟩ ∧ legacySettlement response = .ok (some st) ∧
        (w.receive decode c cl frame).promises[p]? = some { pr with state := st }) := by
  rcases LegacyWorld.receive_cases decode w c cl frame with ⟨e, h⟩ | ⟨id, response, q, s, hd, hq, hs, h⟩ <;>
    rw [h]
  · exact .inl hp
  rcases s with _ | st
  · exact .inl hp
  obtain ⟨pr', hpr', rfl, rfl, hpend⟩ := hw c cl hc id q hq
  by_cases hqp : q = p
  · subst hqp
    cases hpr'.symm.trans hp
    exact .inr ⟨rfl, hpend, response, st, hd, hs,
      by simp [List.getElem?_modify, hpr', PromiseRec.settle_of_pending st hpend]⟩
  · exact .inl (by simp [List.getElem?_modify, hqp, hp])

/-- INTERNAL: one step from a world whose entries hold their own pending promises leaves a
promise as it is, or the promise was pending and the step is a frame on the promise's own
client that decodes to a response carrying the promise's own id, with outcome `0` or `1`;
the promise then takes that outcome. -/
theorem legacy_promise_step {w w' : LegacyWorld} {a : LegacyWorld.Action} (hw : LegacyOwned w)
    (hs : LegacyWorld.step mp decode w a = some w') {p : Nat} {pr : PromiseRec}
    (hp : w.promises[p]? = some pr) :
    w'.promises[p]? = some pr ∨
      (pr.state = .pending ∧ ∃ frame response st,
        a = .receive pr.client frame ∧ decode frame = .ok ⟨some pr.id, response⟩ ∧
        legacySettlement response = .ok (some st) ∧
        w'.promises[p]? = some { pr with state := st }) := by
  rcases LegacyWorld.step_cases hs with ⟨-, rfl⟩ | ⟨c, cl, request, -, hc, rfl⟩ |
      ⟨c, cl, frame, rfl, hc, -, rfl⟩ | ⟨c, cl, -, hc, rfl⟩ | ⟨c, cl, -, hc, -, rfl⟩
  · exact .inl hp
  · obtain ⟨_, _, h, -⟩ := LegacyWorld.call_cases mp w c cl request
    exact .inl (by rw [h]; exact getElem?_append_of_getElem? hp)
  · rcases receive_promise hw hc frame hp with h | ⟨rfl, hpend, response, st, hd, hst, h⟩
    · exact .inl h
    · exact .inr ⟨hpend, frame, response, st, rfl, hd, hst, h⟩
  · exact .inl hp
  · exact .inl hp

/-- From any reachable world, a step leaves a promise as it is, or the promise was pending
and the step is a frame on the promise's own client that decodes to a response carrying the
promise's own id, with outcome `0` or `1`; the promise then takes that outcome. -/
theorem legacy_settled_only_by_own_frame {w w' : LegacyWorld} {a : LegacyWorld.Action}
    (hw : LegacyWorld.Reachable mp decode w) (hs : LegacyWorld.step mp decode w a = some w')
    {p : Nat} {pr : PromiseRec} (hp : w.promises[p]? = some pr) :
    w'.promises[p]? = some pr ∨
      (pr.state = .pending ∧ ∃ frame response st,
        a = .receive pr.client frame ∧ decode frame = .ok ⟨some pr.id, response⟩ ∧
        legacySettlement response = .ok (some st) ∧
        w'.promises[p]? = some { pr with state := st }) :=
  legacy_promise_step (LegacyOwned.reachable hw) hs hp

/-- One client, and one `reset` request on it, before any frame. -/
def oneLegacyCall (decode : Bytes → Except ErrorValue LegacyResponse) : LegacyWorld :=
  (LegacyWorld.run TaggedCodec.msgPack decode LegacyWorld.init
    [.create, .call 0 TryCpRequest.reset.toValue]).getD LegacyWorld.init

/-- INTERNAL: `oneLegacyCall` is reachable, whatever the server. -/
theorem oneLegacyCall_reachable (decode : Bytes → Except ErrorValue LegacyResponse) :
    LegacyWorld.Reachable TaggedCodec.msgPack decode (oneLegacyCall decode) :=
  .step (.call 0 TryCpRequest.reset.toValue) (.step .create .init rfl) rfl

/-- The client of `oneLegacyCall`. -/
def legacyCallClient (decode : Bytes → Except ErrorValue LegacyResponse) : LegacyClient :=
  (oneLegacyCall decode).clients[0]?.getD LegacyClient.init

/-- INTERNAL: `oneLegacyCall` has its client at index `0`. -/
theorem oneLegacyCall_clients (decode : Bytes → Except ErrorValue LegacyResponse) :
    (oneLegacyCall decode).clients[0]? = some (legacyCallClient decode) := rfl

/-- INTERNAL: that client keeps promise `0` under id `0`. -/
theorem legacyCallClient_entry (decode : Bytes → Except ErrorValue LegacyResponse) :
    (legacyCallClient decode).requestPromises.get 0 = some 0 := rfl

/-- `oneLegacyCall` after a frame on its client. -/
def oneLegacyCallAnswered : LegacyWorld :=
  (LegacyWorld.step TaggedCodec.msgPack answersZero (oneLegacyCall answersZero)
    (.receive 0 [])).getD LegacyWorld.init

theorem legacy_reset_settled_by_its_answer :
    LegacyWorld.step TaggedCodec.msgPack answersZero (oneLegacyCall answersZero) (.receive 0 []) =
        some oneLegacyCallAnswered ∧
      (oneLegacyCall answersZero).promises[0]? = some ⟨0, 0, true, .pending⟩ ∧
      (oneLegacyCallAnswered.promises[0]? = some ⟨0, 0, true, .pending⟩ ∨
        ((⟨0, 0, true, .pending⟩ : PromiseRec).state = .pending ∧ ∃ frame response st,
          LegacyWorld.Action.receive 0 [] = .receive 0 frame ∧
          answersZero frame = .ok ⟨some 0, response⟩ ∧ legacySettlement response = .ok (some st) ∧
          oneLegacyCallAnswered.promises[0]? = some ⟨0, 0, true, st⟩)) :=
  have hs : LegacyWorld.step TaggedCodec.msgPack answersZero (oneLegacyCall answersZero)
      (.receive 0 []) = some oneLegacyCallAnswered := rfl
  ⟨hs, rfl, legacy_settled_only_by_own_frame (oneLegacyCall_reachable answersZero) hs rfl⟩

/-- From any reachable world, a frame on an open client that decodes to a response for an
id the client keeps, with outcome `0` or `1`, settles the pending promise of that entry with
that outcome. -/
theorem legacy_answer_settles_call {w : LegacyWorld} {c id p : Nat} {cl : LegacyClient}
    {frame : Bytes} {response : TryCpResponse} {st : PState} (hw : LegacyWorld.Reachable mp decode w)
    (hc : w.clients[c]? = some cl) (hopen : cl.readyState ≠ .closed)
    (hk : cl.requestPromises.get id = some p) (hd : decode frame = .ok ⟨some id, response⟩)
    (hst : legacySettlement response = .ok (some st)) :
    ∃ pr w', w.promises[p]? = some pr ∧ pr.state = .pending ∧
      LegacyWorld.step mp decode w (.receive c frame) = some w' ∧
      w'.promises[p]? = some { pr with state := st } := by
  obtain ⟨pr, hpr, -, -, hpend⟩ := LegacyOwned.reachable hw c cl hc id p hk
  refine ⟨pr, w.receive decode c cl frame, hpr, hpend, by simp [LegacyWorld.step, hc, hopen], ?_⟩
  simp [LegacyWorld.receive, LegacyClient.onMessage, hd, hk, hst, List.getElem?_modify, hpr,
    PromiseRec.settle_of_pending st hpend]

theorem legacy_reset_answer_resolves :
    ∃ pr w', (oneLegacyCall answersZero).promises[0]? = some pr ∧ pr.state = .pending ∧
      LegacyWorld.step TaggedCodec.msgPack answersZero (oneLegacyCall answersZero)
        (.receive 0 []) = some w' ∧
      w'.promises[0]? = some { pr with state := .resolved .null } :=
  legacy_answer_settles_call (oneLegacyCall_reachable answersZero)
    (oneLegacyCall_clients answersZero) (by decide) (legacyCallClient_entry answersZero) rfl rfl

/-! ## The two versions side by side -/

/-- Promise `p` is pending and no client keeps an entry holding it. -/
def Orphaned (w : LegacyWorld) (p : Nat) : Prop :=
  (∃ pr : PromiseRec, w.promises[p]? = some pr ∧ pr.state = .pending) ∧
    ∀ (c : Nat) (cl : LegacyClient), w.clients[c]? = some cl → ∀ k, cl.requestPromises.get k ≠ some p

/-- INTERNAL: a world that keeps the promise as it was, and whose entries holding it are old
ones, keeps it orphaned. -/
theorem Orphaned.of_sub {w w' : LegacyWorld} {p : Nat} (ho : Orphaned w p)
    (hp : w'.promises[p]? = w.promises[p]?)
    (hcl : ∀ (c : Nat) (cl' : LegacyClient), w'.clients[c]? = some cl' → ∀ k,
      cl'.requestPromises.get k = some p →
        ∃ cl : LegacyClient, w.clients[c]? = some cl ∧ cl.requestPromises.get k = some p) :
    Orphaned w' p :=
  ⟨hp ▸ ho.1, fun c cl' hc k hk =>
    let ⟨cl, hcl', hk'⟩ := hcl c cl' hc k hk
    ho.2 c cl hcl' k hk'⟩

/-- INTERNAL: replacing client `c` by one whose entries holding `p` are old ones keeps the
entries holding `p` old ones. -/
theorem entries_of_set {clients : List LegacyClient} {c p : Nat} {cl cl' : LegacyClient}
    (hc : clients[c]? = some cl)
    (hsub : ∀ k, cl'.requestPromises.get k = some p → cl.requestPromises.get k = some p) :
    ∀ (c' : Nat) (cl'' : LegacyClient), (clients.set c cl')[c']? = some cl'' → ∀ k,
      cl''.requestPromises.get k = some p →
        ∃ cl₀ : LegacyClient, clients[c']? = some cl₀ ∧ cl₀.requestPromises.get k = some p := by
  intro c' cl'' hc' k hk
  simp only [getElem?_set_of_getElem? hc] at hc'
  split_ifs at hc' with hcc
  · cases hc'; subst hcc; exact ⟨cl, hc, hsub k hk⟩
  · exact ⟨cl'', hc', hk⟩

/-- Every step keeps a promise orphaned: `call` writes only an entry for the promise it
creates, and the listener settles only the promise of an entry it reads. -/
theorem Orphaned.step {w w' : LegacyWorld} {a : LegacyWorld.Action} {p : Nat} (ho : Orphaned w p)
    (hs : LegacyWorld.step mp decode w a = some w') : Orphaned w' p := by
  rcases LegacyWorld.step_cases hs with ⟨-, rfl⟩ | ⟨c, cl, request, -, hc, rfl⟩ |
      ⟨c, cl, frame, -, hc, -, rfl⟩ | ⟨c, cl, -, hc, rfl⟩ | ⟨c, cl, -, hc, -, rfl⟩
  · refine ho.of_sub rfl (fun c' cl' hc' k hk => ?_)
    rcases getElem?_concat_eq_some hc' with hc' | ⟨-, rfl⟩
    · exact ⟨cl', hc', hk⟩
    · simp [LegacyClient.init] at hk
  · obtain ⟨ret, cl', h, hrp⟩ := LegacyWorld.call_cases mp w c cl request
    obtain ⟨pr, hp, -⟩ := ho.1
    have hlt : p < w.promises.length := (List.getElem?_eq_some_iff.mp hp).1
    rw [h]
    refine ho.of_sub (List.getElem?_append_left hlt) (entries_of_set hc fun k hk => ?_)
    rw [hrp, Record.get_set] at hk
    split_ifs at hk
    · cases hk; omega
    · exact hk
  · rcases LegacyWorld.receive_cases decode w c cl frame with ⟨e, h⟩ |
        ⟨id, response, q, s, -, hq, -, h⟩ <;> rw [h]
    · exact ho
    have hqp : q ≠ p := fun hqp => ho.2 c cl hc id (hqp ▸ hq)
    refine ho.of_sub (by cases s <;> simp [List.getElem?_modify, hqp]) (entries_of_set hc ?_)
    intro k hk
    rw [Record.get_delete] at hk
    split_ifs at hk
    exact hk
  · exact ho.of_sub rfl (entries_of_set hc fun k hk => by rwa [LegacyClient.close_requestPromises] at hk)
  · exact ho.of_sub rfl (entries_of_set hc fun k hk => hk)

/-- INTERNAL: every run keeps a promise orphaned. -/
theorem Orphaned.run {w w' : LegacyWorld} {as : List LegacyWorld.Action} {p : Nat} (ho : Orphaned w p)
    (h : LegacyWorld.run mp decode w as = some w') : Orphaned w' p := by
  induction as generalizing w with
  | nil => exact Option.some.inj h ▸ ho
  | cons a as ih =>
    obtain ⟨w₁, h₁, h₂⟩ := Option.bind_eq_some.mp h
    exact ih (ho.step h₁) h₂

/-- From any reachable world, a frame answering a client's pending call with an outcome that
is neither `0` nor `1` leaves that call's promise pending for good: after it, every run of
any actions, answers to the same id included, ends with the promise still pending. -/
theorem unknown_response_orphans_call {w w' w'' : LegacyWorld} {c id p : Nat}
    {cl : LegacyClient} {frame : Bytes} {as : List LegacyWorld.Action} (hw : LegacyWorld.Reachable mp decode w)
    (hc : w.clients[c]? = some cl) (hk : cl.requestPromises.get id = some p)
    (hd : decode frame = .ok ⟨some id, .unknown⟩)
    (hs : LegacyWorld.step mp decode w (.receive c frame) = some w') (hrun : LegacyWorld.run mp decode w' as = some w'') :
    ∃ pr : PromiseRec, w''.promises[p]? = some pr ∧ pr.state = .pending := by
  have hi := LegacyOwned.reachable hw
  obtain ⟨pr, hpr, hpc, hpid, hpend⟩ := hi c cl hc id p hk
  have hw' : w' = { w with
      clients := w.clients.set c { cl with requestPromises := cl.requestPromises.delete id } } := by
    simp only [LegacyWorld.step, hc, Option.some_bind] at hs
    split_ifs at hs
    simp [← Option.some.inj hs, LegacyWorld.receive, LegacyClient.onMessage, hd, hk, legacySettlement]
  refine (Orphaned.run ⟨⟨pr, hw' ▸ hpr, hpend⟩, fun c' cl' hc' k hk' => ?_⟩ hrun).1
  rw [hw'] at hc'
  obtain ⟨cl₀, hc₀, hk₀, hne⟩ := entries_of_delete hc hc' hk'
  obtain ⟨pr', hpr', rfl, rfl, -⟩ := hi c' cl₀ hc₀ k p hk₀
  cases hpr.symm.trans hpr'
  exact hne hpc hpid

/-- A server that answers id `0` with an unknown outcome on the empty frame, and with the
outcome `0` on every other frame. -/
def unknownThenAnswer (frame : Bytes) : Except ErrorValue LegacyResponse :=
  if frame = [] then .ok ⟨some 0, .unknown⟩ else .ok ⟨some 0, .success .null⟩

/-- `oneLegacyCall` after the unknown outcome for its call. -/
def unknownAnswered : LegacyWorld :=
  (LegacyWorld.step TaggedCodec.msgPack unknownThenAnswer (oneLegacyCall unknownThenAnswer)
    (.receive 0 [])).getD LegacyWorld.init

/-- `unknownAnswered` after the answer `0` for the same id. -/
def unknownThenAnswered : LegacyWorld :=
  (LegacyWorld.run TaggedCodec.msgPack unknownThenAnswer unknownAnswered [.receive 0 [1]]).getD
    LegacyWorld.init

theorem reset_answered_after_unknown_stays_pending :
    unknownThenAnswer [1] = .ok ⟨some 0, .success .null⟩ ∧
      ∃ pr : PromiseRec, unknownThenAnswered.promises[0]? = some pr ∧ pr.state = .pending :=
  have hs : LegacyWorld.step TaggedCodec.msgPack unknownThenAnswer
      (oneLegacyCall unknownThenAnswer) (.receive 0 []) = some unknownAnswered := rfl
  have hrun : LegacyWorld.run TaggedCodec.msgPack unknownThenAnswer unknownAnswered
      [.receive 0 [1]] = some unknownThenAnswered := rfl
  ⟨rfl, unknown_response_orphans_call (oneLegacyCall_reachable unknownThenAnswer)
    (oneLegacyCall_clients unknownThenAnswer) (legacyCallClient_entry unknownThenAnswer)
    (show unknownThenAnswer [] = .ok ⟨some 0, .unknown⟩ from rfl) hs hrun⟩

end Tryorama.Analysis.LegacyProtocol
