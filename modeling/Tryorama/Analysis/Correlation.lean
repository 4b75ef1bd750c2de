import Tryorama.Model.Client
import Tryorama.Model.Request
import Tryorama.Model.TaggedCodec

/-!
# A response settles only its own call's promise

Every client of the process draws ids from the one module-level `requestId`, and
frames may come in any order, twice, or never, mixed with signals and with bytes
that do not decode. None of this lets a frame settle the wrong promise: a promise
changes at most once, from pending, and only when a response frame carrying its own
id arrives on its own client; it then takes the state the listener computes from the
frame's outcome (`promise_step`).

The invariant is `EntriesOwned`: every entry a client keeps under an id holds the
promise `call` created on that client for that id. `call` writes the entry with
the promise it creates and the id it sends; the listener only settles the promise
of the entry it reads and deletes entries; nothing else touches either. A frame
for id `k` on client `c` therefore reaches only a promise with origin `(c, k)`.
-/

set_option autoImplicit false

namespace Tryorama.Analysis.Correlation

open Tryorama.Model

variable {mp : MsgPack} {util : Util}

/-! ## The invariant -/

/-- Every entry of a client's `requestPromises` holds the promise that `call` created on
that client for that request id. -/
def EntriesOwned (w : World) : Prop :=
  ∀ (c : Nat) (cl : Client), w.clients[c]? = some cl → ∀ k p, cl.requestPromises.get k = some p →
    ∃ pr : PromiseRec, w.promises[p]? = some pr ∧ pr.client = c ∧ pr.id = k

/-- INTERNAL: a world whose entries are old ones, over promises whose origins are kept,
keeps the invariant. -/
theorem EntriesOwned.of_sub {w w' : World} (hw : EntriesOwned w)
    (hprom : ∀ (p : Nat) (pr : PromiseRec), w.promises[p]? = some pr →
      ∃ pr' : PromiseRec, w'.promises[p]? = some pr' ∧ pr'.client = pr.client ∧ pr'.id = pr.id)
    (hcl : ∀ (c : Nat) (cl' : Client), w'.clients[c]? = some cl' →
      ∀ k p, cl'.requestPromises.get k = some p →
        ∃ cl : Client, w.clients[c]? = some cl ∧ cl.requestPromises.get k = some p) :
    EntriesOwned w' := by
  intro c cl' hc k p hk
  obtain ⟨cl, hcl, hk'⟩ := hcl c cl' hc k p hk
  obtain ⟨pr, hpr, rfl, rfl⟩ := hw c cl hcl k p hk'
  obtain ⟨pr', hpr', h1, h2⟩ := hprom p pr hpr
  exact ⟨pr', hpr', h1, h2⟩

/-- INTERNAL: `call` keeps the invariant: the entry it writes holds the promise it creates. -/
theorem EntriesOwned.call {w : World} (hw : EntriesOwned w) {c : Nat} {cl : Client}
    (hc : w.clients[c]? = some cl) (request : Value) : EntriesOwned (w.call mp c cl request) := by
  rcases World.call_cases mp w c cl request with h | ⟨ret, cl', h, hrp, -⟩
  · rwa [h]
  rw [h]
  intro c' cl'' hc' k p hk
  simp only [getElem?_set_of_getElem? hc] at hc'
  split_ifs at hc' with hcc
  · cases hc'; subst hcc
    rw [hrp, Record.get_set] at hk
    split_ifs at hk with hkid
    · cases hk; exact ⟨_, List.getElem?_concat_length _ _, rfl, hkid.symm⟩
    · obtain ⟨pr, hpr, h1, h2⟩ := hw c cl hc k p hk
      exact ⟨pr, getElem?_append_of_getElem? hpr, h1, h2⟩
  · obtain ⟨pr, hpr, h1, h2⟩ := hw c' cl'' hc' k p hk
    exact ⟨pr, getElem?_append_of_getElem? hpr, h1, h2⟩

/-- INTERNAL: one frame keeps the invariant: the listener only deletes entries, and only
settles promises. -/
theorem EntriesOwned.receive {w : World} (hw : EntriesOwned w) {c : Nat} {cl : Client}
    (hc : w.clients[c]? = some cl) (frame : Bytes) :
    EntriesOwned (w.receive util c cl frame) := by
  refine hw.of_sub (fun p pr hp => ?_) (fun c' cl' hc' k p hk => ?_)
  · simp only [World.receive]
    split
    · rename_i q st _
      rw [List.getElem?_modify, hp]
      exact ⟨_, rfl, by split_ifs <;> simp, by split_ifs <;> simp⟩
    · exact ⟨pr, hp, rfl, rfl⟩
  · simp only [World.receive, getElem?_set_of_getElem? hc] at hc'
    split_ifs at hc' with hcc
    · cases hc'; subst hcc
      refine ⟨cl, hc, ?_⟩
      rcases cl.onMessage_cases util frame with h | ⟨_, _, _, _, _, _, _, h⟩ |
          ⟨id, _, _, _, _, _, _, h⟩ <;> rw [h] at hk
      · exact hk
      · exact hk
      · rw [Record.get_delete] at hk; split_ifs at hk; exact hk
    · exact ⟨cl', hc', hk⟩

/-- INTERNAL: a world with the same promises whose clients keep their entries keeps the
invariant. -/
theorem EntriesOwned.of_entries {w : World} (hw : EntriesOwned w) {c : Nat} {cl cl' : Client}
    (hc : w.clients[c]? = some cl) (h : cl'.requestPromises = cl.requestPromises) :
    EntriesOwned { w with clients := w.clients.set c cl' } := by
  refine hw.of_sub (fun p pr hp => ⟨pr, hp, rfl, rfl⟩) (fun c' cl'' hc' k p hk => ?_)
  simp only [getElem?_set_of_getElem? hc] at hc'
  split_ifs at hc' with hcc
  · cases hc'; subst hcc; exact ⟨cl, hc, h ▸ hk⟩
  · exact ⟨cl'', hc', hk⟩

/-- Every step keeps `EntriesOwned`. -/
theorem EntriesOwned.step {w w' : World} {a : Action} (hw : EntriesOwned w)
    (hs : step mp util w a = some w') : EntriesOwned w' := by
  rcases step_cases hs with ⟨-, rfl⟩ | ⟨c, cl, request, -, hc, rfl⟩ |
      ⟨c, cl, port, h, -, hc, rfl⟩ | ⟨c, cl, frame, -, hc, -, rfl⟩ | ⟨c, cl, -, hc, rfl⟩ |
      ⟨c, cl, -, hc, -, rfl⟩
  · refine hw.of_sub (fun p pr hp => ⟨pr, hp, rfl, rfl⟩) (fun c' cl' hc' k p hk => ?_)
    rcases getElem?_concat_eq_some hc' with hc' | ⟨-, rfl⟩
    · exact ⟨cl', hc', hk⟩
    · simp [Client.init] at hk
  · exact hw.call hc request
  · exact hw.of_entries hc rfl
  · exact hw.receive hc frame
  · exact hw.of_entries hc (Client.close_requestPromises cl)
  · exact hw.of_entries hc rfl

/-- Every reachable world has `EntriesOwned`. -/
theorem EntriesOwned.reachable {w : World} (h : Reachable mp util w) : EntriesOwned w := by
  induction h with
  | init => intro c cl hc; simp [World.init] at hc
  | step a _ hs ih => exact ih.step hs

/-! ## Settlement -/

/-- INTERNAL: a step that leaves the promises as they are, or only appends to them, leaves
every old promise as it is. -/
theorem promises_unchanged_of_append {w w' : World} (h : ∃ l, w'.promises = w.promises ++ l)
    {p : Nat} {pr : PromiseRec} (hp : w.promises[p]? = some pr) : w'.promises[p]? = some pr := by
  obtain ⟨l, hl⟩ := h
  rw [hl]; exact getElem?_append_of_getElem? hp

/-- INTERNAL: a frame on client `c` leaves a promise as it is, or the promise is a pending
one of client `c`, the frame is a response carrying the promise's id, and the promise takes
that response's settlement. -/
theorem receive_promise {w : World} (hw : EntriesOwned w) {c : Nat} {cl : Client}
    (hc : w.clients[c]? = some cl) (frame : Bytes) {p : Nat} {pr : PromiseRec}
    (hp : w.promises[p]? = some pr) :
    (w.receive util c cl frame).promises[p]? = some pr ∨
      (pr.client = c ∧ pr.state = .pending ∧ ∃ response st,
        util.deserializeTryCpResponse frame = .ok (.response pr.id response) ∧
        settlement util response = some st ∧
        (w.receive util c cl frame).promises[p]? = some { pr with state := st }) := by
  rcases cl.onMessage_cases util frame with h | ⟨_, _, _, _, _, _, _, h⟩ |
      ⟨id, response, q, st, hd, hq, hst, h⟩
  · exact .inl (by simp [World.receive, h, hp])
  · exact .inl (by simp [World.receive, h, hp])
  obtain ⟨pr', hpr', rfl, rfl⟩ := hw c cl hc id q hq
  by_cases hqp : q = p
  · subst hqp
    obtain rfl : pr' = pr := Option.some.inj (hpr'.symm.trans hp)
    by_cases hpend : pr'.state = .pending
    · refine .inr ⟨rfl, hpend, response, st, hd, hst, ?_⟩
      simp [World.receive, h, hpr', PromiseRec.settle_of_pending st hpend]
    · exact .inl (by simp [World.receive, h, hpr', PromiseRec.settle_of_ne_pending st hpend])
  · exact .inl (by simp [World.receive, h, hp, hqp])

/-- INTERNAL: one step from a world whose entries hold their own promises leaves a promise as
it is, or the promise was pending and the step is a frame on the promise's own client that
decodes to a response carrying the promise's own id; the promise then takes the settlement of
that response's outcome. -/
theorem promise_step {w w' : World} {a : Action} (hw : EntriesOwned w)
    (hs : step mp util w a = some w') {p : Nat} {pr : PromiseRec} (hp : w.promises[p]? = some pr) :
    w'.promises[p]? = some pr ∨
      (pr.state = .pending ∧ ∃ frame response st, a = .receive pr.client frame ∧
        util.deserializeTryCpResponse frame = .ok (.response pr.id response) ∧
        settlement util response = some st ∧ w'.promises[p]? = some { pr with state := st }) := by
  rcases step_cases hs with ⟨-, rfl⟩ | ⟨c, cl, request, -, hc, rfl⟩ |
      ⟨c, cl, port, h, -, hc, rfl⟩ | ⟨c, cl, frame, rfl, hc, -, rfl⟩ | ⟨c, cl, -, hc, rfl⟩ |
      ⟨c, cl, -, hc, -, rfl⟩
  · exact .inl hp
  · refine .inl (promises_unchanged_of_append ?_ hp)
    rcases World.call_cases mp w c cl request with h | ⟨_, _, h, -⟩ <;> rw [h]
    · exact ⟨[], by simp⟩
    · exact ⟨_, rfl⟩
  · exact .inl hp
  · rcases receive_promise hw hc frame hp with h | ⟨rfl, hpend, response, st, hd, hst, h⟩
    · exact .inl h
    · exact .inr ⟨hpend, frame, response, st, rfl, hd, hst, h⟩
  · exact .inl hp
  · exact .inl hp

/-- The server of the concrete run: every frame is a success response for id `0`. -/
def answerZero : Util := .fixed (.response 0 (.success .null))

/-- One client, and one `reset` request on it, before any frame, with the server `util`. -/
def oneCall (util : Util) : World :=
  (run TaggedCodec.msgPack util World.init [.create, .call 0 TryCpRequest.reset.toValue]).getD
    World.init

/-- INTERNAL: `oneCall` is reachable, whatever the server. -/
theorem oneCall_reachable (util : Util) : Reachable TaggedCodec.msgPack util (oneCall util) :=
  .step (.call 0 TryCpRequest.reset.toValue) (.step .create .init rfl) rfl

end Tryorama.Analysis.Correlation
