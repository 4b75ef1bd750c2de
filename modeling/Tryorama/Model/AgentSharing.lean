import Tryorama.Model.Value

/-!
# `addAllAgentsToAllConductors` as a state machine

`addAllAgentsToAllConductors(conductors)` (part_007:77-96) maps every conductor `i` to
an async task: await `agentInfo` from conductor `i`, then, in an inner `Promise.all`,
call `addAgentInfo` with those infos on every other conductor `j`. The inner callbacks
neither await nor return the `addAgentInfo` promise, so each resolves at once. The
outer `Promise.all` is what the function awaits.

A state is one call of the function: the `agentInfo` call of each conductor with its
outcome, the `addAgentInfo` calls in the order they were made with theirs, and the
function's own promise. The remote conductors answer the calls in any order, with any
values, and may reject any of them: each answer is an `Action`. Between two answers the
program runs to quiescence (promise reactions are microtasks; answers come in as
websocket frames, which are macrotasks), so an answer's whole effect is one `step`.
-/

set_option autoImplicit false

namespace Tryorama.Model.AgentSharing

open Tryorama.Model

/-- The state of a promise: pending, resolved with a value, or rejected. -/
inductive Outcome where
  | pending
  | resolved (value : Value)
  | rejected (reason : ErrorValue)
  deriving Repr, DecidableEq

/-- A promise that resolved. -/
def Outcome.isResolved : Outcome → Bool
  | .resolved _ => true
  | _ => false

/-- One call of `addAllAgentsToAllConductors`: each conductor's `agentInfo` call, by
index; each `addAgentInfo` call as made, with the conductor it went to and the agent
infos it carried; and the promise the function returned. -/
structure State where
  agentInfos : List Outcome
  adds : List (Nat × Value × Outcome)
  result : Outcome
  deriving Repr, DecidableEq

/-- The outer `Promise.all` over the tasks once more of them settled: it settles once,
rejected by the first task that rejects and resolved once every task has resolved. A
task resolves exactly when its `agentInfo` call resolves. -/
def allSettle (result : Outcome) (agentInfos : List Outcome) : Outcome :=
  match result with
  | .pending => if agentInfos.all Outcome.isResolved then .resolved .null else .pending
  | r => r

/-- The `addAgentInfo` calls made: the conductor each went to and the infos it carried. -/
def State.calledWith (s : State) : List (Nat × Value) := s.adds.map fun a => (a.1, a.2.1)

/-- The calls of the function with `n` conductors: every task has called `agentInfo`. -/
def State.start (n : Nat) : State :=
  ⟨List.replicate n .pending, [], allSettle .pending (List.replicate n .pending)⟩

/-- Task `i` once its agent infos came: the inner `Promise.all` calls `addAgentInfo` with
them on every other of the `n` conductors, in order. -/
def shareWith (n i : Nat) (agentInfos : Value) : List (Nat × Value × Outcome) :=
  ((List.range n).filter (· ≠ i)).map fun j => (j, agentInfos, .pending)

/-- An answer of a remote conductor. -/
inductive Action where
  | resolveAgentInfo (i : Nat) (agentInfos : Value)
  | rejectAgentInfo (i : Nat) (reason : ErrorValue)
  | resolveAdd (k : Nat)
  | rejectAdd (k : Nat) (reason : ErrorValue)
  deriving Repr, DecidableEq

/-- The effect of an answer; `none` when the call it answers is not pending. Nothing
awaits an `addAgentInfo` call, so its answer changes nothing but the call. -/
def step (s : State) : Action → Option State
  | .resolveAgentInfo i agentInfos =>
    if s.agentInfos[i]? = some .pending then
      let infos := s.agentInfos.set i (.resolved agentInfos)
      some ⟨infos, s.adds ++ shareWith s.agentInfos.length i agentInfos, allSettle s.result infos⟩
    else none
  | .rejectAgentInfo i reason =>
    if s.agentInfos[i]? = some .pending then
      some ⟨s.agentInfos.set i (.rejected reason), s.adds, match s.result with
        | .pending => .rejected reason
        | r => r⟩
    else none
  | .resolveAdd k =>
    match s.adds[k]? with
    | some (j, agentInfos, .pending) =>
      some { s with adds := s.adds.set k (j, agentInfos, .resolved .null) }
    | _ => none
  | .rejectAdd k reason =>
    match s.adds[k]? with
    | some (j, agentInfos, .pending) =>
      some { s with adds := s.adds.set k (j, agentInfos, .rejected reason) }
    | _ => none

/-- Run the answers of a list in order; `none` as soon as one answers no pending call. -/
def run : State → List Action → Option State
  | s, [] => some s
  | s, a :: as => (step s a).bind (run · as)

/-- The states of one call with `n` conductors over every order and outcome of the
answers. -/
inductive Reachable (n : Nat) : State → Prop where
  | start : Reachable n (State.start n)
  | step {s s' : State} (a : Action) : Reachable n s → step s a = some s' → Reachable n s'

/-- A run from a reachable state ends in a reachable state. -/
theorem Reachable.run {n : Nat} {s s' : State} {as : List Action} (hs : Reachable n s)
    (h : run s as = some s') : Reachable n s' := by
  induction as generalizing s with
  | nil => exact Option.some.inj h ▸ hs
  | cons a as ih =>
    obtain ⟨s₁, h₁, h₂⟩ := Option.bind_eq_some.mp h
    exact ih (.step a hs h₁) h₂

/-- What an answer can be: an `agentInfo` call that resolves, and the adds of its task
are made; one that rejects; or an `addAgentInfo` call that settles, which changes neither
the `agentInfo` calls nor the function's promise. -/
theorem step_cases {s s' : State} {a : Action} (h : step s a = some s') :
    (∃ i v, a = .resolveAgentInfo i v ∧ s.agentInfos[i]? = some .pending ∧
      s' = ⟨s.agentInfos.set i (.resolved v), s.adds ++ shareWith s.agentInfos.length i v,
        allSettle s.result (s.agentInfos.set i (.resolved v))⟩) ∨
    (∃ i e, a = .rejectAgentInfo i e ∧ s.agentInfos[i]? = some .pending ∧
      s'.agentInfos = s.agentInfos.set i (.rejected e) ∧ s'.adds = s.adds ∧
      (s.result = .pending ∧ s'.result = .rejected e ∨ s.result ≠ .pending ∧ s'.result = s.result)) ∨
    (∃ k j v o, s.adds[k]? = some (j, v, .pending) ∧ o ≠ .pending ∧
      s' = { s with adds := s.adds.set k (j, v, o) }) := by
  cases a with
  | resolveAgentInfo i v =>
    simp only [step] at h; split_ifs at h with hi
    exact .inl ⟨i, v, rfl, hi, (Option.some.inj h).symm⟩
  | rejectAgentInfo i e =>
    simp only [step] at h; split_ifs at h with hi
    cases h
    refine .inr (.inl ⟨i, e, rfl, hi, rfl, rfl, ?_⟩)
    split <;> simp_all
  | resolveAdd k =>
    simp only [step] at h; split at h
    · cases h; exact .inr (.inr ⟨k, _, _, _, ‹_›, by simp, rfl⟩)
    · cases h
  | rejectAdd k e =>
    simp only [step] at h; split at h
    · cases h; exact .inr (.inr ⟨k, _, _, _, ‹_›, by simp, rfl⟩)
    · cases h

end Tryorama.Model.AgentSharing
