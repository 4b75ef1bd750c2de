import Tryorama.Model.AgentSharing

/-!
# What `addAllAgentsToAllConductors` waits for

The function's promise resolves once every `agentInfo` call has, and by then every task
has made its `addAgentInfo` calls: for each ordered pair of distinct conductors `(i, j)`,
conductor `j` was called with the infos conductor `i` returned, `n · (n - 1)` calls in all
(`resolved_after_every_add_made`). That is all it waits for. No `addAgentInfo` call is
awaited, so the promise resolves while every one of them is still pending, and a
rejected one rejects nothing (`resolves_while_every_add_pending`).

The invariant `Inv` relates the calls made to the `agentInfo` calls that resolved; every
answer keeps it.
-/

set_option autoImplicit false

namespace Tryorama.Analysis.AgentSharing

open Tryorama.Model Tryorama.Model.AgentSharing

/-! ## The invariant -/

/-- INTERNAL: `Promise.all` over tasks one of which is pending is pending. -/
theorem allSettle_of_pending_mem {l : List Outcome} (h : Outcome.pending ∈ l) :
    allSettle .pending l = .pending := by
  have : l.all Outcome.isResolved = false :=
    List.all_eq_false.mpr ⟨_, h, by simp [Outcome.isResolved]⟩
  simp [allSettle, this]

/-- INTERNAL: task `i`'s adds go to every other conductor. -/
theorem mem_shareWith {n i j : Nat} (v : Value) (hj : j < n) (hji : j ≠ i) :
    (j, v, Outcome.pending) ∈ shareWith n i v := by
  simp [shareWith, hj, hji]

/-- INTERNAL: task `i` makes one add per other conductor. -/
theorem length_shareWith {n i : Nat} (v : Value) (hi : i < n) :
    (shareWith n i v).length = n - 1 := by
  rw [shareWith, List.length_map]
  induction n with
  | zero => omega
  | succ n ih =>
    rw [List.range_succ, List.filter_append, List.length_append]
    by_cases h : i < n
    · have hn : ([n].filter (· ≠ i)).length = 1 := by simp [show n ≠ i by omega]
      rw [ih h, hn]; omega
    · obtain rfl : i = n := by omega
      rw [List.filter_eq_self.mpr fun a ha => by simpa using Nat.ne_of_lt (List.mem_range.mp ha)]
      simp

/-- With `n` conductors: `n` `agentInfo` calls; every call made carries the infos of a
task whose `agentInfo` resolved, and every such task made its call to every other
conductor; `n - 1` calls per resolved task; and the promise resolved only once every
`agentInfo` call had. -/
structure Inv (n : Nat) (s : State) : Prop where
  length : s.agentInfos.length = n
  shared : ∀ i v, s.agentInfos[i]? = some (.resolved v) → ∀ j < n, j ≠ i → (j, v) ∈ s.calledWith
  count : s.adds.length = s.agentInfos.countP Outcome.isResolved * (n - 1)
  resolved : ∀ v, s.result = .resolved v → ∀ o ∈ s.agentInfos, o.isResolved

/-- INTERNAL: the calls made stay made when one of them settles. -/
theorem calledWith_set {s : State} {k j : Nat} {v : Value} {o : Outcome}
    (hk : s.adds[k]? = some (j, v, .pending)) :
    State.calledWith { s with adds := s.adds.set k (j, v, o) } = s.calledWith := by
  apply List.ext_getElem?
  intro i
  simp only [State.calledWith, List.map_set, List.getElem?_set, List.getElem?_map, List.length_map]
  split_ifs with h hlt
  · subst h; simp [hk]
  · exact absurd (List.getElem?_eq_some_iff.mp hk).1 (h ▸ hlt)
  · rfl

/-- INTERNAL: a promise that resolved was not pending. -/
theorem not_resolved_of_pending {l : List Outcome} {i : Nat} (h : l[i]? = some .pending) :
    ¬ ∀ o ∈ l, o.isResolved := fun hall => by
  simpa [Outcome.isResolved] using hall _ (List.getElem?_mem h)

/-- Every answer keeps `Inv`. -/
theorem Inv.step {n : Nat} {s s' : State} {a : Action} (hs : Inv n s) (h : step s a = some s') :
    Inv n s' := by
  rcases step_cases h with ⟨i, v, -, hi, rfl⟩ | ⟨i, e, -, hi, hinf, hadd, hres⟩ |
      ⟨k, j, v, o, hk, -, rfl⟩
  · obtain ⟨hlt, hget⟩ := List.getElem?_eq_some_iff.mp hi
    refine ⟨by simp [hs.length], fun i' v' hv j hj hji => ?_, ?_, fun v' hv o ho => ?_⟩
    · simp only [State.calledWith, List.map_append, List.mem_append] at hv ⊢
      by_cases hii : i = i'
      · subst hii
        rw [List.getElem?_set_self hlt] at hv
        obtain rfl : v = v' := by simpa using hv
        exact .inr (List.mem_map_of_mem _ (mem_shareWith v (hs.length ▸ hj) hji))
      · rw [List.getElem?_set_ne hii] at hv
        exact .inl (hs.shared i' v' hv j hj hji)
    · have hset := List.countP_set Outcome.isResolved s.agentInfos i (.resolved v) hlt
      rw [hget] at hset
      simp only [List.length_append, hs.count, hset, hs.length, length_shareWith v (hs.length ▸ hlt)]
      simp [Outcome.isResolved, Nat.succ_mul]
    · cases hr : s.result with
      | pending =>
        simp only [hr, allSettle] at hv
        split_ifs at hv with hall
        exact List.all_eq_true.mp hall o ho
      | resolved w => exact absurd (hs.resolved w hr) (not_resolved_of_pending hi)
      | rejected e => simp [hr, allSettle] at hv
  · obtain ⟨hlt, hget⟩ := List.getElem?_eq_some_iff.mp hi
    refine ⟨by simp [hinf, hs.length], fun i' v' hv j hj hji => ?_, ?_, fun v' hv => ?_⟩
    · rw [hinf] at hv
      by_cases hii : i = i'
      · subst hii; simp [hlt] at hv
      · rw [List.getElem?_set_ne hii] at hv
        rw [State.calledWith, hadd]; exact hs.shared i' v' hv j hj hji
    · have hset := List.countP_set Outcome.isResolved s.agentInfos i (.rejected e) hlt
      rw [hget] at hset
      simp only [hadd, hinf, hs.count, hset]
      simp [Outcome.isResolved]
    · rcases hres with ⟨-, hr⟩ | ⟨-, hr⟩ <;> rw [hr] at hv
      · cases hv
      · exact absurd (hs.resolved v' hv) (not_resolved_of_pending hi)
  · refine ⟨hs.length, fun i' v' hv => ?_, by simp [hs.count], hs.resolved⟩
    rw [calledWith_set hk]; exact hs.shared i' v' hv

/-- Every reachable state of a call with `n` conductors has `Inv`. -/
theorem Inv.reachable {n : Nat} {s : State} (h : Reachable n s) : Inv n s := by
  induction h with
  | start =>
    refine ⟨by simp [State.start], fun i v hv => ?_,
      by simp [State.start, List.countP_replicate, Outcome.isResolved], fun v hv => ?_⟩
    · simp [State.start, List.getElem?_replicate] at hv
    · simp only [State.start, allSettle] at hv
      split_ifs at hv with hall
      exact List.all_eq_true.mp hall
  | step a _ h ih => exact ih.step h

/-- Whenever the promise of `addAllAgentsToAllConductors` has resolved, every `agentInfo`
call has resolved, and for each ordered pair of distinct conductors `(i, j)` conductor `j`
has been called with the infos conductor `i` returned: `n · (n - 1)` calls in all. -/
theorem resolved_after_every_add_made {n : Nat} {s : State} {v : Value} (hs : Reachable n s)
    (hv : s.result = .resolved v) :
    (∀ i < n, ∃ infos, s.agentInfos[i]? = some (.resolved infos) ∧
      ∀ j < n, j ≠ i → (j, infos) ∈ s.calledWith) ∧ s.adds.length = n * (n - 1) := by
  have hi := Inv.reachable hs
  have hall := hi.resolved v hv
  refine ⟨fun i hin => ?_, ?_⟩
  · have hlt : i < s.agentInfos.length := hi.length ▸ hin
    obtain ho : s.agentInfos[i].isResolved := hall _ (List.getElem_mem hlt)
    revert ho
    cases ho' : s.agentInfos[i] with
    | resolved infos =>
      intro _
      have hg : s.agentInfos[i]? = some (.resolved infos) := by
        rw [List.getElem?_eq_getElem hlt, ho']
      exact ⟨infos, hg, hi.shared i infos hg⟩
    | pending | rejected _ => simp [Outcome.isResolved]
  · rw [hi.count, List.countP_eq_length.mpr hall, hi.length]

/-- Two conductors whose `agentInfo` calls resolved, with infos `a` and `b`. -/
def bothAnswered : State :=
  (run (State.start 2) [.resolveAgentInfo 0 (.str "a"), .resolveAgentInfo 1 (.str "b")]).getD
    (State.start 2)

theorem both_conductors_shared_both_ways :
    Reachable 2 bothAnswered ∧ bothAnswered.result = .resolved .null ∧
      (∀ i < 2, ∃ infos, bothAnswered.agentInfos[i]? = some (.resolved infos) ∧
        ∀ j < 2, j ≠ i → (j, infos) ∈ bothAnswered.calledWith) ∧
      bothAnswered.adds.length = 2 * (2 - 1) :=
  have hs : Reachable 2 bothAnswered := @Reachable.run 2 _ _
    [.resolveAgentInfo 0 (.str "a"), .resolveAgentInfo 1 (.str "b")] .start rfl
  have hv : bothAnswered.result = .resolved .null := rfl
  ⟨hs, hv, resolved_after_every_add_made hs hv⟩

/-! ## It resolves before any add -/

/-- The state once the `agentInfo` calls of conductors `0 … k-1` resolved, in that order,
with `infos`. -/
def answeredUpTo (n : Nat) (infos : Nat → Value) (k : Nat) : State :=
  let agentInfos := (List.range n).map fun i => if i < k then .resolved (infos i) else .pending
  ⟨agentInfos, (List.range k).flatMap fun i => shareWith n i (infos i),
    allSettle .pending agentInfos⟩

/-- INTERNAL: the `agentInfo` call of conductor `k` answers `answeredUpTo` `k`. -/
theorem step_answeredUpTo {n k : Nat} (infos : Nat → Value) (hk : k < n) :
    step (answeredUpTo n infos k) (.resolveAgentInfo k (infos k)) =
      some (answeredUpTo n infos (k + 1)) := by
  have hpend : (answeredUpTo n infos k).agentInfos[k]? = some .pending := by
    simp [answeredUpTo, hk]
  have hset : (answeredUpTo n infos k).agentInfos.set k (.resolved (infos k)) =
      (answeredUpTo n infos (k + 1)).agentInfos := by
    apply List.ext_getElem?
    intro i
    simp only [answeredUpTo, List.getElem?_set, List.getElem?_map, List.getElem?_range,
      List.length_map, List.length_range]
    rcases Nat.lt_or_ge i n with hi | hi
    · by_cases hik : k = i
      · subst hik; simp [hk]
      · have hiff : i < k ↔ i < k + 1 := by omega
        simp [hi, hik, hiff]
    · have hnone : (List.range n)[i]? = none := List.getElem?_eq_none (by simpa using hi)
      simp [hnone, show k ≠ i by omega]
  have hres : (answeredUpTo n infos k).result = .pending :=
    allSettle_of_pending_mem (List.getElem?_mem hpend)
  simp only [step, hpend, if_true, hset, hres]
  simp [answeredUpTo, List.range_succ]

/-- INTERNAL: the `agentInfo` calls of conductors `k … k+m-1` answered in order. -/
theorem run_answeredUpTo {n : Nat} (infos : Nat → Value) (m : Nat) :
    ∀ k, k + m ≤ n → run (answeredUpTo n infos k)
      ((List.range' k m).map fun i => .resolveAgentInfo i (infos i)) =
        some (answeredUpTo n infos (k + m)) := by
  induction m with
  | zero => intro k _; rfl
  | succ m ih =>
    intro k hkm
    rw [List.range'_succ, List.map_cons, run, step_answeredUpTo infos (by omega), Option.some_bind,
      ih (k + 1) (by omega), Nat.add_right_comm, Nat.add_assoc]

/-- INTERNAL: no `agentInfo` call answered is the call's start. -/
theorem answeredUpTo_zero (n : Nat) (infos : Nat → Value) :
    answeredUpTo n infos 0 = State.start n := by
  simp [answeredUpTo, State.start, List.map_const']

/-- For any number `n` of conductors and any infos they return: once every `agentInfo` call
resolved, the promise of `addAllAgentsToAllConductors` has resolved while every one of the
`n · (n - 1)` `addAgentInfo` calls is still pending, and rejecting any of them leaves it
resolved. -/
theorem resolves_while_every_add_pending (n : Nat) (infos : Nat → Value) :
    ∃ s, run (State.start n) ((List.range n).map fun i => .resolveAgentInfo i (infos i)) = some s ∧
      s.result = .resolved .null ∧ s.adds.length = n * (n - 1) ∧
      (∀ a ∈ s.adds, a.2.2 = .pending) ∧
      ∀ k (e : ErrorValue), k < s.adds.length →
        ∃ s', step s (.rejectAdd k e) = some s' ∧ s'.result = .resolved .null := by
  have hrun := @run_answeredUpTo n infos n 0 (by omega)
  rw [answeredUpTo_zero, ← List.range_eq_range', Nat.zero_add] at hrun
  have hres : (answeredUpTo n infos n).result = .resolved .null := by
    simp only [answeredUpTo, allSettle, List.all_map, List.all_eq_true, List.mem_range]
    rw [if_pos fun x hx => by
      obtain ⟨i, hi, rfl⟩ := List.mem_map.mp hx
      simp [List.mem_range.mp hi, Outcome.isResolved]]
  have hpend : ∀ a ∈ (answeredUpTo n infos n).adds, a.2.2 = .pending := by
    intro a ha
    simp only [answeredUpTo, shareWith, List.mem_flatMap, List.mem_map] at ha
    obtain ⟨_, _, _, _, rfl⟩ := ha
    rfl
  have hi := Inv.reachable (.run .start hrun)
  refine ⟨_, hrun, hres, ?_, hpend, fun k e hk => ?_⟩
  · rw [hi.count, List.countP_eq_length.mpr (hi.resolved _ hres), hi.length]
  obtain ⟨j, v, hx⟩ : ∃ j v, (answeredUpTo n infos n).adds[k]? = some (j, v, .pending) :=
    ⟨_, _, by rw [List.getElem?_eq_getElem hk, ← hpend _ (List.getElem_mem hk)]⟩
  exact ⟨{ answeredUpTo n infos n with
    adds := (answeredUpTo n infos n).adds.set k (j, v, .rejected e) }, by simp only [step, hx], hres⟩

end Tryorama.Analysis.AgentSharing
