import Tryorama.Analysis.Records
import Tryorama.Model.InitializeApps

/-!
# What `initializeApps` waits for

`initializeApps(init)` waits for the agents' keys and for nothing after them: once every
`generateAgentPubKey()` call has resolved, the keys are bound in `_agentIdToKey`, the
conductor's `installApp` has been called once for every app of `init` with the key of its
agent, and the call has already resolved, while every one of those installs is pending.
An install that rejects afterwards rejects nothing. The player's `installApp` resolves at
once in the same way (`initializeApps_resolves_before_installs`).
-/

set_option autoImplicit false

namespace Tryorama.Analysis.AppInstallation

open Tryorama.Model Tryorama.Model.InitializeApps
open Tryorama.Model.AgentSharing (Outcome)

/-! ## Agent ids and their keys -/

/-- An id is collected once it occurs. -/
theorem mem_uniqueIds {a : String} : ∀ {l : List String}, a ∈ uniqueIds l ↔ a ∈ l
  | [] => by simp [uniqueIds]
  | b :: l => by by_cases h : a = b <;> simp [uniqueIds, mem_uniqueIds, h]

/-- Each id is collected once. -/
theorem nodup_uniqueIds : ∀ l : List String, (uniqueIds l).Nodup
  | [] => List.nodup_nil
  | b :: l => List.nodup_cons.mpr ⟨by simp, (nodup_uniqueIds l).filter _⟩

/-! ## Resolving the keys one by one -/

/-- The key generations once those of the first `k` agents resolved with `keys`. -/
def keysUpTo (agents : List String) (keys : Nat → Bytes) (k : Nat) : List (String × Outcome) :=
  agents.mapIdx fun i a => (a, if i < k then .resolved (.bin (keys i)) else .pending)

variable {agents : List String} {keys : Nat → Bytes}

/-- INTERNAL: the key generation of agent `i`. -/
theorem keysUpTo_getElem? (k : Nat) {i : Nat} (hi : i < agents.length) :
    (keysUpTo agents keys k)[i]? =
      some (agents[i], if i < k then .resolved (.bin (keys i)) else .pending) := by
  simp [keysUpTo, List.getElem?_eq_getElem hi]

/-- INTERNAL: the key generation of agent `k` is pending until it is answered. -/
theorem keysUpTo_getElem?_self {k : Nat} (hk : k < agents.length) :
    (keysUpTo agents keys k)[k]? = some (agents[k], .pending) := by
  rw [keysUpTo_getElem? k hk, if_neg (Nat.lt_irrefl k)]

/-- INTERNAL: while a key is pending, `Promise.all` waits. -/
theorem afterKeys_keysUpTo (init : List InitApp) (r : StrRecord Value) {k : Nat}
    (hk : k < agents.length) :
    State.afterKeys init ⟨keysUpTo agents keys k, r, [], .pending⟩ =
      ⟨keysUpTo agents keys k, r, [], .pending⟩ := by
  have hpend : (agents[k], Outcome.pending) ∈ keysUpTo agents keys k :=
    List.getElem?_mem (keysUpTo_getElem?_self hk)
  have hall : (keysUpTo agents keys k).all (·.2.isResolved) = false :=
    List.all_eq_false.mpr ⟨_, hpend, by simp [Outcome.isResolved]⟩
  simp [State.afterKeys, hall]

/-- INTERNAL: the key generation of agent `k` resolves. -/
theorem step_keysUpTo (init : List InitApp) (r : StrRecord Value) {k : Nat}
    (hk : k < agents.length) :
    step init ⟨keysUpTo agents keys k, r, [], .pending⟩ (.resolveKey k (keys k)) =
      some (State.afterKeys init ⟨keysUpTo agents keys (k + 1), r, [], .pending⟩) := by
  have hset : (keysUpTo agents keys k).set k (agents[k], .resolved (.bin (keys k))) =
      keysUpTo agents keys (k + 1) := by
    apply List.ext_getElem?
    intro i
    simp only [keysUpTo, List.getElem?_set, List.getElem?_mapIdx, List.length_mapIdx]
    by_cases hik : k = i
    · subst hik; simp [hk, List.getElem?_eq_getElem hk]
    · have hiff : i < k ↔ i < k + 1 := by omega
      simp [hik, hiff]
  simp only [step, keysUpTo_getElem?_self hk, hset]

/-- INTERNAL: the key generations of agents `k … k+m-1` resolve, in order. -/
theorem run_keysUpTo (init : List InitApp) (r : StrRecord Value) (m : Nat) :
    ∀ k, k + m ≤ agents.length →
      run init (State.afterKeys init ⟨keysUpTo agents keys k, r, [], .pending⟩)
        ((List.range' k m).map fun i => .resolveKey i (keys i)) =
      some (State.afterKeys init ⟨keysUpTo agents keys (k + m), r, [], .pending⟩) := by
  induction m with
  | zero => intro k _; rfl
  | succ m ih =>
    intro k hkm
    rw [List.range'_succ, List.map_cons, run, afterKeys_keysUpTo init r (by omega),
      step_keysUpTo init r (by omega), Option.some_bind, ih (k + 1) (by omega),
      Nat.add_right_comm, Nat.add_assoc]

/-- INTERNAL: the key generations are those of the agents, in order. -/
theorem map_fst_keysUpTo (k : Nat) : (keysUpTo agents keys k).map (·.1) = agents := by
  apply List.ext_getElem?
  intro i
  simp only [keysUpTo, List.getElem?_map, List.getElem?_mapIdx]
  cases agents[i]? <;> rfl

/-- INTERNAL: with no key of the agents set, `initializeApps` starts one key generation per
agent and waits. -/
theorem initializeApps_fresh (init : List InitApp) (r : StrRecord Value) (keys : Nat → Bytes)
    (hfresh : ∀ app ∈ init, (Record.getProp r app.agentId).any Value.truthy = false) :
    initializeApps true r init =
      State.afterKeys init ⟨keysUpTo (uniqueIds (init.map (·.agentId))) keys 0, r, [], .pending⟩ := by
  have hnone : (uniqueIds (init.map (·.agentId))).find?
      (fun a => (Record.getProp r a).any Value.truthy) = none := by
    refine List.find?_eq_none.mpr fun a ha => ?_
    obtain ⟨app, happ, rfl⟩ := List.mem_map.mp (mem_uniqueIds.mp ha)
    simp [hfresh app happ]
  have hstart : keysUpTo (uniqueIds (init.map (·.agentId))) keys 0 =
      (uniqueIds (init.map (·.agentId))).map (·, .pending) := by
    apply List.ext_getElem?
    intro i
    simp [keysUpTo, List.getElem?_mapIdx]
  simp only [initializeApps, Bool.not_true, hnone, hstart]
  rfl

/-- INTERNAL: once the last key resolved, `Promise.all` resolves: the keys are stored in
`_agentIdToKey`, `installApp` is called for every app with its agent's key, and the call
returns. -/
theorem afterKeys_keysUpTo_length (init : List InitApp) (r : StrRecord Value) :
    State.afterKeys init ⟨keysUpTo agents keys agents.length, r, [], .pending⟩ =
      let record := (keysUpTo agents keys agents.length).foldl
        (fun r k => r.set k.1 (resolvedKey k.2)) r
      ⟨keysUpTo agents keys agents.length, record,
        init.map fun app => ((Record.getProp record app.agentId).getD .null, app, .pending),
        .resolved .null⟩ := by
  have hall : (keysUpTo agents keys agents.length).all (·.2.isResolved) = true := by
    refine List.all_eq_true.mpr fun x hx => ?_
    obtain ⟨i, hi, rfl⟩ := List.getElem_of_mem hx
    have hi' : i < agents.length := by simpa [keysUpTo] using hi
    simp [keysUpTo, hi', Outcome.isResolved]
  simp [State.afterKeys, hall]

/-- INTERNAL: after every key resolved, agent `i` is bound to the `i`-th key. -/
theorem get_keysUpTo_length (r : StrRecord Value) (hnd : agents.Nodup) {i : Nat}
    (hi : i < agents.length) :
    ((keysUpTo agents keys agents.length).foldl (fun r k => r.set k.1 (resolvedKey k.2)) r).get
      agents[i] = some (.bin (keys i)) := by
  have hget : (keysUpTo agents keys agents.length)[i]? =
      some (agents[i], .resolved (.bin (keys i))) := by
    rw [keysUpTo_getElem? _ hi, if_pos hi]
  exact Record.get_foldl_set_of_mem resolvedKey r (by rwa [map_fst_keysUpTo]) (List.getElem?_mem hget)

/-! ## Answers to the installs -/

/-- An answer of the conductor to one of its `installApp` calls. -/
def answersInstall : Action → Bool
  | .resolveInstall _ | .rejectInstall _ _ => true
  | _ => false

/-- INTERNAL: an answer to an install changes only that install. -/
theorem step_answersInstall {init : List InitApp} {s s' : State} {a : Action}
    (ha : answersInstall a) (h : step init s a = some s') :
    s'.result = s.result ∧ s'.agentIdToKey = s.agentIdToKey := by
  cases a with
  | resolveKey | rejectKey => cases ha
  | resolveInstall | rejectInstall =>
    simp only [step] at h
    split at h <;> cases h
    exact ⟨rfl, rfl⟩

/-- Whatever the conductor answers to the installs, in whatever order, the call's outcome
and `_agentIdToKey` stay as they are. -/
theorem run_answersInstall {init : List InitApp} :
    ∀ {s s' : State} {as : List Action}, (∀ a ∈ as, answersInstall a) →
      run init s as = some s' → s'.result = s.result ∧ s'.agentIdToKey = s.agentIdToKey
  | _, _, [], _, h => by cases h; exact ⟨rfl, rfl⟩
  | s, s', a :: as, ha, h => by
    simp only [run] at h
    rcases h₁ : step init s a with _ | s₁ <;> rw [h₁] at h
    · cases h
    obtain ⟨hr₁, hk₁⟩ := step_answersInstall (ha a (List.mem_cons_self _ _)) h₁
    obtain ⟨hr, hk⟩ := run_answersInstall (fun b hb => ha b (List.mem_cons_of_mem _ hb)) h
    exact ⟨hr.trans hr₁, hk.trans hk₁⟩

/-- INTERNAL: a pending install may reject. -/
theorem step_rejectInstall (init : List InitApp) (s : State) {k : Nat} {key : Value}
    {app : InitApp} (e : ErrorValue) (hk : s.installs[k]? = some (key, app, .pending)) :
    step init s (.rejectInstall k e) =
      some { s with installs := s.installs.set k (key, app, .rejected e) } := by
  simp [step, hk]

/-! ## The call returns before its installs -/

/-- A call that has returned early: it has resolved while every `installApp` call it made is
pending, any of those may still reject, and no answer to them, in any order, changes the
call's outcome. -/
structure ReturnedEarly (init : List InitApp) (s : State) : Prop where
  resolved : s.result = .resolved .null
  pending : ∀ x ∈ s.installs, x.2.2 = .pending
  mayReject : ∀ k e, k < s.installs.length → ∃ s', step init s (.rejectInstall k e) = some s' ∧
    (s'.installs[k]?).map (·.2.2) = some (.rejected e)
  stays : ∀ as s', (∀ a ∈ as, answersInstall a) → run init s as = some s' →
    s'.result = .resolved .null

/-- INTERNAL: a resolved call with pending installs has returned early. -/
theorem returnedEarly_of {init : List InitApp} {s : State} (hres : s.result = .resolved .null)
    (hpend : ∀ x ∈ s.installs, x.2.2 = .pending) : ReturnedEarly init s where
  resolved := hres
  pending := hpend
  mayReject k e hk := by
    have hget : s.installs[k]? = some (s.installs[k].1, s.installs[k].2.1, .pending) := by
      rw [List.getElem?_eq_getElem hk, ← hpend _ (List.getElem_mem hk)]
    exact ⟨_, step_rejectInstall init s e hget, by simp [hk]⟩
  stays _ _ has h := (run_answersInstall has h).1.trans hres

/-- With a running conductor and no key yet for the agents of `init`, once the key
generations resolve (`keys i` for the `i`-th agent), `initializeApps(init)` has called
`installApp` for every app of `init`, in order, with the key it bound to the app's agent,
and has resolved while all of those calls are pending; an install that rejects later leaves
it resolved. `installApp(agentKey, app)` returns early in the same way. -/
theorem initializeApps_resolves_before_installs (init : List InitApp)
    (agentIdToKey : StrRecord Value)
    (hfresh : ∀ app ∈ init, (Record.getProp agentIdToKey app.agentId).any Value.truthy = false)
    (keys : Nat → Bytes) (agentKey : Bytes) (app : InitApp) :
    (∃ s, run init (initializeApps true agentIdToKey init)
        ((List.range (uniqueIds (init.map (·.agentId))).length).map
          fun i => .resolveKey i (keys i)) = some s ∧
      ReturnedEarly init s ∧
      (∀ i (hi : i < (uniqueIds (init.map (·.agentId))).length),
        s.agentIdToKey.get (uniqueIds (init.map (·.agentId)))[i] = some (.bin (keys i))) ∧
      s.installs = init.map fun app =>
        ((Record.getProp s.agentIdToKey app.agentId).getD .null, app, .pending)) ∧
    ReturnedEarly init (installApp true agentIdToKey agentKey app) ∧
    (installApp true agentIdToKey agentKey app).installs = [(.bin agentKey, app, .pending)] := by
  have hrun : run init (initializeApps true agentIdToKey init)
      ((List.range (uniqueIds (init.map (·.agentId))).length).map
        fun i => .resolveKey i (keys i)) =
      some (State.afterKeys init ⟨keysUpTo (uniqueIds (init.map (·.agentId))) keys
        (uniqueIds (init.map (·.agentId))).length, agentIdToKey, [], .pending⟩) := by
    rw [initializeApps_fresh init agentIdToKey keys hfresh, List.range_eq_range',
      run_keysUpTo init agentIdToKey _ 0 (Nat.zero_add _).le, Nat.zero_add]
  rw [afterKeys_keysUpTo_length] at hrun
  refine ⟨⟨_, hrun, returnedEarly_of rfl fun x hx => ?_,
    fun i hi => get_keysUpTo_length agentIdToKey (nodup_uniqueIds _) hi, rfl⟩,
    returnedEarly_of rfl (by simp [installApp]), rfl⟩
  obtain ⟨_, -, rfl⟩ := List.mem_map.mp hx
  rfl

/-- One app for a new agent `alice`. -/
def aliceApp : InitApp := ⟨"alice", .null⟩

theorem alice_resolves_before_install :
    (∀ app ∈ [aliceApp], (Record.getProp [] app.agentId).any Value.truthy = false) ∧
    (∃ s, run [aliceApp] (initializeApps true [] [aliceApp])
        ((List.range (uniqueIds ([aliceApp].map (·.agentId))).length).map
          fun i => .resolveKey i [1]) = some s ∧
      ReturnedEarly [aliceApp] s ∧
      (∀ i (hi : i < (uniqueIds ([aliceApp].map (·.agentId))).length),
        s.agentIdToKey.get (uniqueIds ([aliceApp].map (·.agentId)))[i] = some (.bin [1])) ∧
      s.installs = [aliceApp].map fun app =>
        ((Record.getProp s.agentIdToKey app.agentId).getD .null, app, .pending)) ∧
    ReturnedEarly [aliceApp] (installApp true [] [2] aliceApp) ∧
    (installApp true [] [2] aliceApp).installs = [(.bin [2], aliceApp, .pending)] :=
  have hfresh : ∀ app ∈ [aliceApp], (Record.getProp [] app.agentId).any Value.truthy = false := by
    decide
  ⟨hfresh, initializeApps_resolves_before_installs [aliceApp] [] hfresh (fun _ => [1]) [2] aliceApp⟩

/-- On a fresh player, an agent id that names a member of `Object.prototype` already reads as
one with a key. -/
example : (initializeApps true [] [⟨"constructor", .null⟩]).result =
    .rejected (.error "Player.initializeApps: agent key already exists for constructor!") := by
  decide

end Tryorama.Analysis.AppInstallation
