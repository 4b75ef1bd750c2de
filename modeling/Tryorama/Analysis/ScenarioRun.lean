import Tryorama.Model.Orchestrator

/-!
# What a scenario run does to its conductors

`runScenario` prepares every conductor, runs its `try` block and then, in its `finally`,
cleans every conductor up. When every conductor is prepared, each is cleaned up, in order,
whatever the `try` block did, and a `cleanupRun` that throws replaces the `try` block's
outcome (`runScenario_cleans_up_every_conductor`). When a conductor's `prepareRun` throws,
the `catch` rethrows before the `finally` is entered, so no conductor is cleaned up, those
prepared before it included (`setup_failure_skips_cleanup`).

`run()` first waits for `haveAllConductors`, which only `registerConductor` resolves: on
every orchestrator its registrations lead to, `run()` gets past the wait exactly when a
conductor has registered and there are as many as configs, so with no `registerConductor`
call it never executes a scenario. Past it, `run()` executes only the scenarios registered
with `.only` when there is one, else all of them, and reaches `close()` exactly when every
one it selected resolves (`run_executes_selected`).
-/

set_option autoImplicit false

namespace Tryorama.Analysis.ScenarioRun

open Tryorama.Model Tryorama.Model.Orchestrator

/-! ## Awaited loops -/

section Loop

variable {α β : Type} (body : α → List β × Except ErrorValue Unit)

/-- INTERNAL: passes that each make one call and go through make their calls in order, and
the loop goes on with what follows them. -/
theorem forAwait_append_of_ok (ev : α → β) (l₁ l₂ : List α)
    (h : ∀ a ∈ l₁, body a = ([ev a], .ok ())) :
    forAwait body (l₁ ++ l₂) = (l₁.map ev ++ (forAwait body l₂).1, (forAwait body l₂).2) := by
  induction l₁ with
  | nil => rfl
  | cons a l₁ ih =>
    rw [List.cons_append, forAwait, h a (List.mem_cons_self a l₁),
      ih fun a' ha' => h a' (List.mem_cons_of_mem a ha')]
    rfl

/-- INTERNAL: a pass that throws ends the loop with its calls. -/
theorem forAwait_cons_of_error {a : α} {ev : List β} {e : ErrorValue} (l : List α)
    (h : body a = (ev, .error e)) : forAwait body (a :: l) = (ev, .error e) := by
  simp only [forAwait, h]

/-- INTERNAL: every call the loop makes is one a pass made. -/
theorem mem_forAwait {b : β} {l : List α} (h : b ∈ (forAwait body l).1) :
    ∃ a ∈ l, b ∈ (body a).1 := by
  induction l with
  | nil => simp [forAwait] at h
  | cons a l ih =>
    rcases hb : body a with ⟨ev, e | ⟨⟩⟩ <;> simp only [forAwait, hb, List.mem_append] at h
    · exact ⟨a, List.mem_cons_self a l, by rw [hb]; exact h⟩
    rcases h with h | h
    · exact ⟨a, List.mem_cons_self a l, by rw [hb]; exact h⟩
    · obtain ⟨a', ha', hb'⟩ := ih h
      exact ⟨a', List.mem_cons_of_mem a ha', hb'⟩

end Loop

/-! ## The loops over the conductors -/

/-- INTERNAL: a loop over conductors that all exist and all go through calls each, in
order. -/
theorem forAwait_onConductor_of_ok {conductors configs : Nat} (hc : configs ≤ conductors)
    (ev : Nat → RunEvent) {answer : Nat → Except ErrorValue Unit}
    (h : ∀ i < configs, answer i = .ok ()) :
    forAwait (fun i => onConductor conductors i (ev i) (answer i)) (List.range configs) =
      ((List.range configs).map ev, .ok ()) := by
  have := forAwait_append_of_ok (fun i => onConductor conductors i (ev i) (answer i)) ev
    (List.range configs) [] fun i hi => by
      have hi := List.mem_range.mp hi
      simp [onConductor, Nat.lt_of_lt_of_le hi hc, h i hi]
  simpa [forAwait] using this

/-- INTERNAL: a loop over the conductors whose pass `k` throws, after the passes before it
went through, makes the calls of passes `0` to `k` and throws. -/
theorem forAwait_onConductor_of_error {conductors configs k : Nat} (hk : k < configs)
    (hkc : k < conductors) (ev : Nat → RunEvent) {answer : Nat → Except ErrorValue Unit}
    {e : ErrorValue} (hp : ∀ i < k, answer i = .ok ()) (he : answer k = .error e) :
    forAwait (fun i => onConductor conductors i (ev i) (answer i)) (List.range configs) =
      ((List.range (k + 1)).map ev, .error e) := by
  obtain ⟨rest, hrange⟩ : ∃ rest, List.range configs = List.range k ++ k :: rest := by
    refine ⟨(List.range configs).drop (k + 1), ?_⟩
    conv_lhs => rw [← List.take_append_drop (k + 1) (List.range configs)]
    rw [List.take_range, Nat.min_eq_left hk, List.range_succ, List.append_assoc,
      List.singleton_append]
  have hfail : onConductor conductors k (ev k) (answer k) = ([ev k], .error e) := by
    simp [onConductor, he, hkc]
  rw [hrange, forAwait_append_of_ok _ ev (List.range k) (k :: rest) fun i hi => by
      have hi := List.mem_range.mp hi
      simp [onConductor, show i < conductors by omega, hp i hi],
    forAwait_cons_of_error _ rest hfail, List.range_succ, List.map_append, List.map_singleton]

/-! ## Cleanup -/

/-- When the waiter, the middleware and every conductor's `prepareRun` go through, with a
conductor for every config, `runScenario` prepares every conductor in order, runs its `try`
block (`new ScenarioApi`, `api.consistent()` and the scenario), and then cleans the
conductors up in order, whatever the `try` block did: all of them, settling as the `try`
block did, when no `cleanupRun` throws; up to the first that throws otherwise, rejecting
with its error. -/
theorem runScenario_cleans_up_every_conductor (answers : RunAnswers) {conductors configs : Nat}
    (hc : configs ≤ conductors) (hr : answers.refreshWaiter = .ok ())
    (hm : answers.middleware = .ok ()) (hp : ∀ i < configs, answers.prepareRun i = .ok ()) :
    ((∀ i < configs, answers.cleanupRun i = .ok ()) →
      runScenario answers conductors configs =
        ((List.range configs).map .prepareRun ++ (scenarioBody answers).1 ++
            (List.range configs).map .cleanupRun, (scenarioBody answers).2)) ∧
    ∀ k e, k < configs → (∀ i < k, answers.cleanupRun i = .ok ()) → answers.cleanupRun k = .error e →
      runScenario answers conductors configs =
        ((List.range configs).map .prepareRun ++ (scenarioBody answers).1 ++
            (List.range (k + 1)).map .cleanupRun, .error e) := by
  refine ⟨fun hcl => ?_, fun k e hk hcl he => ?_⟩
  · simp only [runScenario, hr, hm, forAwait_onConductor_of_ok hc _ hp,
      forAwait_onConductor_of_ok hc _ hcl]
  · simp only [runScenario, hr, hm, forAwait_onConductor_of_ok hc _ hp,
      forAwait_onConductor_of_error hk (Nat.lt_of_lt_of_le hk hc) _ hcl he]

/-- A waiter, middleware and conductors whose every call goes through. -/
def allGoThrough : RunAnswers :=
  ⟨.ok (), .ok (), fun _ => .ok (), .ok (), .ok (), .ok (), fun _ => .ok ()⟩

/-- `allGoThrough`, but `api.consistent()` throws. -/
def inconsistent : RunAnswers := { allGoThrough with consistent := .error (.str "not consistent") }

/-- `inconsistent`, but the first conductor's `cleanupRun` throws too. -/
def firstCleanupFails : RunAnswers :=
  { inconsistent with cleanupRun := fun i => if i = 0 then .error (.str "cleanup failed") else .ok () }

theorem two_conductors_cleaned_up :
    runScenario allGoThrough 2 2 =
      ([.prepareRun 0, .prepareRun 1, .scenario, .cleanupRun 0, .cleanupRun 1], .ok ()) ∧
    runScenario inconsistent 2 2 =
      ([.prepareRun 0, .prepareRun 1, .cleanupRun 0, .cleanupRun 1], .error (.str "not consistent")) ∧
    runScenario firstCleanupFails 2 2 =
      ([.prepareRun 0, .prepareRun 1, .cleanupRun 0], .error (.str "cleanup failed")) :=
  ⟨((runScenario_cleans_up_every_conductor allGoThrough le_rfl rfl rfl fun _ _ => rfl).1
      fun _ _ => rfl).trans rfl,
    ((runScenario_cleans_up_every_conductor inconsistent le_rfl rfl rfl fun _ _ => rfl).1
      fun _ _ => rfl).trans rfl,
    ((runScenario_cleans_up_every_conductor firstCleanupFails le_rfl rfl rfl fun _ _ => rfl).2 0
      (.str "cleanup failed") (by decide) (fun _ h => absurd h (Nat.not_lt_zero _)) rfl).trans rfl⟩

/-- When the `prepareRun` of conductor `k` throws after those of the conductors before it
went through, `runScenario` rejects with that error having prepared conductors `0` to `k`,
and calls no `cleanupRun`: the conductors it prepared stay prepared. -/
theorem setup_failure_skips_cleanup (answers : RunAnswers) {conductors configs k : Nat}
    {e : ErrorValue} (hk : k < configs) (hkc : k < conductors)
    (hr : answers.refreshWaiter = .ok ()) (hm : answers.middleware = .ok ())
    (hp : ∀ i < k, answers.prepareRun i = .ok ()) (he : answers.prepareRun k = .error e) :
    runScenario answers conductors configs =
      ((List.range (k + 1)).map .prepareRun, .error e) := by
  simp only [runScenario, hr, hm, forAwait_onConductor_of_error hk hkc _ hp he]

/-- `allGoThrough`, but the second conductor's `prepareRun` throws. -/
def secondPrepareFails : RunAnswers :=
  { allGoThrough with
    prepareRun := fun i => if i = 1 then .error (.str "prepare failed") else .ok () }

/-- Three configs and two conductors: the second conductor's `prepareRun` throws before the
missing third conductor is reached. -/
theorem second_prepare_failure_leaves_first_prepared :
    runScenario secondPrepareFails 2 3 =
      ([.prepareRun 0, .prepareRun 1], .error (.str "prepare failed")) :=
  (setup_failure_skips_cleanup secondPrepareFails (by decide) (by decide) rfl rfl
    (fun i hi => by simp [secondPrepareFails, show i ≠ 1 by omega])
    (show secondPrepareFails.prepareRun 1 = .error (.str "prepare failed") from rfl)).trans rfl

/-! ## The scenarios `run` executes -/

/-- Scenario `i` is one `run()` is to execute: it was registered with `.only`, or no
scenario was and it was registered. -/
def Selected (only : List Bool) (i : Nat) : Prop :=
  only[i]? = some true ∨ (true ∉ only ∧ i < only.length)

/-- INTERNAL: a loop whose passes make no call but their own goes through exactly when
every pass does. -/
theorem forAwait_ok_iff {α β : Type} (body : α → List β × Except ErrorValue Unit) (l : List α) :
    (forAwait body l).2 = .ok () ↔ ∀ a ∈ l, (body a).2 = .ok () := by
  induction l with
  | nil => simp [forAwait]
  | cons a l ih => rcases hb : body a with ⟨ev, e | ⟨⟩⟩ <;> simp [forAwait, hb, ih]

/-- INTERNAL: some scenario was registered with `.only` exactly when `onlyTests` is not
empty. -/
theorem onlyTests_pos_iff (only : List Bool) :
    (only.enum.filter (·.2)).length > 0 ↔ true ∈ only := by
  simp only [gt_iff_lt, List.length_pos, ne_eq, List.filter_eq_nil_iff, not_forall,
    Bool.not_eq_false, exists_prop]
  constructor
  · rintro ⟨⟨i, b⟩, hm, hb⟩
    obtain rfl : b = true := by simpa using hb
    exact List.getElem?_mem (List.mem_enum_iff_getElem?.mp hm)
  · intro h
    obtain ⟨i, hi⟩ := List.getElem?_of_mem h
    exact ⟨(i, true), List.mem_enum_iff_getElem?.mpr hi, by simp⟩

/-- INTERNAL: the scenarios `run()` walks are the selected ones, each with its flag. -/
theorem mem_selectedScenarios {only : List Bool} {s : Nat × Bool} :
    s ∈ selectedScenarios only ↔ only[s.1]? = some s.2 ∧ Selected only s.1 := by
  rw [selectedScenarios, ← List.enum_eq_zip_range]
  split_ifs with h
  · have hmem := (onlyTests_pos_iff only).mp h
    rw [List.mem_filter, List.mem_enum_iff_getElem?]
    constructor
    · rintro ⟨hs, h2⟩
      exact ⟨hs, .inl (by simpa [h2] using hs)⟩
    · rintro ⟨hs, h1 | ⟨h1, -⟩⟩
      · exact ⟨hs, by simpa [hs] using h1⟩
      · exact absurd hmem h1
  · have hmem := mt (onlyTests_pos_iff only).mpr h
    rw [List.mem_enum_iff_getElem?]
    exact ⟨fun hs => ⟨hs, .inr ⟨hmem, (List.getElem?_eq_some_iff.mp hs).1⟩⟩, And.left⟩

/-- INTERNAL: the loop over the selected scenarios executes only selected ones, and goes
through exactly when the `execute()` of every selected scenario resolves. -/
theorem loop_executes_selected (only : List Bool) (execute : Nat → Except ErrorValue Unit) :
    (∀ i ∈ (forAwait (fun sc => ([sc.1], execute sc.1)) (selectedScenarios only)).1, Selected only i) ∧
      ((forAwait (fun sc => ([sc.1], execute sc.1)) (selectedScenarios only)).2.toBool = true ↔
        ∀ i, Selected only i → execute i = .ok ()) := by
  refine ⟨fun i hi => ?_, ?_⟩
  · obtain ⟨s, hs, his⟩ := mem_forAwait _ hi
    rw [List.mem_singleton.mp his]
    exact (mem_selectedScenarios.mp hs).2
  · have htoBool : ∀ r : Except ErrorValue Unit, r.toBool = true ↔ r = .ok () := by
      intro r; cases r <;> simp [Except.toBool]
    rw [htoBool, forAwait_ok_iff]
    constructor
    · intro h i hi
      obtain ⟨b, hb⟩ : ∃ b, only[i]? = some b := by
        rcases hi with hi | ⟨-, hi⟩
        · exact ⟨true, hi⟩
        · exact ⟨_, List.getElem?_eq_getElem hi⟩
      exact h (i, b) (mem_selectedScenarios.mpr ⟨hb, hi⟩)
    · exact fun h s hs => h s.1 (mem_selectedScenarios.mp hs).2

/-! ## Waiting for the conductors -/

/-- On every orchestrator its registrations lead to, `haveAllConductors` has resolved exactly
when a conductor has registered and there are as many as configs. -/
theorem Reachable.haveAllConductors_iff {s : OrchestratorState} (hs : Reachable s) :
    s.haveAllConductors = true ↔ 0 < s.conductors ∧ s.configs ≤ s.conductors := by
  induction hs with
  | init configs => simp [OrchestratorState.init]
  | registerScenario only _ ih => exact ih
  | registerConductor connected _ ih =>
    cases connected
    · exact ih
    · simp only [OrchestratorState.registerConductor, if_true, Bool.or_eq_true, decide_eq_true_eq, ih]
      omega

/-- On every orchestrator its registrations lead to, `run()` gets past its wait exactly when
a conductor has registered and there are as many as configs: with no `registerConductor`
call, it never does, whatever scenarios are registered. Past it, `run()` executes only
selected scenarios: when some scenario was registered with `.only`, no other one is
executed. It then reaches `close()` exactly when the `execute()` of every selected scenario
resolves. -/
theorem run_executes_selected (execute : Nat → Except ErrorValue Unit) {s : OrchestratorState}
    (hs : Reachable s) :
    ((s.run execute).isSome ↔ 0 < s.conductors ∧ s.configs ≤ s.conductors) ∧
    ∀ r, s.run execute = some r →
      (∀ i ∈ r.1, Selected s.scenarios i) ∧
      (r.2.1 = true ↔ ∀ i, Selected s.scenarios i → execute i = .ok ()) := by
  refine ⟨?_, fun r hr => ?_⟩
  · rw [← Reachable.haveAllConductors_iff hs, OrchestratorState.run]
    split_ifs with h <;> simp [h]
  · unfold OrchestratorState.run at hr
    split_ifs at hr
    cases hr
    exact loop_executes_selected s.scenarios execute

/-- One configured conductor and one scenario registered. -/
def oneScenario : OrchestratorState := (OrchestratorState.init 1).registerScenario false

/-- With no conductor registered, `run()` waits for ever; once one registers, it executes
the scenario and reaches `close()`. -/
theorem scenario_waits_for_conductor :
    Reachable oneScenario ∧ oneScenario.run (fun _ => .ok ()) = none ∧
      Reachable (oneScenario.registerConductor true) ∧
      (oneScenario.registerConductor true).run (fun _ => .ok ()) = some ([0], true, .ok ()) :=
  have h₀ : Reachable oneScenario := .registerScenario false (.init 1)
  have h₁ : Reachable (oneScenario.registerConductor true) := .registerConductor true h₀
  ⟨h₀, Option.not_isSome_iff_eq_none.mp fun h =>
      absurd ((run_executes_selected (fun _ => .ok ()) h₀).1.mp h).1 (Nat.lt_irrefl 0),
    h₁, rfl⟩

end Tryorama.Analysis.ScenarioRun
