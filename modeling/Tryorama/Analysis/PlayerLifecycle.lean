import Tryorama.Model.Player

/-!
# `_conductor` under concurrent `spawn` and `kill`

What holds in every state: `_conductor` never holds a conductor `kill` was invoked on
(`referenced_conductor_not_killed`), since `kill` clears `_conductor` before it invokes
`kill` and `spawn` only stores a conductor just spawned.

What does not: `spawn` checks `_conductor` before its awaits and stores into it after
them. Two `spawn` calls made before either's `onJoin()` resolves both pass the check,
both spawn a conductor, and the second overwrites the first, which stays running with
nothing referring to it. `_conductor` is stored before `initialize()` is awaited, so
between the two `_conductorGuard` admits actions on a conductor that is not initialized,
and it keeps admitting them when `initialize()` rejects
(`failed_initialize_stays_referenced`). From every state with no conductor, the run of
two such spawns ends exactly so (`concurrent_spawns_orphan_first`).
-/

set_option autoImplicit false

namespace Tryorama.Analysis.PlayerLifecycle

open Tryorama.Model.Player

/-! ## Reading lists at their end -/

/-- INTERNAL: the first item after a list. -/
@[simp] theorem getElem_append_length {α : Type} (l : List α) (a : α) (r : List α)
    (h : l.length < (l ++ a :: r).length) : (l ++ a :: r)[l.length] = a := by
  rw [List.getElem_append_right (Nat.le_refl _)]; simp

/-- INTERNAL: the second item after a list. -/
@[simp] theorem getElem_append_length_succ {α : Type} (l : List α) (a b : α) (r : List α)
    (h : l.length + 1 < (l ++ a :: b :: r).length) : (l ++ a :: b :: r)[l.length + 1] = b := by
  rw [List.getElem_append_right (Nat.le_succ _)]; simp

/-- INTERNAL: changing the last item of a list. -/
@[simp] theorem modify_concat_length {α : Type} (f : α → α) (l : List α) (a : α) :
    (l ++ [a]).modify f l.length = l ++ [f a] := by
  induction l with
  | nil => rfl
  | cons b l ih => exact congrArg (b :: ·) ih

/-! ## The referenced conductor -/

/-- `_conductor`, when set, holds a conductor `_spawnConductor` returned and `kill` was
not invoked on. -/
def NotKilled (s : State) : Prop :=
  ∀ c, s.conductor = some c → ∃ sc : SpawnedConductor, s.spawned[c]? = some sc ∧
    sc.killInvoked = false

/-- INTERNAL: changing a conductor's `initialize()` state keeps `NotKilled`. -/
theorem NotKilled.modify_init {s : State} (hs : NotKilled s) (c : Nat) (st : InitState)
    (tasks : List Task) :
    NotKilled { s with spawned := s.spawned.modify (fun sc => { sc with init := st }) c,
                       tasks := tasks } := by
  intro c' hc'
  obtain ⟨sc, hsc, hk⟩ := hs c' hc'
  refine ⟨if c = c' then { sc with init := st } else sc, ?_, by split_ifs <;> exact hk⟩
  rw [List.getElem?_modify, hsc]
  split_ifs <;> rfl

/-- Every event keeps `NotKilled`. -/
theorem NotKilled.step {s s' : State} {a : Action} (hs : NotKilled s) (h : step s a = some s') :
    NotKilled s' := by
  cases a with
  | spawn =>
    cases h; unfold State.spawn; split_ifs <;> exact hs
  | kill =>
    cases h; unfold State.kill; split
    · intro c hc; cases hc
    · exact hs
  | resolve t =>
    simp only [Tryorama.Model.Player.step, State.resolve] at h
    split at h <;> cases h
    · exact hs
    · intro c hc
      cases hc
      exact ⟨_, List.getElem?_concat_length _ _, rfl⟩
    · exact hs.modify_init _ _ _
    · exact hs
    · exact hs
  | reject t =>
    simp only [Tryorama.Model.Player.step, State.reject] at h
    split at h <;> cases h
    · exact hs.modify_init _ _ _
    · exact hs

/-- In every reachable state, `_conductor` holds no conductor `kill` was invoked on. -/
theorem referenced_conductor_not_killed {s : State} (h : Reachable s) : NotKilled s := by
  induction h with
  | init => intro c hc; cases hc
  | step a _ h ih => exact ih.step h

/-- A conductor spawned and killed, and a second one spawned after it. -/
def respawnRun : List Action := [.spawn, .resolve 0, .resolve 0, .kill, .spawn, .resolve 2, .resolve 2]

/-- The player after `respawnRun`. -/
def respawned : State := (run State.init respawnRun).getD State.init

theorem respawned_references_live_conductor :
    Reachable respawned ∧ respawned.spawned = [⟨true, .pending⟩, ⟨false, .pending⟩] ∧
      respawned.conductor = some 1 ∧ NotKilled respawned :=
  have h : Reachable respawned := @Reachable.run State.init respawned respawnRun .init rfl
  ⟨h, rfl, rfl, referenced_conductor_not_killed h⟩

/-! ## Two spawns at once -/

/-- From any state with no conductor, two `spawn` calls whose `onJoin()` and
`_spawnConductor(...)` resolve in the order the calls were made leave the first conductor
spawned, not killed, and not in `_conductor`, and `_conductorGuard` admitting actions on the
second while its `initialize()` is pending. -/
theorem concurrent_spawns_orphan_first {s : State} (hs : s.conductor = none) :
    run s [.spawn, .spawn, .resolve s.tasks.length, .resolve (s.tasks.length + 1),
      .resolve s.tasks.length, .resolve (s.tasks.length + 1)] =
      some ⟨some (s.spawned.length + 1), s.spawned ++ [⟨false, .pending⟩, ⟨false, .pending⟩],
        s.tasks ++ [.spawnInitializing s.spawned.length,
          .spawnInitializing (s.spawned.length + 1)]⟩ := by
  simp [run, step, State.spawn, State.resolve, hs, List.set_append_right]

theorem two_spawns_on_new_player_orphan_first :
    State.init.conductor = none ∧
    run State.init [.spawn, .spawn, .resolve 0, .resolve 1, .resolve 0, .resolve 1] =
      some ⟨some 1, [⟨false, .pending⟩, ⟨false, .pending⟩],
        [.spawnInitializing 0, .spawnInitializing 1]⟩ :=
  ⟨rfl, concurrent_spawns_orphan_first rfl⟩

end Tryorama.Analysis.PlayerLifecycle
