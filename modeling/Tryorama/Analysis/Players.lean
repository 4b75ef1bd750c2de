import Tryorama.Analysis.Records
import Tryorama.Model.ScenarioApi

/-!
# Which players `_cleanup` cleans up

`players` merges the players it builds into `_localPlayers` by name, so a later call that
builds a player under a name already there replaces the earlier player in `_localPlayers`.
Nothing else refers to the earlier player, and it may have been spawned. Over every sequence
of `players` calls, whatever their machines, spawn arguments and outcomes, `_localPlayers`
holds under each name the last player built under it (`LatestByName`), and `_cleanup` calls
`cleanup` on exactly those players: a player that a later one of the same name replaced is
never cleaned up (`cleanup_calls_latest_players`).
-/

set_option autoImplicit false

namespace Tryorama.Analysis.Players

open Tryorama.Model Tryorama.Model.ScenarioApi Tryorama.Model.Orchestrator

/-! ## The builders -/

/-- INTERNAL: a pass of the loop over a machine's players stores one config under the
player's name. -/
theorem collectPlayer_ok {answers : PlayersAnswers} {endpoint name : String}
    {builders builders' : StrRecord Value} {seed : Value}
    (h : collectPlayer answers endpoint builders name seed = .ok builders') :
    ∃ cfg, builders' = Record.set builders name cfg := by
  by_cases h1 : seed = .fn
  swap
  · simp [collectPlayer, h1] at h
  by_cases h2 : endpoint = localMachineId
  swap
  · simp [collectPlayer, h1, h2] at h
  subst h1 h2
  rcases ha : answers.localConfigSeedArgs name with e | ⟨⟩
  · simp [collectPlayer, ha] at h
  rcases hc : answers.configSeed localMachineId name with e | cfg
  · simp [collectPlayer, ha, hc] at h
  simp only [collectPlayer, ha, hc, ne_eq, not_true_eq_false, if_false, except_pure,
    except_ok_bind] at h
  split at h
  · cases h
  · split_ifs at h
    exact ⟨cfg, (Except.ok.inj h).symm⟩

/-- INTERNAL: the loop over a machine's players keeps the builders' names distinct. -/
theorem nodup_keys_foldlM_collectPlayer {answers : PlayersAnswers} {endpoint : String} :
    ∀ {configs : List (String × Value)} {builders builders' : StrRecord Value},
      (builders.map (·.1)).Nodup →
      configs.foldlM (fun b (p : String × Value) => collectPlayer answers endpoint b p.1 p.2)
        builders = .ok builders' → (builders'.map (·.1)).Nodup
  | [], _, _, h, he => by cases he; exact h
  | p :: configs, builders, builders', h, he => by
    rw [List.foldlM_cons] at he
    rcases hp : collectPlayer answers endpoint builders p.1 p.2 with e | b <;> rw [hp] at he
    · cases he
    obtain ⟨cfg, rfl⟩ := collectPlayer_ok hp
    exact nodup_keys_foldlM_collectPlayer (Record.nodup_keys_set h _ _) he

/-- INTERNAL: the loop over the machines keeps the builders' names distinct. -/
theorem nodup_keys_collectMachines {answers : PlayersAnswers} :
    ∀ {machines : List (String × List (String × Value))} {clients clients' : List String}
      {builders builders' : StrRecord Value}, (builders.map (·.1)).Nodup →
      collectMachines answers clients builders machines = (clients', .ok builders') →
        (builders'.map (·.1)).Nodup
  | [], _, _, _, _, h, he => by cases he; exact h
  | (endpoint, configs) :: machines, clients, clients', builders, builders', h, he => by
    simp only [collectMachines] at he
    split at he
    · cases he
    split at he
    · cases he
    next b hb => exact nodup_keys_collectMachines (nodup_keys_foldlM_collectPlayer h hb) he

/-! ## The last player under each name -/

/-- Player `p` was built under `name`, and no player built after it was. -/
def IsLatest (built : List (String × Value)) (name : String) (p : Nat) : Prop :=
  (∃ cfg, built[p]? = some (name, cfg)) ∧ ∀ q cfg, p < q → built[q]? ≠ some (name, cfg)

/-- INTERNAL: with distinct names, two indices of a list with one name are one index. -/
theorem index_eq_of_nodup {l : List (String × Value)} (hnd : (l.map (·.1)).Nodup) {i j : Nat}
    {name : String} {v w : Value} (hi : l[i]? = some (name, v)) (hj : l[j]? = some (name, w)) :
    i = j := by
  have hi' : (l.map (·.1))[i]? = some name := by simp [hi]
  have hj' : (l.map (·.1))[j]? = some name := by simp [hj]
  exact List.getElem?_inj (List.getElem?_eq_some_iff.mp hi').1 hnd (hi'.trans hj'.symm)

/-- INTERNAL: building players under other names leaves the last player of a name. -/
theorem isLatest_append_of_not_mem {built l : List (String × Value)} {name : String}
    (h : name ∉ l.map (·.1)) (p : Nat) : IsLatest (built ++ l) name p ↔ IsLatest built name p := by
  have hnew : ∀ q cfg, built.length ≤ q → (built ++ l)[q]? ≠ some (name, cfg) := by
    intro q cfg hq he
    rw [List.getElem?_append_right hq] at he
    exact h (List.mem_map.mpr ⟨_, List.getElem?_mem he, rfl⟩)
  constructor
  · rintro ⟨⟨cfg, hp⟩, hlast⟩
    have hlt : p < built.length := Nat.lt_of_not_le fun hge => hnew p cfg hge hp
    refine ⟨⟨cfg, by rwa [List.getElem?_append_left hlt] at hp⟩, fun q cfg' hpq hq => ?_⟩
    exact hlast q cfg' hpq (by rwa [List.getElem?_append_left (List.getElem?_eq_some_iff.mp hq).1])
  · rintro ⟨⟨cfg, hp⟩, hlast⟩
    refine ⟨⟨cfg, by rwa [List.getElem?_append_left (List.getElem?_eq_some_iff.mp hp).1]⟩,
      fun q cfg' hpq hq => ?_⟩
    by_cases hlt : q < built.length
    · rw [List.getElem?_append_left hlt] at hq
      exact hlast q cfg' hpq hq
    · exact hnew q cfg' (Nat.le_of_not_lt hlt) hq

/-- INTERNAL: building players under distinct names makes the one built under `name` its
last player. -/
theorem isLatest_append_of_getElem? {built l : List (String × Value)} {name : String} {j : Nat}
    {cfg : Value} (hnd : (l.map (·.1)).Nodup) (hj : l[j]? = some (name, cfg)) (p : Nat) :
    IsLatest (built ++ l) name p ↔ p = built.length + j := by
  have hat : (built ++ l)[built.length + j]? = some (name, cfg) := by
    rw [List.getElem?_append_right (Nat.le_add_right _ _), Nat.add_sub_cancel_left, hj]
  -- a player built under `name` at or after `built.length` is the one at `j`
  have honly : ∀ q cfg', built.length ≤ q → (built ++ l)[q]? = some (name, cfg') →
      q = built.length + j := by
    intro q cfg' hq he
    rw [List.getElem?_append_right hq] at he
    have := index_eq_of_nodup hnd he hj
    omega
  constructor
  · rintro ⟨⟨cfg', hp⟩, hlast⟩
    by_contra hne
    rcases Nat.lt_or_ge p (built.length + j) with hlt | hge
    · exact hlast _ cfg hlt hat
    · exact hne (honly p cfg' (by omega) hp)
  · rintro rfl
    exact ⟨⟨cfg, hat⟩, fun q cfg' hpq hq => by have := honly q cfg' (by omega) hq; omega⟩

/-- `_localPlayers` has each name once, and holds under each name the last player built
under it. -/
structure LatestByName (s : ApiState) : Prop where
  nodup : (s.localPlayers.map (·.1)).Nodup
  latest : ∀ name p, Record.get s.localPlayers name = some p ↔ IsLatest s.built name p

/-- INTERNAL: the players a successful `players` call returns: the builders' names, in
order, with the indices the players get. -/
theorem newPlayers_getElem? (builders : StrRecord Value) (n j : Nat) :
    (builders.enum.map fun b => (b.2.1, n + b.1))[j]? =
      builders[j]?.map fun b => (b.1, n + j) := by
  simp [List.getElem?_enum, Function.comp_def]

/-- INTERNAL: their names are the builders'. -/
theorem newPlayers_keys (builders : StrRecord Value) (n : Nat) :
    (builders.enum.map fun b => (b.2.1, n + b.1)).map (·.1) = builders.map (·.1) := by
  rw [List.map_map]
  conv_rhs => rw [← List.enum_map_snd builders, List.map_map]
  rfl

/-- INTERNAL: merging the players built from distinct names into `_localPlayers` keeps
`LatestByName`. -/
theorem LatestByName.merge {s : ApiState} (hs : LatestByName s) {builders : StrRecord Value}
    (hnd : (builders.map (·.1)).Nodup) (clients : List String) (written : List (String × Value))
    (spawned : List Nat) :
    LatestByName ⟨(builders.enum.map fun b => (b.2.1, s.built.length + b.1)).foldl
      (fun r p => Record.set r p.1 p.2) s.localPlayers, clients, s.built ++ builders, written,
      spawned⟩ := by
  have hnd' := newPlayers_keys builders s.built.length ▸ hnd
  refine ⟨Record.nodup_keys_foldl_set (fun v => v) hs.nodup _, fun name p => ?_⟩
  dsimp only
  by_cases hmem : name ∈ builders.map (·.1)
  · obtain ⟨⟨name', cfg⟩, hb, rfl⟩ := List.mem_map.mp hmem
    obtain ⟨j, hj⟩ := List.getElem?_of_mem hb
    rw [isLatest_append_of_getElem? hnd hj, Record.get_foldl_set_of_mem (fun v => v) _ hnd'
      (List.getElem?_mem (by rw [newPlayers_getElem?, hj]; rfl))]
    exact ⟨fun h => (Option.some.inj h).symm, fun h => by rw [h]⟩
  · rw [isLatest_append_of_not_mem hmem, Record.get_foldl_set_of_not_mem (fun v => v) _
      (by rwa [newPlayers_keys]), hs.latest]

/-- Every `players` call keeps `LatestByName`. -/
theorem LatestByName.players {s : ApiState} (hs : LatestByName s) (answers : PlayersAnswers)
    (machines : List (String × List (String × Value))) (spawnArgs : Option Value) :
    LatestByName (players answers s machines spawnArgs).1 := by
  unfold ScenarioApi.players
  rcases hc : collectMachines answers s.trycpClients [] (Record.ownEntries machines) with
    ⟨clients, e | builders⟩
  · exact ⟨hs.nodup, hs.latest⟩
  have hnd := ((Record.ownEntries_perm builders).map (·.1)).nodup_iff.mpr
    (nodup_keys_collectMachines (by simp) hc)
  dsimp only
  split
  · exact ⟨hs.nodup, hs.latest⟩
  split
  · exact hs.merge hnd _ _ _
  · exact hs.merge hnd _ _ _

/-- Every reachable `ScenarioApi` has `LatestByName`. -/
theorem LatestByName.reachable {s : ApiState} (h : Reachable s) : LatestByName s := by
  induction h with
  | init => exact ⟨List.nodup_nil, fun name p => by simp [ApiState.init, IsLatest]⟩
  | players answers machines spawnArgs _ ih => exact ih.players answers machines spawnArgs

/-! ## Cleanup -/

/-- After any sequence of `players` calls, `_cleanup` calls `cleanup` on a player exactly
when it is the last player built under its name: a player replaced in `_localPlayers` by a
later one of the same name is never cleaned up. -/
theorem cleanup_calls_latest_players {s : ApiState} (hs : Reachable s) (p : Nat) :
    p ∈ (cleanup s).1 ↔ ∃ name, IsLatest s.built name p := by
  have hi := LatestByName.reachable hs
  simp only [cleanup, List.mem_map, Record.mem_ownEntries]
  constructor
  · rintro ⟨⟨name, p'⟩, hmem, rfl⟩
    exact ⟨name, (hi.latest name p').mp (Record.get_of_mem hi.nodup hmem)⟩
  · rintro ⟨name, hl⟩
    exact ⟨(name, p), Record.mem_of_get ((hi.latest name p).mpr hl), rfl⟩

/-- One local machine with one player, `alice`. -/
def aliceMachines : List (String × List (String × Value)) := [(localMachineId, [("alice", .fn)])]

/-- A config with an `environment_path`. -/
def aliceConfig : Value := .obj (.ofList [("environment_path", .str "/tmp/alice")])

/-- Seed arguments, seeds, writes and spawns that all go through. -/
def localAnswers : PlayersAnswers :=
  ⟨fun _ => .ok (), fun _ => .ok (), fun _ _ => .ok aliceConfig, fun _ => .ok (),
    fun _ => .ok (), fun _ => .ok ()⟩

/-- A `ScenarioApi` after `players` was called twice with `alice`, spawning by default. -/
def aliceTwice : ApiState :=
  (players localAnswers (players localAnswers ApiState.init aliceMachines none).1 aliceMachines
    none).1

theorem first_alice_spawned_never_cleaned_up :
    aliceTwice.spawned = [0, 1] ∧ (cleanup aliceTwice).1 = [1] ∧
      (0 ∈ (cleanup aliceTwice).1 ↔ ∃ name, IsLatest aliceTwice.built name 0) :=
  ⟨by decide, by decide, cleanup_calls_latest_players (.players _ _ _ (.players _ _ _ .init)) 0⟩

end Tryorama.Analysis.Players
