import Tryorama.Analysis.Records
import Tryorama.Model.EnableApp

/-!
# Which cells an `AgentApp` resolves

`enableAndGetAgentApp` turns every `Provisioned` cell and every `Cloned` cell with a clone
id of `cell_info` into a callable cell, in role-key order and then array order, and throws
on anything else (`declaredCells`, `enableAndGetAgentApp_toOption`). `namedCells` files
each under a name, the role name or the clone id, with `Map.set`: a second cell filed under
a name replaces the first. With two `Provisioned` cells in one role the first is in `cells`
but under no name (`first_provisioned_cell_unnamed`). When the names the cells are filed
under are pairwise distinct, every cell is found under its own name
(`enableAndGetAgentApp_files_every_cell`).
-/

set_option autoImplicit false

namespace Tryorama.Analysis.CellResolution

open Tryorama.Model Tryorama.Model.EnableApp

/-! ## The cells `cell_info` declares -/

/-- A `cellInfo` of role `roleName` as a declared cell, with the name it is filed under: a
`Provisioned` cell under the role name, a `Cloned` one with a truthy clone id under the
clone id; `none` for anything else. -/
def declaredCell (roleName : String) : Value → Option (Value × Value)
  | .obj fs =>
    match fs.get "provisioned", fs.get "cloned" with
    | some cell, _ => some (.str roleName, cell)
    | none, some cell =>
      if ((cell.get? "clone_id").getD .null).truthy then some ((cell.get? "clone_id").getD .null, cell)
      else none
    | none, none => none
  | _ => none

/-- The declared cells of `cell_info`, in role-key order and then array order; `none` when
some `cellInfo` is not one. -/
def declaredCells : List (String × List Value) → Option (List (Value × Value))
  | [] => some []
  | role :: roles => do
    let ds ← role.2.mapM (declaredCell role.1)
    let rest ← declaredCells roles
    pure (ds ++ rest)

/-- `cells` and `namedCells` after filing the declared cells `ds`, with agent key `k`. -/
def fileCells (k : Value) (acc : List CallableCell × NamedCells) (ds : List (Value × Value)) :
    List CallableCell × NamedCells :=
  (acc.1 ++ ds.map (fun d => getCallableCell d.2 k),
    ds.foldl (fun m d => m.set d.1 (getCallableCell d.2 k)) acc.2)

variable (k : Value)

@[simp] theorem fileCells_nil (acc : List CallableCell × NamedCells) : fileCells k acc [] = acc := by
  simp [fileCells]

theorem fileCells_append (acc : List CallableCell × NamedCells) (ds₁ ds₂ : List (Value × Value)) :
    fileCells k (fileCells k acc ds₁) ds₂ = fileCells k acc (ds₁ ++ ds₂) := by
  simp [fileCells]

/-! ## The loops -/

/-- INTERNAL: the body of the inner loop files a declared cell, and throws on anything
else. -/
theorem addCell_toOption (roleName : String) (acc : List CallableCell × NamedCells)
    (cellInfo : Value) :
    (addCell k roleName acc cellInfo).toOption =
      (declaredCell roleName cellInfo).map fun d => fileCells k acc [d] := by
  cases cellInfo with
  | obj fs =>
    simp only [addCell, declaredCell, Value.hasKey, Value.get?]
    rcases fs.get "provisioned" with _ | cell <;> rcases fs.get "cloned" with _ | cloned
    · rfl
    · by_cases hn : cloned = .null
      · subst hn; rfl
      · simp only [hn, Option.isSome_none, Option.isSome_some, Option.getD_some, Option.map_if]
        split <;> simp [fileCells, Except.toOption]
    all_goals simp [fileCells, Except.toOption]
  | _ => rfl

/-- INTERNAL: the inner loop files the declared cells of a role, or throws when one of its
`cellInfo`s is not one. -/
theorem foldlM_addCell (roleName : String) :
    ∀ (cellInfos : List Value) (acc : List CallableCell × NamedCells),
      (cellInfos.foldlM (addCell k roleName) acc).toOption =
        (cellInfos.mapM (declaredCell roleName)).map (fileCells k acc)
  | [], acc => by simp [-List.mapM, Except.toOption]
  | cellInfo :: cellInfos, acc => by
    have hcell := addCell_toOption k roleName acc cellInfo
    rw [List.foldlM_cons, List.mapM_cons]
    rcases h : addCell k roleName acc cellInfo with e | acc' <;> rw [h] at hcell
    · simp [Option.map_eq_none'.mp hcell.symm, Except.toOption]
    · obtain ⟨d, hd, rfl⟩ := Option.map_eq_some'.mp hcell.symm
      rw [except_ok_bind, foldlM_addCell roleName cellInfos, hd]
      cases cellInfos.mapM (declaredCell roleName) <;> simp [fileCells_append]

/-- INTERNAL: the outer loop files the declared cells of every role, or throws. -/
theorem foldlM_roles :
    ∀ (roles : List (String × List Value)) (acc : List CallableCell × NamedCells),
      (roles.foldlM (fun acc (role : String × List Value) => role.2.foldlM (addCell k role.1) acc)
        acc).toOption =
        (declaredCells roles).map (fileCells k acc)
  | [], acc => by simp [declaredCells, Except.toOption]
  | role :: roles, acc => by
    have hrole := foldlM_addCell k role.1 role.2 acc
    simp only [List.foldlM_cons, declaredCells]
    rcases h : role.2.foldlM (addCell k role.1) acc with e | acc'
    · rw [h] at hrole
      simp [Option.map_eq_none'.mp hrole.symm, -List.mapM, Except.toOption]
    · rw [h] at hrole
      obtain ⟨ds, hds, rfl⟩ := Option.map_eq_some'.mp hrole.symm
      rw [except_ok_bind, foldlM_roles roles, hds]
      cases declaredCells roles <;> simp [fileCells_append]

/-- With no errors from `enableApp`, `enableAndGetAgentApp` returns exactly when every
`cellInfo` is a declared cell, and then its `cells` and `namedCells` are those of the
declared cells, filed in order. -/
theorem enableAndGetAgentApp_toOption (info : AppInfo) :
    (enableAndGetAgentApp (.ok []) k info).toOption = (declaredCells info.cellInfo).map fun ds =>
      ⟨info.installedAppId, k, (fileCells k ([], []) ds).1, (fileCells k ([], []) ds).2⟩ := by
  have hroles := foldlM_roles k info.cellInfo ([], [])
  simp only [enableAndGetAgentApp, except_ok_bind, List.length_nil, bne_self_eq_false,
    Bool.false_eq_true, if_false, except_pure]
  rcases h : info.cellInfo.foldlM
    (fun acc (role : String × List Value) => role.2.foldlM (addCell k role.1) acc) ([], []) with
    e | acc
  · rw [h] at hroles
    simp [Option.map_eq_none'.mp hroles.symm, Except.toOption]
  · rw [h] at hroles
    obtain ⟨ds, hds, rfl⟩ := Option.map_eq_some'.mp hroles.symm
    simp [hds, Except.toOption]

/-- INTERNAL: a `cellInfo` that is not a declared cell leaves its role with none. -/
theorem mapM_declaredCell_eq_none {roleName : String} :
    ∀ {cellInfos : List Value}, (∃ c ∈ cellInfos, declaredCell roleName c = none) →
      cellInfos.mapM (declaredCell roleName) = none
  | [], ⟨_, h, _⟩ => absurd h (List.not_mem_nil _)
  | c' :: cellInfos, ⟨c, hc, hn⟩ => by
    rw [List.mapM_cons]
    rcases List.mem_cons.mp hc with rfl | hc
    · simp [hn]
    · cases declaredCell roleName c' <;> simp [mapM_declaredCell_eq_none ⟨c, hc, hn⟩, -List.mapM]

/-- INTERNAL: a `cellInfo` that is not a declared cell leaves `cell_info` with none. -/
theorem declaredCells_eq_none :
    ∀ {roles : List (String × List Value)},
      (∃ role ∈ roles, ∃ c ∈ role.2, declaredCell role.1 c = none) → declaredCells roles = none
  | [], ⟨_, h, _⟩ => absurd h (List.not_mem_nil _)
  | r :: roles, ⟨role, hr, hc⟩ => by
    simp only [declaredCells]
    rcases List.mem_cons.mp hr with rfl | hr
    · simp [mapM_declaredCell_eq_none hc, -List.mapM]
    · cases r.2.mapM (declaredCell r.1) <;> simp [declaredCells_eq_none ⟨role, hr, hc⟩]

/-! ## `callZome` -/

/-- What `callZome(request)` of the callable cell of `cell` with agent key `k` passes on:
`request`'s own fields, with `cap_secret` null, the cell's `cell_id`, and `provenance` and
`payload` defaulted to `k` and null. -/
structure Forwards (cell k : Value) (request sent : Fields) : Prop where
  capSecret : sent.get "cap_secret" = some .null
  cellId : sent.get "cell_id" = some ((cell.get? "cell_id").getD .null)
  provenance : sent.get "provenance" = some (Value.nullish (request.get "provenance") k)
  payload : sent.get "payload" = some (Value.nullish (request.get "payload") .null)
  rest : ∀ key, key ≠ "cap_secret" → key ≠ "cell_id" → key ≠ "provenance" → key ≠ "payload" →
    sent.get key = request.get key

/-- The `callZome` of a callable cell forwards every request as `Forwards` says, unless the
cell is nullish. -/
theorem callZome_forwards (cell : Value) (request : Fields) (hcell : cell ≠ .null) :
    ∃ sent, (getCallableCell cell k).callZome request = .ok sent ∧
      Forwards cell k request sent := by
  simp only [getCallableCell, CallableCell.callZome]
  exact ⟨_, rfl, by simp, by simp, by simp, by simp, fun key h₁ h₂ h₃ h₄ => by simp [*]⟩

/-! ## Every cell, and every cell under its name -/

/-- An `AgentApp` of agent key `k` that resolves the declared cells `ds` of `info`: its id
and key, its `cells` in order, each found in `namedCells` under its name, and each one's
`callZome` forwarding to its cell. -/
structure ResolvesCells (k : Value) (info : AppInfo) (ds : List (Value × Value)) (app : AgentApp) :
    Prop where
  appId : app.appId = info.installedAppId
  agentPubKey : app.agentPubKey = k
  cells : app.cells = ds.map fun d => getCallableCell d.2 k
  named : ∀ d ∈ ds, app.namedCells.get d.1 = some (getCallableCell d.2 k)
  callZome : ∀ d ∈ ds, d.2 ≠ .null → ∀ request, ∃ sent,
    (getCallableCell d.2 k).callZome request = .ok sent ∧ Forwards d.2 k request sent

/-- With no errors from `enableApp`: when every `cellInfo` is a `Provisioned` cell or a
`Cloned` one with a clone id, and the names they are filed under (the role name, the clone
id) are pairwise distinct, `enableAndGetAgentApp` returns an `AgentApp` that resolves all of
them; when some `cellInfo` is neither, it throws. -/
theorem enableAndGetAgentApp_files_every_cell (info : AppInfo) :
    (∀ ds, declaredCells info.cellInfo = some ds → (ds.map (·.1)).Nodup →
      ∃ app, enableAndGetAgentApp (.ok []) k info = .ok app ∧ ResolvesCells k info ds app) ∧
    ((∃ role ∈ info.cellInfo, ∃ c ∈ role.2, declaredCell role.1 c = none) →
      ∃ e, enableAndGetAgentApp (.ok []) k info = .error e) := by
  have h := enableAndGetAgentApp_toOption k info
  refine ⟨fun ds hds hnd => ?_, fun hbad => ?_⟩
  · rw [hds] at h
    rcases hr : enableAndGetAgentApp (.ok []) k info with e | app <;> rw [hr] at h <;> cases h
    exact ⟨_, rfl, ⟨rfl, rfl, by simp [fileCells],
      fun d hd => Record.get_foldl_set_of_mem (getCallableCell · k) [] hnd hd, fun d _ hcell request => callZome_forwards k d.2 request hcell⟩⟩
  · rw [declaredCells_eq_none hbad] at h
    rcases hr : enableAndGetAgentApp (.ok []) k info with e | app <;> rw [hr] at h <;> cases h
    exact ⟨e, rfl⟩

/-- A cell with `cell_id` `1`. -/
def cellOne : Value := .obj (.ofList [("cell_id", .num 1)])

/-- A cell with `cell_id` `2`. -/
def cellTwo : Value := .obj (.ofList [("cell_id", .num 2)])

/-- Two `Provisioned` cells of one role. -/
def twoProvisioned : AppInfo :=
  ⟨"app", [("role", [.obj (.ofList [("provisioned", cellOne)]),
    .obj (.ofList [("provisioned", cellTwo)])])], by decide⟩

/-- The role names of `twoProvisioned` are distinct and it has no clone ids, yet its first
cell is in `cells` and under no name in `namedCells`: the second `set` under the role name
replaced it. -/
theorem first_provisioned_cell_unnamed :
    ∃ app, enableAndGetAgentApp (.ok []) (.bin [7]) twoProvisioned = .ok app ∧
      getCallableCell cellOne (.bin [7]) ∈ app.cells ∧
      ∀ name, app.namedCells.get name ≠ some (getCallableCell cellOne (.bin [7])) := by
  refine ⟨_, rfl, by decide, fun name => ?_⟩
  simp only [Record.get]
  split <;> simp [getCallableCell, cellOne, cellTwo, Fields.ofList, Value.get?, Fields.get]

/-- A clone `role.0` with `cell_id` `2`. -/
def cloneTwo : Value := .obj (.ofList [("cell_id", .num 2), ("clone_id", .str "role.0")])

/-- A `Provisioned` cell and a clone, in one role. -/
def provisionedAndClone : AppInfo :=
  ⟨"app", [("role", [.obj (.ofList [("provisioned", cellOne)]),
    .obj (.ofList [("cloned", cloneTwo)])])], by decide⟩

/-- The declared cells of `provisionedAndClone`. -/
def provisionedAndCloneCells : List (Value × Value) := [(.str "role", cellOne), (.str "role.0", cloneTwo)]

/-- A role whose one cell is a stem cell. -/
def stemOnly : AppInfo := ⟨"app", [("role", [.obj (.ofList [("stem", .obj .nil)])])], by decide⟩

theorem provisioned_and_clone_resolved :
    (declaredCells provisionedAndClone.cellInfo = some provisionedAndCloneCells ∧
      (provisionedAndCloneCells.map (·.1)).Nodup ∧
      ∃ app, enableAndGetAgentApp (.ok []) (.bin [7]) provisionedAndClone = .ok app ∧
        ResolvesCells (.bin [7]) provisionedAndClone provisionedAndCloneCells app) ∧
    ((∃ role ∈ stemOnly.cellInfo, ∃ c ∈ role.2, declaredCell role.1 c = none) ∧
      ∃ e, enableAndGetAgentApp (.ok []) (.bin [7]) stemOnly = .error e) :=
  have hds : declaredCells provisionedAndClone.cellInfo = some provisionedAndCloneCells := rfl
  have hnd : (provisionedAndCloneCells.map (·.1)).Nodup := by decide
  have hbad : ∃ role ∈ stemOnly.cellInfo, ∃ c ∈ role.2, declaredCell role.1 c = none :=
    ⟨_, List.mem_singleton_self _, _, List.mem_singleton_self _, rfl⟩
  ⟨⟨hds, hnd, (enableAndGetAgentApp_files_every_cell (.bin [7]) provisionedAndClone).1 _ hds hnd⟩,
    hbad, (enableAndGetAgentApp_files_every_cell (.bin [7]) stemOnly).2 hbad⟩

end Tryorama.Analysis.CellResolution
