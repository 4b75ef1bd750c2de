import Mathlib.Data.List.Nodup
import Tryorama.Model.Value

/-!
# Records written key by key

`_agentIdToKey`, `namedCells`, `_localPlayers`, the builders of `ScenarioApi.players`,
`desugarConductorConfig`'s result and the groups of `_.groupBy` are records a loop writes
one key at a time, each entry of a list under its key, with a value made from the entry.
The lemmas here say what such writes leave: which entries a record has, which keys, and
what a read finds.
-/

set_option autoImplicit false

namespace Tryorama.Model.Record

variable {κ α : Type} [DecidableEq κ]

/-- An entry `get` finds is an entry of the record. -/
theorem mem_of_get {r : Record κ α} {k : κ} {v : α} (h : get r k = some v) : (k, v) ∈ r := by
  induction r with
  | nil => simp at h
  | cons e r ih =>
    obtain ⟨k', w⟩ := e
    by_cases he : k' = k
    · simp only [get, he, ↓reduceIte, Option.some.injEq] at h
      subst he h
      exact List.mem_cons_self _ _
    · simp only [get, he, ↓reduceIte] at h
      exact List.mem_cons_of_mem _ (ih h)

/-- With distinct keys, `get` finds every entry of the record. -/
theorem get_of_mem {r : Record κ α} (hnd : (r.map (·.1)).Nodup) {k : κ} {v : α}
    (h : (k, v) ∈ r) : get r k = some v := by
  induction r with
  | nil => simp at h
  | cons e r ih =>
    obtain ⟨k', w⟩ := e
    rw [List.map_cons, List.nodup_cons] at hnd
    rcases List.mem_cons.mp h with he | h
    · cases he; simp [get]
    · have hk : k' ≠ k := fun hk => hnd.1 (hk ▸ List.mem_map_of_mem (·.1) h)
      simp [get, hk, ih hnd.2 h]

/-- The entries of a record after a write are old entries or the one written. -/
theorem mem_set {r : Record κ α} {k k' : κ} {v v' : α} (h : (k', v') ∈ set r k v) :
    (k', v') ∈ r ∨ (k' = k ∧ v' = v) := by
  induction r with
  | nil => simpa [set] using h
  | cons e r ih =>
    obtain ⟨k₀, w⟩ := e
    by_cases he : k₀ = k
    · simp only [set, he, ↓reduceIte, List.mem_cons, Prod.mk.injEq] at h
      exact h.imp_right (List.mem_cons_of_mem _) |>.symm
    · simp only [set, he, ↓reduceIte, List.mem_cons] at h
      rcases h with h | h
      · exact .inl (h ▸ List.mem_cons_self _ _)
      · exact (ih h).imp_left (List.mem_cons_of_mem _)

/-- The keys after a write: the same keys, or the new one appended. -/
theorem keys_set (r : Record κ α) (k : κ) (v : α) :
    (set r k v).map (·.1) = if k ∈ r.map (·.1) then r.map (·.1) else r.map (·.1) ++ [k] := by
  induction r with
  | nil => rfl
  | cons e r ih =>
    by_cases h : e.1 = k
    · simp [set, h]
    · simp only [set, h, if_false, List.map_cons, ih, List.mem_cons, Ne.symm h, false_or]
      split_ifs <;> rfl

/-- A write keeps the keys pairwise distinct. -/
theorem nodup_keys_set {r : Record κ α} (h : (r.map (·.1)).Nodup) (k : κ) (v : α) :
    ((set r k v).map (·.1)).Nodup := by
  rw [keys_set]
  split_ifs with hk
  · exact h
  · exact h.append (List.nodup_singleton k) (List.disjoint_singleton.mpr hk)

/-- `Object.entries` lists each property once: its entries are those of the record, in
another order. -/
theorem ownEntries_perm (r : StrRecord α) : (ownEntries r).Perm r := by
  have hnone : (r.filter fun e => (arrayIndex? e.1).isNone) = r.filter fun e => !(arrayIndex? e.1).isSome :=
    List.filter_congr fun e _ => by cases arrayIndex? e.1 <;> rfl
  rw [ownEntries, hnone]
  exact ((List.perm_insertionSort _ _).append_right _).trans (List.filter_append_perm _ r)

@[simp] theorem mem_ownEntries {r : StrRecord α} {e : String × α} : e ∈ ownEntries r ↔ e ∈ r :=
  (ownEntries_perm r).mem_iff

section Fold

variable {β : Type} (f : β → α)

/-- Writing the entries of a list leaves the keys it does not have. -/
theorem get_foldl_set_of_not_mem {l : List (κ × β)} {k : κ} (r : Record κ α)
    (h : k ∉ l.map (·.1)) : get (l.foldl (fun r p => set r p.1 (f p.2)) r) k = get r k := by
  induction l generalizing r with
  | nil => rfl
  | cons p l ih =>
    simp only [List.map_cons, List.mem_cons, not_or] at h
    rw [List.foldl_cons, ih _ h.2, get_set_ne _ _ h.1]

/-- With distinct keys, writing the entries of a list leaves each of its keys with the value
made from its entry. -/
theorem get_foldl_set_of_mem {l : List (κ × β)} {k : κ} {b : β} (r : Record κ α)
    (hnd : (l.map (·.1)).Nodup) (h : (k, b) ∈ l) :
    get (l.foldl (fun r p => set r p.1 (f p.2)) r) k = some (f b) := by
  induction l generalizing r with
  | nil => simp at h
  | cons p l ih =>
    rw [List.map_cons, List.nodup_cons] at hnd
    rw [List.foldl_cons]
    rcases List.mem_cons.mp h with rfl | h
    · rw [get_foldl_set_of_not_mem f _ hnd.1, get_set_self]
    · exact ih _ hnd.2 h

/-- Writing a list's entries one by one keeps the keys pairwise distinct. -/
theorem nodup_keys_foldl_set {r : Record κ α} (h : (r.map (·.1)).Nodup) (l : List (κ × β)) :
    ((l.foldl (fun r p => set r p.1 (f p.2)) r).map (·.1)).Nodup := by
  induction l generalizing r with
  | nil => exact h
  | cons p l ih => exact ih (nodup_keys_set h p.1 _)

end Fold

end Tryorama.Model.Record
