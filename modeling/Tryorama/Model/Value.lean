import Mathlib.Data.List.Sort

/-!
# JavaScript values as the TryCP client sees them

The client (`trycp-client.ts`) builds plain objects, reads and writes their
properties, and hands them to `msgpack.encode`. A `Value` is such an object as
msgpack sees it: `null` and `undefined` both become `nil`, numbers are the
integers the code sends (ids, ports), `Uint8Array`s are byte strings, and a
function is the one kind of value `msgpack.encode` refuses.

`Values` and `Fields` are the arrays and the property lists of objects, in
property order; they are their own inductives so that every function over
values is structurally recursive and `decide` can run it.

`MsgPack` is the contract of `@msgpack/msgpack`, which the sources call but do
not contain: it encodes exactly the packable values and decodes what it
encoded. Every result of the project holds for each codec that keeps it.
-/

set_option autoImplicit false

namespace Tryorama.Model

/-- A byte string (`Buffer`, `Uint8Array`). -/
abbrev Bytes := List UInt8

mutual
/-- A JavaScript value, up to what `msgpack.encode` distinguishes. -/
inductive Value where
  | null
  | bool (b : Bool)
  | num (n : Int)
  | str (s : String)
  | bin (b : Bytes)
  | arr (items : Values)
  | obj (fields : Fields)
  | fn
  deriving Repr, DecidableEq
/-- The items of an array. -/
inductive Values where
  | nil
  | cons (head : Value) (tail : Values)
  deriving Repr, DecidableEq
/-- The properties of an object, in their order. -/
inductive Fields where
  | nil
  | cons (key : String) (value : Value) (tail : Fields)
  deriving Repr, DecidableEq
end

/-- The rejection reason of a TryCP call (`TryCpResponseErrorValue = string | Error`). -/
inductive ErrorValue where
  | str (s : String)
  | error (message : String)
  deriving Repr, DecidableEq

/-- A `TypeError` the runtime throws (an `in` test, or a property read or write, on a
primitive). -/
def typeError : ErrorValue := .error "TypeError"

/-- INTERNAL: `throw` in a `do` block of the model. -/
@[simp] theorem except_throw {ε α : Type} (e : ε) : (throw e : Except ε α) = .error e := rfl

/-- INTERNAL: a `do` block of the model returns. -/
@[simp] theorem except_pure {ε α : Type} (a : α) : (pure a : Except ε α) = .ok a := rfl

/-- INTERNAL: a `do` block of the model goes on after a step that returned. -/
@[simp] theorem except_ok_bind {ε α β : Type} (a : α) (f : α → Except ε β) :
    (Except.ok a >>= f) = f a := rfl

/-- INTERNAL: a `do` block of the model stops at a step that threw. -/
@[simp] theorem except_error_bind {ε α β : Type} (e : ε) (f : α → Except ε β) :
    (Except.error e >>= f) = .error e := rfl

namespace Values

/-- The items as a list. -/
def toList : Values → List Value
  | .nil => []
  | .cons v vs => v :: vs.toList

/-- An array of the list's items. -/
def ofList : List Value → Values
  | [] => .nil
  | v :: vs => .cons v (ofList vs)

/-- The array's `length`. -/
def length : Values → Nat
  | .nil => 0
  | .cons _ vs => vs.length + 1

@[simp] theorem ofList_toList : ∀ vs : Values, ofList vs.toList = vs
  | .nil => rfl
  | .cons v vs => by rw [toList, ofList, ofList_toList vs]

end Values

namespace Fields

/-- The properties as a list of pairs. -/
def toList : Fields → List (String × Value)
  | .nil => []
  | .cons k v fs => (k, v) :: fs.toList

/-- An object with the list's properties, in order. -/
def ofList : List (String × Value) → Fields
  | [] => .nil
  | (k, v) :: fs => .cons k v (ofList fs)

/-- The number of properties. -/
def length : Fields → Nat
  | .nil => 0
  | .cons _ _ fs => fs.length + 1

@[simp] theorem ofList_toList : ∀ fs : Fields, ofList fs.toList = fs
  | .nil => rfl
  | .cons k v fs => by rw [toList, ofList, ofList_toList fs]

/-- `o[key]` on an object's properties; `none` is `undefined`. -/
def get : Fields → String → Option Value
  | .nil, _ => none
  | .cons k v fs, key => if k = key then some v else fs.get key

/-- `o[key] = v`: an existing property keeps its place, a new one is appended. -/
def set : Fields → String → Value → Fields
  | .nil, key, v => .cons key v .nil
  | .cons k w fs, key, v => if k = key then .cons k v fs else .cons k w (fs.set key v)

@[simp] theorem get_set_self : ∀ (fs : Fields) (key : String) (v : Value),
    (fs.set key v).get key = some v
  | .nil, key, v => by simp [set, get]
  | .cons k w fs, key, v => by
    by_cases h : k = key <;> simp [set, get, h, get_set_self fs key v]

@[simp] theorem get_set_ne : ∀ (fs : Fields) {key key' : String} (v : Value),
    key' ≠ key → (fs.set key v).get key' = fs.get key'
  | .nil, _, _, v, h => by simp [set, get, Ne.symm h]
  | .cons k w fs, key, key', v, h => by
    by_cases hk : k = key <;> by_cases hk' : k = key' <;>
      simp_all [set, get, get_set_ne fs v h]

/-- Writing a property twice keeps the second value. -/
@[simp] theorem set_set : ∀ (fs : Fields) (key : String) (v w : Value),
    (fs.set key v).set key w = fs.set key w
  | .nil, key, v, w => by simp [set]
  | .cons k u fs, key, v, w => by by_cases h : k = key <;> simp [set, h, set_set fs key v w]

/-- Writing a property the value it has changes nothing. -/
theorem set_of_get : ∀ (fs : Fields) {key : String} {v : Value}, fs.get key = some v →
    fs.set key v = fs
  | .nil, _, _, h => by simp [get] at h
  | .cons k u fs, key, v, h => by
    by_cases hk : k = key
    · subst hk; simp only [get, if_true, Option.some.injEq] at h; simp [set, h]
    · simp only [get, hk, if_false] at h; simp [set, hk, set_of_get fs h]

end Fields

namespace Value

/-- `v[key]` on an object; any other value has no own property the code reads. -/
def get? : Value → String → Option Value
  | .obj fs, key => fs.get key
  | _, _ => none

/-- `key in v`: `none` when `in` throws a `TypeError` because `v` is no object. For the
keys the code tests (`data`), arrays, byte arrays and functions have no such property. -/
def hasKey : Value → String → Option Bool
  | .obj fs, key => some (fs.get key).isSome
  | .arr _, _ | .bin _, _ | .fn, _ => some false
  | _, _ => none

/-- `v[key] = w` on an object; `none` when the assignment throws (strict mode). -/
def set? : Value → String → Value → Option Value
  | .obj fs, key, w => some (.obj (fs.set key w))
  | _, _, _ => none

/-- `if (v)`: JavaScript truthiness. -/
def truthy : Value → Bool
  | .null => false
  | .bool b => b
  | .num n => n != 0
  | .str s => !s.isEmpty
  | _ => true

/-- `v ?? d` for a property `v` as read (`none` is `undefined`): `d` when `v` is nullish. -/
def nullish : Option Value → Value → Value
  | some .null, d | none, d => d
  | some v, _ => v

/-- `v.type === t`. -/
def typeIs (v : Value) (t : String) : Bool := decide (v.get? "type" = some (.str t))

end Value

/-- A `Map<κ, α>`, or a TypeScript object keyed by `κ`, as its entries in insertion order. -/
abbrev Record (κ α : Type) := List (κ × α)

/-- A TypeScript object keyed by numbers (`Record<number, α>`, `{[index: string]: α}`). -/
abbrev NumRecord (α : Type) := Record Nat α

/-- A `Map<string, α>`, or a TypeScript object keyed by strings (`ObjectS<α>`). -/
abbrev StrRecord (α : Type) := Record String α

namespace Record

variable {κ α : Type} [DecidableEq κ]

/-- `m.get(k)`, `r[k]`; `none` is `undefined`. -/
def get : Record κ α → κ → Option α
  | [], _ => none
  | (k', v) :: r, k => if k' = k then some v else get r k

/-- `m.set(k, v)`, `r[k] = v`: an existing entry keeps its place, a new one is appended. -/
def set : Record κ α → κ → α → Record κ α
  | [], k, v => [(k, v)]
  | (k', w) :: r, k, v => if k' = k then (k', v) :: r else (k', w) :: set r k v

/-- `delete r[k]`, `m.delete(k)`. -/
def delete (r : Record κ α) (k : κ) : Record κ α := r.filter (·.1 ≠ k)

@[simp] theorem get_nil (k : κ) : get ([] : Record κ α) k = none := rfl

@[simp] theorem get_set_self (r : Record κ α) (k : κ) (v : α) : (r.set k v).get k = some v := by
  induction r with
  | nil => simp [set, get]
  | cons e r ih => by_cases h : e.1 = k <;> simp [set, get, h, ih]

@[simp] theorem get_set_ne (r : Record κ α) {k k' : κ} (v : α) (h : k' ≠ k) :
    (r.set k v).get k' = r.get k' := by
  induction r with
  | nil => simp [set, get, Ne.symm h]
  | cons e r ih => by_cases hk : e.1 = k <;> by_cases hk' : e.1 = k' <;> simp_all [set, get]

@[simp] theorem get_delete_self (r : Record κ α) (k : κ) : (r.delete k).get k = none := by
  induction r with
  | nil => rfl
  | cons e r ih => by_cases h : e.1 = k <;> simp_all [delete, get, List.filter_cons]

@[simp] theorem get_delete_ne (r : Record κ α) {k k' : κ} (h : k' ≠ k) :
    (r.delete k).get k' = r.get k' := by
  induction r with
  | nil => rfl
  | cons e r ih =>
    by_cases hk : e.1 = k <;> by_cases hk' : e.1 = k' <;> simp_all [delete, get, List.filter_cons]

/-- INTERNAL: reading after a write, by cases on the key. -/
theorem get_set (r : Record κ α) (k k' : κ) (v : α) :
    (r.set k v).get k' = if k' = k then some v else r.get k' := by
  split_ifs with h
  · exact h ▸ get_set_self r k v
  · exact get_set_ne r v h

/-- INTERNAL: reading after a delete, by cases on the key. -/
theorem get_delete (r : Record κ α) (k k' : κ) :
    (r.delete k).get k' = if k' = k then none else r.get k' := by
  split_ifs with h
  · exact h ▸ get_delete_self r k
  · exact get_delete_ne r h

/-- The properties every plain object inherits from `Object.prototype`. -/
def objectPrototypeKeys : List String :=
  ["constructor", "__defineGetter__", "__defineSetter__", "hasOwnProperty", "__lookupGetter__",
    "__lookupSetter__", "isPrototypeOf", "propertyIsEnumerable", "toString", "valueOf",
    "__proto__", "toLocaleString"]

/-- `o[k]` on a plain object `o` with own properties `r`: its own property, else what it
inherits from `Object.prototype` (a method, or the prototype itself for `__proto__`); `none`
is `undefined`. -/
def getProp (r : StrRecord Value) (k : String) : Option Value :=
  match r.get k with
  | some v => some v
  | none => if k ∈ objectPrototypeKeys then some (if k = "__proto__" then .obj .nil else .fn) else none

/-- The array index a property key names: `n` when the key is `ToString(n)` for an `n` below
`2^32 - 1 = 4294967295` (ECMA-262, array index); `none` for any other key. -/
def arrayIndex? (k : String) : Option Nat :=
  let n := k.toList.foldl (fun n c => 10 * n + (c.toNat - '0'.toNat)) 0
  if Nat.toDigits 10 n = k.toList ∧ n < 4294967295 then some n else none

/-- The order `Object.keys`, `Object.entries`, `Object.values`, `_.toPairs` and `_.values`
list an object's properties in (`OrdinaryOwnPropertyKeys`): those keyed by an array index,
in ascending order, then the others in insertion order. -/
def ownEntries (r : StrRecord α) : StrRecord α :=
  (r.filter fun e => (arrayIndex? e.1).isSome).insertionSort
      (fun a b => (arrayIndex? a.1).getD 0 ≤ (arrayIndex? b.1).getD 0) ++
    r.filter fun e => (arrayIndex? e.1).isNone

end Record

/-- The nesting limit of `msgpack.encode` (`maxDepth`, 100 by default). -/
def maxDepth : Nat := 100

mutual
/-- Nesting depth as `msgpack.encode` counts it: the value itself is at depth 1. -/
def Value.depth : Value → Nat
  | .arr items => items.depth + 1
  | .obj fields => fields.depth + 1
  | _ => 1
/-- The largest depth of an array's items. -/
def Values.depth : Values → Nat
  | .nil => 0
  | .cons v vs => max v.depth vs.depth
/-- The largest depth of an object's property values. -/
def Fields.depth : Fields → Nat
  | .nil => 0
  | .cons _ v fs => max v.depth fs.depth
end

mutual
/-- No function value anywhere inside. -/
def Value.noFn : Value → Bool
  | .fn => false
  | .arr items => items.noFn
  | .obj fields => fields.noFn
  | _ => true
/-- No function value in any item. -/
def Values.noFn : Values → Bool
  | .nil => true
  | .cons v vs => v.noFn && vs.noFn
/-- No function value in any property. -/
def Fields.noFn : Fields → Bool
  | .nil => true
  | .cons _ v fs => v.noFn && fs.noFn
end

/-- Replacing a property by a value of the same depth keeps an object's depth. -/
theorem Fields.depth_set : ∀ (fs : Fields) {key : String} {v w : Value}, fs.get key = some v →
    w.depth = v.depth → (fs.set key w).depth = fs.depth
  | .nil, _, _, _, h, _ => by simp [Fields.get] at h
  | .cons k u fs, key, v, w, h, hw => by
    by_cases hk : k = key
    · subst hk; simp only [Fields.get, if_true, Option.some.injEq] at h; subst h
      simp [Fields.set, Fields.depth, hw]
    · simp only [Fields.get, hk, if_false] at h
      simp [Fields.set, hk, Fields.depth, Fields.depth_set fs h hw]

/-- Replacing a property by a value with a function inside just when the old one had keeps
whether an object has one. -/
theorem Fields.noFn_set : ∀ (fs : Fields) {key : String} {v w : Value}, fs.get key = some v →
    w.noFn = v.noFn → (fs.set key w).noFn = fs.noFn
  | .nil, _, _, _, h, _ => by simp [Fields.get] at h
  | .cons k u fs, key, v, w, h, hw => by
    by_cases hk : k = key
    · subst hk; simp only [Fields.get, if_true, Option.some.injEq] at h; subst h
      simp [Fields.set, Fields.noFn, hw]
    · simp only [Fields.get, hk, if_false] at h
      simp [Fields.set, hk, Fields.noFn, Fields.noFn_set fs h hw]

/-- What `msgpack.encode` accepts: no function, and nesting within `maxDepth`. -/
def Value.packable (v : Value) : Bool := v.noFn && decide (v.depth ≤ maxDepth)

/-- The contract of `msgpack.encode` and `msgpack.decode` (`@msgpack/msgpack`): encoding
succeeds exactly on packable values, and decoding gives back the value encoded. -/
structure MsgPack where
  encode : Value → Except ErrorValue Bytes
  decode : Bytes → Except ErrorValue Value
  encode_isOk : ∀ v, (encode v).isOk = v.packable
  decode_encode : ∀ v b, encode v = .ok b → decode b = .ok v

namespace MsgPack

variable (mp : MsgPack)

/-- INTERNAL: a packable value encodes. -/
theorem encode_ok_of_packable {v : Value} (h : v.packable = true) :
    ∃ b, mp.encode v = .ok b := by
  have := mp.encode_isOk v
  cases he : mp.encode v with
  | ok b => exact ⟨b, rfl⟩
  | error e => simp [he, h, Except.isOk, Except.toBool] at this

/-- INTERNAL: a value that encoded is packable. -/
theorem packable_of_encode_ok {v : Value} {b : Bytes} (h : mp.encode v = .ok b) :
    v.packable = true := by
  simpa [h, Except.isOk, Except.toBool] using (mp.encode_isOk v).symm

/-- INTERNAL: a value with a function inside does not encode. -/
theorem encode_error_of_not_packable {v : Value} (h : v.packable = false) :
    ∃ e, mp.encode v = .error e := by
  have := mp.encode_isOk v
  cases he : mp.encode v with
  | ok b => simp [he, h, Except.isOk, Except.toBool] at this
  | error e => exact ⟨e, rfl⟩

end MsgPack

end Tryorama.Model
