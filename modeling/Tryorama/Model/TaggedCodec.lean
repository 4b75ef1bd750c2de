import Tryorama.Model.Value

/-!
# A codec that keeps the `MsgPack` contract

`MsgPack` states what the project uses of `@msgpack/msgpack`. This file shows the
contract can be met, so that no result over `MsgPack` is vacuous and a concrete
run has a codec to run with. The byte layout is not msgpack's (a tag byte, counts
in unary, the nesting depth up front); nothing in the project depends on a layout.

Decoding reads a value with fuel, and the depth written first is the fuel that
suffices (`dec_ser`).
-/

set_option autoImplicit false

namespace Tryorama.Model.TaggedCodec

open Tryorama.Model

/-- A natural number in unary, ended by `0`. -/
def natCode : Nat → Bytes
  | 0 => [0]
  | n + 1 => 1 :: natCode n

/-- Reads a `natCode`. -/
def natDec : Bytes → Option (Nat × Bytes)
  | [] => none
  | b :: rest =>
    if b = 0 then some (0, rest)
    else if b = 1 then (natDec rest).map fun p => (p.1 + 1, p.2) else none

@[simp] theorem natDec_natCode (n : Nat) (rest : Bytes) :
    natDec (natCode n ++ rest) = some (n, rest) := by
  induction n with
  | zero => simp [natCode, natDec]
  | succ n ih => simp [natCode, natDec, ih]

/-- Reads `n` items with `dec`, one after the other. -/
def decMany {α : Type} (dec : Bytes → Option (α × Bytes)) : Nat → Bytes → Option (List α × Bytes)
  | 0, bs => some ([], bs)
  | n + 1, bs => (dec bs).bind fun p => (decMany dec n p.2).map fun q => (p.1 :: q.1, q.2)

/-- INTERNAL: reading items that were written one after the other. -/
theorem decMany_flatten {α : Type} (dec : Bytes → Option (α × Bytes)) (code : α → Bytes)
    (hdec : ∀ a rest, dec (code a ++ rest) = some (a, rest)) (l : List α) (rest : Bytes) :
    decMany dec l.length ((l.map code).flatten ++ rest) = some (l, rest) := by
  induction l with
  | nil => rfl
  | cons a l ih => simp [decMany, hdec, ih]

/-- A string: its length, then each character's code point. -/
def strCode (s : String) : Bytes :=
  natCode s.data.length ++ (s.data.map fun c => natCode c.toNat).flatten

/-- Reads a `strCode`. -/
def strDec (bs : Bytes) : Option (String × Bytes) :=
  (natDec bs).bind fun p =>
    (decMany (fun r => (natDec r).map fun q => (Char.ofNat q.1, q.2)) p.1 p.2).map
      fun q => (⟨q.1⟩, q.2)

@[simp] theorem strDec_strCode (s : String) (rest : Bytes) :
    strDec (strCode s ++ rest) = some (s, rest) := by
  have h := decMany_flatten (fun r => (natDec r).map fun q => (Char.ofNat q.1, q.2))
    (fun c => natCode c.toNat) (by simp) s.data rest
  simp only [strCode, strDec, List.append_assoc, natDec_natCode, Option.some_bind, h,
    Option.map_some']

/-- An integer: its sign, then its magnitude. -/
def intCode : Int → Bytes
  | .ofNat n => 0 :: natCode n
  | .negSucc n => 1 :: natCode n

/-- Reads an `intCode`. -/
def intDec : Bytes → Option (Int × Bytes)
  | [] => none
  | b :: rest => (natDec rest).map fun p => (if b = 0 then .ofNat p.1 else .negSucc p.1, p.2)

@[simp] theorem intDec_intCode (i : Int) (rest : Bytes) :
    intDec (intCode i ++ rest) = some (i, rest) := by
  cases i <;> simp [intCode, intDec]

/-- A byte string: its length, then its bytes. -/
def bytesCode (b : Bytes) : Bytes := natCode b.length ++ b

/-- Reads a `bytesCode`. -/
def bytesDec (bs : Bytes) : Option (Bytes × Bytes) :=
  (natDec bs).bind fun p => if p.1 ≤ p.2.length then some (p.2.take p.1, p.2.drop p.1) else none

@[simp] theorem bytesDec_bytesCode (b rest : Bytes) :
    bytesDec (bytesCode b ++ rest) = some (b, rest) := by
  simp [bytesCode, bytesDec]

mutual
/-- A value: a tag byte, then its contents. -/
def ser : Value → Bytes
  | .null => [0]
  | .bool b => [1, if b then 1 else 0]
  | .num i => 2 :: intCode i
  | .str s => 3 :: strCode s
  | .bin b => 4 :: bytesCode b
  | .arr items => 5 :: natCode items.length ++ serItems items
  | .obj fields => 6 :: natCode fields.length ++ serFields fields
  | .fn => [7]
/-- An array's items, one after the other. -/
def serItems : Values → Bytes
  | .nil => []
  | .cons v vs => ser v ++ serItems vs
/-- An object's properties: each key, then its value. -/
def serFields : Fields → Bytes
  | .nil => []
  | .cons k v fs => strCode k ++ ser v ++ serFields fs
end

/-- Reads a property: a key, then a value with `dec`. -/
def fieldDec (dec : Bytes → Option (Value × Bytes)) (bs : Bytes) :
    Option ((String × Value) × Bytes) :=
  (strDec bs).bind fun p => (dec p.2).map fun q => ((p.1, q.1), q.2)

/-- Reads a `ser`; `fuel` bounds the nesting. -/
def dec : Nat → Bytes → Option (Value × Bytes)
  | 0, _ => none
  | _ + 1, [] => none
  | fuel + 1, t :: r =>
    if t = 0 then some (.null, r)
    else if t = 1 then (match r with
      | b :: r' => some (.bool (b = 1), r')
      | [] => none)
    else if t = 2 then (intDec r).map fun p => (.num p.1, p.2)
    else if t = 3 then (strDec r).map fun p => (.str p.1, p.2)
    else if t = 4 then (bytesDec r).map fun p => (.bin p.1, p.2)
    else if t = 5 then (natDec r).bind fun p =>
      (decMany (dec fuel) p.1 p.2).map fun q => (.arr (Values.ofList q.1), q.2)
    else if t = 6 then (natDec r).bind fun p =>
      (decMany (fieldDec (dec fuel)) p.1 p.2).map fun q => (.obj (Fields.ofList q.1), q.2)
    else if t = 7 then some (.fn, r)
    else none

mutual
/-- With fuel for its depth, `dec` reads back what `ser` wrote. -/
theorem dec_ser : ∀ (v : Value) (fuel : Nat) (rest : Bytes), v.depth ≤ fuel →
    dec fuel (ser v ++ rest) = some (v, rest)
  | .null, f + 1, _, _ => by simp [ser, dec]
  | .bool b, f + 1, _, _ => by cases b <;> simp [ser, dec]
  | .num i, f + 1, _, _ => by simp [ser, dec]
  | .str s, f + 1, _, _ => by simp [ser, dec]
  | .bin b, f + 1, _, _ => by simp [ser, dec]
  | .arr items, f + 1, rest, h => by
    have hi := decMany_serItems items f rest (by simp [Value.depth] at h; omega)
    simp [ser, dec, hi]
  | .obj fields, f + 1, rest, h => by
    have hf := decMany_serFields fields f rest (by simp [Value.depth] at h; omega)
    simp [ser, dec, hf]
  | .fn, f + 1, _, _ => by simp [ser, dec]
  | .null, 0, _, h | .bool _, 0, _, h | .num _, 0, _, h | .str _, 0, _, h | .bin _, 0, _, h
  | .arr _, 0, _, h | .obj _, 0, _, h | .fn, 0, _, h => by simp [Value.depth] at h
/-- With fuel for their depth, `dec` reads back an array's items. -/
theorem decMany_serItems : ∀ (vs : Values) (fuel : Nat) (rest : Bytes), vs.depth ≤ fuel →
    decMany (dec fuel) vs.length (serItems vs ++ rest) = some (vs.toList, rest)
  | .nil, _, _, _ => rfl
  | .cons v vs, fuel, rest, h => by
    have hv := dec_ser v fuel (serItems vs ++ rest) (Nat.max_le.mp h).1
    have hvs := decMany_serItems vs fuel rest (Nat.max_le.mp h).2
    simp [Values.length, serItems, Values.toList, decMany, hv, hvs]
/-- With fuel for their depth, `dec` reads back an object's properties. -/
theorem decMany_serFields : ∀ (fs : Fields) (fuel : Nat) (rest : Bytes), fs.depth ≤ fuel →
    decMany (fieldDec (dec fuel)) fs.length (serFields fs ++ rest) = some (fs.toList, rest)
  | .nil, _, _, _ => rfl
  | .cons k v fs, fuel, rest, h => by
    have hv := dec_ser v fuel (serFields fs ++ rest) (Nat.max_le.mp h).1
    have hfs := decMany_serFields fs fuel rest (Nat.max_le.mp h).2
    simp [Fields.length, serFields, Fields.toList, decMany, fieldDec, hv, hfs]
end

/-- Encodes a packable value: its depth, then the value. -/
def encode (v : Value) : Except ErrorValue Bytes :=
  if v.packable then .ok (natCode v.depth ++ ser v) else .error (.error "Unrecognized object")

/-- Reads the depth, then the value with that much fuel, and nothing after it. -/
def decode (b : Bytes) : Except ErrorValue Value :=
  match (natDec b).bind fun p => dec p.1 p.2 with
  | some (v, []) => .ok v
  | _ => .error (.error "Invalid msgpack data")

/-- The tagged codec keeps the `MsgPack` contract. -/
def msgPack : MsgPack where
  encode := encode
  decode := decode
  encode_isOk v := by unfold encode; split <;> simp_all [Except.isOk, Except.toBool]
  decode_encode v b h := by
    unfold encode at h
    split at h
    · cases h
      have hv := dec_ser v v.depth [] le_rfl
      rw [List.append_nil] at hv
      simp [decode, hv]
    · cases h

end Tryorama.Model.TaggedCodec
