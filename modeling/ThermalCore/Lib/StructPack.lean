import ThermalCore.Lib.LittleEndian

/-!
# Python's `struct` with the prefix `<`

Packing and unpacking of a row of little-endian fields without padding, for the
format characters `s`, `B`, `H`, `I` and `i`.  `none` is a raised `struct.error`:
an integer outside the range of its field, or a buffer of the wrong size.

A row is packed field by field, and it is unpacked from a buffer of exactly its size.
-/

namespace StructPack

/-- An integer format character. -/
inductive Code where
  | B
  | H
  | I
  | i
deriving DecidableEq

namespace Code

def size : Code → Nat
  | .B => 1
  | .H => 2
  | .I => 4
  | .i => 4

/-- The least value that packs. -/
def lo : Code → Int
  | .i => -2 ^ 31
  | _ => 0

/-- One more than the greatest value that packs. -/
def hi : Code → Int
  | .B => 2 ^ 8
  | .H => 2 ^ 16
  | .I => 2 ^ 32
  | .i => 2 ^ 31

/-- The value of `size` bytes. -/
def value (c : Code) (bs : List UInt8) : Int :=
  let v : Int := LittleEndian.get bs
  if v < c.hi then v else v - 256 ^ c.size

end Code

/-- A format character with its argument. -/
inductive Item where
  /-- `<n>s`: cut or padded to `n` bytes. -/
  | s (n : Nat) (bs : List UInt8)
  | int (c : Code) (v : Int)
deriving DecidableEq

def Item.pack : Item → Option (List UInt8)
  | .s n bs => some ((bs ++ List.replicate n 0).take n)
  | .int c v =>
      if c.lo ≤ v ∧ v < c.hi then some (LittleEndian.put c.size (v % 256 ^ c.size).toNat) else none

def pack : List Item → Option (List UInt8)
  | [] => some []
  | x :: xs => do
      let bs ← x.pack
      let rest ← pack xs
      some (bs ++ rest)

/-- `struct.calcsize`. -/
def calcsize (codes : List Code) : Nat := (codes.map Code.size).sum

/-- The fields of a buffer that is long enough. -/
def fields : List Code → List UInt8 → List Int
  | [], _ => []
  | c :: codes, buf => c.value (buf.take c.size) :: fields codes (buf.drop c.size)

def unpack (codes : List Code) (buf : List UInt8) : Option (List Int) :=
  if buf.length = calcsize codes then some (fields codes buf) else none

/-! ## Packing -/

@[simp] theorem pack_nil : pack [] = some [] := rfl

/-- One field that packs, and the rest. -/
theorem pack_cons_of_eq {x : Item} {xs : List Item} {bs : List UInt8} (h : x.pack = some bs) :
    pack (x :: xs) = (pack xs).map (bs ++ ·) := by
  rw [pack, h]
  cases pack xs with
  | none => rfl
  | some rest => rfl

theorem pack_int {c : Code} {v : Int} (h : c.lo ≤ v ∧ v < c.hi) :
    (Item.int c v).pack = some (LittleEndian.put c.size (v % 256 ^ c.size).toNat) := if_pos h

/-- A string of exactly `n` bytes. -/
theorem pack_s {n : Nat} {bs : List UInt8} (h : bs.length = n) : (Item.s n bs).pack = some bs := by
  rw [Item.pack, List.take_append_of_le_length (Nat.le_of_eq h.symm),
    List.take_of_length_le (Nat.le_of_eq h)]

/-! ## Unpacking -/

/-- An unsigned field. -/
theorem value_unsigned {c : Code} (hc : c.hi = 256 ^ c.size) {bs : List UInt8} (h : bs.length = c.size) :
    c.value bs = (LittleEndian.get bs : Int) := by
  have hlt := LittleEndian.get_lt bs
  rw [h] at hlt
  unfold Code.value
  rw [hc]
  exact if_pos (by exact_mod_cast hlt)

theorem unpack_of_length {codes : List Code} {buf : List UInt8} (h : buf.length = calcsize codes) :
    unpack codes buf = some (fields codes buf) := if_pos h

end StructPack
