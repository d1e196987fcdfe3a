import MultiTechBus.Halt
import MultiTechBus.Library.Wire

/-! # TraCI buffers

Byte buffers in the byte order of the traffic simulator. A buffer that is read is the list
of the bytes that are left in it. Doubles are kept as their bits.
-/

namespace MultiTechBus.Veins

open MultiTechBus.Library

/-- A string of the source is a sequence of bytes. -/
abbrev Str := List (BitVec 8)

/-- The characters of a string, for messages. -/
def Str.text (s : Str) : String := String.ofList (s.map fun byte => Char.ofNat byte.toNat)

abbrev Double := BitVec 64

/-- The comparison with zero of the double with these bits. -/
def Double.isNegative (x : Double) : Bool :=
  x.msb && x != 0x8000000000000000 && decide (x &&& 0x7fffffffffffffff ≤ 0x7ff0000000000000)

structure TraCICoord where
  x : Double
  y : Double
deriving DecidableEq, Repr

abbrev TraCIBuffer := List (BitVec 8)

namespace TraCIBuffer

abbrev Read := Reader (BitVec 8) Halt

def readByte : Read (BitVec 8)
  | [] => .error (.cRuntimeError "Attempted to read past end of byte buffer")
  | byte :: rest => .ok (byte, rest)

/-- `read<T>`, for a type of `k` bytes with `w` bits. -/
def read (w k : Nat) : Read (BitVec w) :=
  (fun bytes => BitVec.ofNat w (ofBigEndian bytes)) <$> many readByte k

def readU8 : Read (BitVec 8) := read 8 1

def readU32 : Read (BitVec 32) := read 32 4

def readDouble : Read Double := read 64 8

/-- `write<T>`, for a type of `k` bytes. -/
def write {w : Nat} (k : Nat) (x : BitVec w) : TraCIBuffer := bigEndian k x.toNat

def writeU8 (x : BitVec 8) : TraCIBuffer := write 1 x

def writeU32 (x : BitVec 32) : TraCIBuffer := write 4 x

def writeDouble (x : Double) : TraCIBuffer := write 8 x

def readString : Read Str := do
  let length ← readU32
  many readByte length.toNat

def writeString (inv : Str) : TraCIBuffer := writeU32 (BitVec.ofNat 32 inv.length) ++ inv

/-- First one byte; only if it is zero and the end has not been reached, four more. -/
def readByteOrFull : Read (BitVec 32) := do
  let shortBuf ← readU8
  let rest ← get
  if shortBuf > 0 ∨ rest = [] then pure (shortBuf.setWidth 32) else readU32

def readCoord : Read TraCICoord := do
  let x ← readDouble
  let y ← readDouble
  pure ⟨x, y⟩

/-! ### What is written is read -/

variable {w : Nat}

theorem reads_bytes (bytes : List (BitVec 8)) : Reads (many readByte bytes.length) bytes bytes := by
  have hbyte : ∀ byte ∈ bytes, Reads readByte [byte] byte := fun _ _ _ => rfl
  have h := Reads.many hbyte
  rwa [List.flatMap_singleton'] at h

theorem reads_read {k : Nat} (hw : 2 ^ w = 256 ^ k) (x : BitVec w) :
    Reads (read w k) (write k x) x := by
  have h := (reads_bytes (write k x)).map fun bytes => BitVec.ofNat w (ofBigEndian bytes)
  unfold write at h ⊢
  rw [length_bigEndian, ofBigEndian_bigEndian, Nat.mod_eq_of_lt (hw ▸ x.isLt),
    BitVec.ofNat_toNat, BitVec.setWidth_eq] at h
  exact h

theorem reads_u8 (x : BitVec 8) : Reads readU8 (writeU8 x) x := reads_read (k := 1) rfl x

theorem reads_u32 (x : BitVec 32) : Reads readU32 (writeU32 x) x := reads_read (k := 4) rfl x

theorem reads_double (x : Double) : Reads readDouble (writeDouble x) x := reads_read (k := 8) rfl x

theorem reads_string {s : Str} (h : s.length < 2 ^ 32) : Reads readString (writeString s) s := by
  refine (reads_u32 (BitVec.ofNat 32 s.length)).bind ?_
  rw [BitVec.toNat_ofNat, Nat.mod_eq_of_lt h]
  exact reads_bytes s

@[simp] theorem length_write (k : Nat) (x : BitVec w) : (write k x).length = k :=
  length_bigEndian k x.toNat

@[simp] theorem length_writeU8 (x : BitVec 8) : (writeU8 x).length = 1 := length_write 1 x

@[simp] theorem length_writeU32 (x : BitVec 32) : (writeU32 x).length = 4 := length_write 4 x

@[simp] theorem length_writeDouble (x : Double) : (writeDouble x).length = 8 := length_write 8 x

@[simp] theorem length_writeString (s : Str) : (writeString s).length = s.length + 4 := by
  unfold writeString
  rw [List.length_append, length_writeU32, Nat.add_comm]

end TraCIBuffer

end MultiTechBus.Veins
