import Mathlib

/-! # Little-endian byte strings

Fixed-width numbers as the bytes a little-endian machine stores them in, least significant
byte first, and the value of such a byte string. A number below `256 ^ n` survives being
written in `n` bytes and read back, and a read of a known width takes exactly those bytes.
-/

namespace LittleEndian

def encode : Nat → Nat → List UInt8
  | 0, _ => []
  | n + 1, x => (x % 256).toUInt8 :: encode n (x / 256)

def decode : List UInt8 → Nat
  | [] => 0
  | b :: bs => b.toNat + 256 * decode bs

@[simp] theorem length_encode (n x : Nat) : (encode n x).length = n := by
  induction n generalizing x with
  | zero => rfl
  | succ n ih => simp [encode, ih]

theorem decode_encode {n x : Nat} (h : x < 256 ^ n) : decode (encode n x) = x := by
  induction n generalizing x with
  | zero => simp_all [encode, decode]
  | succ n ih =>
    have hx : x / 256 < 256 ^ n := by
      rw [Nat.div_lt_iff_lt_mul (by decide)]
      rwa [← Nat.pow_succ]
    have hb : ((x % 256).toUInt8).toNat = x % 256 := by
      rw [Nat.toUInt8, UInt8.toNat_ofNat_of_lt' (Nat.mod_lt _ (by decide))]
    simp only [encode, decode, hb, ih hx]
    omega

def u64 (w : UInt64) : List UInt8 := encode 8 w.toNat

def u32 (w : UInt32) : List UInt8 := encode 4 w.toNat

def toU64 (bs : List UInt8) : UInt64 := UInt64.ofNat (decode bs)

def toU32 (bs : List UInt8) : UInt32 := UInt32.ofNat (decode bs)

@[simp] theorem length_u64 (w : UInt64) : (u64 w).length = 8 := length_encode _ _

@[simp] theorem length_u32 (w : UInt32) : (u32 w).length = 4 := length_encode _ _

@[simp] theorem toU64_u64 (w : UInt64) : toU64 (u64 w) = w := by
  rw [toU64, u64, decode_encode w.toNat_lt, UInt64.ofNat_toNat]

@[simp] theorem toU32_u32 (w : UInt32) : toU32 (u32 w) = w := by
  rw [toU32, u32, decode_encode w.toNat_lt, UInt32.ofNat_toNat]

def readU64 (bs : List UInt8) : UInt64 × List UInt8 :=
  (toU64 (bs.take 8), bs.drop 8)

def readU32 (bs : List UInt8) : UInt32 × List UInt8 :=
  (toU32 (bs.take 4), bs.drop 4)

theorem take_append_of_length {bs rest : List UInt8} {n : Nat} (h : bs.length = n) :
    (bs ++ rest).take n = bs := by
  subst h
  exact List.take_left' rfl

theorem drop_append_of_length {bs rest : List UInt8} {n : Nat} (h : bs.length = n) :
    (bs ++ rest).drop n = rest := by
  subst h
  exact List.drop_left' rfl

@[simp] theorem readU64_u64_append (w : UInt64) (rest : List UInt8) :
    readU64 (u64 w ++ rest) = (w, rest) := by
  simp [readU64, take_append_of_length (length_u64 w), drop_append_of_length (length_u64 w)]

@[simp] theorem readU32_u32_append (w : UInt32) (rest : List UInt8) :
    readU32 (u32 w ++ rest) = (w, rest) := by
  simp [readU32, take_append_of_length (length_u32 w), drop_append_of_length (length_u32 w)]

@[simp] theorem readU64_u64 (w : UInt64) : readU64 (u64 w) = (w, []) := by
  simpa using readU64_u64_append w []

@[simp] theorem readU32_u32 (w : UInt32) : readU32 (u32 w) = (w, []) := by
  simpa using readU32_u32_append w []

end LittleEndian
