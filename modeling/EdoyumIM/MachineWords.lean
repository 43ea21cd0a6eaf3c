import Mathlib

/-!
Fixed-width words and byte strings. A byte string is a list; a word is stored
least significant byte first, as on the little-endian hosts the servers run on.
The two linear orders below are the ones the core comparisons already decide;
Mathlib only lacks their bundled form.
-/

namespace EdoyumIM.MachineWords

abbrev Bytes := List UInt8

instance instLawfulBEqBytes : LawfulBEq Bytes := inferInstance

instance instLinearOrderInt32 : LinearOrder Int32 where
  le_refl := Int32.le_refl
  le_trans _ _ _ := Int32.le_trans
  lt_iff_le_not_ge _ _ := by
    rw [Int32.lt_iff_toInt_lt, Int32.le_iff_toInt_le, Int32.le_iff_toInt_le]
    omega
  le_antisymm _ _ := Int32.le_antisymm
  le_total := Int32.le_total
  toDecidableLE := inferInstance

instance instLinearOrderUInt8 : LinearOrder UInt8 where
  le_refl := UInt8.le_refl
  le_trans _ _ _ := UInt8.le_trans
  lt_iff_le_not_ge _ _ := by
    rw [UInt8.lt_iff_toNat_lt, UInt8.le_iff_toNat_le, UInt8.le_iff_toNat_le]
    omega
  le_antisymm _ _ := UInt8.le_antisymm
  le_total := UInt8.le_total
  toDecidableLE := inferInstance

def leBytes : Nat → Nat → Bytes
  | 0, _ => []
  | width + 1, value => UInt8.ofNat value :: leBytes width (value / 256)

def leNat : Bytes → Nat
  | [] => 0
  | byte :: rest => byte.toNat + 256 * leNat rest

@[simp] theorem leBytes_length (width value : Nat) : (leBytes width value).length = width := by
  induction width generalizing value with
  | zero => rfl
  | succ width ih => simp [leBytes, ih]

theorem leNat_leBytes (width value : Nat) :
    leNat (leBytes width value) = value % 256 ^ width := by
  induction width generalizing value with
  | zero => simp [leBytes, leNat, Nat.mod_one]
  | succ width ih =>
      have low : (UInt8.ofNat value).toNat = value % 256 := by simp
      rw [leBytes, leNat, ih, low, pow_succ, Nat.mul_comm (256 ^ width) 256, Nat.mod_mul]

theorem leNat_leBytes_of_lt (width value : Nat) (fits : value < 256 ^ width) :
    leNat (leBytes width value) = value := by
  rw [leNat_leBytes, Nat.mod_eq_of_lt fits]

theorem leBytes_leNat (bytes : Bytes) : leBytes bytes.length (leNat bytes) = bytes := by
  induction bytes with
  | nil => rfl
  | cons byte rest ih =>
      have low : UInt8.ofNat (byte.toNat + 256 * leNat rest) = byte := by
        apply UInt8.toNat.inj
        have bound := byte.toNat_lt
        simp only [UInt8.toNat_ofNat']
        omega
      have high : (byte.toNat + 256 * leNat rest) / 256 = leNat rest := by
        have bound := byte.toNat_lt
        omega
      simp only [List.length_cons, leNat, leBytes, low, high, ih]

theorem leNat_lt (bytes : Bytes) : leNat bytes < 256 ^ bytes.length := by
  induction bytes with
  | nil => simp [leNat]
  | cons byte rest ih =>
      have bound := byte.toNat_lt
      simp only [leNat, List.length_cons, pow_succ]
      omega

/-- Two's complement reading of an unsigned value of `bits` bits. -/
def signedOf (bits value : Nat) : Int :=
  if value < 2 ^ (bits - 1) then value else (value : Int) - 2 ^ bits

theorem signedOf_small (bits value : Nat) (small : value < 2 ^ (bits - 1)) :
    signedOf bits value = value := by
  simp [signedOf, small]

def int32OfNat (value : Nat) : Int32 := (UInt32.ofNat value).toInt32

@[simp] theorem int32OfNat_toUInt32 (value : Int32) : int32OfNat value.toUInt32.toNat = value := by
  simp [int32OfNat]

theorem toInt32_toInt (word : UInt32) : word.toInt32.toInt = (word.toNat : Int).bmod (2 ^ 32) := by
  simp [Int32.toInt, BitVec.toInt_eq_toNat_bmod]

theorem toInt32_negative_iff (word : UInt32) : word.toInt32 < 0 ↔ 2 ^ 31 ≤ word.toNat := by
  have bound := word.toNat_lt
  rw [Int32.lt_iff_toInt_lt, toInt32_toInt, Int32.toInt_zero, Int.bmod_def]
  split <;> omega

theorem int32OfNat_toInt (value : Nat) (small : value < 2 ^ 31) :
    (int32OfNat value).toInt = value := by
  rw [int32OfNat, toInt32_toInt, UInt32.toNat_ofNat', Nat.mod_eq_of_lt (by omega)]
  exact Int.bmod_eq_of_le (by omega) (by omega)

theorem int32OfNat_add (left right : Nat) :
    int32OfNat left + int32OfNat right = int32OfNat (left + right) := by
  rw [int32OfNat, int32OfNat, int32OfNat, UInt32.ofNat_add]
  rfl

theorem int32OfNat_inj (left right : Nat) (smallLeft : left < 2 ^ 31)
    (smallRight : right < 2 ^ 31) : int32OfNat left = int32OfNat right ↔ left = right := by
  constructor
  · intro same
    have values := congrArg Int32.toInt same
    rw [int32OfNat_toInt left smallLeft, int32OfNat_toInt right smallRight] at values
    omega
  · exact congrArg int32OfNat

theorem toInt_succ (count : Int32) (low : 0 ≤ count.toInt) (room : count.toInt < 2 ^ 31 - 1) :
    (count + 1).toInt = count.toInt + 1 := by
  rw [Int32.toInt_add, Int32.toInt_one, Int.bmod_eq_of_le] <;> omega

end EdoyumIM.MachineWords
