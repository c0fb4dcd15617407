import Mathlib

/-! # Big-endian byte strings -/

namespace BigEndian

/-- The `n` low-order bytes of `v`, most significant first. -/
def encode : Nat → Nat → List UInt8
  | 0, _ => []
  | n + 1, v => UInt8.ofNat (v / 256 ^ n) :: encode n v

def decode (bs : List UInt8) : Nat := bs.foldl (fun acc b => acc * 256 + b.toNat) 0

@[simp] theorem encode_length (n v : Nat) : (encode n v).length = n := by
  induction n with
  | zero => rfl
  | succ n ih => simp [encode, ih]

theorem foldl_encode (n v acc : Nat) :
    (encode n v).foldl (fun acc b => acc * 256 + b.toNat) acc = acc * 256 ^ n + v % 256 ^ n := by
  induction n generalizing acc with
  | zero => simp [encode, Nat.mod_one]
  | succ n ih =>
    have hb : (UInt8.ofNat (v / 256 ^ n)).toNat = v / 256 ^ n % 256 := by simp
    simp only [encode, List.foldl_cons, ih, hb]
    rw [Nat.pow_succ, Nat.mod_mul, Nat.add_mul, Nat.mul_assoc, Nat.mul_comm 256,
      Nat.mul_comm (v / 256 ^ n % 256)]
    omega

theorem decode_encode (n v : Nat) : decode (encode n v) = v % 256 ^ n := by
  simp [decode, foldl_encode]

theorem decode_encode_of_lt {n v : Nat} (h : v < 256 ^ n) : decode (encode n v) = v := by
  rw [decode_encode, Nat.mod_eq_of_lt h]

end BigEndian
