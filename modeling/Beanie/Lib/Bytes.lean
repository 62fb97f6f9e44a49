/-
# `Beanie.Lib.Bytes` — numbers as byte strings of a fixed length

Little-endian first, since both directions recurse on the list; big-endian is
its reverse.  The two facts everything else uses:

    leNat_leBytes      writing `k` bytes and reading them back loses only what does not fit
    leBytes_leNat      reading a byte string and writing it back at its length changes nothing

so writing is injective on what fits.
-/
import Mathlib

namespace Beanie

abbrev Bytes := List UInt8

/-- The number a byte string spells, least significant byte first. -/
def leNat : Bytes → Nat
  | [] => 0
  | b :: bs => b.toNat + 256 * leNat bs

/-- The `k` low bytes of a number, least significant first. -/
def leBytes : Nat → Nat → Bytes
  | 0, _ => []
  | k + 1, n => UInt8.ofNat (n % 256) :: leBytes k (n / 256)

/-- The number a byte string spells, most significant byte first. -/
def beNat (bs : Bytes) : Nat := leNat bs.reverse

/-- The `k` low bytes of a number, most significant first. -/
def beBytes (k n : Nat) : Bytes := (leBytes k n).reverse

@[simp] theorem length_leBytes (k n : Nat) : (leBytes k n).length = k := by
  induction k generalizing n with
  | zero => rfl
  | succ k ih => simp [leBytes, ih]

@[simp] theorem length_beBytes (k n : Nat) : (beBytes k n).length = k := by
  simp [beBytes]

theorem leNat_leBytes (k n : Nat) : leNat (leBytes k n) = n % 256 ^ k := by
  induction k generalizing n with
  | zero => simp [leBytes, leNat, Nat.mod_one]
  | succ k ih =>
      have hlt : n % 256 < 256 := Nat.mod_lt _ (by decide)
      have hb : (UInt8.ofNat (n % 256)).toNat = n % 256 := by
        simp
      rw [leBytes, leNat, hb, ih, Nat.pow_succ', Nat.mod_mul]

theorem leNat_lt (bs : Bytes) : leNat bs < 256 ^ bs.length := by
  induction bs with
  | nil => simp [leNat]
  | cons b bs ih =>
      have hb : b.toNat < 256 := b.toNat_lt
      simp only [leNat, List.length_cons, Nat.pow_succ]
      omega

theorem leBytes_leNat (bs : Bytes) : leBytes bs.length (leNat bs) = bs := by
  induction bs with
  | nil => rfl
  | cons b bs ih =>
      have hb : b.toNat < 256 := b.toNat_lt
      have hmod : (b.toNat + 256 * leNat bs) % 256 = b.toNat := by omega
      have hdiv : (b.toNat + 256 * leNat bs) / 256 = leNat bs := by omega
      simp only [List.length_cons, leNat, leBytes, hmod, hdiv, ih]
      simp

theorem beNat_beBytes (k n : Nat) : beNat (beBytes k n) = n % 256 ^ k := by
  simp [beNat, beBytes, leNat_leBytes]

theorem beNat_lt (bs : Bytes) : beNat bs < 256 ^ bs.length := by
  simpa [beNat] using leNat_lt bs.reverse

theorem beBytes_beNat (bs : Bytes) : beBytes bs.length (beNat bs) = bs := by
  have h := leBytes_leNat bs.reverse
  rw [List.length_reverse] at h
  rw [beBytes, beNat, h, List.reverse_reverse]

theorem leNat_append (as bs : Bytes) : leNat (as ++ bs) = leNat as + 256 ^ as.length * leNat bs := by
  induction as with
  | nil => simp [leNat]
  | cons a as ih =>
      rw [List.cons_append, leNat, leNat, ih, List.length_cons, Nat.pow_succ', Nat.mul_add,
        Nat.mul_assoc, Nat.add_assoc]

theorem beNat_append (as bs : Bytes) : beNat (as ++ bs) = beNat as * 256 ^ bs.length + beNat bs := by
  rw [beNat, List.reverse_append, leNat_append, List.length_reverse, ← beNat, ← beNat,
    Nat.mul_comm, Nat.add_comm]

/-- Writing is injective on the numbers that fit. -/
theorem leBytes_inj {k m n : Nat} (hm : m < 256 ^ k) (hn : n < 256 ^ k)
    (h : leBytes k m = leBytes k n) : m = n := by
  have h' := congrArg leNat h
  rwa [leNat_leBytes, leNat_leBytes, Nat.mod_eq_of_lt hm, Nat.mod_eq_of_lt hn] at h'

theorem beBytes_inj {k m n : Nat} (hm : m < 256 ^ k) (hn : n < 256 ^ k)
    (h : beBytes k m = beBytes k n) : m = n :=
  leBytes_inj hm hn (List.reverse_inj.mp h)

/-- Words of a width that fills the bytes are told apart by them. -/
theorem beBytes_toNat_inj {k n : Nat} {v w : BitVec n} (hn : n = 8 * k)
    (h : beBytes k v.toNat = beBytes k w.toNat) : v = w := by
  have hpow : 2 ^ n = 256 ^ k := by
    rw [hn, Nat.pow_mul]
  exact BitVec.eq_of_toNat_eq (beBytes_inj (hpow ▸ v.isLt) (hpow ▸ w.isLt) h)

/-- A text's bytes, one a character (ASCII). -/
def asciiBytes (s : List Char) : Bytes := s.map fun c => UInt8.ofNat c.toNat

/-- A 32-byte word that starts with a text's bytes and is zero after them. -/
def bytes32Literal (s : List Char) : BitVec 256 :=
  BitVec.ofNat 256 (beNat (asciiBytes s ++ List.replicate (32 - s.length) 0))

end Beanie
