/-
# `Beanie.Lib.Pratt` — large primes

Powers by squaring, and primality from the prime factors of `p - 1`.
-/
import Mathlib.NumberTheory.LucasPrimality
import Mathlib.Data.List.Prime
import Mathlib.Tactic.Ring
import Mathlib.Tactic.NormNum.Prime

namespace Beanie.Pratt

/-! ## Powers by squaring -/

/-- `result * b ^ e`, reduced at every multiplication. -/
def powLoop (m : Nat) : Nat → Nat → Nat → Nat → Nat
  | 0, result, _, _ => result
  | fuel + 1, result, b, e =>
      if e = 0 then result
      else powLoop m fuel (if e % 2 = 1 then result * b % m else result) (b * b % m) (e / 2)

theorem powLoop_cast {m : Nat} : ∀ (fuel result b e : Nat), e < 2 ^ fuel →
    (powLoop m fuel result b e : ZMod m) = result * (b : ZMod m) ^ e := by
  intro fuel
  induction fuel with
  | zero =>
      intro result b e he
      have hzero : e = 0 := by simpa using he
      simp [powLoop, hzero]
  | succ fuel ih =>
      intro result b e he
      rw [powLoop]
      by_cases hzero : e = 0
      · simp [hzero]
      have hhalf : e / 2 < 2 ^ fuel := by
        rw [pow_succ] at he
        omega
      rw [if_neg hzero, ih _ _ _ hhalf]
      have hsquare : ((b * b % m : Nat) : ZMod m) ^ (e / 2) = (b : ZMod m) ^ (2 * (e / 2)) := by
        rw [ZMod.natCast_mod, Nat.cast_mul, ← pow_two, ← pow_mul]
      rw [hsquare]
      by_cases hodd : e % 2 = 1
      · have hsplit : e = 2 * (e / 2) + 1 := by omega
        rw [if_pos hodd, ZMod.natCast_mod, Nat.cast_mul, mul_assoc, ← pow_succ', ← hsplit]
      · have hsplit : 2 * (e / 2) = e := by omega
        rw [if_neg hodd, hsplit]

/-- It stays below the modulus. -/
theorem powLoop_lt {m : Nat} (hm : 0 < m) : ∀ (fuel result b e : Nat), result < m →
    powLoop m fuel result b e < m := by
  intro fuel
  induction fuel with
  | zero =>
      intro result b e hresult
      exact hresult
  | succ fuel ih =>
      intro result b e hresult
      rw [powLoop]
      split
      · exact hresult
      · apply ih
        split
        · exact Nat.mod_lt _ hm
        · exact hresult

/-! ## Primes -/

/-- Lucas's test of `p` at `a`, for the given factors of `p - 1`. -/
def lucasTest (bits p a : Nat) (factors : List Nat) : Bool :=
  1 < p && p - 1 < 2 ^ bits && factors.prod == p - 1 && powLoop p bits 1 a (p - 1) % p == 1 &&
    factors.all fun q => powLoop p bits 1 a ((p - 1) / q) % p != 1

theorem powLoop_eq_one_iff {bits p a e : Nat} (hp : 1 < p) (he : e < 2 ^ bits) :
    powLoop p bits 1 a e % p = 1 ↔ (a : ZMod p) ^ e = 1 := by
  have hcast := powLoop_cast (m := p) bits 1 a e he
  rw [Nat.cast_one, one_mul] at hcast
  have hmod : powLoop p bits 1 a e % p = 1 ↔ powLoop p bits 1 a e % p = 1 % p := by
    rw [Nat.one_mod_eq_one.mpr (by omega)]
  have hone := ZMod.natCast_eq_natCast_iff' (powLoop p bits 1 a e) 1 p
  rw [Nat.cast_one] at hone
  rw [hmod, ← hone, hcast]

/-- **A number that passes is prime**, when the factors are. -/
theorem prime_of_lucasTest {p : Nat} (bits a : Nat) (factors : List Nat)
    (hfactors : ∀ q ∈ factors, q.Prime) (h : lucasTest bits p a factors = true) : p.Prime := by
  simp only [lucasTest, Bool.and_eq_true, decide_eq_true_eq, beq_iff_eq, List.all_eq_true,
    bne_iff_ne] at h
  obtain ⟨⟨⟨⟨hp, hbits⟩, hprod⟩, hone⟩, hnot⟩ := h
  apply lucas_primality p (a : ZMod p)
  · exact (powLoop_eq_one_iff hp hbits).1 hone
  · intro q hq hdvd
    rw [← hprod] at hdvd
    obtain ⟨r, hr, hqr⟩ := (Prime.dvd_prod_iff hq.prime).1 hdvd
    have heq : q = r := (Nat.prime_dvd_prime_iff_eq hq (hfactors r hr)).1 hqr
    subst heq
    have hlt : (p - 1) / q < 2 ^ bits := lt_of_le_of_lt (Nat.div_le_self _ _) hbits
    intro hpow
    exact hnot q hr ((powLoop_eq_one_iff hp hlt).2 hpow)

example : lucasTest 16 65147 2 [2, 32573] = true := by decide +kernel

end Beanie.Pratt
