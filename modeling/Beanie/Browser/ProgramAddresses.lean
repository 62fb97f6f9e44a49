/-
# `Beanie.Browser.ProgramAddresses` — what is an address, and what is a point

`isOnCurve` is a loop over squares and one power.  Read in the field of
2 ^ 255 - 19 elements it is Euler's criterion for `(y² - 1) / (d y² + 1)`, whose
denominator never vanishes because `-1` is a square there and `d` is not.  So it
says exactly which 32 octets decompress to a point (`isOnCurve_iff`), and the
search over bumps stops at the highest that is no point.
-/
import Beanie.Lib.Pratt
import Beanie.Browser.SolanaAnnounced
import Mathlib.NumberTheory.LegendreSymbol.Basic
import Mathlib.Tactic.FieldSimp
import Mathlib.Tactic.LinearCombination

namespace Beanie.Browser

open Beanie.Solana (Pubkey Runtime Registration bytesOf length_bytesOf routeSeeds)
open Beanie.Api (keyText)

/-! ## The field -/

/-- Lucas's tests of the primes below, evaluated in one go. -/
theorem lucas_tests :
    Pratt.lucasTest 32 2773320623 5 [2, 2437, 569003] = true ∧
    Pratt.lucasTest 37 72106336199 7 [2, 13, 2773320623] = true ∧
    Pratt.lucasTest 51 1919519569386763 2 [2, 3, 7, 19, 47, 47, 127, 8574133] = true ∧
    Pratt.lucasTest 55 31757755568855353 10 [2, 2, 2, 3, 31, 107, 223, 4153, 430751] = true ∧
    Pratt.lucasTest 116 75445702479781427272750846543864801 7
      [2, 2, 2, 2, 2, 3, 3, 5, 5, 75707, 72106336199, 1919519569386763] = true ∧
    Pratt.lucasTest 236 74058212732561358302231226437062788676166966415465897661863160754340907 2
      [2, 3, 353, 57467, 132049, 1923133, 31757755568855353,
        75445702479781427272750846543864801] = true ∧
    Pratt.lucasTest 255 ED25519_P 2
      [2, 2, 3, 65147, 74058212732561358302231226437062788676166966415465897661863160754340907]
        = true := by
  decide +kernel

theorem prime_2773320623 : Nat.Prime 2773320623 :=
  Pratt.prime_of_lucasTest _ _ _
    (by simp only [List.forall_mem_cons, List.not_mem_nil, false_imp_iff, implies_true]; norm_num)
    lucas_tests.1

theorem prime_72106336199 : Nat.Prime 72106336199 :=
  Pratt.prime_of_lucasTest _ _ _
    (by
      simp only [List.forall_mem_cons, List.not_mem_nil, false_imp_iff, implies_true,
        prime_2773320623]
      norm_num)
    lucas_tests.2.1

theorem prime_1919519569386763 : Nat.Prime 1919519569386763 :=
  Pratt.prime_of_lucasTest _ _ _
    (by simp only [List.forall_mem_cons, List.not_mem_nil, false_imp_iff, implies_true]; norm_num)
    lucas_tests.2.2.1

theorem prime_31757755568855353 : Nat.Prime 31757755568855353 :=
  Pratt.prime_of_lucasTest _ _ _
    (by simp only [List.forall_mem_cons, List.not_mem_nil, false_imp_iff, implies_true]; norm_num)
    lucas_tests.2.2.2.1

theorem prime_75445702479781427272750846543864801 :
    Nat.Prime 75445702479781427272750846543864801 :=
  Pratt.prime_of_lucasTest _ _ _
    (by
      simp only [List.forall_mem_cons, List.not_mem_nil, false_imp_iff, implies_true,
        prime_72106336199, prime_1919519569386763]
      norm_num)
    lucas_tests.2.2.2.2.1

theorem prime_large_factor :
    Nat.Prime 74058212732561358302231226437062788676166966415465897661863160754340907 :=
  Pratt.prime_of_lucasTest _ _ _
    (by
      simp only [List.forall_mem_cons, List.not_mem_nil, false_imp_iff, implies_true,
        prime_31757755568855353, prime_75445702479781427272750846543864801]
      norm_num)
    lucas_tests.2.2.2.2.2.1

theorem prime_ED25519_P : ED25519_P.Prime :=
  Pratt.prime_of_lucasTest _ _ _
    (by
      simp only [List.forall_mem_cons, List.not_mem_nil, false_imp_iff, implies_true,
        prime_large_factor]
      norm_num)
    lucas_tests.2.2.2.2.2.2

instance : Fact ED25519_P.Prime := ⟨prime_ED25519_P⟩

abbrev Fp := ZMod ED25519_P

theorem modPowLoop_eq : ∀ (fuel result b e : Nat),
    modPowLoop fuel result b e = Pratt.powLoop ED25519_P fuel result b e := by
  intro fuel
  induction fuel with
  | zero =>
      intro result b e
      rfl
  | succ fuel ih =>
      intro result b e
      rw [modPowLoop, Pratt.powLoop, ih]

theorem modPow_cast (base : Nat) {exp : Nat} (h : exp < 2 ^ 256) :
    (modPow base exp : Fp) = (base : Fp) ^ exp := by
  rw [modPow, modPowLoop_eq, Pratt.powLoop_cast 256 1 _ _ h, Nat.cast_one, one_mul,
    ZMod.natCast_mod]

theorem modPow_lt (base exp : Nat) : modPow base exp < ED25519_P := by
  rw [modPow, modPowLoop_eq]
  exact Pratt.powLoop_lt (by decide) _ _ _ _ (by decide)

/-- Below the modulus, numbers are field elements. -/
theorem cast_eq_iff {a b : Nat} (ha : a < ED25519_P) (hb : b < ED25519_P) :
    ((a : Fp) = b) ↔ a = b := by
  rw [ZMod.natCast_eq_natCast_iff', Nat.mod_eq_of_lt ha, Nat.mod_eq_of_lt hb]

/-- The power `P - 2` inverts. -/
theorem modPow_inv (v : Nat) : (modPow v (ED25519_P - 2) : Fp) = (v : Fp)⁻¹ := by
  rw [modPow_cast v (by decide)]
  by_cases hv : (v : Fp) = 0
  · rw [hv, inv_zero, zero_pow (by decide)]
  · have hfermat : (v : Fp) ^ (ED25519_P - 1) = 1 := ZMod.pow_card_sub_one_eq_one hv
    have hsplit : ED25519_P - 1 = ED25519_P - 2 + 1 := by decide
    rw [hsplit, pow_succ] at hfermat
    exact eq_inv_of_mul_eq_one_left hfermat

/-! ## The curve -/

/-- The constant of edwards25519. -/
def curveD : Fp := -(121665 / 121666)

theorem ED25519_D_cast : (ED25519_D : Fp) = curveD := by
  have hle : 121665 ≤ ED25519_P := by decide
  have hnegative : ((ED25519_P - 121665 : Nat) : Fp) = -121665 := by
    rw [Nat.cast_sub hle, ZMod.natCast_self, zero_sub, Nat.cast_ofNat]
  delta ED25519_D
  rw [ZMod.natCast_mod, Nat.cast_mul, modPow_inv, hnegative, Nat.cast_ofNat, curveD,
    div_eq_mul_inv, neg_mul]

/-- `-x² + y² = 1 + d x² y²` -/
def OnEdwards (x y : Fp) : Prop := -x ^ 2 + y ^ 2 = 1 + curveD * x ^ 2 * y ^ 2

/-- The 255 low bits are `y`, reduced, and the last bit is the parity of `x`.
It is not looked at when `x` is zero. -/
def Decompresses (bytes : Bytes) (x y : Fp) : Prop :=
  y = (leNat bytes % 2 ^ 255 : Nat) ∧ OnEdwards x y ∧ (x = 0 ∨ x.val % 2 = leNat bytes / 2 ^ 255)

def IsPoint (bytes : Bytes) : Prop := ∃ x y, Decompresses bytes x y

theorem not_isSquare_curveD : ¬ IsSquare curveD := by
  have hne : curveD ≠ 0 := by
    rw [← ED25519_D_cast, ← Nat.cast_zero, Ne, cast_eq_iff (by decide +kernel) (by decide)]
    decide +kernel
  rw [ZMod.euler_criterion ED25519_P hne, ← ED25519_D_cast,
    ← modPow_cast ED25519_D (by decide), ← Nat.cast_one,
    cast_eq_iff (modPow_lt _ _) (by decide)]
  decide +kernel

theorem isSquare_neg_one : IsSquare (-1 : Fp) :=
  ZMod.exists_sq_eq_neg_one_iff.2 (by decide)

/-- The denominator never vanishes. -/
theorem denominator_ne_zero (y : Fp) : curveD * y ^ 2 + 1 ≠ 0 := by
  intro hzero
  obtain ⟨i, hi⟩ := isSquare_neg_one
  have hy : y ≠ 0 := by
    intro hy
    rw [hy] at hzero
    simp at hzero
  apply not_isSquare_curveD
  refine ⟨i / y, ?_⟩
  field_simp
  linear_combination hzero + hi

/-- What the square of `x` has to be. -/
def xSquared (y : Fp) : Fp := (y ^ 2 - 1) / (curveD * y ^ 2 + 1)

theorem onEdwards_iff {x y : Fp} : OnEdwards x y ↔ x ^ 2 = xSquared y := by
  rw [OnEdwards, xSquared, eq_div_iff (denominator_ne_zero y)]
  constructor
  · intro h
    linear_combination -h
  · intro h
    linear_combination -h

/-- Of a number and its negative, one has the wanted parity. -/
theorem exists_parity {x : Fp} (hx : x ≠ 0) {sign : Nat} (hsign : sign < 2) :
    ∃ x' : Fp, x' ^ 2 = x ^ 2 ∧ x'.val % 2 = sign := by
  by_cases hparity : x.val % 2 = sign
  · exact ⟨x, rfl, hparity⟩
  · refine ⟨-x, neg_sq x, ?_⟩
    have hlt : x.val < ED25519_P := ZMod.val_lt x
    have hodd : ED25519_P % 2 = 1 := by decide
    rw [ZMod.neg_val, if_neg hx]
    omega

/-- The zero case and Euler's criterion. -/
theorem squareTest_iff {x2 : Nat} (h : x2 < ED25519_P) :
    (if x2 = 0 then true else decide (modPow x2 ((ED25519_P - 1) / 2) = 1)) = true
      ↔ IsSquare (x2 : Fp) := by
  by_cases hzero : x2 = 0
  · rw [if_pos hzero, hzero, Nat.cast_zero]
    exact iff_of_true rfl IsSquare.zero
  · have hne : (x2 : Fp) ≠ 0 := by
      rw [← Nat.cast_zero, Ne, cast_eq_iff h (by decide)]
      exact hzero
    have hhalf : (ED25519_P - 1) / 2 = ED25519_P / 2 := by decide
    have hone := cast_eq_iff (modPow_lt x2 (ED25519_P / 2)) (b := 1) (by decide)
    rw [Nat.cast_one, modPow_cast x2 (by decide)] at hone
    rw [if_neg hzero, decide_eq_true_iff, hhalf, ZMod.euler_criterion ED25519_P hne, hone]

theorem isOnCurve_iff_isSquare (bytes : Bytes) :
    isOnCurve bytes = true ↔ IsSquare (xSquared ((leNat bytes % 2 ^ 255 : Nat) : Fp)) := by
  delta isOnCurve
  refine (squareTest_iff (Nat.mod_lt _ (by decide))).trans ?_
  apply iff_of_eq
  apply congrArg
  have hpos : 1 ≤ ED25519_P := by decide
  rw [ZMod.natCast_mod, Nat.cast_mul, modPow_inv, ZMod.natCast_mod, ZMod.natCast_mod,
    Nat.add_sub_assoc hpos, Nat.cast_add, Nat.cast_add, Nat.cast_sub hpos, ZMod.natCast_self,
    Nat.cast_mul, ED25519_D_cast, ZMod.natCast_mod, Nat.cast_mul, ZMod.natCast_mod, Nat.cast_one,
    xSquared, div_eq_mul_inv, pow_two, zero_sub, ← sub_eq_add_neg]

/-- **The test says which 32 octets decompress.** -/
theorem isOnCurve_iff {bytes : Bytes} (h : bytes.length = 32) :
    isOnCurve bytes = true ↔ IsPoint bytes := by
  rw [isOnCurve_iff_isSquare]
  constructor
  · intro hsquare
    obtain ⟨x, hx⟩ := hsquare
    rw [← pow_two] at hx
    by_cases hzero : x = 0
    · exact ⟨x, _, rfl, onEdwards_iff.2 hx.symm, .inl hzero⟩
    · have hsign : leNat bytes / 2 ^ 255 < 2 := by
        have hlt := leNat_lt bytes
        rw [h] at hlt
        omega
      obtain ⟨x', hsame, hparity⟩ := exists_parity hzero hsign
      exact ⟨x', _, rfl, onEdwards_iff.2 (hsame.trans hx.symm), .inr hparity⟩
  · intro hpoint
    obtain ⟨x, y, hy, hxy, -⟩ := hpoint
    rw [← hy, ← onEdwards_iff.1 hxy]
    exact IsSquare.sq x

/-! ## The search -/

section
variable (sha256 : Bytes → Bytes)

/-- The hash at the bump is no point, and all above it are. -/
structure HighestBump (seeds : List Bytes) (program : Bytes) (bump : Nat) : Prop where
  octet : bump ≤ 255
  off : ¬ IsPoint (bumpHash sha256 seeds program bump)
  above : ∀ b, bump < b → b ≤ 255 → IsPoint (bumpHash sha256 seeds program b)

end

section
variable {sha256 : Bytes → Bytes} {seeds : List Bytes} {program : Bytes}

theorem HighestBump.unique {b c : Nat} (hb : HighestBump sha256 seeds program b)
    (hc : HighestBump sha256 seeds program c) : b = c := by
  rcases Nat.lt_trichotomy b c with hlt | heq | hgt
  · exact absurd (hb.above c hlt hc.octet) hc.off
  · exact heq
  · exact absurd (hc.above b hgt hb.octet) hb.off

/-- A search from `top` finds the highest bump that is no point. -/
theorem findBump_iff (hlength : ∀ bs, (sha256 bs).length = 32) (seeds : List Bytes)
    (program address : Bytes) (bump : Nat) : ∀ top,
    findBump sha256 seeds program top = some (address, bump) ↔
      address = bumpHash sha256 seeds program bump ∧ bump ≤ top ∧
        ¬ IsPoint (bumpHash sha256 seeds program bump) ∧
        ∀ b, bump < b → b ≤ top → IsPoint (bumpHash sha256 seeds program b) := by
  have hpoint : ∀ b, isOnCurve (bumpHash sha256 seeds program b) = true
      ↔ IsPoint (bumpHash sha256 seeds program b) := fun b => isOnCurve_iff (hlength _)
  intro top
  induction top with
  | zero =>
      rw [findBump]
      by_cases hon : isOnCurve (bumpHash sha256 seeds program 0) = true
      · rw [if_pos hon]
        refine iff_of_false (by simp) ?_
        intro h
        have hzero : bump = 0 := Nat.le_zero.1 h.2.1
        exact h.2.2.1 (hzero ▸ (hpoint 0).1 hon)
      · rw [if_neg hon]
        constructor
        · intro h
          injection h with h
          injection h with haddress hbump
          subst hbump
          refine ⟨haddress.symm, Nat.le_refl 0, fun h => hon ((hpoint 0).2 h), ?_⟩
          intro b hlt hle
          omega
        · intro h
          have hzero : bump = 0 := Nat.le_zero.1 h.2.1
          rw [h.1, hzero]
  | succ top ih =>
      rw [findBump]
      by_cases hon : isOnCurve (bumpHash sha256 seeds program (top + 1)) = true
      · rw [if_pos hon, ih]
        constructor
        · intro h
          refine ⟨h.1, Nat.le_succ_of_le h.2.1, h.2.2.1, ?_⟩
          intro b hlt hle
          rcases Nat.lt_or_eq_of_le hle with hbelow | rfl
          · exact h.2.2.2 b hlt (Nat.le_of_lt_succ hbelow)
          · exact (hpoint _).1 hon
        · intro h
          have hne : bump ≠ top + 1 := by
            rintro rfl
            exact h.2.2.1 ((hpoint _).1 hon)
          have hle := h.2.1
          exact ⟨h.1, by omega, h.2.2.1, fun b hlt hb => h.2.2.2 b hlt (Nat.le_succ_of_le hb)⟩
      · rw [if_neg hon]
        constructor
        · intro h
          injection h with h
          injection h with haddress hbump
          subst hbump
          refine ⟨haddress.symm, Nat.le_refl _, fun h => hon ((hpoint _).2 h), ?_⟩
          intro b hlt hle
          omega
        · intro h
          have heq : bump = top + 1 := by
            by_contra hne
            have hle := h.2.1
            exact hon ((hpoint _).2 (h.2.2.2 (top + 1) (by omega) (Nat.le_refl _)))
          rw [h.1, heq]

theorem findProgramAddress_iff (hlength : ∀ bs, (sha256 bs).length = 32) {address : Bytes}
    {bump : Nat} : findProgramAddress sha256 seeds program = some (address, bump) ↔
      address = bumpHash sha256 seeds program bump ∧ HighestBump sha256 seeds program bump := by
  rw [findProgramAddress, findBump_iff hlength]
  constructor
  · intro h
    exact ⟨h.1, h.2.1, h.2.2.1, h.2.2.2⟩
  · intro h
    exact ⟨h.1, h.2.octet, h.2.off, h.2.above⟩

/-- A search answers if some bump is viable. -/
theorem exists_highestBump {bump : Nat} (hoctet : bump ≤ 255)
    (hoff : ¬ IsPoint (bumpHash sha256 seeds program bump)) :
    ∃ b, bump ≤ b ∧ HighestBump sha256 seeds program b := by
  classical
  let viable : Nat → Prop := fun b => ¬ IsPoint (bumpHash sha256 seeds program b)
  have hfound : viable (Nat.findGreatest viable 255) := Nat.findGreatest_spec hoctet hoff
  refine ⟨Nat.findGreatest viable 255, Nat.le_findGreatest hoctet hoff, ?_⟩
  refine ⟨Nat.findGreatest_le 255, hfound, ?_⟩
  intro b hlt hle
  exact not_not.1 (Nat.findGreatest_is_greatest hlt hle)

end

/-! ## The accounts of the program -/

def ATA_PROGRAM : Text := "ATokenGPvbdGVxr1b2hvZbsiqW5xWH25efTNsLJA8knL".toList

def usdcAta (sha256 : Bytes → Bytes) (owner mint : Text) : Option Text := do
  let o ← pubkeyBytes owner
  let t ← pubkeyBytes TOKEN_PROGRAM
  let m ← pubkeyBytes mint
  let program ← pubkeyBytes ATA_PROGRAM
  let found ← findProgramAddress sha256 [o, t, m] program
  some (base58Encode found.1)

section
variable (sha256 : Bytes → Bytes)

/-- `find_program_address` takes at most 15 seeds of at most 32 octets, besides the bump. -/
def Derivation.Allowed (d : Derivation) : Prop := d.1.length < 16 ∧ ∀ s ∈ d.1, s.length ≤ 32

/-- It tries the bumps from 255 down to 1, and panics if all of them give points. -/
def Derivation.Exists (d : Derivation) : Prop :=
  ∃ bump, bump ≠ 0 ∧ bump ≤ 255 ∧ ¬ IsPoint (bumpHash sha256 d.1 (bytesOf d.2) bump)

/-- What is documented of the runtime: `find_program_address` returns the address of the highest
bump that is off the curve, and the programs have the names the browser knows them by. -/
structure ProgramDerives (rt : Runtime) : Prop where
  highest : ∀ (d : Derivation) (bump : Nat), d.Allowed → bump ≠ 0 →
    HighestBump sha256 d.1 (bytesOf d.2) bump →
      bytesOf (rt.findProgramAddress d.1 d.2).1 = bumpHash sha256 d.1 (bytesOf d.2) bump ∧
        (rt.findProgramAddress d.1 d.2).2.toNat = bump
  programId : keyText rt.programId = SOLANA_PROGRAM.id
  tokenProgram : keyText rt.tokenProgram = TOKEN_PROGRAM
  ataProgram : keyText rt.ataProgram = ATA_PROGRAM

end

theorem allowed_ataOf (rt : Runtime) (owner mint : Pubkey) : (ataOf rt owner mint).Allowed := by
  refine ⟨by simp [ataOf], ?_⟩
  simp [ataOf, length_bytesOf]

theorem allowed_configOf (rt : Runtime) (r : Registration) : (configOf rt r).Allowed := by
  have hseed : Solana.CONFIG_SEED.length ≤ 32 := by decide
  refine ⟨by simp [configOf, routeSeeds], ?_⟩
  simp [configOf, routeSeeds, length_bytesOf, hseed]

theorem allowed_pendingOf (rt : Runtime) (r : Registration) : (pendingOf rt r).Allowed := by
  have hseed : Solana.PENDING_SEED.length ≤ 32 := by decide
  refine ⟨by simp [pendingOf, routeSeeds], ?_⟩
  simp [pendingOf, routeSeeds, length_bytesOf, hseed]

section
variable {sha256 : Bytes → Bytes} {rt : Runtime}

/-- What the program derives is what the browser finds. -/
theorem ProgramDerives.found (h : ProgramDerives sha256 rt)
    (hlength : ∀ bs, (sha256 bs).length = 32) {d : Derivation} (hallowed : d.Allowed)
    (hexists : d.Exists sha256) :
    findProgramAddress sha256 d.1 (bytesOf d.2)
      = some (bytesOf (d.address rt), (rt.findProgramAddress d.1 d.2).2.toNat) := by
  obtain ⟨bump, hne, hoctet, hoff⟩ := hexists
  obtain ⟨b, hle, hb⟩ := exists_highestBump hoctet hoff
  obtain ⟨haddress, hbump⟩ := h.highest d b hallowed (by omega) hb
  rw [findProgramAddress_iff hlength, hbump]
  exact ⟨haddress, hb⟩

theorem ProgramDerives.usdcAta_eq (h : ProgramDerives sha256 rt)
    (hlength : ∀ bs, (sha256 bs).length = 32) {owner mint : Text} {o m : Pubkey}
    (howner : pubkeyBytes owner = some (bytesOf o)) (hmint : pubkeyBytes mint = some (bytesOf m))
    (hexists : (ataOf rt o m).Exists sha256) :
    usdcAta sha256 owner mint = some (keyText (rt.ata o m)) := by
  have hfound := h.found hlength (allowed_ataOf rt o m) hexists
  simp only [ataOf] at hfound
  rw [usdcAta, howner, ← h.tokenProgram, pubkeyBytes_keyText, hmint, ← h.ataProgram,
    pubkeyBytes_keyText, Option.bind_eq_bind, Option.bind_some, Option.bind_some,
    Option.bind_some, Option.bind_some, hfound]
  rfl

theorem ProgramDerives.receiverPdas_eq (h : ProgramDerives sha256 rt)
    (hlength : ∀ bs, (sha256 bs).length = 32) {q : Asked}
    {merchant chain32 recipient32 receiver : Text} {k : Pubkey}
    (hq : q.Spelled merchant chain32 recipient32)
    (hreceiver : pubkeyBytes receiver = some (bytesOf k))
    (hconfig : (configOf rt (q.receiving k)).Exists sha256)
    (hpending : (pendingOf rt (q.receiving k)).Exists sha256) :
    receiverPdas sha256 SOLANA_PROGRAM merchant receiver chain32 recipient32
      = some ⟨keyText ((configOf rt (q.receiving k)).address rt),
          keyText ((pendingOf rt (q.receiving k)).address rt)⟩ := by
  have hconfig := h.found hlength (allowed_configOf rt _) hconfig
  have hpending := h.found hlength (allowed_pendingOf rt _) hpending
  simp only [configOf, routeSeeds, Asked.receiving] at hconfig
  simp only [pendingOf, routeSeeds, Asked.receiving] at hpending
  rw [receiverPdas, hq.merchant, hreceiver, hq.chain, hq.recipient, ← h.programId,
    pubkeyBytes_keyText, utf8_config, utf8_pending]
  rw [Option.bind_eq_bind, Option.bind_some, Option.bind_some, Option.bind_some, Option.bind_some,
    Option.bind_some, hconfig, Option.bind_eq_bind, Option.bind_some, hpending, Option.bind_some]
  rfl

end

/-- **The browser's points are the curve's, and its accounts the program's.**  The test is true of
the 32 octets that decompress, the search returns the highest bump whose hash does not, and
wherever the program derives an account the browser derives the same. -/
theorem derives_as_program (sha256 : Bytes → Bytes) (rt : Runtime)
    (hlength : ∀ bs, (sha256 bs).length = 32) (h : ProgramDerives sha256 rt) :
    (∀ bytes : Bytes, bytes.length = 32 →
      (isOnCurve bytes = true ↔ ∃ x y, Decompresses bytes x y)) ∧
    (∀ (seeds : List Bytes) (program address : Bytes) (bump : Nat),
      findProgramAddress sha256 seeds program = some (address, bump) ↔
        address = bumpHash sha256 seeds program bump ∧ HighestBump sha256 seeds program bump) ∧
    (∀ d : Derivation, d.Allowed → d.Exists sha256 →
      findProgramAddress sha256 d.1 (bytesOf d.2)
        = some (bytesOf (d.address rt), (rt.findProgramAddress d.1 d.2).2.toNat)) ∧
    (∀ (owner mint : Text) (o m : Pubkey), pubkeyBytes owner = some (bytesOf o) →
      pubkeyBytes mint = some (bytesOf m) → (ataOf rt o m).Exists sha256 →
        usdcAta sha256 owner mint = some (keyText (rt.ata o m))) ∧
    (∀ (q : Asked) (k : Pubkey) (merchant receiver chain32 recipient32 : Text),
      q.Spelled merchant chain32 recipient32 → pubkeyBytes receiver = some (bytesOf k) →
        (configOf rt (q.receiving k)).Exists sha256 → (pendingOf rt (q.receiving k)).Exists sha256 →
          receiverPdas sha256 SOLANA_PROGRAM merchant receiver chain32 recipient32
            = some ⟨keyText ((configOf rt (q.receiving k)).address rt),
                keyText ((pendingOf rt (q.receiving k)).address rt)⟩) := by
  refine ⟨fun bytes hbytes => isOnCurve_iff hbytes, ?_, ?_, ?_, ?_⟩
  · intro seeds program address bump
    exact findProgramAddress_iff hlength
  · intro d hallowed hexists
    exact h.found hlength hallowed hexists
  · intro owner mint o m howner hmint hexists
    exact h.usdcAta_eq hlength howner hmint hexists
  · intro q k merchant receiver chain32 recipient32 hq hreceiver hconfig hpending
    exact h.receiverPdas_eq hlength hq hreceiver hconfig hpending

namespace DecodeSample

theorem runtime_derives : ProgramDerives sha256 runtime where
  highest := by
    intro d bump hallowed hne hbump
    have hlength : ∀ bs, (sha256 bs).length = 32 := fun bs => length_beBytes 32 _
    have hfound := (findProgramAddress_iff hlength).2 ⟨rfl, hbump⟩
    obtain ⟨k, hk⟩ := Api.exists_bytesOf (hlength (d.1.flatten ++ UInt8.ofNat bump ::
      (bytesOf d.2 ++ utf8 "ProgramDerivedAddress".toList)))
    have hread : BitVec.ofNat 256 (beNat (bytesOf k)) = k := by
      rw [bytesOf, beNat_beBytes, Nat.mod_eq_of_lt (show k.toNat < 256 ^ 32 from k.isLt),
        BitVec.ofNat_toNat, BitVec.setWidth_eq]
    rw [runtime_findProgramAddress, hfound, Option.map_some, Option.getD_some, bumpHash, ← hk,
      hread]
    refine ⟨rfl, ?_⟩
    rw [UInt8.toNat_ofNat']
    have hoctet := hbump.octet
    omega
  programId := by decide +kernel
  tokenProgram := by decide +kernel
  ataProgram := by decide +kernel

theorem staging_exists : (ataOf runtime ownConfig MINT).Exists sha256 := by
  refine ⟨255, by decide, by decide, ?_⟩
  intro hpoint
  have hon := (isOnCurve_iff (by rw [bumpHash, sha256, length_beBytes])).2 hpoint
  have hoff : isOnCurve (bumpHash sha256 (ataOf runtime ownConfig MINT).1
      (bytesOf (ataOf runtime ownConfig MINT).2) 255) = false := by decide +kernel
  rw [hoff] at hon
  cases hon

theorem zero_isPoint : IsPoint (List.replicate 32 0) :=
  (isOnCurve_iff (List.length_replicate ..)).1 (by decide +kernel)

end DecodeSample

open DecodeSample in
theorem derives_as_program_sample :
    isOnCurve (List.replicate 32 0) = true ∧
      usdcAta sha256 (keyText ownConfig) (keyText MINT)
        = some (keyText (runtime.ata ownConfig MINT)) :=
  ⟨((derives_as_program sha256 runtime (fun _ => length_beBytes 32 _) runtime_derives).1 _
      (List.length_replicate ..)).2 zero_isPoint,
    (derives_as_program sha256 runtime (fun _ => length_beBytes 32 _) runtime_derives).2.2.2.1 _ _
      _ _ (pubkeyBytes_keyText _) (pubkeyBytes_keyText _) staging_exists⟩

end Beanie.Browser
