/-
# `Beanie.Lib.KeccakBits` — Keccak, bit by bit

The permutation and the sponge over strings of bits: lane offsets from their
walk, round constants from their shift register, the padding counted in bits.
`Beanie.Lib.Keccak` computes on lanes and octets; each of its steps is read here
as the step on bits, and the whole of it as the sponge of capacity 512 cut after
256 bits (`keccak256_bits`).
-/
import Beanie.Lib.Keccak

namespace Beanie.KeccakBits

open Keccak (Lane State)

/-! ## The permutation -/

/-- `A[x, y, z]` -/
abbrev Cube := Fin 5 → Fin 5 → Fin 64 → Bool

/-- The bit of the string at `64 * (5 * y + x) + z`. -/
def Cube.ofString (S : Nat → Bool) : Cube := fun x y z => S (64 * (5 * y.val + x.val) + z.val)

def Cube.toString (A : Cube) : List Bool := (List.range 1600).map fun i =>
  A (Fin.ofNat 5 (i / 64)) (Fin.ofNat 5 (i / 64 / 5)) (Fin.ofNat 64 i)

def parity (A : Cube) (x : Fin 5) (z : Fin 64) : Bool :=
  A x 0 z ^^ A x 1 z ^^ A x 2 z ^^ A x 3 z ^^ A x 4 z

def theta (A : Cube) : Cube := fun x y z =>
  A x y z ^^ (parity A (x - 1) z ^^ parity A (x + 1) (z - 1))

/-- Where ρ is after `t` steps. -/
def walk : Nat → Fin 5 × Fin 5
  | 0 => (1, 0)
  | t + 1 => ((walk t).2, 2 * (walk t).1 + 3 * (walk t).2)

/-- The lane at the origin is not on the walk and stays. -/
def offset (x y : Fin 5) : Nat :=
  match (List.range 24).find? fun t => walk t = (x, y) with
  | some t => (t + 1) * (t + 2) / 2
  | none => 0

def rho (A : Cube) : Cube := fun x y z => A x y (z - Fin.ofNat 64 (offset x y))

def pi (A : Cube) : Cube := fun x y z => A (x + 3 * y) x z

def chi (A : Cube) : Cube := fun x y z => A x y z ^^ ((A (x + 1) y z ^^ true) && A (x + 2) y z)

/-- One step of the register of eight bits. -/
def shift (R : List Bool) : List Bool :=
  match R with
  | [a, b, c, d, e, f, g, h] => [h, a, b, c, d ^^ h, e ^^ h, f ^^ h, g]
  | R => R

def register : Nat → List Bool
  | 0 => [true, false, false, false, false, false, false, false]
  | t + 1 => shift (register t)

/-- `rc(t)`: the first bit of the register. -/
def rc (t : Nat) : Bool := (register (t % 255)).headD false

def roundConstant (ir : Nat) (z : Fin 64) : Bool :=
  (List.range 7).any fun j => decide (z.val = 2 ^ j - 1) && rc (j + 7 * ir)

def iota (ir : Nat) (A : Cube) : Cube := fun x y z =>
  if x = 0 ∧ y = 0 then A x y z ^^ roundConstant ir z else A x y z

def round (A : Cube) (ir : Nat) : Cube := iota ir (chi (pi (rho (theta A))))

def permutation (A : Cube) : Cube := (List.range 24).foldl round A

/-! ## The sponge -/

/-- A one, the fewest zeros, and a one, to a multiple of the rate. -/
def pad101 (r m : Nat) : List Bool :=
  true :: (List.replicate ((-(m : Int) - 2) % r).toNat false ++ [true])

/-- The first `n` blocks of the padded string; the capacity is left alone. -/
def absorb (r : Nat) : Nat → List Bool → Cube → Cube
  | 0, _, S => S
  | n + 1, P, S =>
      let block := Cube.ofString fun i => (P.take r).getD i false
      absorb r n (P.drop r) (permutation fun x y z => S x y z ^^ block x y z)

def squeeze (r : Nat) : Nat → Cube → List Bool
  | 0, _ => []
  | n + 1, S => S.toString.take r ++ squeeze r n (permutation S)

/-- `Keccak[c](M, d)` -/
def keccak (c : Nat) (M : List Bool) (d : Nat) : List Bool :=
  let r := 1600 - c
  let P := M ++ pad101 r M.length
  (squeeze r (d / r + 1) (absorb r (P.length / r) P fun _ _ _ => false)).take d

/-- Least significant bit first. -/
def octetBits (b : UInt8) : List Bool := (List.range 8).map b.toNat.testBit

def bitsOf (bs : Bytes) : List Bool := bs.flatMap octetBits

/-! ## Octets as bits -/

@[simp] theorem length_octetBits (b : UInt8) : (octetBits b).length = 8 := by simp [octetBits]

@[simp] theorem length_bitsOf (bs : Bytes) : (bitsOf bs).length = 8 * bs.length := by
  induction bs with
  | nil => rfl
  | cons b bs ih =>
      rw [bitsOf, List.flatMap_cons, List.length_append, length_octetBits, ← bitsOf, ih,
        List.length_cons]
      omega

theorem bitsOf_append (as bs : Bytes) : bitsOf (as ++ bs) = bitsOf as ++ bitsOf bs :=
  List.flatMap_append

theorem bitsOf_cons (b : UInt8) (bs : Bytes) : bitsOf (b :: bs) = octetBits b ++ bitsOf bs :=
  List.flatMap_cons

theorem bitsOf_drop (bs : Bytes) (n : Nat) : bitsOf (bs.drop n) = (bitsOf bs).drop (8 * n) := by
  induction n generalizing bs with
  | zero => rfl
  | succ n ih =>
      cases bs with
      | nil => simp [bitsOf]
      | cons b bs =>
          have hhead : (octetBits b).drop (8 * (n + 1)) = [] :=
            List.drop_eq_nil_of_le (by rw [length_octetBits]; omega)
          rw [List.drop_succ_cons, ih, bitsOf_cons, List.drop_append, length_octetBits, hhead,
            List.nil_append]
          congr 1

theorem bitsOf_take (bs : Bytes) (n : Nat) : bitsOf (bs.take n) = (bitsOf bs).take (8 * n) := by
  induction n generalizing bs with
  | zero => rfl
  | succ n ih =>
      cases bs with
      | nil => simp [bitsOf]
      | cons b bs =>
          have hhead : (octetBits b).take (8 * (n + 1)) = octetBits b :=
            List.take_of_length_le (by rw [length_octetBits]; omega)
          rw [List.take_succ_cons, bitsOf_cons, ih, bitsOf_cons, List.take_append, length_octetBits,
            hhead]
          congr 2

theorem bitsOf_zeros (n : Nat) : bitsOf (List.replicate n 0) = List.replicate (8 * n) false := by
  induction n with
  | zero => rfl
  | succ n ih =>
      have hzero : octetBits 0 = List.replicate 8 false := by decide
      rw [List.replicate_succ, bitsOf_cons, ih, hzero, List.replicate_append_replicate]
      congr 1
      omega

/-- The bits of a number are those of its octets. -/
theorem testBit_leNat (bs : Bytes) (i : Nat) : (leNat bs).testBit i = (bitsOf bs).getD i false := by
  induction bs generalizing i with
  | nil => simp [leNat, bitsOf]
  | cons b bs ih =>
      have hlt : b.toNat < 2 ^ 8 := b.toNat_lt
      have hsplit : leNat (b :: bs) = 2 ^ 8 * leNat bs + b.toNat := by
        rw [leNat]
        omega
      rw [hsplit, Nat.testBit_two_pow_mul_add _ hlt, bitsOf_cons, ih]
      by_cases hi : i < 8
      · rw [if_pos hi, List.getD_append _ _ _ _ (by rw [length_octetBits]; exact hi)]
        simp [octetBits, List.getD_eq_getElem?_getD, hi]
      · rw [if_neg hi, List.getD_append_right _ _ _ _ (by rw [length_octetBits]; omega),
          length_octetBits]

theorem bitsOf_leBytes (k n : Nat) : bitsOf (leBytes k n) = (List.range (8 * k)).map n.testBit := by
  apply List.ext_getElem
  · simp
  · intro i hi hi'
    have hget := testBit_leNat (leBytes k n) i
    rw [leNat_leBytes, List.getD_eq_getElem _ _ hi] at hget
    have hlt : i < 8 * k := by simpa using hi
    have hpow : (256 : Nat) ^ k = 2 ^ (8 * k) := by rw [Nat.pow_mul]
    rw [← hget, hpow, Nat.testBit_mod_two_pow, List.getElem_map, List.getElem_range]
    simp [hlt]

/-! ## The lanes compute the permutation -/

def cubeOf (A : State) : Cube := fun x y z => (Keccak.lane A x.val y.val).getLsbD z.val

/-- The place of a lane. -/
def place (x y : Fin 5) : Fin 25 := ⟨x.val + 5 * y.val, by omega⟩

theorem val_place (x y : Fin 5) : (place x y).val = x.val + 5 * y.val := rfl

theorem lane_eq (A : State) (x y : Fin 5) : Keccak.lane A x.val y.val = A.get (place x y) := by
  rw [Keccak.lane, Nat.mod_eq_of_lt x.isLt, Nat.mod_eq_of_lt y.isLt]
  congr 1
  exact Fin.ext (Nat.mod_eq_of_lt (place x y).isLt)

theorem lane_mod (A : State) {x x' y y' : Nat} (hx : x % 5 = x' % 5) (hy : y % 5 = y' % 5) :
    Keccak.lane A x y = Keccak.lane A x' y' := by
  rw [Keccak.lane, Keccak.lane, hx, hy]

theorem cubeOf_ofFn (f : Fin 25 → Lane) (x y : Fin 5) (z : Fin 64) :
    cubeOf (.ofFn f) x y z = (f (place x y)).getLsbD z.val := by
  rw [cubeOf, lane_eq, Vector.get_ofFn]

theorem cubeOf_get (A : State) (x y : Fin 5) (z : Fin 64) :
    (A.get (place x y)).getLsbD z.val = cubeOf A x y z := by
  rw [cubeOf, lane_eq]

theorem getLsbD_rotateLeft_sub (l : Lane) (r : Nat) (z : Fin 64) :
    (l.rotateLeft r).getLsbD z.val = l.getLsbD (z - Fin.ofNat 64 r).val := by
  have hz := z.isLt
  have hr : r % 64 < 64 := Nat.mod_lt _ (by decide)
  rw [BitVec.getLsbD_rotateLeft, Fin.sub_def]
  show (bif z.val < r % 64 then _ else _) = l.getLsbD ((64 - r % 64 + z.val) % 64)
  by_cases hlt : z.val < r % 64
  · have hmod : (64 - r % 64 + z.val) % 64 = 64 - r % 64 + z.val := Nat.mod_eq_of_lt (by omega)
    rw [decide_eq_true hlt, cond_true, hmod]
  · have hmod : (64 - r % 64 + z.val) % 64 = z.val - r % 64 := by omega
    rw [decide_eq_false hlt, cond_false, decide_eq_true hz, Bool.true_and, hmod]

theorem column_bits (A : State) (k : Nat) (x : Fin 5) (hx : k % 5 = x.val) (z : Fin 64) :
    (Keccak.column A k).getLsbD z.val = parity (cubeOf A) x z := by
  have hlane : ∀ y : Nat, Keccak.lane A k y = Keccak.lane A x.val y := by
    intro y
    exact lane_mod A (by omega) rfl
  simp only [Keccak.column, hlane, BitVec.getLsbD_xor]
  rfl

theorem theta_bits (A : State) : cubeOf (Keccak.theta A) = theta (cubeOf A) := by
  funext x y z
  have hbefore : (place x y + 4 : Nat) % 5 = (x - 1 : Fin 5).val := by
    rw [Fin.sub_def, val_place]
    show (x.val + 5 * y.val + 4) % 5 = (5 - 1 + x.val) % 5
    omega
  have hafter : (place x y + 1 : Nat) % 5 = (x + 1 : Fin 5).val := by
    rw [Fin.val_add, val_place]
    show (x.val + 5 * y.val + 1) % 5 = (x.val + 1) % 5
    omega
  rw [Keccak.theta, cubeOf_ofFn, BitVec.getLsbD_xor, BitVec.getLsbD_xor, getLsbD_rotateLeft_sub,
    cubeOf_get, column_bits A _ _ hbefore, column_bits A _ _ hafter]
  rfl

theorem offset_eq : ∀ x y : Fin 5,
    Fin.ofNat 64 (Keccak.offsets.getD (place x y).val 0) = Fin.ofNat 64 (offset x y) := by
  decide

theorem rho_bits (A : State) : cubeOf (Keccak.rho A) = rho (cubeOf A) := by
  funext x y z
  rw [Keccak.rho, cubeOf_ofFn, getLsbD_rotateLeft_sub, cubeOf_get, offset_eq]
  rfl

theorem pi_bits (A : State) : cubeOf (Keccak.pi A) = pi (cubeOf A) := by
  funext x y z
  have hsource : Keccak.lane A ((place x y).val + 3 * ((place x y).val / 5)) (place x y).val
      = Keccak.lane A (x + 3 * y : Fin 5).val x.val := by
    apply lane_mod
    · rw [Fin.val_add, Fin.val_mul, val_place]
      show (x.val + 5 * y.val + 3 * ((x.val + 5 * y.val) / 5)) % 5
        = (x.val + (3 * y.val) % 5) % 5 % 5
      omega
    · rw [val_place]
      omega
  rw [Keccak.pi, cubeOf_ofFn, hsource]
  rfl

theorem chi_bits (A : State) : cubeOf (Keccak.chi A) = chi (cubeOf A) := by
  funext x y z
  have hrow : ∀ (i : Fin 5), Keccak.lane A ((place x y).val + i.val) ((place x y).val / 5)
      = Keccak.lane A (x + i : Fin 5).val y.val := by
    intro i
    apply lane_mod
    · rw [Fin.val_add, val_place]
      omega
    · rw [val_place]
      omega
  rw [Keccak.chi, cubeOf_ofFn, BitVec.getLsbD_xor, BitVec.getLsbD_and, BitVec.getLsbD_not,
    cubeOf_get]
  rw [show (place x y).val + 1 = (place x y).val + (1 : Fin 5).val from rfl, hrow,
    show (place x y).val + 2 = (place x y).val + (2 : Fin 5).val from rfl, hrow,
    decide_eq_true z.isLt, Bool.true_and, chi, Bool.xor_true]
  rfl

theorem roundConstant_eq : (List.range 24).all (fun ir => (List.finRange 64).all fun z =>
    (Keccak.roundConstants.getD ir 0).getLsbD z.val == roundConstant ir z) = true := by
  decide +kernel

theorem iota_bits (A : State) {ir : Nat} (hir : ir < 24) :
    cubeOf (Keccak.iota (Keccak.roundConstants.getD ir 0) A) = iota ir (cubeOf A) := by
  funext x y z
  have hconstant : (Keccak.roundConstants.getD ir 0).getLsbD z.val = roundConstant ir z := by
    have h := List.all_eq_true.1 roundConstant_eq ir (List.mem_range.2 hir)
    exact eq_of_beq (List.all_eq_true.1 h z (List.mem_finRange z))
  rw [iota, cubeOf, lane_eq, Keccak.iota]
  by_cases horigin : x = 0 ∧ y = 0
  · obtain ⟨rfl, rfl⟩ := horigin
    have hset : (A.set 0 (A.get 0 ^^^ Keccak.roundConstants.getD ir 0)).get (place 0 0)
        = A.get (place 0 0) ^^^ Keccak.roundConstants.getD ir 0 :=
      Vector.getElem_set_self (by decide)
    rw [if_pos ⟨rfl, rfl⟩, ← hconstant, ← cubeOf_get, ← BitVec.getLsbD_xor, hset]
  · have hne : (place x y).val ≠ 0 := by
      intro hzero
      rw [val_place] at hzero
      exact horigin ⟨Fin.ext (by show x.val = 0; omega), Fin.ext (by show y.val = 0; omega)⟩
    have hset : (A.set 0 (A.get 0 ^^^ Keccak.roundConstants.getD ir 0)).get (place x y)
        = A.get (place x y) := Vector.getElem_set_ne (by decide) (place x y).isLt (Ne.symm hne)
    rw [if_neg horigin, hset, cubeOf_get]

theorem round_bits (A : State) {ir : Nat} (hir : ir < 24) :
    cubeOf (Keccak.round A (Keccak.roundConstants.getD ir 0)) = round (cubeOf A) ir := by
  rw [Keccak.round, iota_bits _ hir, chi_bits, pi_bits, rho_bits, theta_bits]
  rfl

theorem permutation_bits (A : State) :
    cubeOf (Keccak.permutation A) = permutation (cubeOf A) := by
  have htable : Keccak.roundConstants
      = (List.range 24).map fun ir => Keccak.roundConstants.getD ir 0 := by decide
  have hrun : ∀ (irs : List Nat) (A : State), (∀ ir ∈ irs, ir < 24) →
      cubeOf ((irs.map fun ir => Keccak.roundConstants.getD ir 0).foldl Keccak.round A)
        = irs.foldl round (cubeOf A) := by
    intro irs
    induction irs with
    | nil =>
        intro A _
        rfl
    | cons ir irs ih =>
        intro A hbelow
        rw [List.map_cons, List.foldl_cons, List.foldl_cons,
          ih _ fun i hi => hbelow i (List.mem_cons_of_mem _ hi),
          round_bits A (hbelow ir List.mem_cons_self)]
  rw [Keccak.permutation, htable, permutation]
  exact hrun (List.range 24) A fun ir hir => List.mem_range.1 hir

/-! ## The octets run through the sponge -/

theorem pad_bits (bs : Bytes) :
    bitsOf (Keccak.pad bs) = bitsOf bs ++ pad101 1088 (bitsOf bs).length := by
  have hmod : bs.length % 136 < 136 := Nat.mod_lt _ (by decide)
  have hzeros : ((-((8 * bs.length : Nat) : Int) - 2) % ((1088 : Nat) : Int)).toNat
      = 8 * (136 - bs.length % 136) - 2 := by omega
  have hone : octetBits 0x01 = true :: List.replicate 7 false := by decide
  have hlast : octetBits 0x80 = List.replicate 7 false ++ [true] := by decide
  have hboth : octetBits 0x81 = true :: (List.replicate 6 false ++ [true]) := by decide
  rw [pad101, length_bitsOf, hzeros, Keccak.pad, Keccak.rate]
  by_cases hq : 136 - bs.length % 136 = 1
  · rw [if_pos hq, bitsOf_append, bitsOf_cons, hboth, hq]
    rfl
  · have hsplit : 8 * (136 - bs.length % 136) - 2
        = 7 + (8 * (136 - bs.length % 136 - 2) + 7) := by omega
    rw [if_neg hq, bitsOf_append, bitsOf_cons, bitsOf_append, bitsOf_zeros, bitsOf_cons, hone,
      hlast, hsplit, List.replicate_add, List.replicate_add]
    simp [bitsOf]

/-- A block of octets reaches the lanes bit by bit. -/
theorem absorbBlock_bits (A : State) {block : Bytes} (h : block.length ≤ 136) :
    cubeOf (Keccak.absorbBlock A block) = fun x y z =>
      cubeOf A x y z ^^ Cube.ofString (fun i => (bitsOf block).getD i false) x y z := by
  funext x y z
  have hz := z.isLt
  have hindex : 64 * (5 * y.val + x.val) + z.val = 64 * (place x y).val + z.val := by
    rw [val_place]
    omega
  rw [Keccak.absorbBlock, cubeOf_ofFn, Cube.ofString, hindex]
  by_cases hrate : (place x y).val < Keccak.rate / 8
  · have hchunk : bitsOf ((block.drop (8 * (place x y).val)).take 8)
        = ((bitsOf block).drop (64 * (place x y).val)).take 64 := by
      rw [bitsOf_take, bitsOf_drop, ← Nat.mul_assoc]
    have hget : (((bitsOf block).drop (64 * (place x y).val)).take 64).getD z.val false
        = (bitsOf block).getD (64 * (place x y).val + z.val) false := by
      rw [List.getD_eq_getElem?_getD, List.getD_eq_getElem?_getD, List.getElem?_take_of_lt hz,
        List.getElem?_drop]
    rw [if_pos hrate, BitVec.getLsbD_xor, cubeOf_get, BitVec.getLsbD_ofNat, decide_eq_true hz,
      Bool.true_and, testBit_leNat, hchunk, hget]
  · have hbeyond : (bitsOf block).length ≤ 64 * (place x y).val + z.val := by
      rw [length_bitsOf]
      have hle : 17 ≤ (place x y).val := Nat.le_of_not_lt hrate
      omega
    rw [if_neg hrate, cubeOf_get, List.getD_eq_default _ _ hbeyond, Bool.xor_false]

theorem absorb_bits (n : Nat) (P : Bytes) (A : State) :
    cubeOf (Keccak.absorb Keccak.permutation n P A) = absorb 1088 n (bitsOf P) (cubeOf A) := by
  induction n generalizing P A with
  | zero => rfl
  | succ n ih =>
      have htake : (P.take Keccak.rate).length ≤ 136 := by
        rw [List.length_take]
        exact Nat.min_le_left _ _
      rw [Keccak.absorb, ih, permutation_bits, absorbBlock_bits A htake, bitsOf_take, bitsOf_drop]
      rfl

theorem toString_bit (A : State) {k z : Nat} (hk : k < 5) (hz : z < 64) :
    cubeOf A (Fin.ofNat 5 ((64 * k + z) / 64)) (Fin.ofNat 5 ((64 * k + z) / 64 / 5))
        (Fin.ofNat 64 (64 * k + z)) = (A.get ⟨k, by omega⟩).toNat.testBit z := by
  have hplane : (64 * k + z) / 64 = k := by omega
  have hcolumn : (Fin.ofNat 64 (64 * k + z)).val = z := by
    show (64 * k + z) % 64 = z
    omega
  rw [cubeOf, lane_eq, hplane, hcolumn, BitVec.testBit_toNat]
  have hplace : place (Fin.ofNat 5 k) (Fin.ofNat 5 (k / 5)) = ⟨k, by omega⟩ := by
    apply Fin.ext
    rw [val_place]
    show k % 5 + 5 * (k / 5 % 5) = k
    omega
  rw [hplace]

theorem squeeze_bits (A : State) : bitsOf (Keccak.squeeze A) = (cubeOf A).toString.take 256 := by
  have hfour : List.range 256 = (List.range 64).map (64 * 0 + ·) ++ (List.range 64).map (64 * 1 + ·)
      ++ (List.range 64).map (64 * 2 + ·) ++ (List.range 64).map (64 * 3 + ·) := by decide +kernel
  have hlane : ∀ k (hk : k < 5), bitsOf (leBytes 8 (A.get ⟨k, by omega⟩).toNat)
      = ((List.range 64).map (64 * k + ·)).map fun i => cubeOf A (Fin.ofNat 5 (i / 64))
          (Fin.ofNat 5 (i / 64 / 5)) (Fin.ofNat 64 i) := by
    intro k hk
    rw [bitsOf_leBytes, List.map_map]
    apply List.map_congr_left
    intro z hz
    exact (toString_bit A hk (List.mem_range.1 hz)).symm
  have hrange : (List.range 1600).take 256 = List.range 256 := by decide +kernel
  rw [Cube.toString, ← List.map_take, hrange, hfour, List.map_append, List.map_append,
    List.map_append, ← hlane 0 (by decide), ← hlane 1 (by decide), ← hlane 2 (by decide),
    ← hlane 3 (by decide), ← bitsOf_append, ← bitsOf_append, ← bitsOf_append]
  rfl

/-- **The octets are the sponge's bits.** -/
theorem keccak256_bits (bs : Bytes) :
    bitsOf (Keccak.keccak256 bs) = keccak 512 (bitsOf bs) 256 := by
  have hblocks : (bitsOf (Keccak.pad bs)).length / 1088 = (Keccak.pad bs).length / 136 := by
    rw [length_bitsOf]
    omega
  have hzero : cubeOf (.replicate 25 0) = fun _ _ _ => false := by
    funext x y z
    have hget : (Vector.replicate 25 (0 : Lane)).get (place x y) = 0 := Vector.getElem_replicate ..
    rw [cubeOf, lane_eq, hget]
    exact BitVec.getLsbD_zero
  rw [Keccak.keccak256, squeeze_bits, absorb_bits, hzero, pad_bits]
  rw [pad_bits] at hblocks
  show _ = (squeeze 1088 1 (absorb 1088 ((bitsOf bs ++ pad101 1088 (bitsOf bs).length).length / 1088)
    (bitsOf bs ++ pad101 1088 (bitsOf bs).length) fun _ _ _ => false)).take 256
  rw [hblocks, squeeze, squeeze, List.append_nil, List.take_take]
  rfl

end Beanie.KeccakBits
