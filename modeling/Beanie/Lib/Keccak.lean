/-
# `Beanie.Lib.Keccak` — Keccak-256

The sponge over Keccak-f[1600] with a rate of 136 octets and the original
padding.  The state is twenty-five lanes, lane `(x, y)` at `x + 5 * y`; a round
is the five step mappings, one after the other.
-/
import Beanie.Lib.Bytes

namespace Beanie.Keccak

abbrev Lane := BitVec 64
abbrev State := Vector Lane 25

/-- Named, so that a definition that writes a position does not carry a proof of it. -/
instance neZeroPositions : NeZero 25 := ⟨by decide⟩

theorem zero_lt_positions : 0 < 25 := by decide

/-- The lane at `(x, y)`, both modulo five. -/
def lane (A : State) (x y : Nat) : Lane := A.get (Fin.ofNat 25 (x % 5 + 5 * (y % 5)))

/-! ## The step mappings -/

def column (A : State) (x : Nat) : Lane :=
  lane A x 0 ^^^ lane A x 1 ^^^ lane A x 2 ^^^ lane A x 3 ^^^ lane A x 4

def theta (A : State) : State := .ofFn fun k =>
  A.get k ^^^ (column A (k.val + 4) ^^^ (column A (k.val + 1)).rotateLeft 1)

/-- By how much ρ turns the lane. -/
def offsets : List Nat :=
  [0, 1, 62, 28, 27, 36, 44, 6, 55, 20, 3, 10, 43, 25, 39, 41, 45, 15, 21, 8, 18, 2, 61, 56, 14]

def rho (A : State) : State := .ofFn fun k => (A.get k).rotateLeft (offsets.getD k.val 0)

/-- The lane at `(x, y)` comes from `(x + 3 y, x)`. -/
def pi (A : State) : State := .ofFn fun k => lane A (k.val + 3 * (k.val / 5)) k.val

def chi (A : State) : State := .ofFn fun k =>
  A.get k ^^^ (~~~ lane A (k.val + 1) (k.val / 5) &&& lane A (k.val + 2) (k.val / 5))

def iota (rc : Lane) (A : State) : State := A.set 0 (A.get 0 ^^^ rc)

def roundConstants : List Lane :=
  [0x0000000000000001, 0x0000000000008082, 0x800000000000808a, 0x8000000080008000,
   0x000000000000808b, 0x0000000080000001, 0x8000000080008081, 0x8000000000008009,
   0x000000000000008a, 0x0000000000000088, 0x0000000080008009, 0x000000008000000a,
   0x000000008000808b, 0x800000000000008b, 0x8000000000008089, 0x8000000000008003,
   0x8000000000008002, 0x8000000000000080, 0x000000000000800a, 0x800000008000000a,
   0x8000000080008081, 0x8000000000008080, 0x0000000080000001, 0x8000000080008008]

def round (A : State) (rc : Lane) : State := iota rc (chi (pi (rho (theta A))))

def permutation (A : State) : State := roundConstants.foldl round A

/-! ## The sponge -/

def rate : Nat := 136

/-- A one, as many zeros as are needed, and a one, least significant bit first. -/
def pad (bs : Bytes) : Bytes :=
  let q := rate - bs.length % rate
  if q = 1 then bs ++ [0x81] else bs ++ 0x01 :: (List.replicate (q - 2) 0 ++ [0x80])

/-- A block, xored into the state's first lanes. -/
def absorbBlock (A : State) (block : Bytes) : State := .ofFn fun k =>
  if k.val < rate / 8 then A.get k ^^^ BitVec.ofNat 64 (leNat ((block.drop (8 * k.val)).take 8))
  else A.get k

/-- The first `n` blocks of the message, with a permutation `f` after each. -/
def absorb (f : State → State) : Nat → Bytes → State → State
  | 0, _, A => A
  | n + 1, bs, A => absorb f n (bs.drop rate) (f (absorbBlock A (bs.take rate)))

def squeeze (A : State) : Bytes :=
  leBytes 8 (A.get 0).toNat ++ leBytes 8 (A.get 1).toNat ++ leBytes 8 (A.get 2).toNat
    ++ leBytes 8 (A.get 3).toNat

def keccak256 (bs : Bytes) : Bytes :=
  squeeze (absorb permutation ((pad bs).length / rate) (pad bs) (.replicate 25 0))

theorem length_keccak256 (bs : Bytes) : (keccak256 bs).length = 32 := by
  simp [keccak256, squeeze]

end Beanie.Keccak
