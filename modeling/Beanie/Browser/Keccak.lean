/-
# `Beanie.Browser.Keccak` — the browser's own Keccak-256

`identity.js` spells the permutation out over one array: the column parities
first, then one walk along the twenty-four lanes that ρ and π move, then row by
row, then the round constant.  It is the permutation of `Beanie.Lib.Keccak`
(`keccak256_eq`), and so the whole is Keccak of capacity 512, bit for bit.
-/
import Beanie.Lib.KeccakBits

namespace Beanie.Browser

open Keccak (Lane State)

/-! ## As the script has it -/

def rotl (x : Lane) (n : Nat) : Lane := (x <<< n) ||| (x >>> (64 - n))

def RC : List Lane :=
  [0x0000000000000001, 0x0000000000008082, 0x800000000000808a, 0x8000000080008000,
   0x000000000000808b, 0x0000000080000001, 0x8000000080008081, 0x8000000000008009,
   0x000000000000008a, 0x0000000000000088, 0x0000000080008009, 0x000000008000000a,
   0x000000008000808b, 0x800000000000008b, 0x8000000000008089, 0x8000000000008003,
   0x8000000000008002, 0x8000000000000080, 0x000000000000800a, 0x800000008000000a,
   0x8000000080008081, 0x8000000000008080, 0x0000000080000001, 0x8000000080008008]

def ROTC : List Nat :=
  [1, 3, 6, 10, 15, 21, 28, 36, 45, 55, 2, 14, 27, 41, 56, 8, 25, 43, 62, 18, 39, 61, 20, 44]

def PILN : List (Fin 25) :=
  [10, 7, 11, 17, 18, 3, 5, 16, 8, 21, 24, 4, 15, 23, 19, 13, 12, 2, 20, 14, 22, 9, 6, 1]

/-- `st[i]`, for an index that is in range. -/
def at25 (st : State) (i : Nat) : Lane := st.get (Fin.ofNat 25 i)

/-- `bc[i]`, the parity of a column. -/
def parity (st : State) (i : Nat) : Lane :=
  at25 st i ^^^ at25 st (i + 5) ^^^ at25 st (i + 10) ^^^ at25 st (i + 15) ^^^ at25 st (i + 20)

/-- `for i, for j: st[j + i] ^= t`: every lane once. -/
def mixColumns (st : State) : State := .ofFn fun k =>
  st.get k ^^^ (parity st ((k.val % 5 + 4) % 5) ^^^ rotl (parity st ((k.val % 5 + 1) % 5)) 1)

/-- `st[j] = rotl(t, r); t = b0`, where `b0` was `st[j]`. -/
def moveLane (s : State × Lane) (c : Fin 25 × Nat) : State × Lane :=
  (s.1.set c.1 (rotl s.2 c.2), s.1.get c.1)

def moveLanes (st : State) : State := ((PILN.zip ROTC).foldl moveLane (st, st.get 1)).1

/-- `st[j + i] ^= (bc[(i + 1) % 5] ^ M64) & bc[(i + 2) % 5]`, where `bc` was the row. -/
def mixRows (st : State) : State := .ofFn fun k =>
  let j := 5 * (k.val / 5)
  let i := k.val % 5
  st.get k ^^^ ((at25 st (j + (i + 1) % 5) ^^^ BitVec.allOnes 64) &&& at25 st (j + (i + 2) % 5))

def keccakRound (st : State) (rc : Lane) : State :=
  let st := mixRows (moveLanes (mixColumns st))
  st.set 0 (st.get 0 ^^^ rc) Keccak.zero_lt_positions

def keccakF (st : State) : State := RC.foldl keccakRound st

/-- The input in a buffer of whole blocks, with a one behind it and a one at the end. -/
def padded (input : Bytes) : Bytes :=
  let size := (input.length + 1 + 135) / 136 * 136
  let buffer := input ++ List.replicate (size - input.length) 0
  (buffer.modify input.length (· ^^^ 0x01)).modify (size - 1) (· ^^^ 0x80)

def keccak256 (input : Bytes) : Bytes :=
  Keccak.squeeze
    (Keccak.absorb keccakF ((padded input).length / 136) (padded input) (.replicate 25 0))

/-! ## The permutation -/

theorem rotl_eq (x : Lane) {n : Nat} (h : n < 64) : rotl x n = x.rotateLeft n := by
  rw [BitVec.rotateLeft_def, Nat.mod_eq_of_lt h]
  rfl

theorem rotateLeft_zero (x : Lane) : x.rotateLeft 0 = x := by
  rw [BitVec.rotateLeft_def]
  show x <<< 0 ||| x >>> 64 = x
  rw [BitVec.ushiftRight_eq_zero (Nat.le_refl 64), BitVec.shiftLeft_zero, BitVec.or_zero]

theorem at25_eq_lane (st : State) {i x y : Nat} (h : x % 5 + 5 * (y % 5) = i) :
    at25 st i = Keccak.lane st x y := by
  rw [at25, Keccak.lane, h]

theorem parity_eq (st : State) (i : Nat) (h : i < 5) : parity st i = Keccak.column st i := by
  unfold parity Keccak.column
  rw [at25_eq_lane st (by omega : i % 5 + 5 * (0 % 5) = i),
    at25_eq_lane st (by omega : i % 5 + 5 * (1 % 5) = i + 5),
    at25_eq_lane st (by omega : i % 5 + 5 * (2 % 5) = i + 10),
    at25_eq_lane st (by omega : i % 5 + 5 * (3 % 5) = i + 15),
    at25_eq_lane st (by omega : i % 5 + 5 * (4 % 5) = i + 20)]

theorem column_mod (st : State) {i j : Nat} (h : i % 5 = j % 5) :
    Keccak.column st i = Keccak.column st j := by
  simp only [Keccak.column, Keccak.lane, h]

theorem mixColumns_eq (st : State) : mixColumns st = Keccak.theta st := by
  unfold mixColumns Keccak.theta
  congr 1
  funext k
  rw [parity_eq st _ (Nat.mod_lt _ (by decide)), parity_eq st _ (Nat.mod_lt _ (by decide)),
    rotl_eq _ (by decide), column_mod st (by omega : (k.val % 5 + 4) % 5 % 5 = (k.val + 4) % 5),
    column_mod st (by omega : (k.val % 5 + 1) % 5 % 5 = (k.val + 1) % 5)]

/-- Which lane the walk puts at `k`, and by how much it is turned; `p` is the lane in hand. -/
def origin (p : Fin 25) : List (Fin 25 × Nat) → Fin 25 → Option (Fin 25 × Nat)
  | [], _ => none
  | (j, r) :: cs, k => if k = j then some (p, r) else origin j cs k

theorem origin_none {p k : Fin 25} {cs : List (Fin 25 × Nat)} (h : k ∉ cs.map Prod.fst) :
    origin p cs k = none := by
  induction cs generalizing p with
  | nil => rfl
  | cons c cs ih =>
      obtain ⟨hne, hrest⟩ := List.ne_and_not_mem_of_not_mem_cons h
      obtain ⟨j, r⟩ := c
      rw [origin, if_neg hne]
      exact ih hrest

/-- The walk over distinct lanes: each is read before it is written. -/
theorem get_walk (st₀ : State) {cs : List (Fin 25 × Nat)} (hnodup : (cs.map Prod.fst).Nodup)
    (p : Fin 25) (st : State) (hsame : ∀ k ∈ cs.map Prod.fst, st.get k = st₀.get k) (k : Fin 25) :
    (cs.foldl moveLane (st, st₀.get p)).1.get k =
      match origin p cs k with
      | some (q, r) => rotl (st₀.get q) r
      | none => st.get k := by
  induction cs generalizing p st with
  | nil => rfl
  | cons c cs ih =>
      obtain ⟨j, r⟩ := c
      rw [List.map_cons, List.nodup_cons] at hnodup
      have hread : st.get j = st₀.get j := hsame j List.mem_cons_self
      have hset : ∀ i, (st.set j (rotl (st₀.get p) r)).get i
          = if i = j then rotl (st₀.get p) r else st.get i := by
        intro i
        by_cases hi : i = j
        · rw [if_pos hi, hi]
          exact Vector.getElem_set_self j.isLt
        · rw [if_neg hi]
          exact Vector.getElem_set_ne j.isLt i.isLt fun h => hi (Fin.ext h.symm)
      have hrest := ih hnodup.2 j (st.set j (rotl (st₀.get p) r)) (by
        intro i hi
        have hij : i ≠ j := by
          rintro rfl
          exact hnodup.1 hi
        rw [hset, if_neg hij]
        exact hsame i (List.mem_cons_of_mem _ hi))
      rw [List.foldl_cons]
      show (cs.foldl moveLane (st.set j (rotl (st₀.get p) r), st.get j)).1.get k = _
      rw [hread, hrest, origin]
      by_cases hk : k = j
      · rw [if_pos hk, hk, origin_none hnodup.1]
        dsimp only
        rw [hset, if_pos rfl]
      · rw [if_neg hk]
        cases origin j cs k with
        | none =>
            dsimp only
            rw [hset, if_neg hk]
        | some o => rfl

/-- Where π takes the lane at `k` from. -/
def source (k : Fin 25) : Fin 25 :=
  Fin.ofNat 25 ((k.val + 3 * (k.val / 5)) % 5 + 5 * (k.val % 5))

/-- The walk's table is ρ's and π's; lane 0 stays where it is. -/
theorem origin_table : ∀ k : Fin 25, origin 1 (PILN.zip ROTC) k =
    if k = 0 then none else some (source k, Keccak.offsets.getD (source k).val 0) := by
  decide

theorem moveLanes_eq (st : State) : moveLanes st = Keccak.pi (Keccak.rho st) := by
  apply Vector.ext
  intro i hi
  have hwalk := get_walk st (by decide : ((PILN.zip ROTC).map Prod.fst).Nodup) 1 st
    (fun _ _ => rfl) ⟨i, hi⟩
  have hpi : (Keccak.pi (Keccak.rho st))[i]
      = (st.get (source ⟨i, hi⟩)).rotateLeft (Keccak.offsets.getD (source ⟨i, hi⟩).val 0) := by
    rw [Keccak.pi, Vector.getElem_ofFn, Keccak.lane, Keccak.rho, Vector.get_ofFn]
    rfl
  have hoffset : ∀ k : Fin 25, Keccak.offsets.getD (source k).val 0 < 64 := by decide
  rw [hpi]
  refine hwalk.trans ?_
  rw [origin_table]
  by_cases hzero : (⟨i, hi⟩ : Fin 25) = 0
  · rw [if_pos hzero, hzero]
    dsimp only
    rw [show source 0 = 0 by decide, show Keccak.offsets.getD (0 : Fin 25).val 0 = 0 by decide,
      rotateLeft_zero]
  · rw [if_neg hzero]
    exact rotl_eq _ (hoffset _)

theorem mixRows_eq (st : State) : mixRows st = Keccak.chi st := by
  unfold mixRows Keccak.chi
  congr 1
  funext k
  have hlt := k.isLt
  dsimp only
  rw [BitVec.xor_allOnes, at25_eq_lane st (by omega : (k.val + 1) % 5 + 5 * (k.val / 5 % 5)
      = 5 * (k.val / 5) + (k.val % 5 + 1) % 5),
    at25_eq_lane st (by omega : (k.val + 2) % 5 + 5 * (k.val / 5 % 5)
      = 5 * (k.val / 5) + (k.val % 5 + 2) % 5)]

theorem keccakRound_eq (st : State) (rc : Lane) : keccakRound st rc = Keccak.round st rc := by
  rw [keccakRound, mixColumns_eq, moveLanes_eq, mixRows_eq]
  rfl

theorem keccakF_eq : keccakF = Keccak.permutation := by
  have hround : keccakRound = Keccak.round := by
    funext st rc
    exact keccakRound_eq st rc
  funext st
  rw [keccakF, hround]
  rfl

/-! ## The padding -/

theorem modify_append_cons {α : Type} (f : α → α) (l r : List α) (a : α) :
    (l ++ a :: r).modify l.length f = l ++ f a :: r := by
  induction l with
  | nil => rfl
  | cons b l ih => rw [List.cons_append, List.length_cons, List.modify_succ_cons, ih]; rfl

theorem padded_eq (input : Bytes) : padded input = Keccak.pad input := by
  have hmod := Nat.mod_lt input.length (by decide : 0 < 136)
  have hsize : (input.length + 1 + 135) / 136 * 136 = input.length + (136 - input.length % 136) := by
    omega
  unfold padded Keccak.pad Keccak.rate
  dsimp only
  rw [hsize, Nat.add_sub_cancel_left]
  obtain ⟨q, hq⟩ : ∃ q, 136 - input.length % 136 = q + 1 := ⟨135 - input.length % 136, by omega⟩
  rw [hq]
  cases q with
  | zero =>
      rw [if_pos rfl]
      show ((input ++ [0]).modify input.length _).modify input.length _ = _
      rw [modify_append_cons, modify_append_cons]
      rfl
  | succ q =>
      have hlast : input.length + (q + 1 + 1) - 1 = (input ++ 0x01 :: List.replicate q 0).length := by
        rw [List.length_append, List.length_cons, List.length_replicate]
        omega
      have hzeros : List.replicate (q + 1 + 1) (0 : UInt8) = 0 :: (List.replicate q 0 ++ [0]) := by
        rw [List.replicate_succ, List.replicate_succ']
      rw [if_neg (by omega), hzeros, modify_append_cons, hlast]
      have hsplit : input ++ ((0 : UInt8) ^^^ 0x01) :: (List.replicate q 0 ++ [0])
          = (input ++ 0x01 :: List.replicate q 0) ++ [0] := by
        rw [List.append_assoc]
        rfl
      rw [hsplit, modify_append_cons, List.append_assoc]
      rfl

theorem keccak256_eq (input : Bytes) : keccak256 input = Keccak.keccak256 input := by
  rw [keccak256, padded_eq, keccakF_eq]
  rfl

/-- **It is Keccak[512], cut after 32 octets**, for inputs of every length. -/
theorem keccak256_is_keccak (input : Bytes) :
    (keccak256 input).length = 32 ∧
      KeccakBits.bitsOf (keccak256 input)
        = KeccakBits.keccak 512 (KeccakBits.bitsOf input) 256 := by
  rw [keccak256_eq]
  exact ⟨Keccak.length_keccak256 input, KeccakBits.keccak256_bits input⟩

end Beanie.Browser
