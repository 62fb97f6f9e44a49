/-
# `Beanie.Lib.Reader` — readers, the words they read, and why readable is unambiguous

A reader takes a value off the front of a list of symbols.  `Reads r w a` says
that `r` reads exactly the word `w`, as `a`, whatever follows it.  Reading is
compositional (`Reads.bind`, `Reads.many`), and a code whose words can be read
is uniquely decodable even inside a longer list:

    Reads r w a → Reads r w' a' → w ++ x = w' ++ x' → a = a' ∧ w = w' ∧ x = x'

so a nested, length-prefixed format is injective as soon as somebody can read
it (`Reads.unique`).
-/
import Mathlib
import Beanie.Lib.Bytes

namespace Beanie

/-- A reader of `α` over symbols `τ`. -/
abbrev Reader (τ α : Type) := StateT (List τ) Option α

namespace Reader
variable {τ α β : Type}

/-- One symbol. -/
def symbol : Reader τ τ := fun
  | [] => none
  | t :: ts => some (t, ts)

/-- The next `n` symbols. -/
def take (n : Nat) : Reader τ (List τ) := fun ts =>
  if n ≤ ts.length then some (ts.take n, ts.drop n) else none

/-- `n` values, one after the other. -/
def many (r : Reader τ α) : Nat → Reader τ (List α)
  | 0 => pure []
  | n + 1 => do
      let a ← r
      let as ← many r n
      pure (a :: as)

/-- Stop unless `p`. -/
def guard (p : Prop) [Decidable p] : Reader τ Unit := fun ts =>
  if p then some ((), ts) else none

end Reader

section
variable {τ α β : Type}

/-- `r` reads the word `w` as `a`, whatever follows. -/
def Reads (r : Reader τ α) (w : List τ) (a : α) : Prop :=
  ∀ rest, r (w ++ rest) = some (a, rest)

theorem Reads.pure (a : α) : Reads (pure a : Reader τ α) [] a := fun _ => rfl

theorem Reads.bind {r : Reader τ α} {f : α → Reader τ β} {w w' : List τ} {a : α} {b : β}
    (h : Reads r w a) (h' : Reads (f a) w' b) : Reads (r >>= f) (w ++ w') b := by
  intro rest
  show (r (w ++ w' ++ rest)).bind (fun p => f p.1 p.2) = some (b, rest)
  rw [List.append_assoc, h, Option.bind_some]
  exact h' rest

theorem Reads.map {r : Reader τ α} {w : List τ} {a : α} (f : α → β) (h : Reads r w a) :
    Reads (f <$> r) w (f a) := by
  intro rest
  show (r (w ++ rest)).bind (fun p => some (f p.1, p.2)) = some (f a, rest)
  rw [h, Option.bind_some]

theorem Reads.symbol (t : τ) : Reads Reader.symbol [t] t := fun _ => rfl

theorem Reads.take {w : List τ} {n : Nat} (h : w.length = n) : Reads (Reader.take n) w w := by
  intro rest
  subst h
  simp [Reader.take]

theorem Reads.guard {p : Prop} [Decidable p] (h : p) : Reads (Reader.guard p) ([] : List τ) () := by
  intro rest
  simp [Reader.guard, h]

/-- A list of words, read one after the other. -/
theorem Reads.many {r : Reader τ α} {enc : α → List τ} {as : List α}
    (h : ∀ a ∈ as, Reads r (enc a) a) : Reads (Reader.many r as.length) (as.flatMap enc) as := by
  induction as with
  | nil => exact .pure []
  | cons a as ih =>
      have hhead := h a List.mem_cons_self
      have htail := ih (fun b hb => h b (List.mem_cons_of_mem _ hb))
      have hword : as.flatMap enc = as.flatMap enc ++ [] := (List.append_nil _).symm
      rw [List.flatMap_cons, hword]
      exact hhead.bind (htail.bind (.pure _))

/-- **Unique decodability.**  Two readable words at the front of one list are the same word, with
the same value, and leave the same rest. -/
theorem Reads.unique {r : Reader τ α} {w w' x x' : List τ} {a a' : α} (h : Reads r w a)
    (h' : Reads r w' a') (heq : w ++ x = w' ++ x') : a = a' ∧ w = w' ∧ x = x' := by
  have hread := h x
  rw [heq, h' x'] at hread
  obtain ⟨ha, hx⟩ := Prod.mk.inj (Option.some.inj hread)
  subst hx
  exact ⟨ha.symm, List.append_cancel_right heq, rfl⟩

/-- A readable encoding is injective. -/
theorem Reads.encoding_inj {r : Reader τ α} {w : List τ} {a a' : α} (h : Reads r w a)
    (h' : Reads r w a') : a = a' :=
  (h.unique h' (rfl : w ++ [] = w ++ [])).1

end

/-! ## Borsh: fixed-width little-endian integers, raw arrays, length-prefixed vectors -/

namespace Borsh

/-- An unsigned integer of `k` bytes. -/
def uint (k : Nat) : Reader UInt8 Nat := leNat <$> Reader.take k

/-- `[u8; 32]`, as the number its bytes spell. -/
def array32 : Reader UInt8 (BitVec 256) := (fun bs => BitVec.ofNat 256 (beNat bs)) <$> Reader.take 32

/-- `Vec<u8>`. -/
def vec : Reader UInt8 Bytes := do
  let n ← uint 4
  Reader.take n

theorem reads_uint {k n : Nat} (h : n < 256 ^ k) : Reads (uint k) (leBytes k n) n := by
  have hread := (Reads.take (length_leBytes k n)).map leNat
  rwa [leNat_leBytes, Nat.mod_eq_of_lt h] at hread

theorem reads_array32 (k : BitVec 256) : Reads array32 (beBytes 32 k.toNat) k := by
  have hlt : k.toNat < 256 ^ 32 := by
    have h := k.isLt
    omega
  have hread := (Reads.take (length_beBytes 32 k.toNat)).map fun bs => BitVec.ofNat 256 (beNat bs)
  rwa [beNat_beBytes, Nat.mod_eq_of_lt hlt, BitVec.ofNat_toNat, BitVec.setWidth_eq] at hread

theorem reads_vec {bs : Bytes} (h : bs.length < 2 ^ 32) :
    Reads vec (leBytes 4 bs.length ++ bs) bs :=
  (reads_uint (by omega)).bind (.take rfl)

end Borsh

end Beanie
