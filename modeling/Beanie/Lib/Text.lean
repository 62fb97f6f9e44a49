/-
# `Beanie.Lib.Text` — texts of digits, and what one text means in two radices

A text that one program writes in decimal and another reads in hexadecimal
still reads as a number, and as the same number only below ten:

    hexValue (Nat.toDigits 10 n) = n ↔ n < 10

`HexOf s v` says that `s` is hexadecimal for `v`, with or without a lower-case
prefix.  It determines `v` up to the case of the letters (`HexOf.unique`).
-/
import Mathlib

namespace Beanie

abbrev Text := List Char

/-- Named, so that a definition that compares texts does not carry a proof of it. -/
instance lawfulBEqText : LawfulBEq Text := inferInstance

/-- A bounded quantifier is decided over the text, not over all characters. -/
instance decidableForallMem (s : Text) (p : Char → Prop) [DecidablePred p] :
    Decidable (∀ c ∈ s, p c) := List.decidableBAll p s

/-! ## ASCII case -/

def eqIgnoreAsciiCase (s t : Text) : Bool := s.map Char.toLower == t.map Char.toLower

theorem toNat_toLower (c : Char) :
    c.toLower.toNat = if 65 ≤ c.toNat ∧ c.toNat ≤ 90 then c.toNat + 32 else c.toNat := by
  unfold Char.toLower
  have hA : c.val ≥ 65 ↔ 65 ≤ c.toNat := UInt32.le_iff_toNat_le
  have hZ : c.val ≤ 90 ↔ c.toNat ≤ 90 := UInt32.le_iff_toNat_le
  split_ifs with h h' h'
  · have hadd : (c.val + 32).toNat = c.toNat + 32 := by
      rw [UInt32.toNat_add]
      show (c.toNat + 32) % 2 ^ 32 = c.toNat + 32
      omega
    exact hadd
  · exact absurd ⟨hA.mp h.1, hZ.mp h.2⟩ h'
  · exact absurd ⟨hA.mpr h'.1, hZ.mpr h'.2⟩ h
  · rfl

/-! ## Digits -/

/-- The value of a hexadecimal digit of either case. -/
def hexDigit? (c : Char) : Option Nat :=
  if 48 ≤ c.toNat ∧ c.toNat ≤ 57 then some (c.toNat - 48)
  else if 97 ≤ c.toNat ∧ c.toNat ≤ 102 then some (c.toNat - 87)
  else if 65 ≤ c.toNat ∧ c.toNat ≤ 70 then some (c.toNat - 55)
  else none

def IsHex (ds : Text) : Prop := ∀ c ∈ ds, (hexDigit? c).isSome

instance (ds : Text) : Decidable (IsHex ds) := inferInstanceAs (Decidable (∀ c ∈ ds, _))

/-- The number a text of hexadecimal digits spells. -/
def hexValue (ds : Text) : Nat := ds.foldl (fun n c => 16 * n + (hexDigit? c).getD 0) 0

theorem hexDigit?_toLower (c : Char) : hexDigit? c.toLower = hexDigit? c := by
  unfold hexDigit?
  rw [toNat_toLower]
  split_ifs <;> first | rfl | omega

theorem hexValue_map_toLower (ds : Text) : hexValue (ds.map Char.toLower) = hexValue ds := by
  simp [hexValue, List.foldl_map, hexDigit?_toLower]

theorem hexValue_concat (ds : Text) (c : Char) :
    hexValue (ds ++ [c]) = 16 * hexValue ds + (hexDigit? c).getD 0 := by
  simp [hexValue]

theorem hexDigit?_lt {c : Char} {n : Nat} (h : hexDigit? c = some n) : n < 16 := by
  unfold hexDigit? at h
  split_ifs at h <;> simp at h <;> omega

/-- What the digits spell fits in as many digits. -/
theorem hexValue_lt (ds : Text) : hexValue ds < 16 ^ ds.length := by
  induction ds using List.reverseRecOn with
  | nil => exact Nat.one_pos
  | append_singleton ds c ih =>
      have hdigit : (hexDigit? c).getD 0 < 16 := by
        cases hc : hexDigit? c with
        | none => exact Nat.succ_pos 15
        | some n => exact hexDigit?_lt hc
      rw [hexValue_concat, List.length_append, List.length_singleton, Nat.pow_succ]
      omega

/-! ## Hexadecimal texts -/

/-- `s` is hexadecimal for `v`: digits of either case, after `0x` or after nothing. -/
def HexOf (s : Text) (v : Nat) : Prop :=
  ∃ ds, (s = ds ∨ s = '0' :: 'x' :: ds) ∧ IsHex ds ∧ hexValue ds = v

theorem HexOf.plain {ds : Text} (h : IsHex ds) : HexOf ds (hexValue ds) :=
  ⟨ds, .inl rfl, h, rfl⟩

theorem HexOf.prefixed {ds : Text} (h : IsHex ds) : HexOf ('0' :: 'x' :: ds) (hexValue ds) :=
  ⟨ds, .inr rfl, h, rfl⟩

/-- A digit text does not start like a prefix. -/
theorem not_isHex_of_hexPrefix {ds ds' : Text}
    (h : ds.map Char.toLower = ('0' :: 'x' :: ds').map Char.toLower) : ¬ IsHex ds := by
  intro hhex
  match ds, h with
  | [], h => exact absurd h (by simp)
  | [_], h => exact absurd h (by simp)
  | a :: b :: _, h =>
      have hb : b.toLower = 'x'.toLower := by
        simp only [List.map_cons, List.cons.injEq] at h
        exact h.2.1
      have hsome := hhex b (by simp)
      rw [← hexDigit?_toLower, hb] at hsome
      exact absurd hsome (by decide)

/-- Texts that agree up to case are hexadecimal for the same number. -/
theorem HexOf.unique {s t : Text} {v w : Nat} (hs : HexOf s v) (ht : HexOf t w)
    (h : eqIgnoreAsciiCase s t = true) : v = w := by
  obtain ⟨ds, hds, hdhex, rfl⟩ := hs
  obtain ⟨es, hes, hehex, rfl⟩ := ht
  have hmap : s.map Char.toLower = t.map Char.toLower := by simpa [eqIgnoreAsciiCase] using h
  have key : ds.map Char.toLower = es.map Char.toLower → hexValue ds = hexValue es := by
    intro h
    rw [← hexValue_map_toLower ds, h, hexValue_map_toLower]
  rcases hds with rfl | rfl <;> rcases hes with rfl | rfl
  · exact key hmap
  · exact absurd hdhex (not_isHex_of_hexPrefix hmap)
  · exact absurd hehex (not_isHex_of_hexPrefix hmap.symm)
  · simp only [List.map_cons, List.cons.injEq] at hmap
    exact key hmap.2.2

theorem eqIgnoreAsciiCase_refl (s : Text) : eqIgnoreAsciiCase s s = true := by
  simp [eqIgnoreAsciiCase]

/-! ## Hexadecimal texts written and read -/

/-- `{n:#x}`. -/
def hexLiteral (n : Nat) : Text := '0' :: 'x' :: Nat.toDigits 16 n

theorem hexDigit?_hexDigitChar {n : Nat} (h : n < 16) : hexDigit? n.digitChar = some n := by
  interval_cases n <;> rfl

/-- A number is read back from its hexadecimal digits. -/
theorem hexValue_toDigits_sixteen (n : Nat) : hexValue (Nat.toDigits 16 n) = n := by
  induction n using Nat.strongRecOn with
  | ind n ih =>
      by_cases h : n < 16
      · rw [Nat.toDigits_of_lt_base h]
        simp [hexValue, hexDigit?_hexDigitChar h]
      · have hrec := ih (n / 16) (by omega)
        rw [Nat.toDigits_of_base_le (by decide) (Nat.le_of_not_lt h), hexValue_concat, hrec,
          hexDigit?_hexDigitChar (Nat.mod_lt _ (by decide)), Option.getD_some]
        omega

/-! ## Decimal texts read as hexadecimal -/

theorem hexDigit?_digitChar {n : Nat} (h : n < 10) : hexDigit? n.digitChar = some n := by
  interval_cases n <;> rfl

theorem isHex_toDigits (n : Nat) : IsHex (Nat.toDigits 10 n) := by
  intro c hc
  have hdigit := Nat.isDigit_of_mem_toDigits (by decide) (by decide) hc
  have h0 : 48 ≤ c.toNat ∧ c.toNat ≤ 57 := by
    simp only [Char.isDigit, Bool.and_eq_true, decide_eq_true_eq] at hdigit
    exact ⟨UInt32.le_iff_toNat_le.mp hdigit.1, UInt32.le_iff_toNat_le.mp hdigit.2⟩
  rw [hexDigit?, if_pos h0]
  rfl

theorem hexValue_toDigits_of_lt {n : Nat} (h : n < 10) : hexValue (Nat.toDigits 10 n) = n := by
  rw [Nat.toDigits_of_lt_base h]
  simp [hexValue, hexDigit?_digitChar h]

theorem hexValue_toDigits_of_ge {n : Nat} (h : 10 ≤ n) :
    hexValue (Nat.toDigits 10 n) = 16 * hexValue (Nat.toDigits 10 (n / 10)) + n % 10 := by
  rw [Nat.toDigits_of_base_le (by decide) h, hexValue_concat,
    hexDigit?_digitChar (Nat.mod_lt _ (by decide)), Option.getD_some]

/-- Reading decimal digits as hexadecimal never gives less. -/
theorem le_hexValue_toDigits (n : Nat) : n ≤ hexValue (Nat.toDigits 10 n) := by
  induction n using Nat.strongRecOn with
  | ind n ih =>
      by_cases h : n < 10
      · exact (hexValue_toDigits_of_lt h).ge
      · have hrec := ih (n / 10) (by omega)
        rw [hexValue_toDigits_of_ge (Nat.le_of_not_lt h)]
        omega

/-- **Two radices.**  A decimal text read as hexadecimal is the number it was written for exactly
when one digit is enough. -/
theorem hexValue_toDigits_eq_iff (n : Nat) : hexValue (Nat.toDigits 10 n) = n ↔ n < 10 := by
  constructor
  · intro h
    by_contra hge
    have hquot := le_hexValue_toDigits (n / 10)
    rw [hexValue_toDigits_of_ge (Nat.le_of_not_lt hge)] at h
    omega
  · exact hexValue_toDigits_of_lt

/-! ## Unsigned integers in decimal -/

/-- Rust's `str::parse` for an unsigned integer of `bits` bits: an optional plus sign, then at
least one decimal digit, and no overflow. -/
def parseUnsigned (bits : Nat) (s : Text) : Option Nat :=
  let ds := match s with
    | '+' :: ds => ds
    | ds => ds
  if ds ≠ [] ∧ ds.all Char.isDigit ∧ Nat.ofDigitChars 10 ds 0 < 2 ^ bits then
    some (Nat.ofDigitChars 10 ds 0)
  else none

theorem parseUnsigned_lt {bits n : Nat} {s : Text} (h : parseUnsigned bits s = some n) :
    n < 2 ^ bits := by
  unfold parseUnsigned at h
  dsimp only at h
  split_ifs at h with hall
  exact Option.some.inj h ▸ hall.2.2

/-- A number written in decimal is read back. -/
theorem parseUnsigned_toDigits {bits n : Nat} (h : n < 2 ^ bits) :
    parseUnsigned bits (Nat.toDigits 10 n) = some n := by
  have hdigits : ∀ c ∈ Nat.toDigits 10 n, c.isDigit = true := fun c hc =>
    Nat.isDigit_of_mem_toDigits (by decide) (by decide) hc
  have hvalue : Nat.ofDigitChars 10 (Nat.toDigits 10 n) 0 = n := Nat.ofDigitChars_ten_toDigits
  have hne : Nat.toDigits 10 n ≠ [] := Nat.toDigits_ne_nil
  generalize Nat.toDigits 10 n = ds at hdigits hvalue hne
  unfold parseUnsigned
  dsimp only
  split
  · exact absurd (hdigits '+' List.mem_cons_self) (by decide)
  · rw [hvalue, if_pos ⟨hne, List.all_eq_true.mpr hdigits, h⟩]

/-! ## Blank texts -/

/-- Unicode's `White_Space`. -/
def isWhitespace (c : Char) : Bool :=
  let n := c.toNat
  (9 ≤ n && n ≤ 13) || (0x2000 ≤ n && n ≤ 0x200a)
    || [0x20, 0x85, 0xa0, 0x1680, 0x2028, 0x2029, 0x202f, 0x205f, 0x3000].contains n

/-- Nothing is left of the text once it is trimmed. -/
def isBlank (s : Text) : Bool := s.all isWhitespace

def trim (s : Text) : Text := ((s.dropWhile isWhitespace).reverse.dropWhile isWhitespace).reverse

theorem trim_of_no_blank {s : Text} (h : ∀ c ∈ s, isWhitespace c = false) : trim s = s := by
  have hdrop : ∀ t : Text, (∀ c ∈ t, isWhitespace c = false) → t.dropWhile isWhitespace = t := by
    intro t ht
    match t with
    | [] => rfl
    | c :: t => rw [List.dropWhile_cons, ht c List.mem_cons_self]; rfl
  rw [trim, hdrop s h, hdrop s.reverse fun c hc => h c (List.mem_reverse.mp hc), List.reverse_reverse]

/-! ## Prefixes and leading zeros -/

/-- What follows a prefix `0x` or `0X`. -/
def stripHex : Text → Option Text
  | '0' :: 'x' :: s => some s
  | '0' :: 'X' :: s => some s
  | _ => none

theorem hexValue_dropWhile_zero (ds : Text) : hexValue (ds.dropWhile (· = '0')) = hexValue ds := by
  induction ds with
  | nil => rfl
  | cons c ds ih =>
      by_cases hc : c = '0'
      · rw [List.dropWhile_cons_of_pos (by simpa using hc), ih, hc]
        rfl
      · rw [List.dropWhile_cons_of_neg (by simpa using hc)]

theorem hexDigit?_bounds {c : Char} (h : (hexDigit? c).isSome) :
    48 ≤ c.toNat ∧ c.toNat ≤ 102 ∧ c.toNat ≠ 88 ∧ c.toNat ≠ 120 := by
  unfold hexDigit? at h
  split_ifs at h <;> simp at h <;> omega

theorem isWhitespace_of_hexDigit {c : Char} (h : (hexDigit? c).isSome) :
    isWhitespace c = false := by
  have hc := hexDigit?_bounds h
  simp only [isWhitespace, List.contains_cons, List.contains_nil, Bool.or_eq_false_iff,
    Bool.and_eq_false_iff, decide_eq_false_iff_not, beq_eq_false_iff_ne, Bool.or_false]
  omega

theorem stripHex_of_isHex {ds : Text} (h : IsHex ds) : stripHex ds = none := by
  unfold stripHex
  split
  · exact absurd (h 'x' (by simp)) (by decide)
  · exact absurd (h 'X' (by simp)) (by decide)
  · rfl

end Beanie
