/-
# `Beanie.Lib.Base58` — digit strings carried from one base to another

Base58 reads a text as a number, writes the number in base 256, and keeps the
leading zeros apart: as many zero octets stand in front as there were leading
ones in the text.  Both directions are one function, `rebase`, which is its
own inverse with the bases exchanged.

    rebase_rebase          there and back
    base58Decode_encode    octets are read back from their text
    base58Encode_decode    and a text is the one its octets are written as
-/
import Beanie.Lib.Text
import Beanie.Lib.Bytes

namespace Beanie

/-! ## Digits, most significant first -/

/-- How many zeros stand in front. -/
def leadingZeros (ds : List Nat) : Nat := (ds.takeWhile (· = 0)).length

def numeral (b : Nat) (ds : List Nat) : Nat := Nat.ofDigits b ds.reverse

/-- The digits of a number, without leading zeros. -/
def digitsOf (b n : Nat) : List Nat := (Nat.digits b n).reverse

theorem leadingZeros_append (ds : List Nat) :
    List.replicate (leadingZeros ds) 0 ++ ds.dropWhile (· = 0) = ds := by
  have hzeros : List.replicate (leadingZeros ds) 0 = ds.takeWhile (· = 0) := by
    refine (List.eq_replicate_of_mem fun d hd => ?_).symm
    have hzero := List.mem_takeWhile_imp hd
    exact of_decide_eq_true hzero
  rw [hzeros, List.takeWhile_append_dropWhile]

theorem numeral_replicate_append (b k : Nat) (ds : List Nat) :
    numeral b (List.replicate k 0 ++ ds) = numeral b ds := by
  rw [numeral, List.reverse_append, List.reverse_replicate, Nat.ofDigits_append_replicate_zero]
  rfl

theorem numeral_digitsOf (b n : Nat) : numeral b (digitsOf b n) = n := by
  rw [numeral, digitsOf, List.reverse_reverse, Nat.ofDigits_digits]

theorem lt_of_mem_digitsOf {b n d : Nat} (hb : 1 < b) (h : d ∈ digitsOf b n) : d < b :=
  Nat.digits_lt_base hb (List.mem_reverse.mp h)

/-- A number's digits do not start with a zero. -/
theorem leadingZeros_digitsOf (b n : Nat) : leadingZeros (digitsOf b n) = 0 := by
  by_cases hn : n = 0
  · rw [hn, digitsOf, Nat.digits_zero]
    rfl
  · have hne : Nat.digits b n ≠ [] := Nat.digits_ne_nil_iff_ne_zero.mpr hn
    obtain ⟨ds, hds⟩ : ∃ ds, digitsOf b n = (Nat.digits b n).getLast hne :: ds := by
      rw [digitsOf, ← List.head_reverse (List.reverse_ne_nil_iff.mpr hne)]
      exact ⟨_, (List.cons_head_tail _).symm⟩
    rw [hds, leadingZeros, List.takeWhile_cons_of_neg]
    · rfl
    · exact fun h => Nat.getLast_digit_ne_zero b hn (of_decide_eq_true h)

theorem leadingZeros_replicate_append (k : Nat) {ds : List Nat} (h : leadingZeros ds = 0) :
    leadingZeros (List.replicate k 0 ++ ds) = k := by
  unfold leadingZeros at h ⊢
  rw [List.takeWhile_append_of_pos, List.length_append, List.length_replicate, h, Nat.add_zero]
  intro d hd
  exact decide_eq_true (List.eq_of_mem_replicate hd)

/-- The digits of a numeral are the numeral without its leading zeros. -/
theorem digitsOf_numeral {b : Nat} (hb : 1 < b) {ds : List Nat} (h : ∀ d ∈ ds, d < b) :
    digitsOf b (numeral b ds) = ds.dropWhile (· = 0) := by
  have hdrop : numeral b ds = numeral b (ds.dropWhile (· = 0)) := by
    conv_lhs => rw [← leadingZeros_append ds]
    exact numeral_replicate_append b _ _
  rw [hdrop, digitsOf, numeral, Nat.digits_ofDigits b hb, List.reverse_reverse]
  · intro d hd
    exact h d ((List.dropWhile_sublist _).subset (List.mem_reverse.mp hd))
  · intro hne hlast
    have hne' : ds.dropWhile (· = 0) ≠ [] := List.reverse_ne_nil_iff.mp hne
    rw [List.getLast_reverse] at hlast
    have hhead := List.head_dropWhile_not (fun d : Nat => decide (d = 0)) hne'
    rw [hlast] at hhead
    cases hhead

/-- The number's digits in base `c`, behind as many zeros as there were. -/
def rebase (b c : Nat) (ds : List Nat) : List Nat :=
  List.replicate (leadingZeros ds) 0 ++ digitsOf c (numeral b ds)

theorem lt_of_mem_rebase {b c d : Nat} (hc : 1 < c) {ds : List Nat} (h : d ∈ rebase b c ds) :
    d < c := by
  rcases List.mem_append.mp h with h | h
  · rw [List.eq_of_mem_replicate h]
    omega
  · exact lt_of_mem_digitsOf hc h

/-- **There and back.** -/
theorem rebase_rebase {b c : Nat} (hb : 1 < b) {ds : List Nat} (h : ∀ d ∈ ds, d < b) :
    rebase c b (rebase b c ds) = ds := by
  have hzeros : leadingZeros (rebase b c ds) = leadingZeros ds :=
    leadingZeros_replicate_append _ (leadingZeros_digitsOf c _)
  have hvalue : numeral c (rebase b c ds) = numeral b ds := by
    rw [rebase, numeral_replicate_append, numeral_digitsOf]
  rw [rebase, hzeros, hvalue, digitsOf_numeral hb h, leadingZeros_append]

/-- A text in a smaller base has at most `m` digits if these hold all numbers of as many octets. -/
theorem length_rebase_le {b c m : Nat} (hc : 1 < c) (hcb : c ≤ b) {ds : List Nat}
    (h : ∀ d ∈ ds, d < b) (hm : ds.length ≤ m) (hpow : b ^ ds.length ≤ c ^ m) :
    (rebase b c ds).length ≤ m := by
  have hsplit := leadingZeros_append ds
  have hlength : leadingZeros ds + (ds.dropWhile (· = 0)).length = ds.length := by
    conv_rhs => rw [← hsplit]
    rw [List.length_append, List.length_replicate]
  have hvalue : numeral b ds < b ^ (ds.dropWhile (· = 0)).length := by
    conv_lhs => rw [← hsplit, numeral_replicate_append]
    rw [numeral, ← List.length_reverse]
    refine Nat.ofDigits_lt_base_pow_length (Nat.lt_of_lt_of_le hc hcb) fun d hd => ?_
    exact h d ((List.dropWhile_sublist _).subset (List.mem_reverse.mp hd))
  rw [rebase, List.length_append, List.length_replicate]
  generalize leadingZeros ds = z at hlength ⊢
  generalize (ds.dropWhile (· = 0)).length = k at hlength hvalue
  -- The zeros stand for themselves in both bases, so they leave the bound as it is.
  have hrest : b ^ k ≤ c ^ (m - z) := by
    refine Nat.le_of_mul_le_mul_left ?_ (Nat.pow_pos (n := z) (Nat.lt_trans Nat.zero_lt_one hc))
    calc c ^ z * b ^ k ≤ b ^ z * b ^ k := Nat.mul_le_mul_right _ (Nat.pow_le_pow_left hcb z)
      _ = b ^ ds.length := by rw [← Nat.pow_add, hlength]
      _ ≤ c ^ m := hpow
      _ = c ^ z * c ^ (m - z) := by rw [← Nat.pow_add, Nat.add_sub_cancel' (by omega)]
  have hdigits : (digitsOf c (numeral b ds)).length ≤ m - z := by
    rw [digitsOf, List.length_reverse, Nat.digits_length_le_iff hc]
    exact Nat.lt_of_lt_of_le hvalue hrest
  omega

/-! ## Base58 -/

def base58Alphabet : Text :=
  "123456789ABCDEFGHJKLMNPQRSTUVWXYZabcdefghijkmnopqrstuvwxyz".toList

/-- The digit a character stands for. -/
def base58Digit? (c : Char) : Option Nat := base58Alphabet.findIdx? (· = c)

def base58Char (d : Nat) : Char := base58Alphabet.getD d '1'

def base58Digits (s : Text) : Option (List Nat) := s.mapM base58Digit?

/-- Octets of a base58 text; `none` is a character outside the alphabet. -/
def base58Decode (s : Text) : Option Bytes :=
  (base58Digits s).map fun ds => (rebase 58 256 ds).map UInt8.ofNat

def base58Encode (bs : Bytes) : Text :=
  (rebase 256 58 (bs.map UInt8.toNat)).map base58Char

theorem base58Digit?_char {d : Nat} (h : d < 58) : base58Digit? (base58Char d) = some d := by
  interval_cases d <;> rfl

theorem base58Digit?_spec {c : Char} {d : Nat} (h : base58Digit? c = some d) :
    d < 58 ∧ base58Char d = c := by
  obtain ⟨hlt, hc, -⟩ := List.findIdx?_eq_some_iff_getElem.mp h
  refine ⟨hlt, ?_⟩
  rw [base58Char, List.getD_eq_getElem _ _ hlt]
  exact of_decide_eq_true hc

theorem base58Digits_spec {s : Text} {ds : List Nat} (h : base58Digits s = some ds) :
    (∀ d ∈ ds, d < 58) ∧ ds.map base58Char = s := by
  induction s generalizing ds with
  | nil =>
      obtain rfl := Option.some.inj h
      exact ⟨fun d hd => absurd hd List.not_mem_nil, rfl⟩
  | cons c s ih =>
      rw [base58Digits, List.mapM_cons] at h
      obtain ⟨d, hd, h⟩ := Option.bind_eq_some_iff.mp h
      obtain ⟨es, hes, h⟩ := Option.bind_eq_some_iff.mp h
      obtain rfl := Option.some.inj h
      obtain ⟨hlt, hchar⟩ := base58Digit?_spec hd
      obtain ⟨hall, hmap⟩ := ih hes
      exact ⟨List.forall_mem_cons.mpr ⟨hlt, hall⟩, by rw [List.map_cons, hchar, hmap]⟩

theorem base58Digits_map_char {ds : List Nat} (h : ∀ d ∈ ds, d < 58) :
    base58Digits (ds.map base58Char) = some ds := by
  induction ds with
  | nil => rfl
  | cons d ds ih =>
      obtain ⟨hd, hds⟩ := List.forall_mem_cons.mp h
      have hrest := ih hds
      rw [base58Digits] at hrest
      rw [base58Digits, List.map_cons, List.mapM_cons, base58Digit?_char hd, hrest]
      rfl

theorem map_ofNat_toNat {ds : List Nat} (h : ∀ d ∈ ds, d < 256) :
    (ds.map UInt8.ofNat).map UInt8.toNat = ds := by
  rw [List.map_map]
  refine (List.map_congr_left fun d hd => ?_).trans (List.map_id ds)
  exact UInt8.toNat_ofNat_of_lt' (h d hd)

theorem map_toNat_ofNat (bs : Bytes) : (bs.map UInt8.toNat).map UInt8.ofNat = bs := by
  rw [List.map_map]
  refine (List.map_congr_left fun b _ => ?_).trans (List.map_id bs)
  exact UInt8.ofNat_toNat

/-- Octets are read back from their text. -/
theorem base58Decode_encode (bs : Bytes) : base58Decode (base58Encode bs) = some bs := by
  have hoctet : ∀ d ∈ bs.map UInt8.toNat, d < 256 := by
    intro d hd
    obtain ⟨b, -, rfl⟩ := List.mem_map.mp hd
    exact b.toNat_lt
  rw [base58Decode, base58Encode, base58Digits_map_char fun d hd => lt_of_mem_rebase (by decide) hd,
    Option.map_some, rebase_rebase (by decide) hoctet, map_toNat_ofNat]

/-- A text is the one its octets are written as. -/
theorem base58Encode_decode {s : Text} {bs : Bytes} (h : base58Decode s = some bs) :
    base58Encode bs = s := by
  obtain ⟨ds, hds, rfl⟩ := Option.map_eq_some_iff.mp h
  obtain ⟨hlt, hmap⟩ := base58Digits_spec hds
  rw [base58Encode, map_ofNat_toNat fun d hd => lt_of_mem_rebase (by decide) hd,
    rebase_rebase (by decide) hlt, hmap]

/-- Thirty-two octets are written in at most forty-four letters. -/
theorem length_base58Encode_le {bs : Bytes} (h : bs.length = 32) :
    (base58Encode bs).length ≤ 44 := by
  rw [base58Encode, List.length_map]
  refine length_rebase_le (by decide) (by decide) ?_ ?_ ?_
  · intro d hd
    obtain ⟨b, -, rfl⟩ := List.mem_map.mp hd
    exact b.toNat_lt
  · rw [List.length_map, h]
    decide
  · rw [List.length_map, h]
    decide

/-- No base58 text has a zero in it. -/
theorem zero_not_mem_of_base58 {s : Text} (h : (base58Decode s).isSome) : '0' ∉ s := by
  intro hmem
  obtain ⟨bs, hbs⟩ := Option.isSome_iff_exists.mp h
  obtain ⟨ds, hds, -⟩ := Option.map_eq_some_iff.mp hbs
  obtain ⟨hlt, hmap⟩ := base58Digits_spec hds
  rw [← hmap] at hmem
  obtain ⟨d, hd, hzero⟩ := List.mem_map.mp hmem
  have hdigit := base58Digit?_char (hlt d hd)
  rw [hzero] at hdigit
  cases hdigit

end Beanie
