/-
# `Beanie.Lib.Base64` — octets in four letters for three

The alphabet of 64 letters, with padding.  The reader is strict: the padding is
there, and the bits it stands for are zero.

    base64Decode_encode     octets are read back from their text
    base64Encode_letters    the text is letters and then padding, in fours
-/
import Beanie.Lib.Text
import Beanie.Lib.Bytes

namespace Beanie

def base64Alphabet : Text :=
  "ABCDEFGHIJKLMNOPQRSTUVWXYZabcdefghijklmnopqrstuvwxyz0123456789+/".toList

/-- The six bits a letter stands for. -/
def base64Digit? (c : Char) : Option Nat := base64Alphabet.findIdx? (· = c)

def base64Char (d : Nat) : Char := base64Alphabet.getD d 'A'

/-- The letters of three octets, of two or of one. -/
def base64Encode : Bytes → Text
  | [] => []
  | [a] =>
      let n := 16 * a.toNat
      [base64Char (n / 64), base64Char (n % 64), '=', '=']
  | [a, b] =>
      let n := 4 * (256 * a.toNat + b.toNat)
      [base64Char (n / 4096), base64Char (n / 64 % 64), base64Char (n % 64), '=']
  | a :: b :: c :: bs =>
      let n := 65536 * a.toNat + 256 * b.toNat + c.toNat
      base64Char (n / 262144) :: base64Char (n / 4096 % 64) :: base64Char (n / 64 % 64)
        :: base64Char (n % 64) :: base64Encode bs

/-- Four letters at a time; padding stands only in the last four. -/
def base64Decode : Text → Option Bytes
  | [] => some []
  | w :: x :: y :: z :: rest => do
      let w ← base64Digit? w
      let x ← base64Digit? x
      if z = '=' ∧ rest = [] then
        if y = '=' then
          let n := 64 * w + x
          if n % 16 = 0 then some [UInt8.ofNat (n / 16)] else none
        else do
          let y ← base64Digit? y
          let n := 4096 * w + 64 * x + y
          if n % 4 = 0 then some [UInt8.ofNat (n / 1024), UInt8.ofNat (n / 4 % 256)] else none
      else do
        let y ← base64Digit? y
        let z ← base64Digit? z
        let n := 262144 * w + 4096 * x + 64 * y + z
        let bs ← base64Decode rest
        some (UInt8.ofNat (n / 65536) :: UInt8.ofNat (n / 256 % 256) :: UInt8.ofNat (n % 256) :: bs)
  | _ => none

theorem base64Digit?_char {d : Nat} (h : d < 64) : base64Digit? (base64Char d) = some d := by
  have hall : ∀ d < 64, base64Digit? (base64Char d) = some d := by decide +kernel
  exact hall d h

/-- The padding is no letter. -/
theorem base64Char_ne_pad {d : Nat} (h : d < 64) : base64Char d ≠ '=' := by
  intro hpad
  have hdigit := base64Digit?_char h
  rw [hpad] at hdigit
  cases hdigit

theorem ofNat_of_eq {n : Nat} {b : UInt8} (h : n = b.toNat) : UInt8.ofNat n = b := by
  rw [h, UInt8.ofNat_toNat]

/-- Octets are read back from their text. -/
theorem base64Decode_encode (bs : Bytes) : base64Decode (base64Encode bs) = some bs := by
  induction bs using base64Encode.induct with
  | case1 => rfl
  | case2 a =>
      have ha := a.toNat_lt
      have hw : 16 * a.toNat / 64 < 64 := by omega
      have hx : 16 * a.toNat % 64 < 64 := by omega
      have hn : 64 * (16 * a.toNat / 64) + 16 * a.toNat % 64 = 16 * a.toNat := by omega
      have hzero : 16 * a.toNat % 16 = 0 := by omega
      have hoctet : UInt8.ofNat (16 * a.toNat / 16) = a := ofNat_of_eq (by omega)
      simp only [base64Encode, base64Decode, base64Digit?_char hw, base64Digit?_char hx, hn,
        Option.bind_eq_bind, Option.bind_some, and_self, if_true, hzero, hoctet]
  | case3 a b =>
      have ha := a.toNat_lt
      have hb := b.toNat_lt
      generalize hword : 4 * (256 * a.toNat + b.toNat) = n
      have hw : n / 4096 < 64 := by omega
      have hx : n / 64 % 64 < 64 := by omega
      have hy : n % 64 < 64 := by omega
      have hn : 4096 * (n / 4096) + 64 * (n / 64 % 64) + n % 64 = n := by omega
      have hzero : n % 4 = 0 := by omega
      have hfirst : UInt8.ofNat (n / 1024) = a := ofNat_of_eq (by omega)
      have hsecond : UInt8.ofNat (n / 4 % 256) = b := ofNat_of_eq (by omega)
      simp only [base64Encode, hword, base64Decode, base64Digit?_char hw, base64Digit?_char hx,
        base64Digit?_char hy, base64Char_ne_pad hy, hn, Option.bind_eq_bind, Option.bind_some,
        and_self, if_true, if_false, hzero, hfirst, hsecond]
  | case4 a b c bs ih =>
      have ha := a.toNat_lt
      have hb := b.toNat_lt
      have hc := c.toNat_lt
      generalize hword : 65536 * a.toNat + 256 * b.toNat + c.toNat = n
      have hw : n / 262144 < 64 := by omega
      have hx : n / 4096 % 64 < 64 := by omega
      have hy : n / 64 % 64 < 64 := by omega
      have hz : n % 64 < 64 := by omega
      have hn : 262144 * (n / 262144) + 4096 * (n / 4096 % 64) + 64 * (n / 64 % 64) + n % 64 = n := by
        omega
      have hfirst : UInt8.ofNat (n / 65536) = a := ofNat_of_eq (by omega)
      have hsecond : UInt8.ofNat (n / 256 % 256) = b := ofNat_of_eq (by omega)
      have hthird : UInt8.ofNat (n % 256) = c := ofNat_of_eq (by omega)
      simp only [base64Encode, hword, base64Decode, base64Digit?_char hw, base64Digit?_char hx,
        base64Digit?_char hy, base64Digit?_char hz, base64Char_ne_pad hz, hn, ih,
        Option.bind_eq_bind, Option.bind_some, false_and, if_false, hfirst, hsecond, hthird]

/-- Letters, and padding up to a multiple of four. -/
theorem base64Encode_letters (bs : Bytes) : ∃ (ds : List Nat) (k : Nat),
    base64Encode bs = ds.map base64Char ++ List.replicate k '=' ∧ (∀ d ∈ ds, d < 64) ∧ k ≤ 2 ∧
      (ds.length + k) % 4 = 0 ∧ (ds = [] → bs = []) := by
  induction bs using base64Encode.induct with
  | case1 => exact ⟨[], 0, rfl, List.forall_mem_nil _, by decide, rfl, fun _ => rfl⟩
  | case2 a =>
      have ha := a.toNat_lt
      refine ⟨[16 * a.toNat / 64, 16 * a.toNat % 64], 2, rfl, ?_, le_refl 2, by simp,
        fun h => by cases h⟩
      simp only [List.forall_mem_cons]
      exact ⟨by omega, by omega, List.forall_mem_nil _⟩
  | case3 a b =>
      have ha := a.toNat_lt
      have hb := b.toNat_lt
      refine ⟨[4 * (256 * a.toNat + b.toNat) / 4096, 4 * (256 * a.toNat + b.toNat) / 64 % 64,
        4 * (256 * a.toNat + b.toNat) % 64], 1, rfl, ?_, by decide, by simp,
        fun h => by cases h⟩
      simp only [List.forall_mem_cons]
      exact ⟨by omega, by omega, by omega, List.forall_mem_nil _⟩
  | case4 a b c bs ih =>
      obtain ⟨ds, k, htext, hds, hk, hlength, -⟩ := ih
      have ha := a.toNat_lt
      have hb := b.toNat_lt
      have hc := c.toNat_lt
      generalize hword : 65536 * a.toNat + 256 * b.toNat + c.toNat = n
      refine ⟨n / 262144 :: n / 4096 % 64 :: n / 64 % 64 :: n % 64 :: ds, k, ?_, ?_, hk, ?_,
        fun h => by cases h⟩
      · simp only [base64Encode, hword, htext, List.map_cons, List.cons_append]
      · simp only [List.forall_mem_cons]
        exact ⟨by omega, by omega, by omega, by omega, hds⟩
      · simp only [List.length_cons]
        omega

end Beanie
