/-
# `Beanie.Browser.Base58` — base58 as `solana.js` computes it

One pass turns the text, or the octets, into a number; a second loop takes the
number apart in the other base, and the leading ones, or zeros, are counted
apart because neither loop sees them.  Digit by digit this is `rebase`
(`base58Decode_eq`, `base58Encode_eq`), so each direction undoes the other.
-/
import Beanie.Browser.SolanaMessage

namespace Beanie.Browser.Base58

/-! ## As the script has it -/

/-- `n = n * 58n + BigInt(v)`, to the first character that is not in the alphabet. -/
def valueLoop : Text → Nat → Option Nat
  | [], n => some n
  | ch :: s, n => do
      let v ← base58Digit? ch
      valueLoop s (n * 58 + v)

/-- `bytes.push(Number(n & 0xffn)); n >>= 8n` -/
def bytesLoop (n : Nat) : Bytes :=
  if n = 0 then [] else UInt8.ofNat (n &&& 0xff) :: bytesLoop (n >>> 8)
termination_by n
decreasing_by
  rw [Nat.shiftRight_eq_div_pow]
  exact Nat.div_lt_self (Nat.pos_of_ne_zero (by assumption)) (by decide)

def leadingOnes : Text → Nat
  | [] => 0
  | ch :: s => if ch = '1' then leadingOnes s + 1 else 0

def base58Decode (value : Text) : Option Bytes :=
  if value = [] then none
  else do
    let n ← valueLoop value 0
    some (List.replicate (leadingOnes value) 0 ++ (bytesLoop n).reverse)

/-- `out = ALPHABET[Number(n % 58n)] + out; n /= 58n` -/
def lettersLoop (n : Nat) (out : Text) : Text :=
  if n = 0 then out else lettersLoop (n / 58) (base58Char (n % 58) :: out)
termination_by n
decreasing_by exact Nat.div_lt_self (Nat.pos_of_ne_zero (by assumption)) (by decide)

def leadingZeroBytes : Bytes → Nat
  | [] => 0
  | b :: bytes => if b = 0 then leadingZeroBytes bytes + 1 else 0

def base58Encode (bytes : Bytes) : Text :=
  let n := bytes.foldl (fun n b => n <<< 8 ||| b.toNat) 0
  List.replicate (leadingZeroBytes bytes) '1' ++ lettersLoop n []

/-- It throws unless there are 32 octets. -/
def pubkeyBytes (address : Text) : Option Bytes :=
  match base58Decode address with
  | none => none
  | some b => if b.length ≠ 32 then none else some b

/-! ## The loops -/

theorem numeral_cons (b d : Nat) (ds : List Nat) :
    numeral b (d :: ds) = d * b ^ ds.length + numeral b ds := by
  rw [numeral, List.reverse_cons, Nat.ofDigits_append, List.length_reverse, Nat.ofDigits_singleton,
    Nat.mul_comm, Nat.add_comm]
  rfl

/-- Digits taken from the left. -/
theorem foldl_numeral (b n : Nat) (ds : List Nat) :
    ds.foldl (fun n d => n * b + d) n = n * b ^ ds.length + numeral b ds := by
  induction ds generalizing n with
  | nil => simp [numeral]
  | cons d ds ih =>
      rw [List.foldl_cons, ih, numeral_cons, List.length_cons, Nat.pow_succ', Nat.add_mul,
        Nat.mul_assoc, Nat.add_assoc]

theorem valueLoop_eq (s : Text) (n : Nat) :
    valueLoop s n = (base58Digits s).map fun ds => n * 58 ^ ds.length + numeral 58 ds := by
  induction s generalizing n with
  | nil => simp [valueLoop, base58Digits, numeral]
  | cons ch s ih =>
      rw [valueLoop, base58Digits, List.mapM_cons]
      cases hdigit : base58Digit? ch with
      | none => rfl
      | some v =>
          have hrest := ih (n * 58 + v)
          rw [base58Digits] at hrest
          rw [Option.bind_eq_bind, Option.bind_some, Option.bind_eq_bind, Option.bind_some, hrest]
          cases List.mapM base58Digit? s with
          | none => rfl
          | some ds =>
              refine congrArg some ?_
              dsimp only
              rw [List.length_cons, numeral_cons, Nat.pow_succ', Nat.add_mul, Nat.mul_assoc,
                Nat.add_assoc]

theorem bytesLoop_eq (n : Nat) : bytesLoop n = (Nat.digits 256 n).map UInt8.ofNat := by
  induction n using Nat.strongRecOn with
  | ind n ih =>
      rw [bytesLoop]
      by_cases hn : n = 0
      · rw [if_pos hn, hn, Nat.digits_zero]
        rfl
      · have hpos := Nat.pos_of_ne_zero hn
        rw [if_neg hn, Nat.digits_def' (by decide) hpos, Nat.shiftRight_eq_div_pow,
          ih (n / 2 ^ 8) (Nat.div_lt_self hpos (by decide)), show (0xff : Nat) = 2 ^ 8 - 1 by rfl,
          Nat.and_two_pow_sub_one_eq_mod]
        rfl

theorem lettersLoop_eq (n : Nat) (out : Text) :
    lettersLoop n out = (digitsOf 58 n).map base58Char ++ out := by
  induction n using Nat.strongRecOn generalizing out with
  | ind n ih =>
      rw [lettersLoop]
      by_cases hn : n = 0
      · rw [if_pos hn, hn, digitsOf, Nat.digits_zero]
        rfl
      · have hpos := Nat.pos_of_ne_zero hn
        rw [if_neg hn, ih (n / 58) (Nat.div_lt_self hpos (by decide)), digitsOf, digitsOf,
          Nat.digits_def' (by decide) hpos, List.reverse_cons, List.map_append, List.append_assoc]
        rfl

theorem foldl_bytes (bytes : Bytes) :
    bytes.foldl (fun n b => n <<< 8 ||| b.toNat) 0 = numeral 256 (bytes.map UInt8.toNat) := by
  have hloop : ∀ n, bytes.foldl (fun n b => n <<< 8 ||| b.toNat) n
      = (bytes.map UInt8.toNat).foldl (fun n d => n * 256 + d) n := by
    induction bytes with
    | nil => exact fun n => rfl
    | cons b bytes ih =>
        intro n
        rw [List.foldl_cons, List.map_cons, List.foldl_cons, ih,
          ← Nat.shiftLeft_add_eq_or_of_lt b.toNat_lt, Nat.shiftLeft_eq]
  rw [hloop, foldl_numeral, Nat.zero_mul, Nat.zero_add]

theorem digit_zero_iff {c : Char} {d : Nat} (h : base58Digit? c = some d) : d = 0 ↔ c = '1' := by
  obtain ⟨hlt, hchar⟩ := base58Digit?_spec h
  constructor
  · rintro rfl
    exact hchar.symm
  · rintro rfl
    exact (Option.some.inj h).symm

theorem leadingZeros_cons (d : Nat) (ds : List Nat) :
    leadingZeros (d :: ds) = if d = 0 then leadingZeros ds + 1 else 0 := by
  rw [leadingZeros, List.takeWhile_cons]
  by_cases hd : d = 0
  · rw [if_pos hd, if_pos (decide_eq_true hd)]
    rfl
  · rw [if_neg hd, if_neg fun h => hd (of_decide_eq_true h)]
    rfl

theorem leadingOnes_eq {s : Text} {ds : List Nat} (h : base58Digits s = some ds) :
    leadingOnes s = leadingZeros ds := by
  induction s generalizing ds with
  | nil =>
      obtain rfl := Option.some.inj h
      rfl
  | cons c s ih =>
      rw [base58Digits, List.mapM_cons] at h
      obtain ⟨d, hd, h⟩ := Option.bind_eq_some_iff.mp h
      obtain ⟨es, hes, h⟩ := Option.bind_eq_some_iff.mp h
      obtain rfl := Option.some.inj h
      have hzero := digit_zero_iff hd
      rw [leadingOnes, leadingZeros_cons]
      by_cases hone : c = '1'
      · rw [if_pos hone, if_pos (hzero.mpr hone), ih hes]
      · rw [if_neg hone, if_neg fun h => hone (hzero.mp h)]

theorem leadingZeroBytes_eq (bytes : Bytes) :
    leadingZeroBytes bytes = leadingZeros (bytes.map UInt8.toNat) := by
  induction bytes with
  | nil => rfl
  | cons b bytes ih =>
      have hzero : b.toNat = 0 ↔ b = 0 := UInt8.toNat_inj (b := 0)
      rw [leadingZeroBytes, List.map_cons, leadingZeros_cons]
      by_cases hb : b = 0
      · rw [if_pos hb, if_pos (hzero.mpr hb), ih]
      · rw [if_neg hb, if_neg fun h => hb (hzero.mp h)]

/-! ## Both directions -/

theorem base58Decode_eq (s : Text) : base58Decode s = base58Bytes s := by
  rw [base58Decode, base58Bytes]
  by_cases hs : s = []
  · rw [if_pos hs, if_pos hs]
  · rw [if_neg hs, if_neg hs, valueLoop_eq, Beanie.base58Decode]
    cases hdigits : base58Digits s with
    | none => rfl
    | some ds =>
        refine congrArg some ?_
        dsimp only
        rw [Nat.zero_mul, Nat.zero_add, leadingOnes_eq hdigits, bytesLoop_eq, rebase, digitsOf,
          List.map_append, List.map_replicate, List.map_reverse]
        rfl

theorem base58Encode_eq (bytes : Bytes) : base58Encode bytes = Beanie.base58Encode bytes := by
  rw [base58Encode, Beanie.base58Encode]
  rw [foldl_bytes, lettersLoop_eq, leadingZeroBytes_eq, rebase, List.map_append,
    List.map_replicate, List.append_nil]
  rfl

theorem pubkeyBytes_eq (s : Text) : pubkeyBytes s = Browser.pubkeyBytes s := by
  rw [pubkeyBytes, Browser.pubkeyBytes, base58Decode_eq]
  cases base58Bytes s with
  | none => rfl
  | some b => exact ite_not (b.length = 32) none (some b)

theorem base58Encode_ne_nil {b : Bytes} (h : b ≠ []) : Beanie.base58Encode b ≠ [] := by
  intro hnil
  have hdecode := base58Decode_encode b
  rw [hnil] at hdecode
  exact h (Option.some.inj hdecode).symm

theorem digits_of_mem {s : Text} (h : ∀ c ∈ s, c ∈ base58Alphabet) :
    ∃ ds, base58Digits s = some ds := by
  induction s with
  | nil => exact ⟨[], rfl⟩
  | cons c s ih =>
      obtain ⟨hc, hs⟩ := List.forall_mem_cons.mp h
      obtain ⟨ds, hds⟩ := ih hs
      obtain ⟨d, hd⟩ : ∃ d, base58Digit? c = some d := by
        rw [← Option.isSome_iff_exists, base58Digit?, List.findIdx?_isSome]
        exact List.any_eq_true.mpr ⟨c, hc, decide_eq_true rfl⟩
      rw [base58Digits] at hds
      rw [base58Digits, List.mapM_cons, hd, hds]
      exact ⟨_, rfl⟩

/-- **Base58 loses nothing.**  Octets are read back from their text and a text is written again from
its octets, leading zeros included; so a public key is a text that 32 octets are written as, and no
two keys share one. -/
theorem base58_round_trip :
    (∀ b : Bytes, b ≠ [] → base58Decode (base58Encode b) = some b) ∧
    (∀ s : Text, s ≠ [] → (∀ c ∈ s, c ∈ base58Alphabet) →
      ∃ b, base58Decode s = some b ∧ base58Encode b = s) ∧
    (∀ s b, pubkeyBytes s = some b ↔ b.length = 32 ∧ base58Encode b = s) ∧
    ∀ b c : Bytes, b.length = 32 → c.length = 32 → b ≠ c → base58Encode b ≠ base58Encode c := by
  have hback : ∀ b : Bytes, b ≠ [] → base58Decode (base58Encode b) = some b := by
    intro b hb
    rw [base58Decode_eq, base58Encode_eq, base58Bytes, if_neg (base58Encode_ne_nil hb)]
    exact base58Decode_encode b
  have hkey : ∀ b : Bytes, b.length = 32 → base58Decode (base58Encode b) = some b := by
    intro b hlength
    refine hback b ?_
    rintro rfl
    cases hlength
  refine ⟨hback, ?_, ?_, ?_⟩
  · intro s hs halphabet
    obtain ⟨ds, hds⟩ := digits_of_mem halphabet
    have hdecode : Beanie.base58Decode s = some ((rebase 58 256 ds).map UInt8.ofNat) := by
      rw [Beanie.base58Decode, hds, Option.map_some]
    refine ⟨_, ?_, (base58Encode_eq _).trans (base58Encode_decode hdecode)⟩
    rw [base58Decode_eq, base58Bytes, if_neg hs, hdecode]
  · intro s b
    rw [pubkeyBytes]
    constructor
    · intro h
      cases hdecode : base58Decode s with
      | none => rw [hdecode] at h; cases h
      | some b' =>
          rw [hdecode] at h
          dsimp only at h
          by_cases hlength : b'.length = 32
          · rw [if_neg (not_not_intro hlength)] at h
            obtain rfl := Option.some.inj h
            rw [base58Decode_eq, base58Bytes] at hdecode
            split at hdecode
            · cases hdecode
            · exact ⟨hlength, (base58Encode_eq b').trans (base58Encode_decode hdecode)⟩
          · rw [if_pos hlength] at h
            cases h
    · rintro ⟨hlength, rfl⟩
      rw [hkey b hlength]
      exact if_neg (not_not_intro hlength)
  · intro b c hb hc hne heq
    have hread := hkey b hb
    rw [heq, hkey c hc] at hread
    exact hne (Option.some.inj hread).symm

/-- Three octets with a leading zero, two ones, and the key of all zeros. -/
theorem base58_round_trip_sample :
    base58Decode (base58Encode [0, 1, 255]) = some [0, 1, 255] ∧
      (∃ b, base58Decode "11".toList = some b ∧ base58Encode b = "11".toList) ∧
      pubkeyBytes (base58Encode (List.replicate 32 0)) = some (List.replicate 32 0) ∧
      base58Encode (List.replicate 32 0) ≠ base58Encode (List.replicate 32 1) := by
  obtain ⟨hbytes, htexts, hkeys, hdistinct⟩ := base58_round_trip
  exact ⟨hbytes _ (by decide), htexts _ (by decide) (by decide), (hkeys _ _).mpr ⟨rfl, rfl⟩,
    hdistinct _ _ rfl rfl (by decide)⟩

end Beanie.Browser.Base58
