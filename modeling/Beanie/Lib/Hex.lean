/-
# `Beanie.Lib.Hex` — octets as hexadecimal digits, and keys made of texts

    hexDecode_hexEncode    octets are read back from their digits
    padded_inj             so is a number that was padded with zeros
    append_sep_inj         fields without the separator can be told apart by it
-/
import Beanie.Lib.Text
import Beanie.Lib.Bytes

namespace Beanie

/-- A text's bytes. -/
def utf8 (t : Text) : Bytes := t.flatMap String.utf8EncodeChar

theorem utf8_inj {s t : Text} (h : utf8 s = utf8 t) : s = t := by
  have hbytes : s.utf8Encode = t.utf8Encode := congrArg List.toByteArray h
  rw [← String.toByteArray_ofList, ← String.toByteArray_ofList] at hbytes
  exact String.ofList_injective (String.toByteArray_inj.mp hbytes)

/-- `hex::encode`. -/
def hexEncode (bs : Bytes) : Text :=
  bs.flatMap fun b => [(b.toNat / 16).digitChar, (b.toNat % 16).digitChar]

/-- `hex::decode`; `none` is an odd number of digits, or something that is no digit. -/
def hexDecode : Text → Option Bytes
  | [] => some []
  | [_] => none
  | a :: b :: rest =>
      match hexDigit? a, hexDigit? b, hexDecode rest with
      | some x, some y, some bs => some (UInt8.ofNat (16 * x + y) :: bs)
      | _, _, _ => none

theorem hexDecode_hexEncode (bs : Bytes) : hexDecode (hexEncode bs) = some bs := by
  induction bs with
  | nil => rfl
  | cons b bs ih =>
      have hhi := hexDigit?_hexDigitChar (n := b.toNat / 16) (by have := b.toNat_lt; omega)
      have hlo := hexDigit?_hexDigitChar (n := b.toNat % 16) (Nat.mod_lt _ (by decide))
      show hexDecode (_ :: _ :: hexEncode bs) = _
      rw [hexDecode, hhi, hlo, ih]
      dsimp only
      rw [Nat.div_add_mod, UInt8.ofNat_toNat]

theorem hexValue_foldl (n : Nat) (ds : Text) :
    ds.foldl (fun n c => 16 * n + (hexDigit? c).getD 0) n = 16 ^ ds.length * n + hexValue ds := by
  induction ds using List.reverseRecOn with
  | nil => simp [hexValue]
  | append_singleton ds c ih =>
      rw [hexValue_concat, List.foldl_append, ih, List.length_append, List.length_singleton,
        Nat.pow_succ]
      simp only [List.foldl_cons, List.foldl_nil]
      ring

theorem hexValue_append (ds es : Text) :
    hexValue (ds ++ es) = 16 ^ es.length * hexValue ds + hexValue es := by
  rw [hexValue, List.foldl_append, hexValue_foldl]
  rfl

@[simp] theorem length_hexEncode (bs : Bytes) : (hexEncode bs).length = 2 * bs.length := by
  induction bs with
  | nil => rfl
  | cons b bs ih =>
      rw [hexEncode, List.flatMap_cons, List.length_append, ← hexEncode, ih, List.length_cons]
      simp only [List.length_cons, List.length_nil]
      omega

/-- The digits of octets spell the octets' number. -/
theorem hexValue_hexEncode (bs : Bytes) : hexValue (hexEncode bs) = beNat bs := by
  induction bs using List.reverseRecOn with
  | nil => rfl
  | append_singleton bs b ih =>
      have hhi := hexDigit?_hexDigitChar (n := b.toNat / 16) (by have := b.toNat_lt; omega)
      have hlo := hexDigit?_hexDigitChar (n := b.toNat % 16) (Nat.mod_lt _ (by decide))
      have hlast : hexEncode [b] = [(b.toNat / 16).digitChar] ++ [(b.toNat % 16).digitChar] := rfl
      have hb : beNat (bs ++ [b]) = 256 * beNat bs + b.toNat := by
        rw [beNat, List.reverse_append, List.reverse_singleton, List.singleton_append, leNat, beNat]
        omega
      have hsplit : hexEncode (bs ++ [b]) = hexEncode bs ++ hexEncode [b] := List.flatMap_append
      rw [hsplit, hlast, ← List.append_assoc, hexValue_concat, hexValue_concat, ih, hhi, hlo, hb]
      simp only [Option.getD_some]
      omega

theorem isHex_hexEncode (bs : Bytes) : IsHex (hexEncode bs) := by
  intro c hc
  obtain ⟨b, -, hc⟩ := List.mem_flatMap.mp hc
  rcases List.mem_cons.mp hc with rfl | hc
  · rw [hexDigit?_hexDigitChar (by have := b.toNat_lt; omega)]
    rfl
  · obtain rfl := List.mem_singleton.mp hc
    rw [hexDigit?_hexDigitChar (Nat.mod_lt _ (by decide))]
    rfl

/-- What is decoded: pairs of digits, and their number. -/
theorem hexDecode_some {s : Text} {bs : Bytes} (h : hexDecode s = some bs) :
    IsHex s ∧ s.length = 2 * bs.length ∧ beNat bs = hexValue s := by
  induction s using hexDecode.induct generalizing bs with
  | case1 =>
      cases h
      exact ⟨fun c hc => absurd hc List.not_mem_nil, rfl, rfl⟩
  | case2 => cases h
  | case3 a b rest x y bs' hrest hb ha ih =>
      rw [hexDecode, ha, hb, hrest] at h
      cases h
      obtain ⟨hhex, hlen, hvalue⟩ := ih hrest
      have hx := hexDigit?_lt ha
      have hy := hexDigit?_lt hb
      refine ⟨?_, by simp only [List.length_cons]; omega, ?_⟩
      · intro c hc
        rcases List.mem_cons.mp hc with rfl | hc
        · rw [ha]; rfl
        · rcases List.mem_cons.mp hc with rfl | hc
          · rw [hb]; rfl
          · exact hhex c hc
      · have hpair : hexValue [a, b] = 16 * x + y := by
          simp [hexValue, ha, hb]
        have hbyte : (UInt8.ofNat (16 * x + y)).toNat = 16 * x + y := by
          rw [UInt8.toNat_ofNat']
          exact Nat.mod_eq_of_lt (by omega)
        have hpow : 256 ^ bs'.length = 16 ^ rest.length := by
          rw [hlen, pow_mul]
          rfl
        have hsplit := hexValue_append [a, b] rest
        have hbytes := beNat_append [UInt8.ofNat (16 * x + y)] bs'
        rw [List.cons_append, List.cons_append, List.nil_append] at hsplit
        rw [List.singleton_append] at hbytes
        rw [hsplit, hbytes, hpair, hvalue, hpow, beNat, List.reverse_singleton, leNat, leNat, hbyte]
        ring
  | case4 a b rest hnone =>
      rw [hexDecode] at h
      split at h
      · rename_i x y bs' ha hb hrest
        exact absurd hrest (hnone x y bs' ha hb)
      · cases h

/-- An even number of digits is decoded. -/
theorem exists_hexDecode {s : Text} (h : IsHex s) {k : Nat} (hlen : s.length = 2 * k) :
    ∃ bs, hexDecode s = some bs := by
  induction k generalizing s with
  | zero =>
      rw [List.length_eq_zero_iff.mp hlen]
      exact ⟨[], rfl⟩
  | succ k ih =>
      match s, hlen with
      | a :: b :: rest, hlen =>
          obtain ⟨x, hx⟩ := Option.isSome_iff_exists.mp (h a List.mem_cons_self)
          obtain ⟨y, hy⟩ := Option.isSome_iff_exists.mp
            (h b (List.mem_cons_of_mem _ List.mem_cons_self))
          obtain ⟨bs, hbs⟩ := @ih rest
            (fun c hc => h c (List.mem_cons_of_mem _ (List.mem_cons_of_mem _ hc)))
            (by simp only [List.length_cons] at hlen; omega)
          rw [hexDecode, hx, hy, hbs]
          exact ⟨_, rfl⟩

/-- No hexadecimal digit is a colon. -/
theorem colon_not_mem_of_isHex {ds : Text} (h : IsHex ds) : ':' ∉ ds := by
  intro hmem
  have := h ':' hmem
  cases this

/-- `n` in at least `width` lower-case hexadecimal digits. -/
def padHex (width n : Nat) : Text :=
  List.replicate (width - (Nat.toDigits 16 n).length) '0' ++ Nat.toDigits 16 n

theorem hexValue_replicate_append (k : Nat) (ds : Text) :
    hexValue (List.replicate k '0' ++ ds) = hexValue ds := by
  induction k with
  | zero => rfl
  | succ k ih => exact ih

theorem hexValue_padHex (width n : Nat) : hexValue (padHex width n) = n := by
  rw [padHex, hexValue_replicate_append, hexValue_toDigits_sixteen]

/-- A number that fits is written in exactly `width` digits. -/
theorem length_padHex {width n : Nat} (hwidth : 0 < width) (h : n < 16 ^ width) :
    (padHex width n).length = width := by
  have hle := (Nat.length_toDigits_le_iff (b := 16) (by decide) hwidth).mpr h
  rw [padHex, List.length_append, List.length_replicate]
  omega

/-! ## Lower-case digits -/

/-- Hexadecimal, in lower case. -/
def IsLowerHex (ds : Text) : Prop := ∀ c ∈ ds, (hexDigit? c).isSome ∧ c.toLower = c

theorem IsLowerHex.isHex {ds : Text} (h : IsLowerHex ds) : IsHex ds := fun c hc => (h c hc).1

theorem isLowerHex_map_toLower {ds : Text} (h : IsHex ds) : IsLowerHex (ds.map Char.toLower) := by
  intro c hc
  obtain ⟨b, hb, rfl⟩ := List.mem_map.mp hc
  rw [hexDigit?_toLower]
  refine ⟨h b hb, ?_⟩
  apply Char.toNat_inj.mp
  have hlower := toNat_toLower b
  rw [toNat_toLower b.toLower]
  split_ifs at hlower ⊢ <;> omega

/-- A digit is written by one character of lower case. -/
theorem hexDigit?_inj {b c : Char} (hb : b.toLower = b) (hc : c.toLower = c)
    (hsome : (hexDigit? b).isSome) (h : hexDigit? b = hexDigit? c) : b = c := by
  have hb' := toNat_toLower b
  have hc' := toNat_toLower c
  rw [hb] at hb'
  rw [hc] at hc'
  apply Char.toNat_inj.mp
  unfold hexDigit? at h hsome
  split_ifs at h hsome hb' hc' <;> simp at h hsome <;> omega

/-- Digits of one length that spell one number are the same digits. -/
theorem eq_of_hexValue {ds es : Text} (hd : IsLowerHex ds) (he : IsLowerHex es)
    (hlength : ds.length = es.length) (hvalue : hexValue ds = hexValue es) : ds = es := by
  induction ds using List.reverseRecOn generalizing es with
  | nil => exact (List.length_eq_zero_iff.mp hlength.symm).symm
  | append_singleton ds c ih =>
      cases es using List.reverseRecOn with
      | nil => simp at hlength
      | append_singleton es b =>
          obtain ⟨hc, hclower⟩ := hd c (List.mem_append_right _ (List.mem_singleton_self _))
          obtain ⟨hb, hblower⟩ := he b (List.mem_append_right _ (List.mem_singleton_self _))
          obtain ⟨m, hm⟩ := Option.isSome_iff_exists.mp hc
          obtain ⟨n, hn⟩ := Option.isSome_iff_exists.mp hb
          rw [hexValue_concat, hexValue_concat, hm, hn] at hvalue
          have hm' := hexDigit?_lt hm
          have hn' := hexDigit?_lt hn
          simp only [Option.getD_some] at hvalue
          have hdigit : m = n := by omega
          have hrest := ih (fun x hx => hd x (List.mem_append_left _ hx))
            (fun x hx => he x (List.mem_append_left _ hx)) (by simpa using hlength) (by omega)
          rw [hrest, hexDigit?_inj hclower hblower hc (by rw [hm, hn, hdigit])]

theorem isLowerHex_digitChar {n : Nat} (h : n < 16) :
    (hexDigit? n.digitChar).isSome ∧ n.digitChar.toLower = n.digitChar := by
  interval_cases n <;> decide

theorem isLowerHex_toDigits (n : Nat) : IsLowerHex (Nat.toDigits 16 n) := by
  induction n using Nat.strongRecOn with
  | ind n ih =>
      by_cases h : n < 16
      · rw [Nat.toDigits_of_lt_base h]
        intro c hc
        rw [List.mem_singleton.mp hc]
        exact isLowerHex_digitChar h
      · have hrec := ih (n / 16) (by omega)
        rw [Nat.toDigits_of_base_le (by decide) (Nat.le_of_not_lt h)]
        intro c hc
        rcases List.mem_append.mp hc with hc | hc
        · exact hrec c hc
        · rw [List.mem_singleton.mp hc]
          exact isLowerHex_digitChar (Nat.mod_lt _ (by decide))

theorem isLowerHex_padHex (width n : Nat) : IsLowerHex (padHex width n) := by
  intro c hc
  rcases List.mem_append.mp hc with hc | hc
  · rw [List.eq_of_mem_replicate hc]
    decide
  · exact isLowerHex_toDigits n c hc

theorem isHex_padHex (width n : Nat) : IsHex (padHex width n) :=
  (isLowerHex_padHex width n).isHex

/-- Digits are what their number is written as. -/
theorem padHex_hexValue {ds : Text} (h : IsLowerHex ds) (hpos : 0 < ds.length) :
    padHex ds.length (hexValue ds) = ds := by
  refine eq_of_hexValue (isLowerHex_padHex _ _) h ?_ (hexValue_padHex _ _)
  exact length_padHex hpos (hexValue_lt ds)

theorem padHex_ne_nil (width n : Nat) : padHex width n ≠ [] := by
  intro h
  have hpos : 0 < (Nat.toDigits 16 n).length := Nat.length_toDigits_pos
  rw [(List.append_eq_nil_iff.mp h).2] at hpos
  exact absurd hpos (Nat.lt_irrefl 0)

/-- `{n:0width}`. -/
def padded (width n : Nat) : Text :=
  List.replicate (width - (Nat.toDigits 10 n).length) '0' ++ Nat.toDigits 10 n

/-- A padded number is read back. -/
theorem padded_inj {width m n : Nat} (h : padded width m = padded width n) : m = n := by
  have hvalue : ∀ n, Nat.ofDigitChars 10 (padded width n) 0 = n := by
    intro n
    rw [padded, Nat.ofDigitChars_append, Nat.ofDigitChars_replicate_zero, Nat.mul_zero,
      Nat.ofDigitChars_ten_toDigits]
  rw [← hvalue m, h, hvalue]

theorem colon_not_mem_padded (width n : Nat) : ':' ∉ padded width n := by
  refine colon_not_mem_of_isHex ?_
  intro c hc
  rcases List.mem_append.mp hc with hc | hc
  · obtain rfl := List.eq_of_mem_replicate hc
    rfl
  · exact isHex_toDigits n c hc

/-- A text up to the first separator. -/
theorem append_sep_inj {sep : Char} {s s' t t' : Text} (hs : sep ∉ s) (hs' : sep ∉ s')
    (h : s ++ sep :: t = s' ++ sep :: t') : s = s' ∧ t = t' := by
  induction s generalizing s' with
  | nil =>
      cases s' with
      | nil => exact ⟨rfl, (List.cons.inj h).2⟩
      | cons c s' => exact absurd ((List.cons.inj h).1 ▸ List.mem_cons_self) hs'
  | cons c s ih =>
      cases s' with
      | nil => exact absurd ((List.cons.inj h).1 ▸ List.mem_cons_self) hs
      | cons c' s' =>
          obtain ⟨rfl, hrest⟩ := List.cons.inj h
          obtain ⟨rfl, rfl⟩ := ih (fun hm => hs (List.mem_cons_of_mem _ hm))
            (fun hm => hs' (List.mem_cons_of_mem _ hm)) hrest
          exact ⟨rfl, rfl⟩

/-! ## Leading zeros -/

theorem dropWhile_replicate_append (k : Nat) (ds : Text) :
    (List.replicate k '0' ++ ds).dropWhile (· = '0') = ds.dropWhile (· = '0') := by
  induction k with
  | zero => rfl
  | succ k ih => exact ih

/-- Without leading zeros, digits are equal if they spell one number. -/
theorem dropWhile_zero_eq_iff {ds es : Text} (hd : IsLowerHex ds) (he : IsLowerHex es) :
    ds.dropWhile (· = '0') = es.dropWhile (· = '0') ↔ hexValue ds = hexValue es := by
  constructor
  · intro h
    rw [← hexValue_dropWhile_zero ds, h, hexValue_dropWhile_zero]
  · intro h
    have hzeros : ∀ {fs : Text} (k : Nat), IsLowerHex fs →
        IsLowerHex (List.replicate k '0' ++ fs) := by
      intro fs k hf c hc
      rcases List.mem_append.mp hc with hc | hc
      · rw [List.eq_of_mem_replicate hc]
        decide
      · exact hf c hc
    -- Both made as long as the longer one.
    have hpadded : List.replicate (es.length - ds.length) '0' ++ ds
        = List.replicate (ds.length - es.length) '0' ++ es := by
      refine eq_of_hexValue (hzeros _ hd) (hzeros _ he) ?_ ?_
      · simp only [List.length_append, List.length_replicate]
        omega
      · rw [hexValue_replicate_append, hexValue_replicate_append, h]
    rw [← dropWhile_replicate_append (es.length - ds.length) ds, hpadded,
      dropWhile_replicate_append]

end Beanie
