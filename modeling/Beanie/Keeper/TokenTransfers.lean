/-
# `Beanie.Keeper.TokenTransfers` — token transfers, from the Portal to a deposit

`fetch_token_transfers` and `fetch_deposits_since_slot` of `solana_indexer.rs`:
what the request filter lets through, how an instruction record is decoded, and
the deposit made of it.

A record's `data` is a text.  Rust slices it by bytes, two at a time, and a
slice that is out of range or starts inside a character panics; so the text is
kept as its UTF-8 bytes.
-/
import Beanie.Keeper.SolanaIndexer

namespace Beanie.Keeper

open Beanie.Solana

/-! ## Hex texts -/

/-- The value of a hexadecimal digit. -/
def hexOctet? (c : UInt8) : Option Nat :=
  if 48 ≤ c ∧ c ≤ 57 then some (c.toNat - 48)
  else if 97 ≤ c ∧ c ≤ 102 then some (c.toNat - 87)
  else if 65 ≤ c ∧ c ≤ 70 then some (c.toNat - 55)
  else none

/-- `u8::from_str_radix(_, 16)` on a slice of two bytes: a leading plus sign is allowed. -/
def fromStrRadix16 (a b : UInt8) : Option UInt8 :=
  match hexOctet? a, hexOctet? b with
  | some hi, some lo => some (UInt8.ofNat (16 * hi + lo))
  | none, some lo => if a = 43 then some (UInt8.ofNat lo) else none
  | _, none => none

/-- Does the text start with a character, or is it over?  A continuation byte is `10xxxxxx`. -/
def startsCharacter : Bytes → Bool
  | [] => true
  | c :: _ => c < 128 || 192 ≤ c

/-- `trim_start_matches("0x")`. -/
def trimStart0x : Bytes → Bytes
  | 48 :: 120 :: rest => trimStart0x rest
  | text => text

/-- The loop over `&clean[i..i + 2]`: a slice that runs past the end or ends inside a character
panics; a slice that is no number ends the loop with an error, here `none`. Each slice starts where
the last one ended. -/
def decodePairs : Bytes → Except Fault (Option Bytes)
  | [] => .ok (some [])
  | [_] => .error .panicked
  | a :: b :: rest =>
      if startsCharacter rest then
        match fromStrRadix16 a b with
        | none => .ok none
        | some octet => do
            let octets ← decodePairs rest
            .ok (octets.map (octet :: ·))
      else .error .panicked

/-! ## Records of the Portal -/

/-- `Display` and `FromStr` of a key. -/
structure KeyText where
  toText : Pubkey → String
  parse : String → Option Pubkey
  parse_toText : ∀ k, parse (toText k) = some k

/-! ### Base 58 -/

def base58Alphabet : List Char :=
  "123456789ABCDEFGHJKLMNPQRSTUVWXYZabcdefghijkmnopqrstuvwxyz".toList

def base58Value (s : List Char) : Nat := Nat.ofDigits 58 (s.map (base58Alphabet.idxOf ·)).reverse

/-- A key in base 58; every leading zero byte is a `1`. -/
def base58 (k : Pubkey) : List Char :=
  List.replicate ((bytesOf k).takeWhile (· = 0)).length '1'
    ++ ((Nat.digits 58 k.toNat).reverse.map fun d => base58Alphabet.getD d '1')

theorem idxOf_alphabet {d : Nat} (h : d < 58) :
    base58Alphabet.idxOf (base58Alphabet.getD d '1') = d := by
  have hall : ∀ i : Fin 58, base58Alphabet.idxOf (base58Alphabet.getD i '1') = i := by decide
  exact hall ⟨d, h⟩

theorem base58Value_base58 (k : Pubkey) : base58Value (base58 k) = k.toNat := by
  have hdigits : ((Nat.digits 58 k.toNat).reverse.map fun d =>
      base58Alphabet.idxOf (base58Alphabet.getD d '1')) = (Nat.digits 58 k.toNat).reverse := by
    rw [List.map_congr_left (g := id), List.map_id]
    intro d hd
    exact idxOf_alphabet (Nat.digits_lt_base (by decide) (List.mem_reverse.mp hd))
  have hzero : base58Alphabet.idxOf '1' = 0 := by decide
  rw [base58Value, base58, List.map_append, List.map_map, List.map_replicate, hzero]
  have hc : (fun x => base58Alphabet.idxOf x) ∘ (fun d => base58Alphabet.getD d '1') =
    fun d => base58Alphabet.idxOf (base58Alphabet.getD d '1') := rfl
  rw [hc, hdigits, List.reverse_append, List.reverse_reverse, List.reverse_replicate,
    Nat.ofDigits_append, Nat.ofDigits_replicate_zero]
  simp [Nat.ofDigits_digits]

/-- A text is read as the key it is the text of. -/
def base58Text : KeyText where
  toText k := String.ofList (base58 k)
  parse s :=
    let k : Pubkey := BitVec.ofNat 256 (base58Value s.toList)
    if base58 k = s.toList then some k else none
  parse_toText k := by
    simp [base58Value_base58]

/-! ### Instructions and transfers -/

/-- One of the Portal's `instructions`. -/
structure PortalInstruction where
  accounts : List String
  data : Bytes

/-- `TokenTransferEvent`. -/
structure TokenTransferEvent where
  source : Pubkey
  destination : Pubkey
  authority : Pubkey
  amount : Nat
  slot : Nat
deriving DecidableEq

section
variable (kt : KeyText)

/-- `get_pubkey`. -/
def PortalInstruction.pubkey (ix : PortalInstruction) (i : Nat) : Option Pubkey := do
  let text ← ix.accounts[i]?
  kt.parse text

/-- What `fetch_token_transfers` makes of one record; `none` is its `continue`. -/
def decodeTransfer (slot : Nat) (ix : PortalInstruction) :
    Except Fault (Option TokenTransferEvent) :=
  match ix.pubkey kt 0, ix.pubkey kt 1, ix.pubkey kt 2 with
  | some source, some destination, some authority => do
      let decoded ← decodePairs (trimStart0x ix.data)
      match decoded with
      | none => .ok none
      | some raw =>
          if raw.length < 9 then .ok none
          else .ok (some ⟨source, destination, authority, leNat ((raw.drop 1).take 8), slot⟩)
  | _, _, _ => .ok none

/-- The records of one slot after the other. -/
def decodeTransfers : List (Nat × PortalInstruction) → Except Fault (List TokenTransferEvent)
  | [] => .ok []
  | (slot, ix) :: rest => do
      let transfer ← decodeTransfer kt slot ix
      let transfers ← decodeTransfers rest
      .ok (transfer.toList ++ transfers)

/-- `Deposit`. -/
structure Deposit where
  tx_hash : String
  from_address : String
  receiver : String
  amount_raw : String
  block_number : Nat
deriving DecidableEq

/-- The deposit `fetch_deposits_since_slot` makes of a transfer. -/
def TokenTransferEvent.deposit (t : TokenTransferEvent) : Deposit where
  tx_hash := ""
  from_address := kt.toText t.authority
  receiver := kt.toText t.destination
  amount_raw := toString t.amount
  block_number := t.slot

end

/-! ## What the decoder needs -/

/-- Every slice the loop takes is in range and ends between characters. -/
def Sliceable : Bytes → Prop
  | [] => True
  | [_] => False
  | a :: b :: rest =>
      startsCharacter rest = true ∧ (fromStrRadix16 a b = none ∨ Sliceable rest)

theorem decodePairs_panics_iff (text : Bytes) :
    decodePairs text = .error .panicked ↔ ¬ Sliceable text := by
  induction text using Sliceable.induct with
  | case1 => exact iff_of_false nofun (not_not_intro trivial)
  | case2 a => exact iff_of_true rfl id
  | case3 a b rest ih =>
      rw [decodePairs, Sliceable]
      by_cases hchar : startsCharacter rest = true
      · rw [if_pos hchar]
        cases hoctet : fromStrRadix16 a b with
        | none => exact iff_of_false nofun (not_not_intro ⟨hchar, .inl rfl⟩)
        | some octet =>
            have hand : (startsCharacter rest = true ∧ (some octet = none ∨ Sliceable rest))
                ↔ Sliceable rest :=
              ⟨fun h => h.2.resolve_left nofun, fun h => ⟨hchar, .inr h⟩⟩
            rw [hand, ← ih]
            cases hrest : decodePairs rest with
            | error f => simp
            | ok octets => simp
      · rw [if_neg hchar]
        exact iff_of_true rfl (fun h => hchar h.1)

/-- The loop has no other failure. -/
theorem decodePairs_error {text : Bytes} {f : Fault} (h : decodePairs text = .error f) :
    f = .panicked := by
  induction text using Sliceable.induct with
  | case1 => exact nomatch h
  | case2 a => exact (Except.error.inj h).symm
  | case3 a b rest ih =>
      rw [decodePairs] at h
      split_ifs at h with hchar
      · cases hoctet : fromStrRadix16 a b with
        | none =>
            rw [hoctet] at h
            exact nomatch h
        | some octet =>
            rw [hoctet] at h
            cases hrest : decodePairs rest with
            | error g =>
                rw [hrest] at h
                exact ih (hrest.trans h)
            | ok octets =>
                rw [hrest] at h
                exact nomatch h
      · exact (Except.error.inj h).symm

section
variable {kt : KeyText}

/-- A record that is decoded: its first three accounts are keys. -/
def PortalInstruction.Keyed (kt : KeyText) (ix : PortalInstruction) : Prop :=
  (ix.pubkey kt 0).isSome ∧ (ix.pubkey kt 1).isSome ∧ (ix.pubkey kt 2).isSome

theorem decodeTransfer_panics_iff {slot : Nat} {ix : PortalInstruction} :
    decodeTransfer kt slot ix = .error .panicked ↔
      ix.Keyed kt ∧ ¬ Sliceable (trimStart0x ix.data) := by
  rw [← decodePairs_panics_iff]
  unfold decodeTransfer PortalInstruction.Keyed
  cases ix.pubkey kt 0 <;> cases ix.pubkey kt 1 <;> cases ix.pubkey kt 2
  case some.some.some source destination authority =>
    cases hdecoded : decodePairs (trimStart0x ix.data) with
    | error f => simp
    | ok decoded =>
        cases decoded with
        | none => simp
        | some raw =>
            by_cases hshort : raw.length < 9 <;> simp [hshort]
  all_goals simp

theorem decodeTransfer_error {slot : Nat} {ix : PortalInstruction} {f : Fault}
    (h : decodeTransfer kt slot ix = .error f) : f = .panicked := by
  unfold decodeTransfer at h
  split at h
  · cases hdecoded : decodePairs (trimStart0x ix.data) with
    | error g =>
        rw [hdecoded] at h
        obtain rfl := Except.error.inj h
        exact decodePairs_error hdecoded
    | ok decoded =>
        rw [hdecoded, ok_bind] at h
        cases decoded with
        | none => exact nomatch h
        | some raw =>
            dsimp only at h
            split_ifs at h
  · exact nomatch h

/-- The scan panics exactly when one of its records does. -/
theorem decodeTransfers_panics_iff {records : List (Nat × PortalInstruction)} :
    decodeTransfers kt records = .error .panicked ↔
      ∃ p ∈ records, p.2.Keyed kt ∧ ¬ Sliceable (trimStart0x p.2.data) := by
  induction records with
  | nil => simp [decodeTransfers]
  | cons p rest ih =>
      obtain ⟨slot, ix⟩ := p
      rw [decodeTransfers, List.exists_mem_cons_iff, ← @decodeTransfer_panics_iff kt slot ix, ← ih]
      cases hhead : decodeTransfer kt slot ix with
      | error f =>
          obtain rfl := decodeTransfer_error hhead
          exact iff_of_true rfl (.inl rfl)
      | ok transfer =>
          rw [ok_bind]
          cases hrest : decodeTransfers kt rest with
          | error f => simp
          | ok transfers => simp

end

end Beanie.Keeper
