/-
# `Beanie.Browser.Identity` — the browser's addresses, identities and routes

`identity.js`, with what it uses of `chains.js` and `solana.js`.  A promise
that rejects is `none`, and so is a value that is `null`.  What the browser
gets from its platform, SHA-256 and the derivation of token accounts, is a
parameter.
-/
import Beanie.Api.Models
import Beanie.Browser.Keccak
import Beanie.Lib.Base58
import Beanie.Lib.Hex

namespace Beanie.Browser

open Beanie.Api (Chain)

/-! ## `chains.js` -/

inductive Kind
  | evm
  | starknet
  | solana
deriving DecidableEq

/-- Chain keys are ASCII. -/
def wire (key : Text) : Text := key.map Char.toUpper

/-- `CHAINS`, as far as identities and routes read it: the kind and the USDC token. -/
structure ChainConfig where
  kind : Kind
  usdc : Text
deriving DecidableEq

def CHAINS : List (Text × ChainConfig) :=
  [("BASE".toList, ⟨.evm, "0x833589fCD6eDb6E08f4c7C32D4f71b54bdA02913".toList⟩),
   ("ETHEREUM".toList, ⟨.evm, "0xA0b86991c6218b36c1d19D4a2e9Eb0cE3606eB48".toList⟩),
   ("ARBITRUM".toList, ⟨.evm, "0xaf88d065e77c8cC2239327C5EDb3A432268e5831".toList⟩),
   ("MONAD".toList, ⟨.evm, "0x754704Bc059F8C67012fEd69BC8A327a5aafb603".toList⟩),
   ("STARKNET".toList, ⟨.starknet,
     "0x033068f6539f8e6e6b131e6b2b814e6c34a5224bc66947c47dab9dfee93b35fb".toList⟩),
   ("SOLANA".toList, ⟨.solana, "EPjFWdd5AufqSSqeM2qN1xzybapC8G4wEGGkZwyTDt1v".toList⟩)]

def chainByKey (key : Text) : Option ChainConfig := CHAINS.lookup (wire key)

inductive FeltFormat
  | min
  | pad62
  | pad64

def BACKEND_FELT_FORMAT : FeltFormat := .pad64

inductive SolanaCctpRecipient
  | wallet
  | ata

def SOLANA_CCTP_RECIPIENT : SolanaCctpRecipient := .wallet

/-! ## Canonical forms -/

/-- What JavaScript's `trim` takes off. -/
def isJsSpace (c : Char) : Bool :=
  let n := c.toNat
  (9 ≤ n && n ≤ 13) || (0x2000 ≤ n && n ≤ 0x200a)
    || [0x20, 0xa0, 0x1680, 0x2028, 0x2029, 0x202f, 0x205f, 0x3000, 0xfeff].contains n

def jsTrim (s : Text) : Text := ((s.dropWhile isJsSpace).reverse.dropWhile isJsSpace).reverse

def toLowerCase (s : Text) : Text := s.map Char.toLower

def padStart (s : Text) (width : Nat) (c : Char) : Text :=
  List.replicate (width - s.length) c ++ s

/-- `/^0x[0-9a-fA-F]{40}$/` -/
def canonicalEvm (value : Text) : Option Text :=
  match jsTrim value with
  | '0' :: 'x' :: ds =>
      if ds.length = 40 ∧ IsHex ds then some (toLowerCase ('0' :: 'x' :: ds)) else none
  | _ => none

/-- `replace(/^0x/i, "")` -/
def dropHexPrefix (s : Text) : Text := (stripHex s).getD s

def canonicalFelt (value : Text) : Option Text :=
  let hex := dropHexPrefix (jsTrim value)
  if 1 ≤ hex.length ∧ hex.length ≤ 64 ∧ IsHex hex then
    let n := hexValue hex
    if n < 2 ^ 160 ∨ Starknet.P ≤ n then none
    else some ('0' :: 'x' :: padStart (toLowerCase hex) 64 '0')
  else none

/-- `base58Decode`, which takes no empty text. -/
def base58Bytes (value : Text) : Option Bytes := if value = [] then none else base58Decode value

def canonicalSolana (value : Text) : Option Text :=
  let t := jsTrim value
  if 32 ≤ t.length ∧ t.length ≤ 44 ∧ ∀ c ∈ t, (base58Digit? c).isSome then
    match base58Bytes t with
    | some bs => if bs.length = 32 then some t else none
    | none => none
  else none

def canonicalAddress (chainKey value : Text) : Option Text :=
  match chainByKey chainKey with
  | none => none
  | some chain =>
      match chain.kind with
      | .evm => canonicalEvm value
      | .starknet => canonicalFelt value
      | .solana => canonicalSolana value

/-! ## Merchant identities -/

/-- Octets 12 to 31 of the hash, as an address. -/
def keccakTail20 (s : Text) : Text := '0' :: 'x' :: hexEncode ((keccak256 (utf8 s)).drop 12)

/-- `BigInt(s)` of a text with a prefix. -/
def bigInt (s : Text) : Nat := hexValue (dropHexPrefix s)

def toString16 (n : Nat) : Text := Nat.toDigits 16 n

def backendFeltString (felt : Text) : Text :=
  let h := toString16 (bigInt felt)
  match BACKEND_FELT_FORMAT with
  | .min => '0' :: 'x' :: h
  | .pad62 => '0' :: 'x' :: padStart h 62 '0'
  | .pad64 => '0' :: 'x' :: padStart h 64 '0'

/-- The platform's SHA-256, and `usdcAta`. -/
structure Platform where
  sha256 : Bytes → Bytes
  usdcAta : (owner mint : Text) → Option Text

section
variable (p : Platform)

def deriveForeignPubkey (address : Text) : Text := base58Encode (p.sha256 (utf8 address))

/-- Which of the three forms an identity is taken for: the first that it has. -/
inductive IdentityForm
  | evm (s : Text)
  | felt (s : Text)
  | sol (s : Text)

def identityForm (identity : Text) : Option IdentityForm :=
  match canonicalEvm identity with
  | some s => some (.evm s)
  | none =>
      match canonicalFelt identity with
      | some s => some (.felt s)
      | none => (canonicalSolana identity).map .sol

/-- The text the backend is taken to hash. -/
def IdentityForm.hashed : IdentityForm → Text
  | .evm s => s
  | .felt s => backendFeltString s
  | .sol s => s

def merchantIdentity (chainKey identity : Text) : Option Text := do
  let form ← identityForm identity
  let s := form.hashed
  let chain ← chainByKey chainKey
  match chain.kind, form with
  | .evm, .evm address => some address
  | .evm, _ => some (keccakTail20 s)
  | .starknet, .sol _ => some ('0' :: 'x' :: toString16 (bigInt (keccakTail20 s)))
  | .starknet, .evm address => some ('0' :: 'x' :: toString16 (bigInt address))
  | .starknet, .felt felt => some ('0' :: 'x' :: toString16 (bigInt felt))
  | .solana, .sol pubkey => some pubkey
  | .solana, _ => some (deriveForeignPubkey p s)

/-! ## Routes -/

structure CctpRoute where
  chain32 : Text
  recipient32 : Text
  chainFelt : Text
  low : Text
  high : Text
deriving DecidableEq

def ZERO32 : Text := '0' :: 'x' :: List.replicate 64 '0'

def padEnd (s : Text) (width : Nat) (c : Char) : Text := s ++ List.replicate (width - s.length) c

/-- `replace(/^0x/, "")` -/
def dropLowerPrefix : Text → Text
  | '0' :: 'x' :: s => s
  | s => s

/-- The recipient's 32 octets in hexadecimal. -/
def recipient32 (targetCfg : ChainConfig) (recipient : Text) : Option Text :=
  match targetCfg.kind with
  | .solana => do
      let key ← match SOLANA_CCTP_RECIPIENT with
        | .ata => p.usdcAta recipient targetCfg.usdc
        | .wallet => some recipient
      let bytes ← base58Bytes key
      some ('0' :: 'x' :: hexEncode bytes)
  | _ => some ('0' :: 'x' :: padStart (dropLowerPrefix recipient) 64 '0')

def cctpRoute (sourceChain targetChain targetRecipient : Text) : Option CctpRoute :=
  if targetChain = [] ∨ targetRecipient = [] then none
  else if wire sourceChain = wire targetChain then
    some ⟨ZERO32, ZERO32, "0x0".toList, "0x0".toList, "0x0".toList⟩
  else do
    let targetCfg ← chainByKey (wire targetChain)
    let recipient ← canonicalAddress (wire targetChain) targetRecipient
    let nameHex := hexEncode (utf8 (wire targetChain))
    let recipient32 ← recipient32 p targetCfg recipient
    let r := bigInt recipient32
    some
      { chain32 := '0' :: 'x' :: padEnd nameHex 64 '0'
        recipient32 := recipient32
        chainFelt := '0' :: 'x' :: nameHex
        low := '0' :: 'x' :: toString16 (r % 2 ^ 128)
        high := '0' :: 'x' :: toString16 (r / 2 ^ 128) }

end

end Beanie.Browser
