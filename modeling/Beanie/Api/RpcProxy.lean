/-
# `Beanie.Api.RpcProxy` — the read-only proxy of `rpc_proxy.rs`

What may be asked of an upstream (`validate`), and the two critical sections of
a request: the look into the cache, and the entry made once the upstream has
answered.  Numbers are those of `serde_json`: an unsigned or a negative integer
of 64 bits, or a double, known by the text it is printed as.
-/
import Beanie.Api.RateLimiter
import Beanie.Lib.JsonText
import Beanie.Lib.Hex

namespace Beanie.Api.RpcProxy

/-! ## `serde_json` -/

/-- A finite double, as it is printed: with a point or an exponent. -/
structure FloatText where
  text : Text
  chars : ∀ c ∈ text, isNumberChar c = true
  head : ∃ c t, text = c :: t ∧ (c.isDigit = true ∨ c = '-')
  mark : ∃ c ∈ text, c = '.' ∨ c = 'e'

/-- `Number`; `neg n` is `-(n + 1)`. -/
inductive Number
  | pos (n : BitVec 64)
  | neg (n : BitVec 63)
  | float (x : FloatText)

def Number.write : Number → Text
  | .pos n => Nat.toDigits 10 n.toNat
  | .neg n => '-' :: Nat.toDigits 10 (n.toNat + 1)
  | .float x => x.text

theorem isNumberChar_of_isDigit {c : Char} (h : c.isDigit = true) : isNumberChar c = true := by
  simp [isNumberChar, h]

theorem isDigit_toDigits {n : Nat} {c : Char} (h : c ∈ Nat.toDigits 10 n) : c.isDigit = true :=
  Nat.isDigit_of_mem_toDigits (by decide) (by decide) h

theorem toDigits_head (n : Nat) : ∃ c t, Nat.toDigits 10 n = c :: t ∧ c.isDigit = true := by
  cases h : Nat.toDigits 10 n with
  | nil => exact absurd h Nat.toDigits_ne_nil
  | cons c t => exact ⟨c, t, rfl, isDigit_toDigits (by rw [h]; exact List.mem_cons_self)⟩

theorem toDigits_inj {m n : Nat} (h : Nat.toDigits 10 m = Nat.toDigits 10 n) : m = n := by
  rw [← Nat.ofDigitChars_ten_toDigits (n := m), h, Nat.ofDigitChars_ten_toDigits]

/-- Digits have neither a point nor an exponent, nor a sign. -/
theorem not_mark_of_isDigit {c : Char} (h : c.isDigit = true) : c ≠ '.' ∧ c ≠ 'e' ∧ c ≠ '-' := by
  refine ⟨?_, ?_, ?_⟩ <;> rintro rfl <;> cases h

theorem Number.write_ne_float {n : Nat} {x : FloatText} :
    x.text ≠ Nat.toDigits 10 n ∧ x.text ≠ '-' :: Nat.toDigits 10 n := by
  obtain ⟨c, hc, hmark⟩ := x.mark
  refine ⟨?_, ?_⟩
  · intro h
    rw [h] at hc
    have hdigit := not_mark_of_isDigit (isDigit_toDigits hc)
    tauto
  · intro h
    rw [h] at hc
    rcases List.mem_cons.mp hc with rfl | hc
    · rcases hmark with h | h <;> cases h
    · have hdigit := not_mark_of_isDigit (isDigit_toDigits hc)
      tauto

theorem digits_ne_minus {m n : Nat} : Nat.toDigits 10 m ≠ '-' :: Nat.toDigits 10 n := by
  intro h
  have hdigit := not_mark_of_isDigit (isDigit_toDigits (n := m) (c := '-')
    (by rw [h]; exact List.mem_cons_self))
  exact hdigit.2.2 rfl

instance : NumberText Number where
  write := Number.write
  chars n c hc := by
    cases n with
    | pos n => exact isNumberChar_of_isDigit (isDigit_toDigits hc)
    | neg n =>
        rcases List.mem_cons.mp hc with rfl | hc
        · rfl
        · exact isNumberChar_of_isDigit (isDigit_toDigits hc)
    | float x => exact x.chars c hc
  head n := by
    cases n with
    | pos n =>
        obtain ⟨c, t, h, hc⟩ := toDigits_head n.toNat
        exact ⟨c, t, h, .inl hc⟩
    | neg n => exact ⟨'-', _, rfl, .inr rfl⟩
    | float x => exact x.head
  inj m n h := by
    cases m with
    | pos m =>
        cases n with
        | pos n => rw [BitVec.eq_of_toNat_eq (toDigits_inj h)]
        | neg n => exact absurd h digits_ne_minus
        | float x => exact absurd h.symm Number.write_ne_float.1
    | neg m =>
        cases n with
        | pos n => exact absurd h.symm digits_ne_minus
        | neg n =>
            have heq := toDigits_inj (List.cons.inj h).2
            rw [BitVec.eq_of_toNat_eq (Nat.succ.inj heq)]
        | float x => exact absurd h.symm Number.write_ne_float.2
    | float x =>
        cases n with
        | pos n => exact absurd h Number.write_ne_float.1
        | neg n => exact absurd h Number.write_ne_float.2
        | float y =>
            cases x
            cases y
            cases h
            rfl

abbrev Value := JsonValue Number

/-- The members of an object. -/
abbrev Members := List (Text × Value)

def asStr : Value → Option Text
  | .string s => some s
  | _ => none

def asArray : Value → Option (List Value)
  | .array xs => some xs
  | _ => none

def asObject : Value → Option Members
  | .object ms => some ms
  | _ => none

def asU64 : Value → Option Nat
  | .number (.pos n) => some n.toNat
  | _ => none

def isNull : Value → Bool
  | .null => true
  | _ => false

def get (o : Members) (key : String) : Option Value := o.lookup key.toList

/-- `v[key]`: what is missing is `null`. -/
def index (v : Value) (key : String) : Value := ((asObject v).bind (get · key)).getD .null

/-- `v[key] = x` on an object, whose keys are in order. -/
def insertMember (key : Text) (x : Value) : Members → Members
  | [] => [(key, x)]
  | (k, v) :: ms =>
      if k = key then (key, x) :: ms
      else if key < k then (key, x) :: (k, v) :: ms
      else (k, v) :: insertMember key x ms

/-! ## Upstreams -/

inductive Family
  | evm
  | starknet
  | solana
deriving DecidableEq

structure Upstream where
  url : Text
  family : Family
  allowed : List Text

/-- `trim_start_matches("0X")` -/
def trimUpperPrefix : Text → Text
  | '0' :: 'X' :: s => trimUpperPrefix s
  | s => s

def norm (s : Text) : Text :=
  ((trimUpperPrefix (trimHexPrefix s)).map Char.toLower).dropWhile (· = '0')

/-- Only hexadecimal digits pass, so that characters are octets here. -/
def isHex (s : Text) (max_len : Nat) : Bool :=
  2 ≤ s.length && s.length ≤ max_len && s.take 2 == "0x".toList && decide (IsHex (s.drop 2))

def Upstream.new (url : Text) (family : Family) (contracts : List Text) : Upstream where
  url := url
  family := family
  allowed := contracts.map norm

def Upstream.allows (up : Upstream) (addr : Text) : Bool :=
  isHex addr 66 && up.allowed.any (· == norm addr)

/-! ## Validation -/

def hexU64 (v : Option Value) : Option Nat := do
  let s ← asStr (← v)
  if isHex s 18 = false ∨ s.length = 2 then none else some (hexValue (s.drop 2))

def onlyKeys (o : Members) (ok : List String) : Bool :=
  o.all fun m => ok.any fun k => m.1 = k.toList

def isLatest (v : Value) : Bool := asStr v = some "latest".toList

def ALPHABET : Text := "123456789ABCDEFGHJKLMNPQRSTUVWXYZabcdefghijkmnopqrstuvwxyz".toList

def isB58 (s : Text) (min max : Nat) : Bool :=
  min ≤ s.length && s.length ≤ max && s.all ALPHABET.contains

def isSolPubkey (v : Value) : Bool := (asStr v).any (isB58 · 32 44)

def isSolSignature (v : Value) : Bool := (asStr v).any (isB58 · 64 90)

/-- The option is absent, or passes. -/
def absentOr (o : Option Members) (key : String) (p : Value → Bool) : Bool :=
  ((o.bind (get · key)).map p).getD true

def solOpts (v : Option Value) (allowed : List String) : Except String (Option Members) :=
  match v with
  | none => .ok none
  | some (.object o) => do
      require (onlyKeys o allowed = true) "unsupported option"
      require (absentOr (some o) "commitment" fun c =>
        asStr c = some "confirmed".toList || asStr c = some "finalized".toList)
          "commitment must be confirmed or finalized"
      .ok (some o)
  | some _ => .error "bad options"

def solBase64Only (o : Option Members) : Bool :=
  absentOr o "encoding" fun e => asStr e = some "base64".toList

def MAX_SOLANA_SIGNATURES : Nat := 1000
def MAX_SOLANA_MULTIPLE_ACCOUNTS : Nat := 4
def MAX_SOLANA_DATA_SLICE : Nat := 64

def solDataSliceOk (o : Option Members) : Bool :=
  absentOr o "dataSlice" fun d =>
    match d with
    | .object d =>
        onlyKeys d ["offset", "length"] && ((get d "offset").bind asU64).any (· ≤ 1024) &&
          ((get d "length").bind asU64).any (· ≤ MAX_SOLANA_DATA_SLICE)
    | _ => false

def MAX_EVM_LOG_SPAN : Nat := 2000
def MAX_STARKNET_EVENT_SPAN : Nat := 2000

/-- Every word is a string of hexadecimal digits. -/
def hexWords (xs : List Value) : Bool := xs.all fun x => (asStr x).any (isHex · 66)

/-- `"eth_blockNumber"` and the others without parameters. -/
def noParams (params : List Value) (secs : Nat) : Except String Nat := do
  require (params = []) "bad params"
  .ok secs

section
variable (up : Upstream)

def eth_call : List Value → Except String Nat
  | [call, tag] => do
      let c ← okOr (asObject call) "bad call object"
      require (onlyKeys c ["to", "data"] = true) "unsupported call fields"
      let to_ ← okOr ((get c "to").bind asStr) "missing to"
      let data ← okOr ((get c "data").bind asStr) "missing data"
      require (up.allows to_ = true ∧ isHex data (2 + 2 * 2048) = true) "call not permitted"
      require (isLatest tag = true) "only latest is supported"
      .ok 3
  | _ => .error "bad params"

def eth_getCode : List Value → Except String Nat
  | [addr, tag] => do
      require ((asStr addr).any (isHex · 42) ∧ isLatest tag = true) "bad params"
      .ok 10
  | _ => .error "bad params"

def eth_getLogs : List Value → Except String Nat
  | [f] => do
      let f ← okOr (asObject f) "bad filter"
      require (onlyKeys f ["address", "fromBlock", "toBlock", "topics"] = true)
        "unsupported filter fields"
      let addr ← okOr ((get f "address").bind asStr) "address required"
      require (up.allows addr = true) "address not permitted"
      let from_ ← okOr (hexU64 (get f "fromBlock")) "fromBlock must be hex"
      let to_ ← okOr (hexU64 (get f "toBlock")) "toBlock must be hex"
      require (¬ (to_ < from_ ∨ MAX_EVM_LOG_SPAN < to_ - from_)) "block range too large"
      require (absentOr (some f) "topics" fun t =>
        (asArray t).any fun t =>
          t.length ≤ 4 && t.all fun x => isNull x || (asStr x).any (isHex · 66)) "bad topics"
      .ok 5
  | _ => .error "bad params"

def starknet_call : List Value → Except String Nat
  | [call, tag] => do
      let c ← okOr (asObject call) "bad call object"
      require (onlyKeys c ["contract_address", "entry_point_selector", "calldata"] = true)
        "unsupported call fields"
      let to_ ← okOr ((get c "contract_address").bind asStr) "missing contract_address"
      let sel ← okOr ((get c "entry_point_selector").bind asStr) "missing selector"
      let data ← okOr ((get c "calldata").bind asArray) "missing calldata"
      require (up.allows to_ = true ∧ isHex sel 66 = true ∧ data.length ≤ 16 ∧
        hexWords data = true) "call not permitted"
      require (isLatest tag = true) "only latest is supported"
      .ok 3
  | _ => .error "bad params"

def starknet_getClassHashAt : List Value → Except String Nat
  | [tag, addr] => do
      require (isLatest tag = true ∧ (asStr addr).any (isHex · 66)) "bad params"
      .ok 10
  | _ => .error "bad params"

/-- The closure `blk`. -/
def blk (f : Members) (key : String) : Option Nat := do
  let block ← asObject (← get f key)
  asU64 (← get block "block_number")

def starknet_getEvents : List Value → Except String Nat
  | [f] => do
      let f ← okOr (asObject f) "bad filter"
      require (onlyKeys f ["from_block", "to_block", "address", "keys", "chunk_size",
        "continuation_token"] = true) "unsupported filter fields"
      let addr ← okOr ((get f "address").bind asStr) "address required"
      require (up.allows addr = true) "address not permitted"
      let from_ ← okOr (blk f "from_block") "from_block required"
      let to_ ← okOr (blk f "to_block") "to_block required"
      require (¬ (to_ < from_ ∨ MAX_STARKNET_EVENT_SPAN < to_ - from_)) "block range too large"
      require (((get f "chunk_size").bind asU64).any fun n => 1 ≤ n && n ≤ 100)
        "chunk_size must be 1..=100"
      require (absentOr (some f) "continuation_token" fun t =>
        (asStr t).any fun s => (utf8 s).length ≤ 128) "bad continuation_token"
      require (absentOr (some f) "keys" fun ks =>
        (asArray ks).any fun ks =>
          ks.length ≤ 4 && ks.all fun k =>
            (asArray k).any fun a => a.length ≤ 4 && hexWords a) "bad keys"
      .ok 5
  | _ => .error "bad params"

def solanaTip (params : List Value) : Except String Nat := do
  require (params.length ≤ 1) "bad params"
  let _ ← solOpts params[0]? ["commitment"]
  .ok 2

/-- A key, and options after it. -/
def keyAndOptions (params : List Value) : Bool :=
  params.length ≤ 2 && params[0]?.any isSolPubkey

def getTokenAccountBalance (params : List Value) : Except String Nat := do
  require (keyAndOptions params = true) "bad params"
  let _ ← solOpts params[1]? ["commitment"]
  .ok 3

/-- The options of a read of raw accounts. -/
def accountOptions (params : List Value) : Except String Nat := do
  let o ← solOpts params[1]? ["commitment", "encoding", "dataSlice"]
  require (solBase64Only o = true ∧ solDataSliceOk o = true)
    "unsupported encoding or dataSlice"
  .ok 3

def getAccountInfo (params : List Value) : Except String Nat := do
  require (keyAndOptions params = true) "bad params"
  accountOptions params

def getMultipleAccounts (params : List Value) : Except String Nat := do
  require (params.length ≤ 2) "bad params"
  let keys ← okOr (params[0]?.bind asArray) "bad params"
  require (keys ≠ [] ∧ keys.length ≤ MAX_SOLANA_MULTIPLE_ACCOUNTS ∧
    keys.all isSolPubkey = true) "bad params"
  accountOptions params

def getSignaturesForAddress (params : List Value) : Except String Nat := do
  require (keyAndOptions params = true) "bad params"
  let o ← solOpts params[1]? ["limit", "commitment", "before", "until"]
  require (absentOr o "limit" fun l =>
    (asU64 l).any fun n => 1 ≤ n && n ≤ MAX_SOLANA_SIGNATURES) "limit must be 1..=1000"
  require (absentOr o "before" isSolSignature ∧ absentOr o "until" isSolSignature)
    "bad signature cursor"
  .ok 3

def getTransaction (params : List Value) : Except String Nat := do
  require (params.length = 2 ∧ params[0]?.any isSolSignature) "bad params"
  let o ← solOpts params[1]? ["encoding", "commitment", "maxSupportedTransactionVersion"]
  let o ← okOr o "options required"
  let encoding := (get o "encoding").bind asStr
  require (encoding = some "jsonParsed".toList ∨ encoding = some "json".toList)
    "encoding must be jsonParsed or json"
  require ((get o "maxSupportedTransactionVersion").bind asU64 = some 0)
    "maxSupportedTransactionVersion must be 0"
  -- A finalized transaction never changes.
  if (get o "commitment").bind asStr = some "finalized".toList then .ok 300 else .ok 5

/-- The rule of a method. -/
def validateMethod (method : Text) (params : List Value) : Except String Nat :=
  match up.family, String.ofList method with
  | .evm, "eth_blockNumber" => noParams params 2
  | .evm, "eth_chainId" => noParams params 60
  | .evm, "eth_call" => eth_call up params
  | .evm, "eth_getCode" => eth_getCode params
  | .evm, "eth_getLogs" => eth_getLogs up params
  | .starknet, "starknet_blockNumber" => noParams params 2
  | .starknet, "starknet_chainId" => noParams params 60
  | .starknet, "starknet_call" => starknet_call up params
  | .starknet, "starknet_getClassHashAt" => starknet_getClassHashAt params
  | .starknet, "starknet_getEvents" => starknet_getEvents up params
  | .solana, "getSlot" | .solana, "getBlockHeight" | .solana, "getLatestBlockhash" =>
      solanaTip params
  | .solana, "getTokenAccountBalance" => getTokenAccountBalance params
  | .solana, "getAccountInfo" => getAccountInfo params
  | .solana, "getMultipleAccounts" => getMultipleAccounts params
  | .solana, "getSignaturesForAddress" => getSignaturesForAddress params
  | .solana, "getTransaction" => getTransaction params
  | _, _ => .error "method not permitted"

/-- A number, or a string of at most 64 octets. -/
def validId : Option Value → Bool
  | some (.number _) => true
  | some (.string s) => (utf8 s).length ≤ 64
  | _ => false

/-- The cache TTL of an allowed request in seconds, or why it is rejected. -/
def validate (req : Value) : Except String Nat := do
  let o ← okOr (asObject req) "batch requests are not supported"
  require (onlyKeys o ["jsonrpc", "id", "method", "params"] = true) "unexpected field"
  require ((get o "jsonrpc").bind asStr = some "2.0".toList) "jsonrpc must be 2.0"
  require (validId (get o "id") = true) "invalid id"
  let method ← okOr ((get o "method").bind asStr) "missing method"
  let params ← okOr ((get o "params").bind asArray) "params must be an array"
  validateMethod up method params

end

end Beanie.Api.RpcProxy
