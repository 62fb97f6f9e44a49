/-
# `Beanie.Solana.Accounts` — accounts, instructions and the runtime around the program

A `Bank` maps each address to what is stored there.  What the program calls is
a field of `Runtime`: address derivation, SHA-256, the SPL Token program and
Circle's CCTP program.  `StandardRuntime` states their documented behaviour.

    Transferable / afterTransfer     when an SPL `Transfer` succeeds, and what it does
    Approvable / afterApprove        the same for `Approve`
    Closable / afterSetClose         the same for `SetAuthority(CloseAccount)`
-/
import Beanie.Lib.Bytes
import Beanie.Lib.Except
import Beanie.Lib.Ledger

namespace Beanie.Solana

abbrev Pubkey := BitVec 256

/-- Named, so that a definition that compares keys does not carry a proof of it. -/
instance lawfulBEqPubkey : LawfulBEq Pubkey := inferInstance

/-- A signature, whose it is, and what of. -/
instance lawfulBEqSigned : LawfulBEq (Bytes × Pubkey × Bytes) := inferInstance

/-- A `[u8; 32]`, most significant byte first. -/
abbrev Bytes32 := BitVec 256

/-- The 32 bytes of a key or a route field. -/
def bytesOf (k : BitVec 256) : Bytes := beBytes 32 k.toNat

@[simp] theorem length_bytesOf (k : BitVec 256) : (bytesOf k).length = 32 := by
  simp [bytesOf]

structure AccountMeta where
  key : Pubkey
  isSigner : Bool
  isWritable : Bool
deriving DecidableEq

/-- `AccountMeta::new`. -/
def AccountMeta.new (key : Pubkey) (signer : Bool) : AccountMeta := ⟨key, signer, true⟩

/-- `AccountMeta::new_readonly`. -/
def AccountMeta.newReadonly (key : Pubkey) (signer : Bool) : AccountMeta := ⟨key, signer, false⟩

@[simp] theorem AccountMeta.newReadonly_key (key : Pubkey) (signer : Bool) :
    (AccountMeta.newReadonly key signer).key = key := rfl

structure Instruction where
  programId : Pubkey
  accounts : List AccountMeta
  data : Bytes

structure TokenAccount where
  mint : Pubkey
  owner : Pubkey
  amount : Nat
  delegate : Option Pubkey
  delegatedAmount : Nat
  frozen : Bool
  closeAuthority : Option Pubkey
deriving DecidableEq

structure FactoryConfig where
  mint : Pubkey
  treasury_token_account : Pubkey
  starknet_domain : BitVec 32
  base_domain : BitVec 32
  ethereum_domain : BitVec 32
  monad_domain : BitVec 32
  arbitrum_domain : BitVec 32
  bump : UInt8
deriving DecidableEq

structure ReceiverConfig where
  receiver : Pubkey
  merchant : Pubkey
  mint : Pubkey
  merchant_token_account : Pubkey
  cctp_mint_chain : Bytes32
  cctp_mint_recipient : Bytes32
  cctp_domain_id : BitVec 32
  bump : UInt8
deriving DecidableEq

structure PendingRegistration where
  bump : UInt8
  reg_tx : Bytes
deriving DecidableEq

/-- The registry; `receivers` holds the first `receiver_count` slots. -/
structure MerchantRegistry where
  merchant : Pubkey
  receivers : List Pubkey
deriving DecidableEq

/-- What an address holds: nothing, an SPL token account or mint, one of the program's own
accounts, or anything else. -/
inductive AccountData
  | empty
  | token (t : TokenAccount)
  | mint
  | factoryConfig (c : FactoryConfig)
  | receiverConfig (c : ReceiverConfig)
  | pending (p : PendingRegistration)
  | registry (r : MerchantRegistry)
  | other
deriving DecidableEq

/-- A `deposit_for_burn` that CCTP accepted. -/
structure Burn where
  account : Pubkey
  amount : Nat
  destination_domain : BitVec 32
  mint_recipient : Bytes32
deriving DecidableEq

inductive Event
  | factoryInitialized (mint treasury : Pubkey)
      (starknet base ethereum monad arbitrum : BitVec 32)
  | receiverAnnounced (merchant receiver receiver_token_account receiver_config
      cctp_burn_staging_account pending_registration : Pubkey)
      (cctp_mint_chain cctp_mint_recipient : Bytes32)
  | receiverRegistered (merchant receiver receiver_config receiver_token_account : Pubkey)
      (cctp_mint_chain cctp_mint_recipient : Bytes32)
  | swept (receiver_config receiver : Pubkey)
      (gross net fee fee_to_caller fee_to_treasury slot : Nat)
  | sweptCrossChain (receiver_config receiver : Pubkey)
      (gross net fee fee_to_caller fee_to_treasury : Nat) (destination_domain : BitVec 32)
      (max_fee : Nat)
deriving DecidableEq

structure Bank where
  accounts : Pubkey → AccountData
  burns : List Burn
  events : List Event
  slot : Nat

namespace Bank

def set (b : Bank) (k : Pubkey) (d : AccountData) : Bank :=
  { b with accounts := Function.update b.accounts k d }

def emit (b : Bank) (e : Event) : Bank := { b with events := b.events ++ [e] }

def token? (b : Bank) (k : Pubkey) : Option TokenAccount :=
  match b.accounts k with
  | .token t => some t
  | _ => none

/-- The token amounts by account. -/
def amount (b : Bank) : Ledger Pubkey := fun k =>
  match b.accounts k with
  | .token t => t.amount
  | _ => 0

@[simp] theorem set_burns (b : Bank) (k : Pubkey) (d : AccountData) : (b.set k d).burns = b.burns :=
  rfl
@[simp] theorem set_self (b : Bank) (k : Pubkey) (d : AccountData) :
    (b.set k d).accounts k = d := by simp [set]
theorem set_other (b : Bank) {k k' : Pubkey} (d : AccountData) (h : k' ≠ k) :
    (b.set k d).accounts k' = b.accounts k' := by simp [set, h]
@[simp] theorem emit_accounts (b : Bank) (e : Event) : (b.emit e).accounts = b.accounts := rfl
@[simp] theorem emit_burns (b : Bank) (e : Event) : (b.emit e).burns = b.burns := rfl
@[simp] theorem emit_amount (b : Bank) (e : Event) : (b.emit e).amount = b.amount := rfl

theorem token?_eq {b : Bank} {k : Pubkey} {t : TokenAccount} :
    b.token? k = some t ↔ b.accounts k = .token t := by
  unfold token?
  split <;> simp_all

theorem amount_of_token {b : Bank} {k : Pubkey} {t : TokenAccount} (h : b.token? k = some t) :
    b.amount k = t.amount := by
  simp [amount, token?_eq.mp h]

/-- Writing a token account writes its amount, and no other. -/
theorem set_token_amount (b : Bank) (k : Pubkey) (t : TokenAccount) :
    (b.set k (.token t)).amount = Function.update b.amount k t.amount := by
  funext k'
  by_cases h : k' = k
  · subst h
    simp [amount]
  · simp [amount, set_other _ _ h, h]

end Bank

/-! ## SPL Token -/

/-- `authority` may move `n` out of the account: as its delegate, within what is delegated, or as
its owner.  The delegate is looked at first. -/
def TokenAccount.Authorizes (t : TokenAccount) (authority : Pubkey) (n : Nat) : Prop :=
  if t.delegate = some authority then n ≤ t.delegatedAmount else t.owner = authority

instance (t : TokenAccount) (authority : Pubkey) (n : Nat) : Decidable (t.Authorizes authority n) :=
  inferInstanceAs (Decidable
    (if t.delegate = some authority then n ≤ t.delegatedAmount else t.owner = authority))

/-- The source account after `authority` moved `n` out of it. -/
def TokenAccount.spend (t : TokenAccount) (authority : Pubkey) (n : Nat) : TokenAccount :=
  if t.delegate = some authority then
    { t with
      amount := t.amount - n
      delegatedAmount := t.delegatedAmount - n
      delegate := if t.delegatedAmount = n then none else t.delegate }
  else { t with amount := t.amount - n }

def TokenAccount.receive (t : TokenAccount) (n : Nat) : TokenAccount :=
  { t with amount := t.amount + n }

@[simp] theorem TokenAccount.spend_amount (t : TokenAccount) (authority : Pubkey) (n : Nat) :
    (t.spend authority n).amount = t.amount - n := by
  unfold spend
  split_ifs <;> rfl

@[simp] theorem TokenAccount.spend_mint (t : TokenAccount) (authority : Pubkey) (n : Nat) :
    (t.spend authority n).mint = t.mint := by
  unfold spend
  split_ifs <;> rfl

@[simp] theorem TokenAccount.spend_owner (t : TokenAccount) (authority : Pubkey) (n : Nat) :
    (t.spend authority n).owner = t.owner := by
  unfold spend
  split_ifs <;> rfl

@[simp] theorem TokenAccount.spend_frozen (t : TokenAccount) (authority : Pubkey) (n : Nat) :
    (t.spend authority n).frozen = t.frozen := by
  unfold spend
  split_ifs <;> rfl

/-- An SPL `Transfer` between two different accounts succeeds. -/
structure Transferable (b : Bank) (src dst authority : Pubkey) (n : Nat) (s d : TokenAccount) :
    Prop where
  source : b.token? src = some s
  destination : b.token? dst = some d
  thawed : s.frozen = false ∧ d.frozen = false
  mint : s.mint = d.mint
  funds : n ≤ s.amount
  authority : s.Authorizes authority n
  fits : d.amount + n < 2 ^ 64

/-- What it does. -/
def Bank.afterTransfer (b : Bank) (src dst authority : Pubkey) (n : Nat) (s d : TokenAccount) :
    Bank :=
  (b.set src (.token (s.spend authority n))).set dst (.token (d.receive n))

/-! ## The runtime -/

inductive DepositError
  | arithmeticOverflow
  | wrongReceiver
  | wrongMerchant
  | wrongTreasury
  | wrongMint
  | invalidDomain
  | crossChainRequiresRecipient
  | sameChainRecipientMustBeZero
  | duplicateDomains
  | maxReceiversExceeded
  | wrongCctpProgram
  | wrongCaller
  | missingMerchantAccount
  | missingCctpAccounts
  | wrongStagingAccount
  | nonCanonicalReceiverAta
  | emptyRegTx
  | regTxTooLarge
deriving DecidableEq, Repr

/-- Why an instruction failed: one of Anchor's own checks, the program's error, or a callee. -/
inductive ProgramError
  | instructionFallbackNotFound
  | instructionDidNotDeserialize
  | accountNotEnoughKeys
  | accountNotSigner
  | accountNotInitialized
  | constraintMut
  | constraintSeeds
  | invalidProgramId
  | accountAlreadyInUse
  | privilegeEscalation
  | deposit (e : DepositError)
  | callee
deriving DecidableEq, Repr

/-- Everything outside the program that it calls or is addressed by. -/
structure Runtime where
  /-- `crate::ID` -/
  programId : Pubkey
  /-- `spl_token::ID` -/
  tokenProgram : Pubkey
  /-- `system_program::ID` -/
  systemProgram : Pubkey
  /-- `spl_associated_token_account::ID` -/
  ataProgram : Pubkey
  /-- `Pubkey::from_str` on a literal -/
  fromStr : List Char → Pubkey
  findProgramAddress : List Bytes → Pubkey → Pubkey × UInt8
  createProgramAddress : List Bytes → Pubkey → Option Pubkey
  /-- SHA-256 -/
  hash : Bytes → Bytes
  /-- SPL `Transfer`: source, destination, authority -/
  tokenTransfer : Bank → Pubkey → Pubkey → Pubkey → Nat → Except ProgramError Bank
  /-- SPL `Approve`: account, delegate, owner -/
  tokenApprove : Bank → Pubkey → Pubkey → Pubkey → Nat → Except ProgramError Bank
  /-- SPL `SetAuthority(CloseAccount)`: account, current authority, new authority -/
  tokenSetCloseAuthority : Bank → Pubkey → Pubkey → Pubkey → Except ProgramError Bank
  /-- a cross-program invocation of CCTP -/
  invokeCctp : Bank → Instruction → Except ProgramError Bank

/-- `get_associated_token_address`. -/
def Runtime.ata (rt : Runtime) (owner mint : Pubkey) : Pubkey :=
  (rt.findProgramAddress [bytesOf owner, bytesOf rt.tokenProgram, bytesOf mint] rt.ataProgram).1

/-- The 8 bytes that select an instruction: `sha256("global:" ++ name)[..8]`. -/
def Runtime.anchorDiscriminator (rt : Runtime) (name : List Char) : Bytes :=
  (rt.hash (asciiBytes ("global:".toList ++ name))).take 8

/-- `CctpDepositForBurnParams`. -/
structure DepositForBurnParams where
  amount : Nat
  destination_domain : BitVec 32
  mint_recipient : Bytes32
  destination_caller : Pubkey
  max_fee : Nat
  min_finality_threshold : BitVec 32

/-- Borsh: fields in order, integers little-endian. -/
def DepositForBurnParams.toVec (p : DepositForBurnParams) : Bytes :=
  leBytes 8 p.amount ++ leBytes 4 p.destination_domain.toNat ++ bytesOf p.mint_recipient
    ++ bytesOf p.destination_caller ++ leBytes 8 p.max_fee
    ++ leBytes 4 p.min_finality_threshold.toNat

/-- What an accepted `deposit_for_burn` did: it burned exactly the amount from the burn account it
was given, and touched no other token account and none of the program's accounts. -/
structure Burned (b b' : Bank) (account : Pubkey) (p : DepositForBurnParams) : Prop where
  covered : p.amount ≤ b.amount account
  amounts : b'.amount = b.amount.debit account p.amount
  burns : b'.burns
    = b.burns ++ [⟨account, p.amount, p.destination_domain, p.mint_recipient⟩]
  configs : ∀ k c, b'.accounts k = .receiverConfig c ↔ b.accounts k = .receiverConfig c
  factory : ∀ k c, b'.accounts k = .factoryConfig c ↔ b.accounts k = .factoryConfig c

/-- The documented behaviour of the callees. -/
structure StandardRuntime (rt : Runtime) : Prop where
  /-- `create_program_address` confirms what `find_program_address` found. -/
  create_find : ∀ seeds p,
    rt.createProgramAddress (seeds ++ [[(rt.findProgramAddress seeds p).2]]) p
      = some (rt.findProgramAddress seeds p).1
  transfer : ∀ {b b' src dst authority n}, src ≠ dst →
    (rt.tokenTransfer b src dst authority n = .ok b' ↔
      ∃ s d, Transferable b src dst authority n s d ∧ b' = b.afterTransfer src dst authority n s d)
  /-- a transfer to itself is checked and changes nothing -/
  selfTransfer : ∀ {b b' src authority n},
    rt.tokenTransfer b src src authority n = .ok b' → n ≤ b.amount src ∧ b' = b
  approve : ∀ {b b' account delegate owner n},
    rt.tokenApprove b account delegate owner n = .ok b' →
      ∃ t, b.token? account = some t ∧ t.owner = owner ∧
        b' = b.set account (.token { t with delegate := some delegate, delegatedAmount := n })
  setCloseAuthority : ∀ {b b' account current new},
    rt.tokenSetCloseAuthority b account current new = .ok b' →
      ∃ t, b.token? account = some t ∧ t.closeAuthority.getD t.owner = current ∧
        b' = b.set account (.token { t with closeAuthority := some new })
  /-- The burn account is the fourth account of the instruction. -/
  depositForBurn : ∀ {b b' ix p account},
    rt.invokeCctp b ix = .ok b' → p.amount < 2 ^ 64 → p.max_fee < 2 ^ 64 →
    ix.data = rt.anchorDiscriminator "deposit_for_burn".toList ++ p.toVec →
    ix.accounts[3]? = some account →
    Burned b b' account.key p

end Beanie.Solana
