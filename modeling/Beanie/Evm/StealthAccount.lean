/-
# `Beanie.Evm.StealthAccount` — the two-of-two account and its factory

`StealthAccount.sol`, as far as ERC-1271 goes, and `StealthFactory.sol`.
OpenZeppelin's `ECDSA.recover` and `keccak256` are parameters.  An address the
factory deploys at commits to client, cosigner and salt: over every run of
`createAccount` calls, what stands at `getAddress(client, cosigner, salt)` is
the account of that client and that cosigner (`created_account`).
-/
import Beanie.Lib.Bytes
import Beanie.Lib.Run
import Beanie.Evm.World

namespace Beanie.Evm

/-- Code outside the repository that the account and its factory use. -/
structure StealthLib where
  keccak256 : Bytes → Bytes32
  /-- OpenZeppelin's `ECDSA.recover`: the signer, or a revert. -/
  recover : Bytes32 → Bytes → Except Revert Address
  /-- `type(StealthAccount).creationCode`. -/
  creationCode : Bytes

/-- OpenZeppelin's `toEthSignedMessageHash`. -/
def toEthSignedMessageHash (x : StealthLib) (hash : Bytes32) : Bytes32 :=
  x.keccak256 (asciiBytes "\x19Ethereum Signed Message:\n32".toList ++ beBytes 32 hash.toNat)

/-- The account's immutables. -/
structure StealthAccount where
  entryPoint : Address
  clientPubkey : Address
  cosignerPubkey : Address
deriving DecidableEq

def ERC1271_MAGIC_VALUE : BitVec 32 := 0x1626ba7e
def ERC1271_INVALID : BitVec 32 := 0xffffffff

namespace StealthAccount

/-- The constructor. -/
def construct (entryPoint clientPubkey cosignerPubkey : Address) :
    Except Revert StealthAccount := do
  require (¬ (entryPoint = 0 ∨ clientPubkey = 0 ∨ cosignerPubkey = 0)) .zeroAddress
  .ok ⟨entryPoint, clientPubkey, cosignerPubkey⟩

/-- `_isValid2Of2Signature`. -/
def isValid2Of2Signature (x : StealthLib) (a : StealthAccount) (hash : Bytes32)
    (signature : Bytes) : Except Revert Bool := do
  if signature.length ≠ 130 then .ok false
  else
    let clientSig := signature.take 65
    let cosignerSig := (signature.drop 65).take 65
    let recoveredClient ← x.recover hash clientSig
    if recoveredClient = 0 ∨ recoveredClient ≠ a.clientPubkey then .ok false
    else
      let recoveredCosigner ← x.recover hash cosignerSig
      if recoveredCosigner = 0 ∨ recoveredCosigner ≠ a.cosignerPubkey then .ok false
      else .ok true

def isValidSignature (x : StealthLib) (a : StealthAccount) (hash : Bytes32) (signature : Bytes) :
    Except Revert (BitVec 32) := do
  let ethHash := toEthSignedMessageHash x hash
  let valid ← a.isValid2Of2Signature x ethHash signature
  .ok (if valid then ERC1271_MAGIC_VALUE else ERC1271_INVALID)

/-- Two halves that recover to the account's two signers give the magic value. -/
theorem isValidSignature_magic {x : StealthLib} {a : StealthAccount} {hash : Bytes32}
    {clientSig cosignerSig : Bytes} (hclient : clientSig.length = 65)
    (hcosigner : cosignerSig.length = 65) (hne : a.clientPubkey ≠ 0) (hne' : a.cosignerPubkey ≠ 0)
    (h : x.recover (toEthSignedMessageHash x hash) clientSig = .ok a.clientPubkey)
    (h' : x.recover (toEthSignedMessageHash x hash) cosignerSig = .ok a.cosignerPubkey) :
    a.isValidSignature x hash (clientSig ++ cosignerSig) = .ok ERC1271_MAGIC_VALUE := by
  have hlen : (clientSig ++ cosignerSig).length = 130 := by simp [hclient, hcosigner]
  have htake : (clientSig ++ cosignerSig).take 65 = clientSig := by
    rw [← hclient, List.take_left]
  have hdrop : ((clientSig ++ cosignerSig).drop 65).take 65 = cosignerSig := by
    rw [← hclient, List.drop_left, hclient, ← hcosigner, List.take_length]
  have hvalid : a.isValid2Of2Signature x (toEthSignedMessageHash x hash)
      (clientSig ++ cosignerSig) = .ok true := by
    rw [isValid2Of2Signature, if_neg (not_not.mpr hlen)]
    dsimp only
    rw [htake, hdrop, h, ok_bind, if_neg (by simpa using hne), h', ok_bind, if_neg (by simpa using hne')]
  rw [isValidSignature, hvalid]
  rfl

end StealthAccount

/-! ## The factory -/

/-- The factory at `this`, with its immutable. -/
structure StealthAccountFactory where
  this : Address
  entryPoint : Address

/-- The accounts deployed so far. -/
abbrev Accounts := Address → Option StealthAccount

namespace StealthAccountFactory

/-- The constructor. -/
def construct (this entryPoint : Address) : Except Revert StealthAccountFactory := do
  require (entryPoint ≠ 0) .zeroAddress
  .ok ⟨this, entryPoint⟩

/-- `_salt`: `abi.encode(client, cosigner, salt)`, hashed. -/
def salt (x : StealthLib) (client cosigner : Address) (salt : Bytes32) : Bytes32 :=
  x.keccak256 (beBytes 32 client.toNat ++ beBytes 32 cosigner.toNat ++ beBytes 32 salt.toNat)

def getAddress (x : StealthLib) (f : StealthAccountFactory) (client cosigner : Address)
    (salt : Bytes32) : Address :=
  let initHash := x.keccak256 (x.creationCode ++ (beBytes 32 f.entryPoint.toNat
    ++ beBytes 32 client.toNat ++ beBytes 32 cosigner.toNat))
  (x.keccak256 (0xff :: beBytes 20 f.this.toNat
    ++ beBytes 32 (StealthAccountFactory.salt x client cosigner salt).toNat
    ++ beBytes 32 initHash.toNat)).setWidth 160

/-- `createAccount`.  `new` deploys at the CREATE2 address, which is `predicted`. -/
def createAccount (x : StealthLib) (f : StealthAccountFactory) (w : Accounts)
    (client cosigner : Address) (salt : Bytes32) : Except Revert (Accounts × Address) := do
  let predicted := f.getAddress x client cosigner salt
  if (w predicted).isSome then .ok (w, predicted)
  else
    let account ← StealthAccount.construct f.entryPoint client cosigner
    .ok (Function.update w predicted (some account), predicted)

end StealthAccountFactory

/-! ## Runs -/

/-- The arguments of `createAccount`. -/
structure AccountArgs where
  client : Address
  cosigner : Address
  salt : Bytes32
deriving DecidableEq

section
variable {x : StealthLib} {f : StealthAccountFactory}

def AccountArgs.address (x : StealthLib) (f : StealthAccountFactory) (a : AccountArgs) : Address :=
  f.getAddress x a.client a.cosigner a.salt

/-- A call of `createAccount` by anyone, with any arguments. -/
inductive AccountStep (x : StealthLib) (f : StealthAccountFactory) :
    Accounts → AccountArgs → Accounts → Prop
  | createAccount {w w' : Accounts} {a : AccountArgs} {account : Address}
      (h : f.createAccount x w a.client a.cosigner a.salt = .ok (w', account)) :
      AccountStep x f w a w'

/-- The arguments of the calls in a run. -/
def requested (tr : List (Transition Accounts AccountArgs)) : List AccountArgs :=
  tr.map Transition.act

/-- Every account stands at the address of arguments that were passed, and is theirs. -/
def Committed (x : StealthLib) (f : StealthAccountFactory) (args : List AccountArgs)
    (w : Accounts) : Prop :=
  ∀ addr account, w addr = some account →
    ∃ a ∈ args, addr = a.address x f ∧ account = ⟨f.entryPoint, a.client, a.cosigner⟩

/-- The two ways `createAccount` succeeds. -/
theorem createAccount_cases {w w' : Accounts} {client cosigner : Address} {salt : Bytes32}
    {account : Address} (h : f.createAccount x w client cosigner salt = .ok (w', account)) :
    account = f.getAddress x client cosigner salt ∧
      ((w account).isSome ∧ w' = w ∨
        w account = none ∧
          w' = Function.update w account (some ⟨f.entryPoint, client, cosigner⟩)) := by
  unfold StealthAccountFactory.createAccount at h
  dsimp only at h
  split_ifs at h with hsome
  · obtain ⟨rfl, rfl⟩ := Prod.mk.inj (Except.ok.inj h)
    exact ⟨rfl, .inl ⟨hsome, rfl⟩⟩
  · obtain ⟨deployed, hconstruct, h⟩ := bind_ok.mp h
    obtain ⟨_, -, hdeployed⟩ := bind_ok.mp hconstruct
    obtain rfl := Except.ok.inj hdeployed
    obtain ⟨rfl, rfl⟩ := Prod.mk.inj (Except.ok.inj h)
    exact ⟨rfl, .inr ⟨Option.not_isSome_iff_eq_none.mp hsome, rfl⟩⟩

theorem AccountStep.committed {w w' : Accounts} {a : AccountArgs} {args : List AccountArgs}
    (h : AccountStep x f w a w') (hw : Committed x f args w) :
    Committed x f (args ++ [a]) w' := by
  intro addr account haccount
  cases h with
  | createAccount h =>
      obtain ⟨haddr, ⟨-, rfl⟩ | ⟨-, rfl⟩⟩ := createAccount_cases h
      · obtain ⟨b, hb, hrest⟩ := hw addr account haccount
        exact ⟨b, List.mem_append_left _ hb, hrest⟩
      · by_cases heq : addr = f.getAddress x a.client a.cosigner a.salt
        · rw [haddr, heq, Function.update_self] at haccount
          obtain rfl := Option.some.inj haccount
          exact ⟨a, by simp, heq, rfl⟩
        · rw [haddr, Function.update_of_ne heq] at haccount
          obtain ⟨b, hb, hrest⟩ := hw addr account haccount
          exact ⟨b, List.mem_append_left _ hb, hrest⟩

theorem committed_run {w w' : Accounts} {tr : List (Transition Accounts AccountArgs)}
    (h : Steps (AccountStep x f) w tr w') {args : List AccountArgs} (hw : Committed x f args w) :
    Committed x f (args ++ requested tr) w' := by
  have hfold := @Steps.fold_invariant _ _ _ _ (fun args t => args ++ [t.act])
    (fun w args => Committed x f args w) (fun _ => True)
    (fun _ _ _ _ hs _ hw => hs.committed hw)
    _ _ _ h (fun _ _ => trivial) _ hw
  have hlist : tr.foldl (fun args t => args ++ [t.act]) args = args ++ requested tr := by
    clear hfold hw h
    induction tr generalizing args with
    | nil => simp [requested]
    | cons t tr ih => simp [requested, ih]
  rwa [hlist] at hfold

/-- **The address commits to its arguments.**  Whatever has been created by anyone, where the
factory derives no two of the addresses alike the account at an address is that of its
arguments. -/
theorem created_account {w : Accounts} {tr : List (Transition Accounts AccountArgs)}
    (h : Steps (AccountStep x f) (fun _ => none) tr w) {a : AccountArgs}
    (hinj : Set.InjOn (AccountArgs.address x f) {b | b = a ∨ b ∈ requested tr})
    {account : StealthAccount} (haccount : w (a.address x f) = some account) :
    account = ⟨f.entryPoint, a.client, a.cosigner⟩ := by
  have hcommitted := @committed_run _ _ _ _ _ h [] (fun _ _ hnone => nomatch hnone)
  obtain ⟨b, hb, haddr, rfl⟩ := hcommitted _ _ haccount
  rw [List.nil_append] at hb
  obtain rfl := hinj (.inl rfl) (.inr hb) haddr
  rfl

end

end Beanie.Evm
