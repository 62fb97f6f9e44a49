/-
# `Beanie.Evm.ReceiverFactory` — routes, registration and announcement

`ReceiverFactory.sol`, function by function.  `keccak256` and OpenZeppelin's
`Clones.predictDeterministicAddress` are parameters (`Create2`); what the
factory needs of `cloneDeterministic` is only that it deploys at the predicted
address and reverts when that address is taken.

`registerMerchant_ok` is the one spec lemma of `registerMerchant`: the clone
was blank, and it is now initialised with the factory's token, treasury and
messenger, the route's domain and recipient, and the merchant.
-/
import Beanie.Lib.Bytes
import Beanie.Evm.ChainXReceiver

namespace Beanie.Evm

def MAX_RECEIVERS_PER_MERCHANT : Nat := 32

/-- `keccak256`, and the address CREATE2 gives a minimal proxy. -/
structure Create2 where
  keccak256 : Bytes → Bytes32
  /-- implementation, salt, deployer -/
  predictDeterministicAddress : Address → Bytes32 → Address → Address

/-- Storage of the factory at `this`. -/
structure ReceiverFactory where
  this : Address
  receiverImplementation : Address
  token : Address
  treasury : Address
  tokenMessenger : Address
  merchantReceiversMap : Address → List Address
  validDomains : Bytes32 → Bool
  destinationDomain : Bytes32 → Domain

namespace ReceiverFactory

/-- The chain names the constructor enters, with their domains. -/
def chainTable (starknet base solana eth arb monad : Domain) : List (Bytes32 × Domain) :=
  [(bytes32Literal "STARKNET".toList, starknet), (bytes32Literal "BASE".toList, base),
   (bytes32Literal "SOLANA".toList, solana), (bytes32Literal "ETHEREUM".toList, eth),
   (bytes32Literal "ARBITRUM".toList, arb), (bytes32Literal "MONAD".toList, monad)]

/-- The constructor. -/
def construct (this impl token treasury tokenMessenger : Address)
    (starknet base solana eth arb monad : Domain) : Except Revert ReceiverFactory := do
  require (impl ≠ 0) (.reason "zero impl")
  require (base ≠ solana ∧ base ≠ starknet ∧ base ≠ eth ∧ base ≠ arb ∧ base ≠ monad ∧
      solana ≠ starknet ∧ solana ≠ eth ∧ solana ≠ arb ∧ solana ≠ monad ∧
      starknet ≠ eth ∧ starknet ≠ arb ∧ starknet ≠ monad ∧
      eth ≠ arb ∧ eth ≠ monad ∧ arb ≠ monad)
    (.reason "provide unique cctp domains")
  let table := chainTable starknet base solana eth arb monad
  .ok
    { this := this
      receiverImplementation := impl
      token := token
      treasury := treasury
      tokenMessenger := tokenMessenger
      merchantReceiversMap := fun _ => []
      validDomains := fun name => (table.lookup name).isSome
      destinationDomain := fun name => (table.lookup name).getD 0 }

/-- `_checkRoute`. -/
def checkRoute (f : ReceiverFactory) (cctpMintChain cctpMintRecipient : Bytes32) :
    Except Revert Unit :=
  if cctpMintChain ≠ 0 then do
    require (f.validDomains cctpMintChain = true) .invalidDomain
    require (cctpMintRecipient ≠ 0) (.reason "Cross-chain requires destination recipient")
  else
    require (cctpMintRecipient = 0) (.reason "Same-chain recipient must be zero")

/-- `_salt`: `abi.encodePacked(merchant, cctpMintChain, cctpMintRecipient)`, hashed. -/
def salt (k : Create2) (merchant : Address) (cctpMintChain cctpMintRecipient : Bytes32) :
    Bytes32 :=
  k.keccak256 (beBytes 20 merchant.toNat ++ beBytes 32 cctpMintChain.toNat
    ++ beBytes 32 cctpMintRecipient.toNat)

/-- `_predict`. -/
def predict (f : ReceiverFactory) (k : Create2) (merchant : Address)
    (cctpMintChain cctpMintRecipient : Bytes32) : Address :=
  k.predictDeterministicAddress f.receiverImplementation
    (salt k merchant cctpMintChain cctpMintRecipient) f.this

/-- `Clones.cloneDeterministic`: a blank receiver at the predicted address. -/
def cloneDeterministic (f : ReceiverFactory) (k : Create2) (w : World) (salt : Bytes32) :
    Except Revert (World × Address) :=
  let clone := k.predictDeterministicAddress f.receiverImplementation salt f.this
  if w.receivers clone = none then
    .ok ({ w with receivers := Function.update w.receivers clone (some .blank) }, clone)
  else .error .external

/-- `registerMerchant`. -/
def registerMerchant (f : ReceiverFactory) (k : Create2) (w : World) (merchant : Address)
    (cctpMintChain cctpMintRecipient : Bytes32) :
    Except Revert (ReceiverFactory × World × Address) := do
  require (¬ MAX_RECEIVERS_PER_MERCHANT ≤ (f.merchantReceiversMap merchant).length)
    .maximumReceiversExceeded
  f.checkRoute cctpMintChain cctpMintRecipient
  let (w, clone) ← f.cloneDeterministic k w (salt k merchant cctpMintChain cctpMintRecipient)
  let domain := f.destinationDomain cctpMintChain
  let w ← initializeCall w clone f.token f.treasury f.tokenMessenger domain cctpMintRecipient
    merchant
  let receivers := Function.update f.merchantReceiversMap merchant
    (f.merchantReceiversMap merchant ++ [clone])
  .ok ({ f with merchantReceiversMap := receivers },
    w.emit (.receiverRegistered merchant clone), clone)

/-- `announceReceiver`. -/
def announceReceiver (f : ReceiverFactory) (k : Create2) (w : World) (merchant : Address)
    (cctpMintChain cctpMintRecipient : Bytes32) : Except Revert World := do
  f.checkRoute cctpMintChain cctpMintRecipient
  .ok (w.emit (.receiverAnnounced merchant (f.predict k merchant cctpMintChain cctpMintRecipient)
    cctpMintChain cctpMintRecipient))

/-- `predictReceiverAddress`. -/
def predictReceiverAddress (f : ReceiverFactory) (k : Create2) (merchant : Address)
    (cctpMintChain cctpMintRecipient : Bytes32) : Address :=
  f.predict k merchant cctpMintChain cctpMintRecipient

def getReceiverCount (f : ReceiverFactory) (merchant : Address) : Nat :=
  (f.merchantReceiversMap merchant).length

def getMerchantReceivers (f : ReceiverFactory) (merchant : Address) : List Address :=
  f.merchantReceiversMap merchant

def getMerchantReceiverAt (f : ReceiverFactory) (merchant : Address) (index : Nat) :
    Except Revert Address :=
  okOr (f.merchantReceiversMap merchant)[index]? .indexOutOfBounds

/-- What the factory pins in a receiver it registers. -/
def pinned (f : ReceiverFactory) (merchant : Address) (cctpMintChain cctpMintRecipient : Bytes32) :
    ChainXReceiver :=
  { initialized := true
    token := f.token
    treasury := f.treasury
    tokenMessenger := f.tokenMessenger
    cctpDestinationDomain := f.destinationDomain cctpMintChain
    cctpMintRecipient := cctpMintRecipient
    merchant := merchant }

/-- A route passes `_checkRoute` only if it is all zero or names an entered chain and a
recipient. -/
theorem checkRoute_ok {f : ReceiverFactory} {chain recipient : Bytes32} {u : Unit} :
    f.checkRoute chain recipient = .ok u ↔
      (chain = 0 ∧ recipient = 0) ∨
        (chain ≠ 0 ∧ f.validDomains chain = true ∧ recipient ≠ 0) := by
  by_cases hc : chain = 0
  · rw [checkRoute, if_neg (not_not.mpr hc), require_ok]
    exact ⟨fun h => .inl ⟨hc, h⟩, fun h => h.elim And.right (fun h => absurd hc h.1)⟩
  · rw [checkRoute, if_pos hc, bind_ok]
    constructor
    · rintro ⟨_, hv, hr⟩
      exact .inr ⟨hc, require_ok.mp hv, require_ok.mp hr⟩
    · rintro (⟨h0, -⟩ | ⟨-, hv, hr⟩)
      · exact absurd h0 hc
      · exact ⟨(), require_ok.mpr hv, require_ok.mpr hr⟩

theorem cloneDeterministic_ok {f : ReceiverFactory} {k : Create2} {w w' : World} {salt : Bytes32}
    {clone : Address} (h : f.cloneDeterministic k w salt = .ok (w', clone)) :
    clone = k.predictDeterministicAddress f.receiverImplementation salt f.this ∧
      w.receivers clone = none ∧
      w' = { w with receivers := Function.update w.receivers clone (some .blank) } := by
  unfold cloneDeterministic at h
  dsimp only at h
  split_ifs at h with hfree
  obtain ⟨rfl, rfl⟩ := Prod.mk.inj (Except.ok.inj h)
  exact ⟨rfl, hfree, rfl⟩

/-- **The spec of `registerMerchant`.** -/
theorem registerMerchant_ok {f f' : ReceiverFactory} {k : Create2} {w w' : World}
    {merchant receiver : Address} {chain recipient : Bytes32}
    (h : f.registerMerchant k w merchant chain recipient = .ok (f', w', receiver)) :
    receiver = f.predict k merchant chain recipient ∧
      w.receivers receiver = none ∧
      w'.receivers receiver = some (f.pinned merchant chain recipient) ∧
      w'.balances = w.balances ∧ w'.burns = w.burns := by
  simp only [registerMerchant, bind_ok] at h
  obtain ⟨-, -, -, -, ⟨w₁, clone⟩, hclone, w₂, hinit, hout⟩ := h
  obtain ⟨-, hrest⟩ := Prod.mk.inj (Except.ok.inj hout)
  obtain ⟨rfl, rfl⟩ := Prod.mk.inj hrest
  obtain ⟨haddr, hfree, rfl⟩ := cloneDeterministic_ok hclone
  simp only [initializeCall, bind_ok, okOr_ok] at hinit
  obtain ⟨c, -, c', hc', hw₂⟩ := hinit
  obtain ⟨-, rfl⟩ := ChainXReceiver.initializeReceiver_ok hc'
  have hw₂ := (Except.ok.inj hw₂).symm
  subst hw₂
  exact ⟨haddr, hfree, Function.update_self .., rfl, rfl⟩

end ReceiverFactory

end Beanie.Evm
