/-
# `Beanie.Starknet.ReceiverFactory` — routes, registration and announcement

`merchant_factory.cairo`, function by function.  Poseidon and the address
calculation of the deploy syscall are parameters (`Deployer`); the syscall
deploys at the calculated address and fails when that address is taken.

`registers_of_ok` is the spec lemma of `register_merchant`, and
`register_merchant_succeeds_iff` says when it succeeds.
-/
import Beanie.Starknet.Receiver

namespace Beanie.Starknet

def MAX_RECEIVERS_PER_MERCHANT : Nat := 32

/-- Poseidon, and the address a deployment gets. -/
structure Deployer where
  poseidon_hash_span : List Felt → Felt
  /-- salt, class hash, constructor calldata, deployer -/
  calculate_contract_address_from_deploy_syscall : Felt → Felt → List Felt → ContractAddress →
    ContractAddress

/-- A Cairo short string. -/
def shortString (s : List Char) : Felt := Fin.ofNat P (beNat (asciiBytes s))

/-- Storage of the factory at `this`. -/
structure ReceiverFactory where
  this : ContractAddress
  receiver_class_hash : Felt
  token : ContractAddress
  treasury : ContractAddress
  token_messenger : ContractAddress
  valid_domains : Felt → Bool
  destination_domains : Felt → BitVec 32
  merchant_receivers : ContractAddress → List ContractAddress

/-- A merchant with a route: the arguments of `register_merchant` and of `announce_receiver`. -/
structure Route where
  merchant : ContractAddress
  cctp_mint_chain : Felt
  cctp_mint_recipient : U256
deriving DecidableEq

/-- A `u256`'s halves, as field elements. -/
def lowFelt (v : U256) : Felt := Fin.ofNat P (v.toNat % 2 ^ 128)
def highFelt (v : U256) : Felt := Fin.ofNat P (v.toNat / 2 ^ 128)

/-- The span that `route_salt` hashes. -/
def Route.span (r : Route) : List Felt :=
  [r.merchant, r.cctp_mint_chain, lowFelt r.cctp_mint_recipient, highFelt r.cctp_mint_recipient]

/-- The span determines the route. -/
theorem Route.span_injective : Function.Injective Route.span := by
  intro r r' h
  simp only [span, List.cons.injEq, and_true] at h
  obtain ⟨hmerchant, hchain, hlow, hhigh⟩ := h
  have hP : 2 ^ 128 < P := by decide
  have hhalf : ∀ v : U256, v.toNat / 2 ^ 128 < 2 ^ 128 := by
    intro v
    have hv := v.isLt
    omega
  have hlow := congrArg Fin.val hlow
  have hhigh := congrArg Fin.val hhigh
  simp only [lowFelt, highFelt, Fin.val_ofNat] at hlow hhigh
  rw [Nat.mod_eq_of_lt (Nat.lt_trans (Nat.mod_lt _ (by decide)) hP),
    Nat.mod_eq_of_lt (Nat.lt_trans (Nat.mod_lt _ (by decide)) hP)] at hlow
  rw [Nat.mod_eq_of_lt (Nat.lt_trans (hhalf _) hP),
    Nat.mod_eq_of_lt (Nat.lt_trans (hhalf _) hP)] at hhigh
  have hrecipient : r.cctp_mint_recipient = r'.cctp_mint_recipient := by
    refine BitVec.eq_of_toNat_eq ?_
    omega
  cases r
  cases r'
  rw [Route.mk.injEq]
  exact ⟨hmerchant, hchain, hrecipient⟩

namespace ReceiverFactory

/-- The chain names the constructor enters, with their domains. -/
def chainTable (base solana eth arb monad : BitVec 32) : List (Felt × BitVec 32) :=
  [(shortString "BASE".toList, base), (shortString "SOLANA".toList, solana),
   (shortString "ETHEREUM".toList, eth), (shortString "ARBITRUM".toList, arb),
   (shortString "MONAD".toList, monad)]

/-- The constructor. -/
def construct (this : ContractAddress) (receiver_class_hash : Felt)
    (token treasury token_messenger : ContractAddress) (base solana eth arb monad : BitVec 32) :
    Except Panic ReceiverFactory := do
  require (token ≠ 0 ∧ treasury ≠ 0 ∧ token_messenger ≠ 0) .zeroAddress
  let table := chainTable base solana eth arb monad
  .ok
    { this := this
      receiver_class_hash := receiver_class_hash
      token := token
      treasury := treasury
      token_messenger := token_messenger
      valid_domains := fun name => (table.lookup name).isSome
      destination_domains := fun name => (table.lookup name).getD 0
      merchant_receivers := fun _ => [] }

/-- `check_route`: the destination domain, zero for same-chain. -/
def check_route (f : ReceiverFactory) (cctp_mint_chain : Felt) (cctp_mint_recipient : U256) :
    Except Panic (BitVec 32) :=
  if cctp_mint_chain ≠ 0 then do
    require (f.valid_domains cctp_mint_chain = true) .invalidDomain
    require (cctp_mint_recipient ≠ 0) .invalidRecipient
    .ok (f.destination_domains cctp_mint_chain)
  else do
    require (cctp_mint_recipient = 0) .invalidRecipient
    .ok 0

def route_salt (k : Deployer) (merchant : ContractAddress) (cctp_mint_chain : Felt)
    (cctp_mint_recipient : U256) : Felt :=
  k.poseidon_hash_span [merchant, cctp_mint_chain, lowFelt cctp_mint_recipient,
    highFelt cctp_mint_recipient]

def predict_receiver_address (f : ReceiverFactory) (k : Deployer) (merchant : ContractAddress)
    (cctp_mint_chain : Felt) (cctp_mint_recipient : U256) : ContractAddress :=
  k.calculate_contract_address_from_deploy_syscall
    (route_salt k merchant cctp_mint_chain cctp_mint_recipient) f.receiver_class_hash [] f.this

/-- `deploy_syscall`, with no constructor calldata: a blank receiver at the calculated address. -/
def deploy_syscall (f : ReceiverFactory) (k : Deployer) (w : World) (salt : Felt) :
    Except Panic (World × ContractAddress) :=
  let receiver := k.calculate_contract_address_from_deploy_syscall salt f.receiver_class_hash []
    f.this
  if w.receivers receiver = none then
    .ok ({ w with receivers := Function.update w.receivers receiver (some .blank) }, receiver)
  else .error .deployFailed

def register_merchant (f : ReceiverFactory) (k : Deployer) (w : World)
    (merchant : ContractAddress) (cctp_mint_chain : Felt) (cctp_mint_recipient : U256) :
    Except Panic (ReceiverFactory × World × ContractAddress) := do
  require (merchant ≠ 0) .zeroAddress
  require ((f.merchant_receivers merchant).length < MAX_RECEIVERS_PER_MERCHANT)
    .maxReceiversExceeded
  let destination_domain ← f.check_route cctp_mint_chain cctp_mint_recipient
  let (w, receiver) ← f.deploy_syscall k w
    (route_salt k merchant cctp_mint_chain cctp_mint_recipient)
  let w ← initializeCall w receiver f.token f.treasury f.token_messenger destination_domain
    cctp_mint_recipient merchant
  let receivers := Function.update f.merchant_receivers merchant
    (f.merchant_receivers merchant ++ [receiver])
  .ok ({ f with merchant_receivers := receivers },
    w.emit (.receiverRegistered merchant receiver), receiver)

def announce_receiver (f : ReceiverFactory) (k : Deployer) (w : World)
    (merchant : ContractAddress) (cctp_mint_chain : Felt) (cctp_mint_recipient : U256) :
    Except Panic World := do
  let _ ← f.check_route cctp_mint_chain cctp_mint_recipient
  .ok (w.emit (.receiverAnnounced merchant
    (f.predict_receiver_address k merchant cctp_mint_chain cctp_mint_recipient)
    cctp_mint_chain cctp_mint_recipient))

def get_merchant_receivers (f : ReceiverFactory) (merchant : ContractAddress) :
    List ContractAddress :=
  f.merchant_receivers merchant

def get_merchant_receiver_at (f : ReceiverFactory) (merchant : ContractAddress) (index : Nat) :
    Except Panic ContractAddress :=
  okOr (f.merchant_receivers merchant)[index]? .indexOutOfBounds

def get_receiver_count (f : ReceiverFactory) (merchant : ContractAddress) : Nat :=
  (f.merchant_receivers merchant).length

/-! ## What registration pins -/

/-- The address of a route's receiver. -/
def addressOf (f : ReceiverFactory) (k : Deployer) (r : Route) : ContractAddress :=
  f.predict_receiver_address k r.merchant r.cctp_mint_chain r.cctp_mint_recipient

/-- `check_route` lets the route pass, with this domain. -/
def Accepts (f : ReceiverFactory) (r : Route) (domain : BitVec 32) : Prop :=
  f.check_route r.cctp_mint_chain r.cctp_mint_recipient = .ok domain

/-- What a route's receiver is initialised to. -/
def pins (f : ReceiverFactory) (r : Route) : StarknetReceiver :=
  { initialized := true
    token := f.token
    treasury := f.treasury
    token_messenger := f.token_messenger
    destination_domain := if r.cctp_mint_chain = 0 then 0
      else f.destination_domains r.cctp_mint_chain
    mint_recipient := r.cctp_mint_recipient
    merchant := r.merchant }

/-- No address of the setup is zero, as the constructor asserts. -/
def Configured (f : ReceiverFactory) : Prop :=
  f.token ≠ 0 ∧ f.treasury ≠ 0 ∧ f.token_messenger ≠ 0

theorem accepts_iff {f : ReceiverFactory} {r : Route} {domain : BitVec 32} :
    f.Accepts r domain ↔ domain = (f.pins r).destination_domain ∧
      (r.cctp_mint_chain = 0 ∧ r.cctp_mint_recipient = 0 ∨
        r.cctp_mint_chain ≠ 0 ∧ f.valid_domains r.cctp_mint_chain = true ∧
          r.cctp_mint_recipient ≠ 0) := by
  rw [Accepts, check_route, pins]
  by_cases hchain : r.cctp_mint_chain = 0
  · rw [if_neg (not_not.mpr hchain), if_pos hchain, bind_ok]
    constructor
    · rintro ⟨_, hr, hdomain⟩
      exact ⟨(Except.ok.inj hdomain).symm, .inl ⟨hchain, require_ok.mp hr⟩⟩
    · rintro ⟨rfl, ⟨-, hr⟩ | ⟨hne, -⟩⟩
      · exact ⟨(), require_ok.mpr hr, rfl⟩
      · exact absurd hchain hne
  · rw [if_pos hchain, if_neg hchain, bind_ok]
    constructor
    · rintro ⟨_, hv, h⟩
      obtain ⟨_, hr, hdomain⟩ := bind_ok.mp h
      exact ⟨(Except.ok.inj hdomain).symm, .inr ⟨hchain, require_ok.mp hv, require_ok.mp hr⟩⟩
    · rintro ⟨rfl, ⟨hzero, -⟩ | ⟨-, hv, hr⟩⟩
      · exact absurd hzero hchain
      · exact ⟨(), require_ok.mpr hv, bind_ok.mpr ⟨(), require_ok.mpr hr, rfl⟩⟩

/-- The factory with one more receiver in a merchant's list. -/
def push (f : ReceiverFactory) (merchant receiver : ContractAddress) : ReceiverFactory :=
  { f with
    merchant_receivers := Function.update f.merchant_receivers merchant
      (f.merchant_receivers merchant ++ [receiver]) }

/-- What a successful registration found and did. -/
structure Registers (f : ReceiverFactory) (k : Deployer) (w : World) (r : Route)
    (f' : ReceiverFactory) (w' : World) : Prop where
  room : (f.merchant_receivers r.merchant).length < MAX_RECEIVERS_PER_MERCHANT
  accepts : f.Accepts r (f.pins r).destination_domain
  vacant : w.receivers (f.addressOf k r) = none
  merchant : r.merchant ≠ 0
  factory : f' = f.push r.merchant (f.addressOf k r)
  receivers : w'.receivers
    = Function.update w.receivers (f.addressOf k r) (some (f.pins r))

/-- The world with a blank receiver at `receiver`. -/
abbrev withBlank (w : World) (receiver : ContractAddress) : World :=
  { w with receivers := Function.update w.receivers receiver (some .blank) }

theorem initialize_blank {w w' : World} {receiver : ContractAddress} {f : ReceiverFactory}
    {r : Route}
    (h : initializeCall (withBlank w receiver) receiver f.token f.treasury f.token_messenger
      (f.pins r).destination_domain r.cctp_mint_recipient r.merchant = .ok w') :
    w'.receivers = Function.update w.receivers receiver (some (f.pins r)) := by
  obtain ⟨c, -, h⟩ := bind_ok.mp h
  obtain ⟨_, -, h⟩ := bind_ok.mp h
  obtain ⟨_, -, h⟩ := bind_ok.mp h
  obtain rfl := Except.ok.inj h
  exact Function.update_idem ..

theorem registers_of_ok {f f' : ReceiverFactory} {k : Deployer} {w w' : World} {r : Route}
    {receiver : ContractAddress}
    (h : f.register_merchant k w r.merchant r.cctp_mint_chain r.cctp_mint_recipient
      = .ok (f', w', receiver)) :
    receiver = f.addressOf k r ∧ f.Registers k w r f' w' := by
  obtain ⟨_, hmerchant, h⟩ := bind_ok.mp h
  obtain ⟨_, hroom, h⟩ := bind_ok.mp h
  obtain ⟨domain, hroute, h⟩ := bind_ok.mp h
  obtain ⟨⟨w₁, clone⟩, hdeploy, h⟩ := bind_ok.mp h
  obtain ⟨w₂, hinit, h⟩ := bind_ok.mp h
  obtain ⟨rfl, hrest⟩ := Prod.mk.inj (Except.ok.inj h)
  obtain ⟨rfl, rfl⟩ := Prod.mk.inj hrest
  obtain rfl : domain = (f.pins r).destination_domain := (accepts_iff.mp hroute).1
  unfold deploy_syscall at hdeploy
  dsimp only at hdeploy
  split_ifs at hdeploy with hvacant
  obtain ⟨rfl, rfl⟩ := Prod.mk.inj (Except.ok.inj hdeploy)
  have hreceivers := initialize_blank hinit
  exact ⟨rfl, require_ok.mp hroom, hroute, hvacant, require_ok.mp hmerchant, rfl, hreceivers⟩

/-- **When `register_merchant` succeeds**, on a factory whose constructor has run. -/
theorem register_merchant_succeeds_iff {f : ReceiverFactory} {k : Deployer} {w : World} {r : Route}
    (hf : f.Configured) :
    Succeeds (f.register_merchant k w r.merchant r.cctp_mint_chain r.cctp_mint_recipient) ↔
      r.merchant ≠ 0 ∧ (f.merchant_receivers r.merchant).length < MAX_RECEIVERS_PER_MERCHANT ∧
        f.Accepts r (f.pins r).destination_domain ∧ w.receivers (f.addressOf k r) = none := by
  constructor
  · rintro ⟨⟨f', w', receiver⟩, h⟩
    obtain ⟨-, hreg⟩ := registers_of_ok h
    exact ⟨hreg.merchant, hreg.room, hreg.accepts, hreg.vacant⟩
  · rintro ⟨hmerchant, hroom, hroute, hvacant⟩
    have hdeploy : f.deploy_syscall k w
        (route_salt k r.merchant r.cctp_mint_chain r.cctp_mint_recipient)
        = .ok (withBlank w (f.addressOf k r), f.addressOf k r) := if_pos hvacant
    have hinit : Succeeds (initializeCall (withBlank w (f.addressOf k r)) (f.addressOf k r)
        f.token f.treasury f.token_messenger (f.pins r).destination_domain r.cctp_mint_recipient
        r.merchant) := by
      refine succeeds_bind.mpr ⟨.blank, okOr_ok.mpr (Function.update_self ..), ?_⟩
      refine succeeds_require_bind.mpr ⟨rfl, ?_⟩
      exact succeeds_require_bind.mpr ⟨⟨hf.1, hf.2.1, hf.2.2, hmerchant⟩, succeeds_ok _⟩
    obtain ⟨w', hw'⟩ := hinit
    refine succeeds_require_bind.mpr ⟨hmerchant, ?_⟩
    refine succeeds_require_bind.mpr ⟨hroom, ?_⟩
    refine succeeds_bind.mpr ⟨_, hroute, ?_⟩
    refine succeeds_bind.mpr ⟨_, hdeploy, ?_⟩
    exact succeeds_bind.mpr ⟨w', hw', succeeds_ok _⟩

end ReceiverFactory

end Beanie.Starknet
