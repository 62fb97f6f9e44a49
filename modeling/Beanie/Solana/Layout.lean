/-
# `Beanie.Solana.Layout` — what the program's accounts and events look like as bytes

Anchor's layout of the structs the clients read: eight bytes of discriminator,
then the fields in the order of their declaration, integers in little-endian
order, a vector behind its length.  An account has the space its `init`
allocates; what the fields do not fill stays zero.
-/
import Beanie.Solana.Program

namespace Beanie.Solana

/-! ## Accounts -/

/-- `sha256("account:" ++ name)[..8]` -/
def Runtime.accountDiscriminator (rt : Runtime) (name : List Char) : Bytes :=
  (rt.hash (asciiBytes ("account:".toList ++ name))).take 8

/-- `init` allocates zeros, and the discriminator and the fields are written over them. -/
def allocated (space : Nat) (bs : Bytes) : Bytes := bs ++ List.replicate (space - bs.length) 0

def FactoryConfig.INIT_SPACE : Nat := 32 + 32 + 4 + 4 + 4 + 4 + 4 + 1

def FactoryConfig.serialize (c : FactoryConfig) : Bytes :=
  bytesOf c.mint ++ (bytesOf c.treasury_token_account ++ (leBytes 4 c.starknet_domain.toNat
    ++ (leBytes 4 c.base_domain.toNat ++ (leBytes 4 c.ethereum_domain.toNat
      ++ (leBytes 4 c.monad_domain.toNat ++ (leBytes 4 c.arbitrum_domain.toNat ++ [c.bump]))))))

def FactoryConfig.data (rt : Runtime) (c : FactoryConfig) : Bytes :=
  allocated (8 + INIT_SPACE) (rt.accountDiscriminator "FactoryConfig".toList ++ c.serialize)

def ReceiverConfig.INIT_SPACE : Nat := 32 + 32 + 32 + 32 + 32 + 32 + 4 + 1

def ReceiverConfig.serialize (c : ReceiverConfig) : Bytes :=
  bytesOf c.receiver ++ (bytesOf c.merchant ++ (bytesOf c.mint ++ (bytesOf c.merchant_token_account
    ++ (bytesOf c.cctp_mint_chain ++ (bytesOf c.cctp_mint_recipient
      ++ (leBytes 4 c.cctp_domain_id.toNat ++ [c.bump]))))))

def ReceiverConfig.data (rt : Runtime) (c : ReceiverConfig) : Bytes :=
  allocated (8 + INIT_SPACE) (rt.accountDiscriminator "ReceiverConfig".toList ++ c.serialize)

/-- The bump and the length of the vector. -/
def PENDING_FIXED_LEN : Nat := 1 + 4

def PendingRegistration.serialize (p : PendingRegistration) : Bytes :=
  p.bump :: (leBytes 4 p.reg_tx.length ++ p.reg_tx)

/-- The space is made for the transaction that is stored. -/
def PendingRegistration.data (rt : Runtime) (p : PendingRegistration) : Bytes :=
  allocated (8 + PENDING_FIXED_LEN + p.reg_tx.length)
    (rt.accountDiscriminator "PendingRegistration".toList ++ p.serialize)

section
variable {rt : Runtime}

theorem length_accountDiscriminator (hhash : ∀ bs, (rt.hash bs).length = 32) (name : List Char) :
    (rt.accountDiscriminator name).length = 8 := by
  rw [Runtime.accountDiscriminator, List.length_take, hhash]
  rfl

theorem length_anchorDiscriminator (hhash : ∀ bs, (rt.hash bs).length = 32) (name : List Char) :
    (rt.anchorDiscriminator name).length = 8 := by
  rw [Runtime.anchorDiscriminator, List.length_take, hhash]
  rfl

/-- The pending account has no room to spare: what follows its thirteen bytes is the transaction. -/
theorem PendingRegistration.data_eq (hhash : ∀ bs, (rt.hash bs).length = 32)
    (p : PendingRegistration) : ∃ head : Bytes, head.length = 13 ∧ p.data rt = head ++ p.reg_tx := by
  have hlength := length_accountDiscriminator hhash "PendingRegistration".toList
  refine ⟨rt.accountDiscriminator "PendingRegistration".toList
    ++ (p.bump :: leBytes 4 p.reg_tx.length), ?_, ?_⟩
  · rw [List.length_append, hlength, List.length_cons, length_leBytes]
  · have hfull : 8 + PENDING_FIXED_LEN + p.reg_tx.length
        - (rt.accountDiscriminator "PendingRegistration".toList ++ p.serialize).length = 0 := by
      rw [serialize, List.length_append, hlength, List.length_cons, List.length_append,
        length_leBytes, PENDING_FIXED_LEN]
      omega
    rw [data, allocated, hfull, List.replicate_zero, List.append_nil, serialize]
    simp only [List.append_assoc, List.cons_append]

end

/-! ## Words -/

theorem length_flatMap_bytesOf (ks : List (BitVec 256)) :
    (ks.flatMap bytesOf).length = 32 * ks.length := by
  induction ks with
  | nil => rfl
  | cons a as ih =>
      rw [List.flatMap_cons, List.length_append, length_bytesOf, ih, List.length_cons]
      omega

/-- A word at its offset. -/
theorem take_drop_flatMap_bytesOf (ks : List (BitVec 256)) (i : Nat) (hi : i < ks.length) :
    ((ks.flatMap bytesOf).drop (32 * i)).take 32 = bytesOf ks[i] := by
  induction ks generalizing i with
  | nil => exact absurd hi (Nat.not_lt_zero i)
  | cons k ks ih =>
      rw [List.flatMap_cons]
      cases i with
      | zero => exact List.take_left' (length_bytesOf k)
      | succ i =>
          have hoffset : 32 * (i + 1) = (bytesOf k).length + 32 * i := by
            rw [length_bytesOf]
            omega
          rw [hoffset, List.drop_append, List.drop_eq_nil_of_le (Nat.le_add_right _ _),
            Nat.add_sub_cancel_left, List.nil_append]
          exact ih i (Nat.lt_of_succ_lt_succ hi)

/-! ## Events -/

/-- The fields of an event behind its discriminator. -/
def Event.body : Event → Bytes
  | .factoryInitialized mint treasury starknet base ethereum monad arbitrum =>
      [mint, treasury].flatMap bytesOf
        ++ [starknet, base, ethereum, monad, arbitrum].flatMap fun n => leBytes 4 n.toNat
  | .receiverAnnounced merchant receiver receiver_token_account receiver_config
      cctp_burn_staging_account pending_registration cctp_mint_chain cctp_mint_recipient =>
      [merchant, receiver, receiver_token_account, receiver_config, cctp_burn_staging_account,
        pending_registration, cctp_mint_chain, cctp_mint_recipient].flatMap bytesOf
  | .receiverRegistered merchant receiver receiver_config receiver_token_account cctp_mint_chain
      cctp_mint_recipient =>
      [merchant, receiver, receiver_config, receiver_token_account, cctp_mint_chain,
        cctp_mint_recipient].flatMap bytesOf
  | .swept receiver_config receiver gross net fee fee_to_caller fee_to_treasury slot =>
      [receiver_config, receiver].flatMap bytesOf
        ++ [gross, net, fee, fee_to_caller, fee_to_treasury, slot].flatMap (leBytes 8)
  | .sweptCrossChain receiver_config receiver gross net fee fee_to_caller fee_to_treasury
      destination_domain max_fee =>
      [receiver_config, receiver].flatMap bytesOf
        ++ [gross, net, fee, fee_to_caller, fee_to_treasury].flatMap (leBytes 8)
        ++ leBytes 4 destination_domain.toNat ++ leBytes 8 max_fee

def Event.name : Event → List Char
  | .factoryInitialized .. => "FactoryInitialized".toList
  | .receiverAnnounced .. => "ReceiverAnnounced".toList
  | .receiverRegistered .. => "ReceiverRegistered".toList
  | .swept .. => "Swept".toList
  | .sweptCrossChain .. => "SweptCrossChain".toList

/-- `sha256("event:" ++ name)[..8]` -/
def Runtime.eventDiscriminator (rt : Runtime) (name : List Char) : Bytes :=
  (rt.hash (asciiBytes ("event:".toList ++ name))).take 8

/-- What `emit!` logs. -/
def Event.data (rt : Runtime) (e : Event) : Bytes := rt.eventDiscriminator e.name ++ e.body

end Beanie.Solana
