/-
# `Beanie.Api.SolanaCodecs` — the keeper and the program read each other's bytes

The keeper encodes the arguments of two instructions, and reads two events and
three kinds of accounts at offsets it spells out.  Each is compared with the
layout that follows from the program's declarations (`codecs_agree`).  One
decoder has no place for all of what it reads: a registered receiver's route
is left out (`registered_route_lost`).
-/
import Beanie.Api.PaymentSurvival
import Beanie.Keeper.AnnounceCompleteness

namespace Beanie.Api

open Beanie.Solana (Pubkey Bytes32 Runtime FactoryConfig ReceiverConfig PendingRegistration
  AnnounceArgs RegisterArgs Event Bank AccountMeta bytesOf readArgs announceMerchant process
  length_bytesOf length_accountDiscriminator length_anchorDiscriminator)
open Beanie.Keeper (Fault RawReceiverAnnounced RawReceiverRegistered decodeMerchantAnnounced
  decodeMerchantRegistered encodeRegisterMerchantArgs encodeAnnounceMerchantArgs)

/-! ## Reading accounts -/

/-- `treasury_token_account` of the factory's account. -/
def fetchTreasuryTokenAccount (get_account : Pubkey → Option Bytes) (factory_config : Pubkey) :
    Except Fault Pubkey := do
  let data ← okOr (get_account factory_config)
    (.bailed "factory_config account not found on-chain")
  let b ← okOr (slice data (8 + 32) 32)
    (.bailed "factory_config account too short to contain treasury_token_account")
  .ok (BitVec.ofNat 256 (beNat b))

/-- The stored registration, without the thirteen bytes before it. -/
def boxFetchRegTx (get_account : Pubkey → Option Bytes) (pending_pda : Pubkey) :
    Except Fault Bytes := do
  let data ← okOr (get_account pending_pda) (.bailed "failed fetching pending_registration account")
  require (13 < data.length) (.bailed "pending_registration account too short")
  .ok (data.drop 13)

/-- A field behind what comes before it. -/
theorem slice_append (before field rest : Bytes) {offset n : Nat} (hoffset : before.length = offset)
    (hn : field.length = n) : slice (before ++ (field ++ rest)) offset n = some field := by
  subst hoffset hn
  rw [slice, if_pos, List.drop_left, List.take_left]
  rw [List.length_append, List.length_append]
  omega

section
variable {rt : Runtime} (hhash : ∀ bs, (rt.hash bs).length = 32)
include hhash

/-- The route is the fifth and the sixth field, the domain the seventh. -/
theorem receiverConfig_slices (c : ReceiverConfig) :
    slice (c.data rt) (8 + 32 * 4) 64
        = some (bytesOf c.cctp_mint_chain ++ bytesOf c.cctp_mint_recipient) ∧
      slice (c.data rt) (8 + 32 * 6) 4 = some (leBytes 4 c.cctp_domain_id.toNat) := by
  have hlength := length_accountDiscriminator hhash "ReceiverConfig".toList
  rw [ReceiverConfig.data, Solana.allocated, ReceiverConfig.serialize]
  generalize List.replicate _ _ = spare
  constructor
  · have hdata : slice _ (8 + 32 * 4) 64 = some _ := slice_append
      (rt.accountDiscriminator "ReceiverConfig".toList ++ (bytesOf c.receiver
        ++ (bytesOf c.merchant ++ (bytesOf c.mint ++ bytesOf c.merchant_token_account))))
      (bytesOf c.cctp_mint_chain ++ bytesOf c.cctp_mint_recipient)
      (leBytes 4 c.cctp_domain_id.toNat ++ (c.bump :: spare))
      (by simp only [List.length_append, hlength, length_bytesOf])
      (by simp only [List.length_append, length_bytesOf])
    simpa only [List.append_assoc, List.cons_append, List.nil_append] using hdata
  · have hdata : slice _ (8 + 32 * 6) 4 = some _ := slice_append
      (rt.accountDiscriminator "ReceiverConfig".toList ++ (bytesOf c.receiver
        ++ (bytesOf c.merchant ++ (bytesOf c.mint ++ (bytesOf c.merchant_token_account
          ++ (bytesOf c.cctp_mint_chain ++ bytesOf c.cctp_mint_recipient))))))
      (leBytes 4 c.cctp_domain_id.toNat) (c.bump :: spare)
      (by simp only [List.length_append, hlength, length_bytesOf]) (length_leBytes 4 _)
    simpa only [List.append_assoc, List.cons_append, List.nil_append] using hdata

theorem fetchReceiverRoute_eq {w : Worker} {key : Pubkey} {c : ReceiverConfig}
    (h : w.net.get_account key = some (c.data rt)) :
    fetchReceiverRoute w key
      = pure (some ⟨bytesOf c.cctp_mint_chain, bytesOf c.cctp_mint_recipient⟩) := by
  have hslice := (receiverConfig_slices hhash c).1
  rw [fetchReceiverRoute, h, Option.bind_some, hslice]
  dsimp only
  rw [List.take_left' (length_bytesOf _), List.drop_left' (length_bytesOf _), toArray, toArray,
    if_pos (length_bytesOf _), if_pos (length_bytesOf _)]
  rfl

theorem fetchCctpDomainId_eq {w : Worker} {key : Pubkey} {c : ReceiverConfig}
    (h : w.net.get_account key = some (c.data rt)) :
    fetchCctpDomainId w key = pure (some c.cctp_domain_id) := by
  have hslice := (receiverConfig_slices hhash c).2
  have hvalue : BitVec.ofNat 32 (leNat (leBytes 4 c.cctp_domain_id.toNat)) = c.cctp_domain_id := by
    rw [leNat_leBytes, Nat.mod_eq_of_lt (by have := c.cctp_domain_id.isLt; omega),
      BitVec.ofNat_toNat, BitVec.setWidth_eq]
  rw [fetchCctpDomainId, h, Option.bind_some, hslice]
  dsimp only
  rw [toArray, if_pos (length_leBytes 4 _)]
  show pure (some (BitVec.ofNat 32 (leNat (leBytes 4 c.cctp_domain_id.toNat)))) = _
  rw [hvalue]

theorem fetchTreasuryTokenAccount_eq {get_account : Pubkey → Option Bytes} {key : Pubkey}
    {c : FactoryConfig} (h : get_account key = some (c.data rt)) :
    fetchTreasuryTokenAccount get_account key = .ok c.treasury_token_account := by
  have hlength := length_accountDiscriminator hhash "FactoryConfig".toList
  have hslice : slice (c.data rt) (8 + 32) 32 = some (bytesOf c.treasury_token_account) := by
    rw [FactoryConfig.data, Solana.allocated, FactoryConfig.serialize]
    generalize List.replicate _ _ = spare
    have hdata : slice _ (8 + 32) 32 = some _ := slice_append
      (rt.accountDiscriminator "FactoryConfig".toList ++ bytesOf c.mint)
      (bytesOf c.treasury_token_account)
      (leBytes 4 c.starknet_domain.toNat ++ (leBytes 4 c.base_domain.toNat
        ++ (leBytes 4 c.ethereum_domain.toNat ++ (leBytes 4 c.monad_domain.toNat
          ++ (leBytes 4 c.arbitrum_domain.toNat ++ (c.bump :: spare))))))
      (by simp only [List.length_append, hlength, length_bytesOf]) (length_bytesOf _)
    simpa only [List.append_assoc, List.cons_append, List.nil_append] using hdata
  rw [fetchTreasuryTokenAccount, h, okOr_some, ok_bind, hslice, okOr_some, ok_bind,
    Keeper.ofNat_beNat_bytesOf]

theorem boxFetchRegTx_eq {get_account : Pubkey → Option Bytes} {key : Pubkey}
    {p : PendingRegistration} (h : get_account key = some (p.data rt)) (hne : p.reg_tx ≠ []) :
    boxFetchRegTx get_account key = .ok p.reg_tx := by
  obtain ⟨head, hhead, hdata⟩ := p.data_eq hhash
  have hpos := List.length_pos_of_ne_nil hne
  rw [boxFetchRegTx, h, okOr_some, ok_bind, hdata, require_bind_of, List.drop_left' hhead]
  rw [List.length_append]
  omega

end

/-! ## Arguments and events -/

/-- The program's event with these fields; the decoder keeps no route. -/
def registeredEvent (raw : RawReceiverRegistered) (chain recipient : Bytes32) : Event :=
  .receiverRegistered raw.merchant raw.receiver raw.receiver_config raw.receiver_token_account
    chain recipient

theorem decodeMerchantRegistered_body (raw : RawReceiverRegistered) (chain recipient : Bytes32) :
    decodeMerchantRegistered (registeredEvent raw chain recipient).body = .ok raw := by
  have hlength : 128 ≤ (registeredEvent raw chain recipient).body.length := by
    show 128 ≤ (List.flatMap bytesOf [_, _, _, _, _, _]).length
    rw [Solana.length_flatMap_bytesOf]
    exact show 128 ≤ 32 * 6 by decide
  refine bind_ok.mpr ⟨(), require_of _ hlength, ?_⟩
  refine bind_ok.mpr ⟨_, Keeper.readPubkey_flatMap (i := 0) rfl, ?_⟩
  refine bind_ok.mpr ⟨_, Keeper.readPubkey_flatMap (i := 1) rfl, ?_⟩
  refine bind_ok.mpr ⟨_, Keeper.readPubkey_flatMap (i := 2) rfl, ?_⟩
  refine bind_ok.mpr ⟨_, Keeper.readPubkey_flatMap (i := 3) rfl, ?_⟩
  rfl

/-- Anchor's selectors of the program's four instructions. -/
def selectors (rt : Runtime) : List Bytes :=
  [rt.anchorDiscriminator "initialize_factory".toList,
    rt.anchorDiscriminator "announce_merchant".toList,
    rt.anchorDiscriminator "register_merchant".toList,
    rt.anchorDiscriminator "sweep".toList]

section
variable {rt : Runtime} (hhash : ∀ bs, (rt.hash bs).length = 32)
include hhash

/-- What follows the arguments is not read. -/
theorem readArgs_append {α : Type} {r : Reader UInt8 α} {w : Bytes} {a : α} (h : Reads r w a)
    (name : List Char) (rest : Bytes) :
    readArgs r (rt.anchorDiscriminator name ++ (w ++ rest)) = .ok a := by
  rw [readArgs, List.drop_left' (length_anchorDiscriminator hhash name), h rest]
  rfl

theorem process_encodeRegister (hselectors : (selectors rt).Nodup) (a : RegisterArgs) (b : Bank)
    (program_id : Pubkey) (metas : List AccountMeta) :
    process rt b ⟨program_id, metas, encodeRegisterMerchantArgs rt a.merchant a.cctp_mint_chain
      a.cctp_mint_recipient⟩ = Solana.registerMerchant rt b metas a := by
  have hlength := length_anchorDiscriminator hhash "register_merchant".toList
  have hread := Keeper.readArgs_of_reads hlength (Keeper.reads_registerArgs a)
  simp only [selectors, List.nodup_cons, List.mem_cons, List.not_mem_nil, or_false, not_or]
    at hselectors
  obtain ⟨⟨-, hir, -⟩, ⟨har, -⟩, -⟩ := hselectors
  rw [process, encodeRegisterMerchantArgs]
  dsimp only
  rw [(Keeper.take_selector hlength).1, if_neg (Ne.symm hir), if_neg (Ne.symm har), if_pos rfl,
    hread, ok_bind]

theorem process_encodeAnnounce (hselectors : (selectors rt).Nodup) (a : AnnounceArgs)
    (hfits : a.reg_tx.length < 2 ^ 32) (b : Bank) (program_id : Pubkey) (metas : List AccountMeta) :
    process rt b ⟨program_id, metas, encodeAnnounceMerchantArgs rt a.merchant a.cctp_mint_chain
      a.cctp_mint_recipient a.receiver a.reg_tx⟩ = announceMerchant rt b metas a := by
  have hlength := length_anchorDiscriminator hhash "announce_merchant".toList
  have hread := Keeper.readArgs_of_reads hlength (Keeper.reads_announceArgs a hfits)
  simp only [selectors, List.nodup_cons, List.mem_cons, List.not_mem_nil, or_false, not_or]
    at hselectors
  obtain ⟨⟨hia, -, -⟩, -⟩ := hselectors
  rw [process, encodeAnnounceMerchantArgs]
  dsimp only
  rw [(Keeper.take_selector hlength).1, if_neg (Ne.symm hia), if_pos rfl, hread, ok_bind]

/-- A transaction of 2³² bytes is announced with a length of zero. -/
theorem readArgs_overlong {reg_tx : Bytes} (hlong : reg_tx.length = 2 ^ 32)
    (merchant receiver : Pubkey) (chain recipient : Bytes32) :
    readArgs AnnounceArgs.read
        (encodeAnnounceMerchantArgs rt merchant chain recipient receiver reg_tx)
      = .ok ⟨merchant, chain, recipient, receiver, []⟩ := by
  have hread := readArgs_append hhash
    (Keeper.reads_announceArgs ⟨merchant, chain, recipient, receiver, []⟩
      (show 0 < 2 ^ 32 by decide))
    "announce_merchant".toList reg_tx
  have hzero : leBytes 4 reg_tx.length = leBytes 4 ([] : Bytes).length := by
    rw [hlong]
    decide
  rw [encodeAnnounceMerchantArgs, hzero]
  simpa only [List.append_assoc, List.append_nil, List.nil_append] using hread

/-- The pending account of an accepted announcement holds its transaction, at the address the event
names. -/
theorem announced_regTx {b b' : Bank} {metas : List AccountMeta} {a : AnnounceArgs}
    (h : announceMerchant rt b metas a = .ok b') {get_account : Pubkey → Option Bytes}
    (hserved : ∀ key p, b'.accounts key = .pending p → get_account key = some (p.data rt)) :
    ∃ raw : RawReceiverAnnounced, b'.events = b.events ++ [raw.event] ∧
      boxFetchRegTx get_account raw.pending_registration = .ok a.reg_tx := by
  obtain ⟨⟨f, key, bump⟩, -, h⟩ := bind_ok.mp h
  obtain ⟨_, hne, h⟩ := bind_ok.mp h
  obtain ⟨_, -, h⟩ := bind_ok.mp h
  obtain ⟨_, -, h⟩ := bind_ok.mp h
  obtain rfl := Except.ok.inj h
  have hstored := hserved key ⟨bump, a.reg_tx⟩ (Bank.set_self ..)
  exact ⟨⟨_, _, _, _, _, key, _, _⟩, rfl, boxFetchRegTx_eq hhash hstored (require_ok.mp hne)⟩

end

/-! ## A runtime with the program's hashes -/

namespace CodecSample

/-- SHA-256 of the accounts' names. -/
def accountTable : List (Bytes × Bytes) :=
  [(asciiBytes "account:FactoryConfig".toList,
    beBytes 32 0x1dc5ffe81680431a5aa04896bef1227bf52cfb178b69fd5aa5b3f3186fdb5603),
   (asciiBytes "account:ReceiverConfig".toList,
    beBytes 32 0xbead6c1443a2b61e6b0c345777ccc857d02cda5a3e5fe2d6f63f7703995d691c),
   (asciiBytes "account:PendingRegistration".toList,
    beBytes 32 0x3ddabdc9b46103c90ea8d2101f8636287dec50b71d071f822714ca8ba4c33dc8)]

def runtime : Runtime :=
  { Solana.ledgerRuntime with
    hash := fun bs => ((Solana.sha256Table ++ accountTable).lookup bs).getD (List.replicate 32 0) }

theorem length_hash (bs : Bytes) : (runtime.hash bs).length = 32 := by
  show (((Solana.sha256Table ++ accountTable).lookup bs).getD (List.replicate 32 0)).length = 32
  cases h : (Solana.sha256Table ++ accountTable).lookup bs with
  | none => exact List.length_replicate
  | some v =>
      obtain ⟨before, after, hsplit, -⟩ := List.lookup_eq_some_iff.mp h
      have hall : ∀ e ∈ Solana.sha256Table ++ accountTable, e.2.length = 32 := by decide +kernel
      exact hall (bs, v) (hsplit ▸ List.mem_append_right _ List.mem_cons_self)

theorem selectors_nodup : (selectors runtime).Nodup := by
  decide +kernel

def announceMetas : List AccountMeta :=
  [.new 11 true, .newReadonly Solana.Sample.factory false, .new Solana.Sample.pending false,
    .newReadonly 102 false]

set_option maxRecDepth 20000 in
theorem announced : ∃ b', announceMerchant runtime Keeper.AnnounceSample.bank announceMetas
    ⟨13, 0, 0, 12, [1]⟩ = .ok b' := ⟨_, rfl⟩

/-- What a node answers about the pending accounts of a bank. -/
def serve (b : Bank) (key : Pubkey) : Option Bytes :=
  match b.accounts key with
  | .pending p => some (p.data runtime)
  | _ => none

def config : ReceiverConfig := ⟨12, 13, 10, 14, 7, 8, 6, 255⟩

def worker : Worker :=
  { Sample.worker with
    net := { Sample.network with get_account := fun _ => some (config.data runtime) } }

end CodecSample

/-- A registered receiver's route cannot be told from its decoded event, and a transaction as long
as the length prefix can count is announced as an empty one. -/
theorem registered_route_lost :
    (¬ ∃ chainOf : RawReceiverRegistered → Bytes32, ∀ merchant receiver config token chain recipient
      raw, decodeMerchantRegistered (Event.receiverRegistered merchant receiver config token chain
        recipient).body = .ok raw → chainOf raw = chain) ∧
    readArgs AnnounceArgs.read (encodeAnnounceMerchantArgs CodecSample.runtime 1 2 3 4
      (List.replicate (2 ^ 32) 0)) = .ok ⟨1, 2, 3, 4, []⟩ := by
  refine ⟨?_, readArgs_overlong CodecSample.length_hash List.length_replicate 1 4 2 3⟩
  rintro ⟨chainOf, h⟩
  have hdecode := decodeMerchantRegistered_body ⟨0, 0, 0, 0⟩
  have hzero := h 0 0 0 0 0 0 _ (hdecode 0 0)
  rw [h 0 0 0 0 1 0 _ (hdecode 1 0)] at hzero
  exact absurd hzero (by decide)

/-- **The codecs agree.**  With Anchor's layout, whose discriminators are eight bytes of a SHA-256:
the program runs the instruction that the keeper encoded, with the same arguments; the indexer
reads an announcement's eight fields and a registration's first four; the route, the domain and
the treasury's account are the fields of these names of every configuration; and what is fetched
for an announcement is the transaction it stored, whatever its length. -/
theorem codecs_agree {rt : Runtime} (hhash : ∀ bs, (rt.hash bs).length = 32)
    (hselectors : (selectors rt).Nodup) :
    (∀ (a : RegisterArgs) b program_id metas,
      process rt b ⟨program_id, metas, encodeRegisterMerchantArgs rt a.merchant a.cctp_mint_chain
        a.cctp_mint_recipient⟩ = Solana.registerMerchant rt b metas a) ∧
    (∀ a : AnnounceArgs, a.reg_tx.length < 2 ^ 32 → ∀ b program_id metas,
      process rt b ⟨program_id, metas, encodeAnnounceMerchantArgs rt a.merchant a.cctp_mint_chain
        a.cctp_mint_recipient a.receiver a.reg_tx⟩ = announceMerchant rt b metas a) ∧
    (∀ raw : RawReceiverAnnounced, decodeMerchantAnnounced raw.event.body = .ok raw) ∧
    (∀ raw chain recipient,
      decodeMerchantRegistered (registeredEvent raw chain recipient).body = .ok raw) ∧
    (∀ (w : Worker) key (c : ReceiverConfig), w.net.get_account key = some (c.data rt) →
      fetchReceiverRoute w key
          = pure (some ⟨bytesOf c.cctp_mint_chain, bytesOf c.cctp_mint_recipient⟩) ∧
        fetchCctpDomainId w key = pure (some c.cctp_domain_id)) ∧
    (∀ get_account key (c : FactoryConfig), get_account key = some (c.data rt) →
      fetchTreasuryTokenAccount get_account key = .ok c.treasury_token_account) ∧
    ∀ b b' metas a get_account, announceMerchant rt b metas a = .ok b' →
      (∀ key p, b'.accounts key = .pending p → get_account key = some (p.data rt)) →
        ∃ raw : RawReceiverAnnounced, b'.events = b.events ++ [raw.event] ∧
          boxFetchRegTx get_account raw.pending_registration = .ok a.reg_tx := by
  refine ⟨?_, ?_, ?_, ?_, ?_, ?_, ?_⟩
  · exact process_encodeRegister hhash hselectors
  · exact process_encodeAnnounce hhash hselectors
  · exact fun raw => Keeper.decode_announcedBody raw rfl
  · exact decodeMerchantRegistered_body
  · exact fun w key c h => ⟨fetchReceiverRoute_eq hhash h, fetchCctpDomainId_eq hhash h⟩
  · exact fun get_account key c h => fetchTreasuryTokenAccount_eq hhash h
  · exact fun b b' metas a get_account h hserved => announced_regTx hhash h hserved

open CodecSample in
/-- A registration, an announcement of one byte, and a cross-chain route to domain six. -/
theorem codecs_agree_sample :
    (∀ b metas, process runtime b ⟨100, metas, encodeRegisterMerchantArgs runtime 13 7 8⟩
      = Solana.registerMerchant runtime b metas ⟨13, 7, 8⟩) ∧
    (∀ b metas, process runtime b ⟨100, metas, encodeAnnounceMerchantArgs runtime 13 0 0 12 [1]⟩
      = announceMerchant runtime b metas ⟨13, 0, 0, 12, [1]⟩) ∧
    fetchReceiverRoute worker 5 = pure (some ⟨bytesOf 7, bytesOf 8⟩) ∧
    fetchCctpDomainId worker 5 = pure (some 6) ∧
    fetchTreasuryTokenAccount
      (fun _ => some (FactoryConfig.data runtime ⟨10, 14, 25, 6, 0, 15, 3, 255⟩)) 9 = .ok 14 ∧
    ∃ b' : Bank, ∃ raw : RawReceiverAnnounced, b'.events = [raw.event] ∧
      boxFetchRegTx (serve b') raw.pending_registration = .ok [1] := by
  obtain ⟨hregister, hannounce, -, -, hroute, htreasury, hpending⟩ :=
    codecs_agree length_hash selectors_nodup
  refine ⟨fun b => hregister ⟨13, 7, 8⟩ b 100,
    fun b => hannounce ⟨13, 0, 0, 12, [1]⟩ (show 1 < 2 ^ 32 by decide) b 100,
    (hroute worker 5 config rfl).1, (hroute worker 5 config rfl).2,
    htreasury _ 9 ⟨10, 14, 25, 6, 0, 15, 3, 255⟩ rfl, ?_⟩
  obtain ⟨b', hb'⟩ := announced
  obtain ⟨raw, hevents, hfetch⟩ := hpending _ b' _ _ (serve b') hb' fun key p hp => by
    rw [serve, hp]
  exact ⟨b', raw, hevents, hfetch⟩

end Beanie.Api
