/-
# `Beanie.Keeper.AnnounceCompleteness` — the keeper's own announcements, in the indexer's eyes

The keeper builds a registration and announces it, the program emits the
event, and the indexer checks the one against the other.  Bytes and positions
agree throughout; the addresses do not: the keeper and the program derive the
configuration and the pending account from the full route, the indexer from
the receiver.  So the announcement is accepted exactly when the two seed lists
lead to the same addresses (`announce_enters_iff`).
-/
import Beanie.Keeper.SolanaAcceptance
import Beanie.Keeper.WireSdk
import Beanie.Solana.Layout

namespace Beanie.Keeper

open Beanie.Solana

/-! ## Fields at their offsets -/

theorem ofNat_beNat_bytesOf (k : BitVec 256) : BitVec.ofNat 256 (beNat (bytesOf k)) = k := by
  have hlt : k.toNat < 256 ^ 32 := by
    have h := k.isLt
    omega
  rw [bytesOf, beNat_beBytes, Nat.mod_eq_of_lt hlt, BitVec.ofNat_toNat, BitVec.setWidth_eq]

/-- Reading behind a prefix. -/
theorem readPubkey_append (pre rest : Bytes) (off : Nat) :
    readPubkey (pre ++ rest) (pre.length + off) = readPubkey rest off := by
  rw [readPubkey, readPubkey, List.length_append, List.drop_append, List.drop_eq_nil_of_le
    (Nat.le_add_right _ _), Nat.add_sub_cancel_left, List.nil_append]
  by_cases h : off + 32 ≤ rest.length
  · rw [if_pos h, if_pos (by omega)]
  · rw [if_neg h, if_neg (by omega)]

theorem readPubkey_zero (k : BitVec 256) (rest : Bytes) :
    readPubkey (bytesOf k ++ rest) 0 = .ok k := by
  have hle : 0 + 32 ≤ (bytesOf k ++ rest).length := by
    rw [List.length_append, length_bytesOf]
    omega
  rw [readPubkey, if_pos hle, List.drop_zero, List.take_left' (length_bytesOf k),
    ofNat_beNat_bytesOf]

/-- Consecutive keys, read one by one. -/
theorem readPubkey_flatMap {ks : List (BitVec 256)} {i : Nat} {k : BitVec 256}
    (h : ks[i]? = some k) : readPubkey (ks.flatMap bytesOf) (32 * i) = .ok k := by
  induction ks generalizing i with
  | nil => exact nomatch h
  | cons a as ih =>
      rw [List.flatMap_cons]
      cases i with
      | zero =>
          obtain rfl := Option.some.inj h
          exact readPubkey_zero a _
      | succ i =>
          have hoff : 32 * (i + 1) = (bytesOf a).length + 32 * i := by
            rw [length_bytesOf]
            omega
          rw [hoff, readPubkey_append]
          exact ih h

/-- Borsh of the program's `ReceiverAnnounced`: its eight fields in order. -/
def announcedBody : Event → Option Bytes
  | .receiverAnnounced merchant receiver receiver_token_account receiver_config
      cctp_burn_staging_account pending_registration cctp_mint_chain cctp_mint_recipient =>
      some ([merchant, receiver, receiver_token_account, receiver_config,
        cctp_burn_staging_account, pending_registration, cctp_mint_chain,
        cctp_mint_recipient].flatMap bytesOf)
  | _ => none

/-- The indexer reads back the fields the program wrote. -/
theorem decode_announcedBody (raw : RawReceiverAnnounced) {body : Bytes}
    (h : announcedBody (.receiverAnnounced raw.merchant raw.receiver raw.receiver_token_account
      raw.receiver_config raw.cctp_burn_staging_account raw.pending_registration
      raw.cctp_mint_chain raw.cctp_mint_recipient) = some body) :
    decodeMerchantAnnounced body = .ok raw := by
  obtain rfl := Option.some.inj h
  refine bind_ok.mpr ⟨(), require_of _ (length_flatMap_bytesOf _), ?_⟩
  refine bind_ok.mpr ⟨_, readPubkey_flatMap (i := 0) rfl, ?_⟩
  refine bind_ok.mpr ⟨_, readPubkey_flatMap (i := 1) rfl, ?_⟩
  refine bind_ok.mpr ⟨_, readPubkey_flatMap (i := 2) rfl, ?_⟩
  refine bind_ok.mpr ⟨_, readPubkey_flatMap (i := 3) rfl, ?_⟩
  refine bind_ok.mpr ⟨_, readPubkey_flatMap (i := 4) rfl, ?_⟩
  refine bind_ok.mpr ⟨_, readPubkey_flatMap (i := 5) rfl, ?_⟩
  refine bind_ok.mpr ⟨_, readPubkey_flatMap (i := 6) rfl, ?_⟩
  refine bind_ok.mpr ⟨_, readPubkey_flatMap (i := 7) rfl, ?_⟩
  rfl

/-! ## The transaction -/

section
variable {rt : Runtime} {sdk : Sdk}

theorem keyAt_of {tx : Transaction} {i : Nat} {k : Pubkey}
    (h : tx.message.account_keys[i]? = some k) : keyAt tx i = .ok k := by
  rw [keyAt, h, okOr_some]

/-- A compiled account list holds the instruction's keys, by position. -/
theorem accountAt_of {tx : Transaction} {c : CompiledInstruction} {metas : List AccountMeta}
    (h : List.Forall₂ (fun m i => tx.message.account_keys[i]? = some m.key) metas c.accounts)
    {idx : Nat} {m : AccountMeta} (hm : metas[idx]? = some m) :
    accountAt tx c idx = .ok m.key := by
  obtain ⟨hlen, hall⟩ := List.forall₂_iff_get.mp h
  obtain ⟨hlt, hget⟩ := List.getElem?_eq_some_iff.mp hm
  have hlt' : idx < c.accounts.length := hlen ▸ hlt
  have hkey := hall idx hlt hlt'
  rw [List.get_eq_getElem, List.get_eq_getElem, hget] at hkey
  rw [accountAt, List.getElem?_eq_getElem hlt', okOr_some, ok_bind]
  exact keyAt_of hkey

theorem checkAccount_of {tx : Transaction} {c : CompiledInstruction} {metas : List AccountMeta}
    (h : List.Forall₂ (fun m i => tx.message.account_keys[i]? = some m.key) metas c.accounts)
    {idx : Nat} {m : AccountMeta} (hm : metas[idx]? = some m) (message : String) :
    checkAccount tx c idx m.key message = .ok () := by
  rw [checkAccount, accountAt_of h hm, ok_bind]
  exact require_of _ rfl

/-- The three arguments behind the selector. -/
theorem registerArgs_read (hlen : (rt.anchorDiscriminator "register_merchant".toList).length = 8)
    (merchant : Pubkey) (chain recipient : Bytes32) :
    (encodeRegisterMerchantArgs rt merchant chain recipient).length = 104 ∧
      readPubkey (encodeRegisterMerchantArgs rt merchant chain recipient) 8 = .ok merchant ∧
      readPubkey (encodeRegisterMerchantArgs rt merchant chain recipient) 40 = .ok chain ∧
      readPubkey (encodeRegisterMerchantArgs rt merchant chain recipient) 72 = .ok recipient := by
  have hargs : encodeRegisterMerchantArgs rt merchant chain recipient
      = rt.anchorDiscriminator "register_merchant".toList
        ++ [merchant, chain, recipient].flatMap bytesOf := by
    simp [encodeRegisterMerchantArgs]
  have hread : ∀ i k, [merchant, chain, recipient][i]? = some k →
      readPubkey (encodeRegisterMerchantArgs rt merchant chain recipient) (8 + 32 * i) = .ok k := by
    intro i k hk
    rw [hargs, ← hlen, readPubkey_append]
    exact readPubkey_flatMap hk
  refine ⟨?_, hread 0 _ rfl, hread 1 _ rfl, hread 2 _ rfl⟩
  rw [hargs, List.length_append, hlen, length_flatMap_bytesOf]
  rfl

/-- The announcement of a registration, as the program emits it. -/
def announcement (rt : Runtime) (program_id mint merchant receiver : Pubkey)
    (chain recipient : Bytes32) : RawReceiverAnnounced where
  merchant := merchant
  receiver := receiver
  receiver_token_account := rt.ata receiver mint
  receiver_config := deriveReceiverConfig rt program_id merchant receiver chain recipient
  cctp_burn_staging_account :=
    rt.ata (deriveReceiverConfig rt program_id merchant receiver chain recipient) mint
  pending_registration :=
    derivePendingRegistration rt program_id merchant receiver chain recipient
  cctp_mint_chain := chain
  cctp_mint_recipient := recipient

section
variable {keeper receiver program_id merchant mint nonce : Pubkey} {chain recipient hash : Bytes32}
  {tx : Transaction}

/-- The search passes the nonce instruction and stops at the registration. -/
theorem findRegister_registration
    (hlen : (rt.anchorDiscriminator "register_merchant".toList).length = 8)
    (h : sdk.Builds
      (registrationIxs rt keeper receiver program_id merchant chain recipient mint nonce) tx) :
    ∃ c, findRegister rt program_id tx tx.message.instructions = .ok c ∧
      c.data = encodeRegisterMerchantArgs rt merchant chain recipient ∧
      List.Forall₂ (fun m i => tx.message.account_keys[i]? = some m.key)
        (registerIx rt keeper receiver program_id merchant chain recipient mint).accounts
        c.accounts := by
  have hcompiles := h.compiles
  generalize tx.message.instructions = cs at hcompiles
  cases hcompiles with
  | cons hnonce hrest =>
      cases hrest with
      | @cons _ c _ _ hregister hnil =>
          cases hnil
          obtain ⟨hkey, hdata, -⟩ := hnonce
          obtain ⟨hkey', hdata', haccounts'⟩ := hregister
          refine ⟨c, ?_, hdata', haccounts'⟩
          have hselects : c.data.take 8 = rt.anchorDiscriminator "register_merchant".toList := by
            rw [hdata']
            exact List.take_left' hlen
          have hlong : 8 ≤ c.data.length := by
            rw [hdata']
            have htotal := (registerArgs_read hlen merchant chain recipient).1
            change (encodeRegisterMerchantArgs rt merchant chain recipient).length = 104 at htotal
            show 8 ≤ (encodeRegisterMerchantArgs rt merchant chain recipient).length
            omega
          rw [findRegister, keyAt_of hkey, ok_bind, if_neg ?_, findRegister, keyAt_of hkey',
            ok_bind, if_pos ⟨rfl, hlong, hselects⟩]
          rintro ⟨-, hle, -⟩
          rw [hdata] at hle
          change 8 ≤ (leBytes 4 4).length at hle
          rw [length_leBytes] at hle
          exact absurd hle (by decide)

/-- Every check of the instruction passes. -/
theorem checkInstruction_registration
    (hlen : (rt.anchorDiscriminator "register_merchant".toList).length = 8)
    {c : CompiledInstruction} (hdata : c.data = encodeRegisterMerchantArgs rt merchant chain recipient)
    (haccounts : List.Forall₂ (fun m i => tx.message.account_keys[i]? = some m.key)
      (registerIx rt keeper receiver program_id merchant chain recipient mint).accounts c.accounts) :
    checkInstruction (announcement rt program_id mint merchant receiver chain recipient) tx c
      = .ok () := by
  obtain ⟨htotal, hm, hc, hr⟩ := registerArgs_read hlen merchant chain recipient
  rw [← hdata] at htotal hm hc hr
  refine bind_ok.mpr ⟨(), require_of _ htotal, ?_⟩
  refine bind_ok.mpr ⟨merchant, hm, ?_⟩
  refine bind_ok.mpr ⟨chain, hc, ?_⟩
  refine bind_ok.mpr ⟨recipient, hr, ?_⟩
  refine bind_ok.mpr ⟨(), require_of _ rfl, ?_⟩
  refine bind_ok.mpr ⟨(), require_of _ (by simp [announcement]), ?_⟩
  refine bind_ok.mpr ⟨(), @checkAccount_of _ _ _ haccounts 1 _ rfl _, ?_⟩
  refine bind_ok.mpr ⟨(), @checkAccount_of _ _ _ haccounts 3 _ rfl _, ?_⟩
  refine bind_ok.mpr ⟨(), @checkAccount_of _ _ _ haccounts 5 _ rfl _, ?_⟩
  refine bind_ok.mpr ⟨(), @checkAccount_of _ _ _ haccounts 6 _ rfl _, ?_⟩
  exact @checkAccount_of _ _ _ haccounts 8 _ rfl _

/-- The two seed lists lead to the same addresses. -/
def SeedsAgree (rt : Runtime) (program_id merchant receiver : Pubkey) (chain recipient : Bytes32) :
    Prop :=
  expectConfig rt program_id receiver
      = deriveReceiverConfig rt program_id merchant receiver chain recipient ∧
    expectPending rt program_id receiver
      = derivePendingRegistration rt program_id merchant receiver chain recipient

theorem checkDerivations_iff :
    checkDerivations rt (announcement rt program_id mint merchant receiver chain recipient)
        program_id mint = .ok ()
      ↔ SeedsAgree rt program_id merchant receiver chain recipient := by
  constructor
  · intro h
    obtain ⟨_, hconfig, h⟩ := bind_ok.mp h
    obtain ⟨_, hpending, h⟩ := bind_ok.mp h
    exact ⟨require_ok.mp hconfig, require_ok.mp hpending⟩
  · rintro ⟨hconfig, hpending⟩
    refine bind_ok.mpr ⟨(), require_of _ hconfig, ?_⟩
    refine bind_ok.mpr ⟨(), require_of _ hpending, ?_⟩
    refine bind_ok.mpr ⟨(), require_of _ rfl, ?_⟩
    exact require_of _ (congrArg (rt.ata · mint) hconfig)

/-- **The check of the keeper's own announcement.** -/
theorem validateAnnounce_iff
    (hlen : (rt.anchorDiscriminator "register_merchant".toList).length = 8)
    (h : sdk.Builds
      (registrationIxs rt keeper receiver program_id merchant chain recipient mint nonce) tx) :
    validateAnnounce rt sdk (announcement rt program_id mint merchant receiver chain recipient)
        (sdk.serialize tx) program_id mint = .ok ()
      ↔ SeedsAgree rt program_id merchant receiver chain recipient := by
  rw [← @checkDerivations_iff rt receiver program_id merchant mint]
  constructor
  · intro hok
    obtain ⟨_, hcheck, -⟩ := bind_ok.mp hok
    exact hcheck
  · intro hcheck
    obtain ⟨c, hfind, hdata, haccounts⟩ := findRegister_registration hlen h
    refine bind_ok.mpr ⟨(), hcheck, ?_⟩
    refine bind_ok.mpr ⟨tx, okOr_ok.mpr h.roundTrip, ?_⟩
    refine bind_ok.mpr ⟨c, hfind, ?_⟩
    exact checkInstruction_registration hlen hdata haccounts

end

/-! ## From the program to the map -/

/-- The program's event with these fields. -/
def RawReceiverAnnounced.event (raw : RawReceiverAnnounced) : Event :=
  .receiverAnnounced raw.merchant raw.receiver raw.receiver_token_account raw.receiver_config
    raw.cctp_burn_staging_account raw.pending_registration raw.cctp_mint_chain
    raw.cctp_mint_recipient

/-- An announcement that succeeds emits one event, whose addresses are derived from the full
route, and stores the registration under the pending one. -/
theorem announceMerchant_emits {b b' : Bank} {metas : List AccountMeta} {args : AnnounceArgs}
    {f : FactoryConfig} {k : Pubkey} {bump : UInt8}
    (hacc : announceAccounts rt b metas args = .ok (f, k, bump))
    (h : announceMerchant rt b metas args = .ok b') :
    k = derivePendingRegistration rt rt.programId args.merchant args.receiver
        args.cctp_mint_chain args.cctp_mint_recipient →
      b'.events = b.events ++ [(announcement rt rt.programId f.mint args.merchant args.receiver
        args.cctp_mint_chain args.cctp_mint_recipient).event] ∧
      b'.accounts k = .pending ⟨bump, args.reg_tx⟩ := by
  intro hk
  rw [announceMerchant, hacc, ok_bind] at h
  obtain ⟨_, -, h⟩ := bind_ok.mp h
  obtain ⟨_, -, h⟩ := bind_ok.mp h
  obtain ⟨_, -, h⟩ := bind_ok.mp h
  obtain rfl := Except.ok.inj h
  subst hk
  exact ⟨rfl, Bank.set_self ..⟩

/-- The event of an announcement gets its receiver into the map: the indexer accepts it together
with the pinned transaction, and puts the record into every map that does not hold the receiver
as registered. -/
structure Enters (rt : Runtime) (sdk : Sdk) (program_id mint merchant receiver : Pubkey)
    (chain recipient : Bytes32) (body reg_tx : Bytes) : Prop where
  accepted : ∃ raw, decodeMerchantAnnounced body = .ok raw ∧
    validateAnnounce rt sdk raw reg_tx program_id mint = .ok ()
  entered : ∀ slot map, ¬ (map receiver).any (fun r => r.status = .registered) →
    ∃ r : IndexedReceiver, r.merchant = merchant ∧ r.receiver = receiver ∧
      r.route = some ⟨chain, recipient⟩ ∧ r.status = .announced ∧ r.reg_tx = some reg_tx ∧
      attachOne rt sdk program_id mint map ⟨.receiverAnnounced, body, slot⟩ (some reg_tx)
        = .ok (Function.update map receiver (some r))

theorem enters_iff {program_id mint merchant receiver : Pubkey} {chain recipient : Bytes32}
    {body reg_tx : Bytes}
    (hbody : announcedBody (announcement rt program_id mint merchant receiver chain
      recipient).event = some body) :
    Enters rt sdk program_id mint merchant receiver chain recipient body reg_tx ↔
      validateAnnounce rt sdk (announcement rt program_id mint merchant receiver chain recipient)
        reg_tx program_id mint = .ok () := by
  have hdecode := decode_announcedBody _ hbody
  constructor
  · intro h
    obtain ⟨raw, hraw, hok⟩ := h.accepted
    obtain rfl := Except.ok.inj (hdecode.symm.trans hraw)
    exact hok
  · intro hok
    refine ⟨⟨_, hdecode, hok⟩, ?_⟩
    intro slot map hmap
    refine ⟨(announcement rt program_id mint merchant receiver chain recipient).record reg_tx,
      rfl, rfl, rfl, rfl, rfl, ?_⟩
    exact attachOne_of_accepted rfl hdecode hmap hok

section
variable {b : Bank} {cfg : SolanaConfig} {factory : FactoryConfig} {merchant receiver : Pubkey}
  {chain recipient : Bytes32}

/-- What the program does with the keeper's announcement. -/
theorem announce_emits (h : Deployed rt b cfg factory) {reg_tx : Bytes}
    (ha : AnnounceReady rt b factory ⟨merchant, chain, recipient, receiver, reg_tx⟩) :
    ∃ b' bump,
      process rt b (announceIx rt cfg.keeper_wallet cfg.program_id merchant chain recipient receiver
        reg_tx) = .ok b' ∧
      b'.events = b.events ++
        [(announcement rt cfg.program_id cfg.mint merchant receiver chain recipient).event] ∧
      b'.accounts (derivePendingRegistration rt cfg.program_id merchant receiver chain recipient)
        = .pending ⟨bump, reg_tx⟩ := by
  obtain ⟨b', hrun⟩ := announce_accepted h ha
  have hread := readArgs_of_reads (h.selector_length "announce_merchant" (by simp))
    (reads_announceArgs _ (lt_of_le_of_lt ha.size (by decide)))
  have hprocess := hrun
  rw [announceIx, encodeAnnounceMerchantArgs, process_announce h, hread, ok_bind] at hprocess
  obtain ⟨hevents, hpending⟩ := announceMerchant_emits (announce_accounts h ha) hprocess
    (by rw [h.program_id])
  rw [← h.mint, ← h.program_id] at hevents
  exact ⟨b', _, hrun, hevents, hpending⟩

/-- Which announcements enter the map. -/
theorem enters_iff_seedsAgree (h : Deployed rt b cfg factory) {nonce : Pubkey} {hash : Bytes32}
    (hbuilds : sdk.Builds
      (registrationIxs rt cfg.keeper_wallet receiver cfg.program_id merchant chain recipient
        cfg.mint nonce)
      (registrationTx rt sdk cfg.keeper_wallet receiver cfg.program_id merchant chain recipient
        cfg.mint nonce hash))
    {body : Bytes}
    (hbody : announcedBody (announcement rt cfg.program_id cfg.mint merchant receiver chain
      recipient).event = some body) :
    Enters rt sdk cfg.program_id cfg.mint merchant receiver chain recipient body
        (prepareRegistration rt sdk cfg.keeper_wallet receiver cfg.program_id merchant chain
          recipient cfg.mint nonce hash)
      ↔ SeedsAgree rt cfg.program_id merchant receiver chain recipient :=
  (enters_iff hbody).trans
    (validateAnnounce_iff (h.selector_length "register_merchant" (by simp)) hbuilds)

/-- **What becomes of the keeper's announcement.**  The program accepts it, emits one event and
pins the prepared transaction; the receiver enters the indexer's map with its route exactly when
the indexer's seed lists lead where the keeper's and the program's do. -/
theorem announce_enters_iff (h : Deployed rt b cfg factory) {nonce : Pubkey} {hash : Bytes32}
    (hbuilds : sdk.Builds
      (registrationIxs rt cfg.keeper_wallet receiver cfg.program_id merchant chain recipient
        cfg.mint nonce)
      (registrationTx rt sdk cfg.keeper_wallet receiver cfg.program_id merchant chain recipient
        cfg.mint nonce hash))
    (ha : AnnounceReady rt b factory ⟨merchant, chain, recipient, receiver,
      prepareRegistration rt sdk cfg.keeper_wallet receiver cfg.program_id merchant chain recipient
        cfg.mint nonce hash⟩) :
    ∃ b' ev body bump,
      process rt b (announceIx rt cfg.keeper_wallet cfg.program_id merchant chain recipient receiver
        (prepareRegistration rt sdk cfg.keeper_wallet receiver cfg.program_id merchant chain
          recipient cfg.mint nonce hash)) = .ok b' ∧
      b'.events = b.events ++ [ev] ∧ announcedBody ev = some body ∧
      b'.accounts (derivePendingRegistration rt cfg.program_id merchant receiver chain recipient)
        = .pending ⟨bump, prepareRegistration rt sdk cfg.keeper_wallet receiver cfg.program_id
          merchant chain recipient cfg.mint nonce hash⟩ ∧
      (Enters rt sdk cfg.program_id cfg.mint merchant receiver chain recipient body
          (prepareRegistration rt sdk cfg.keeper_wallet receiver cfg.program_id merchant chain
            recipient cfg.mint nonce hash)
        ↔ SeedsAgree rt cfg.program_id merchant receiver chain recipient) := by
  obtain ⟨b', bump, hrun, hevents, hpending⟩ := announce_emits h ha
  exact ⟨b', _, _, bump, hrun, hevents, rfl, hpending, enters_iff_seedsAgree h hbuilds rfl⟩

end

end

/-! ## Two announcements on the sample bank -/

namespace AnnounceSample

/-- The sample bank before anything is announced. -/
def bank : Bank := Sample.bank.set Sample.pending .empty

/-- A merchant whose key does not start with zeros.  A sample address spells the front of its
seeds, so a merchant and a receiver of small keys are not told apart by it. -/
def merchant : Pubkey := BitVec.ofNat 256 (2 ^ 250)

def nonce : Pubkey := 30

def ixs (m : Pubkey) : List Instruction :=
  registrationIxs ledgerRuntime Sample.caller Sample.receiver 100 m 0 0 Sample.mint nonce

def tx (m : Pubkey) : Transaction :=
  registrationTx ledgerRuntime wireSdk Sample.caller Sample.receiver 100 m 0 0 Sample.mint nonce 77

theorem deployed : Deployed ledgerRuntime bank sampleConfig sampleFactory :=
  deployed_sample (by decide +kernel) (by decide +kernel) (by decide +kernel)

set_option maxRecDepth 20000 in
theorem builds {m : Pubkey} (h : m = Sample.merchant ∨ m = merchant) :
    wireSdk.Builds (ixs m) (tx m) := by
  rcases h with rfl | rfl
  all_goals
    refine wireSdk_builds ⟨by decide +kernel, ?_⟩ (by decide +kernel)
    exact ⟨by decide +kernel, by decide +kernel, by decide +kernel, by decide +kernel,
      by decide +kernel⟩

set_option maxRecDepth 20000 in
theorem ready {m : Pubkey} (h : m = Sample.merchant ∨ m = merchant) :
    AnnounceReady ledgerRuntime bank sampleFactory
      ⟨m, 0, 0, Sample.receiver, wireSdk.serialize (tx m)⟩ := by
  rcases h with rfl | rfl
  all_goals
    exact ⟨⟨_, rfl⟩, by decide +kernel, by decide +kernel, by decide +kernel⟩

end AnnounceSample

set_option maxRecDepth 20000 in
/-- Keys that the sample addresses do not tell apart: the receiver enters. -/
theorem announce_enters_sample : ∃ b' ev body,
    process ledgerRuntime AnnounceSample.bank (announceIx ledgerRuntime Sample.caller 100
      Sample.merchant 0 0 Sample.receiver (wireSdk.serialize (AnnounceSample.tx Sample.merchant)))
      = .ok b' ∧ b'.events = [ev] ∧ announcedBody ev = some body ∧
    Enters ledgerRuntime wireSdk 100 Sample.mint Sample.merchant Sample.receiver 0 0 body
      (wireSdk.serialize (AnnounceSample.tx Sample.merchant)) := by
  obtain ⟨b', ev, body, _, hrun, hevents, hbody, -, hiff⟩ :=
    announce_enters_iff AnnounceSample.deployed (AnnounceSample.builds (.inl rfl))
      (AnnounceSample.ready (.inl rfl))
  have hagree : SeedsAgree ledgerRuntime 100 Sample.merchant Sample.receiver 0 0 :=
    ⟨by decide +kernel, by decide +kernel⟩
  exact ⟨b', ev, body, hrun, hevents, hbody, hiff.mpr hagree⟩

set_option maxRecDepth 20000 in
/-- The program accepts this announcement of the keeper, and the indexer rejects it. -/
theorem announce_rejected : ∃ b' ev body,
    process ledgerRuntime AnnounceSample.bank (announceIx ledgerRuntime Sample.caller 100
      AnnounceSample.merchant 0 0 Sample.receiver
      (wireSdk.serialize (AnnounceSample.tx AnnounceSample.merchant))) = .ok b' ∧
    b'.events = [ev] ∧ announcedBody ev = some body ∧
    ¬ Enters ledgerRuntime wireSdk 100 Sample.mint AnnounceSample.merchant Sample.receiver 0 0 body
      (wireSdk.serialize (AnnounceSample.tx AnnounceSample.merchant)) := by
  obtain ⟨b', _, hrun, hevents, -⟩ :=
    announce_emits AnnounceSample.deployed (AnnounceSample.ready (.inr rfl))
  refine ⟨b', _, _, hrun, hevents, rfl, ?_⟩
  intro h
  have hagree := (enters_iff_seedsAgree AnnounceSample.deployed (AnnounceSample.builds (.inr rfl))
    rfl).mp h
  have hne : expectConfig ledgerRuntime 100 Sample.receiver
      ≠ deriveReceiverConfig ledgerRuntime 100 AnnounceSample.merchant Sample.receiver 0 0 := by
    decide +kernel
  exact hne hagree.1

end Beanie.Keeper
