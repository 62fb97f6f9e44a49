/-
# `Beanie.Browser.SolanaAnnounced` — finding a receiver in an announcement

The program addresses of `solana.js`, and `receiverFromAnnouncedEvent`, which
does not trust the order of an event's fields: every word is tried as the
receiver, and taken if the two accounts derived from it are words of the event
too.  Four of the eight words are chosen by whoever announces.  As long as
these are not themselves derived accounts, the decoder answers for the event's
own merchant and route and for no other (`announced_decoded`).
-/
import Beanie.Browser.SolanaMessage
import Beanie.Solana.InstructionSpec
import Beanie.Solana.Layout

namespace Beanie.Browser

open Beanie.Solana (Pubkey Bytes32 Runtime Event Bank AccountMeta AnnounceArgs FactoryConfig
  Registration bytesOf announceMerchant announceAccounts routeSeeds length_bytesOf)
open Beanie.Api (keyText keyText_inj)

/-! ## Program addresses -/

def ED25519_P : Nat := 2 ^ 255 - 19

def modPowLoop : Nat → Nat → Nat → Nat → Nat
  | 0, result, _, _ => result
  | fuel + 1, result, b, e =>
      if e = 0 then result
      else modPowLoop fuel (if e % 2 = 1 then result * b % ED25519_P else result)
        (b * b % ED25519_P) (e / 2)

/-- The exponents have less than 256 bits. -/
def modPow (base exp : Nat) : Nat := modPowLoop 256 1 (base % ED25519_P) exp

/-- `mod(-121665n * modPow(121666n, P - 2n))` -/
def ED25519_D : Nat := (ED25519_P - 121665) * modPow 121666 (ED25519_P - 2) % ED25519_P

/-- Do the octets decompress to a point?  Only the kernel is to evaluate it. -/
@[irreducible] def isOnCurve (bytes : Bytes) : Bool :=
  let y := leNat bytes % 2 ^ 255 % ED25519_P
  let y2 := y * y % ED25519_P
  let u := (y2 + ED25519_P - 1) % ED25519_P
  let v := (ED25519_D * y2 + 1) % ED25519_P
  let x2 := u * modPow v (ED25519_P - 2) % ED25519_P
  if x2 = 0 then true else modPow x2 ((ED25519_P - 1) / 2) = 1

section
variable (sha256 : Bytes → Bytes)

def bumpHash (seeds : List Bytes) (program : Bytes) (bump : Nat) : Bytes :=
  sha256 (seeds.flatten ++ UInt8.ofNat bump :: (program ++ utf8 "ProgramDerivedAddress".toList))

/-- The bumps from this one down to zero. -/
def findBump (seeds : List Bytes) (program : Bytes) : Nat → Option (Bytes × Nat)
  | 0 =>
      let hash := bumpHash sha256 seeds program 0
      if isOnCurve hash then none else some (hash, 0)
  | bump + 1 =>
      let hash := bumpHash sha256 seeds program (bump + 1)
      if isOnCurve hash then findBump seeds program bump else some (hash, bump + 1)

/-- It throws if no bump is viable. -/
def findProgramAddress (seeds : List Bytes) (program : Bytes) : Option (Bytes × Nat) :=
  findBump sha256 seeds program 255

/-! ## Announcements -/

def hexToBytes (hex : Text) : Option Bytes := hexDecode (dropHexPrefix hex)

/-- `chains.js`: `program` of Solana. -/
structure SolanaProgram where
  id : Text
  config : Text
  pending : Text

def SOLANA_PROGRAM : SolanaProgram where
  id := "BsiBBPjkAiLJgQDNmjfajHeJjpFMzJqCNz2FtzZa2Hpg".toList
  config := "config".toList
  pending := "pending".toList

structure ReceiverPdas where
  config : Text
  pending : Text

def receiverPdas (program : SolanaProgram) (merchant receiver chain32 recipient32 : Text) :
    Option ReceiverPdas := do
  let m ← pubkeyBytes merchant
  let r ← pubkeyBytes receiver
  let chain ← hexToBytes chain32
  let recipient ← hexToBytes recipient32
  let id ← pubkeyBytes program.id
  let config ← findProgramAddress sha256 [utf8 program.config, m, r, chain, recipient] id
  let pending ← findProgramAddress sha256 [utf8 program.pending, m, r, chain, recipient] id
  some ⟨base58Encode config.1, base58Encode pending.1⟩

/-- The words behind the discriminator. -/
def slotsOf (data : Bytes) : List Text :=
  (List.range ((data.length - 8) / 32)).map fun i => base58Encode ((data.drop (8 + 32 * i)).take 32)

/-- Both accounts of the candidate are in the event.  A derivation that throws is skipped. -/
def acceptsCandidate (program : SolanaProgram) (merchant chain32 recipient32 : Text)
    (slots : List Text) (candidate : Text) : Bool :=
  match receiverPdas sha256 program merchant candidate chain32 recipient32 with
  | none => false
  | some pdas => pdas.config ∈ slots ∧ pdas.pending ∈ slots

/-- It throws (`none`) on a merchant or a route that cannot be read. -/
def receiverFromAnnouncedEvent (data : Bytes) (program : SolanaProgram)
    (merchant chain32 recipient32 : Text) : Option (Option Text) :=
  let announcedDiscriminator := (sha256 (utf8 "event:ReceiverAnnounced".toList)).take 8
  if data.length < 8 + 32 * 6 ∨ (data.length - 8) % 32 ≠ 0 then some none
  else if data.take 8 ≠ announcedDiscriminator then some none
  else
    let slots := slotsOf data
    match pubkeyBytes merchant with
    | none => none
    | some m =>
        if base58Encode m ∉ slots then some none
        else match hexToBytes chain32 with
          | none => none
          | some chain =>
              if base58Encode chain ∉ slots then some none
              else match hexToBytes recipient32 with
                | none => none
                | some recipient =>
                    if base58Encode recipient ∉ slots then some none
                    else some (slots.eraseDups.find?
                      (acceptsCandidate sha256 program merchant chain32 recipient32 slots))

end

/-! ## Derivations -/

/-- Seeds, and the program they are for. -/
abbrev Derivation := List Bytes × Pubkey

section
variable (rt : Runtime)

def Derivation.address (d : Derivation) : Pubkey := (rt.findProgramAddress d.1 d.2).1

def configOf (r : Registration) : Derivation :=
  (routeSeeds Solana.CONFIG_SEED r.merchant r.receiver r.cctp_mint_chain r.cctp_mint_recipient,
    rt.programId)

def pendingOf (r : Registration) : Derivation :=
  (routeSeeds Solana.PENDING_SEED r.merchant r.receiver r.cctp_mint_chain r.cctp_mint_recipient,
    rt.programId)

def ataOf (owner mint : Pubkey) : Derivation :=
  ([bytesOf owner, bytesOf rt.tokenProgram, bytesOf mint], rt.ataProgram)

variable (mint : Pubkey)

/-- The eight words of an announcement. -/
def wordsOf (r : Registration) : List Pubkey :=
  [r.merchant, r.receiver, (ataOf rt r.receiver mint).address rt, (configOf rt r).address rt,
    (ataOf rt ((configOf rt r).address rt) mint).address rt, (pendingOf rt r).address rt,
    r.cctp_mint_chain, r.cctp_mint_recipient]

/-- Those that whoever announces can choose. -/
def chosenWords (r : Registration) : List Pubkey :=
  [r.merchant, r.receiver, r.cctp_mint_chain, r.cctp_mint_recipient]

def derivedWords (r : Registration) : List Derivation :=
  [ataOf rt r.receiver mint, configOf rt r, ataOf rt ((configOf rt r).address rt) mint,
    pendingOf rt r]

def announcedEvent (r : Registration) : Event :=
  .receiverAnnounced r.merchant r.receiver (rt.ata r.receiver mint) ((configOf rt r).address rt)
    (rt.ata ((configOf rt r).address rt) mint) ((pendingOf rt r).address rt) r.cctp_mint_chain
    r.cctp_mint_recipient

end

/-- A merchant and a route that the decoder is asked for. -/
structure Asked where
  merchant : Pubkey
  chain : Bytes32
  recipient : Bytes32
deriving DecidableEq

/-- The asked route with a receiver. -/
def Asked.receiving (q : Asked) (receiver : Pubkey) : Registration :=
  ⟨q.merchant, receiver, q.chain, q.recipient⟩

def askedOf (r : Registration) : Asked := ⟨r.merchant, r.cctp_mint_chain, r.cctp_mint_recipient⟩

/-- The texts that are passed for it. -/
structure Asked.Spelled (q : Asked) (merchant chain32 recipient32 : Text) : Prop where
  merchant : pubkeyBytes merchant = some (bytesOf q.merchant)
  chain : hexToBytes chain32 = some (bytesOf q.chain)
  recipient : hexToBytes recipient32 = some (bytesOf q.recipient)

/-- All that is derived for an announcement, and by the decoder for what it is asked. -/
def derivations (rt : Runtime) (mint : Pubkey) (r : Registration) (q : Asked) : List Derivation :=
  derivedWords rt mint r
    ++ (wordsOf rt mint r).flatMap fun k => [configOf rt (q.receiving k), pendingOf rt (q.receiving k)]

/-- The browser derives what the program does, and no two of these derivations collide. -/
structure Derives (sha256 : Bytes → Bytes) (rt : Runtime) (ds : List Derivation) : Prop where
  agree : ∀ d ∈ ds, (findProgramAddress sha256 d.1 (bytesOf d.2)).map Prod.fst
    = some (bytesOf (d.address rt))
  injective : ∀ d ∈ ds, ∀ e ∈ ds, d.address rt = e.address rt → d = e

section
variable {rt : Runtime} {mint : Pubkey} {r : Registration} {q : Asked} {sha256 : Bytes → Bytes}

theorem bytesOf_inj {k l : Pubkey} (h : bytesOf k = bytesOf l) : k = l :=
  keyText_inj (congrArg base58Encode h)

theorem routeSeeds_inj {kind kind' : Bytes} {r r' : Registration}
    (h : routeSeeds kind r.merchant r.receiver r.cctp_mint_chain r.cctp_mint_recipient
      = routeSeeds kind' r'.merchant r'.receiver r'.cctp_mint_chain r'.cctp_mint_recipient) :
    kind = kind' ∧ r = r' := by
  injection h with hkind h
  injection h with hmerchant h
  injection h with hreceiver h
  injection h with hchain h
  injection h with hrecipient _
  obtain ⟨m, k, c, t⟩ := r
  obtain ⟨m', k', c', t'⟩ := r'
  refine ⟨hkind, ?_⟩
  rw [Registration.mk.injEq]
  exact ⟨bytesOf_inj hmerchant, bytesOf_inj hreceiver, bytesOf_inj hchain, bytesOf_inj hrecipient⟩

theorem configOf_inj {r r' : Registration} (h : configOf rt r = configOf rt r') : r = r' :=
  (routeSeeds_inj (Prod.mk.inj h).1).2

theorem pendingOf_inj {r r' : Registration} (h : pendingOf rt r = pendingOf rt r') : r = r' :=
  (routeSeeds_inj (Prod.mk.inj h).1).2

theorem configOf_ne_pendingOf {r r' : Registration} : configOf rt r ≠ pendingOf rt r' := by
  intro h
  exact absurd (routeSeeds_inj (Prod.mk.inj h).1).1 (by decide)

theorem configOf_ne_ataOf {r : Registration} {owner mint : Pubkey} :
    configOf rt r ≠ ataOf rt owner mint := by
  intro h
  have hlength := congrArg List.length (Prod.mk.inj h).1
  cases hlength

theorem pendingOf_ne_ataOf {r : Registration} {owner mint : Pubkey} :
    pendingOf rt r ≠ ataOf rt owner mint := by
  intro h
  have hlength := congrArg List.length (Prod.mk.inj h).1
  cases hlength

theorem mem_derivations {k : Pubkey} (hk : k ∈ wordsOf rt mint r) :
    configOf rt (q.receiving k) ∈ derivations rt mint r q ∧
      pendingOf rt (q.receiving k) ∈ derivations rt mint r q :=
  ⟨List.mem_append_right _ (List.mem_flatMap.mpr ⟨k, hk, List.mem_cons_self⟩),
    List.mem_append_right _ (List.mem_flatMap.mpr ⟨k, hk,
      List.mem_cons_of_mem _ List.mem_cons_self⟩)⟩

/-- A word is chosen or derived. -/
theorem mem_wordsOf {k : Pubkey} (hk : k ∈ wordsOf rt mint r) :
    k ∈ chosenWords r ∨ ∃ d ∈ derivedWords rt mint r, k = d.address rt := by
  simp only [wordsOf, List.mem_cons, List.not_mem_nil, or_false] at hk
  rcases hk with rfl | rfl | rfl | rfl | rfl | rfl | rfl | rfl
  · exact .inl (by simp [chosenWords])
  · exact .inl (by simp [chosenWords])
  · exact .inr ⟨_, by simp [derivedWords], rfl⟩
  · exact .inr ⟨_, by simp [derivedWords], rfl⟩
  · exact .inr ⟨_, by simp [derivedWords], rfl⟩
  · exact .inr ⟨_, by simp [derivedWords], rfl⟩
  · exact .inl (by simp [chosenWords])
  · exact .inl (by simp [chosenWords])

/-- A configuration that the decoder derives is a chosen word, or the event's own. -/
theorem Derives.config_word (h : Derives sha256 rt (derivations rt mint r q)) {k : Pubkey}
    (hk : k ∈ wordsOf rt mint r) (hword : (configOf rt (q.receiving k)).address rt ∈ wordsOf rt mint r) :
    (configOf rt (q.receiving k)).address rt ∈ chosenWords r ∨ q.receiving k = r := by
  rcases mem_wordsOf hword with hchosen | ⟨d, hd, heq⟩
  · exact .inl hchosen
  · right
    have hsame := h.injective _ (mem_derivations hk).1 d (List.mem_append_left _ hd) heq
    simp only [derivedWords, List.mem_cons, List.not_mem_nil, or_false] at hd
    rcases hd with rfl | rfl | rfl | rfl
    · exact absurd hsame configOf_ne_ataOf
    · exact configOf_inj hsame
    · exact absurd hsame configOf_ne_ataOf
    · exact absurd hsame configOf_ne_pendingOf

theorem Derives.pending_word (h : Derives sha256 rt (derivations rt mint r q)) {k : Pubkey}
    (hk : k ∈ wordsOf rt mint r) (hword : (pendingOf rt (q.receiving k)).address rt ∈ wordsOf rt mint r) :
    (pendingOf rt (q.receiving k)).address rt ∈ chosenWords r ∨ q.receiving k = r := by
  rcases mem_wordsOf hword with hchosen | ⟨d, hd, heq⟩
  · exact .inl hchosen
  · right
    have hsame := h.injective _ (mem_derivations hk).2 d (List.mem_append_left _ hd) heq
    simp only [derivedWords, List.mem_cons, List.not_mem_nil, or_false] at hd
    rcases hd with rfl | rfl | rfl | rfl
    · exact absurd hsame pendingOf_ne_ataOf
    · exact absurd hsame (Ne.symm configOf_ne_pendingOf)
    · exact absurd hsame pendingOf_ne_ataOf
    · exact pendingOf_inj hsame

/-! ## The decoder -/

theorem slotsOf_words {d : Bytes} (hd : d.length = 8) (ks : List Pubkey) :
    slotsOf (d ++ ks.flatMap bytesOf) = ks.map keyText := by
  have hcount : (d ++ ks.flatMap bytesOf).length - 8 = 32 * ks.length := by
    rw [List.length_append, hd, Solana.length_flatMap_bytesOf]
    omega
  rw [slotsOf, hcount, Nat.mul_div_cancel_left _ (by decide)]
  refine List.ext_getElem (by simp) ?_
  intro i h₁ h₂
  rw [List.length_map] at h₂
  rw [List.getElem_map, List.getElem_map, List.getElem_range, List.drop_append,
    List.drop_eq_nil_of_le (by omega), List.nil_append, hd, Nat.add_sub_cancel_left,
    Solana.take_drop_flatMap_bytesOf ks i h₂]
  rfl

theorem mem_slots {k : Pubkey} {ks : List Pubkey} : keyText k ∈ ks.map keyText ↔ k ∈ ks := by
  constructor
  · intro h
    obtain ⟨l, hl, heq⟩ := List.mem_map.mp h
    exact keyText_inj heq ▸ hl
  · exact fun h => List.mem_map_of_mem h

theorem utf8_config : utf8 SOLANA_PROGRAM.config = Solana.CONFIG_SEED := by decide

theorem utf8_pending : utf8 SOLANA_PROGRAM.pending = Solana.PENDING_SEED := by decide

theorem receiverPdas_eq (hid : SOLANA_PROGRAM.id = keyText rt.programId)
    {merchant chain32 recipient32 : Text} (hq : q.Spelled merchant chain32 recipient32)
    (h : Derives sha256 rt (derivations rt mint r q)) {k : Pubkey} (hk : k ∈ wordsOf rt mint r) :
    receiverPdas sha256 SOLANA_PROGRAM merchant (keyText k) chain32 recipient32
      = some ⟨keyText ((configOf rt (q.receiving k)).address rt),
          keyText ((pendingOf rt (q.receiving k)).address rt)⟩ := by
  obtain ⟨hconfig, hpending⟩ := mem_derivations (q := q) hk
  obtain ⟨e, hconfig, haddress⟩ := Option.map_eq_some_iff.mp (h.agree _ hconfig)
  obtain ⟨e', hpending, haddress'⟩ := Option.map_eq_some_iff.mp (h.agree _ hpending)
  simp only [configOf, routeSeeds, Asked.receiving] at hconfig
  simp only [pendingOf, routeSeeds, Asked.receiving] at hpending
  rw [receiverPdas, hq.merchant, pubkeyBytes_keyText, hq.chain, hq.recipient, hid,
    pubkeyBytes_keyText, utf8_config, utf8_pending]
  rw [Option.bind_eq_bind, Option.bind_some, Option.bind_some, Option.bind_some, Option.bind_some,
    Option.bind_some, hconfig, Option.bind_eq_bind, Option.bind_some, hpending,
    Option.bind_some, haddress, haddress']
  rfl

/-- A word is taken for the receiver if it is the event's own, asked for its own route.  What is
asked for must not make two chosen words the accounts of a third. -/
theorem acceptsCandidate_iff (hid : SOLANA_PROGRAM.id = keyText rt.programId)
    {merchant chain32 recipient32 : Text} (hq : q.Spelled merchant chain32 recipient32)
    (h : Derives sha256 rt (derivations rt mint r q))
    (hchosen : ∀ k ∈ wordsOf rt mint r, q.receiving k ≠ r →
      ¬ ((configOf rt (q.receiving k)).address rt ∈ chosenWords r ∧
        (pendingOf rt (q.receiving k)).address rt ∈ chosenWords r))
    {k : Pubkey} (hk : k ∈ wordsOf rt mint r) :
    acceptsCandidate sha256 SOLANA_PROGRAM merchant chain32 recipient32
      ((wordsOf rt mint r).map keyText) (keyText k) = true ↔ q.receiving k = r := by
  rw [acceptsCandidate, receiverPdas_eq hid hq h hk]
  simp only [decide_eq_true_eq, mem_slots]
  constructor
  · rintro ⟨hconfig, hpending⟩
    by_contra hother
    have hconfig := (h.config_word hk hconfig).resolve_right hother
    have hpending := (h.pending_word hk hpending).resolve_right hother
    exact hchosen k hk hother ⟨hconfig, hpending⟩
  · intro hown
    rw [hown]
    simp [wordsOf]

/-- The decoder over the words of an announcement. -/
theorem receiverFromAnnouncedEvent_words {d : Bytes} (hd : d.length = 8)
    (hdisc : (sha256 (utf8 "event:ReceiverAnnounced".toList)).take 8 = d)
    {merchant chain32 recipient32 : Text} (hq : q.Spelled merchant chain32 recipient32)
    {ks : List Pubkey} (hks : ks.length = 8) :
    receiverFromAnnouncedEvent sha256 (d ++ ks.flatMap bytesOf) SOLANA_PROGRAM merchant chain32
        recipient32
      = some (if q.merchant ∈ ks ∧ q.chain ∈ ks ∧ q.recipient ∈ ks then
          (ks.map keyText).eraseDups.find?
            (acceptsCandidate sha256 SOLANA_PROGRAM merchant chain32 recipient32 (ks.map keyText))
        else none) := by
  have hlength : (d ++ ks.flatMap bytesOf).length = 8 + 32 * 8 := by
    rw [List.length_append, hd, Solana.length_flatMap_bytesOf, hks]
  have hshape : ¬ ((d ++ ks.flatMap bytesOf).length < 8 + 32 * 6 ∨
      ((d ++ ks.flatMap bytesOf).length - 8) % 32 ≠ 0) := by
    rw [hlength]
    decide
  have hin : ∀ k : BitVec 256, (base58Encode (bytesOf k) ∉ ks.map keyText) ↔ k ∉ ks :=
    fun k => not_congr mem_slots
  rw [receiverFromAnnouncedEvent]
  dsimp only
  rw [if_neg hshape, hdisc, List.take_left' hd, if_neg (not_not_intro rfl), slotsOf_words hd,
    hq.merchant, hq.chain, hq.recipient]
  dsimp only
  simp only [hin]
  by_cases hmerchant : q.merchant ∈ ks
  · by_cases hchain : q.chain ∈ ks
    · by_cases hrecipient : q.recipient ∈ ks
      · rw [if_neg (not_not_intro hmerchant), if_neg (not_not_intro hchain),
          if_neg (not_not_intro hrecipient), if_pos ⟨hmerchant, hchain, hrecipient⟩]
      · rw [if_neg (not_not_intro hmerchant), if_neg (not_not_intro hchain), if_pos hrecipient,
          if_neg fun h => hrecipient h.2.2]
    · rw [if_neg (not_not_intro hmerchant), if_pos hchain, if_neg fun h => hchain h.2.1]
  · rw [if_pos hmerchant, if_neg fun h => hmerchant h.1]

/-! ## From the program to the decoder -/

/-- The announcement's merchant, receiver and route. -/
def announcedOf (a : AnnounceArgs) : Registration :=
  ⟨a.merchant, a.receiver, a.cctp_mint_chain, a.cctp_mint_recipient⟩

theorem announceMerchant_event {b b' : Bank} {metas : List AccountMeta} {a : AnnounceArgs}
    {f : FactoryConfig} {key : Pubkey} {bump : UInt8}
    (hacc : announceAccounts rt b metas a = .ok (f, key, bump))
    (h : announceMerchant rt b metas a = .ok b') :
    b'.events = b.events ++ [announcedEvent rt f.mint (announcedOf a)] := by
  have hkey : key = (pendingOf rt (announcedOf a)).address rt := by
    unfold announceAccounts at hacc
    split at hacc
    · simp only [bind_ok] at hacc
      obtain ⟨_, -, _, -, _, -, _, -, _, -, bump', hinit, hout⟩ := hacc
      obtain ⟨-, hrest⟩ := Prod.mk.inj (Except.ok.inj hout)
      rw [← (Prod.mk.inj hrest).1]
      exact (Solana.initAccount_ok hinit).1
    · cases hacc
  rw [announceMerchant, hacc, ok_bind] at h
  obtain ⟨_, -, h⟩ := bind_ok.mp h
  obtain ⟨_, -, h⟩ := bind_ok.mp h
  obtain ⟨_, -, h⟩ := bind_ok.mp h
  rw [← Except.ok.inj h, hkey]
  rfl

theorem utf8_announced : utf8 "event:ReceiverAnnounced".toList
    = asciiBytes ("event:".toList ++ "ReceiverAnnounced".toList) := by
  decide

/-- Only a registration is as long as an announcement has to be. -/
theorem short_event {e : Event} (hannounced : e.name ≠ "ReceiverAnnounced".toList)
    (hregistered : e.name ≠ "ReceiverRegistered".toList) : e.body.length < 32 * 6 := by
  cases e with
  | receiverAnnounced => exact absurd rfl hannounced
  | receiverRegistered => exact absurd rfl hregistered
  | factoryInitialized mint treasury starknet base ethereum monad arbitrum =>
      simp [Event.body, length_bytesOf]
  | swept config receiver gross net fee caller treasury slot =>
      simp [Event.body, length_bytesOf]
  | sweptCrossChain config receiver gross net fee caller treasury domain max =>
      simp [Event.body, length_bytesOf]

end

/-- **Announcements are decoded as they were made.**  Asked for the merchant and the route of an
announcement, the decoder returns its receiver; asked for any other, or for another event, it
returns nothing.  The derivations in question must not collide, and no two words that the announcer
chose may be the accounts derived from some word for what is asked. -/
theorem announced_decoded {rt : Runtime} (hhash : ∀ bs, (rt.hash bs).length = 32)
    (hid : SOLANA_PROGRAM.id = keyText rt.programId)
    (hevents : rt.eventDiscriminator "ReceiverRegistered".toList
      ≠ rt.eventDiscriminator "ReceiverAnnounced".toList) :
    (∀ b b' metas (a : AnnounceArgs) f key bump,
      announceAccounts rt b metas a = .ok (f, key, bump) →
      announceMerchant rt b metas a = .ok b' →
        b'.events = b.events ++ [announcedEvent rt f.mint (announcedOf a)] ∧
        ∀ (q : Asked) merchant chain32 recipient32, q.Spelled merchant chain32 recipient32 →
          Derives rt.hash rt (derivations rt f.mint (announcedOf a) q) →
          (∀ k ∈ wordsOf rt f.mint (announcedOf a), q.receiving k ≠ announcedOf a →
            ¬ ((configOf rt (q.receiving k)).address rt ∈ chosenWords (announcedOf a) ∧
              (pendingOf rt (q.receiving k)).address rt ∈ chosenWords (announcedOf a))) →
          receiverFromAnnouncedEvent rt.hash
              ((announcedEvent rt f.mint (announcedOf a)).data rt) SOLANA_PROGRAM merchant chain32
              recipient32
            = some (if q = askedOf (announcedOf a) then some (keyText a.receiver) else none)) ∧
    ∀ e : Event, e.name ≠ "ReceiverAnnounced".toList → ∀ merchant chain32 recipient32,
      receiverFromAnnouncedEvent rt.hash (e.data rt) SOLANA_PROGRAM merchant chain32 recipient32
        = some none := by
  have hdisc : ∀ name, (rt.eventDiscriminator name).length = 8 := by
    intro name
    rw [Runtime.eventDiscriminator, List.length_take, hhash]
    rfl
  have hannounced : (rt.hash (utf8 "event:ReceiverAnnounced".toList)).take 8
      = rt.eventDiscriminator "ReceiverAnnounced".toList := by
    rw [utf8_announced]
    rfl
  refine ⟨?_, ?_⟩
  · intro b b' metas a f key bump hacc h
    refine ⟨announceMerchant_event hacc h, ?_⟩
    intro q merchant chain32 recipient32 hq hderives hchosen
    have haccepts := fun k hk => acceptsCandidate_iff hid hq hderives hchosen (k := k) hk
    have hreceiver : a.receiver ∈ wordsOf rt f.mint (announcedOf a) := by simp [wordsOf, announcedOf]
    have hdata : (announcedEvent rt f.mint (announcedOf a)).data rt
        = rt.eventDiscriminator "ReceiverAnnounced".toList
          ++ (wordsOf rt f.mint (announcedOf a)).flatMap bytesOf := rfl
    rw [hdata, receiverFromAnnouncedEvent_words (hdisc _) hannounced hq rfl]
    congr 1
    by_cases hown : q = askedOf (announcedOf a)
    · have hin : q.merchant ∈ wordsOf rt f.mint (announcedOf a) ∧
          q.chain ∈ wordsOf rt f.mint (announcedOf a) ∧
          q.recipient ∈ wordsOf rt f.mint (announcedOf a) := by
        rw [hown]
        simp [wordsOf, askedOf]
      rw [if_pos hin, if_pos hown]
      have htaken := (haccepts a.receiver hreceiver).mpr (by rw [hown]; rfl)
      cases hfind : ((wordsOf rt f.mint (announcedOf a)).map keyText).eraseDups.find?
          (acceptsCandidate rt.hash SOLANA_PROGRAM merchant chain32 recipient32
            ((wordsOf rt f.mint (announcedOf a)).map keyText)) with
      | none =>
          have hmem := List.mem_eraseDups.mpr (List.mem_map_of_mem (f := keyText) hreceiver)
          exact absurd htaken (List.find?_eq_none.mp hfind _ hmem)
      | some candidate =>
          obtain ⟨k, hk, rfl⟩ :=
            List.mem_map.mp (List.mem_eraseDups.mp (List.mem_of_find?_eq_some hfind))
          have hsame := (haccepts k hk).mp (List.find?_some hfind)
          rw [show k = a.receiver from congrArg Registration.receiver hsame]
    · rw [if_neg hown]
      have hnone : ∀ candidate ∈ ((wordsOf rt f.mint (announcedOf a)).map keyText).eraseDups,
          ¬ acceptsCandidate rt.hash SOLANA_PROGRAM merchant chain32 recipient32
            ((wordsOf rt f.mint (announcedOf a)).map keyText) candidate = true := by
        intro candidate hcandidate htaken
        obtain ⟨k, hk, rfl⟩ := List.mem_map.mp (List.mem_eraseDups.mp hcandidate)
        have hsame := (haccepts k hk).mp htaken
        exact hown (by rw [← hsame]; rfl)
      rw [List.find?_eq_none.mpr hnone, ite_self]
  · intro e he merchant chain32 recipient32
    have hlength : (e.data rt).length = 8 + e.body.length := by
      rw [Event.data, List.length_append, hdisc]
    rw [receiverFromAnnouncedEvent]
    dsimp only
    by_cases hregistered : e.name = "ReceiverRegistered".toList
    · have htake : (e.data rt).take 8 ≠ (rt.hash (utf8 "event:ReceiverAnnounced".toList)).take 8 := by
        rw [Event.data, List.take_left' (hdisc _), hannounced, hregistered]
        exact hevents
      rw [if_pos htake, ite_self]
    · have hshort := short_event he hregistered
      rw [if_pos (.inl (by omega))]

/-! ## Two announcements -/

namespace DecodeSample

def PROGRAM_ID : Pubkey :=
  0xa192778dc3f702b2608f3e044adcf0ed446c42bfb7af3ac1142fe44d9194da05
def TOKEN_ID : Pubkey :=
  0x6ddf6e1d765a193d9cbe146ceeb79ac1cb485ed5f5b37913a8cf5857eff00a9
def ATA_ID : Pubkey :=
  0x8c97258f4e2489f1bb3d1029148e0d830b5a1399daff1084048e7bd8dbe9f859
def MINT : Pubkey :=
  0xc6fa7af3bedbad3a3d65f36aabc97431b1bbe4c2d2f6e0e47ca60203452f5d61
def FACTORY : Pubkey :=
  0x0e8e1a604e8c43693838f330f256a4a9de9fd6e4e29839b8f4c9745a82e52d97

/-- `BASE`, padded. -/
def base : Bytes32 := 0x42415345 <<< 224

/-- The accounts of merchant 74 as its own receiver, on the route to itself. -/
def receiver : Pubkey :=
  0xbed728baf2db6a77aaf391947eabaab92b310fa744a546646190a62e42a43621
def recipient : Bytes32 :=
  0x3e33b45ea1eb1e5f0a64a1cfc792c78f5ca35285f5aa5f661d5f8f77bae7212d

def config : Pubkey :=
  0xd022b9902e384748ffe1198007e3a23b2b7d85904bd63bdfacce6549bfdb2e01
def pending : Pubkey :=
  0x692c33675531871531fed63443489f9f38a896a36bd97092a7d8d933c446eb51

/-- The words of merchant 5's receiver 37, on the same-chain route. -/
def ownToken : Pubkey :=
  0xc7416770e05f06aa6f013f31a77597f2759a0cc02097633e97bc60ce42b1c06b
def ownConfig : Pubkey :=
  0x766c907ef860b3a7b413de6d1ca80a1771c5f418fe8be3c385661a544d266294
def ownStaging : Pubkey :=
  0xfda7c07cf93e99d0a9199197f3ce2c458d759aef1bfa207581d1589424948174
def ownPending : Pubkey :=
  0xd7eb2ebeee12abd54b2d5083063488b372b6a1e0a82026c29f2c2de6721c5f0e

/-- The number that a derivation's octets spell: its seeds, the bump, the program and the tag. -/
def input (label : Nat) (words : List Pubkey) (bump : Nat) (program : Pubkey) : Nat :=
  (((words.foldl (fun n w => n * 2 ^ 256 + w.toNat) label) * 2 ^ 8 + bump) * 2 ^ 256
    + program.toNat) * 2 ^ 168 + beNat (utf8 "ProgramDerivedAddress".toList)

def CONFIG : Nat := beNat Solana.CONFIG_SEED
def PENDING : Nat := beNat Solana.PENDING_SEED

/-- SHA-256 of the derivations tried, and of two events' names. -/
def hashTable : List (Nat × Nat) :=
  [(beNat (utf8 "event:ReceiverAnnounced".toList),
    0xec79d4ab284269073637e5d1f13600f47a9c67a7aac5ce58c10588f6f272d9d7),
   (beNat (utf8 "event:ReceiverRegistered".toList),
    0x346cab8f4d91cc406e50ab42b8caf9f9db32d2c63c33d8bccfcfbf1d0fb0bd70),
   (input (beNat Solana.FACTORY_SEED) [] 254 PROGRAM_ID,
    0x0e8e1a604e8c43693838f330f256a4a9de9fd6e4e29839b8f4c9745a82e52d97),
   (input CONFIG [74, 74, base, 74] 255 PROGRAM_ID,
    0xbed728baf2db6a77aaf391947eabaab92b310fa744a546646190a62e42a43621),
   (input PENDING [74, 74, base, 74] 255 PROGRAM_ID,
    0x3e33b45ea1eb1e5f0a64a1cfc792c78f5ca35285f5aa5f661d5f8f77bae7212d),
   (input CONFIG [74, receiver, base, recipient] 255 PROGRAM_ID,
    0xd022b9902e384748ffe1198007e3a23b2b7d85904bd63bdfacce6549bfdb2e01),
   (input PENDING [74, receiver, base, recipient] 255 PROGRAM_ID,
    0x692c33675531871531fed63443489f9f38a896a36bd97092a7d8d933c446eb51),
   (input 0 [receiver, TOKEN_ID, MINT] 255 ATA_ID,
    0xfc24a7f25051a86dce542e3548dd8647c4131f06b2132ea68cd47e5dc77faafd),
   (input 0 [config, TOKEN_ID, MINT] 255 ATA_ID,
    0xd3510d6f4eeb8802268ef222323abc58988f148f68aedac6e96ae6f449fe160e),
   (input 0 [37, TOKEN_ID, MINT] 255 ATA_ID,
    0xc7416770e05f06aa6f013f31a77597f2759a0cc02097633e97bc60ce42b1c06b),
   (input CONFIG [5, 37, 0, 0] 255 PROGRAM_ID,
    0x766c907ef860b3a7b413de6d1ca80a1771c5f418fe8be3c385661a544d266294),
   (input 0 [ownConfig, TOKEN_ID, MINT] 255 ATA_ID,
    0xfda7c07cf93e99d0a9199197f3ce2c458d759aef1bfa207581d1589424948174),
   (input PENDING [5, 37, 0, 0] 255 PROGRAM_ID,
    0xd7eb2ebeee12abd54b2d5083063488b372b6a1e0a82026c29f2c2de6721c5f0e),
   (input CONFIG [5, 5, 0, 0] 255 PROGRAM_ID,
    0x827c4a4abeb7fa2986edc6225aef64099296fdfe0dc0b25aa8ef98cde275bc6a),
   (input PENDING [5, 5, 0, 0] 255 PROGRAM_ID,
    0x19209833a73f54f99f0b51031e635b24a0e0ddbb85221b58e10499028a7be6c6),
   (input CONFIG [5, ownToken, 0, 0] 255 PROGRAM_ID,
    0xec6b223041f056277fced05b33eea0197daf652e470dd7094a59b3e3f693ff11),
   (input PENDING [5, ownToken, 0, 0] 255 PROGRAM_ID,
    0xb7f7e2203155f73d7ef151c9f5c269523e61d6e952054316bdb054aa861cd5fa),
   (input CONFIG [5, ownConfig, 0, 0] 255 PROGRAM_ID,
    0x354f32c9c9a8806e191ead93e89d44869ca62d20054ba35936efbc8c3d287d55),
   (input PENDING [5, ownConfig, 0, 0] 255 PROGRAM_ID,
    0x69ad7a1652f6b9aa0c49ae2d33c704051d873512ac6a2696577c280299f9294d),
   (input CONFIG [5, ownStaging, 0, 0] 255 PROGRAM_ID,
    0x31ca5d7bbbe2f2b4291aab6354ff57cc5367ea8f80484a9cabcaa7afdb6874e9),
   (input PENDING [5, ownStaging, 0, 0] 255 PROGRAM_ID,
    0x1dbf5d813983aabc006e00f372852b6c31223689519ede856955fef4a15fff79),
   (input CONFIG [5, ownPending, 0, 0] 255 PROGRAM_ID,
    0x727d6d099c56935e9be8ddeb1636a39ba24c072f195fcdea5691a3d0774bc056),
   (input PENDING [5, ownPending, 0, 0] 255 PROGRAM_ID,
    0xedbc1738f0a9bda9d787122c285dfdfb36e2da968470c28754066bd0d5ddd111),
   (input PENDING [5, ownPending, 0, 0] 254 PROGRAM_ID,
    0x957152c163c4e35959dd5eadbb316b6527cd9f4aef776e7c54f624211a393756),
   (input CONFIG [5, 0, 0, 0] 255 PROGRAM_ID,
    0x4ce562fc957b5bef76d7f2b6f62b30a4d147e3c0892ff9b56131fab2436d5ab9),
   (input CONFIG [5, 0, 0, 0] 254 PROGRAM_ID,
    0xebf0293f0931c1b9457cd2ab0fb6a88d517a55aafaa68d714fa5419e30991106),
   (input PENDING [5, 0, 0, 0] 255 PROGRAM_ID,
    0xd875a76f726a9b9a950f8feb78a5f6412c6a329872011c2c8157d0238f1178b5)]

def sha256 (bs : Bytes) : Bytes := beBytes 32 ((hashTable.lookup (beNat bs)).getD 0)

/-- Addresses are derived as the browser derives them. -/
def runtime : Runtime :=
  { Solana.ledgerRuntime with
    programId := PROGRAM_ID
    tokenProgram := TOKEN_ID
    systemProgram := 0
    ataProgram := ATA_ID
    findProgramAddress := fun seeds id =>
      ((findProgramAddress sha256 seeds (bytesOf id)).map fun e =>
        (BitVec.ofNat 256 (beNat e.1), UInt8.ofNat e.2)).getD (0, 0)
    createProgramAddress := fun seeds id =>
      let hash := sha256 (seeds.flatten ++ (bytesOf id ++ utf8 "ProgramDerivedAddress".toList))
      if isOnCurve hash then none else some (BitVec.ofNat 256 (beNat hash))
    hash := sha256 }

theorem runtime_findProgramAddress (seeds : List Bytes) (id : Pubkey) :
    runtime.findProgramAddress seeds id
      = ((findProgramAddress sha256 seeds (bytesOf id)).map fun e =>
          (BitVec.ofNat 256 (beNat e.1), UInt8.ofNat e.2)).getD (0, 0) := rfl

theorem length_hash (bs : Bytes) : (runtime.hash bs).length = 32 := length_beBytes 32 _

theorem events_differ : runtime.eventDiscriminator "ReceiverRegistered".toList
    ≠ runtime.eventDiscriminator "ReceiverAnnounced".toList := by
  decide

def factory : FactoryConfig := ⟨MINT, 14, 25, 6, 0, 15, 3, 254⟩

def bank : Bank where
  accounts k := if k = FACTORY then .factoryConfig factory else .empty
  burns := []
  events := []
  slot := 0

def metas (pending : Pubkey) : List AccountMeta :=
  [.new 11 true, .newReadonly FACTORY false, .new pending false, .newReadonly 0 false]

/-- The announcements of receiver `receiver` and of receiver 37. -/
def args : AnnounceArgs := ⟨74, base, recipient, receiver, [1]⟩
def ownArgs : AnnounceArgs := ⟨5, 0, 0, 37, [1]⟩

def own : Registration := announcedOf ownArgs

/-- The two associated token accounts of the first announcement. -/
def token : Pubkey :=
  0xfc24a7f25051a86dce542e3548dd8647c4131f06b2132ea68cd47e5dc77faafd
def staging : Pubkey :=
  0xd3510d6f4eeb8802268ef222323abc58988f148f68aedac6e96ae6f449fe160e

/-- What the decoder derives for the second announcement, asked for its own route. -/
def derived : List Derivation :=
  [ataOf runtime 37 MINT, configOf runtime own, ataOf runtime ownConfig MINT,
    pendingOf runtime own]
  ++ [5, ownToken, ownConfig, ownStaging, ownPending, 0].flatMap fun k =>
    [configOf runtime ((askedOf own).receiving k), pendingOf runtime ((askedOf own).receiving k)]

def addresses : List Pubkey :=
  [ownToken, ownConfig, ownStaging, ownPending,
   0x827c4a4abeb7fa2986edc6225aef64099296fdfe0dc0b25aa8ef98cde275bc6a,
   0x19209833a73f54f99f0b51031e635b24a0e0ddbb85221b58e10499028a7be6c6,
   0xec6b223041f056277fced05b33eea0197daf652e470dd7094a59b3e3f693ff11,
   0xb7f7e2203155f73d7ef151c9f5c269523e61d6e952054316bdb054aa861cd5fa,
   0x354f32c9c9a8806e191ead93e89d44869ca62d20054ba35936efbc8c3d287d55,
   0x69ad7a1652f6b9aa0c49ae2d33c704051d873512ac6a2696577c280299f9294d,
   0x31ca5d7bbbe2f2b4291aab6354ff57cc5367ea8f80484a9cabcaa7afdb6874e9,
   0x1dbf5d813983aabc006e00f372852b6c31223689519ede856955fef4a15fff79,
   0x727d6d099c56935e9be8ddeb1636a39ba24c072f195fcdea5691a3d0774bc056,
   0x957152c163c4e35959dd5eadbb316b6527cd9f4aef776e7c54f624211a393756,
   0xebf0293f0931c1b9457cd2ab0fb6a88d517a55aafaa68d714fa5419e30991106,
   0xd875a76f726a9b9a950f8feb78a5f6412c6a329872011c2c8157d0238f1178b5]

/-- The program's derivations for the first, and the decoder's that answer another route. -/
def announcedDerived : List Derivation :=
  [ataOf runtime receiver MINT, configOf runtime (announcedOf args), ataOf runtime config MINT,
    pendingOf runtime (announcedOf args), configOf runtime ⟨74, 74, base, 74⟩,
    pendingOf runtime ⟨74, 74, base, 74⟩]

/-- The runtime's answers, evaluated in one go. -/
theorem evaluated :
    SOLANA_PROGRAM.id = keyText runtime.programId ∧
      announcedDerived.map (Derivation.address runtime)
        = [token, config, staging, pending, receiver, recipient] ∧
      announceAccounts runtime bank (metas pending) args = .ok (factory, pending, 255) ∧
      announceAccounts runtime bank (metas ownPending) ownArgs = .ok (factory, ownPending, 255) ∧
      derived.map (Derivation.address runtime) = addresses := by
  decide +kernel

theorem program_id : SOLANA_PROGRAM.id = keyText runtime.programId := evaluated.1

theorem announced_addresses :
    [ataOf runtime receiver MINT, configOf runtime (announcedOf args), ataOf runtime config MINT,
      pendingOf runtime (announcedOf args), configOf runtime ⟨74, 74, base, 74⟩,
      pendingOf runtime ⟨74, 74, base, 74⟩].map (Derivation.address runtime)
    = [token, config, staging, pending, receiver, recipient] :=
  evaluated.2.1

theorem announced_derived : derivedWords runtime MINT (announcedOf args)
    = [ataOf runtime receiver MINT, configOf runtime (announcedOf args), ataOf runtime config MINT,
      pendingOf runtime (announcedOf args)] := by
  have h := announced_addresses
  simp only [List.map_cons, List.map_nil, List.cons.injEq] at h
  rw [derivedWords, h.2.1]
  rfl

theorem words : wordsOf runtime MINT (announcedOf args)
    = [74, receiver, token, config, staging, pending, base, recipient] := by
  have h := announced_addresses
  simp only [List.map_cons, List.map_nil, List.cons.injEq] at h
  obtain ⟨htoken, hconfig, hstaging, hpending, -⟩ := h
  rw [wordsOf, hconfig, hstaging, hpending]
  exact congrArg (fun t => [74, receiver, t, config, staging, pending, base, recipient]) htoken

theorem accounts :
    announceAccounts runtime bank (metas pending) args = .ok (factory, pending, 255) ∧
      announceAccounts runtime bank (metas ownPending) ownArgs = .ok (factory, ownPending, 255) :=
  ⟨evaluated.2.2.1, evaluated.2.2.2.1⟩

theorem derived_addresses : derived.map (Derivation.address runtime) = addresses :=
  evaluated.2.2.2.2

theorem findBump_hash {seeds : List Bytes} {id : Bytes} {bump : Nat} {e : Bytes × Nat}
    (h : findBump sha256 seeds id bump = some e) : ∃ bs, e.1 = sha256 bs := by
  induction bump with
  | zero =>
      rw [findBump] at h
      split at h
      · cases h
      · exact ⟨_, congrArg Prod.fst (Option.some.inj h).symm⟩
  | succ bump ih =>
      rw [findBump] at h
      split at h
      · exact ih h
      · exact ⟨_, congrArg Prod.fst (Option.some.inj h).symm⟩

/-- Only a derivation that fails has the address zero. -/
theorem agree_of_address {d : Derivation} (h : d.address runtime ≠ 0) :
    (findProgramAddress sha256 d.1 (bytesOf d.2)).map Prod.fst
      = some (bytesOf (d.address runtime)) := by
  rw [Derivation.address, runtime_findProgramAddress] at h ⊢
  cases hfind : findProgramAddress sha256 d.1 (bytesOf d.2) with
  | none =>
      rw [hfind] at h
      exact absurd rfl h
  | some e =>
      obtain ⟨bs, hbs⟩ := findBump_hash hfind
      have hlength : e.1.length = 32 := by rw [hbs, sha256, length_beBytes]
      obtain ⟨k, hk⟩ := Api.exists_bytesOf hlength
      have hread : BitVec.ofNat 256 (beNat e.1) = k := by
        rw [← hk, bytesOf, beNat_beBytes, Nat.mod_eq_of_lt (show k.toNat < 256 ^ 32 from k.isLt),
          BitVec.ofNat_toNat, BitVec.setWidth_eq]
      rw [Option.map_some, Option.map_some, Option.getD_some, hread, hk]

theorem derived_address {d : Derivation} (hd : d ∈ derived) : d.address runtime ∈ addresses :=
  derived_addresses ▸ List.mem_map_of_mem hd

theorem own_config_address : (configOf runtime own).address runtime = ownConfig := by
  have h := derived_addresses
  simp only [derived, List.cons_append, List.nil_append, List.map_cons, addresses,
    List.cons.injEq] at h
  exact h.2.1

theorem own_words : wordsOf runtime MINT own
    = [5, 37, ownToken, ownConfig, ownStaging, ownPending, 0, 0] := by
  have h := derived_addresses
  simp only [derived, List.cons_append, List.nil_append, List.map_cons, addresses,
    List.cons.injEq] at h
  obtain ⟨htoken, hconfig, hstaging, hpending, -⟩ := h
  rw [wordsOf, hconfig, hstaging, hpending]
  exact congrArg (fun t => [5, 37, t, ownConfig, ownStaging, ownPending, 0, 0]) htoken

theorem own_derivations : derivations runtime MINT own (askedOf own) ⊆ derived := by
  rw [derivations, derivedWords, own_config_address, own_words]
  decide +kernel

set_option maxRecDepth 20000 in
theorem announced : ∃ b', announceMerchant runtime bank (metas pending) args = .ok b' := by
  rw [announceMerchant, accounts.1, ok_bind]
  exact ⟨_, rfl⟩

set_option maxRecDepth 20000 in
theorem own_announced : ∃ b', announceMerchant runtime bank (metas ownPending) ownArgs = .ok b' := by
  rw [announceMerchant, accounts.2, ok_bind]
  exact ⟨_, rfl⟩

/-- Nothing that is derived is 5, 37 or zero. -/
theorem own_unchosen {d : Derivation} (hd : d ∈ derivations runtime MINT own (askedOf own)) :
    d.address runtime ∉ chosenWords own := by
  have hall : addresses.all (fun k => k ∉ chosenWords own) = true := by decide
  exact of_decide_eq_true (List.all_eq_true.mp hall _ (derived_address (own_derivations hd)))

theorem own_derives : Derives runtime.hash runtime (derivations runtime MINT own (askedOf own)) where
  agree d hd := by
    refine agree_of_address fun hzero => ?_
    have hunchosen := own_unchosen hd
    rw [hzero] at hunchosen
    exact hunchosen (by decide)
  injective d hd e he := by
    have hnodup : (derived.map (Derivation.address runtime)).Nodup :=
      derived_addresses ▸ (show addresses.Nodup by decide)
    exact List.inj_on_of_nodup_map hnodup (own_derivations hd) (own_derivations he)

end DecodeSample

open DecodeSample in
theorem announced_decoded_sample :
    ∃ b', announceMerchant runtime bank (metas ownPending) ownArgs = .ok b' ∧
      b'.events = [announcedEvent runtime MINT own] ∧
      receiverFromAnnouncedEvent sha256 ((announcedEvent runtime MINT own).data runtime)
        SOLANA_PROGRAM (keyText 5) (hexEncode (bytesOf 0)) (hexEncode (bytesOf 0))
          = some (some (keyText 37)) := by
  have hq : (askedOf own).Spelled (keyText 5) (hexEncode (bytesOf 0)) (hexEncode (bytesOf 0)) :=
    ⟨pubkeyBytes_keyText 5, by decide +kernel, by decide +kernel⟩
  obtain ⟨b', h⟩ := own_announced
  obtain ⟨hevent, hdecode⟩ := (announced_decoded length_hash program_id events_differ).1 bank b'
    (metas ownPending) ownArgs factory ownPending 255 accounts.2 h
  have hchosen : ∀ k ∈ wordsOf runtime MINT own, (askedOf own).receiving k ≠ own →
      ¬ ((configOf runtime ((askedOf own).receiving k)).address runtime ∈ chosenWords own ∧
        (pendingOf runtime ((askedOf own).receiving k)).address runtime ∈ chosenWords own) := by
    intro k hk _ hboth
    exact own_unchosen (mem_derivations hk).1 hboth.1
  exact ⟨b', h, hevent, (hdecode (askedOf own) _ _ _ hq own_derives hchosen).trans
    (congrArg some (if_pos rfl))⟩

open DecodeSample in
/-- Merchant 74 is found as a receiver on the route to itself, which nobody announced. -/
theorem other_route_decoded :
    (∃ b', announceMerchant runtime bank (metas pending) args = .ok b' ∧
      b'.events = [announcedEvent runtime MINT (announcedOf args)]) ∧
    ((derivedWords runtime MINT (announcedOf args) ++ [configOf runtime ⟨74, 74, base, 74⟩,
      pendingOf runtime ⟨74, 74, base, 74⟩]).map (Derivation.address runtime)).Nodup ∧
    (⟨74, base, 74⟩ : Asked) ≠ askedOf (announcedOf args) ∧
    receiverFromAnnouncedEvent sha256 ((announcedEvent runtime MINT (announcedOf args)).data runtime)
      SOLANA_PROGRAM (keyText 74) (hexEncode (bytesOf base)) (hexEncode (bytesOf 74))
        = some (some (keyText 74)) := by
  have hq : (⟨74, base, 74⟩ : Asked).Spelled (keyText 74) (hexEncode (bytesOf base))
      (hexEncode (bytesOf 74)) :=
    ⟨pubkeyBytes_keyText 74, by decide +kernel, by decide +kernel⟩
  have hdata : (announcedEvent runtime MINT (announcedOf args)).data runtime
      = runtime.eventDiscriminator "ReceiverAnnounced".toList
        ++ (wordsOf runtime MINT (announcedOf args)).flatMap bytesOf := rfl
  refine ⟨?_, ?_, by decide +kernel, ?_⟩
  · obtain ⟨b', h⟩ := announced
    exact ⟨b', h, announceMerchant_event accounts.1 h⟩
  · rw [announced_derived]
    exact announced_addresses ▸ (show [token, config, staging, pending, receiver, recipient].Nodup by decide)
  · rw [hdata, receiverFromAnnouncedEvent_words (d := _) (by decide +kernel) (by decide +kernel) hq rfl,
      words]
    decide +kernel

end Beanie.Browser
