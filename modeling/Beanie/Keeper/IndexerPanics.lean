/-
# `Beanie.Keeper.IndexerPanics` — which inputs stop the indexer

Rust's indexing panics where it is out of range, and a panic ends the worker's
task.  The indexer indexes the key list of a transaction that anybody may have
announced, and slices the data of whatever record the Portal returns.  Each
function panics exactly on the inputs that take an index out of range:

    validateAnnounce_panics_iff       the transaction's positions, as far as they are looked up
    attach_panics_iff                 one such announcement, pinned and not yet registered
    decodeTransfers_panics_iff        (`TokenTransfers`) the records' hex texts
-/
import Beanie.Keeper.TokenTransfers
import Beanie.Keeper.WireSdk
import Beanie.Solana.ProgramRun

namespace Beanie.Keeper

open Beanie.Solana

section
variable (rt : Runtime)

/-- The instruction the search stops at. -/
def IsRegister (program_id key : Pubkey) (ix : CompiledInstruction) : Prop :=
  key = program_id ∧ 8 ≤ ix.data.length ∧
    ix.data.take 8 = rt.anchorDiscriminator "register_merchant".toList

/-- The accounts compared one after the other: each is in range, as far as the earlier ones are the
announced ones. -/
def AccountsInRange (tx : Transaction) (ix : CompiledInstruction) : List (Nat × Pubkey) → Prop
  | [] => True
  | (idx, announced) :: rest => ∀ i, ix.accounts[idx]? = some i →
      ∃ key, tx.message.account_keys[i]? = some key ∧
        (key = announced → AccountsInRange tx ix rest)

/-- The comparisons of `validate_announce`, in its order. -/
def RawReceiverAnnounced.accounts (ev : RawReceiverAnnounced) : List (Nat × Pubkey) :=
  [(RegisterMerchantAccounts.RECEIVER, ev.receiver),
   (RegisterMerchantAccounts.RECEIVER_TOKEN_ACCOUNT, ev.receiver_token_account),
   (RegisterMerchantAccounts.RECEIVER_CONFIG, ev.receiver_config),
   (RegisterMerchantAccounts.CCTP_BURN_STAGING_ACCOUNT, ev.cctp_burn_staging_account),
   (RegisterMerchantAccounts.PENDING_REGISTRATION, ev.pending_registration)]

/-- The arguments of the instruction are the announced ones. -/
structure ArgumentsMatch (ev : RawReceiverAnnounced) (ix : CompiledInstruction) : Prop where
  length : ix.data.length = 104
  merchant : readPubkey ix.data 8 = .ok ev.merchant
  chain : readPubkey ix.data 40 = .ok ev.cctp_mint_chain
  recipient : readPubkey ix.data 72 = .ok ev.cctp_mint_recipient

/-- Every program position up to the first registration is in range, and so are the registration's
accounts, if its arguments are the announced ones. -/
def SearchInRange (program_id : Pubkey) (ev : RawReceiverAnnounced) (tx : Transaction) :
    List CompiledInstruction → Prop
  | [] => True
  | ix :: rest => ∃ key, tx.message.account_keys[ix.program_id_index]? = some key ∧
      (IsRegister rt program_id key ix → ArgumentsMatch ev ix →
        AccountsInRange tx ix ev.accounts) ∧
      (¬ IsRegister rt program_id key ix → SearchInRange program_id ev tx rest)

/-- The event's addresses are the ones the indexer derives. -/
structure DerivesAsExpected (ev : RawReceiverAnnounced) (program_id mint : Pubkey) : Prop where
  config : expectConfig rt program_id ev.receiver = ev.receiver_config
  pending : expectPending rt program_id ev.receiver = ev.pending_registration
  token : rt.ata ev.receiver mint = ev.receiver_token_account
  staging : rt.ata ev.receiver_config mint = ev.cctp_burn_staging_account

/-- The transaction can be looked at without leaving its key list. -/
def InRange (sdk : Sdk) (ev : RawReceiverAnnounced) (reg_tx : Bytes) (program_id mint : Pubkey) :
    Prop :=
  DerivesAsExpected rt ev program_id mint → ∀ tx, sdk.deserialize reg_tx = some tx →
    SearchInRange rt program_id ev tx tx.message.instructions

end

section
variable {rt : Runtime} {sdk : Sdk} {ev : RawReceiverAnnounced} {program_id mint : Pubkey}
  {tx : Transaction}

/-! ## One function after the other -/

theorem readPubkey_not_panics (buf : Bytes) (off : Nat) :
    readPubkey buf off ≠ .error .panicked := by
  rw [readPubkey]
  split_ifs <;> nofun

/-- A guard that bails does not panic. -/
theorem require_bind_panics {α : Type} {p : Prop} {_ : Decidable p} {message : String}
    {f : Unit → Except Fault α} :
    (require p (.bailed message) >>= f) = .error .panicked ↔ p ∧ f () = .error .panicked := by
  rw [bind_error, require_error]
  constructor
  · rintro (⟨-, h⟩ | ⟨_, h, hf⟩)
    · exact nomatch h
    · exact ⟨require_ok.mp h, hf⟩
  · rintro ⟨h, hf⟩
    exact .inr ⟨(), require_of _ h, hf⟩

theorem readPubkey_bind_panics {α : Type} {buf : Bytes} {off : Nat}
    {f : Pubkey → Except Fault α} :
    (readPubkey buf off >>= f) = .error .panicked ↔
      ∃ key, readPubkey buf off = .ok key ∧ f key = .error .panicked := by
  rw [bind_error]
  exact or_iff_right (readPubkey_not_panics buf off)

theorem keyAt_panics {i : Nat} :
    keyAt tx i = .error .panicked ↔ tx.message.account_keys[i]? = none := by
  rw [keyAt, okOr_error]
  exact and_iff_left rfl

theorem accountAt_panics {ix : CompiledInstruction} {idx : Nat} :
    accountAt tx ix idx = .error .panicked ↔
      ∃ i, ix.accounts[idx]? = some i ∧ tx.message.account_keys[i]? = none := by
  rw [accountAt, bind_error, okOr_error]
  constructor
  · rintro (⟨-, h⟩ | ⟨i, hi, h⟩)
    · exact nomatch h
    · exact ⟨i, okOr_ok.mp hi, keyAt_panics.mp h⟩
  · rintro ⟨i, hi, h⟩
    exact .inr ⟨i, okOr_ok.mpr hi, keyAt_panics.mpr h⟩

theorem accountAt_ok {ix : CompiledInstruction} {idx : Nat} {key : Pubkey} :
    accountAt tx ix idx = .ok key ↔
      ∃ i, ix.accounts[idx]? = some i ∧ tx.message.account_keys[i]? = some key := by
  rw [accountAt, bind_ok]
  simp only [keyAt, okOr_ok]

/-- One comparison, and what comes after it. -/
theorem checkAccount_bind_panics {ix : CompiledInstruction} {next : Except Fault Unit}
    {rest : List (Nat × Pubkey)} (idx : Nat) (announced : Pubkey) (message : String)
    (hnext : next = .error .panicked ↔ ¬ AccountsInRange tx ix rest) :
    (checkAccount tx ix idx announced message >>= fun _ => next) = .error .panicked ↔
      ¬ AccountsInRange tx ix ((idx, announced) :: rest) := by
  have hcheck : checkAccount tx ix idx announced message = .error .panicked ↔
      ∃ i, ix.accounts[idx]? = some i ∧ tx.message.account_keys[i]? = none := by
    rw [checkAccount, bind_error, accountAt_panics]
    constructor
    · rintro (h | ⟨key, -, h⟩)
      · exact h
      · exact nomatch (require_error.mp h).2
    · exact .inl
  have hok : checkAccount tx ix idx announced message = .ok () ↔
      ∃ i, ix.accounts[idx]? = some i ∧ tx.message.account_keys[i]? = some announced := by
    rw [checkAccount, bind_ok, ← accountAt_ok]
    constructor
    · rintro ⟨key, hkey, h⟩
      rw [hkey, require_ok.mp h]
    · exact fun h => ⟨announced, h, require_of _ rfl⟩
  rw [bind_error, hcheck, AccountsInRange, not_forall]
  constructor
  · rintro (⟨i, hi, hnone⟩ | ⟨_, hcheck', hpanics⟩)
    · refine ⟨i, fun h => ?_⟩
      obtain ⟨key, hkey, -⟩ := h hi
      exact nomatch hnone.symm.trans hkey
    · obtain ⟨i, hi, hkey⟩ := hok.mp hcheck'
      refine ⟨i, fun h => ?_⟩
      obtain ⟨key, hkey', hrest⟩ := h hi
      obtain rfl := Option.some.inj (hkey.symm.trans hkey')
      exact hnext.mp hpanics (hrest rfl)
  · rintro ⟨i, h⟩
    rw [Classical.not_imp] at h
    obtain ⟨hi, h⟩ := h
    cases hkey : tx.message.account_keys[i]? with
    | none => exact .inl ⟨i, hi, hkey⟩
    | some key =>
        by_cases heq : key = announced
        · subst heq
          refine .inr ⟨(), hok.mpr ⟨i, hi, hkey⟩, hnext.mpr fun hrest => ?_⟩
          exact h ⟨key, hkey, fun _ => hrest⟩
        · exact absurd ⟨key, hkey, fun h' => absurd h' heq⟩ h

theorem checkInstruction_panics {ix : CompiledInstruction} :
    checkInstruction ev tx ix = .error .panicked ↔
      ArgumentsMatch ev ix ∧ ¬ AccountsInRange tx ix ev.accounts := by
  have hend : (.ok () : Except Fault Unit) = .error .panicked ↔ ¬ AccountsInRange tx ix [] :=
    iff_of_false nofun (not_not_intro trivial)
  have hlast : ∀ idx announced message, checkAccount tx ix idx announced message
      = checkAccount tx ix idx announced message >>= fun _ => .ok () := by
    intro idx announced message
    cases checkAccount tx ix idx announced message <;> rfl
  rw [checkInstruction, require_bind_panics, readPubkey_bind_panics]
  simp only [readPubkey_bind_panics, require_bind_panics]
  rw [hlast RegisterMerchantAccounts.PENDING_REGISTRATION]
  simp only [checkAccount_bind_panics _ _ _ (checkAccount_bind_panics _ _ _
    (checkAccount_bind_panics _ _ _ (checkAccount_bind_panics _ _ _
      (checkAccount_bind_panics _ _ _ hend))))]
  constructor
  · rintro ⟨hlen, m, hm, c, hc, r, hr, rfl, hroute, h⟩
    obtain ⟨hchain, hrecipient⟩ := not_or.mp hroute
    exact ⟨⟨hlen, hm, not_not.mp hchain ▸ hc, not_not.mp hrecipient ▸ hr⟩, h⟩
  · rintro ⟨⟨hlen, hm, hc, hr⟩, h⟩
    exact ⟨hlen, _, hm, _, hc, _, hr, rfl, by simp, h⟩

theorem findRegister_of_register {ix : CompiledInstruction} {rest : List CompiledInstruction}
    {key : Pubkey} (hkey : keyAt tx ix.program_id_index = .ok key)
    (h : IsRegister rt program_id key ix) :
    findRegister rt program_id tx (ix :: rest) = .ok ix := by
  rw [findRegister, hkey, ok_bind]
  exact if_pos h

theorem findRegister_of_not {ix : CompiledInstruction} {rest : List CompiledInstruction}
    {key : Pubkey} (hkey : keyAt tx ix.program_id_index = .ok key)
    (h : ¬ IsRegister rt program_id key ix) :
    findRegister rt program_id tx (ix :: rest) = findRegister rt program_id tx rest := by
  rw [findRegister, hkey, ok_bind]
  exact if_neg h

theorem search_panics {ixs : List CompiledInstruction} :
    (findRegister rt program_id tx ixs >>= checkInstruction ev tx) = .error .panicked ↔
      ¬ SearchInRange rt program_id ev tx ixs := by
  induction ixs with
  | nil => exact iff_of_false nofun (not_not_intro trivial)
  | cons ix rest ih =>
      rw [SearchInRange]
      cases hkey : keyAt tx ix.program_id_index with
      | error f =>
          have hnone : tx.message.account_keys[ix.program_id_index]? = none := by
            rw [keyAt, okOr_error] at hkey
            exact hkey.1
          have hf : f = .panicked := (okOr_error.mp hkey).2.symm
          have hpanics : findRegister rt program_id tx (ix :: rest) = .error .panicked := by
            rw [findRegister, hkey, hf, error_bind]
          rw [hpanics]
          refine iff_of_true rfl ?_
          rintro ⟨key, hsome, -⟩
          exact nomatch hnone.symm.trans hsome
      | ok key =>
          have hsome : tx.message.account_keys[ix.program_id_index]? = some key :=
            okOr_ok.mp hkey
          by_cases hregister : IsRegister rt program_id key ix
          · rw [findRegister_of_register hkey hregister, ok_bind, checkInstruction_panics]
            constructor
            · rintro ⟨hargs, hnot⟩ ⟨key', hsome', h, -⟩
              obtain rfl := Option.some.inj (hsome.symm.trans hsome')
              exact hnot (h hregister hargs)
            · intro h
              by_contra hnot
              refine h ⟨key, hsome, ?_, fun hn => absurd hregister hn⟩
              intro _ hargs
              by_contra hout
              exact hnot ⟨hargs, hout⟩
          · rw [findRegister_of_not hkey hregister, ih]
            constructor
            · rintro hnot ⟨key', hsome', -, h⟩
              obtain rfl := Option.some.inj (hsome.symm.trans hsome')
              exact hnot (h hregister)
            · rintro hnot h
              exact hnot ⟨key, hsome, fun hr => absurd hr hregister, fun _ => h⟩

theorem checkDerivations_ok_iff :
    checkDerivations rt ev program_id mint = .ok () ↔ DerivesAsExpected rt ev program_id mint := by
  constructor
  · intro h
    obtain ⟨_, hconfig, h⟩ := bind_ok.mp h
    obtain ⟨_, hpending, h⟩ := bind_ok.mp h
    obtain ⟨_, htoken, hstaging⟩ := bind_ok.mp h
    have hconfig := require_ok.mp hconfig
    exact ⟨hconfig, require_ok.mp hpending, require_ok.mp htoken, hconfig ▸ require_ok.mp hstaging⟩
  · intro h
    refine bind_ok.mpr ⟨(), require_of _ h.config, ?_⟩
    refine bind_ok.mpr ⟨(), require_of _ h.pending, ?_⟩
    refine bind_ok.mpr ⟨(), require_of _ h.token, ?_⟩
    exact require_of _ (h.config.symm ▸ h.staging)

theorem checkDerivations_not_panics : checkDerivations rt ev program_id mint ≠ .error .panicked := by
  intro h
  rw [checkDerivations] at h
  simp only [require_bind_panics] at h
  obtain ⟨-, -, -, h⟩ := h
  cases (require_error.mp h).2

/-- **The check of an announcement.** -/
theorem validateAnnounce_panics_iff {reg_tx : Bytes} :
    validateAnnounce rt sdk ev reg_tx program_id mint = .error .panicked ↔
      ¬ InRange rt sdk ev reg_tx program_id mint := by
  rw [validateAnnounce, bind_error, or_iff_right checkDerivations_not_panics]
  constructor
  · rintro ⟨_, hderives, h⟩ hin
    rw [bind_error, okOr_error] at h
    rcases h with ⟨-, h⟩ | ⟨tx, htx, h⟩
    · exact nomatch h
    · exact search_panics.mp h (hin (checkDerivations_ok_iff.mp hderives) tx (okOr_ok.mp htx))
  · intro hnot
    obtain ⟨hderives, hnot⟩ := Classical.not_imp.mp hnot
    obtain ⟨tx, hnot⟩ := not_forall.mp hnot
    obtain ⟨htx, hnot⟩ := Classical.not_imp.mp hnot
    refine ⟨(), checkDerivations_ok_iff.mpr hderives, ?_⟩
    exact bind_error.mpr (.inr ⟨tx, okOr_ok.mpr htx, search_panics.mpr hnot⟩)

/-! ## The fold over the events -/

/-- An event whose announcement is checked: it decodes, its receiver is not registered, and its
pinned transaction was read. -/
structure Checks (map : ReceiverMap) (ev : AnchorEvent) (fetched : Option Bytes)
    (raw : RawReceiverAnnounced) (reg_tx : Bytes) : Prop where
  name : ev.name = .receiverAnnounced
  decodes : decodeMerchantAnnounced ev.data = .ok raw
  open_ : ¬ (map raw.receiver).any (fun r => r.status = .registered)
  fetched : fetched = some reg_tx

/-- What one event does: nothing, a record, or a panic. -/
theorem attachOne_cases (map : ReceiverMap) (ev : AnchorEvent) (fetched : Option Bytes) :
    (∃ raw reg_tx, Checks map ev fetched raw reg_tx ∧
      validateAnnounce rt sdk raw reg_tx program_id mint = .error .panicked ∧
      attachOne rt sdk program_id mint map ev fetched = .error .panicked) ∨
    (∃ raw reg_tx, Checks map ev fetched raw reg_tx ∧
      validateAnnounce rt sdk raw reg_tx program_id mint = .ok () ∧
      attachOne rt sdk program_id mint map ev fetched
        = .ok (Function.update map raw.receiver (some (raw.record reg_tx)))) ∨
    ((∀ raw reg_tx, Checks map ev fetched raw reg_tx →
        ∃ message, validateAnnounce rt sdk raw reg_tx program_id mint = .error (.bailed message)) ∧
      attachOne rt sdk program_id mint map ev fetched = .ok map) := by
  by_cases hname : ev.name = .receiverAnnounced
  case neg =>
    exact .inr (.inr ⟨fun _ _ h => absurd h.name hname, by rw [attachOne, if_pos hname]⟩)
  cases hdecode : decodeMerchantAnnounced ev.data with
  | error f =>
      refine .inr (.inr ⟨?_, ?_⟩)
      · intro _ _ h
        cases hdecode.symm.trans h.decodes
      · rw [attachOne, if_neg (not_not_intro hname), hdecode]
  | ok raw =>
      by_cases hopen : (map raw.receiver).any (fun r => r.status = .registered) = true
      · refine .inr (.inr ⟨?_, ?_⟩)
        · intro raw' _ h
          obtain rfl := Except.ok.inj (hdecode.symm.trans h.decodes)
          exact absurd hopen h.open_
        · rw [attachOne, if_neg (not_not_intro hname), hdecode]
          exact if_pos hopen
      · cases fetched with
        | none =>
            refine .inr (.inr ⟨?_, ?_⟩)
            · intro _ _ h
              cases h.fetched
            · rw [attachOne, if_neg (not_not_intro hname), hdecode]
              exact if_neg hopen
        | some reg_tx =>
            have hchecks : Checks map ev (some reg_tx) raw reg_tx := ⟨hname, hdecode, hopen, rfl⟩
            cases hvalid : validateAnnounce rt sdk raw reg_tx program_id mint with
            | ok u =>
                exact .inr (.inl ⟨raw, reg_tx, hchecks, hvalid,
                  attachOne_of_accepted hname hdecode hopen hvalid⟩)
            | error f =>
                cases f with
                | panicked =>
                    refine .inl ⟨raw, reg_tx, hchecks, hvalid, ?_⟩
                    rw [attachOne, if_neg (not_not_intro hname), hdecode]
                    dsimp only
                    rw [if_neg hopen, hvalid]
                | bailed message =>
                    refine .inr (.inr ⟨?_, ?_⟩)
                    · intro raw' reg_tx' h
                      obtain rfl := Except.ok.inj (hdecode.symm.trans h.decodes)
                      obtain rfl := Option.some.inj h.fetched
                      exact ⟨message, hvalid⟩
                    · rw [attachOne, if_neg (not_not_intro hname), hdecode]
                      dsimp only
                      rw [if_neg hopen, hvalid]

/-- An accepted announcement leaves every registered receiver registered, and makes none so. -/
theorem attachOne_registered {map map' : ReceiverMap} {ev : AnchorEvent} {fetched : Option Bytes}
    (h : attachOne rt sdk program_id mint map ev fetched = .ok map') (k : Pubkey) :
    (map' k).any (fun r => r.status = .registered)
      = (map k).any (fun r => r.status = .registered) := by
  rcases @attachOne_cases rt sdk program_id mint map ev
    fetched with ⟨_, _, -, -, hrun⟩ | ⟨raw, reg_tx, hchecks, -, hrun⟩ | ⟨-, hrun⟩
  · exact nomatch hrun.symm.trans h
  · obtain rfl := Except.ok.inj (hrun.symm.trans h)
    by_cases hk : k = raw.receiver
    · subst hk
      rw [Function.update_self, Bool.eq_false_iff.mpr hchecks.open_]
      rfl
    · rw [Function.update_of_ne hk]
  · obtain rfl := Except.ok.inj (hrun.symm.trans h)
    rfl

/-- The announcements of a batch that are checked can be looked at. -/
def AnnouncesInRange (rt : Runtime) (sdk : Sdk) (program_id mint : Pubkey) (map : ReceiverMap)
    (events : List (AnchorEvent × Option Bytes)) : Prop :=
  ∀ p ∈ events, ∀ raw reg_tx, Checks map p.1 p.2 raw reg_tx →
    InRange rt sdk raw reg_tx program_id mint

theorem attach_panics_iff {map : ReceiverMap} {events : List (AnchorEvent × Option Bytes)} :
    attachRegTxAndMerge rt sdk program_id mint map events = .error .panicked ↔
      ¬ AnnouncesInRange rt sdk program_id mint map events := by
  induction events generalizing map with
  | nil => exact iff_of_false nofun (not_not_intro nofun)
  | cons p rest ih =>
      obtain ⟨ev, fetched⟩ := p
      have hsplit : AnnouncesInRange rt sdk program_id mint map ((ev, fetched) :: rest) ↔
          (∀ raw reg_tx, Checks map ev fetched raw reg_tx →
            InRange rt sdk raw reg_tx program_id mint) ∧
          AnnouncesInRange rt sdk program_id mint map rest := List.forall_mem_cons
      have hagree : ∀ map', attachOne rt sdk program_id mint map ev fetched = .ok map' →
          (AnnouncesInRange rt sdk program_id mint map' rest ↔
            AnnouncesInRange rt sdk program_id mint map rest) := by
        intro map' h
        refine forall₂_congr fun q _ => forall₂_congr fun raw reg_tx => imp_congr_left ?_
        have hk := attachOne_registered h raw.receiver
        exact ⟨fun c => ⟨c.name, c.decodes, hk ▸ c.open_, c.fetched⟩,
          fun c => ⟨c.name, c.decodes, hk ▸ c.open_, c.fetched⟩⟩
      rw [attachRegTxAndMerge, hsplit]
      rcases @attachOne_cases rt sdk program_id mint map
        ev fetched with ⟨raw, reg_tx, hchecks, hvalid, hrun⟩ | ⟨raw, reg_tx, hchecks, hvalid, hrun⟩
          | ⟨hbails, hrun⟩
      · rw [hrun, error_bind]
        refine iff_of_true rfl fun h => ?_
        exact validateAnnounce_panics_iff.mp hvalid (h.1 raw reg_tx hchecks)
      all_goals
        have hhead : ∀ raw reg_tx, Checks map ev fetched raw reg_tx →
            InRange rt sdk raw reg_tx program_id mint := by
          intro raw' reg_tx' h
          by_contra hnot
          have hpanics := validateAnnounce_panics_iff.mpr hnot
          first
            | (obtain ⟨message, hb⟩ := hbails raw' reg_tx' h
               exact nomatch hb.symm.trans hpanics)
            | (obtain rfl := Except.ok.inj (hchecks.decodes.symm.trans h.decodes)
               obtain rfl := Option.some.inj (hchecks.fetched.symm.trans h.fetched)
               exact nomatch hvalid.symm.trans hpanics)
        rw [hrun, ok_bind, ih, hagree _ hrun]
        exact not_congr (and_iff_right hhead).symm

end

/-- **Which inputs stop the indexer.**  The check of an announcement returns unless it looks up a
position outside the transaction's keys; a batch of events is folded unless one of its
announcements does so; and the transfers are decoded unless a record's text is cut outside its
range or inside a character. -/
theorem indexer_returns_iff (rt : Runtime) (sdk : Sdk) (kt : KeyText) (program_id mint : Pubkey) :
    (∀ ev reg_tx, validateAnnounce rt sdk ev reg_tx program_id mint ≠ .error .panicked ↔
      InRange rt sdk ev reg_tx program_id mint) ∧
    (∀ map events, attachRegTxAndMerge rt sdk program_id mint map events ≠ .error .panicked ↔
      AnnouncesInRange rt sdk program_id mint map events) ∧
    (∀ records, decodeTransfers kt records ≠ .error .panicked ↔
      ∀ p ∈ records, p.2.Keyed kt → Sliceable (trimStart0x p.2.data)) := by
  refine ⟨fun ev reg_tx => ?_, fun map events => ?_, fun records => ?_⟩
  · rw [ne_eq, validateAnnounce_panics_iff, not_not]
  · rw [ne_eq, attach_panics_iff, not_not]
  · rw [ne_eq, decodeTransfers_panics_iff]
    simp only [not_exists, not_and, not_not]

namespace PanicSample

/-- An announcement whose addresses are the ones the indexer derives. -/
def announced : RawReceiverAnnounced where
  merchant := Sample.merchant
  receiver := Sample.receiver
  receiver_token_account := ledgerRuntime.ata Sample.receiver Sample.mint
  receiver_config := expectConfig ledgerRuntime 100 Sample.receiver
  cctp_burn_staging_account :=
    ledgerRuntime.ata (expectConfig ledgerRuntime 100 Sample.receiver) Sample.mint
  pending_registration := expectPending ledgerRuntime 100 Sample.receiver
  cctp_mint_chain := 0
  cctp_mint_recipient := 0

/-- A transaction without keys, whose only instruction names the sixth. -/
def keyless : Transaction := ⟨[], 0, 0, 0, [], 0, [⟨5, [], []⟩]⟩

/-- `0x3`: a transfer's first byte, half of it. -/
def halfByte : PortalInstruction :=
  ⟨[base58Text.toText 1, base58Text.toText 2, base58Text.toText 3], asciiBytes "0x3".toList⟩

end PanicSample

set_option maxRecDepth 20000 in
/-- Either input stops the worker. -/
theorem indexer_panics :
    validateAnnounce ledgerRuntime wireSdk PanicSample.announced
        (wireSdk.serialize PanicSample.keyless) 100 Sample.mint = .error .panicked ∧
      decodeTransfers base58Text [(0, PanicSample.halfByte)] = .error .panicked := by
  refine ⟨by decide +kernel, ?_⟩
  rw [decodeTransfers_panics_iff]
  refine ⟨_, List.mem_singleton_self _, ⟨?_, ?_, ?_⟩, ?_⟩
  · simp [PortalInstruction.pubkey, PanicSample.halfByte, base58Text.parse_toText]
  · simp [PortalInstruction.pubkey, PanicSample.halfByte, base58Text.parse_toText]
  · simp [PortalInstruction.pubkey, PanicSample.halfByte, base58Text.parse_toText]
  · exact id

end Beanie.Keeper
