/-
# `Beanie.Keeper.StarknetIndexer` — the Starknet registry and deposit scans

`starknet_indexer.rs`: what an event decodes to, and the two scans, which go
over the blocks after their checkpoint in chunks of `MAX_BLOCK_RANGE` and set
it after each chunk.  The node answers page by page; a page that does not come
in fails the scan.

    recordOf, depositOf        the two decoders
    discoverMerchants          the registry scan
    fetchDepositsSinceBlock    the deposit scan
    runStarknetCatchup         both, at startup
-/
import Beanie.Lib.Scan
import Beanie.Lib.Text
import Beanie.Keeper.TokenTransfers
import Beanie.Starknet.Calls

namespace Beanie.Keeper

open Beanie.Starknet (Felt)

structure StarknetRoute where
  chain : Felt
  recipient_low : Felt
  recipient_high : Felt
deriving DecidableEq

structure StarknetReceiverRecord where
  merchant : Felt
  receiver : Felt
  route : Option StarknetRoute
deriving DecidableEq

structure DecodedEvent where
  selector : Felt
  keys : List Felt
  data : List Felt
  transaction_hash : String

/-- What the indexer takes from the `starknet` crate: selectors, and field elements as texts. -/
structure StarknetTexts where
  merchant_registered : Felt
  receiver_announced : Felt
  transfer : Felt
  showFelt : Felt → String
  parseFelt : String → Option Felt
  parse_show : ∀ f, parseFelt (showFelt f) = some f

/-- Field elements as `{:#x}` writes them, and three selectors. -/
def hexTexts (merchant_registered receiver_announced transfer : Felt) : StarknetTexts where
  merchant_registered := merchant_registered
  receiver_announced := receiver_announced
  transfer := transfer
  showFelt f := String.ofList (hexLiteral f.val)
  parseFelt s :=
    match s.toList with
    | '0' :: 'x' :: ds => some (Fin.ofNat Starknet.P (hexValue ds))
    | _ => none
  parse_show f := by
    rw [String.toList_ofList]
    show some (Fin.ofNat Starknet.P (hexValue (Nat.toDigits 16 f.val))) = some f
    rw [hexValue_toDigits_sixteen, Fin.ofNat_val_eq_self]

/-- What `StarknetConfig` holds for the scans. -/
structure StarknetConfig where
  registry_start_block : Nat
  deposit_start_block : Nat

/-- The events of the factory and of the token, block by block. -/
structure StarknetChain where
  factory : Nat → List DecodedEvent
  token : Nat → List DecodedEvent

def MAX_BLOCK_RANGE : Nat := 1000

section
variable (tx : StarknetTexts)

/-! ## Decoding -/

/-- One event of the factory; a shape that does not match is skipped with a warning. -/
def recordOf (evt : DecodedEvent) : Option StarknetReceiverRecord :=
  if evt.selector = tx.merchant_registered then
    match evt.data with
    | m :: r :: _ => some ⟨m, r, none⟩
    | _ => none
  else if evt.selector = tx.receiver_announced then
    match evt.data with
    | m :: r :: chain :: low :: high :: _ => some ⟨m, r, some ⟨chain, low, high⟩⟩
    | _ => none
  else none

/-- `Felt::try_into::<u128>`, or 0. -/
def toU128 (f : Felt) : Nat := if f.val < 2 ^ 128 then f.val else 0

/-- `{n:032x}`. -/
def padHex (n : Nat) : List Char :=
  let digits := Nat.toDigits 16 n
  List.replicate (32 - digits.length) '0' ++ digits

/-- Decimal, unless the high half is set. -/
def u256ToString (low high : Felt) : String :=
  if toU128 high = 0 then toString (toU128 low)
  else String.ofList ((padHex (toU128 high) ++ padHex (toU128 low)).dropWhile (· = '0'))

/-- One `Transfer` of the token, if it is to one of the receivers. -/
def depositOf (receivers : List Felt) (block : Nat) (evt : DecodedEvent) : Option Deposit :=
  if evt.selector ≠ tx.transfer then none
  else
    match evt.keys[1]?, evt.keys[2]? with
    | some sender, some target =>
        if target ∉ receivers then none
        else
          some
            { tx_hash := evt.transaction_hash
              from_address := tx.showFelt sender
              receiver := tx.showFelt target
              amount_raw :=
                match evt.data with
                | low :: high :: _ => u256ToString low high
                | _ => "0"
              block_number := block }
    | _, _ => none

/-! ## The scans -/

variable (chain : StarknetChain)

/-- The registry records of a block. -/
def registryRecords (n : Nat) : List StarknetReceiverRecord :=
  (chain.factory n).filterMap (recordOf tx)

/-- The deposits of a block to one of the receivers. -/
def depositsTo (receivers : List Felt) (n : Nat) : List Deposit :=
  (chain.token n).filterMap (depositOf tx receivers n)

/-- The pages of a chunk: did all of them come in? -/
def chunkAnswers (pages : List (List Bool)) : List Bool := pages.map fun chunk => chunk.all id

variable (cfg : StarknetConfig)

def discoverMerchants (checkpoint : Option Nat) (to_block : Nat) (pages : List (List Bool)) :
    Scan StarknetReceiverRecord :=
  scanChunks (registryRecords tx chain) MAX_BLOCK_RANGE to_block (chunkAnswers pages) checkpoint
    (watermark cfg.registry_start_block checkpoint) []

/-- `sort_by_key`, of a scan that is through. -/
def sortDeposits : Outcome Deposit → Outcome Deposit
  | .done found => .done (found.insertionSort (·.block_number ≤ ·.block_number))
  | other => other

def fetchDepositsSinceBlock (receivers : List Felt) (checkpoint : Option Nat) (to_block : Nat)
    (pages : List (List Bool)) : Scan Deposit :=
  if receivers.isEmpty then ⟨checkpoint, .done []⟩
  else
    let scan := scanChunks (depositsTo tx chain receivers) MAX_BLOCK_RANGE to_block
      (chunkAnswers pages) checkpoint (watermark cfg.deposit_start_block checkpoint) []
    ⟨scan.checkpoint, sortDeposits scan.outcome⟩

end

/-! ## What a scan covers -/

section
variable {tx : StarknetTexts} {chain : StarknetChain} {cfg : StarknetConfig}

variable (tx chain cfg) in
/-- Where the registry scan stops. -/
theorem discoverMerchants_covers (checkpoint : Option Nat) (to_block : Nat)
    (pages : List (List Bool)) :
    (discoverMerchants tx chain cfg checkpoint to_block pages).Covers (registryRecords tx chain)
      checkpoint (watermark cfg.registry_start_block checkpoint)
      (reach MAX_BLOCK_RANGE (watermark cfg.registry_start_block checkpoint) to_block
        (successes (chunkAnswers pages))) [] :=
  scanChunks_covers _ (by decide) ..

/-- Where the deposit scan stops; without receivers it does not start. -/
def depositReach (cfg : StarknetConfig) (receivers : List Felt) (checkpoint : Option Nat)
    (to_block : Nat) (pages : List (List Bool)) : Nat :=
  if receivers.isEmpty then watermark cfg.deposit_start_block checkpoint
  else reach MAX_BLOCK_RANGE (watermark cfg.deposit_start_block checkpoint) to_block
    (successes (chunkAnswers pages))

variable (tx chain cfg) in
theorem fetchDeposits_covers (receivers : List Felt) (checkpoint : Option Nat) (to_block : Nat)
    (pages : List (List Bool)) :
    (fetchDepositsSinceBlock tx chain cfg receivers checkpoint to_block pages).Covers
      (depositsTo tx chain receivers) checkpoint (watermark cfg.deposit_start_block checkpoint)
      (depositReach cfg receivers checkpoint to_block pages) [] := by
  unfold fetchDepositsSinceBlock depositReach
  by_cases hempty : receivers.isEmpty = true
  · rw [if_pos hempty, if_pos hempty]
    exact ⟨le_refl _, by rw [if_pos rfl], fun _ => by simp⟩
  · rw [if_neg hempty, if_neg hempty]
    obtain ⟨hle, hcheckpoint, hfound⟩ := scanChunks_covers (depositsTo tx chain receivers)
      (show 0 < MAX_BLOCK_RANGE by decide) to_block (chunkAnswers pages) checkpoint
      (watermark cfg.deposit_start_block checkpoint) []
    refine ⟨hle, hcheckpoint, ?_⟩
    dsimp only
    intro hfailed r hr
    cases houtcome : (scanChunks (depositsTo tx chain receivers) MAX_BLOCK_RANGE to_block
        (chunkAnswers pages) checkpoint (watermark cfg.deposit_start_block checkpoint) []).outcome with
    | done found =>
        rw [houtcome] at hfound
        exact (List.mem_insertionSort _).mpr (hfound (by nofun) hr)
    | failed =>
        rw [houtcome] at hfailed
        exact absurd rfl hfailed
    | running found =>
        rw [houtcome] at hfound
        exact hfound (by nofun) hr

/-- What a deposit scan returns: everything up to the head, if it gets that far. -/
theorem mem_fetchDeposits_iff {receivers : List Felt} (hne : receivers.isEmpty = false)
    {checkpoint : Option Nat} {to_block : Nat} {pages : List (List Bool)} {d : Deposit} :
    d ∈ (fetchDepositsSinceBlock tx chain cfg receivers checkpoint to_block
        pages).outcome.returned ↔
      to_block < watermark cfg.deposit_start_block checkpoint
          + MAX_BLOCK_RANGE * successes (chunkAnswers pages) ∧
        ∃ n, watermark cfg.deposit_start_block checkpoint ≤ n ∧ n ≤ to_block ∧
          d ∈ depositsTo tx chain receivers n := by
  unfold fetchDepositsSinceBlock
  rw [if_neg (by rw [hne]; decide)]
  dsimp only
  have hdone := scanChunks_done_iff (depositsTo tx chain receivers)
    (show 0 < MAX_BLOCK_RANGE by decide) to_block (chunkAnswers pages) checkpoint
    (watermark cfg.deposit_start_block checkpoint) []
  rw [← hdone]
  cases houtcome : (scanChunks (depositsTo tx chain receivers) MAX_BLOCK_RANGE to_block
      (chunkAnswers pages) checkpoint (watermark cfg.deposit_start_block checkpoint) []).outcome with
  | done found =>
      have hfound := scanChunks_done _ (by decide) _ houtcome
      rw [List.nil_append] at hfound
      have hmem : d ∈ found ↔ ∃ n, watermark cfg.deposit_start_block checkpoint ≤ n ∧
          n ≤ to_block ∧ d ∈ depositsTo tx chain receivers n := by
        rw [hfound, mem_between]
        refine exists_congr fun n => ⟨?_, ?_⟩
        · rintro ⟨hle, hlt, hd⟩
          exact ⟨hle, by omega, hd⟩
        · rintro ⟨hle, hle', hd⟩
          exact ⟨hle, by omega, hd⟩
      rw [← hmem]
      exact ⟨fun h => ⟨⟨found, rfl⟩, (List.mem_insertionSort _).mp h⟩,
        fun h => (List.mem_insertionSort _).mpr h.2⟩
  | failed => exact ⟨nofun, fun h => nomatch h.1⟩
  | running found => exact ⟨nofun, fun h => nomatch h.1⟩

/-- Does a scan of `to_block` fail on these answers, before it is through? -/
def Fails (current_from to_block : Nat) (pages : List (List Bool)) : Prop :=
  (chunkAnswers pages)[successes (chunkAnswers pages)]? = some false ∧
    current_from + MAX_BLOCK_RANGE * successes (chunkAnswers pages) ≤ to_block

theorem discoverMerchants_failed_iff (checkpoint : Option Nat) (to_block : Nat)
    (pages : List (List Bool)) :
    (discoverMerchants tx chain cfg checkpoint to_block pages).outcome = .failed ↔
      Fails (watermark cfg.registry_start_block checkpoint) to_block pages :=
  scanChunks_failed_iff _ (by decide) ..

theorem fetchDeposits_failed_iff (receivers : List Felt) (checkpoint : Option Nat)
    (to_block : Nat) (pages : List (List Bool)) :
    (fetchDepositsSinceBlock tx chain cfg receivers checkpoint to_block pages).outcome = .failed ↔
      receivers ≠ [] ∧ Fails (watermark cfg.deposit_start_block checkpoint) to_block pages := by
  unfold fetchDepositsSinceBlock
  by_cases hempty : receivers.isEmpty = true
  · rw [if_pos hempty]
    exact ⟨nofun, fun h => absurd (List.isEmpty_iff.mp hempty) h.1⟩
  · rw [if_neg hempty]
    have hne : receivers ≠ [] := fun h => hempty (List.isEmpty_iff.mpr h)
    have hfailed : ∀ o : Outcome Deposit, sortDeposits o = .failed ↔ o = .failed := by
      intro o
      cases o <;> simp [sortDeposits]
    rw [hfailed, scanChunks_failed_iff _ (by decide)]
    exact ⟨fun h => ⟨hne, h⟩, And.right⟩

end

end Beanie.Keeper
