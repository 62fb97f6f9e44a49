/-
# `Beanie.Keeper.StarknetProgress` — what the Starknet checkpoints vouch for

The worker scans the registry and the deposits, in any order and as often as
the tips come.  A checkpoint moves chunk by chunk, and the records are handed
over at the end; so a checkpoint vouches for what was found before it as long
as no scan fails with something in hand.

    Progress             the two checkpoints, and what was returned
    Kept                 nothing that a checkpoint covers is lost
    progress_kept_iff    which runs keep it so
-/
import Beanie.Keeper.StarknetIndexer
import Beanie.Lib.Run

namespace Beanie.Keeper

open Beanie.Starknet (Felt)

/-- One scan: how far it goes, and how its pages are answered. -/
inductive StarknetScan
  | registry (to_block : Nat) (pages : List (List Bool))
  | deposits (receivers : List Felt) (to_block : Nat) (pages : List (List Bool))

structure StarknetProgress where
  registry : Tracker Unit StarknetReceiverRecord
  deposits : Tracker (List Felt) Deposit
  /-- Is a scan in progress? -/
  busy : Bool

def Outcome.isRunning {ρ : Type} : Outcome ρ → Bool
  | .running _ => true
  | _ => false

/-- A worker on an empty log cache. -/
def StarknetProgress.fresh : StarknetProgress where
  registry := ⟨none, [], [], []⟩
  deposits := ⟨none, [], [], []⟩
  busy := false

section
variable (tx : StarknetTexts) (chain : StarknetChain) (cfg : StarknetConfig)

def StarknetProgress.next (s : StarknetProgress) : StarknetScan → StarknetProgress
  | .registry to_block pages =>
      let scan := discoverMerchants tx chain cfg s.registry.checkpoint to_block pages
      { s with
        registry := s.registry.take cfg.registry_start_block () scan
        busy := Outcome.isRunning scan.outcome }
  | .deposits receivers to_block pages =>
      let scan := fetchDepositsSinceBlock tx chain cfg receivers s.deposits.checkpoint to_block pages
      { s with
        deposits := s.deposits.take cfg.deposit_start_block receivers scan
        busy := Outcome.isRunning scan.outcome }

/-- One scan after another. -/
def StarknetStep (s : StarknetProgress) (a : StarknetScan) (s' : StarknetProgress) : Prop :=
  s.busy = false ∧ s' = s.next tx chain cfg a

/-- Whatever the checkpoints cover has been returned, or is about to be: every registry record from
the start block on, and every deposit to a receiver of the set its block was scanned with. -/
structure Kept (s : StarknetProgress) : Prop where
  registry : ∀ n, cfg.registry_start_block ≤ n →
    n < watermark cfg.registry_start_block s.registry.checkpoint →
      ∀ r ∈ registryRecords tx chain n, r ∈ s.registry.returned ∨ r ∈ s.registry.pending
  deposits : ∀ n receivers, (n, receivers) ∈ s.deposits.scanned →
    ∀ d ∈ depositsTo tx chain receivers n, d ∈ s.deposits.returned ∨ d ∈ s.deposits.pending

/-- A scan that fails had found nothing new by then. -/
def FailsEmptyHanded (t : Transition StarknetProgress StarknetScan) : Prop :=
  match t.act with
  | .registry to_block pages =>
      let current_from := watermark cfg.registry_start_block t.pre.registry.checkpoint
      Fails current_from to_block pages →
        ∀ r ∈ between (registryRecords tx chain) current_from
          (reach MAX_BLOCK_RANGE current_from to_block (successes (chunkAnswers pages))),
          r ∈ t.pre.registry.returned
  | .deposits receivers to_block pages =>
      let current_from := watermark cfg.deposit_start_block t.pre.deposits.checkpoint
      receivers ≠ [] ∧ Fails current_from to_block pages →
        ∀ d ∈ between (depositsTo tx chain receivers) current_from
          (depositReach cfg receivers t.pre.deposits.checkpoint to_block pages),
          d ∈ t.pre.deposits.returned

end

section
variable {tx : StarknetTexts} {chain : StarknetChain} {cfg : StarknetConfig}

/-- What holds of every state: the checkpoints stand for the blocks scanned, and records are
pending only while a scan is in progress. -/
structure StarknetProgress.Sound (cfg : StarknetConfig) (s : StarknetProgress) : Prop where
  registry : s.registry.Contiguous cfg.registry_start_block
  deposits : s.deposits.Contiguous cfg.deposit_start_block
  idle : s.busy = false → s.registry.pending = [] ∧ s.deposits.pending = []

theorem sound_fresh : StarknetProgress.fresh.Sound cfg where
  registry := ⟨le_refl _, by simp [StarknetProgress.fresh, watermark]⟩
  deposits := ⟨le_refl _, by simp [StarknetProgress.fresh, watermark]⟩
  idle _ := ⟨rfl, rfl⟩

/-- Only a scan in progress leaves anything pending. -/
theorem pending_take {φ ρ : Type} {start : Nat} {t : Tracker φ ρ} {f : φ} {s : Scan ρ}
    (h : Outcome.isRunning s.outcome = false) : (t.take start f s).pending = [] := by
  unfold Tracker.take
  cases houtcome : s.outcome with
  | done found => rfl
  | failed => rfl
  | running found =>
      rw [houtcome] at h
      cases h

theorem sound_next {s : StarknetProgress} (h : s.Sound cfg) (hbusy : s.busy = false)
    (a : StarknetScan) : (s.next tx chain cfg a).Sound cfg := by
  obtain ⟨hregistry, hdeposits⟩ := h.idle hbusy
  cases a with
  | registry to_block pages =>
      exact ⟨Tracker.contiguous_take h.registry (discoverMerchants_covers ..), h.deposits,
        fun hidle => ⟨pending_take hidle, hdeposits⟩⟩
  | deposits receivers to_block pages =>
      exact ⟨h.registry, Tracker.contiguous_take h.deposits (fetchDeposits_covers ..),
        fun hidle => ⟨hregistry, pending_take hidle⟩⟩

/-- Blocks are scanned in order, so block by block is the same as scan by scan. -/
theorem kept_iff_held {s : StarknetProgress} (h : s.Sound cfg) :
    Kept tx chain cfg s ↔
      s.registry.Held (fun _ => registryRecords tx chain) ∧
        s.deposits.Held (fun receivers => depositsTo tx chain receivers) := by
  obtain ⟨hle, hmap⟩ := h.registry
  have hmem : ∀ n, (n, ()) ∈ s.registry.scanned ↔
      cfg.registry_start_block ≤ n ∧
        n < watermark cfg.registry_start_block s.registry.checkpoint := by
    intro n
    have hfst : (n, ()) ∈ s.registry.scanned ↔ n ∈ s.registry.scanned.map Prod.fst := by
      rw [List.mem_map]
      exact ⟨fun hn => ⟨_, hn, rfl⟩, fun ⟨p, hp, hn⟩ => hn ▸ hp⟩
    rw [hfst, hmap, List.mem_range'_1]
    omega
  constructor
  · rintro ⟨hregistry, hdeposits⟩
    refine ⟨?_, hdeposits⟩
    intro n f hn
    obtain ⟨hle, hlt⟩ := (hmem n).mp hn
    exact hregistry n hle hlt
  · rintro ⟨hregistry, hdeposits⟩
    exact ⟨fun n hle hlt => hregistry n () ((hmem n).mpr ⟨hle, hlt⟩), hdeposits⟩

theorem kept_next_iff {s : StarknetProgress} (h : s.Sound cfg) (hbusy : s.busy = false)
    (hkept : Kept tx chain cfg s) (a : StarknetScan) :
    Kept tx chain cfg (s.next tx chain cfg a) ↔
      FailsEmptyHanded tx chain cfg ⟨s, a, s.next tx chain cfg a⟩ := by
  obtain ⟨hregistry, hdeposits⟩ := (kept_iff_held h).mp hkept
  obtain ⟨hidle, hidle'⟩ := h.idle hbusy
  rw [kept_iff_held (sound_next h hbusy a)]
  cases a with
  | registry to_block pages =>
      have htake := Tracker.held_take_iff () hregistry hidle
        (discoverMerchants_covers tx chain cfg s.registry.checkpoint to_block pages)
      rw [discoverMerchants_failed_iff] at htake
      exact ⟨fun hboth => htake.mp hboth.1, fun hcond => ⟨htake.mpr hcond, hdeposits⟩⟩
  | deposits receivers to_block pages =>
      have htake := Tracker.held_take_iff receivers hdeposits hidle'
        (fetchDeposits_covers tx chain cfg receivers s.deposits.checkpoint to_block pages)
      rw [fetchDeposits_failed_iff] at htake
      exact ⟨fun hboth => htake.mp hboth.2, fun hcond => ⟨hregistry, htake.mpr hcond⟩⟩

theorem kept_fresh : Kept tx chain cfg StarknetProgress.fresh where
  registry _ hle hlt := absurd hle (Nat.not_le.mpr hlt)
  deposits _ _ h := nomatch h

end

/-- **What the checkpoints vouch for.**  In a run from an empty cache, nothing that a checkpoint
covers is ever lost iff every scan that fails does so with nothing new in hand. -/
theorem progress_kept_iff (tx : StarknetTexts) (chain : StarknetChain) (cfg : StarknetConfig)
    {s : StarknetProgress} {tr : List (Transition StarknetProgress StarknetScan)}
    (h : Steps (StarknetStep tx chain cfg) StarknetProgress.fresh tr s) :
    (∀ t ∈ tr, Kept tx chain cfg t.post) ↔ ∀ t ∈ tr, FailsEmptyHanded tx chain cfg t := by
  refine h.invariant_iff (J := StarknetProgress.Sound cfg) ?_ ?_ sound_fresh kept_fresh
  · rintro s a _ ⟨hbusy, rfl⟩ hsound
    exact sound_next hsound hbusy a
  · rintro s a _ ⟨hbusy, rfl⟩ hsound hkept
    exact kept_next_iff hsound hbusy hkept a

namespace ProgressSample

def texts : StarknetTexts := hexTexts 1 2 3

/-- The factory announces a receiver in its first block. -/
def chain : StarknetChain where
  factory n := if n = 0 then [⟨2, [2], [7, 8, 0, 0, 0], ""⟩] else []
  token _ := []

def cfg : StarknetConfig := ⟨0, 0⟩

/-- A scan of a thousand and one blocks, whose second chunk does not come in. -/
def scan : StarknetScan := .registry 1000 [[true], [false]]

/-- The same without the failure. -/
def scanned : StarknetScan := .registry 1000 [[true], [true]]

theorem run (a : StarknetScan) :
    Steps (StarknetStep texts chain cfg) .fresh
      [⟨.fresh, a, StarknetProgress.fresh.next texts chain cfg a⟩]
      (StarknetProgress.fresh.next texts chain cfg a) :=
  .step ⟨rfl, rfl⟩ (.refl _)

end ProgressSample

open ProgressSample in
/-- A run that keeps everything, judged by its scan. -/
theorem progress_kept_sample :
    Kept texts chain cfg (StarknetProgress.fresh.next texts chain cfg scanned) := by
  refine (progress_kept_iff texts chain cfg (run scanned)).mpr ?_ _ (List.mem_singleton_self _)
  intro t ht
  obtain rfl := List.mem_singleton.mp ht
  rintro ⟨hfalse, -⟩
  cases hfalse

open ProgressSample in
/-- The second chunk fails, and the receiver of the first one is never heard of again. -/
theorem progress_not_kept :
    ¬ ∀ (tx : StarknetTexts) (chain : StarknetChain) (cfg : StarknetConfig) s tr,
      Steps (StarknetStep tx chain cfg) StarknetProgress.fresh tr s →
        ∀ t ∈ tr, Kept tx chain cfg t.post := by
  intro h
  have hkept := h texts chain cfg _ _ (run scan) _ (List.mem_singleton_self _)
  have hempty := (kept_next_iff sound_fresh rfl kept_fresh scan).mp hkept
  have hblock : (⟨7, 8, some ⟨0, 0, 0⟩⟩ : StarknetReceiverRecord) ∈
      registryRecords texts chain 0 := List.mem_singleton_self _
  have hreach : 0 < reach MAX_BLOCK_RANGE 0 1000 (successes (chunkAnswers [[true], [false]])) := by
    decide +kernel
  have hrecord := mem_between.mpr ⟨0, le_refl 0, hreach, hblock⟩
  have hfails : Fails 0 1000 [[true], [false]] := ⟨rfl, by decide +kernel⟩
  exact absurd (hempty hfails _ hrecord) List.not_mem_nil

end Beanie.Keeper
