/-
# `Beanie.Keeper.EvmRegistry` — the registry, rebuilt from cached chunks

At startup the registry is scanned from its first block, in chunks of a fixed
size; a chunk that is settled is kept in the log cache, and read from there the
next time.  All EVM chains share the cache, and a chunk is found again by the
two contract addresses and its range.

    rebuildRegistryState    the rebuild
    chunkKey_inj            what a key says
    CacheSound              whose logs a cached chunk may hold
    rebuild_is_full_scan    when the rebuild is a scan of the chain's own logs
-/
import Beanie.Keeper.EvmIndexer
import Beanie.Lib.Run

namespace Beanie.Keeper

open Beanie.Api (Address EvmReceiverRecord)

/-! ## The log cache -/

structure LogCache where
  chunks : Text → Option RegistryChunk
  checkpoints : Text → Option Nat

namespace LogCache

def empty : LogCache := ⟨fun _ => none, fun _ => none⟩

def putChunk (cache : LogCache) (key : Text) (chunk : RegistryChunk) : LogCache :=
  { cache with chunks := Function.update cache.chunks key (some chunk) }

def setCheckpoint (cache : LogCache) (scan_id : Text) (block : Nat) : LogCache :=
  { cache with checkpoints := Function.update cache.checkpoints scan_id (some block) }

end LogCache

def chunkKey (scan_id : Text) (chunk_start chunk_end : Nat) : Text :=
  scan_id ++ ':' :: padded 20 chunk_start ++ ':' :: padded 20 chunk_end

def registryWebhookScanId (cfg : EvmConfig) : Text :=
  "evm:".toList ++ cfg.chain_name ++ ":registry_webhook".toList

def depositsScanId (cfg : EvmConfig) : Text :=
  "evm:".toList ++ cfg.chain_name ++ ":deposits:v2".toList

/-- The scan id of the cached chunks: the two addresses, and not the chain. -/
def registryChunksScanId (cfg : EvmConfig) : Text :=
  "evm:registry_chunks:".toList ++ (showAddress cfg.factory_address
    ++ ':' :: showAddress cfg.webhook_registry_address)

/-- What a key says: the two addresses, and the range. -/
theorem chunkKey_inj {cfg cfg' : EvmConfig} {s e s' e' : Nat}
    (h : chunkKey (registryChunksScanId cfg) s e = chunkKey (registryChunksScanId cfg') s' e') :
    cfg.factory_address = cfg'.factory_address ∧
      cfg.webhook_registry_address = cfg'.webhook_registry_address ∧ s = s' ∧ e = e' := by
  unfold chunkKey registryChunksScanId at h
  generalize "evm:registry_chunks:".toList = label at h
  simp only [List.append_assoc, List.cons_append] at h
  have h := List.append_cancel_left h
  obtain ⟨hfactory, h⟩ := append_sep_inj (colon_not_mem_showAddress _)
    (colon_not_mem_showAddress _) h
  obtain ⟨hwebhook, h⟩ := append_sep_inj (colon_not_mem_showAddress _)
    (colon_not_mem_showAddress _) h
  obtain ⟨hs, he⟩ := append_sep_inj (colon_not_mem_padded _ _) (colon_not_mem_padded _ _) h
  exact ⟨showAddress_inj hfactory, showAddress_inj hwebhook, padded_inj hs, padded_inj he⟩

/-- `chunk_ranges`, from where its cursor is. -/
def chunkRanges (cursor to_block step : Nat) : List (Nat × Nat) :=
  if to_block < cursor then []
  else
    let chunk_end := min (cursor + max step 1 - 1) to_block
    (cursor, chunk_end) :: chunkRanges (chunk_end + 1) to_block step
termination_by to_block + 1 - cursor

/-! ## The rebuild -/

/-- What happens while one chunk is dealt with. -/
structure ChunkAnswers where
  /-- `get_chunk` returns `Ok` -/
  readable : Bool
  responses : List (Portal PortalBlock)
  /-- `put_chunk` returns `Ok` -/
  stored : Bool

structure RegistrySnapshot where
  merchants : List EvmReceiverRecord
  webhooks : List (Address × Text)
  scanned_to : Nat

/-- The variables of the loop, and the cache. -/
structure RebuildState where
  cache : LogCache
  merchants : List EvmReceiverRecord
  webhooks : List (Address × Text)
  scanned_to : Option Nat

inductive Halt
  | finished
  | failed
  /-- still waiting for a response, or killed there -/
  | running
deriving DecidableEq

section
variable (tx : EvmTexts) (cfg : EvmConfig)

/-- `discover_registry_range`. -/
def discoverRegistryRange (checkpoint : Option Nat) (from_block to_block max_window : Nat)
    (persist_checkpoint : Bool) (responses : List (Portal PortalBlock)) :
    Streamed RegistryRecord :=
  streamLogs (fun _ => decodeLog tx) max_window persist_checkpoint checkpoint from_block to_block
    responses

/-- A chunk that is complete, and far enough behind the head. -/
def Settled (to_block chunk_start chunk_end : Nat) : Prop :=
  chunk_end - chunk_start + 1 = REGISTRY_CHUNK_BLOCKS ∧ chunk_end + REORG_SAFETY_BLOCKS ≤ to_block

instance (to_block chunk_start chunk_end : Nat) : Decidable (Settled to_block chunk_start chunk_end) :=
  inferInstanceAs (Decidable (_ ∧ _))

variable (to_block : Nat)

/-- The chunk in the cache, if it is looked for and readable. -/
def cachedChunk (cache : LogCache) (readable : Bool) (chunk_start chunk_end : Nat) :
    Option RegistryChunk :=
  if Settled to_block chunk_start chunk_end ∧ readable = true then
    cache.chunks (chunkKey (registryChunksScanId cfg) chunk_start chunk_end)
  else none

/-- The loop. -/
def rebuildChunks : List (Nat × Nat) → List ChunkAnswers → RebuildState → RebuildState × Halt
  | [], _, st => (st, .finished)
  | _ :: _, [], st => (st, .running)
  | (chunk_start, chunk_end) :: chunks, answers :: rest, st =>
      match cachedChunk cfg to_block st.cache answers.readable chunk_start chunk_end with
      | some chunk =>
          rebuildChunks chunks rest
            { st with
              merchants := st.merchants ++ chunk.intoFound.1
              webhooks := st.webhooks ++ chunk.intoFound.2
              scanned_to := some chunk_end }
      | none =>
          let scan := discoverRegistryRange tx (st.cache.checkpoints (registryWebhookScanId cfg))
            chunk_start chunk_end REGISTRY_CHUNK_BLOCKS false answers.responses
          match scan.outcome with
          | .failed => (st, .failed)
          | .running _ => (st, .running)
          | .done found =>
              match scan.last_seen with
              | none => (st, .finished)
              | some last =>
                  let cache :=
                    if Settled to_block chunk_start chunk_end ∧ chunk_end ≤ last ∧
                        answers.stored = true then
                      st.cache.putChunk
                        (chunkKey (registryChunksScanId cfg) chunk_start chunk_end)
                        (.fromFound (receiversIn found) (webhooksIn found))
                    else st.cache
                  let st : RebuildState :=
                    { cache
                      merchants := st.merchants ++ receiversIn found
                      webhooks := st.webhooks ++ webhooksIn found
                      scanned_to := some last }
                  if last < chunk_end then (st, .finished) else rebuildChunks chunks rest st

/-- The checkpoint of the live path, moved forward only. -/
def forwardCheckpoint (cache : LogCache) (scanned_to : Nat) : LogCache :=
  match cache.checkpoints (registryWebhookScanId cfg) with
  | some existing =>
      if existing < scanned_to then cache.setCheckpoint (registryWebhookScanId cfg) scanned_to
      else cache
  | none => cache.setCheckpoint (registryWebhookScanId cfg) scanned_to

/-- `rebuild_registry_state`: the cache afterwards, and the snapshot, unless it fails or does not get
that far.  `sled` says whether the checkpoint can be read and written. -/
def rebuildRegistryState (cache : LogCache) (answers : List ChunkAnswers) (sled : Bool) :
    LogCache × Option RegistrySnapshot :=
  let (st, halt) := rebuildChunks tx cfg to_block
    (chunkRanges cfg.start to_block REGISTRY_CHUNK_BLOCKS) answers ⟨cache, [], [], none⟩
  match halt, st.scanned_to, sled with
  | .finished, some scanned_to, true =>
      (forwardCheckpoint cfg st.cache scanned_to, some ⟨st.merchants, st.webhooks, scanned_to⟩)
  | _, _, _ => (st.cache, none)

end

/-! ## What the cache holds -/

section
variable (tx : EvmTexts) (chains : Text → Nat → List PortalLog) (configs : List EvmConfig)

/-- The records of a chain's own two contracts. -/
def ownRecords (cfg : EvmConfig) : Nat → List RegistryRecord :=
  evmRecords tx cfg (chains cfg.chain_name)

/-- The first block of a chunk. -/
def chunkStart (cfg : EvmConfig) (k : Nat) : Nat := cfg.start + k * REGISTRY_CHUNK_BLOCKS

/-- The records of a chunk. -/
def chunkRecords (cfg : EvmConfig) (k : Nat) : List RegistryRecord :=
  between (ownRecords tx chains cfg) (chunkStart cfg k) (chunkStart cfg (k + 1))

/-- Every cached chunk holds the logs of some chain that could have put it there. -/
def CacheSound (cache : LogCache) : Prop :=
  ∀ key chunk, cache.chunks key = some chunk → ∃ cfg ∈ configs, ∃ k,
    key = chunkKey (registryChunksScanId cfg) (chunkStart cfg k) (chunkStart cfg (k + 1) - 1) ∧
      chunk.intoFound = (receiversIn (chunkRecords tx chains cfg k),
        webhooksIn (chunkRecords tx chains cfg k))

/-- The chunks that are settled at a head are the chain's own: another chain with the same two
addresses, on which the same range is a chunk, has the same records in it. -/
def OwnChunks (cfg : EvmConfig) (to_block : Nat) : Prop :=
  ∀ k, chunkStart cfg (k + 1) - 1 + REORG_SAFETY_BLOCKS ≤ to_block →
    ∀ cfg' ∈ configs, cfg'.factory_address = cfg.factory_address →
      cfg'.webhook_registry_address = cfg.webhook_registry_address →
        ∀ k', chunkStart cfg' k' = chunkStart cfg k →
          chunkRecords tx chains cfg' k' = chunkRecords tx chains cfg k

end

section
variable {tx : EvmTexts} {chains : Text → Nat → List PortalLog} {configs : List EvmConfig}

theorem cacheSound_empty : CacheSound tx chains configs .empty := nofun

/-- Setting a checkpoint leaves the chunks alone. -/
theorem CacheSound.setCheckpoint {cache : LogCache} (h : CacheSound tx chains configs cache)
    (scan_id : Text) (block : Nat) :
    CacheSound tx chains configs (cache.setCheckpoint scan_id block) := h

theorem CacheSound.forward {cache : LogCache} (h : CacheSound tx chains configs cache)
    (cfg : EvmConfig) (scanned_to : Nat) :
    CacheSound tx chains configs (forwardCheckpoint cfg cache scanned_to) := by
  unfold forwardCheckpoint
  split
  · split_ifs
    · exact h.setCheckpoint _ _
    · exact h
  · exact h.setCheckpoint _ _

theorem CacheSound.putChunk {cache : LogCache} {cfg : EvmConfig} (k : Nat)
    (h : CacheSound tx chains configs cache) (hcfg : cfg ∈ configs) :
    CacheSound tx chains configs (cache.putChunk
      (chunkKey (registryChunksScanId cfg) (chunkStart cfg k) (chunkStart cfg (k + 1) - 1))
      (.fromFound (receiversIn (chunkRecords tx chains cfg k))
        (webhooksIn (chunkRecords tx chains cfg k)))) := by
  intro key chunk hchunk
  by_cases hkey : key = chunkKey (registryChunksScanId cfg) (chunkStart cfg k)
      (chunkStart cfg (k + 1) - 1)
  · subst hkey
    simp only [LogCache.putChunk, Function.update_self, Option.some.injEq] at hchunk
    subst hchunk
    exact ⟨cfg, hcfg, k, rfl, RegistryChunk.round_trip _ _⟩
  · simp only [LogCache.putChunk, Function.update_of_ne hkey] at hchunk
    exact h key chunk hchunk

/-- What is found under a chain's key is the chain's own chunk, if its chunks are its own. -/
theorem CacheSound.found {cache : LogCache} {cfg : EvmConfig} {to_block k : Nat}
    {chunk : RegistryChunk} (h : CacheSound tx chains configs cache)
    (hown : OwnChunks tx chains configs cfg to_block)
    (hsettled : chunkStart cfg (k + 1) - 1 + REORG_SAFETY_BLOCKS ≤ to_block)
    (hchunk : cache.chunks (chunkKey (registryChunksScanId cfg) (chunkStart cfg k)
      (chunkStart cfg (k + 1) - 1)) = some chunk) :
    chunk.intoFound = (receiversIn (chunkRecords tx chains cfg k),
      webhooksIn (chunkRecords tx chains cfg k)) := by
  obtain ⟨cfg', hcfg', k', hkey, hfound⟩ := h _ _ hchunk
  obtain ⟨hfactory, hwebhook, hstart, -⟩ := chunkKey_inj hkey
  rw [hfound, hown k hsettled cfg' hcfg' hfactory.symm hwebhook.symm k' hstart.symm]

/-! ## The loop -/

/-- The loop has the records of the blocks before `next`. -/
structure RebuildState.Upto (st : RebuildState) (records : Nat → List RegistryRecord)
    (start next : Nat) : Prop where
  le : start ≤ next
  merchants : st.merchants = receiversIn (between records start next)
  webhooks : st.webhooks = webhooksIn (between records start next)
  scanned_to : ∀ s, st.scanned_to = some s → s + 1 = next

theorem RebuildState.Upto.extend {st : RebuildState} {records : Nat → List RegistryRecord}
    {start next last : Nat} (h : st.Upto records start next) (hle : next ≤ last + 1)
    (cache : LogCache) {merchants : List EvmReceiverRecord} {webhooks : List (Address × Text)}
    (hmerchants : merchants = receiversIn (between records next (last + 1)))
    (hwebhooks : webhooks = webhooksIn (between records next (last + 1))) :
    (⟨cache, st.merchants ++ merchants, st.webhooks ++ webhooks, some last⟩ : RebuildState).Upto
      records start (last + 1) where
  le := h.le.trans hle
  merchants := by rw [h.merchants, hmerchants, ← receiversIn_append, between_append h.le hle]
  webhooks := by rw [h.webhooks, hwebhooks, ← webhooksIn_append, between_append h.le hle]
  scanned_to _ hs := congrArg (· + 1) (Option.some.inj hs).symm

theorem between_congr {ρ : Type} {f g : Nat → List ρ} {a b : Nat}
    (h : ∀ n, a ≤ n → n < b → f n = g n) : between f a b = between g a b := by
  refine List.flatMap_congr ?_
  intro n hn
  rw [List.mem_range'_1] at hn
  exact h n hn.1 (by omega)

theorem chunkStart_succ (cfg : EvmConfig) (k : Nat) :
    chunkStart cfg (k + 1) = chunkStart cfg k + REGISTRY_CHUNK_BLOCKS := by
  rw [chunkStart, chunkStart, Nat.succ_mul, Nat.add_assoc]

/-- A settled chunk is a whole one. -/
theorem settled_whole {cfg : EvmConfig} {k to_block chunk_end : Nat}
    (hle : chunkStart cfg k ≤ chunk_end) (h : Settled to_block (chunkStart cfg k) chunk_end) :
    chunk_end = chunkStart cfg (k + 1) - 1 ∧
      chunkStart cfg (k + 1) - 1 + REORG_SAFETY_BLOCKS ≤ to_block := by
  obtain ⟨hlength, hbehind⟩ := h
  rw [chunkStart_succ]
  omega

variable (chains configs) in
/-- What the Portal shows of the chain while it is rebuilt: the settled part is fixed. -/
structure RebuildServed (tx : EvmTexts) (cfg : EvmConfig) (view : Nat → List PortalLog)
    (to_block : Nat) (answers : List ChunkAnswers) : Prop where
  mem : cfg ∈ configs
  settled : ∀ n, n + REORG_SAFETY_BLOCKS ≤ to_block → view n = chains cfg.chain_name n
  served : ∀ a ∈ answers, ∀ p ∈ a.responses, Serves view (registryFilter tx cfg) p

/-- On settled blocks the view has the chain's own records. -/
theorem RebuildServed.records {cfg : EvmConfig} {view : Nat → List PortalLog} {to_block : Nat}
    {answers : List ChunkAnswers} (h : RebuildServed chains configs tx cfg view to_block answers)
    {a b : Nat} (hb : b - 1 + REORG_SAFETY_BLOCKS ≤ to_block) :
    between (evmRecords tx cfg view) a b = between (ownRecords tx chains cfg) a b := by
  refine between_congr fun n _ hn => ?_
  rw [ownRecords, evmRecords, evmRecords, accepted, accepted, h.settled n (by omega)]

/-- **The loop.**  From a chunk on, it keeps the cache sound, and if the chain's chunks are its own it
collects the chain's records, whether they come from the cache or from the Portal. -/
theorem rebuildChunks_spec {cfg : EvmConfig} {view : Nat → List PortalLog} {to_block : Nat}
    {answers : List ChunkAnswers}
    (hserved : RebuildServed chains configs tx cfg view to_block answers) {st : RebuildState}
    {k : Nat} (hsound : CacheSound tx chains configs st.cache)
    (hst : OwnChunks tx chains configs cfg to_block →
      st.Upto (evmRecords tx cfg view) cfg.start (chunkStart cfg k)) :
    CacheSound tx chains configs (rebuildChunks tx cfg to_block
        (chunkRanges (chunkStart cfg k) to_block REGISTRY_CHUNK_BLOCKS) answers st).1.cache ∧
      (OwnChunks tx chains configs cfg to_block → ∃ next, (rebuildChunks tx cfg to_block
        (chunkRanges (chunkStart cfg k) to_block REGISTRY_CHUNK_BLOCKS) answers st).1.Upto
          (evmRecords tx cfg view) cfg.start next) := by
  induction answers generalizing st k with
  | nil =>
      unfold chunkRanges
      split_ifs
      · exact ⟨hsound, fun hown => ⟨_, hst hown⟩⟩
      · exact ⟨hsound, fun hown => ⟨_, hst hown⟩⟩
  | cons a answers ih =>
      have hserved' : RebuildServed chains configs tx cfg view to_block answers :=
        ⟨hserved.mem, hserved.settled, fun a ha => hserved.served a (List.mem_cons_of_mem _ ha)⟩
      have hwidth : max REGISTRY_CHUNK_BLOCKS 1 = REGISTRY_CHUNK_BLOCKS :=
        Nat.max_eq_left (by decide)
      have hpos : 0 < REGISTRY_CHUNK_BLOCKS := by decide
      have hsucc := chunkStart_succ cfg k
      unfold chunkRanges
      by_cases hend : to_block < chunkStart cfg k
      · rw [if_pos hend]
        exact ⟨hsound, fun hown => ⟨_, hst hown⟩⟩
      rw [if_neg hend, hwidth]
      dsimp only
      generalize hchunk_end : min (chunkStart cfg k + REGISTRY_CHUNK_BLOCKS - 1) to_block = chunk_end
      have hle : chunkStart cfg k ≤ chunk_end := by omega
      have hfull : Settled to_block (chunkStart cfg k) chunk_end → _ := settled_whole hle
      -- the next chunk starts where the grid says, unless this was the last one
      have hnext : ∀ st : RebuildState, CacheSound tx chains configs st.cache →
          (OwnChunks tx chains configs cfg to_block →
            st.Upto (evmRecords tx cfg view) cfg.start (chunk_end + 1)) →
            CacheSound tx chains configs (rebuildChunks tx cfg to_block
                (chunkRanges (chunk_end + 1) to_block REGISTRY_CHUNK_BLOCKS) answers st).1.cache ∧
              (OwnChunks tx chains configs cfg to_block → ∃ next, (rebuildChunks tx cfg to_block
                (chunkRanges (chunk_end + 1) to_block REGISTRY_CHUNK_BLOCKS) answers st).1.Upto
                  (evmRecords tx cfg view) cfg.start next) := by
        intro st hsound hst
        by_cases hlast : chunk_end = to_block
        · rw [chunkRanges, if_pos (by omega)]
          exact ⟨hsound, fun hown => ⟨_, hst hown⟩⟩
        · have hgrid : chunk_end + 1 = chunkStart cfg (k + 1) := by omega
          rw [hgrid] at hst ⊢
          exact ih hserved' hsound hst
      rw [rebuildChunks]
      cases hcached : cachedChunk cfg to_block st.cache a.readable (chunkStart cfg k) chunk_end with
      | some chunk =>
          dsimp only
          unfold cachedChunk at hcached
          split_ifs at hcached with hsettled
          obtain ⟨hend, hbehind⟩ := hfull hsettled.1
          rw [hend] at hcached
          have hrecords : between (evmRecords tx cfg view) (chunkStart cfg k) (chunk_end + 1)
              = chunkRecords tx chains cfg k := by
            rw [hserved.records (by rw [Nat.add_sub_cancel, hend]; exact hbehind), hend,
              Nat.sub_add_cancel (by omega)]
            rfl
          refine hnext _ hsound fun hown => ?_
          have hfound := hsound.found hown hbehind hcached
          refine (hst hown).extend (by omega) _ ?_ ?_
          · rw [hrecords, hfound]
          · rw [hrecords, hfound]
      | none =>
          have hcovers : (discoverRegistryRange tx (st.cache.checkpoints (registryWebhookScanId cfg))
              (chunkStart cfg k) chunk_end REGISTRY_CHUNK_BLOCKS false a.responses).Covers
                (evmRecords tx cfg view) false _ (chunkStart cfg k) chunk_end none [] :=
            streamLogs_covers _ _ _ _ _ _ (hserved.served a List.mem_cons_self)
          dsimp only
          generalize discoverRegistryRange tx (st.cache.checkpoints (registryWebhookScanId cfg))
            (chunkStart cfg k) chunk_end REGISTRY_CHUNK_BLOCKS false a.responses = scan at *
          cases houtcome : scan.outcome with
          | failed => exact ⟨hsound, fun hown => ⟨_, hst hown⟩⟩
          | running found => exact ⟨hsound, fun hown => ⟨_, hst hown⟩⟩
          | done found =>
              have hfound := hcovers.found (by rw [houtcome]; intro h; cases h)
              rw [houtcome, List.nil_append] at hfound
              have hbound := hcovers.bound
              dsimp only
              cases hlast : scan.last_seen with
              | none => exact ⟨hsound, fun hown => ⟨_, hst hown⟩⟩
              | some last =>
                  obtain ⟨hge, hcursor⟩ := hcovers.cursor_of_seen hlast
                  rw [hcursor] at hfound
                  have hst' := fun cache hown => (hst hown).extend (by omega) cache
                    (congrArg receiversIn hfound) (congrArg webhooksIn hfound)
                  dsimp only
                  by_cases hshort : last < chunk_end
                  · rw [if_pos hshort, if_neg (fun h => absurd h.2.1 (Nat.not_le.mpr hshort))]
                    exact ⟨hsound, fun hown => ⟨_, hst' _ hown⟩⟩
                  · obtain rfl : last = chunk_end := by omega
                    rw [if_neg hshort]
                    refine hnext _ ?_ (hst' _)
                    dsimp only
                    split_ifs with hput
                    · obtain ⟨hend, hbehind⟩ := hfull hput.1
                      have hrecords : found = chunkRecords tx chains cfg k := by
                        have : found = between (evmRecords tx cfg view) (chunkStart cfg k)
                          (last + 1) := hfound
                        rw [this, hserved.records
                          (by rw [Nat.add_sub_cancel, hend]; exact hbehind), hend,
                          Nat.sub_add_cancel (by omega)]
                        rfl
                      rw [hrecords, hend]
                      exact hsound.putChunk k hserved.mem
                    · exact hsound

variable (tx) in
/-- The snapshot is what is decoded, in order, from the chain's own logs up to where it got. -/
def FullScan (cfg : EvmConfig) (view : Nat → List PortalLog) (snapshot : RegistrySnapshot) : Prop :=
  snapshot.merchants = receiversIn (between (evmRecords tx cfg view) cfg.start
      (snapshot.scanned_to + 1)) ∧
    snapshot.webhooks = webhooksIn (between (evmRecords tx cfg view) cfg.start
      (snapshot.scanned_to + 1))

/-- **The rebuild.** -/
theorem rebuildRegistryState_spec {cfg : EvmConfig} {view : Nat → List PortalLog} {to_block : Nat}
    {answers : List ChunkAnswers} (sled : Bool) {cache : LogCache}
    (hserved : RebuildServed chains configs tx cfg view to_block answers)
    (hsound : CacheSound tx chains configs cache) :
    CacheSound tx chains configs (rebuildRegistryState tx cfg to_block cache answers sled).1 ∧
      (OwnChunks tx chains configs cfg to_block → ∀ snapshot,
        (rebuildRegistryState tx cfg to_block cache answers sled).2 = some snapshot →
          FullScan tx cfg view snapshot) := by
  have hstart : chunkStart cfg 0 = cfg.start := by
    rw [chunkStart, Nat.zero_mul, Nat.add_zero]
  have hloop := @rebuildChunks_spec _ _ _ _ _ _ _ hserved ⟨cache, [], [], none⟩ 0 hsound fun _ =>
    ⟨hstart.ge, by rw [hstart, between_self]; rfl, by rw [hstart, between_self]; rfl, nofun⟩
  rw [hstart] at hloop
  unfold rebuildRegistryState
  generalize rebuildChunks tx cfg to_block (chunkRanges cfg.start to_block REGISTRY_CHUNK_BLOCKS)
    answers ⟨cache, [], [], none⟩ = result at *
  obtain ⟨st, halt⟩ := result
  obtain ⟨hcache, hupto⟩ := hloop
  dsimp only at *
  split
  · rename_i scanned_to hscanned
    refine ⟨hcache.forward cfg scanned_to, ?_⟩
    intro hown snapshot hsnapshot
    obtain rfl := Option.some.inj hsnapshot
    obtain ⟨next, hnext⟩ := hupto hown
    obtain rfl := hnext.scanned_to _ hscanned
    exact ⟨hnext.merchants, hnext.webhooks⟩
  · exact ⟨hcache, nofun⟩

/-! ## Runs -/

/-- What is done to the shared cache. -/
inductive CacheAct
  /-- a rebuild, finished or not -/
  | rebuild (cfg : EvmConfig) (view : Nat → List PortalLog) (to_block : Nat)
      (answers : List ChunkAnswers) (sled : Bool)
  /-- progress of some other scan -/
  | checkpoint (scan_id : Text) (block : Nat)

variable (tx chains configs)

def CacheStep (cache : LogCache) (act : CacheAct) (cache' : LogCache) : Prop :=
  match act with
  | .rebuild cfg view to_block answers sled =>
      RebuildServed chains configs tx cfg view to_block answers ∧
        cache' = (rebuildRegistryState tx cfg to_block cache answers sled).1
  | .checkpoint scan_id block => cache' = cache.setCheckpoint scan_id block

variable {tx chains configs}

theorem cacheStep_sound {cache cache' : LogCache} {act : CacheAct}
    (h : CacheStep tx chains configs cache act cache') (hsound : CacheSound tx chains configs cache) :
    CacheSound tx chains configs cache' := by
  cases act with
  | rebuild cfg view to_block answers sled =>
      obtain ⟨hserved, rfl⟩ := h
      exact (rebuildRegistryState_spec sled hserved hsound).1
  | checkpoint scan_id block =>
      obtain rfl := h
      exact hsound.setCheckpoint _ _

end

namespace RegistrySample

def texts : EvmTexts where
  merchant_registered := ['r']
  receiver_announced := ['a']
  webhook_url_set := ['w']
  transfer := ['t']
  abi_decode_string _ := some []

/-- Two chains with their contracts at the same addresses. -/
def config (chain_name : Text) : EvmConfig where
  chain_name := chain_name
  factory_address := 1
  webhook_registry_address := 2
  token_address := 3
  registry_start_block := 0
  webhook_registry_start_block := 0
  deposit_start_block := 0

def base : EvmConfig := config "base".toList
def arbitrum : EvmConfig := config "arbitrum".toList

/-- Merchant 5 sets a webhook. -/
def log : PortalLog := ⟨showAddress 2, [['w'], addrTopicHex 5], [], []⟩

/-- On Base it does so in the first block; on Arbitrum nothing happens. -/
def chains (chain_name : Text) (n : Nat) : List PortalLog :=
  if chain_name = "base".toList ∧ n = 0 then [log] else []

/-- A portal that has everything: the first block, if it is asked for, and the last. -/
def portal (chain : Nat → List PortalLog) : Portal PortalBlock := fun cursor ceiling =>
  if ceiling = 0 ∨ ceiling < cursor then .nothing
  else if cursor = 0 then .blocks ⟨0, chain 0⟩ [⟨ceiling, []⟩]
  else .blocks ⟨ceiling, []⟩ []

theorem portal_serves {chain : Nat → List PortalLog} {filter : LogFilter}
    (h0 : accepted chain filter 0 = chain 0) (hn : ∀ n, n ≠ 0 → chain n = []) :
    Serves chain filter (portal chain) := by
  intro cursor ceiling first rest h
  have hempty : ∀ n, n ≠ 0 → accepted chain filter n = [] := by
    intro n hne
    rw [accepted, hn n hne]
    rfl
  unfold portal at h
  by_cases hout : ceiling = 0 ∨ ceiling < cursor
  · rw [if_pos hout] at h
    cases h
  rw [if_neg hout] at h
  rw [not_or] at hout
  by_cases hzero : cursor = 0
  · rw [if_pos hzero] at h
    cases h
    refine ⟨?_, ?_, ?_, ?_⟩
    · simp only [List.map_cons, List.map_nil, List.pairwise_pair]
      omega
    · intro b hb
      rcases List.mem_cons.mp hb with rfl | hb
      · exact ⟨hzero.le, Nat.zero_le _⟩
      · obtain rfl := List.mem_singleton.mp hb
        exact ⟨by omega, le_refl _⟩
    · intro b hb
      rcases List.mem_cons.mp hb with rfl | hb
      · exact h0.symm
      · obtain rfl := List.mem_singleton.mp hb
        exact (hempty _ hout.1).symm
    · intro n _ _ hne
      by_cases hn0 : n = 0
      · exact ⟨_, List.mem_cons_self, hn0.symm⟩
      · exact absurd (hempty n hn0) hne
  · rw [if_neg hzero] at h
    cases h
    refine ⟨List.pairwise_singleton _ _, ?_, ?_, ?_⟩
    · intro b hb
      obtain rfl := List.mem_singleton.mp hb
      exact ⟨Nat.le_of_not_lt hout.2, le_refl _⟩
    · intro b hb
      obtain rfl := List.mem_singleton.mp hb
      exact (hempty _ hout.1).symm
    · intro n hn _ hne
      exact absurd (hempty n (by omega)) hne

/-- One full chunk and a bit. -/
def head : Nat := 200127

def answers (chain : Nat → List PortalLog) : List ChunkAnswers :=
  [⟨true, [portal chain], true⟩, ⟨true, [portal chain], true⟩]

def rebuild (cfg : EvmConfig) : CacheAct :=
  .rebuild cfg (chains cfg.chain_name) head (answers (chains cfg.chain_name)) true

theorem served {configs : List EvmConfig} {cfg : EvmConfig} (hcfg : cfg ∈ configs)
    (hchain : cfg = base ∨ cfg = arbitrum) :
    RebuildServed chains configs texts cfg (chains cfg.chain_name) head
      (answers (chains cfg.chain_name)) := by
  refine ⟨hcfg, fun _ _ => rfl, ?_⟩
  have hportal : Serves (chains cfg.chain_name) (registryFilter texts cfg)
      (portal (chains cfg.chain_name)) := by
    refine portal_serves ?_ fun n hne => if_neg fun h => hne h.2
    rcases hchain with rfl | rfl
    · decide +kernel
    · decide +kernel
  intro a ha p hp
  rcases List.mem_cons.mp ha with rfl | ha
  · obtain rfl := List.mem_singleton.mp hp
    exact hportal
  · obtain rfl := List.mem_singleton.mp ha
    obtain rfl := List.mem_singleton.mp hp
    exact hportal

/-- The cache after a rebuild of Base. -/
def warm : LogCache :=
  (rebuildRegistryState texts base head .empty (answers (chains base.chain_name)) true).1

theorem ranges : chunkRanges 0 head REGISTRY_CHUNK_BLOCKS = [(0, 199999), (200000, 200127)] := by
  simp [chunkRanges, head, REGISTRY_CHUNK_BLOCKS]

theorem rebuilt (cfg : EvmConfig) (cache : LogCache) (hstart : cfg.start = 0) :
    rebuildRegistryState texts cfg head cache (answers (chains cfg.chain_name)) true =
      let (st, halt) := rebuildChunks texts cfg head [(0, 199999), (200000, 200127)]
        (answers (chains cfg.chain_name)) ⟨cache, [], [], none⟩
      match halt, st.scanned_to, true with
      | .finished, some scanned_to, true =>
          (forwardCheckpoint cfg st.cache scanned_to, some ⟨st.merchants, st.webhooks, scanned_to⟩)
      | _, _, _ => (st.cache, none) := by
  rw [rebuildRegistryState, hstart, ranges]

/-- The rebuild of Arbitrum finds the chunk of Base. -/
theorem found : (rebuildRegistryState texts arbitrum head warm
    (answers (chains arbitrum.chain_name)) true).2.map (fun s => (s.webhooks, s.scanned_to))
      = some ([(5, [])], head) := by
  rw [rebuilt arbitrum warm rfl, warm, rebuilt base .empty rfl]
  decide +kernel

end RegistrySample

end Beanie.Keeper
