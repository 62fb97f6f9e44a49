/-
# `Beanie.Keeper.EvmIndex` — the registry in the EVM worker's memory

The worker rebuilds its maps when it is started, and then adds what each tip's
scan returns.  A scan sets the checkpoint after every batch and returns its
records at the end, so a failure after the first batch moves the checkpoint past
records that nobody has; where that does not happen, whatever is behind the
checkpoint is remembered, or held by the scan in progress (`registry_records_kept`).

    processEvmTip    the registry part of a tip
    IndexStep        one step of the worker, or of another on the shared cache
    Unbroken         how the Portal may answer
    index_step       what one step leaves behind the checkpoint
-/
import Beanie.Keeper.WebhookPath
import Beanie.Keeper.EvmRegistry
import Beanie.Api.DeployedSet

namespace Beanie.Keeper

open Beanie.Api

/-! ## The worker -/

/-- What a scan found, put into the worker's maps. -/
def learnScan (w : EvmTransfer) (st : EvmState) (found : List RegistryRecord) : EvmState :=
  noteWebhooks w (learnEvm st (receiversIn found)) (webhooksIn found)

/-- A worker that has just been started. -/
def blankState : EvmState := ⟨∅, fun _ => none, ∅⟩

theorem learnScan_append (w : EvmTransfer) (st : EvmState) (xs ys : List RegistryRecord) :
    learnScan w st (xs ++ ys) = learnScan w (learnScan w st xs) ys := by
  simp [learnScan, noteWebhooks, learnEvm, List.foldl_append]

/-- What the worker remembers, the log cache that all workers share, and what the call in progress
has found, if there is one. -/
structure EvmIndex where
  state : EvmState
  cache : LogCache
  in_progress : Option (List RegistryRecord)

section
variable (tx : EvmTexts) (cfg : EvmConfig)

/-- `discover_registry_activity`. -/
def discoverRegistryActivity (checkpoint : Option Nat) (to_block : Nat)
    (responses : List (Portal PortalBlock)) : Streamed RegistryRecord :=
  let from_block := watermark cfg.start checkpoint
  if to_block < from_block then ⟨checkpoint, from_block, none, .done []⟩
  else
    discoverRegistryRange tx checkpoint from_block to_block MAX_BLOCKS_PER_REQUEST true responses

/-- The checkpoint of the registry scan. -/
def EvmIndex.checkpoint (s : EvmIndex) : Option Nat :=
  s.cache.checkpoints (registryWebhookScanId cfg)

/-- The first block that the registry scan has not seen. -/
def EvmIndex.mark (s : EvmIndex) : Nat := watermark cfg.start (s.checkpoint cfg)

/-- `registry_webhook_due`. -/
def EvmIndex.Due (s : EvmIndex) (tip_bn : Nat) (activity : Bool) : Prop :=
  s.mark cfg ≤ tip_bn ∧ (activity = true ∨ s.mark cfg < tip_bn)

instance (s : EvmIndex) (tip_bn : Nat) (activity : Bool) : Decidable (s.Due cfg tip_bn activity) :=
  inferInstanceAs (Decidable (_ ∧ _))

variable (w : EvmTransfer)

/-- The registry part of `process_evm_tip`: `activity` is what the stream reports of the tip, and
`stored` says whether the checkpoint can be written. -/
def processEvmTip (s : EvmIndex) (tip_bn : Nat) (activity : Bool)
    (responses : List (Portal PortalBlock)) (stored : Bool) : EvmIndex :=
  if s.Due cfg tip_bn activity then
    let scan := discoverRegistryActivity tx cfg (s.checkpoint cfg) tip_bn responses
    let cache := { s.cache with
      checkpoints := Function.update s.cache.checkpoints (registryWebhookScanId cfg)
        scan.checkpoint }
    match scan.outcome with
    | .done found => ⟨learnScan w s.state found, cache, none⟩
    | .failed => ⟨s.state, cache, none⟩
    | .running found => ⟨s.state, cache, some found⟩
  else if s.mark cfg = tip_bn ∧ stored = true then
    { s with cache := s.cache.setCheckpoint (registryWebhookScanId cfg) tip_bn }
  else s

/-- What `run_evm_worker` remembers of the rebuild. -/
def startIndex (snapshot : RegistrySnapshot) : EvmState :=
  noteWebhooks w (learnEvm blankState snapshot.merchants) snapshot.webhooks

/-- Before the worker is started, the call in progress is its catch-up. -/
def unstarted : EvmIndex := ⟨blankState, .empty, some []⟩

inductive IndexAct
  /-- the worker is started, again or for the first time, and its rebuild succeeds -/
  | start (to_block : Nat) (answers : List ChunkAnswers) (sled : Bool)
  | tip (tip_bn : Nat) (activity : Bool) (responses : List (Portal PortalBlock)) (stored : Bool)
  /-- a pass over deposits, or over all receivers -/
  | pass (deployed : Finset Address)
  /-- another worker, or another scan of this one -/
  | other (act : CacheAct)

variable (chains : Text → Nat → List PortalLog) (configs : List EvmConfig)

def IndexStep (s : EvmIndex) (act : IndexAct) (s' : EvmIndex) : Prop :=
  match act with
  | .start to_block answers sled =>
      RebuildServed chains configs tx cfg (chains cfg.chain_name) to_block answers ∧
        ∃ snapshot, rebuildRegistryState tx cfg to_block s.cache answers sled
            = (s'.cache, some snapshot) ∧ s'.state = startIndex w snapshot ∧ s'.in_progress = none
  | .tip tip_bn activity responses stored =>
      s.in_progress = none ∧
        (∀ p ∈ responses, Serves (chains cfg.chain_name) (registryFilter tx cfg) p) ∧
          s' = processEvmTip tx cfg w s tip_bn activity responses stored
  | .pass deployed =>
      s.in_progress = none ∧ s' = { s with state := { s.state with deployed := deployed } }
  | .other act =>
      CacheStep tx chains configs s.cache act s'.cache ∧ s'.state = s.state ∧
        s'.in_progress = s.in_progress ∧ s'.checkpoint cfg = s.checkpoint cfg

/-- How the Portal may answer.  While the worker is started it has all blocks up to the checkpoint,
and the cached chunks are the chain's own; the scan of a tip fails, if it does, before the first
batch; and a tip of which the stream reports nothing holds nothing. -/
def Unbroken (t : Transition EvmIndex IndexAct) : Prop :=
  match t.act with
  | .start to_block answers _ =>
      OwnChunks tx chains configs cfg to_block ∧
        ∀ b, t.pre.checkpoint cfg = some b → b ≤ to_block ∧
          ∀ a ∈ answers, ∀ p ∈ a.responses, ∀ cursor ceiling, p cursor ceiling = .nothing →
            b < cursor
  | .tip tip_bn activity responses _ =>
      (t.pre.Due cfg tip_bn activity → ∀ next,
        failsAt (windowPolicy MAX_BLOCKS_PER_REQUEST) PortalBlock.number tip_bn responses
          ⟨MAX_BLOCKS_PER_REQUEST, 0⟩ (t.pre.mark cfg) = some next → next = t.pre.mark cfg) ∧
      (activity = false → t.pre.mark cfg = tip_bn → ownRecords tx chains cfg tip_bn = [])
  | .pass _ => True
  | .other _ => True

end

section
variable {tx : EvmTexts} {cfg : EvmConfig} {w : EvmTransfer}
  {chains : Text → Nat → List PortalLog} {configs : List EvmConfig}

/-- The loop of the rebuild leaves the checkpoints alone. -/
theorem rebuildChunks_checkpoints (to_block : Nat) (chunks : List (Nat × Nat))
    (answers : List ChunkAnswers) (st : RebuildState) :
    (rebuildChunks tx cfg to_block chunks answers st).1.cache.checkpoints
      = st.cache.checkpoints := by
  induction chunks generalizing answers st with
  | nil => rfl
  | cons chunk chunks ih =>
      cases answers with
      | nil => rfl
      | cons a answers =>
          obtain ⟨chunk_start, chunk_end⟩ := chunk
          rw [rebuildChunks]
          split
          · exact ih ..
          · dsimp only
            split
            · rfl
            · rfl
            · split
              · rfl
              · rename_i last _
                have hput : ∀ (p : Prop) [Decidable p] (key : Text) (chunk : RegistryChunk),
                    (if p then st.cache.putChunk key chunk else st.cache).checkpoints
                      = st.cache.checkpoints := by
                  intro p _ key chunk
                  split_ifs
                  · rfl
                  · rfl
                by_cases hshort : last < chunk_end
                · rw [if_pos hshort]
                  exact hput _ _ _
                · rw [if_neg hshort, ih]
                  exact hput _ _ _

/-- A scan that returns short of its range was told that there is no more. -/
theorem discoverRegistryRange_short {checkpoint : Option Nat} {from_block to_block max_window : Nat}
    {persist : Bool} {responses : List (Portal PortalBlock)} (found : List RegistryRecord)
    (hdone : (discoverRegistryRange tx checkpoint from_block to_block max_window persist
      responses).outcome = .done found)
    (hshort : (discoverRegistryRange tx checkpoint from_block to_block max_window persist
      responses).cursor ≤ to_block) :
    ∃ p ∈ responses, ∃ ceiling, p (discoverRegistryRange tx checkpoint from_block to_block max_window
      persist responses).cursor ceiling = .nothing :=
  stream_short _ _ _ _ _ _ _ _ _ hdone hshort

/-- The loop gets as far as the Portal has blocks. -/
theorem rebuildChunks_reaches {to_block b : Nat} (hb : b ≤ to_block) {answers : List ChunkAnswers}
    (hserved : ∀ a ∈ answers, ∀ p ∈ a.responses,
      Serves (chains cfg.chain_name) (registryFilter tx cfg) p)
    (h : ∀ a ∈ answers, ∀ p ∈ a.responses, ∀ cursor ceiling, p cursor ceiling = .nothing → b < cursor)
    {cursor : Nat} {st : RebuildState} (hst : ∀ n, st.scanned_to = some n → n + 1 = cursor) :
    let result := rebuildChunks tx cfg to_block
      (chunkRanges cursor to_block REGISTRY_CHUNK_BLOCKS) answers st
    result.2 = .finished → ∀ n, result.1.scanned_to = some n → b ≤ n := by
  induction answers generalizing cursor st with
  | nil =>
      unfold chunkRanges
      intro result hfinished n hn
      by_cases hend : to_block < cursor
      · have hresult : result = (st, .finished) := by
          show rebuildChunks _ _ _ (if _ then _ else _) _ _ = _
          rw [if_pos hend]
          rfl
        rw [hresult] at hn
        have := hst n hn
        omega
      · have hresult : result = (st, .running) := by
          show rebuildChunks _ _ _ (if _ then _ else _) _ _ = _
          rw [if_neg hend]
          rfl
        rw [hresult] at hfinished
        cases hfinished
  | cons a answers ih =>
      have hrest := fun a' ha' => h a' (List.mem_cons_of_mem _ ha')
      have hpos : 0 < max REGISTRY_CHUNK_BLOCKS 1 := by decide
      unfold chunkRanges
      by_cases hend : to_block < cursor
      · rw [if_pos hend]
        intro result hfinished n hn
        have := hst n hn
        omega
      rw [if_neg hend]
      dsimp only
      generalize hchunk_end : min (cursor + max REGISTRY_CHUNK_BLOCKS 1 - 1) to_block = chunk_end
      have hle : cursor ≤ chunk_end := by omega
      rw [rebuildChunks]
      cases hcached : cachedChunk cfg to_block st.cache a.readable cursor chunk_end with
      | some chunk =>
          dsimp only
          refine ih (fun a' ha' => hserved a' (List.mem_cons_of_mem _ ha')) hrest ?_
          intro n hn
          rw [← Option.some.inj hn]
      | none =>
          dsimp only
          have hcovers : (discoverRegistryRange tx (st.cache.checkpoints (registryWebhookScanId cfg))
              cursor chunk_end REGISTRY_CHUNK_BLOCKS false a.responses).Covers
                (ownRecords tx chains cfg) false _ cursor chunk_end none [] :=
            streamLogs_covers _ _ _ _ _ _ (hserved a List.mem_cons_self)
          have hshort := @discoverRegistryRange_short tx
            (st.cache.checkpoints (registryWebhookScanId cfg)) cursor chunk_end REGISTRY_CHUNK_BLOCKS
            false a.responses
          generalize discoverRegistryRange tx (st.cache.checkpoints (registryWebhookScanId cfg))
            cursor chunk_end REGISTRY_CHUNK_BLOCKS false a.responses = scan at *
          cases houtcome : scan.outcome with
          | failed =>
              intro hfinished
              cases hfinished
          | running found =>
              intro hfinished
              cases hfinished
          | done found =>
              -- a scan that stops short was told that there is no more, so `b` is behind it
              have hbehind : scan.cursor ≤ chunk_end → b < scan.cursor := by
                intro hcursor
                obtain ⟨p, hp, ceiling, hnothing⟩ := hshort _ houtcome hcursor
                exact h a List.mem_cons_self p hp _ _ hnothing
              dsimp only
              cases hlast : scan.last_seen with
              | none =>
                  intro _ n hn
                  have hcursor := hcovers.cursor_of_unseen hlast
                  have := hst n hn
                  have := hbehind (by omega)
                  omega
              | some last =>
                  obtain ⟨-, hcursor⟩ := hcovers.cursor_of_seen hlast
                  dsimp only
                  by_cases hstop : last < chunk_end
                  · rw [if_pos hstop]
                    intro _ n hn
                    have := hbehind (by omega)
                    rw [← Option.some.inj hn]
                    omega
                  · rw [if_neg hstop]
                    have hbound := hcovers.bound
                    obtain rfl : last = chunk_end := by omega
                    refine ih (fun a' ha' => hserved a' (List.mem_cons_of_mem _ ha')) hrest ?_
                    intro n hn
                    rw [← Option.some.inj hn]

/-- What a rebuild that succeeds leaves. -/
theorem rebuild_spec {to_block : Nat} {answers : List ChunkAnswers} {sled : Bool}
    {cache cache' : LogCache} {snapshot : RegistrySnapshot}
    (hserved : RebuildServed chains configs tx cfg (chains cfg.chain_name) to_block answers)
    (hsound : CacheSound tx chains configs cache) (hown : OwnChunks tx chains configs cfg to_block)
    (h : rebuildRegistryState tx cfg to_block cache answers sled = (cache', some snapshot)) :
    FullScan tx cfg (chains cfg.chain_name) snapshot ∧ cfg.start ≤ snapshot.scanned_to + 1 ∧
      cache'.checkpoints (registryWebhookScanId cfg)
        = some (max snapshot.scanned_to
          ((cache.checkpoints (registryWebhookScanId cfg)).getD snapshot.scanned_to)) := by
  have hstart : chunkStart cfg 0 = cfg.start := by
    rw [chunkStart, Nat.zero_mul, Nat.add_zero]
  have hloop := (@rebuildChunks_spec _ _ _ _ _ _ _ hserved ⟨cache, [], [], none⟩ 0 hsound fun _ =>
    ⟨hstart.ge, by rw [hstart, between_self]; rfl, by rw [hstart, between_self]; rfl,
      fun _ h => by cases h⟩).2 hown
  have hfull := (rebuildRegistryState_spec sled hserved hsound).2 hown snapshot (by rw [h])
  have hkept := @rebuildChunks_checkpoints tx cfg to_block
    (chunkRanges cfg.start to_block REGISTRY_CHUNK_BLOCKS) answers ⟨cache, [], [], none⟩
  rw [hstart] at hloop
  unfold rebuildRegistryState at h
  generalize rebuildChunks tx cfg to_block (chunkRanges cfg.start to_block REGISTRY_CHUNK_BLOCKS)
    answers ⟨cache, [], [], none⟩ = result at *
  obtain ⟨st, halt⟩ := result
  obtain ⟨next, hnext⟩ := hloop
  dsimp only at *
  split at h
  · rename_i scanned_to hscanned
    obtain ⟨rfl, hsnapshot⟩ := Prod.mk.inj h
    obtain rfl := Option.some.inj hsnapshot
    obtain rfl := hnext.scanned_to _ hscanned
    refine ⟨hfull, hnext.le, ?_⟩
    unfold forwardCheckpoint
    rw [hkept]
    cases hcheckpoint : cache.checkpoints (registryWebhookScanId cfg) with
    | none =>
        show Function.update st.cache.checkpoints _ _ _ = _
        rw [Function.update_self, Option.getD_none, max_self]
    | some existing =>
        dsimp only
        rw [Option.getD_some]
        split_ifs with hforward
        · show Function.update st.cache.checkpoints _ _ _ = _
          rw [Function.update_self, max_eq_left hforward.le]
        · rw [hkept, hcheckpoint, max_eq_right (not_lt.mp hforward)]
  · cases (Prod.mk.inj h).2

/-- A rebuild that succeeds gets as far as the Portal has blocks. -/
theorem rebuild_reaches {to_block b : Nat} (hb : b ≤ to_block) {answers : List ChunkAnswers}
    (hserved : ∀ a ∈ answers, ∀ p ∈ a.responses,
      Serves (chains cfg.chain_name) (registryFilter tx cfg) p)
    (h : ∀ a ∈ answers, ∀ p ∈ a.responses, ∀ cursor ceiling, p cursor ceiling = .nothing → b < cursor)
    {sled : Bool} {cache cache' : LogCache} {snapshot : RegistrySnapshot}
    (hrebuild : rebuildRegistryState tx cfg to_block cache answers sled = (cache', some snapshot)) :
    b ≤ snapshot.scanned_to := by
  have hreaches := @rebuildChunks_reaches tx cfg chains to_block b hb answers hserved h cfg.start
    ⟨cache, [], [], none⟩ fun _ h => by cases h
  unfold rebuildRegistryState at hrebuild
  generalize rebuildChunks tx cfg to_block (chunkRanges cfg.start to_block REGISTRY_CHUNK_BLOCKS)
    answers ⟨cache, [], [], none⟩ = result at *
  obtain ⟨st, halt⟩ := result
  dsimp only at *
  split at hrebuild
  · rename_i scanned_to hscanned
    obtain rfl := Option.some.inj (Prod.mk.inj hrebuild).2
    exact hreaches rfl _ hscanned
  · cases (Prod.mk.inj hrebuild).2

/-- The worker remembers what has been logged before block `m`; the call in progress, if there is
one, holds the rest up to the mark. -/
structure EvmIndex.Upto (tx : EvmTexts) (cfg : EvmConfig) (w : EvmTransfer)
    (chains : Text → Nat → List PortalLog) (configs : List EvmConfig) (s : EvmIndex) (m : Nat) :
    Prop where
  sound : CacheSound tx chains configs s.cache
  start : cfg.start ≤ m
  le : m ≤ s.mark cfg
  merchants : s.state.merchant_map
    = (learnScan w blankState (between (ownRecords tx chains cfg) cfg.start m)).merchant_map
  webhooks : s.state.webhook_map
    = (learnScan w blankState (between (ownRecords tx chains cfg) cfg.start m)).webhook_map
  found : s.in_progress.getD [] = between (ownRecords tx chains cfg) m (s.mark cfg)
  done : s.in_progress = none → m = s.mark cfg

theorem upto_unstarted : unstarted.Upto tx cfg w chains configs cfg.start where
  sound := cacheSound_empty
  start := le_rfl
  le := le_rfl
  merchants := by
    rw [between_self]
    rfl
  webhooks := by
    rw [between_self]
    rfl
  found := (between_self _).symm
  done h := by cases h

/-- The scan of a tip, in closed form. -/
theorem discoverRegistryActivity_covers (checkpoint : Option Nat) (to_block : Nat)
    {responses : List (Portal PortalBlock)}
    (h : ∀ p ∈ responses, Serves (chains cfg.chain_name) (registryFilter tx cfg) p) :
    (discoverRegistryActivity tx cfg checkpoint to_block responses).Covers
      (ownRecords tx chains cfg) true checkpoint (watermark cfg.start checkpoint) to_block none
      [] := by
  unfold discoverRegistryActivity
  dsimp only
  split_ifs
  · exact Streamed.covers_here fun _ => rfl
  · exact streamLogs_covers _ _ _ _ _ _ h

/-- It fails where the Portal does. -/
theorem discoverRegistryActivity_failed {checkpoint : Option Nat} {to_block : Nat}
    {responses : List (Portal PortalBlock)}
    (h : (discoverRegistryActivity tx cfg checkpoint to_block responses).outcome = .failed) :
    failsAt (windowPolicy MAX_BLOCKS_PER_REQUEST) PortalBlock.number to_block responses
      ⟨MAX_BLOCKS_PER_REQUEST, 0⟩ (watermark cfg.start checkpoint)
        = some (discoverRegistryActivity tx cfg checkpoint to_block responses).cursor := by
  unfold discoverRegistryActivity at h ⊢
  dsimp only at h ⊢
  split_ifs at h ⊢
  exact (stream_failed_iff ..).mpr ⟨h, rfl⟩

/-- The mark after a scan is where it would ask next. -/
theorem mark_covers {checkpoint : Option Nat} {to_block : Nat} {scan : Streamed RegistryRecord}
    (h : scan.Covers (ownRecords tx chains cfg) true checkpoint (watermark cfg.start checkpoint)
      to_block none []) : watermark cfg.start scan.checkpoint = scan.cursor := by
  rw [h.checkpoint]
  have hle := h.le
  split_ifs with hmoved
  · have hlt : watermark cfg.start checkpoint < scan.cursor :=
      lt_of_le_of_ne hle fun heq => hmoved.2 heq.symm
    show scan.cursor - 1 + 1 = scan.cursor
    omega
  · exact (not_not.mp fun hne => hmoved ⟨rfl, hne⟩).symm

/-- Maps that remember more, after a scan from the mark on. -/
theorem EvmIndex.Upto.extend {s : EvmIndex} (h : s.Upto tx cfg w chains configs (s.mark cfg))
    {cache : LogCache} (hsound : CacheSound tx chains configs cache) {next : Nat}
    (hle : s.mark cfg ≤ next)
    (hmark : watermark cfg.start (cache.checkpoints (registryWebhookScanId cfg)) = next)
    {found : List RegistryRecord}
    (hfound : found = between (ownRecords tx chains cfg) (s.mark cfg) next) :
    EvmIndex.Upto tx cfg w chains configs ⟨learnScan w s.state found, cache, none⟩ next where
  sound := hsound
  start := h.start.trans hle
  le := hmark.ge
  merchants := by
    rw [← between_append h.start hle, learnScan_append, ← hfound]
    show (receiversIn found).foldl rememberEvmReceiver s.state.merchant_map = _
    rw [h.merchants]
    rfl
  webhooks := by
    rw [← between_append h.start hle, learnScan_append, ← hfound]
    show (webhooksIn found).foldl _ s.state.webhook_map = _
    rw [h.webhooks]
    rfl
  found := by
    rw [show EvmIndex.mark cfg ⟨_, cache, none⟩ = next from hmark, between_self]
    rfl
  done _ := hmark.symm

/-- After a rebuild the mark is the end of what was rebuilt. -/
theorem EvmIndex.Upto.rebuilt {s s' : EvmIndex} {m to_block : Nat} {answers : List ChunkAnswers}
    {sled : Bool} (hs : IndexStep tx cfg w chains configs s (.start to_block answers sled) s')
    (hunbroken : Unbroken tx cfg chains configs ⟨s, .start to_block answers sled, s'⟩)
    (h : s.Upto tx cfg w chains configs m) : ∃ m, s'.Upto tx cfg w chains configs m := by
  obtain ⟨hserved, snapshot, hrebuild, hstate, hidle⟩ := hs
  obtain ⟨hown, hreached⟩ := hunbroken
  obtain ⟨⟨hmerchants, hwebhooks⟩, hle, hcheckpoint⟩ := rebuild_spec hserved h.sound hown hrebuild
  have hsound := (rebuildRegistryState_spec sled hserved h.sound).1
  rw [hrebuild] at hsound
  have hmark : s'.mark cfg = snapshot.scanned_to + 1 := by
    unfold EvmIndex.mark EvmIndex.checkpoint
    rw [hcheckpoint]
    cases hold : s.cache.checkpoints (registryWebhookScanId cfg) with
    | none => simp [watermark]
    | some existing =>
        obtain ⟨hbound, hanswers⟩ := hreached existing hold
        have hreaches := rebuild_reaches hbound hserved.served hanswers hrebuild
        simp only [watermark, Option.getD_some]
        omega
  refine ⟨snapshot.scanned_to + 1, hsound, hle, hmark.ge, ?_, ?_, ?_, fun _ => hmark.symm⟩
  · rw [hstate]
    show snapshot.merchants.foldl rememberEvmReceiver _ = _
    rw [hmerchants]
    rfl
  · rw [hstate]
    show snapshot.webhooks.foldl _ _ = _
    rw [hwebhooks]
    rfl
  · rw [hidle, hmark, between_self]
    rfl

/-- A tip that is due is scanned: the scan returns, fails at once, or is still going on. -/
theorem EvmIndex.Upto.scanned {s : EvmIndex} {tip_bn : Nat} {activity : Bool}
    {responses : List (Portal PortalBlock)} {stored : Bool} (hdue : s.Due cfg tip_bn activity)
    (hserved : ∀ p ∈ responses, Serves (chains cfg.chain_name) (registryFilter tx cfg) p)
    (hfails : ∀ next,
      failsAt (windowPolicy MAX_BLOCKS_PER_REQUEST) PortalBlock.number tip_bn responses
        ⟨MAX_BLOCKS_PER_REQUEST, 0⟩ (s.mark cfg) = some next → next = s.mark cfg)
    (h : s.Upto tx cfg w chains configs (s.mark cfg)) :
    ∃ m, (processEvmTip tx cfg w s tip_bn activity responses stored).Upto tx cfg w chains configs
      m := by
  unfold processEvmTip
  rw [if_pos hdue]
  have hcovers := discoverRegistryActivity_covers (s.checkpoint cfg) tip_bn hserved
  have hfailed := @discoverRegistryActivity_failed tx cfg (s.checkpoint cfg) tip_bn responses
  have hmark := mark_covers hcovers
  dsimp only
  generalize discoverRegistryActivity tx cfg (s.checkpoint cfg) tip_bn responses = scan at *
  have hsound : CacheSound tx chains configs { s.cache with
      checkpoints := Function.update s.cache.checkpoints (registryWebhookScanId cfg)
        scan.checkpoint } := h.sound
  have hcheckpoint : watermark cfg.start (Function.update s.cache.checkpoints
      (registryWebhookScanId cfg) scan.checkpoint (registryWebhookScanId cfg)) = scan.cursor := by
    rw [Function.update_self, hmark]
  cases houtcome : scan.outcome with
  | failed =>
      -- nothing was checkpointed, since the Portal fails at once
      have hcursor : scan.cursor = s.mark cfg := hfails _ (hfailed houtcome)
      have hmark' : EvmIndex.mark cfg ⟨s.state, { s.cache with
          checkpoints := Function.update s.cache.checkpoints (registryWebhookScanId cfg)
            scan.checkpoint }, none⟩ = s.mark cfg := hcheckpoint.trans hcursor
      refine ⟨s.mark cfg, hsound, h.start, hmark'.ge, h.merchants, h.webhooks, ?_,
        fun _ => hmark'.symm⟩
      rw [hmark', between_self]
      rfl
  | running found =>
      have hfound := hcovers.found (by rw [houtcome]; intro h; cases h)
      rw [houtcome] at hfound
      have hmark' : EvmIndex.mark cfg ⟨s.state, { s.cache with
          checkpoints := Function.update s.cache.checkpoints (registryWebhookScanId cfg)
            scan.checkpoint }, some found⟩ = scan.cursor := hcheckpoint
      refine ⟨s.mark cfg, hsound, h.start, ?_, h.merchants, h.webhooks, ?_, fun h => by cases h⟩
      · rw [hmark']
        exact hcovers.le
      · rw [hmark']
        exact hfound
  | done found =>
      have hfound := hcovers.found (by rw [houtcome]; intro h; cases h)
      rw [houtcome] at hfound
      exact ⟨_, h.extend hsound hcovers.le hcheckpoint hfound⟩

/-- A tip of which the stream reports nothing, and behind which nothing is left, moves the mark past
itself. -/
theorem EvmIndex.Upto.quiet {s : EvmIndex} {tip_bn : Nat} (hidle : s.in_progress = none)
    (hmark : s.mark cfg = tip_bn) (hnone : ownRecords tx chains cfg tip_bn = [])
    (h : s.Upto tx cfg w chains configs (s.mark cfg)) :
    EvmIndex.Upto tx cfg w chains configs
      { s with cache := s.cache.setCheckpoint (registryWebhookScanId cfg) tip_bn }
      (tip_bn + 1) := by
  have hbetween : between (ownRecords tx chains cfg) (s.mark cfg) (tip_bn + 1) = [] := by
    refine List.flatMap_eq_nil_iff.mpr fun n hn => ?_
    rw [List.mem_range'_1, hmark] at hn
    obtain rfl : n = tip_bn := by omega
    exact hnone
  have hnext_mark : watermark cfg.start ((s.cache.setCheckpoint (registryWebhookScanId cfg)
      tip_bn).checkpoints (registryWebhookScanId cfg)) = tip_bn + 1 := by
    unfold LogCache.setCheckpoint
    dsimp only
    rw [Function.update_self]
    rfl
  have hnext := h.extend (h.sound.setCheckpoint (registryWebhookScanId cfg) tip_bn)
    (by rw [hmark]; exact Nat.le_succ _) hnext_mark hbetween.symm
  refine ⟨hnext.sound, hnext.start, hnext.le, hnext.merchants, hnext.webhooks, ?_,
    fun _ => hnext_mark.symm⟩
  show s.in_progress.getD [] = _
  rw [hidle]
  exact hnext.found

theorem EvmIndex.Upto.tip {s s' : EvmIndex} {m tip_bn : Nat} {activity : Bool}
    {responses : List (Portal PortalBlock)} {stored : Bool}
    (hs : IndexStep tx cfg w chains configs s (.tip tip_bn activity responses stored) s')
    (hunbroken : Unbroken tx cfg chains configs ⟨s, .tip tip_bn activity responses stored, s'⟩)
    (h : s.Upto tx cfg w chains configs m) : ∃ m, s'.Upto tx cfg w chains configs m := by
  obtain ⟨hidle, hserved, rfl⟩ := hs
  obtain ⟨hfails, hquiet⟩ := hunbroken
  obtain rfl := h.done hidle
  by_cases hdue : s.Due cfg tip_bn activity
  · exact h.scanned hdue hserved (hfails hdue)
  unfold processEvmTip
  rw [if_neg hdue]
  split_ifs with hstored
  · have hinactive : activity = false := by
      by_contra hactive
      exact hdue ⟨hstored.1.le, .inl (by simpa using hactive)⟩
    exact ⟨_, h.quiet hidle hstored.1 (hquiet hinactive hstored.1)⟩
  · exact ⟨_, h⟩

/-- The frame: what another worker does to the shared cache is not about this one. -/
theorem EvmIndex.Upto.other {s s' : EvmIndex} {m : Nat} {act : CacheAct}
    (hs : IndexStep tx cfg w chains configs s (.other act) s')
    (h : s.Upto tx cfg w chains configs m) : s'.Upto tx cfg w chains configs m := by
  obtain ⟨hcache, hstate, hprogress, hcheckpoint⟩ := hs
  have hmark : s'.mark cfg = s.mark cfg := congrArg (watermark cfg.start) hcheckpoint
  refine ⟨cacheStep_sound hcache h.sound, h.start, ?_, ?_, ?_, ?_, ?_⟩
  · rw [hmark]
    exact h.le
  · rw [hstate, h.merchants]
  · rw [hstate, h.webhooks]
  · rw [hprogress, hmark, h.found]
  · rw [hprogress, hmark]
    exact h.done

/-- **One step of the worker.** -/
theorem index_step {s s' : EvmIndex} {act : IndexAct}
    (hs : IndexStep tx cfg w chains configs s act s')
    (hunbroken : Unbroken tx cfg chains configs ⟨s, act, s'⟩)
    (h : ∃ m, s.Upto tx cfg w chains configs m) : ∃ m, s'.Upto tx cfg w chains configs m := by
  obtain ⟨m, h⟩ := h
  cases act with
  | start to_block answers sled => exact h.rebuilt hs hunbroken
  | tip tip_bn activity responses stored => exact h.tip hs hunbroken
  | pass deployed =>
      obtain ⟨-, rfl⟩ := hs
      exact ⟨m, h.sound, h.start, h.le, h.merchants, h.webhooks, h.found, h.done⟩
  | other act => exact ⟨m, h.other hs⟩

/-- The run lemma. -/
theorem index_run {index : EvmIndex} {steps : List (Transition EvmIndex IndexAct)}
    (hrun : Steps (IndexStep tx cfg w chains configs) unstarted steps index)
    (hunbroken : ∀ t ∈ steps, Unbroken tx cfg chains configs t) :
    ∃ m, index.Upto tx cfg w chains configs m :=
  hrun.invariant (I := fun s => ∃ m, s.Upto tx cfg w chains configs m)
    (fun _ _ _ hs hP hI => index_step hs hP hI) hunbroken ⟨_, upto_unstarted⟩

end

/-! ## What is behind the checkpoint -/

/-- The maps are those of scans that returned the record. -/
def Folded (w : EvmTransfer) (st : EvmState) (rec : RegistryRecord) : Prop :=
  ∃ found, rec ∈ found ∧ st.merchant_map = (learnScan w blankState found).merchant_map ∧
    st.webhook_map = (learnScan w blankState found).webhook_map

/-- Whatever is behind the checkpoint has been folded into the maps, or will be returned by the call
in progress. -/
def RecordsKept (tx : EvmTexts) (cfg : EvmConfig) (w : EvmTransfer)
    (chains : Text → Nat → List PortalLog) (s : EvmIndex) : Prop :=
  ∀ c, s.checkpoint cfg = some c → ∀ n, cfg.start ≤ n → n ≤ c → ∀ rec ∈ ownRecords tx chains cfg n,
    Folded w s.state rec ∨ ∃ found, s.in_progress = some found ∧ rec ∈ found

/-- **What the registry checkpoint vouches for.**  A worker is started, follows the tips, and is
started again, next to the other workers on the shared cache: as long as the Portal fails no scan
after its first batch, whatever is behind the checkpoint is kept, in every state. -/
theorem registry_records_kept {tx : EvmTexts} {cfg : EvmConfig} {w : EvmTransfer}
    {chains : Text → Nat → List PortalLog} {configs : List EvmConfig} {index : EvmIndex}
    {steps : List (Transition EvmIndex IndexAct)}
    (hrun : Steps (IndexStep tx cfg w chains configs) unstarted steps index)
    (hunbroken : ∀ t ∈ steps, Unbroken tx cfg chains configs t) :
    ∀ t ∈ steps, RecordsKept tx cfg w chains t.post := by
  intro t ht c hc n hn hle rec hrec
  obtain ⟨hstep, before, after, rfl, hbefore, -⟩ := hrun.mem_split ht
  have hpre := index_run hbefore fun u hu => hunbroken u (List.mem_append_left _ hu)
  obtain ⟨m, h⟩ := index_step hstep (hunbroken t ht) hpre
  have hmark : t.post.mark cfg = c + 1 := by
    unfold EvmIndex.mark
    rw [hc]
    rfl
  by_cases hm : n < m
  · refine .inl ⟨_, ?_, h.merchants, h.webhooks⟩
    exact mem_between.mpr ⟨n, hn, hm, hrec⟩
  · have hmem : rec ∈ between (ownRecords tx chains cfg) m (t.post.mark cfg) :=
      mem_between.mpr ⟨n, not_lt.mp hm, by omega, hrec⟩
    rw [← h.found] at hmem
    cases hprogress : t.post.in_progress with
    | none =>
        rw [hprogress] at hmem
        cases hmem
    | some found =>
        rw [hprogress] at hmem
        exact .inr ⟨found, rfl, hmem⟩

/-- A webhook that has been folded in is there, if not a later one of the same merchant. -/
theorem Folded.webhook {w : EvmTransfer} {st : EvmState} {merchant : Address} {url : Text}
    (h : Folded w st (.webhook merchant url)) :
    (st.webhook_map (w.show_address merchant)).isSome := by
  obtain ⟨found, hmem, -, hmap⟩ := h
  rw [hmap]
  have hkept : ∀ (webhooks : List (Address × Text)) (map : Text → Option Text),
      (map (w.show_address merchant)).isSome ∨ (merchant, url) ∈ webhooks →
        ((webhooks.foldl (fun map p => Function.update map (w.show_address p.1) (some p.2)) map)
          (w.show_address merchant)).isSome := by
    intro webhooks
    induction webhooks with
    | nil => exact fun map h => h.resolve_right List.not_mem_nil
    | cons p webhooks ih =>
        intro map h
        refine ih _ ?_
        dsimp only
        by_cases hkey : w.show_address merchant = w.show_address p.1
        · rw [hkey, Function.update_self]
          exact .inl rfl
        · rw [Function.update_of_ne hkey]
          refine h.imp id fun h => ?_
          rcases List.mem_cons.mp h with rfl | h
          · exact absurd rfl hkey
          · exact h
  refine hkept _ _ (.inr ?_)
  exact List.mem_filterMap.mpr ⟨_, hmem, rfl⟩

/-! ## A webhook in block 6 -/

namespace IndexSample

open RegistrySample (texts base)
open WebhookPathSample (worker)

def chains (_ : Text) (n : Nat) : List PortalLog := if n = 6 then [RegistrySample.log] else []

/-- While the worker is started, the Portal has five blocks. -/
def early : Portal PortalBlock := fun cursor ceiling =>
  if 5 < ceiling ∨ ceiling < cursor then .nothing else .blocks ⟨ceiling, []⟩ []

/-- Then it has the sixth, -/
def first : Portal PortalBlock := fun cursor ceiling =>
  if cursor = 6 ∧ 6 ≤ ceiling then .blocks ⟨6, chains [] 6⟩ [] else .nothing

/-- and the rest, unless it fails. -/
def second (fails : Bool) : Portal PortalBlock := fun cursor ceiling =>
  if fails then .failure
  else if cursor < 7 ∨ ceiling < cursor then .nothing else .blocks ⟨ceiling, []⟩ []

def answers : List ChunkAnswers := [⟨true, [early], true⟩]

theorem accepted_other {n : Nat} (h : n ≠ 6) :
    accepted (chains base.chain_name) (registryFilter texts base) n = [] := by
  rw [accepted, show chains base.chain_name n = [] from if_neg h]
  rfl

/-- One block without logs, at the end of a window without logs. -/
theorem honest_quiet {cursor ceiling : Nat} (hle : cursor ≤ ceiling)
    (h : ∀ n, cursor ≤ n → n ≤ ceiling → n ≠ 6) :
    HonestBatch PortalBlock.number PortalBlock.logs
      (accepted (chains base.chain_name) (registryFilter texts base)) cursor ceiling ⟨ceiling, []⟩
      [] := by
  refine ⟨List.pairwise_singleton _ _, ?_, ?_, ?_⟩
  · intro b hb
    obtain rfl := List.mem_singleton.mp hb
    exact ⟨hle, le_rfl⟩
  · intro b hb
    obtain rfl := List.mem_singleton.mp hb
    exact (accepted_other (h _ hle le_rfl)).symm
  · intro n hge hle' hne
    exact absurd (accepted_other (h n hge hle')) hne

theorem early_serves : Serves (chains base.chain_name) (registryFilter texts base) early := by
  intro cursor ceiling b rest h
  unfold early at h
  split_ifs at h with hout
  cases h
  exact honest_quiet (by omega) fun n _ _ => by omega

theorem first_serves : Serves (chains base.chain_name) (registryFilter texts base) first := by
  intro cursor ceiling b rest h
  unfold first at h
  split_ifs at h with hin
  obtain ⟨rfl, hceiling⟩ := hin
  cases h
  refine ⟨List.pairwise_singleton _ _, ?_, ?_, ?_⟩
  · intro b hb
    obtain rfl := List.mem_singleton.mp hb
    exact ⟨le_rfl, hceiling⟩
  · intro b hb
    obtain rfl := List.mem_singleton.mp hb
    decide +kernel
  · intro n hge hle _
    exact ⟨_, List.mem_cons_self, le_antisymm hge hle⟩

theorem second_serves (fails : Bool) :
    Serves (chains base.chain_name) (registryFilter texts base) (second fails) := by
  intro cursor ceiling b rest h
  unfold second at h
  split_ifs at h with hfails hout
  cases h
  exact honest_quiet (by omega) fun n _ _ => by omega

theorem served : RebuildServed chains [base] texts base (chains base.chain_name) 5 answers := by
  refine ⟨List.mem_singleton_self _, fun _ _ => rfl, ?_⟩
  intro a ha p hp
  obtain rfl := List.mem_singleton.mp ha
  obtain rfl := List.mem_singleton.mp hp
  exact early_serves

/-- The worker is started, and is told of a tip. -/
def started : EvmIndex where
  state := blankState
  cache := LogCache.empty.setCheckpoint (registryWebhookScanId base) 5
  in_progress := none

def followed (fails : Bool) : EvmIndex :=
  processEvmTip texts base worker started 10 true [first, second fails] true

def steps (fails : Bool) : List (Transition EvmIndex IndexAct) :=
  [⟨unstarted, .start 5 answers true, started⟩,
    ⟨started, .tip 10 true [first, second fails] true, followed fails⟩]

theorem rebuilt : rebuildRegistryState texts base 5 .empty answers true
    = (started.cache, some ⟨[], [], 5⟩) := by
  have hranges : chunkRanges base.start 5 REGISTRY_CHUNK_BLOCKS = [(0, 5)] := by
    simp [chunkRanges, EvmConfig.start, base, RegistrySample.config, REGISTRY_CHUNK_BLOCKS]
  rw [rebuildRegistryState, hranges]
  rfl

theorem runs (fails : Bool) :
    Steps (IndexStep texts base worker chains [base]) unstarted (steps fails) (followed fails) := by
  refine .step ⟨served, _, rebuilt, rfl, rfl⟩ (.step ⟨rfl, ?_, rfl⟩ (.refl _))
  intro p hp
  rcases List.mem_cons.mp hp with rfl | hp
  · exact first_serves
  · obtain rfl := List.mem_singleton.mp hp
    exact second_serves fails

end IndexSample

open IndexSample RegistrySample in
/-- Both answers come. -/
theorem registry_records_kept_sample :
    RecordsKept texts base WebhookPathSample.worker IndexSample.chains (followed false) := by
  refine registry_records_kept (runs false) (fun t ht => ?_) _
    (List.mem_cons_of_mem _ List.mem_cons_self)
  rcases List.mem_cons.mp ht with rfl | ht
  · refine ⟨?_, fun _ h => by cases h⟩
    intro k _ cfg' hcfg' _ _ k' hstart
    obtain rfl := List.mem_singleton.mp hcfg'
    have hk : k' = k := Nat.eq_of_mul_eq_mul_right (by decide : 0 < REGISTRY_CHUNK_BLOCKS)
      (Nat.add_left_cancel hstart)
    rw [hk]
  · obtain rfl := List.mem_singleton.mp ht
    refine ⟨fun _ next hnext => ?_, fun h => by cases h⟩
    have hnone : failsAt (windowPolicy MAX_BLOCKS_PER_REQUEST) PortalBlock.number 10
        [first, second false] ⟨MAX_BLOCKS_PER_REQUEST, 0⟩ (started.mark base) = none := by
      decide +kernel
    rw [hnone] at hnext
    cases hnext

open IndexSample RegistrySample in
/-- The second answer is an error: the checkpoint has passed the webhook, and nobody has it. -/
theorem registry_record_lost :
    ¬ ∀ (tx : EvmTexts) (cfg : EvmConfig) (w : EvmTransfer) (chains : Text → Nat → List PortalLog)
      (configs : List EvmConfig) (index : EvmIndex) (steps : List (Transition EvmIndex IndexAct)),
      Steps (IndexStep tx cfg w chains configs) unstarted steps index →
        ∀ t ∈ steps, RecordsKept tx cfg w chains t.post := by
  intro h
  have hkept := h texts base WebhookPathSample.worker IndexSample.chains [base] _ _ (runs true) _
    (List.mem_cons_of_mem _ List.mem_cons_self)
  have hcheckpoint : (followed true).checkpoint base = some 6 := by decide +kernel
  have hrec : RegistryRecord.webhook 5 [] ∈ ownRecords texts IndexSample.chains base 6 := by
    have hrecords : ownRecords texts IndexSample.chains base 6 = [.webhook 5 []] := rfl
    rw [hrecords]
    exact List.mem_singleton_self _
  rcases hkept 6 hcheckpoint 6 (Nat.zero_le 6) le_rfl _ hrec with hfolded | ⟨found, hfound, -⟩
  · have hsome := hfolded.webhook
    have hnone : (followed true).state.webhook_map (WebhookPathSample.worker.show_address 5)
        = none := rfl
    rw [hnone] at hsome
    cases hsome
  · have hnone : (followed true).in_progress = none := rfl
    rw [hnone] at hfound
    cases hfound

end Beanie.Keeper
