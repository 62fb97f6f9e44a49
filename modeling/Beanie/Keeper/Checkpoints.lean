/-
# `Beanie.Keeper.Checkpoints` — who moves a checkpoint, and how far

All workers share one log cache, whose setter takes any value.  Here every place
that sets a checkpoint is a step of its worker: per batch, per chunk, at the end
of a scan, at the end of a rebuild, and for a tip that the stream reports idle.
The workers take their steps in any order, one scan at a time each, and may be
killed and started again.  A checkpoint only moves forward, to a block that the
step has answers up to (`checkpoints_move_forward`).
-/
import Beanie.Keeper.EvmRegistry
import Beanie.Keeper.PortalStream
import Beanie.Keeper.ChunkRanges
import Beanie.Keeper.StarknetIndexer
import Beanie.Keeper.SolanaIndexer

namespace Beanie.Keeper.Checkpoints

open PortalStream (PortalWire ScanRequest StreamState Attempt Turn streamTurn readBlocks batchTurn
  responseLines handlePortalResponse)

/-! ## The steps of a worker -/

def STARKNET_REGISTRY_SCAN_ID : Text := "starknet:registry".toList
def STARKNET_DEPOSITS_SCAN_ID : Text := "starknet:deposits".toList
def SOLANA_REGISTRY_SCAN_ID : Text := "solana:registry".toList
def SOLANA_DEPOSITS_SCAN_ID : Text := "solana:deposits".toList
def MAX_SLOTS_PER_REQUEST : Nat := 50000

/-- What the workers are started with.  `main` gives each EVM chain a name of its own. -/
structure Configs where
  wire : PortalWire
  evm : List EvmConfig
  names : (evm.map fun cfg => cfg.chain_name).Nodup
  starknet_registry_start : Nat
  starknet_deposit_start : Nat
  solana_registry_start : Nat
  solana_deposit_start : Nat

inductive Worker
  | evm (i : Nat)
  | starknet
  | solana
deriving DecidableEq

/-- The ranges of blocks that have been answered for. -/
abbrev Ranges := List (Nat × Nat)

/-- A `set_checkpoint`: the first block of its scan, the head or tip that was asked for, and what had
been answered by then. -/
structure CheckpointWrite where
  scan_id : Text
  block : Nat
  start : Nat
  asked : Nat
  answered : Ranges

/-- What a worker is in the middle of. -/
inductive Phase
  | idle
  /-- `rebuild_registry_state`, before the next chunk -/
  | rebuild (head : Nat) (chunks : List (Nat × Nat)) (scanned_to : Option Nat) (answered : Ranges)
  /-- and while it fetches one -/
  | rebuildChunk (head : Nat) (chunks : List (Nat × Nat)) (scanned_to : Option Nat)
      (answered : Ranges) (req : ScanRequest) (st : StreamState)
  /-- `discover_registry_activity` -/
  | registryScan (req : ScanRequest) (st : StreamState) (answered : Ranges)
  /-- `fetch_deposits_since_block` of an EVM chain -/
  | depositScan (req : ScanRequest) (st : StreamState) (answered : Ranges)
  /-- the chunk loops of Starknet -/
  | chunkScan (scan_id : Text) (start current_from to_block : Nat) (answered : Ranges)
  /-- `stream_solana` -/
  | slotScan (scan_id : Text) (start cursor to_slot : Nat) (last_seen : Option Nat)
      (answered : Ranges)
  /-- when it has returned, before its caller sets the checkpoint -/
  | slotsSeen (scan_id : Text) (start to_slot : Nat) (last_seen : Option Nat) (answered : Ranges)

/-- The state that a turn ends in. -/
def stateOf : Turn → StreamState
  | .again st => st
  | .finished st => st
  | .failed st => st

/-- A batch answers for the blocks from the cursor to its last one. -/
def answeredBy (st st' : StreamState) (answered : Ranges) : Ranges :=
  if st.cursor < st'.cursor then answered ++ [(st.cursor, st'.cursor - 1)] else answered

/-- The lines of a successful answer are blocks of the window, in order. -/
def InOrder (wire : PortalWire) (attempt : Nat → Nat → Attempt) : Prop :=
  ∀ a b resp stored text blocks, attempt a b = .responded resp stored →
    handlePortalResponse wire resp = .ok (some text) →
      readBlocks wire (responseLines text) = (blocks, true) →
        (blocks.map PortalBlock.number).Pairwise (· < ·) ∧
          ∀ block ∈ blocks, a ≤ block.number ∧ block.number ≤ b

/-- The write of a scan that sets its checkpoint after every batch. -/
def batchWrite (scan_id : Text) (start asked : Nat) (st st' : StreamState) (answered : Ranges) :
    Option CheckpointWrite :=
  if st'.checkpoint = st.checkpoint then none
  else st'.checkpoint.map fun block => ⟨scan_id, block, start, asked, answered⟩

/-- The write of a scan that sets its checkpoint at the end, if it saw a block. -/
def endWrite (scan_id : Text) (start asked : Nat) (last_seen : Option Nat) (answered : Ranges) :
    Option CheckpointWrite :=
  last_seen.map fun block => ⟨scan_id, block, start, asked, answered⟩

/-- The guard of `rebuild_registry_state`: forward only. -/
def forwardWrite (checkpoint : Option Nat) (write : CheckpointWrite) : Option CheckpointWrite :=
  match checkpoint with
  | some existing => if existing < write.block then some write else none
  | none => some write

/-- `registry_due`: something was reported, or there is a backlog. -/
def Due (watermark tip : Nat) (activity : Bool) : Prop :=
  watermark ≤ tip ∧ (activity = true ∨ watermark < tip)

/-- One step of a worker of an EVM chain. -/
inductive EvmStep (wire : PortalWire) (cfg : EvmConfig) (checkpoints : Text → Option Nat) :
    Phase → Option CheckpointWrite → Phase → Prop
  | startRebuild (head : Nat) :
      EvmStep wire cfg checkpoints .idle none
        (.rebuild head (chunkRanges cfg.start head REGISTRY_CHUNK_BLOCKS) none [])
  | cachedChunk {head s e : Nat} {chunks : List (Nat × Nat)} {scanned_to : Option Nat}
      {answered : Ranges} : Settled head s e →
      EvmStep wire cfg checkpoints (.rebuild head ((s, e) :: chunks) scanned_to answered) none
        (.rebuild head chunks (some e) (answered ++ [(s, e)]))
  | fetchChunk {head s e : Nat} {chunks : List (Nat × Nat)} {scanned_to : Option Nat}
      {answered : Ranges} :
      EvmStep wire cfg checkpoints (.rebuild head ((s, e) :: chunks) scanned_to answered) none
        (.rebuildChunk head chunks scanned_to answered ⟨wire, s, e, REGISTRY_CHUNK_BLOCKS, false⟩
          (.start ⟨wire, s, e, REGISTRY_CHUNK_BLOCKS, false⟩
            (checkpoints (registryWebhookScanId cfg))))
  | chunkAgain {head : Nat} {chunks : List (Nat × Nat)} {scanned_to : Option Nat}
      {answered : Ranges} {req : ScanRequest} {st st' : StreamState}
      {attempt : Nat → Nat → Attempt} : InOrder wire attempt →
      streamTurn req st attempt = .again st' →
      EvmStep wire cfg checkpoints (.rebuildChunk head chunks scanned_to answered req st) none
        (.rebuildChunk head chunks scanned_to (answeredBy st st' answered) req st')
  | chunkFinished {head : Nat} {chunks : List (Nat × Nat)} {scanned_to : Option Nat}
      {answered : Ranges} {req : ScanRequest} {st st' : StreamState}
      {attempt : Nat → Nat → Attempt} : InOrder wire attempt →
      streamTurn req st attempt = .finished st' →
      EvmStep wire cfg checkpoints (.rebuildChunk head chunks scanned_to answered req st) none
        (match st'.last_seen with
          | none => .rebuild head [] scanned_to (answeredBy st st' answered)
          | some last =>
              .rebuild head (if last < req.to_block then [] else chunks) (some last)
                (answeredBy st st' answered))
  | chunkFailed {head : Nat} {chunks : List (Nat × Nat)} {scanned_to : Option Nat}
      {answered : Ranges} {req : ScanRequest} {st st' : StreamState}
      {attempt : Nat → Nat → Attempt} : streamTurn req st attempt = .failed st' →
      EvmStep wire cfg checkpoints (.rebuildChunk head chunks scanned_to answered req st) none .idle
  | noProgress {head : Nat} {answered : Ranges} :
      EvmStep wire cfg checkpoints (.rebuild head [] none answered) none .idle
  | rebuilt {head scanned_to : Nat} {answered : Ranges} :
      EvmStep wire cfg checkpoints (.rebuild head [] (some scanned_to) answered)
        (forwardWrite (checkpoints (registryWebhookScanId cfg))
          ⟨registryWebhookScanId cfg, scanned_to, cfg.start, head, answered⟩) .idle
  | tipScan {tip : Nat} {activity : Bool} {req : ScanRequest} :
      Due (watermark cfg.start (checkpoints (registryWebhookScanId cfg))) tip activity →
      req = ⟨wire, watermark cfg.start (checkpoints (registryWebhookScanId cfg)), tip,
        MAX_BLOCKS_PER_REQUEST, true⟩ →
      EvmStep wire cfg checkpoints .idle none
        (.registryScan req (.start req (checkpoints (registryWebhookScanId cfg))) [])
  | tipIdle {tip : Nat} {activity : Bool} :
      ¬ Due (watermark cfg.start (checkpoints (registryWebhookScanId cfg))) tip activity →
      watermark cfg.start (checkpoints (registryWebhookScanId cfg)) = tip →
      EvmStep wire cfg checkpoints .idle
        (some ⟨registryWebhookScanId cfg, tip, cfg.start, tip, [(tip, tip)]⟩) .idle
  | registryAgain {req : ScanRequest} {st st' : StreamState} {answered : Ranges}
      {attempt : Nat → Nat → Attempt} : InOrder wire attempt →
      streamTurn req st attempt = .again st' →
      EvmStep wire cfg checkpoints (.registryScan req st answered)
        (batchWrite (registryWebhookScanId cfg) cfg.start req.to_block st st'
          (answeredBy st st' answered))
        (.registryScan req st' (answeredBy st st' answered))
  | registryOver {req : ScanRequest} {st st' : StreamState} {answered : Ranges}
      {attempt : Nat → Nat → Attempt} : InOrder wire attempt →
      streamTurn req st attempt = .finished st' ∨ streamTurn req st attempt = .failed st' →
      EvmStep wire cfg checkpoints (.registryScan req st answered)
        (batchWrite (registryWebhookScanId cfg) cfg.start req.to_block st st'
          (answeredBy st st' answered)) .idle
  | startDeposits {to_block : Nat} {req : ScanRequest} :
      watermark cfg.deposit_start_block (checkpoints (depositsScanId cfg)) ≤ to_block →
      req = ⟨wire, watermark cfg.deposit_start_block (checkpoints (depositsScanId cfg)), to_block,
        DEPOSIT_MAX_BLOCKS_PER_REQUEST, false⟩ →
      EvmStep wire cfg checkpoints .idle none
        (.depositScan req (.start req (checkpoints (depositsScanId cfg))) [])
  | depositsAgain {req : ScanRequest} {st st' : StreamState} {answered : Ranges}
      {attempt : Nat → Nat → Attempt} : InOrder wire attempt →
      streamTurn req st attempt = .again st' →
      EvmStep wire cfg checkpoints (.depositScan req st answered) none
        (.depositScan req st' (answeredBy st st' answered))
  | depositsFinished {req : ScanRequest} {st st' : StreamState} {answered : Ranges}
      {attempt : Nat → Nat → Attempt} : InOrder wire attempt →
      streamTurn req st attempt = .finished st' →
      EvmStep wire cfg checkpoints (.depositScan req st answered)
        (endWrite (depositsScanId cfg) cfg.deposit_start_block req.to_block st'.last_seen
          (answeredBy st st' answered)) .idle
  | depositsFailed {req : ScanRequest} {st st' : StreamState} {answered : Ranges}
      {attempt : Nat → Nat → Attempt} : streamTurn req st attempt = .failed st' →
      EvmStep wire cfg checkpoints (.depositScan req st answered) none .idle

/-- One step of the Starknet worker. -/
inductive StarknetStep (c : Configs) (checkpoints : Text → Option Nat) :
    Phase → Option CheckpointWrite → Phase → Prop
  | startRegistry {to_block : Nat} :
      watermark c.starknet_registry_start (checkpoints STARKNET_REGISTRY_SCAN_ID) ≤ to_block →
      StarknetStep c checkpoints .idle none
        (.chunkScan STARKNET_REGISTRY_SCAN_ID c.starknet_registry_start
          (watermark c.starknet_registry_start (checkpoints STARKNET_REGISTRY_SCAN_ID)) to_block [])
  | startDeposits {to_block : Nat} :
      watermark c.starknet_deposit_start (checkpoints STARKNET_DEPOSITS_SCAN_ID) ≤ to_block →
      StarknetStep c checkpoints .idle none
        (.chunkScan STARKNET_DEPOSITS_SCAN_ID c.starknet_deposit_start
          (watermark c.starknet_deposit_start (checkpoints STARKNET_DEPOSITS_SCAN_ID)) to_block [])
  | chunk {scan_id : Text} {start current_from current_to to_block : Nat} {answered : Ranges} :
      current_to = min (current_from + MAX_BLOCK_RANGE - 1) to_block →
      StarknetStep c checkpoints (.chunkScan scan_id start current_from to_block answered)
        (some ⟨scan_id, current_to, start, to_block, answered ++ [(current_from, current_to)]⟩)
        (if current_to + 1 ≤ to_block then
          .chunkScan scan_id start (current_to + 1) to_block
            (answered ++ [(current_from, current_to)])
        else .idle)
  | failed {scan_id : Text} {start current_from to_block : Nat} {answered : Ranges} :
      StarknetStep c checkpoints (.chunkScan scan_id start current_from to_block answered) none .idle

/-- One step of the Solana worker. -/
inductive SolanaStep (c : Configs) (checkpoints : Text → Option Nat) :
    Phase → Option CheckpointWrite → Phase → Prop
  | startRegistry {to_slot : Nat} :
      watermark c.solana_registry_start (checkpoints SOLANA_REGISTRY_SCAN_ID) ≤ to_slot →
      SolanaStep c checkpoints .idle none
        (.slotScan SOLANA_REGISTRY_SCAN_ID c.solana_registry_start
          (watermark c.solana_registry_start (checkpoints SOLANA_REGISTRY_SCAN_ID)) to_slot none [])
  | startDeposits {to_slot : Nat} :
      watermark c.solana_deposit_start (checkpoints SOLANA_DEPOSITS_SCAN_ID) ≤ to_slot →
      SolanaStep c checkpoints .idle none
        (.slotScan SOLANA_DEPOSITS_SCAN_ID c.solana_deposit_start
          (watermark c.solana_deposit_start (checkpoints SOLANA_DEPOSITS_SCAN_ID)) to_slot none [])
  | tipIdle {tip : Nat} {activity : Bool} :
      ¬ Due (watermark c.solana_registry_start (checkpoints SOLANA_REGISTRY_SCAN_ID)) tip activity →
      watermark c.solana_registry_start (checkpoints SOLANA_REGISTRY_SCAN_ID) = tip →
      SolanaStep c checkpoints .idle
        (some ⟨SOLANA_REGISTRY_SCAN_ID, tip, c.solana_registry_start, tip, [(tip, tip)]⟩) .idle
  | batch {scan_id : Text} {start cursor to_slot : Nat} {last_seen : Option Nat}
      {answered : Ranges} {first : Nat} {rest : List Nat} :
      (first :: rest).Pairwise (· < ·) →
      (∀ n ∈ first :: rest, cursor ≤ n ∧ n ≤ min (cursor + MAX_SLOTS_PER_REQUEST - 1) to_slot) →
      SolanaStep c checkpoints (.slotScan scan_id start cursor to_slot last_seen answered) none
        (if to_slot ≤ batchLast first rest then
          .slotsSeen scan_id start to_slot (some (batchLast first rest))
            (answered ++ [(cursor, batchLast first rest)])
        else
          .slotScan scan_id start (batchLast first rest + 1) to_slot (some (batchLast first rest))
            (answered ++ [(cursor, batchLast first rest)]))
  | rateLimited {scan_id : Text} {start cursor to_slot : Nat} {last_seen : Option Nat}
      {answered : Ranges} :
      SolanaStep c checkpoints (.slotScan scan_id start cursor to_slot last_seen answered) none
        (.slotScan scan_id start cursor to_slot last_seen answered)
  | nothing {scan_id : Text} {start cursor to_slot : Nat} {last_seen : Option Nat}
      {answered : Ranges} :
      SolanaStep c checkpoints (.slotScan scan_id start cursor to_slot last_seen answered) none
        (.slotsSeen scan_id start to_slot last_seen answered)
  | failed {scan_id : Text} {start cursor to_slot : Nat} {last_seen : Option Nat}
      {answered : Ranges} :
      SolanaStep c checkpoints (.slotScan scan_id start cursor to_slot last_seen answered) none .idle
  | seen {scan_id : Text} {start to_slot : Nat} {last_seen : Option Nat} {answered : Ranges} :
      SolanaStep c checkpoints (.slotsSeen scan_id start to_slot last_seen answered)
        (endWrite scan_id start to_slot last_seen answered) .idle

def WorkerStep (c : Configs) (checkpoints : Text → Option Nat) (w : Worker) (phase : Phase)
    (wrote : Option CheckpointWrite) (phase' : Phase) : Prop :=
  match w with
  | .evm i => ∃ cfg, c.evm[i]? = some cfg ∧ EvmStep c.wire cfg checkpoints phase wrote phase'
  | .starknet => StarknetStep c checkpoints phase wrote phase'
  | .solana => SolanaStep c checkpoints phase wrote phase'

/-! ## The workers together -/

structure System where
  checkpoints : Text → Option Nat
  phases : Worker → Phase

inductive Act
  | step (w : Worker) (wrote : Option CheckpointWrite)
  /-- the process is killed, and started again on the cache it left -/
  | restart

def System.fresh : System := ⟨fun _ => none, fun _ => .idle⟩

/-- `set_checkpoint`, if there is one. -/
def written (checkpoints : Text → Option Nat) : Option CheckpointWrite → Text → Option Nat
  | none => checkpoints
  | some write => Function.update checkpoints write.scan_id (some write.block)

def SystemStep (c : Configs) (s : System) : Act → System → Prop
  | .step w wrote, s' => ∃ phase, WorkerStep c s.checkpoints w (s.phases w) wrote phase ∧
      s' = ⟨written s.checkpoints wrote, Function.update s.phases w phase⟩
  | .restart, s' => s' = ⟨s.checkpoints, fun _ => .idle⟩

/-! ## Who owns a checkpoint -/

/-- The scans of a worker, with their first blocks. -/
def scans (c : Configs) : Worker → List (Text × Nat)
  | .evm i =>
      match c.evm[i]? with
      | some cfg => [(registryWebhookScanId cfg, cfg.start), (depositsScanId cfg, cfg.deposit_start_block)]
      | none => []
  | .starknet => [(STARKNET_REGISTRY_SCAN_ID, c.starknet_registry_start),
      (STARKNET_DEPOSITS_SCAN_ID, c.starknet_deposit_start)]
  | .solana => [(SOLANA_REGISTRY_SCAN_ID, c.solana_registry_start),
      (SOLANA_DEPOSITS_SCAN_ID, c.solana_deposit_start)]

theorem registry_ne_deposits (cfg cfg' : EvmConfig) :
    registryWebhookScanId cfg ≠ depositsScanId cfg' := by
  intro h
  have hlast := congrArg List.getLast? h
  have hregistry : (registryWebhookScanId cfg).getLast? = some 'k' := by
    rw [registryWebhookScanId, List.getLast?_append]
    rfl
  have hdeposits : (depositsScanId cfg').getLast? = some '2' := by
    rw [depositsScanId, List.getLast?_append]
    rfl
  rw [hregistry, hdeposits] at hlast
  exact absurd hlast (by decide)

theorem registryWebhookScanId_inj {cfg cfg' : EvmConfig}
    (h : registryWebhookScanId cfg = registryWebhookScanId cfg') :
    cfg.chain_name = cfg'.chain_name := by
  unfold registryWebhookScanId at h
  exact List.append_cancel_left (List.append_cancel_right h)

theorem depositsScanId_inj {cfg cfg' : EvmConfig} (h : depositsScanId cfg = depositsScanId cfg') :
    cfg.chain_name = cfg'.chain_name := by
  unfold depositsScanId at h
  exact List.append_cancel_left (List.append_cancel_right h)

/-- The second letter of a worker's scan ids. -/
def letter : Worker → Char
  | .evm _ => 'v'
  | .starknet => 't'
  | .solana => 'o'

theorem scans_evm {c : Configs} {i : Nat} {cfg : EvmConfig} (h : c.evm[i]? = some cfg) :
    scans c (.evm i) = [(registryWebhookScanId cfg, cfg.start),
      (depositsScanId cfg, cfg.deposit_start_block)] := by
  simp only [scans, h]

/-- What the scans of an EVM chain are. -/
theorem mem_scans_evm {c : Configs} {i : Nat} {id : Text} {start : Nat}
    (h : (id, start) ∈ scans c (.evm i)) :
    ∃ cfg, c.evm[i]? = some cfg ∧
      ((id = registryWebhookScanId cfg ∧ start = cfg.start) ∨
        (id = depositsScanId cfg ∧ start = cfg.deposit_start_block)) := by
  cases hcfg : c.evm[i]? with
  | none =>
      simp only [scans, hcfg] at h
      cases h
  | some cfg =>
      rw [scans_evm hcfg] at h
      simp only [List.mem_cons, List.not_mem_nil, or_false, Prod.mk.injEq] at h
      exact ⟨cfg, rfl, h⟩

theorem scans_letter {c : Configs} {w : Worker} {id : Text} {start : Nat}
    (h : (id, start) ∈ scans c w) : id[1]? = some (letter w) := by
  cases w with
  | evm i =>
      obtain ⟨cfg, -, ⟨rfl, -⟩ | ⟨rfl, -⟩⟩ := mem_scans_evm h
      · rfl
      · rfl
  | starknet =>
      simp only [scans, List.mem_cons, List.not_mem_nil, or_false, Prod.mk.injEq] at h
      obtain ⟨rfl, -⟩ | ⟨rfl, -⟩ := h
      · rfl
      · rfl
  | solana =>
      simp only [scans, List.mem_cons, List.not_mem_nil, or_false, Prod.mk.injEq] at h
      obtain ⟨rfl, -⟩ | ⟨rfl, -⟩ := h
      · rfl
      · rfl

/-- Two scans of a list with different ids. -/
theorem pair_functional {α β : Type} {a b : α} {x y s s' : β} {id : α} (hne : a ≠ b)
    (h : (id, s) ∈ [(a, x), (b, y)]) (h' : (id, s') ∈ [(a, x), (b, y)]) : s = s' := by
  simp only [List.mem_cons, List.not_mem_nil, or_false, Prod.mk.injEq] at h h'
  rcases h with ⟨rfl, rfl⟩ | ⟨rfl, rfl⟩
  · rcases h' with ⟨-, rfl⟩ | ⟨hid, -⟩
    · rfl
    · exact absurd hid hne
  · rcases h' with ⟨hid, -⟩ | ⟨-, rfl⟩
    · exact absurd hid.symm hne
    · rfl

/-- The names tell the EVM chains apart. -/
theorem evm_functional {c : Configs}
    {i j : Nat} {id : Text} {start start' : Nat} (h : (id, start) ∈ scans c (.evm i))
    (h' : (id, start') ∈ scans c (.evm j)) : i = j := by
  obtain ⟨cfg, hi, hid⟩ := mem_scans_evm h
  obtain ⟨cfg', hj, hid'⟩ := mem_scans_evm h'
  have hname : cfg.chain_name = cfg'.chain_name := by
    rcases hid with ⟨rfl, -⟩ | ⟨rfl, -⟩
    · rcases hid' with ⟨hsame, -⟩ | ⟨hsame, -⟩
      · exact registryWebhookScanId_inj hsame
      · exact absurd hsame (registry_ne_deposits cfg cfg')
    · rcases hid' with ⟨hsame, -⟩ | ⟨hsame, -⟩
      · exact absurd hsame.symm (registry_ne_deposits cfg' cfg)
      · exact depositsScanId_inj hsame
  have hlength : i < (c.evm.map fun cfg => cfg.chain_name).length := by
    rw [List.length_map]
    exact (List.getElem?_eq_some_iff.mp hi).1
  have hsame : (c.evm.map fun cfg => cfg.chain_name)[i]? =
      (c.evm.map fun cfg => cfg.chain_name)[j]? := by
    rw [List.getElem?_map, List.getElem?_map, hi, hj, Option.map_some, Option.map_some, hname]
  exact (List.getElem?_inj hlength c.names).mp hsame

/-- **A scan id belongs to one worker and has one first block**, the chains having different
names. -/
theorem scans_functional {c : Configs} {w w' : Worker} {id : Text} {start start' : Nat}
    (h : (id, start) ∈ scans c w) (h' : (id, start') ∈ scans c w') : w = w' ∧ start = start' := by
  have hletter : letter w = letter w' :=
    Option.some.inj ((scans_letter h).symm.trans (scans_letter h'))
  cases w with
  | evm i =>
      cases w' with
      | evm j =>
          obtain rfl := evm_functional h h'
          obtain ⟨cfg, hcfg, -⟩ := mem_scans_evm h
          rw [scans_evm hcfg] at h h'
          exact ⟨rfl, pair_functional (registry_ne_deposits cfg cfg) h h'⟩
      | starknet => exact absurd hletter (by simp [letter])
      | solana => exact absurd hletter (by simp [letter])
  | starknet =>
      cases w' with
      | evm j => exact absurd hletter (by simp [letter])
      | starknet => exact ⟨rfl, pair_functional (by decide) h h'⟩
      | solana => exact absurd hletter (by simp [letter])
  | solana =>
      cases w' with
      | evm j => exact absurd hletter (by simp [letter])
      | starknet => exact absurd hletter (by simp [letter])
      | solana => exact ⟨rfl, pair_functional (by decide) h h'⟩

/-! ## What a write has to be -/

/-- The ranges hold every block from `a` on, before `b`. -/
def Covers (answered : Ranges) (a b : Nat) : Prop :=
  ∀ n, a ≤ n → n < b → ∃ r ∈ answered, r.1 ≤ n ∧ n ≤ r.2

theorem Covers.empty {answered : Ranges} (a : Nat) : Covers answered a a := by
  intro n ha hb
  omega

theorem Covers.extend {answered : Ranges} {a b e : Nat} (h : Covers answered a b) :
    Covers (answered ++ [(b, e)]) a (e + 1) := by
  intro n ha hn
  by_cases hold : n < b
  · obtain ⟨r, hr, hin⟩ := h n ha hold
    exact ⟨r, List.mem_append_left _ hr, hin⟩
  · exact ⟨(b, e), List.mem_append_right _ (List.mem_singleton.mpr rfl), by omega, by omega⟩

/-- Forward, within what was asked for, and over blocks that are answered for. -/
structure Sound (c : Configs) (w : Worker) (checkpoints : Text → Option Nat)
    (write : CheckpointWrite) : Prop where
  own : (write.scan_id, write.start) ∈ scans c w
  start : write.start ≤ write.block + 1
  forward : ∀ cp, checkpoints write.scan_id = some cp → cp < write.block
  asked : write.block ≤ write.asked
  covered : Covers write.answered (watermark write.start (checkpoints write.scan_id))
    (write.block + 1)

/-- No checkpoint lies more than a block before the first block of its scan. -/
def Floor (c : Configs) (checkpoints : Text → Option Nat) : Prop :=
  ∀ w id start, (id, start) ∈ scans c w → start ≤ watermark start (checkpoints id)

theorem lt_watermark {start cp : Nat} {checkpoint : Option Nat} (h : checkpoint = some cp) :
    cp < watermark start checkpoint := by
  rw [h]
  exact Nat.lt_succ_self cp

/-- A write from the watermark on is forward. -/
theorem Sound.of_watermark {c : Configs} {w : Worker} {checkpoints : Text → Option Nat}
    {write : CheckpointWrite} (hfloor : Floor c checkpoints)
    (own : (write.scan_id, write.start) ∈ scans c w)
    (hge : watermark write.start (checkpoints write.scan_id) ≤ write.block)
    (asked : write.block ≤ write.asked)
    (covered : Covers write.answered (watermark write.start (checkpoints write.scan_id))
      (write.block + 1)) : Sound c w checkpoints write where
  own := own
  start := by
    have := hfloor w _ _ own
    omega
  forward := fun _ hcp => Nat.lt_of_lt_of_le (lt_watermark hcp) hge
  asked := asked
  covered := covered

/-! ## Turns of `stream_logs` -/

/-- A turn leaves the cursor and the checkpoint, or a batch moves them together. -/
inductive Moved (req : ScanRequest) (st st' : StreamState) : Prop
  | stays : st'.cursor = st.cursor → st'.last_seen = st.last_seen →
      st'.checkpoint = st.checkpoint → Moved req st st'
  | batch : st.cursor < st'.cursor → st'.cursor ≤ req.to_block + 1 →
      st'.last_seen = some (st'.cursor - 1) →
      (st'.checkpoint = if req.persist_checkpoint then some (st'.cursor - 1) else st.checkpoint) →
      Moved req st st'

theorem batchTurn_moved {req : ScanRequest} {st : StreamState} {lines : List Text} {stored : Bool}
    (horder : ∀ blocks, readBlocks req.wire lines = (blocks, true) →
      ∀ block ∈ blocks, st.cursor ≤ block.number ∧ block.number ≤ st.ceiling req) :
    Moved req st (stateOf (batchTurn req st lines stored)) := by
  unfold batchTurn
  cases hread : readBlocks req.wire lines with
  | mk blocks whole =>
      cases whole with
      | false => exact .stays rfl rfl rfl
      | true =>
          cases hlast : blocks.getLast? with
          | none =>
              dsimp only
              rw [hlast]
              exact .stays rfl rfl rfl
          | some last =>
              have hbounds := horder blocks hread last (List.mem_of_getLast? hlast)
              have hceiling : st.ceiling req ≤ req.to_block := Nat.min_le_right _ _
              have hmoved : Moved req st (st.advanced req blocks last.number) :=
                .batch (Nat.lt_succ_of_le hbounds.1)
                  (Nat.succ_le_succ (Nat.le_trans hbounds.2 hceiling)) rfl rfl
              dsimp only
              rw [hlast]
              dsimp only
              split_ifs
              · exact .stays rfl rfl rfl
              · exact hmoved
              · exact hmoved

theorem streamTurn_moved {req : ScanRequest} {st : StreamState} {attempt : Nat → Nat → Attempt}
    (horder : InOrder req.wire attempt) : Moved req st (stateOf (streamTurn req st attempt)) := by
  unfold streamTurn
  cases hattempt : attempt st.cursor (st.ceiling req) with
  | timedOut => exact .stays rfl rfl rfl
  | unsent => exact .stays rfl rfl rfl
  | responded resp stored =>
      dsimp only
      cases hresponse : handlePortalResponse req.wire resp with
      | error e =>
          cases e with
          | rate_limit_retryable => exact .stays rfl rfl rfl
          | availability_retryable => exact .stays rfl rfl rfl
          | fatal => exact .stays rfl rfl rfl
      | ok body =>
          cases body with
          | none => exact .stays rfl rfl rfl
          | some text =>
              have hmoved : Moved req (st.asked req)
                  (stateOf (batchTurn req (st.asked req) (responseLines text) stored)) := by
                refine batchTurn_moved ?_
                intro blocks hread
                exact (horder _ _ resp stored text blocks hattempt hresponse hread).2
              cases hmoved with
              | stays hcursor hseen hcheckpoint => exact .stays hcursor hseen hcheckpoint
              | batch hlt hle hseen hcheckpoint => exact .batch hlt hle hseen hcheckpoint

/-- What a scan in progress has seen, and answered for. -/
structure Streaming (req : ScanRequest) (st : StreamState) (first : Nat) (answered : Ranges) :
    Prop where
  from_first : first ≤ req.from_block
  ge : req.from_block ≤ st.cursor
  le : st.cursor ≤ req.to_block + 1
  last_seen : st.last_seen = if st.cursor = req.from_block then none else some (st.cursor - 1)
  covered : Covers answered first st.cursor

theorem Streaming.moved {req : ScanRequest} {st st' : StreamState} {first : Nat} {answered : Ranges}
    (h : Streaming req st first answered) (hmoved : Moved req st st') :
    Streaming req st' first (answeredBy st st' answered) := by
  cases hmoved with
  | stays hcursor hseen hcheckpoint =>
      have hsame : answeredBy st st' answered = answered := by
        rw [answeredBy, if_neg (by omega)]
      rw [hsame]
      refine ⟨h.from_first, ?_, ?_, ?_, ?_⟩
      · rw [hcursor]
        exact h.ge
      · rw [hcursor]
        exact h.le
      · rw [hcursor, hseen]
        exact h.last_seen
      · rw [hcursor]
        exact h.covered
  | batch hlt hle hseen hcheckpoint =>
      have hge := h.ge
      have hlonger : answeredBy st st' answered = answered ++ [(st.cursor, st'.cursor - 1)] := by
        rw [answeredBy, if_pos hlt]
      rw [hlonger]
      refine ⟨h.from_first, by omega, hle, ?_, ?_⟩
      · rw [hseen, if_neg (by omega)]
      · have hcovered := h.covered.extend (e := st'.cursor - 1)
        rwa [Nat.sub_add_cancel (by omega)] at hcovered

theorem streaming_start {req : ScanRequest} {checkpoint : Option Nat} {first : Nat}
    {answered : Ranges} (hfirst : first ≤ req.from_block) (hle : req.from_block ≤ req.to_block + 1)
    (hcovered : Covers answered first req.from_block) :
    Streaming req (.start req checkpoint) first answered :=
  ⟨hfirst, Nat.le_refl _, hle, (if_pos rfl).symm, hcovered⟩

/-! ## What a phase has answered for -/

/-- The last block seen, if there is one: within what was asked for, and covered up to it. -/
def SeenUpTo (first asked : Nat) (last_seen : Option Nat) (answered : Ranges) : Prop :=
  ∀ block, last_seen = some block →
    first ≤ block ∧ block ≤ asked ∧ Covers answered first (block + 1)

theorem Streaming.seen {req : ScanRequest} {st : StreamState} {first : Nat} {answered : Ranges}
    (h : Streaming req st first answered) :
    SeenUpTo first req.to_block st.last_seen answered := by
  intro block hblock
  rw [h.last_seen] at hblock
  by_cases hstill : st.cursor = req.from_block
  · rw [if_pos hstill] at hblock
    cases hblock
  · rw [if_neg hstill] at hblock
    obtain rfl := Option.some.inj hblock
    have hfirst := h.from_first
    have hge := h.ge
    have hle := h.le
    have hcovered := h.covered
    rw [← Nat.sub_add_cancel (show 1 ≤ st.cursor by omega)] at hcovered
    exact ⟨by omega, by omega, hcovered⟩

/-- A write at the end of a scan is sound. -/
theorem endWrite_sound {c : Configs} {w : Worker} {checkpoints : Text → Option Nat} {scan_id : Text}
    {start asked : Nat} {last_seen : Option Nat} {answered : Ranges} (hfloor : Floor c checkpoints)
    (hown : (scan_id, start) ∈ scans c w)
    (hseen : SeenUpTo (watermark start (checkpoints scan_id)) asked last_seen answered)
    {write : CheckpointWrite} (hwrite : endWrite scan_id start asked last_seen answered = some write) :
    Sound c w checkpoints write := by
  obtain ⟨block, hblock, rfl⟩ := Option.map_eq_some_iff.mp hwrite
  obtain ⟨hge, hle, hcovered⟩ := hseen block hblock
  exact .of_watermark hfloor hown hge hle hcovered

/-- Between two chunks of a rebuild. -/
structure Rebuilding (cfg : EvmConfig) (head : Nat) (chunks : List (Nat × Nat))
    (scanned_to : Option Nat) (answered : Ranges) : Prop where
  ge : cfg.start ≤ watermark cfg.start scanned_to
  le : ∀ block, scanned_to = some block → block ≤ head
  covered : Covers answered cfg.start (watermark cfg.start scanned_to)
  remaining : chunks = [] ∨
    chunks = chunkRanges (watermark cfg.start scanned_to) head REGISTRY_CHUNK_BLOCKS

/-- While a rebuild fetches a chunk. -/
structure Fetching (wire : PortalWire) (cfg : EvmConfig) (head : Nat) (chunks : List (Nat × Nat))
    (scanned_to : Option Nat) (answered : Ranges) (req : ScanRequest) (st : StreamState) : Prop where
  wired : req.wire = wire
  next : req.from_block = watermark cfg.start scanned_to
  within : req.to_block ≤ head
  le : ∀ block, scanned_to = some block → block ≤ head
  remaining : chunks = chunkRanges (req.to_block + 1) head REGISTRY_CHUNK_BLOCKS
  streaming : Streaming req st cfg.start answered

/-- While a tip is scanned, with the checkpoint that is on disk. -/
structure Tipping (wire : PortalWire) (cfg : EvmConfig) (checkpoint : Option Nat) (req : ScanRequest)
    (st : StreamState) : Prop where
  wired : req.wire = wire
  persist : req.persist_checkpoint = true
  stored : st.checkpoint = checkpoint
  next : st.cursor = watermark cfg.start checkpoint

section
variable {wire : PortalWire} {cfg : EvmConfig} {head : Nat} {chunks : List (Nat × Nat)}
  {scanned_to : Option Nat} {answered : Ranges} {req : ScanRequest} {st st' : StreamState}

theorem Rebuilding.start (cfg : EvmConfig) (head : Nat) :
    Rebuilding cfg head (chunkRanges cfg.start head REGISTRY_CHUNK_BLOCKS) none [] where
  ge := Nat.le_refl _
  le := by
    intro block hblock
    cases hblock
  covered := .empty _
  remaining := .inr rfl

/-- The next chunk starts where the last one ended. -/
theorem Rebuilding.head_chunk {s e : Nat}
    (h : Rebuilding cfg head ((s, e) :: chunks) scanned_to answered) :
    s = watermark cfg.start scanned_to ∧ s ≤ e ∧ e ≤ head ∧
      chunks = chunkRanges (e + 1) head REGISTRY_CHUNK_BLOCKS := by
  rcases h.remaining with hnil | hchunks
  · cases hnil
  · rw [chunkRanges] at hchunks
    by_cases hpast : head < watermark cfg.start scanned_to
    · rw [if_pos hpast] at hchunks
      cases hchunks
    · rw [if_neg hpast] at hchunks
      obtain ⟨hpair, hrest⟩ := List.cons.inj hchunks
      obtain ⟨rfl, rfl⟩ := Prod.mk.inj hpair
      have hwidth : 1 ≤ REGISTRY_CHUNK_BLOCKS := by decide
      exact ⟨rfl, Nat.le_min.mpr ⟨by omega, by omega⟩, Nat.min_le_right _ _, hrest⟩

/-- A chunk that is in the cache is answered for. -/
theorem Rebuilding.cached {s e : Nat}
    (h : Rebuilding cfg head ((s, e) :: chunks) scanned_to answered) :
    Rebuilding cfg head chunks (some e) (answered ++ [(s, e)]) := by
  obtain ⟨hnext, hle, hhead, hrest⟩ := h.head_chunk
  have hge := h.ge
  refine ⟨?_, ?_, ?_, .inr hrest⟩
  · show cfg.start ≤ e + 1
    omega
  · intro block hblock
    cases hblock
    exact hhead
  · rw [hnext]
    exact h.covered.extend

theorem Rebuilding.fetch {s e : Nat} {checkpoint : Option Nat}
    (h : Rebuilding cfg head ((s, e) :: chunks) scanned_to answered) :
    Fetching wire cfg head chunks scanned_to answered ⟨wire, s, e, REGISTRY_CHUNK_BLOCKS, false⟩
      (.start ⟨wire, s, e, REGISTRY_CHUNK_BLOCKS, false⟩ checkpoint) := by
  obtain ⟨rfl, hle, hhead, hrest⟩ := h.head_chunk
  exact ⟨rfl, rfl, hhead, h.le, hrest, streaming_start h.ge (Nat.le_succ_of_le hle) h.covered⟩

theorem Fetching.moved (h : Fetching wire cfg head chunks scanned_to answered req st)
    (hmoved : Moved req st st') :
    Fetching wire cfg head chunks scanned_to (answeredBy st st' answered) req st' :=
  ⟨h.wired, h.next, h.within, h.le, h.remaining, h.streaming.moved hmoved⟩

/-- The Portal has none of the chunk: the rebuild ends with the chunks before it. -/
theorem Fetching.none_seen (h : Fetching wire cfg head chunks scanned_to answered req st)
    (hseen : st.last_seen = none) : Rebuilding cfg head [] scanned_to answered := by
  have hcursor : st.cursor = watermark cfg.start scanned_to := by
    have hlast := h.streaming.last_seen
    rw [hseen] at hlast
    by_cases hstill : st.cursor = req.from_block
    · rw [hstill, h.next]
    · rw [if_neg hstill] at hlast
      cases hlast
  have hcovered := h.streaming.covered
  have hfirst := h.streaming.from_first
  rw [hcursor] at hcovered
  rw [h.next] at hfirst
  exact ⟨hfirst, h.le, hcovered, .inl rfl⟩

/-- A chunk that was scanned to its end is followed by the next, and a shorter one by none. -/
theorem Fetching.seen (h : Fetching wire cfg head chunks scanned_to answered req st) {last : Nat}
    (hseen : st.last_seen = some last) :
    Rebuilding cfg head (if last < req.to_block then [] else chunks) (some last) answered := by
  obtain ⟨hge, hle, hcovered⟩ := h.streaming.seen last hseen
  refine ⟨Nat.le_succ_of_le hge, ?_, hcovered, ?_⟩
  · intro block hblock
    cases hblock
    exact Nat.le_trans hle h.within
  · by_cases hshort : last < req.to_block
    · exact .inl (if_pos hshort)
    · refine .inr ?_
      rw [if_neg hshort, h.remaining, Nat.le_antisymm hle (Nat.le_of_not_lt hshort)]
      rfl

theorem Rebuilding.write_sound {c : Configs} {i block : Nat} {checkpoints : Text → Option Nat}
    (hcfg : c.evm[i]? = some cfg)
    (hfloor : Floor c checkpoints) (h : Rebuilding cfg head [] (some block) answered)
    {write : CheckpointWrite}
    (hwrite : forwardWrite (checkpoints (registryWebhookScanId cfg))
      ⟨registryWebhookScanId cfg, block, cfg.start, head, answered⟩ = some write) :
    Sound c (.evm i) checkpoints write := by
  have hown : (registryWebhookScanId cfg, cfg.start) ∈ scans c (.evm i) := by
    rw [scans_evm hcfg]
    exact List.mem_cons_self
  have hfirst := hfloor _ _ _ hown
  have hforward : write = ⟨registryWebhookScanId cfg, block, cfg.start, head, answered⟩ ∧
      ∀ cp, checkpoints (registryWebhookScanId cfg) = some cp → cp < block := by
    cases hstored : checkpoints (registryWebhookScanId cfg) with
    | none =>
        rw [hstored] at hwrite
        refine ⟨(Option.some.inj hwrite).symm, ?_⟩
        intro cp hcp
        cases hcp
    | some existing =>
        rw [hstored, forwardWrite] at hwrite
        dsimp only at hwrite
        split_ifs at hwrite with hlt
        refine ⟨(Option.some.inj hwrite).symm, ?_⟩
        intro cp hcp
        cases hcp
        exact hlt
  obtain ⟨rfl, hforward⟩ := hforward
  refine ⟨hown, h.ge, hforward, h.le block rfl, ?_⟩
  intro n hn hle
  exact h.covered n (Nat.le_trans hfirst hn) hle

/-- A batch of a tip: nothing, or a write from the watermark on. -/
theorem Tipping.moved {checkpoint : Option Nat} (h : Tipping wire cfg checkpoint req st)
    (hmoved : Moved req st st') (scan_id : Text) :
    (batchWrite scan_id cfg.start req.to_block st st' (answeredBy st st' answered) = none ∧
        Tipping wire cfg checkpoint req st') ∨
      ∃ block, batchWrite scan_id cfg.start req.to_block st st' (answeredBy st st' answered)
          = some ⟨scan_id, block, cfg.start, req.to_block,
              answered ++ [(watermark cfg.start checkpoint, block)]⟩ ∧
        watermark cfg.start checkpoint ≤ block ∧ block ≤ req.to_block ∧
        Tipping wire cfg (some block) req st' := by
  cases hmoved with
  | stays hcursor hseen hcheckpoint =>
      refine .inl ⟨if_pos hcheckpoint, h.wired, h.persist, ?_, ?_⟩
      · rw [hcheckpoint, h.stored]
      · rw [hcursor, h.next]
  | batch hlt hle hseen hcheckpoint =>
      rw [if_pos h.persist] at hcheckpoint
      have hnext := h.next
      have hnew : st'.checkpoint ≠ st.checkpoint := by
        intro hsame
        rw [h.stored, hcheckpoint] at hsame
        have := @lt_watermark cfg.start _ _ hsame.symm
        omega
      refine .inr ⟨st'.cursor - 1, ?_, by omega, by omega, h.wired, h.persist, hcheckpoint, ?_⟩
      · rw [batchWrite, if_neg hnew, hcheckpoint, answeredBy, if_pos hlt, hnext]
        rfl
      · show st'.cursor = st'.cursor - 1 + 1
        omega

end

/-- What a phase of an EVM chain has answered for, over the checkpoints on disk. -/
def EvmSound (wire : PortalWire) (cfg : EvmConfig) (checkpoints : Text → Option Nat) : Phase → Prop
  | .idle => True
  | .rebuild head chunks scanned_to answered => Rebuilding cfg head chunks scanned_to answered
  | .rebuildChunk head chunks scanned_to answered req st =>
      Fetching wire cfg head chunks scanned_to answered req st
  | .registryScan req st _ => Tipping wire cfg (checkpoints (registryWebhookScanId cfg)) req st
  | .depositScan req st answered =>
      req.wire = wire ∧
        Streaming req st (watermark cfg.deposit_start_block (checkpoints (depositsScanId cfg))) answered
  | _ => False

def StarknetSound (c : Configs) (checkpoints : Text → Option Nat) : Phase → Prop
  | .idle => True
  | .chunkScan scan_id start current_from to_block _ =>
      (scan_id, start) ∈ scans c .starknet ∧ current_from = watermark start (checkpoints scan_id) ∧
        current_from ≤ to_block
  | _ => False

def SolanaSound (c : Configs) (checkpoints : Text → Option Nat) : Phase → Prop
  | .idle => True
  | .slotScan scan_id start cursor to_slot last_seen answered =>
      (scan_id, start) ∈ scans c .solana ∧ watermark start (checkpoints scan_id) ≤ cursor ∧
        Covers answered (watermark start (checkpoints scan_id)) cursor ∧
        SeenUpTo (watermark start (checkpoints scan_id)) to_slot last_seen answered
  | .slotsSeen scan_id start to_slot last_seen answered =>
      (scan_id, start) ∈ scans c .solana ∧
        SeenUpTo (watermark start (checkpoints scan_id)) to_slot last_seen answered
  | _ => False

/-- What holds of a worker between two of its steps. -/
def PhaseSound (c : Configs) (checkpoints : Text → Option Nat) (w : Worker) (phase : Phase) : Prop :=
  match w with
  | .evm i => ∀ cfg, c.evm[i]? = some cfg → EvmSound c.wire cfg checkpoints phase
  | .starknet => StarknetSound c checkpoints phase
  | .solana => SolanaSound c checkpoints phase

theorem phaseSound_idle (c : Configs) (checkpoints : Text → Option Nat) (w : Worker) :
    PhaseSound c checkpoints w .idle := by
  cases w with
  | evm i => exact fun _ _ => trivial
  | starknet => exact trivial
  | solana => exact trivial

/-- It is about the checkpoints of the worker's own scans. -/
theorem PhaseSound.frame {c : Configs} {checkpoints checkpoints' : Text → Option Nat} {w : Worker}
    {phase : Phase} (h : PhaseSound c checkpoints w phase)
    (hsame : ∀ id start, (id, start) ∈ scans c w → checkpoints' id = checkpoints id) :
    PhaseSound c checkpoints' w phase := by
  cases w with
  | evm i =>
      intro cfg hcfg
      have hown := h cfg hcfg
      rw [scans_evm hcfg] at hsame
      have hregistry := hsame _ _ List.mem_cons_self
      have hdeposits := hsame _ _ (List.mem_cons_of_mem _ List.mem_cons_self)
      cases phase with
      | registryScan req st answered =>
          show Tipping _ _ (checkpoints' (registryWebhookScanId cfg)) _ _
          rw [hregistry]
          exact hown
      | depositScan req st answered =>
          refine ⟨hown.1, ?_⟩
          rw [hdeposits]
          exact hown.2
      | _ => exact hown
  | starknet =>
      cases phase with
      | chunkScan scan_id start current_from to_block answered =>
          obtain ⟨hown, hfrom, hle⟩ := h
          refine ⟨hown, ?_, hle⟩
          rw [hsame _ _ hown]
          exact hfrom
      | _ => exact h
  | solana =>
      cases phase with
      | slotScan scan_id start cursor to_slot last_seen answered =>
          obtain ⟨hown, hrest⟩ := h
          refine ⟨hown, ?_⟩
          rw [hsame _ _ hown]
          exact hrest
      | slotsSeen scan_id start to_slot last_seen answered =>
          obtain ⟨hown, hrest⟩ := h
          refine ⟨hown, ?_⟩
          rw [hsame _ _ hown]
          exact hrest
      | _ => exact h

/-! ## One step -/

/-- What is shown of a step: its write is sound, and so is the phase it leads to. -/
structure StepSound (c : Configs) (checkpoints : Text → Option Nat) (w : Worker)
    (wrote : Option CheckpointWrite) (phase : Phase) : Prop where
  write : ∀ write, wrote = some write → Sound c w checkpoints write
  phase : PhaseSound c (written checkpoints wrote) w phase

section
variable {c : Configs} {checkpoints : Text → Option Nat} {w : Worker}
  {wrote : Option CheckpointWrite} {phase phase' : Phase}

theorem StepSound.silent (h : PhaseSound c checkpoints w phase) :
    StepSound c checkpoints w none phase where
  write := by
    intro write hwrite
    cases hwrite
  phase := h

theorem StepSound.idle (h : ∀ write, wrote = some write → Sound c w checkpoints write) :
    StepSound c checkpoints w wrote .idle :=
  ⟨h, phaseSound_idle _ _ _⟩

theorem StepSound.of_write {write : CheckpointWrite} (h : Sound c w checkpoints write)
    (hphase : PhaseSound c (written checkpoints (some write)) w phase) :
    StepSound c checkpoints w (some write) phase where
  write := by
    intro write' hwrite
    cases hwrite
    exact h
  phase := hphase

/-- An EVM phase that is sound for its chain is sound for the worker of that chain. -/
theorem phaseSound_evm {i : Nat} {cfg : EvmConfig} (hcfg : c.evm[i]? = some cfg)
    (h : EvmSound c.wire cfg checkpoints phase) : PhaseSound c checkpoints (.evm i) phase := by
  intro cfg' hcfg'
  obtain rfl := Option.some.inj (hcfg.symm.trans hcfg')
  exact h

/-- An idle tip is the watermark itself. -/
theorem idleTip_sound {scan_id : Text} {start tip : Nat} (hfloor : Floor c checkpoints)
    (hown : (scan_id, start) ∈ scans c w) (htip : watermark start (checkpoints scan_id) = tip) :
    Sound c w checkpoints ⟨scan_id, tip, start, tip, [(tip, tip)]⟩ := by
  refine .of_watermark hfloor hown (Nat.le_of_eq htip) (Nat.le_refl _) ?_
  show Covers _ (watermark start (checkpoints scan_id)) _
  rw [htip]
  exact @Covers.extend [] tip tip tip (.empty tip)

/-- A batch of a tip. -/
theorem registryBatch_sound {i : Nat} {cfg : EvmConfig} (hcfg : c.evm[i]? = some cfg)
    (hfloor : Floor c checkpoints) {req : ScanRequest} {st st' : StreamState} {answered : Ranges}
    (h : Tipping c.wire cfg (checkpoints (registryWebhookScanId cfg)) req st)
    (hmoved : Moved req st st') :
    StepSound c checkpoints (.evm i)
      (batchWrite (registryWebhookScanId cfg) cfg.start req.to_block st st'
        (answeredBy st st' answered))
      (.registryScan req st' (answeredBy st st' answered)) := by
  have hown : (registryWebhookScanId cfg, cfg.start) ∈ scans c (.evm i) := by
    rw [scans_evm hcfg]
    exact List.mem_cons_self
  obtain ⟨hnone, htipping⟩ | ⟨block, hwrite, hge, hle, htipping⟩ :=
    h.moved hmoved (registryWebhookScanId cfg)
  · rw [hnone]
    exact .silent (phaseSound_evm hcfg htipping)
  · rw [hwrite]
    refine .of_write (.of_watermark hfloor hown hge hle ?_) (phaseSound_evm hcfg ?_)
    · intro n hn hlt
      exact ⟨_, List.mem_append_right _ (List.mem_singleton.mpr rfl), hn, Nat.le_of_lt_succ hlt⟩
    · show Tipping _ _ (written checkpoints (some _) (registryWebhookScanId cfg)) _ _
      rw [written, Function.update_self]
      exact htipping

theorem moved_of_turn {wire : PortalWire} {req : ScanRequest} {st : StreamState}
    {attempt : Nat → Nat → Attempt} {turn : Turn} (hwired : req.wire = wire)
    (horder : InOrder wire attempt) (hturn : streamTurn req st attempt = turn) :
    Moved req st (stateOf turn) := by
  subst hwired
  rw [← hturn]
  exact streamTurn_moved horder

/-- A chunk that the Portal has finished with. -/
theorem fetched_sound {wire : PortalWire} {cfg : EvmConfig} {head : Nat} {chunks : List (Nat × Nat)}
    {scanned_to : Option Nat} {answered : Ranges} {req : ScanRequest} {st : StreamState}
    (h : Fetching wire cfg head chunks scanned_to answered req st) :
    EvmSound wire cfg checkpoints
      (match st.last_seen with
        | none => .rebuild head [] scanned_to answered
        | some last =>
            .rebuild head (if last < req.to_block then [] else chunks) (some last) answered) := by
  cases hseen : st.last_seen with
  | none => exact h.none_seen hseen
  | some last => exact h.seen hseen

/-- **A step of an EVM worker is sound.** -/
theorem evmStep_sound {i : Nat} {cfg : EvmConfig} (hcfg : c.evm[i]? = some cfg)
    (hfloor : Floor c checkpoints) (hphase : EvmSound c.wire cfg checkpoints phase)
    (h : EvmStep c.wire cfg checkpoints phase wrote phase') :
    StepSound c checkpoints (.evm i) wrote phase' := by
  have hregistry : (registryWebhookScanId cfg, cfg.start) ∈ scans c (.evm i) := by
    rw [scans_evm hcfg]
    exact List.mem_cons_self
  have hdeposits : (depositsScanId cfg, cfg.deposit_start_block) ∈ scans c (.evm i) := by
    rw [scans_evm hcfg]
    exact List.mem_cons_of_mem _ List.mem_cons_self
  cases h with
  | startRebuild head => exact .silent (phaseSound_evm hcfg (Rebuilding.start cfg head))
  | cachedChunk hsettled => exact .silent (phaseSound_evm hcfg (Rebuilding.cached hphase))
  | fetchChunk => exact .silent (phaseSound_evm hcfg (Rebuilding.fetch hphase))
  | chunkAgain horder hturn =>
      have hmoved := moved_of_turn hphase.wired horder hturn
      exact .silent (phaseSound_evm hcfg (Fetching.moved hphase hmoved))
  | chunkFinished horder hturn =>
      have hmoved := moved_of_turn hphase.wired horder hturn
      exact .silent (phaseSound_evm hcfg (fetched_sound (Fetching.moved hphase hmoved)))
  | chunkFailed hturn => exact .silent (phaseSound_idle _ _ _)
  | noProgress => exact .silent (phaseSound_idle _ _ _)
  | rebuilt => exact .idle fun write hwrite => Rebuilding.write_sound hcfg hfloor hphase hwrite
  | tipScan hdue hreq =>
      subst hreq
      exact .silent (phaseSound_evm hcfg ⟨rfl, rfl, rfl, rfl⟩)
  | tipIdle hdue htip =>
      exact .of_write (idleTip_sound hfloor hregistry htip) (phaseSound_idle _ _ _)
  | registryAgain horder hturn =>
      exact registryBatch_sound hcfg hfloor hphase (moved_of_turn hphase.wired horder hturn)
  | registryOver horder hturn =>
      rcases hturn with hturn | hturn
      · exact .idle (registryBatch_sound hcfg hfloor hphase
          (moved_of_turn hphase.wired horder hturn)).write
      · exact .idle (registryBatch_sound hcfg hfloor hphase
          (moved_of_turn hphase.wired horder hturn)).write
  | startDeposits hle hreq =>
      subst hreq
      exact .silent (phaseSound_evm hcfg
        ⟨rfl, streaming_start (Nat.le_refl _) (Nat.le_succ_of_le hle) (.empty _)⟩)
  | depositsAgain horder hturn =>
      exact .silent (phaseSound_evm hcfg
        ⟨hphase.1, hphase.2.moved (moved_of_turn hphase.1 horder hturn)⟩)
  | depositsFinished horder hturn =>
      have hmoved := moved_of_turn hphase.1 horder hturn
      exact .idle fun write hwrite =>
        endWrite_sound hfloor hdeposits (hphase.2.moved hmoved).seen hwrite
  | depositsFailed hturn => exact .silent (phaseSound_idle _ _ _)

/-- **A step of the Starknet worker is sound.** -/
theorem starknetStep_sound (hfloor : Floor c checkpoints)
    (hphase : StarknetSound c checkpoints phase)
    (h : StarknetStep c checkpoints phase wrote phase') :
    StepSound c checkpoints .starknet wrote phase' := by
  cases h with
  | startRegistry hle => exact .silent ⟨List.mem_cons_self, rfl, hle⟩
  | startDeposits hle => exact .silent ⟨List.mem_cons_of_mem _ List.mem_cons_self, rfl, hle⟩
  | @chunk scan_id start current_from current_to to_block answered hend =>
      obtain ⟨hown, rfl, hle⟩ := hphase
      have hwidth : 1 ≤ MAX_BLOCK_RANGE := by decide
      have hge : watermark start (checkpoints scan_id) ≤ current_to := by
        rw [hend]
        exact Nat.le_min.mpr ⟨by omega, hle⟩
      have hto : current_to ≤ to_block := by
        rw [hend]
        exact Nat.min_le_right _ _
      refine .of_write (.of_watermark hfloor hown hge hto ?_) ?_
      · intro n hn hlt
        exact ⟨_, List.mem_append_right _ (List.mem_singleton.mpr rfl), hn, Nat.le_of_lt_succ hlt⟩
      · show StarknetSound c _ _
        split_ifs with hmore
        · refine ⟨hown, ?_, hmore⟩
          rw [written, Function.update_self]
          rfl
        · exact trivial
  | failed => exact .silent (phaseSound_idle _ _ _)

/-- The last slot of a batch lies in the window, and the batch answers up to it. -/
theorem slotBatch_seen {first cursor to_slot slot : Nat} {rest : List Nat} {lowest : Nat}
    {answered : Ranges} (hlowest : lowest ≤ cursor) (hcovered : Covers answered lowest cursor)
    (hwithin : ∀ n ∈ first :: rest, cursor ≤ n ∧ n ≤ min (cursor + MAX_SLOTS_PER_REQUEST - 1) to_slot)
    (hslot : batchLast first rest = slot) :
    cursor ≤ slot ∧ SeenUpTo lowest to_slot (some slot) (answered ++ [(cursor, slot)]) := by
  obtain ⟨hge, hle⟩ := hwithin slot (hslot ▸ List.getLast_mem _)
  refine ⟨hge, ?_⟩
  intro block hblock
  cases hblock
  exact ⟨Nat.le_trans hlowest hge, Nat.le_trans hle (Nat.min_le_right _ _), hcovered.extend⟩

/-- **A step of the Solana worker is sound.** -/
theorem solanaStep_sound (hfloor : Floor c checkpoints) (hphase : SolanaSound c checkpoints phase)
    (h : SolanaStep c checkpoints phase wrote phase') :
    StepSound c checkpoints .solana wrote phase' := by
  have hnone : ∀ first asked, SeenUpTo first asked none [] := by
    intro first asked block hblock
    cases hblock
  cases h with
  | startRegistry hle => exact .silent ⟨List.mem_cons_self, Nat.le_refl _, .empty _, hnone _ _⟩
  | startDeposits hle =>
      exact .silent ⟨List.mem_cons_of_mem _ List.mem_cons_self, Nat.le_refl _, .empty _, hnone _ _⟩
  | tipIdle hdue htip =>
      exact .of_write (idleTip_sound hfloor List.mem_cons_self htip) (phaseSound_idle _ _ _)
  | batch hascending hwithin =>
      obtain ⟨hown, hge, hcovered, hseen⟩ := hphase
      obtain ⟨hcursor, hbatch⟩ := slotBatch_seen hge hcovered hwithin rfl
      refine .silent ?_
      show SolanaSound c _ _
      split_ifs with hwhole
      · exact ⟨hown, hbatch⟩
      · obtain ⟨hfirst, -, hmore⟩ := hbatch _ rfl
        exact ⟨hown, Nat.le_succ_of_le hfirst, hmore, hbatch⟩
  | rateLimited => exact .silent hphase
  | nothing => exact .silent ⟨hphase.1, hphase.2.2.2⟩
  | failed => exact .silent (phaseSound_idle _ _ _)
  | seen => exact .idle fun write hwrite => endWrite_sound hfloor hphase.1 hphase.2 hwrite

/-- **A step of a worker is sound.** -/
theorem workerStep_sound (hfloor : Floor c checkpoints) (hphase : PhaseSound c checkpoints w phase)
    (h : WorkerStep c checkpoints w phase wrote phase') :
    StepSound c checkpoints w wrote phase' := by
  cases w with
  | evm i =>
      obtain ⟨cfg, hcfg, hstep⟩ := h
      exact evmStep_sound hcfg hfloor (hphase cfg hcfg) hstep
  | starknet => exact starknetStep_sound hfloor hphase h
  | solana => exact solanaStep_sound hfloor hphase h

end

/-! ## Runs of the workers -/

def Act.wrote : Act → Option CheckpointWrite
  | .step _ wrote => wrote
  | .restart => none

/-- What holds between two steps. -/
structure Standing (c : Configs) (s : System) : Prop where
  floor : Floor c s.checkpoints
  phases : ∀ w, PhaseSound c s.checkpoints w (s.phases w)

section
variable {c : Configs}

/-- A sound write leaves every checkpoint above the first block of its scan. -/
theorem Floor.write {checkpoints : Text → Option Nat} (hfloor : Floor c checkpoints) {w : Worker}
    {write : CheckpointWrite} (h : Sound c w checkpoints write) :
    Floor c (written checkpoints (some write)) := by
  intro w' id start hown
  by_cases hid : id = write.scan_id
  · subst hid
    obtain ⟨-, rfl⟩ := scans_functional hown h.own
    rw [written, Function.update_self]
    exact h.start
  · rw [written, Function.update_of_ne hid]
    exact hfloor w' id start hown

/-- A write of one worker leaves the checkpoints of the others. -/
theorem written_other {checkpoints : Text → Option Nat} {w w' : Worker} {write : CheckpointWrite}
    (h : Sound c w checkpoints write) (hne : w' ≠ w) {id : Text} {start : Nat}
    (hown : (id, start) ∈ scans c w') : written checkpoints (some write) id = checkpoints id := by
  refine Function.update_of_ne ?_ _ _
  rintro rfl
  exact hne (scans_functional hown h.own).1

/-- **The step lemma.** -/
theorem standing_step {s s' : System} {a : Act} (h : SystemStep c s a s') (hs : Standing c s) :
    Standing c s' := by
  cases a with
  | restart =>
      obtain rfl := h
      exact ⟨hs.floor, fun w => phaseSound_idle _ _ w⟩
  | step w wrote =>
      obtain ⟨phase, hstep, rfl⟩ := h
      have hsound := workerStep_sound hs.floor (hs.phases w) hstep
      refine ⟨?_, ?_⟩
      · cases wrote with
        | none => exact hs.floor
        | some write => exact hs.floor.write (hsound.write write rfl)
      · intro w'
        by_cases hw : w' = w
        · subst hw
          show PhaseSound c _ w' (Function.update s.phases w' phase w')
          rw [Function.update_self]
          exact hsound.phase
        · show PhaseSound c _ w' (Function.update s.phases w phase w')
          rw [Function.update_of_ne hw]
          refine (hs.phases w').frame ?_
          intro id start hown
          cases wrote with
          | none => rfl
          | some write => exact written_other (hsound.write write rfl) hw hown

theorem standing_fresh : Standing c .fresh where
  floor := fun _ _ _ _ => Nat.le_refl _
  phases := fun w => phaseSound_idle _ _ w

/-- What a transition does to the cache. -/
theorem SystemStep.checkpoints {s s' : System} {a : Act} (h : SystemStep c s a s') :
    s'.checkpoints = written s.checkpoints a.wrote := by
  cases a with
  | restart =>
      obtain rfl := h
      rfl
  | step w wrote =>
      obtain ⟨phase, -, rfl⟩ := h
      rfl

theorem SystemStep.sound {s s' : System} {a : Act} (h : SystemStep c s a s') (hs : Standing c s)
    {write : CheckpointWrite} (hwrote : a.wrote = some write) :
    ∃ w, Sound c w s.checkpoints write := by
  cases a with
  | restart => cases hwrote
  | step w wrote =>
      obtain ⟨phase, hstep, -⟩ := h
      exact ⟨w, (workerStep_sound hs.floor (hs.phases w) hstep).write write hwrote⟩

/-- The cache holds at least what it held. -/
def AtLeast (before after : Text → Option Nat) : Prop :=
  ∀ id cp, before id = some cp → ∃ cp', after id = some cp' ∧ cp ≤ cp'

theorem AtLeast.refl (checkpoints : Text → Option Nat) : AtLeast checkpoints checkpoints :=
  fun _ cp h => ⟨cp, h, Nat.le_refl _⟩

theorem AtLeast.trans {a b d : Text → Option Nat} (h : AtLeast a b) (h' : AtLeast b d) :
    AtLeast a d := by
  intro id cp hcp
  obtain ⟨cp', hcp', hle⟩ := h id cp hcp
  obtain ⟨cp'', hcp'', hle'⟩ := h' id cp' hcp'
  exact ⟨cp'', hcp'', Nat.le_trans hle hle'⟩

/-- One transition only moves checkpoints forward. -/
theorem SystemStep.atLeast {s s' : System} {a : Act} (h : SystemStep c s a s') (hs : Standing c s) :
    AtLeast s.checkpoints s'.checkpoints := by
  rw [h.checkpoints]
  cases hwrote : a.wrote with
  | none => exact .refl _
  | some write =>
      obtain ⟨w, hsound⟩ := h.sound hs hwrote
      intro id cp hcp
      by_cases hid : id = write.scan_id
      · subst hid
        exact ⟨write.block, Function.update_self _ _ _, Nat.le_of_lt (hsound.forward cp hcp)⟩
      · exact ⟨cp, (Function.update_of_ne hid _ _).trans hcp, Nat.le_refl _⟩

theorem steps_atLeast {s s' : System} {tr : List (Transition System Act)}
    (h : Steps (SystemStep c) s tr s') (hs : Standing c s) :
    AtLeast s.checkpoints s'.checkpoints := by
  induction h with
  | refl s => exact .refl _
  | step hstep hrest ih => exact (hstep.atLeast hs).trans (ih (standing_step hstep hs))

/-- **Checkpoints only move forward.**  Over every run of the workers from an empty cache: a write is
above the value it replaces, within what its step asked for, and every block from the watermark up to
it has been answered for; and no checkpoint is ever lower later. -/
theorem checkpoints_move_forward {s : System} {tr : List (Transition System Act)}
    (h : Steps (SystemStep c) .fresh tr s) :
    ∀ t ∈ tr, t.post.checkpoints = written t.pre.checkpoints t.act.wrote ∧
      (∀ write, t.act.wrote = some write →
        (∀ cp, t.pre.checkpoints write.scan_id = some cp → cp < write.block) ∧
          write.block ≤ write.asked ∧
          ∀ n, watermark write.start (t.pre.checkpoints write.scan_id) ≤ n → n ≤ write.block →
            ∃ r ∈ write.answered, r.1 ≤ n ∧ n ≤ r.2) ∧
      AtLeast t.pre.checkpoints s.checkpoints := by
  intro t ht
  obtain ⟨hstep, l, r, rfl, hbefore, hafter⟩ := h.mem_split ht
  have hstanding : Standing c t.pre :=
    hbefore.invariant (P := fun _ => True) (fun _ _ _ hstep _ hs => standing_step hstep hs)
      (fun _ _ => trivial) standing_fresh
  refine ⟨hstep.checkpoints, ?_, (hstep.atLeast hstanding).trans
    (steps_atLeast hafter (standing_step hstep hstanding))⟩
  intro write hwrote
  obtain ⟨w, hsound⟩ := hstep.sound hstanding hwrote
  refine ⟨hsound.forward, hsound.asked, ?_⟩
  intro n hn hle
  exact hsound.covered n hn (Nat.lt_succ_of_le hle)

end

namespace Sample

def workers : Configs where
  wire := ⟨fun _ => none, fun _ => none⟩
  evm := []
  names := List.nodup_nil
  starknet_registry_start := 0
  starknet_deposit_start := 0
  solana_registry_start := 7
  solana_deposit_start := 0

def started : Phase := .chunkScan STARKNET_REGISTRY_SCAN_ID 0 0 1500 []

def first : CheckpointWrite := ⟨STARKNET_REGISTRY_SCAN_ID, 999, 0, 1500, [(0, 999)]⟩

def between : Phase := .chunkScan STARKNET_REGISTRY_SCAN_ID 0 1000 1500 [(0, 999)]

def idleTip : CheckpointWrite := ⟨SOLANA_REGISTRY_SCAN_ID, 7, 7, 7, [(7, 7)]⟩

def afterStart : System := ⟨fun _ => none, Function.update (fun _ => .idle) .starknet started⟩

def afterChunk : System :=
  ⟨written afterStart.checkpoints (some first), Function.update afterStart.phases .starknet between⟩

def afterTip : System :=
  ⟨written afterChunk.checkpoints (some idleTip), Function.update afterChunk.phases .solana .idle⟩

def afterRestart : System := ⟨afterTip.checkpoints, fun _ => .idle⟩

def transitions : List (Transition System Act) :=
  [⟨.fresh, .step .starknet none, afterStart⟩, ⟨afterStart, .step .starknet (some first), afterChunk⟩,
    ⟨afterChunk, .step .solana (some idleTip), afterTip⟩, ⟨afterTip, .restart, afterRestart⟩]

theorem run : Steps (SystemStep workers) .fresh transitions afterRestart := by
  refine .step ⟨started, ?_, rfl⟩ (.step ⟨between, ?_, rfl⟩ (.step ⟨.idle, ?_, rfl⟩ (.step rfl (.refl _))))
  · exact @StarknetStep.startRegistry workers _ 1500 (by decide)
  · exact @StarknetStep.chunk workers _ STARKNET_REGISTRY_SCAN_ID 0 0 999 1500 [] (by decide)
  · exact @SolanaStep.tipIdle workers _ 7 false (by unfold Due; decide) rfl

end Sample

open Sample in
theorem checkpoints_move_forward_sample :
    transitions.length = 4 ∧
    ∀ t ∈ transitions, t.post.checkpoints = written t.pre.checkpoints t.act.wrote ∧
      (∀ write, t.act.wrote = some write →
        (∀ cp, t.pre.checkpoints write.scan_id = some cp → cp < write.block) ∧
          write.block ≤ write.asked ∧
          ∀ n, watermark write.start (t.pre.checkpoints write.scan_id) ≤ n → n ≤ write.block →
            ∃ r ∈ write.answered, r.1 ≤ n ∧ n ≤ r.2) ∧
      AtLeast t.pre.checkpoints afterRestart.checkpoints :=
  ⟨rfl, checkpoints_move_forward run⟩

end Beanie.Keeper.Checkpoints
