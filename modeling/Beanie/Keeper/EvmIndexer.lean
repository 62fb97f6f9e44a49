/-
# `Beanie.Keeper.EvmIndexer` — the EVM registry and deposit scans

`evm_indexer.rs` and `log_cache.rs`: what a log decodes to, the Portal's filter,
the scans over it, and the registry's chunk cache.

    decodeLog, depositOfLog     the two decoders
    discoverRegistryActivity    the registry scan that follows the tip
    rebuildRegistryState        the registry scan at startup, chunk by chunk
    fetchEvmDeposits            the deposit scan
    RegistryChunk.round_trip    a cached chunk is what was found
-/
import Beanie.Api.TransferEvm
import Beanie.Lib.Hex
import Beanie.Lib.Stream

namespace Beanie.Keeper

open Beanie.Api (Address EvmReceiverRecord EvmRoute trimHexPrefix)

/-! ## Configuration and logs -/

/-- What `EvmConfig` holds for the scans. -/
structure EvmConfig extends Api.EvmConfig where
  registry_start_block : Nat
  webhook_registry_start_block : Nat
  deposit_start_block : Nat

/-- The block both registry scans start from. -/
def EvmConfig.start (cfg : EvmConfig) : Nat :=
  min cfg.registry_start_block cfg.webhook_registry_start_block

structure PortalLog where
  address : Text
  topics : List Text
  data : Text
  transaction_hash : Text
deriving DecidableEq

structure PortalBlock where
  number : Nat
  logs : List PortalLog

/-- What the indexer takes from `keccak256` and `ethers::abi`: the topics as texts, and a string from
its encoding. -/
structure EvmTexts where
  merchant_registered : Text
  receiver_announced : Text
  webhook_url_set : Text
  transfer : Text
  abi_decode_string : Bytes → Option Text

/-- `{:?}` of an address. -/
def showAddress (a : Address) : Text := '0' :: 'x' :: hexEncode (beBytes 20 a.toNat)

/-- `parse::<Address>()`. -/
def parseAddress (s : Text) : Option Address :=
  let ds := match s with
    | '0' :: 'x' :: ds => ds
    | ds => ds
  match hexDecode ds with
  | some bs => if bs.length = 20 then some (BitVec.ofNat 160 (beNat bs)) else none
  | none => none

def bytes32Hex (b : BitVec 256) : Text := '0' :: 'x' :: hexEncode (beBytes 32 b.toNat)

def parseBytes32 (s : Text) : Option (BitVec 256) :=
  match hexDecode (trimHexPrefix s) with
  | some bs => if bs.length = 32 then some (BitVec.ofNat 256 (beNat bs)) else none
  | none => none

/-- `&data[a..b]` of enough data, as a number. -/
def dataSlice (data : Bytes) (a b : Nat) : Nat := beNat ((data.drop a).take (b - a))

/-- `addr_topic_hex`: twelve zero octets, then the address. -/
def addrTopicHex (a : Address) : Text :=
  '0' :: 'x' :: hexEncode (List.replicate 12 0 ++ beBytes 20 a.toNat)

def parseTopicAddr (topic : Text) : Option Address :=
  match hexDecode (trimHexPrefix topic) with
  | some bs => if bs.length = 32 then some (BitVec.ofNat 160 (dataSlice bs 12 32)) else none
  | none => none

/-- What the Portal is asked for; an empty list asks for anything. -/
structure LogFilter where
  address : List Text
  topic0 : List Text
  topic2 : List Text

/-- The Portal's side of a filter. -/
def LogFilter.accepts (filter : LogFilter) (log : PortalLog) : Bool :=
  (filter.address.isEmpty || filter.address.contains log.address) &&
    (filter.topic0.isEmpty || (log.topics[0]?).any filter.topic0.contains) &&
      (filter.topic2.isEmpty || (log.topics[2]?).any filter.topic2.contains)

/-- The logs of a chain that a filter lets through. -/
def accepted (chain : Nat → List PortalLog) (filter : LogFilter) (n : Nat) : List PortalLog :=
  (chain n).filter filter.accepts

/-! ## Decoding -/

/-- What the registry scan finds: a receiver, or the webhook of a merchant. -/
inductive RegistryRecord
  | receiver (rec : EvmReceiverRecord)
  | webhook (merchant : Address) (url : Text)

def receiversIn (found : List RegistryRecord) : List EvmReceiverRecord :=
  found.filterMap fun
    | .receiver rec => some rec
    | .webhook .. => none

def webhooksIn (found : List RegistryRecord) : List (Address × Text) :=
  found.filterMap fun
    | .receiver _ => none
    | .webhook merchant url => some (merchant, url)

@[simp] theorem receiversIn_append (xs ys : List RegistryRecord) :
    receiversIn (xs ++ ys) = receiversIn xs ++ receiversIn ys := List.filterMap_append

@[simp] theorem webhooksIn_append (xs ys : List RegistryRecord) :
    webhooksIn (xs ++ ys) = webhooksIn xs ++ webhooksIn ys := List.filterMap_append

section
variable (tx : EvmTexts)

/-- One log of the registries; one that does not decode is passed over. -/
def decodeLog (log : PortalLog) : Option RegistryRecord :=
  match log.topics with
  | [] => none
  | topic :: topics =>
      let topic0 := topic.map Char.toLower
      let data_bytes := (hexDecode (trimHexPrefix log.data)).getD []
      if topic0 = tx.merchant_registered then
        if data_bytes.length < 32 then none
        else do
          let merchant ← parseTopicAddr (← topics[0]?)
          some (.receiver ⟨merchant, BitVec.ofNat 160 (dataSlice data_bytes 12 32), none⟩)
      else if topic0 = tx.receiver_announced then
        if data_bytes.length < 64 then none
        else do
          let topic2 ← topics[1]?
          let merchant ← parseTopicAddr (← topics[0]?)
          let receiver ← parseTopicAddr topic2
          some (.receiver ⟨merchant, receiver,
            some ⟨BitVec.ofNat 256 (dataSlice data_bytes 0 32),
              BitVec.ofNat 256 (dataSlice data_bytes 32 64)⟩⟩)
      else if topic0 = tx.webhook_url_set then do
        let merchant ← parseTopicAddr (← topics[0]?)
        let url ← tx.abi_decode_string data_bytes
        some (.webhook merchant url)
      else none

/-- One `Transfer` of the token. -/
def depositOfLog (chain_name : Text) (n : Nat) (log : PortalLog) : Option Api.Deposit :=
  match log.topics with
  | topic :: sender :: target :: _ =>
      if topic.map Char.toLower = tx.transfer then do
        let sender ← parseTopicAddr sender
        let target ← parseTopicAddr target
        let data_bytes := (hexDecode (trimHexPrefix log.data)).getD []
        let amount_raw := if 32 ≤ data_bytes.length
          then Nat.toDigits 10 (dataSlice data_bytes 0 32) else ['0']
        some ⟨chain_name, log.transaction_hash, showAddress sender, showAddress target, amount_raw,
          BitVec.ofNat 64 n⟩
      else none
  | _ => none

variable (cfg : EvmConfig)

def registryFilter : LogFilter where
  address := [showAddress cfg.factory_address, showAddress cfg.webhook_registry_address]
  topic0 := [tx.merchant_registered, tx.receiver_announced, tx.webhook_url_set]
  topic2 := []

def depositFilter (receivers : List Address) : LogFilter where
  address := [showAddress cfg.token_address]
  topic0 := [tx.transfer]
  topic2 := receivers.map addrTopicHex

/-- The registry records of a block. -/
def evmRecords (chain : Nat → List PortalLog) (n : Nat) : List RegistryRecord :=
  (accepted chain (registryFilter tx cfg) n).filterMap (decodeLog tx)

/-- The deposits of a block to one of the receivers. -/
def evmDeposits (chain : Nat → List PortalLog) (receivers : List Address) (n : Nat) :
    List Api.Deposit :=
  (accepted chain (depositFilter tx cfg receivers) n).filterMap (depositOfLog tx cfg.chain_name n)

end

/-! ## The window -/

def MAX_BLOCKS_PER_REQUEST : Nat := 2000
def DEPOSIT_MAX_BLOCKS_PER_REQUEST : Nat := 20000
def MIN_BLOCKS_PER_REQUEST : Nat := 1000
def GROW_AFTER_CONSECUTIVE_SUCCESSES : Nat := 5
def REGISTRY_CHUNK_BLOCKS : Nat := 200000
def REORG_SAFETY_BLOCKS : Nat := 128

/-- The adaptive window of `stream_logs`. -/
structure Window where
  batch_size : Nat
  consecutive_successes : Nat

/-- It is halved by a timeout, and doubled after five successes in a row. -/
def windowPolicy (max_window : Nat) : Policy Window where
  size w := w.batch_size
  timeout w := some ⟨max (w.batch_size / 2) MIN_BLOCKS_PER_REQUEST, 0⟩
  success w :=
    if w.batch_size < max_window then
      if GROW_AFTER_CONSECUTIVE_SUCCESSES ≤ w.consecutive_successes + 1 then
        ⟨min (w.batch_size * 2) max_window, 0⟩
      else ⟨w.batch_size, w.consecutive_successes + 1⟩
    else w

/-- `stream_logs`. -/
def streamLogs {ρ : Type} (on_log : Nat → PortalLog → Option ρ) (max_window : Nat) (persist : Bool)
    (checkpoint : Option Nat) (from_block to_block : Nat) (responses : List (Portal PortalBlock)) :
    Streamed ρ :=
  stream (windowPolicy max_window) PortalBlock.number
    (fun block => block.logs.filterMap (on_log block.number)) persist to_block responses
    ⟨max_window, 0⟩ checkpoint from_block none []

/-- A Portal that answers from this chain, through this filter. -/
def Serves (chain : Nat → List PortalLog) (filter : LogFilter) (p : Portal PortalBlock) : Prop :=
  p.Honest PortalBlock.number PortalBlock.logs (accepted chain filter)

theorem streamLogs_covers {ρ : Type} (on_log : Nat → PortalLog → Option ρ) (max_window : Nat)
    (persist : Bool) (checkpoint : Option Nat) (from_block to_block : Nat)
    {responses : List (Portal PortalBlock)} {chain : Nat → List PortalLog} {filter : LogFilter}
    (h : ∀ p ∈ responses, Serves chain filter p) :
    (streamLogs on_log max_window persist checkpoint from_block to_block responses).Covers
      (fun n => (accepted chain filter n).filterMap (on_log n)) persist checkpoint from_block to_block
      none [] :=
  stream_covers on_log persist to_block h _ checkpoint from_block none []

/-! ## Cached chunks -/

structure CachedReceiver where
  merchant : Text
  receiver : Text
  cctp_chain : Option Text
  cctp_recipient : Option Text

/-- A chunk as the cache keeps it, and as `serde_json` gives it back. -/
structure RegistryChunk where
  merchants : List CachedReceiver
  webhooks : List (Text × Text)

def RegistryChunk.fromFound (merchants : List EvmReceiverRecord) (webhooks : List (Address × Text)) :
    RegistryChunk where
  merchants := merchants.map fun rec =>
    { merchant := showAddress rec.merchant
      receiver := showAddress rec.receiver
      cctp_chain := rec.route.map fun r => bytes32Hex r.chain
      cctp_recipient := rec.route.map fun r => bytes32Hex r.recipient }
  webhooks := webhooks.map fun (m, u) => (showAddress m, u)

def CachedReceiver.intoFound (c : CachedReceiver) : Option EvmReceiverRecord := do
  let route ← match c.cctp_chain, c.cctp_recipient with
    | some chain, some recipient => do
        let chain ← parseBytes32 chain
        let recipient ← parseBytes32 recipient
        some (some (EvmRoute.mk chain recipient))
    | _, _ => some none
  let merchant ← parseAddress c.merchant
  let receiver ← parseAddress c.receiver
  some ⟨merchant, receiver, route⟩

def RegistryChunk.intoFound (chunk : RegistryChunk) :
    List EvmReceiverRecord × List (Address × Text) :=
  (chunk.merchants.filterMap CachedReceiver.intoFound,
    chunk.webhooks.filterMap fun (m, u) => (parseAddress m).map (·, u))

theorem trimHexPrefix_hexEncode (bs : Bytes) : trimHexPrefix (hexEncode bs) = hexEncode bs := by
  have hx : ∀ ds : Text, IsHex ds → trimHexPrefix ds = ds := by
    intro ds hds
    unfold trimHexPrefix
    split
    · cases hds 'x' (by simp)
    · rfl
  exact hx _ (isHex_hexEncode bs)

theorem parseAddress_showAddress (a : Address) : parseAddress (showAddress a) = some a := by
  have hlength : (beBytes 20 a.toNat).length = 20 := by
    rw [beBytes, List.length_reverse, length_leBytes]
  show (match hexDecode (hexEncode (beBytes 20 a.toNat)) with
    | some bs => if bs.length = 20 then some (BitVec.ofNat 160 (beNat bs)) else none
    | none => none) = some a
  rw [hexDecode_hexEncode]
  dsimp only
  rw [if_pos hlength, beNat_beBytes, show 256 ^ 20 = 2 ^ 160 by decide, Nat.mod_eq_of_lt a.isLt,
    BitVec.ofNat_toNat, BitVec.setWidth_eq]

theorem parseBytes32_bytes32Hex (b : BitVec 256) : parseBytes32 (bytes32Hex b) = some b := by
  have hlength : (beBytes 32 b.toNat).length = 32 := by
    rw [beBytes, List.length_reverse, length_leBytes]
  unfold parseBytes32 bytes32Hex
  rw [trimHexPrefix, trimHexPrefix_hexEncode, hexDecode_hexEncode]
  dsimp only
  rw [if_pos hlength, beNat_beBytes, show 256 ^ 32 = 2 ^ 256 by decide, Nat.mod_eq_of_lt b.isLt,
    BitVec.ofNat_toNat, BitVec.setWidth_eq]

theorem colon_not_mem_showAddress (a : Address) : ':' ∉ showAddress a := by
  have hdigits := colon_not_mem_of_isHex (isHex_hexEncode (beBytes 20 a.toNat))
  intro hmem
  rcases List.mem_cons.mp hmem with h | hmem
  · cases h
  rcases List.mem_cons.mp hmem with h | hmem
  · cases h
  · exact hdigits hmem

theorem showAddress_inj {a b : Address} (h : showAddress a = showAddress b) : a = b := by
  have hparse := parseAddress_showAddress a
  rw [h, parseAddress_showAddress] at hparse
  exact (Option.some.inj hparse).symm

/-- **The round trip.**  A cached chunk is what was found. -/
theorem RegistryChunk.round_trip (merchants : List EvmReceiverRecord)
    (webhooks : List (Address × Text)) :
    (RegistryChunk.fromFound merchants webhooks).intoFound = (merchants, webhooks) := by
  refine Prod.ext ?_ ?_
  · show (merchants.map _).filterMap CachedReceiver.intoFound = merchants
    rw [List.filterMap_map]
    refine (List.filterMap_congr fun rec _ => ?_).trans (List.filterMap_some)
    obtain ⟨merchant, receiver, route⟩ := rec
    cases route with
    | none =>
        simp [CachedReceiver.intoFound, parseAddress_showAddress]
    | some route =>
        simp [CachedReceiver.intoFound, parseAddress_showAddress, parseBytes32_bytes32Hex]
  · show (webhooks.map _).filterMap _ = webhooks
    rw [List.filterMap_map]
    refine (List.filterMap_congr fun p _ => ?_).trans (List.filterMap_some)
    simp [parseAddress_showAddress]

end Beanie.Keeper
