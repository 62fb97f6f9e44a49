/-
# `Beanie.Browser.Onchain` — the browser's deposit scans

`headBlock` and `scanDeposits` of `onchain.js`.  A node answers a request or
does not.  What it answers is taken from the chain: the logs of a range of
blocks, a range of events page by page, the signatures of an account from the
newest on.  A promise that rejects is `none`.

    sigPages_eq_some_iff   what the ten pages of signatures find, and when they
                           are too few
    scanDeposits_exact     a scan returns the transfers of its window, each once
                           and in order
-/
import Beanie.Browser.SolanaMessage
import Beanie.Lib.Scan

namespace Beanie.Browser

def EVM_LOG_WINDOW : Nat := 2000
def STARKNET_EVENT_WINDOW : Nat := 500
def SOLANA_MAX_SIG_PAGES : Nat := 10
def SIGNATURES_PER_PAGE : Nat := 1000

/-- A transfer, as `scanDeposits` returns it.  Only on Solana is it known who has sent it. -/
structure Deposit where
  amount : Text
  tx : Text
  block : Nat
  sender : Option Text
deriving DecidableEq

/-! ## What the nodes answer -/

/-- A `Transfer` log, with its numbers read. -/
structure Log where
  data : Nat
  transactionHash : Text
  blockNumber : Nat

structure StarknetEvent where
  data : List Nat
  transaction_hash : Text
  block_number : Nat

structure EventPage where
  events : List StarknetEvent
  continuation_token : Option Text

structure SignatureInfo where
  signature : Text
  slot : Nat
  err : Bool

/-- `parsed.info`. -/
structure TransferInfo where
  source : Option Text
  destination : Option Text
  mint : Option Text
  amount : Text
  /-- `tokenAmount.amount` -/
  tokenAmount : Text
  authority : Option Text
  multisigAuthority : Option Text

/-- An instruction, with its type and info where the node has parsed it. -/
structure ParsedInstruction where
  programId : Text
  parsed : Option (Text × TransferInfo)

/-- A transaction whose `meta` is there. -/
structure ParsedTransaction where
  err : Bool
  instructions : List ParsedInstruction
  innerInstructions : List (List ParsedInstruction)

/-- The node's answers while one scan goes on. -/
structure Rpc where
  /-- `eth_blockNumber`, `starknet_blockNumber`, `getSlot` -/
  headBlock : (chain : Text) → Option Nat
  eth_getLogs : (chain address receiver : Text) → (fromBlock toBlock : Nat) → Option (List Log)
  starknet_getEvents : (address receiver : Text) → (from_block to_block : Nat) →
    (continuation_token : Option Text) → Option EventPage
  /-- The first argument counts the requests. -/
  getSignaturesForAddress : Nat → (account : Text) → (before : Option Text) →
    Option (List SignatureInfo)
  getTransaction : (signature : Text) → Option (Option ParsedTransaction)

/-! ## Scanning -/

def decimal (n : Nat) : Text := Nat.toDigits 10 n

def Log.deposit (l : Log) : Deposit := ⟨decimal l.data, l.transactionHash, l.blockNumber, none⟩

/-- Two words of the data, or zero. -/
def StarknetEvent.deposit (ev : StarknetEvent) : Deposit where
  amount := decimal (ev.data.getD 1 0 * 2 ^ 128 + ev.data.getD 0 0)
  tx := ev.transaction_hash
  block := ev.block_number
  sender := none

/-- The `do … while (token)` loop; an empty token ends it too. -/
def eventPages (fetch : Option Text → Option EventPage) :
    (fuel : Nat) → Option Text → Option (List StarknetEvent)
  | 0, _ => none
  | fuel + 1, token => do
      let page ← fetch token
      match page.continuation_token with
      | some (c :: cs) => do
          let later ← eventPages fetch fuel (some (c :: cs))
          some (page.events ++ later)
      | _ => some page.events

/-- What one batch of signatures adds: those before the first of an earlier slot. -/
def batchHits (fromBlock head : Nat) (batch : List SignatureInfo) : List SignatureInfo :=
  (batch.takeWhile fun s => decide (fromBlock ≤ s.slot)).filter fun s => !s.err && decide (s.slot ≤ head)

/-- The pages of signatures, newest first; `none` also where there are too many. -/
def sigPages (fetch : Nat → Option Text → Option (List SignatureInfo)) (fromBlock head : Nat) :
    (left : Nat) → (page : Nat) → Option Text → Option (List SignatureInfo)
  | 0, _, _ => none
  | left + 1, page, before => do
      let batch ← fetch page before
      let hits := batchHits fromBlock head batch
      if (∃ s ∈ batch, s.slot < fromBlock) ∨ batch.length < SIGNATURES_PER_PAGE then some hits
      else do
        let later ← sigPages fetch fromBlock head left (page + 1) (batch.getLast?.map (·.signature))
        some (hits ++ later)

/-- What one instruction puts into the account. -/
def transferInto (account usdc : Text) (ix : ParsedInstruction) : Option (Text × Option Text) :=
  match ix.parsed with
  | none => none
  | some (type, info) =>
      if ix.programId ≠ TOKEN_PROGRAM then none
      else if info.destination ≠ some account ∨ info.source = some account then none
      else if type = "transfer".toList then
        some (info.amount, info.authority.orElse fun _ => info.multisigAuthority)
      else if type = "transferChecked".toList ∧ info.mint = some usdc then
        some (info.tokenAmount, info.authority.orElse fun _ => info.multisigAuthority)
      else none

/-- The transfers of a transaction, those of its own instructions first. -/
def transfersOf (account usdc : Text) (tx : ParsedTransaction) : List (Text × Option Text) :=
  if tx.err then []
  else (tx.instructions ++ tx.innerInstructions.flatten).filterMap (transferInto account usdc)

def solanaTransfersInto (rpc : Rpc) (account usdc signature : Text) :
    Option (List (Text × Option Text)) := do
  let tx ← rpc.getTransaction signature
  tx.map (transfersOf account usdc)

def SignatureInfo.deposits (s : SignatureInfo) (found : List (Text × Option Text)) : List Deposit :=
  found.map fun t => ⟨t.1, s.signature, s.slot, t.2⟩

/-- The transactions of the hits; the requests of a chunk are made together. -/
def readHits (rpc : Rpc) (account usdc : Text) : List SignatureInfo → Option (List Deposit)
  | [] => some []
  | s :: ss => do
      let found ← solanaTransfersInto rpc account usdc s.signature
      let later ← readHits rpc account usdc ss
      some (s.deposits found ++ later)

section
variable (p : Platform) (rpc : Rpc) (fuel : Nat)

def solanaDeposits (usdc receiver : Text) (fromBlock head : Nat) : Option (List Deposit × Nat) := do
  let account ← p.usdcAta receiver usdc
  let hits ← sigPages (fun page => rpc.getSignaturesForAddress page account) fromBlock head
    SOLANA_MAX_SIG_PAGES 0 none
  let deposits ← readHits rpc account usdc hits.reverse
  some (deposits, head + 1)

def scanDeposits (chainKey receiver : Text) (fromBlock : Nat) : Option (List Deposit × Nat) := do
  let chain ← chainByKey chainKey
  let head ← rpc.headBlock (wire chainKey)
  if head < fromBlock then some ([], fromBlock)
  else
    match chain.kind with
    | .evm => do
        let last := min head (fromBlock + EVM_LOG_WINDOW - 1)
        let logs ← rpc.eth_getLogs (wire chainKey) chain.usdc receiver fromBlock last
        some (logs.map Log.deposit, last + 1)
    | .starknet => do
        let last := min head (fromBlock + STARKNET_EVENT_WINDOW - 1)
        let events ← eventPages (rpc.starknet_getEvents chain.usdc receiver fromBlock last) fuel none
        some (events.map StarknetEvent.deposit, last + 1)
    | .solana => solanaDeposits p rpc chain.usdc receiver fromBlock head

end

/-! ## The chain -/

/-- What a chain has of a receiver, by block or slot; of a slot, the oldest signature first. -/
structure OnChain where
  logs : Nat → List Log
  events : Nat → List StarknetEvent
  signatures : Nat → List SignatureInfo
  transaction : Text → ParsedTransaction
  log_block : ∀ n, ∀ l ∈ logs n, l.blockNumber = n
  event_block : ∀ n, ∀ ev ∈ events n, ev.block_number = n
  slot_eq : ∀ n, ∀ s ∈ signatures n, s.slot = n
  distinct : ∀ n, ((between signatures 0 n).map (·.signature)).Nodup

namespace OnChain
variable (c : OnChain)

/-- The signatures of an account up to the slot `finalized`, newest first. -/
def newest (finalized : Nat) : List SignatureInfo := (between c.signatures 0 (finalized + 1)).reverse

/-- One page of them. -/
def signaturePage (finalized : Nat) (before : Option Text) : List SignatureInfo :=
  let listed := match before with
    | none => c.newest finalized
    | some b => ((c.newest finalized).dropWhile fun (s : SignatureInfo) =>
        decide (s.signature ≠ b)).drop 1
  listed.take SIGNATURES_PER_PAGE

def signatureDeposits (account usdc : Text) (s : SignatureInfo) : List Deposit :=
  s.deposits (transfersOf account usdc (c.transaction s.signature))

/-- The transfers to a receiver, by block. -/
def transfers (kind : Kind) (account usdc : Text) (n : Nat) : List Deposit :=
  match kind with
  | .evm => (c.logs n).map Log.deposit
  | .starknet => (c.events n).map StarknetEvent.deposit
  | .solana => ((c.signatures n).filter fun s => !s.err).flatMap (c.signatureDeposits account usdc)

/-- A transfer bears the block it is in. -/
theorem transfers_block {kind : Kind} {account usdc : Text} {n : Nat} {d : Deposit}
    (h : d ∈ c.transfers kind account usdc n) : d.block = n := by
  cases kind with
  | evm =>
      obtain ⟨l, hl, rfl⟩ := List.mem_map.mp h
      exact c.log_block n l hl
  | starknet =>
      obtain ⟨ev, hev, rfl⟩ := List.mem_map.mp h
      exact c.event_block n ev hev
  | solana =>
      obtain ⟨s, hs, hd⟩ := List.mem_flatMap.mp h
      obtain ⟨t, -, rfl⟩ := List.mem_map.mp hd
      exact c.slot_eq n s (List.mem_filter.mp hs).1

end OnChain

/-- The pages, from the token on, hold the events. -/
inductive Pages (pages : Option Text → EventPage) : Option Text → List StarknetEvent → Prop
  | last {token : Option Text} : (pages token).continuation_token = none →
      Pages pages token (pages token).events
  | more {token : Option Text} {c : Char} {cs : Text} {later : List StarknetEvent} :
      (pages token).continuation_token = some (c :: cs) → Pages pages (some (c :: cs)) later →
      Pages pages token ((pages token).events ++ later)

/-- The node answers from the chain, and each request for signatures from a slot, finalized then,
that is not behind the head it has given. -/
structure Rpc.Documented (rpc : Rpc) (c : OnChain) (finalized : Nat → Nat) (chainKey : Text)
    (usdc receiver account : Text) : Prop where
  logs : ∀ head fromBlock toBlock logs, rpc.headBlock (wire chainKey) = some head →
    toBlock ≤ head → rpc.eth_getLogs (wire chainKey) usdc receiver fromBlock toBlock = some logs →
    logs = between c.logs fromBlock (toBlock + 1)
  events : ∀ head from_block to_block, rpc.headBlock (wire chainKey) = some head →
    to_block ≤ head → ∃ pages, Pages pages none (between c.events from_block (to_block + 1)) ∧
      ∀ token page, rpc.starknet_getEvents usdc receiver from_block to_block token = some page →
        page = pages token
  fresh : ∀ head, rpc.headBlock (wire chainKey) = some head → ∀ page, head ≤ finalized page
  grows : Monotone finalized
  signatures : ∀ page before batch, rpc.getSignaturesForAddress page account before = some batch →
    batch = c.signaturePage (finalized page) before
  transaction : ∀ signature tx, rpc.getTransaction signature = some (some tx) →
    tx = c.transaction signature

/-! ## Pages of events -/

section
variable {fetch : Option Text → Option EventPage} {pages : Option Text → EventPage}

theorem eventPages_eq {token : Option Text} {events found : List StarknetEvent}
    (hpages : Pages pages token events) (hfetch : ∀ t page, fetch t = some page → page = pages t) :
    ∀ {fuel : Nat}, eventPages fetch fuel token = some found → found = events := by
  induction hpages generalizing found with
  | @last token hlast =>
      intro fuel h
      cases fuel with
      | zero => cases h
      | succ fuel =>
          obtain ⟨page, hpage, h⟩ := Option.bind_eq_some_iff.mp h
          obtain rfl := hfetch _ _ hpage
          rw [hlast] at h
          exact (Option.some.inj h).symm
  | @more token c cs later hmore _ ih =>
      intro fuel h
      cases fuel with
      | zero => cases h
      | succ fuel =>
          obtain ⟨page, hpage, h⟩ := Option.bind_eq_some_iff.mp h
          obtain rfl := hfetch _ _ hpage
          rw [hmore] at h
          obtain ⟨rest, hrest, h⟩ := Option.bind_eq_some_iff.mp h
          rw [← ih hrest]
          exact (Option.some.inj h).symm

/-- Answered, the loop ends. -/
theorem eventPages_ends {token : Option Text} {events : List StarknetEvent}
    (hpages : Pages pages token events) (hfetch : ∀ t, fetch t = some (pages t)) :
    ∃ enough, ∀ fuel, enough ≤ fuel → eventPages fetch fuel token = some events := by
  induction hpages with
  | @last token hlast =>
      refine ⟨1, fun fuel hfuel => ?_⟩
      obtain ⟨fuel, rfl⟩ := Nat.exists_eq_add_of_le' hfuel
      rw [eventPages, hfetch]
      dsimp only [Option.bind_eq_bind, Option.bind_some]
      rw [hlast]
  | @more token c cs later hmore _ ih =>
      obtain ⟨enough, ih⟩ := ih
      refine ⟨enough + 1, fun fuel hfuel => ?_⟩
      obtain ⟨fuel, rfl⟩ := Nat.exists_eq_add_of_le' (Nat.le_of_add_left_le hfuel)
      rw [eventPages, hfetch]
      dsimp only [Option.bind_eq_bind, Option.bind_some]
      rw [hmore]
      dsimp only
      rw [ih fuel (by omega)]
      rfl

end

/-! ## Pages of signatures -/

/-- Of the signatures listed, those of a scan. -/
def wanted (fromBlock head : Nat) (listed : List SignatureInfo) : List SignatureInfo :=
  (listed.filter fun s => decide (fromBlock ≤ s.slot)).filter fun s =>
    !s.err && decide (s.slot ≤ head)

section
variable {fromBlock head : Nat}

/-- Newest first, the signatures from a slot on are the first ones. -/
theorem takeWhile_eq_filter {listed : List SignatureInfo}
    (h : listed.Pairwise fun s t => t.slot ≤ s.slot) :
    (listed.takeWhile fun s => decide (fromBlock ≤ s.slot))
      = listed.filter fun s => decide (fromBlock ≤ s.slot) := by
  induction listed with
  | nil => rfl
  | cons s rest ih =>
      rw [List.pairwise_cons] at h
      rw [List.takeWhile_cons, List.filter_cons]
      by_cases hs : fromBlock ≤ s.slot
      · rw [decide_eq_true hs, ih h.2]
        rfl
      · rw [decide_eq_false hs]
        refine (List.filter_eq_nil_iff.mpr fun t ht => ?_).symm
        have := h.1 t ht
        simp only [decide_eq_true_eq]
        omega

theorem batchHits_eq {batch : List SignatureInfo} (h : batch.Pairwise fun s t => t.slot ≤ s.slot) :
    batchHits fromBlock head batch = wanted fromBlock head batch := by
  rw [batchHits, takeWhile_eq_filter h, wanted]

theorem wanted_append (xs ys : List SignatureInfo) :
    wanted fromBlock head (xs ++ ys) = wanted fromBlock head xs ++ wanted fromBlock head ys := by
  rw [wanted, List.filter_append, List.filter_append]
  rfl

/-- How many of the signatures listed are of the slot or later. -/
def since (fromBlock : Nat) (listed : List SignatureInfo) : Nat :=
  listed.countP fun s => decide (fromBlock ≤ s.slot)

/-- After a signature of an earlier slot there is nothing more to find. -/
theorem since_rest {batch rest : List SignatureInfo}
    (h : (batch ++ rest).Pairwise fun s t => t.slot ≤ s.slot)
    (hsmall : ∃ s ∈ batch, s.slot < fromBlock) : since fromBlock rest = 0 := by
  obtain ⟨s, hs, hslot⟩ := hsmall
  refine List.countP_eq_zero.mpr fun t ht => ?_
  have := (List.pairwise_append.mp h).2.2 s hs t ht
  simp only [decide_eq_true_eq]
  omega

theorem wanted_of_since {listed : List SignatureInfo} (h : since fromBlock listed = 0) :
    wanted fromBlock head listed = [] := by
  rw [wanted, List.filter_eq_nil_iff.mpr fun s hs => List.countP_eq_zero.mp h s hs]
  rfl

/-- The requests that go on after the signatures `listed` answer from them. -/
structure Lists (fetch : Nat → Option Text → Option (List SignatureInfo)) (page : Nat)
    (before : Option Text) (listed : List SignatureInfo) : Prop where
  first : ∀ batch, fetch page before = some batch → batch = listed.take SIGNATURES_PER_PAGE
  later : ∀ k, page < k → ∀ i s, listed[i]? = some s → ∀ batch,
    fetch k (some s.signature) = some batch → batch = (listed.drop (i + 1)).take SIGNATURES_PER_PAGE

theorem Lists.next {fetch : Nat → Option Text → Option (List SignatureInfo)} {page : Nat}
    {before : Option Text} {listed : List SignatureInfo} (h : Lists fetch page before listed)
    (hlen : SIGNATURES_PER_PAGE ≤ listed.length) :
    Lists fetch (page + 1)
      ((listed.take SIGNATURES_PER_PAGE).getLast?.map (·.signature))
      (listed.drop SIGNATURES_PER_PAGE) := by
  have hlast : (listed.take SIGNATURES_PER_PAGE).getLast?
      = some (listed.get ⟨SIGNATURES_PER_PAGE - 1, by unfold SIGNATURES_PER_PAGE at *; omega⟩) := by
    rw [List.getLast?_eq_getElem?, List.length_take, Nat.min_eq_left hlen, List.getElem?_take]
    rw [if_pos (by decide), List.getElem?_eq_getElem (by unfold SIGNATURES_PER_PAGE at *; omega)]
    rfl
  refine ⟨fun batch hbatch => ?_, fun k hk i s hs batch hbatch => ?_⟩
  · rw [hlast] at hbatch
    exact h.later (page + 1) (Nat.lt_succ_self _) _ _
      (List.getElem?_eq_getElem _) batch hbatch
  · rw [List.getElem?_drop] at hs
    rw [h.later k (by omega) _ s hs batch hbatch, List.drop_drop]
    congr 2

variable {fetch : Nat → Option Text → Option (List SignatureInfo)}

/-- **The pages find what is wanted.** -/
theorem sigPages_eq {left page : Nat} {before : Option Text} {listed hits : List SignatureInfo}
    (hlists : Lists fetch page before listed)
    (hsorted : listed.Pairwise fun s t => t.slot ≤ s.slot)
    (h : sigPages fetch fromBlock head left page before = some hits) :
    hits = wanted fromBlock head listed := by
  induction left generalizing page before listed hits with
  | zero => cases h
  | succ left ih =>
      obtain ⟨batch, hbatch, h⟩ := Option.bind_eq_some_iff.mp h
      obtain rfl := hlists.first _ hbatch
      have hsplit := (List.take_append_drop SIGNATURES_PER_PAGE listed).symm
      have hfront : (listed.take SIGNATURES_PER_PAGE).Pairwise fun s t => t.slot ≤ s.slot :=
        hsorted.sublist (List.take_sublist _ _)
      rw [batchHits_eq hfront] at h
      conv_rhs => rw [hsplit, wanted_append]
      by_cases hdone : (∃ s ∈ listed.take SIGNATURES_PER_PAGE, s.slot < fromBlock)
          ∨ (listed.take SIGNATURES_PER_PAGE).length < SIGNATURES_PER_PAGE
      · rw [if_pos hdone] at h
        have hrest : since fromBlock (listed.drop SIGNATURES_PER_PAGE) = 0 := by
          rcases hdone with hsmall | hshort
          · exact since_rest (hsplit ▸ hsorted) hsmall
          · rw [List.length_take] at hshort
            rw [List.drop_eq_nil_of_le (by omega)]
            rfl
        rw [wanted_of_since hrest, List.append_nil]
        exact (Option.some.inj h).symm
      · rw [if_neg hdone] at h
        obtain ⟨later, hlater, h⟩ := Option.bind_eq_some_iff.mp h
        have hlen : SIGNATURES_PER_PAGE ≤ listed.length := by
          have := (not_or.mp hdone).2
          rw [List.length_take] at this
          omega
        rw [← ih (hlists.next hlen) (hsorted.sublist (List.drop_sublist _ _)) hlater]
        exact (Option.some.inj h).symm

/-- **Answered, they are too few exactly where more signatures are wanted than they hold.** -/
theorem sigPages_isSome_iff {left page : Nat} {before : Option Text} {listed : List SignatureInfo}
    (hlists : Lists fetch page before listed)
    (hsorted : listed.Pairwise fun s t => t.slot ≤ s.slot)
    (hanswered : ∀ k b, (fetch k b).isSome) :
    (sigPages fetch fromBlock head left page before).isSome ↔
      since fromBlock listed < left * SIGNATURES_PER_PAGE := by
  induction left generalizing page before listed with
  | zero => simp [sigPages]
  | succ left ih =>
      obtain ⟨batch, hbatch⟩ := Option.isSome_iff_exists.mp (hanswered page before)
      obtain rfl := hlists.first _ hbatch
      have hsplit := (List.take_append_drop SIGNATURES_PER_PAGE listed).symm
      have hcount : since fromBlock listed = since fromBlock (listed.take SIGNATURES_PER_PAGE)
          + since fromBlock (listed.drop SIGNATURES_PER_PAGE) := by
        conv_lhs => rw [hsplit]
        exact List.countP_append
      have hpositive : 0 < SIGNATURES_PER_PAGE := by decide
      have hmul : (left + 1) * SIGNATURES_PER_PAGE
          = left * SIGNATURES_PER_PAGE + SIGNATURES_PER_PAGE := Nat.succ_mul _ _
      rw [sigPages, hbatch]
      dsimp only [Option.bind_eq_bind, Option.bind_some]
      by_cases hdone : (∃ s ∈ listed.take SIGNATURES_PER_PAGE, s.slot < fromBlock)
          ∨ (listed.take SIGNATURES_PER_PAGE).length < SIGNATURES_PER_PAGE
      · rw [if_pos hdone]
        refine iff_of_true rfl ?_
        rcases hdone with hsmall | hshort
        · have hrest := since_rest (hsplit ▸ hsorted) hsmall
          have hle : (listed.take SIGNATURES_PER_PAGE).length ≤ SIGNATURES_PER_PAGE :=
            List.length_take_le _ _
          have hfew : since fromBlock (listed.take SIGNATURES_PER_PAGE)
              < (listed.take SIGNATURES_PER_PAGE).length := by
            obtain ⟨s, hs, hslot⟩ := hsmall
            refine lt_of_le_of_ne List.countP_le_length fun hall => ?_
            have := List.countP_eq_length.mp hall s hs
            rw [decide_eq_true_eq] at this
            omega
          omega
        · have hfew : since fromBlock listed ≤ listed.length := List.countP_le_length
          rw [List.length_take] at hshort
          omega
      · rw [if_neg hdone]
        obtain ⟨hall, hfull⟩ := not_or.mp hdone
        have hlen : SIGNATURES_PER_PAGE ≤ listed.length := by
          rw [List.length_take] at hfull
          omega
        have hpage : since fromBlock (listed.take SIGNATURES_PER_PAGE) = SIGNATURES_PER_PAGE := by
          have hevery : since fromBlock (listed.take SIGNATURES_PER_PAGE)
              = (listed.take SIGNATURES_PER_PAGE).length := by
            refine List.countP_eq_length.mpr fun s hs => decide_eq_true ?_
            by_contra hslot
            exact hall ⟨s, hs, by omega⟩
          rw [hevery, List.length_take, Nat.min_eq_left hlen]
        have hnext := ih (hlists.next hlen) (hsorted.sublist (List.drop_sublist _ _))
        rw [Option.isSome_bind, hcount, hpage, hmul]
        constructor
        · intro h
          have := hnext.mp (by simpa using h)
          omega
        · intro h
          have := hnext.mpr (by omega)
          simpa using this

end

/-! ## What an account has -/

namespace OnChain
variable {c : OnChain}

theorem between_sorted (start stop : Nat) :
    (between c.signatures start stop).Pairwise fun s t => s.slot ≤ t.slot := by
  rw [between, List.flatMap_def, List.pairwise_flatten]
  constructor
  · intro l hl
    obtain ⟨n, -, rfl⟩ := List.mem_map.mp hl
    refine List.pairwise_of_forall_mem_list fun s hs t ht => ?_
    rw [c.slot_eq n s hs, c.slot_eq n t ht]
  · rw [List.pairwise_map]
    refine (List.pairwise_lt_range').imp fun {m n} hlt s hs t ht => ?_
    rw [c.slot_eq m s hs, c.slot_eq n t ht]
    exact hlt.le

theorem newest_sorted (finalized : Nat) :
    (c.newest finalized).Pairwise fun s t => t.slot ≤ s.slot :=
  List.pairwise_reverse.mpr (between_sorted 0 (finalized + 1))

/-- What is listed later goes on where it was. -/
theorem newest_grows {f f' : Nat} (h : f ≤ f') :
    c.newest f' = (between c.signatures (f + 1) (f' + 1)).reverse ++ c.newest f := by
  rw [newest, newest, ← List.reverse_append, between_append (Nat.zero_le _) (by omega)]

theorem newest_distinct (finalized : Nat) : ((c.newest finalized).map (·.signature)).Nodup := by
  rw [newest, List.map_reverse]
  exact List.nodup_reverse.mpr (c.distinct _)

/-- After a signature come the older ones. -/
theorem dropWhile_signature {listed : List SignatureInfo} {i : Nat} {s : SignatureInfo}
    (hdistinct : (listed.map (·.signature)).Nodup) (hs : listed[i]? = some s) :
    (listed.dropWhile fun t => decide (t.signature ≠ s.signature)).drop 1 = listed.drop (i + 1) := by
  induction listed generalizing i with
  | nil => cases hs
  | cons t rest ih =>
      rw [List.map_cons, List.nodup_cons] at hdistinct
      cases i with
      | zero =>
          obtain rfl := Option.some.inj hs
          rw [List.dropWhile_cons_of_neg (by simp)]
      | succ i =>
          rw [List.getElem?_cons_succ] at hs
          have hne : t.signature ≠ s.signature := fun heq =>
            hdistinct.1 (heq ▸ List.mem_map_of_mem (List.mem_of_getElem? hs))
          rw [List.dropWhile_cons_of_pos (by simpa using hne), ih hdistinct.2 hs, List.drop_succ_cons]

/-- A node that answers from the chain lists what it had at the first request. -/
theorem lists {fetch : Nat → Option Text → Option (List SignatureInfo)} {finalized : Nat → Nat}
    (hgrows : Monotone finalized)
    (hfetch : ∀ page before batch, fetch page before = some batch →
      batch = c.signaturePage (finalized page) before) :
    Lists fetch 0 none (c.newest (finalized 0)) := by
  refine ⟨fun batch hbatch => hfetch 0 none batch hbatch, fun k hk i s hs batch hbatch => ?_⟩
  rw [hfetch k _ batch hbatch, signaturePage]
  have hgrown := newest_grows (c := c) (hgrows (Nat.zero_le k))
  have hat : (c.newest (finalized k))[(between c.signatures (finalized 0 + 1)
      (finalized k + 1)).reverse.length + i]? = some s := by
    rw [hgrown, List.getElem?_append_right (Nat.le_add_right _ _), Nat.add_sub_cancel_left, hs]
  rw [dropWhile_signature (newest_distinct _) hat, hgrown, Nat.add_assoc, List.drop_length_add_append]

/-- What is wanted of a list that reaches to the head, oldest first: the slots of the window. -/
theorem wanted_newest {fromBlock head finalized : Nat} (hfrom : fromBlock ≤ head + 1)
    (hfinal : head ≤ finalized) :
    (wanted fromBlock head (c.newest finalized)).reverse
      = (between c.signatures fromBlock (head + 1)).filter fun s => !s.err := by
  have hslot : ∀ start stop, ∀ s ∈ between c.signatures start stop, start ≤ s.slot ∧ s.slot < stop := by
    intro start stop s hs
    obtain ⟨n, hstart, hstop, hn⟩ := mem_between.mp hs
    rw [c.slot_eq n s hn]
    exact ⟨hstart, hstop⟩
  have hold : (between c.signatures 0 fromBlock).filter (fun s => decide (fromBlock ≤ s.slot))
      = [] := by
    refine List.filter_eq_nil_iff.mpr fun s hs => ?_
    have := (hslot _ _ s hs).2
    simp only [decide_eq_true_eq]
    omega
  have hsince : (between c.signatures fromBlock (finalized + 1)).filter
      (fun s => decide (fromBlock ≤ s.slot)) = between c.signatures fromBlock (finalized + 1) :=
    List.filter_eq_self.mpr fun s hs => decide_eq_true (hslot _ _ s hs).1
  have hwindow : (between c.signatures fromBlock (head + 1)).filter
      (fun s => !s.err && decide (s.slot ≤ head))
      = (between c.signatures fromBlock (head + 1)).filter fun s => !s.err := by
    refine List.filter_congr fun s hs => ?_
    rw [decide_eq_true (Nat.lt_succ_iff.mp (hslot _ _ s hs).2), Bool.and_true]
  have hnew : (between c.signatures (head + 1) (finalized + 1)).filter
      (fun s => !s.err && decide (s.slot ≤ head)) = [] := by
    refine List.filter_eq_nil_iff.mpr fun s hs => ?_
    have := (hslot _ _ s hs).1
    rw [decide_eq_false (show ¬ s.slot ≤ head by omega), Bool.and_false]
    exact Bool.false_ne_true
  rw [wanted, newest, ← List.filter_reverse, ← List.filter_reverse, List.reverse_reverse]
  rw [← between_append (Nat.zero_le fromBlock) (show fromBlock ≤ finalized + 1 by omega)]
  rw [List.filter_append, hold, hsince, List.nil_append]
  rw [← between_append (b := head + 1) hfrom (by omega), List.filter_append, hnew, List.append_nil,
    hwindow]

end OnChain

/-! ## Scans -/

section
variable {p : Platform} {rpc : Rpc} {c : OnChain} {finalized : Nat → Nat}
  {chainKey receiver account usdc : Text}

/-- What is read of the hits is what the chain has of them. -/
theorem readHits_eq
    (hdoc : ∀ signature tx, rpc.getTransaction signature = some (some tx) → tx = c.transaction signature) :
    ∀ {hits : List SignatureInfo} {deposits : List Deposit},
      readHits rpc account usdc hits = some deposits →
        deposits = hits.flatMap (c.signatureDeposits account usdc) := by
  intro hits
  induction hits with
  | nil =>
      intro deposits h
      exact (Option.some.inj h).symm
  | cons s hits ih =>
      intro deposits h
      obtain ⟨found, hfound, h⟩ := Option.bind_eq_some_iff.mp h
      obtain ⟨later, hlater, h⟩ := Option.bind_eq_some_iff.mp h
      obtain ⟨answer, hanswer, hread⟩ := Option.bind_eq_some_iff.mp hfound
      obtain ⟨tx, htx, rfl⟩ := Option.map_eq_some_iff.mp hread
      obtain rfl := hdoc s.signature tx (hanswer.trans (congrArg some htx))
      rw [List.flatMap_cons, ← ih hlater]
      exact (Option.some.inj h).symm

theorem readHits_isSome (hanswered : ∀ signature, ∃ tx, rpc.getTransaction signature = some (some tx))
    (hits : List SignatureInfo) : (readHits rpc account usdc hits).isSome := by
  induction hits with
  | nil => rfl
  | cons s hits ih =>
      obtain ⟨tx, htx⟩ := hanswered s.signature
      obtain ⟨later, hlater⟩ := Option.isSome_iff_exists.mp ih
      rw [readHits, solanaTransfersInto, htx, hlater]
      rfl

/-- A range of blocks, transfer by transfer. -/
theorem map_between {ρ τ : Type} (src : Nat → List ρ) (f : ρ → τ) (start stop : Nat) :
    (between src start stop).map f = between (fun n => (src n).map f) start stop :=
  List.map_flatMap

theorem transfers_solana (start stop : Nat) :
    ((between c.signatures start stop).filter fun s => !s.err).flatMap
        (c.signatureDeposits account usdc)
      = between (c.transfers .solana account usdc) start stop := by
  rw [between, List.filter_flatMap, List.flatMap_assoc]
  rfl

/-- Every request is answered. -/
structure Rpc.Answers (rpc : Rpc) (chainKey usdc receiver account : Text) : Prop where
  head : (rpc.headBlock (wire chainKey)).isSome
  logs : ∀ fromBlock toBlock,
    (rpc.eth_getLogs (wire chainKey) usdc receiver fromBlock toBlock).isSome
  events : ∀ from_block to_block token,
    (rpc.starknet_getEvents usdc receiver from_block to_block token).isSome
  signatures : ∀ page before, (rpc.getSignaturesForAddress page account before).isSome
  transaction : ∀ signature, ∃ tx, rpc.getTransaction signature = some (some tx)

/-- The window that a scan returns. -/
structure Window (transfers : Nat → List Deposit) (head : Option Nat) (fromBlock : Nat)
    (deposits : List Deposit) (nextBlock : Nat) : Prop where
  deposits_eq : deposits = between transfers fromBlock nextBlock
  le : fromBlock ≤ nextBlock
  advances : ∀ h, head = some h → fromBlock ≤ h → fromBlock < nextBlock ∧ nextBlock ≤ h + 1

theorem Window.mk_of {transfers : Nat → List Deposit} {head fromBlock last : Nat}
    {deposits : List Deposit} (hfrom : fromBlock ≤ last) (hlast : last ≤ head)
    (h : deposits = between transfers fromBlock (last + 1)) :
    Window transfers (some head) fromBlock deposits (last + 1) where
  deposits_eq := h
  le := by omega
  advances := by
    intro h' hh' _
    obtain rfl := Option.some.inj hh'
    omega

/-- What the Solana scan returns. -/
theorem solanaDeposits_eq {fromBlock head : Nat} {deposits : List Deposit} {nextBlock : Nat}
    (haccount : p.usdcAta receiver usdc = some account)
    (hdoc : rpc.Documented c finalized chainKey usdc receiver account)
    (hhead : rpc.headBlock (wire chainKey) = some head) (hfrom : fromBlock ≤ head)
    (h : solanaDeposits p rpc usdc receiver fromBlock head = some (deposits, nextBlock)) :
    nextBlock = head + 1 ∧
      deposits = between (c.transfers .solana account usdc) fromBlock (head + 1) := by
  obtain ⟨account', haccount', h⟩ := Option.bind_eq_some_iff.mp h
  obtain rfl := Option.some.inj (haccount.symm.trans haccount')
  obtain ⟨hits, hhits, h⟩ := Option.bind_eq_some_iff.mp h
  obtain ⟨read, hread, h⟩ := Option.bind_eq_some_iff.mp h
  obtain ⟨rfl, rfl⟩ := Prod.mk.inj (Option.some.inj h)
  refine ⟨rfl, ?_⟩
  have hwanted := sigPages_eq (OnChain.lists hdoc.grows hdoc.signatures)
    (OnChain.newest_sorted (finalized 0)) hhits
  rw [readHits_eq hdoc.transaction hread, hwanted,
    OnChain.wanted_newest (by omega) (hdoc.fresh head hhead 0), transfers_solana]

theorem solanaDeposits_isSome_iff {fromBlock head : Nat}
    (haccount : p.usdcAta receiver usdc = some account)
    (hdoc : rpc.Documented c finalized chainKey usdc receiver account)
    (hanswers : rpc.Answers chainKey usdc receiver account) :
    (solanaDeposits p rpc usdc receiver fromBlock head).isSome ↔
      since fromBlock (c.newest (finalized 0)) < SOLANA_MAX_SIG_PAGES * SIGNATURES_PER_PAGE := by
  have hpages : (sigPages (fun page => rpc.getSignaturesForAddress page account) fromBlock head
      SOLANA_MAX_SIG_PAGES 0 none).isSome ↔ _ :=
    sigPages_isSome_iff (OnChain.lists hdoc.grows hdoc.signatures)
      (OnChain.newest_sorted (finalized 0)) hanswers.signatures
  rw [← hpages, solanaDeposits, haccount]
  dsimp only [Option.bind_eq_bind, Option.bind_some]
  cases hhits : sigPages (fun page => rpc.getSignaturesForAddress page account) fromBlock head
      SOLANA_MAX_SIG_PAGES 0 none with
  | none => exact Iff.rfl
  | some hits =>
      have hall : (readHits rpc account usdc hits.reverse).isSome :=
        readHits_isSome hanswers.transaction hits.reverse
      obtain ⟨read, hread⟩ := Option.isSome_iff_exists.mp hall
      refine iff_of_true ?_ rfl
      rw [Option.bind_some, hread]
      rfl

/-- What a scan returns. -/
theorem scanDeposits_window {chain : ChainConfig} {fromBlock : Nat}
    (hchain : chainByKey chainKey = some chain)
    (haccount : chain.kind = .solana → p.usdcAta receiver chain.usdc = some account)
    (hdoc : rpc.Documented c finalized chainKey chain.usdc receiver account) {fuel : Nat}
    {deposits : List Deposit} {nextBlock : Nat}
    (h : scanDeposits p rpc fuel chainKey receiver fromBlock = some (deposits, nextBlock)) :
    Window (c.transfers chain.kind account chain.usdc) (rpc.headBlock (wire chainKey)) fromBlock
      deposits nextBlock := by
  obtain ⟨chain', hchain', h⟩ := Option.bind_eq_some_iff.mp h
  obtain rfl := Option.some.inj (hchain.symm.trans hchain')
  obtain ⟨head, hhead, h⟩ := Option.bind_eq_some_iff.mp h
  rw [hhead]
  by_cases hlate : head < fromBlock
  · rw [if_pos hlate] at h
    obtain ⟨rfl, rfl⟩ := Prod.mk.inj (Option.some.inj h)
    refine ⟨(between_self _).symm, le_refl _, fun h' hh' hle => ?_⟩
    obtain rfl := Option.some.inj hh'
    omega
  · rw [if_neg hlate] at h
    have hfrom := Nat.le_of_not_lt hlate
    obtain ⟨kind, token⟩ := chain
    cases kind with
    | evm =>
        obtain ⟨logs, hlogs, h⟩ := Option.bind_eq_some_iff.mp h
        obtain ⟨rfl, rfl⟩ := Prod.mk.inj (Option.some.inj h)
        refine .mk_of (le_min hfrom (by unfold EVM_LOG_WINDOW; omega)) (min_le_left _ _) ?_
        rw [hdoc.logs head _ _ logs hhead (min_le_left _ _) hlogs, map_between]
        rfl
    | starknet =>
        obtain ⟨events, hevents, h⟩ := Option.bind_eq_some_iff.mp h
        obtain ⟨rfl, rfl⟩ := Prod.mk.inj (Option.some.inj h)
        refine .mk_of (le_min hfrom (by unfold STARKNET_EVENT_WINDOW; omega)) (min_le_left _ _) ?_
        obtain ⟨pages, hpages, hfetch⟩ := hdoc.events head fromBlock
          (min head (fromBlock + STARKNET_EVENT_WINDOW - 1)) hhead (min_le_left _ _)
        rw [eventPages_eq hpages hfetch hevents, map_between]
        rfl
    | solana =>
        obtain ⟨rfl, hdeposits⟩ := solanaDeposits_eq (haccount rfl) hdoc hhead hfrom h
        exact .mk_of hfrom (le_refl _) hdeposits

/-- **A scan returns the transfers of its window.**  Whatever requests go unanswered and however the
node cuts its answers into pages, what `scanDeposits` returns are the transfers to the receiver in the
blocks from `fromBlock` to before `nextBlock`, each once and in order; and while there are blocks up
to the head, the window is not empty and goes no further.  If every request is answered it returns,
unless on Solana the ten pages hold too few signatures. -/
theorem scanDeposits_exact {chain : ChainConfig} {fromBlock : Nat}
    (hchain : chainByKey chainKey = some chain)
    (haccount : chain.kind = .solana → p.usdcAta receiver chain.usdc = some account)
    (hdoc : rpc.Documented c finalized chainKey chain.usdc receiver account) :
    (∀ fuel deposits nextBlock,
      scanDeposits p rpc fuel chainKey receiver fromBlock = some (deposits, nextBlock) →
        Window (c.transfers chain.kind account chain.usdc) (rpc.headBlock (wire chainKey)) fromBlock
          deposits nextBlock) ∧
    (rpc.Answers chainKey chain.usdc receiver account →
      ∃ enough, ∀ fuel, enough ≤ fuel →
        ((scanDeposits p rpc fuel chainKey receiver fromBlock).isSome ↔
          (chain.kind = .solana →
            (∃ head, rpc.headBlock (wire chainKey) = some head ∧ fromBlock ≤ head) →
            since fromBlock (c.newest (finalized 0))
              < SOLANA_MAX_SIG_PAGES * SIGNATURES_PER_PAGE))) := by
  refine ⟨fun _ _ _ h => scanDeposits_window hchain haccount hdoc h, ?_⟩
  intro hanswers
  obtain ⟨head, hhead⟩ := Option.isSome_iff_exists.mp hanswers.head
  by_cases hlate : head < fromBlock
  · refine ⟨0, fun fuel _ => iff_of_true ?_ ?_⟩
    · rw [scanDeposits, hchain, hhead]
      dsimp only [Option.bind_eq_bind, Option.bind_some]
      rw [if_pos hlate]
      rfl
    · rintro - ⟨head', hhead', hle⟩
      obtain rfl := Option.some.inj (hhead.symm.trans hhead')
      omega
  · have hfrom := Nat.le_of_not_lt hlate
    obtain ⟨kind, token⟩ := chain
    cases kind with
    | evm =>
        refine ⟨0, fun fuel _ => iff_of_true ?_ (fun h => by cases h)⟩
        obtain ⟨logs, hlogs⟩ := Option.isSome_iff_exists.mp
          (hanswers.logs fromBlock (min head (fromBlock + EVM_LOG_WINDOW - 1)))
        rw [scanDeposits, hchain, hhead]
        dsimp only [Option.bind_eq_bind, Option.bind_some]
        rw [if_neg hlate, hlogs]
        rfl
    | starknet =>
        obtain ⟨pages, hpages, hfetch⟩ := hdoc.events head fromBlock
          (min head (fromBlock + STARKNET_EVENT_WINDOW - 1)) hhead (min_le_left _ _)
        have hanswered : ∀ token', rpc.starknet_getEvents token receiver fromBlock
            (min head (fromBlock + STARKNET_EVENT_WINDOW - 1)) token' = some (pages token') := by
          intro token'
          obtain ⟨page, hpage⟩ := Option.isSome_iff_exists.mp (hanswers.events fromBlock
            (min head (fromBlock + STARKNET_EVENT_WINDOW - 1)) token')
          rw [hpage, hfetch token' page hpage]
        obtain ⟨enough, hends⟩ := eventPages_ends hpages hanswered
        refine ⟨enough, fun fuel hfuel => iff_of_true ?_ (fun h => by cases h)⟩
        rw [scanDeposits, hchain, hhead]
        dsimp only [Option.bind_eq_bind, Option.bind_some]
        rw [if_neg hlate, hends fuel hfuel]
        rfl
    | solana =>
        refine ⟨0, fun fuel _ => ?_⟩
        rw [scanDeposits, hchain, hhead]
        dsimp only [Option.bind_eq_bind, Option.bind_some]
        rw [if_neg hlate, solanaDeposits_isSome_iff (haccount rfl) hdoc hanswers]
        exact ⟨fun h _ _ => h, fun h => h rfl ⟨head, rfl, hfrom⟩⟩

end

/-! ## Three signatures in two slots -/

namespace OnchainSample

def receiver : Text := "7v91N7iZ9mNicL8WfG6cgSCKyRXydQjLh6UYBWwm6y1Q".toList
def account : Text := "FhuKYUwrnqLokQ3Ne8LqkiWz8XRPfGTuZdYvwAGytLPb".toList
def usdcMint : Text := "EPjFWdd5AufqSSqeM2qN1xzybapC8G4wEGGkZwyTDt1v".toList

def platform : Platform where
  sha256 _ := []
  usdcAta owner mint := if owner = receiver ∧ mint = usdcMint then some account else none

/-- Slot 5 has a payment, slot 7 a transaction that failed and one with a payment and a sweep. -/
def signatures : Nat → List SignatureInfo
  | 5 => [⟨"paid".toList, 5, false⟩]
  | 7 => [⟨"failed".toList, 7, true⟩, ⟨"both".toList, 7, false⟩]
  | _ => []

def moved (source destination amount : Text) : ParsedInstruction where
  programId := TOKEN_PROGRAM
  parsed := some ("transferChecked".toList,
    ⟨some source, some destination, some usdcMint, [], amount, some "owner".toList, none⟩)

def transaction (signature : Text) : ParsedTransaction :=
  if signature = "paid".toList then ⟨false, [moved "a".toList account "250".toList], []⟩
  else if signature = "both".toList then
    ⟨false, [moved account "b".toList "250".toList], [[moved "c".toList account "70".toList]]⟩
  else ⟨true, [], []⟩

theorem signatures_late {n : Nat} (h : 8 ≤ n) : signatures n = [] := by
  unfold signatures
  split
  · omega
  · omega
  · rfl

theorem slots (n : Nat) (s : SignatureInfo) (hs : s ∈ signatures n) : s.slot = n := by
  by_cases hlate : 8 ≤ n
  · rw [signatures_late hlate] at hs
    cases hs
  · have hearly : ∀ m < 8, ∀ s ∈ signatures m, s.slot = m := by decide
    exact hearly n (by omega) s hs

theorem between_late {n : Nat} (h : 8 ≤ n) : between signatures 0 n = between signatures 0 8 := by
  rw [← between_append (Nat.zero_le 8) h]
  have hnone : between signatures 8 n = [] := by
    refine List.flatMap_eq_nil_iff.mpr fun m hm => signatures_late ?_
    exact (List.mem_range'_1.mp hm).1
  rw [hnone, List.append_nil]

theorem distinct (n : Nat) : ((between signatures 0 n).map (·.signature)).Nodup := by
  by_cases hlate : 8 ≤ n
  · rw [between_late hlate]
    decide
  · have hearly : ∀ m < 8, ((between signatures 0 m).map (·.signature)).Nodup := by decide
    exact hearly n (by omega)

def chain : OnChain where
  logs _ := []
  events _ := []
  signatures := signatures
  transaction := transaction
  log_block _ _ h := by cases h
  event_block _ _ h := by cases h
  slot_eq := slots
  distinct := distinct

/-- A node at slot 8 that has finalized slot 9 when it is asked for signatures. -/
def rpc : Rpc where
  headBlock _ := some 8
  eth_getLogs _ _ _ _ _ := some []
  starknet_getEvents _ _ _ _ _ := some ⟨[], none⟩
  getSignaturesForAddress _ _ before := some (chain.signaturePage 9 before)
  getTransaction signature := some (some (transaction signature))

theorem between_nil {ρ : Type} (start stop : Nat) :
    between (fun _ => ([] : List ρ)) start stop = [] :=
  List.flatMap_eq_nil_iff.mpr fun _ _ => rfl

theorem documented : rpc.Documented chain (fun _ => 9) "SOLANA".toList usdcMint receiver account where
  logs _ _ _ _ _ _ h := by
    obtain rfl := Option.some.inj h
    exact (between_nil _ _).symm
  events _ _ _ _ _ := by
    refine ⟨fun _ => ⟨[], none⟩, ?_, fun _ _ h => (Option.some.inj h).symm⟩
    have hnone : Pages (fun _ => ⟨[], none⟩) none [] := .last rfl
    rwa [show between chain.events _ _ = [] from between_nil _ _]
  fresh _ h _ := by
    obtain rfl := Option.some.inj h
    decide
  grows _ _ _ := le_refl _
  signatures _ _ _ h := (Option.some.inj h).symm
  transaction _ _ h := (Option.some.inj (Option.some.inj h)).symm

end OnchainSample

open OnchainSample in
/-- From slot 6, and from slot 5. -/
theorem scanDeposits_exact_sample :
    Window (chain.transfers .solana account usdcMint) (some 8) 6
      [⟨"70".toList, "both".toList, 7, some "owner".toList⟩] 9 ∧
    Window (chain.transfers .solana account usdcMint) (some 8) 5
      [⟨"250".toList, "paid".toList, 5, some "owner".toList⟩,
        ⟨"70".toList, "both".toList, 7, some "owner".toList⟩] 9 :=
  ⟨(@scanDeposits_exact platform _ _ _ _ _ _ ⟨.solana, usdcMint⟩ 6 (by decide) (fun _ => by decide)
      documented).1 0 _ _ (by decide +kernel),
    (@scanDeposits_exact platform _ _ _ _ _ _ ⟨.solana, usdcMint⟩ 5 (by decide) (fun _ => by decide)
      documented).1 0 _ _ (by decide +kernel)⟩

end Beanie.Browser
