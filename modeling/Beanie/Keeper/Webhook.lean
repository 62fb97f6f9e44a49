/-
# `Beanie.Keeper.Webhook` — delivery of a deposit, and the key it is told by

`webhook.rs`: one attempt, the retries, and the `Idempotency-Key` header, which
is the deposit's transaction hash.  The four producers of deposits are put next
to each other: two deposits have the same key when they come from one
transaction, and all deposits of the Solana scan have the empty one
(`idempotency_key_iff`).
-/
import Beanie.Keeper.EvmIndexer
import Beanie.Keeper.StarknetIndexer
import Beanie.Keeper.DepositMatching
import Beanie.Api.PaymentWebhooks

namespace Beanie.Keeper

open Beanie.Api (Worker PaymentTask WebhookJob Chain)
open Beanie.Starknet (Felt)
open Journal

/-! ## One attempt -/

structure DepositPayload where
  chain : Text
  tx_hash : Text
  sender : Text
  receiver : Text
  amount_raw : Text
  token : Text
  block_number : BitVec 64
  timestamp : Int

structure NotificationBody where
  deposit : DepositPayload
  sweep_tx : Option Text

/-- What a delivery takes from `Config`, `serde_json` and `reqwest`. -/
structure Notifier where
  chain_name : Text
  token_address : Text
  keeper_address : Text
  signature_scheme : Text
  to_json : NotificationBody → Option Text
  sign_payload : Text → Option Text
  show_status : Nat → Text

structure WebhookRequest where
  url : Text
  headers : List (Text × Text)
  body : Text

def WebhookRequest.header (r : WebhookRequest) (name : Text) : Option Text := r.headers.lookup name

/-- What comes back: a status, or no answer in three seconds. -/
inductive Response
  | status (code : Nat)
  | failed (error : Text)

/-- The clock and the answer of one attempt. -/
structure Attempt where
  now : Int
  response : Response

section
variable (n : Notifier) (webhook_url : Text) (deposit : Api.Deposit) (sweep_tx : Option Text)

def notificationBody (timestamp : Int) : NotificationBody where
  deposit :=
    { chain := n.chain_name
      tx_hash := deposit.tx_hash
      sender := deposit.from_address
      receiver := deposit.receiver
      amount_raw := deposit.amount_raw
      token := n.token_address
      block_number := deposit.block_number
      timestamp := timestamp }
  sweep_tx := sweep_tx

/-- The request of an attempt; `none` where the body cannot be written or signed. -/
def webhookRequest (timestamp : Int) : Except Text WebhookRequest := do
  let body ← okOr (n.to_json (notificationBody n deposit sweep_tx timestamp))
    "webhook body serialization failed".toList
  let signature ← okOr (n.sign_payload ((toString timestamp).toList ++ '.' :: body))
    "failed signing payload".toList
  .ok
    { url := webhook_url
      headers :=
        [("Content-Type".toList, "application/json".toList),
         ("X-Signature-Scheme".toList, n.signature_scheme),
         ("X-Signature".toList, signature),
         ("X-Signer-Address".toList, n.keeper_address),
         ("X-Timestamp".toList, (toString timestamp).toList),
         ("Idempotency-Key".toList, deposit.tx_hash)]
      body := body }

/-- What an answer amounts to. -/
def Response.outcome : Response → Except Text Unit
  | .failed error => .error ("webhook HTTP request failed: ".toList ++ error)
  | .status code =>
      if 200 ≤ code ∧ code < 300 then .ok ()
      else if 400 ≤ code ∧ code < 500 then
        .error ("TERMINAL_ERROR: HTTP ".toList ++ n.show_status code ++ " rejected payload".toList)
      else .error ("HTTP status ".toList ++ n.show_status code)

/-- `send_webhook_once`: the request, if one is sent, and what came of it. -/
def sendWebhookOnce (a : Attempt) : List WebhookRequest × Except Text Unit :=
  match webhookRequest n webhook_url deposit sweep_tx a.now with
  | .ok request => ([request], a.response.outcome n)
  | .error e => ([], .error e)

/-! ## The retries -/

/-- The loop, when `left` attempts may follow this one. -/
def deliverFrom (left : Nat) (world : Nat → Attempt) : List WebhookRequest × Except Text Unit :=
  let attempt := sendWebhookOnce n webhook_url deposit sweep_tx (world 0)
  match attempt.2 with
  | .ok () => attempt
  | .error e =>
      if "TERMINAL_ERROR".toList <:+: e then attempt
      else
        match left with
        | 0 => (attempt.1, .error ("Max retries reached for deposit ".toList ++ deposit.tx_hash))
        | left + 1 =>
            let rest := deliverFrom left fun i => world (i + 1)
            (attempt.1 ++ rest.1, rest.2)

/-- `deliver_deposit`. -/
def deliverDeposit (max_retries : BitVec 32) (world : Nat → Attempt) :
    List WebhookRequest × Except Text Unit :=
  deliverFrom n webhook_url deposit sweep_tx (max_retries.toNat - 1) world

end

section
variable {n : Notifier} {webhook_url : Text} {deposit : Api.Deposit} {sweep_tx : Option Text}

theorem webhookRequest_key {timestamp : Int} {r : WebhookRequest}
    (h : webhookRequest n webhook_url deposit sweep_tx timestamp = .ok r) :
    r.header "Idempotency-Key".toList = some deposit.tx_hash := by
  obtain ⟨body, -, h⟩ := bind_ok.mp h
  obtain ⟨signature, -, h⟩ := bind_ok.mp h
  obtain rfl := Except.ok.inj h
  rfl

theorem sendWebhookOnce_key {a : Attempt} {r : WebhookRequest}
    (h : r ∈ (sendWebhookOnce n webhook_url deposit sweep_tx a).1) :
    r.header "Idempotency-Key".toList = some deposit.tx_hash := by
  unfold sendWebhookOnce at h
  cases hrequest : webhookRequest n webhook_url deposit sweep_tx a.now with
  | ok request =>
      rw [hrequest] at h
      rw [List.mem_singleton.mp h]
      exact webhookRequest_key hrequest
  | error e =>
      rw [hrequest] at h
      cases h

/-- What the loop sends: this attempt, and those that may follow. -/
theorem deliverFrom_requests (left : Nat) (world : Nat → Attempt) :
    (deliverFrom n webhook_url deposit sweep_tx left world).1
        = (sendWebhookOnce n webhook_url deposit sweep_tx (world 0)).1 ∨
      ∃ left', left = left' + 1 ∧ (deliverFrom n webhook_url deposit sweep_tx left world).1
        = (sendWebhookOnce n webhook_url deposit sweep_tx (world 0)).1
          ++ (deliverFrom n webhook_url deposit sweep_tx left' fun i => world (i + 1)).1 := by
  cases hresult : (sendWebhookOnce n webhook_url deposit sweep_tx (world 0)).2 with
  | ok u =>
      left
      rw [deliverFrom.eq_def]
      dsimp only
      rw [hresult]
  | error e =>
      by_cases hterminal : "TERMINAL_ERROR".toList <:+: e
      · left
        rw [deliverFrom.eq_def]
        dsimp only
        rw [hresult]
        dsimp only
        rw [if_pos hterminal]
      · cases left with
        | zero =>
            left
            rw [deliverFrom.eq_def]
            dsimp only
            rw [hresult]
            dsimp only
            rw [if_neg hterminal]
        | succ left' =>
            refine .inr ⟨left', rfl, ?_⟩
            rw [deliverFrom.eq_def]
            dsimp only
            rw [hresult]
            dsimp only
            rw [if_neg hterminal]

theorem deliverFrom_key {left : Nat} {world : Nat → Attempt} {r : WebhookRequest}
    (h : r ∈ (deliverFrom n webhook_url deposit sweep_tx left world).1) :
    r.header "Idempotency-Key".toList = some deposit.tx_hash := by
  induction left generalizing world with
  | zero =>
      rcases deliverFrom_requests 0 world with hsent | ⟨left', hleft, -⟩
      · rw [hsent] at h
        exact sendWebhookOnce_key h
      · cases hleft
  | succ left ih =>
      rcases deliverFrom_requests (left + 1) world with hsent | ⟨left', hleft, hsent⟩
      · rw [hsent] at h
        exact sendWebhookOnce_key h
      · obtain rfl := Nat.succ.inj hleft
        rw [hsent] at h
        rcases List.mem_append.mp h with h | h
        · exact sendWebhookOnce_key h
        · exact ih h

/-- Every attempt at one deposit tells the same key. -/
theorem deliverDeposit_key {max_retries : BitVec 32} {world : Nat → Attempt} {r : WebhookRequest}
    (h : r ∈ (deliverDeposit n webhook_url deposit sweep_tx max_retries world).1) :
    r.header "Idempotency-Key".toList = some deposit.tx_hash := deliverFrom_key h

/-- How often it is tried. -/
theorem deliverFrom_length (left : Nat) (world : Nat → Attempt) :
    (deliverFrom n webhook_url deposit sweep_tx left world).1.length ≤ left + 1 := by
  have hone : ∀ a, (sendWebhookOnce n webhook_url deposit sweep_tx a).1.length ≤ 1 := by
    intro a
    unfold sendWebhookOnce
    cases webhookRequest n webhook_url deposit sweep_tx a.now with
    | ok request => exact le_rfl
    | error e => exact Nat.zero_le _
  induction left generalizing world with
  | zero =>
      rcases deliverFrom_requests 0 world with hsent | ⟨left', hleft, -⟩
      · rw [hsent]
        exact hone _
      · cases hleft
  | succ left ih =>
      rcases deliverFrom_requests (left + 1) world with hsent | ⟨left', hleft, hsent⟩
      · rw [hsent]
        exact (hone _).trans (Nat.le_add_left _ _)
      · obtain rfl := Nat.succ.inj hleft
        rw [hsent, List.length_append, Nat.add_comm]
        exact Nat.add_le_add (ih _) (hone _)

end

/-! ## The producers -/

/-- A token transfer: which one of its transaction. -/
@[ext]
structure TokenTransfer (τ : Type) where
  transaction : τ
  index : Nat
deriving DecidableEq

/-- How the Portal and how the node the payment worker asks write a transaction's hash.  Hashes do
not collide, and one text is not two transactions'. -/
structure HashTexts (τ : Type) where
  portal : τ → Text
  node : τ → Text
  portal_ne : ∀ t, portal t ≠ []
  node_ne : ∀ t, node t ≠ []
  portal_inj : Function.Injective portal
  node_inj : Function.Injective node
  same : ∀ {t t'}, portal t = node t' → t = t'

inductive Producer
  | evm
  | starknet
  | solana
  | payment
deriving DecidableEq

/-- A scan's deposit, with the chain's name. -/
def Deposit.named (d : Deposit) (chain_name : Text) : Api.Deposit where
  chain := chain_name
  tx_hash := d.tx_hash.toList
  from_address := d.from_address.toList
  receiver := d.receiver.toList
  amount_raw := d.amount_raw.toList
  block_number := BitVec.ofNat 64 d.block_number

/-- The hash the network gave for the payment. -/
def paymentHash (w : Worker) (chain : Chain) : Option Text :=
  match chain with
  | .base | .ethereum | .arbitrum | .monad => w.net.receipt.map (·.transaction_hash)
  | .starknet => w.net.starknet_tx
  | .solana => w.net.solana_tx

/-- Who makes which deposit of a transfer.  A Solana record does not say what transaction it is
from. -/
inductive Produced {τ : Type} (x : HashTexts τ) : Producer → TokenTransfer τ → Api.Deposit → Prop
  | evm {tx : EvmTexts} {chain_name : Text} {block : Nat} {log : PortalLog} {d : Api.Deposit}
      {t : TokenTransfer τ} (hlog : log.transaction_hash = x.portal t.transaction)
      (h : depositOfLog tx chain_name block log = some d) : Produced x .evm t d
  | starknet {tx : StarknetTexts} {chain_name : Text} {receivers : List Felt} {block : Nat}
      {evt : DecodedEvent} {d : Deposit} {t : TokenTransfer τ}
      (hevt : evt.transaction_hash.toList = x.portal t.transaction)
      (h : depositOf tx receivers block evt = some d) :
      Produced x .starknet t (d.named chain_name)
  | solana {kt : KeyText} {chain_name : Text} {slot : Nat} {ix : PortalInstruction}
      {e : TokenTransferEvent} {t : TokenTransfer τ} (h : decodeTransfer kt slot ix = .ok (some e)) :
      Produced x .solana t ((e.deposit kt).named chain_name)
  | payment {w : Worker} {task : PaymentTask} {job : WebhookJob} {t : TokenTransfer τ}
      (hsent : paymentHash w task.source_chain = some (x.node t.transaction))
      (h : .webhook job ∈ (Api.processTask w task).log) : Produced x .payment t job.deposit

/-- The key of a deposit, by its producer. -/
def HashTexts.key {τ : Type} (x : HashTexts τ) (p : Producer) (transaction : τ) : Text :=
  match p with
  | .evm | .starknet => x.portal transaction
  | .solana => []
  | .payment => x.node transaction

section
variable {w : Worker} {task : PaymentTask} {job : WebhookJob}

/-- A webhook of the payment worker carries the hash the network gave. -/
theorem hash_processStarknet (h : .webhook job ∈ (Api.processStarknet w task).log) :
    w.net.starknet_tx = some job.deposit.tx_hash := by
  unfold Api.processStarknet at h
  cases hreceiver : w.starknet.from_hex task.receiver_address with
  | none =>
      rw [hreceiver] at h
      cases h
  | some receiver =>
      rw [hreceiver] at h
      dsimp only at h
      rcases mem_log_bind.mp h with h | ⟨_, -, h⟩
      · exact absurd h (Api.webhook_not_mem_registerStarknet receiver)
      simp only [mem_log_bind, log_orSkip, List.not_mem_nil, false_or] at h
      obtain ⟨auth, -, _, -, _, -, h⟩ := h
      rcases h with h | ⟨_, -, _, -, h⟩
      · exact absurd h (Api.webhook_not_mem_serialiseExecution auth)
      rcases mem_log_bind.mp h with h | ⟨_, -, h⟩
      · cases List.mem_singleton.mp h
      cases hsent : w.net.starknet_tx with
      | none =>
          rw [hsent] at h
          cases h
      | some tx_hash =>
          rw [hsent] at h
          obtain ⟨url, -, rfl⟩ := Api.mem_notify.mp h
          rfl

theorem hash_processEvm (h : .webhook job ∈ (Api.processEvm w task).log) :
    w.net.receipt.map (·.transaction_hash) = some job.deposit.tx_hash := by
  rcases Api.log_processEvm w task with hlog | ⟨a, cfg, _, _, _, _, _, -, -, -, hlog⟩
  · rw [hlog] at h
    cases h
  · rw [hlog] at h
    rcases List.mem_cons.mp h with h | h
    · cases h
    · cases hreceipt : w.net.receipt with
      | none =>
          rw [hreceipt] at h
          cases h
      | some receipt =>
          rw [hreceipt] at h
          obtain ⟨url, -, rfl⟩ := Api.mem_notify.mp h
          rfl

theorem hash_processSolana (h : .webhook job ∈ (Api.processSolana w task).log) :
    w.net.solana_tx = some job.deposit.tx_hash := by
  rcases Api.log_processSolana w task with hlog | ⟨tx, -, hlog⟩
  · rw [hlog] at h
    cases h
  · rw [hlog] at h
    rcases List.mem_cons.mp h with h | h
    · cases h
    · cases hsent : w.net.solana_tx with
      | none =>
          rw [hsent] at h
          cases h
      | some tx_sig =>
          rw [hsent] at h
          rcases mem_log_bind.mp h with h | ⟨_, -, h⟩
          · exact absurd h Api.webhook_not_mem_sweepAfter
          rcases mem_log_bind.mp h with h | ⟨_, -, h⟩
          · exact absurd h (Api.webhook_not_mem_setWebhookOnBase _)
          obtain ⟨url, -, rfl⟩ := Api.mem_notify.mp h
          rfl

theorem hash_processTask (h : .webhook job ∈ (Api.processTask w task).log) :
    paymentHash w task.source_chain = some job.deposit.tx_hash := by
  unfold Api.processTask at h
  rcases mem_log_bind.mp h with h | ⟨attempts, -, h⟩
  · rw [log_unwrap] at h
    cases h
  unfold Api.runArm at h
  unfold paymentHash
  cases hchain : task.source_chain with
  | base =>
      rw [hchain] at h
      exact hash_processEvm h
  | ethereum =>
      rw [hchain] at h
      exact hash_processEvm h
  | arbitrum =>
      rw [hchain] at h
      exact hash_processEvm h
  | monad =>
      rw [hchain] at h
      exact hash_processEvm h
  | starknet =>
      rw [hchain] at h
      exact hash_processStarknet h
  | solana =>
      rw [hchain] at h
      exact hash_processSolana h

end

section
variable {τ : Type} {x : HashTexts τ} {p p' : Producer} {t t' : TokenTransfer τ}
  {d d' : Api.Deposit}

/-- The hash of a deposit is its producer's key. -/
theorem Produced.tx_hash (h : Produced x p t d) : d.tx_hash = x.key p t.transaction := by
  cases h with
  | @evm tx chain_name block log d t hlog h =>
      unfold depositOfLog at h
      split at h
      case h_1 =>
        split_ifs at h
        obtain ⟨_, -, h⟩ := Option.bind_eq_some_iff.mp h
        obtain ⟨_, -, h⟩ := Option.bind_eq_some_iff.mp h
        rw [← Option.some.inj h]
        exact hlog
      case h_2 => cases h
  | @starknet tx chain_name receivers block evt d t hevt h =>
      unfold depositOf at h
      split_ifs at h
      split at h
      case h_1 =>
        split_ifs at h
        rw [← Option.some.inj h]
        exact hevt
      case h_2 => cases h
  | solana _ => rfl
  | @payment w task job t hsent h =>
      rw [hash_processTask h] at hsent
      exact Option.some.inj hsent

/-- The two write the transaction's hash in one way. -/
def HashTexts.Agree (x : HashTexts τ) (p p' : Producer) (transaction : τ) : Prop :=
  (p = .payment ↔ p' = .payment) ∨ x.portal transaction = x.node transaction

/-- When keys tell transfers apart: those of two deposits of the Solana scan, where they are one
transfer; of one of those and another, where they are two; of any two others, unless they come from
one transaction, and then where one transfer has its hash written in one way, or two in two. -/
def ToldApart (x : HashTexts τ) (p p' : Producer) (t t' : TokenTransfer τ) : Prop :=
  if p = .solana ∧ p' = .solana then t = t'
  else if p = .solana ∨ p' = .solana then t ≠ t'
  else t.transaction = t'.transaction → (t.index = t'.index ↔ x.Agree p p' t.transaction)

theorem HashTexts.key_ne (hp : p ≠ .solana) (transaction : τ) : x.key p transaction ≠ [] := by
  cases p with
  | evm => exact x.portal_ne _
  | starknet => exact x.portal_ne _
  | solana => exact absurd rfl hp
  | payment => exact x.node_ne _

theorem HashTexts.key_of_ne (hp : p ≠ .solana) (transaction : τ) :
    x.key p transaction = if p = .payment then x.node transaction else x.portal transaction := by
  cases p with
  | evm => rfl
  | starknet => rfl
  | solana => exact absurd rfl hp
  | payment => rfl

/-- Two keys are equal when they name one transaction in one way. -/
theorem HashTexts.key_eq_iff (hp : p ≠ .solana) (hp' : p' ≠ .solana) {a b : τ} :
    x.key p a = x.key p' b ↔ a = b ∧ x.Agree p p' a := by
  rw [x.key_of_ne hp, x.key_of_ne hp', HashTexts.Agree]
  by_cases hpay : p = .payment
  · by_cases hpay' : p' = .payment
    · rw [if_pos hpay, if_pos hpay']
      constructor
      · intro h
        exact ⟨x.node_inj h, .inl (iff_of_true hpay hpay')⟩
      · rintro ⟨rfl, -⟩
        rfl
    · rw [if_pos hpay, if_neg hpay']
      constructor
      · intro h
        obtain rfl := x.same h.symm
        exact ⟨rfl, .inr h.symm⟩
      · rintro ⟨rfl, h | h⟩
        · exact absurd (h.mp hpay) hpay'
        · exact h.symm
  · by_cases hpay' : p' = .payment
    · rw [if_neg hpay, if_pos hpay']
      constructor
      · intro h
        obtain rfl := x.same h
        exact ⟨rfl, .inr h⟩
      · rintro ⟨rfl, h | h⟩
        · exact absurd (h.mpr hpay') hpay
        · exact h
    · rw [if_neg hpay, if_neg hpay']
      constructor
      · intro h
        exact ⟨x.portal_inj h, .inl (iff_of_false hpay hpay')⟩
      · rintro ⟨rfl, -⟩
        rfl

theorem toldApart_iff : (x.key p t.transaction = x.key p' t'.transaction ↔ t = t') ↔
    ToldApart x p p' t t' := by
  unfold ToldApart
  by_cases hp : p = .solana
  · subst hp
    by_cases hp' : p' = .solana
    · subst hp'
      rw [if_pos ⟨rfl, rfl⟩]
      exact ⟨fun h => h.mp rfl, fun h => iff_of_true rfl h⟩
    · rw [if_neg fun h => hp' h.2, if_pos (.inl rfl)]
      have hne := (x.key_ne hp' t'.transaction).symm
      exact ⟨fun h heq => hne (h.mpr heq), fun h => iff_of_false hne h⟩
  · by_cases hp' : p' = .solana
    · subst hp'
      rw [if_neg fun h => hp h.1, if_pos (.inr rfl)]
      have hne := x.key_ne hp t.transaction
      exact ⟨fun h heq => hne (h.mpr heq), fun h => iff_of_false hne h⟩
    · rw [if_neg fun h => hp h.1, if_neg (not_or.mpr ⟨hp, hp'⟩), x.key_eq_iff hp hp',
        TokenTransfer.ext_iff]
      constructor
      · intro h hsame
        exact ⟨fun hindex => (h.mpr ⟨hsame, hindex⟩).2, fun hagree => (h.mp ⟨hsame, hagree⟩).2⟩
      · intro h
        constructor
        · rintro ⟨hsame, hagree⟩
          exact ⟨hsame, (h hsame).mpr hagree⟩
        · rintro ⟨hsame, hindex⟩
          exact ⟨hsame, (h hsame).mp hindex⟩

/-- **What an idempotency key identifies.**  Every attempt at a deposit tells one key; and the keys of
two deposits are equal exactly for one transfer if and only if their producers' records tell the
transfers apart. -/
theorem idempotency_key_iff (hp : Produced x p t d) (hp' : Produced x p' t' d')
    {n n' : Notifier} {url url' : Text} {sweep_tx sweep_tx' : Option Text}
    {max_retries max_retries' : BitVec 32} {world world' : Nat → Attempt}
    {r r' : WebhookRequest}
    (hr : r ∈ (deliverDeposit n url d sweep_tx max_retries world).1)
    (hr' : r' ∈ (deliverDeposit n' url' d' sweep_tx' max_retries' world').1) :
    (∀ again ∈ (deliverDeposit n url d sweep_tx max_retries world).1,
        again.header "Idempotency-Key".toList = r.header "Idempotency-Key".toList) ∧
      ((r.header "Idempotency-Key".toList = r'.header "Idempotency-Key".toList ↔ t = t') ↔
        ToldApart x p p' t t') := by
  constructor
  · intro again hagain
    rw [deliverDeposit_key hagain, deliverDeposit_key hr]
  · rw [deliverDeposit_key hr, deliverDeposit_key hr', Option.some.injEq, hp.tx_hash, hp'.tx_hash]
    exact toldApart_iff

end

theorem hexLiteral_injective : Function.Injective hexLiteral := by
  intro a b h
  have hdigits := (List.cons.inj (List.cons.inj h).2).2
  rw [← hexValue_toDigits_sixteen a, hdigits, hexValue_toDigits_sixteen]

namespace KeySample

/-- Transactions by number, their hashes in hexadecimal. -/
def hashes : HashTexts Nat where
  portal := hexLiteral
  node := hexLiteral
  portal_ne _ := nofun
  node_ne _ := nofun
  portal_inj := hexLiteral_injective
  node_inj := hexLiteral_injective
  same h := hexLiteral_injective h

def texts : EvmTexts := ⟨['r'], ['a'], ['w'], ['t'], fun _ => none⟩

/-- The address 5 pays 7 units to the address 6. -/
def log (transaction : Nat) : PortalLog where
  address := showAddress 3
  topics := [['t'], addrTopicHex 5, addrTopicHex 6]
  data := '0' :: 'x' :: hexEncode (beBytes 32 7)
  transaction_hash := hexLiteral transaction

def deposit (transaction : Nat) : Api.Deposit where
  chain := "base".toList
  tx_hash := hexLiteral transaction
  from_address := showAddress 5
  receiver := showAddress 6
  amount_raw := ['7']
  block_number := 1

theorem decodes (transaction : Nat) :
    depositOfLog texts "base".toList 1 (log transaction) = some (deposit transaction) := by
  have hsender : parseTopicAddr (addrTopicHex 5) = some 5 := by decide +kernel
  have htarget : parseTopicAddr (addrTopicHex 6) = some 6 := by decide +kernel
  have hdata : hexDecode (Api.trimHexPrefix ('0' :: 'x' :: hexEncode (beBytes 32 7)))
      = some (beBytes 32 7) := by
    rw [Api.trimHexPrefix, trimHexPrefix_hexEncode, hexDecode_hexEncode]
  have hamount : Nat.toDigits 10 (dataSlice (beBytes 32 7) 0 32) = ['7'] := by decide +kernel
  unfold depositOfLog log
  dsimp only
  rw [if_pos (by decide), hsender, htarget, hdata]
  simp only [Option.bind_eq_bind, Option.bind_some, Option.getD_some, length_beBytes, le_refl,
    if_true, hamount]
  rfl

theorem produced (t : TokenTransfer Nat) : Produced hashes .evm t (deposit t.transaction) :=
  @Produced.evm _ _ texts "base".toList 1 (log t.transaction) _ _ rfl (decodes t.transaction)

/-- A plain transfer on Solana, to the account 6. -/
def transfer (amount : Nat) (h : amount < 2 ^ 64) : SplTransfer where
  layout := .transfer
  source := 4
  destination := 6
  authority := 5
  signers := []
  amount := amount
  amount_lt := h

/-- What the scan makes of it. -/
def solanaDeposit (amount : Nat) : Api.Deposit :=
  (TokenTransferEvent.deposit base58Text ⟨4, 6, 5, amount, 9⟩).named "solana".toList

theorem produced_solana (t : TokenTransfer Nat) {amount : Nat} (h : amount < 2 ^ 64) :
    Produced hashes .solana t (solanaDeposit amount) := by
  obtain ⟨second, third, h1, h2, hdecode⟩ :=
    @decodeTransfer_record base58Text 9 (transfer amount h)
  obtain rfl := Option.some.inj h1
  obtain rfl := Option.some.inj h2
  exact .solana hdecode

def notifier : Notifier where
  chain_name := "base".toList
  token_address := showAddress 3
  keeper_address := showAddress 2
  signature_scheme := "eip191".toList
  to_json body := some body.deposit.amount_raw
  sign_payload message := some message
  show_status code := (toString code).toList

/-- One attempt, which is answered. -/
def answered (_ : Nat) : Attempt := ⟨1700000000, .status 200⟩

def delivery (d : Api.Deposit) : List WebhookRequest :=
  (deliverDeposit notifier "https://shop".toList d none 5 answered).1

theorem delivers (d : Api.Deposit) : ∃ r, delivery d = [r] := by
  obtain ⟨r, hr⟩ : ∃ r, webhookRequest notifier "https://shop".toList d none 1700000000 = .ok r :=
    ⟨_, rfl⟩
  have hsend : sendWebhookOnce notifier "https://shop".toList d none (answered 0)
      = ([r], .ok ()) := by
    unfold sendWebhookOnce answered
    dsimp only
    rw [hr]
    rfl
  refine ⟨r, ?_⟩
  unfold delivery deliverDeposit
  rw [deliverFrom.eq_def]
  dsimp only
  rw [hsend]

end KeySample

open KeySample in
/-- Two transfers of two transactions on Base. -/
theorem keys_differ : ∃ r r', r ∈ delivery (deposit 1) ∧ r' ∈ delivery (deposit 2) ∧
    r.header "Idempotency-Key".toList ≠ r'.header "Idempotency-Key".toList := by
  obtain ⟨r, hr⟩ := delivers (deposit 1)
  obtain ⟨r', hr'⟩ := delivers (deposit 2)
  have hmem : r ∈ delivery (deposit 1) := hr ▸ List.mem_singleton_self r
  have hmem' : r' ∈ delivery (deposit 2) := hr' ▸ List.mem_singleton_self r'
  obtain ⟨-, hiff⟩ := idempotency_key_iff (produced ⟨1, 0⟩) (produced ⟨2, 0⟩) hmem hmem'
  have hapart : ToldApart hashes .evm .evm ⟨1, 0⟩ ⟨2, 0⟩ := by
    intro hsame
    exact absurd hsame (by decide)
  refine ⟨r, r', hmem, hmem', fun heq => ?_⟩
  have h : (⟨1, 0⟩ : TokenTransfer Nat) = ⟨2, 0⟩ := (hiff.mpr hapart).mp heq
  exact absurd h (by decide)

open KeySample in
/-- Two transfers of two transactions on Solana, of 7 and of 8 units: one key. -/
theorem keys_collide : ∃ r r', Produced hashes .solana ⟨1, 0⟩ (solanaDeposit 7) ∧
    Produced hashes .solana ⟨2, 0⟩ (solanaDeposit 8) ∧ r ∈ delivery (solanaDeposit 7) ∧
    r' ∈ delivery (solanaDeposit 8) ∧
    r.header "Idempotency-Key".toList = r'.header "Idempotency-Key".toList := by
  obtain ⟨r, hr⟩ := delivers (solanaDeposit 7)
  obtain ⟨r', hr'⟩ := delivers (solanaDeposit 8)
  have hmem : r ∈ delivery (solanaDeposit 7) := hr ▸ List.mem_singleton_self r
  have hmem' : r' ∈ delivery (solanaDeposit 8) := hr' ▸ List.mem_singleton_self r'
  refine ⟨r, r', produced_solana _ (by decide), produced_solana _ (by decide), hmem, hmem', ?_⟩
  rw [deliverDeposit_key hmem, deliverDeposit_key hmem']
  rfl

end Beanie.Keeper
