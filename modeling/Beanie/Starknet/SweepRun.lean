/-
# `Beanie.Starknet.SweepRun` — one receiver over whole runs

`sweep` says of itself: permissionless, idempotent, atomic.  Over runs that is
`Lawful`: every sweep empties the receiver, a sweep with nothing new does
nothing, no unit is charged twice, and the books balance.

The cross-chain branch approves the net amount and sends a message; with a
messenger that moves no tokens the amount stays in the receiver, and the next
sweep charges it again.  `lawful_iff` is the exact condition: a run is lawful
when each sweep that finds a balance is of a receiver that settles on its own
chain to accounts other than itself.
-/
import Beanie.Lib.Run
import Beanie.Starknet.Receiver

namespace Beanie.Starknet

inductive Act
  | deposit (payer : ContractAddress) (amount : Nat)
  | sweep (caller : ContractAddress) (result : SweepResult)
  | reverted (error : Panic)
  | initializeCall

/-- One transaction, seen from the receiver at `self` that holds `token`. -/
inductive TxStep (x : Callees) (self token : ContractAddress) : World → Act → World → Prop
  | deposit {w : World} {payer : ContractAddress} {n : Nat} (hpayer : payer ≠ self)
      (hn : n ≤ w.balances token payer) :
      TxStep x self token w (.deposit payer n) (w.transfer token payer self n)
  /-- No entry point of the receiver calls the receiver. -/
  | sweep {w w' : World} {caller : ContractAddress} {r : SweepResult} (hcaller : caller ≠ self)
      (h : sweep x w self caller = .ok (w', r)) : TxStep x self token w (.sweep caller r) w'
  | sweepReverts {w : World} {caller : ContractAddress} {e : Panic}
      (h : sweep x w self caller = .error e) : TxStep x self token w (.reverted e) w
  | initializeCall {w w' : World} {t treasury messenger merchant : ContractAddress}
      {domain : BitVec 32} {recipient : U256}
      (h : initializeCall w self t treasury messenger domain recipient merchant = .ok w') :
      TxStep x self token w .initializeCall w'

/-- The observed books of a run. -/
structure Books where
  deposited : Nat
  /-- what the receiver's sweeps sent, to anyone -/
  paid : Nat
  burned : Nat
  /-- the gross amounts on which the fee was charged -/
  swept : Nat
deriving DecidableEq

/-- The books after one more transaction, read off the worlds before and after it. -/
def observe (c : StarknetReceiver) (self : ContractAddress) (b : Books)
    (t : Transition World Act) : Books :=
  match t.act with
  | .deposit _ n => { b with deposited := b.deposited + n }
  | .sweep _ _ =>
      { deposited := b.deposited
        paid := b.paid + (t.post.sentBy self c.token - t.pre.sentBy self c.token)
        burned := b.burned + (t.post.burned c.token self - t.pre.burned c.token self)
        swept := b.swept + t.pre.balances c.token self }
  | _ => b

/-- The books of a run that starts at `w`; what the receiver already holds counts as deposited. -/
def books (c : StarknetReceiver) (self : ContractAddress) (w : World)
    (tr : List (Transition World Act)) : Books :=
  tr.foldl (observe c self) ⟨w.balances c.token self, 0, 0, 0⟩

/-- What `sweep` documents, over a run from `w` to `w'`. -/
structure Lawful (c : StarknetReceiver) (addr : ContractAddress) (w : World)
    (tr : List (Transition World Act)) (w' : World) : Prop where
  drained : ∀ t ∈ tr, ∀ caller r, t.act = .sweep caller r → t.post.balances c.token addr = 0
  /-- a sweep with no deposit since an earlier one moves nothing and charges nothing -/
  idempotent : ∀ l t m u n, tr = l ++ t :: (m ++ u :: n) →
    (∃ caller r, t.act = .sweep caller r) → (∀ v ∈ m, ∀ payer k, v.act ≠ .deposit payer k) →
    ∀ caller r, u.act = .sweep caller r → u.post = u.pre ∧ r = ⟨0, 0, 0, 0⟩
  chargedOnce : (books c addr w tr).swept ≤ (books c addr w tr).deposited
  conserved : (books c addr w tr).deposited
    = (books c addr w tr).paid + (books c addr w tr).burned + w'.balances c.token addr
  destinations : ∀ t ∈ tr, ∀ caller r, t.act = .sweep caller r →
    ∃ ts, t.post.transfers = t.pre.transfers ++ ts ∧
      ∀ e ∈ ts, e.recipient = caller ∨ e.recipient = c.treasury ∨ e.recipient = c.merchant

/-- The receiver settles a gross amount `g` away from itself: on its own chain, to a merchant
other than itself, and without paying a treasury share to itself. -/
def SettlesAway (c : StarknetReceiver) (self : ContractAddress) (g : Nat) : Prop :=
  c.mint_recipient = 0 ∧ c.merchant ≠ self ∧ (c.treasury = self → rates.treasuryCut g = 0)

instance (c : StarknetReceiver) (self : ContractAddress) (g : Nat) :
    Decidable (SettlesAway c self g) :=
  inferInstanceAs (Decidable (_ ∧ _ ∧ _))

/-! ## One sweep -/

/-- A sweep takes the whole gross amount off the receiver exactly when it settles away. -/
theorem sweepLeaves_eq_iff {c : StarknetReceiver} {self caller : ContractAddress} {g : Nat}
    (hg : g ≠ 0) (hcaller : caller ≠ self) :
    sweepLeaves c self caller g = g ↔ SettlesAway c self g := by
  have hsplit := rates.split_sum g
  have hnet := rates.net_pos (Nat.pos_of_ne_zero hg)
  have hleaves : leaves self c.treasury (rates.treasuryCut g) = rates.treasuryCut g ↔
      (c.treasury = self → rates.treasuryCut g = 0) := by
    unfold leaves
    split_ifs with ht <;> simp [ht, eq_comm]
  have hle : leaves self c.treasury (rates.treasuryCut g) ≤ rates.treasuryCut g := by
    unfold leaves
    split_ifs <;> omega
  have hsettled : settled c self g = rates.net g ↔ c.mint_recipient = 0 ∧ c.merchant ≠ self := by
    unfold settled leaves
    split_ifs with hr hm
    · exact ⟨fun h => absurd h hnet.ne, fun h => absurd hm h.2⟩
    · exact ⟨fun _ => ⟨hr, hm⟩, fun _ => rfl⟩
    · exact ⟨fun h => absurd h hnet.ne, fun h => absurd h.1 hr⟩
  have hle' : settled c self g ≤ rates.net g := by
    unfold settled leaves
    split_ifs <;> omega
  have hcaller' : leaves self caller (rates.callerCut g) = rates.callerCut g := if_neg hcaller
  rw [SettlesAway, ← hleaves, ← and_assoc, ← hsettled, sweepLeaves, hcaller']
  omega

theorem sum_entry (token self recipient : ContractAddress) (n : Nat) :
    World.sum (entry token self recipient n) = n := by
  by_cases hn : 0 < n
  · simp [entry, hn, World.sum]
  · simp [entry, hn, World.sum]
    omega

theorem sum_append (ts us : List Transfer) :
    World.sum (ts ++ us) = World.sum ts + World.sum us := by
  simp [World.sum]

/-- On the same-chain branch a sweep sends the gross amount exactly. -/
theorem sum_sweepEntries {c : StarknetReceiver} {self caller : ContractAddress} {g : Nat}
    (hr : c.mint_recipient = 0) : World.sum (sweepEntries c self caller g) = g := by
  have hsplit := rates.split_sum g
  simp only [sweepEntries, settledEntry, if_pos hr, sum_append, sum_entry]
  simp only [World.sum, List.map_cons, List.map_nil, List.sum_cons, List.sum_nil]
  omega

section
variable {x : Callees} {c : StarknetReceiver} {self : ContractAddress} {w w' : World}

/-- A sweep of an empty receiver changes nothing. -/
theorem sweep_of_empty (hx : InterfaceCallees x) (hc : w.receivers self = some c)
    {caller : ContractAddress} {r : SweepResult} (h0 : w.balances c.token self = 0)
    (h : sweep x w self caller = .ok (w', r)) : w' = w ∧ r = ⟨0, 0, 0, 0⟩ := by
  rcases sweep_cases hx hc h with ⟨-, hw, hr⟩ | ⟨hne, -, -⟩
  · exact ⟨hw, hr⟩
  · exact absurd h0 hne

/-- A sweep empties the receiver exactly when there was nothing, or what there was settles
away. -/
theorem sweep_drained_iff (hx : InterfaceCallees x) (hc : w.receivers self = some c)
    {caller : ContractAddress} {r : SweepResult} (hcaller : caller ≠ self)
    (h : sweep x w self caller = .ok (w', r)) :
    w'.balances c.token self = 0 ↔
      w.balances c.token self = 0 ∨ SettlesAway c self (w.balances c.token self) := by
  rcases sweep_cases hx hc h with ⟨h0, rfl, -⟩ | ⟨hne, -, hsent⟩
  · exact ⟨fun _ => .inl h0, fun _ => h0⟩
  · have hbal := hsent.balance
    have hiff := sweepLeaves_eq_iff (c := c) hne hcaller
    constructor
    · intro h0
      exact .inr (hiff.mp (by omega))
    · intro hor
      have hall := hiff.mpr (hor.resolve_left hne)
      omega

/-! ## Runs -/

variable {tr : List (Transition World Act)}

/-- The receiver's storage, once initialised, never changes. -/
theorem TxStep.pinned (hx : InterfaceCallees x) (hinit : c.initialized = true) {a : Act}
    (h : TxStep x self c.token w a w') (hc : w.receivers self = some c) :
    w'.receivers self = some c := by
  cases h with
  | deposit _ _ => exact hc
  | sweep _ h =>
      rcases sweep_cases hx hc h with ⟨-, rfl, -⟩ | ⟨-, -, hsent⟩
      · exact hc
      · rw [hsent.receivers]
        exact hc
  | sweepReverts _ => exact hc
  | initializeCall h =>
      rw [initializeCall_error hc hinit] at h
      exact absurd h (by simp)

/-- Every sweep of a run finds the pinned storage. -/
theorem pinned_before (hx : InterfaceCallees x) (hinit : c.initialized = true)
    (hc : w.receivers self = some c) (hrun : Steps (TxStep x self c.token) w tr w') :
    ∀ t ∈ tr, t.pre.receivers self = some c :=
  hrun.invariant_pre (P := fun _ => True) (fun _ _ _ hs _ hp => hs.pinned hx hinit hp)
    (fun _ _ => trivial) hc

/-- A sweep of the run, with what it was called on. -/
theorem sweep_of_mem (hx : InterfaceCallees x) (hinit : c.initialized = true)
    (hc : w.receivers self = some c) (hrun : Steps (TxStep x self c.token) w tr w')
    {t : Transition World Act} (ht : t ∈ tr) {caller : ContractAddress} {r : SweepResult}
    (hact : t.act = .sweep caller r) :
    t.pre.receivers self = some c ∧ caller ≠ self ∧ sweep x t.pre self caller = .ok (t.post, r) := by
  have hpin := pinned_before hx hinit hc hrun t ht
  obtain ⟨hs, -⟩ := hrun.mem_split ht
  obtain ⟨v, a, v'⟩ := t
  subst hact
  cases hs with
  | sweep hcaller h => exact ⟨hpin, hcaller, h⟩

/-- Every sweep of the run that finds a balance settles it away. -/
def AllSettleAway (c : StarknetReceiver) (self : ContractAddress)
    (tr : List (Transition World Act)) : Prop :=
  ∀ t ∈ tr, ∀ caller r, t.act = .sweep caller r →
    t.pre.balances c.token self = 0 ∨ SettlesAway c self (t.pre.balances c.token self)

/-- The books and the balance agree, and nothing swept is still here. -/
structure Agrees (c : StarknetReceiver) (addr : ContractAddress) (w : World) (b : Books) : Prop where
  pinned : w.receivers addr = some c
  conserved : b.deposited = b.paid + b.burned + w.balances c.token addr
  accounted : b.swept + w.balances c.token addr = b.deposited

/-- The step lemma, for a step whose sweep settles away. -/
theorem TxStep.agrees (hx : InterfaceCallees x) (hinit : c.initialized = true) {a : Act}
    (h : TxStep x self c.token w a w')
    (hsettles : ∀ caller r, a = .sweep caller r →
      w.balances c.token self = 0 ∨ SettlesAway c self (w.balances c.token self))
    {b : Books} (hb : Agrees c self w b) : Agrees c self w' (observe c self b ⟨w, a, w'⟩) := by
  obtain ⟨hpin, hcons, hacc⟩ := hb
  have hpin' := h.pinned hx hinit hpin
  cases h with
  | @deposit payer n hpayer hn =>
      have hbal : (w.transfer c.token payer self n).balances c.token self
          = w.balances c.token self + n := by
        rw [World.transfer_balances, Ledger.move_dst _ _ hpayer]
      refine ⟨hpin', ?_, ?_⟩ <;> simp only [observe, hbal] <;> omega
  | @sweep _ caller r hcaller h =>
      have hzero := (sweep_drained_iff hx hpin hcaller h).mpr (hsettles caller r rfl)
      rcases sweep_cases hx hpin h with ⟨h0, rfl, -⟩ | ⟨hne, -, hsent⟩
      · refine ⟨hpin', ?_, ?_⟩ <;> simp only [observe] <;> omega
      · have hmr := ((hsettles caller r rfl).resolve_left hne).1
        have hgrow := World.sentBy_append hsent.transfers hsent.sender
        rw [sum_sweepEntries hmr] at hgrow
        refine ⟨hpin', ?_, ?_⟩ <;> simp only [observe, hzero, hgrow, hsent.burned] <;> omega
  | sweepReverts _ => exact ⟨hpin, hcons, hacc⟩
  | initializeCall h =>
      rw [initializeCall_error hpin hinit] at h
      exact absurd h (by simp)

theorem agrees_run (hx : InterfaceCallees x) (hinit : c.initialized = true)
    (hc : w.receivers self = some c) (hrun : Steps (TxStep x self c.token) w tr w')
    (hall : AllSettleAway c self tr) : Agrees c self w' (books c self w tr) :=
  hrun.fold_invariant
    (P := fun t : Transition World Act => ∀ caller r, t.act = .sweep caller r →
      t.pre.balances c.token self = 0 ∨ SettlesAway c self (t.pre.balances c.token self))
    (fun _ _ _ _ hs hp hR => hs.agrees hx hinit hp hR) hall ⟨hc, by simp, by simp⟩

/-- Between two sweeps with no deposit, the receiver stays empty. -/
theorem empty_run (hx : InterfaceCallees x) (hinit : c.initialized = true)
    (hrun : Steps (TxStep x self c.token) w tr w')
    (hno : ∀ t ∈ tr, ∀ payer n, t.act ≠ .deposit payer n)
    (h : w.receivers self = some c ∧ w.balances c.token self = 0) :
    w'.receivers self = some c ∧ w'.balances c.token self = 0 := by
  refine hrun.invariant (P := fun t => ∀ payer n, t.act ≠ .deposit payer n)
    (I := fun w => w.receivers self = some c ∧ w.balances c.token self = 0) ?_ hno h
  rintro v a v' hs hp ⟨hpin, h0⟩
  refine ⟨hs.pinned hx hinit hpin, ?_⟩
  cases hs with
  | @deposit payer n _ _ => exact absurd rfl (hp payer n)
  | sweep _ h =>
      obtain ⟨rfl, -⟩ := sweep_of_empty hx hpin h0 h
      exact h0
  | sweepReverts _ => exact h0
  | initializeCall h =>
      rw [initializeCall_error hpin hinit] at h
      exact absurd h (by simp)

/-- Where every sweep settles away, the run is lawful. -/
theorem lawful_of_settlesAway (hx : InterfaceCallees x) (hinit : c.initialized = true)
    (hc : w.receivers self = some c) (hrun : Steps (TxStep x self c.token) w tr w')
    (hall : AllSettleAway c self tr) : Lawful c self w tr w' := by
  have hagrees := agrees_run hx hinit hc hrun hall
  have hdrained : ∀ t ∈ tr, ∀ caller r, t.act = .sweep caller r →
      t.post.balances c.token self = 0 := by
    intro t ht caller r hact
    obtain ⟨hpin, hcaller, h⟩ := sweep_of_mem hx hinit hc hrun ht hact
    exact (sweep_drained_iff hx hpin hcaller h).mpr (hall t ht caller r hact)
  refine ⟨hdrained, ?_, ?_, hagrees.conserved, ?_⟩
  · rintro l t m u n rfl ⟨caller, r, hact⟩ hno caller' r' hact'
    have ht : t ∈ l ++ t :: (m ++ u :: n) := by simp
    have hzero := hdrained t ht caller r hact
    obtain ⟨v, -, hrest⟩ := hrun.split
    cases hrest with
    | @step _ s₁ _ a _ hs hrest =>
        obtain ⟨v', hmid, hlast⟩ := hrest.split
        have hpin₁ : s₁.receivers self = some c :=
          hs.pinned hx hinit (pinned_before hx hinit hc hrun ⟨v, a, s₁⟩ ht)
        obtain ⟨hpin', h0⟩ := empty_run hx hinit hmid hno ⟨hpin₁, hzero⟩
        cases hlast with
        | step hu _ =>
            subst hact'
            cases hu with
            | sweep _ h => exact sweep_of_empty hx hpin' h0 h
  · exact hagrees.accounted ▸ Nat.le_add_right _ _
  · intro t ht caller r hact
    obtain ⟨hpin, -, h⟩ := sweep_of_mem hx hinit hc hrun ht hact
    rcases sweep_cases hx hpin h with ⟨-, hw, -⟩ | ⟨-, -, hsent⟩
    · exact ⟨[], by rw [hw, List.append_nil], by simp⟩
    · exact ⟨_, hsent.transfers, sweepEntries_recipient⟩

end

/-- **The exact condition.**  From `initialize` on, a run of deposits and sweeps by any callers
is lawful if and only if each of its sweeps found nothing or settled away what it found. -/
theorem lawful_iff {x : Callees} (hx : InterfaceCallees x) {w₀ w w' : World}
    {self token treasury messenger merchant : ContractAddress} {domain : BitVec 32}
    {recipient : U256} {tr : List (Transition World Act)}
    (hinit : initializeCall w₀ self token treasury messenger domain recipient merchant = .ok w)
    (hrun : Steps (TxStep x self token) w tr w') :
    Lawful ⟨true, token, treasury, messenger, domain, recipient, merchant⟩ self w tr w' ↔
      AllSettleAway ⟨true, token, treasury, messenger, domain, recipient, merchant⟩ self tr := by
  obtain ⟨hc, -⟩ := initializeCall_ok hinit
  constructor
  · intro hlaw t ht caller r hact
    obtain ⟨hpin, hcaller, h⟩ := sweep_of_mem hx rfl hc hrun ht hact
    exact (sweep_drained_iff hx hpin hcaller h).mp (hlaw.drained t ht caller r hact)
  · exact lawful_of_settlesAway hx rfl hc hrun

/-- A blank receiver at 9; the payer 7 holds 30_000 units. -/
def sampleWorld : World where
  balances := fun _ a => if a = 7 then 30000 else 0
  transfers := []
  burned := fun _ _ => 0
  allowances := fun _ _ _ => 0
  messages := []
  receivers := fun a => if a = 9 then some .blank else none
  events := []

set_option maxRecDepth 8000 in
/-- A same-chain receiver of the merchant 4, paid 10_000 and swept. -/
theorem lawful_same_chain : ∃ w tr w', Steps (TxStep ledgerCallees 9 1) w tr w' ∧
    tr.map Transition.act = [.deposit 7 10000, .sweep 8 ⟨9950, 5, 45, 50⟩] ∧
    Lawful ⟨true, 1, 2, 3, 0, 0, 4⟩ 9 w tr w' := by
  obtain ⟨w, hinit, w', hsweep, hpayer, hbal⟩ :
      ∃ w, initializeCall sampleWorld 9 1 2 3 0 0 4 = .ok w ∧
      ∃ w', sweep ledgerCallees (w.transfer 1 7 9 10000) 9 8 = .ok (w', ⟨9950, 5, 45, 50⟩) ∧
        w.balances 1 7 = 30000 ∧ (w.transfer 1 7 9 10000).balances 1 9 = 10000 :=
    ⟨_, rfl, _, rfl, rfl, rfl⟩
  have hrun : Steps (TxStep ledgerCallees 9 1) w _ w' :=
    .step (@TxStep.deposit _ _ _ _ 7 10000 (by decide) (by rw [hpayer]; decide))
      (.step (.sweep (by decide) hsweep) (.refl w'))
  refine ⟨w, _, w', hrun, rfl, (lawful_iff interfaceCallees_ledger hinit hrun).mpr ?_⟩
  intro t ht caller r hact
  simp only [List.mem_cons, List.not_mem_nil, or_false] at ht
  rcases ht with rfl | rfl
  · exact nomatch hact
  · exact .inr ⟨rfl, by decide, fun h => absurd h (by decide)⟩

set_option maxRecDepth 8000 in
/-- A cross-chain receiver paid 10_000 once and swept twice: the first sweep leaves 9_950 behind,
and the second charges them again. -/
theorem cross_chain_charges_twice : ∃ w tr w',
    initializeCall sampleWorld 9 1 2 3 6 77 4 = .ok w ∧
    Steps (TxStep ledgerCallees 9 1) w tr w' ∧
    tr.map Transition.act
      = [.deposit 7 10000, .sweep 8 ⟨9950, 5, 45, 50⟩, .sweep 8 ⟨9901, 4, 45, 49⟩] ∧
    w'.balances 1 9 = 9901 ∧
    (books ⟨true, 1, 2, 3, 6, 77, 4⟩ 9 w tr).swept = 19950 ∧
    ¬ Lawful ⟨true, 1, 2, 3, 6, 77, 4⟩ 9 w tr w' := by
  obtain ⟨w, hinit, w₁, hsweep₁, w₂, hsweep₂, hpayer, h0, h10000, hbal₁, hbal₂⟩ :
      ∃ w, initializeCall sampleWorld 9 1 2 3 6 77 4 = .ok w ∧
      ∃ w₁, sweep ledgerCallees (w.transfer 1 7 9 10000) 9 8 = .ok (w₁, ⟨9950, 5, 45, 50⟩) ∧
      ∃ w₂, sweep ledgerCallees w₁ 9 8 = .ok (w₂, ⟨9901, 4, 45, 49⟩) ∧
        w.balances 1 7 = 30000 ∧ w.balances 1 9 = 0 ∧
        (w.transfer 1 7 9 10000).balances 1 9 = 10000 ∧
        w₁.balances 1 9 = 9950 ∧ w₂.balances 1 9 = 9901 :=
    ⟨_, rfl, _, rfl, _, rfl, rfl, rfl, rfl, rfl, rfl⟩
  have hrun : Steps (TxStep ledgerCallees 9 1) w _ w₂ :=
    .step (@TxStep.deposit _ _ _ _ 7 10000 (by decide) (by rw [hpayer]; decide))
      (.step (.sweep (by decide) hsweep₁) (.step (.sweep (by decide) hsweep₂) (.refl w₂)))
  refine ⟨w, _, w₂, hinit, hrun, rfl, hbal₂, ?_, ?_⟩
  · show 0 + (w.transfer 1 7 9 10000).balances 1 9 + w₁.balances 1 9 = 19950
    rw [h10000, hbal₁]
  · intro hlaw
    have hzero := hlaw.drained ⟨w₁, .sweep 8 ⟨9901, 4, 45, 49⟩, w₂⟩ (by simp) 8 _ rfl
    exact absurd (hbal₂.symm.trans hzero) (by decide)

end Beanie.Starknet
