/-
# `Beanie.Evm.SweepRun` — one receiver over whole runs

A run interleaves token deposits to a receiver, `sweep` calls of any
`tx.origin`, further `initialize` calls, and everything that happens elsewhere.
The books of a run are OBSERVED: what each sweep paid to whom is the change of
that party's balance across the sweep, never what the sweep says it paid.

The receiver refines `Custody`: each transaction, so observed, is a step of the
abstract custodian (`observe_step`), so the books of every run balance.
-/
import Beanie.Lib.Run
import Beanie.Lib.Custody
import Beanie.Evm.ReceiverFactory

namespace Beanie.Evm

inductive Act
  | deposit (payer : Address) (amount : Nat)
  | sweep (origin : Address) (result : SweepResult)
  | reverted (error : Revert)
  | initializeCall (token treasury tokenMessenger : Address) (domain : Domain)
      (recipient : Bytes32) (merchant : Address)
  | elsewhere

/-- One transaction, seen from the receiver at `self` that holds `token`. -/
inductive TxStep (x : Callees) (self token : Address) : World → Act → World → Prop
  | deposit {w : World} {payer : Address} {n : Nat} (hpayer : payer ≠ self)
      (hn : n ≤ w.balances token payer) :
      TxStep x self token w (.deposit payer n) (w.transfer token payer self n)
  | sweep {w w' : World} {origin : Address} {r : SweepResult}
      (h : sweep x w self origin = .ok (w', r)) : TxStep x self token w (.sweep origin r) w'
  | sweepReverts {w : World} {origin : Address} {e : Revert}
      (h : sweep x w self origin = .error e) : TxStep x self token w (.reverted e) w
  | initializeCall {w w' : World} {t treasury messenger merchant : Address} {domain : Domain}
      {recipient : Bytes32}
      (h : initializeCall w self t treasury messenger domain recipient merchant = .ok w') :
      TxStep x self token w (.initializeCall t treasury messenger domain recipient merchant) w'
  | elsewhere {w w' : World} (hbal : w'.balances token self = w.balances token self)
      (hrec : w'.receivers self = w.receivers self) : TxStep x self token w .elsewhere w'

/-- Every sweep is called from outside the receiver's parties. -/
def Act.fromOutside (c : ChainXReceiver) (self : Address) : Act → Prop
  | .sweep origin _ => Outsider c self origin
  | _ => True

/-- The books after one more transaction, read off the balances before and after it. -/
def observe (c : ChainXReceiver) (self : Address) (b : Custody) (t : Transition World Act) :
    Custody :=
  match t.act with
  | .deposit _ n =>
      { b with held := t.post.balances c.token self, received := b.received + n }
  | .sweep origin r =>
      { held := t.post.balances c.token self
        received := b.received
        settled := b.settled
          + (t.post.balances c.token c.merchant - t.pre.balances c.token c.merchant)
          + (t.post.burnedBy self c.token - t.pre.burnedBy self c.token)
        toTreasury := b.toTreasury
          + (t.post.balances c.token c.treasury - t.pre.balances c.token c.treasury)
        toCallers := b.toCallers
          + (t.post.balances c.token origin - t.pre.balances c.token origin)
        fees := b.fees + r.fee
        swept := b.swept + t.pre.balances c.token self }
  | _ => { b with held := t.post.balances c.token self }

/-- The books of a run that starts at `w`; what the receiver already holds counts as received. -/
def books (c : ChainXReceiver) (self : Address) (w : World) (tr : List (Transition World Act)) :
    Custody :=
  tr.foldl (observe c self) (Custody.opened (w.balances c.token self))

/-- The receiver's side of the simulation: its storage is pinned, and the books know its
balance. -/
structure Tracks (c : ChainXReceiver) (addr : Address) (w : World) (b : Custody) : Prop where
  pinned : w.receivers addr = some c
  held : b.held = w.balances c.token addr

/-- What a sweep settled: the merchant's balance and the receiver's burns grew by the net
amount together. -/
theorem SweepEffect.settled {c : ChainXReceiver} {self origin : Address} {g : Nat}
    {w w' : World} (h : SweepEffect c self origin g w w') :
    (w'.balances c.token c.merchant - w.balances c.token c.merchant)
      + (w'.burnedBy self c.token - w.burnedBy self c.token) = rates.net g := by
  by_cases hr : c.cctpMintRecipient = 0
  · have hm := h.merchant
    have hb := h.burns
    rw [if_pos hr] at hm
    rw [if_pos (.inl hr), List.append_nil] at hb
    rw [World.burnedBy_congr hb, hm]
    omega
  · have hm := h.merchant
    have hb := h.burns
    rw [if_neg hr] at hm
    by_cases hg : g = 0
    · rw [if_pos (.inr hg), List.append_nil] at hb
      rw [World.burnedBy_congr hb, hm, hg, FeeRates.net_zero]
      omega
    · rw [if_neg (fun h => h.elim hr hg)] at hb
      have hburn : w'.burnedBy self c.token = w.burnedBy self c.token + rates.net g :=
        World.burnedBy_append hb
      rw [hm, hburn]
      omega

/-- A sweep, observed, is a sweep of the custodian. -/
theorem observe_sweep {c : ChainXReceiver} {self origin : Address} {w w' : World} {b : Custody}
    (hb : b.held = w.balances c.token self)
    (h : SweepEffect c self origin (w.balances c.token self) w w') :
    observe c self b ⟨w, .sweep origin (.split (w.balances c.token self)), w'⟩
      = b.sweep rates := by
  have hs := h.settled
  have hr := h.receiver
  have ht := h.treasury
  have hc := h.caller
  simp only [observe, Custody.sweep, hb, SweepResult.split, hr, ht, hc]
  congr 1
  all_goals omega

/-- **The step lemma.**  Every transaction, observed, is a step of the custodian, and the
receiver stays as pinned. -/
theorem observe_step {x : Callees} (hx : StandardCallees x) {c : ChainXReceiver}
    {self : Address} (hd : Distinct c self) (hinit : c.initialized = true) {w w' : World} {a : Act}
    {b : Custody} (h : TxStep x self c.token w a w') (ho : a.fromOutside c self)
    (hw : Tracks c self w b) :
    Custody.Step rates b (observe c self b ⟨w, a, w'⟩) ∧
      Tracks c self w' (observe c self b ⟨w, a, w'⟩) := by
  obtain ⟨hrec, hheld⟩ := hw
  cases h with
  | @deposit payer n hpayer hn =>
      have hbal : (w.transfer c.token payer self n).balances c.token self = b.held + n := by
        rw [World.transfer_balances, Ledger.move_dst _ _ hpayer, hheld]
      refine ⟨?_, hrec, rfl⟩
      simp only [observe, hbal]
      exact .receive b n
  | sweep h =>
      obtain ⟨rfl, heff⟩ := sweep_cases hx hrec hd ho h
      rw [observe_sweep hheld heff]
      exact ⟨.sweep b, heff.receivers ▸ hrec, heff.receiver.symm⟩
  | @sweepReverts _ e h =>
      have hb : observe c self b ⟨w, .reverted e, w⟩ = b := by
        simp only [observe, ← hheld]
      rw [hb]
      exact ⟨.idle b, hrec, hheld⟩
  | initializeCall h =>
      rw [initializeCall_error hrec hinit] at h
      exact absurd h (by simp)
  | elsewhere hbal hrec' =>
      have hb : observe c self b ⟨w, .elsewhere, w'⟩ = b := by
        simp only [observe, hbal, ← hheld]
      rw [hb]
      exact ⟨.idle b, hrec'.trans hrec, hheld.trans hbal.symm⟩

section
variable {x : Callees} {c : ChainXReceiver} {self : Address} {w w' : World}
  {tr : List (Transition World Act)}

/-- The run lemma: a run of the receiver, observed, is a run of the custodian. -/
theorem books_run (hx : StandardCallees x) (hd : Distinct c self) (hinit : c.initialized = true)
    (hrec : w.receivers self = some c) (hrun : Steps (TxStep x self c.token) w tr w')
    (ho : ∀ t ∈ tr, t.act.fromOutside c self) :
    Relation.ReflTransGen (Custody.Step rates) (Custody.opened (w.balances c.token self))
        (books c self w tr) ∧
      Tracks c self w' (books c self w tr) :=
  hrun.simulation (R := Tracks c self) (P := fun t => t.act.fromOutside c self)
    (fun _ _ _ _ hs hP hR => observe_step hx hd hinit hs hP hR) ho ⟨hrec, rfl⟩

/-- The receiver's storage never changes. -/
theorem receiver_pinned (hx : StandardCallees x) (hd : Distinct c self)
    (hinit : c.initialized = true) (hrec : w.receivers self = some c)
    (hrun : Steps (TxStep x self c.token) w tr w')
    (ho : ∀ t ∈ tr, t.act.fromOutside c self) : w'.receivers self = some c :=
  (books_run hx hd hinit hrec hrun ho).2.pinned

end

/-- What the run law says of one successful sweep of a receiver `c`. -/
structure SweepLaw (c : ChainXReceiver) (addr origin : Address) (r : SweepResult) (w w' : World) :
    Prop where
  /-- the amounts paid out are the fee schedule's split, and every balance and burn changed by
  exactly them -/
  effect : SweepEffect c addr origin (w.balances c.token addr) w w'
  result : r = SweepResult.split (w.balances c.token addr)
  drained : w'.balances c.token addr = 0
  callerShare : r.feeToCaller * 10 ≤ r.fee

theorem sweep_law {x : Callees} (hx : StandardCallees x) {w w' : World} {self origin : Address}
    {c : ChainXReceiver} {r : SweepResult} (hc : w.receivers self = some c)
    (hd : Distinct c self) (ho : Outsider c self origin)
    (h : sweep x w self origin = .ok (w', r)) : SweepLaw c self origin r w w' := by
  obtain ⟨rfl, heff⟩ := sweep_cases hx hc hd ho h
  refine ⟨heff, rfl, heff.receiver, ?_⟩
  have hshare := rates.callerCut_mul_denom_le (w.balances c.token self)
  change rates.callerCut _ * 10000 ≤ rates.fee _ * 1000 at hshare
  change rates.callerCut _ * 10 ≤ rates.fee _
  omega

/-- **Conservation over runs.**  From registration on, through any deposits and any sweeps: the
books balance, the fees stay below the fee of the total, and each sweep obeys `SweepLaw`. -/
theorem registered_run_conserves {x : Callees} (hx : StandardCallees x) {k : Create2}
    {f f' : ReceiverFactory} {w₀ w₁ w : World} {merchant self : Address}
    {chain recipient : Bytes32} {tr : List (Transition World Act)}
    (hreg : f.registerMerchant k w₀ merchant chain recipient = .ok (f', w₁, self))
    (hd : Distinct (f.pinned merchant chain recipient) self)
    (hrun : Steps (TxStep x self f.token) w₁ tr w)
    (ho : ∀ t ∈ tr, t.act.fromOutside (f.pinned merchant chain recipient) self) :
    let c := f.pinned merchant chain recipient
    let b := books c self w₁ tr
    b.received = b.settled + b.toTreasury + b.toCallers + w.balances f.token self ∧
      b.fees ≤ 50 * b.swept / 10000 ∧ b.swept + w.balances f.token self = b.received ∧
      w.receivers self = some c ∧
      ∀ t ∈ tr, ∀ origin r, t.act = .sweep origin r → SweepLaw c self origin r t.pre t.post := by
  intro c b
  obtain ⟨-, -, hrec, -, -⟩ := ReceiverFactory.registerMerchant_ok hreg
  obtain ⟨hcust, hpin, hheld⟩ := books_run hx hd rfl hrec hrun ho
  obtain ⟨hcons, hacc, hfee⟩ := (Custody.balanced_opened rates _).run hcust
  change b.held = w.balances f.token self at hheld
  refine ⟨hheld ▸ hcons, ?_, hheld ▸ hacc, hpin, ?_⟩
  · have hcomm : 50 * b.swept / 10000 = rates.fee b.swept := by
      rw [Nat.mul_comm]
      rfl
    rw [hcomm]
    exact hfee
  · rintro ⟨v, _, v'⟩ ht origin r rfl
    obtain ⟨hs, l, rest, rfl, hl, -⟩ := hrun.mem_split ht
    have hbefore : v.receivers self = some c :=
      receiver_pinned hx hd rfl hrec hl (fun u hu => ho u (List.mem_append_left _ hu))
    cases hs with
    | sweep h => exact sweep_law hx hbefore hd (ho _ ht) h

/-- A factory at address 50, for the token 1, the treasury 2 and the messenger 3. -/
def sampleFactory : ReceiverFactory where
  this := 50
  receiverImplementation := 49
  token := 1
  treasury := 2
  tokenMessenger := 3
  merchantReceiversMap := fun _ => []
  validDomains := fun name => name = bytes32Literal "BASE".toList
  destinationDomain := fun _ => 6

def sampleCreate2 : Create2 := ⟨fun _ => 0, fun _ _ _ => 9⟩

/-- The payer 7 holds 30_000 units. -/
def sampleWorld : World where
  balances := fun _ a => if a = 7 then 30000 else 0
  allowances := fun _ _ _ => 0
  burns := []
  receivers := fun _ => none
  events := []

set_option maxRecDepth 8000 in
/-- A cross-chain receiver of the merchant 4 at address 9, paid 10_000 by 7 and swept by 8. -/
theorem registered_run_conserves_cross_chain :
    let c := sampleFactory.pinned 4 (bytes32Literal "BASE".toList) 77
    ∃ w₁ tr w, Steps (TxStep ledgerCallees 9 1) w₁ tr w ∧
      tr.map Transition.act = [.deposit 7 10000, .sweep 8 ⟨9950, 5, 45, 50⟩] ∧
      w.burns = [⟨9, 1, 9950, 6, 77⟩] ∧
      (books c 9 w₁ tr).received = (books c 9 w₁ tr).settled + (books c 9 w₁ tr).toTreasury
        + (books c 9 w₁ tr).toCallers + w.balances 1 9 := by
  intro c
  obtain ⟨f', w₁, hreg, hw₁⟩ : ∃ f' w₁, sampleFactory.registerMerchant sampleCreate2 sampleWorld 4
      (bytes32Literal "BASE".toList) 77 = .ok (f', w₁, 9) ∧
      ∃ w₂, sweep ledgerCallees (w₁.transfer 1 7 9 10000) 9 8 = .ok (w₂, ⟨9950, 5, 45, 50⟩) ∧
        w₁.balances 1 7 = 30000 ∧ w₂.burns = [⟨9, 1, 9950, 6, 77⟩] :=
    ⟨_, _, rfl, _, rfl, rfl, rfl⟩
  obtain ⟨w₂, hsweep, hpayer, hburns⟩ := hw₁
  have hrun : Steps (TxStep ledgerCallees 9 1) w₁ _ w₂ :=
    .step (@TxStep.deposit _ _ _ _ 7 10000 (by decide) (by rw [hpayer]; decide))
      (.step (.sweep hsweep) (.refl w₂))
  have hcaller : Outsider c 9 8 := ⟨by decide, by decide, by decide, by decide⟩
  have h := registered_run_conserves standardCallees_ledger hreg
    ⟨by decide, by decide, by decide, by decide, by decide, by decide⟩ hrun
    (List.forall_mem_cons.mpr ⟨trivial, List.forall_mem_cons.mpr ⟨hcaller, List.forall_mem_nil _⟩⟩)
  exact ⟨w₁, _, w₂, hrun, rfl, hburns, h.1⟩

end Beanie.Evm
