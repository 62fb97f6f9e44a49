/-
# `Beanie.Evm.WebhookRegistry` — one URL a merchant

`WebhookRegistry.sol`, next to the factory it asks.  The guard looks at the
`merchant` argument and the write goes to `msg.sender`: nobody writes another
address's URL, but whoever calls for a registered merchant gets a URL of his
own, registered or not (`webhook_integrity_iff`).
-/
import Beanie.Evm.FactoryRun

namespace Beanie.Evm

/-! ## The contract -/

inductive WebhookError
  | emptyUrl
  | notRegistered
deriving DecidableEq

/-- `WebhookUrlSet`. -/
structure WebhookUrlSet where
  merchant : Address
  url : Bytes
deriving DecidableEq

/-- Its storage, and what it has emitted. -/
structure WebhookRegistry where
  factory : Address
  webhookUrl : Address → Bytes
  events : List WebhookUrlSet

namespace WebhookRegistry

/-- The constructor. -/
def construct (factory : Address) : WebhookRegistry := ⟨factory, fun _ => [], []⟩

/-- The write and the event. -/
def write (r : WebhookRegistry) (merchant : Address) (url : Bytes) : WebhookRegistry :=
  { r with
    webhookUrl := Function.update r.webhookUrl merchant url
    events := r.events ++ [⟨merchant, url⟩] }

/-- `setWebhookUrl`, called by `sender`. -/
def setWebhookUrl (r : WebhookRegistry) (f : ReceiverFactory) (sender merchant : Address)
    (url : Bytes) : Except WebhookError WebhookRegistry := do
  require (f.getReceiverCount merchant ≠ 0) .notRegistered
  .ok (r.write sender url)

/-- The spec of `setWebhookUrl`: the argument is guarded, the sender is written. -/
theorem setWebhookUrl_ok {r r' : WebhookRegistry} {f : ReceiverFactory} {sender merchant : Address}
    {url : Bytes} :
    r.setWebhookUrl f sender merchant url = .ok r' ↔
      f.getReceiverCount merchant ≠ 0 ∧ r' = r.write sender url := by
  unfold setWebhookUrl
  rw [bind_ok]
  constructor
  · rintro ⟨_, hguard, h⟩
    exact ⟨require_ok.mp hguard, (Except.ok.inj h).symm⟩
  · rintro ⟨hguard, rfl⟩
    exact ⟨(), require_ok.mpr hguard, rfl⟩

end WebhookRegistry

/-! ## Runs of the two contracts -/

/-- The registry and the factory it was constructed with. -/
structure Registries where
  deployment : Deployment
  webhooks : WebhookRegistry

inductive RegistriesAct
  | factory (a : FactoryAct)
  | setWebhookUrl (sender merchant : Address) (url : Bytes)

/-- One call, of either contract: by anyone, with any arguments. -/
inductive RegistriesStep (k : Create2) : Registries → RegistriesAct → Registries → Prop
  | factory {d d' : Deployment} {r : WebhookRegistry} {a : FactoryAct} (h : FactoryStep k d a d') :
      RegistriesStep k ⟨d, r⟩ (.factory a) ⟨d', r⟩
  | set {d : Deployment} {r r' : WebhookRegistry} {sender merchant : Address} {url : Bytes}
      (h : r.setWebhookUrl d.factory sender merchant url = .ok r') :
      RegistriesStep k ⟨d, r⟩ (.setWebhookUrl sender merchant url) ⟨d, r'⟩
  | setReverts {d : Deployment} {r : WebhookRegistry} {sender merchant : Address} {url : Bytes}
      {e : WebhookError} (h : r.setWebhookUrl d.factory sender merchant url = .error e) :
      RegistriesStep k ⟨d, r⟩ (.setWebhookUrl sender merchant url) ⟨d, r⟩

/-- How many receivers `x` has registered. -/
def Registries.count (s : Registries) (x : Address) : Nat := s.deployment.factory.getReceiverCount x

/-- Whoever has a URL has a receiver. -/
def Registries.Registered (s : Registries) : Prop :=
  ∀ x, s.webhooks.webhookUrl x ≠ [] → 0 < s.count x

/-- A URL was written by its owner. -/
def WrittenByOwner (t : Transition Registries RegistriesAct) : Prop :=
  ∀ x, t.post.webhooks.webhookUrl x ≠ t.pre.webhooks.webhookUrl x →
    ∃ merchant url, t.act = .setWebhookUrl x merchant url

/-- A call that the guard lets through, with a URL in it, is a registered merchant's own. -/
def SenderRegistered (t : Transition Registries RegistriesAct) : Prop :=
  ∀ sender merchant url, t.act = .setWebhookUrl sender merchant url →
    t.pre.count merchant ≠ 0 → url ≠ [] → 0 < t.pre.count sender

section
variable {k : Create2} {s s' : Registries} {a : RegistriesAct}

/-- Receivers are only ever added. -/
theorem FactoryStep.count_le {d d' : Deployment} {a : FactoryAct} (h : FactoryStep k d a d')
    (x : Address) : d.factory.getReceiverCount x ≤ d'.factory.getReceiverCount x := by
  cases h with
  | announced _ => exact le_rfl
  | announceReverts _ => exact le_rfl
  | @registered f f' w w' r receiver h =>
      obtain ⟨-, hreg⟩ := ReceiverFactory.registers_of_ok h
      rw [hreg.factory]
      show (f.merchantReceiversMap x).length
        ≤ (Function.update f.merchantReceiversMap r.merchant _ x).length
      by_cases hx : x = r.merchant
      · rw [hx, Function.update_self, List.length_append]
        exact Nat.le_add_right _ _
      · rw [Function.update_of_ne hx]
  | registerReverts _ => exact le_rfl
  | initialized _ => exact le_rfl
  | initializeReverts _ => exact le_rfl
  | elsewhere _ => exact le_rfl

theorem RegistriesStep.writtenByOwner (h : RegistriesStep k s a s') :
    WrittenByOwner ⟨s, a, s'⟩ := by
  intro x hne
  cases h with
  | factory _ => exact absurd rfl hne
  | @set d r r' sender merchant url h =>
      obtain ⟨-, rfl⟩ := WebhookRegistry.setWebhookUrl_ok.mp h
      by_cases hx : x = sender
      · exact ⟨merchant, url, by rw [hx]⟩
      · refine absurd ?_ hne
        exact Function.update_of_ne hx url r.webhookUrl
  | setReverts _ => exact absurd rfl hne

/-- **The step lemma.** -/
theorem RegistriesStep.registered_iff (h : RegistriesStep k s a s') (hs : s.Registered) :
    s'.Registered ↔ SenderRegistered ⟨s, a, s'⟩ := by
  cases h with
  | factory h =>
      refine iff_of_true ?_ ?_
      · intro x hx
        exact (hs x hx).trans_le (h.count_le x)
      · intro sender merchant url hact
        cases hact
  | @set d r r' sender merchant url h =>
      obtain ⟨hguard, rfl⟩ := WebhookRegistry.setWebhookUrl_ok.mp h
      constructor
      · intro hpost _ _ _ hact _ hurl
        cases hact
        refine hpost sender ?_
        show Function.update r.webhookUrl sender url sender ≠ []
        rw [Function.update_self]
        exact hurl
      · intro hsender x hx
        by_cases hxs : x = sender
        · subst hxs
          change Function.update r.webhookUrl x url x ≠ [] at hx
          rw [Function.update_self] at hx
          exact hsender x merchant url rfl hguard hx
        · change Function.update r.webhookUrl sender url x ≠ [] at hx
          rw [Function.update_of_ne hxs] at hx
          exact hs x hx
  | @setReverts d r sender merchant url e h =>
      refine iff_of_true hs ?_
      intro _ _ _ hact hguard
      cases hact
      -- a call that reverts was not let through
      have hok : r.setWebhookUrl d.factory sender merchant url = .ok (r.write sender url) :=
        WebhookRegistry.setWebhookUrl_ok.mpr ⟨hguard, rfl⟩
      rw [h] at hok
      cases hok

end

/-- **Webhook registry integrity.**  From the registry's construction on, over any sequence of calls:
every URL is written by its owner, and every owner of a URL has a registered receiver, if and only
if nobody without a receiver of his own calls for a registered merchant. -/
theorem webhook_integrity_iff {k : Create2} {d : Deployment} {factory : Address} {s : Registries}
    {tr : List (Transition Registries RegistriesAct)}
    (hrun : Steps (RegistriesStep k) ⟨d, .construct factory⟩ tr s) :
    (∀ t ∈ tr, t.post.Registered ∧ WrittenByOwner t) ↔ ∀ t ∈ tr, SenderRegistered t := by
  have hregistered := hrun.invariant_iff (I := Registries.Registered) (J := fun _ => True)
    (P := SenderRegistered) (fun _ _ _ _ _ => trivial) (fun _ _ _ h _ hs => h.registered_iff hs)
    trivial (fun _ hx => absurd rfl hx)
  rw [← hregistered]
  constructor
  · intro h t ht
    exact (h t ht).1
  · intro h t ht
    exact ⟨h t ht, (hrun.mem_split ht).1.writtenByOwner⟩

namespace WebhookSample

open FactorySample (create2 factory home merchant)

def url : Bytes := "https://shop".toList.map fun c => UInt8.ofNat c.toNat

def stranger : Address := 0xb2

/-- The factory once the merchant's first receiver is registered. -/
def registered : ReceiverFactory :=
  factory.push merchant 0xdf53af065055632633913ff8c217a005d10d8808

/-- The registry once `sender` has called for the merchant. -/
def called (sender : Address) : WebhookRegistry := (WebhookRegistry.construct 0xf0).write sender url

/-- The merchant's receiver is registered, then `sender` calls for the merchant. -/
def trace (w : World) (sender : Address) : List (Transition Registries RegistriesAct) :=
  [⟨⟨⟨factory, sampleWorld⟩, .construct 0xf0⟩,
    .factory (.registered home 0xdf53af065055632633913ff8c217a005d10d8808),
    ⟨⟨registered, w⟩, .construct 0xf0⟩⟩,
   ⟨⟨⟨registered, w⟩, .construct 0xf0⟩, .setWebhookUrl sender merchant url,
    ⟨⟨registered, w⟩, called sender⟩⟩]

theorem registered_count : registered.getReceiverCount merchant = 1 := by decide

theorem runs (sender : Address) : ∃ w, Steps (RegistriesStep create2)
    ⟨⟨factory, sampleWorld⟩, .construct 0xf0⟩ (trace w sender) ⟨⟨registered, w⟩, called sender⟩ := by
  obtain ⟨w, hregister⟩ : ∃ w, factory.registerMerchant create2 sampleWorld merchant 0 0
      = .ok (registered, w, 0xdf53af065055632633913ff8c217a005d10d8808) := ⟨_, rfl⟩
  refine ⟨w, .step (.factory (.registered (r := home) hregister)) (.step (.set ?_) (.refl _))⟩
  refine WebhookRegistry.setWebhookUrl_ok.mpr ⟨?_, rfl⟩
  show registered.getReceiverCount merchant ≠ 0
  rw [registered_count]
  exact Nat.one_ne_zero

end WebhookSample

open FactorySample WebhookSample in
/-- The merchant calls for itself. -/
theorem webhook_integrity_own : ∃ w,
    Steps (RegistriesStep create2) ⟨⟨factory, sampleWorld⟩, .construct 0xf0⟩ (trace w merchant)
      ⟨⟨registered, w⟩, called merchant⟩ ∧
    ∀ t ∈ trace w merchant, t.post.Registered ∧ WrittenByOwner t := by
  obtain ⟨w, hrun⟩ := runs merchant
  refine ⟨w, hrun, (webhook_integrity_iff hrun).mpr ?_⟩
  intro t ht sender m u hact _ _
  rcases List.mem_cons.mp ht with rfl | ht
  · cases hact
  · obtain rfl := List.mem_singleton.mp ht
    cases hact
    show 0 < registered.getReceiverCount merchant
    rw [registered_count]
    exact Nat.one_pos

open FactorySample WebhookSample in
/-- A stranger calls for the merchant: he has a URL, and no receiver. -/
theorem webhook_of_stranger : ∃ w,
    Steps (RegistriesStep create2) ⟨⟨factory, sampleWorld⟩, .construct 0xf0⟩ (trace w stranger)
      ⟨⟨registered, w⟩, called stranger⟩ ∧
    (called stranger).webhookUrl stranger ≠ [] ∧ registered.getReceiverCount stranger = 0 := by
  obtain ⟨w, hrun⟩ := runs stranger
  exact ⟨w, hrun, by decide, by decide⟩

end Beanie.Evm
