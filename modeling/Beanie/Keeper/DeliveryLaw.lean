/-
# `Beanie.Keeper.DeliveryLaw` — when a delivery is tried again

The loop of `deliver_deposit` looks for a marker in the text of the error to see
whether the answer was a 4xx.  The text of a failed request is not the keeper's
own: it quotes the webhook's URL.  A failure whose text has the marker ends the
delivery as a 4xx does (`marked_failure_ends`); without one, the answers alone
decide (`delivery_law_iff`).
-/
import Beanie.Keeper.WebhookSignature

namespace Beanie.Keeper

/-! ## The law -/

/-- What an attempt comes to. -/
inductive Outcome
  /-- 2xx -/
  | accepted
  /-- 4xx -/
  | rejected
  | otherStatus
  /-- no answer -/
  | unanswered
deriving DecidableEq

def Response.kind : Response → Outcome
  | .failed _ => .unanswered
  | .status code =>
      if 200 ≤ code ∧ code < 300 then .accepted
      else if 400 ≤ code ∧ code < 500 then .rejected
      else .otherStatus

/-- There is nothing to try again. -/
def Outcome.Final (o : Outcome) : Prop := o = .accepted ∨ o = .rejected

/-- A delivery of at most `limit` attempts, by what they come to: whether it succeeds, and how many
attempts are made. -/
structure FollowsLaw (limit : Nat) (kinds : Nat → Outcome) (succeeds : Prop) (attempts : Nat) :
    Prop where
  succeeds_iff : succeeds ↔ ∃ i < limit, kinds i = .accepted ∧ ∀ j < i, kinds j ≠ .rejected
  /-- none after a 2xx or a 4xx -/
  ends : ∀ i, i + 1 < attempts → ¬ (kinds i).Final
  /-- and no other end but the limit -/
  goes_on : attempts = limit ∨ ∃ i, attempts = i + 1 ∧ (kinds i).Final
  bounded : attempts ≤ limit

/-- The law leaves nothing to the texts. -/
theorem FollowsLaw.unique {limit attempts attempts' : Nat} {kinds : Nat → Outcome}
    {succeeds succeeds' : Prop} (h : FollowsLaw limit kinds succeeds attempts)
    (h' : FollowsLaw limit kinds succeeds' attempts') :
    (succeeds ↔ succeeds') ∧ attempts = attempts' := by
  refine ⟨h.succeeds_iff.trans h'.succeeds_iff.symm, ?_⟩
  have hbound := h.bounded
  have hbound' := h'.bounded
  rcases Nat.lt_trichotomy attempts attempts' with hlt | heq | hgt
  · rcases h.goes_on with hall | ⟨i, hi, hfinal⟩
    · omega
    · exact absurd hfinal (h'.ends i (by omega))
  · exact heq
  · rcases h'.goes_on with hall | ⟨i, hi, hfinal⟩
    · omega
    · exact absurd hfinal (h.ends i (by omega))

/-- The text of a failed request, as the loop sees it, has the marker. -/
def Response.Marked : Response → Prop
  | .failed error => "TERMINAL_ERROR".toList <:+: "webhook HTTP request failed: ".toList ++ error
  | .status _ => False

/-- Before the last attempt, and before any 2xx or 4xx, no failure's text has the marker. -/
def Unmarked (limit : Nat) (answers : Nat → Response) : Prop :=
  ∀ i, i + 1 < limit → (∀ j < i, ¬ (answers j).kind.Final) → ¬ (answers i).Marked

theorem Response.Marked.not_final {r : Response} (h : r.Marked) : ¬ r.kind.Final := by
  cases r with
  | failed error =>
      rintro (hkind | hkind)
      · cases hkind
      · cases hkind
  | status code => exact absurd h id

/-! ## One attempt -/

/-- The loop goes on after this answer. -/
def Response.Retried (r : Response) : Prop := ¬ r.kind.Final ∧ ¬ r.Marked

/-- What the loop is given: the body can be written and signed, and a status is written without an
underscore. -/
structure Sends (n : Notifier) (webhook_url : Text) (deposit : Api.Deposit)
    (sweep_tx : Option Text) : Prop where
  request : ∀ timestamp, ∃ r, webhookRequest n webhook_url deposit sweep_tx timestamp = .ok r
  status : ∀ code, '_' ∉ n.show_status code

section
variable {n : Notifier} {webhook_url : Text} {deposit : Api.Deposit} {sweep_tx : Option Text}

/-- What the loop does with an answer. -/
inductive Answered (n : Notifier) (r : Response) : Except Text Unit → Prop
  | accepted (h : r.kind = .accepted) : Answered n r (.ok ())
  | ended {e : Text} (h : ¬ r.Retried) (hkind : r.kind ≠ .accepted)
      (hmark : "TERMINAL_ERROR".toList <:+: e) : Answered n r (.error e)
  | retried {e : Text} (h : r.Retried) (hmark : ¬ "TERMINAL_ERROR".toList <:+: e) :
      Answered n r (.error e)

theorem answered (hstatus : ∀ code, '_' ∉ n.show_status code) (r : Response) :
    Answered n r (r.outcome n) := by
  cases r with
  | failed error =>
      have hkind : (Response.failed error).kind = .unanswered := rfl
      by_cases hmarked : (Response.failed error).Marked
      · exact .ended (fun h => h.2 hmarked) (by rw [hkind]; decide) hmarked
      · refine .retried ⟨?_, hmarked⟩ hmarked
        rw [hkind]
        exact (by decide : ¬ (Outcome.unanswered = .accepted ∨ Outcome.unanswered = .rejected))
  | status code =>
      unfold Response.outcome
      dsimp only
      by_cases hsuccess : 200 ≤ code ∧ code < 300
      · rw [if_pos hsuccess]
        exact .accepted (if_pos hsuccess)
      · by_cases hclient : 400 ≤ code ∧ code < 500
        · have hkind : (Response.status code).kind = .rejected := by
            rw [Response.kind, if_neg hsuccess, if_pos hclient]
          rw [if_neg hsuccess, if_pos hclient]
          refine .ended (fun h => h.1 (.inr hkind)) (by rw [hkind]; decide) ?_
          rw [List.append_assoc]
          exact (show "TERMINAL_ERROR".toList <+: "TERMINAL_ERROR: HTTP ".toList from
            ⟨": HTTP ".toList, rfl⟩).isInfix.trans (List.prefix_append _ _).isInfix
        · have hkind : (Response.status code).kind = .otherStatus := by
            rw [Response.kind, if_neg hsuccess, if_neg hclient]
          rw [if_neg hsuccess, if_neg hclient]
          refine .retried ⟨?_, fun h => h⟩ ?_
          · rw [hkind]
            exact (by decide : ¬ (Outcome.otherStatus = .accepted ∨ Outcome.otherStatus = .rejected))
          · intro hmark
            have hmem := hmark.subset (show '_' ∈ "TERMINAL_ERROR".toList by decide)
            rcases List.mem_append.mp hmem with h | h
            · exact absurd h (by decide)
            · exact hstatus code h

/-! ## The run -/

/-- One attempt is the last of its own accord, or is followed by another, or was the last allowed. -/
theorem deliverFrom_step (hs : Sends n webhook_url deposit sweep_tx) (left : Nat)
    (world : Nat → Attempt) :
    (∃ request result, deliverFrom n webhook_url deposit sweep_tx left world = ([request], result) ∧
        ¬ (world 0).response.Retried ∧
        ((∃ u, result = .ok u) ↔ (world 0).response.kind = .accepted)) ∨
      (∃ left', left = left' + 1 ∧ (world 0).response.Retried ∧
        ∃ request, deliverFrom n webhook_url deposit sweep_tx left world
          = (request :: (deliverFrom n webhook_url deposit sweep_tx left' fun i => world (i + 1)).1,
            (deliverFrom n webhook_url deposit sweep_tx left' fun i => world (i + 1)).2)) ∨
      left = 0 ∧ (world 0).response.Retried ∧
        ∃ request e, deliverFrom n webhook_url deposit sweep_tx left world = ([request], .error e) := by
  obtain ⟨request, hrequest⟩ := hs.request (world 0).now
  have hattempt : sendWebhookOnce n webhook_url deposit sweep_tx (world 0)
      = ([request], (world 0).response.outcome n) := by
    rw [sendWebhookOnce, hrequest]
  have hanswered := answered hs.status (world 0).response
  rw [deliverFrom.eq_def]
  dsimp only
  rw [hattempt]
  dsimp only
  generalize (world 0).response.outcome n = outcome at hanswered
  cases hanswered with
  | accepted h =>
      exact .inl ⟨request, .ok (), rfl, fun hr => hr.1 (.inl h), fun _ => h, fun _ => ⟨(), rfl⟩⟩
  | @ended e h hkind hmark =>
      refine .inl ⟨request, .error e, ?_, h, ?_⟩
      · dsimp only
        rw [if_pos hmark]
      · constructor
        · rintro ⟨u, hu⟩
          cases hu
        · exact fun hk => absurd hk hkind
  | retried h hmark =>
      dsimp only
      rw [if_neg hmark]
      cases left with
      | zero => exact .inr (.inr ⟨rfl, h, request, _, rfl⟩)
      | succ left => exact .inr (.inl ⟨left, rfl, h, request, rfl⟩)

/-- The loop ends at the first answer after which it does not go on, or at the limit. -/
theorem deliverFrom_run (hs : Sends n webhook_url deposit sweep_tx) (left : Nat)
    (world : Nat → Attempt) :
    ∃ m ≤ left, (deliverFrom n webhook_url deposit sweep_tx left world).1.length = m + 1 ∧
      (∀ j < m, (world j).response.Retried) ∧ (m = left ∨ ¬ (world m).response.Retried) ∧
      ((∃ u, (deliverFrom n webhook_url deposit sweep_tx left world).2 = .ok u) ↔
        (world m).response.kind = .accepted) := by
  induction left generalizing world with
  | zero =>
      rcases deliverFrom_step hs 0 world with ⟨request, e, hrun, hend, hkind⟩ | ⟨_, hleft, -⟩ | hlast
      · exact ⟨0, le_rfl, by rw [hrun]; rfl, fun j hj => absurd hj (Nat.not_lt_zero j), .inr hend,
          by rw [hrun]; exact hkind⟩
      · cases hleft
      · obtain ⟨-, hretried, request, e, hrun⟩ := hlast
        refine ⟨0, le_rfl, by rw [hrun]; rfl, fun j hj => absurd hj (Nat.not_lt_zero j), .inl rfl, ?_⟩
        rw [hrun]
        constructor
        · rintro ⟨u, hu⟩
          cases hu
        · exact fun hk => absurd (.inl hk) hretried.1
  | succ left ih =>
      rcases deliverFrom_step hs (left + 1) world with
        ⟨request, e, hrun, hend, hkind⟩ | ⟨left', hleft, hretried, request, hrun⟩ | ⟨hleft, -⟩
      · exact ⟨0, Nat.zero_le _, by rw [hrun]; rfl, fun j hj => absurd hj (Nat.not_lt_zero j),
          .inr hend, by rw [hrun]; exact hkind⟩
      · obtain rfl := Nat.succ.inj hleft
        obtain ⟨m, hm, hlength, hbefore, hend, hok⟩ := ih fun i => world (i + 1)
        rw [hrun]
        refine ⟨m + 1, by omega, congrArg (· + 1) hlength, ?_, hend.imp (by omega) id, hok⟩
        intro j hj
        cases j with
        | zero => exact hretried
        | succ j => exact hbefore j (by omega)
      · cases hleft

variable (n webhook_url deposit sweep_tx) in
/-- A delivery does as the law says. -/
def Lawful (max_retries : BitVec 32) (world : Nat → Attempt) : Prop :=
  FollowsLaw (max 1 max_retries.toNat) (fun i => (world i).response.kind)
    (∃ u, (deliverDeposit n webhook_url deposit sweep_tx max_retries world).2 = .ok u)
    (deliverDeposit n webhook_url deposit sweep_tx max_retries world).1.length

/-- A failure whose text has the marker is the last attempt. -/
theorem marked_failure_ends (hs : Sends n webhook_url deposit sweep_tx) {max_retries : BitVec 32}
    {world : Nat → Attempt} {i : Nat} (hmarked : (world i).response.Marked) :
    (deliverDeposit n webhook_url deposit sweep_tx max_retries world).1.length ≤ i + 1 := by
  obtain ⟨m, -, hlength, hbefore, -⟩ := deliverFrom_run hs (max_retries.toNat - 1) world
  rw [deliverDeposit, hlength]
  have hle : m ≤ i := Nat.le_of_not_lt fun hlt => (hbefore i hlt).2 hmarked
  omega

/-- **The retry law.**  A delivery succeeds just if there is a 2xx within the limit and no 4xx before
it, and ends at the first of either, as long as no failure whose text has the marker comes before the
last attempt; and only then. -/
theorem delivery_law_iff (hs : Sends n webhook_url deposit sweep_tx) (max_retries : BitVec 32)
    (world : Nat → Attempt) :
    Lawful n webhook_url deposit sweep_tx max_retries world ↔
      Unmarked (max 1 max_retries.toNat) fun i => (world i).response := by
  obtain ⟨m, hm, hlength, hbefore, hend, hok⟩ := deliverFrom_run hs (max_retries.toNat - 1) world
  have hlimit : max 1 max_retries.toNat = max_retries.toNat - 1 + 1 := by omega
  constructor
  · intro hlaw i hi hopen hmarked
    have hle : m ≤ i := Nat.le_of_not_lt fun hlt => (hbefore i hlt).2 hmarked
    have hgoes := hlaw.goes_on
    rw [deliverDeposit, hlength] at hgoes
    rcases hgoes with hall | ⟨k, hk, hfinal⟩
    · omega
    · obtain rfl : m = k := by omega
      rcases Nat.lt_or_eq_of_le hle with hlt | rfl
      · exact hopen m hlt hfinal
      · exact hmarked.not_final hfinal
  · intro hunmarked
    have hfinal : m < max_retries.toNat - 1 → (world m).response.kind.Final := by
      intro hlt
      have hstop := hend.resolve_left (by omega)
      have hplain := hunmarked m (by omega) fun j hj => (hbefore j hj).1
      by_contra hopen
      exact hstop ⟨hopen, hplain⟩
    refine ⟨?_, ?_, ?_, ?_⟩
    · refine hok.trans ⟨?_, ?_⟩
      · intro haccepted
        exact ⟨m, by omega, haccepted, fun j hj hrejected => (hbefore j hj).1 (.inr hrejected)⟩
      · rintro ⟨i, hi, haccepted, hnone⟩
        rcases Nat.lt_trichotomy i m with hlt | rfl | hgt
        · exact absurd (.inl haccepted) (hbefore i hlt).1
        · exact haccepted
        · exact (hfinal (by omega)).resolve_right (hnone m hgt)
    · intro i hi
      rw [deliverDeposit, hlength] at hi
      exact (hbefore i (by omega)).1
    · rw [deliverDeposit, hlength]
      by_cases hlast : m = max_retries.toNat - 1
      · exact .inl (by omega)
      · exact .inr ⟨m, rfl, hfinal (by omega)⟩
    · rw [deliverDeposit, hlength]
      omega

end

/-! ## A URL with the marker in it -/

namespace RetrySample

/-- `StatusCode`'s `Display`. -/
def showStatus (code : Nat) : Text :=
  Nat.toDigits 10 code
    ++ (if code = 200 then " OK" else if code = 503 then " Service Unavailable"
        else " <unknown status code>").toList

def notifier : Notifier where
  chain_name := "base".toList
  token_address := "0x4".toList
  keeper_address := "0x5".toList
  signature_scheme := "eip191".toList
  to_json body := some body.json.text
  sign_payload _ := some "0x6".toList
  show_status := showStatus

def deposit : Api.Deposit := ⟨"base".toList, "0x1".toList, "0x2".toList, "0x3".toList, "10".toList, 7⟩

def markedUrl : Text := "https://shop.example/TERMINAL_ERROR".toList
def plainUrl : Text := "https://shop.example/webhook".toList

/-- The connection is refused, and then the request is accepted. -/
def world (url : Text) (i : Nat) : Attempt where
  now := 1700000000
  response :=
    if i = 0 then .failed ("error sending request for url (".toList ++ url ++ ")".toList)
    else .status 200

theorem underscore_not_mem_showStatus (code : Nat) : '_' ∉ showStatus code := by
  intro h
  rcases List.mem_append.mp h with h | h
  · have hdigit := Nat.isDigit_of_mem_toDigits (by decide) (by decide) h
    exact absurd hdigit (by decide)
  · split at h
    · exact absurd h (by decide)
    · split at h
      · exact absurd h (by decide)
      · exact absurd h (by decide)

theorem sends (url : Text) : Sends notifier url deposit none :=
  ⟨fun _ => ⟨_, rfl⟩, underscore_not_mem_showStatus⟩

end RetrySample

open RetrySample in
/-- The same answers, at two URLs: the one is delivered to, the other is given up after one attempt. -/
theorem marked_url_given_up :
    (deliverDeposit notifier plainUrl deposit none 3 (world plainUrl)).2 = .ok () ∧
      (deliverDeposit notifier markedUrl deposit none 3 (world markedUrl)).2 ≠ .ok () ∧
      (∀ i, (world markedUrl i).response.kind = (world plainUrl i).response.kind) ∧
      ¬ Lawful notifier markedUrl deposit none 3 (world markedUrl) := by
  have hfails : (deliverDeposit notifier markedUrl deposit none 3 (world markedUrl)).2 ≠ .ok () := by
    decide +kernel
  refine ⟨by decide +kernel, hfails, ?_, ?_⟩
  · intro i
    by_cases hi : i = 0
    · rw [hi]
      rfl
    · simp only [world, if_neg hi]
  · intro hlaw
    obtain ⟨u, hu⟩ := hlaw.succeeds_iff.mpr ⟨1, by decide, by decide, by decide⟩
    exact hfails hu

open RetrySample in
theorem delivery_law_iff_sample :
    Lawful notifier plainUrl deposit none 3 (world plainUrl) := by
  refine (delivery_law_iff (sends plainUrl) 3 (world plainUrl)).mpr ?_
  intro i hi hopen
  by_cases hzero : i = 0
  · subst hzero
    show ¬ "TERMINAL_ERROR".toList <:+: _
    decide +kernel
  · simp only [world, if_neg hzero]
    exact id

end Beanie.Keeper
