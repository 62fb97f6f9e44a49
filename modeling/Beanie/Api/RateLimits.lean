/-
# `Beanie.Api.RateLimits` — how many calls the limiter lets through

Runs of `RateLimiter::check`, for calls that come in order of time.  The three
maps of the limiter are one map of buckets by key, and a call is charged to its
three keys in turn until one of them has no room (`check_eq`).  Each bucket is a
counter of fixed windows, so its limit holds in a window and twice its limit in
any interval of one window's length (`rate_limiter_bounds`).
-/
import Beanie.Api.RateLimiter
import Beanie.Lib.FixedWindow
import Beanie.Lib.Run

namespace Beanie.Api

/-! ## One map of buckets -/

/-- What a bucket is kept for. -/
inductive BucketKey
  | ip (ip : IpAddr)
  | credential (key : Text)
  | address (key : Text)
deriving DecidableEq

namespace RateLimiter

def bucket (l : RateLimiter) : BucketKey → Option Bucket
  | .ip ip => l.ip_hits ip
  | .credential key => l.credential_hits key
  | .address key => l.address_hits key

def limit (l : RateLimiter) : BucketKey → Nat
  | .ip _ => l.ip_limit
  | .credential _ => l.credential_limit
  | .address _ => l.address_limit

def chargeKey (l : RateLimiter) (now : Nat) : BucketKey → RateLimiter × Bool
  | .ip ip => l.chargeIp now ip
  | .credential key => l.chargeCredential now key
  | .address key => l.chargeAddress now key

/-- The keys charged in turn, until one has no room; and how many had. -/
def chargeAll (now : Nat) : List BucketKey → RateLimiter → RateLimiter × Nat
  | [], l => (l, 0)
  | key :: keys, l =>
      let (charged, ok) := l.chargeKey now key
      if ok then
        let (charged, passed) := chargeAll now keys charged
        (charged, passed + 1)
      else (charged, 0)

end RateLimiter

/-- A call of `check`, and when it comes. -/
structure CheckCall where
  now : Nat
  ip : IpAddr
  derived_address : Text
  credential_id : Text

/-- The answer to a call that so many buckets had room for. -/
def objection : Nat → Option String
  | 0 => some "IP rate limit exceeded, try again later"
  | 1 => some "Passkey credential rate limit exceeded"
  | 2 => some "Target address execution limit exceeded"
  | _ => none

def bucketsPassed : Option String → Nat
  | none => 3
  | some message => if some message = objection 0 then 0 else if some message = objection 1 then 1
    else 2

section
variable (to_lowercase : Text → Text)

def CheckCall.keys (c : CheckCall) : List BucketKey :=
  [.ip c.ip, .credential (to_lowercase c.credential_id), .address (to_lowercase c.derived_address)]

def RateLimiter.call (l : RateLimiter) (c : CheckCall) : RateLimiter × Option String :=
  l.check to_lowercase c.now c.ip c.derived_address c.credential_id

/-- The limiter, and the time of the last call. -/
structure Limited where
  limiter : RateLimiter
  clock : Nat

/-- A call, no earlier than the one before it. -/
inductive Checked : Limited → CheckCall → Limited → Prop
  | check {l : RateLimiter} {clock : Nat} {c : CheckCall} (h : clock ≤ c.now) :
      Checked ⟨l, clock⟩ c ⟨(l.call to_lowercase c).1, c.now⟩

def answer (t : Transition Limited CheckCall) : Option String :=
  (t.pre.limiter.call to_lowercase t.act).2

/-- The keys whose buckets took the call: those asked before the one that objected. -/
def charged (t : Transition Limited CheckCall) : List BucketKey :=
  (t.act.keys to_lowercase).take (bucketsPassed (answer to_lowercase t))

/-- When the window of a key's bucket began, as the call left it. -/
def windowStart (key : BucketKey) (t : Transition Limited CheckCall) : Option Nat :=
  (t.post.limiter.bucket key).map Bucket.start

/-- A call as a hit of a key's bucket. -/
def hitOf (key : BucketKey) (t : Transition Limited CheckCall) : Option Hit :=
  if key ∈ charged to_lowercase t then
    (windowStart key t).map fun start => ⟨start, t.act.now⟩
  else none

end

section
variable {to_lowercase : Text → Text} {l : RateLimiter} {now : Nat} {keys : List BucketKey}

theorem bucketsPassed_objection {n : Nat} (h : n ≤ 3)  : bucketsPassed (objection n) = n := by
  interval_cases n <;> decide

theorem objection_inj {m n : Nat} (hm : m ≤ 3) (hn : n ≤ 3) (h : objection m = objection n) :
    m = n := by
  rw [← bucketsPassed_objection hm, ← bucketsPassed_objection hn, h]

/-! ## One charge -/

namespace RateLimiter

theorem chargeKey_ok (key : BucketKey) :
    (l.chargeKey now key).2 = (Bucket.charge l.window (l.limit key) now (l.bucket key)).2 := by
  cases key <;> rfl

theorem chargeKey_self (key : BucketKey) :
    (l.chargeKey now key).1.bucket key
      = some (Bucket.charge l.window (l.limit key) now (l.bucket key)).1 := by
  cases key <;> exact Function.update_self _ _ _

theorem chargeKey_of_ne {key other : BucketKey} (h : other ≠ key) :
    (l.chargeKey now key).1.bucket other = l.bucket other := by
  cases key <;> cases other <;>
    first
    | rfl
    | exact Function.update_of_ne (fun heq => h (congrArg _ heq)) _ _

@[simp] theorem chargeKey_window (key : BucketKey) :
    (l.chargeKey now key).1.window = l.window := by cases key <;> rfl

@[simp] theorem chargeKey_limit (key : BucketKey) :
    (l.chargeKey now key).1.limit = l.limit := by
  funext other
  cases key <;> cases other <;> rfl

/-! ## The charges of a call -/

theorem chargeAll_cons_of_ok {key : BucketKey} (h : (l.chargeKey now key).2 = true) :
    l.chargeAll now (key :: keys)
      = (((l.chargeKey now key).1.chargeAll now keys).1,
        ((l.chargeKey now key).1.chargeAll now keys).2 + 1) := by
  rw [chargeAll]
  simp only [h, if_true]

theorem chargeAll_cons_of_full {key : BucketKey} (h : (l.chargeKey now key).2 = false) :
    l.chargeAll now (key :: keys) = ((l.chargeKey now key).1, 0) := by
  rw [chargeAll]
  simp only [h, Bool.false_eq_true, if_false]

theorem chargeAll_window : (l.chargeAll now keys).1.window = l.window := by
  induction keys generalizing l with
  | nil => rfl
  | cons key keys ih =>
      cases h : (l.chargeKey now key).2 with
      | false => rw [chargeAll_cons_of_full h, chargeKey_window]
      | true => rw [chargeAll_cons_of_ok h, ih, chargeKey_window]

theorem chargeAll_limit : (l.chargeAll now keys).1.limit = l.limit := by
  induction keys generalizing l with
  | nil => rfl
  | cons key keys ih =>
      cases h : (l.chargeKey now key).2 with
      | false => rw [chargeAll_cons_of_full h, chargeKey_limit]
      | true => rw [chargeAll_cons_of_ok h, ih, chargeKey_limit]

theorem chargeAll_passed_le : (l.chargeAll now keys).2 ≤ keys.length := by
  induction keys generalizing l with
  | nil => exact Nat.le_refl _
  | cons key keys ih =>
      cases h : (l.chargeKey now key).2 with
      | false =>
          rw [chargeAll_cons_of_full h]
          exact Nat.zero_le _
      | true =>
          rw [chargeAll_cons_of_ok h]
          exact Nat.succ_le_succ ih

/-- Only the keys that had room and the next one are touched. -/
theorem chargeAll_untouched {key : BucketKey}
    (h : key ∉ keys.take ((l.chargeAll now keys).2 + 1)) :
    (l.chargeAll now keys).1.bucket key = l.bucket key := by
  induction keys generalizing l with
  | nil => rfl
  | cons k keys ih =>
      have hne : key ≠ k := fun heq => h (by rw [heq]; exact List.mem_cons_self)
      cases hok : (l.chargeKey now k).2 with
      | false => rw [chargeAll_cons_of_full hok, chargeKey_of_ne hne]
      | true =>
          rw [chargeAll_cons_of_ok hok] at h ⊢
          have hrest := ih (l := (l.chargeKey now k).1)
            fun hmem => h (List.mem_cons_of_mem _ hmem)
          rw [hrest, chargeKey_of_ne hne]

/-- The key asked last had no room. -/
theorem chargeAll_full {n : Nat} {key : BucketKey} (hnodup : keys.Nodup)
    (hn : (l.chargeAll now keys).2 = n) (hkey : keys[n]? = some key) :
    (Bucket.charge l.window (l.limit key) now (l.bucket key)).2 = false := by
  induction keys generalizing l n with
  | nil => cases hkey
  | cons k keys ih =>
      cases hok : (l.chargeKey now k).2 with
      | false =>
          rw [chargeAll_cons_of_full hok] at hn
          subst hn
          obtain rfl := Option.some.inj hkey
          rw [← chargeKey_ok, hok]
      | true =>
          rw [chargeAll_cons_of_ok hok] at hn
          subst hn
          obtain ⟨hk, hnodup⟩ := List.nodup_cons.mp hnodup
          rw [List.getElem?_cons_succ] at hkey
          have hne : key ≠ k := fun heq => hk (heq ▸ List.mem_of_getElem? hkey)
          have hrest := ih hnodup rfl hkey
          rwa [chargeKey_window, chargeKey_limit, chargeKey_of_ne hne] at hrest

/-- A key is charged once or left alone. -/
theorem chargeAll_key (hnodup : keys.Nodup) (key : BucketKey) :
    (key ∉ keys.take (l.chargeAll now keys).2 ∧
      (l.chargeAll now keys).1.bucket key = l.bucket key) ∨
    ((l.chargeAll now keys).1.bucket key
        = some (Bucket.charge l.window (l.limit key) now (l.bucket key)).1 ∧
      (key ∈ keys.take (l.chargeAll now keys).2 ↔
        (Bucket.charge l.window (l.limit key) now (l.bucket key)).2 = true)) := by
  induction keys generalizing l with
  | nil => exact .inl ⟨List.not_mem_nil, rfl⟩
  | cons k keys ih =>
      obtain ⟨hk, hnodup⟩ := List.nodup_cons.mp hnodup
      by_cases heq : key = k
      · subst heq
        refine .inr ?_
        rw [← chargeKey_ok]
        cases hok : (l.chargeKey now key).2 with
        | false =>
            rw [chargeAll_cons_of_full hok, chargeKey_self]
            simp
        | true =>
            rw [chargeAll_cons_of_ok hok, chargeAll_untouched, chargeKey_self]
            · simp
            · exact fun hmem => hk (List.mem_of_mem_take hmem)
      · cases hok : (l.chargeKey now k).2 with
        | false =>
            rw [chargeAll_cons_of_full hok, chargeKey_of_ne heq]
            exact .inl ⟨List.not_mem_nil, rfl⟩
        | true =>
            have hrest := ih (l := (l.chargeKey now k).1) hnodup
            rw [chargeKey_window, chargeKey_limit, chargeKey_of_ne heq] at hrest
            rw [chargeAll_cons_of_ok hok, List.take_succ_cons, List.mem_cons]
            simpa [heq] using hrest

/-- `check` charges the call's keys in turn, and answers with the first that had no room. -/
theorem call_eq (c : CheckCall) :
    l.call to_lowercase c
      = ((l.chargeAll c.now (c.keys to_lowercase)).1,
        objection (l.chargeAll c.now (c.keys to_lowercase)).2) := by
  rcases hip : l.chargeIp c.now c.ip with ⟨l₁, ok₁⟩
  rcases hcredential : l₁.chargeCredential c.now (to_lowercase c.credential_id) with ⟨l₂, ok₂⟩
  rcases haddress : l₂.chargeAddress c.now (to_lowercase c.derived_address) with ⟨l₃, ok₃⟩
  simp only [call, check, CheckCall.keys, chargeAll, chargeKey, hip, hcredential, haddress]
  cases ok₁ <;> cases ok₂ <;> cases ok₃ <;> rfl

end RateLimiter

/-! ## A bucket and its log -/

/-- The bucket is the counter of the log. -/
structure Tallied (width limit clock : Nat) (bucket : Option Bucket) (log : List Hit) : Prop where
  unused : bucket = none → log = []
  used : ∀ b, bucket = some b → b.start ≤ clock ∧ Counted width limit b.start b.hits log

variable {width limit clock : Nat} {bucket : Option Bucket} {log : List Hit}

theorem Counted.tallied {b : Bucket} (h : Counted width limit b.start b.hits log)
    (hstart : b.start ≤ clock) : Tallied width limit clock (some b) log where
  unused hnone := nomatch hnone
  used b' hb := by
    obtain rfl := Option.some.inj hb
    exact ⟨hstart, h⟩

/-- The bucket before the hit is counted: the one there is, or a new one. -/
theorem Tallied.opened (h : Tallied width limit clock bucket log) (hnow : clock ≤ now) :
    ∃ b : Bucket, (b.start ≤ now ∧ now ≤ b.start + width) ∧
      Counted width limit b.start b.hits log ∧
      Bucket.charge width limit now bucket
        = if limit ≤ b.hits then (b, false) else (⟨b.start, b.hits + 1⟩, true) := by
  cases bucket with
  | none =>
      refine ⟨⟨now, 0⟩, ⟨Nat.le_refl _, Nat.le_add_right _ _⟩, ?_, ?_⟩
      · rw [h.unused rfl]
        exact .fresh
      · rw [Bucket.charge]
        simp
  | some b =>
      obtain ⟨hstart, hcounted⟩ := h.used b rfl
      by_cases hover : width < now - b.start
      · refine ⟨⟨now, 0⟩, ⟨Nat.le_refl _, Nat.le_add_right _ _⟩, hcounted.again (Nat.lt_sub_iff_add_lt'.mp hover), ?_⟩
        rw [Bucket.charge]
        simp [hover]
      · refine ⟨b, ⟨by omega, by omega⟩, hcounted, ?_⟩
        rw [Bucket.charge]
        simp [hover]

/-- A charge, and the log with the hit if there was room for it. -/
theorem Tallied.charge (h : Tallied width limit clock bucket log) (hnow : clock ≤ now) :
    Tallied width limit now (some (Bucket.charge width limit now bucket).1)
      (if (Bucket.charge width limit now bucket).2 = true then
        log ++ [⟨(Bucket.charge width limit now bucket).1.start, now⟩] else log) := by
  obtain ⟨b, ⟨hstart, hopen⟩, hcounted, hcharge⟩ := h.opened hnow
  rw [hcharge]
  by_cases hfull : limit ≤ b.hits
  · rw [if_pos hfull]
    exact Counted.tallied hcounted hstart
  · rw [if_neg hfull]
    exact Counted.tallied (b := ⟨b.start, b.hits + 1⟩)
      (hcounted.hit hstart hopen (Nat.lt_of_not_le hfull)) hstart

theorem Tallied.later (h : Tallied width limit clock bucket log) (hnow : clock ≤ now) :
    Tallied width limit now bucket log where
  unused := h.unused
  used b hb := ⟨(h.used b hb).1.trans hnow, (h.used b hb).2⟩

theorem Tallied.windowed (h : Tallied width limit clock bucket log) :
    Windowed width limit log := by
  cases bucket with
  | none =>
      rw [h.unused rfl]
      exact .nil
  | some b => exact (h.used b rfl).2.toWindowed

/-- A bucket whose window is over has room. -/
theorem charge_of_expired {b : Bucket} (hlimit : 1 ≤ limit) (hover : width < now - b.start) :
    (Bucket.charge width limit now (some b)).2 = true := by
  rw [Bucket.charge]
  simp only [Option.getD_some, if_pos hover, if_neg (Nat.not_le.mpr hlimit)]

/-! ## Runs -/

theorem keys_nodup (c : CheckCall) : (c.keys to_lowercase).Nodup := by
  simp [CheckCall.keys]

/-- The run's calls, as the hits of a key's bucket. -/
def hits (to_lowercase : Text → Text) (key : BucketKey)
    (tr : List (Transition Limited CheckCall)) : List Hit :=
  tr.filterMap (hitOf to_lowercase key)

theorem hits_append (key : BucketKey) (tr : List (Transition Limited CheckCall))
    (t : Transition Limited CheckCall) :
    hits to_lowercase key (tr ++ [t]) = hits to_lowercase key tr
      ++ (hitOf to_lowercase key t).toList := by
  rw [hits, List.filterMap_append, ← hits]
  cases h : hitOf to_lowercase key t <;> simp [h]

theorem Checked.limiter {s s' : Limited} {c : CheckCall} (h : Checked to_lowercase s c s') :
    s'.limiter = (s.limiter.call to_lowercase c).1 := by
  cases h with
  | check _ => rfl

/-- The limiter's limits, and the log of each of its buckets. -/
structure Limits (width : Nat) (limitOf : BucketKey → Nat) (to_lowercase : Text → Text)
    (tr : List (Transition Limited CheckCall)) (s : Limited) : Prop where
  window : s.limiter.window = width
  limit : s.limiter.limit = limitOf
  tallied : ∀ key, Tallied width (limitOf key) s.clock (s.limiter.bucket key)
    (hits to_lowercase key tr)

theorem answer_eq (t : Transition Limited CheckCall) :
    answer to_lowercase t
      = objection (t.pre.limiter.chargeAll t.act.now (t.act.keys to_lowercase)).2 := by
  rw [answer, RateLimiter.call_eq]

theorem charged_eq (t : Transition Limited CheckCall) :
    charged to_lowercase t = (t.act.keys to_lowercase).take
      (t.pre.limiter.chargeAll t.act.now (t.act.keys to_lowercase)).2 := by
  rw [charged, answer_eq, bucketsPassed_objection RateLimiter.chargeAll_passed_le]

theorem Limits.step {limit : BucketKey → Nat} {tr : List (Transition Limited CheckCall)}
    {s s' : Limited} {c : CheckCall} (h : Limits width limit to_lowercase tr s)
    (hs : Checked to_lowercase s c s') :
    Limits width limit to_lowercase (tr ++ [⟨s, c, s'⟩]) s' := by
  cases hs with
  | @check l clock c hnow =>
    have hcharged := @charged_eq to_lowercase
      ⟨⟨l, clock⟩, c, ⟨(l.call to_lowercase c).1, c.now⟩⟩
    have hcall : (l.call to_lowercase c).1
        = (l.chargeAll c.now (c.keys to_lowercase)).1 := by rw [RateLimiter.call_eq]
    obtain ⟨rfl, rfl, htallied⟩ := h
    refine ⟨?_, ?_, ?_⟩
    · rw [hcall]
      exact RateLimiter.chargeAll_window
    · rw [hcall]
      exact RateLimiter.chargeAll_limit
    intro key
    rw [hits_append]
    unfold hitOf windowStart
    rw [hcharged, hcall]
    rcases @RateLimiter.chargeAll_key l c.now _ (keys_nodup c) key with
      ⟨hno, hsame⟩ | ⟨hnew, hiff⟩
    · rw [if_neg hno, hsame]
      simpa using (htallied key).later hnow
    · have hbucket := (htallied key).charge hnow
      rw [hnew]
      by_cases hok : (Bucket.charge l.window (l.limit key) c.now (l.bucket key)).2 = true
      · rw [if_pos hok] at hbucket
        rw [if_pos (hiff.mpr hok)]
        exact hbucket
      · rw [if_neg hok] at hbucket
        rw [if_neg fun hmem => hok (hiff.mp hmem)]
        simpa using hbucket

/-- After any run the buckets have counted its calls. -/
theorem limits_run {window ip_limit address_limit credential_limit : Nat} {s : Limited}
    {tr : List (Transition Limited CheckCall)}
    (h : Steps (Checked to_lowercase)
      ⟨.new ip_limit address_limit credential_limit window, clock⟩ tr s) :
    Limits window (RateLimiter.new ip_limit address_limit credential_limit window).limit
      to_lowercase tr s := by
  refine h.history_invariant (P := fun _ => True) (fun _ _ _ _ _ hs _ hI => hI.step hs)
    (fun _ _ => trivial) ⟨rfl, rfl, ?_⟩
  intro key
  refine ⟨fun _ => rfl, ?_⟩
  intro b hb
  cases key <;> cases hb

/-- The bucket of a key that was charged is in use. -/
theorem used_of_charged {key : BucketKey} {s s' : Limited} {c : CheckCall}
    (hs : Checked to_lowercase s c s') (h : key ∈ charged to_lowercase ⟨s, c, s'⟩) :
    ∃ b, s'.limiter.bucket key = some b := by
  cases hs with
  | check hnow =>
    rw [charged_eq] at h
    rw [RateLimiter.call_eq]
    rcases RateLimiter.chargeAll_key (keys_nodup c) key with ⟨hno, -⟩ | ⟨hnew, -⟩
    · exact absurd h hno
    · exact ⟨_, hnew⟩

/-- Counted among the calls, or among the hits. -/
theorem countP_charged_le (key : BucketKey) {s s' : Limited}
    {tr : List (Transition Limited CheckCall)} (h : Steps (Checked to_lowercase) s tr s')
    {p : Transition Limited CheckCall → Bool} {q : Hit → Bool}
    (hpq : ∀ t ∈ tr, p t = true → key ∈ charged to_lowercase t ∧
      ∀ start, windowStart key t = some start → q ⟨start, t.act.now⟩ = true) :
    tr.countP p ≤ (hits to_lowercase key tr).countP q := by
  rw [hits, List.countP_filterMap]
  refine List.countP_mono_left ?_
  intro t ht hp
  obtain ⟨hmem, hq⟩ := hpq t ht hp
  obtain ⟨b, hb⟩ := used_of_charged (h.mem_split ht).1 hmem
  have hstart : windowStart key t = some b.start := by rw [windowStart, hb]; rfl
  rw [hitOf, if_pos hmem, hstart]
  exact hq b.start hstart

end

/-- **The limiter's bounds.**  In a run from a new limiter, of the calls a bucket takes no more
than its limit fall into one window, and no more than twice its limit into an interval of one
window's length; an accepted call is taken by its three buckets.  A bucket whose window is over
does not object, and a call that one bucket objects to changes no bucket asked after it. -/
theorem rate_limiter_bounds (to_lowercase : Text → Text)
    {window ip_limit address_limit credential_limit clock : Nat} {s : Limited}
    {tr : List (Transition Limited CheckCall)} (hip : 1 ≤ ip_limit) (haddress : 1 ≤ address_limit)
    (hcredential : 1 ≤ credential_limit)
    (h : Steps (Checked to_lowercase)
      ⟨.new ip_limit address_limit credential_limit window, clock⟩ tr s) :
    (∀ key,
      (∀ start, tr.countP (fun t => key ∈ charged to_lowercase t ∧ windowStart key t = some start)
        ≤ (RateLimiter.new ip_limit address_limit credential_limit window).limit key) ∧
      ∀ since, tr.countP (fun t => key ∈ charged to_lowercase t ∧
          since ≤ t.act.now ∧ t.act.now ≤ since + window)
        ≤ 2 * (RateLimiter.new ip_limit address_limit credential_limit window).limit key) ∧
    ∀ t ∈ tr,
      (answer to_lowercase t = none → charged to_lowercase t = t.act.keys to_lowercase) ∧
      (∀ n key b, (t.act.keys to_lowercase)[n]? = some key →
        t.pre.limiter.bucket key = some b → window < t.act.now - b.start →
          answer to_lowercase t ≠ objection n) ∧
      ∀ n < 3, answer to_lowercase t = objection n →
        ∀ key ∉ (t.act.keys to_lowercase).take (n + 1),
          t.post.limiter.bucket key = t.pre.limiter.bucket key := by
  have hlimits := limits_run h
  refine ⟨?_, ?_⟩
  · intro key
    have hwindowed := (hlimits.tallied key).windowed
    refine ⟨?_, ?_⟩
    · intro start
      refine (countP_charged_le key h ?_).trans (hwindowed.window start)
      intro t _ hp
      obtain ⟨hmem, hstart⟩ := of_decide_eq_true hp
      refine ⟨hmem, ?_⟩
      intro start' hstart'
      exact decide_eq_true (Option.some.inj (hstart'.symm.trans hstart))
    · intro since
      refine (countP_charged_le key h ?_).trans (hwindowed.interval since)
      intro t _ hp
      obtain ⟨hmem, hinside⟩ := of_decide_eq_true hp
      exact ⟨hmem, fun _ _ => decide_eq_true hinside⟩
  · intro t ht
    obtain ⟨hs, l, r, rfl, hl, -⟩ := h.mem_split ht
    have hbefore := limits_run hl
    refine ⟨?_, ?_, ?_⟩
    · intro haccepted
      rw [charged, haccepted]
      rfl
    · intro n key b hkey hb hover hobjects
      have hn : n < 3 := (List.getElem?_eq_some_iff.mp hkey).1
      have hpassed : (t.pre.limiter.chargeAll t.act.now (t.act.keys to_lowercase)).2 = n := by
        rw [answer_eq] at hobjects
        exact objection_inj RateLimiter.chargeAll_passed_le hn.le hobjects
      have hfull := RateLimiter.chargeAll_full (keys_nodup t.act) hpassed hkey
      have hlimit : 1 ≤ t.pre.limiter.limit key := by
        rw [hbefore.limit]
        cases key <;> assumption
      rw [hb, hbefore.window, charge_of_expired hlimit hover] at hfull
      cases hfull
    · intro n hn hobjects key hkey
      have hpassed : (t.pre.limiter.chargeAll t.act.now (t.act.keys to_lowercase)).2 = n := by
        rw [answer_eq] at hobjects
        exact objection_inj RateLimiter.chargeAll_passed_le hn.le hobjects
      rw [hs.limiter, RateLimiter.call_eq]
      exact RateLimiter.chargeAll_untouched (by rw [hpassed]; exact hkey)

/-! ## Three calls -/

namespace RateSample

def limiter : RateLimiter := .new 1 1 1 10

def call (now : Nat) (credential : String) : CheckCall :=
  ⟨now, .v4 0x0A000001, "0xAB".toList, credential.toList⟩

/-- The second comes while the window is open, the third when it is over. -/
def calls : List CheckCall := [call 0 "Ab", call 10 "aB", call 11 "AB"]

def after (s : Limited) (c : CheckCall) : Limited := ⟨(s.limiter.call toLowercase c).1, c.now⟩

def start : Limited := ⟨limiter, 0⟩

def run : List (Transition Limited CheckCall) :=
  [⟨start, call 0 "Ab", after start (call 0 "Ab")⟩,
    ⟨after start (call 0 "Ab"), call 10 "aB", after (after start (call 0 "Ab")) (call 10 "aB")⟩,
    ⟨after (after start (call 0 "Ab")) (call 10 "aB"), call 11 "AB",
      after (after (after start (call 0 "Ab")) (call 10 "aB")) (call 11 "AB")⟩]

theorem steps : Steps (Checked toLowercase) start run
    (after (after (after start (call 0 "Ab")) (call 10 "aB")) (call 11 "AB")) :=
  .step (.check (Nat.zero_le _)) (.step (.check (Nat.zero_le _)) (.step (.check (by decide))
    (.refl _)))

end RateSample

open RateSample in
/-- One call a window: the second comes while the window is open, the third when it is over. -/
theorem rate_limiter_bounds_run :
    run.map (answer toLowercase) = [none, objection 0, none] ∧
      run.countP (fun t => .credential "ab".toList ∈ charged toLowercase t ∧
        1 ≤ t.act.now ∧ t.act.now ≤ 1 + 10) ≤ 2 * 1 ∧
      ∀ t ∈ run, answer toLowercase t = none → charged toLowercase t = t.act.keys toLowercase := by
  obtain ⟨hbounds, hcalls⟩ := rate_limiter_bounds toLowercase (Nat.le_refl 1) (Nat.le_refl 1)
    (Nat.le_refl 1) steps
  refine ⟨by decide +kernel, (hbounds (.credential "ab".toList)).2 1, ?_⟩
  intro t ht
  exact (hcalls t ht).1

end Beanie.Api
