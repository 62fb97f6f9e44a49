/-
# `Beanie.Api.RpcCache` — what the proxy answers from its cache

`handle` of `rpc_proxy.rs`, in the pieces between which other requests run: the
request is admitted and validated, it looks into the cache, and an answer of
the upstream is remembered and returned.  In every run, whatever the order of
these pieces, what the cache serves is an answer remembered for the same chain,
method and parameters no longer than the method's TTL ago (`cache_correct`).
-/
import Beanie.Api.RpcAllowlist
import Beanie.Lib.ExpiringMap
import Beanie.Lib.Run

namespace Beanie.Api.RpcProxy

/-! ## `handle` -/

def WINDOW : Nat := secs 60
def REQ_PER_WINDOW : Nat := 256
def CACHE_MAX_ENTRIES : Nat := 1024

/-- `HashMap::insert` -/
def put {κ υ : Type} [DecidableEq κ] (key : κ) (v : υ) (m : List (κ × υ)) : List (κ × υ) :=
  (key, v) :: m.filter (·.1 ≠ key)

/-- When an address's window began, and its requests since then. -/
abbrev Limiter := List (IpAddr × Nat × Nat)

/-- `RpcProxy::allow` -/
def allow (m : Limiter) (now : Nat) (ip : IpAddr) : Limiter × Bool :=
  let m := if 10000 < m.length then m.filter fun e => now - e.2.1 < WINDOW else m
  let e := (m.lookup ip).getD (now, 0)
  let e := if WINDOW ≤ now - e.1 then (now, 0) else e
  (put ip (e.1, e.2 + 1) m, e.2 + 1 ≤ REQ_PER_WINDOW)

/-- The answers kept, each with its expiry. -/
abbrev Cache := List (Text × Nat × Members)

def Cache.find (c : Cache) (now : Nat) (key : Text) : Option Members :=
  (c.lookup key).bind fun e => if now < e.1 then some e.2 else none

def Cache.makeRoom (c : Cache) (now : Nat) : Cache :=
  if CACHE_MAX_ENTRIES ≤ c.length then
    let live := c.filter fun e => now < e.2.1
    if CACHE_MAX_ENTRIES ≤ live.length then [] else live
  else c

/-- There is a result, and it is not `null`. -/
def hasResult (v : Members) : Bool := (get v "result").any fun r => !isNull r

/-- An HTTP request: the client, the path and the body, if that is JSON. -/
structure Request where
  ip : IpAddr
  chain : Text
  body : Option Value

structure Response where
  status : Nat
  body : Members

def err (status : Nat) (msg : String) : Response :=
  ⟨status, [("error".toList, .string msg.toList)]⟩

def cacheKey (chain : Text) (req : Value) : Text :=
  chain ++ '|' :: ((index req "method").text ++ '|' :: (index req "params").text)

/-- The answer, with the caller's id. -/
def answerTo (req : Value) (v : Members) : Response :=
  ⟨200, insertMember "id".toList (index req "id") v⟩

section
variable (ups : List (Text × Upstream))

/-- A request that may be forwarded. -/
structure Task where
  chain : Text
  up : Upstream
  req : Value
  ttl : Nat
  known : ups.lookup chain = some up
  valid : validate up req = .ok ttl

/-- Up to the cache: a refusal, or a task. -/
def receive (m : Limiter) (now : Nat) (q : Request) : Limiter × (Response ⊕ Task ups) :=
  let chain := q.chain.map Char.toLower
  match hup : ups.lookup chain with
  | none => (m, .inl (err 404 "unknown chain"))
  | some up =>
      let (m, admitted) := allow m now q.ip
      if admitted = false then (m, .inl (err 429 "rate limit exceeded"))
      else match q.body with
        | none => (m, .inl (err 400 "invalid JSON"))
        | some req =>
            match hvalid : validate up req with
            | .error msg => (m, .inl (err 400 msg))
            | .ok ttl => (m, .inr ⟨chain, up, req, ttl, hup, hvalid⟩)

variable {ups}

def Task.key (t : Task ups) : Text := cacheKey t.chain t.req

/-- The cache is not asked about a method without a TTL. -/
def Task.look (t : Task ups) (c : Cache) (now : Nat) : Option Members :=
  if t.ttl = 0 then none else c.find now t.key

/-- The cache after an answer: room is made at `now`, the entry is dated `later`. -/
def Task.remember (t : Task ups) (c : Cache) (now later : Nat) (v : Members) : Cache :=
  if t.ttl ≠ 0 ∧ hasResult v = true then put t.key (later + secs t.ttl, v) (c.makeRoom now) else c

variable (ups)

/-- The two locks' contents, and the requests before the cache and at the upstream. -/
structure ProxyState where
  limiter : Limiter
  cache : Cache
  waiting : List (Task ups)
  forwarded : List (Task ups)
  clock : Nat

def ProxyState.start : ProxyState ups := ⟨[], [], [], [], 0⟩

inductive ProxyEvent
  | refused (q : Request) (r : Response)
  | received (q : Request) (t : Task ups)
  | served (now : Nat) (t : Task ups) (r : Response)
  | missed (now : Nat) (t : Task ups)
  | answered (now later : Nat) (t : Task ups) (v : Members) (r : Response)
  | failed (t : Task ups) (r : Response)

/-- One piece of one request.  The upstream answers what it likes, or not at all. -/
inductive ProxyStep : ProxyState ups → ProxyEvent ups → ProxyState ups → Prop
  | refuse {s : ProxyState ups} {q : Request} {r : Response} {now : Nat} (hnow : s.clock ≤ now)
      (h : (receive ups s.limiter now q).2 = .inl r) :
      ProxyStep s (.refused q r)
        { s with limiter := (receive ups s.limiter now q).1, clock := now }
  | receive {s : ProxyState ups} {q : Request} {t : Task ups} {now : Nat} (hnow : s.clock ≤ now)
      (h : (receive ups s.limiter now q).2 = .inr t) :
      ProxyStep s (.received q t)
        { s with
          limiter := (receive ups s.limiter now q).1, waiting := t :: s.waiting, clock := now }
  | serve {s : ProxyState ups} {i now : Nat} {t : Task ups} {v : Members} (hnow : s.clock ≤ now)
      (ht : s.waiting[i]? = some t) (h : t.look s.cache now = some v) :
      ProxyStep s (.served now t (answerTo t.req v))
        { s with waiting := s.waiting.eraseIdx i, clock := now }
  | miss {s : ProxyState ups} {i now : Nat} {t : Task ups} (hnow : s.clock ≤ now)
      (ht : s.waiting[i]? = some t) (h : t.look s.cache now = none) :
      ProxyStep s (.missed now t)
        { s with
          waiting := s.waiting.eraseIdx i, forwarded := t :: s.forwarded, clock := now }
  | answer {s : ProxyState ups} {i now later : Nat} {t : Task ups} {v : Members}
      (hnow : s.clock ≤ now) (hlater : now ≤ later) (ht : s.forwarded[i]? = some t) :
      ProxyStep s (.answered now later t v (answerTo t.req v))
        { s with
          cache := t.remember s.cache now later v, forwarded := s.forwarded.eraseIdx i,
          clock := later }
  | fail {s : ProxyState ups} {i : Nat} {t : Task ups} {msg : String}
      (ht : s.forwarded[i]? = some t) :
      ProxyStep s (.failed t (err 502 msg)) { s with forwarded := s.forwarded.eraseIdx i }

end

/-! ## Keys -/

/-- What the answer to a request depends on. -/
structure SameRead (chain chain' : Text) (req req' : Value) : Prop where
  chain : chain = chain'
  method : index req "method" = index req' "method"
  params : index req "params" = index req' "params"

theorem stops_bar (s : Text) : JsonValue.Stops ('|' :: s) := rfl

theorem cacheKey_inj {chain chain' : Text} {req req' : Value} (h : '|' ∉ chain) (h' : '|' ∉ chain')
    (heq : cacheKey chain req = cacheKey chain' req') : SameRead chain chain' req req' := by
  obtain ⟨hchain, hrest⟩ := append_sep_inj h h' heq
  obtain ⟨hmethod, hparams⟩ := JsonValue.text_append_inj _ _ (stops_bar _) (stops_bar _) hrest
  exact ⟨hchain, hmethod, JsonValue.text_inj (List.cons.inj hparams).2⟩

/-! ## Maps -/

section
variable {κ υ : Type} [DecidableEq κ]

theorem mem_of_lookup {κ υ : Type} [BEq κ] [LawfulBEq κ] {key : κ} {v : υ} {m : List (κ × υ)}
    (h : m.lookup key = some v) : (key, v) ∈ m := by
  obtain ⟨l, r, rfl, -⟩ := List.lookup_eq_some_iff.mp h
  exact List.mem_append_right _ List.mem_cons_self

theorem mem_put {key : κ} {v : υ} {m : List (κ × υ)} {e : κ × υ} (h : e ∈ put key v m) :
    e = (key, v) ∨ e ∈ m := by
  rcases List.mem_cons.mp h with rfl | h
  · exact .inl rfl
  · exact .inr (List.mem_of_mem_filter h)

theorem length_put_le (key : κ) (v : υ) (m : List (κ × υ)) :
    (put key v m).length ≤ m.length + 1 :=
  Nat.succ_le_succ (List.length_filter_le _ _)

end

theorem lookup_cons_eq (k a : Text) (x : Value) (ms : Members) :
    ((a, x) :: ms : Members).lookup k = if k = a then some x else ms.lookup k := by
  rw [List.lookup_cons]
  by_cases h : k = a
  · rw [if_pos h, beq_iff_eq.mpr h]
  · rw [if_neg h, beq_false_of_ne h]

/-- Only the member named is another one. -/
theorem lookup_insertMember (key : Text) (x : Value) (ms : Members) (k : Text) :
    (insertMember key x ms).lookup k = if k = key then some x else ms.lookup k := by
  induction ms with
  | nil => rw [insertMember, lookup_cons_eq]
  | cons m ms ih =>
      obtain ⟨k', v⟩ := m
      rw [insertMember]
      by_cases heq : k' = key
      · rw [if_pos heq, lookup_cons_eq, lookup_cons_eq, heq]
        by_cases hk : k = key
        · rw [if_pos hk, if_pos hk]
        · rw [if_neg hk, if_neg hk, if_neg hk]
      · rw [if_neg heq]
        by_cases hlt : key < k'
        · rw [if_pos hlt, lookup_cons_eq]
        · rw [if_neg hlt, lookup_cons_eq, lookup_cons_eq, ih]
          by_cases hk : k = key
          · rw [if_neg fun h => heq (h.symm.trans hk), if_pos hk, if_pos hk]
          · rw [if_neg hk, if_neg hk]

/-! ## What is cached -/

section
variable {ups : List (Text × Upstream)}

theorem asStr_some {v : Value} {s : Text} (h : asStr v = some s) : v = .string s := by
  cases v <;> cases h
  rfl

theorem asArray_some {v : Value} {xs : List Value} (h : asArray v = some xs) : v = .array xs := by
  cases v <;> cases h
  rfl

/-- The TTL of a valid request is that of its method and parameters. -/
theorem validate_ok {up : Upstream} {req : Value} {ttl : Nat} (h : validate up req = .ok ttl) :
    ∃ method params, index req "method" = .string method ∧ index req "params" = .array params ∧
      validateMethod up method params = .ok ttl := by
  obtain ⟨o, hobject, h⟩ := bind_ok.mp h
  obtain ⟨_, -, h⟩ := bind_ok.mp h
  obtain ⟨_, -, h⟩ := bind_ok.mp h
  obtain ⟨_, -, h⟩ := bind_ok.mp h
  obtain ⟨method, hmethod, h⟩ := bind_ok.mp h
  obtain ⟨params, hparams, h⟩ := bind_ok.mp h
  obtain ⟨mv, hmv, hm⟩ := Option.bind_eq_some_iff.mp (okOr_ok.mp hmethod)
  obtain ⟨pv, hpv, hp⟩ := Option.bind_eq_some_iff.mp (okOr_ok.mp hparams)
  refine ⟨method, params, ?_, ?_, h⟩
  · rw [index, okOr_ok.mp hobject, Option.bind_some, hmv, Option.getD_some, asStr_some hm]
  · rw [index, okOr_ok.mp hobject, Option.bind_some, hpv, Option.getD_some, asArray_some hp]

/-- Requests for the same read have one TTL. -/
theorem SameRead.ttl {t t' : Task ups} (h : SameRead t.chain t'.chain t.req t'.req) :
    t.ttl = t'.ttl := by
  obtain ⟨method, params, hmethod, hparams, hvalid⟩ := validate_ok t.valid
  obtain ⟨method', params', hmethod', hparams', hvalid'⟩ := validate_ok t'.valid
  have hup : t.up = t'.up := by
    have hknown := t.known
    rw [h.chain, t'.known] at hknown
    exact (Option.some.inj hknown).symm
  have hsame : JsonValue.string method = (.string method' : Value) := by
    rw [← hmethod, h.method, hmethod']
  have hsame' : JsonValue.array params = (.array params' : Value) := by
    rw [← hparams, h.params, hparams']
  cases hsame
  cases hsame'
  rw [hup, hvalid'] at hvalid
  exact (Except.ok.inj hvalid).symm

/-- An entry comes from an answer with a result, given to a valid request. -/
structure Remembered (tr : List (Transition (ProxyState ups) (ProxyEvent ups)))
    (e : Text × Nat × Members) (now later : Nat) (t : Task ups) (r : Response) : Prop where
  answered : ∃ u ∈ tr, u.act = .answered now later t e.2.2 r
  key : e.1 = t.key
  expiry : e.2.1 = later + secs t.ttl
  result : hasResult e.2.2 = true

/-- The cache is within its bounds, and each entry is remembered from before. -/
structure Cached (tr : List (Transition (ProxyState ups) (ProxyEvent ups)))
    (s : ProxyState ups) : Prop where
  bounded : s.cache.length ≤ CACHE_MAX_ENTRIES
  remembered : ∀ e ∈ s.cache, ∃ now later t r, Remembered tr e now later t r ∧ later ≤ s.clock

theorem Remembered.mono {tr tr' : List (Transition (ProxyState ups) (ProxyEvent ups))}
    {e : Text × Nat × Members} {now later : Nat} {t : Task ups} {r : Response}
    (h : Remembered tr e now later t r) (hsub : ∀ u ∈ tr, u ∈ tr') :
    Remembered tr' e now later t r := by
  obtain ⟨u, hu, hact⟩ := h.answered
  exact { h with answered := ⟨u, hsub u hu, hact⟩ }

theorem length_makeRoom_lt (c : Cache) (now : Nat) :
    (c.makeRoom now).length < CACHE_MAX_ENTRIES := by
  rw [Cache.makeRoom]
  by_cases hfull : CACHE_MAX_ENTRIES ≤ c.length
  · rw [if_pos hfull]
    dsimp only
    by_cases hlive : CACHE_MAX_ENTRIES ≤ (c.filter fun e => now < e.2.1).length
    · rw [if_pos hlive]
      decide
    · rw [if_neg hlive]
      exact Nat.lt_of_not_le hlive
  · rw [if_neg hfull]
    exact Nat.lt_of_not_le hfull

theorem makeRoom_sublist (c : Cache) (now : Nat) : (c.makeRoom now).Sublist c := by
  rw [Cache.makeRoom]
  by_cases hfull : CACHE_MAX_ENTRIES ≤ c.length
  · rw [if_pos hfull]
    dsimp only
    by_cases hlive : CACHE_MAX_ENTRIES ≤ (c.filter fun e => now < e.2.1).length
    · rw [if_pos hlive]
      exact List.nil_sublist c
    · rw [if_neg hlive]
      exact List.filter_sublist
  · rw [if_neg hfull]

theorem Cached.step {tr : List (Transition (ProxyState ups) (ProxyEvent ups))}
    {s s' : ProxyState ups} {a : ProxyEvent ups} (h : Cached tr s) (hs : ProxyStep ups s a s') :
    Cached (tr ++ [⟨s, a, s'⟩]) s' := by
  have hold : ∀ e ∈ s.cache, ∀ clock, s.clock ≤ clock → ∃ now later t r,
      Remembered (tr ++ [⟨s, a, s'⟩]) e now later t r ∧ later ≤ clock := by
    intro e he clock hclock
    obtain ⟨now, later, t, r, hr, hlater⟩ := h.remembered e he
    exact ⟨now, later, t, r, hr.mono fun u hu => List.mem_append_left _ hu, hlater.trans hclock⟩
  cases hs with
  | refuse hnow _ => exact ⟨h.bounded, fun e he => hold e he _ hnow⟩
  | receive hnow _ => exact ⟨h.bounded, fun e he => hold e he _ hnow⟩
  | serve hnow _ _ => exact ⟨h.bounded, fun e he => hold e he _ hnow⟩
  | miss hnow _ _ => exact ⟨h.bounded, fun e he => hold e he _ hnow⟩
  | fail _ => exact ⟨h.bounded, fun e he => hold e he _ (Nat.le_refl _)⟩
  | @answer i now later t v hnow hlater ht =>
      have hclock := hnow.trans hlater
      by_cases hput : t.ttl ≠ 0 ∧ hasResult v = true
      · have hcache : t.remember s.cache now later v
            = put t.key (later + secs t.ttl, v) (s.cache.makeRoom now) := if_pos hput
        refine ⟨?_, ?_⟩
        · show (t.remember s.cache now later v).length ≤ _
          rw [hcache]
          exact (length_put_le _ _ _).trans (length_makeRoom_lt _ _)
        · intro e he
          rcases mem_put (hcache ▸ he) with rfl | he
          · exact ⟨now, later, t, answerTo t.req v,
              ⟨⟨_, List.mem_append_right _ List.mem_cons_self, rfl⟩, rfl, rfl, hput.2⟩,
              Nat.le_refl _⟩
          · exact hold e ((makeRoom_sublist _ _).mem he) _ hclock
      · have hcache : t.remember s.cache now later v = s.cache := if_neg hput
        refine ⟨?_, ?_⟩
        · show (t.remember s.cache now later v).length ≤ _
          rw [hcache]
          exact h.bounded
        · intro e he
          exact hold e (hcache ▸ he) _ hclock

/-- After any run the cache is within its bounds and holds remembered answers. -/
theorem cached_run {s : ProxyState ups} {tr : List (Transition (ProxyState ups) (ProxyEvent ups))}
    (h : Steps (ProxyStep ups) (.start ups) tr s) : Cached tr s :=
  h.history_invariant (P := fun _ => True) (fun _ _ _ _ _ hs _ hI => hI.step hs)
    (fun _ _ => trivial) ⟨Nat.zero_le _, fun _ he => absurd he List.not_mem_nil⟩

end

theorem look_some {ups : List (Text × Upstream)} {t : Task ups} {c : Cache} {now : Nat}
    {v : Members} (h : t.look c now = some v) : c.find now t.key = some v := by
  rw [Task.look] at h
  by_cases httl : t.ttl = 0
  · rw [if_pos httl] at h
    cases h
  · rwa [if_neg httl] at h

theorem look_eq {ups : List (Text × Upstream)} {t : Task ups} {c : Cache} {now : Nat}
    (h : t.ttl ≠ 0) : t.look c now = c.find now t.key := if_neg h

theorem served_of_step {ups : List (Text × Upstream)} {s s' : ProxyState ups} {now : Nat}
    {t : Task ups} {r : Response} (h : ProxyStep ups s (.served now t r) s') :
    ∃ v, s.clock ≤ now ∧ t.look s.cache now = some v ∧ r = answerTo t.req v := by
  cases h with
  | serve hnow _ hlook => exact ⟨_, hnow, hlook, rfl⟩

theorem bar_not_mem_upstreams {x : DisplayCrates} {cfg : ProxyConfig} {chain : Text}
    {up : Upstream} (h : (upstreams x cfg).lookup chain = some up) : '|' ∉ chain := by
  have hmem := mem_of_lookup h
  simp only [upstreams, List.mem_cons, Prod.mk.injEq, List.not_mem_nil, or_false] at hmem
  rcases hmem with ⟨rfl, -⟩ | ⟨rfl, -⟩ | ⟨rfl, -⟩ | ⟨rfl, -⟩ | ⟨rfl, -⟩ | ⟨rfl, -⟩ <;> decide

/-- **What the cache serves.**  In every run of the proxy, a response served from the cache is an
earlier answer of the upstream to a request for the same chain, method and parameters, at most the
method's TTL old, with the caller's id.  The cache holds no more than its maximum of entries, and
each is an answer with a result to a valid request.  Keys are the same only for the same read. -/
theorem cache_correct (x : DisplayCrates) (cfg : ProxyConfig)
    {s : ProxyState (upstreams x cfg)}
    {tr : List (Transition (ProxyState (upstreams x cfg)) (ProxyEvent (upstreams x cfg)))}
    (h : Steps (ProxyStep (upstreams x cfg)) (.start _) tr s) :
    (∀ u ∈ tr, ∀ now t r, u.act = .served now t r → ∃ before rest,
      tr = before ++ u :: rest ∧ ∃ u' ∈ before, ∃ now' later t' v r',
        u'.act = .answered now' later t' v r' ∧ SameRead t.chain t'.chain t.req t'.req ∧
        later ≤ now ∧ now < later + secs t.ttl ∧ hasResult v = true ∧ r.status = 200 ∧
        ∀ k, r.body.lookup k
          = if k = "id".toList then some (index t.req "id") else v.lookup k) ∧
    s.cache.length ≤ CACHE_MAX_ENTRIES ∧
    (∀ e ∈ s.cache, ∃ u ∈ tr, ∃ now later t r, u.act = .answered now later t e.2.2 r ∧
      validate t.up t.req = .ok t.ttl ∧ hasResult e.2.2 = true) ∧
    ∀ chain chain' up up' req req', (upstreams x cfg).lookup chain = some up →
      (upstreams x cfg).lookup chain' = some up' → cacheKey chain req = cacheKey chain' req' →
        SameRead chain chain' req req' := by
  refine ⟨?_, (cached_run h).bounded, ?_, ?_⟩
  · intro u hu now t r hact
    obtain ⟨hs, before, rest, rfl, hbefore, -⟩ := h.mem_split hu
    refine ⟨before, rest, rfl, ?_⟩
    obtain ⟨v, hnow, hlook, rfl⟩ := served_of_step (hact ▸ hs)
    have hfind : u.pre.cache.find now t.key = some v := look_some hlook
    obtain ⟨⟨exp, v'⟩, hentry, hv⟩ := Option.bind_eq_some_iff.mp hfind
    by_cases hlive : now < exp
    · rw [if_pos hlive] at hv
      obtain rfl := Option.some.inj hv
      obtain ⟨now', later, t', r', hr, hlater⟩ :=
        (cached_run hbefore).remembered _ (mem_of_lookup hentry)
      obtain ⟨u', hu', hact'⟩ := hr.answered
      have hsame := cacheKey_inj (bar_not_mem_upstreams t.known) (bar_not_mem_upstreams t'.known)
        hr.key
      have hexpiry : exp = later + secs t'.ttl := hr.expiry
      refine ⟨u', hu', now', later, t', v', r', hact', hsame, hlater.trans hnow, ?_, hr.result, rfl,
        lookup_insertMember _ _ _⟩
      rw [hsame.ttl]
      omega
    · rw [if_neg hlive] at hv
      cases hv
  · intro e he
    obtain ⟨now, later, t, r, hr, -⟩ := (cached_run h).remembered e he
    obtain ⟨u, hu, hact⟩ := hr.answered
    exact ⟨u, hu, now, later, t, r, hact, t.valid, hr.result⟩
  · intro chain chain' up up' req req' hup hup' hkey
    exact cacheKey_inj (bar_not_mem_upstreams hup) (bar_not_mem_upstreams hup') hkey

/-! ## Two requests -/

namespace CacheSample

open AllowlistSample (display config)

abbrev ups : List (Text × Upstream) := upstreams display config

/-- `eth_chainId`, with an id. -/
def read (id : BitVec 64) : Value :=
  .object [("id".toList, .number (.pos id)), ("jsonrpc".toList, .string "2.0".toList),
    ("method".toList, .string "eth_chainId".toList), ("params".toList, .array [])]

def query (id : BitVec 64) : Request := ⟨.v4 0x0A000001, "Base".toList, some (read id)⟩

theorem read_valid (id : BitVec 64) : validate (upstream display config .base) (read id) = .ok 60 :=
  rfl

def task (id : BitVec 64) : Task ups where
  chain := "base".toList
  up := upstream display config .base
  req := read id
  ttl := 60
  known := rfl
  valid := read_valid id

/-- Chain 8453, as the upstream answers the first request. -/
def reply : Members :=
  [("id".toList, .number (.pos 1)), ("jsonrpc".toList, .string "2.0".toList),
    ("result".toList, .string "0x2105".toList)]

def received (s : ProxyState ups) (now : Nat) (id : BitVec 64) : ProxyState ups :=
  { s with
    limiter := (receive ups s.limiter now (query id)).1
    waiting := task id :: s.waiting
    clock := now }

def s₁ : ProxyState ups := received (.start ups) 0 1

def s₂ : ProxyState ups := { s₁ with waiting := [], forwarded := [task 1], clock := 1 }

def s₃ : ProxyState ups :=
  { s₂ with cache := (task 1).remember [] 2 3 reply, forwarded := [], clock := 3 }

def s₄ : ProxyState ups := received s₃ (secs 60) 2

def s₅ : ProxyState ups := { s₄ with waiting := [] }

theorem found : (task 2).look s₄.cache (secs 60) = some reply := by
  have hkey : (task 2).key = (task 1).key := rfl
  have hcache : s₄.cache = [((task 1).key, 3 + secs 60, reply)] := by
    show (task 1).remember [] 2 3 reply = _
    rw [Task.remember, if_pos ⟨by decide, rfl⟩]
    rfl
  rw [look_eq (by decide), hcache, hkey, Cache.find, List.lookup_cons, beq_self_eq_true]
  rfl

def run : List (Transition (ProxyState ups) (ProxyEvent ups)) :=
  [⟨.start ups, .received (query 1) (task 1), s₁⟩, ⟨s₁, .missed 1 (task 1), s₂⟩,
    ⟨s₂, .answered 2 3 (task 1) reply (answerTo (read 1) reply), s₃⟩,
    ⟨s₃, .received (query 2) (task 2), s₄⟩,
    ⟨s₄, .served (secs 60) (task 2) (answerTo (read 2) reply), s₅⟩]

theorem steps : Steps (ProxyStep ups) (.start ups) run s₅ :=
  .step (.receive (Nat.le_refl 0) rfl)
    (.step (.miss (i := 0) (Nat.zero_le 1) rfl rfl)
      (.step (.answer (i := 0) (by decide) (by decide) rfl)
        (.step (.receive (show s₃.clock ≤ secs 60 by decide) rfl)
          (.step (.serve (i := 0) (Nat.le_refl _) rfl found) (.refl s₅)))))

end CacheSample

open CacheSample in
/-- The second request comes a minute later with an id of its own, and is served. -/
theorem cache_correct_chainId :
    s₅.cache.length ≤ CACHE_MAX_ENTRIES ∧ ∃ u' ∈ run, ∃ now' later t' v r',
      u'.act = .answered now' later t' v r' ∧ SameRead "base".toList t'.chain (read 2) t'.req ∧
        later ≤ secs 60 ∧ secs 60 < later + secs 60 := by
  obtain ⟨hserved, hbounded, -, -⟩ :=
    cache_correct AllowlistSample.display AllowlistSample.config steps
  have hmem : ⟨s₄, .served (secs 60) (task 2) (answerTo (read 2) reply), s₅⟩ ∈ run :=
    List.mem_of_getElem? (i := 4) rfl
  obtain ⟨before, rest, hsplit, u', hu', now', later, t', v', r', hact, hsame, hlate, hlive, -⟩ :=
    hserved _ hmem _ _ _ rfl
  refine ⟨hbounded, u', ?_, now', later, t', v', r', hact, hsame, hlate, hlive⟩
  rw [hsplit]
  exact List.mem_append_left _ hu'

end Beanie.Api.RpcProxy
