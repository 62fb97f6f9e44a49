/-
# `Beanie.Api.StealthRounds` — one round for one signing hash

The in-memory de-duplication of `stealth_workers.rs`.  `run_round` begins a
round unless its key is known, and when the round is over the key stays known
for a while (`ok`) or is forgotten.  The key is made of the hash as the route
has rewritten it, so it is the same for every spelling of the hash
(`roundKey_eq_iff`).  The law over runs is `rounds_deduplicated`.
-/
import Beanie.Api.StealthRoutes
import Beanie.Api.CreateFanout
import Beanie.Lib.ExpiringMap
import Beanie.Lib.Run

namespace Beanie.Api

/-! ## The map -/

def ROUND_TIMEOUT : Nat := secs 300
def DEDUPE_TTL : Nat := secs 3600

/-- When the key was begun or done, and whether it is done. -/
abbrev Recent := Text → Option (Nat × Bool)

/-- `t.elapsed() < DEDUPE_TTL` -/
def isRecent (now : Nat) (e : Nat × Bool) : Bool := now - e.1 < DEDUPE_TTL

def Recent.tryBegin (m : Recent) (scan : Text → Nat) (now : Nat) (key : Text) : Recent × Bool :=
  let m := retain isRecent scan m
  if (m key).isSome then (m, false) else (Function.update m key (some (now, false)), true)

/-- A failed round may be retried. -/
def Recent.finish (m : Recent) (now : Nat) (key : Text) (ok : Bool) : Recent :=
  if ok then Function.update m key (some (now, true)) else Function.update m key none

/-! ## Claims and their keys -/

def Chain.debugName : Chain → String
  | .base => "Base"
  | .starknet => "Starknet"
  | .ethereum => "Ethereum"
  | .solana => "Solana"
  | .arbitrum => "Arbitrum"
  | .monad => "Monad"

theorem Chain.debugName_inj {c d : Chain} (h : c.debugName = d.debugName) : c = d := by
  cases c <;> cases d <;> first | rfl | exact absurd h (by decide)

section
variable (x : ClaimCrates)

/-- `format!("{:?}:{}", task.chain, task.tx_hash.to_lowercase())` -/
def roundKey (task : StealthTask) : Text :=
  task.chain.debugName.toList ++ ':' :: x.to_lowercase task.tx_hash

/-- The number that a hash spells: a field element, or thirty-two octets. -/
def FamilyRt.signingHash (fam : FamilyRt) (s : Text) : Option Nat :=
  match fam with
  | .starknet _ => (x.starknet.from_hex (trim s)).map (·.val)
  | _ => some (hexValue (strip0x s))

variable (families : Chain → Option FamilyRt)

/-- A request the route accepts for a chain of the registry, and the task it sends. -/
structure Claim where
  req : ClaimRequest
  fam : FamilyRt
  task : StealthTask
  known : families req.chain = some fam
  accepted : claimTask x fam req = .ok task

end

section
variable {x : ClaimCrates} {families : Chain → Option FamilyRt}

def Claim.key (c : Claim x families) : Text := roundKey x c.task

/-- One chain and one signing hash, however they are spelled. -/
def Claim.Same (c d : Claim x families) : Prop :=
  c.req.chain = d.req.chain ∧
    c.fam.signingHash x c.req.tx_hash = d.fam.signingHash x d.req.tx_hash

/-- How the route rewrites a hash. -/
def FamilyRt.canonicalHash (fam : FamilyRt) (x : ClaimCrates) (s : Text) : Except String Text :=
  match fam with
  | .starknet _ => parseAndSanitizeFelt x.addresses s
  | _ => canonHash32 x s

theorem labelled_ok {α : Type} {label : String} {r : Except String α} {a : α} :
    labelled label r = .ok a ↔ r = .ok a := by
  cases r with
  | ok b => exact Iff.rfl
  | error e => exact ⟨nofun, nofun⟩

theorem canonicalize_tx_hash {fam : FamilyRt} {derived tx_hash : Text} {calls : Vec CallDataPayload}
    {message : Option Text} {canon : Canon}
    (h : canonicalize x fam derived tx_hash calls message = .ok canon) :
    fam.canonicalHash x tx_hash = .ok canon.tx_hash := by
  cases fam with
  | evm ev =>
      obtain ⟨_, -, h⟩ := bind_ok.mp h
      obtain ⟨_, -, h⟩ := bind_ok.mp h
      obtain ⟨hash, hhash, h⟩ := bind_ok.mp h
      cases h
      exact labelled_ok.mp hhash
  | starknet st =>
      obtain ⟨_, -, h⟩ := bind_ok.mp h
      obtain ⟨_, -, h⟩ := bind_ok.mp h
      obtain ⟨hash, hhash, h⟩ := bind_ok.mp h
      obtain ⟨_, -, h⟩ := bind_ok.mp h
      cases h
      exact labelled_ok.mp hhash
  | solana =>
      obtain ⟨_, -, h⟩ := bind_ok.mp h
      obtain ⟨_, -, h⟩ := bind_ok.mp h
      obtain ⟨_, -, h⟩ := bind_ok.mp h
      obtain ⟨_, -, h⟩ := bind_ok.mp h
      obtain ⟨_, -, h⟩ := bind_ok.mp h
      obtain ⟨hash, hhash, h⟩ := bind_ok.mp h
      cases h
      exact labelled_ok.mp hhash

/-- The task keeps the chain and has the hash rewritten. -/
theorem Claim.task_eq (c : Claim x families) :
    c.task.chain = c.req.chain ∧ c.fam.canonicalHash x c.req.tx_hash = .ok c.task.tx_hash := by
  obtain ⟨_, -, h⟩ := bind_ok.mp c.accepted
  obtain ⟨_, -, h⟩ := bind_ok.mp h
  obtain ⟨_, -, h⟩ := bind_ok.mp h
  obtain ⟨canon, hcanon, h⟩ := bind_ok.mp h
  rw [← Except.ok.inj h]
  exact ⟨rfl, canonicalize_tx_hash hcanon⟩

theorem byteLength_of_isHex {ds : Text} (h : IsHex ds) : byteLength ds = ds.length := by
  induction ds with
  | nil => rfl
  | cons c ds ih =>
      have hbounds := hexDigit?_bounds (h c List.mem_cons_self)
      have hrest := ih fun b hb => h b (List.mem_cons_of_mem c hb)
      have hone : c.utf8Size = 1 := by
        rw [Char.utf8Size_eq_one_iff]
        rw [UInt32.le_iff_toNat_le]
        show c.toNat ≤ 127
        omega
      rw [byteLength, List.map_cons, List.sum_cons, hone]
      rw [byteLength] at hrest
      rw [hrest, List.length_cons]
      omega

section
variable (hlower : ∀ s : Text, (∀ c ∈ s, c.toNat < 128) → x.to_lowercase s = s.map Char.toLower)
include hlower

/-- Lowering a prefixed text of digits lowers the digits. -/
theorem toLowercase_prefixed {ds : Text} (h : IsHex ds) :
    x.to_lowercase ('0' :: 'x' :: ds) = '0' :: 'x' :: ds.map Char.toLower := by
  refine hlower _ ?_
  simp only [List.mem_cons]
  rintro c (rfl | rfl | hc)
  · decide
  · decide
  · have hbounds := hexDigit?_bounds (h c hc)
    omega

theorem toLowercase_digits {ds : Text} (h : IsHex ds) : x.to_lowercase ds = ds.map Char.toLower :=
  hlower ds fun c hc => by
    have hbounds := hexDigit?_bounds (h c hc)
    omega

/-- What the route leaves of a hash is a prefixed number, which lowering keeps. -/
theorem canonicalHash_digits (hfelt : ∀ v, ∃ ds, x.felt_lower_hex v = '0' :: 'x' :: ds ∧
      IsHex ds ∧ hexValue ds = v.val) {fam : FamilyRt} {s t : Text}
    (h : fam.canonicalHash x s = .ok t) :
    ∃ ds, IsHex ds ∧ x.to_lowercase t = '0' :: 'x' :: ds ∧
      fam.signingHash x s = some (hexValue ds) := by
  have hword : ∀ {s t : Text}, canonHash32 x s = .ok t →
      ∃ ds, IsHex ds ∧ x.to_lowercase t = '0' :: 'x' :: ds ∧
        some (hexValue (strip0x s)) = some (hexValue ds) := by
    intro s t h
    obtain ⟨_, hshape, h⟩ := bind_ok.mp h
    have hhex : IsHex (strip0x s) := fun c hc => List.all_eq_true.mp (require_ok.mp hshape).2 c hc
    have hlow := isLowerHex_map_toLower hhex
    rw [← Except.ok.inj h, toLowercase_digits hlower hhex]
    refine ⟨_, (isLowerHex_map_toLower hlow.isHex).isHex,
      toLowercase_prefixed hlower hlow.isHex, ?_⟩
    rw [hexValue_map_toLower, hexValue_map_toLower]
  cases fam with
  | evm ev => exact hword h
  | solana => exact hword h
  | starknet st =>
      obtain ⟨_, -, h⟩ := bind_ok.mp h
      obtain ⟨v, hv, h⟩ := bind_ok.mp h
      obtain ⟨ds, hds, hhex, hvalue⟩ := hfelt v
      have hlow := isLowerHex_map_toLower hhex
      rw [← Except.ok.inj h]
      refine ⟨_, hlow.isHex, ?_, ?_⟩
      · show x.to_lowercase (x.felt_lower_hex v) = _
        rw [hds, toLowercase_prefixed hlower hhex]
      · have hread : x.starknet.from_hex (trim s) = some v := okOr_ok.mp hv
        show (x.starknet.from_hex (trim s)).map (·.val) = _
        rw [hread, hexValue_map_toLower, hvalue]
        rfl

/-- Every spelling of a hash is rewritten to one text. -/
theorem canonicalHash_eq {fam : FamilyRt} {s s' t t' : Text}
    (h : fam.canonicalHash x s = .ok t) (h' : fam.canonicalHash x s' = .ok t')
    (hsame : fam.signingHash x s = fam.signingHash x s') : t = t' := by
  have hword : ∀ {s s' t t' : Text}, canonHash32 x s = .ok t → canonHash32 x s' = .ok t' →
      hexValue (strip0x s) = hexValue (strip0x s') → t = t' := by
    intro s s' t t' h h' hvalue
    obtain ⟨_, hshape, h⟩ := bind_ok.mp h
    obtain ⟨_, hshape', h'⟩ := bind_ok.mp h'
    obtain ⟨hlength, hhex⟩ := require_ok.mp hshape
    obtain ⟨hlength', hhex'⟩ := require_ok.mp hshape'
    have hhex : IsHex (strip0x s) := fun c hc => List.all_eq_true.mp hhex c hc
    have hhex' : IsHex (strip0x s') := fun c hc => List.all_eq_true.mp hhex' c hc
    rw [byteLength_of_isHex hhex] at hlength
    rw [byteLength_of_isHex hhex'] at hlength'
    have hdigits : (strip0x s).map Char.toLower = (strip0x s').map Char.toLower := by
      refine eq_of_hexValue (isLowerHex_map_toLower hhex) (isLowerHex_map_toLower hhex') ?_ ?_
      · rw [List.length_map, List.length_map, hlength, hlength']
      · rw [hexValue_map_toLower, hexValue_map_toLower, hvalue]
    rw [← Except.ok.inj h, ← Except.ok.inj h', toLowercase_digits hlower hhex,
      toLowercase_digits hlower hhex', hdigits]
  cases fam with
  | evm ev => exact hword h h' (Option.some.inj hsame)
  | solana => exact hword h h' (Option.some.inj hsame)
  | starknet st =>
      obtain ⟨_, -, h⟩ := bind_ok.mp h
      obtain ⟨v, hv, h⟩ := bind_ok.mp h
      obtain ⟨_, -, h'⟩ := bind_ok.mp h'
      obtain ⟨v', hv', h'⟩ := bind_ok.mp h'
      have hread : x.starknet.from_hex (trim s) = some v := okOr_ok.mp hv
      have hread' : x.starknet.from_hex (trim s') = some v' := okOr_ok.mp hv'
      have hsame : (x.starknet.from_hex (trim s)).map (·.val)
          = (x.starknet.from_hex (trim s')).map (·.val) := hsame
      rw [hread, hread'] at hsame
      rw [← Except.ok.inj h, ← Except.ok.inj h', Fin.val_injective (Option.some.inj hsame)]

/-- Two claims have one key exactly if they are for one chain and one signing hash. -/
theorem roundKey_eq_iff (hfelt : ∀ v, ∃ ds, x.felt_lower_hex v = '0' :: 'x' :: ds ∧
      IsHex ds ∧ hexValue ds = v.val) {c d : Claim x families} : c.key = d.key ↔ c.Same d := by
  obtain ⟨hchain, htext⟩ := c.task_eq
  obtain ⟨hchain', htext'⟩ := d.task_eq
  rw [Claim.key, Claim.key, roundKey, roundKey, hchain, hchain']
  constructor
  · intro h
    have hcolon : ∀ chain : Chain, ':' ∉ chain.debugName.toList := by
      intro chain
      cases chain <;> decide
    obtain ⟨hname, hhash⟩ := append_sep_inj (hcolon _) (hcolon _) h
    refine ⟨?_, ?_⟩
    · exact Chain.debugName_inj (String.toList_inj.mp hname)
    · obtain ⟨ds, -, hds, hvalue⟩ := canonicalHash_digits hlower hfelt htext
      obtain ⟨es, -, hes, hvalue'⟩ := canonicalHash_digits hlower hfelt htext'
      rw [hds, hes] at hhash
      rw [hvalue, hvalue', (List.cons.inj (List.cons.inj hhash).2).2]
  · rintro ⟨hsame, hhash⟩
    have hfam : c.fam = d.fam := by
      have hknown := c.known
      rw [hsame, d.known] at hknown
      exact (Option.some.inj hknown).symm
    rw [hfam] at htext hhash
    rw [hsame, canonicalHash_eq hlower htext htext' hhash]

end

end

/-! ## Runs of the worker -/

section
variable (x : ClaimCrates) (families : Chain → Option FamilyRt)

/-- A round in `execute`, and when its key was inserted. -/
structure Round where
  claim : Claim x families
  since : Nat

/-- The map, and the rounds that were begun and are not finished. -/
structure RoundsState where
  recent : Recent
  running : List (Round x families)
  clock : Nat

def RoundsState.start (clock : Nat) : RoundsState x families := ⟨fun _ => none, [], clock⟩

/-- What `execute` returned, or nothing when it timed out. -/
abbrev Outcome := Option (Except Trace Text)

def Outcome.confirmed : Outcome → Bool
  | some (.ok _) => true
  | _ => false

inductive RoundEvent
  | arrived (claim : Claim x families) (now : Nat) (begun : Bool)
  | ended (round : Round x families) (now : Nat) (outcome : Outcome)

/-- `run_round` up to `execute`, and after it. -/
inductive RoundStep : RoundsState x families → RoundEvent x families → RoundsState x families → Prop
  | arrive {s : RoundsState x families} {scan : Text → Nat} {now : Nat} {claim : Claim x families}
      (hscan : Scans s.clock now scan) :
      RoundStep s (.arrived claim now (s.recent.tryBegin scan now claim.key).2)
        { recent := (s.recent.tryBegin scan now claim.key).1
          running := if (s.recent.tryBegin scan now claim.key).2 then ⟨claim, now⟩ :: s.running
            else s.running
          clock := now }
  | finish {s : RoundsState x families} {i now : Nat} {round : Round x families} {outcome : Outcome}
      (hround : s.running[i]? = some round) (hnow : s.clock ≤ now) :
      RoundStep s (.ended round now outcome)
        { recent := s.recent.finish now round.claim.key outcome.confirmed
          running := s.running.eraseIdx i
          clock := now }

/-- Rounds end within the timeout, or `lag` later: nothing happens after that while one runs. -/
def Timely (lag : Nat) (tr : List (Transition (RoundsState x families) (RoundEvent x families))) :
    Prop :=
  ∀ u ∈ tr, ∀ round ∈ u.pre.running, u.post.clock ≤ round.since + ROUND_TIMEOUT + lag

end

section
variable {x : ClaimCrates} {families : Chain → Option FamilyRt} {s s' : RoundsState x families}
  {a : RoundEvent x families} {lag : Nat}

def Round.key (r : Round x families) : Text := r.claim.key

/-! ## What a step does -/

/-- A key that is known is not begun; an entry is known as long as it is recent. -/
theorem tryBegin_known {m : Recent} {scan : Text → Nat} {now : Nat} {key other : Text}
    {e : Nat × Bool} (he : m other = some e) (hrecent : isRecent (scan other) e = true) :
    (m.tryBegin scan now key).1 other = some e ∧
      ((m.tryBegin scan now key).2 = true → other ≠ key) := by
  have hkept : retain isRecent scan m other = some e := retain_eq_some.mpr ⟨he, hrecent⟩
  unfold Recent.tryBegin
  dsimp only
  cases hentry : (retain isRecent scan m key).isSome with
  | true => exact ⟨hkept, fun h => absurd h Bool.false_ne_true⟩
  | false =>
      have hne : other ≠ key := by
        rintro rfl
        rw [hkept] at hentry
        cases hentry
      exact ⟨(Function.update_of_ne hne _ _).trans hkept, fun _ => hne⟩

/-- A key that is not known is begun. -/
theorem tryBegin_unknown {m : Recent} {scan : Text → Nat} {now : Nat} {key : Text}
    (h : m key = none) : (m.tryBegin scan now key).2 = true := by
  unfold Recent.tryBegin
  dsimp only
  rw [retain_eq_none h]
  rfl

theorem tryBegin_begun {m : Recent} {scan : Text → Nat} {now : Nat} {key : Text}
    (h : (m.tryBegin scan now key).2 = true) :
    (m.tryBegin scan now key).1 key = some (now, false) := by
  unfold Recent.tryBegin at h ⊢
  dsimp only at h ⊢
  cases hentry : (retain isRecent scan m key).isSome with
  | true =>
      rw [hentry] at h
      cases h
  | false => exact Function.update_self key _ _

/-- A key that is not known stays so while others begin. -/
theorem tryBegin_absent {m : Recent} {scan : Text → Nat} {now : Nat} {key other : Text}
    (h : m other = none) (hne : other ≠ key) : (m.tryBegin scan now key).1 other = none := by
  unfold Recent.tryBegin
  dsimp only
  cases (retain isRecent scan m key).isSome with
  | true => exact retain_eq_none h
  | false => exact (Function.update_of_ne hne _ _).trans (retain_eq_none h)

theorem finish_of_ne {m : Recent} {now : Nat} {key other : Text} {ok : Bool} (hne : other ≠ key) :
    m.finish now key ok other = m other := by
  cases ok <;> exact Function.update_of_ne hne _ _

theorem RoundStep.arrived {claim : Claim x families} {now : Nat} {begun : Bool}
    (h : RoundStep x families s (.arrived claim now begun) s') :
    ∃ scan, begun = (s.recent.tryBegin scan now claim.key).2 := by
  cases h with
  | arrive hscan => exact ⟨_, rfl⟩

/-! ## Running rounds -/

/-- Every running round holds its key, and no two have the same. -/
structure Held (s : RoundsState x families) : Prop where
  entry : ∀ round ∈ s.running, s.recent round.key = some (round.since, false)
  apart : (s.running.map Round.key).Nodup

theorem Held.ne_of_erased (h : Held s) {i : Nat} {round : Round x families}
    (hround : s.running[i]? = some round) {other : Round x families}
    (hother : other ∈ s.running.eraseIdx i) : other.key ≠ round.key := by
  obtain ⟨hlt, hget⟩ := List.getElem?_eq_some_iff.mp hround
  have hperm := List.getElem_cons_eraseIdx_perm hlt
  have hnodup := (hperm.map Round.key).nodup_iff.mpr h.apart
  rw [hget, List.map_cons, List.nodup_cons] at hnodup
  intro heq
  exact hnodup.1 (heq ▸ List.mem_map_of_mem hother)

theorem Held.step (h : Held s) (hstep : RoundStep x families s a s')
    (hlag : ROUND_TIMEOUT + lag < DEDUPE_TTL)
    (htimely : ∀ round ∈ s.running, s'.clock ≤ round.since + ROUND_TIMEOUT + lag) : Held s' := by
  cases hstep with
  | @arrive scan now claim hscan =>
      have hknown : ∀ round ∈ s.running,
          (s.recent.tryBegin scan now claim.key).1 round.key = some (round.since, false) ∧
            ((s.recent.tryBegin scan now claim.key).2 = true → round.key ≠ claim.key) := by
        intro round hround
        refine tryBegin_known (h.entry round hround) (decide_eq_true ?_)
        have hle := (hscan round.key).2
        have htime := htimely round hround
        dsimp only at htime ⊢
        omega
      cases hbegun : (s.recent.tryBegin scan now claim.key).2 with
      | false =>
          refine ⟨?_, ?_⟩
          · rw [if_neg Bool.false_ne_true]
            exact fun round hround => (hknown round hround).1
          · rw [if_neg Bool.false_ne_true]
            exact h.apart
      | true =>
          refine ⟨?_, ?_⟩
          · rw [if_pos rfl]
            intro round hround
            rcases List.mem_cons.mp hround with rfl | hround
            · exact tryBegin_begun hbegun
            · exact (hknown round hround).1
          · rw [if_pos rfl, List.map_cons, List.nodup_cons]
            refine ⟨?_, h.apart⟩
            intro hmem
            obtain ⟨round, hround, hkey⟩ := List.mem_map.mp hmem
            exact (hknown round hround).2 hbegun hkey
  | @finish i now round outcome hround hnow =>
      refine ⟨?_, ?_⟩
      · intro other hother
        have hne := h.ne_of_erased hround hother
        exact (finish_of_ne hne).trans (h.entry other (List.mem_of_mem_eraseIdx hother))
      · exact h.apart.sublist ((List.eraseIdx_sublist _ _).map Round.key)

/-! ## Keys that are done or free -/

/-- The key was confirmed at `since` and runs no more, or the time is over. -/
def Done (key : Text) (since : Nat) (s : RoundsState x families) : Prop :=
  (s.recent key = some (since, true) ∧ ∀ round ∈ s.running, round.key ≠ key) ∨
    since + DEDUPE_TTL ≤ s.clock

theorem Done.step {key : Text} {since : Nat} (h : Done key since s)
    (hstep : RoundStep x families s a s') :
    Done key since s' ∧ ∀ claim now, a = .arrived claim now true → claim.key = key →
      since + DEDUPE_TTL ≤ now := by
  cases hstep with
  | @arrive scan now claim hscan =>
      have hclock : s.clock ≤ now := Nat.le_trans (hscan []).1 (hscan []).2
      have hlate : since + DEDUPE_TTL ≤ now →
          Done key since ⟨(s.recent.tryBegin scan now claim.key).1,
            if (s.recent.tryBegin scan now claim.key).2 then ⟨claim, now⟩ :: s.running
              else s.running, now⟩ ∧
          ∀ claim' now', RoundEvent.arrived claim now (s.recent.tryBegin scan now claim.key).2
            = .arrived claim' now' true → claim'.key = key → since + DEDUPE_TTL ≤ now' := by
        intro hover
        refine ⟨.inr hover, ?_⟩
        intro claim' now' hact hkey
        injection hact with hclaim hnow hbegun
        exact hnow ▸ hover
      rcases h with ⟨hentry, hidle⟩ | hover
      · by_cases hrecent : isRecent (scan key) (since, true) = true
        · obtain ⟨hkept, hother⟩ := @tryBegin_known _ scan now claim.key _ _ hentry hrecent
          refine ⟨.inl ⟨hkept, ?_⟩, ?_⟩
          · intro round hround
            cases hbegun : (s.recent.tryBegin scan now claim.key).2 with
            | false =>
                rw [hbegun, if_neg Bool.false_ne_true] at hround
                exact hidle round hround
            | true =>
                rw [hbegun, if_pos rfl] at hround
                rcases List.mem_cons.mp hround with rfl | hround
                · exact (hother hbegun).symm
                · exact hidle round hround
          · intro claim' now' hact hkey
            injection hact with hclaim hnow' hbegun
            exact absurd (hclaim ▸ hkey.symm) (hother hbegun)
        · refine hlate ?_
          have hread := (hscan key).2
          have hold : ¬ scan key - since < DEDUPE_TTL := fun hlt => hrecent (decide_eq_true hlt)
          have hpositive : 0 < DEDUPE_TTL := by decide
          omega
      · exact hlate (by omega)
  | @finish i now round outcome hround hnow =>
      refine ⟨?_, fun claim now hact => by cases hact⟩
      rcases h with ⟨hentry, hidle⟩ | hover
      · left
        have hne := hidle round (List.mem_of_getElem? hround)
        refine ⟨(finish_of_ne (Ne.symm hne)).trans hentry, ?_⟩
        exact fun other hother => hidle other (List.mem_of_mem_eraseIdx hother)
      · right
        dsimp only
        omega

/-- The key is not known and runs no more. -/
def Free (key : Text) (s : RoundsState x families) : Prop :=
  s.recent key = none ∧ ∀ round ∈ s.running, round.key ≠ key

theorem Free.step {key : Text} (h : Free key s) (hstep : RoundStep x families s a s')
    (hother : ∀ claim now begun, a = .arrived claim now begun → claim.key ≠ key) : Free key s' := by
  obtain ⟨hentry, hidle⟩ := h
  cases hstep with
  | @arrive scan now claim hscan =>
      have hne := hother claim now _ rfl
      refine ⟨tryBegin_absent hentry (Ne.symm hne), ?_⟩
      intro round hround
      cases hbegun : (s.recent.tryBegin scan now claim.key).2 with
      | false =>
          rw [hbegun, if_neg Bool.false_ne_true] at hround
          exact hidle round hround
      | true =>
          rw [hbegun, if_pos rfl] at hround
          rcases List.mem_cons.mp hround with rfl | hround
          · exact hne
          · exact hidle round hround
  | @finish i now round outcome hround hnow =>
      have hne := hidle round (List.mem_of_getElem? hround)
      exact ⟨(finish_of_ne (Ne.symm hne)).trans hentry,
        fun other hmem => hidle other (List.mem_of_mem_eraseIdx hmem)⟩

theorem Free.begun {key : Text} (h : Free key s) {claim : Claim x families} {now : Nat}
    {begun : Bool} (hstep : RoundStep x families s (.arrived claim now begun) s')
    (hkey : claim.key = key) : begun = true := by
  obtain ⟨scan, rfl⟩ := hstep.arrived
  exact tryBegin_unknown (hkey ▸ h.1)

/-- After a round its key is done or free. -/
theorem Held.ended (h : Held s) {round : Round x families} {now : Nat} {outcome : Outcome}
    (hstep : RoundStep x families s (.ended round now outcome) s') :
    if outcome.confirmed then Done round.key now s' else Free round.key s' := by
  cases hstep with
  | @finish i now round outcome hround hnow =>
      have hidle : ∀ other ∈ s.running.eraseIdx i, other.key ≠ round.key :=
        fun other hother => h.ne_of_erased hround hother
      cases hconfirmed : outcome.confirmed with
      | true => exact .inl ⟨Function.update_self _ _ _, hidle⟩
      | false => exact ⟨Function.update_self _ _ _, hidle⟩

/-! ## The law over runs -/

theorem held_run {clock : Nat} {tr : List (Transition (RoundsState x families)
      (RoundEvent x families))} (h : Steps (RoundStep x families) (.start x families clock) tr s)
    (hlag : ROUND_TIMEOUT + lag < DEDUPE_TTL) (htimely : Timely x families lag tr) : Held s :=
  h.invariant (I := Held) (fun _ _ _ hstep htime hheld => hheld.step hstep hlag htime) htimely
    ⟨fun _ hround => absurd hround List.not_mem_nil, List.nodup_nil⟩

end

/-- **De-duplication.**  In every run whose rounds end within `ROUND_TIMEOUT` (or `lag` later, while
that is below the TTL), for a hash in whatever accepted spellings: no two running rounds are for one
chain and hash; after a confirmed round the next one for its hash begins a TTL later at the
earliest; and after a round that failed or timed out the next task for its hash is executed. -/
theorem rounds_deduplicated {x : ClaimCrates} {families : Chain → Option FamilyRt}
    (hdoc : x.toCrates.Documented) (haddresses : x.addresses.Documented) {lag : Nat}
    (hlag : ROUND_TIMEOUT + lag < DEDUPE_TTL) {clock : Nat} {s : RoundsState x families}
    {tr : List (Transition (RoundsState x families) (RoundEvent x families))}
    (h : Steps (RoundStep x families) (.start x families clock) tr s)
    (htimely : Timely x families lag tr) :
    (s.running.Pairwise fun r r' => ¬ r.claim.Same r'.claim) ∧
    ∀ before middle after u v round now outcome claim now' begun,
      tr = before ++ u :: (middle ++ v :: after) → u.act = .ended round now outcome →
      v.act = .arrived claim now' begun → claim.Same round.claim →
        (outcome.confirmed = true → begun = true → now + DEDUPE_TTL ≤ now') ∧
        (outcome.confirmed = false → (∀ t ∈ middle, ∀ other n b,
            t.act = .arrived other n b → ¬ other.Same round.claim) → begun = true) := by
  have hfelt : ∀ v, ∃ ds, x.felt_lower_hex v = '0' :: 'x' :: ds ∧ IsHex ds ∧
      hexValue ds = v.val := by
    intro v
    obtain ⟨ds, hds, -, -, hhex, hvalue⟩ := haddresses.writes_felt v
    exact ⟨ds, hds, hhex, hvalue⟩
  have hkey : ∀ {c d : Claim x families}, c.key = d.key ↔ c.Same d :=
    roundKey_eq_iff hdoc.to_lowercase hfelt
  refine ⟨?_, ?_⟩
  · have hapart := (held_run h hlag htimely).apart
    rw [List.Nodup, List.pairwise_map] at hapart
    exact hapart.imp fun hne hsame => hne (hkey.mpr hsame)
  · rintro before middle after u v round now outcome claim now' begun rfl hu hv hsame
    obtain ⟨hbefore, hstep, hafter⟩ := h.cut
    obtain ⟨hmiddle, hstep', -⟩ := hafter.cut
    have hheld : Held u.pre := held_run hbefore hlag fun t ht =>
      htimely t (List.mem_append_left _ ht)
    rw [hu] at hstep
    rw [hv] at hstep'
    have hended := hheld.ended hstep
    have hclaim : claim.key = round.key := hkey.mpr hsame
    refine ⟨?_, ?_⟩
    · intro hconfirmed hbegun
      rw [hconfirmed, if_pos rfl] at hended
      have hdone : Done round.key now v.pre :=
        hmiddle.invariant (P := fun _ => True) (fun _ _ _ hs _ hd => (hd.step hs).1)
          (fun _ _ => trivial) hended
      exact (hdone.step hstep').2 claim now' (by rw [hbegun]) hclaim
    · intro hfailed hothers
      rw [hfailed, if_neg Bool.false_ne_true] at hended
      have hfree : Free round.key v.pre := by
        refine hmiddle.invariant
          (P := fun t => ∀ other n b, t.act = .arrived other n b → other.key ≠ round.key)
          (fun _ _ _ hs hother hf => hf.step hs hother) ?_ hended
        intro t ht other n b hact hkey'
        exact hothers t ht other n b hact (hkey.mp hkey')
      exact hfree.begun hstep' hclaim

/-! ## A hash in two spellings -/

namespace RoundSample

def crates : ClaimCrates where
  toCrates := { plainCrates with
    solana := plainAddressCrates.solana
    pubkey_to_string := plainAddressCrates.pubkey_to_string }
  address_lower_hex := plainAddressCrates.address_lower_hex
  felt_lower_hex := plainAddressCrates.felt_lower_hex

theorem documented : crates.toCrates.Documented := ⟨plainStarknet_documented, fun _ _ => rfl⟩

def families : Chain → Option FamilyRt
  | .base => some (.evm ⟨1, 2, 3, none, 3600⟩)
  | _ => none

def request (tx_hash : Text) : ClaimRequest where
  chain := .base
  tx_hash := tx_hash
  derived_address := '0' :: 'x' :: List.replicate 40 '7'
  client_sig := .ecdsa "1".toList "2".toList none
  calls := ⟨[], nil_fits⟩
  verified_token := "token".toList
  auth3009 := none
  starknet := none
  message_bytes := none

def task : StealthTask where
  chain := .base
  tx_hash := '0' :: 'x' :: List.replicate 64 'a'
  derived_address := '0' :: 'x' :: List.replicate 40 '7'
  client_sig := .ecdsa "1".toList "2".toList none
  calls := ⟨[], nil_fits⟩
  auth3009 := none
  starknet := none
  message_bytes := none

def lower : Claim crates families where
  req := request ('0' :: 'x' :: List.replicate 64 'a')
  fam := .evm ⟨1, 2, 3, none, 3600⟩
  task := task
  known := rfl
  accepted := by decide +kernel

def upper : Claim crates families where
  req := request (List.replicate 64 'A')
  fam := .evm ⟨1, 2, 3, none, 3600⟩
  task := task
  known := rfl
  accepted := by decide +kernel

def arrive (s : RoundsState crates families) (c : Claim crates families) (now : Nat) :
    Transition (RoundsState crates families) (RoundEvent crates families) where
  pre := s
  act := .arrived c now (s.recent.tryBegin (fun _ => now) now c.key).2
  post :=
    { recent := (s.recent.tryBegin (fun _ => now) now c.key).1
      running := if (s.recent.tryBegin (fun _ => now) now c.key).2 then ⟨c, now⟩ :: s.running
        else s.running
      clock := now }

def finish (s : RoundsState crates families) (round : Round crates families) (now : Nat)
    (outcome : Outcome) :
    Transition (RoundsState crates families) (RoundEvent crates families) where
  pre := s
  act := .ended round now outcome
  post := ⟨s.recent.finish now round.key outcome.confirmed, s.running.eraseIdx 0, now⟩

def t₁ := arrive (.start crates families 0) lower 0
def t₂ := arrive t₁.post upper 1
def t₃ := finish t₂.post ⟨lower, 0⟩ 2 none
def t₄ := arrive t₃.post upper 3
def t₅ := finish t₄.post ⟨upper, 3⟩ 4 (some (.ok "0x01".toList))
def t₆ := arrive t₅.post lower 5
def t₇ := arrive t₆.post lower (4 + secs 3600)

def run : List (Transition (RoundsState crates families) (RoundEvent crates families)) :=
  [t₁, t₂, t₃, t₄, t₅, t₆, t₇]

def begun (t : Transition (RoundsState crates families) (RoundEvent crates families)) : Bool :=
  match t.act with
  | .arrived _ _ b => b
  | .ended _ _ _ => false

theorem begun_run : run.map begun = [true, false, false, true, false, false, true] := by
  decide +kernel

theorem steps : Steps (RoundStep crates families) (.start crates families 0) run t₇.post :=
  .step (.arrive (scans_const (Nat.le_refl 0)))
    (.step (.arrive (scans_const (Nat.zero_le 1)))
      (.step (.finish (i := 0) (by rfl) (show 1 ≤ 2 by decide))
        (.step (.arrive (scans_const (show 2 ≤ 3 by decide)))
          (.step (.finish (i := 0) (by rfl) (show 3 ≤ 4 by decide))
            (.step (.arrive (scans_const (show 4 ≤ 5 by decide)))
              (.step (.arrive (scans_const (show 5 ≤ 4 + secs 3600 by decide))) (.refl _)))))))

theorem timely : Timely crates families 0 run := by
  have hall : (run.all fun u => u.pre.running.all fun round =>
      decide (u.post.clock ≤ round.since + ROUND_TIMEOUT + 0)) = true := by
    decide +kernel
  intro u hu round hround
  exact of_decide_eq_true (List.all_eq_true.mp (List.all_eq_true.mp hall u hu) round hround)

theorem same : upper.Same lower := ⟨rfl, by decide +kernel⟩

end RoundSample

open RoundSample in
/-- The second spelling is dropped while the first runs and executed after it timed out; the first
is executed again an hour after the second was confirmed. -/
theorem rounds_deduplicated_run :
    run.map begun = [true, false, false, true, false, false, true] ∧
      (t₇.post.running.Pairwise fun r r' => ¬ r.claim.Same r'.claim) ∧
      begun t₄ = true ∧ 4 + DEDUPE_TTL ≤ 4 + secs 3600 := by
  obtain ⟨hapart, hlaw⟩ := rounds_deduplicated documented plainAddressCrates_documented
    (show ROUND_TIMEOUT + 0 < DEDUPE_TTL by decide) steps timely
  refine ⟨begun_run, hapart, ?_, ?_⟩
  · refine (hlaw [t₁, t₂] [] [t₅, t₆, t₇] t₃ t₄ ⟨lower, 0⟩ 2 none upper 3 (begun t₄) rfl rfl rfl
      same).2 rfl ?_
    exact fun t ht => absurd ht List.not_mem_nil
  · exact (hlaw [t₁, t₂, t₃, t₄] [t₆] [] t₅ t₇ ⟨upper, 3⟩ 4 (some (.ok "0x01".toList)) lower
      (4 + secs 3600) (begun t₇) rfl rfl rfl ⟨same.1.symm, same.2.symm⟩).1 rfl (by decide +kernel)

end Beanie.Api
