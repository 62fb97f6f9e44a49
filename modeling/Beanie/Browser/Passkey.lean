/-
# `Beanie.Browser.Passkey` — the passkey that private lanes hang on

`passkey.js`: what a browser keeps of its passkeys, and its ceremonies as
asynchronous calls.  A tab has at most one registration under way; the answers of
the server and of the authenticator come in any order, and may be refusals.

    prf_root_pinned    the root is set once, to a passkey that can evaluate the
                       PRF, and the secret a lane was made from is the one that
                       the passkey recorded with it gives again
-/
import Beanie.Browser.Requests
import Beanie.Lib.Async
import Beanie.Lib.Base64

namespace Beanie.Browser

open Async

/-! ## Encoding -/

/-- One letter of `replace(/a/g, b)`. -/
def replaceChar (a b c : Char) : Char := if c = a then b else c

def bufferToBase64Url (bytes : Bytes) : Text :=
  ((((base64Encode bytes).map (replaceChar '+' '-')).map (replaceChar '/' '_')).reverse.dropWhile
    (· = '=')).reverse

/-- `atob` is the platform's; it throws where a text is no base64. -/
def base64UrlToBuffer (atob : Text → Option Bytes) (base64url : Text) : Option Bytes :=
  if base64url = [] then some []
  else
    let base64 := (base64url.map (replaceChar '-' '+')).map (replaceChar '_' '/')
    atob (padEnd base64 (base64.length + (4 - base64.length % 4) % 4) '=')

/-! ## Storage -/

structure Archived where
  id : Text
  prf : Bool
  createdAt : Nat
deriving DecidableEq

/-- The three keys of `localStorage`. -/
structure Credentials where
  root : Option Text
  auth : Option Text
  archive : List Archived
deriving DecidableEq

def Credentials.fresh : Credentials := ⟨none, none, []⟩

/-- What `registerCredential` resolves to, and the time of the archive entry. -/
structure Registered where
  id : Text
  prfEnabled : Bool
  createdAt : Nat
deriving DecidableEq

/-- `archive` -/
def archiveCredential (r : Registered) (s : Credentials) : Credentials :=
  if s.archive.any fun c => c.id = r.id then s
  else { s with archive := s.archive ++ [⟨r.id, r.prfEnabled, r.createdAt⟩] }

/-! ## Ceremonies -/

/-- An answer of the authenticator: the id of the passkey that was used, and the PRF's output. -/
structure Assertion where
  credential : Bytes
  prf : Option Bytes
deriving DecidableEq

inductive StartAnswer
  | options (sessionToken : Text) (allowCredentials : List Text)
  | status (code : Nat)
  | failed

/-- What a ceremony awaits. -/
inductive Question
  | authStart (credentialId binding : Text) (maxUses : Nat)
  | get (allowCredentials : List Bytes) (salt : Option Bytes)
  | authFinish (sessionToken : Text) (credential : Assertion)

def Question.Answer : Question → Type
  | .authStart .. => StartAnswer
  | .get .. => Option Assertion
  | .authFinish .. => Option Text

abbrev Ceremony (α : Type) := Async Question Question.Answer Credentials Registered α

structure VerifiedToken where
  verifiedToken : Text
  prfOutput : Option Bytes
  credentialId : Text
deriving DecidableEq

structure VerifiedTokenWithPrf where
  verifiedToken : Text
  prfOutput : Bytes
  prfCredentialId : Text
deriving DecidableEq

def getPrfRootId : Ceremony (Option Text) := do
  let s ← Async.get
  return s.root

def getAuthId : Ceremony (Option Text) := do
  let s ← Async.get
  return s.auth

def registerCredential : Ceremony Registered := Async.flight

/-- `api.webauthn.authStart` -/
def authStart (credentialId binding : Text) (maxUses : Nat) : Ceremony StartAnswer :=
  .ask (.authStart credentialId binding maxUses) .done

/-- `navigator.credentials.get` -/
def credentialsGet (allowCredentials : List Bytes) (salt : Option Bytes) :
    Ceremony (Option Assertion) :=
  .ask (.get allowCredentials salt) .done

/-- `api.webauthn.authFinish` -/
def authFinish (sessionToken : Text) (credential : Assertion) : Ceremony (Option Text) :=
  .ask (.authFinish sessionToken credential) .done

def adoptAuth (cred : Registered) (asAuth : Bool) : Ceremony Unit :=
  if asAuth then Async.modify fun s => { s with auth := some cred.id } else pure ()

def adoptRoot (cred : Registered) : Ceremony Unit :=
  if cred.prfEnabled then do
    let root ← getPrfRootId
    if truthy root = none then Async.modify fun s => { s with root := some cred.id } else pure ()
  else pure ()

def adopt (cred : Registered) (asAuth : Bool) : Ceremony Unit := do
  adoptAuth cred asAuth
  adoptRoot cred

def ensureAuthCredential : Ceremony Text := do
  let existing ← getAuthId
  match truthy existing with
  | some id => return id
  | none => do
      let cred ← registerCredential
      adopt cred true
      return cred.id

def ensurePrfRoot : Ceremony Text := do
  let root ← getPrfRootId
  match truthy root with
  | some id => return id
  | none => do
      let cred ← registerCredential
      let auth ← getAuthId
      adopt cred (truthy auth = none)
      if cred.prfEnabled then return cred.id else .fail

section
variable (atob : Text → Option Bytes)

/-- One of these passkeys asked; a prompt that is cancelled fails. -/
def assertion (ids : List Text) (salt : Option Bytes) : Ceremony Assertion :=
  match ids.mapM (base64UrlToBuffer atob) with
  | none => .fail
  | some allowed => do
      match ← credentialsGet allowed salt with
      | some a => return a
      | none => .fail

/-- What is left of an attempt once the server has sent the options. -/
def finishAttempt (credentialId : Text) (salt : Option Bytes) (sessionToken : Text)
    (allowCredentials : List Text) : Ceremony VerifiedToken := do
  let root ← getPrfRootId
  let a ← assertion atob allowCredentials (if root = some credentialId then salt else none)
  match ← authFinish sessionToken a with
  | some token => return ⟨token, a.prf, credentialId⟩
  | none => .fail

/-- The attempts that are left; the first of two registers anew where the server has forgotten the
passkey. -/
def attempts (binding : Text) (salt : Option Bytes) (maxUses : Nat) : Nat → Ceremony VerifiedToken
  | 0 => .fail
  | left + 1 => do
      let credentialId ← ensureAuthCredential
      match ← authStart credentialId binding maxUses with
      | .options sessionToken allowCredentials =>
          finishAttempt atob credentialId salt sessionToken allowCredentials
      | .status code =>
          if code = 409 ∧ left = 1 then do
            let fresh ← registerCredential
            adopt fresh true
            attempts binding salt maxUses left
          else .fail
      | .failed => .fail

def getVerifiedToken (binding : Text) (salt : Option Bytes) (maxUses : Nat) :
    Ceremony VerifiedToken :=
  attempts atob binding salt maxUses 2

/-- Without an id any passkey may be chosen. -/
def evaluatePrfWith (salt : Bytes) (credentialId : Option Text) : Ceremony Bytes := do
  let a ← assertion atob (truthy credentialId).toList (some salt)
  match a.prf with
  | some out => return out
  | none => .fail

/-- The id stands at the root where none is passed. -/
def evaluatePrf (salt : Bytes) : Option Text → Ceremony Bytes
  | some id => evaluatePrfWith atob salt (some id)
  | none => do
      let root ← getPrfRootId
      evaluatePrfWith atob salt root

/-- The PRF first, so that the token is minted as late as possible. -/
def prfThenToken (root binding : Text) (salt : Bytes) (maxUses : Nat) :
    Ceremony VerifiedTokenWithPrf := do
  let prfOutput ← evaluatePrf atob salt (some root)
  let r ← getVerifiedToken atob binding none maxUses
  return ⟨r.verifiedToken, prfOutput, root⟩

def getVerifiedTokenWithPrf (binding : Text) (salt : Bytes) (maxUses : Nat) :
    Ceremony VerifiedTokenWithPrf := do
  let root ← ensurePrfRoot
  let auth ← getAuthId
  if auth = some root then do
    let r ← getVerifiedToken atob binding (some salt) maxUses
    match r.prfOutput with
    | some prfOutput =>
        if r.credentialId = root then return ⟨r.verifiedToken, prfOutput, root⟩
        else prfThenToken atob root binding salt maxUses
    | none => prfThenToken atob root binding salt maxUses
  else prfThenToken atob root binding salt maxUses

/-! ## What the pages call -/

inductive PasskeyRequest
  | ensurePrfRoot
  | getVerifiedToken (binding : Text) (salt : Option Bytes) (maxUses : Nat)
  | evaluatePrf (salt : Bytes) (credentialId : Option Text)
  | getVerifiedTokenWithPrf (binding : Text) (salt : Bytes) (maxUses : Nat)

inductive PasskeyResult
  | root (id : Text)
  | token (r : VerifiedToken)
  | secret (out : Bytes)
  | tokenWithPrf (r : VerifiedTokenWithPrf)

def PasskeyRequest.code : PasskeyRequest → Ceremony PasskeyResult
  | .ensurePrfRoot => do return .root (← Browser.ensurePrfRoot)
  | .getVerifiedToken binding salt maxUses => do
      return .token (← Browser.getVerifiedToken atob binding salt maxUses)
  | .evaluatePrf salt credentialId => do
      return .secret (← Browser.evaluatePrf atob salt credentialId)
  | .getVerifiedTokenWithPrf binding salt maxUses => do
      return .tokenWithPrf (← Browser.getVerifiedTokenWithPrf atob binding salt maxUses)

end

/-- What a passkey is, by its raw id: whether it can evaluate the PRF, and to what. -/
structure Authenticator where
  enabled : Bytes → Bool
  prf : Bytes → Bytes → Bytes
  atob : Text → Option Bytes

/-- `atob` takes what `btoa` writes. -/
def Authenticator.Documented (w : Authenticator) : Prop :=
  ∀ bytes, w.atob (base64Encode bytes) = some bytes

/-- The server asks for the passkey it was told of; an assertion is by a passkey that was asked for,
with an output only where the PRF was asked for; a registration tells the passkey's own id. -/
def Authenticator.world (w : Authenticator) :
    World Question Question.Answer Credentials Registered where
  answers
    | .authStart credentialId _ _, .options _ allowCredentials => allowCredentials = [credentialId]
    | .get allowed salt, some a => (allowed = [] ∨ a.credential ∈ allowed) ∧
        ∀ out ∈ a.prf, w.enabled a.credential = true ∧ ∃ x ∈ salt, out = w.prf a.credential x
    | _, _ => True
  lands r := ∃ raw, raw ≠ [] ∧ r.id = bufferToBase64Url raw ∧ r.prfEnabled = w.enabled raw
  keep := archiveCredential

abbrev PasskeyStep (w : Authenticator) {τ : Type} [DecidableEq τ] :=
  CallsStep (τ := τ) (PasskeyRequest.code w.atob) w.world

/-! ## Encoding, read back -/

/-- A letter as it stands in a URL. -/
def urlChar (d : Nat) : Char := replaceChar '/' '_' (replaceChar '+' '-' (base64Char d))

theorem urlChar_letter {d : Nat} (h : d < 64) :
    urlChar d ≠ '=' ∧ replaceChar '_' '/' (replaceChar '-' '+' (urlChar d)) = base64Char d := by
  have hall : ∀ d < 64, urlChar d ≠ '=' ∧
      replaceChar '_' '/' (replaceChar '-' '+' (urlChar d)) = base64Char d := by decide +kernel
  exact hall d h

theorem bufferToBase64Url_letters {bytes : Bytes} {ds : List Nat} {k : Nat}
    (htext : base64Encode bytes = ds.map base64Char ++ List.replicate k '=')
    (hds : ∀ d ∈ ds, d < 64) : bufferToBase64Url bytes = ds.map urlChar := by
  rw [bufferToBase64Url, htext, List.map_append, List.map_append, List.map_map, List.map_map,
    List.map_replicate, List.map_replicate, List.reverse_append, List.reverse_replicate,
    List.dropWhile_append_of_pos (fun c hc => decide_eq_true (List.eq_of_mem_replicate hc)),
    List.dropWhile_eq_self_iff.mpr, List.reverse_reverse]
  · rfl
  · intro hpos hpad
    obtain ⟨d, hd, heq⟩ := List.mem_map.mp (List.mem_reverse.mp (List.getElem_mem hpos))
    exact (urlChar_letter (hds d hd)).1 (heq.trans (of_decide_eq_true hpad))

theorem base64UrlToBuffer_buffer {w : Authenticator} (hatob : w.Documented) (bytes : Bytes) :
    base64UrlToBuffer w.atob (bufferToBase64Url bytes) = some bytes := by
  obtain ⟨ds, k, htext, hds, hk, hlength, hnil⟩ := base64Encode_letters bytes
  rw [bufferToBase64Url_letters htext hds, base64UrlToBuffer]
  by_cases hempty : ds = []
  · rw [hempty, hnil hempty]
    rfl
  · have hback : ((ds.map urlChar).map (replaceChar '-' '+')).map (replaceChar '_' '/')
        = ds.map base64Char := by
      rw [List.map_map, List.map_map]
      exact List.map_congr_left fun d hd => (urlChar_letter (hds d hd)).2
    have hpad : (4 - ds.length % 4) % 4 = k := by omega
    rw [if_neg (fun h => hempty (List.map_eq_nil_iff.mp h)), hback]
    dsimp only
    rw [List.length_map, padEnd, List.length_map, Nat.add_sub_cancel_left, hpad, ← htext]
    exact hatob bytes

/-! ## What a ceremony may do -/

section
variable (w : Authenticator)

/-- The id of a passkey that can evaluate the PRF. -/
def Capable (id : Text) : Prop :=
  ∃ raw, raw ≠ [] ∧ id = bufferToBase64Url raw ∧ w.enabled raw = true

def Rooted (s : Credentials) : Prop := ∀ id, s.root = some id → Capable w id

/-- What any write may do: the root stays once it is there and is a capable passkey, and nothing
leaves the archive. -/
structure Keeps (s s' : Credentials) : Prop where
  root : ∀ id, s.root = some id → s'.root = some id
  pinned : ∀ id, s'.root = some id → s.root = some id ∨ Capable w id
  archive : ∀ e ∈ s.archive, e ∈ s'.archive

/-- The passkey of this id answers `salt` with `out`. -/
def Secret (id : Text) (salt out : Bytes) : Prop :=
  ∃ raw, base64UrlToBuffer w.atob id = some raw ∧ out = w.prf raw salt

end

variable {w : Authenticator}

theorem Keeps.refl (s : Credentials) : Keeps w s s := ⟨fun _ h => h, fun _ h => .inl h, fun _ h => h⟩

theorem Keeps.trans {s t u : Credentials} (h : Keeps w s t) (h' : Keeps w t u) : Keeps w s u where
  root id hid := h'.root id (h.root id hid)
  pinned id hid := by
    rcases h'.pinned id hid with hmid | hcapable
    · exact h.pinned id hmid
    · exact .inr hcapable
  archive e he := h'.archive e (h.archive e he)

theorem Rooted.keeps {s s' : Credentials} (h : Rooted w s) (hkeeps : Keeps w s s') :
    Rooted w s' := by
  intro id hid
  rcases hkeeps.pinned id hid with hbefore | hcapable
  · exact h id hbefore
  · exact hcapable

theorem Keeps.archived (r : Registered) (s : Credentials) : Keeps w s (archiveCredential r s) := by
  rw [archiveCredential]
  split
  · exact .refl s
  · exact ⟨fun _ h => h, fun _ h => .inl h, fun e he => List.mem_append_left _ he⟩

theorem mem_archiveCredential (r : Registered) (s : Credentials) :
    ∃ e ∈ (archiveCredential r s).archive, e.id = r.id := by
  rw [archiveCredential]
  split
  · rename_i hany
    obtain ⟨e, he, hid⟩ := List.any_eq_true.mp hany
    exact ⟨e, he, of_decide_eq_true hid⟩
  · exact ⟨_, List.mem_append_right _ (List.mem_singleton_self _), rfl⟩

theorem buffer_ne_nil {raw : Bytes} (h : raw ≠ []) : bufferToBase64Url raw ≠ [] := by
  intro hnil
  have hread := base64UrlToBuffer_buffer (w := ⟨fun _ => false, fun _ _ => [], base64Decode⟩)
    base64Decode_encode raw
  rw [hnil] at hread
  exact h (Option.some.inj hread).symm

theorem Capable.ne_nil {id : Text} (h : Capable w id) : id ≠ [] := by
  obtain ⟨raw, hraw, rfl, -⟩ := h
  exact buffer_ne_nil hraw

theorem truthy_of_ne_nil {id : Text} (h : id ≠ []) : truthy (some id) = some id := by
  cases id with
  | nil => exact absurd rfl h
  | cons c id => rfl

theorem truthy_some {o : Option Text} {id : Text} (h : truthy o = some id) : o = some id := by
  rcases o with _ | _ | ⟨c, s⟩
  · cases h
  · cases h
  · exact h

/-! ## The ceremonies, one after the other -/

theorem adopt_safe {cred : Registered} (hcred : cred.prfEnabled = true → Capable w cred.id)
    (asAuth : Bool) {s : Credentials} (hs : Rooted w s) :
    (adopt cred asAuth).Safe (Keeps w) w.world (fun s' _ => Rooted w s') s := by
  have hauth : (adoptAuth cred asAuth).Safe (Keeps w) w.world (fun s' _ => Rooted w s') s := by
    cases asAuth with
    | false => exact hs
    | true => exact ⟨⟨fun _ h => h, fun _ h => .inl h, fun _ h => h⟩, hs, hs⟩
  refine hauth.bind fun s' _ hs' => ?_
  dsimp only [adoptRoot]
  split
  · rename_i henabled
    change (if truthy s'.root = none then Async.modify fun s => { s with root := some cred.id }
      else pure () : Ceremony Unit).Safe (Keeps w) w.world (fun s' _ => Rooted w s') s'
    split
    · rename_i hnone
      have hempty : s'.root = none := by
        cases hroot : s'.root with
        | none => rfl
        | some id =>
            rw [hroot, truthy_of_ne_nil (hs' id hroot).ne_nil] at hnone
            cases hnone
      have hpin : Keeps w s' { s' with root := some cred.id } := by
        refine ⟨fun id hid => ?_, fun id hid => ?_, fun _ h => h⟩
        · rw [hempty] at hid
          cases hid
        · obtain rfl := Option.some.inj hid
          exact .inr (hcred henabled)
      exact ⟨hpin, hs'.keeps hpin, hs'⟩
    · exact hs'
  · exact hs'

theorem registered_capable {r : Registered} (h : w.world.lands r) (henabled : r.prfEnabled = true) :
    Capable w r.id := by
  obtain ⟨raw, hraw, hid, hprf⟩ := h
  exact ⟨raw, hraw, hid, hprf.symm.trans henabled⟩

/-- A flight that the code waits for. -/
theorem registerCredential_bind {α : Type} {post : Credentials → α → Prop}
    {f : Registered → Ceremony α} {s : Credentials}
    (h : ∀ s', Keeps w s s' → ∀ r, w.world.lands r → (f r).Safe (Keeps w) w.world post s') :
    (registerCredential >>= f).Safe (Keeps w) w.world post s := by
  intro s' hkeeps r hr
  cases r with
  | none => trivial
  | some r => exact h s' hkeeps r (hr r rfl)

theorem ensureAuthCredential_safe {s : Credentials} (hs : Rooted w s) :
    ensureAuthCredential.Safe (Keeps w) w.world (fun s' _ => Rooted w s') s := by
  change (match truthy s.auth with
    | some id => pure id
    | none => do
        let cred ← registerCredential
        adopt cred true
        return cred.id : Ceremony Text).Safe (Keeps w) w.world (fun s' _ => Rooted w s') s
  split
  · exact hs
  · refine registerCredential_bind fun s' hkeeps r hr => ?_
    exact (adopt_safe (registered_capable hr) true (hs.keeps hkeeps)).bind fun _ _ h => h

theorem ensurePrfRoot_safe {s : Credentials} (hs : Rooted w s) :
    ensurePrfRoot.Safe (Keeps w) w.world (fun s' id => Rooted w s' ∧ Capable w id) s := by
  change (match truthy s.root with
    | some id => pure id
    | none => do
        let cred ← registerCredential
        let auth ← getAuthId
        adopt cred (truthy auth = none)
        if cred.prfEnabled then return cred.id else .fail : Ceremony Text).Safe (Keeps w) w.world
      (fun s' id => Rooted w s' ∧ Capable w id) s
  split
  · rename_i id hroot
    exact ⟨hs, hs id (truthy_some hroot)⟩
  · refine registerCredential_bind fun s' hkeeps r hr => ?_
    refine (adopt_safe (registered_capable hr) _ (hs.keeps hkeeps)).bind fun s'' _ hs'' => ?_
    split
    · rename_i henabled
      exact ⟨hs'', registered_capable hr henabled⟩
    · trivial

/-- What an assertion by the passkey `id` may tell. -/
def Asserts (w : Authenticator) (id : Text) (salt : Option Bytes) (a : Assertion) : Prop :=
  ∀ out ∈ a.prf, ∃ x ∈ salt, Secret w id x out

theorem assertion_safe {ids : List Text} {salt : Option Bytes} {s : Credentials}
    (hs : Rooted w s) :
    (assertion w.atob ids salt).Safe (Keeps w) w.world
      (fun s' a => Rooted w s' ∧ ∀ id, ids = [id] → Asserts w id salt a) s := by
  rw [assertion]
  cases hallowed : ids.mapM (base64UrlToBuffer w.atob) with
  | none => trivial
  | some allowed =>
      intro s' hkeeps a ha
      cases a with
      | none => trivial
      | some a =>
          obtain ⟨hcredential, hprf⟩ := ha
          refine ⟨hs.keeps hkeeps, ?_⟩
          rintro id rfl out hout
          obtain ⟨-, x, hx, rfl⟩ := hprf out hout
          cases hraw : base64UrlToBuffer w.atob id with
          | none =>
              rw [List.mapM_cons, hraw] at hallowed
              cases hallowed
          | some raw =>
              rw [List.mapM_cons, hraw] at hallowed
              obtain rfl := Option.some.inj hallowed
              rcases hcredential with hnil | hmem
              · cases hnil
              · obtain hused := List.mem_singleton.mp hmem
                exact ⟨x, hx, raw, hraw, hused ▸ rfl⟩

theorem finishAttempt_safe {id sessionToken : Text} {salt : Option Bytes} {s : Credentials}
    (hs : Rooted w s) :
    (finishAttempt w.atob id salt sessionToken [id]).Safe (Keeps w) w.world
      (fun s' r => Rooted w s' ∧ r.credentialId = id ∧ ∀ out ∈ r.prfOutput, ∃ x ∈ salt,
        Secret w id x out) s := by
  change (do
    let a ← assertion w.atob [id] (if s.root = some id then salt else none)
    match ← authFinish sessionToken a with
    | some token => return ⟨token, a.prf, id⟩
    | none => .fail : Ceremony VerifiedToken).Safe (Keeps w) w.world _ s
  refine (assertion_safe hs).bind fun s' a ⟨hs', hall⟩ => ?_
  have hasserts := hall id rfl
  intro s'' hkeeps token _
  cases token with
  | none => trivial
  | some token =>
      refine ⟨hs'.keeps hkeeps, rfl, fun out hout => ?_⟩
      obtain ⟨x, hx, hsecret⟩ := hasserts out hout
      split at hx
      · exact ⟨x, hx, hsecret⟩
      · cases hx

/-- What a verified token promises of its secret. -/
def VerifiedToken.Kept (w : Authenticator) (salt : Option Bytes) (r : VerifiedToken) : Prop :=
  ∀ out ∈ r.prfOutput, ∃ x ∈ salt, Secret w r.credentialId x out

theorem attempts_safe (binding : Text) (salt : Option Bytes) (maxUses left : Nat) {s : Credentials}
    (hs : Rooted w s) :
    (attempts w.atob binding salt maxUses left).Safe (Keeps w) w.world
      (fun s' r => Rooted w s' ∧ r.Kept w salt) s := by
  induction left generalizing s with
  | zero => trivial
  | succ left ih =>
      refine (ensureAuthCredential_safe hs).bind fun s₁ id hs₁ => ?_
      intro s₂ hkeeps start hstart
      have hs₂ := hs₁.keeps hkeeps
      cases start with
      | failed => trivial
      | options sessionToken allowCredentials =>
          obtain rfl : allowCredentials = [id] := hstart
          refine (finishAttempt_safe hs₂).weaken ?_
          rintro s₃ r ⟨hs₃, rfl, hkept⟩
          exact ⟨hs₃, hkept⟩
      | status code =>
          change (if code = 409 ∧ left = 1 then do
              let fresh ← registerCredential
              adopt fresh true
              attempts w.atob binding salt maxUses left
            else .fail : Ceremony VerifiedToken).Safe (Keeps w) w.world _ s₂
          split
          · refine registerCredential_bind fun s₃ hkeeps₃ r hr => ?_
            exact (adopt_safe (registered_capable hr) true (hs₂.keeps hkeeps₃)).bind
              fun s₄ _ hs₄ => ih hs₄
          · trivial

theorem evaluatePrfWith_safe (salt : Bytes) (credentialId : Option Text) {s : Credentials}
    (hs : Rooted w s) :
    (evaluatePrfWith w.atob salt credentialId).Safe (Keeps w) w.world
      (fun s' out => Rooted w s' ∧ ∀ id ≠ [], credentialId = some id → Secret w id salt out) s := by
  refine (assertion_safe hs).bind fun s' a ⟨hs', hall⟩ => ?_
  cases hprf : a.prf with
  | none => trivial
  | some out =>
      refine ⟨hs', ?_⟩
      rintro id hid rfl
      rw [truthy_of_ne_nil hid] at hall
      obtain ⟨x, hx, hsecret⟩ := hall id rfl out hprf
      obtain rfl := Option.some.inj hx
      exact hsecret

/-- What a verified token with a secret promises: the passkey it names is capable, and gives the
secret. -/
structure VerifiedTokenWithPrf.Kept (w : Authenticator) (salt : Bytes) (r : VerifiedTokenWithPrf) :
    Prop where
  capable : Capable w r.prfCredentialId
  secret : Secret w r.prfCredentialId salt r.prfOutput

theorem prfThenToken_safe {root : Text} (hroot : Capable w root) (binding : Text) (salt : Bytes)
    (maxUses : Nat) {s : Credentials} (hs : Rooted w s) :
    (prfThenToken w.atob root binding salt maxUses).Safe (Keeps w) w.world
      (fun _ r => r.Kept w salt) s := by
  refine (evaluatePrfWith_safe salt (some root) hs).bind fun s' out ⟨hs', hsecret⟩ => ?_
  exact (attempts_safe binding none maxUses 2 hs').bind fun _ _ _ =>
    ⟨hroot, hsecret root hroot.ne_nil rfl⟩

theorem getVerifiedTokenWithPrf_safe (binding : Text) (salt : Bytes) (maxUses : Nat)
    {s : Credentials} (hs : Rooted w s) :
    (getVerifiedTokenWithPrf w.atob binding salt maxUses).Safe (Keeps w) w.world
      (fun _ r => r.Kept w salt) s := by
  refine (ensurePrfRoot_safe hs).bind fun s₁ root ⟨hs₁, hroot⟩ => ?_
  have hlast := fun {t : Credentials} (ht : Rooted w t) =>
    prfThenToken_safe hroot binding salt maxUses ht
  change (if s₁.auth = some root then do
      let r ← getVerifiedToken w.atob binding (some salt) maxUses
      match r.prfOutput with
      | some prfOutput =>
          if r.credentialId = root then return ⟨r.verifiedToken, prfOutput, root⟩
          else prfThenToken w.atob root binding salt maxUses
      | none => prfThenToken w.atob root binding salt maxUses
    else prfThenToken w.atob root binding salt maxUses : Ceremony VerifiedTokenWithPrf).Safe
      (Keeps w) w.world _ s₁
  split
  · refine (attempts_safe binding (some salt) maxUses 2 hs₁).bind fun s₂ r ⟨hs₂, hkept⟩ => ?_
    cases hout : r.prfOutput with
    | none => exact hlast hs₂
    | some out =>
        dsimp only
        split
        · rename_i hid
          obtain ⟨x, hx, hsecret⟩ := hkept out hout
          obtain rfl := Option.some.inj hx
          exact ⟨hroot, hid ▸ hsecret⟩
        · exact hlast hs₂
  · exact hlast hs₁

/-! ## All ceremonies of a browser -/

/-- What is promised of each request's result. -/
def PasskeyResult.Kept (w : Authenticator) : PasskeyRequest → PasskeyResult → Prop
  | .ensurePrfRoot, .root id => Capable w id
  | .getVerifiedToken _ salt _, .token r => r.Kept w salt
  | .evaluatePrf salt (some id), .secret out => id ≠ [] → Secret w id salt out
  | .getVerifiedTokenWithPrf _ salt _, .tokenWithPrf r => r.Kept w salt
  | _, _ => True

theorem code_safe (request : PasskeyRequest) {s : Credentials} (hs : Rooted w s) :
    (request.code w.atob).Safe (Keeps w) w.world (fun _ r => r.Kept w request) s := by
  cases request with
  | ensurePrfRoot => exact (ensurePrfRoot_safe hs).bind fun _ _ h => h.2
  | getVerifiedToken binding salt maxUses =>
      exact (attempts_safe binding salt maxUses 2 hs).bind fun _ _ h => h.2
  | getVerifiedTokenWithPrf binding salt maxUses =>
      exact (getVerifiedTokenWithPrf_safe binding salt maxUses hs).bind fun _ _ h => h
  | evaluatePrf salt credentialId =>
      cases credentialId with
      | some id =>
          exact (evaluatePrfWith_safe salt (some id) hs).bind fun _ _ h hid => h.2 id hid rfl
      | none => exact (evaluatePrfWith_safe salt s.root hs).bind fun _ _ _ => trivial

theorem disciplined {s₀ : Credentials} (hs₀ : Rooted w s₀) :
    Disciplined (Keeps w) w.world (fun request _ r => r.Kept w request)
      (PasskeyRequest.code w.atob) s₀ where
  refl := Keeps.refl
  trans _ _ _ := Keeps.trans
  stable _ _ _ _ _ h := h
  code request _ hkeeps := code_safe request (hs₀.keeps hkeeps)
  keep r s _ _ := .archived r s

/-- A call that has ended, with its result. -/
def Ended {τ : Type} (s : Calls Question Question.Answer Credentials Registered PasskeyRequest τ
    PasskeyResult) (request : PasskeyRequest) (r : PasskeyResult) : Prop :=
  ∃ i tab, s.calls i = some ⟨request, tab, .rests (.done r)⟩

/-- **The PRF root.**  Whatever ceremonies run in however many tabs: once there is a root it stays,
and it is a passkey that can evaluate the PRF; a registration whose archive entry was taken is
archived for good; and the passkey that is recorded with a lane is one that evaluates the lane's
salt to the secret the lane was made from, whenever it is asked again. -/
theorem prf_root_pinned {τ : Type} [DecidableEq τ] {s₀ : Credentials} (hatob : w.Documented)
    (hs₀ : Rooted w s₀)
    {s : Calls Question Question.Answer Credentials Registered PasskeyRequest τ PasskeyResult}
    {tr : List (Transition (Calls Question Question.Answer Credentials Registered PasskeyRequest τ
      PasskeyResult) (CallsAct Question Question.Answer Registered PasskeyRequest τ))}
    (h : Steps (PasskeyStep w) (Calls.start s₀) tr s) :
    (∀ t ∈ tr, ∀ id, t.pre.store.root = some id → s.store.root = some id) ∧
    (∀ id, s.store.root = some id → Capable w id) ∧
    (∀ t ∈ tr, ∀ tab r, t.act = .land tab (some r) true → ∃ e ∈ s.store.archive, e.id = r.id) ∧
    ∀ binding salt maxUses r,
      Ended s (.getVerifiedTokenWithPrf binding salt maxUses) (.tokenWithPrf r) →
      (∃ raw, r.prfCredentialId = bufferToBase64Url raw ∧ w.enabled raw = true ∧
        r.prfOutput = w.prf raw salt) ∧
      ∀ out, Ended s (.evaluatePrf salt (some r.prfCredentialId)) (.secret out) →
        out = r.prfOutput := by
  obtain ⟨hkeeps, hsteps, hresults⟩ := calls_guarantee (disciplined hs₀) h
  refine ⟨fun t ht => (hsteps t ht).1.root, hs₀.keeps hkeeps, ?_, ?_⟩
  · rintro ⟨before, act, after⟩ ht tab r rfl
    obtain ⟨hstep, -⟩ := h.mem_split ht
    have hlast := (hsteps _ ht).2
    change PasskeyStep w before _ after at hstep
    cases hstep with
    | land _ _ =>
        obtain ⟨e, he, hid⟩ := mem_archiveCredential r before.store
        exact ⟨e, hlast.archive e he, hid⟩
  · rintro binding salt maxUses r ⟨i, tab, hcall⟩
    obtain ⟨⟨raw, hraw, hid, henabled⟩, raw', hread, hout⟩ := hresults i _ tab _ hcall
    rw [hid, base64UrlToBuffer_buffer hatob] at hread
    obtain rfl := Option.some.inj hread
    refine ⟨⟨raw, hid, henabled, hout⟩, ?_⟩
    rintro out ⟨j, tab', hcall'⟩
    obtain ⟨raw', hread', rfl⟩ := hresults j _ tab' _ hcall' (hid ▸ buffer_ne_nil hraw)
    rw [hid, base64UrlToBuffer_buffer hatob] at hread'
    obtain rfl := Option.some.inj hread'
    exact hout.symm

namespace PasskeySample

def authenticator : Authenticator where
  enabled raw := raw = [1]
  prf raw salt := raw ++ salt
  atob := base64Decode

def passkey : Registered := ⟨['A', 'Q'], true, 0⟩

theorem documented : authenticator.Documented := base64Decode_encode

theorem lands : ∀ r ∈ some passkey, authenticator.world.lands r := by
  intro r hr
  obtain rfl := Option.some.inj hr
  exact ⟨[1], by decide, by decide, by decide⟩

def create : PasskeyRequest := .getVerifiedTokenWithPrf "create-lane:lane".toList [7] 1

def recover : PasskeyRequest := .evaluatePrf [7] (some passkey.id)

def lane : VerifiedTokenWithPrf := ⟨"token".toList, [1, 7], passkey.id⟩

def asserted : Assertion := ⟨[1], some [1, 7]⟩

theorem started : authenticator.world.answers (.authStart passkey.id "create-lane:lane".toList 1)
    (StartAnswer.options "session".toList [passkey.id]) := rfl

theorem answers : authenticator.world.answers (.get [[1]] (some [7])) (some asserted) := by
  refine ⟨.inr (List.mem_singleton_self _), fun out hout => ?_⟩
  obtain rfl := Option.some.inj hout
  exact ⟨by decide, [7], rfl, rfl⟩

/-- The first lane of a browser, and its secret once more. -/
theorem runs : ∃ tr s, Steps (PasskeyStep authenticator (τ := Unit)) (Calls.start .fresh) tr s ∧
    Ended s create (.tokenWithPrf lane) ∧ Ended s recover (.secret [1, 7]) :=
  ⟨_, _, .step (@CallsStep.begin _ _ _ _ _ _ _ _ _ _ _ 0 () create _ _ rfl (.read (.join _ _)))
    (.step (@CallsStep.land _ _ _ _ _ _ _ _ _ _ _ () (some passkey) true rfl lands)
    (.step (@CallsStep.resume _ _ _ _ _ _ _ _ _ _ _ 0 () create (some passkey) _ _ _ rfl
        (.read (.taken (.read (.taken (.read (.read (.ask _ _ _))))))))
    (.step (@CallsStep.answer _ _ _ _ _ _ _ _ _ _ _ 0 () create
        (Question.authStart passkey.id "create-lane:lane".toList 1)
        (StartAnswer.options "session".toList [passkey.id]) _ _ _ rfl started (.read (.ask _ _ _)))
    (.step (@CallsStep.answer _ _ _ _ _ _ _ _ _ _ _ 0 () create (Question.get [[1]] (some [7])) (some asserted)
        _ _ _ rfl answers (.ask _ _ _))
    (.step (@CallsStep.answer _ _ _ _ _ _ _ _ _ _ _ 0 () create
        (Question.authFinish "session".toList asserted) (some "token".toList) _ _ _ rfl trivial (.done _ _))
    (.step (@CallsStep.begin _ _ _ _ _ _ _ _ _ _ _ 1 () recover _ _ rfl (.ask _ _ _))
    (.step (@CallsStep.answer _ _ _ _ _ _ _ _ _ _ _ 1 () recover (Question.get [[1]] (some [7])) (some asserted)
        _ _ _ rfl answers (.done _ _)) (.refl _)))))))), ⟨0, (), rfl⟩, ⟨1, (), rfl⟩⟩
end PasskeySample

open PasskeySample in
theorem prf_root_pinned_sample :
    ∃ raw, lane.prfCredentialId = bufferToBase64Url raw ∧ authenticator.enabled raw = true ∧
      lane.prfOutput = authenticator.prf raw [7] := by
  obtain ⟨tr, s, hrun, hcreate, -⟩ := runs
  obtain ⟨-, -, -, hresults⟩ := prf_root_pinned documented (fun _ h => by cases h) hrun
  exact (hresults _ _ _ _ hcreate).1

end Beanie.Browser
