/-
# `Beanie.Api.VerifiedTokens` — what a passkey touch is worth

The ceremonies of `auth.rs`.  `auth_start` opens a session, `auth_finish` turns
it into a verified token, and `consume_verified` redeems the token.  The law
over runs (`verified_token_law`): a token is redeemed no more often than its
session was granted, before it expires, and for the session's binding.

Each operation scans its map and reads the clock once for every entry; the
readings lie between two clocks.
-/
import Beanie.Api.Models
import Beanie.Lib.Base64
import Beanie.Lib.ExpiringMap
import Beanie.Lib.Run

namespace Beanie.Api.Auth

/-! ## State -/

/-- `webauthn-rs` and the encoding of credential ids. -/
structure Webauthn where
  Passkey : Type
  Registration : Type
  Authentication : Type
  RegisterCredential : Type
  Credential : Type
  finish_passkey_registration : RegisterCredential → Registration → Except String Passkey
  cred_id : Passkey → Bytes
  /-- The id of the credential that answered. -/
  finish_passkey_authentication : Credential → Authentication → Except String Bytes
  base64url : Bytes → Text

def REG_CEREMONY_TTL : Nat := secs 120
def AUTH_CEREMONY_TTL : Nat := secs 120
def VERIFIED_TOKEN_TTL : Nat := secs 60

structure RegCeremony (w : Webauthn) where
  state : w.Registration
  exp : Nat

/-- `max_uses` is how many redemptions the ceremony grants. -/
structure AuthCeremony (w : Webauthn) where
  state : w.Authentication
  binding : Text
  max_uses : Nat
  exp : Nat

structure VerifiedEntry where
  credential_id : Text
  binding : Text
  expires_at : Nat
  uses_remaining : Nat
deriving DecidableEq

def VerifiedEntry.live (e : VerifiedEntry) (now : Nat) : Bool :=
  now < e.expires_at && 0 < e.uses_remaining

structure AuthState (w : Webauthn) where
  passkeys : Text → Option w.Passkey
  reg_ceremonies : Text → Option (RegCeremony w)
  auth_ceremonies : Text → Option (AuthCeremony w)
  verified : Text → Option VerifiedEntry

namespace AuthState

variable {w : Webauthn} (s : AuthState w)

def new : AuthState w where
  passkeys _ := none
  reg_ceremonies _ := none
  auth_ceremonies _ := none
  verified _ := none

def insertRegCeremony (scan : Text → Nat) (now : Nat) (token : Text) (state : w.Registration) :
    AuthState w :=
  { s with
    reg_ceremonies := Function.update (retain (fun now c => now < c.exp) scan s.reg_ceremonies)
      token (some ⟨state, now + REG_CEREMONY_TTL⟩) }

def takeRegCeremony (now : Nat) (token : Text) : AuthState w × Option w.Registration :=
  match s.reg_ceremonies token with
  | none => (s, none)
  | some c =>
      ({ s with reg_ceremonies := Function.update s.reg_ceremonies token none },
        if c.exp < now then none else some c.state)

def storePasskey (credential_id : Text) (passkey : w.Passkey) : AuthState w :=
  { s with passkeys := Function.update s.passkeys credential_id (some passkey) }

def insertAuthCeremony (scan : Text → Nat) (now : Nat) (token : Text) (state : w.Authentication)
    (binding : Text) (max_uses : Nat) : AuthState w :=
  { s with
    auth_ceremonies := Function.update (retain (fun now c => now < c.exp) scan s.auth_ceremonies)
      token (some ⟨state, binding, max_uses, now + AUTH_CEREMONY_TTL⟩) }

def takeAuthCeremony (now : Nat) (token : Text) :
    AuthState w × Option (w.Authentication × Text × Nat) :=
  match s.auth_ceremonies token with
  | none => (s, none)
  | some c =>
      ({ s with auth_ceremonies := Function.update s.auth_ceremonies token none },
        if c.exp < now then none else some (c.state, c.binding, c.max_uses))

def storeVerified (scan : Text → Nat) (now : Nat) (token credential_id binding : Text)
    (max_uses : Nat) : AuthState w :=
  { s with
    verified := Function.update (retain (fun now e => e.live now) scan s.verified) token
      (some ⟨credential_id, binding, now + VERIFIED_TOKEN_TTL, max max_uses 1⟩) }

/-- The entry of the token is looked at once more at `now`, after the scan. -/
def consumeVerified (scan : Text → Nat) (now : Nat) (token expected_binding : Text) :
    AuthState w × Option Text :=
  let verified := retain (fun now e => VerifiedEntry.live e now) scan s.verified
  match verified token with
  | none => ({ s with verified := verified }, none)
  | some entry =>
      if entry.expires_at < now ∨ entry.uses_remaining = 0 then
        ({ s with verified := Function.update verified token none }, none)
      else if eqIgnoreAsciiCase entry.binding expected_binding = false then
        ({ s with verified := verified }, none)
      else
        let left := entry.uses_remaining - 1
        ({ s with
            verified := Function.update verified token
              (if left = 0 then none else some { entry with uses_remaining := left }) },
          some entry.credential_id)

end AuthState

/-! ## Handlers -/

structure ErrorBody where
  status : Nat
  error : String

section
variable {w : Webauthn}

/-- `started` is what the crate made of the request, `token` a new UUID. -/
def registerStart (s : AuthState w) (scan : Text → Nat) (now : Nat)
    (started : Except String w.Registration) (token : Text) :
    AuthState w × Except ErrorBody Text :=
  match started with
  | .ok state => (s.insertRegCeremony scan now token state, .ok token)
  | .error e => (s, .error ⟨500, s!"Could not start passkey registration: {e}"⟩)

structure RegFinishReq (w : Webauthn) where
  session_token : Text
  credential : w.RegisterCredential

def registerFinish (s : AuthState w) (now : Nat) (payload : RegFinishReq w) :
    AuthState w × Except ErrorBody Text :=
  match s.takeRegCeremony now payload.session_token with
  | (s, none) => (s, .error ⟨400, "Unknown or expired registration session"⟩)
  | (s, some state) =>
      match w.finish_passkey_registration payload.credential state with
      | .ok passkey =>
          let credential_id := w.base64url (w.cred_id passkey)
          (s.storePasskey credential_id passkey, .ok credential_id)
      | .error e => (s, .error ⟨401, s!"Passkey registration verification failed: {e}"⟩)

structure AuthStartReq where
  credential_id : Text
  binding : Text
  max_uses : Option Nat

/-- `unwrap_or(1).clamp(1, 4)` -/
def AuthStartReq.granted (payload : AuthStartReq) : Nat := max 1 (min (payload.max_uses.getD 1) 4)

def authStart (s : AuthState w) (scan : Text → Nat) (now : Nat) (payload : AuthStartReq)
    (started : Except String w.Authentication) (token : Text) :
    AuthState w × Except ErrorBody Text :=
  match s.passkeys payload.credential_id with
  | none => (s, .error ⟨409, "refresh_credential"⟩)
  | some _ =>
      match started with
      | .ok state =>
          (s.insertAuthCeremony scan now token state payload.binding payload.granted, .ok token)
      | .error e => (s, .error ⟨500, s!"Could not start passkey verification: {e}"⟩)

structure AuthFinishReq (w : Webauthn) where
  session_token : Text
  credential : w.Credential

/-- A session that has been taken, before its token is stored. -/
structure Finishing (w : Webauthn) where
  session_token : Text
  credential : w.Credential
  state : w.Authentication
  binding : Text
  max_uses : Nat

/-- `auth_finish` up to the ceremony it takes. -/
def authFinishTake (s : AuthState w) (now : Nat) (payload : AuthFinishReq w) :
    AuthState w × Except ErrorBody (Finishing w) :=
  match s.takeAuthCeremony now payload.session_token with
  | (s, none) => (s, .error ⟨400, "Unknown or expired verification session"⟩)
  | (s, some (state, binding, max_uses)) =>
      (s, .ok ⟨payload.session_token, payload.credential, state, binding, max_uses⟩)

/-- The rest of it; `token` is a new UUID. -/
def authFinishStore (s : AuthState w) (scan : Text → Nat) (now : Nat) (f : Finishing w)
    (token : Text) : AuthState w × Except ErrorBody Text :=
  match w.finish_passkey_authentication f.credential f.state with
  | .ok id => (s.storeVerified scan now token (w.base64url id) f.binding f.max_uses, .ok token)
  | .error e => (s, .error ⟨401, s!"Passkey verification failed: {e}"⟩)

end

/-! ## Runs -/

/-- The maps, and the calls of `auth_finish` between their two parts. -/
structure AuthRun (w : Webauthn) where
  state : AuthState w
  finishing : List (Finishing w)
  clock : Nat

def AuthRun.start (w : Webauthn) (clock : Nat) : AuthRun w := ⟨.new, [], clock⟩

inductive AuthEvent (w : Webauthn)
  | registerStart (token : Text) (response : Except ErrorBody Text)
  | registerFinish (payload : RegFinishReq w) (response : Except ErrorBody Text)
  | authStart (payload : AuthStartReq) (started : Except String w.Authentication) (token : Text)
      (response : Except ErrorBody Text)
  | authTake (payload : AuthFinishReq w) (taken : Except ErrorBody (Finishing w))
  | authStore (now : Nat) (f : Finishing w) (token : Text) (response : Except ErrorBody Text)
  /-- `seen` is the clock at the token's entry, `now` the clock after the scan. -/
  | consume (seen now : Nat) (token binding : Text) (result : Option Text)

inductive AuthStep (w : Webauthn) : AuthRun w → AuthEvent w → AuthRun w → Prop
  | registerStart {r : AuthRun w} {scan : Text → Nat} {now : Nat}
      {started : Except String w.Registration} {token : Text} (hscan : Scans r.clock now scan) :
      AuthStep w r (.registerStart token (registerStart r.state scan now started token).2)
        { r with state := (registerStart r.state scan now started token).1, clock := now }
  | registerFinish {r : AuthRun w} {now : Nat} {payload : RegFinishReq w} (hnow : r.clock ≤ now) :
      AuthStep w r (.registerFinish payload (registerFinish r.state now payload).2)
        { r with state := (registerFinish r.state now payload).1, clock := now }
  | authStart {r : AuthRun w} {scan : Text → Nat} {now : Nat} {payload : AuthStartReq}
      {started : Except String w.Authentication} {token : Text} (hscan : Scans r.clock now scan) :
      AuthStep w r
        (.authStart payload started token (authStart r.state scan now payload started token).2)
        { r with state := (authStart r.state scan now payload started token).1, clock := now }
  | authTake {r : AuthRun w} {now : Nat} {payload : AuthFinishReq w} (hnow : r.clock ≤ now) :
      AuthStep w r (.authTake payload (authFinishTake r.state now payload).2)
        { r with
          state := (authFinishTake r.state now payload).1
          finishing := (authFinishTake r.state now payload).2.toOption.toList ++ r.finishing
          clock := now }
  | authStore {r : AuthRun w} {scan : Text → Nat} {now i : Nat} {f : Finishing w} {token : Text}
      (hscan : Scans r.clock now scan) (hf : r.finishing[i]? = some f) :
      AuthStep w r (.authStore now f token (authFinishStore r.state scan now f token).2)
        { r with
          state := (authFinishStore r.state scan now f token).1
          finishing := r.finishing.eraseIdx i
          clock := now }
  | consume {r : AuthRun w} {scan : Text → Nat} {now : Nat} {token binding : Text}
      (hscan : Scans r.clock now scan) :
      AuthStep w r
        (.consume (scan token) now token binding (r.state.consumeVerified scan now token binding).2)
        { r with state := (r.state.consumeVerified scan now token binding).1, clock := now }

section
variable {w : Webauthn}

/-- The UUID of a session or a token. -/
def drawnBy (u : Transition (AuthRun w) (AuthEvent w)) : Option Text :=
  match u.act with
  | .registerStart token (.ok _) => some token
  | .authStart _ _ token (.ok _) => some token
  | .authStore _ _ token (.ok _) => some token
  | _ => none

def drawn (tr : List (Transition (AuthRun w) (AuthEvent w))) : List Text := tr.filterMap drawnBy

/-- A redemption of the token. -/
def redeems (token : Text) (u : Transition (AuthRun w) (AuthEvent w)) : Bool :=
  match u.act with
  | .consume _ _ token' _ (some _) => token' = token
  | _ => false

/-- A token is issued for the session. -/
def issuesFor (session : Text) (u : Transition (AuthRun w) (AuthEvent w)) : Bool :=
  match u.act with
  | .authStore _ f _ (.ok _) => f.session_token = session
  | _ => false

/-- The session was opened with this state, binding and grant. -/
def Opened (tr : List (Transition (AuthRun w) (AuthEvent w))) (session : Text)
    (state : w.Authentication) (binding : Text) (max_uses : Nat) : Prop :=
  ∃ u ∈ tr, ∃ payload, u.act = .authStart payload (.ok state) session (.ok session) ∧
    binding = payload.binding ∧ max_uses = payload.granted

/-- How often the session may still yield a token. -/
def pending (r : AuthRun w) (session : Text) : Nat :=
  (if (r.state.auth_ceremonies session).isSome then 1 else 0)
    + r.finishing.countP (·.session_token = session)

def remaining (r : AuthRun w) (token : Text) : Nat :=
  ((r.state.verified token).map VerifiedEntry.uses_remaining).getD 0

/-! ## What a step does -/

/-- The five kinds of steps, by what they do to sessions, tokens and the calls between. -/
inductive Effect (u : Transition (AuthRun w) (AuthEvent w)) : Prop
  | idle (hsessions : Shrinks u.post.state.auth_ceremonies u.pre.state.auth_ceremonies)
      (hfinishing : u.post.finishing.Sublist u.pre.finishing)
      (htokens : Shrinks u.post.state.verified u.pre.state.verified)
      (hredeems : ∀ token, redeems token u = false)
      (hissues : ∀ session, issuesFor session u = false)
  | opened (payload : AuthStartReq) (state : w.Authentication) (token : Text) (exp : Nat)
      (hact : u.act = .authStart payload (.ok state) token (.ok token))
      (hothers : ∀ key c, key ≠ token → u.post.state.auth_ceremonies key = some c →
        u.pre.state.auth_ceremonies key = some c)
      (hself : u.post.state.auth_ceremonies token
        = some ⟨state, payload.binding, payload.granted, exp⟩)
      (hfinishing : u.post.finishing = u.pre.finishing)
      (htokens : u.post.state.verified = u.pre.state.verified)
  | taken (payload : AuthFinishReq w) (c : AuthCeremony w)
      (hact : u.act = .authTake payload
        (.ok ⟨payload.session_token, payload.credential, c.state, c.binding, c.max_uses⟩))
      (hself : u.pre.state.auth_ceremonies payload.session_token = some c)
      (hsessions : u.post.state.auth_ceremonies
        = Function.update u.pre.state.auth_ceremonies payload.session_token none)
      (hfinishing : u.post.finishing
        = ⟨payload.session_token, payload.credential, c.state, c.binding, c.max_uses⟩
          :: u.pre.finishing)
      (htokens : u.post.state.verified = u.pre.state.verified)
  | issued (now i : Nat) (f : Finishing w) (token : Text) (id : Bytes)
      (hact : u.act = .authStore now f token (.ok token))
      (hid : w.finish_passkey_authentication f.credential f.state = .ok id)
      (hf : u.pre.finishing[i]? = some f)
      (hsessions : u.post.state.auth_ceremonies = u.pre.state.auth_ceremonies)
      (hfinishing : u.post.finishing = u.pre.finishing.eraseIdx i)
      (hothers : ∀ key e, key ≠ token → u.post.state.verified key = some e →
        u.pre.state.verified key = some e)
      (hself : u.post.state.verified token
        = some ⟨w.base64url id, f.binding, now + VERIFIED_TOKEN_TTL, max f.max_uses 1⟩)
  | redeemed (seen now : Nat) (token binding : Text) (e : VerifiedEntry)
      (hact : u.act = .consume seen now token binding (some e.credential_id))
      (he : u.pre.state.verified token = some e) (hlive : e.live seen = true)
      (hnow : now ≤ e.expires_at) (hbinding : eqIgnoreAsciiCase e.binding binding = true)
      (hsessions : u.post.state.auth_ceremonies = u.pre.state.auth_ceremonies)
      (hfinishing : u.post.finishing = u.pre.finishing)
      (hothers : ∀ key e', key ≠ token → u.post.state.verified key = some e' →
        u.pre.state.verified key = some e')
      (hself : u.post.state.verified token = if e.uses_remaining - 1 = 0 then none
        else some { e with uses_remaining := e.uses_remaining - 1 })

/-- What a redemption finds and leaves. -/
theorem consumeVerified_some {s : AuthState w} {scan : Text → Nat} {now : Nat}
    {token binding credential : Text}
    (h : (s.consumeVerified scan now token binding).2 = some credential) :
    ∃ e, s.verified token = some e ∧ credential = e.credential_id ∧ e.live (scan token) = true ∧
      now ≤ e.expires_at ∧ eqIgnoreAsciiCase e.binding binding = true ∧
      (s.consumeVerified scan now token binding).1 = { s with
        verified := Function.update (retain (fun now e => VerifiedEntry.live e now) scan s.verified)
          token (if e.uses_remaining - 1 = 0 then none
            else some { e with uses_remaining := e.uses_remaining - 1 }) } := by
  unfold AuthState.consumeVerified at h ⊢
  dsimp only at h ⊢
  cases hentry : retain (fun now e => VerifiedEntry.live e now) scan s.verified token with
  | none =>
      rw [hentry] at h
      cases h
  | some e =>
      rw [hentry] at h
      dsimp only at h ⊢
      obtain ⟨hverified, hlive⟩ := retain_eq_some.mp hentry
      by_cases hdead : e.expires_at < now ∨ e.uses_remaining = 0
      · rw [if_pos hdead] at h
        cases h
      · rw [if_neg hdead] at h ⊢
        cases hbinding : eqIgnoreAsciiCase e.binding binding with
        | false =>
            rw [hbinding, if_pos rfl] at h
            cases h
        | true =>
            rw [hbinding, if_neg (by decide)] at h
            refine ⟨e, hverified, (Option.some.inj h).symm, hlive, by omega, hbinding, ?_⟩
            rw [if_neg (by decide)]

theorem consumeVerified_none {s : AuthState w} {scan : Text → Nat} {now : Nat}
    {token binding : Text} (h : (s.consumeVerified scan now token binding).2 = none) :
    (s.consumeVerified scan now token binding).1.auth_ceremonies = s.auth_ceremonies ∧
      Shrinks (s.consumeVerified scan now token binding).1.verified s.verified := by
  have hshrinks := shrinks_retain (fun now e => VerifiedEntry.live e now) scan s.verified
  unfold AuthState.consumeVerified at h ⊢
  dsimp only at h ⊢
  cases hentry : retain (fun now e => VerifiedEntry.live e now) scan s.verified token with
  | none => exact ⟨rfl, hshrinks⟩
  | some e =>
      rw [hentry] at h
      dsimp only at h ⊢
      by_cases hdead : e.expires_at < now ∨ e.uses_remaining = 0
      · rw [if_pos hdead]
        exact ⟨rfl, shrinks_remove hshrinks token⟩
      · rw [if_neg hdead] at h ⊢
        cases hbinding : eqIgnoreAsciiCase e.binding binding with
        | false =>
            rw [if_pos rfl]
            exact ⟨rfl, hshrinks⟩
        | true =>
            rw [hbinding, if_neg (by decide)] at h
            cases h

theorem step_effect {r r' : AuthRun w} {a : AuthEvent w} (h : AuthStep w r a r') :
    Effect ⟨r, a, r'⟩ := by
  cases h with
  | @registerStart scan now started token hscan =>
      refine .idle ?_ (List.Sublist.refl _) ?_ (fun _ => rfl) (fun _ => rfl)
      · cases started <;> exact Shrinks.refl _
      · cases started <;> exact Shrinks.refl _
  | @registerFinish now payload hnow =>
      have hsame : (registerFinish r.state now payload).1.auth_ceremonies
            = r.state.auth_ceremonies ∧
          (registerFinish r.state now payload).1.verified = r.state.verified := by
        unfold registerFinish AuthState.takeRegCeremony
        cases r.state.reg_ceremonies payload.session_token with
        | none => exact ⟨rfl, rfl⟩
        | some c =>
            dsimp only
            by_cases hexp : c.exp < now
            · rw [if_pos hexp]
              exact ⟨rfl, rfl⟩
            · rw [if_neg hexp]
              dsimp only
              cases w.finish_passkey_registration payload.credential c.state with
              | ok passkey => exact ⟨rfl, rfl⟩
              | error e => exact ⟨rfl, rfl⟩
      refine .idle ?_ (List.Sublist.refl _) ?_ (fun _ => rfl) (fun _ => rfl)
      · show Shrinks (registerFinish r.state now payload).1.auth_ceremonies _
        rw [hsame.1]
        exact Shrinks.refl _
      · show Shrinks (registerFinish r.state now payload).1.verified _
        rw [hsame.2]
        exact Shrinks.refl _
  | @authStart scan now payload started token hscan =>
      unfold authStart
      cases r.state.passkeys payload.credential_id with
      | none =>
          exact .idle (Shrinks.refl _) (List.Sublist.refl _) (Shrinks.refl _) (fun _ => rfl)
            (fun _ => rfl)
      | some passkey =>
          cases started with
          | error e =>
              exact .idle (Shrinks.refl _) (List.Sublist.refl _) (Shrinks.refl _) (fun _ => rfl)
                (fun _ => rfl)
          | ok state =>
              refine .opened payload state token (now + AUTH_CEREMONY_TTL) rfl ?_
                (Function.update_self _ _ _) rfl rfl
              intro key c hkey hc
              exact shrinks_of_update (shrinks_retain _ scan r.state.auth_ceremonies) hkey hc
  | @authTake now payload hnow =>
      unfold authFinishTake AuthState.takeAuthCeremony
      cases hself : r.state.auth_ceremonies payload.session_token with
      | none =>
          exact .idle (Shrinks.refl _) (List.Sublist.refl _) (Shrinks.refl _) (fun _ => rfl)
            (fun _ => rfl)
      | some c =>
          dsimp only
          by_cases hexp : c.exp < now
          · rw [if_pos hexp]
            exact .idle (shrinks_remove (Shrinks.refl _) _) (List.Sublist.refl _) (Shrinks.refl _)
              (fun _ => rfl) (fun _ => rfl)
          · rw [if_neg hexp]
            exact .taken payload c rfl hself rfl rfl rfl
  | @authStore scan now i f token hscan hf =>
      unfold authFinishStore
      cases hid : w.finish_passkey_authentication f.credential f.state with
      | error e =>
          exact .idle (Shrinks.refl _) (List.eraseIdx_sublist _ _) (Shrinks.refl _) (fun _ => rfl)
            (fun _ => rfl)
      | ok id =>
          refine .issued now i f token id rfl hid hf rfl rfl ?_ (Function.update_self _ _ _)
          intro key e hkey he
          exact shrinks_of_update (shrinks_retain _ scan r.state.verified) hkey he
  | @consume scan now token binding hscan =>
      cases hresult : (r.state.consumeVerified scan now token binding).2 with
      | none =>
          obtain ⟨hsessions, htokens⟩ := consumeVerified_none hresult
          refine .idle ?_ (List.Sublist.refl _) htokens (fun _ => rfl) (fun _ => rfl)
          show Shrinks (r.state.consumeVerified scan now token binding).1.auth_ceremonies _
          rw [hsessions]
          exact Shrinks.refl _
      | some credential =>
          obtain ⟨e, he, rfl, hlive, hnow, hbinding, hpost⟩ := consumeVerified_some hresult
          refine .redeemed (scan token) now token binding e rfl he hlive hnow hbinding ?_ rfl ?_ ?_
          · show (r.state.consumeVerified scan now token binding).1.auth_ceremonies = _
            rw [hpost]
          · intro key e' hkey he'
            have hupdate : (r.state.consumeVerified scan now token binding).1.verified key
                = some e' := he'
            rw [hpost] at hupdate
            exact shrinks_of_update (shrinks_retain _ scan r.state.verified) hkey hupdate
          · show (r.state.consumeVerified scan now token binding).1.verified token = _
            rw [hpost]
            exact Function.update_self _ _ _

/-! ## The law, step by step -/

variable {tr : List (Transition (AuthRun w) (AuthEvent w))}

/-- What is known of the sessions after a run. -/
structure SessionLaw (tr : List (Transition (AuthRun w) (AuthEvent w))) (r : AuthRun w) :
    Prop where
  sessions : ∀ session c, r.state.auth_ceremonies session = some c →
    Opened tr session c.state c.binding c.max_uses
  finishing : ∀ f ∈ r.finishing, Opened tr f.session_token f.state f.binding f.max_uses
  once : ∀ session, pending r session + tr.countP (issuesFor session) ≤ 1
  unopened : ∀ session, session ∉ drawn tr → pending r session + tr.countP (issuesFor session) = 0

/-- What is known of the tokens. -/
structure TokenLaw (tr : List (Transition (AuthRun w) (AuthEvent w))) (r : AuthRun w) : Prop where
  tokens : ∀ token e, r.state.verified token = some e → ∃ u ∈ tr, ∃ now f id,
    u.act = .authStore now f token (.ok token) ∧
      w.finish_passkey_authentication f.credential f.state = .ok id ∧
      e.credential_id = w.base64url id ∧ e.binding = f.binding ∧
      e.expires_at = now + VERIFIED_TOKEN_TTL
  issued : ∀ u ∈ tr, ∀ now f token, u.act = .authStore now f token (.ok token) →
    Opened tr f.session_token f.state f.binding f.max_uses ∧
      tr.countP (redeems token) + remaining r token ≤ f.max_uses
  undrawn : ∀ token, token ∉ drawn tr →
    tr.countP (redeems token) = 0 ∧ r.state.verified token = none

theorem Opened.mono {tr' : List (Transition (AuthRun w) (AuthEvent w))} {session : Text}
    {state : w.Authentication} {binding : Text} {max_uses : Nat}
    (h : Opened tr session state binding max_uses) :
    Opened (tr ++ tr') session state binding max_uses := by
  obtain ⟨u, hu, hact⟩ := h
  exact ⟨u, List.mem_append_left _ hu, hact⟩

theorem Opened.granted {session : Text} {state : w.Authentication} {binding : Text}
    {max_uses : Nat} (h : Opened tr session state binding max_uses) :
    1 ≤ max_uses ∧ max_uses ≤ 4 := by
  obtain ⟨u, -, payload, -, -, rfl⟩ := h
  rw [AuthStartReq.granted]
  omega

theorem drawn_append (u : Transition (AuthRun w) (AuthEvent w)) :
    drawn (tr ++ [u]) = drawn tr ++ (drawnBy u).toList := by
  rw [drawn, List.filterMap_append, ← drawn]
  cases h : drawnBy u <;> simp [h]

/-- A UUID drawn last was not drawn before. -/
theorem not_mem_drawn {u : Transition (AuthRun w) (AuthEvent w)} {token : Text}
    (hfresh : (drawn (tr ++ [u])).Nodup) (h : drawnBy u = some token) : token ∉ drawn tr := by
  rw [drawn_append, h] at hfresh
  intro hmem
  exact (List.nodup_append.mp hfresh).2.2 token hmem token (List.mem_singleton_self token) rfl

theorem mem_drawn_append {u : Transition (AuthRun w) (AuthEvent w)} {token : Text}
    (h : token ∈ drawn tr) : token ∈ drawn (tr ++ [u]) := by
  rw [drawn_append]
  exact List.mem_append_left _ h

theorem countP_append_one {α : Type} (p : α → Bool) (l : List α) (a : α) :
    (l ++ [a]).countP p = l.countP p + if p a then 1 else 0 := by
  rw [List.countP_append, List.countP_singleton]

theorem countP_eraseIdx_add {α : Type} (p : α → Bool) {l : List α} {i : Nat} {a : α}
    (h : l[i]? = some a) : (l.eraseIdx i).countP p + (if p a then 1 else 0) = l.countP p := by
  induction l generalizing i with
  | nil => cases h
  | cons b l ih =>
      cases i with
      | zero =>
          obtain rfl := Option.some.inj h
          rw [List.eraseIdx_cons_zero, List.countP_cons]
      | succ i =>
          have hrest := ih (List.getElem?_cons_succ ▸ h)
          rw [List.eraseIdx_cons_succ, List.countP_cons, List.countP_cons]
          omega

theorem pending_le {r r' : AuthRun w} {session : Text}
    (hsession : ∀ c, r'.state.auth_ceremonies session = some c →
      r.state.auth_ceremonies session = some c)
    (hfinishing : r'.finishing.Sublist r.finishing) : pending r' session ≤ pending r session := by
  have hcount := hfinishing.countP_le (p := fun f => f.session_token = session)
  unfold pending
  cases hc : r'.state.auth_ceremonies session with
  | none =>
      simp only [Option.isSome_none, Bool.false_eq_true, if_false]
      omega
  | some c =>
      rw [hsession c hc]
      simp only [Option.isSome_some, if_true]
      omega

theorem remaining_le {r r' : AuthRun w} {token : Text}
    (h : ∀ e, r'.state.verified token = some e → r.state.verified token = some e) :
    remaining r' token ≤ remaining r token := by
  unfold remaining
  cases hv : r'.state.verified token with
  | none => exact Nat.zero_le _
  | some e => rw [h e hv]

theorem countP_issuesFor {u : Transition (AuthRun w) (AuthEvent w)} {now : Nat} {f : Finishing w}
    {token session : Text} (h : u.act = .authStore now f token (.ok token)) :
    (tr ++ [u]).countP (issuesFor session)
      = tr.countP (issuesFor session) + if f.session_token = session then 1 else 0 := by
  rw [countP_append_one]
  simp [issuesFor, h]

theorem countP_redeems {u : Transition (AuthRun w) (AuthEvent w)} {seen now : Nat}
    {token token' binding credential : Text}
    (h : u.act = .consume seen now token binding (some credential)) :
    (tr ++ [u]).countP (redeems token')
      = tr.countP (redeems token') + if token = token' then 1 else 0 := by
  rw [countP_append_one]
  simp [redeems, h]

/-- Without an issue, and with no more pending than before. -/
theorem SessionLaw.quiet {r r' : AuthRun w} {a : AuthEvent w} (h : SessionLaw tr r)
    (hissues : ∀ session, issuesFor session ⟨r, a, r'⟩ = false)
    (hsessions : ∀ session c, r'.state.auth_ceremonies session = some c →
      Opened (tr ++ [⟨r, a, r'⟩]) session c.state c.binding c.max_uses)
    (hfinishing : ∀ f ∈ r'.finishing,
      Opened (tr ++ [⟨r, a, r'⟩]) f.session_token f.state f.binding f.max_uses)
    (hpending : ∀ session, pending r' session ≤ pending r session) :
    SessionLaw (tr ++ [⟨r, a, r'⟩]) r' where
  sessions := hsessions
  finishing := hfinishing
  once session := by
    have hle := hpending session
    have hone := h.once session
    rw [countP_append_one, hissues, if_neg Bool.false_ne_true]
    omega
  unopened session hnot := by
    have hle := hpending session
    have hzero := h.unopened session fun hmem => hnot (mem_drawn_append hmem)
    rw [countP_append_one, hissues, if_neg Bool.false_ne_true]
    omega

theorem SessionLaw.step {r r' : AuthRun w} {a : AuthEvent w} (h : SessionLaw tr r)
    (he : Effect ⟨r, a, r'⟩) (hfresh : (drawn (tr ++ [⟨r, a, r'⟩])).Nodup) :
    SessionLaw (tr ++ [⟨r, a, r'⟩]) r' := by
  cases he with
  | idle hsessions hfinishing htokens hredeems hissues =>
      refine h.quiet hissues ?_ ?_ ?_
      · intro session c hc
        exact (h.sessions session c (hsessions session c hc)).mono
      · intro f hf
        exact (h.finishing f (hfinishing.mem hf)).mono
      · intro session
        exact pending_le (hsessions session) hfinishing
  | opened payload state token exp hact hothers hself hfinishing htokens =>
      dsimp only at hact hothers hself hfinishing
      subst hact
      have hopened : Opened (tr ++ [⟨r, .authStart payload (.ok state) token (.ok token), r'⟩]) token
          state payload.binding payload.granted :=
        ⟨_, List.mem_append_right _ List.mem_cons_self, payload, rfl, rfl, rfl⟩
      have hnew := h.unopened token (not_mem_drawn hfresh rfl)
      have hpending : ∀ session, session ≠ token → pending r' session ≤ pending r session :=
        fun session hne => pending_le (fun c hc => hothers session c hne hc)
          (hfinishing ▸ List.Sublist.refl _)
      refine ⟨?_, ?_, ?_, ?_⟩
      · intro session c hc
        by_cases hsession : session = token
        · rw [hsession, hself] at hc
          obtain rfl := Option.some.inj hc
          rw [hsession]
          exact hopened
        · exact (h.sessions session c (hothers session c hsession hc)).mono
      · intro f hf
        exact (h.finishing f (hfinishing ▸ hf)).mono
      · intro session
        have hone := h.once session
        rw [countP_append_one, if_neg (by exact Bool.false_ne_true)]
        by_cases hsession : session = token
        · -- The new session is the only thing pending under its token.
          rw [hsession]
          unfold pending at hnew ⊢
          rw [hfinishing]
          split_ifs <;> omega
        · have hle := hpending session hsession
          omega
      · intro session hnot
        rw [countP_append_one, if_neg (by exact Bool.false_ne_true)]
        have hsession : session ≠ token := by
          rintro rfl
          rw [drawn_append] at hnot
          exact hnot (List.mem_append_right _ (List.mem_singleton_self _))
        have hle := hpending session hsession
        have hzero := h.unopened session fun hmem => hnot (mem_drawn_append hmem)
        omega
  | taken payload c hact hself hsessions hfinishing htokens =>
      dsimp only at hact hself hsessions hfinishing
      subst hact
      refine h.quiet (fun _ => rfl) ?_ ?_ ?_
      · intro session c' hc'
        rw [hsessions] at hc'
        exact (h.sessions session c' (shrinks_remove (Shrinks.refl _) _ session c' hc')).mono
      · intro f hf
        rw [hfinishing] at hf
        rcases List.mem_cons.mp hf with rfl | hf
        · exact (h.sessions _ c hself).mono
        · exact (h.finishing f hf).mono
      · intro session
        unfold pending
        rw [hsessions, hfinishing, List.countP_cons]
        by_cases hsession : session = payload.session_token
        · rw [hsession, Function.update_self, hself]
          simp
        · rw [Function.update_of_ne hsession]
          simp [Ne.symm hsession]
  | issued now i f token id hact hid hf hsessions hfinishing hothers hself =>
      dsimp only at hact hf hsessions hfinishing
      subst hact
      have herase : ∀ session, pending r' session + (if f.session_token = session then 1 else 0)
          = pending r session := by
        intro session
        have hcount := countP_eraseIdx_add (fun f => decide (f.session_token = session)) hf
        unfold pending
        rw [hsessions, hfinishing]
        simp only [decide_eq_true_eq] at hcount
        omega
      refine ⟨?_, ?_, ?_, ?_⟩
      · intro session c hc
        exact (h.sessions session c (hsessions ▸ hc)).mono
      · intro f' hf'
        rw [hfinishing] at hf'
        exact (h.finishing f' ((List.eraseIdx_sublist _ _).mem hf')).mono
      · intro session
        have hone := h.once session
        have hsame := herase session
        rw [countP_issuesFor rfl]
        omega
      · intro session hnot
        have hzero := h.unopened session fun hmem => hnot (mem_drawn_append hmem)
        have hsame := herase session
        rw [countP_issuesFor rfl]
        omega
  | redeemed seen now token binding e hact he hlive hnow hbinding hsessions hfinishing hothers
      hself =>
      dsimp only at hact hsessions hfinishing
      subst hact
      refine h.quiet (fun _ => rfl) ?_ ?_ ?_
      · intro session c hc
        exact (h.sessions session c (hsessions ▸ hc)).mono
      · intro f hf
        exact (h.finishing f (hfinishing ▸ hf)).mono
      · intro session
        exact pending_le (fun c hc => hsessions ▸ hc) (hfinishing ▸ List.Sublist.refl _)

/-- Without a redemption or an issue, and with no entry that was not there. -/
theorem TokenLaw.quiet {u : Transition (AuthRun w) (AuthEvent w)} (h : TokenLaw tr u.pre)
    (htokens : Shrinks u.post.state.verified u.pre.state.verified)
    (hredeems : ∀ token, redeems token u = false)
    (hissues : ∀ session, issuesFor session u = false) : TokenLaw (tr ++ [u]) u.post where
  tokens token e he := by
    obtain ⟨v, hv, hact⟩ := h.tokens token e (htokens token e he)
    exact ⟨v, List.mem_append_left _ hv, hact⟩
  issued v hv now f token hact := by
    rcases List.mem_append.mp hv with hv | hv
    · obtain ⟨hopened, hbudget⟩ := h.issued v hv now f token hact
      have hle := @remaining_le _ u.pre u.post token (htokens token)
      refine ⟨hopened.mono, ?_⟩
      rw [countP_append_one, hredeems, if_neg Bool.false_ne_true]
      omega
    · rw [List.mem_singleton.mp hv] at hact
      have hissue := hissues f.session_token
      rw [issuesFor, hact] at hissue
      simp at hissue
  undrawn token hnot := by
    obtain ⟨hzero, hnone⟩ := h.undrawn token fun hmem => hnot (mem_drawn_append hmem)
    rw [countP_append_one, hredeems, if_neg Bool.false_ne_true]
    refine ⟨hzero, ?_⟩
    cases hv : u.post.state.verified token with
    | none => rfl
    | some e =>
        rw [htokens token e hv] at hnone
        cases hnone

theorem TokenLaw.step {r r' : AuthRun w} {a : AuthEvent w} (h : TokenLaw tr r)
    (hsessions : SessionLaw tr r) (he : Effect ⟨r, a, r'⟩)
    (hfresh : (drawn (tr ++ [⟨r, a, r'⟩])).Nodup) : TokenLaw (tr ++ [⟨r, a, r'⟩]) r' := by
  cases he with
  | idle _ _ htokens hredeems hissues =>
      exact TokenLaw.quiet (u := ⟨r, a, r'⟩) h htokens hredeems hissues
  | opened payload state token exp hact hothers hself hfinishing htokens =>
      dsimp only at hact htokens
      subst hact
      exact TokenLaw.quiet (u := ⟨r, _, r'⟩) h (htokens ▸ Shrinks.refl _) (fun _ => rfl)
        (fun _ => rfl)
  | taken payload c hact hself _ hfinishing htokens =>
      dsimp only at hact htokens
      subst hact
      exact TokenLaw.quiet (u := ⟨r, _, r'⟩) h (htokens ▸ Shrinks.refl _) (fun _ => rfl)
        (fun _ => rfl)
  | issued now i f token id hact hid hf _ hfinishing hothers hself =>
      dsimp only at hact hf hothers hself
      subst hact
      have hnew : token ∉ drawn tr := not_mem_drawn hfresh rfl
      have hopened := hsessions.finishing f (List.mem_of_getElem? hf)
      have hremaining : ∀ other, other ≠ token → remaining r' other ≤ remaining r other :=
        fun other hne => remaining_le fun e he => hothers other e hne he
      refine ⟨?_, ?_, ?_⟩
      · intro other e he
        by_cases hother : other = token
        · rw [hother, hself] at he
          obtain rfl := Option.some.inj he
          rw [hother]
          exact ⟨_, List.mem_append_right _ List.mem_cons_self, now, f, id, rfl, hid, rfl, rfl, rfl⟩
        · obtain ⟨v, hv, hact⟩ := h.tokens other e (hothers other e hother he)
          exact ⟨v, List.mem_append_left _ hv, hact⟩
      · intro v hv now' f' token' hact
        rw [countP_append_one, if_neg (by exact Bool.false_ne_true)]
        rcases List.mem_append.mp hv with hold | hlast
        · obtain ⟨hopened', hbudget⟩ := h.issued v hold now' f' token' hact
          have hdrawn : drawnBy v = some token' := by rw [drawnBy, hact]
          have hne : token' ≠ token :=
            fun heq => hnew (heq ▸ List.mem_filterMap.mpr ⟨v, hold, hdrawn⟩)
          have hle := hremaining token' hne
          exact ⟨hopened'.mono, by omega⟩
        · rw [List.mem_singleton.mp hlast] at hact
          cases hact
          obtain ⟨hone, -⟩ := hopened.granted
          have hzero := (h.undrawn token hnew).1
          refine ⟨hopened.mono, ?_⟩
          rw [remaining, hself]
          simp only [Option.map_some, Option.getD_some]
          omega
      · intro other hnot
        have hother : other ≠ token := by
          rintro rfl
          rw [drawn_append] at hnot
          exact hnot (List.mem_append_right _ (List.mem_singleton_self _))
        obtain ⟨hzero, hnone⟩ := h.undrawn other fun hmem => hnot (mem_drawn_append hmem)
        rw [countP_append_one, if_neg (by exact Bool.false_ne_true)]
        refine ⟨hzero, ?_⟩
        cases hv : r'.state.verified other with
        | none => rfl
        | some e =>
            rw [hothers other e hother hv] at hnone
            cases hnone
  | redeemed seen now token binding e hact he hlive hnow hbinding _ hfinishing hothers hself =>
      dsimp only at hact he hothers hself
      subst hact
      have hpositive : 0 < e.uses_remaining := by
        have hboth := Bool.and_eq_true_iff.mp hlive
        exact of_decide_eq_true hboth.2
      have hleft : remaining r' token + 1 = remaining r token := by
        unfold remaining
        rw [hself, he]
        split_ifs with hlast
        · simp only [Option.map_none, Option.getD_none, Option.map_some, Option.getD_some]
          omega
        · simp only [Option.map_some, Option.getD_some]
          omega
      refine ⟨?_, ?_, ?_⟩
      · intro other e' he'
        by_cases hother : other = token
        · rw [hother, hself] at he'
          obtain ⟨v, hv, hact⟩ := h.tokens token e he
          refine ⟨v, List.mem_append_left _ hv, ?_⟩
          rw [hother]
          by_cases hlast : e.uses_remaining - 1 = 0
          · rw [if_pos hlast] at he'
            cases he'
          · rw [if_neg hlast] at he'
            obtain rfl := Option.some.inj he'
            exact hact
        · obtain ⟨v, hv, hact⟩ := h.tokens other e' (hothers other e' hother he')
          exact ⟨v, List.mem_append_left _ hv, hact⟩
      · intro v hv now' f token' hact
        rcases List.mem_append.mp hv with hv | hv
        · obtain ⟨hopened, hbudget⟩ := h.issued v hv now' f token' hact
          refine ⟨hopened.mono, ?_⟩
          rw [countP_redeems rfl]
          by_cases htoken : token = token'
          · rw [if_pos htoken, ← htoken]
            rw [← htoken] at hbudget
            omega
          · have hle := @remaining_le _ r r' token'
              fun e' he' => hothers token' e' (Ne.symm htoken) he'
            rw [if_neg htoken]
            omega
        · rw [List.mem_singleton.mp hv] at hact
          cases hact
      · intro other hnot
        obtain ⟨hzero, hnone⟩ := h.undrawn other fun hmem => hnot (mem_drawn_append hmem)
        have hother : other ≠ token := by
          rintro rfl
          rw [he] at hnone
          cases hnone
        rw [countP_redeems rfl, if_neg (Ne.symm hother)]
        refine ⟨hzero, ?_⟩
        cases hv : r'.state.verified other with
        | none => rfl
        | some e' =>
            rw [hothers other e' hother hv] at hnone
            cases hnone

/-! ## The law over runs -/

theorem AuthStep.consumed {r r' : AuthRun w} {seen now : Nat} {token binding : Text}
    {result : Option Text} (h : AuthStep w r (.consume seen now token binding result) r') :
    ∃ scan, Scans r.clock now scan ∧
      result = (r.state.consumeVerified scan now token binding).2 ∧
      r' = { r with state := (r.state.consumeVerified scan now token binding).1, clock := now } := by
  cases h with
  | consume hscan => exact ⟨_, hscan, rfl, rfl⟩

theorem law_run {clock : Nat} {r : AuthRun w} (h : Steps (AuthStep w) (.start w clock) tr r)
    (hfresh : (drawn tr).Nodup) : SessionLaw tr r ∧ TokenLaw tr r := by
  refine h.history_invariant_of (Q := fun tr => (drawn tr).Nodup)
    (I := fun tr r => SessionLaw tr r ∧ TokenLaw tr r) ?_ ?_ hfresh ?_
  · intro l t hfresh
    rw [drawn_append] at hfresh
    exact (List.nodup_append.mp hfresh).1
  · rintro l r a r' - hs hfresh ⟨hsessions, htokens⟩
    have he := step_effect hs
    exact ⟨hsessions.step he hfresh, htokens.step hsessions he hfresh⟩
  · have hnone : ∀ f : Finishing w, f ∉ (AuthRun.start w clock).finishing :=
      fun _ => List.not_mem_nil
    exact ⟨⟨nofun, fun f hf => absurd hf (hnone f), fun _ => Nat.zero_le _, fun _ _ => rfl⟩,
      ⟨nofun, fun _ hu => absurd hu List.not_mem_nil, fun _ _ => ⟨rfl, rfl⟩⟩⟩

/-- Scanning removes no entry that is still live after the scan. -/
theorem retain_live {scan : Text → Nat} {m : Text → Option VerifiedEntry} {r now : Nat}
    (hscan : Scans r now scan) {key : Text} {e : VerifiedEntry} (he : m key = some e)
    (hlive : e.live now = true) :
    retain (fun now e => VerifiedEntry.live e now) scan m key = some e := by
  refine retain_eq_some.mpr ⟨he, ?_⟩
  have hboth := Bool.and_eq_true_iff.mp hlive
  have hexpires := of_decide_eq_true hboth.1
  have hle := (hscan key).2
  exact Bool.and_eq_true_iff.mpr ⟨decide_eq_true (by omega), hboth.2⟩

/-- Where no entry of the token has the binding, nothing is consumed. -/
theorem consume_mismatch {s : AuthState w} {scan : Text → Nat} {r now : Nat}
    (hscan : Scans r now scan) {token binding : Text}
    (h : ∀ e, s.verified token = some e → eqIgnoreAsciiCase e.binding binding = false) :
    (s.consumeVerified scan now token binding).2 = none ∧
      ∀ key e, s.verified key = some e → e.live now = true →
        (s.consumeVerified scan now token binding).1.verified key = some e := by
  unfold AuthState.consumeVerified
  dsimp only
  cases hentry : retain (fun now e => VerifiedEntry.live e now) scan s.verified token with
  | none => exact ⟨rfl, fun key e he hlive => retain_live hscan he hlive⟩
  | some e =>
      have hbinding := h e (retain_eq_some.mp hentry).1
      dsimp only
      by_cases hdead : e.expires_at < now ∨ e.uses_remaining = 0
      · rw [if_pos hdead]
        refine ⟨rfl, ?_⟩
        intro key e' he' hlive
        have hkept := retain_live hscan he' hlive
        have hkey : key ≠ token := by
          rintro rfl
          obtain rfl := Option.some.inj (hentry.symm.trans hkept)
          have hboth := Bool.and_eq_true_iff.mp hlive
          have hexpires := of_decide_eq_true hboth.1
          have huses := of_decide_eq_true hboth.2
          omega
        exact (Function.update_of_ne hkey _ _).trans hkept
      · rw [if_neg hdead, hbinding, if_pos rfl]
        exact ⟨rfl, fun key e he hlive => retain_live hscan he hlive⟩

end

/-- **The verified-token law.**  In every run that draws no UUID twice: a token is redeemed at most
as often as its session was granted, which is between one and four times; a redemption comes before
the token's expiry, has the session's binding up to ASCII case and returns the credential that
completed the session; no session yields two tokens; and a redemption with another binding consumes
nothing. -/
theorem verified_token_law {w : Webauthn} {clock : Nat} {r : AuthRun w}
    {tr : List (Transition (AuthRun w) (AuthEvent w))}
    (h : Steps (AuthStep w) (.start w clock) tr r) (hfresh : (drawn tr).Nodup) :
    (∀ u ∈ tr, ∀ now f token, u.act = .authStore now f token (.ok token) →
      Opened tr f.session_token f.state f.binding f.max_uses ∧
        1 ≤ f.max_uses ∧ f.max_uses ≤ 4 ∧ tr.countP (redeems token) ≤ f.max_uses) ∧
    (∀ u ∈ tr, ∀ seen now token binding credential,
      u.act = .consume seen now token binding (some credential) → ∃ before rest,
        tr = before ++ u :: rest ∧ ∃ v ∈ before, ∃ issued f id,
          v.act = .authStore issued f token (.ok token) ∧ seen < issued + VERIFIED_TOKEN_TTL ∧
          now ≤ issued + VERIFIED_TOKEN_TTL ∧ eqIgnoreAsciiCase f.binding binding = true ∧
          w.finish_passkey_authentication f.credential f.state = .ok id ∧
          credential = w.base64url id) ∧
    (∀ session, tr.countP (issuesFor session) ≤ 1) ∧
    ∀ u ∈ tr, ∀ seen now token binding result, u.act = .consume seen now token binding result →
      (∀ e, u.pre.state.verified token = some e → eqIgnoreAsciiCase e.binding binding = false) →
        result = none ∧ ∀ key e, u.pre.state.verified key = some e → e.live now = true →
          u.post.state.verified key = some e := by
  obtain ⟨hsessions, htokens⟩ := law_run h hfresh
  refine ⟨?_, ?_, ?_, ?_⟩
  · intro u hu now f token hact
    obtain ⟨hopened, hbudget⟩ := htokens.issued u hu now f token hact
    exact ⟨hopened, hopened.granted.1, hopened.granted.2, by omega⟩
  · intro u hu seen now token binding credential hact
    obtain ⟨hs, before, rest, rfl, hbefore, -⟩ := h.mem_split hu
    refine ⟨before, rest, rfl, ?_⟩
    have hfresh' : (drawn before).Nodup := by
      rw [drawn, List.filterMap_append] at hfresh
      exact (List.nodup_append.mp hfresh).1
    rw [hact] at hs
    cases step_effect hs with
    | redeemed seen' now' token' binding' e hact' he hlive hnow hbinding =>
        cases hact'
        obtain ⟨v, hv, issued, f, id, hissue, hid, hcredential, hsame, hexpires⟩ :=
          (law_run hbefore hfresh').2.tokens token e he
        have hseen := of_decide_eq_true (Bool.and_eq_true_iff.mp hlive).1
        refine ⟨v, hv, issued, f, id, hissue, ?_, ?_, ?_, hid, hcredential⟩
        · omega
        · omega
        · rw [← hsame]
          exact hbinding
    | idle _ _ _ hredeems _ =>
        have hno := hredeems token
        simp [redeems] at hno
    | opened _ _ _ _ hact' => cases hact'
    | taken _ _ hact' => cases hact'
    | issued _ _ _ _ _ hact' => cases hact'
  · intro session
    have hone := hsessions.once session
    omega
  · intro u hu seen now token binding result hact hmismatch
    obtain ⟨hs, -⟩ := h.mem_split hu
    rw [hact] at hs
    obtain ⟨scan, hscan, rfl, hpost⟩ := hs.consumed
    obtain ⟨hnone, hkept⟩ := consume_mismatch hscan hmismatch
    rw [hpost]
    exact ⟨hnone, hkept⟩

/-! ## A session and its token -/

namespace TokenSample

def base64url (bs : Bytes) : Text :=
  ((base64Encode bs).filter (· ≠ '=')).map fun c =>
    if c = '+' then '-' else if c = '/' then '_' else c

/-- Any credential answers any ceremony, with its own id. -/
def webauthn : Webauthn where
  Passkey := Bytes
  Registration := Unit
  Authentication := Unit
  RegisterCredential := Bytes
  Credential := Bytes
  finish_passkey_registration id _ := .ok id
  cred_id id := id
  finish_passkey_authentication id _ := .ok id
  base64url := base64url

def enrolling : AuthState webauthn :=
  (registerStart AuthState.new (fun _ => 0) 0 (.ok ()) "r".toList).1

def enrolled : AuthState webauthn := (registerFinish enrolling 1 ⟨"r".toList, [7]⟩).1

/-- Two uses of one binding. -/
def request : AuthStartReq := ⟨"Bw".toList, "0xAB".toList, some 2⟩

def finishing : Finishing webauthn := ⟨"s".toList, [7], (), "0xAB".toList, 2⟩

def opened : AuthState webauthn :=
  (authStart enrolled (fun _ => 2) 2 request (.ok ()) "s".toList).1

def taken : AuthState webauthn := (authFinishTake opened 3 ⟨"s".toList, [7]⟩).1

def verified : AuthState webauthn :=
  (authFinishStore taken (fun _ => 4) 4 finishing "v".toList).1

def once : AuthState webauthn :=
  (verified.consumeVerified (fun _ => 5) 5 "v".toList "0xab".toList).1

def missed : AuthState webauthn :=
  (once.consumeVerified (fun _ => 6) 6 "v".toList "0xac".toList).1

def twice : AuthState webauthn :=
  (missed.consumeVerified (fun _ => 7) 7 "v".toList "0xAB".toList).1

def run : List (Transition (AuthRun webauthn) (AuthEvent webauthn)) :=
  [⟨.start webauthn 0, .registerStart "r".toList (.ok "r".toList), ⟨enrolling, [], 0⟩⟩,
    ⟨⟨enrolling, [], 0⟩, .registerFinish ⟨"r".toList, [7]⟩ (.ok "Bw".toList), ⟨enrolled, [], 1⟩⟩,
    ⟨⟨enrolled, [], 1⟩, .authStart request (.ok ()) "s".toList (.ok "s".toList), ⟨opened, [], 2⟩⟩,
    ⟨⟨opened, [], 2⟩, .authTake ⟨"s".toList, [7]⟩ (.ok finishing), ⟨taken, [finishing], 3⟩⟩,
    ⟨⟨taken, [finishing], 3⟩, .authStore 4 finishing "v".toList (.ok "v".toList),
      ⟨verified, [], 4⟩⟩,
    ⟨⟨verified, [], 4⟩, .consume 5 5 "v".toList "0xab".toList (some "Bw".toList), ⟨once, [], 5⟩⟩,
    ⟨⟨once, [], 5⟩, .consume 6 6 "v".toList "0xac".toList none, ⟨missed, [], 6⟩⟩,
    ⟨⟨missed, [], 6⟩, .consume 7 7 "v".toList "0xAB".toList (some "Bw".toList), ⟨twice, [], 7⟩⟩]

theorem steps : Steps (AuthStep webauthn) (.start webauthn 0) run ⟨twice, [], 7⟩ :=
  .step (@AuthStep.registerStart _ (.start webauthn 0) _ 0 (.ok ()) _ (scans_const (Nat.le_refl 0)))
    (.step (@AuthStep.registerFinish _ ⟨enrolling, [], 0⟩ 1 ⟨"r".toList, [7]⟩ (Nat.zero_le 1))
      (.step (@AuthStep.authStart _ ⟨enrolled, [], 1⟩ _ 2 request (.ok ()) _
          (scans_const (show 1 ≤ 2 by decide)))
        (.step (@AuthStep.authTake _ ⟨opened, [], 2⟩ 3 ⟨"s".toList, [7]⟩ (show 2 ≤ 3 by decide))
          (.step (@AuthStep.authStore _ ⟨taken, [finishing], 3⟩ _ 4 0 finishing _
              (scans_const (show 3 ≤ 4 by decide)) rfl)
            (.step (@AuthStep.consume _ ⟨verified, [], 4⟩ _ 5 _ _ (scans_const (show 4 ≤ 5 by decide)))
              (.step (@AuthStep.consume _ ⟨once, [], 5⟩ _ 6 _ _ (scans_const (show 5 ≤ 6 by decide)))
                (.step (@AuthStep.consume _ ⟨missed, [], 6⟩ _ 7 _ _
                  (scans_const (show 6 ≤ 7 by decide))) (.refl _))))))))

end TokenSample

open TokenSample in
/-- One touch granted twice is redeemed twice, in two spellings of its binding. -/
theorem verified_token_law_run :
    run.countP (redeems "v".toList) = 2 ∧ run.countP (redeems "v".toList) ≤ 2 ∧
      run.countP (issuesFor "s".toList) ≤ 1 ∧ missed.verified "v".toList = once.verified "v".toList := by
  obtain ⟨hbudget, -, honce, hmismatch⟩ := verified_token_law steps (by decide +kernel)
  refine ⟨by decide +kernel, ?_, honce _, ?_⟩
  · exact (hbudget _ (List.mem_of_getElem? (i := 4) rfl) 4 finishing "v".toList rfl).2.2.2
  · have hentry : once.verified "v".toList
        = some ⟨"Bw".toList, "0xAB".toList, 4 + VERIFIED_TOKEN_TTL, 1⟩ := by decide +kernel
    obtain ⟨-, hkept⟩ := hmismatch _ (List.mem_of_getElem? (i := 6) rfl) 6 6 "v".toList
      "0xac".toList none rfl (by
        intro e he
        obtain rfl := Option.some.inj (hentry.symm.trans he)
        decide +kernel)
    exact (hkept _ _ hentry (by decide +kernel)).trans hentry.symm

end Beanie.Api.Auth
