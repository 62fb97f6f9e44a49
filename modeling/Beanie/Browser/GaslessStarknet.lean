/-
# `Beanie.Browser.GaslessStarknet` — the outside execution the wallet signs

The Starknet half of `gasless.js`, with what it uses of the bundled
`starknet.js`: addresses are padded hexadecimal, compiled calldata is decimal.
The route compares the caller and the recipient as texts with ones written the
other way, and the worker reads every text as hexadecimal.

    gasless_refused   no execution the front end builds is accepted, and what
                      the worker would make of one is the signed execution only
                      for a recipient and an amount of one digit
-/
import Beanie.Browser.Requests
import Beanie.Api.PaymentBinding

namespace Beanie.Browser

open Beanie.Starknet (Felt)
open Beanie.Api (AppState IncomingPaymentRequest PaymentTask StarknetAuth StarknetCrate Worker
  receivePayment processStarknet)

/-! ## `starknet.js` -/

/-- `2n ** 251n - 256n` -/
def ADDR_BOUND : Nat := 2 ^ 251 - 256

/-- The digits that `BigInt` reads once the prefix is put back: blanks after them do not count. -/
def addressDigits (s : Text) : Text := ((dropHexPrefix s).reverse.dropWhile isJsSpace).reverse

/-- `none` if it throws. -/
def validateAndParseAddress (s : Text) : Option Text :=
  let ds := addressDigits s
  if ds ≠ [] ∧ IsHex ds ∧ hexValue ds < ADDR_BOUND then
    some ('0' :: 'x' :: padHex 64 (hexValue ds))
  else none

/-- `BigInt` of a hexadecimal or of a decimal text. -/
def bigIntText (s : Text) : Nat :=
  match stripHex s with
  | some ds => hexValue ds
  | none => Nat.ofDigitChars 10 s 0

/-- `felt`, for a text that is a number. -/
def feltText (s : Text) : Text := Nat.toDigits 10 (bigIntText s)

/-- `cairo.uint256` -/
def uint256 (amount : Nat) : Text × Text :=
  (Nat.toDigits 10 (amount % 2 ^ 128), Nat.toDigits 10 (amount / 2 ^ 128))

/-- `CallData.compile` of a recipient and an amount. -/
def compileTransfer (recipient : Text) (amount : Text × Text) : List Text :=
  [feltText recipient, feltText amount.1, feltText amount.2]

/-! ## `gasless.js` -/

def KEEPER_STARKNET_ADDRESS : Text :=
  "0x01d4a73b58909eb341e6357bd085fea917d71c386ebaecd770792f7b5a34615a".toList

def usdc : Text := "0x033068f6539f8e6e6b131e6b2b814e6c34a5224bc66947c47dab9dfee93b35fb".toList

/-- What a gasless payment depends on: the page's receiver and amount, the wallet's account, the
random nonce and the clock. -/
structure StarknetTransfer where
  receiver : Text
  amount : Nat
  rawUser : Text
  nonce : {bs : Bytes // bs.length = 31}
  now : Seconds

/-- `selector` is `hash.getSelectorFromName("transfer")`.  The result is the execution that is
signed, and the user's address. -/
def signStarknetTransfer (selector : Text) (t : StarknetTransfer) :
    Option (OutsideExecution × Text) := do
  let userAddress ← validateAndParseAddress t.rawUser
  let caller ← validateAndParseAddress KEEPER_STARKNET_ADDRESS
  let recipient ← validateAndParseAddress t.receiver
  let target ← validateAndParseAddress usdc
  let calldata : JsArray Text :=
    ⟨compileTransfer recipient (uint256 t.amount), (by decide : 3 < 2 ^ 32)⟩
  let calls : JsArray OutsideCall := ⟨[⟨target, selector, calldata⟩], (by decide : 1 < 2 ^ 32)⟩
  some (⟨caller, '0' :: 'x' :: hexEncode t.nonce.val, t.now, calls⟩, userAddress)

/-- The account's version of SNIP-9. -/
inductive Snip9
  | v1
  | v2

def Snip9.entrypoint : Snip9 → Text
  | .v1 => "execute_from_outside".toList
  | .v2 => "execute_from_outside_v2".toList

def feltOfText (s : Text) : Felt := Fin.ofNat Starknet.P (bigIntText s)

def OutsideCall.signed (c : OutsideCall) : Starknet.Call where
  target := feltOfText c.to_
  selector := feltOfText c.selector
  calldata := c.calldata.val.map feltOfText

/-- The message of `buildTypedData`: both versions sign the same fields. -/
def OutsideExecution.signed (oe : OutsideExecution) : Starknet.OutsideExecution where
  caller := feltOfText oe.caller
  nonce := feltOfText oe.nonce
  execute_after := Fin.ofNat Starknet.P (oe.now.val - 60)
  execute_before := Fin.ofNat Starknet.P (oe.now.val + VALID_FOR_SEC)
  calls := oe.calls.val.map OutsideCall.signed

/-- The call in the words of the server: target, entrypoint and the same calldata. -/
def OutsideCall.asDto (c : OutsideCall) : Api.CallDto where
  contract_address := c.to_
  entrypoint := "transfer".toList
  calldata := JsArray.vec c.calldata id

def OutsideExecution.asDto (oe : OutsideExecution) : Api.OutsideExecutionDto :=
  { oe.meant with calls := JsArray.vec oe.calls OutsideCall.asDto }

/-! ## What is built -/

section
variable {selector : Text} {t : StarknetTransfer} {exec : OutsideExecution} {user : Text}

theorem validate_ok {s address : Text} (h : validateAndParseAddress s = some address) :
    ∃ v, v < ADDR_BOUND ∧ address = '0' :: 'x' :: padHex 64 v := by
  rw [validateAndParseAddress] at h
  split at h
  · rename_i hall
    exact ⟨_, hall.2.2, (Option.some.inj h).symm⟩
  · cases h

theorem addr_bound_lt : ADDR_BOUND < Starknet.P := by decide

theorem bigIntText_padHex (v : Nat) : bigIntText ('0' :: 'x' :: padHex 64 v) = v :=
  hexValue_padHex 64 v

theorem feltOfText_padHex {v : Nat} (h : v < ADDR_BOUND) :
    (feltOfText ('0' :: 'x' :: padHex 64 v)).val = v := by
  show bigIntText ('0' :: 'x' :: padHex 64 v) % Starknet.P = v
  rw [bigIntText_padHex, Nat.mod_eq_of_lt (Nat.lt_trans h addr_bound_lt)]

theorem bigIntText_decimal (n : Nat) : bigIntText (Nat.toDigits 10 n) = n := by
  rw [bigIntText, stripHex_of_isHex (isHex_toDigits n)]
  exact Nat.ofDigitChars_ten_toDigits

/-- What a signed transfer consists of. -/
structure Built (t : StarknetTransfer) (selector : Text) (exec : OutsideExecution)
    (recipient : Nat) : Prop where
  bound : recipient < ADDR_BOUND
  caller : ∃ v, v < ADDR_BOUND ∧ exec.caller = '0' :: 'x' :: padHex 64 v
  nonce : exec.nonce = '0' :: 'x' :: hexEncode t.nonce.val
  call : ∃ target calldata, exec.calls.val = [⟨'0' :: 'x' :: padHex 64 target, selector, calldata⟩] ∧
    target < ADDR_BOUND ∧
    calldata.val = [Nat.toDigits 10 recipient, Nat.toDigits 10 (t.amount % 2 ^ 128),
      Nat.toDigits 10 (t.amount / 2 ^ 128)]

theorem signStarknetTransfer_ok (h : signStarknetTransfer selector t = some (exec, user)) :
    ∃ recipient, validateAndParseAddress t.receiver = some ('0' :: 'x' :: padHex 64 recipient) ∧
      Built t selector exec recipient := by
  simp only [signStarknetTransfer, Option.bind_eq_bind, Option.bind_eq_some_iff] at h
  obtain ⟨_, -, caller, hcaller, address, haddress, target, htarget, h⟩ := h
  obtain ⟨recipient, hbound, rfl⟩ := validate_ok haddress
  obtain ⟨token, htoken, rfl⟩ := validate_ok htarget
  cases h
  refine ⟨recipient, haddress, hbound, validate_ok hcaller, rfl, token, _, rfl, htoken, ?_⟩
  show [feltText _, feltText _, feltText _] = _
  rw [feltText, feltText, feltText, bigIntText_padHex, uint256, bigIntText_decimal,
    bigIntText_decimal]

/-! ## The route -/

/-- A prefixed text is no decimal one. -/
theorem prefixed_ne_decimal (ds : Text) (n : Nat) :
    eqIgnoreAsciiCase ('0' :: 'x' :: ds) (Nat.toDigits 10 n) = false := by
  rw [eqIgnoreAsciiCase, beq_eq_false_iff_ne]
  intro heq
  exact not_isHex_of_hexPrefix heq.symm (isHex_toDigits n)

/-- The payload of a request is an execution the front end built. -/
structure Carries (st : AppState) (payload : IncomingPaymentRequest) (exec : OutsideExecution)
    (signature : Api.Vec Text) (user : Text) : Prop where
  chain : payload.chain = .starknet
  parses : ∃ sig, payload.signature = some sig ∧
    st.signature_payload sig = some (.starknet exec.asDto signature user)

theorem not_accepted {st : AppState} (hdoc : st.starknet.Documented) {recipient : Nat}
    (h : Built t selector exec recipient) {payload : IncomingPaymentRequest}
    {signature : Api.Vec Text} (hcarries : Carries st payload exec signature user)
    (task : PaymentTask) : receivePayment st payload ≠ .ok task := by
  intro haccepted
  obtain ⟨sig, parsed, auths, hsig, hparsed, hverify, -⟩ := Api.receivePayment_ok haccepted
  obtain ⟨sig', hsig', hparsed'⟩ := hcarries.parses
  obtain rfl : sig = sig' := Option.some.inj (hsig.symm.trans hsig')
  obtain rfl := Option.some.inj (hparsed.symm.trans hparsed')
  rw [Api.verifyPayload.eq_def, hcarries.chain] at hverify
  simp only [bind_ok, require_ok, Api.rejected_ok] at hverify
  obtain ⟨_, -, _, hexecution, -⟩ := hverify
  obtain ⟨_, _, hverified⟩ := Api.verifyStarknetOutsideExecution_ok hexecution
  obtain ⟨v, -, hcaller⟩ := h.caller
  have heq : eqIgnoreAsciiCase exec.caller (Nat.toDigits 10 st.keeper_address.val) = true := by
    rw [← hdoc.to_string]
    exact hverified.caller
  rw [hcaller, prefixed_ne_decimal] at heq
  cases heq

/-! ## The worker -/

theorem execute_after_signed (now : Seconds) :
    Fin.ofNat Starknet.P (BitVec.ofNat 64 (now.val - 60)).toNat =
      Fin.ofNat Starknet.P (now.val - 60) := by
  have hnow := now.property
  rw [BitVec.toNat_ofNat, Nat.mod_eq_of_lt (by omega)]

theorem execute_before_signed (now : Seconds) :
    Fin.ofNat Starknet.P (BitVec.ofNat 64 (now.val + VALID_FOR_SEC)).toNat =
      Fin.ofNat Starknet.P (now.val + VALID_FOR_SEC) := by
  have hnow := now.property
  rw [BitVec.toNat_ofNat, Nat.mod_eq_of_lt (by rw [VALID_FOR_SEC]; omega)]

variable {sn : StarknetCrate}

/-- A text with a prefix is read by both sides as the same number. -/
theorem felt_of_prefixed (hdoc : sn.Documented) {ds : Text} (hhex : IsHex ds) {v : Felt}
    (h : sn.from_hex ('0' :: 'x' :: ds) = some v) : v = feltOfText ('0' :: 'x' :: ds) := by
  have hval : v.val = hexValue ds :=
    (hdoc.from_hex _ v h).unique (HexOf.prefixed hhex) (eqIgnoreAsciiCase_refl _)
  refine Fin.ext ?_
  show v.val = hexValue ds % Starknet.P
  rw [← hval, Nat.mod_eq_of_lt v.isLt]

/-- A decimal text is read by both sides as the same number if it has one digit. -/
theorem felt_of_decimal_iff (hdoc : sn.Documented) {n : Nat} (hn : n < Starknet.P) {v : Felt}
    (h : sn.from_hex (Nat.toDigits 10 n) = some v) :
    v = feltOfText (Nat.toDigits 10 n) ↔ n < 10 := by
  have hval : v.val = hexValue (Nat.toDigits 10 n) :=
    (hdoc.from_hex _ v h).unique (HexOf.plain (isHex_toDigits n)) (eqIgnoreAsciiCase_refl _)
  have hfelt : (feltOfText (Nat.toDigits 10 n)).val = n := by
    show bigIntText (Nat.toDigits 10 n) % Starknet.P = n
    rw [bigIntText_decimal, Nat.mod_eq_of_lt hn]
  rw [Fin.ext_iff, hfelt, hval, hexValue_toDigits_eq_iff]

/-- What the worker makes of the execution is what was signed, exactly for a recipient and an
amount of one digit. -/
theorem serialised_signed_iff (hdoc : sn.Documented) {recipient : Nat}
    (h : Built t selector exec recipient) (hamount : t.amount < 2 ^ 128)
    (hselector : sn.get_selector_from_name "transfer".toList = some (feltOfText selector))
    {auth : StarknetAuth} (hauth : auth.outside_execution = exec.asDto)
    {oe : Starknet.OutsideExecution} {signature : List Felt}
    (hs : Api.Serialised sn auth oe signature) :
    oe = exec.signed ↔ recipient < 10 ∧ t.amount < 10 := by
  obtain ⟨v, -, hcallerText⟩ := h.caller
  obtain ⟨target, calldata, hcallsText, -, hcalldata⟩ := h.call
  have hrecipient : recipient < Starknet.P := Nat.lt_trans h.bound addr_bound_lt
  have hlow : t.amount % 2 ^ 128 = t.amount := Nat.mod_eq_of_lt hamount
  have hhigh : t.amount / 2 ^ 128 = 0 := Nat.div_eq_of_lt hamount
  rw [hlow, hhigh] at hcalldata
  have hcaller : oe.caller = exec.signed.caller := by
    have hread := hs.caller
    rw [hauth] at hread
    change sn.from_hex exec.caller = _ at hread
    show _ = feltOfText exec.caller
    rw [hcallerText] at hread ⊢
    exact felt_of_prefixed hdoc (isHex_padHex 64 v) hread
  have hnonce : oe.nonce = exec.signed.nonce := by
    have hread := hs.nonce
    rw [hauth] at hread
    change sn.from_hex exec.nonce = _ at hread
    show _ = feltOfText exec.nonce
    rw [h.nonce] at hread ⊢
    exact felt_of_prefixed hdoc (isHex_hexEncode _) hread
  have hafter : oe.execute_after = exec.signed.execute_after := by
    rw [hs.execute_after, hauth]
    exact execute_after_signed exec.now
  have hbefore : oe.execute_before = exec.signed.execute_before := by
    rw [hs.execute_before, hauth]
    exact execute_before_signed exec.now
  have hcalls := hs.calls
  rw [hauth] at hcalls
  change List.Forall₂ _ (exec.calls.val.map OutsideCall.asDto) oe.calls at hcalls
  rw [hcallsText, List.map_singleton, List.forall₂_cons_left_iff] at hcalls
  obtain ⟨submitted, _, hsubmitted, hnil, hcalls⟩ := hcalls
  rw [List.forall₂_nil_left_iff] at hnil
  subst hnil
  have htarget : submitted.target = feltOfText ('0' :: 'x' :: padHex 64 target) :=
    felt_of_prefixed hdoc (isHex_padHex 64 target) hsubmitted.target
  have hentry : submitted.selector = feltOfText selector :=
    Option.some.inj (hsubmitted.selector.symm.trans hselector)
  have hwords := hsubmitted.calldata
  change List.Forall₂ _ (calldata.val.map id) _ at hwords
  rw [List.map_id, hcalldata] at hwords
  obtain ⟨submittedTarget, submittedSelector, words⟩ := submitted
  simp only [List.forall₂_cons_left_iff, List.forall₂_nil_left_iff] at hwords
  obtain ⟨r, _, hr, ⟨low, _, hlowRead, ⟨high, _, hhighRead, rfl, rfl⟩, rfl⟩, rfl⟩ := hwords
  have hzero : high = feltOfText (Nat.toDigits 10 0) :=
    (felt_of_decimal_iff hdoc (by decide) hhighRead).mpr (by decide)
  have hsigned : exec.signed.calls = [⟨feltOfText ('0' :: 'x' :: padHex 64 target),
      feltOfText selector, [feltOfText (Nat.toDigits 10 recipient),
        feltOfText (Nat.toDigits 10 t.amount), feltOfText (Nat.toDigits 10 0)]⟩] := by
    show exec.calls.val.map OutsideCall.signed = _
    rw [hcallsText, List.map_singleton, OutsideCall.signed, hcalldata]
    rfl
  have hrIff := felt_of_decimal_iff hdoc hrecipient hr
  have hlowIff := felt_of_decimal_iff hdoc (Nat.lt_trans hamount (by decide)) hlowRead
  rw [← hrIff, ← hlowIff]
  constructor
  · intro heq
    have hboth := congrArg Starknet.OutsideExecution.calls heq
    rw [hcalls, hsigned] at hboth
    simp only [List.cons.injEq, Starknet.Call.mk.injEq, and_true] at hboth
    exact ⟨hboth.2.2.1, hboth.2.2.2.1⟩
  · rintro ⟨hrEq, hlowEq⟩
    have hboth : oe.calls = exec.signed.calls := by
      rw [hcalls, hsigned, ← hrEq, ← hlowEq, ← hzero]
      simp only [List.cons.injEq, Starknet.Call.mk.injEq, and_true]
      exact ⟨htarget, hentry⟩
    cases oe
    cases hsgn : exec.signed
    rw [hsgn] at hcaller hnonce hafter hbefore hboth
    simp only at hcaller hnonce hafter hbefore hboth
    rw [hcaller, hnonce, hafter, hbefore, hboth]

/-- The words are a signed execution with some signature. -/
def EncodesSigned (exec : OutsideExecution) (words : List Felt) : Prop :=
  ∃ signature : List Felt, signature.length < 2 ^ 64 ∧ words = exec.signed.encode signature

theorem signed_read {recipient : Nat} (h : Built t selector exec recipient) {signature : List Felt}
    (hsig : signature.length < 2 ^ 64) :
    Starknet.OutsideExecution.read (exec.signed.encode signature) =
      some ((exec.signed, signature), []) := by
  obtain ⟨target, calldata, hcalls, -, hcalldata⟩ := h.call
  have hsigned : exec.signed.calls = exec.calls.val.map OutsideCall.signed := rfl
  have hone : exec.signed.calls.length < 2 ^ 64 := by
    rw [hsigned, hcalls]
    show 1 < 2 ^ 64
    decide
  have hthree : ∀ c ∈ exec.signed.calls, c.calldata.length < 2 ^ 64 := by
    intro c hc
    rw [hsigned, hcalls, List.map_singleton, List.mem_singleton] at hc
    rw [hc, OutsideCall.signed, hcalldata]
    show 3 < 2 ^ 64
    decide
  have hread := Starknet.OutsideExecution.reads hone hthree hsig []
  rwa [List.append_nil] at hread

theorem encodesSigned_iff {recipient : Nat} (h : Built t selector exec recipient)
    {auth : StarknetAuth} {oe : Starknet.OutsideExecution} {signature : List Felt}
    {w : Worker} (hs : Api.Serialised w.starknet auth oe signature) :
    EncodesSigned exec (oe.encode signature) ↔ oe = exec.signed := by
  constructor
  · rintro ⟨signature', hsig', heq⟩
    have hread := signed_read h hsig'
    rw [← heq] at hread
    have hpair := Option.some.inj (hs.read.symm.trans hread)
    exact (Prod.mk.inj (Prod.mk.inj hpair).1).1
  · rintro rfl
    have hlen : signature.length < 2 ^ 64 := by
      rw [← hs.signature.length_eq]
      exact auth.signature.property
    exact ⟨signature, hlen, rfl⟩

end

/-- **Gasless Starknet payments are refused.**  The route accepts no request whose payload is an
execution the front end built.  A worker that had one would submit it to `execute_from_outside_v2`,
whatever version was signed, and in the words that were signed exactly for a recipient and an
amount below ten. -/
theorem gasless_refused {st : AppState} (hdoc : st.starknet.Documented) {selector : Text}
    {t : StarknetTransfer} (hamount : t.amount < 2 ^ 128) {exec : OutsideExecution} {user : Text}
    (hsigned : signStarknetTransfer selector t = some (exec, user)) :
    (∀ payload signature, Carries st payload exec signature user →
      ∀ task, receivePayment st payload ≠ .ok task) ∧
    ∀ (w : Worker) (task : PaymentTask) (auth : StarknetAuth) (calls : List Starknet.Call),
      w.starknet = st.starknet →
      w.starknet.get_selector_from_name "transfer".toList = some (feltOfText selector) →
      task.starknet_auth = some auth → auth.outside_execution = exec.asDto →
      .executeV3 calls ∈ (processStarknet w task).log →
      ∃ account execute words, calls.reverse[1]? = some ⟨account, execute, words⟩ ∧
        w.starknet.get_selector_from_name Snip9.v2.entrypoint = some execute ∧
        (EncodesSigned exec words ↔
          bigIntText ('0' :: 'x' :: addressDigits t.receiver) < 10 ∧ t.amount < 10) := by
  obtain ⟨recipient, hrecipient, hbuilt⟩ := signStarknetTransfer_ok hsigned
  constructor
  · intro payload signature hcarries task
    exact not_accepted hdoc hbuilt hcarries task
  · intro w task auth calls hsame hselector hauth hexec hmem
    obtain ⟨_, -, _, -, account, -, execute, hexecute, words, hwords, _, -, rfl⟩ :=
      (Api.mem_processStarknet_auth hauth).mp hmem
    obtain ⟨oe, signature, hserialised, rfl⟩ := Api.serialiseExecution_ok.mp hwords
    have hvalue : bigIntText ('0' :: 'x' :: addressDigits t.receiver) = recipient := by
      rw [validateAndParseAddress] at hrecipient
      split at hrecipient
      · have hpad := (List.cons.inj (List.cons.inj (Option.some.inj hrecipient)).2).2
        have hval := congrArg hexValue hpad
        rwa [hexValue_padHex, hexValue_padHex] at hval
      · cases hrecipient
    refine ⟨account, execute, oe.encode signature, by simp, hexecute, ?_⟩
    rw [encodesSigned_iff hbuilt hserialised, hvalue]
    exact serialised_signed_iff (by rw [hsame]; exact hdoc) hbuilt hamount hselector hexec
      hserialised

/-! ## One dollar -/

namespace GaslessSample

/-- The selector of `transfer`. -/
def selector : Text := "0x83afd3f4caedc6eebf44246fe54e38c95e3179a5ec9ea81740eca5b482d12e".toList

def transfer : StarknetTransfer where
  receiver := "0x05bc000000000000000000000000000000000000000000000000000000000777".toList
  amount := 1000000
  rawUser := "0x123".toList
  nonce := ⟨List.replicate 31 7, rfl⟩
  now := ⟨1000, by decide⟩

def userAddress : Text :=
  "0x0000000000000000000000000000000000000000000000000000000000000123".toList

def calldata : JsArray Text :=
  ⟨["2593731491094668195828280731090604381234746360613408630522517903497565833079".toList,
    "1000000".toList, "0".toList], (by decide : 3 < 2 ^ 32)⟩

def execution : OutsideExecution where
  caller := KEEPER_STARKNET_ADDRESS
  nonce := '0' :: 'x' :: hexEncode (List.replicate 31 7)
  now := ⟨1000, by decide⟩
  calls := ⟨[⟨usdc, selector, calldata⟩], (by decide : 1 < 2 ^ 32)⟩

theorem two_fit : ["0x1".toList, "0x2".toList].length < 2 ^ 64 := by decide

def signature : Api.Vec Text := ⟨["0x1".toList, "0x2".toList], two_fit⟩

/-- The keeper is configured with the address the front end knows. -/
def state : AppState :=
  { Api.Sample.state (feltOfText KEEPER_STARKNET_ADDRESS) execution.asDto with
    signature_payload := fun _ => some (.starknet execution.asDto signature userAddress)
    now := 1000 }

def request : IncomingPaymentRequest :=
  { Api.Sample.request transfer.receiver "1000000".toList with from_address := userAddress }

end GaslessSample

open GaslessSample in
/-- No task comes of it. -/
theorem gasless_refused_dollar : ¬ ∃ task, receivePayment state request = .ok task := by
  rintro ⟨task, haccepted⟩
  have hsigned : signStarknetTransfer selector transfer = some (execution, userAddress) := by
    decide +kernel
  have hcarries : Carries state request execution signature userAddress := ⟨rfl, [], rfl, rfl⟩
  have hdoc : state.starknet.Documented := Api.plainStarknet_documented
  exact (gasless_refused hdoc (by decide) hsigned).1 request signature hcarries task haccepted

open GaslessSample in
set_option maxRecDepth 20000 in
/-- The keeper's address in hexadecimal is not its address in decimal. -/
theorem keeper_in_two_radices :
    signStarknetTransfer selector transfer = some (execution, userAddress) ∧
    state.signature_payload [] = some (.starknet execution.asDto signature userAddress) ∧
    receivePayment state request = .error (Api.badRequest
      "outside execution caller is not Beanie's relayer — refusing to submit") := by
  refine ⟨by decide +kernel, rfl, by decide +kernel⟩

end Beanie.Browser
