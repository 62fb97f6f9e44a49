/-
# `Beanie.Evm.StealthExecution` — what the account can be made to call

The execution functions of `StealthAccount.sol` inside a transaction in which
everybody may call everybody, and the account may be entered again while it
calls.  The entry point calls the account as ERC-4337 says: to validate an
operation under its hash, or with the call data of an operation that the account
has validated.  So every call the account makes is one that both its signers
have signed, or the gas of an operation that they have
(`account_calls_signed`).
-/
import Beanie.Lib.CallStack
import Beanie.Evm.StealthSignature

namespace Beanie.Evm

open CallStack (Contract Frame StackStep Reaches)

/-- Target, value and call data. -/
abbrev Execution := CallStack.Call Address Bytes

inductive ExecutionRevert
  | contract (r : Revert)
  | unsupportedExecutionMode
deriving DecidableEq

/-- A call of one of the account's external functions. -/
inductive AccountCall
  | validateUserOp (userOp : PackedUserOperation) (userOpHash : Bytes32) (missingAccountFunds : Nat)
  | executeFromExecutor (mode : Bytes32) (executionCalldata : Bytes)
  | execute (e : Execution)
  | executeBatch (executions : List Execution)
  | isValidSignature (hash : Bytes32) (signature : Bytes)
  /-- a getter of one of the immutables -/
  | getter
  | receive

/-- Solidity's own reading of call data. -/
structure AccountAbi where
  /-- The function selected; there is no fallback. -/
  dispatch : Bytes → Option AccountCall
  /-- `abi.decode(executionCalldata, (address, uint256, bytes))` -/
  decodeSingle : Bytes → Option Execution
  /-- `abi.decode(executionCalldata, (Execution[]))` -/
  decodeBatch : Bytes → Option (List Execution)

section
variable (x : StealthLib) (abi : AccountAbi) (a : StealthAccount) (this : Address)

/-- `onlyEntryPointOrSelf`. -/
def StealthAccount.onlyEntryPointOrSelf (sender : Address) : Except ExecutionRevert Unit :=
  if sender ≠ a.entryPoint ∧ sender ≠ this then .error (.contract .unauthorized) else .ok ()

/-- The calls that `validateUserOp` makes: the gas that is missing, to its caller. -/
def StealthAccount.prefund (sender : Address) (userOp : PackedUserOperation) (userOpHash : Bytes32)
    (missingAccountFunds : Nat) : Except ExecutionRevert (List Execution) :=
  if sender ≠ a.entryPoint then .error (.contract .unauthorized)
  else
    match a.isValid2Of2Signature x (toEthSignedMessageHash x userOpHash) userOp.signature with
    | .error r => .error (.contract r)
    | .ok valid =>
        if ¬ valid then .ok []
        else if 0 < missingAccountFunds then .ok [⟨sender, missingAccountFunds, []⟩]
        else .ok []

/-- `executeFromExecutor`, by the first byte of the mode. -/
def AccountAbi.executions (mode : Bytes32) (executionCalldata : Bytes) :
    Except ExecutionRevert (List Execution) :=
  if mode.toNat / 2 ^ 248 = 0x00 then
    match abi.decodeSingle executionCalldata with
    | some e => .ok [e]
    | none => .error (.contract .external)
  else if mode.toNat / 2 ^ 248 = 0x01 then
    match abi.decodeBatch executionCalldata with
    | some es => .ok es
    | none => .error (.contract .external)
  else .error .unsupportedExecutionMode

/-- What the account calls when `sender` calls it with `data`. -/
def StealthAccount.body (sender : Address) (data : Bytes) :
    Except ExecutionRevert (List Execution) :=
  match abi.dispatch data with
  | some (.validateUserOp userOp userOpHash missingAccountFunds) =>
      a.prefund x sender userOp userOpHash missingAccountFunds
  | some (.executeFromExecutor mode executionCalldata) => do
      a.onlyEntryPointOrSelf this sender
      abi.executions mode executionCalldata
  | some (.execute e) => do
      a.onlyEntryPointOrSelf this sender
      .ok [e]
  | some (.executeBatch executions) => do
      a.onlyEntryPointOrSelf this sender
      .ok executions
  | some (.isValidSignature hash signature) =>
      match a.isValidSignature x hash signature with
      | .ok _ => .ok []
      | .error r => .error (.contract r)
  | some .getter => .ok []
  | some .receive => .ok []
  | none => .error (.contract .external)

/-- The account at `this`, as it appears in a transaction. -/
def StealthAccount.contract : Contract Address Bytes where
  address := this
  calls := fun sender data => (a.body x abi this sender data).toOption

end

/-! ## The entry point -/

/-- An operation: what the account reads of it, and what the entry point does. -/
structure UserOperation extends PackedUserOperation where
  callData : Bytes

/-- How the entry point calls the account at `this`. -/
inductive EntryPointCalls (x : StealthLib) (abi : AccountAbi) (a : StealthAccount)
    (userOpHash : UserOperation → Bytes32) : Bytes → Prop
  | validate {data : Bytes} (op : UserOperation) (missingAccountFunds : Nat) :
      abi.dispatch data
        = some (.validateUserOp op.toPackedUserOperation (userOpHash op) missingAccountFunds) →
      EntryPointCalls x abi a userOpHash data
  | executes (op : UserOperation) (missingAccountFunds : Nat) (call : Address → Nat → Bool)
      (sent : Nat) :
      a.validateUserOp x call a.entryPoint op.toPackedUserOperation (userOpHash op)
        missingAccountFunds = .ok ⟨SIG_VALIDATION_SUCCESS, sent⟩ →
      EntryPointCalls x abi a userOpHash op.callData

section
variable {x : StealthLib} {abi : AccountAbi} {a : StealthAccount} {this : Address}
  {ecrecover : Ecrecover}

/-- Whom the account lets execute. -/
theorem onlyEntryPointOrSelf_ok {sender : Address}
    (h : a.onlyEntryPointOrSelf this sender = .ok ()) : sender = a.entryPoint ∨ sender = this := by
  unfold StealthAccount.onlyEntryPointOrSelf at h
  split_ifs at h with hno
  by_contra hboth
  exact hno (not_or.mp hboth)

theorem prefund_caller {sender : Address} {userOp : PackedUserOperation} {userOpHash : Bytes32}
    {missing : Nat} {es : List Execution}
    (h : a.prefund x sender userOp userOpHash missing = .ok es) : sender = a.entryPoint := by
  by_contra hsender
  rw [StealthAccount.prefund, if_pos hsender] at h
  cases h

/-- **Who can make the account call anything.** -/
theorem body_calls {sender : Address} {data : Bytes} {es : List Execution} {e : Execution}
    (h : a.body x abi this sender data = .ok es) (he : e ∈ es) :
    sender = a.entryPoint ∨ sender = this := by
  unfold StealthAccount.body at h
  split at h
  · exact .inl (prefund_caller h)
  · obtain ⟨⟨⟩, hguard, -⟩ := bind_ok.mp h
    exact onlyEntryPointOrSelf_ok hguard
  · obtain ⟨⟨⟩, hguard, -⟩ := bind_ok.mp h
    exact onlyEntryPointOrSelf_ok hguard
  · obtain ⟨⟨⟩, hguard, -⟩ := bind_ok.mp h
    exact onlyEntryPointOrSelf_ok hguard
  · split at h
    · cases h
      cases he
    · cases h
  · cases h
    cases he
  · cases h
    cases he
  · cases h

/-- A check that passes is of both signatures. -/
theorem validPair_of_valid (hx : x.RecoverDocumented ecrecover) {hash : Bytes32} {signature : Bytes}
    (h : a.isValid2Of2Signature x hash signature = .ok true) :
    ValidPair ecrecover a hash signature := by
  by_cases hhalves : HalvesRecoverable ecrecover a hash signature
  · obtain ⟨valid, hcheck, hvalid⟩ := isValid2Of2Signature_eq hx hhalves
    rw [h] at hcheck
    exact hvalid.mp (Except.ok.inj hcheck).symm
  · obtain ⟨e, he⟩ := isValid2Of2Signature_reverts hx hhalves
    rw [h] at he
    cases he

/-- `validateUserOp` pays its caller, for an operation that both have signed. -/
theorem prefund_calls (hx : x.RecoverDocumented ecrecover) {sender : Address}
    {userOp : PackedUserOperation} {userOpHash : Bytes32} {missing : Nat} {es : List Execution}
    {e : Execution} (h : a.prefund x sender userOp userOpHash missing = .ok es) (he : e ∈ es) :
    e = ⟨a.entryPoint, missing, []⟩ ∧
      ValidPair ecrecover a (toEthSignedMessageHash x userOpHash) userOp.signature := by
  obtain rfl := prefund_caller h
  rw [StealthAccount.prefund, if_neg (not_not.mpr rfl)] at h
  cases hcheck : a.isValid2Of2Signature x (toEthSignedMessageHash x userOpHash)
      userOp.signature with
  | error r =>
      rw [hcheck] at h
      cases h
  | ok valid =>
      rw [hcheck] at h
      dsimp only at h
      cases valid with
      | false =>
          cases h
          cases he
      | true =>
          rw [if_neg (not_not.mpr rfl)] at h
          by_cases hmissing : 0 < missing
          · rw [if_pos hmissing] at h
            cases h
            exact ⟨List.mem_singleton.mp he, validPair_of_valid hx hcheck⟩
          · rw [if_neg hmissing] at h
            cases h
            cases he

/-- An operation that the account has validated is signed by both. -/
theorem validated_signed (hx : x.RecoverDocumented ecrecover) {call : Address → Nat → Bool}
    {sender : Address} {userOp : PackedUserOperation} {userOpHash : Bytes32} {missing sent : Nat}
    (h : a.validateUserOp x call sender userOp userOpHash missing
      = .ok ⟨SIG_VALIDATION_SUCCESS, sent⟩) :
    ValidPair ecrecover a (toEthSignedMessageHash x userOpHash) userOp.signature := by
  obtain ⟨-, -, h⟩ := bind_ok.mp h
  obtain ⟨valid, hcheck, h⟩ := bind_ok.mp h
  cases valid with
  | false =>
      have hflag : SIG_VALIDATION_FAILED = SIG_VALIDATION_SUCCESS :=
        congrArg Validation.validationData (Except.ok.inj h)
      exact absurd hflag (by decide)
  | true => exact validPair_of_valid hx hcheck

theorem calls_eq_some {sender : Address} {data : Bytes} {es : List Execution} :
    (a.contract x abi this).calls sender data = some es ↔ a.body x abi this sender data = .ok es :=
  toOption_eq_some

/-- Nobody but the entry point leads the account to call anything. -/
theorem reaches_caller {sender : Address} {data : Bytes} {c : Execution} (hsender : sender ≠ this)
    (h : Reaches (a.contract x abi this) sender data c) : sender = a.entryPoint := by
  induction h with
  | direct hcalls hc => exact (body_calls (calls_eq_some.mp hcalls) hc).resolve_right hsender
  | through _ _ _ _ ih => exact ih

/-- A validation leads to the payment of its gas. -/
theorem validate_reaches (hx : x.RecoverDocumented ecrecover) (hthis : a.entryPoint ≠ this)
    {sender : Address} {data : Bytes} {userOp : PackedUserOperation} {userOpHash : Bytes32}
    {missing : Nat} {c : Execution}
    (hdispatch : abi.dispatch data = some (.validateUserOp userOp userOpHash missing))
    (h : Reaches (a.contract x abi this) sender data c) :
    c = ⟨a.entryPoint, missing, []⟩ ∧
      ValidPair ecrecover a (toEthSignedMessageHash x userOpHash) userOp.signature := by
  induction h with
  | direct hcalls hc =>
      have hbody := calls_eq_some.mp hcalls
      rw [StealthAccount.body, hdispatch] at hbody
      exact prefund_calls hx hbody hc
  | through _ htarget _ _ ih =>
      rw [ih.1] at htarget
      exact absurd htarget hthis

/-- **Every call the account makes is signed for.**  In any transaction that an account of neither
contract's starts, whatever is called in it and in whatever order: what the account calls is the gas
of an operation that client and cosigner have signed, or is reached from the call data of one. -/
theorem account_calls_signed (hx : x.RecoverDocumented ecrecover)
    (userOpHash : UserOperation → Bytes32) (hthis : a.entryPoint ≠ this) {origin : Address}
    (horigin : origin ≠ this) (hother : origin ≠ a.entryPoint) {c₀ : Execution}
    {s : List (Frame Address Bytes)}
    {tr : List (Transition (List (Frame Address Bytes)) (CallStack.Event Address Bytes))}
    (h : Steps (StackStep (a.contract x abi this)
      fun sender data => sender = a.entryPoint → EntryPointCalls x abi a userOpHash data)
      [(a.contract x abi this).enter origin c₀] tr s) :
    ∀ t ∈ tr, ∀ c, t.act = .call this c →
      ∃ op : UserOperation,
        ValidPair ecrecover a (toEthSignedMessageHash x (userOpHash op)) op.signature ∧
          ((∃ missingAccountFunds, c = ⟨a.entryPoint, missingAccountFunds, []⟩) ∨
            Reaches (a.contract x abi this) a.entryPoint op.callData c) := by
  intro t ht c hact
  obtain ⟨sender, data, hsender, hallowed, hreaches⟩ :=
    CallStack.made_from (k := a.contract x abi this) horigin (fun _ heq => absurd heq hother) h
      t ht c hact
  obtain rfl := reaches_caller hsender hreaches
  cases hallowed rfl with
  | validate op missing hdispatch =>
      obtain ⟨rfl, hsigned⟩ := validate_reaches hx hthis hdispatch hreaches
      exact ⟨op, hsigned, .inl ⟨missing, rfl⟩⟩
  | executes op missing call sent hvalidated =>
      exact ⟨op, validated_signed hx hvalidated, .inr hreaches⟩

end

/-! ## An operation of the sample account -/

namespace ExecutionSample

open SignatureSample

def this : Address := 0x5ca1ab1e
def bundler : Address := 0xb0b
def validateData : Bytes := [0]
def executeData : Bytes := [1]

/-- Five wei, with two bytes of data. -/
def payment : Execution := ⟨0xbeef, 5, [1, 2]⟩

def abi : AccountAbi where
  dispatch data :=
    if data = validateData then some (.validateUserOp ⟨pair⟩ 1 7)
    else if data = executeData then some (.execute payment)
    else none
  decodeSingle _ := none
  decodeBatch _ := none

def op : UserOperation := { signature := pair, callData := executeData }

/-- The hash under which `pair` was signed. -/
def userOpHash (op : UserOperation) : Bytes32 := if op.callData = executeData then 1 else 0

theorem checked : account.isValid2Of2Signature lib (toEthSignedMessageHash lib 1) pair = .ok true := by
  rw [digest]
  decide +kernel

theorem validates : account.body lib abi this account.entryPoint validateData
    = .ok [⟨account.entryPoint, 7, []⟩] := by
  have hdispatch : abi.dispatch validateData = some (.validateUserOp ⟨pair⟩ 1 7) := rfl
  rw [StealthAccount.body, hdispatch]
  dsimp only
  rw [StealthAccount.prefund, if_neg (not_not.mpr rfl), checked]
  rfl

theorem executes : account.body lib abi this account.entryPoint executeData = .ok [payment] := by
  have hdispatch : abi.dispatch executeData = some (.execute payment) := rfl
  rw [StealthAccount.body, hdispatch]
  rfl

theorem validated : account.validateUserOp lib (fun _ _ => true) account.entryPoint
    op.toPackedUserOperation (userOpHash op) 7 = .ok ⟨SIG_VALIDATION_SUCCESS, 7⟩ := by
  show account.validateUserOp lib (fun _ _ => true) account.entryPoint ⟨pair⟩ 1 7 = _
  rw [StealthAccount.validateUserOp, require_bind_of rfl]
  dsimp only
  rw [checked]
  rfl

abbrev StackFrame := Frame Address Bytes

def handling : StackFrame := ⟨bundler, account.entryPoint, [], some []⟩
def validating (left : List Execution) : StackFrame :=
  ⟨account.entryPoint, this, validateData, some left⟩
def paid : StackFrame := ⟨this, account.entryPoint, [], some []⟩
def executing (left : List Execution) : StackFrame :=
  ⟨account.entryPoint, this, executeData, some left⟩
def received : StackFrame := ⟨this, 0xbeef, [1, 2], some []⟩

/-- The entry point validates the operation, is paid its gas and executes it. -/
def transitions : List (Transition (List StackFrame) (CallStack.Event Address Bytes)) :=
  [⟨[handling], .call account.entryPoint ⟨this, 0, validateData⟩,
      [validating [⟨account.entryPoint, 7, []⟩], handling]⟩,
    ⟨[validating [⟨account.entryPoint, 7, []⟩], handling], .call this ⟨account.entryPoint, 7, []⟩,
      [paid, validating [], handling]⟩,
    ⟨[paid, validating [], handling], .returned true, [validating [], handling]⟩,
    ⟨[validating [], handling], .returned true, [handling]⟩,
    ⟨[handling], .call account.entryPoint ⟨this, 0, executeData⟩, [executing [payment], handling]⟩,
    ⟨[executing [payment], handling], .call this payment, [received, executing [], handling]⟩]

theorem run : Steps (StackStep (account.contract lib abi this)
      fun sender data => sender = account.entryPoint →
        EntryPointCalls lib abi account userOpHash data)
    [(account.contract lib abi this).enter bundler ⟨account.entryPoint, 0, []⟩] transitions
      [received, executing [], handling] := by
  have hforeign : account.entryPoint ≠ this := by decide
  have hvalidating : (account.contract lib abi this).enter account.entryPoint ⟨this, 0, validateData⟩
      = validating [⟨account.entryPoint, 7, []⟩] :=
    Contract.enter_of_target rfl (calls_eq_some.mpr validates)
  have hexecuting : (account.contract lib abi this).enter account.entryPoint ⟨this, 0, executeData⟩
      = executing [payment] :=
    Contract.enter_of_target rfl (calls_eq_some.mpr executes)
  refine .step ?_
    (.step (.own rfl rfl) (.step (.succeeded fun h => absurd h hforeign)
      (.step (.succeeded fun _ => rfl) (.step ?_
        (.step (.own rfl rfl) (.refl _))))))
  · rw [← hvalidating]
    exact .other hforeign fun _ _ => .validate op 7 rfl
  · rw [← hexecuting]
    exact .other hforeign fun _ _ => .executes op 7 (fun _ _ => true) 7 validated

end ExecutionSample

open SignatureSample ExecutionSample in
theorem account_calls_signed_sample :
    ∃ op : UserOperation,
      ValidPair ecrecover account (toEthSignedMessageHash lib (userOpHash op)) op.signature ∧
        ((∃ missingAccountFunds, payment = ⟨account.entryPoint, missingAccountFunds, []⟩) ∨
          Reaches (account.contract lib abi this) account.entryPoint op.callData payment) :=
  account_calls_signed lib_documented userOpHash (by decide) (by decide) (by decide) run
    ⟨_, .call this payment, _⟩ (List.mem_of_getElem? (i := 5) rfl) payment rfl

end Beanie.Evm
