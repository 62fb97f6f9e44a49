/-
# `Beanie.Starknet.Calls` — calls as field elements

Cairo's `Serde` writes a span as its length and then its elements, a call as
its target, its selector and the span of its calldata.  The account contracts
and the keeper's hash both work on that serialisation, so what it determines
is what is signed and executed:

    reads_calls       a list of calls is read back from its serialisation
    encodeCalls_inj   so two lists with one serialisation are the same list
-/
import Beanie.Starknet.World
import Beanie.Lib.Reader

namespace Beanie.Starknet

structure Call where
  target : Felt
  selector : Felt
  calldata : List Felt
deriving DecidableEq

/-- `Felt::from(xs.len() as u64)`. -/
def lengthFelt {α : Type} (xs : List α) : Felt := Fin.ofNat P (xs.length % 2 ^ 64)

def encodeCall (c : Call) : List Felt :=
  c.target :: c.selector :: lengthFelt c.calldata :: c.calldata

def encodeCalls (cs : List Call) : List Felt := lengthFelt cs :: cs.flatMap encodeCall

/-! ## Reading -/

/-- A span: a length, and that many values. -/
def span {α : Type} (r : Reader Felt α) : Reader Felt (List α) := do
  let n ← Reader.symbol
  Reader.many r n.val

def Call.read : Reader Felt Call := do
  let target ← Reader.symbol
  let selector ← Reader.symbol
  let calldata ← span Reader.symbol
  pure ⟨target, selector, calldata⟩

theorem lengthFelt_val {α : Type} {xs : List α} (h : xs.length < 2 ^ 64) :
    (lengthFelt xs).val = xs.length := by
  have hP : 2 ^ 64 < P := by decide
  show xs.length % 2 ^ 64 % P = xs.length
  rw [Nat.mod_eq_of_lt h, Nat.mod_eq_of_lt (Nat.lt_trans h hP)]

theorem reads_span {α : Type} {r : Reader Felt α} {enc : α → List Felt} {xs : List α}
    (hlen : xs.length < 2 ^ 64) (h : ∀ x ∈ xs, Reads r (enc x) x) :
    Reads (span r) (lengthFelt xs :: xs.flatMap enc) xs := by
  refine (Reads.symbol (lengthFelt xs)).bind ?_
  rw [lengthFelt_val hlen]
  exact .many h

theorem reads_felts {xs : List Felt} (hlen : xs.length < 2 ^ 64) :
    Reads (span Reader.symbol) (lengthFelt xs :: xs) xs := by
  have h : Reads (span Reader.symbol) (lengthFelt xs :: xs.flatMap fun x => [x]) xs :=
    reads_span hlen fun x _ => Reads.symbol x
  rwa [List.flatMap_singleton'] at h

theorem reads_call {c : Call} (hlen : c.calldata.length < 2 ^ 64) :
    Reads Call.read (encodeCall c) c := by
  have h := (Reads.symbol c.target).bind
    (f := fun target => do
      let selector ← Reader.symbol
      let calldata ← span Reader.symbol
      pure (⟨target, selector, calldata⟩ : Call))
    ((Reads.symbol c.selector).bind ((reads_felts hlen).bind (.pure _)))
  rwa [List.append_nil] at h

theorem reads_calls {cs : List Call} (hlen : cs.length < 2 ^ 64)
    (hdata : ∀ c ∈ cs, c.calldata.length < 2 ^ 64) :
    Reads (span Call.read) (encodeCalls cs) cs :=
  reads_span hlen fun c hc => reads_call (hdata c hc)

/-- **Calls are uniquely decodable.** -/
theorem encodeCalls_inj {cs cs' : List Call} (hlen : cs.length < 2 ^ 64)
    (hdata : ∀ c ∈ cs, c.calldata.length < 2 ^ 64) (hlen' : cs'.length < 2 ^ 64)
    (hdata' : ∀ c ∈ cs', c.calldata.length < 2 ^ 64) (h : encodeCalls cs = encodeCalls cs') :
    cs = cs' :=
  (reads_calls hlen hdata).encoding_inj (h ▸ reads_calls hlen' hdata')

/-! ## Outside executions -/

/-- SNIP-9's `OutsideExecution`, as an account contract reads it. -/
structure OutsideExecution where
  caller : Felt
  nonce : Felt
  execute_after : Felt
  execute_before : Felt
  calls : List Call
deriving DecidableEq

/-- The arguments of `execute_from_outside_v2`: the execution and the signature. -/
def OutsideExecution.read : Reader Felt (OutsideExecution × List Felt) := do
  let caller ← Reader.symbol
  let nonce ← Reader.symbol
  let execute_after ← Reader.symbol
  let execute_before ← Reader.symbol
  let calls ← span Call.read
  let signature ← span Reader.symbol
  pure (⟨caller, nonce, execute_after, execute_before, calls⟩, signature)

def OutsideExecution.encode (oe : OutsideExecution) (signature : List Felt) : List Felt :=
  [oe.caller, oe.nonce, oe.execute_after, oe.execute_before] ++ encodeCalls oe.calls
    ++ lengthFelt signature :: signature

theorem OutsideExecution.reads {oe : OutsideExecution} {signature : List Felt}
    (hcalls : oe.calls.length < 2 ^ 64) (hdata : ∀ c ∈ oe.calls, c.calldata.length < 2 ^ 64)
    (hsig : signature.length < 2 ^ 64) :
    Reads OutsideExecution.read (oe.encode signature) (oe, signature) := by
  have h := (Reads.symbol oe.caller).bind
    (f := fun caller => do
      let nonce ← Reader.symbol
      let execute_after ← Reader.symbol
      let execute_before ← Reader.symbol
      let calls ← span Call.read
      let signature ← span Reader.symbol
      pure ((⟨caller, nonce, execute_after, execute_before, calls⟩, signature) :
        OutsideExecution × List Felt))
    ((Reads.symbol oe.nonce).bind ((Reads.symbol oe.execute_after).bind
      ((Reads.symbol oe.execute_before).bind ((reads_calls hcalls hdata).bind
        ((reads_felts hsig).bind (.pure _))))))
  have hword : oe.encode signature = [oe.caller] ++ ([oe.nonce] ++ ([oe.execute_after]
      ++ ([oe.execute_before] ++ (encodeCalls oe.calls ++ ((lengthFelt signature :: signature)
        ++ []))))) := by simp [OutsideExecution.encode]
  rw [hword]
  exact h

end Beanie.Starknet
