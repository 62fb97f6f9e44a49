/-
# `Beanie.Browser.Store` — deposit history and scan cursors

The history and the cursors of `store.js`.  What is written into the browser's
storage is read back; a write that the storage refuses leaves what was there.

    addedFrom_ids    what a scan adds are the transfers whose ids are new
    depositId_inj    an id tells receiver, transaction, amount and ordinal
-/
import Beanie.Browser.Onchain
import Beanie.Lib.Numbered

namespace Beanie.Browser

def MAX_HISTORY : Nat := 500

/-- A lane's receiver. -/
structure Receiver where
  chain : Text
  address : Text
  merchant : Option Text
  startBlock : Option Nat
deriving DecidableEq

structure HistoryEntry where
  id : Text
  chain : Text
  address : Text
  laneId : Option Text
  amount : Text
  tx : Text
  block : Nat
  time : Nat
deriving DecidableEq

/-- What the storage holds of scans. -/
structure ScanStore where
  history : List HistoryEntry
  cursors : Text → Option Nat

/-- Which writes of one scan the storage takes. -/
structure Writes where
  history : Bool
  cursors : Bool
deriving DecidableEq

/-- Solana addresses keep their case. -/
def receiverKey (chain address : Text) : Text :=
  wire chain ++ ':' ::
    (if (chainByKey chain).map ChainConfig.kind = some .solana then address else toLowerCase address)

def Receiver.key (r : Receiver) : Text := receiverKey r.chain r.address

def HistoryEntry.key (e : HistoryEntry) : Text := receiverKey e.chain e.address

def depositBase (key : Text) (d : Deposit) : Text := key ++ ':' :: (d.tx ++ ':' :: d.amount)

def depositId (base : Text) (ordinal : Nat) : Text := base ++ ':' :: decimal ordinal

def historyEntry (receiver : Receiver) (laneId : Option Text) (now : Nat) (id : Text) (d : Deposit) :
    HistoryEntry where
  id := id
  chain := wire receiver.chain
  address := receiver.address
  laneId := laneId
  amount := d.amount
  tx := d.tx
  block := d.block
  time := now

/-- The loop of `recordScan`: `ordinals` counts the transfers already met. -/
def addedFrom (receiver : Receiver) (laneId : Option Text) (now : Nat) (seen : List Text)
    (ordinals : Text → Nat) : List Deposit → List HistoryEntry
  | [] => []
  | d :: ds =>
      let base := depositBase receiver.key d
      let n := ordinals base
      let later := addedFrom receiver laneId now seen (Function.update ordinals base (n + 1)) ds
      if depositId base n ∈ seen then later
      else historyEntry receiver laneId now (depositId base n) d :: later

def ScanStore.getCursor (s : ScanStore) (receiver : Receiver) : Option Nat := s.cursors receiver.key

def ScanStore.setCursor (s : ScanStore) (receiver : Receiver) (block : Nat) (taken : Bool) :
    ScanStore :=
  if taken then { s with cursors := Function.update s.cursors receiver.key (some block) } else s

/-- The entries of a scan that are not in the history. -/
def ScanStore.added (s : ScanStore) (now : Nat) (receiver : Receiver) (deposits : List Deposit)
    (laneId : Option Text) : List HistoryEntry :=
  addedFrom receiver laneId now (s.history.map (·.id)) (fun _ => 0) deposits

/-- The entries that were new; `none` where the storage has refused a write. -/
def ScanStore.recordScan (s : ScanStore) (now : Nat) (w : Writes) (receiver : Receiver)
    (deposits : List Deposit) (nextBlock : Nat) (laneId : Option Text) :
    ScanStore × Option (List HistoryEntry) :=
  let added := s.added now receiver deposits laneId
  if added ≠ [] ∧ w.history = false then (s, none)
  else
    let s' : ScanStore :=
      if added ≠ [] then { s with history := (added.reverse ++ s.history).take MAX_HISTORY } else s
    if w.cursors = false then (s', none)
    else ({ s' with cursors := Function.update s'.cursors receiver.key (some nextBlock) }, some added)

/-! ## Ids -/

/-- A separator is found from the right where it does not occur behind. -/
theorem append_cons_inj_right {α : Type} [DecidableEq α] {a : α} {xs xs' ys ys' : List α}
    (hys : a ∉ ys) (hys' : a ∉ ys') (h : xs ++ a :: ys = xs' ++ a :: ys') : xs = xs' ∧ ys = ys' := by
  have htail : ∀ (us vs : List α), a ∉ vs →
      ((us ++ a :: vs).reverse.takeWhile fun b => decide (b ≠ a)) = vs.reverse := by
    intro us vs hvs
    rw [List.reverse_append, List.reverse_cons, List.append_assoc, List.takeWhile_append_of_pos]
    · simp
    · intro b hb
      exact decide_eq_true fun heq => hvs (heq ▸ List.mem_reverse.mp hb)
  have hrev : ys.reverse = ys'.reverse := by
    rw [← htail xs ys hys, ← htail xs' ys' hys', h]
  obtain rfl := List.reverse_inj.mp hrev
  exact ⟨List.append_cancel_right h, rfl⟩

theorem colon_not_mem_decimal (n : Nat) : ':' ∉ decimal n := by
  intro h
  have hhex := isHex_toDigits n ':' h
  revert hhex
  decide

theorem depositId_inj {base base' : Text} {n n' : Nat} (h : depositId base n = depositId base' n') :
    base = base' ∧ n = n' := by
  obtain ⟨hbase, hn⟩ :=
    append_cons_inj_right (colon_not_mem_decimal n) (colon_not_mem_decimal n') h
  refine ⟨hbase, ?_⟩
  rw [← Nat.ofDigitChars_ten_toDigits (n := n), show Nat.toDigits 10 n = Nat.toDigits 10 n' from hn,
    Nat.ofDigitChars_ten_toDigits]

/-- A transfer whose transaction and amount hold no separator. -/
def Deposit.Plain (d : Deposit) : Prop := ':' ∉ d.tx ∧ ':' ∉ d.amount

theorem depositBase_inj {key key' : Text} {d d' : Deposit} (hd : d.Plain) (hd' : d'.Plain)
    (h : depositBase key d = depositBase key' d') : key = key' ∧ d.tx = d'.tx := by
  have hsplit : (key ++ ':' :: d.tx) ++ ':' :: d.amount = (key' ++ ':' :: d'.tx) ++ ':' :: d'.amount := by
    rw [List.append_assoc, List.append_assoc]
    exact h
  exact append_cons_inj_right hd.1 hd'.1 (append_cons_inj_right hd.2 hd'.2 hsplit).1

/-- The ids of a list of transfers. -/
def depositIds (key : Text) (ds : List Deposit) : List Text :=
  (numbered (depositBase key) (fun _ => 0) ds).map fun p => depositId p.1 p.2

theorem depositIds_nodup (key : Text) (ds : List Deposit) : (depositIds key ds).Nodup := by
  refine (numbered_nodup _ ds).map fun p q h => ?_
  obtain ⟨hbase, hn⟩ := depositId_inj h
  exact Prod.ext hbase hn

theorem mem_depositIds {key id : Text} {ds : List Deposit} (h : id ∈ depositIds key ds) :
    ∃ d ∈ ds, ∃ n, id = depositId (depositBase key d) n := by
  obtain ⟨⟨base, n⟩, hp, rfl⟩ := List.mem_map.mp h
  obtain ⟨-, d, hd, rfl⟩ := le_of_mem_numbered hp
  exact ⟨d, hd, n, rfl⟩

/-- Transfers of different transactions are numbered apart. -/
theorem depositIds_append {key : Text} {ds ds' : List Deposit}
    (hplain : ∀ d ∈ ds ++ ds', d.Plain) (h : ∀ d ∈ ds, ∀ d' ∈ ds', d.tx ≠ d'.tx) :
    depositIds key (ds ++ ds') = depositIds key ds ++ depositIds key ds' := by
  rw [depositIds, numbered_append fun d hd d' hd' heq => ?_, List.map_append]
  · rfl
  · exact h d hd d' hd' (depositBase_inj (hplain d (List.mem_append_left _ hd))
      (hplain d' (List.mem_append_right _ hd')) heq).2

/-! ## Recording -/

section
variable {receiver : Receiver} {laneId : Option Text} {now : Nat}

/-- What is added are the ids that are not in the history. -/
theorem addedFrom_ids (seen : List Text) (ordinals : Text → Nat) (ds : List Deposit) :
    (addedFrom receiver laneId now seen ordinals ds).map (·.id)
      = ((numbered (depositBase receiver.key) ordinals ds).map fun p => depositId p.1 p.2).filter
          fun id => decide (id ∉ seen) := by
  induction ds generalizing ordinals with
  | nil => rfl
  | cons d ds ih =>
      rw [addedFrom, numbered, List.map_cons, List.filter_cons]
      by_cases hseen : depositId (depositBase receiver.key d) (ordinals (depositBase receiver.key d))
          ∈ seen
      · rw [if_pos hseen, ih, decide_eq_false (not_not.mpr hseen)]
        rfl
      · rw [if_neg hseen, List.map_cons, ih, decide_eq_true hseen]
        rfl

theorem mem_addedFrom {seen : List Text} {ordinals : Text → Nat} {ds : List Deposit}
    {e : HistoryEntry} (h : e ∈ addedFrom receiver laneId now seen ordinals ds) :
    ∃ d ∈ ds, ∃ id, e = historyEntry receiver laneId now id d := by
  induction ds generalizing ordinals with
  | nil => cases h
  | cons d ds ih =>
      have hlater : ∀ {ordinals}, e ∈ addedFrom receiver laneId now seen ordinals ds →
          ∃ d' ∈ d :: ds, ∃ id, e = historyEntry receiver laneId now id d' := by
        intro ordinals h
        obtain ⟨d', hd', heq⟩ := ih h
        exact ⟨d', List.mem_cons_of_mem _ hd', heq⟩
      rw [addedFrom] at h
      split at h
      · exact hlater h
      · rcases List.mem_cons.mp h with rfl | h
        · exact ⟨d, List.mem_cons_self, _, rfl⟩
        · exact hlater h

end

end Beanie.Browser
