/-
# `Beanie.Keeper.ReceiverMerging` — one batch, or many

Catch-up folds all events at once: every announcement, then every registration.
The live worker folds each tip's events as they come.  Both folds treat every
receiver on its own (`KeyedFold`), so they are compared cell by cell.

They differ in what a registration does to an announced record: catch-up keeps
the announcement's fields and flips the status, the live worker takes the
registration's own.  And a registration ends a receiver's announcements for the
live worker only at the end of its batch.  So the two agree exactly on coherent
histories (`merging_agrees_iff`).
-/
import Beanie.Lib.KeyedFold
import Beanie.Keeper.IndexerPanics
import Beanie.Keeper.AnnounceCompleteness

namespace Beanie.Keeper

open Beanie.Solana

/-! ## The live worker's merge -/

/-- `remember_solana_receiver`. -/
def rememberSolanaReceiver (map : ReceiverMap) (rec : IndexedReceiver) : ReceiverMap :=
  match map rec.receiver with
  | some existing =>
      if existing.status = .registered then map
      else
        let route := if rec.route.isNone then existing.route else rec.route
        Function.update map rec.receiver (some { rec with route := route })
  | none => Function.update map rec.receiver (some rec)

/-- The record of a registration. -/
def RawReceiverRegistered.record (raw : RawReceiverRegistered) : IndexedReceiver where
  merchant := raw.merchant
  receiver := raw.receiver
  receiver_token_account := raw.receiver_token_account
  receiver_config := raw.receiver_config
  status := .registered
  reg_tx := none
  route := none

/-- One event of the loop of `process_solana_tip`. -/
def rememberOne (map : ReceiverMap) (ev : AnchorEvent) : ReceiverMap :=
  if ev.name ≠ .receiverRegistered then map
  else
    match decodeMerchantRegistered ev.data with
    | .error _ => map
    | .ok raw => rememberSolanaReceiver map raw.record

section
variable (rt : Runtime) (sdk : Sdk) (program_id mint : Pubkey)

/-- The registry part of `process_solana_tip`. -/
def liveBatch (map : ReceiverMap) (events : List (AnchorEvent × Option Bytes)) :
    Except Fault ReceiverMap := do
  let map ← attachRegTxAndMerge rt sdk program_id mint map events
  .ok ((events.map Prod.fst).foldl rememberOne map)

/-- Batch after batch. -/
def liveBatches : ReceiverMap → List (List (AnchorEvent × Option Bytes)) → Except Fault ReceiverMap
  | map, [] => .ok map
  | map, events :: rest => do
      let map ← liveBatch rt sdk program_id mint map events
      liveBatches map rest

/-- The registry part of `run_solana_catchup`. -/
def catchUp (events : List (AnchorEvent × Option Bytes)) : Except Fault ReceiverMap := do
  let map ← attachRegTxAndMerge rt sdk program_id mint (fun _ => none) events
  .ok (mergeEvents map (events.map Prod.fst))

end

/-! ## What an event says of a receiver -/

inductive Item
  | announce (raw : RawReceiverAnnounced) (reg_tx : Bytes)
  | register (raw : RawReceiverRegistered) (route : Option SolanaRoute)

namespace Item

def receiver : Item → Pubkey
  | announce raw _ => raw.receiver
  | register raw _ => raw.receiver

/-- An announcement enters an unregistered cell. -/
def attachCell (c : Option IndexedReceiver) : Item → Option IndexedReceiver
  | announce raw reg_tx =>
      if c.any (fun r => r.status = .registered) then c else some (raw.record reg_tx)
  | register .. => c

/-- `merge_events`: a registration flips the record, or makes one. -/
def mergeCell (c : Option IndexedReceiver) : Item → Option IndexedReceiver
  | announce .. => c
  | register raw _ => some { c.getD raw.record with status := .registered, reg_tx := none }

/-- `remember_solana_receiver`: a registration replaces the record, its route apart. -/
def rememberCell (c : Option IndexedReceiver) : Item → Option IndexedReceiver
  | announce .. => c
  | register raw _ =>
      if c.any (fun r => r.status = .registered) then c
      else some { raw.record with route := c.bind (·.route) }

end Item

/-- The route in a registration's event, which the indexer does not read. -/
def registrationRoute (data : Bytes) : Option SolanaRoute :=
  match readPubkey data 128, readPubkey data 160 with
  | .ok chain, .ok recipient => some ⟨chain, recipient⟩
  | _, _ => none

section
variable (rt : Runtime) (sdk : Sdk) (program_id mint : Pubkey)

/-- An event that says something: a readable registration, or an announcement that is accepted with
its pinned transaction. -/
def AnchorEvent.item (ev : AnchorEvent) (fetched : Option Bytes) : Option Item :=
  match ev.name with
  | .receiverRegistered =>
      match decodeMerchantRegistered ev.data with
      | .ok raw => some (.register raw (registrationRoute ev.data))
      | .error _ => none
  | .receiverAnnounced =>
      match decodeMerchantAnnounced ev.data, fetched with
      | .ok raw, some reg_tx =>
          if validateAnnounce rt sdk raw reg_tx program_id mint = .ok () then
            some (.announce raw reg_tx)
          else none
      | _, _ => none

def itemsOf (events : List (AnchorEvent × Option Bytes)) : List Item :=
  events.filterMap fun p => p.1.item rt sdk program_id mint p.2

end

section
variable {rt : Runtime} {sdk : Sdk} {program_id mint : Pubkey}

theorem item_of_registered {ev : AnchorEvent} {fetched : Option Bytes}
    (h : ev.name = .receiverRegistered) :
    ev.item rt sdk program_id mint fetched = match decodeMerchantRegistered ev.data with
      | .ok raw => some (.register raw (registrationRoute ev.data))
      | .error _ => none := by
  obtain ⟨name, data, slot⟩ := ev
  obtain rfl := h
  rfl

theorem item_of_announced {ev : AnchorEvent} {fetched : Option Bytes}
    (h : ev.name = .receiverAnnounced) :
    ev.item rt sdk program_id mint fetched = match decodeMerchantAnnounced ev.data, fetched with
      | .ok raw, some reg_tx =>
          if validateAnnounce rt sdk raw reg_tx program_id mint = .ok () then
            some (.announce raw reg_tx)
          else none
      | _, _ => none := by
  obtain ⟨name, data, slot⟩ := ev
  obtain rfl := h
  rfl

/-- What an event does to a map is what its item does to the item's cell. -/
theorem attachOne_eq_step {map map' : ReceiverMap} {ev : AnchorEvent} {fetched : Option Bytes}
    (h : attachOne rt sdk program_id mint map ev fetched = .ok map') :
    map' = (ev.item rt sdk program_id mint fetched).elim map
      (stepKeyed Item.receiver Item.attachCell map) := by
  cases hname : ev.name with
  | receiverRegistered =>
      rw [attachOne, if_pos (by simp [hname])] at h
      obtain rfl := Except.ok.inj h
      rw [item_of_registered hname]
      cases decodeMerchantRegistered ev.data with
      | error f => rfl
      | ok raw => exact (Function.update_eq_self _ _).symm
  | receiverAnnounced =>
      rw [item_of_announced hname]
      rcases @attachOne_cases rt sdk program_id mint map ev
        fetched with ⟨_, _, -, -, hrun⟩ | ⟨raw, reg_tx, hchecks, hvalid, hrun⟩ | ⟨hbails, hrun⟩
      · cases hrun.symm.trans h
      · obtain rfl := Except.ok.inj (hrun.symm.trans h)
        rw [hchecks.decodes, hchecks.fetched]
        dsimp only
        rw [if_pos hvalid]
        show _ = Function.update map raw.receiver (Item.attachCell (map raw.receiver) _)
        rw [Item.attachCell, if_neg hchecks.open_]
      · obtain rfl := Except.ok.inj (hrun.symm.trans h)
        cases hdecode : decodeMerchantAnnounced ev.data with
        | error f => rfl
        | ok raw =>
            cases fetched with
            | none => rfl
            | some reg_tx =>
                dsimp only
                split_ifs with hvalid
                · by_cases hopen : (map raw.receiver).any (fun r => r.status = .registered) = true
                  · show map = Function.update map raw.receiver
                      (Item.attachCell (map raw.receiver) (.announce raw reg_tx))
                    rw [Item.attachCell, if_pos hopen]
                    exact (Function.update_eq_self _ _).symm
                  · obtain ⟨message, hb⟩ := hbails raw reg_tx ⟨hname, hdecode, hopen, rfl⟩
                    cases hb.symm.trans hvalid
                · rfl

theorem attach_eq_fold {map map' : ReceiverMap} {events : List (AnchorEvent × Option Bytes)}
    (h : attachRegTxAndMerge rt sdk program_id mint map events = .ok map') :
    map' = foldKeyed Item.receiver Item.attachCell map (itemsOf rt sdk program_id mint events) := by
  induction events generalizing map with
  | nil => exact (Except.ok.inj h).symm
  | cons p rest ih =>
      obtain ⟨ev, fetched⟩ := p
      obtain ⟨m, hone, hrest⟩ := bind_ok.mp h
      rw [ih hrest, attachOne_eq_step hone, itemsOf, itemsOf, List.filterMap_cons]
      dsimp only
      cases ev.item rt sdk program_id mint fetched with
      | none => rfl
      | some i => rfl

theorem mergeOne_eq_step (map : ReceiverMap) (ev : AnchorEvent) (fetched : Option Bytes) :
    mergeOne map ev = (ev.item rt sdk program_id mint fetched).elim map
      (stepKeyed Item.receiver Item.mergeCell map) := by
  cases hname : ev.name with
  | receiverRegistered =>
      rw [mergeOne, if_neg (not_not_intro hname), item_of_registered hname]
      cases decodeMerchantRegistered ev.data with
      | error f => rfl
      | ok raw => rfl
  | receiverAnnounced =>
      rw [mergeOne, if_pos (by simp [hname]), item_of_announced hname]
      split
      · split_ifs
        · exact (Function.update_eq_self _ _).symm
        · rfl
      · rfl

theorem rememberSolanaReceiver_eq (map : ReceiverMap) (raw : RawReceiverRegistered)
    (route : Option SolanaRoute) :
    rememberSolanaReceiver map raw.record
      = stepKeyed Item.receiver Item.rememberCell map (.register raw route) := by
  show rememberSolanaReceiver map raw.record
    = Function.update map raw.receiver (Item.rememberCell (map raw.receiver) (.register raw route))
  rw [rememberSolanaReceiver, Item.rememberCell]
  show (match map raw.receiver with
    | some existing => _
    | none => _) = _
  cases hcell : map raw.receiver with
  | none => rfl
  | some existing =>
      dsimp only
      by_cases hregistered : existing.status = .registered
      · rw [if_pos hregistered, if_pos (by simp [hregistered]), ← hcell]
        exact (Function.update_eq_self _ _).symm
      · rw [if_neg hregistered]
        show Function.update map raw.receiver (some { raw.record with route := existing.route }) = _
        rw [if_neg (by simp [hregistered])]
        rfl

theorem rememberOne_eq_step (map : ReceiverMap) (ev : AnchorEvent) (fetched : Option Bytes) :
    rememberOne map ev = (ev.item rt sdk program_id mint fetched).elim map
      (stepKeyed Item.receiver Item.rememberCell map) := by
  cases hname : ev.name with
  | receiverRegistered =>
      rw [rememberOne, if_neg (not_not_intro hname), item_of_registered hname]
      cases decodeMerchantRegistered ev.data with
      | error f => rfl
      | ok raw => exact rememberSolanaReceiver_eq map raw _
  | receiverAnnounced =>
      rw [rememberOne, if_pos (by simp [hname]), item_of_announced hname]
      split
      · split_ifs
        · exact (Function.update_eq_self _ _).symm
        · rfl
      · rfl

/-- A fold over the events is a fold over their items, where one event is its item's step. -/
theorem foldl_eq_fold {one : ReceiverMap → AnchorEvent → ReceiverMap}
    {cell : Option IndexedReceiver → Item → Option IndexedReceiver}
    (hone : ∀ map ev fetched, one map ev = (ev.item rt sdk program_id mint fetched).elim map
      (stepKeyed Item.receiver cell map))
    (map : ReceiverMap) (events : List (AnchorEvent × Option Bytes)) :
    (events.map Prod.fst).foldl one map
      = foldKeyed Item.receiver cell map (itemsOf rt sdk program_id mint events) := by
  induction events generalizing map with
  | nil => rfl
  | cons p rest ih =>
      obtain ⟨ev, fetched⟩ := p
      rw [List.map_cons, List.foldl_cons, ih, hone map ev fetched, itemsOf, itemsOf,
        List.filterMap_cons]
      dsimp only
      cases ev.item rt sdk program_id mint fetched with
      | none => rfl
      | some i => rfl

/-! ## One cell -/

/-- What is said of one receiver. -/
def receiverItems (rt : Runtime) (sdk : Sdk) (program_id mint : Pubkey) (k : Pubkey)
    (events : List (AnchorEvent × Option Bytes)) : List Item :=
  (itemsOf rt sdk program_id mint events).filter fun i => i.receiver = k

/-- One live batch, at one receiver. -/
def liveCell (c : Option IndexedReceiver) (items : List Item) : Option IndexedReceiver :=
  items.foldl Item.rememberCell (items.foldl Item.attachCell c)

theorem catchUp_apply {map : ReceiverMap} {events : List (AnchorEvent × Option Bytes)}
    (h : catchUp rt sdk program_id mint events = .ok map) (k : Pubkey) :
    map k = (receiverItems rt sdk program_id mint k events).foldl Item.mergeCell
      ((receiverItems rt sdk program_id mint k events).foldl Item.attachCell none) := by
  obtain ⟨m, hattach, hmerge⟩ := bind_ok.mp h
  obtain rfl := Except.ok.inj hmerge
  rw [mergeEvents, @foldl_eq_fold rt sdk program_id mint _ _
    mergeOne_eq_step, foldKeyed_apply, attach_eq_fold hattach, foldKeyed_apply]
  rfl

theorem liveBatch_apply {map map' : ReceiverMap} {events : List (AnchorEvent × Option Bytes)}
    (h : liveBatch rt sdk program_id mint map events = .ok map') (k : Pubkey) :
    map' k = liveCell (map k) (receiverItems rt sdk program_id mint k events) := by
  obtain ⟨m, hattach, hremember⟩ := bind_ok.mp h
  obtain rfl := Except.ok.inj hremember
  rw [@foldl_eq_fold rt sdk program_id mint _ _
    rememberOne_eq_step, foldKeyed_apply, attach_eq_fold hattach, foldKeyed_apply]
  rfl

theorem liveBatches_apply {map map' : ReceiverMap}
    {batches : List (List (AnchorEvent × Option Bytes))}
    (h : liveBatches rt sdk program_id mint map batches = .ok map') (k : Pubkey) :
    map' k = (batches.map (receiverItems rt sdk program_id mint k)).foldl liveCell (map k) := by
  induction batches generalizing map with
  | nil =>
      obtain rfl := Except.ok.inj h
      rfl
  | cons events rest ih =>
      obtain ⟨m, hbatch, hrest⟩ := bind_ok.mp h
      rw [ih hrest, List.map_cons, List.foldl_cons, liveBatch_apply hbatch]

/-! ## What the folds leave in a cell -/

def lastAnnounce : List Item → Option (RawReceiverAnnounced × Bytes)
  | [] => none
  | .announce raw reg_tx :: rest => some ((lastAnnounce rest).getD (raw, reg_tx))
  | .register .. :: rest => lastAnnounce rest

def firstRegister : List Item → Option RawReceiverRegistered
  | [] => none
  | .announce .. :: rest => firstRegister rest
  | .register raw _ :: _ => some raw

def RawReceiverAnnounced.route (raw : RawReceiverAnnounced) : SolanaRoute :=
  ⟨raw.cctp_mint_chain, raw.cctp_mint_recipient⟩

/-- The record of the last announcement. -/
def announcedRecord (items : List Item) : Option IndexedReceiver :=
  (lastAnnounce items).map fun a => a.1.record a.2

theorem lastAnnounce_append (xs ys : List Item) :
    lastAnnounce (xs ++ ys) = (lastAnnounce ys).or (lastAnnounce xs) := by
  induction xs with
  | nil => simp [lastAnnounce]
  | cons x xs ih =>
      cases x with
      | announce raw reg_tx =>
          rw [List.cons_append, lastAnnounce, lastAnnounce, ih]
          cases lastAnnounce ys <;> rfl
      | register raw route => exact ih

theorem firstRegister_append (xs ys : List Item) :
    firstRegister (xs ++ ys) = (firstRegister xs).or (firstRegister ys) := by
  induction xs with
  | nil => simp [firstRegister]
  | cons x xs ih =>
      cases x with
      | announce raw reg_tx => exact ih
      | register raw route => rfl

theorem announcedRecord_append (xs ys : List Item) :
    announcedRecord (xs ++ ys) = (announcedRecord ys).or (announcedRecord xs) := by
  rw [announcedRecord, lastAnnounce_append]
  cases h : lastAnnounce ys <;> simp [announcedRecord, h]

/-- The cell does not hold a registered record. -/
def Unregistered (c : Option IndexedReceiver) : Prop := ∀ r, c = some r → r.status = .announced

theorem Unregistered.any {c : Option IndexedReceiver} (h : Unregistered c) :
    ¬ c.any (fun r => r.status = .registered) = true := by
  cases c with
  | none => simp
  | some r =>
      have hr := h r rfl
      simp [hr]

theorem unregistered_announcedRecord (items : List Item) : Unregistered (announcedRecord items) := by
  intro r h
  obtain ⟨a, -, rfl⟩ := Option.map_eq_some_iff.mp h
  rfl

theorem unregistered_none : Unregistered none := fun _ h => nomatch h

theorem foldl_attachCell {c : Option IndexedReceiver} (hc : Unregistered c) (items : List Item) :
    items.foldl Item.attachCell c = (announcedRecord items).or c := by
  induction items generalizing c with
  | nil => rfl
  | cons i items ih =>
      cases i with
      | announce raw reg_tx =>
          have hcell : Item.attachCell c (.announce raw reg_tx) = some (raw.record reg_tx) :=
            if_neg hc.any
          have hnext : Unregistered (some (raw.record reg_tx)) := by
            intro r h
            obtain rfl := Option.some.inj h
            rfl
          rw [List.foldl_cons, hcell, ih hnext, announcedRecord, announcedRecord, lastAnnounce]
          cases lastAnnounce items <;> rfl
      | register raw route => exact ih hc

/-- A registered cell is left alone. -/
theorem foldl_registered {r : IndexedReceiver} (h : r.status = .registered) (items : List Item) :
    items.foldl Item.attachCell (some r) = some r ∧
      items.foldl Item.rememberCell (some r) = some r := by
  have hany : (some r).any (fun r => r.status = .registered) = true := by simp [h]
  induction items with
  | nil => exact ⟨rfl, rfl⟩
  | cons i items ih =>
      cases i with
      | announce raw reg_tx =>
          have hcell : Item.attachCell (some r) (.announce raw reg_tx) = some r := if_pos hany
          rw [List.foldl_cons, List.foldl_cons, hcell]
          exact ih
      | register raw route =>
          have hcell : Item.rememberCell (some r) (.register raw route) = some r := if_pos hany
          rw [List.foldl_cons, List.foldl_cons, hcell]
          exact ih

/-- The live worker's record of a registration, with the route captured before it. -/
def liveRecord (raw : RawReceiverRegistered) (c : Option IndexedReceiver) : IndexedReceiver :=
  { raw.record with route := c.bind (·.route) }

theorem foldl_rememberCell {c : Option IndexedReceiver} (hc : Unregistered c) (items : List Item) :
    items.foldl Item.rememberCell c = match firstRegister items with
      | none => c
      | some raw => some (liveRecord raw c) := by
  induction items with
  | nil => rfl
  | cons i items ih =>
      cases i with
      | announce raw reg_tx => exact ih
      | register raw route =>
          have hcell : Item.rememberCell c (.register raw route) = some (liveRecord raw c) :=
            if_neg hc.any
          rw [List.foldl_cons, hcell]
          exact (foldl_registered rfl items).2

/-- Catch-up's record of a registered receiver. -/
def catchUpRecord (raw : RawReceiverRegistered) (c : Option IndexedReceiver) : IndexedReceiver :=
  { c.getD raw.record with status := .registered, reg_tx := none }

theorem foldl_mergeCell (c : Option IndexedReceiver) (items : List Item) :
    items.foldl Item.mergeCell c = match firstRegister items with
      | none => c
      | some raw => some (catchUpRecord raw c) := by
  have hidle : ∀ (r : IndexedReceiver), r.status = .registered → r.reg_tx = none →
      ∀ items : List Item, items.foldl Item.mergeCell (some r) = some r := by
    intro r hstatus htx items
    have hself : ({ r with status := .registered, reg_tx := none } : IndexedReceiver) = r := by
      cases r
      cases hstatus
      cases htx
      rfl
    induction items with
    | nil => rfl
    | cons i items ih =>
        cases i with
        | announce raw reg_tx => exact ih
        | register raw route =>
            have hcell : Item.mergeCell (some r) (.register raw route) = some r :=
              congrArg some hself
            rw [List.foldl_cons, hcell]
            exact ih
  induction items with
  | nil => rfl
  | cons i items ih =>
      cases i with
      | announce raw reg_tx => exact ih
      | register raw route => exact hidle (catchUpRecord raw c) rfl rfl items

theorem liveCell_of_registered {r : IndexedReceiver} (h : r.status = .registered)
    (items : List Item) : liveCell (some r) items = some r := by
  rw [liveCell, (foldl_registered h items).1, (foldl_registered h items).2]

theorem liveBatchesCell_of_registered {r : IndexedReceiver} (h : r.status = .registered)
    (batches : List (List Item)) : batches.foldl liveCell (some r) = some r := by
  induction batches with
  | nil => rfl
  | cons items batches ih => rw [List.foldl_cons, liveCell_of_registered h, ih]

theorem liveCell_of_unregistered {c : Option IndexedReceiver} (hc : Unregistered c)
    (items : List Item) : liveCell c items = match firstRegister items with
      | none => (announcedRecord items).or c
      | some raw => some (liveRecord raw ((announcedRecord items).or c)) := by
  have hor : Unregistered ((announcedRecord items).or c) := by
    intro r h
    rcases Option.or_eq_some_iff.mp h with h | ⟨-, h⟩
    · exact unregistered_announcedRecord items r h
    · exact hc r h
  rw [liveCell, foldl_attachCell hc, foldl_rememberCell hor]

/-- The live worker's cell after any batches: before the first registration the last announcement's
record; after it the registration's, with the route known at the end of the registration's
batch. -/
theorem liveBatchesCell (pre : List Item) (hpre : firstRegister pre = none)
    (batches : List (List Item)) :
    (firstRegister (pre ++ batches.flatten) = none →
      batches.foldl liveCell (announcedRecord pre) = announcedRecord (pre ++ batches.flatten)) ∧
    (∀ raw, firstRegister (pre ++ batches.flatten) = some raw →
      ∃ p, p <+: pre ++ batches.flatten ∧ firstRegister p = some raw ∧
        batches.foldl liveCell (announcedRecord pre) = some (liveRecord raw (announcedRecord p))) := by
  induction batches generalizing pre with
  | nil =>
      rw [List.flatten_nil, List.append_nil, hpre]
      exact ⟨fun _ => rfl, nofun⟩
  | cons items batches ih =>
      rw [List.flatten_cons, ← List.append_assoc, List.foldl_cons,
        liveCell_of_unregistered (unregistered_announcedRecord pre), ← announcedRecord_append]
      have hhead : firstRegister (pre ++ items) = firstRegister items := by
        rw [firstRegister_append, hpre]
        rfl
      cases hitems : firstRegister items with
      | none => exact ih (pre ++ items) (hhead.trans hitems)
      | some raw =>
          have hfirst : firstRegister (pre ++ items ++ batches.flatten) = some raw := by
            rw [firstRegister_append, hhead, hitems]
            rfl
          dsimp only
          rw [liveBatchesCell_of_registered rfl, hfirst]
          refine ⟨nofun, fun raw' h => ?_⟩
          obtain rfl := Option.some.inj h
          exact ⟨pre ++ items, List.prefix_append _ _, hhead.trans hitems, rfl⟩

theorem catchUpCell (items : List Item) :
    items.foldl Item.mergeCell (items.foldl Item.attachCell none)
      = match firstRegister items with
        | none => announcedRecord items
        | some raw => some (catchUpRecord raw (announcedRecord items)) := by
  rw [foldl_attachCell unregistered_none, foldl_mergeCell, Option.or_none]

/-! ## Agreement -/

/-- The fields the two maps are compared on. -/
def IndexedReceiver.view (r : IndexedReceiver) :
    Pubkey × Pubkey × Pubkey × ReceiverStatus × Option SolanaRoute :=
  (r.merchant, r.receiver_config, r.receiver_token_account, r.status, r.route)

/-- A registered record with a route has its merchant, configuration and route from one
registration. -/
def OneRegistration (items : List Item) (c : Option IndexedReceiver) : Prop :=
  ∀ r, c = some r → r.status = .registered → ∀ route, r.route = some route →
    ∃ raw, .register raw (some route) ∈ items ∧ raw.merchant = r.merchant ∧
      raw.receiver_config = r.receiver_config

/-- What is said of a receiver is of one piece: if it is both announced and registered, the first
registration has the last announcement's merchant, configuration and token account; at every point
from it on some announcement has been seen, and the latest carries the last one's route; and that
route was registered with that merchant and configuration. -/
def Coherent (items : List Item) : Prop :=
  ∀ a r, lastAnnounce items = some a → firstRegister items = some r →
    (r.merchant = a.1.merchant ∧ r.receiver_config = a.1.receiver_config ∧
      r.receiver_token_account = a.1.receiver_token_account) ∧
    (∀ p, p <+: items → firstRegister p = some r →
      (announcedRecord p).bind (·.route) = some a.1.route) ∧
    ∃ raw, .register raw (some a.1.route) ∈ items ∧ raw.merchant = a.1.merchant ∧
      raw.receiver_config = a.1.receiver_config

/-- Nothing that was known of a receiver is taken back. -/
def KeepsKnown (c c' : Option IndexedReceiver) : Prop :=
  ∀ r, c = some r → ∃ r', c' = some r' ∧ (r.status = .registered → r'.status = .registered) ∧
    (r.route.isSome → r'.route.isSome)

/-- The two ways to fold the events agree, cell by cell. -/
structure MergingAgrees (rt : Runtime) (sdk : Sdk) (program_id mint : Pubkey)
    (events : List (AnchorEvent × Option Bytes)) (map : ReceiverMap) : Prop where
  single : ∀ k, OneRegistration (receiverItems rt sdk program_id mint k events) (map k)
  batched : ∀ batches, batches.flatten = events →
    ∃ map', liveBatches rt sdk program_id mint (fun _ => none) batches = .ok map' ∧
      ∀ k, (map k).map IndexedReceiver.view = (map' k).map IndexedReceiver.view ∧
        OneRegistration (receiverItems rt sdk program_id mint k events) (map' k)
  kept : ∀ batches rest, (batches ++ rest).flatten = events →
    ∀ m m', liveBatches rt sdk program_id mint (fun _ => none) batches = .ok m →
      liveBatches rt sdk program_id mint (fun _ => none) (batches ++ rest) = .ok m' →
        ∀ k, KeepsKnown (m k) (m' k)

theorem announcedRecord_route (items : List Item) :
    (announcedRecord items).bind (·.route) = (lastAnnounce items).map fun a => a.1.route := by
  rw [announcedRecord]
  cases lastAnnounce items <;> rfl

theorem firstRegister_mem {items : List Item} {raw : RawReceiverRegistered}
    (h : firstRegister items = some raw) : ∃ route, .register raw route ∈ items := by
  induction items with
  | nil => exact nomatch h
  | cons i items ih =>
      cases i with
      | announce a reg_tx =>
          obtain ⟨route, hmem⟩ := ih h
          exact ⟨route, List.mem_cons_of_mem _ hmem⟩
      | register raw' route =>
          obtain rfl := Option.some.inj h
          exact ⟨route, List.mem_cons_self⟩

/-- Every live cell is one of these; every one of these is a live cell. -/
theorem coherent_iff (items : List Item) :
    Coherent items ↔
      (∀ r, firstRegister items = some r →
        OneRegistration items (some (catchUpRecord r (announcedRecord items))) ∧
        ∀ p, p <+: items → firstRegister p = some r →
          (catchUpRecord r (announcedRecord items)).view
              = (liveRecord r (announcedRecord p)).view ∧
            OneRegistration items (some (liveRecord r (announcedRecord p)))) := by
  constructor
  · intro h r hr
    cases ha : lastAnnounce items with
    | none =>
        have hnone : announcedRecord items = none := by
          rw [announcedRecord, ha]
          rfl
        rw [hnone]
        refine ⟨?_, ?_⟩
        · intro c hc _ route hroute
          obtain rfl := Option.some.inj hc
          exact nomatch hroute
        · rintro p ⟨q, rfl⟩ -
          have hp : announcedRecord p = none := by
            rw [announcedRecord_append] at hnone
            exact (Option.or_eq_none_iff.mp hnone).2
          rw [hp]
          refine ⟨rfl, ?_⟩
          intro c hc _ route hroute
          obtain rfl := Option.some.inj hc
          exact nomatch hroute
    | some a =>
        obtain ⟨⟨hm, hc, ht⟩, hroutes, raw, hmem, hmerchant, hconfig⟩ := h a r ha hr
        have hrecord : announcedRecord items = some (a.1.record a.2) := by
          rw [announcedRecord, ha]
          rfl
        rw [hrecord]
        refine ⟨?_, ?_⟩
        · intro c hc' _ route hroute
          obtain rfl := Option.some.inj hc'
          obtain rfl : a.1.route = route := Option.some.inj hroute
          exact ⟨raw, hmem, hmerchant, hconfig⟩
        · intro p hp hfirst
          have hroute := hroutes p hp hfirst
          constructor
          · show (a.1.merchant, a.1.receiver_config, a.1.receiver_token_account,
                ReceiverStatus.registered, some a.1.route)
              = (r.merchant, r.receiver_config, r.receiver_token_account,
                ReceiverStatus.registered, (announcedRecord p).bind (·.route))
            rw [hroute, hm, hc, ht]
          · intro c hc' _ route hroute'
            obtain rfl := Option.some.inj hc'
            obtain rfl := Option.some.inj (hroute.symm.trans hroute')
            exact ⟨raw, hmem, hmerchant.trans hm.symm, hconfig.trans hc.symm⟩
  · intro h a r ha hr
    obtain ⟨hone, hall⟩ := h r hr
    have hrecord : announcedRecord items = some (a.1.record a.2) := by
      rw [announcedRecord, ha]
      rfl
    rw [hrecord] at hone hall
    have hview : ∀ p, p <+: items → firstRegister p = some r →
        (a.1.merchant, a.1.receiver_config, a.1.receiver_token_account,
            ReceiverStatus.registered, some a.1.route)
          = (r.merchant, r.receiver_config, r.receiver_token_account,
            ReceiverStatus.registered, (announcedRecord p).bind (·.route)) :=
      fun p hp hfirst => (hall p hp hfirst).1
    refine ⟨?_, ?_, hone _ rfl rfl _ rfl⟩
    · obtain ⟨hm, hrest⟩ := Prod.mk.inj (hview items (List.prefix_refl _) hr)
      obtain ⟨hc, hrest⟩ := Prod.mk.inj hrest
      obtain ⟨ht, -⟩ := Prod.mk.inj hrest
      exact ⟨hm.symm, hc.symm, ht.symm⟩
    · intro p hp hfirst
      obtain ⟨-, hrest⟩ := Prod.mk.inj (hview p hp hfirst)
      obtain ⟨-, hrest⟩ := Prod.mk.inj hrest
      obtain ⟨-, hrest⟩ := Prod.mk.inj hrest
      exact (Prod.mk.inj hrest).2.symm

theorem keepsKnown_liveCell (c : Option IndexedReceiver) (items : List Item) :
    KeepsKnown c (liveCell c items) := by
  intro r hr
  subst hr
  cases hstatus : r.status with
  | registered =>
      exact ⟨r, liveCell_of_registered hstatus items, fun _ => hstatus, id⟩
  | announced =>
      have hc : Unregistered (some r) := fun r' h => Option.some.inj h ▸ hstatus
      have hroute : ∀ c', (announcedRecord items).or (some r) = some c' →
          r.route.isSome → c'.route.isSome := by
        intro c' h hsome
        rcases Option.or_eq_some_iff.mp h with h | ⟨-, h⟩
        · obtain ⟨a, -, rfl⟩ := Option.map_eq_some_iff.mp h
          rfl
        · exact Option.some.inj h ▸ hsome
      obtain ⟨c', hc'⟩ : ∃ c', (announcedRecord items).or (some r) = some c' := by
        cases announcedRecord items with
        | none => exact ⟨r, rfl⟩
        | some c' => exact ⟨c', rfl⟩
      rw [liveCell_of_unregistered hc, hc']
      cases firstRegister items with
      | none => exact ⟨c', rfl, nofun, hroute c' hc'⟩
      | some raw => exact ⟨_, rfl, nofun, hroute c' hc'⟩

theorem KeepsKnown.trans {c c' c'' : Option IndexedReceiver} (h : KeepsKnown c c')
    (h' : KeepsKnown c' c'') : KeepsKnown c c'' := by
  intro r hr
  obtain ⟨r', hr', hstatus, hroute⟩ := h r hr
  obtain ⟨r'', hr'', hstatus', hroute'⟩ := h' r' hr'
  exact ⟨r'', hr'', fun hs => hstatus' (hstatus hs), fun hs => hroute' (hroute hs)⟩

theorem keepsKnown_foldl (c : Option IndexedReceiver) (batches : List (List Item)) :
    KeepsKnown c (batches.foldl liveCell c) := by
  induction batches generalizing c with
  | nil => exact fun r hr => ⟨r, hr, id, id⟩
  | cons items batches ih => exact (keepsKnown_liveCell c items).trans (ih _)

/-! ## The folds return -/

theorem attach_error {map : ReceiverMap} {events : List (AnchorEvent × Option Bytes)} {f : Fault}
    (h : attachRegTxAndMerge rt sdk program_id mint map events = .error f) : f = .panicked := by
  induction events generalizing map with
  | nil => exact nomatch h
  | cons p rest ih =>
      obtain ⟨ev, fetched⟩ := p
      rcases bind_error.mp h with hone | ⟨m, -, hrest⟩
      · rcases @attachOne_cases rt sdk program_id mint map
          ev fetched with ⟨_, _, -, -, hrun⟩ | ⟨_, _, -, -, hrun⟩ | ⟨-, hrun⟩
        · exact Except.error.inj (hone.symm.trans hrun)
        · exact nomatch hone.symm.trans hrun
        · exact nomatch hone.symm.trans hrun
      · exact ih hrest

theorem attach_returns {map : ReceiverMap} {events : List (AnchorEvent × Option Bytes)}
    (h : AnnouncesInRange rt sdk program_id mint map events) :
    ∃ map', attachRegTxAndMerge rt sdk program_id mint map events = .ok map' := by
  cases hrun : attachRegTxAndMerge rt sdk program_id mint map events with
  | ok map' => exact ⟨map', rfl⟩
  | error f =>
      obtain rfl := attach_error hrun
      exact absurd h (attach_panics_iff.mp hrun)

/-- What can be looked at from an empty map can be looked at from any. -/
theorem AnnouncesInRange.mono {map : ReceiverMap} {events : List (AnchorEvent × Option Bytes)}
    (h : AnnouncesInRange rt sdk program_id mint (fun _ => none) events) :
    AnnouncesInRange rt sdk program_id mint map events := by
  intro p hp raw reg_tx hchecks
  exact h p hp raw reg_tx ⟨hchecks.name, hchecks.decodes, by simp, hchecks.fetched⟩

theorem catchUp_returns_iff {events : List (AnchorEvent × Option Bytes)} :
    Succeeds (catchUp rt sdk program_id mint events) ↔
      AnnouncesInRange rt sdk program_id mint (fun _ => none) events := by
  constructor
  · rintro ⟨map, h⟩
    by_contra hnot
    obtain ⟨m, hattach, -⟩ := bind_ok.mp h
    exact nomatch hattach.symm.trans (attach_panics_iff.mpr hnot)
  · intro h
    obtain ⟨m, hattach⟩ := attach_returns h
    exact ⟨_, bind_ok.mpr ⟨m, hattach, rfl⟩⟩

theorem liveBatches_returns {map : ReceiverMap}
    {batches : List (List (AnchorEvent × Option Bytes))}
    (h : AnnouncesInRange rt sdk program_id mint (fun _ => none) batches.flatten) :
    ∃ map', liveBatches rt sdk program_id mint map batches = .ok map' := by
  induction batches generalizing map with
  | nil => exact ⟨map, rfl⟩
  | cons events rest ih =>
      rw [List.flatten_cons] at h
      have hhead : AnnouncesInRange rt sdk program_id mint (fun _ => none) events :=
        fun p hp => h p (List.mem_append_left _ hp)
      obtain ⟨m, hattach⟩ := attach_returns (@AnnouncesInRange.mono _ _ _ _ map _ hhead)
      obtain ⟨map', hrest⟩ := @ih ((events.map Prod.fst).foldl rememberOne m)
        (fun p hp => h p (List.mem_append_right _ hp))
      exact ⟨map', bind_ok.mpr ⟨_, bind_ok.mpr ⟨m, hattach, rfl⟩, hrest⟩⟩

theorem receiverItems_flatten (k : Pubkey) (batches : List (List (AnchorEvent × Option Bytes))) :
    receiverItems rt sdk program_id mint k batches.flatten
      = (batches.map (receiverItems rt sdk program_id mint k)).flatten := by
  induction batches with
  | nil => rfl
  | cons events rest ih =>
      rw [List.flatten_cons, List.map_cons, List.flatten_cons, ← ih]
      simp [receiverItems, itemsOf]

/-- A prefix of what is said of a receiver is said by a prefix of the events. -/
theorem exists_prefix {k : Pubkey} {events : List (AnchorEvent × Option Bytes)} {p : List Item}
    (h : p <+: receiverItems rt sdk program_id mint k events) :
    ∃ front back, events = front ++ back ∧
      receiverItems rt sdk program_id mint k front = p := by
  obtain ⟨q, hq, rfl⟩ := List.prefix_filter_iff.mp h
  obtain ⟨front, ⟨back, rfl⟩, rfl⟩ := List.prefix_filterMap_iff.mp hq
  exact ⟨front, back, rfl, rfl⟩

/-- **One batch, or many.**  Catch-up returns and every way of batching the same events agrees with
it, with nothing taken back and every registered record of one piece, exactly when the checked
announcements can be looked at and what is said of each receiver is coherent. -/
theorem merging_agrees_iff (rt : Runtime) (sdk : Sdk) (program_id mint : Pubkey)
    (events : List (AnchorEvent × Option Bytes)) :
    (∃ map, catchUp rt sdk program_id mint events = .ok map ∧
      MergingAgrees rt sdk program_id mint events map) ↔
    AnnouncesInRange rt sdk program_id mint (fun _ => none) events ∧
      ∀ k, Coherent (receiverItems rt sdk program_id mint k events) := by
  constructor
  · rintro ⟨map, hcatch, h⟩
    refine ⟨catchUp_returns_iff.mp ⟨map, hcatch⟩, fun k => (coherent_iff _).mpr ?_⟩
    intro r hr
    have hcell := catchUp_apply hcatch k
    rw [catchUpCell, hr] at hcell
    have hsingle := h.single k
    rw [hcell] at hsingle
    refine ⟨hsingle, ?_⟩
    intro p hp hfirst
    obtain ⟨front, back, hevents, rfl⟩ := exists_prefix hp
    obtain ⟨map', hlive, hagree⟩ := h.batched [front, back] (by simp [hevents])
    obtain ⟨hview, hone⟩ := hagree k
    have hlivecell := liveBatches_apply hlive k
    rw [List.map_cons, List.foldl_cons, liveCell_of_unregistered unregistered_none, hfirst,
      Option.or_none] at hlivecell
    dsimp only at hlivecell
    rw [liveBatchesCell_of_registered rfl] at hlivecell
    rw [hcell, hlivecell] at hview
    exact ⟨Option.some.inj hview, hlivecell ▸ hone⟩
  · rintro ⟨hrange, hcoherent⟩
    obtain ⟨map, hcatch⟩ := catchUp_returns_iff.mpr hrange
    have hcell := catchUp_apply hcatch
    simp only [catchUpCell] at hcell
    have hnone : ∀ k, firstRegister (receiverItems rt sdk program_id mint k events) = none →
        OneRegistration (receiverItems rt sdk program_id mint k events)
          (announcedRecord (receiverItems rt sdk program_id mint k events)) := by
      intro k _ r hr hstatus
      exact nomatch (unregistered_announcedRecord _ r hr).symm.trans hstatus
    refine ⟨map, hcatch, ?_, ?_, ?_⟩
    · intro k
      rw [hcell k]
      cases hfirst : firstRegister (receiverItems rt sdk program_id mint k events) with
      | none => exact hnone k hfirst
      | some r => exact ((coherent_iff _).mp (hcoherent k) r hfirst).1
    · rintro batches rfl
      obtain ⟨map', hlive⟩ := @liveBatches_returns _ _ _ _ (fun _ => none) _ hrange
      refine ⟨map', hlive, fun k => ?_⟩
      obtain ⟨hbefore, hafter⟩ := liveBatchesCell [] rfl
        (batches.map (receiverItems rt sdk program_id mint k))
      rw [List.nil_append, ← receiverItems_flatten] at hbefore hafter
      have hlivecell : map' k = (batches.map (receiverItems rt sdk program_id mint k)).foldl
          liveCell (announcedRecord []) := liveBatches_apply hlive k
      rw [hcell k, hlivecell]
      cases hfirst : firstRegister (receiverItems rt sdk program_id mint k batches.flatten) with
      | none =>
          rw [hbefore hfirst]
          exact ⟨rfl, hnone k hfirst⟩
      | some r =>
          obtain ⟨p, hp, hfirst', hrun⟩ := hafter r hfirst
          obtain ⟨hview, hone⟩ := ((coherent_iff _).mp (hcoherent k) r hfirst).2 p hp hfirst'
          rw [hrun]
          exact ⟨congrArg some hview, hone⟩
    · intro batches rest _ m m' hm hm' k
      rw [liveBatches_apply hm k, liveBatches_apply hm' k, List.map_append, List.foldl_append]
      exact keepsKnown_foldl _ _

end

/-! ## A registration that disagrees with its announcement -/

namespace MergeSample

/-- The keeper's announcement of the sample receiver, with its pinned transaction. -/
def announced : AnchorEvent × Option Bytes :=
  (⟨.receiverAnnounced, ((announcement ledgerRuntime 100 Sample.mint Sample.merchant Sample.receiver
      0 0).event |> announcedBody).getD [], 1⟩,
    some (wireSdk.serialize (AnnounceSample.tx Sample.merchant)))

/-- A registration of the same receiver for another merchant. -/
def registered : AnchorEvent × Option Bytes :=
  (⟨.receiverRegistered, [99, Sample.receiver, 98, 97, 0, 0].flatMap bytesOf, 2⟩, none)

def events : List (AnchorEvent × Option Bytes) := [announced, registered]

end MergeSample

set_option maxRecDepth 20000 in
/-- Catch-up keeps the announced merchant, the live worker takes the registered one. -/
theorem merging_differs :
    ¬ ∃ map, catchUp ledgerRuntime wireSdk 100 Sample.mint MergeSample.events = .ok map ∧
      MergingAgrees ledgerRuntime wireSdk 100 Sample.mint MergeSample.events map := by
  rintro ⟨map, hcatch, h⟩
  obtain ⟨map', hlive, hagree⟩ := h.batched [MergeSample.events] rfl
  have hcaught : ((catchUp ledgerRuntime wireSdk 100 Sample.mint MergeSample.events).toOption.bind
      fun map => (map Sample.receiver).map (·.merchant)) = some Sample.merchant := by
    decide +kernel
  have hlived : ((liveBatches ledgerRuntime wireSdk 100 Sample.mint (fun _ => none)
      [MergeSample.events]).toOption.bind
      fun map => (map Sample.receiver).map (·.merchant)) = some 99 := by
    decide +kernel
  have hsame : (map Sample.receiver).map (·.merchant) = (map' Sample.receiver).map (·.merchant) := by
    have hview := congrArg (Option.map Prod.fst) (hagree Sample.receiver).1
    rw [Option.map_map, Option.map_map] at hview
    exact hview
  rw [hcatch] at hcaught
  rw [hlive] at hlived
  have hmerchants : some Sample.merchant = some (99 : Pubkey) :=
    hcaught.symm.trans (hsame.trans hlived)
  exact absurd hmerchants (by decide)

end Beanie.Keeper
