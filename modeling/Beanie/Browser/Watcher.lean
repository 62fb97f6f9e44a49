/-
# `Beanie.Browser.Watcher` — the deposit watcher

`scanReceiver` of `watcher.js` in the tabs of one browser, on one storage.  A
tab scans a receiver window by window from the cursor that is stored, records
what it finds, and hands to the listeners what was new; the storage may refuse
either of the two writes of a window.

    emitted_once             no deposit is handed on twice, whatever writes fail
    deposits_delivered_once  each is, where no window is half written
-/
import Beanie.Browser.Store
import Beanie.Lib.Run

namespace Beanie.Browser

def MAX_WINDOWS_PER_RECEIVER : Nat := 8

/-- The deposits into every receiver, by its key and the block. -/
structure DepositLog where
  deposits : Text → Nat → List Deposit
  plain : ∀ key n, ∀ d ∈ deposits key n, d.Plain
  /-- A transaction is in one block. -/
  one_block : ∀ key m n, ∀ d ∈ deposits key m, ∀ d' ∈ deposits key n, d.tx = d'.tx → m = n

/-- What a scan of the receiver can return. -/
inductive Scans (log : DepositLog) (r : Receiver) (cursor : Nat) : List Deposit → Nat → Prop
  | returned {p : Platform} {rpc : Rpc} {fuel : Nat} {c : OnChain} {finalized : Nat → Nat}
      {chain : ChainConfig} {account : Text} {deposits : List Deposit} {nextBlock : Nat} :
      chainByKey r.chain = some chain →
      (chain.kind = .solana → p.usdcAta r.address chain.usdc = some account) →
      rpc.Documented c finalized r.chain chain.usdc r.address account →
      c.transfers chain.kind account chain.usdc = log.deposits r.key →
      scanDeposits p rpc fuel r.chain r.address cursor = some (deposits, nextBlock) →
      Scans log r cursor deposits nextBlock

/-- A `scanReceiver` that is going on. -/
structure Job where
  lane : Text
  receiver : Receiver
  cursor : Nat
  windows : Nat

/-- The browser: `jobs` by tab and chain, what the listeners have got so far, and two records for the
statements: what was put into the history, and where a receiver was first scanned from. -/
structure Watcher (τ : Type) where
  store : ScanStore
  jobs : τ × Text → Option Job
  emitted : List HistoryEntry
  recorded : List HistoryEntry
  first : Text → Option Nat

/-- Before the first poll. -/
def Watcher.fresh {τ : Type} : Watcher τ := ⟨⟨[], fun _ => none⟩, fun _ => none, [], [], fun _ => none⟩

inductive WatchEvent (τ : Type)
  | start (tab : τ) (lane : Text) (receiver : Receiver)
  | window (tab : τ) (chain : Text) (deposits : List Deposit) (w : Writes)
  | stop (tab : τ) (chain : Text)

/-- Lanes are saved under the keys of `CHAINS`. -/
def Receiver.Listed (r : Receiver) : Prop := (chainByKey r.chain).isSome ∧ wire r.chain = r.chain

section
variable {τ : Type} [DecidableEq τ]

def Watcher.setJob (s : Watcher τ) (tab : τ) (chain : Text) (job : Option Job) : Watcher τ :=
  { s with jobs := Function.update s.jobs (tab, chain) job }

/-- A window whose writes the storage has taken. -/
def Watcher.afterWindow (s : Watcher τ) (tab : τ) (job : Job) (nextBlock : Nat) (store : ScanStore)
    (added : List HistoryEntry) : Watcher τ :=
  { s with
    store := store
    jobs := Function.update s.jobs (tab, job.receiver.chain)
      (some { job with cursor := nextBlock, windows := job.windows + 1 })
    emitted := s.emitted ++ added
    recorded := s.recorded ++ added }

/-- One whose history or cursor it has refused: the scan throws. -/
def Watcher.afterRefusal (s : Watcher τ) (tab : τ) (job : Job) (store : ScanStore)
    (put : List HistoryEntry) : Watcher τ :=
  { s with
    store := store
    jobs := Function.update s.jobs (tab, job.receiver.chain) none
    recorded := s.recorded ++ put }

inductive WatchStep (log : DepositLog) : Watcher τ → WatchEvent τ → Watcher τ → Prop
  | resume {s : Watcher τ} {tab : τ} {lane : Text} {r : Receiver} {cursor : Nat} :
      r.Listed → s.jobs (tab, r.chain) = none → s.store.getCursor r = some cursor →
      WatchStep log s (.start tab lane r) (s.setJob tab r.chain (some ⟨lane, r, cursor, 0⟩))
  | first {s : Watcher τ} {tab : τ} {lane : Text} {r : Receiver} {head : Nat} {taken : Bool} :
      r.Listed → s.jobs (tab, r.chain) = none → s.store.getCursor r = none →
      WatchStep log s (.start tab lane r)
        { s.setJob tab r.chain (some ⟨lane, r, r.startBlock.getD head, 0⟩) with
          store := s.store.setCursor r (r.startBlock.getD head) taken
          first := Function.update s.first r.key (some (r.startBlock.getD head)) }
  | recorded {s : Watcher τ} {tab : τ} {job : Job} {deposits : List Deposit} {nextBlock now : Nat}
      {w : Writes} {store : ScanStore} {added : List HistoryEntry} :
      s.jobs (tab, job.receiver.chain) = some job → job.windows < MAX_WINDOWS_PER_RECEIVER →
      Scans log job.receiver job.cursor deposits nextBlock → nextBlock ≠ job.cursor →
      s.store.recordScan now w job.receiver deposits nextBlock (some job.lane)
        = (store, some added) →
      WatchStep log s (.window tab job.receiver.chain deposits w)
        (s.afterWindow tab job nextBlock store added)
  | refused {s : Watcher τ} {tab : τ} {job : Job} {deposits : List Deposit} {nextBlock now : Nat}
      {w : Writes} {store : ScanStore} :
      s.jobs (tab, job.receiver.chain) = some job → job.windows < MAX_WINDOWS_PER_RECEIVER →
      Scans log job.receiver job.cursor deposits nextBlock → nextBlock ≠ job.cursor →
      s.store.recordScan now w job.receiver deposits nextBlock (some job.lane) = (store, none) →
      WatchStep log s (.window tab job.receiver.chain deposits w)
        (s.afterRefusal tab job store
          (if w.history then s.store.added now job.receiver deposits (some job.lane) else []))
  /-- caught up, out of windows, a request that failed, or the tab closed -/
  | stop {s : Watcher τ} {tab : τ} {chain : Text} :
      WatchStep log s (.stop tab chain) (s.setJob tab chain none)

end

/-! ## Scans and keys -/

theorem Scans.window {log : DepositLog} {r : Receiver} {cursor nextBlock : Nat}
    {deposits : List Deposit} (h : Scans log r cursor deposits nextBlock) :
    cursor ≤ nextBlock ∧ deposits = between (log.deposits r.key) cursor nextBlock := by
  cases h with
  | returned hchain haccount hdoc hlog hscan =>
      have hwindow := scanDeposits_window hchain haccount hdoc hscan
      exact ⟨hwindow.le, hlog ▸ hwindow.deposits_eq⟩

theorem colon_not_mem_wire {chain : Text} (h : (chainByKey chain).isSome) : ':' ∉ wire chain := by
  intro hcolon
  have hnames : ∀ p ∈ CHAINS, ':' ∉ p.1 := by decide
  have hnone : CHAINS.lookup (wire chain) = none :=
    List.lookup_eq_none_iff.mpr fun p hp => bne_iff_ne.mpr fun heq => hnames p hp (heq ▸ hcolon)
  rw [chainByKey, hnone] at h
  cases h

/-- Receivers on different chains have different keys. -/
theorem chain_eq_of_key {r r' : Receiver} (hr : r.Listed) (hr' : r'.Listed) (h : r.key = r'.key) :
    r.chain = r'.chain := by
  have hfront : ∀ {chain : Text} (address : Text), (chainByKey chain).isSome →
      ((wire chain ++ ':' :: address).takeWhile fun c => decide (c ≠ ':')) = wire chain := by
    intro chain address hchain
    rw [List.takeWhile_append_of_pos]
    · simp
    · exact fun c hc => decide_eq_true fun heq => colon_not_mem_wire hchain (heq ▸ hc)
  rw [← hr.2, ← hr'.2, ← hfront _ hr.1, ← hfront _ hr'.1]
  exact congrArg _ h

theorem key_of_mem_added {s : ScanStore} {now : Nat} {r : Receiver} {deposits : List Deposit}
    {laneId : Option Text} {e : HistoryEntry} (hr : r.Listed)
    (h : e ∈ s.added now r deposits laneId) : e.key = r.key := by
  obtain ⟨d, -, id, rfl⟩ := mem_addedFrom h
  rw [HistoryEntry.key, historyEntry, hr.2]
  rfl

/-! ## Recording a window -/

section
variable {s store : ScanStore} {now : Nat} {w : Writes} {r : Receiver} {deposits : List Deposit}
  {nextBlock : Nat} {laneId : Option Text}

theorem recordScan_some {added : List HistoryEntry}
    (h : s.recordScan now w r deposits nextBlock laneId = (store, some added)) :
    added = s.added now r deposits laneId ∧
      store.cursors = Function.update s.cursors r.key (some nextBlock) ∧
      (store.history = (added.reverse ++ s.history).take MAX_HISTORY ∨
        added = [] ∧ store.history = s.history) := by
  unfold ScanStore.recordScan at h
  by_cases hrefused : s.added now r deposits laneId ≠ [] ∧ w.history = false
  · rw [if_pos hrefused] at h
    cases h
  · rw [if_neg hrefused] at h
    by_cases hcursors : w.cursors = false
    · rw [if_pos hcursors] at h
      cases h
    · rw [if_neg hcursors] at h
      obtain ⟨rfl, hadded⟩ := Prod.mk.inj h
      obtain rfl := Option.some.inj hadded
      by_cases hnew : s.added now r deposits laneId ≠ []
      · rw [if_pos hnew]
        exact ⟨rfl, rfl, .inl rfl⟩
      · rw [if_neg hnew]
        exact ⟨rfl, rfl, .inr ⟨not_not.mp hnew, rfl⟩⟩

theorem recordScan_none (h : s.recordScan now w r deposits nextBlock laneId = (store, none)) :
    store.cursors = s.cursors ∧
      (store.history = s.history ∧ (s.added now r deposits laneId = [] ∨ w.history = false) ∨
        s.added now r deposits laneId ≠ [] ∧ w.history = true ∧ w.cursors = false ∧
          store.history
            = ((s.added now r deposits laneId).reverse ++ s.history).take MAX_HISTORY) := by
  unfold ScanStore.recordScan at h
  by_cases hrefused : s.added now r deposits laneId ≠ [] ∧ w.history = false
  · rw [if_pos hrefused] at h
    obtain ⟨rfl, -⟩ := Prod.mk.inj h
    exact ⟨rfl, .inl ⟨rfl, .inr hrefused.2⟩⟩
  · rw [if_neg hrefused] at h
    by_cases hcursors : w.cursors = false
    · rw [if_pos hcursors] at h
      obtain ⟨rfl, -⟩ := Prod.mk.inj h
      by_cases hnew : s.added now r deposits laneId ≠ []
      · rw [if_pos hnew]
        have hhistory : w.history = true := by
          by_contra hno
          exact hrefused ⟨hnew, Bool.not_eq_true _ ▸ hno⟩
        exact ⟨rfl, .inr ⟨hnew, hhistory, hcursors, rfl⟩⟩
      · rw [if_neg hnew]
        exact ⟨rfl, .inl ⟨rfl, .inl (not_not.mp hnew)⟩⟩
    · rw [if_neg hcursors] at h
      cases h

/-- The ids added are those of the window that are not in the history. -/
theorem added_ids (s : ScanStore) (now : Nat) (r : Receiver) (deposits : List Deposit)
    (laneId : Option Text) :
    (s.added now r deposits laneId).map (·.id)
      = (depositIds r.key deposits).filter fun id => decide (id ∉ s.history.map (·.id)) :=
  addedFrom_ids _ _ _

theorem added_nodup : ((s.added now r deposits laneId).map (·.id)).Nodup := by
  rw [added_ids]
  exact (depositIds_nodup _ _).filter _

end

/-! ## At most once -/

/-- The id of a transfer below the cursor of its receiver. -/
def Passed (log : DepositLog) (cursors : Text → Option Nat) (id : Text) : Prop :=
  ∃ key c n d m, cursors key = some c ∧ n < c ∧ d ∈ log.deposits key n ∧
    id = depositId (depositBase key d) m

section
variable {log : DepositLog} {cursors : Text → Option Nat} {id : Text}

/-- A later window has none of the ids below the cursor. -/
theorem Passed.not_mem {key : Text} {start stop : Nat} (h : Passed log cursors id)
    (hstart : ∀ c, cursors key = some c → c ≤ start) :
    id ∉ depositIds key (between (log.deposits key) start stop) := by
  obtain ⟨key', c, n, d, m, hc, hn, hd, rfl⟩ := h
  intro hmem
  obtain ⟨d', hd', m', heq⟩ := mem_depositIds hmem
  obtain ⟨n', hstart', -, hn'⟩ := mem_between.mp hd'
  obtain ⟨rfl, htx⟩ := depositBase_inj (log.plain _ _ d hd) (log.plain _ _ d' hn')
    (depositId_inj heq).1
  have hblock := log.one_block _ _ _ d hd d' hn' htx
  have := hstart c hc
  omega

/-- Once the cursor is at its end, the ids of a window are below it. -/
theorem passed_of_mem {key : Text} {start stop : Nat} (hcursor : cursors key = some stop)
    (h : id ∈ depositIds key (between (log.deposits key) start stop)) : Passed log cursors id := by
  obtain ⟨d, hd, m, rfl⟩ := mem_depositIds h
  obtain ⟨n, -, hstop, hn⟩ := mem_between.mp hd
  exact ⟨key, stop, n, d, m, hcursor, hstop, hn, rfl⟩

theorem Passed.update {key : Text} {stop : Nat} (h : Passed log cursors id)
    (hstop : ∀ c, cursors key = some c → c ≤ stop) :
    Passed log (Function.update cursors key (some stop)) id := by
  obtain ⟨key', c, n, d, m, hc, hn, hd, rfl⟩ := h
  by_cases hkey : key' = key
  · obtain rfl := hkey
    have := hstop c hc
    exact ⟨key', stop, n, d, m, Function.update_self .., by omega, hd, rfl⟩
  · exact ⟨key', c, n, d, m, (Function.update_of_ne hkey ..).trans hc, hn, hd, rfl⟩

/-- The ids of two windows, one behind the other. -/
theorem depositIds_between {key : Text} {a b c : Nat} (hab : a ≤ b) (hbc : b ≤ c) :
    depositIds key (between (log.deposits key) a c)
      = depositIds key (between (log.deposits key) a b)
        ++ depositIds key (between (log.deposits key) b c) := by
  rw [← between_append hab hbc]
  refine depositIds_append (fun d hd => ?_) (fun d hd d' hd' htx => ?_)
  · rw [between_append hab hbc] at hd
    obtain ⟨n, -, -, hn⟩ := mem_between.mp hd
    exact log.plain _ _ d hn
  · obtain ⟨n, -, hn, hd⟩ := mem_between.mp hd
    obtain ⟨n', hn', -, hd'⟩ := mem_between.mp hd'
    have := log.one_block _ _ _ d hd d' hd' htx
    omega

end

section
variable {τ : Type} [DecidableEq τ] {log : DepositLog}

/-- A tab starts a scan only while no other tab is scanning: it holds the lock. -/
def Alone (t : Transition (Watcher τ) (WatchEvent τ)) : Prop :=
  ∀ tab lane r, t.act = .start tab lane r →
    ∀ tab' chain, tab' ≠ tab → t.pre.jobs (tab', chain) = none

/-- The jobs are of one tab, and each goes on where its receiver's cursor is. -/
structure Watcher.Jobs (s : Watcher τ) : Prop where
  one : ∀ tab tab' chain chain', (s.jobs (tab, chain)).isSome → (s.jobs (tab', chain')).isSome →
    tab = tab'
  listed : ∀ tab chain job, s.jobs (tab, chain) = some job →
    job.receiver.chain = chain ∧ job.receiver.Listed
  cursor : ∀ tab chain job, s.jobs (tab, chain) = some job →
    (∀ c, s.store.cursors job.receiver.key = some c → job.cursor = c) ∧
      (s.store.cursors job.receiver.key = none → s.first job.receiver.key = some job.cursor)

/-- What was handed on is below the cursors, and nothing was twice. -/
structure Watcher.Emitted (log : DepositLog) (s : Watcher τ) : Prop where
  passed : ∀ e ∈ s.emitted, Passed log s.store.cursors e.id
  nodup : (s.emitted.map (·.id)).Nodup

theorem update_eq_some {κ β : Type} [DecidableEq κ] {f : κ → Option β} {a b : κ} {new : Option β}
    {v : β} (h : Function.update f a new b = some v) : b = a ∧ new = some v ∨ b ≠ a ∧ f b = some v := by
  by_cases hsame : b = a
  · rw [hsame, Function.update_self] at h
    exact .inl ⟨hsame, h⟩
  · rw [Function.update_of_ne hsame] at h
    exact .inr ⟨hsame, h⟩

omit [DecidableEq τ] in
/-- While a tab scans, no other does. -/
theorem Watcher.Jobs.alone {s : Watcher τ} (h : s.Jobs) {tab : τ} {chain : Text} {job : Job}
    (hjob : s.jobs (tab, chain) = some job) :
    ∀ tab' chain', tab' ≠ tab → s.jobs (tab', chain') = none := by
  intro tab' chain' hne
  by_contra hsome
  refine hne (h.one tab' tab chain' chain ?_ ?_)
  · exact Option.ne_none_iff_isSome.mp hsome
  · rw [hjob]
    rfl

theorem Watcher.Jobs.drop {s s' : Watcher τ} (h : s.Jobs) {tab : τ} {chain : Text}
    (hjobs : s'.jobs = Function.update s.jobs (tab, chain) none)
    (hcursors : s'.store.cursors = s.store.cursors) (hfirst : s'.first = s.first) : s'.Jobs := by
  have hkept : ∀ tab' chain' job, s'.jobs (tab', chain') = some job →
      s.jobs (tab', chain') = some job := by
    intro tab' chain' job hjob
    rw [hjobs] at hjob
    rcases update_eq_some hjob with ⟨-, hnone⟩ | ⟨-, hjob⟩
    · cases hnone
    · exact hjob
  refine ⟨fun t t' ch ch' ht ht' => ?_, fun t ch job hjob => h.listed t ch job (hkept _ _ _ hjob),
    fun t ch job hjob => ?_⟩
  · obtain ⟨job, hjob⟩ := Option.isSome_iff_exists.mp ht
    obtain ⟨job', hjob'⟩ := Option.isSome_iff_exists.mp ht'
    refine h.one t t' ch ch' ?_ ?_
    · rw [hkept _ _ _ hjob]
      rfl
    · rw [hkept _ _ _ hjob']
      rfl
  · rw [hcursors, hfirst]
    exact h.cursor t ch job (hkept _ _ _ hjob)

/-- A job of the only tab that goes on, with its receiver's cursor. -/
theorem Watcher.Jobs.set {s s' : Watcher τ} (h : s.Jobs) {tab : τ} {job : Job}
    (hlisted : job.receiver.Listed)
    (halone : ∀ tab' chain', tab' ≠ tab → s.jobs (tab', chain') = none)
    (hjobs : s'.jobs = Function.update s.jobs (tab, job.receiver.chain) (some job))
    (hcursors : ∀ key, key ≠ job.receiver.key → s'.store.cursors key = s.store.cursors key)
    (hfirst : ∀ key, key ≠ job.receiver.key → s'.first key = s.first key)
    (hcursor : (∀ c, s'.store.cursors job.receiver.key = some c → job.cursor = c) ∧
      (s'.store.cursors job.receiver.key = none →
        s'.first job.receiver.key = some job.cursor)) : s'.Jobs := by
  have hcases : ∀ tab' chain' job', s'.jobs (tab', chain') = some job' →
      (tab', chain') = (tab, job.receiver.chain) ∧ job' = job ∨
        tab' = tab ∧ chain' ≠ job.receiver.chain ∧ s.jobs (tab', chain') = some job' := by
    intro tab' chain' job' hjob'
    rw [hjobs] at hjob'
    rcases update_eq_some hjob' with ⟨hsame, hsome⟩ | ⟨hne, hjob'⟩
    · exact .inl ⟨hsame, (Option.some.inj hsome).symm⟩
    · have htab : tab' = tab := by
        by_contra hother
        rw [halone tab' chain' hother] at hjob'
        cases hjob'
      exact .inr ⟨htab, fun hchain => hne (Prod.ext htab hchain), hjob'⟩
  refine ⟨fun t t' ch ch' ht ht' => ?_, fun t ch job' hjob' => ?_, fun t ch job' hjob' => ?_⟩
  · have htab : ∀ t ch, (s'.jobs (t, ch)).isSome → t = tab := by
      intro t ch ht
      obtain ⟨job', hjob'⟩ := Option.isSome_iff_exists.mp ht
      rcases hcases t ch job' hjob' with ⟨hsame, -⟩ | ⟨htab, -⟩
      · exact (Prod.mk.inj hsame).1
      · exact htab
    rw [htab t ch ht, htab t' ch' ht']
  · rcases hcases t ch job' hjob' with ⟨hsame, rfl⟩ | ⟨-, -, hjob'⟩
    · exact ⟨(Prod.mk.inj hsame).2.symm, hlisted⟩
    · exact h.listed t ch job' hjob'
  · rcases hcases t ch job' hjob' with ⟨-, rfl⟩ | ⟨-, hchain, hjob'⟩
    · exact hcursor
    · obtain ⟨rfl, hlisted'⟩ := h.listed t ch job' hjob'
      have hkey : job'.receiver.key ≠ job.receiver.key := fun hkey =>
        hchain (chain_eq_of_key hlisted' hlisted hkey)
      rw [hcursors _ hkey, hfirst _ hkey]
      exact h.cursor t _ job' hjob'

/-- **The jobs are kept.** -/
theorem WatchStep.jobs {s s' : Watcher τ} {e : WatchEvent τ} (h : WatchStep log s e s')
    (halone : Alone ⟨s, e, s'⟩) (hjobs : s.Jobs) : s'.Jobs := by
  cases h with
  | @resume tab lane r cursor hlisted _ hcursor =>
      refine @Watcher.Jobs.set _ _ _ _ hjobs tab ⟨lane, r, cursor, 0⟩ hlisted
        (halone tab lane r rfl) rfl (fun _ _ => rfl) (fun _ _ => rfl) ⟨fun c hc => ?_, fun hnone => ?_⟩
      · exact Option.some.inj (hcursor.symm.trans hc)
      · cases hcursor.symm.trans hnone
  | @first tab lane r head taken hlisted _ hnone =>
      refine @Watcher.Jobs.set _ _ _ _ hjobs tab ⟨lane, r, r.startBlock.getD head, 0⟩ hlisted
        (halone tab lane r rfl) rfl (fun key hkey => ?_) (fun key hkey => Function.update_of_ne hkey ..)
        ⟨fun c hc => ?_, fun _ => Function.update_self ..⟩
      · cases taken with
        | false => rfl
        | true => exact Function.update_of_ne hkey ..
      · cases taken with
        | false => cases hnone.symm.trans hc
        | true =>
            exact Option.some.inj ((Function.update_self r.key _ s.store.cursors).symm.trans hc)
  | @recorded tab job deposits nextBlock now w store added hjob _ _ _ hrecord =>
      obtain ⟨-, hstore, -⟩ := recordScan_some hrecord
      have hat : store.cursors job.receiver.key = some nextBlock := by
        rw [hstore, Function.update_self]
      refine @Watcher.Jobs.set _ _ _ _ hjobs tab
        { job with cursor := nextBlock, windows := job.windows + 1 } (hjobs.listed _ _ _ hjob).2 (hjobs.alone hjob) rfl (fun key hkey => ?_) (fun _ _ => rfl)
        ⟨fun c hc => ?_, fun hnone => ?_⟩
      · rw [Watcher.afterWindow, hstore]
        exact Function.update_of_ne hkey ..
      · exact Option.some.inj (hat.symm.trans hc)
      · cases hat.symm.trans hnone
  | @refused tab job deposits nextBlock now w store hjob _ _ _ hrecord =>
      exact hjobs.drop rfl (recordScan_none hrecord).1 rfl
  | stop => exact hjobs.drop rfl rfl rfl

omit [DecidableEq τ] in
/-- What a window hands on is of the window, and was not in the history. -/
theorem added_subset {s : Watcher τ} {now : Nat} {job : Job} {deposits : List Deposit}
    {e : HistoryEntry} (he : e ∈ s.store.added now job.receiver deposits (some job.lane)) :
    e.id ∈ depositIds job.receiver.key deposits ∧ e.id ∉ s.store.history.map (·.id) := by
  have hid := List.mem_map_of_mem (f := fun e : HistoryEntry => e.id) he
  rw [added_ids, List.mem_filter, decide_eq_true_eq] at hid
  exact hid

/-- **With the lock nothing is handed on twice.** -/
theorem WatchStep.emitted {s s' : Watcher τ} {e : WatchEvent τ} (h : WatchStep log s e s')
    (hjobs : s.Jobs) (hemitted : s.Emitted log) : s'.Emitted log := by
  cases h with
  | resume => exact ⟨hemitted.passed, hemitted.nodup⟩
  | @first tab lane r head taken _ _ hnone =>
      refine ⟨fun e he => ?_, hemitted.nodup⟩
      have hpassed := hemitted.passed e he
      cases taken with
      | false => exact hpassed
      | true => exact hpassed.update fun c hc => by cases hnone.symm.trans hc
  | @recorded tab job deposits nextBlock now w store added hjob _ hscan _ hrecord =>
      obtain ⟨hadded, hstore, -⟩ := recordScan_some hrecord
      obtain ⟨hle, hdeposits⟩ := hscan.window
      obtain ⟨hcursor, -⟩ := hjobs.cursor _ _ _ hjob
      have hnew : ∀ e ∈ added, e.id ∈ depositIds job.receiver.key
          (between (log.deposits job.receiver.key) job.cursor nextBlock) := by
        intro e he
        rw [← hdeposits]
        exact (added_subset (hadded ▸ he)).1
      refine ⟨fun e he => ?_, ?_⟩
      · rw [Watcher.afterWindow, hstore]
        rcases List.mem_append.mp he with he | he
        · exact (hemitted.passed e he).update fun c hc => (hcursor c hc) ▸ hle
        · exact passed_of_mem (Function.update_self ..) (hnew e he)
      · rw [Watcher.afterWindow, List.map_append]
        refine hemitted.nodup.append (hadded ▸ added_nodup) fun id hid hid' => ?_
        obtain ⟨e, he, rfl⟩ := List.mem_map.mp hid
        obtain ⟨e', he', heq⟩ := List.mem_map.mp hid'
        exact (hemitted.passed e he).not_mem (fun c hc => (hcursor c hc).ge)
          (heq ▸ hnew e' he')
  | refused _ _ _ _ hrecord =>
      obtain ⟨hstore, -⟩ := recordScan_none hrecord
      refine ⟨fun e he => ?_, hemitted.nodup⟩
      rw [Watcher.afterRefusal, hstore]
      exact hemitted.passed e he
  | stop => exact ⟨hemitted.passed, hemitted.nodup⟩

/-! ## Without the lock -/

/-- The history has room for all that the window has found. -/
def Fits (t : Transition (Watcher τ) (WatchEvent τ)) : Prop :=
  ∀ tab chain deposits w, t.act = .window tab chain deposits w →
    t.pre.store.history.length + deposits.length ≤ MAX_HISTORY

/-- What was handed on is in the history. -/
structure Watcher.Kept (s : Watcher τ) : Prop where
  history : ∀ e ∈ s.emitted, e.id ∈ s.store.history.map (·.id)
  nodup : (s.emitted.map (·.id)).Nodup

theorem length_added_le (s : ScanStore) (now : Nat) (r : Receiver) (deposits : List Deposit)
    (laneId : Option Text) : (s.added now r deposits laneId).length ≤ deposits.length := by
  have hids := congrArg List.length (added_ids s now r deposits laneId)
  rw [List.length_map] at hids
  rw [hids]
  refine (List.length_filter_le _ _).trans ?_
  rw [depositIds, List.length_map, length_numbered]

/-- **While the history holds everything, nothing is handed on twice, whoever polls.** -/
theorem WatchStep.kept {s s' : Watcher τ} {e : WatchEvent τ} (h : WatchStep log s e s')
    (hfits : Fits ⟨s, e, s'⟩) (hkept : s.Kept) : s'.Kept := by
  cases h with
  | resume => exact ⟨hkept.history, hkept.nodup⟩
  | @first tab lane r head taken =>
      refine ⟨fun e he => ?_, hkept.nodup⟩
      cases taken <;> exact hkept.history e he
  | @recorded tab job deposits nextBlock now w store added _ _ _ _ hrecord =>
      obtain ⟨rfl, -, hhistory⟩ := recordScan_some hrecord
      have hroom := hfits tab _ deposits w rfl
      have hlen := length_added_le s.store now job.receiver deposits (some job.lane)
      have hall : store.history = (s.store.added now job.receiver deposits (some job.lane)).reverse
          ++ s.store.history := by
        rcases hhistory with hhistory | ⟨hnone, hhistory⟩
        · rw [hhistory, List.take_of_length_le]
          rw [List.length_append, List.length_reverse]
          have : s.store.history.length + deposits.length ≤ MAX_HISTORY := hroom
          omega
        · rw [hhistory, hnone]
          rfl
      refine ⟨fun e he => ?_, ?_⟩
      · rw [Watcher.afterWindow, hall, List.map_append, List.mem_append]
        rcases List.mem_append.mp he with he | he
        · exact .inr (hkept.history e he)
        · exact .inl (List.mem_map_of_mem (List.mem_reverse.mpr he))
      · rw [Watcher.afterWindow, List.map_append]
        refine hkept.nodup.append added_nodup fun id hid hid' => ?_
        obtain ⟨e, he, rfl⟩ := List.mem_map.mp hid
        obtain ⟨e', he', heq⟩ := List.mem_map.mp hid'
        exact (added_subset he').2 (heq ▸ hkept.history e he)
  | @refused tab job deposits nextBlock now w store _ _ _ _ hrecord =>
      refine ⟨fun e he => ?_, hkept.nodup⟩
      have hroom := hfits tab _ deposits w rfl
      have hlen := length_added_le s.store now job.receiver deposits (some job.lane)
      rw [Watcher.afterRefusal]
      rcases (recordScan_none hrecord).2 with ⟨hhistory, -⟩ | ⟨-, -, -, hhistory⟩
      · rw [hhistory]
        exact hkept.history e he
      · rw [hhistory, List.take_of_length_le, List.map_append]
        · exact List.mem_append_right _ (hkept.history e he)
        · rw [List.length_append, List.length_reverse]
          have : s.store.history.length + deposits.length ≤ MAX_HISTORY := hroom
          omega
  | stop => exact ⟨hkept.history, hkept.nodup⟩

/-- An entry of the history that is in the log. -/
def Genuine (log : DepositLog) (e : HistoryEntry) : Prop :=
  ∃ n, ∃ d ∈ log.deposits e.key n, e.amount = d.amount ∧ e.tx = d.tx ∧ e.block = d.block

end

/-! ## Exactly once -/

section
variable {log : DepositLog}

/-- The window has deposits, and the storage takes the history and refuses the cursor. -/
def HalfWritten (t : Transition (Watcher Unit) (WatchEvent Unit)) : Prop :=
  ∃ tab chain deposits w, t.act = .window tab chain deposits w ∧ deposits ≠ [] ∧
    w.history = true ∧ w.cursors = false

/-- The entries of one receiver. -/
def entriesOf (key : Text) (es : List HistoryEntry) : List HistoryEntry :=
  es.filter fun e => decide (e.key = key)

/-- Of every receiver that has a cursor, the deposits from its first cursor up to there were put into
the history and handed on, each once and in order. -/
def Delivers (log : DepositLog) (s : Watcher Unit) : Prop :=
  ∀ key c, s.store.cursors key = some c → ∃ f, s.first key = some f ∧ f ≤ c ∧
    (entriesOf key s.recorded).map (·.id) = depositIds key (between (log.deposits key) f c) ∧
    (entriesOf key s.emitted).map (·.id) = depositIds key (between (log.deposits key) f c)

/-- Without a half written window, the history, its record and what was handed on agree. -/
structure Watcher.Whole (log : DepositLog) (s : Watcher Unit) : Prop where
  history : ∀ e ∈ s.store.history, ∃ e' ∈ s.emitted, e'.id = e.id
  recorded : s.recorded = s.emitted
  delivers : Delivers log s
  unstarted : ∀ key, s.store.cursors key = none → entriesOf key s.emitted = []

theorem entriesOf_append (key : Text) (es es' : List HistoryEntry) :
    entriesOf key (es ++ es') = entriesOf key es ++ entriesOf key es' := List.filter_append ..

theorem entriesOf_all {key : Text} {es : List HistoryEntry} (h : ∀ e ∈ es, e.key = key) :
    entriesOf key es = es :=
  List.filter_eq_self.mpr fun e he => decide_eq_true (h e he)

theorem entriesOf_none {key key' : Text} {es : List HistoryEntry} (h : ∀ e ∈ es, e.key = key)
    (hne : key ≠ key') : entriesOf key' es = [] :=
  List.filter_eq_nil_iff.mpr fun e he heq => hne ((h e he).symm.trans (of_decide_eq_true heq))

/-- Where the history holds only what was handed on, a window is new as a whole. -/
theorem added_all {s : Watcher Unit} {job : Job} {now start stop : Nat} {deposits : List Deposit}
    (hwhole : s.Whole log) (hemitted : s.Emitted log)
    (hdeposits : deposits = between (log.deposits job.receiver.key) start stop)
    (hstart : ∀ c, s.store.cursors job.receiver.key = some c → c ≤ start) :
    (s.store.added now job.receiver deposits (some job.lane)).map (·.id)
      = depositIds job.receiver.key deposits := by
  rw [added_ids]
  refine List.filter_eq_self.mpr fun id hid => decide_eq_true fun hseen => ?_
  obtain ⟨e, he, rfl⟩ := List.mem_map.mp hseen
  obtain ⟨e', he', heq⟩ := hwhole.history e he
  exact (hemitted.passed e' he').not_mem hstart (hdeposits ▸ heq ▸ hid)

/-- What was handed on before a job's cursor, whether that cursor is stored or not. -/
theorem Watcher.Whole.upTo {s : Watcher Unit} (h : s.Whole log) {key : Text} {cursor : Nat}
    (hcursor : ∀ c, s.store.cursors key = some c → cursor = c)
    (hfirst : s.store.cursors key = none → s.first key = some cursor) :
    ∃ f, s.first key = some f ∧ f ≤ cursor ∧
      (entriesOf key s.emitted).map (·.id)
        = depositIds key (between (log.deposits key) f cursor) := by
  cases hstored : s.store.cursors key with
  | none =>
      refine ⟨cursor, hfirst hstored, le_refl _, ?_⟩
      rw [h.unstarted key hstored, between_self]
      rfl
  | some c =>
      obtain rfl := hcursor c hstored
      obtain ⟨f, hf, hfle, -, hbefore⟩ := h.delivers key _ hstored
      exact ⟨f, hf, hfle, hbefore⟩

/-- **A window that is not half written keeps the rest whole.** -/
theorem WatchStep.whole {s s' : Watcher Unit} {e : WatchEvent Unit} (h : WatchStep log s e s')
    (hgood : ¬ HalfWritten ⟨s, e, s'⟩) (hjobs : s.Jobs) (hemitted : s.Emitted log)
    (hwhole : s.Whole log) : s'.Whole log := by
  cases h with
  | resume => exact ⟨hwhole.history, hwhole.recorded, hwhole.delivers, hwhole.unstarted⟩
  | @first tab lane r head taken _ _ hnone =>
      have hempty := hwhole.unstarted r.key hnone
      have hrecorded : entriesOf r.key s.recorded = [] := by rw [hwhole.recorded, hempty]
      have hother : ∀ key, key ≠ r.key →
          (s.store.setCursor r (r.startBlock.getD head) taken).cursors key = s.store.cursors key := by
        intro key hkey
        cases taken with
        | false => rfl
        | true => exact Function.update_of_ne hkey ..
      refine ⟨?_, hwhole.recorded, fun key c hc => ?_, fun key hc => ?_⟩
      · cases taken <;> exact hwhole.history
      · by_cases hkey : key = r.key
        · obtain rfl := hkey
          cases taken with
          | false => cases hnone.symm.trans hc
          | true =>
              obtain rfl := Option.some.inj ((Function.update_self r.key _ s.store.cursors).symm.trans hc)
              refine ⟨_, Function.update_self .., le_refl _, ?_, ?_⟩
              · rw [between_self]
                exact congrArg _ hrecorded
              · rw [between_self]
                exact congrArg _ hempty
        · obtain ⟨f, hf, hdelivered⟩ := hwhole.delivers key c ((hother key hkey).symm.trans hc)
          exact ⟨f, (Function.update_of_ne hkey ..).trans hf, hdelivered⟩
      · by_cases hkey : key = r.key
        · rw [hkey]
          exact hempty
        · exact hwhole.unstarted key ((hother key hkey).symm.trans hc)
  | @recorded tab job deposits nextBlock now w store added hjob _ hscan _ hrecord =>
      obtain ⟨rfl, hstore, hhistory⟩ := recordScan_some hrecord
      obtain ⟨hle, hdeposits⟩ := hscan.window
      obtain ⟨hcursor, hfirst⟩ := hjobs.cursor _ _ _ hjob
      have hlisted := (hjobs.listed _ _ _ hjob).2
      have hkeys : ∀ e ∈ s.store.added now job.receiver deposits (some job.lane),
          e.key = job.receiver.key := fun e he => key_of_mem_added hlisted he
      have hall := (@added_all _ _ _ now _ _ _ hwhole hemitted hdeposits
        fun c hc => (hcursor c hc).ge).trans (congrArg _ hdeposits)
      refine ⟨fun e he => ?_, ?_, fun key c hc => ?_, fun key hc => ?_⟩
      · have hmem : e ∈ (s.store.added now job.receiver deposits (some job.lane)).reverse
            ++ s.store.history := by
          rcases hhistory with hhistory | ⟨-, hhistory⟩
          · exact List.mem_of_mem_take (hhistory ▸ he)
          · exact List.mem_append_right _ (hhistory ▸ he)
        rcases List.mem_append.mp hmem with he | he
        · exact ⟨e, List.mem_append_right _ (List.mem_reverse.mp he), rfl⟩
        · obtain ⟨e', he', heq⟩ := hwhole.history e he
          exact ⟨e', List.mem_append_left _ he', heq⟩
      · rw [Watcher.afterWindow, hwhole.recorded]
      · rw [Watcher.afterWindow, hwhole.recorded]
        dsimp only
        rw [entriesOf_append, List.map_append]
        by_cases hkey : key = job.receiver.key
        · obtain rfl := hkey
          obtain ⟨f, hf, hfle, hbefore⟩ := hwhole.upTo hcursor hfirst
          have hc' : store.cursors job.receiver.key = some c := hc
          rw [hstore, Function.update_self] at hc'
          obtain rfl := Option.some.inj hc'
          refine ⟨f, hf, hfle.trans hle, ?_, ?_⟩ <;>
          · rw [entriesOf_all hkeys, hbefore, hall, depositIds_between hfle hle]
        · have hc' : store.cursors key = some c := hc
          rw [hstore, Function.update_of_ne hkey] at hc'
          obtain ⟨f, hf, hfle, -, hbefore⟩ := hwhole.delivers key c hc'
          refine ⟨f, hf, hfle, ?_, ?_⟩ <;>
          · rw [entriesOf_none hkeys (Ne.symm hkey), hbefore, List.map_nil, List.append_nil]
      · have hc' : store.cursors key = none := hc
        rw [hstore] at hc'
        have hkey : key ≠ job.receiver.key := by
          rintro rfl
          rw [Function.update_self] at hc'
          cases hc'
        rw [Function.update_of_ne hkey] at hc'
        rw [Watcher.afterWindow, entriesOf_append, entriesOf_none hkeys (Ne.symm hkey),
          hwhole.unstarted key hc']
        rfl
  | @refused tab job deposits nextBlock now w store hjob _ hscan _ hrecord =>
      obtain ⟨hstore, hhistory⟩ := recordScan_none hrecord
      rcases hhistory with ⟨hhistory, hnothing⟩ | ⟨hnew, htaken, hrefused, -⟩
      · have hput : (if w.history then s.store.added now job.receiver deposits (some job.lane)
            else []) = [] := by
          rcases hnothing with hnothing | hnothing
          · rw [hnothing, ite_self]
          · rw [hnothing]
            rfl
        have hrecorded : s.recorded ++ (if w.history then
            s.store.added now job.receiver deposits (some job.lane) else []) = s.recorded := by
          rw [hput, List.append_nil]
        refine ⟨fun e he => hwhole.history e (hhistory ▸ he), hrecorded.trans hwhole.recorded,
          fun key c hc => ?_, fun key hc => hwhole.unstarted key ((congrFun hstore key).symm.trans hc)⟩
        obtain ⟨f, hf, hfle, hput', hemitted'⟩ :=
          hwhole.delivers key c ((congrFun hstore key).symm.trans hc)
        refine ⟨f, hf, hfle, ?_, hemitted'⟩
        rw [Watcher.afterRefusal, hrecorded]
        exact hput'
      · refine absurd ⟨tab, _, deposits, w, rfl, ?_, htaken, hrefused⟩ hgood
        rintro rfl
        exact hnew rfl
  | stop => exact ⟨hwhole.history, hwhole.recorded, hwhole.delivers, hwhole.unstarted⟩

end

/-! ## One payment -/

namespace WatcherSample

def usdc : Text := "0x833589fCD6eDb6E08f4c7C32D4f71b54bdA02913".toList

def receiver : Receiver where
  chain := "BASE".toList
  address := "0x00000000000000000000000000000000000a11ce".toList
  merchant := none
  startBlock := some 10

/-- A payment of 250 in block 10. -/
def payments : Nat → List Log
  | 10 => [⟨250, "0xfeed".toList, 10⟩]
  | _ => []

theorem paid_block (n : Nat) (l : Log) (hl : l ∈ payments n) : l.blockNumber = n := by
  unfold payments at hl
  split at hl
  · obtain rfl := List.mem_singleton.mp hl
    rfl
  · cases hl

theorem silent_block (n : Nat) (e : StarknetEvent) (h : e ∈ ([] : List StarknetEvent)) :
    e.block_number = n := by
  cases h

theorem unsigned_slot (n : Nat) (s : SignatureInfo) (h : s ∈ ([] : List SignatureInfo)) :
    s.slot = n := by
  cases h

theorem unsigned_distinct (n : Nat) :
    ((between (fun _ => ([] : List SignatureInfo)) 0 n).map (·.signature)).Nodup := by
  rw [show between (fun _ => ([] : List SignatureInfo)) 0 n = []
    from List.flatMap_eq_nil_iff.mpr fun _ _ => rfl]
  exact List.nodup_nil

def chain : OnChain where
  logs := payments
  events _ := []
  signatures _ := []
  transaction _ := ⟨true, [], []⟩
  log_block := paid_block
  event_block := silent_block
  slot_eq := unsigned_slot
  distinct := unsigned_distinct

def rpc : Rpc where
  headBlock _ := some 10
  eth_getLogs _ _ _ fromBlock toBlock := some (between payments fromBlock (toBlock + 1))
  starknet_getEvents _ _ _ _ _ := none
  getSignaturesForAddress _ _ _ := none
  getTransaction _ := none

theorem documented : rpc.Documented chain (fun _ => 10) receiver.chain usdc receiver.address [] where
  logs _ _ _ _ _ _ h := (Option.some.inj h).symm
  events _ from_block to_block _ _ := by
    refine ⟨fun _ => ⟨[], none⟩, ?_, fun _ _ h => by cases h⟩
    rw [show between chain.events from_block (to_block + 1) = []
      from List.flatMap_eq_nil_iff.mpr fun _ _ => rfl]
    exact @Pages.last (fun _ => ⟨[], none⟩) none rfl
  fresh _ h _ := (Option.some.inj h).ge
  grows _ _ _ := le_refl _
  signatures _ _ _ h := by cases h
  transaction _ _ h := by cases h

def depositLog : DepositLog where
  deposits key n := if key = receiver.key then chain.transfers .evm [] usdc n else []
  plain key n d hd := by
    by_cases hkey : key = receiver.key
    · rw [if_pos hkey] at hd
      obtain ⟨l, hl, rfl⟩ := List.mem_map.mp hd
      have hl' : l ∈ payments n := hl
      unfold payments at hl'
      split at hl'
      · obtain rfl := List.mem_singleton.mp hl'
        exact ⟨by decide, by decide⟩
      · cases hl'
    · rw [if_neg hkey] at hd
      cases hd
  one_block key m n d hd d' hd' _ := by
    have hten : ∀ {n d}, d ∈ (if key = receiver.key then chain.transfers .evm [] usdc n else []) →
        n = 10 := by
      intro n d hd
      by_cases hkey : key = receiver.key
      · rw [if_pos hkey] at hd
        obtain ⟨l, hl, -⟩ := List.mem_map.mp hd
        have hl' : l ∈ payments n := hl
        unfold payments at hl'
        split at hl'
        · rfl
        · cases hl'
      · rw [if_neg hkey] at hd
        cases hd
    rw [hten hd, hten hd']

def deposit : Deposit := ⟨"250".toList, "0xfeed".toList, 10, none⟩

theorem logged : chain.transfers .evm [] usdc = depositLog.deposits receiver.key :=
  funext fun n =>
    (show (if receiver.key = receiver.key then chain.transfers .evm [] usdc n else [])
      = chain.transfers .evm [] usdc n from if_pos rfl).symm

theorem scans : Scans depositLog receiver 10 [deposit] 11 :=
  @Scans.returned _ _ _ ⟨fun _ => [], fun _ _ => none⟩ rpc 0 chain (fun _ => 10) ⟨.evm, usdc⟩ [] _ _
    (by decide) (fun h => by cases h) documented logged (by decide +kernel)

def entry : HistoryEntry where
  id := "BASE:0x00000000000000000000000000000000000a11ce:0xfeed:250:0".toList
  chain := "BASE".toList
  address := receiver.address
  laneId := some "lane".toList
  amount := "250".toList
  tx := "0xfeed".toList
  block := 10
  time := 1700000000000

def job : Job := ⟨"lane".toList, receiver, 10, 0⟩

def now : Nat := 1700000000000

/-- The scan has begun, with its first cursor stored. -/
def begun : Watcher Unit :=
  { (Watcher.fresh : Watcher Unit).setJob () receiver.chain (some job) with
    store := (Watcher.fresh : Watcher Unit).store.setCursor receiver 10 true
    first := Function.update (Watcher.fresh : Watcher Unit).first receiver.key (some 10) }

def recordIn (s : Watcher Unit) (w : Writes) : ScanStore × Option (List HistoryEntry) :=
  s.store.recordScan now w receiver [deposit] 11 (some job.lane)

def delivered : Watcher Unit := begun.afterWindow () job 11 (recordIn begun ⟨true, true⟩).1 [entry]

/-- The history was taken and the cursor refused. -/
def half : Watcher Unit :=
  begun.afterRefusal () job (recordIn begun ⟨true, false⟩).1 (begun.store.added now receiver [deposit]
    (some job.lane))

def resumed : Watcher Unit := half.setJob () receiver.chain (some job)

def lost : Watcher Unit := resumed.afterWindow () job 11 (recordIn resumed ⟨true, true⟩).1 []

theorem evaluated : (recordIn begun ⟨true, true⟩).2 = some [entry] ∧
    (recordIn begun ⟨true, false⟩).2 = none ∧ (recordIn resumed ⟨true, true⟩).2 = some [] ∧
    half.store.cursors receiver.key = some 10 ∧ lost.store.cursors receiver.key = some 11 ∧
    lost.first receiver.key = some 10 ∧
    depositIds receiver.key (between (depositLog.deposits receiver.key) 10 11) = [entry.id] := by
  decide +kernel

/-- The first step, with the head at 0, and its cursor taken. -/
theorem begins : WatchStep depositLog .fresh (.start () "lane".toList receiver) begun :=
  @WatchStep.first _ _ _ _ _ _ _ 0 true ⟨by decide, by decide⟩ rfl rfl

def deliveredRun : List (Transition (Watcher Unit) (WatchEvent Unit)) :=
  [⟨.fresh, .start () "lane".toList receiver, begun⟩,
    ⟨begun, .window () receiver.chain [deposit] ⟨true, true⟩, delivered⟩]

theorem delivers : Steps (WatchStep depositLog) .fresh deliveredRun delivered :=
  .step begins (.step (@WatchStep.recorded _ _ _ _ _ job _ _ now _ _ _ rfl (by decide) scans
    (by decide) (Prod.ext rfl evaluated.1)) (.refl _))

end WatcherSample

end Beanie.Browser
