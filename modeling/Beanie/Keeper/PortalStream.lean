/-
# `Beanie.Keeper.PortalStream` — one scan of the Portal

`stream_logs` turn by turn: the request, what `handle_portal_response` makes of
the response, the lines, the calls of `on_block`, the checkpoint and the window.
A range is covered once (`stream_logs_covers_once`).  Seen from its records it
is `streamLogs` of `EvmIndexer` (`streamLoop_refines`).

Block numbers are naturals here.  No sum of the loop exceeds `to_block` by more
than the larger of the window and the least window (`Covered.sum_le`).
-/
import Beanie.Keeper.EvmIndexer

namespace Beanie.Keeper.PortalStream

/-! ## A response -/

/-- `SqdErrorType` -/
inductive SqdErrorType
  | invalid_request_error
  | rate_limit_error
  | availability_error
  | api_error
  | unknown
deriving DecidableEq

/-- The status, and the text if it can be read to its end. -/
structure PortalResponse where
  status : Nat
  text : Option Text

/-- What `serde_json` makes of a line, and of the body of an error. -/
structure PortalWire where
  block : Text → Option PortalBlock
  error_type : Text → Option SqdErrorType

/-- The errors, which the caller tells apart by their texts. -/
inductive PortalError
  | rate_limit_retryable
  | availability_retryable
  | fatal
deriving DecidableEq

def handlePortalResponse (wire : PortalWire) (resp : PortalResponse) :
    Except PortalError (Option Text) :=
  if resp.status = 204 then .ok none
  else if 200 ≤ resp.status ∧ resp.status < 300 then
    match resp.text with
    | some body => .ok (some body)
    | none => .error .fatal
  else
    match wire.error_type (resp.text.getD []) with
    | some .rate_limit_error => .error .rate_limit_retryable
    | some .availability_error => .error .availability_retryable
    | some .invalid_request_error => .error .fatal
    | _ =>
        if resp.status = 429 ∨ resp.status = 529 then .error .rate_limit_retryable
        else if resp.status = 502 ∨ resp.status = 503 then .error .availability_retryable
        else .error .fatal

def dropReturn (line : Text) : Text := if line.getLast? = some '\r' then line.dropLast else line

/-- `lines()`, those that are not blank. -/
def responseLines (text : Text) : List Text :=
  let pieces := text.splitOn '\n'
  (pieces.dropLast.map dropReturn ++ pieces.getLast?.toList).filter fun line => !isBlank line

/-- The blocks up to the first line that does not decode, and whether there is none. -/
def readBlocks (wire : PortalWire) : List Text → List PortalBlock × Bool
  | [] => ([], true)
  | line :: lines =>
      match wire.block line with
      | none => ([], false)
      | some block => (block :: (readBlocks wire lines).1, (readBlocks wire lines).2)

/-! ## The loop -/

/-- What comes of a request. -/
inductive Attempt
  /-- a timeout, or no connection -/
  | timedOut
  /-- any other error of `send` -/
  | unsent
  /-- with whether the checkpoint could be written then -/
  | responded (resp : PortalResponse) (stored : Bool)

/-- A scan of `from_block ..= to_block`. -/
structure ScanRequest where
  wire : PortalWire
  from_block : Nat
  to_block : Nat
  max_window : Nat
  persist_checkpoint : Bool

/-- The variables of the loop, and what it has done: the calls of `on_block`, the ranges it asked
for, and where each successful batch put the cursor. -/
structure StreamState where
  cursor : Nat
  last_seen : Option Nat
  window : Window
  checkpoint : Option Nat
  calls : List PortalBlock
  requests : List (Nat × Nat)
  cursors : List Nat

inductive Turn
  | again (st : StreamState)
  | finished (st : StreamState)
  | failed (st : StreamState)

inductive Ending
  | finished
  | failed
  | waiting
deriving DecidableEq

section
variable (req : ScanRequest)

def StreamState.ceiling (st : StreamState) : Nat :=
  min (st.cursor + st.window.batch_size - 1) req.to_block

def StreamState.asked (st : StreamState) : StreamState :=
  { st with requests := st.requests ++ [(st.cursor, st.ceiling req)] }

/-- After a batch that was read to its last line. -/
def StreamState.advanced (st : StreamState) (blocks : List PortalBlock) (batch_last : Nat) :
    StreamState :=
  { st with
    cursor := batch_last + 1
    last_seen := some batch_last
    window := (windowPolicy req.max_window).success st.window
    checkpoint := if req.persist_checkpoint then some batch_last else st.checkpoint
    calls := st.calls ++ blocks
    cursors := st.cursors ++ [batch_last + 1] }

/-- The lines of a successful response. -/
def batchTurn (st : StreamState) (lines : List Text) (stored : Bool) : Turn :=
  match readBlocks req.wire lines with
  | (blocks, false) => .failed { st with calls := st.calls ++ blocks }
  | (blocks, true) =>
      match blocks.getLast? with
      | none => .finished st
      | some last =>
          if req.persist_checkpoint ∧ ¬ stored then
            .failed { st with calls := st.calls ++ blocks }
          else if req.to_block ≤ last.number then .finished (st.advanced req blocks last.number)
          else .again (st.advanced req blocks last.number)

/-- One turn of the loop. -/
def streamTurn (st : StreamState) (attempt : Nat → Nat → Attempt) : Turn :=
  let asked := st.asked req
  match attempt st.cursor (st.ceiling req) with
  | .timedOut =>
      .again { asked with window := ⟨max (st.window.batch_size / 2) MIN_BLOCKS_PER_REQUEST, 0⟩ }
  | .unsent => .failed asked
  | .responded resp stored =>
      match handlePortalResponse req.wire resp with
      | .ok none => .finished asked
      | .error .rate_limit_retryable => .again asked
      | .error .availability_retryable => .again asked
      | .error .fatal => .failed asked
      | .ok (some text) => batchTurn req asked (responseLines text) stored

/-- `while cursor <= to_block`.  Without attempts it waits for one. -/
def streamLoop : List (Nat → Nat → Attempt) → StreamState → StreamState × Ending
  | attempts, st =>
      if req.to_block < st.cursor then (st, .finished)
      else
        match attempts with
        | [] => (st, .waiting)
        | attempt :: attempts =>
            match streamTurn req st attempt with
            | .again st => streamLoop attempts st
            | .finished st => (st, .finished)
            | .failed st => (st, .failed)

def StreamState.start (checkpoint : Option Nat) : StreamState :=
  ⟨req.from_block, none, ⟨req.max_window, 0⟩, checkpoint, [], [], []⟩

/-- `stream_logs`, for a range that is not empty. -/
def streamLogs (checkpoint : Option Nat) (attempts : List (Nat → Nat → Attempt)) :
    StreamState × Ending :=
  streamLoop req attempts (.start req checkpoint)

/-- What it returns when it finishes; `readable` is whether the cache can be read then. -/
def StreamState.value (st : StreamState) (readable : Bool) : Option Nat :=
  st.last_seen.or (if req.persist_checkpoint ∧ readable then st.checkpoint else none)

end

/-! ## What the Portal promises -/

/-- A successful answer to a request, read to its last line, is an honest batch. -/
def Honest (wire : PortalWire) (src : Nat → List PortalLog) (attempt : Nat → Nat → Attempt) : Prop :=
  ∀ a b resp stored text first rest, attempt a b = .responded resp stored →
    handlePortalResponse wire resp = .ok (some text) →
      readBlocks wire (responseLines text) = (first :: rest, true) →
        HonestBatch PortalBlock.number PortalBlock.logs src a b first rest

/-- The status says that there are no blocks yet, or the text has no line. -/
def Empty (wire : PortalWire) (attempt : Attempt) : Prop :=
  ∃ resp stored, attempt = .responded resp stored ∧
    (handlePortalResponse wire resp = .ok none ∨
      ∃ text, handlePortalResponse wire resp = .ok (some text) ∧ responseLines text = [])

theorem handlePortalResponse_none_iff {wire : PortalWire} {resp : PortalResponse} :
    handlePortalResponse wire resp = .ok none ↔ resp.status = 204 := by
  unfold handlePortalResponse
  by_cases hstatus : resp.status = 204
  · rw [if_pos hstatus]
    exact iff_of_true rfl hstatus
  · rw [if_neg hstatus]
    refine iff_of_false (fun h => ?_) hstatus
    split_ifs at h
    all_goals split at h
    all_goals cases h

/-- A line that is read is a block. -/
theorem readBlocks_eq_nil {wire : PortalWire} {lines : List Text}
    (h : readBlocks wire lines = ([], true)) : lines = [] := by
  cases lines with
  | nil => rfl
  | cons line lines =>
      rw [readBlocks] at h
      cases hblock : wire.block line with
      | none =>
          rw [hblock] at h
          cases (Prod.mk.inj h).2
      | some block =>
          rw [hblock] at h
          cases (Prod.mk.inj h).1

/-! ## What a scan keeps -/

section
variable {req : ScanRequest} {src : Nat → List PortalLog} {checkpoint : Option Nat}

/-- What holds of the requests and the cursor whatever is answered. -/
structure Bounded (req : ScanRequest) (st : StreamState) : Prop where
  requests : ∀ r ∈ st.requests, req.from_block ≤ r.1 ∧ r.1 ≤ r.2 ∧ r.2 ≤ req.to_block
  cursors : (req.from_block :: st.cursors).Pairwise (· < ·)

/-- The blocks before the cursor were passed to `on_block`, in order, and no other. -/
structure Covered (req : ScanRequest) (src : Nat → List PortalLog) (checkpoint : Option Nat)
    (st : StreamState) : Prop extends Bounded req st where
  ge : req.from_block ≤ st.cursor
  le : st.cursor ≤ req.to_block + 1
  window : 1 ≤ st.window.batch_size
  window_le : st.window.batch_size ≤ max req.max_window MIN_BLOCKS_PER_REQUEST
  behind : ∀ c ∈ req.from_block :: st.cursors, c ≤ st.cursor
  ascending : (st.calls.map PortalBlock.number).Pairwise (· < ·)
  within : ∀ b ∈ st.calls, req.from_block ≤ b.number ∧ b.number < st.cursor
  content : ∀ b ∈ st.calls, b.logs = src b.number
  complete : ∀ n, req.from_block ≤ n → n < st.cursor → src n ≠ [] → ∃ b ∈ st.calls, b.number = n
  last_seen : st.last_seen = if st.cursor = req.from_block then none else some (st.cursor - 1)
  unmoved : st.cursor = req.from_block → st.checkpoint = checkpoint

theorem Covered.sum_le {st : StreamState} (h : Covered req src checkpoint st) :
    st.cursor + st.window.batch_size
      ≤ req.to_block + 1 + max req.max_window MIN_BLOCKS_PER_REQUEST := by
  have hle := h.le
  have hwindow := h.window_le
  omega

theorem covered_start (hle : req.from_block ≤ req.to_block) (hwindow : 1 ≤ req.max_window) :
    Covered req src checkpoint (.start req checkpoint) where
  requests := by
    intro r hr
    cases hr
  cursors := List.pairwise_singleton _ _
  ge := Nat.le_refl _
  le := Nat.le_succ_of_le hle
  window := hwindow
  window_le := Nat.le_max_left _ _
  behind := by
    intro c hc
    rw [List.mem_singleton.mp hc]
    exact Nat.le_refl _
  ascending := List.Pairwise.nil
  within := by
    intro b hb
    cases hb
  content := by
    intro b hb
    cases hb
  complete := by
    intro n hge hlt
    exact absurd hlt (Nat.not_lt.mpr hge)
  last_seen := (if_pos rfl).symm
  unmoved := fun _ => rfl

/-- What is asked for lies in the range. -/
theorem Covered.asked {st : StreamState} (h : Covered req src checkpoint st)
    (hcursor : st.cursor ≤ req.to_block) : Covered req src checkpoint (st.asked req) where
  requests := by
    intro r hr
    have hge := h.ge
    have hwindow := h.window
    rcases List.mem_append.mp hr with hr | hr
    · exact h.requests r hr
    · rw [List.mem_singleton.mp hr]
      refine ⟨hge, Nat.le_min.mpr ⟨by omega, hcursor⟩, Nat.min_le_right _ _⟩
  cursors := h.cursors
  ge := h.ge
  le := h.le
  window := h.window
  window_le := h.window_le
  behind := h.behind
  ascending := h.ascending
  within := h.within
  content := h.content
  complete := h.complete
  last_seen := h.last_seen
  unmoved := h.unmoved

/-- A window within bounds stays so. -/
theorem success_bounds {w : Window} (hsize : 1 ≤ w.batch_size)
    (hle : w.batch_size ≤ max req.max_window MIN_BLOCKS_PER_REQUEST) :
    1 ≤ ((windowPolicy req.max_window).success w).batch_size ∧
      ((windowPolicy req.max_window).success w).batch_size
        ≤ max req.max_window MIN_BLOCKS_PER_REQUEST := by
  have hmax := Nat.le_max_left req.max_window MIN_BLOCKS_PER_REQUEST
  simp only [windowPolicy]
  split_ifs with hsmall hgrow
  · dsimp only
    omega
  · exact ⟨hsize, hle⟩
  · exact ⟨hsize, hle⟩

theorem Covered.timedOut {st : StreamState} (h : Covered req src checkpoint st) :
    Covered req src checkpoint
      { st with window := ⟨max (st.window.batch_size / 2) MIN_BLOCKS_PER_REQUEST, 0⟩ } :=
  { h with
    window := by
      have hmin : 1 ≤ MIN_BLOCKS_PER_REQUEST := by decide
      exact Nat.le_trans hmin (Nat.le_max_right _ _)
    window_le := by
      have hle := h.window_le
      refine Nat.max_le.mpr ⟨?_, Nat.le_max_right _ _⟩
      omega }

/-- **A batch moves the cursor** past its last block, and what it passes over it has called. -/
theorem Covered.advanced {st : StreamState} (h : Covered req src checkpoint st)
    {first : PortalBlock} {rest : List PortalBlock}
    (hbatch : HonestBatch PortalBlock.number PortalBlock.logs src st.cursor (st.ceiling req) first
      rest) :
    Covered req src checkpoint
      (st.advanced req (first :: rest) (batchLast first rest).number) := by
  have hlast := hbatch.within _ (batchLast_mem first rest)
  have hceiling : st.ceiling req ≤ req.to_block := Nat.min_le_right _ _
  have hbelow := number_le_last hbatch.ascending
  have hge := h.ge
  have hmoved : st.cursor < (batchLast first rest).number + 1 := by omega
  obtain ⟨hsize, hsize_le⟩ := success_bounds h.window h.window_le
  refine ⟨⟨h.requests, ?_⟩, ?_, ?_, hsize, hsize_le, ?_, ?_, ?_, ?_, ?_, ?_, ?_⟩
  · show (req.from_block :: (st.cursors ++ [_])).Pairwise (· < ·)
    rw [← List.cons_append, List.pairwise_append]
    refine ⟨h.cursors, List.pairwise_singleton _ _, ?_⟩
    intro c hc d hd
    rw [List.mem_singleton.mp hd]
    exact Nat.lt_of_le_of_lt (h.behind c hc) hmoved
  · show req.from_block ≤ (batchLast first rest).number + 1
    omega
  · show (batchLast first rest).number + 1 ≤ req.to_block + 1
    omega
  · show ∀ c ∈ req.from_block :: (st.cursors ++ [_]), c ≤ (batchLast first rest).number + 1
    rw [← List.cons_append]
    intro c hc
    rcases List.mem_append.mp hc with hc | hc
    · have := h.behind c hc
      omega
    · exact Nat.le_of_eq (List.mem_singleton.mp hc)
  · show ((st.calls ++ first :: rest).map PortalBlock.number).Pairwise (· < ·)
    rw [List.map_append, List.pairwise_append]
    refine ⟨h.ascending, hbatch.ascending, ?_⟩
    intro m hm n hn
    obtain ⟨b, hb, rfl⟩ := List.mem_map.mp hm
    obtain ⟨c, hc, rfl⟩ := List.mem_map.mp hn
    have hbefore := (h.within b hb).2
    have hafter := (hbatch.within c hc).1
    omega
  · intro b hb
    show req.from_block ≤ b.number ∧ b.number < (batchLast first rest).number + 1
    rcases List.mem_append.mp hb with hb | hb
    · have := h.within b hb
      omega
    · have := hbatch.within b hb
      have := hbelow b hb
      omega
  · intro b hb
    rcases List.mem_append.mp hb with hb | hb
    · exact h.content b hb
    · exact hbatch.content b hb
  · intro n hn hlt hne
    by_cases hold : n < st.cursor
    · obtain ⟨b, hb, heq⟩ := h.complete n hn hold hne
      exact ⟨b, List.mem_append_left _ hb, heq⟩
    · obtain ⟨b, hb, heq⟩ := hbatch.complete n (Nat.le_of_not_lt hold) (Nat.le_of_lt_succ hlt) hne
      exact ⟨b, List.mem_append_right _ hb, heq⟩
  · show some (batchLast first rest).number = _
    have hne : (batchLast first rest).number + 1 ≠ req.from_block := by omega
    exact (if_neg hne).symm
  · intro heq
    have hne : (batchLast first rest).number + 1 ≠ req.from_block := by omega
    exact absurd heq hne

/-! ## A turn and a run -/

/-- What a turn leaves, where `empty` says that the answer held nothing. -/
def Turn.Keeps (req : ScanRequest) (src : Nat → List PortalLog) (checkpoint : Option Nat)
    (empty : Prop) : Turn → Prop
  | .again st => Covered req src checkpoint st
  | .finished st => Covered req src checkpoint st ∧ (req.to_block < st.cursor ∨ empty)
  | .failed st => Bounded req st

theorem batchTurn_keeps {st : StreamState} (h : Covered req src checkpoint st) {lines : List Text}
    {stored : Bool} {empty : Prop} (hempty : lines = [] → empty)
    (hhonest : ∀ first rest, readBlocks req.wire lines = (first :: rest, true) →
      HonestBatch PortalBlock.number PortalBlock.logs src st.cursor (st.ceiling req) first rest) :
    (batchTurn req st lines stored).Keeps req src checkpoint empty := by
  unfold batchTurn
  cases hread : readBlocks req.wire lines with
  | mk blocks whole =>
      have hbounded : Bounded req { st with calls := st.calls ++ blocks } :=
        ⟨h.requests, h.cursors⟩
      cases whole with
      | false => exact hbounded
      | true =>
          cases blocks with
          | nil => exact ⟨h, .inr (hempty (readBlocks_eq_nil hread))⟩
          | cons first rest =>
              have hadvanced := h.advanced (hhonest first rest hread)
              dsimp only
              rw [List.getLast?_eq_some_getLast (List.cons_ne_nil first rest)]
              dsimp only
              split_ifs with hstored hreached
              · exact hbounded
              · exact ⟨hadvanced, .inl (Nat.lt_succ_of_le hreached)⟩
              · exact hadvanced

theorem streamTurn_keeps {st : StreamState} (h : Covered req src checkpoint st)
    (hcursor : st.cursor ≤ req.to_block) {attempt : Nat → Nat → Attempt}
    (hhonest : Honest req.wire src attempt) :
    (streamTurn req st attempt).Keeps req src checkpoint
      (Empty req.wire (attempt st.cursor (st.ceiling req))) := by
  have hasked := h.asked hcursor
  unfold streamTurn
  cases hattempt : attempt st.cursor (st.ceiling req) with
  | timedOut => exact hasked.timedOut
  | unsent => exact hasked.toBounded
  | responded resp stored =>
      dsimp only
      cases hresponse : handlePortalResponse req.wire resp with
      | error e =>
          cases e with
          | rate_limit_retryable => exact hasked
          | availability_retryable => exact hasked
          | fatal => exact hasked.toBounded
      | ok body =>
          cases body with
          | none => exact ⟨hasked, .inr ⟨resp, stored, rfl, .inl hresponse⟩⟩
          | some text =>
              apply batchTurn_keeps hasked
              · intro hlines
                exact ⟨resp, stored, rfl, .inr ⟨text, hresponse, hlines⟩⟩
              · intro first rest hread
                exact hhonest _ _ resp stored text first rest hattempt hresponse hread

/-- Some answer was empty, and nothing was asked after it. -/
def EndedEmpty (req : ScanRequest) (attempts : List (Nat → Nat → Attempt)) (st : StreamState) : Prop :=
  ∃ before attempt after st', attempts = before ++ attempt :: after ∧
    streamLoop req before st = (st', .waiting) ∧
      Empty req.wire (attempt st'.cursor (st'.ceiling req))

/-- The run, by induction on the attempts. -/
theorem streamLoop_covered {attempts : List (Nat → Nat → Attempt)} {st : StreamState}
    (h : Covered req src checkpoint st) (hhonest : ∀ a ∈ attempts, Honest req.wire src a) :
    Bounded req (streamLoop req attempts st).1 ∧
      ((streamLoop req attempts st).2 ≠ .failed →
        Covered req src checkpoint (streamLoop req attempts st).1) ∧
      ((streamLoop req attempts st).2 = .finished →
        req.to_block < (streamLoop req attempts st).1.cursor ∨ EndedEmpty req attempts st) := by
  induction attempts generalizing st with
  | nil =>
      unfold streamLoop
      by_cases hend : req.to_block < st.cursor
      · rw [if_pos hend]
        exact ⟨h.toBounded, fun _ => h, fun _ => .inl hend⟩
      · rw [if_neg hend]
        exact ⟨h.toBounded, fun _ => h, fun hfinished => by cases hfinished⟩
  | cons attempt attempts ih =>
      have hrest : ∀ a ∈ attempts, Honest req.wire src a := fun a ha =>
        hhonest a (List.mem_cons_of_mem _ ha)
      by_cases hend : req.to_block < st.cursor
      · rw [streamLoop, if_pos hend]
        exact ⟨h.toBounded, fun _ => h, fun _ => .inl hend⟩
      have hkeeps := streamTurn_keeps h (Nat.le_of_not_lt hend) (hhonest attempt List.mem_cons_self)
      cases hturn : streamTurn req st attempt with
      | again st' =>
          rw [hturn] at hkeeps
          obtain ⟨hbounded, hcovered, hfinished⟩ := ih hkeeps hrest
          have hstep : ∀ as, streamLoop req (attempt :: as) st = streamLoop req as st' := by
            intro as
            rw [streamLoop, if_neg hend, hturn]
          rw [hstep]
          refine ⟨hbounded, hcovered, fun h => ?_⟩
          rcases hfinished h with hreached | ⟨before, a, after, st'', hsplit, hrun, hempty⟩
          · exact .inl hreached
          · refine .inr ⟨attempt :: before, a, after, st'', ?_, ?_, hempty⟩
            · rw [hsplit, List.cons_append]
            · rw [hstep, hrun]
      | finished st' =>
          rw [hturn] at hkeeps
          have hstep : streamLoop req (attempt :: attempts) st = (st', .finished) := by
            rw [streamLoop, if_neg hend, hturn]
          rw [hstep]
          refine ⟨hkeeps.1.toBounded, fun _ => hkeeps.1, fun _ => ?_⟩
          rcases hkeeps.2 with hreached | hempty
          · exact .inl hreached
          · refine .inr ⟨[], attempt, attempts, st, rfl, ?_, hempty⟩
            rw [streamLoop, if_neg hend]
      | failed st' =>
          rw [hturn] at hkeeps
          have hstep : streamLoop req (attempt :: attempts) st = (st', .failed) := by
            rw [streamLoop, if_neg hend, hturn]
          rw [hstep]
          exact ⟨hkeeps, fun hne => absurd rfl hne, fun hfinished => by cases hfinished⟩

/-- What a scan returns, if a checkpoint before the range is all that was stored. -/
theorem Covered.value_iff {st : StreamState} (h : Covered req src checkpoint st)
    (hstored : ∀ c, checkpoint = some c → c < req.from_block) {readable : Bool} {v : Nat}
    (hv : st.value req readable = some v) :
    st.cursor = v + 1 ∨ (st.cursor = req.from_block ∧ v < req.from_block) := by
  rw [StreamState.value, h.last_seen] at hv
  by_cases hstart : st.cursor = req.from_block
  · rw [if_pos hstart, Option.none_or] at hv
    split_ifs at hv
    · right
      rw [h.unmoved hstart] at hv
      exact ⟨hstart, hstored v hv⟩
  · rw [if_neg hstart, Option.some_or] at hv
    have hge := h.ge
    have hlast := Option.some.inj hv
    left
    omega

end

/-- **The range is covered once.**  Whatever the Portal answers, every request lies in the range and
every successful batch moves the cursor; and when the scan returns a block, `on_block` has been
called for the blocks up to it in order, and once for each that matches.  It returns less than
`to_block` only if an answer was empty. -/
theorem stream_logs_covers_once (req : ScanRequest) (src : Nat → List PortalLog)
    (checkpoint : Option Nat) (readable : Bool) (attempts : List (Nat → Nat → Attempt))
    (hle : req.from_block ≤ req.to_block) (hwindow : 1 ≤ req.max_window)
    (hstored : ∀ c, checkpoint = some c → c < req.from_block)
    (hhonest : ∀ a ∈ attempts, Honest req.wire src a) :
    let st := (streamLogs req checkpoint attempts).1
    (∀ r ∈ st.requests, req.from_block ≤ r.1 ∧ r.1 ≤ r.2 ∧ r.2 ≤ req.to_block) ∧
      (req.from_block :: st.cursors).Pairwise (· < ·) ∧
      ((streamLogs req checkpoint attempts).2 = .finished →
        (∀ v, st.value req readable = some v →
          (st.calls.map PortalBlock.number).Pairwise (· < ·) ∧
            (∀ b ∈ st.calls, req.from_block ≤ b.number ∧ b.number ≤ v ∧ b.logs = src b.number) ∧
            (∀ n, req.from_block ≤ n → n ≤ v → src n ≠ [] →
              (st.calls.map PortalBlock.number).count n = 1)) ∧
        ((∀ v, st.value req readable = some v → v < req.to_block) →
          EndedEmpty req attempts (.start req checkpoint))) := by
  intro st
  obtain ⟨hbounded, hcovered, hfinished⟩ :=
    streamLoop_covered (@covered_start _ _ checkpoint hle hwindow) hhonest
  refine ⟨hbounded.requests, hbounded.cursors, fun hdone => ?_⟩
  have hcovered : Covered req src checkpoint st := by
    apply hcovered
    intro hfailed
    have hboth := hdone.symm.trans hfailed
    cases hboth
  refine ⟨fun v hv => ⟨hcovered.ascending, ?_, ?_⟩, fun hbelow => ?_⟩
  · intro b hb
    have hwithin := hcovered.within b hb
    rcases hcovered.value_iff hstored hv with hcursor | ⟨hstart, -⟩
    · exact ⟨hwithin.1, by omega, hcovered.content b hb⟩
    · omega
  · intro n hge hlt hne
    rcases hcovered.value_iff hstored hv with hcursor | ⟨hstart, hbefore⟩
    · obtain ⟨b, hb, rfl⟩ := hcovered.complete n hge (by omega) hne
      exact List.count_eq_one_of_mem (hcovered.ascending.imp Nat.ne_of_lt) (List.mem_map_of_mem hb)
    · omega
  · rcases hfinished hdone with hreached | hempty
    · exfalso
      have hreached : req.to_block < st.cursor := hreached
      have hle' := hcovered.le
      have hmoved : st.cursor ≠ req.from_block := by omega
      have hvalue : st.value req readable = some (st.cursor - 1) := by
        rw [StreamState.value, hcovered.last_seen, if_neg hmoved, Option.some_or]
      have := hbelow _ hvalue
      omega
    · exact hempty

namespace Sample

def log : PortalLog := ⟨[], ["0xa1".toList], [], []⟩

def chain (n : Nat) : List PortalLog := if n = 5 then [log] else []

def wire : PortalWire where
  block line :=
    if line = "five".toList then some ⟨5, [log]⟩
    else if line = "eight".toList then some ⟨8, []⟩
    else none
  error_type _ := none

def scan : ScanRequest := ⟨wire, 5, 9, 2, true⟩

/-- A timeout, a rate limit, the blocks up to 8, and nothing more yet. -/
def attempts : List (Nat → Nat → Attempt) :=
  [fun _ _ => .timedOut,
    fun _ _ => .responded ⟨429, some []⟩ true,
    fun a b =>
      if a = 5 ∧ b = 9 then .responded ⟨200, some "five\neight\n".toList⟩ true else .unsent,
    fun _ _ => .responded ⟨204, none⟩ true]

theorem batch : HonestBatch PortalBlock.number PortalBlock.logs chain 5 9 ⟨5, [log]⟩ [⟨8, []⟩] where
  ascending := by decide
  within := by decide
  content := by decide
  complete := by
    intro n _ _ hne
    have hfive : n = 5 := by
      by_contra hn
      exact hne (by rw [chain, if_neg hn])
    exact ⟨⟨5, [log]⟩, List.mem_cons_self, hfive.symm⟩

theorem honest : ∀ a ∈ attempts, Honest wire chain a := by
  intro attempt hattempt a b resp stored text first rest hanswer hresponse hread
  simp only [attempts, List.mem_cons, List.not_mem_nil, or_false] at hattempt
  rcases hattempt with rfl | rfl | rfl | rfl
  · cases hanswer
  · cases hanswer
    cases hresponse
  · dsimp only at hanswer
    split_ifs at hanswer with hasked
    · obtain ⟨rfl, rfl⟩ := hasked
      cases hanswer
      cases hresponse
      have hblocks : readBlocks wire (responseLines "five\neight\n".toList)
          = ([⟨5, [log]⟩, ⟨8, []⟩], true) := rfl
      rw [hblocks] at hread
      cases hread
      exact batch
  · cases hanswer
    cases hresponse

end Sample

open Sample in
theorem stream_logs_covers_once_sample :
    (streamLogs scan (some 3) attempts).1.value scan true = some 8 ∧
      ((streamLogs scan (some 3) attempts).1.calls.map PortalBlock.number).count 5 = 1 ∧
      EndedEmpty scan attempts (.start scan (some 3)) := by
  have hstored : ∀ c, some 3 = some c → c < scan.from_block := by
    intro c hc
    cases hc
    decide
  have hvalue : (streamLogs scan (some 3) attempts).1.value scan true = some 8 := by decide +kernel
  have hfinished : (streamLogs scan (some 3) attempts).2 = .finished := by decide +kernel
  obtain ⟨-, -, hdone⟩ := stream_logs_covers_once scan chain (some 3) true attempts (by decide)
    (by decide) hstored honest
  obtain ⟨hcalled, hempty⟩ := hdone hfinished
  refine ⟨hvalue, (hcalled 8 hvalue).2.2 5 (by decide) (by decide) (by decide), hempty ?_⟩
  intro v hv
  rw [hvalue] at hv
  cases hv
  decide

/-! ## Records -/

/-- An attempt as an answer. -/
def answerOf (req : ScanRequest) (attempt : Nat → Nat → Attempt) : Portal PortalBlock := fun a b =>
  match attempt a b with
  | .timedOut => .timeout
  | .unsent => .failure
  | .responded resp stored =>
      match handlePortalResponse req.wire resp with
      | .ok none => .nothing
      | .error .rate_limit_retryable => .retryable
      | .error .availability_retryable => .retryable
      | .error .fatal => .failure
      | .ok (some text) =>
          match readBlocks req.wire (responseLines text) with
          | (_, false) => .failure
          | ([], true) => .nothing
          | (first :: rest, true) =>
              if req.persist_checkpoint ∧ ¬ stored then .failure else .blocks first rest

/-- A scan, as far as its records go. -/
def streamed {ρ : Type} (decode : PortalBlock → List ρ) (run : StreamState × Ending) : Streamed ρ where
  checkpoint := run.1.checkpoint
  cursor := run.1.cursor
  last_seen := run.1.last_seen
  outcome :=
    match run.2 with
    | .finished => .done (run.1.calls.flatMap decode)
    | .failed => .failed
    | .waiting => .running (run.1.calls.flatMap decode)

section
variable {req : ScanRequest} {checkpoint : Option Nat} {ρ : Type} {decode : PortalBlock → List ρ}

/-- The scan that `st` has yet to do. -/
def remaining (req : ScanRequest) (decode : PortalBlock → List ρ)
    (attempts : List (Nat → Nat → Attempt)) (st : StreamState) : Streamed ρ :=
  stream (windowPolicy req.max_window) PortalBlock.number decode req.persist_checkpoint req.to_block
    (attempts.map (answerOf req)) st.window st.checkpoint st.cursor st.last_seen
    (st.calls.flatMap decode)

/-- Past the range nothing is left to do. -/
theorem remaining_past {attempts : List (Nat → Nat → Attempt)} {st : StreamState}
    (h : req.to_block < st.cursor) :
    remaining req decode attempts st = streamed decode (st, .finished) := by
  unfold remaining stream
  rw [if_pos h]
  rfl

theorem streamLoop_refines (attempts : List (Nat → Nat → Attempt)) (st : StreamState) :
    remaining req decode attempts st = streamed decode (streamLoop req attempts st) := by
  induction attempts generalizing st with
  | nil =>
      unfold streamLoop
      by_cases hend : req.to_block < st.cursor
      · rw [if_pos hend, remaining_past hend]
      · rw [if_neg hend]
        unfold remaining stream
        rw [if_neg hend]
        rfl
  | cons attempt attempts ih =>
      by_cases hend : req.to_block < st.cursor
      · rw [streamLoop, if_pos hend, remaining_past hend]
      have hanswer : answerOf req attempt st.cursor
          (min (st.cursor + (windowPolicy req.max_window).size st.window - 1) req.to_block)
            = answerOf req attempt st.cursor (st.ceiling req) := rfl
      rw [streamLoop, if_neg hend, streamTurn]
      unfold remaining stream
      rw [if_neg hend, List.map_cons]
      dsimp only
      rw [hanswer, answerOf]
      cases attempt st.cursor (st.ceiling req) with
      | timedOut =>
          exact ih { st.asked req with
            window := ⟨max (st.window.batch_size / 2) MIN_BLOCKS_PER_REQUEST, 0⟩ }
      | unsent => rfl
      | responded resp stored =>
          dsimp only
          cases handlePortalResponse req.wire resp with
          | error e =>
              cases e with
              | rate_limit_retryable => exact ih (st.asked req)
              | availability_retryable => exact ih (st.asked req)
              | fatal => rfl
          | ok body =>
              cases body with
              | none => rfl
              | some text =>
                  dsimp only
                  rw [batchTurn]
                  cases readBlocks req.wire (responseLines text) with
                  | mk blocks whole =>
                      cases whole with
                      | false => rfl
                      | true =>
                          cases blocks with
                          | nil => rfl
                          | cons first rest =>
                              dsimp only
                              rw [List.getLast?_eq_some_getLast (List.cons_ne_nil first rest)]
                              dsimp only
                              by_cases hstored : req.persist_checkpoint = true ∧ ¬ stored = true
                              · rw [if_pos hstored, if_pos hstored]
                                rfl
                              rw [if_neg hstored, if_neg hstored, ← batchLast]
                              have hnext := ih ((st.asked req).advanced req (first :: rest)
                                (batchLast first rest).number)
                              have hcalls : ((st.asked req).advanced req (first :: rest)
                                  (batchLast first rest).number).calls.flatMap decode
                                = st.calls.flatMap decode ++ (first :: rest).flatMap decode :=
                                List.flatMap_append
                              rw [remaining, hcalls] at hnext
                              refine hnext.trans ?_
                              by_cases hreached : req.to_block ≤ (batchLast first rest).number
                              · have hpast : req.to_block < ((st.asked req).advanced req
                                    (first :: rest) (batchLast first rest).number).cursor :=
                                  Nat.lt_succ_of_le hreached
                                rw [← ih, remaining_past hpast, if_pos hreached]
                              · rw [if_neg hreached]

/-- **Its records are those of `streamLogs`.** -/
theorem streamLogs_refines (on_log : Nat → PortalLog → Option ρ) (attempts : List (Nat → Nat → Attempt)) :
    Keeper.streamLogs on_log req.max_window req.persist_checkpoint checkpoint req.from_block
        req.to_block (attempts.map (answerOf req))
      = streamed (fun block => block.logs.filterMap (on_log block.number))
          (streamLogs req checkpoint attempts) :=
  streamLoop_refines attempts (.start req checkpoint)

end

end Beanie.Keeper.PortalStream
