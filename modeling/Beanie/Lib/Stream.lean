/-
# `Beanie.Lib.Stream` — scans of a portal that answers in batches

A portal is asked for a window of blocks, and answers with some of them in
order.  The last one says how far the answer goes; a block before it that is
not mentioned holds nothing.  The scan asks again from there, until it has the
whole range, or the portal has no more.

    Portal.Honest     what a portal may answer
    stream            the scan
    stream_covers     the records it has found are those of the range it covers
    failsAt           how far the portal answers before it fails
    stream_short      a scan that stops short was told to
-/
import Beanie.Lib.Scan

namespace Beanie

/-- One response. -/
inductive Answer (β : Type)
  /-- the request timed out, or never got through -/
  | timeout
  /-- the portal asks to be asked again -/
  | retryable
  /-- any other error, a line that does not decode and a checkpoint that cannot be written included -/
  | failure
  /-- no blocks yet -/
  | nothing
  | blocks (first : β) (rest : List β)

/-- How one request, for the blocks from `cursor` to `ceiling`, is answered. -/
abbrev Portal (β : Type) := Nat → Nat → Answer β

/-- The last block of a batch. -/
def batchLast {β : Type} (first : β) (rest : List β) : β := (first :: rest).getLast (List.cons_ne_nil _ _)

/-- Blocks of the window, in order, that leave out nothing up to the last of them. -/
structure HonestBatch {β l : Type} (number : β → Nat) (logs : β → List l) (src : Nat → List l)
    (cursor ceiling : Nat) (first : β) (rest : List β) : Prop where
  ascending : ((first :: rest).map number).Pairwise (· < ·)
  within : ∀ b ∈ first :: rest, cursor ≤ number b ∧ number b ≤ ceiling
  content : ∀ b ∈ first :: rest, logs b = src (number b)
  complete : ∀ n, cursor ≤ n → n ≤ number (batchLast first rest) → src n ≠ [] →
    ∃ b ∈ first :: rest, number b = n

/-- A portal that answers with blocks answers with those of the source. -/
def Portal.Honest {β l : Type} (number : β → Nat) (logs : β → List l) (src : Nat → List l)
    (p : Portal β) : Prop :=
  ∀ cursor ceiling first rest, p cursor ceiling = .blocks first rest →
    HonestBatch number logs src cursor ceiling first rest

section
variable {β l ρ : Type} {number : β → Nat} {logs : β → List l} {src : Nat → List l}

theorem number_le_last {first : β} {rest : List β}
    (h : ((first :: rest).map number).Pairwise (· < ·)) :
    ∀ b ∈ first :: rest, number b ≤ number (batchLast first rest) := by
  induction rest generalizing first with
  | nil =>
      intro b hb
      obtain rfl := List.mem_singleton.mp hb
      exact le_refl _
  | cons second rest ih =>
      intro b hb
      rw [List.map_cons, List.pairwise_cons] at h
      have hlast : batchLast first (second :: rest) = batchLast second rest :=
        List.getLast_cons (List.cons_ne_nil _ _)
      rw [hlast]
      rcases List.mem_cons.mp hb with rfl | hb
      · have hsecond := h.1 (number second) (List.mem_map_of_mem List.mem_cons_self)
        have := ih h.2 second List.mem_cons_self
        omega
      · exact ih h.2 b hb

theorem batchLast_mem (first : β) (rest : List β) : batchLast first rest ∈ first :: rest :=
  List.getLast_mem _

/-- Blocks in order that leave out nothing hold, one after the other, what the range holds. -/
theorem flatMap_eq_between (f : Nat → List ρ) {blocks : List β} {cursor next : Nat}
    (hascending : (blocks.map number).Pairwise (· < ·))
    (hwithin : ∀ b ∈ blocks, cursor ≤ number b ∧ number b < next)
    (hcomplete : ∀ n, cursor ≤ n → n < next → f n ≠ [] → ∃ b ∈ blocks, number b = n)
    (hle : cursor ≤ next) :
    blocks.flatMap (fun b => f (number b)) = between f cursor next := by
  induction blocks generalizing cursor with
  | nil =>
      have hnone : ∀ n ∈ List.range' cursor (next - cursor), f n = [] := by
        intro n hn
        rw [List.mem_range'_1] at hn
        by_contra hne
        obtain ⟨b, hb, -⟩ := hcomplete n hn.1 (by omega) hne
        cases hb
      exact (List.flatMap_eq_nil_iff.mpr hnone).symm
  | cons b blocks ih =>
      rw [List.map_cons, List.pairwise_cons] at hascending
      obtain ⟨hge, hlt⟩ := hwithin b List.mem_cons_self
      have hskipped : between f cursor (number b) = [] := by
        refine List.flatMap_eq_nil_iff.mpr ?_
        intro n hn
        rw [List.mem_range'_1] at hn
        by_contra hne
        obtain ⟨c, hc, rfl⟩ := hcomplete n hn.1 (by omega) hne
        rcases List.mem_cons.mp hc with rfl | hc
        · omega
        · have := hascending.1 _ (List.mem_map_of_mem hc)
          omega
      have hone : between f (number b) (number b + 1) = f (number b) := by
        rw [between, Nat.add_sub_cancel_left]
        exact List.append_nil _
      have hrest := @ih (number b + 1) hascending.2 ?_ ?_ (by omega)
      · rw [List.flatMap_cons, hrest, ← between_append (b := number b) hge (by omega), hskipped,
          ← between_append (b := number b + 1) (Nat.le_succ _) (by omega), hone]
        rfl
      · intro c hc
        have := hascending.1 _ (List.mem_map_of_mem hc)
        exact ⟨by omega, (hwithin c (List.mem_cons_of_mem _ hc)).2⟩
      · intro n hn hlt' hne
        obtain ⟨c, hc, rfl⟩ := hcomplete n (by omega) hlt' hne
        rcases List.mem_cons.mp hc with rfl | hc
        · omega
        · exact ⟨c, hc, rfl⟩

/-- What an honest batch decodes to. -/
theorem HonestBatch.decode {cursor ceiling : Nat} {first : β} {rest : List β}
    (h : HonestBatch number logs src cursor ceiling first rest) (f : Nat → l → Option ρ) :
    (first :: rest).flatMap (fun b => (logs b).filterMap (f (number b)))
      = between (fun n => (src n).filterMap (f n)) cursor (number (batchLast first rest) + 1) := by
  have hlast := (h.within _ (batchLast_mem first rest)).1
  rw [← @flatMap_eq_between _ _ number (fun n => (src n).filterMap (f n)) _ _ _ h.ascending ?_ ?_
    (by omega)]
  · refine List.flatMap_congr ?_
    intro b hb
    rw [h.content b hb]
  · intro b hb
    have := number_le_last h.ascending b hb
    exact ⟨(h.within b hb).1, by omega⟩
  · intro n hge hlt hne
    refine h.complete n hge (by omega) ?_
    intro hnil
    rw [hnil] at hne
    exact hne rfl

end

/-! ## The scan -/

/-- How large a window is asked for: what a timeout does to it, if anything, and what a success
does. -/
structure Policy (W : Type) where
  size : W → Nat
  timeout : W → Option W
  success : W → W

/-- What a scan leaves behind: the checkpoint on disk, where it would ask next, the last block it
was told about, and its outcome. -/
structure Streamed (ρ : Type) where
  checkpoint : Option Nat
  cursor : Nat
  last_seen : Option Nat
  outcome : Outcome ρ

section
variable {β l ρ W : Type} (P : Policy W) (number : β → Nat)

/-- The scan.  With `persist` the checkpoint follows every batch; when the responses run out, the
scan is still waiting for one. -/
def stream (decode : β → List ρ) (persist : Bool) (to_block : Nat) :
    List (Portal β) → W → Option Nat → Nat → Option Nat → List ρ → Streamed ρ
  | responses, w, checkpoint, cursor, last_seen, found =>
      if to_block < cursor then ⟨checkpoint, cursor, last_seen, .done found⟩
      else
        match responses with
        | [] => ⟨checkpoint, cursor, last_seen, .running found⟩
        | response :: rest =>
            match response cursor (min (cursor + P.size w - 1) to_block) with
            | .timeout =>
                match P.timeout w with
                | some w => stream decode persist to_block rest w checkpoint cursor last_seen found
                | none => ⟨checkpoint, cursor, last_seen, .failed⟩
            | .retryable => stream decode persist to_block rest w checkpoint cursor last_seen found
            | .failure => ⟨checkpoint, cursor, last_seen, .failed⟩
            | .nothing => ⟨checkpoint, cursor, last_seen, .done found⟩
            | .blocks first more =>
                let batch_last := number (batchLast first more)
                stream decode persist to_block rest (P.success w)
                  (if persist then some batch_last else checkpoint) (batch_last + 1)
                  (some batch_last) (found ++ (first :: more).flatMap decode)

/-- How far the portal answers before it fails, if it does. -/
def failsAt (to_block : Nat) : List (Portal β) → W → Nat → Option Nat
  | responses, w, cursor =>
      if to_block < cursor then none
      else
        match responses with
        | [] => none
        | response :: rest =>
            match response cursor (min (cursor + P.size w - 1) to_block) with
            | .timeout =>
                match P.timeout w with
                | some w => failsAt to_block rest w cursor
                | none => some cursor
            | .retryable => failsAt to_block rest w cursor
            | .failure => some cursor
            | .nothing => none
            | .blocks first more =>
                failsAt to_block rest (P.success w) (number (batchLast first more) + 1)

/-- A scan in closed form: it covers the blocks up to where it would ask next, and unless it failed
it has found their records. -/
structure Streamed.Covers (s : Streamed ρ) (src : Nat → List ρ) (persist : Bool)
    (checkpoint : Option Nat) (cursor to_block : Nat) (last_seen : Option Nat) (found : List ρ) :
    Prop where
  le : cursor ≤ s.cursor
  bound : s.cursor ≤ max cursor (to_block + 1)
  checkpoint : s.checkpoint
    = if persist = true ∧ s.cursor ≠ cursor then some (s.cursor - 1) else checkpoint
  last_seen : s.last_seen = if s.cursor = cursor then last_seen else some (s.cursor - 1)
  found : s.outcome ≠ .failed → s.outcome.found = found ++ between src cursor s.cursor

variable {P number}

/-- Where a scan stops short, nothing has changed. -/
theorem Streamed.covers_here {src : Nat → List ρ} {persist : Bool} {checkpoint : Option Nat}
    {cursor to_block : Nat} {last_seen : Option Nat} {found : List ρ} {outcome : Outcome ρ}
    (h : outcome ≠ .failed → outcome.found = found) :
    (⟨checkpoint, cursor, last_seen, outcome⟩ : Streamed ρ).Covers src persist checkpoint cursor
      to_block last_seen found where
  le := le_refl _
  bound := le_max_left _ _
  checkpoint := by rw [if_neg (fun hne => hne.2 rfl)]
  last_seen := by rw [if_pos rfl]
  found hne := by rw [h hne, between_self, List.append_nil]

/-- A scan that saw nothing asks next where it began. -/
theorem Streamed.Covers.cursor_of_unseen {s : Streamed ρ} {src : Nat → List ρ} {persist : Bool}
    {checkpoint : Option Nat} {cursor to_block : Nat} {found : List ρ}
    (h : s.Covers src persist checkpoint cursor to_block none found) (hlast : s.last_seen = none) :
    s.cursor = cursor := by
  have hseen := h.last_seen
  by_contra hmoved
  rw [hlast, if_neg hmoved] at hseen
  cases hseen

/-- Otherwise it asks next behind the last block that it saw. -/
theorem Streamed.Covers.cursor_of_seen {s : Streamed ρ} {src : Nat → List ρ} {persist : Bool}
    {checkpoint : Option Nat} {cursor to_block last : Nat} {found : List ρ}
    (h : s.Covers src persist checkpoint cursor to_block none found)
    (hlast : s.last_seen = some last) : cursor ≤ last ∧ s.cursor = last + 1 := by
  have hseen := h.last_seen
  have hle := h.le
  have hmoved : s.cursor ≠ cursor := by
    intro hsame
    rw [hlast, if_pos hsame] at hseen
    cases hseen
  rw [hlast, if_neg hmoved] at hseen
  have := Option.some.inj hseen
  omega

/-- **What a scan has found.** -/
theorem stream_covers {logs : β → List l} {src : Nat → List l} (f : Nat → l → Option ρ)
    (persist : Bool) (to_block : Nat) {responses : List (Portal β)}
    (hhonest : ∀ p ∈ responses, p.Honest number logs src) (w : W) (checkpoint : Option Nat)
    (cursor : Nat) (last_seen : Option Nat) (found : List ρ) :
    (stream P number (fun b => (logs b).filterMap (f (number b))) persist to_block responses w
        checkpoint cursor last_seen found).Covers (fun n => (src n).filterMap (f n)) persist
      checkpoint cursor to_block last_seen found := by
  induction responses generalizing w checkpoint cursor last_seen found with
  | nil =>
      unfold stream
      by_cases hend : to_block < cursor
      · rw [if_pos hend]
        exact Streamed.covers_here fun _ => rfl
      · rw [if_neg hend]
        exact Streamed.covers_here fun _ => rfl
  | cons response rest ih =>
      have hrest : ∀ p ∈ rest, p.Honest number logs src := fun p hp =>
        hhonest p (List.mem_cons_of_mem _ hp)
      unfold stream
      by_cases hend : to_block < cursor
      · rw [if_pos hend]
        exact Streamed.covers_here fun _ => rfl
      rw [if_neg hend]
      dsimp only
      cases hanswer : response cursor (min (cursor + P.size w - 1) to_block) with
      | timeout =>
          cases htimeout : P.timeout w with
          | none => exact Streamed.covers_here fun h => absurd rfl h
          | some w' => exact ih hrest w' checkpoint cursor last_seen found
      | retryable => exact ih hrest w checkpoint cursor last_seen found
      | failure => exact Streamed.covers_here fun h => absurd rfl h
      | nothing => exact Streamed.covers_here fun _ => rfl
      | blocks first more =>
          have hbatch := hhonest response List.mem_cons_self _ _ _ _ hanswer
          obtain ⟨hge, hceiling⟩ := hbatch.within _ (batchLast_mem first more)
          have hdecode := hbatch.decode f
          dsimp only
          generalize number (batchLast first more) = batch_last at *
          obtain ⟨hle, hbound, hcheckpoint, hseen, hfound⟩ := ih hrest (P.success w)
            (if persist then some batch_last else checkpoint) (batch_last + 1) (some batch_last)
            (found ++ (first :: more).flatMap fun b => (logs b).filterMap (f (number b)))
          generalize stream P number (fun b => (logs b).filterMap (f (number b))) persist to_block
            rest (P.success w) (if persist then some batch_last else checkpoint) (batch_last + 1)
            (some batch_last)
            (found ++ (first :: more).flatMap fun b => (logs b).filterMap (f (number b))) = s at *
          have hne : s.cursor ≠ cursor := by omega
          refine ⟨by omega, by omega, ?_, ?_, ?_⟩
          · rw [hcheckpoint]
            cases persist with
            | false => rfl
            | true =>
                have hmoved : true = true ∧ s.cursor ≠ cursor := ⟨rfl, hne⟩
                rw [if_pos hmoved]
                by_cases hsame : s.cursor = batch_last + 1
                · rw [if_neg (fun h => h.2 hsame), hsame, Nat.add_sub_cancel]
                  rfl
                · rw [if_pos ⟨rfl, hsame⟩]
          · rw [hseen, if_neg hne]
            split_ifs with hsame
            · rw [hsame, Nat.add_sub_cancel]
            · rfl
          · intro hfailed
            rw [hfound hfailed, hdecode, List.append_assoc,
              between_append (by omega) hle]

/-- A scan fails where the portal does. -/
theorem stream_failed_iff (decode : β → List ρ) (persist : Bool) (to_block : Nat)
    (responses : List (Portal β)) (w : W) (checkpoint : Option Nat) (cursor : Nat)
    (last_seen : Option Nat) (found : List ρ) {next : Nat} :
    failsAt P number to_block responses w cursor = some next ↔
      (stream P number decode persist to_block responses w checkpoint cursor last_seen
          found).outcome = .failed ∧
        (stream P number decode persist to_block responses w checkpoint cursor last_seen
          found).cursor = next := by
  induction responses generalizing w checkpoint cursor last_seen found with
  | nil =>
      unfold stream failsAt
      by_cases hend : to_block < cursor
      · rw [if_pos hend, if_pos hend]
        exact ⟨nofun, fun h => nomatch h.1⟩
      · rw [if_neg hend, if_neg hend]
        exact ⟨nofun, fun h => nomatch h.1⟩
  | cons response rest ih =>
      unfold stream failsAt
      by_cases hend : to_block < cursor
      · rw [if_pos hend, if_pos hend]
        exact ⟨nofun, fun h => nomatch h.1⟩
      rw [if_neg hend, if_neg hend]
      dsimp only
      cases response cursor (min (cursor + P.size w - 1) to_block) with
      | timeout =>
          cases P.timeout w with
          | none => exact ⟨fun h => ⟨rfl, Option.some.inj h⟩, fun h => congrArg some h.2⟩
          | some w' => exact ih ..
      | retryable => exact ih ..
      | failure => exact ⟨fun h => ⟨rfl, Option.some.inj h⟩, fun h => congrArg some h.2⟩
      | nothing => exact ⟨nofun, fun h => nomatch h.1⟩
      | blocks first more => exact ih ..

/-- A scan that returns short of its range was told that there is no more. -/
theorem stream_short (decode : β → List ρ) (persist : Bool) (to_block : Nat)
    (responses : List (Portal β)) (w : W) (checkpoint : Option Nat) (cursor : Nat)
    (last_seen : Option Nat) (found : List ρ) {found' : List ρ}
    (hdone : (stream P number decode persist to_block responses w checkpoint cursor last_seen
      found).outcome = .done found')
    (hshort : (stream P number decode persist to_block responses w checkpoint cursor last_seen
      found).cursor ≤ to_block) :
    ∃ p ∈ responses, ∃ ceiling, p (stream P number decode persist to_block responses w checkpoint
      cursor last_seen found).cursor ceiling = .nothing := by
  induction responses generalizing w checkpoint cursor last_seen found with
  | nil =>
      unfold stream at hdone hshort ⊢
      split_ifs at hdone hshort with hend
      exact absurd hend (Nat.not_lt.mpr hshort)
  | cons response rest ih =>
      have hrest : ∀ {n}, (∃ p ∈ rest, ∃ ceiling, p n ceiling = .nothing) →
          ∃ p ∈ response :: rest, ∃ ceiling, p n ceiling = .nothing := by
        rintro n ⟨p, hp, h⟩
        exact ⟨p, List.mem_cons_of_mem _ hp, h⟩
      unfold stream at hdone hshort ⊢
      by_cases hend : to_block < cursor
      · rw [if_pos hend] at hshort
        exact absurd hend (Nat.not_lt.mpr hshort)
      rw [if_neg hend] at hdone hshort ⊢
      dsimp only at hdone hshort ⊢
      cases hanswer : response cursor (min (cursor + P.size w - 1) to_block) with
      | timeout =>
          rw [hanswer] at hdone hshort
          cases htimeout : P.timeout w with
          | none =>
              rw [htimeout] at hdone
              cases hdone
          | some w' =>
              rw [htimeout] at hdone hshort
              exact hrest (ih _ _ _ _ _ hdone hshort)
      | retryable =>
          rw [hanswer] at hdone hshort
          exact hrest (ih _ _ _ _ _ hdone hshort)
      | failure =>
          rw [hanswer] at hdone
          cases hdone
      | nothing => exact ⟨response, List.mem_cons_self, _, hanswer⟩
      | blocks first more =>
          rw [hanswer] at hdone hshort
          exact hrest (ih _ _ _ _ _ hdone hshort)

end

end Beanie
