/-
# `Beanie.Lib.Scan` — scans that resume from a checkpoint

A source has records in its blocks.  A scan goes over the blocks from where the
checkpoint says it left off, and the checkpoint is what the next scan starts
from, whatever became of what this one found.

    between            the records of a range of blocks
    watermark          the first block a checkpoint leaves to be scanned
    scanChunks         a scan that sets its checkpoint chunk by chunk
    Tracker            what was scanned, what was returned, what is pending
    Tracker.held_take_iff   when taking a scan in loses nothing
-/
import Mathlib

namespace Beanie

section
variable {ρ : Type} (src : Nat → List ρ)

/-- The records of the blocks from `a` on, before `b`. -/
def between (a b : Nat) : List ρ := (List.range' a (b - a)).flatMap src

variable {src}

theorem mem_between {a b : Nat} {r : ρ} :
    r ∈ between src a b ↔ ∃ n, a ≤ n ∧ n < b ∧ r ∈ src n := by
  rw [between, List.mem_flatMap]
  constructor
  · rintro ⟨n, hn, hr⟩
    rw [List.mem_range'_1] at hn
    exact ⟨n, hn.1, by omega, hr⟩
  · rintro ⟨n, ha, hb, hr⟩
    exact ⟨n, List.mem_range'_1.mpr ⟨ha, by omega⟩, hr⟩

@[simp] theorem between_self (a : Nat) : between src a a = [] := by
  rw [between, Nat.sub_self]
  rfl

theorem between_append {a b c : Nat} (hab : a ≤ b) (hbc : b ≤ c) :
    between src a b ++ between src b c = between src a c := by
  have hsplit : c - a = (b - a) + (c - b) := by omega
  have hstart : b = a + 1 * (b - a) := by omega
  rw [between, between, between, ← List.flatMap_append, hsplit, ← List.range'_append]
  rw [← hstart]

theorem between_mono {a b c : Nat} (h : b ≤ c) : between src a b ⊆ between src a c := by
  intro r hr
  obtain ⟨n, ha, hb, hr⟩ := mem_between.mp hr
  exact mem_between.mpr ⟨n, ha, by omega, hr⟩

end

/-! ## Scans -/

/-- How a scan ended, with what it returned, or what it holds so far. -/
inductive Outcome (ρ : Type)
  | done (found : List ρ)
  | failed
  | running (found : List ρ)

/-- What a scan leaves behind: the checkpoint on disk, and its outcome. -/
structure Scan (ρ : Type) where
  checkpoint : Option Nat
  outcome : Outcome ρ

/-- The first block that a checkpoint leaves to be scanned. -/
def watermark (start : Nat) (checkpoint : Option Nat) : Nat :=
  match checkpoint with
  | some b => b + 1
  | none => start

section
variable {ρ : Type}

/-- The scan that goes over the range in chunks of `width` blocks, setting the checkpoint after each
chunk.  Each attempt at a chunk is answered by success or failure; when the answers run out, it is
still waiting. -/
def scanChunks (src : Nat → List ρ) (width to_block : Nat) :
    List Bool → Option Nat → Nat → List ρ → Scan ρ
  | answers, checkpoint, current_from, found =>
      if to_block < current_from then ⟨checkpoint, .done found⟩
      else
        match answers with
        | [] => ⟨checkpoint, .running found⟩
        | false :: _ => ⟨checkpoint, .failed⟩
        | true :: rest =>
            let current_to := min (current_from + width - 1) to_block
            scanChunks src width to_block rest (some current_to) (current_to + 1)
              (found ++ between src current_from (current_to + 1))

/-- How far a scan gets when it is answered `k` times before anything goes wrong. -/
def reach (width current_from to_block k : Nat) : Nat :=
  max current_from (min (current_from + width * k) (to_block + 1))

/-- The answers before the first failure. -/
def successes (answers : List Bool) : Nat := (answers.takeWhile id).length

/-- What a scan returned or holds. -/
def Outcome.found : Outcome ρ → List ρ
  | done found => found
  | failed => []
  | running found => found

/-- What its caller gets: all or nothing. -/
def Outcome.returned : Outcome ρ → List ρ
  | done found => found
  | _ => []

/-- A scan in closed form: it covers the blocks before `reach`, and unless it failed it has their
records in hand. -/
structure Scan.Covers (s : Scan ρ) (src : Nat → List ρ) (checkpoint : Option Nat)
    (current_from next : Nat) (found : List ρ) : Prop where
  le : current_from ≤ next
  checkpoint : s.checkpoint = if next = current_from then checkpoint else some (next - 1)
  found : s.outcome ≠ .failed → found ++ between src current_from next ⊆ s.outcome.found

theorem scanChunks_covers (src : Nat → List ρ) {width : Nat} (hwidth : 0 < width) (to_block : Nat)
    (answers : List Bool) (checkpoint : Option Nat) (current_from : Nat) (found : List ρ) :
    (scanChunks src width to_block answers checkpoint current_from found).Covers src checkpoint
      current_from (reach width current_from to_block (successes answers)) found := by
  induction answers generalizing checkpoint current_from found with
  | nil =>
      have hreach : reach width current_from to_block (successes []) = current_from := by
        simp only [reach, successes, List.takeWhile_nil, List.length_nil, Nat.mul_zero]
        omega
      rw [hreach]
      unfold scanChunks
      split_ifs with hend <;> exact ⟨le_refl _, by rw [if_pos rfl], fun _ => by simp [Outcome.found]⟩
  | cons answer rest ih =>
      by_cases hend : to_block < current_from
      · have hreach : reach width current_from to_block (successes (answer :: rest))
            = current_from := by
          simp only [reach]
          omega
        rw [hreach]
        unfold scanChunks
        rw [if_pos hend]
        exact ⟨le_refl _, by rw [if_pos rfl], fun _ => by simp [Outcome.found]⟩
      · cases answer with
        | false =>
            have hreach : reach width current_from to_block (successes (false :: rest))
                = current_from := by
              simp only [reach, successes, List.takeWhile_cons, id, Bool.false_eq_true, if_false,
                List.length_nil, Nat.mul_zero]
              omega
            rw [hreach]
            unfold scanChunks
            rw [if_neg hend]
            exact ⟨le_refl _, by rw [if_pos rfl], fun h => absurd rfl h⟩
        | true =>
            unfold scanChunks
            rw [if_neg hend]
            dsimp only
            generalize hto : min (current_from + width - 1) to_block = current_to
            have hge : current_from ≤ current_to := by omega
            obtain ⟨hle, hcp, hfound⟩ := ih (some current_to) (current_to + 1)
              (found ++ between src current_from (current_to + 1))
            have hk : successes (true :: rest) = successes rest + 1 := rfl
            have hreach : reach width current_from to_block (successes (true :: rest))
                = reach width (current_to + 1) to_block (successes rest) := by
              have hmul : width * (successes rest + 1) = width * successes rest + width :=
                Nat.mul_succ _ _
              simp only [reach, hk, hmul]
              omega
            rw [hreach]
            generalize reach width (current_to + 1) to_block (successes rest) = next at *
            have hne : next ≠ current_from := by omega
            refine ⟨by omega, ?_, ?_⟩
            · rw [hcp, if_neg hne]
              split_ifs with heq
              · rw [heq, Nat.add_sub_cancel]
              · rfl
            · intro h
              have hsub := hfound h
              rwa [List.append_assoc, between_append (by omega) hle] at hsub

/-- It fails at the first answer that is a failure, unless it is through by then. -/
theorem scanChunks_failed_iff (src : Nat → List ρ) {width : Nat} (hwidth : 0 < width)
    (to_block : Nat) (answers : List Bool) (checkpoint : Option Nat) (current_from : Nat)
    (found : List ρ) :
    (scanChunks src width to_block answers checkpoint current_from found).outcome = .failed ↔
      answers[successes answers]? = some false ∧
        current_from + width * successes answers ≤ to_block := by
  induction answers generalizing checkpoint current_from found with
  | nil =>
      unfold scanChunks
      split_ifs <;> simp
  | cons answer rest ih =>
      by_cases hend : to_block < current_from
      · unfold scanChunks
        rw [if_pos hend]
        refine ⟨nofun, ?_⟩
        rintro ⟨-, hle⟩
        omega
      · unfold scanChunks
        rw [if_neg hend]
        cases answer with
        | false =>
            refine ⟨fun _ => ⟨rfl, ?_⟩, fun _ => rfl⟩
            have hk : successes (false :: rest) = 0 := rfl
            rw [hk, Nat.mul_zero]
            omega
        | true =>
            have hk : successes (true :: rest) = successes rest + 1 := rfl
            have hmul : width * (successes rest + 1) = width * successes rest + width :=
              Nat.mul_succ _ _
            dsimp only
            rw [ih, hk, List.getElem?_cons_succ, hmul]
            refine and_congr_right fun _ => ?_
            rcases Nat.eq_zero_or_pos (successes rest) with hzero | hpos
            · rw [hzero, Nat.mul_zero]
              omega
            · have hge : width ≤ width * successes rest := Nat.le_mul_of_pos_right _ hpos
              omega

/-- It is done once it has been answered to the end. -/
theorem scanChunks_done_iff (src : Nat → List ρ) {width : Nat} (hwidth : 0 < width)
    (to_block : Nat) (answers : List Bool) (checkpoint : Option Nat) (current_from : Nat)
    (found : List ρ) :
    (∃ all, (scanChunks src width to_block answers checkpoint current_from found).outcome
      = .done all) ↔ to_block < current_from + width * successes answers := by
  induction answers generalizing checkpoint current_from found with
  | nil =>
      have hk : successes [] = 0 := rfl
      unfold scanChunks
      split_ifs with hend
      · exact ⟨fun _ => by omega, fun _ => ⟨_, rfl⟩⟩
      · refine ⟨nofun, ?_⟩
        rw [hk, Nat.mul_zero]
        omega
  | cons answer rest ih =>
      by_cases hend : to_block < current_from
      · unfold scanChunks
        rw [if_pos hend]
        exact ⟨fun _ => by omega, fun _ => ⟨_, rfl⟩⟩
      · unfold scanChunks
        rw [if_neg hend]
        cases answer with
        | false =>
            have hk : successes (false :: rest) = 0 := rfl
            refine ⟨nofun, ?_⟩
            rw [hk, Nat.mul_zero]
            omega
        | true =>
            have hk : successes (true :: rest) = successes rest + 1 := rfl
            have hmul : width * (successes rest + 1) = width * successes rest + width :=
              Nat.mul_succ _ _
            dsimp only
            rw [ih, hk, hmul]
            omega

/-- When it is done, it returns the records of the whole range. -/
theorem scanChunks_done (src : Nat → List ρ) {width : Nat} (hwidth : 0 < width) (to_block : Nat)
    {answers : List Bool} {checkpoint : Option Nat} {current_from : Nat} {found all : List ρ}
    (h : (scanChunks src width to_block answers checkpoint current_from found).outcome
      = .done all) :
    all = found ++ between src current_from (max current_from (to_block + 1)) := by
  induction answers generalizing checkpoint current_from found with
  | nil =>
      unfold scanChunks at h
      split_ifs at h with hend
      cases h
      rw [Nat.max_eq_left (by omega), between_self, List.append_nil]
  | cons answer rest ih =>
      unfold scanChunks at h
      split_ifs at h with hend
      · cases h
        rw [Nat.max_eq_left (by omega), between_self, List.append_nil]
      · cases answer with
        | false => cases h
        | true =>
            rw [ih h, List.append_assoc, between_append (by omega) (by omega)]
            congr 2
            omega

/-- Covering a range moves the watermark to its end. -/
theorem Scan.Covers.watermark {s : Scan ρ} {src : Nat → List ρ} {checkpoint : Option Nat}
    {start next : Nat} {found : List ρ}
    (h : s.Covers src checkpoint (Beanie.watermark start checkpoint) next found) :
    Beanie.watermark start s.checkpoint = next := by
  have hle := h.le
  rw [h.checkpoint]
  split_ifs with heq
  · exact heq.symm
  · simp only [Beanie.watermark] at *
    omega

end

/-! ## What becomes of the records -/

/-- The state that a sequence of scans leaves behind, with what is known of its past: which block
was scanned with which filter, and what has been returned. -/
structure Tracker (φ ρ : Type) where
  checkpoint : Option Nat
  scanned : List (Nat × φ)
  returned : List ρ
  pending : List ρ

namespace Tracker
variable {φ ρ : Type} (src : φ → Nat → List ρ) (start : Nat)

/-- Takes a scan with the filter `f` in. -/
def take (t : Tracker φ ρ) (f : φ) (s : Scan ρ) : Tracker φ ρ where
  checkpoint := s.checkpoint
  scanned := t.scanned ++ (List.range' (watermark start t.checkpoint)
    (watermark start s.checkpoint - watermark start t.checkpoint)).map (·, f)
  returned := t.returned ++ s.outcome.returned
  pending :=
    match s.outcome with
    | .running found => found
    | _ => []

/-- Nothing is lost: what matched in a block that was scanned has been returned, or is about to
be. -/
def Held (t : Tracker φ ρ) : Prop :=
  ∀ n f, (n, f) ∈ t.scanned → ∀ r ∈ src f n, r ∈ t.returned ∨ r ∈ t.pending

variable {src start}

theorem mem_scanned_take {t : Tracker φ ρ} {f g : φ} {s : Scan ρ} {n : Nat} :
    (n, g) ∈ (t.take start f s).scanned ↔
      (n, g) ∈ t.scanned ∨
        (watermark start t.checkpoint ≤ n ∧ n < watermark start s.checkpoint ∧ g = f) := by
  simp only [take, List.mem_append, List.mem_map, Prod.mk.injEq, List.mem_range'_1]
  refine or_congr_right ⟨?_, ?_⟩
  · rintro ⟨m, hm, rfl, rfl⟩
    exact ⟨hm.1, by omega, rfl⟩
  · rintro ⟨hle, hlt, rfl⟩
    exact ⟨n, ⟨hle, by omega⟩, rfl, rfl⟩

/-- The scanned blocks are those from the start on, in order, up to the watermark. -/
def Contiguous (start : Nat) (t : Tracker φ ρ) : Prop :=
  start ≤ watermark start t.checkpoint ∧
    t.scanned.map Prod.fst = List.range' start (watermark start t.checkpoint - start)

theorem contiguous_take {t : Tracker φ ρ} {f : φ} {s : Scan ρ} {blocks : Nat → List ρ}
    {next : Nat} {found : List ρ} (h : t.Contiguous start)
    (hs : s.Covers blocks t.checkpoint (watermark start t.checkpoint) next found) :
    (t.take start f s).Contiguous start := by
  obtain ⟨hle, hmap⟩ := h
  have hnext := hs.watermark
  have hge := hs.le
  refine ⟨by simp only [take]; omega, ?_⟩
  have hsplit : watermark start s.checkpoint - start
      = (watermark start t.checkpoint - start)
        + (watermark start s.checkpoint - watermark start t.checkpoint) := by omega
  have hstart : watermark start t.checkpoint
      = start + 1 * (watermark start t.checkpoint - start) := by omega
  have hfst : ∀ l : List Nat, (l.map (·, f)).map Prod.fst = l := by
    intro l
    rw [List.map_map]
    exact List.map_id _
  simp only [take, List.map_append, hmap, hfst]
  rw [hsplit, ← List.range'_append, ← hstart]

/-- **Taking a scan in.**  Where nothing is lost so far, nothing is lost by a scan iff, in case it
failed, what it had already covered holds nothing that was not returned before. -/
theorem held_take_iff {t : Tracker φ ρ} (f : φ) {s : Scan ρ} {next : Nat}
    (hheld : t.Held src) (hidle : t.pending = [])
    (hs : s.Covers (src f) t.checkpoint (watermark start t.checkpoint) next []) :
    (t.take start f s).Held src ↔
      (s.outcome = .failed →
        ∀ r ∈ between (src f) (watermark start t.checkpoint) next, r ∈ t.returned) := by
  have hnext := hs.watermark
  have hkept : ∀ n g, (n, g) ∈ t.scanned → ∀ r ∈ src g n, r ∈ t.returned := by
    intro n g hn r hr
    have hor := hheld n g hn r hr
    rw [hidle] at hor
    exact hor.resolve_right List.not_mem_nil
  constructor
  · intro h hfailed r hr
    obtain ⟨n, hle, hlt, hr⟩ := mem_between.mp hr
    have hmem : (n, f) ∈ (t.take start f s).scanned :=
      mem_scanned_take.mpr (.inr ⟨hle, by omega, rfl⟩)
    have hor := h n f hmem r hr
    simp only [take, hfailed, Outcome.returned, List.append_nil] at hor
    exact hor.resolve_right List.not_mem_nil
  · intro h n g hn r hr
    cases houtcome : s.outcome with
    | failed =>
        refine .inl ?_
        simp only [take, houtcome, Outcome.returned, List.append_nil]
        rcases mem_scanned_take.mp hn with hold | ⟨hle, hlt, rfl⟩
        · exact hkept n g hold r hr
        · exact h houtcome r (mem_between.mpr ⟨n, hle, by omega, hr⟩)
    | done found =>
        have hfound := hs.found (by rw [houtcome]; nofun)
        rw [houtcome, List.nil_append] at hfound
        refine .inl ?_
        simp only [take, houtcome]
        rcases mem_scanned_take.mp hn with hold | ⟨hle, hlt, rfl⟩
        · exact List.mem_append_left _ (hkept n g hold r hr)
        · exact List.mem_append_right _ (hfound (mem_between.mpr ⟨n, hle, by omega, hr⟩))
    | running found =>
        have hfound := hs.found (by rw [houtcome]; nofun)
        rw [houtcome, List.nil_append] at hfound
        simp only [take, houtcome, Outcome.returned, List.append_nil]
        rcases mem_scanned_take.mp hn with hold | ⟨hle, hlt, rfl⟩
        · exact .inl (hkept n g hold r hr)
        · exact .inr (hfound (mem_between.mpr ⟨n, hle, by omega, hr⟩))

end Tracker

end Beanie
