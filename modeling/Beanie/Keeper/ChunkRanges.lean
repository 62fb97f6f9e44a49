/-
# `Beanie.Keeper.ChunkRanges` — the chunks of a scan

`chunk_ranges` is an iterator over 64-bit integers; `chunkRanges` is what it
yields, in numbers.  The chunks tile the range.  Their boundaries are counted
from the first block, so a later head moves the end of the last chunk and no
other, and the key of a chunk that was settled stays what it was.
-/
import Beanie.Keeper.EvmRegistry
import Beanie.Lib.Tiles

namespace Beanie.Keeper

/-! ## The iterator -/

/-- What the closure of `from_fn` has captured. -/
structure ChunkIter where
  cursor : BitVec 64
  to_block : BitVec 64
  step : BitVec 64

namespace ChunkIter

def start (from_block to_block step : BitVec 64) : ChunkIter :=
  ⟨from_block, to_block, if step < 1 then 1 else step⟩

/-- The closure: a pair, and what is captured then. -/
def next (it : ChunkIter) : Option ((BitVec 64 × BitVec 64) × ChunkIter) :=
  if it.to_block < it.cursor then none
  else
    let chunk_end := it.cursor + it.step - 1
    let chunk_end := if chunk_end < it.to_block then chunk_end else it.to_block
    some ((it.cursor, chunk_end), { it with cursor := chunk_end + 1 })

/-- The pairs up to `None`, where no sum of the closure overflows. -/
inductive Yields : ChunkIter → List (BitVec 64 × BitVec 64) → Prop
  | done {it : ChunkIter} : it.next = none → Yields it []
  | more {it it' : ChunkIter} {c : BitVec 64 × BitVec 64} {cs : List (BitVec 64 × BitVec 64)} :
      it.next = some (c, it') → it.cursor.toNat + it.step.toNat < 2 ^ 64 →
        c.2.toNat + 1 < 2 ^ 64 → Yields it' cs → Yields it (c :: cs)

end ChunkIter

def chunkNats (cs : List (BitVec 64 × BitVec 64)) : List (Nat × Nat) :=
  cs.map fun c => (c.1.toNat, c.2.toNat)

theorem chunkNats_inj {cs cs' : List (BitVec 64 × BitVec 64)} (h : chunkNats cs = chunkNats cs') :
    cs = cs' := by
  refine List.map_injective_iff.mpr ?_ h
  intro c d heq
  exact Prod.ext (BitVec.eq_of_toNat_eq (Prod.mk.inj heq).1) (BitVec.eq_of_toNat_eq (Prod.mk.inj heq).2)

namespace ChunkIter

theorem start_step (from_block to_block step : BitVec 64) :
    (start from_block to_block step).step.toNat = max step.toNat 1 := by
  show (if step < 1 then 1 else step).toNat = _
  have hone : (1 : BitVec 64).toNat = 1 := rfl
  by_cases h : step < 1
  · rw [if_pos h, hone]
    rw [BitVec.lt_def, hone] at h
    omega
  · rw [if_neg h]
    rw [BitVec.lt_def, hone] at h
    omega

/-- One call of the closure, in numbers. -/
theorem next_eq {it : ChunkIter} (hstep : 0 < it.step.toNat)
    (hfits : it.to_block.toNat + it.step.toNat < 2 ^ 64) (hle : it.cursor.toNat ≤ it.to_block.toNat) :
    ∃ c it', it.next = some (c, it') ∧ c.1 = it.cursor ∧
      c.2.toNat = min (it.cursor.toNat + it.step.toNat - 1) it.to_block.toNat ∧
      it'.cursor.toNat = c.2.toNat + 1 ∧ it'.to_block = it.to_block ∧ it'.step = it.step := by
  have hone : (1 : BitVec 64).toNat = 1 := rfl
  have hend : (it.cursor + it.step - 1).toNat = it.cursor.toNat + it.step.toNat - 1 := by
    rw [BitVec.toNat_sub, BitVec.toNat_add, hone]
    omega
  have hlast : (if it.cursor + it.step - 1 < it.to_block then it.cursor + it.step - 1
      else it.to_block).toNat = min (it.cursor.toNat + it.step.toNat - 1) it.to_block.toNat := by
    by_cases hlt : it.cursor + it.step - 1 < it.to_block
    · rw [if_pos hlt, hend]
      rw [BitVec.lt_def, hend] at hlt
      omega
    · rw [if_neg hlt]
      rw [BitVec.lt_def, hend] at hlt
      omega
  refine ⟨_, _, if_neg (by rw [BitVec.lt_def]; omega), rfl, hlast, ?_, rfl, rfl⟩
  show (_ + 1 : BitVec 64).toNat = _
  rw [BitVec.toNat_add, hone, hlast]
  omega

/-- The iterator yields the chunks, and none of its sums overflows. -/
theorem yields_chunkRanges {it : ChunkIter} (hstep : 0 < it.step.toNat)
    (hfits : it.to_block.toNat + it.step.toNat < 2 ^ 64) :
    ∃ cs, it.Yields cs ∧
      chunkNats cs = chunkRanges it.cursor.toNat it.to_block.toNat it.step.toNat := by
  induction hleft : it.to_block.toNat + 1 - it.cursor.toNat using Nat.strongRecOn generalizing it with
  | ind n ih =>
      subst hleft
      by_cases hdone : it.to_block.toNat < it.cursor.toNat
      · refine ⟨[], .done (if_pos hdone), ?_⟩
        rw [chunkRanges, if_pos hdone]
        rfl
      · have hle : it.cursor.toNat ≤ it.to_block.toNat := by omega
        obtain ⟨c, it', hnext, hfirst, hlast, hcursor, hto, hkept⟩ := next_eq hstep hfits hle
        obtain ⟨cs, hyields, hnats⟩ := ih (it'.to_block.toNat + 1 - it'.cursor.toNat)
          (by rw [hto]; omega) (by rw [hkept]; exact hstep) (by rw [hto, hkept]; exact hfits) rfl
        refine ⟨c :: cs, .more hnext (by omega) (by omega) hyields, ?_⟩
        rw [chunkRanges, if_neg hdone, show max it.step.toNat 1 = it.step.toNat by omega]
        dsimp only
        rw [← hlast, ← hcursor, ← hto, ← hkept, ← hnats, ← hfirst]
        rfl

theorem Yields.unique {it : ChunkIter} {cs cs' : List (BitVec 64 × BitVec 64)} (h : it.Yields cs)
    (h' : it.Yields cs') : cs = cs' := by
  induction h generalizing cs' with
  | done hnone =>
      cases h' with
      | done => rfl
      | more hnext => rw [hnone] at hnext; cases hnext
  | more hnext _ _ _ ih =>
      cases h' with
      | done hnone => rw [hnone] at hnext; cases hnext
      | more hnext' _ _ htail =>
          rw [hnext] at hnext'
          obtain ⟨rfl, rfl⟩ := Prod.mk.inj (Option.some.inj hnext')
          rw [ih htail]

end ChunkIter

/-! ## The chunks -/

/-- The chunks are counted off from the first block. -/
theorem mem_chunkRanges {first to_block step : Nat} {c : Nat × Nat} :
    c ∈ chunkRanges first to_block step ↔
      ∃ k, c.1 = first + k * max step 1 ∧ c.1 ≤ to_block ∧ c.2 = min (c.1 + max step 1 - 1) to_block := by
  have hwidth : 0 < max step 1 := by omega
  induction first using chunkRanges.induct to_block step with
  | case1 first hdone =>
      rw [chunkRanges, if_pos hdone]
      constructor
      · exact fun h => absurd h List.not_mem_nil
      · rintro ⟨k, hfirst, hle, -⟩
        omega
  | case2 first hmore chunk_end ih =>
      have hend : chunk_end = min (first + max step 1 - 1) to_block := rfl
      have hrest : c ∈ chunkRanges (chunk_end + 1) to_block step ↔ _ := ih
      rw [chunkRanges, if_neg hmore]
      dsimp only
      rw [List.mem_cons, hrest, ← hend]
      generalize max step 1 = width at hend hwidth ⊢
      constructor
      · rintro (rfl | ⟨k, hfirst, hle, hlast⟩)
        · exact ⟨0, by omega, by omega, hend⟩
        · refine ⟨k + 1, ?_, hle, hlast⟩
          rw [Nat.succ_mul]
          omega
      · rintro ⟨k, hfirst, hle, hlast⟩
        cases k with
        | zero =>
            left
            have hsame : c.1 = first := by omega
            exact Prod.ext hsame (by rw [hlast, hend, hsame])
        | succ k =>
            right
            rw [Nat.succ_mul] at hfirst
            exact ⟨k, by omega, hle, hlast⟩

theorem chunkRanges_tiles (first to_block step : Nat) :
    Tiles (max step 1) first (max first (to_block + 1)) (chunkRanges first to_block step) := by
  induction first using chunkRanges.induct to_block step with
  | case1 first hdone =>
      have hstop : max first (to_block + 1) = first := by omega
      rw [chunkRanges, if_pos hdone, hstop]
      exact .nil first
  | case2 first hmore chunk_end ih =>
      have hend : chunk_end = min (first + max step 1 - 1) to_block := rfl
      rw [chunkRanges, if_neg hmore]
      dsimp only
      rw [← hend]
      have hstop : max first (to_block + 1) = max (chunk_end + 1) (to_block + 1) := by omega
      rw [hstop]
      exact .cons (by omega) (by omega) ih

/-- A later head keeps the chunks of full length. -/
theorem chunkRanges_stable {first to_block to_block' step : Nat} (hle : to_block ≤ to_block')
    {c : Nat × Nat} (hc : c ∈ chunkRanges first to_block step)
    (hfull : c.2 - c.1 + 1 = max step 1) : c ∈ chunkRanges first to_block' step := by
  obtain ⟨k, hfirst, hbound, hlast⟩ := mem_chunkRanges.mp hc
  refine mem_chunkRanges.mpr ⟨k, hfirst, by omega, ?_⟩
  omega

/-- The chunks of `first..=to_block`: contiguous, disjoint, in order, not too long, and nothing else
in them. -/
structure ChunksOf (first to_block width : Nat) (cs : List (Nat × Nat)) : Prop where
  contiguous : cs.IsChain fun c d => d.1 = c.2 + 1
  ordered : cs.Pairwise fun c d => c.2 < d.1
  width : ∀ c ∈ cs, c.1 ≤ c.2 ∧ c.2 - c.1 + 1 ≤ width
  covers : ∀ n, (∃ c ∈ cs, c.1 ≤ n ∧ n ≤ c.2) ↔ first ≤ n ∧ n ≤ to_block
  empty : to_block < first → cs = []

theorem chunksOf_chunkRanges (first to_block step : Nat) :
    ChunksOf first to_block (max step 1) (chunkRanges first to_block step) where
  contiguous := (chunkRanges_tiles first to_block step).contiguous
  ordered := (chunkRanges_tiles first to_block step).ordered
  width c hc := by
    obtain ⟨-, hle, hwidth, -⟩ := (chunkRanges_tiles first to_block step).bounds hc
    exact ⟨hle, by omega⟩
  covers n := by
    rw [(chunkRanges_tiles first to_block step).covers]
    omega
  empty h := by rw [chunkRanges, if_pos h]

/-- **The chunks partition the range, and stay where they are.**  The iterator of `from..=to` yields
them with no sum overflowing; a full chunk is a chunk for every later head, and a settled one is
looked for under the key it was stored under. -/
theorem chunk_ranges_partition :
    (∀ from_block to_block step : BitVec 64, to_block.toNat + max step.toNat 1 < 2 ^ 64 →
      ∃ cs, (ChunkIter.start from_block to_block step).Yields cs ∧
        (∀ cs', (ChunkIter.start from_block to_block step).Yields cs' → cs' = cs) ∧
        ChunksOf from_block.toNat to_block.toNat (max step.toNat 1) (chunkNats cs) ∧
        ∀ to_block' : BitVec 64, to_block ≤ to_block' →
          ∀ cs', (ChunkIter.start from_block to_block' step).Yields cs' →
            to_block'.toNat + max step.toNat 1 < 2 ^ 64 →
              ∀ c ∈ cs, c.2.toNat - c.1.toNat + 1 = max step.toNat 1 → c ∈ cs') ∧
    ∀ (cfg : EvmConfig) (to_block to_block' : Nat), to_block ≤ to_block' →
      ∀ c ∈ chunkRanges cfg.start to_block REGISTRY_CHUNK_BLOCKS, Settled to_block c.1 c.2 →
        c ∈ chunkRanges cfg.start to_block' REGISTRY_CHUNK_BLOCKS ∧ Settled to_block' c.1 c.2 ∧
          ∀ (cache : LogCache) (chunk : RegistryChunk),
            cachedChunk cfg to_block' (cache.putChunk
              (chunkKey (registryChunksScanId cfg) c.1 c.2) chunk) true c.1 c.2 = some chunk := by
  have hyields : ∀ from_block to_block step : BitVec 64,
      to_block.toNat + max step.toNat 1 < 2 ^ 64 →
        ∃ cs, (ChunkIter.start from_block to_block step).Yields cs ∧
          chunkNats cs = chunkRanges from_block.toNat to_block.toNat (max step.toNat 1) := by
    intro from_block to_block step hfits
    have hstep := ChunkIter.start_step from_block to_block step
    have hcs := @ChunkIter.yields_chunkRanges (.start from_block to_block step)
      (by omega) (by rw [hstep]; exact hfits)
    rw [hstep] at hcs
    exact hcs
  have hwidth : ∀ n : Nat, max (max n 1) 1 = max n 1 := by omega
  refine ⟨?_, ?_⟩
  · intro from_block to_block step hfits
    obtain ⟨cs, hcs, hnats⟩ := hyields from_block to_block step hfits
    have hchunks := chunksOf_chunkRanges from_block.toNat to_block.toNat (max step.toNat 1)
    rw [hwidth, ← hnats] at hchunks
    refine ⟨cs, hcs, fun cs' h => h.unique hcs, hchunks, ?_⟩
    intro to_block' hle cs' hcs' hfits' c hc hfull
    obtain ⟨ds, hds, hnats'⟩ := hyields from_block to_block' step hfits'
    obtain rfl := hcs'.unique hds
    have hmem : (c.1.toNat, c.2.toNat) ∈ chunkNats cs := List.mem_map_of_mem hc
    rw [hnats] at hmem
    have hlater := chunkRanges_stable (show to_block.toNat ≤ to_block'.toNat from hle) hmem
      (by rw [hwidth]; exact hfull)
    rw [← hnats'] at hlater
    obtain ⟨d, hd, heq⟩ := List.mem_map.mp hlater
    obtain ⟨hfirst, hlast⟩ := Prod.mk.inj heq
    rw [show c = d from Prod.ext (BitVec.eq_of_toNat_eq hfirst.symm) (BitVec.eq_of_toNat_eq hlast.symm)]
    exact hd
  · intro cfg to_block to_block' hle c hc hsettled
    have hsettled' : Settled to_block' c.1 c.2 := ⟨hsettled.1, hsettled.2.trans hle⟩
    refine ⟨chunkRanges_stable hle hc hsettled.1, hsettled', ?_⟩
    intro cache chunk
    rw [cachedChunk, if_pos ⟨hsettled', rfl⟩, LogCache.putChunk]
    exact Function.update_self _ _ _

theorem chunk_ranges_partition_sample :
    ChunksOf 10 25 5 [(10, 14), (15, 19), (20, 24), (25, 25)] ∧
      (∃ cs', (ChunkIter.start 10 32 5).Yields cs' ∧ (20, 24) ∈ cs') ∧
      cachedChunk RegistrySample.base 300000 (LogCache.empty.putChunk
        (chunkKey (registryChunksScanId RegistrySample.base) 0 199999) ⟨[], []⟩) true 0 199999
          = some ⟨[], []⟩ := by
  have hfirst : (ChunkIter.start 10 25 5).Yields [(10, 14), (15, 19), (20, 24), (25, 25)] :=
    .more rfl (by decide) (by decide) (.more rfl (by decide) (by decide)
      (.more rfl (by decide) (by decide) (.more rfl (by decide) (by decide) (.done rfl))))
  have hlater : (ChunkIter.start 10 32 5).Yields [(10, 14), (15, 19), (20, 24), (25, 29), (30, 32)] :=
    .more rfl (by decide) (by decide) (.more rfl (by decide) (by decide)
      (.more rfl (by decide) (by decide) (.more rfl (by decide) (by decide)
        (.more rfl (by decide) (by decide) (.done rfl)))))
  obtain ⟨cs, -, hunique, hchunks, hstable⟩ := chunk_ranges_partition.1 10 25 5 (by decide)
  obtain rfl := hunique _ hfirst
  have hsettled := chunk_ranges_partition.2 RegistrySample.base 200127 300000 (by decide) (0, 199999)
    (mem_chunkRanges.mpr ⟨0, rfl, by decide, rfl⟩) ⟨rfl, by decide⟩
  exact ⟨hchunks, ⟨_, hlater, hstable 32 (by decide) _ hlater (by decide) (20, 24) (by decide) rfl⟩,
    hsettled.2.2 _ _⟩

end Beanie.Keeper
