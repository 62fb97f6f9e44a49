/-
# `Beanie.Lib.Registry` — items entered once, a bounded number for each owner

A registry keeps a list of items for each owner and a cell for each item, at
the item's address.  Entering an item fills its vacant cell and appends its
address to its owner's list, as long as that list is short of the capacity.

    Registry.Step      what entering does to the log of all items, over all owners
    Registry.Valid     no item twice, no owner above the capacity
    Registry.Tracks    lists and cells are those of a log

The address is a function of the item, injective on the items `R` that are
ever used; nothing is assumed of it elsewhere.
-/
import Beanie.Lib.Run

namespace Beanie

section
variable {κ α : Type} [DecidableEq κ] (owner : α → κ)

/-- The items of one owner, in the order they were entered. -/
def ofOwner (k : κ) (l : List α) : List α := l.filter fun a => decide (owner a = k)

theorem mem_ofOwner {k : κ} {l : List α} {a : α} : a ∈ ofOwner owner k l ↔ a ∈ l ∧ owner a = k := by
  simp [ofOwner]

theorem ofOwner_append_self (l : List α) (a : α) :
    ofOwner owner (owner a) (l ++ [a]) = ofOwner owner (owner a) l ++ [a] := by
  simp [ofOwner]

theorem ofOwner_append_other {k : κ} (l : List α) {a : α} (h : k ≠ owner a) :
    ofOwner owner k (l ++ [a]) = ofOwner owner k l := by
  simp [ofOwner, h.symm]

namespace Registry
variable (cap : Nat)

/-- What a call does to the log: it enters a new item of an owner who has room, or nothing. -/
inductive Step : List α → List α → Prop
  | enter {l : List α} {a : α} (hnew : a ∉ l)
      (hroom : (ofOwner owner (owner a) l).length < cap) : Step l (l ++ [a])
  | idle (l : List α) : Step l l

/-- No item twice, no owner above the capacity. -/
structure Valid (l : List α) : Prop where
  nodup : l.Nodup
  bounded : ∀ k, (ofOwner owner k l).length ≤ cap

variable {owner cap}

theorem valid_nil : Valid owner cap [] := ⟨List.nodup_nil, fun _ => Nat.zero_le _⟩

theorem Step.valid {l l' : List α} (h : Step owner cap l l') (hl : Valid owner cap l) :
    Valid owner cap l' := by
  cases h with
  | @enter a hnew hroom =>
      refine ⟨?_, fun k => ?_⟩
      · exact List.nodup_append.mpr ⟨hl.nodup, List.nodup_singleton a, by
          intro b hb c hc heq
          rw [List.mem_singleton.mp hc] at heq
          exact hnew (heq ▸ hb)⟩
      · by_cases hk : k = owner a
        · rw [hk, ofOwner_append_self, List.length_append]
          exact hroom
        · rw [ofOwner_append_other owner l hk]
          exact hl.bounded k
  | idle => exact hl

/-- The run lemma: whatever the calls, the log stays valid. -/
theorem valid_run {l l' : List α} (h : Relation.ReflTransGen (Step owner cap) l l')
    (hl : Valid owner cap l) : Valid owner cap l' := by
  induction h with
  | refl => exact hl
  | tail _ hs ih => exact hs.valid ih

/-! ## Lists and cells of a log -/

variable {A C : Type}

/-- The lists of addresses and the cells are those of the log `l`, and no other item of `R` has a
cell. -/
structure Tracks (owner : α → κ) (address : α → A) (content : α → C) (R : Set α)
    (lists : κ → List A) (cells : A → Option C) (l : List α) : Prop where
  lists : ∀ k, lists k = (ofOwner owner k l).map address
  used : ∀ a ∈ l, a ∈ R
  filled : ∀ a ∈ l, cells (address a) = some (content a)
  vacant : ∀ a ∈ R, a ∉ l → cells (address a) = none

section
variable {address : α → A} {content : α → C} {R : Set α} {lists : κ → List A}
  {cells : A → Option C} {l : List α}

/-- What does not touch the cells of the items used keeps the relation. -/
theorem Tracks.congr (h : Tracks owner address content R lists cells l)
    {cells' : A → Option C} (hcells : ∀ a ∈ R, cells' (address a) = cells (address a)) :
    Tracks owner address content R lists cells' l where
  lists := h.lists
  used := h.used
  filled := fun a ha => (hcells a (h.used a ha)).trans (h.filled a ha)
  vacant := fun a ha hnew => (hcells a ha).trans (h.vacant a ha hnew)

/-- Entering an item, on the lists and on the cells. -/
theorem Tracks.enter [DecidableEq A] (h : Tracks owner address content R lists cells l)
    (hinj : Set.InjOn address R) {a : α} (ha : a ∈ R) (hnew : a ∉ l) :
    Tracks owner address content R
      (Function.update lists (owner a) (lists (owner a) ++ [address a]))
      (Function.update cells (address a) (some (content a))) (l ++ [a]) where
  lists := by
    intro k
    by_cases hk : k = owner a
    · rw [hk, Function.update_self, ofOwner_append_self, h.lists, List.map_append]
      rfl
    · rw [Function.update_of_ne hk, ofOwner_append_other owner l hk, h.lists]
  used := by
    intro b hb
    rcases List.mem_append.mp hb with hb | hb
    · exact h.used b hb
    · rw [List.mem_singleton.mp hb]
      exact ha
  filled := by
    intro b hb
    rcases List.mem_append.mp hb with hb | hb
    · have hne : address b ≠ address a := fun heq => hnew (hinj (h.used b hb) ha heq ▸ hb)
      rw [Function.update_of_ne hne, h.filled b hb]
    · rw [List.mem_singleton.mp hb, Function.update_self]
  vacant := by
    intro b hb hnot
    rw [List.mem_append, not_or, List.mem_singleton] at hnot
    have hne : address b ≠ address a := fun heq => hnot.2 (hinj hb ha heq)
    rw [Function.update_of_ne hne, h.vacant b hb hnot.1]

/-- The cell of an item used is vacant exactly when the item is not in the log. -/
theorem Tracks.vacant_iff (h : Tracks owner address content R lists cells l) {a : α} (ha : a ∈ R) :
    cells (address a) = none ↔ a ∉ l := by
  refine ⟨fun hnone hmem => ?_, h.vacant a ha⟩
  rw [h.filled a hmem] at hnone
  exact nomatch hnone

/-- An item is in the log exactly when its address is in its owner's list. -/
theorem Tracks.mem_list_iff (h : Tracks owner address content R lists cells l)
    (hinj : Set.InjOn address R) {a : α} (ha : a ∈ R) :
    address a ∈ lists (owner a) ↔ a ∈ l := by
  rw [h.lists]
  constructor
  · intro hmem
    obtain ⟨b, hb, heq⟩ := List.mem_map.mp hmem
    have hb := ((mem_ofOwner owner).mp hb).1
    exact hinj (h.used b hb) ha heq ▸ hb
  · intro hmem
    exact List.mem_map_of_mem ((mem_ofOwner owner).mpr ⟨hmem, rfl⟩)

/-- In a valid log no owner's list repeats an address. -/
theorem Tracks.nodup_list (h : Tracks owner address content R lists cells l)
    (hinj : Set.InjOn address R) (hl : Valid owner cap l) (k : κ) : (lists k).Nodup := by
  rw [h.lists]
  refine List.Nodup.map_on ?_ (hl.nodup.filter _)
  intro a ha b hb heq
  exact hinj (h.used a ((mem_ofOwner owner).mp ha).1) (h.used b ((mem_ofOwner owner).mp hb).1) heq

theorem Tracks.length_list (h : Tracks owner address content R lists cells l)
    (hl : Valid owner cap l) (k : κ) : (lists k).length ≤ cap := by
  rw [h.lists, List.length_map]
  exact hl.bounded k

end

end Registry

end

/-! ## The log of a run -/

section
variable {σ β κ α A C : Type} [DecidableEq κ] {step : σ → β → σ → Prop}
  {entered : Transition σ β → Option α} {owner : α → κ} {address : α → A} {content : α → C}
  {R : Set α} {lists : σ → κ → List A} {cells : σ → A → Option C}

/-- The items a run entered, in order. -/
def log (entered : Transition σ β → Option α) (tr : List (Transition σ β)) : List α :=
  tr.filterMap entered

theorem log_append (tr : List (Transition σ β)) (t : Transition σ β) :
    log entered (tr ++ [t]) = log entered tr ++ (entered t).toList := by
  cases ht : entered t with
  | none => simp [log, ht]
  | some a => simp [log, ht]

/-- The simulation rule for logs: where every step enters at most one item, so seen is a step of
an abstract machine on logs, and keeps `Rel`, a whole run is a run of that machine. -/
theorem Steps.log_simulation {abs : List α → List α → Prop} {Rel : σ → List α → Prop}
    {P : Transition σ β → Prop}
    (hstep : ∀ s a s' l, step s a s' → P ⟨s, a, s'⟩ → Rel s l →
      abs l (l ++ (entered ⟨s, a, s'⟩).toList) ∧ Rel s' (l ++ (entered ⟨s, a, s'⟩).toList))
    {s s' : σ} {tr : List (Transition σ β)} (h : Steps step s tr s') (hP : ∀ t ∈ tr, P t)
    (hRel : Rel s []) :
    Relation.ReflTransGen abs [] (log entered tr) ∧ Rel s' (log entered tr) := by
  have hfold : ∀ l, tr.foldl (fun l t => l ++ (entered t).toList) l = l ++ log entered tr := by
    clear h hP
    induction tr with
    | nil => simp [log]
    | cons t tr ih =>
        intro l
        rw [List.foldl_cons, ih]
        cases ht : entered t with
        | none => simp [log, ht]
        | some a => simp [log, ht]
  have hsim := @Steps.simulation _ _ _ _ abs (fun l t => l ++ (entered t).toList) Rel P
    hstep _ _ _ h hP _ hRel
  rwa [hfold, List.nil_append] at hsim

/-- The cell at `addr` is filled once in the run, by entering `a`, and keeps its content `c`. -/
def FilledOnce (entered : Transition σ β → Option α) (cells : σ → A → Option C) (a : α) (addr : A)
    (c : C) (tr : List (Transition σ β)) : Prop :=
  ∃ before t after, tr = before ++ t :: after ∧ entered t = some a ∧
    (∀ u ∈ before ++ [t], cells u.pre addr = none) ∧
    ∀ u ∈ t :: after, cells u.post addr = some c

/-- Where every run tracks its log and no item is entered twice, each item's cell is filled
once. -/
theorem filledOnce_of_tracks {s s' : σ} {tr : List (Transition σ β)}
    (hrun : Steps step s tr s')
    (htracks : ∀ l m r, tr = l ++ r → Steps step s l m →
      Registry.Tracks owner address content R (lists m) (cells m) (log entered l))
    (hnodup : (log entered tr).Nodup) {a : α} (ha : a ∈ log entered tr) (hR : a ∈ R) :
    FilledOnce entered cells a (address a) (content a) tr := by
  obtain ⟨t, ht, hentered⟩ := List.mem_filterMap.mp ha
  obtain ⟨before, after, rfl⟩ := List.append_of_mem ht
  have hlog : log entered (before ++ t :: after)
      = log entered before ++ a :: log entered after := by
    simp [log, List.filterMap_append, hentered]
  rw [hlog] at hnodup
  have hnot : a ∉ log entered before := fun hmem =>
    (List.nodup_append.mp hnodup).2.2 a hmem a List.mem_cons_self rfl
  have hvacant : ∀ l r m, before = l ++ r → Steps step s l m → cells m (address a) = none := by
    intro l r m hsplit hl
    refine (htracks l m (r ++ t :: after) (by simp [hsplit]) hl).vacant a hR fun hmem => ?_
    rw [hsplit, log, List.filterMap_append] at hnot
    exact hnot (List.mem_append_left _ hmem)
  refine ⟨before, t, after, rfl, hentered, ?_, ?_⟩
  · intro u hu
    rcases List.mem_append.mp hu with hu | hu
    · obtain ⟨l, r, rfl⟩ := List.append_of_mem hu
      rw [List.append_assoc] at hrun
      exact hvacant l (u :: r) u.pre rfl hrun.cut.1
    · rw [List.mem_singleton.mp hu]
      exact hvacant before [] t.pre (by simp) hrun.cut.1
  · intro u hu
    obtain ⟨l, r, hlr⟩ := List.append_of_mem hu
    rw [hlr] at hrun htracks
    rw [← List.append_assoc] at hrun
    obtain ⟨hl, hs, -⟩ := hrun.cut
    have hpost : Steps step s ((before ++ l) ++ [u]) u.post := hl.append (.step hs (.refl _))
    refine (htracks _ u.post r (by simp) hpost).filled a (List.mem_filterMap.mpr ⟨t, ?_, hentered⟩)
    have ht : t ∈ l ++ [u] := by
      cases l with
      | nil =>
          rw [List.nil_append, List.cons.injEq] at hlr
          simp [hlr.1]
      | cons v l =>
          rw [List.cons_append, List.cons.injEq] at hlr
          simp [hlr.1]
    rw [List.append_assoc]
    exact List.mem_append_right _ ht

end

end Beanie
