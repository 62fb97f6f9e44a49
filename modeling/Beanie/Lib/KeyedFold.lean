/-
# `Beanie.Lib.KeyedFold` — maps that are folded key by key

A map is updated by a list of items, each at its own key and from what the map
holds there.  What the fold leaves at a key is then the fold of that key's own
items over its own cell (`foldKeyed_apply`), so a statement about the map is a
statement about one list of items.
-/
import Mathlib

namespace Beanie

section
variable {κ ν ι : Type} [DecidableEq κ] (key : ι → κ) (cell : Option ν → ι → Option ν)

/-- One item, at its key. -/
def stepKeyed (map : κ → Option ν) (i : ι) : κ → Option ν :=
  Function.update map (key i) (cell (map (key i)) i)

/-- All the items, in order. -/
def foldKeyed (map : κ → Option ν) (items : List ι) : κ → Option ν :=
  items.foldl (stepKeyed key cell) map

theorem foldKeyed_append (map : κ → Option ν) (items items' : List ι) :
    foldKeyed key cell map (items ++ items')
      = foldKeyed key cell (foldKeyed key cell map items) items' :=
  List.foldl_append

/-- What the fold leaves at a key. -/
theorem foldKeyed_apply (map : κ → Option ν) (items : List ι) (k : κ) :
    foldKeyed key cell map items k
      = (items.filter fun i => key i = k).foldl cell (map k) := by
  induction items generalizing map with
  | nil => rfl
  | cons i items ih =>
      have hstep : foldKeyed key cell map (i :: items)
          = foldKeyed key cell (stepKeyed key cell map i) items := rfl
      rw [hstep, ih]
      by_cases hk : key i = k
      · subst hk
        rw [List.filter_cons_of_pos (by simp), List.foldl_cons, stepKeyed, Function.update_self]
      · rw [List.filter_cons_of_neg (by simpa using hk), stepKeyed, Function.update_of_ne (Ne.symm hk)]

end

end Beanie
