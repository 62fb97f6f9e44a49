/-
# `Beanie.Lib.Path` — where a path leads

A path is walked segment by segment: `.` and empty segments stay, `..` goes
up, a name goes down, and above the root there is nothing.  Whatever the
starting directory, a walk amounts to so many steps up and then some names
down (`Climb`), which can be computed from the path alone:

    walk_eq       walking is climbing by the path's own climb
    within_iff    a walk from `dir` ends inside `dir/sub` iff its names begin
                  with the directories it climbed out of, and then `sub`
-/
import Mathlib
import Beanie.Lib.Text

namespace Beanie.Path

/-- An absolute directory, or what is below one: names from the top. -/
abbrev Segments := List Text

def segments (path : Text) : Segments := path.splitOn '/'

/-- One segment of a walk. -/
def step (dir : Segments) (s : Text) : Segments :=
  if s = [] ∨ s = ['.'] then dir
  else if s = ['.', '.'] then dir.dropLast
  else dir ++ [s]

/-- The directory a relative walk ends in. -/
def walk (dir ss : Segments) : Segments := ss.foldl step dir

/-- Some steps up, then some names down. -/
structure Climb where
  ups : Nat
  names : Segments
deriving DecidableEq

namespace Climb

def step (c : Climb) (s : Text) : Climb :=
  if s = [] ∨ s = ['.'] then c
  else if s = ['.', '.'] then
    if c.names = [] then ⟨c.ups + 1, []⟩ else ⟨c.ups, c.names.dropLast⟩
  else ⟨c.ups, c.names ++ [s]⟩

/-- The climb of a path: each `..` cancels the name before it, or is a step up. -/
def ofSegments (ss : Segments) : Climb := ss.foldl step ⟨0, []⟩

/-- From `dir`, up and then down. -/
def apply (c : Climb) (dir : Segments) : Segments := dir.rdrop c.ups ++ c.names

theorem dropLast_rdrop (dir : Segments) (n : Nat) : (dir.rdrop n).dropLast = dir.rdrop (n + 1) := by
  rw [List.rdrop, List.rdrop, List.dropLast_eq_take, List.take_take, List.length_take]
  congr 1
  omega

/-- A segment does to the directory reached what it does to the climb. -/
theorem step_apply (c : Climb) (dir : Segments) (s : Text) :
    Path.step (c.apply dir) s = (c.step s).apply dir := by
  unfold Path.step step
  split_ifs with hstay hup hnames
  · rfl
  · rw [apply, apply, hnames, List.append_nil, List.append_nil, dropLast_rdrop]
  · rw [apply, apply, List.dropLast_append_of_ne_nil hnames]
  · rw [apply, apply, List.append_assoc]

end Climb

/-- Walking is climbing by the path's own climb. -/
theorem walk_eq (dir ss : Segments) : walk dir ss = (Climb.ofSegments ss).apply dir := by
  have hgen : ∀ c : Climb, ss.foldl step (c.apply dir) = (ss.foldl Climb.step c).apply dir := by
    induction ss with
    | nil => exact fun _ => rfl
    | cons s ss ih =>
        intro c
        rw [List.foldl_cons, List.foldl_cons, Climb.step_apply, ih]
  have h := hgen ⟨0, []⟩
  rwa [show (Climb.mk 0 []).apply dir = dir by simp [Climb.apply]] at h

/-- A climb names again the directories it left, and then goes into `sub`. -/
def Climb.Returns (c : Climb) (dir sub : Segments) : Prop := dir.rtake c.ups ++ sub <+: c.names

instance (c : Climb) (dir sub : Segments) : Decidable (c.Returns dir sub) :=
  inferInstanceAs (Decidable (_ <+: _))

theorem within_iff (dir sub ss : Segments) :
    dir ++ sub <+: walk dir ss ↔ (Climb.ofSegments ss).Returns dir sub := by
  have hdir : dir = dir.rdrop (Climb.ofSegments ss).ups ++ dir.rtake (Climb.ofSegments ss).ups :=
    (List.take_append_drop _ _).symm
  rw [walk_eq, Climb.apply, Climb.Returns]
  conv_lhs => rw [show dir ++ sub = dir.rdrop (Climb.ofSegments ss).ups
    ++ (dir.rtake (Climb.ofSegments ss).ups ++ sub) by rw [← List.append_assoc, ← hdir]]
  exact List.prefix_append_right_inj _

/-- A path without `..` climbs nowhere: its names, in order, are its climb. -/
theorem ofSegments_of_no_parent {ss : Segments} (h : ∀ s ∈ ss, s ≠ ['.', '.']) :
    Climb.ofSegments ss = ⟨0, ss.filter fun s => !(s = [] || s = ['.'])⟩ := by
  have hgen : ∀ names : Segments, ss.foldl Climb.step ⟨0, names⟩
      = ⟨0, names ++ ss.filter fun s => !(s = [] || s = ['.'])⟩ := by
    induction ss with
    | nil => intro names; simp
    | cons s ss ih =>
        intro names
        have hs := h s List.mem_cons_self
        have ih := ih fun t ht => h t (List.mem_cons_of_mem _ ht)
        rw [List.foldl_cons, Climb.step]
        split_ifs with hstay
        · rw [ih, List.filter_cons_of_neg (by rcases hstay with rfl | rfl <;> simp)]
        · rw [ih, List.filter_cons_of_pos (by simpa using hstay), List.append_assoc]
          rfl
  exact hgen []

/-- A path without `..` ends inside its first name. -/
theorem returns_of_no_parent {dir ss : Segments} {s : Text} (hname : s ≠ [] ∧ s ≠ ['.'])
    (h : ∀ t ∈ s :: ss, t ≠ ['.', '.']) : (Climb.ofSegments (s :: ss)).Returns dir [s] := by
  rw [Climb.Returns, ofSegments_of_no_parent h, List.rtake_zero, List.nil_append,
    List.filter_cons_of_pos (by simpa using hname)]
  exact ⟨_, rfl⟩

end Beanie.Path
