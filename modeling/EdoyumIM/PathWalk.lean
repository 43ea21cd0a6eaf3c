import Mathlib

/-!
Walks through a tree of directories. A directory is the list of the names on the
way down to it; at the root, going up stays where one is. Steps have a course of
their own, which does not depend on where they start: how far they climb above
the start, and the names on the way down from there to their end.
-/

namespace EdoyumIM.PathWalk

variable {α : Type}

inductive Step (α : Type) where
  | stay
  | up
  | down (name : α)
  deriving DecidableEq, Repr

def move (directory : List α) : Step α → List α
  | .stay => directory
  | .up => directory.dropLast
  | .down name => directory ++ [name]

def walk (directory : List α) (steps : List (Step α)) : List α := steps.foldl move directory

structure Course (α : Type) where
  climb : Nat
  descent : List α
  deriving DecidableEq, Repr

def Course.advance (course : Course α) : Step α → Course α
  | .stay => course
  | .up =>
      if course.descent.isEmpty then ⟨course.climb + 1, []⟩
      else ⟨course.climb, course.descent.dropLast⟩
  | .down name => ⟨course.climb, course.descent ++ [name]⟩

def courseOf (steps : List (Step α)) : Course α := steps.foldl Course.advance ⟨0, []⟩

/-- Where a course leads from a directory. -/
def Course.target (course : Course α) (directory : List α) : List α :=
  directory.take (directory.length - course.climb) ++ course.descent

theorem move_target (course : Course α) (directory : List α) (step : Step α) :
    move (course.target directory) step = (course.advance step).target directory := by
  obtain ⟨climb, descent⟩ := course
  cases step with
  | stay => rfl
  | down name => simp [move, Course.advance, Course.target]
  | up =>
      cases descent with
      | nil =>
          have level : min (min (directory.length - climb) directory.length - 1)
              (directory.length - climb) = directory.length - (climb + 1) := by
            omega
          simp only [move, Course.advance, Course.target, List.append_nil, List.dropLast_eq_take,
            List.length_take, List.take_take, List.isEmpty_nil, if_true, level]
      | cons first rest =>
          simp only [move, Course.advance, Course.target, List.isEmpty_cons, Bool.false_eq_true,
            if_false]
          rw [List.dropLast_append_of_ne_nil (List.cons_ne_nil first rest)]

theorem foldl_move_target (steps : List (Step α)) (course : Course α) (directory : List α) :
    steps.foldl move (course.target directory) =
      (steps.foldl Course.advance course).target directory := by
  induction steps generalizing course with
  | nil => rfl
  | cons step rest ih =>
      rw [List.foldl_cons, List.foldl_cons, move_target, ih]

theorem walk_eq (directory : List α) (steps : List (Step α)) :
    walk directory steps = (courseOf steps).target directory := by
  have start : (⟨0, []⟩ : Course α).target directory = directory := by simp [Course.target]
  rw [courseOf, ← foldl_move_target, start, walk]

theorem walk_cons (directory : List α) (step : Step α) (rest : List (Step α)) :
    walk directory (step :: rest) = walk (move directory step) rest := rfl

/-- Steps that climb over the root end at their own descent. -/
theorem walk_above (directory : List α) (steps : List (Step α))
    (above : directory.length ≤ (courseOf steps).climb) :
    walk directory steps = (courseOf steps).descent := by
  rw [walk_eq, Course.target, Nat.sub_eq_zero_of_le above, List.take_zero, List.nil_append]

/-- From two levels the same steps meet only where they climb over the root. -/
theorem walk_meet_iff (higher lower : List α) (steps : List (Step α))
    (levels : higher.length < lower.length) :
    walk higher steps = walk lower steps ↔ lower.length ≤ (courseOf steps).climb := by
  constructor
  · intro same
    have lengths := congrArg List.length same
    rw [walk_eq, walk_eq, Course.target, Course.target] at lengths
    simp only [List.length_append, List.length_take] at lengths
    omega
  · intro above
    rw [walk_above higher steps (by omega), walk_above lower steps above]

end EdoyumIM.PathWalk
