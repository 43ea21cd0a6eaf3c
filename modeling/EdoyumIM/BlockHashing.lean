import Mathlib

/-!
Streams that a compression function takes in block by block. `absorb` takes one
symbol after the other, so that it does not depend on how a stream is cut; what
the symbols of a part do is then read off block by block.
-/

namespace EdoyumIM.BlockHashing

variable {S B : Type} {size : Nat}

/-- A chaining value, and the symbols of the block that is not full yet. -/
@[ext] structure Progress (S B : Type) (size : Nat) where
  chain : S
  pending : List B
  room : pending.length < size

variable (compress : S → List B → S)

def absorbOne (progress : Progress S B size) (symbol : B) : Progress S B size :=
  if more : progress.pending.length + 1 < size then
    ⟨progress.chain, progress.pending ++ [symbol], by simpa using more⟩
  else
    ⟨compress progress.chain (progress.pending ++ [symbol]), [], Nat.zero_lt_of_lt progress.room⟩

def absorb (progress : Progress S B size) (stream : List B) : Progress S B size :=
  stream.foldl (absorbOne compress) progress

theorem absorb_append (progress : Progress S B size) (front back : List B) :
    absorb compress progress (front ++ back) =
      absorb compress (absorb compress progress front) back :=
  List.foldl_append

/-- A part that does not fill the block. -/
theorem absorb_short (progress : Progress S B size) (part : List B)
    (short : progress.pending.length + part.length < size) :
    (absorb compress progress part).chain = progress.chain ∧
      (absorb compress progress part).pending = progress.pending ++ part := by
  induction part generalizing progress with
  | nil => simp [absorb]
  | cons symbol rest ih =>
      rw [List.length_cons] at short
      have more : progress.pending.length + 1 < size := by omega
      have one : absorbOne compress progress symbol =
          ⟨progress.chain, progress.pending ++ [symbol], by simpa using more⟩ := dif_pos more
      obtain ⟨chain, pending⟩ := ih (absorbOne compress progress symbol) (by
        rw [one]
        simp only [List.length_append, List.length_singleton]
        omega)
      rw [one] at chain pending
      change (absorb compress (absorbOne compress progress symbol) rest).chain = _ ∧
        (absorb compress (absorbOne compress progress symbol) rest).pending = _
      rw [one]
      exact ⟨chain, by rw [pending, List.append_assoc, List.singleton_append]⟩

/-- A part that fills the block exactly. -/
theorem absorb_fill (progress : Progress S B size) (part : List B)
    (fills : progress.pending.length + part.length = size) :
    (absorb compress progress part).chain = compress progress.chain (progress.pending ++ part) ∧
      (absorb compress progress part).pending = [] := by
  have room := progress.room
  cases part using List.reverseRecOn with
  | nil => simp at fills; omega
  | append_singleton front last =>
      simp only [List.length_append, List.length_singleton] at fills
      obtain ⟨chain, pending⟩ := absorb_short compress progress front (by omega)
      have full : ¬ (absorb compress progress front).pending.length + 1 < size := by
        rw [pending, List.length_append]
        omega
      rw [absorb_append]
      change (absorbOne compress (absorb compress progress front) last).chain = _ ∧
        (absorbOne compress (absorb compress progress front) last).pending = _
      rw [absorbOne, dif_neg full, chain, pending, List.append_assoc]
      exact ⟨rfl, rfl⟩

/-- How much of a block is pending depends on the length alone. -/
theorem absorb_length (progress : Progress S B size) (stream : List B) :
    (absorb compress progress stream).pending.length =
      (progress.pending.length + stream.length) % size := by
  induction stream generalizing progress with
  | nil => exact (Nat.mod_eq_of_lt progress.room).symm
  | cons symbol rest ih =>
      have room := progress.room
      have tail := ih (absorbOne compress progress symbol)
      change (absorb compress (absorbOne compress progress symbol) rest).pending.length = _
      rw [tail, List.length_cons, absorbOne]
      split_ifs with more
      · rw [List.length_append, List.length_singleton]
        congr 1
        omega
      · have full : progress.pending.length + 1 = size := by omega
        have shifted : progress.pending.length + (rest.length + 1) = rest.length + size := by omega
        rw [shifted, Nat.add_mod_right, List.length_nil, Nat.zero_add]

/-- Nothing pending. -/
def fresh (positive : 0 < size) (start : S) : Progress S B size := ⟨start, [], positive⟩

/-- The first blocks of a stream. -/
def blocks (size : Nat) : Nat → List B → List (List B)
  | 0, _ => []
  | count + 1, stream => stream.take size :: blocks size count (stream.drop size)

/-- From a full block on, a stream of whole blocks is taken in block by block. -/
theorem absorb_blocks (positive : 0 < size) (start : S) (count : Nat) (stream : List B)
    (whole : stream.length = size * count) :
    absorb compress (fresh positive start) stream =
      fresh positive ((blocks size count stream).foldl compress start) := by
  induction count generalizing start stream with
  | zero =>
      obtain rfl : stream = [] := List.eq_nil_of_length_eq_zero (by simpa using whole)
      rfl
  | succ count ih =>
      rw [Nat.mul_succ] at whole
      have long : size ≤ stream.length := by omega
      have first : absorb compress (fresh positive start) (stream.take size) =
          fresh positive (compress start (stream.take size)) := by
        obtain ⟨chain, pending⟩ := absorb_fill compress (fresh positive start) (stream.take size)
          (by simp [fresh, long])
        exact Progress.ext chain pending
      have rest := ih (compress start (stream.take size)) (stream.drop size)
        (by rw [List.length_drop]; omega)
      calc absorb compress (fresh positive start) stream
          = absorb compress (fresh positive start) (stream.take size ++ stream.drop size) := by
            rw [List.take_append_drop]
        _ = absorb compress (fresh positive (compress start (stream.take size)))
              (stream.drop size) := by
            rw [absorb_append, first]
        _ = _ := rest

end EdoyumIM.BlockHashing
