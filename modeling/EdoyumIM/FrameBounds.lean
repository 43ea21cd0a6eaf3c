import EdoyumIM.SessionFraming

/-!
What `OnRead` asks of the receive buffer. Its only check compares the readable
bytes with the sum of header width and declared size as a `size_t`; a size
below six passes it as soon as that sum is reached, and at once when the size
is negative and the sum wraps. The loops of both servers differ in the width
of the header only.
-/

namespace EdoyumIM.FrameBounds

open MachineWords FieldCodec StreamFraming SessionFraming

/-- `retrieve(len)` and `assign(peek() + 6, packagesize - 6)`, each with the
readable bytes at the time of the call. -/
inductive BufferCall where
  | retrieve (len readable : Nat)
  | assign (packagesize : Int) (readable : Nat)
  deriving DecidableEq

def BufferCall.InBounds : BufferCall → Prop
  | .retrieve len readable => len ≤ readable
  | .assign packagesize readable =>
      0 ≤ packagesize - 6 ∧ 6 + (packagesize - 6) ≤ readable

/-- The calls of one round of `OnRead`. A negative count makes `assign` throw, so
the round ends there. -/
def roundCalls (width : Nat) (buffer : Bytes) : List BufferCall :=
  if buffer.length < width then []
  else
    let packagesize := signedOf (8 * width) (leNat (buffer.take width))
    let readable := buffer.length - width
    if (buffer.length : Int) < (width + packagesize) % 2 ^ 64 then []
    else if packagesize - 6 < 0 then
      [.retrieve width buffer.length, .assign packagesize readable]
    else
      [.retrieve width buffer.length, .assign packagesize readable,
        .retrieve packagesize.toNat readable]

section Calls

variable {S : Type} (process : S → Bytes → Except Fault (Bool × S)) (state : S) (buffer : Bytes)

def ClientSession.onReadCalls : List BufferCall :=
  (heads (sizeFramer 4 chatHeader_pos chatHeader_le) process state buffer).flatMap (roundCalls 4)

def FileSession.onReadCalls : List BufferCall :=
  (heads (sizeFramer 8 fileHeader_pos fileHeader_le) process state buffer).flatMap (roundCalls 8)

end Calls

/-! One round. -/
section Rounds

variable (width : Nat)

/-- A size below six in a header whose check passes. -/
def Undersized (buffer : Bytes) : Prop :=
  width ≤ buffer.length ∧ signedOf (8 * width) (leNat (buffer.take width)) < 6 ∧
    (width + signedOf (8 * width) (leNat (buffer.take width))) % 2 ^ 64 ≤ buffer.length

instance instDecidableUndersized (buffer : Bytes) : Decidable (Undersized width buffer) :=
  inferInstanceAs (Decidable (_ ∧ _ ∧ _))

theorem signedOf_ge (bits value : Nat) (positive : 0 < bits) :
    -2 ^ (bits - 1) ≤ signedOf bits value := by
  have half : (2 : Int) ^ bits = 2 ^ (bits - 1) + 2 ^ (bits - 1) := by
    obtain ⟨less, rfl⟩ : ∃ less, bits = less + 1 := ⟨bits - 1, by omega⟩
    rw [Nat.add_sub_cancel, pow_succ]
    omega
  have low : (0 : Int) ≤ 2 ^ (bits - 1) := by positivity
  rw [signedOf]
  split
  · omega
  · next large =>
    have cast : ((2 ^ (bits - 1) : Nat) : Int) ≤ value := by exact_mod_cast Nat.le_of_not_lt large
    push_cast at cast
    omega

/-- In a buffer that fits into memory the sizes in question are those from
`-width` to five whose bytes have arrived. -/
theorem undersized_iff (buffer : Bytes) (positive : 0 < width) (small : width ≤ 8)
    (fits : buffer.length < 2 ^ 63) :
    Undersized width buffer ↔
      width ≤ buffer.length ∧ -width ≤ signedOf (8 * width) (leNat (buffer.take width)) ∧
        signedOf (8 * width) (leNat (buffer.take width)) < 6 ∧
        width + signedOf (8 * width) (leNat (buffer.take width)) ≤ buffer.length := by
  have low := signedOf_ge (8 * width) (leNat (buffer.take width)) (by omega)
  have narrow : (2 : Int) ^ (8 * width - 1) ≤ 2 ^ 63 :=
    pow_le_pow_right₀ (by decide) (by omega)
  rw [Undersized]
  omega

/-- The calls of a round beside its outcome: no call while it waits, and a size
below six reaches `assign`, which throws. -/
theorem round_cases (buffer : Bytes) (small : width ≤ 8) :
    (takeFrame width buffer = .wait ∧ roundCalls width buffer = [] ∧ ¬ Undersized width buffer) ∨
    (takeFrame width buffer = .fail .lengthError ∧ Undersized width buffer ∧
      roundCalls width buffer = [.retrieve width buffer.length,
        .assign (signedOf (8 * width) (leNat (buffer.take width))) (buffer.length - width)]) ∨
    (¬ Undersized width buffer ∧ ∃ size : Nat, 6 ≤ size ∧ width + size ≤ buffer.length ∧
      roundCalls width buffer = [.retrieve width buffer.length,
        .assign size (buffer.length - width), .retrieve size (buffer.length - width)]) := by
  have result := takeFrame_cases width buffer small _ rfl
  simp only [takeFrame, roundCalls, Undersized] at result ⊢
  by_cases header : buffer.length < width
  · have short : ¬ width ≤ buffer.length := by omega
    simp [header, short]
  have complete : width ≤ buffer.length := by omega
  simp only [header, complete, ↓reduceIte, true_and] at result ⊢
  generalize signedOf (8 * width) (leNat (buffer.take width)) = packagesize at result ⊢
  by_cases short : (buffer.length : Int) < (width + packagesize) % 2 ^ 64
  · simp only [short, ↓reduceIte]
    exact Or.inl ⟨trivial, trivial, by omega⟩
  simp only [short, ↓reduceIte] at result ⊢
  by_cases negative : packagesize - 6 < 0
  · simp only [negative, ↓reduceIte]
    exact Or.inr (Or.inl ⟨trivial, by omega, trivial⟩)
  · simp only [negative, ↓reduceIte, reduceCtorEq, false_and, and_false, false_or] at result ⊢
    obtain ⟨size, rfl, enough, -, fits, -⟩ := result
    exact ⟨by omega, size, enough, fits, by rw [Int.toNat_natCast]⟩

theorem round_inBounds (buffer : Bytes) (small : width ≤ 8) :
    (∀ call ∈ roundCalls width buffer, call.InBounds) ↔ ¬ Undersized width buffer := by
  rcases round_cases width buffer small with
    ⟨-, none, fine⟩ | ⟨-, bad, calls⟩ | ⟨fine, size, enough, fits, calls⟩
  · simp [none, fine]
  · have below := bad.2.1
    simp only [calls, bad, not_true_eq_false, iff_false]
    intro bounded
    have assigned := bounded _ (List.mem_cons_of_mem _ (List.mem_singleton_self _))
    exact absurd assigned.1 (by omega)
  · simp only [calls, fine, not_false_eq_true, iff_true, List.forall_mem_cons,
      BufferCall.InBounds, List.not_mem_nil, IsEmpty.forall_iff, implies_true, and_true]
    omega

end Rounds

/-! The frames in front of the place a round looks at. -/
section Fronts

/-- A frame whose declared size is that of its inner header and its content. -/
structure WholeFrame (width : Nat) where
  header : Bytes
  gap : Bytes
  content : Bytes
  header_length : header.length = width
  gap_length : gap.length = 6
  declared : signedOf (8 * width) (leNat header) = 6 + content.length

variable {width : Nat}

def WholeFrame.bytes (frame : WholeFrame width) : Bytes :=
  frame.header ++ (frame.gap ++ frame.content)

theorem signedOf_lt (bits value : Nat) (word : value < 2 ^ bits) :
    signedOf bits value < 2 ^ (bits - 1) := by
  rw [signedOf]
  split
  · next low => exact_mod_cast low
  · have cast : (value : Int) < 2 ^ bits := by exact_mod_cast word
    have low : (0 : Int) < 2 ^ (bits - 1) := by positivity
    omega

theorem whole_taken (frame : WholeFrame width) (more : Bytes) (small : width ≤ 8) :
    takeFrame width (frame.bytes ++ more) = .frame frame.content more := by
  have first : (frame.bytes ++ more).take width = frame.header := by
    rw [WholeFrame.bytes, List.append_assoc]
    exact List.take_left' frame.header_length
  have body : (frame.bytes ++ more).drop width = frame.gap ++ (frame.content ++ more) := by
    rw [WholeFrame.bytes, List.append_assoc, List.drop_left' frame.header_length,
      List.append_assoc]
  have word := leNat_lt frame.header
  rw [frame.header_length, show (256 : Nat) = 2 ^ 8 by rfl, ← pow_mul] at word
  have upper := signedOf_lt (8 * width) (leNat frame.header) word
  have narrow : (2 : Int) ^ (8 * width - 1) ≤ 2 ^ 63 := pow_le_pow_right₀ (by decide) (by omega)
  have declared := frame.declared
  have gap := frame.gap_length
  have length : (frame.bytes ++ more).length = width + (6 + frame.content.length) + more.length := by
    simp only [WholeFrame.bytes, List.length_append, frame.header_length, gap]
  rw [takeFrame_frame width (6 + frame.content.length) _ small (by rw [first]; omega) (by omega)
    (by omega) (by omega), body]
  congr 1
  · rw [List.drop_left' gap, Nat.add_sub_cancel_left, List.take_left]
  · rw [← List.append_assoc, List.drop_left' (by simp only [List.length_append]; omega)]

theorem taken_whole (buffer message rest : Bytes) (small : width ≤ 8)
    (taken : takeFrame width buffer = .frame message rest) :
    ∃ frame : WholeFrame width, buffer = frame.bytes ++ rest ∧ frame.content = message := by
  rcases takeFrame_cases width buffer small _ taken with
    waits | ⟨-, failed, -⟩ | ⟨header, size, sizes, enough, short, complete, framed⟩
  · cases waits
  · cases failed
  · injection framed with content left
    have length : (buffer.drop width).length = buffer.length - width := List.length_drop
    refine ⟨⟨buffer.take width, (buffer.drop width).take 6, message, List.length_take_of_le header,
      List.length_take_of_le (by omega), ?_⟩, ?_, rfl⟩
    · rw [sizes, content, List.length_take, List.length_drop]
      omega
    · have inner : (buffer.drop width).take 6 ++ message = (buffer.drop width).take size := by
        rw [content, ← List.take_append_drop 6 ((buffer.drop width).take size), List.take_take,
          Nat.min_eq_left enough, List.drop_take]
      rw [WholeFrame.bytes, inner, left, List.append_assoc, List.take_append_drop,
        List.take_append_drop]

theorem splits_whole (positive : 0 < width) (small : width ≤ 8) (buffer rest : Bytes)
    (messages : List Bytes) :
    Splits (sizeFramer width positive small) buffer messages rest ↔
      ∃ frames : List (WholeFrame width), buffer = frames.flatMap WholeFrame.bytes ++ rest ∧
        messages = frames.map WholeFrame.content := by
  constructor
  · intro split
    induction split with
    | nil buffer => exact ⟨[], rfl, rfl⟩
    | cons head later ih =>
        obtain ⟨frame, rfl, rfl⟩ := taken_whole _ _ _ small head
        obtain ⟨frames, rfl, rfl⟩ := ih
        exact ⟨frame :: frames, by simp [List.append_assoc], rfl⟩
  · rintro ⟨frames, rfl, rfl⟩
    induction frames with
    | nil => exact .nil rest
    | cons frame frames ih =>
        apply Splits.cons _ ih
        rw [List.flatMap_cons, List.append_assoc]
        exact whole_taken frame _ small

end Fronts

section Streams

variable {S : Type} (process : S → Bytes → Except Fault (Bool × S)) (state : S) (buffer : Bytes)

/-- Behind whole frames that were all handled stands a header with a size below
six that passes the check. -/
def MeetsUndersized (width : Nat) : Prop :=
  ∃ (frames : List (WholeFrame width)) (rest : Bytes),
    buffer = frames.flatMap WholeFrame.bytes ++ rest ∧
    (∃ reached, passed process state (frames.map WholeFrame.content) = .ok reached) ∧
    Undersized width rest

theorem calls_inBounds (width : Nat) (positive : 0 < width) (small : width ≤ 8) :
    (∀ call ∈ (heads (sizeFramer width positive small) process state buffer).flatMap
      (roundCalls width), call.InBounds) ↔ ¬ MeetsUndersized process state buffer width := by
  constructor
  · rintro bounded ⟨frames, rest, split, ⟨reached, passes⟩, bad⟩
    have looked := (mem_heads (sizeFramer width positive small) process state buffer rest).mpr
      ⟨_, reached, (splits_whole positive small buffer rest _).mpr ⟨frames, split, rfl⟩, passes⟩
    have fine := (round_inBounds width rest small).mp fun call made =>
      bounded call (List.mem_flatMap.mpr ⟨rest, looked, made⟩)
    exact fine bad
  · intro never call made
    obtain ⟨rest, looked, made⟩ := List.mem_flatMap.mp made
    obtain ⟨messages, reached, split, passes⟩ :=
      (mem_heads (sizeFramer width positive small) process state buffer rest).mp looked
    obtain ⟨frames, front, rfl⟩ := (splits_whole positive small buffer rest messages).mp split
    have fine : ¬ Undersized width rest := fun bad =>
      never ⟨frames, rest, front, ⟨reached, passes⟩, bad⟩
    exact (round_inBounds width rest small).mpr fine call made

/-- Every call of `OnRead` stays inside the readable bytes exactly if no round
comes to a size below six that passes the check. -/
theorem frame_sizes_checked_iff :
    ((∀ call ∈ ClientSession.onReadCalls process state buffer, call.InBounds) ↔
      ¬ MeetsUndersized process state buffer 4) ∧
    ((∀ call ∈ FileSession.onReadCalls process state buffer, call.InBounds) ↔
      ¬ MeetsUndersized process state buffer 8) :=
  ⟨calls_inBounds process state buffer 4 chatHeader_pos chatHeader_le,
    calls_inBounds process state buffer 8 fileHeader_pos fileHeader_le⟩

end Streams

/-- A size of `-1` in either header: the sum wraps to less than the header. -/
theorem minus_one_taken :
    ¬ (∀ call ∈ ClientSession.onReadCalls remember [] [255, 255, 255, 255], call.InBounds) ∧
    ¬ (∀ call ∈ FileSession.onReadCalls remember []
      [255, 255, 255, 255, 255, 255, 255, 255], call.InBounds) := by
  have chat : BufferCall.assign (-1) 0 ∈
      ClientSession.onReadCalls remember [] [255, 255, 255, 255] := by decide
  have file : BufferCall.assign (-1) 0 ∈
      FileSession.onReadCalls remember [] [255, 255, 255, 255, 255, 255, 255, 255] := by decide
  constructor
  · intro bounded
    exact absurd (bounded _ chat).1 (by decide)
  · intro bounded
    exact absurd (bounded _ file).1 (by decide)

end EdoyumIM.FrameBounds
