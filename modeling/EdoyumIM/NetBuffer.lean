import EdoyumIM.ByteFiles
import EdoyumIM.MachineWords

/-!
The buffer of a connection. Its indices cut a vector into prependable, readable
and writable bytes; an operation whose assertion fails has no result. The
readable bytes behave as a queue of bytes. The integer and line helpers, which
the servers do not use, are not modelled, nor is `shrink`.
-/

namespace EdoyumIM.NetBuffer

open MachineWords ByteFiles

def kCheapPrepend : Nat := 8

def kInitialSize : Nat := 1024

/-- Size of the stack buffer that `readFd` reads into behind the writable bytes. -/
def extrabufSize : Nat := 65536

structure Buffer where
  buffer : Bytes
  readerIndex : Nat
  writerIndex : Nat
  reserved : kCheapPrepend ≤ buffer.length
  ordered : readerIndex ≤ writerIndex
  fits : writerIndex ≤ buffer.length

namespace Buffer

def readableBytes (buf : Buffer) : Nat := buf.writerIndex - buf.readerIndex

def writableBytes (buf : Buffer) : Nat := buf.buffer.length - buf.writerIndex

def prependableBytes (buf : Buffer) : Nat := buf.readerIndex

/-- The bytes from `peek()` to `beginWrite()`. -/
def readable (buf : Buffer) : Bytes := readAt buf.readerIndex buf.readableBytes buf.buffer

theorem readable_length (buf : Buffer) : buf.readable.length = buf.readableBytes := by
  have ordered := buf.ordered
  have fits := buf.fits
  simp only [readable, readAt, readableBytes, List.length_take, List.length_drop]
  omega

theorem readable_eq (buf : Buffer) :
    buf.readable = (buf.buffer.take buf.writerIndex).drop buf.readerIndex := by
  rw [readable, readAt, readableBytes, List.drop_take]

/-! The operations, each on a buffer whose indices are in order. -/
section Operations

def resize (size : Nat) (bytes : Bytes) : Bytes :=
  bytes.take size ++ List.replicate (size - bytes.length) 0

theorem resize_length (size : Nat) (bytes : Bytes) : (resize size bytes).length = size := by
  simp only [resize, List.length_append, List.length_take, List.length_replicate]
  omega

theorem new_reserved (initialSize : Nat) :
    kCheapPrepend ≤ (List.replicate (kCheapPrepend + initialSize) (0 : UInt8)).length := by
  simp

def new (initialSize : Nat) : Buffer where
  buffer := List.replicate (kCheapPrepend + initialSize) 0
  readerIndex := kCheapPrepend
  writerIndex := kCheapPrepend
  reserved := new_reserved initialSize
  ordered := Nat.le_refl kCheapPrepend
  fits := new_reserved initialSize

def retrieveAll (buf : Buffer) : Buffer where
  buffer := buf.buffer
  readerIndex := kCheapPrepend
  writerIndex := kCheapPrepend
  reserved := buf.reserved
  ordered := Nat.le_refl kCheapPrepend
  fits := buf.reserved

theorem retrieve_ordered (len : Nat) (buf : Buffer) (within : len < buf.readableBytes) :
    buf.readerIndex + len ≤ buf.writerIndex := by
  simp only [readableBytes] at within
  omega

def retrieve (len : Nat) (buf : Buffer) : Option Buffer :=
  if buf.readableBytes < len then none
  else if within : len < buf.readableBytes then
    some { buf with
      readerIndex := buf.readerIndex + len
      ordered := retrieve_ordered len buf within }
  else some buf.retrieveAll

theorem hasWritten_ordered (len : Nat) (buf : Buffer) :
    buf.readerIndex ≤ buf.writerIndex + len :=
  buf.ordered.trans (Nat.le_add_right buf.writerIndex len)

theorem hasWritten_fits (len : Nat) (buf : Buffer) (within : len ≤ buf.writableBytes) :
    buf.writerIndex + len ≤ buf.buffer.length := by
  have fits := buf.fits
  simp only [writableBytes] at within
  omega

def hasWritten (len : Nat) (buf : Buffer) : Option Buffer :=
  if within : len ≤ buf.writableBytes then
    some { buf with
      writerIndex := buf.writerIndex + len
      ordered := hasWritten_ordered len buf
      fits := hasWritten_fits len buf within }
  else none

theorem unwrite_ordered (len : Nat) (buf : Buffer) (within : len ≤ buf.readableBytes) :
    buf.readerIndex ≤ buf.writerIndex - len := by
  have ordered := buf.ordered
  simp only [readableBytes] at within
  omega

theorem unwrite_fits (len : Nat) (buf : Buffer) : buf.writerIndex - len ≤ buf.buffer.length :=
  (Nat.sub_le buf.writerIndex len).trans buf.fits

def unwrite (len : Nat) (buf : Buffer) : Option Buffer :=
  if within : len ≤ buf.readableBytes then
    some { buf with
      writerIndex := buf.writerIndex - len
      ordered := unwrite_ordered len buf within
      fits := unwrite_fits len buf }
  else none

theorem le_writeAt (size position : Nat) (data bytes : Bytes) (long : size ≤ bytes.length) :
    size ≤ (writeAt position data bytes).length := by
  by_cases filled : data = []
  · simpa [filled] using long
  · rw [length_writeAt position data bytes filled]
    exact long.trans (Nat.le_max_left _ _)

theorem copy_reserved (position : Nat) (data : Bytes) (buf : Buffer) :
    kCheapPrepend ≤ (writeAt position data buf.buffer).length :=
  le_writeAt kCheapPrepend position data buf.buffer buf.reserved

theorem copy_fits (position : Nat) (data : Bytes) (buf : Buffer) :
    buf.writerIndex ≤ (writeAt position data buf.buffer).length :=
  le_writeAt buf.writerIndex position data buf.buffer buf.fits

/-- `std::copy` of `data` into the vector from `position` on. -/
def copy (position : Nat) (data : Bytes) (buf : Buffer) : Buffer where
  buffer := writeAt position data buf.buffer
  readerIndex := buf.readerIndex
  writerIndex := buf.writerIndex
  reserved := copy_reserved position data buf
  ordered := buf.ordered
  fits := copy_fits position data buf

theorem grow_reserved (len : Nat) (buf : Buffer) (needed : buf.writableBytes < len) :
    kCheapPrepend ≤ (resize (buf.writerIndex + len) buf.buffer).length := by
  have reserved := buf.reserved
  simp only [writableBytes] at needed
  rw [resize_length]
  omega

theorem grow_fits (len : Nat) (buf : Buffer) :
    buf.writerIndex ≤ (resize (buf.writerIndex + len) buf.buffer).length := by
  rw [resize_length]
  omega

theorem moved_reserved (buf : Buffer) :
    kCheapPrepend ≤ (writeAt kCheapPrepend buf.readable buf.buffer).length :=
  copy_reserved kCheapPrepend buf.readable buf

theorem moved_ordered (buf : Buffer) : kCheapPrepend ≤ kCheapPrepend + buf.readableBytes :=
  Nat.le_add_right kCheapPrepend buf.readableBytes

theorem moved_fits (buf : Buffer) (behind : kCheapPrepend < buf.readerIndex) :
    kCheapPrepend + buf.readableBytes ≤
      (writeAt kCheapPrepend buf.readable buf.buffer).length := by
  apply le_writeAt
  have ordered := buf.ordered
  have fits := buf.fits
  simp only [readableBytes]
  omega

/-- Called with too little room behind the readable bytes only. -/
def makeSpace (len : Nat) (buf : Buffer) (needed : buf.writableBytes < len) : Option Buffer :=
  if buf.writableBytes + buf.prependableBytes < len + kCheapPrepend then
    some { buf with
      buffer := resize (buf.writerIndex + len) buf.buffer
      reserved := grow_reserved len buf needed
      fits := grow_fits len buf }
  else if behind : kCheapPrepend < buf.readerIndex then
    some
      { buffer := writeAt kCheapPrepend buf.readable buf.buffer
        readerIndex := kCheapPrepend
        writerIndex := kCheapPrepend + buf.readableBytes
        reserved := moved_reserved buf
        ordered := moved_ordered buf
        fits := moved_fits buf behind }
  else none

def ensureWritableBytes (len : Nat) (buf : Buffer) : Option Buffer := do
  let spaced ←
    if needed : buf.writableBytes < len then buf.makeSpace len needed else some buf
  if len ≤ spaced.writableBytes then some spaced else none

def append (data : Bytes) (buf : Buffer) : Option Buffer := do
  let spaced ← buf.ensureWritableBytes data.length
  (spaced.copy spaced.writerIndex data).hasWritten data.length

theorem prepend_ordered (data : Bytes) (buf : Buffer) :
    buf.readerIndex - data.length ≤ buf.writerIndex :=
  (Nat.sub_le buf.readerIndex data.length).trans buf.ordered

def prepend (data : Bytes) (buf : Buffer) : Option Buffer :=
  if data.length ≤ buf.prependableBytes then
    some (copy (buf.readerIndex - data.length) data { buf with
      readerIndex := buf.readerIndex - data.length
      ordered := prepend_ordered data buf })
  else none

/-- What one `readv` may return: with the vector alone when it has room enough. -/
def readRoom (buf : Buffer) : Nat :=
  if buf.writableBytes < extrabufSize then buf.writableBytes + extrabufSize
  else buf.writableBytes

/-- `readFd` after the call to `readv`, which returned `data`. -/
def readFd (data : Bytes) (buf : Buffer) : Option Buffer :=
  let written := buf.copy buf.writerIndex (data.take buf.writableBytes)
  if data.length ≤ buf.writableBytes then written.hasWritten data.length
  else do
    let full ← written.hasWritten buf.writableBytes
    full.append (data.drop buf.writableBytes)

end Operations

/-! What each operation does to the readable bytes. -/
section Readable

@[simp] theorem readable_new (initialSize : Nat) : (new initialSize).readable = [] := by
  simp [readable, readAt, readableBytes, new]

@[simp] theorem readable_retrieveAll (buf : Buffer) : buf.retrieveAll.readable = [] := by
  simp [readable, readAt, readableBytes, retrieveAll]

theorem retrieve_readable (len : Nat) (buf : Buffer) :
    (buf.retrieve len).map readable =
      if len ≤ buf.readable.length then some (buf.readable.drop len) else none := by
  rw [retrieve, readable_length]
  by_cases short : buf.readableBytes < len
  · rw [if_pos short, if_neg (by omega)]
    rfl
  · rw [if_neg short, if_pos (by omega)]
    by_cases within : len < buf.readableBytes
    · simp only [dif_pos within, Option.map_some, readable_eq, List.drop_drop]
    · -- everything is taken out
      have all : buf.readable.length ≤ len := by
        rw [readable_length]
        omega
      simp only [dif_neg within, Option.map_some, readable_retrieveAll,
        List.drop_eq_nil_of_le all]

theorem unwrite_readable (len : Nat) (buf : Buffer) :
    (buf.unwrite len).map readable =
      if len ≤ buf.readable.length then some (buf.readable.take (buf.readable.length - len))
      else none := by
  have ordered := buf.ordered
  rw [unwrite, readable_length]
  by_cases within : len ≤ buf.readableBytes
  · have rest : min (buf.writerIndex - len - buf.readerIndex) buf.readableBytes =
        buf.readableBytes - len := by
      simp only [readableBytes]
      omega
    simp only [dif_pos within, if_pos within, Option.map_some, readable, readAt, List.take_take]
    congr 2
    simp only [readableBytes] at rest ⊢
    omega
  · rw [dif_neg within, if_neg within]
    rfl

/-- Written behind the readable bytes and counted, the data follows them. -/
theorem written_exact (data : Bytes) (buf : Buffer) (within : data.length ≤ buf.writableBytes) :
    ∃ written, (buf.copy buf.writerIndex data).hasWritten data.length = some written ∧
      written.readable = buf.readable ++ data ∧ written.readerIndex = buf.readerIndex ∧
      written.writableBytes = buf.writableBytes - data.length := by
  have ordered := buf.ordered
  have fits := buf.fits
  have placed := writeAt_within buf.writerIndex data buf.buffer fits
  have front : (buf.buffer.take buf.writerIndex).length = buf.writerIndex := by
    rw [List.length_take, Nat.min_eq_left fits]
  have size : (buf.copy buf.writerIndex data).buffer.length = buf.buffer.length := by
    simp only [writableBytes] at within
    simp only [copy, placed, List.length_append, front, List.length_drop]
    omega
  have same : (buf.copy buf.writerIndex data).writableBytes = buf.writableBytes := by
    rw [writableBytes, size]
    rfl
  have room : data.length ≤ (buf.copy buf.writerIndex data).writableBytes := by omega
  rw [hasWritten, dif_pos room]
  refine ⟨_, rfl, ?_, rfl, ?_⟩
  · have cut : ((buf.copy buf.writerIndex data).buffer.take (buf.writerIndex + data.length)) =
        buf.buffer.take buf.writerIndex ++ data := by
      simp only [copy, placed, ← List.append_assoc]
      exact List.take_left' (by rw [List.length_append, front])
    rw [readable_eq, readable_eq]
    simp only [copy] at cut ⊢
    rw [cut, List.drop_append_of_le_length (by omega)]
  · simp only [writableBytes] at same ⊢
    omega

theorem makeSpace_exact (len : Nat) (buf : Buffer) (needed : buf.writableBytes < len) :
    ∃ spaced, buf.makeSpace len needed = some spaced ∧ spaced.readable = buf.readable ∧
      len ≤ spaced.writableBytes ∧
        min kCheapPrepend buf.readerIndex ≤ spaced.readerIndex := by
  have ordered := buf.ordered
  have fits := buf.fits
  rw [makeSpace]
  by_cases full : buf.writableBytes + buf.prependableBytes < len + kCheapPrepend
  · rw [if_pos full]
    refine ⟨_, rfl, ?_, ?_, Nat.min_le_right _ _⟩
    · simp only [writableBytes] at needed
      simp only [readable_eq, resize]
      rw [List.take_append_of_le_length (by rw [List.length_take]; omega), List.take_take,
        Nat.min_eq_left (by omega)]
    · simp only [writableBytes, resize_length]
      omega
  · -- the assertion of this branch follows from there being too little room behind
    have behind : kCheapPrepend < buf.readerIndex := by
      simp only [prependableBytes] at full
      omega
    have size := buf.readable_length
    have placed := writeAt_within kCheapPrepend buf.readable buf.buffer buf.reserved
    have front : (buf.buffer.take kCheapPrepend).length = kCheapPrepend := by
      rw [List.length_take, Nat.min_eq_left buf.reserved]
    have moved : (writeAt kCheapPrepend buf.readable buf.buffer).take
        (kCheapPrepend + buf.readableBytes) = buf.buffer.take kCheapPrepend ++ buf.readable := by
      rw [placed, ← List.append_assoc]
      exact List.take_left' (by rw [List.length_append, front, size])
    rw [if_neg full, dif_pos behind]
    refine ⟨_, rfl, ?_, ?_, Nat.min_le_left _ _⟩
    · rw [readable_eq]
      simp only [moved]
      exact List.drop_left' front
    · simp only [writableBytes, prependableBytes] at full ⊢
      simp only [placed, List.length_append, front, List.length_drop, size]
      simp only [readableBytes]
      omega

theorem ensureWritableBytes_exact (len : Nat) (buf : Buffer) :
    ∃ spaced, buf.ensureWritableBytes len = some spaced ∧ spaced.readable = buf.readable ∧
      len ≤ spaced.writableBytes ∧
        min kCheapPrepend buf.readerIndex ≤ spaced.readerIndex := by
  by_cases needed : buf.writableBytes < len
  · obtain ⟨spaced, made, same, room, front⟩ := makeSpace_exact len buf needed
    exact ⟨spaced, by simp [ensureWritableBytes, needed, made, room], same, room, front⟩
  · have room : len ≤ buf.writableBytes := by omega
    exact ⟨buf, by simp [ensureWritableBytes, needed, room], rfl, room, Nat.min_le_right _ _⟩

theorem append_exact (data : Bytes) (buf : Buffer) :
    ∃ next, buf.append data = some next ∧ next.readable = buf.readable ++ data ∧
      min kCheapPrepend buf.readerIndex ≤ next.readerIndex := by
  obtain ⟨spaced, made, same, room, front⟩ := ensureWritableBytes_exact data.length buf
  obtain ⟨next, written, behind, index, _⟩ := written_exact data spaced room
  refine ⟨next, by simp [append, made, written], by rw [behind, same], ?_⟩
  rw [index]
  exact front

theorem prepend_exact (data : Bytes) (buf : Buffer) (within : data.length ≤ buf.readerIndex) :
    ∃ next, buf.prepend data = some next ∧ next.readable = data ++ buf.readable ∧
      next.readerIndex = buf.readerIndex - data.length := by
  have ordered := buf.ordered
  have fits := buf.fits
  rw [prepend, prependableBytes, if_pos within]
  refine ⟨_, rfl, ?_, rfl⟩
  have start : (buf.buffer.take (buf.readerIndex - data.length)).length =
      buf.readerIndex - data.length := by
    rw [List.length_take]
    omega
  have back : buf.readerIndex - data.length + data.length = buf.readerIndex := by omega
  rw [readable_eq, readable_eq]
  simp only [copy]
  rw [writeAt_within _ _ _ (by omega), back, List.drop_take, List.drop_left' start,
    List.take_append, List.take_of_length_le (by omega), List.drop_take]
  congr 2
  omega

/-- `readFd` appends what the call returned, also when a part of it went through
the stack buffer. -/
theorem readFd_exact (data : Bytes) (buf : Buffer) :
    ∃ next, buf.readFd data = some next ∧ next.readable = buf.readable ++ data ∧
      min kCheapPrepend buf.readerIndex ≤ next.readerIndex := by
  by_cases within : data.length ≤ buf.writableBytes
  · obtain ⟨next, written, behind, index, _⟩ := written_exact data buf within
    refine ⟨next, ?_, behind, ?_⟩
    · rw [readFd, if_pos within, List.take_of_length_le within]
      exact written
    · rw [index]
      exact Nat.min_le_right _ _
  · have front : (data.take buf.writableBytes).length = buf.writableBytes := by
      rw [List.length_take]
      omega
    obtain ⟨full, written, behind, index, _⟩ :=
      written_exact (data.take buf.writableBytes) buf (by omega)
    obtain ⟨next, appended, tail, kept⟩ := append_exact (data.drop buf.writableBytes) full
    rw [front] at written
    refine ⟨next, ?_, ?_, ?_⟩
    · rw [readFd, if_neg within]
      simp only [written, Option.bind_eq_bind, Option.bind_some, appended]
    · rw [tail, behind, List.append_assoc, List.take_append_drop]
    · rw [← index]
      exact kept

end Readable

end Buffer

/-! Runs of operations against a plain queue of bytes. -/
section Queue

inductive Operation where
  | append (data : Bytes)
  | readFd (data : Bytes)
  | retrieve (len : Nat)
  | retrieveAll
  | unwrite (len : Nat)
  | prepend (data : Bytes)
  | ensureWritableBytes (len : Nat)
  deriving DecidableEq

def Operation.apply (buf : Buffer) : Operation → Option Buffer
  | .append data => buf.append data
  | .readFd data => buf.readFd data
  | .retrieve len => buf.retrieve len
  | .retrieveAll => some buf.retrieveAll
  | .unwrite len => buf.unwrite len
  | .prepend data => buf.prepend data
  | .ensureWritableBytes len => buf.ensureWritableBytes len

/-- What a user means by the operation. -/
def Operation.onQueue (queue : Bytes) : Operation → Option Bytes
  | .append data | .readFd data => some (queue ++ data)
  | .retrieve len => if len ≤ queue.length then some (queue.drop len) else none
  | .retrieveAll => some []
  | .unwrite len => if len ≤ queue.length then some (queue.take (queue.length - len)) else none
  | .prepend data => some (data ++ queue)
  | .ensureWritableBytes _ => some queue

def Operation.prepended : Operation → Nat
  | .prepend data => data.length
  | _ => 0

def headroom (buf : Buffer) : Nat := min kCheapPrepend buf.readerIndex

/-- One operation: the readable bytes go the queue's way, also where there is
none, and no more than the prepended bytes is lost of the headroom. -/
theorem operation_simulates (buf : Buffer) (operation : Operation)
    (room : operation.prepended ≤ headroom buf) :
    (operation.apply buf).map Buffer.readable = operation.onQueue buf.readable ∧
      ∀ next, operation.apply buf = some next →
        headroom buf - operation.prepended ≤ headroom next := by
  cases operation with
  | append data =>
      obtain ⟨next, ran, result, front⟩ := buf.append_exact data
      simp only [Operation.apply, Operation.onQueue, Operation.prepended, ran, Option.map_some,
        result, Option.some.injEq, forall_eq', headroom, Nat.sub_zero, true_and]
      exact Nat.le_min.mpr ⟨Nat.min_le_left _ _, front⟩
  | readFd data =>
      obtain ⟨next, ran, result, front⟩ := buf.readFd_exact data
      simp only [Operation.apply, Operation.onQueue, Operation.prepended, ran, Option.map_some,
        result, Option.some.injEq, forall_eq', headroom, Nat.sub_zero, true_and]
      exact Nat.le_min.mpr ⟨Nat.min_le_left _ _, front⟩
  | retrieve len =>
      refine ⟨buf.retrieve_readable len, ?_⟩
      intro next ran
      simp only [Operation.apply, Buffer.retrieve] at ran
      split_ifs at ran
      all_goals
        injection ran with ran
        subst ran
        simp only [headroom, Operation.prepended, Buffer.retrieveAll]
        omega
  | retrieveAll =>
      refine ⟨congrArg some buf.readable_retrieveAll, ?_⟩
      intro next ran
      injection ran with ran
      subst ran
      simp only [headroom, Operation.prepended, Buffer.retrieveAll]
      omega
  | unwrite len =>
      refine ⟨buf.unwrite_readable len, ?_⟩
      intro next ran
      simp only [Operation.apply, Buffer.unwrite] at ran
      split_ifs at ran
      injection ran with ran
      subst ran
      exact Nat.sub_le _ _
  | prepend data =>
      obtain ⟨next, ran, result, front⟩ :=
        buf.prepend_exact data (room.trans (Nat.min_le_right _ _))
      simp only [Operation.apply, Operation.onQueue, Operation.prepended, ran, Option.map_some,
        result, Option.some.injEq, forall_eq', headroom, front, true_and]
      omega
  | ensureWritableBytes len =>
      obtain ⟨next, ran, result, _, front⟩ := buf.ensureWritableBytes_exact len
      simp only [Operation.apply, Operation.onQueue, Operation.prepended, ran, Option.map_some,
        result, Option.some.injEq, forall_eq', headroom, Nat.sub_zero, true_and]
      exact Nat.le_min.mpr ⟨Nat.min_le_left _ _, front⟩

theorem operations_simulate (operations : List Operation) (buf : Buffer)
    (room : (operations.map Operation.prepended).sum ≤ headroom buf) :
    (operations.foldlM Operation.apply buf).map Buffer.readable =
      operations.foldlM Operation.onQueue buf.readable := by
  induction operations generalizing buf with
  | nil => rfl
  | cons operation rest ih =>
      simp only [List.map_cons, List.sum_cons] at room
      obtain ⟨same, kept⟩ := operation_simulates buf operation (by omega)
      rw [List.foldlM_cons, List.foldlM_cons, ← same]
      cases ran : operation.apply buf with
      | none => rfl
      | some next =>
          have left := kept next ran
          exact ih next (by omega)

end Queue

end EdoyumIM.NetBuffer
