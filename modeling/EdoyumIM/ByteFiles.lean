import EdoyumIM.OrderedStore

/-!
Files of bytes and buffered streams on them. A write behind the end of a file
fills the gap with `default`. A stream holds the bytes that were put to it and
have not reached the file yet; they belong from `base` on, where its descriptor
stands. How many of them stay behind is up to the buffer, so every `put` says it.
-/

namespace EdoyumIM.ByteFiles

open OrderedStore

/-! Contents of one file. -/
section Contents

variable {B : Type} [Inhabited B]

def readAt (position count : Nat) (content : List B) : List B :=
  (content.drop position).take count

def writeAt (position : Nat) : List B → List B → List B
  | [], content => content
  | first :: rest, content =>
      content.take position ++ (List.replicate (position - content.length) default ++
        ((first :: rest) ++ content.drop (position + (rest.length + 1))))

@[simp] theorem writeAt_nil (position : Nat) (content : List B) :
    writeAt position [] content = content := rfl

theorem getElem?_writeAt (position : Nat) (data content : List B) (index : Nat)
    (filled : data ≠ []) :
    (writeAt position data content)[index]? =
      if index < position then
        if index < content.length then content[index]? else some default
      else if index < position + data.length then data[index - position]?
      else content[index]? := by
  obtain ⟨first, rest, rfl⟩ := List.exists_cons_of_ne_nil filled
  rw [writeAt, List.getElem?_append, List.length_take]
  by_cases front : index < position
  · rw [if_pos front]
    by_cases short : index < content.length
    · rw [if_pos (by omega), if_pos short, List.getElem?_take_of_lt front]
    · rw [if_neg (by omega), if_neg short,
        List.getElem?_append_left (by rw [List.length_replicate]; omega),
        List.getElem?_replicate_of_lt (by omega)]
  · -- behind the gap the indices of the parts are those counted from `position`
    have shifted : index - min position content.length - (position - content.length) =
        index - position := by omega
    rw [if_neg (by omega), if_neg front,
      List.getElem?_append_right (by rw [List.length_replicate]; omega), List.length_replicate,
      shifted, List.getElem?_append, List.getElem?_drop]
    by_cases inside : index < position + (first :: rest).length
    · rw [if_pos inside, if_pos (by omega)]
    · rw [if_neg inside, if_neg (by omega)]
      congr 1
      simp only [List.length_cons] at inside ⊢
      omega

theorem length_writeAt (position : Nat) (data content : List B) (filled : data ≠ []) :
    (writeAt position data content).length = max content.length (position + data.length) := by
  obtain ⟨first, rest, rfl⟩ := List.exists_cons_of_ne_nil filled
  simp only [writeAt, List.length_append, List.length_take, List.length_replicate,
    List.length_drop, List.length_cons]
  omega

theorem writeAt_append (position : Nat) (front back content : List B) :
    writeAt (position + front.length) back (writeAt position front content) =
      writeAt position (front ++ back) content := by
  by_cases noFront : front = []
  · simp [noFront]
  by_cases noBack : back = []
  · simp [noBack]
  -- with something in both parts, compare byte by byte
  apply List.ext_getElem?
  intro index
  rw [getElem?_writeAt _ back _ index noBack, getElem?_writeAt position front content index noFront,
    getElem?_writeAt position (front ++ back) content index (by simp [noFront]),
    length_writeAt position front content noFront, List.getElem?_append, List.length_append]
  split_ifs <;> first | rfl | omega | rw [Nat.sub_sub]

theorem writeAt_end (data content : List B) :
    writeAt content.length data content = content ++ data := by
  cases data with
  | nil => simp
  | cons first rest => simp [writeAt]

theorem writeAt_within (position : Nat) (data content : List B)
    (within : position ≤ content.length) :
    writeAt position data content =
      content.take position ++ (data ++ content.drop (position + data.length)) := by
  cases data with
  | nil => simp
  | cons first rest => simp [writeAt, Nat.sub_eq_zero_of_le within]

theorem getElem?_writeAt_inside (position : Nat) (data content : List B) (index : Nat)
    (reached : position ≤ index) (inside : index < position + data.length) :
    (writeAt position data content)[index]? = data[index - position]? := by
  have filled : data ≠ [] := by
    rintro rfl
    simp at inside
    omega
  rw [getElem?_writeAt position data content index filled, if_neg (by omega), if_pos inside]

theorem getElem?_writeAt_outside (position : Nat) (data content : List B) (index : Nat)
    (outside : index < position ∨ position + data.length ≤ index)
    (present : index < content.length) :
    (writeAt position data content)[index]? = content[index]? := by
  by_cases filled : data = []
  · rw [filled, writeAt_nil]
  · rw [getElem?_writeAt position data content index filled]
    split_ifs
    · rfl
    · omega
    · rfl

end Contents

/-! Streams. `settle` writes out all but the last `kept` of the bytes that wait,
`flush` all of them. -/
section Streams

variable {Name B : Type} [LinearOrder Name] [Inhabited B]

abbrev Disk (Name B : Type) [LinearOrder Name] := OrderedMap Name (List B)

structure Stream (Name B : Type) where
  file : Name
  base : Nat := 0
  pending : List B := []
  readable : Bool
  opened : Nat := 0
  deriving DecidableEq, Repr

def Disk.write (file : Name) (position : Nat) (data : List B) (disk : Disk Name B) :
    Disk Name B :=
  disk.modify file (writeAt position data)

namespace Stream

def tell (stream : Stream Name B) : Nat := stream.base + stream.pending.length

def settle (kept : Nat) (stream : Stream Name B) (disk : Disk Name B) :
    Stream Name B × Disk Name B :=
  let ready := stream.pending.length - kept
  ({ stream with
      base := stream.base + (stream.pending.take ready).length
      pending := stream.pending.drop ready },
    Disk.write stream.file stream.base (stream.pending.take ready) disk)

def flush (stream : Stream Name B) (disk : Disk Name B) : Stream Name B × Disk Name B :=
  stream.settle 0 disk

/-- A negative target is refused, after the bytes that wait have been written. -/
def seek (target : Int) (stream : Stream Name B) (disk : Disk Name B) :
    Stream Name B × Disk Name B :=
  let (stream, disk) := stream.flush disk
  (if 0 ≤ target then { stream with base := target.toNat } else stream, disk)

def put (kept : Nat) (data : List B) (stream : Stream Name B) (disk : Disk Name B) :
    Stream Name B × Disk Name B :=
  { stream with pending := stream.pending ++ data }.settle kept disk

/-- The bytes read, fewer than asked for at the end of the file. A stream that
was not opened for reading yields none. -/
def get (count : Nat) (stream : Stream Name B) (disk : Disk Name B) :
    List B × Stream Name B × Disk Name B :=
  if stream.readable then
    let (stream, disk) := stream.flush disk
    let data := readAt stream.base count ((disk.find? stream.file).getD [])
    (data, { stream with base := stream.base + data.length }, disk)
  else ([], stream, disk)

end Stream

/-- What the exit of the process does: the newest stream is written out first. -/
def flushAll (streams : List (Stream Name B)) (disk : Disk Name B) : Disk Name B :=
  (streams.insertionSort fun left right => right.opened ≤ left.opened).foldl
    (fun disk stream => (stream.flush disk).2) disk

/-- The content of a file once the given streams on it are written out in turn. -/
def overlay (file : Name) (streams : List (Stream Name B)) (content : List B) : List B :=
  streams.foldl (fun content stream =>
    if stream.file = file then writeAt stream.base stream.pending content else content) content

def shown (disk : Disk Name B) (streams : List (Stream Name B)) (file : Name) :
    Option (List B) :=
  (disk.find? file).map (overlay file streams)

theorem find?_write (file other : Name) (position : Nat) (data : List B) (disk : Disk Name B) :
    (Disk.write file position data disk).find? other =
      (disk.find? other).map fun content =>
        if other = file then writeAt position data content else content :=
  OrderedMap.find?_modify file other (writeAt position data) disk

@[simp] theorem write_nil (file : Name) (position : Nat) (disk : Disk Name B) :
    Disk.write file position [] disk = disk := by
  apply OrderedMap.ext
  simp [Disk.write, OrderedMap.modify]

namespace Stream

@[simp] theorem settle_file (kept : Nat) (stream : Stream Name B) (disk : Disk Name B) :
    (stream.settle kept disk).1.file = stream.file := rfl

@[simp] theorem settle_readable (kept : Nat) (stream : Stream Name B) (disk : Disk Name B) :
    (stream.settle kept disk).1.readable = stream.readable := rfl

@[simp] theorem settle_tell (kept : Nat) (stream : Stream Name B) (disk : Disk Name B) :
    (stream.settle kept disk).1.tell = stream.tell := by
  simp only [settle, tell, List.length_take, List.length_drop]
  omega

@[simp] theorem flush_pending (stream : Stream Name B) (disk : Disk Name B) :
    (stream.flush disk).1.pending = [] := by
  simp [flush, settle]

theorem settle_idle (kept : Nat) (stream : Stream Name B) (disk : Disk Name B)
    (idle : stream.pending = []) : stream.settle kept disk = (stream, disk) := by
  obtain ⟨file, base, pending, readable, opened⟩ := stream
  subst idle
  simp [settle]

/-- How far a buffer is written out makes no difference to what the file will
hold. -/
theorem overlay_settle (kept : Nat) (stream : Stream Name B) (disk : Disk Name B)
    (file : Name) (content : List B) :
    overlay file [(stream.settle kept disk).1]
        (if file = stream.file then writeAt stream.base
          (stream.pending.take (stream.pending.length - kept)) content else content) =
      overlay file [stream] content := by
  by_cases here : stream.file = file
  · subst here
    simp only [overlay, settle, List.foldl_cons, List.foldl_nil, ↓reduceIte, writeAt_append,
      List.take_append_drop]
  · simp [overlay, here, Ne.symm here]

end Stream

theorem overlay_cons (file : Name) (stream : Stream Name B) (rest : List (Stream Name B))
    (content : List B) :
    overlay file (stream :: rest) content = overlay file rest (overlay file [stream] content) := rfl

theorem shown_settle (kept : Nat) (stream : Stream Name B) (rest : List (Stream Name B))
    (disk : Disk Name B) (file : Name) :
    shown (stream.settle kept disk).2 ((stream.settle kept disk).1 :: rest) file =
      shown disk (stream :: rest) file := by
  rw [shown, shown, Stream.settle, find?_write, Option.map_map]
  congr 1
  funext content
  rw [Function.comp, overlay_cons, overlay_cons file stream]
  exact congrArg (overlay file rest) (stream.overlay_settle kept disk file content)

theorem shown_idle (stream : Stream Name B) (rest : List (Stream Name B)) (disk : Disk Name B)
    (file : Name) (idle : stream.pending = []) :
    shown disk (stream :: rest) file = shown disk rest file := by
  have same : overlay file (stream :: rest) = overlay file rest := by
    funext content
    rw [overlay_cons]
    simp [overlay, idle]
  rw [shown, shown, same]

/-- Closing a stream only moves its bytes into the file. -/
theorem shown_flush (stream : Stream Name B) (rest : List (Stream Name B)) (disk : Disk Name B)
    (file : Name) : shown (stream.flush disk).2 rest file = shown disk (stream :: rest) file := by
  rw [← shown_settle 0 stream rest disk file]
  exact (shown_idle _ rest _ file (stream.flush_pending disk)).symm

theorem shown_nil (disk : Disk Name B) (file : Name) : shown disk [] file = disk.find? file := by
  cases found : disk.find? file <;> simp [shown, found, overlay]

theorem find?_flush (stream : Stream Name B) (disk : Disk Name B) (file : Name) :
    (stream.flush disk).2.find? file = shown disk [stream] file := by
  rw [← shown_nil, shown_flush]

namespace Stream

@[simp] theorem seek_file (target : Int) (stream : Stream Name B) (disk : Disk Name B) :
    (stream.seek target disk).1.file = stream.file := by
  simp only [seek]
  split_ifs <;> rfl

@[simp] theorem seek_readable (target : Int) (stream : Stream Name B) (disk : Disk Name B) :
    (stream.seek target disk).1.readable = stream.readable := by
  simp only [seek]
  split_ifs <;> rfl

@[simp] theorem seek_pending (target : Int) (stream : Stream Name B) (disk : Disk Name B) :
    (stream.seek target disk).1.pending = [] := by
  simp only [seek]
  split_ifs <;> exact stream.flush_pending disk

theorem seek_disk (target : Int) (stream : Stream Name B) (disk : Disk Name B) :
    (stream.seek target disk).2 = (stream.flush disk).2 := rfl

theorem seek_tell (target : Int) (stream : Stream Name B) (disk : Disk Name B) :
    (stream.seek target disk).1.tell = if 0 ≤ target then target.toNat else stream.tell := by
  simp only [seek]
  split_ifs
  · simp [tell]
  · exact stream.settle_tell 0 disk

theorem seek_refused (target : Int) (stream : Stream Name B) (disk : Disk Name B)
    (negative : target < 0) (idle : stream.pending = []) :
    stream.seek target disk = (stream, disk) := by
  rw [seek, flush, settle_idle 0 stream disk idle]
  simp only [if_neg (not_le.mpr negative)]

@[simp] theorem put_file (kept : Nat) (data : List B) (stream : Stream Name B)
    (disk : Disk Name B) : (stream.put kept data disk).1.file = stream.file := rfl

@[simp] theorem put_readable (kept : Nat) (data : List B) (stream : Stream Name B)
    (disk : Disk Name B) : (stream.put kept data disk).1.readable = stream.readable := rfl

theorem settle_present (kept : Nat) (stream : Stream Name B) (disk : Disk Name B) (file : Name) :
    ((stream.settle kept disk).2.find? file).isSome = (disk.find? file).isSome := by
  rw [settle, find?_write, Option.isSome_map]

theorem get_idle (count : Nat) (stream : Stream Name B) (disk : Disk Name B) (content : List B)
    (idle : stream.pending = []) (readable : stream.readable = true)
    (stored : disk.find? stream.file = some content) :
    stream.get count disk =
      (readAt stream.base count content,
        { stream with base := stream.base + (readAt stream.base count content).length }, disk) := by
  rw [get, if_pos readable, flush, settle_idle 0 stream disk idle]
  simp [stored]

end Stream

theorem shown_seek (target : Int) (stream : Stream Name B) (rest : List (Stream Name B))
    (disk : Disk Name B) (file : Name) :
    shown (stream.seek target disk).2 ((stream.seek target disk).1 :: rest) file =
      shown disk (stream :: rest) file := by
  rw [shown_idle _ rest _ file (stream.seek_pending target disk), Stream.seek_disk, shown_flush]

theorem shown_put (kept : Nat) (data : List B) (stream : Stream Name B)
    (rest : List (Stream Name B)) (disk : Disk Name B) (file : Name) :
    shown (stream.put kept data disk).2 ((stream.put kept data disk).1 :: rest) file =
      shown disk ({ stream with pending := stream.pending ++ data } :: rest) file :=
  shown_settle kept _ rest disk file

theorem shown_get (count : Nat) (stream : Stream Name B) (rest : List (Stream Name B))
    (disk : Disk Name B) (file : Name) :
    shown (stream.get count disk).2.2 ((stream.get count disk).2.1 :: rest) file =
      shown disk (stream :: rest) file := by
  rw [Stream.get]
  split_ifs
  · refine (shown_idle _ rest _ file ?_).trans (shown_flush stream rest disk file)
    exact stream.flush_pending disk
  · rfl

/-- Bytes put to a stream that has none waiting reach the file at its position. -/
theorem shown_put_idle (kept : Nat) (data : List B) (stream : Stream Name B) (disk : Disk Name B)
    (idle : stream.pending = []) :
    shown (stream.put kept data disk).2 [(stream.put kept data disk).1] stream.file =
      (disk.find? stream.file).map (writeAt stream.tell data) := by
  rw [shown_put, shown, idle]
  congr 1
  funext content
  simp [overlay, Stream.tell, idle]

end Streams

end EdoyumIM.ByteFiles
