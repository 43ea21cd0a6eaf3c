import EdoyumIM.MachineWords

/-!
The field codec of BinaryReader.h and BinaryReader.cpp. `m_index` is the
`uint32_t` cursor of the class and is reduced modulo `2 ^ 32` at every update;
sizes are `size_t` and are not. A read behind the end of a `std::string` is
not checked by the class, so the reader takes the bytes it would find there
from `mem`; the byte at index `size()` is the terminating NUL of `c_str()`.
Debug dumps and the printed cursors are left out.
-/

namespace EdoyumIM.FieldCodec

open MachineWords

/-- The exceptions that can leave a handler: `std::length_error` of a string
`assign`, and the logic and runtime errors of the vendored JSON library. -/
inductive Fault where
  | lengthError
  | jsonLogicError
  | jsonRuntimeError
  deriving DecidableEq, Repr

def htonl (value : UInt32) : UInt32 := UInt32.ofNat (leNat (leBytes 4 value.toNat).reverse)

def htons (value : UInt16) : UInt16 := UInt16.ofNat (leNat (leBytes 2 value.toNat).reverse)

structure BinaryWriter where
  m_buffer : Bytes
  m_index : Nat
  deriving DecidableEq, Repr

namespace BinaryWriter

def fresh : BinaryWriter := ⟨[], 0⟩

def clear (_write : BinaryWriter) : BinaryWriter := ⟨[], 0⟩

/-- `operator=` from a string. `m_index` stays at the zero of `Clear`. -/
def assign (BW : Bytes) (write : BinaryWriter) : BinaryWriter :=
  { write.clear with m_buffer := BW }

def binaryPacklenLen2 : Nat := 4

def checksumLen : Nat := 2

/-- `str` is the array of the function, which nothing fills. -/
def writerFile (str : Fin (binaryPacklenLen2 + checksumLen) → UInt8)
    (_write : BinaryWriter) : BinaryWriter :=
  ⟨List.ofFn str, binaryPacklenLen2 + checksumLen⟩

def toBytes (write : BinaryWriter) : Bytes := write.m_buffer

def resize (buffer : Bytes) (size : Nat) : Bytes :=
  buffer.take size ++ List.replicate (size - buffer.length) 0

def memcpy (buffer : Bytes) (offset : Nat) (source : Bytes) : Bytes :=
  buffer.take offset ++ source ++ buffer.drop (offset + source.length)

/-- `WriteData<T>`: `object` is the representation of the argument in memory. -/
def writeData (object : Bytes) (write : BinaryWriter) : BinaryWriter :=
  { m_buffer := memcpy (resize write.m_buffer (write.m_index + object.length))
      write.m_index object
    m_index := (write.m_index + object.length) % 2 ^ 32 }

def compressLoop (len : Nat) : Nat → Bytes → Bytes
  | 0, out => out
  | i + 1, out =>
      -- leading zero digits are skipped as long as nothing has been written
      let c := UInt8.ofNat (len >>> (7 * i) &&& 0x7F)
      if c = 0 ∧ out = [] then compressLoop len i out
      else compressLoop len i (out ++ [if 0 < i then c ||| 0x80 else c])

def compress (len : Nat) (out : Bytes) : Bytes :=
  if len < 128 then out ++ [UInt8.ofNat (len &&& 0x7F)] else compressLoop len 5 out

/-- `WriteData<string>` appends at the end of the buffer, not at `m_index`. -/
def writeString (data : Bytes) (write : BinaryWriter) : BinaryWriter :=
  let out := compress data.length []
  let prefixed : BinaryWriter :=
    ⟨write.m_buffer ++ out, (write.m_index + out.length) % 2 ^ 32⟩
  if 0 < data.length then
    ⟨prefixed.m_buffer ++ data, (prefixed.m_index + data.length) % 2 ^ 32⟩
  else prefixed

/-- `WriteData(htonl(value))` for a signed `value`. -/
def writeInt (value : Int32) (write : BinaryWriter) : BinaryWriter :=
  write.writeData (leBytes 4 (htonl value.toUInt32).toNat)

end BinaryWriter

structure BinaryReader where
  m_buffer : Bytes
  m_index : Nat
  deriving DecidableEq, Repr

namespace BinaryReader

def ofBytes (buffer : Bytes) : BinaryReader := ⟨buffer, 0⟩

def byteAt (mem : Nat → UInt8) (reader : BinaryReader) (index : Nat) : UInt8 :=
  if index < reader.m_buffer.length then reader.m_buffer.getD index 0
  else if index = reader.m_buffer.length then 0
  else mem index

/-- `ReadData<T>`: the bytes are copied in reverse, and nothing is written
when the buffer is too short. The result is the representation of `data`. -/
def readData (size : Nat) (reader : BinaryReader) : Option (Bytes × BinaryReader) :=
  if reader.m_index + size > reader.m_buffer.length then none
  else some (((reader.m_buffer.drop reader.m_index).take size).reverse,
    { reader with m_index := (reader.m_index + size) % 2 ^ 32 })

def readInt (reader : BinaryReader) : Option (Int32 × BinaryReader) :=
  (reader.readData 4).map fun (object, next) => (int32OfNat (leNat object), next)

def lengthLoop (pcur : Nat → UInt8) : Nat → Nat → UInt32 → UInt32 × Nat
  | 0, i, lenght => (lenght, i)
  | bound + 1, i, lenght =>
      -- a digit without the high bit is the last one
      let shifted := (lenght <<< 7) ||| (pcur i &&& 0x7F).toUInt32
      if pcur i &&& 0x80 = 0 then (shifted, i)
      else lengthLoop pcur bound (i + 1) shifted

def sizeSub (left right : Nat) : Nat :=
  if right ≤ left then left - right else left + 2 ^ 64 - right

/-- `ReadData<string>` never returns false. The loop bound is the `size_t`
difference `m_buffer.size() - m_index`, which wraps when the cursor is behind
the end, and a negative `lenght` makes `assign` throw. -/
def readString (mem : Nat → UInt8) (reader : BinaryReader) :
    Except Fault (Bytes × BinaryReader) :=
  let prefixEnd := lengthLoop (fun j => reader.byteAt mem (reader.m_index + j))
    (sizeSub reader.m_buffer.length reader.m_index) 0 0
  let lenght := prefixEnd.1
  let start := (reader.m_index + (prefixEnd.2 + 1)) % 2 ^ 32
  if lenght.toInt32 < 0 then .error .lengthError
  else .ok ((List.range lenght.toNat).map (fun j => reader.byteAt mem (start + j)),
    { reader with m_index := (start + lenght.toNat) % 2 ^ 32 })

end BinaryReader

/-! Closed forms of the writer. The two write paths agree as long as the cursor
equals the size of the buffer, which every write below keeps under `2 ^ 32`. -/
section WriterForms

def BinaryWriter.Synced (write : BinaryWriter) : Prop := write.m_index = write.m_buffer.length

theorem fresh_synced : BinaryWriter.fresh.Synced := rfl

/-- A fixed-size write takes the place of what stands behind `m_index`. -/
theorem writeData_taken (write : BinaryWriter) (object : Bytes)
    (inside : write.m_index ≤ write.m_buffer.length) :
    (write.writeData object).m_buffer = write.m_buffer.take write.m_index ++ object := by
  have sized : (BinaryWriter.resize write.m_buffer (write.m_index + object.length)).length =
      write.m_index + object.length := by
    simp only [BinaryWriter.resize, List.length_append, List.length_take, List.length_replicate]
    omega
  have front : (BinaryWriter.resize write.m_buffer (write.m_index + object.length)).take
      write.m_index = write.m_buffer.take write.m_index := by
    rw [BinaryWriter.resize, List.take_append_of_le_length, List.take_take, Nat.min_eq_left]
    · exact Nat.le_add_right _ _
    · rw [List.length_take]
      omega
  rw [BinaryWriter.writeData, BinaryWriter.memcpy, front, List.drop_of_length_le sized.le,
    List.append_nil]

theorem writeData_buffer (write : BinaryWriter) (object : Bytes) (synced : write.Synced) :
    (write.writeData object).m_buffer = write.m_buffer ++ object := by
  rw [writeData_taken write object synced.le, synced, List.take_length]

theorem writeData_synced (write : BinaryWriter) (object : Bytes) (synced : write.Synced)
    (fits : write.m_buffer.length + object.length < 2 ^ 32) :
    (write.writeData object).Synced := by
  have cursor : write.m_index = write.m_buffer.length := synced
  rw [BinaryWriter.Synced, writeData_buffer write object synced]
  simp only [BinaryWriter.writeData, List.length_append, cursor]
  exact Nat.mod_eq_of_lt fits

theorem writeData_exact (write : BinaryWriter) (object : Bytes) (synced : write.Synced)
    (fits : write.m_buffer.length + object.length < 2 ^ 32) :
    write.writeData object =
      ⟨write.m_buffer ++ object, (write.m_buffer ++ object).length⟩ := by
  have buffer := writeData_buffer write object synced
  have cursor := writeData_synced write object synced fits
  rw [BinaryWriter.Synced, buffer] at cursor
  calc write.writeData object
      = ⟨(write.writeData object).m_buffer, (write.writeData object).m_index⟩ := rfl
    _ = ⟨write.m_buffer ++ object, (write.m_buffer ++ object).length⟩ := by rw [buffer, cursor]

def encodeString (data : Bytes) : Bytes := BinaryWriter.compress data.length [] ++ data

theorem writeString_buffer (write : BinaryWriter) (data : Bytes) :
    (write.writeString data).m_buffer = write.m_buffer ++ encodeString data := by
  cases data with
  | nil => simp [BinaryWriter.writeString, encodeString]
  | cons byte rest => simp [BinaryWriter.writeString, encodeString, List.append_assoc]

theorem writeString_index (write : BinaryWriter) (data : Bytes) :
    (write.writeString data).m_index = (write.m_index + (encodeString data).length) % 2 ^ 32 := by
  cases data with
  | nil => simp [BinaryWriter.writeString, encodeString]
  | cons byte rest => simp [BinaryWriter.writeString, encodeString, Nat.add_assoc]

theorem writeString_synced (write : BinaryWriter) (data : Bytes) (synced : write.Synced)
    (fits : write.m_buffer.length + (encodeString data).length < 2 ^ 32) :
    (write.writeString data).Synced := by
  rw [BinaryWriter.Synced, writeString_index, writeString_buffer, List.length_append, synced]
  exact Nat.mod_eq_of_lt fits

def encodeInt (value : Int32) : Bytes := (leBytes 4 value.toUInt32.toNat).reverse

@[simp] theorem encodeInt_length (value : Int32) : (encodeInt value).length = 4 := by
  simp [encodeInt]

theorem htonl_bytes (value : UInt32) :
    leBytes 4 (htonl value).toNat = (leBytes 4 value.toNat).reverse := by
  have fits : leNat (leBytes 4 value.toNat).reverse < 2 ^ 32 := by
    simpa using leNat_lt (leBytes 4 value.toNat).reverse
  have exact := leBytes_leNat (leBytes 4 value.toNat).reverse
  rw [htonl, UInt32.toNat_ofNat_of_lt' fits]
  simpa using exact

theorem writeInt_buffer (write : BinaryWriter) (value : Int32) (synced : write.Synced) :
    (write.writeInt value).m_buffer = write.m_buffer ++ encodeInt value := by
  rw [BinaryWriter.writeInt, writeData_buffer write _ synced, htonl_bytes]
  rfl

theorem writeInt_synced (write : BinaryWriter) (value : Int32) (synced : write.Synced)
    (fits : write.m_buffer.length + 4 < 2 ^ 32) : (write.writeInt value).Synced :=
  writeData_synced write _ synced (by simpa using fits)

end WriterForms

/-! The length prefix. `groups len count` is the big-endian base-128 numeral of
`len` with `count` digits, every digit but the last one marked by the high bit.
The writer emits it without leading zero digits, and the reader folds it back. -/
section LengthPrefix

def group (len i : Nat) : UInt8 := UInt8.ofNat (len >>> (7 * i) &&& 0x7F)

def groups (len : Nat) : Nat → Bytes
  | 0 => []
  | i + 1 => (if 0 < i then group len i ||| 0x80 else group len i) :: groups len i

theorem group_toNat (len i : Nat) : (group len i).toNat = len / 128 ^ i % 128 := by
  have digit : len >>> (7 * i) &&& 0x7F = len / 128 ^ i % 128 := by
    rw [Nat.shiftRight_eq_div_pow, pow_mul]
    exact Nat.and_two_pow_sub_one_eq_mod _ 7
  rw [group, digit, UInt8.toNat_ofNat']
  omega

theorem groups_length (len count : Nat) : (groups len count).length = count := by
  induction count with
  | zero => rfl
  | succ count ih => simp [groups, ih]

theorem digit_bits : ∀ digit : Fin 128,
    UInt8.ofNat digit &&& 0x7F = UInt8.ofNat digit ∧ UInt8.ofNat digit &&& 0x80 = 0 ∧
    (UInt8.ofNat digit ||| 0x80) &&& 0x7F = UInt8.ofNat digit ∧
    (UInt8.ofNat digit ||| 0x80) &&& 0x80 ≠ 0 := by
  decide

theorem group_bits (len i : Nat) :
    group len i &&& 0x7F = group len i ∧ group len i &&& 0x80 = 0 ∧
    (group len i ||| 0x80) &&& 0x7F = group len i ∧ (group len i ||| 0x80) &&& 0x80 ≠ 0 := by
  have small : (group len i).toNat < 128 := by rw [group_toNat]; omega
  have bits := digit_bits ⟨(group len i).toNat, small⟩
  simpa using bits

theorem compressLoop_succ (len i : Nat) (out : Bytes) :
    BinaryWriter.compressLoop len (i + 1) out =
      if group len i = 0 ∧ out = [] then BinaryWriter.compressLoop len i out
      else BinaryWriter.compressLoop len i
        (out ++ [if 0 < i then group len i ||| 0x80 else group len i]) := rfl

theorem compressLoop_append (len i : Nat) (out : Bytes) (started : out ≠ []) :
    BinaryWriter.compressLoop len i out = out ++ groups len i := by
  induction i generalizing out with
  | zero => simp [BinaryWriter.compressLoop, groups]
  | succ i ih =>
      simp only [compressLoop_succ, started, and_false, ↓reduceIte]
      rw [ih _ (by simp)]
      simp [groups, List.append_assoc]

theorem compressLoop_groups (len i : Nat) (fits : len < 128 ^ i) :
    ∃ count, count ≤ i ∧ len < 128 ^ count ∧
      BinaryWriter.compressLoop len i [] = groups len count := by
  induction i with
  | zero => exact ⟨0, Nat.le_refl 0, fits, rfl⟩
  | succ i ih =>
      by_cases leading : group len i = 0
      · -- A leading zero digit is skipped, so the value already fits one digit less.
        have zero : len / 128 ^ i % 128 = 0 := by rw [← group_toNat, leading]; rfl
        have below : len / 128 ^ i < 128 := by
          rw [Nat.div_lt_iff_lt_mul (by positivity), Nat.mul_comm, ← pow_succ]
          exact fits
        have smaller : len < 128 ^ i := by
          rw [Nat.mod_eq_of_lt below] at zero
          exact (Nat.div_eq_zero_iff_lt (by positivity)).mp zero
        obtain ⟨count, bounded, small, equal⟩ := ih smaller
        refine ⟨count, Nat.le_succ_of_le bounded, small, ?_⟩
        rw [← equal]
        simp only [compressLoop_succ, leading, and_self, ↓reduceIte]
      · refine ⟨i + 1, Nat.le_refl _, fits, ?_⟩
        simp only [compressLoop_succ, leading, false_and, ↓reduceIte, List.nil_append]
        rw [compressLoop_append len i _ (by simp)]
        rfl

theorem compress_groups (len : Nat) (fits : len < 128 ^ 5) :
    ∃ count, 0 < count ∧ count ≤ 5 ∧ len < 128 ^ count ∧
      BinaryWriter.compress len [] = groups len count := by
  by_cases short : len < 128
  · refine ⟨1, Nat.one_pos, by omega, by simpa using short, ?_⟩
    simp [BinaryWriter.compress, short, groups, group]
  · obtain ⟨count, bounded, small, equal⟩ := compressLoop_groups len 5 fits
    have positive : 0 < count := by
      rcases Nat.eq_zero_or_pos count with none | some
      · subst count
        simp at small
        omega
      · exact some
    exact ⟨count, positive, bounded, small, by simpa [BinaryWriter.compress, short] using equal⟩

theorem encodeString_length_le (data : Bytes) (short : data.length < 2 ^ 31) :
    (encodeString data).length ≤ data.length + 5 ∧ data.length < (encodeString data).length := by
  obtain ⟨count, positive, most, -, emitted⟩ := compress_groups data.length (by omega)
  rw [encodeString, emitted, List.length_append, groups_length]
  omega

theorem shift_or_toNat (lenght : UInt32) (digit : UInt8) (small : digit.toNat < 128)
    (fits : lenght.toNat * 128 + digit.toNat < 2 ^ 32) :
    ((lenght <<< 7) ||| digit.toUInt32).toNat = lenght.toNat * 128 + digit.toNat := by
  have shifted : (lenght <<< 7).toNat = 128 * lenght.toNat := by
    rw [UInt32.toNat_shiftLeft]
    simp only [UInt32.reduceToNat, Nat.shiftLeft_eq, Nat.reduceMod, Nat.reducePow]
    omega
  have joined := Nat.two_pow_add_eq_or_of_lt (i := 7) small lenght.toNat
  rw [UInt32.toNat_or, shifted, UInt8.toNat_toUInt32]
  simp only [Nat.reducePow] at joined
  omega

/-- The reader's loop over a numeral of `count` digits. Before digit `count - 1`
the accumulator holds the digits read so far, that is `len / 128 ^ count`. -/
theorem lengthLoop_groups (len : Nat) (fits : len < 2 ^ 32) (pcur : Nat → UInt8)
    (count i bound : Nat) (lenght : UInt32) (positive : 0 < count) (enough : count ≤ bound)
    (held : lenght.toNat = len / 128 ^ count)
    (bytes : ∀ j, j < count → pcur (i + j) = (groups len count).getD j 0) :
    BinaryReader.lengthLoop pcur bound i lenght = (UInt32.ofNat len, i + count - 1) := by
  induction count generalizing i bound lenght with
  | zero => omega
  | succ count ih =>
      obtain ⟨room, rfl⟩ : ∃ room, bound = room + 1 := ⟨bound - 1, by omega⟩
      -- the digit under the cursor; only the last one is unmarked
      have first : pcur i = if 0 < count then group len count ||| 0x80 else group len count := by
        simpa [groups] using bytes 0 (Nat.succ_pos count)
      obtain ⟨plainDigit, plainStop, markedDigit, markedStop⟩ := group_bits len count
      have digit : pcur i &&& 0x7F = group len count := by
        rw [first]
        split
        · exact markedDigit
        · exact plainDigit
      -- one round moves the accumulator from one quotient to the next
      have step : lenght.toNat * 128 + (group len count).toNat = len / 128 ^ count := by
        rw [held, group_toNat, pow_succ, ← Nat.div_div_eq_div_mul]
        exact Nat.div_add_mod' (len / 128 ^ count) 128
      have small : (group len count).toNat < 128 := by rw [group_toNat]; omega
      have below : len / 128 ^ count < 2 ^ 32 := lt_of_le_of_lt (Nat.div_le_self _ _) fits
      have advanced := shift_or_toNat lenght (group len count) small (by omega)
      rw [step] at advanced
      simp only [BinaryReader.lengthLoop, digit]
      by_cases last : count = 0
      · subst count
        have stop : pcur i &&& 0x80 = 0 := by rw [first]; simpa using plainStop
        simp only [stop, ↓reduceIte, Nat.zero_add, Nat.add_sub_cancel]
        congr 1
        apply UInt32.toNat.inj
        rw [advanced, UInt32.toNat_ofNat_of_lt' fits]
        simp
      · have more : 0 < count := Nat.pos_of_ne_zero last
        have go : pcur i &&& 0x80 ≠ 0 := by rw [first]; simpa [more] using markedStop
        simp only [go, ↓reduceIte]
        rw [ih (i + 1) room _ more (by omega) advanced ?_]
        · congr 1
          omega
        · intro j inside
          have next := bytes (j + 1) (by omega)
          rw [show i + 1 + j = i + (j + 1) by omega, next]
          simp [groups]

end LengthPrefix

/-! One encoded field in the middle of a buffer: the reader returns the value and
leaves its cursor behind the field, whatever stands before and after it. -/
section FieldReads

theorem readInt_encoded (front rest : Bytes) (value : Int32)
    (fits : front.length + 4 < 2 ^ 32) :
    BinaryReader.readInt ⟨front ++ (encodeInt value ++ rest), front.length⟩ =
      some (value, ⟨front ++ (encodeInt value ++ rest), front.length + 4⟩) := by
  have size := encodeInt_length value
  have object : ((front ++ (encodeInt value ++ rest)).drop front.length).take 4 =
      encodeInt value := by
    rw [List.drop_left, ← size, List.take_left]
  have decoded : int32OfNat (leNat (encodeInt value).reverse) = value := by
    rw [encodeInt, List.reverse_reverse, leNat_leBytes_of_lt 4 _ value.toUInt32.toNat_lt,
      int32OfNat_toUInt32]
  have inside : ¬ front.length + 4 > (front ++ (encodeInt value ++ rest)).length := by
    simp only [List.length_append, size]
    omega
  simp only [BinaryReader.readInt, BinaryReader.readData, if_neg inside, object,
    Option.map_some, decoded, Nat.mod_eq_of_lt fits]

theorem byteAt_middle (mem : Nat → UInt8) (front middle rest : Bytes) (index j : Nat)
    (inside : j < middle.length) :
    BinaryReader.byteAt mem ⟨front ++ (middle ++ rest), index⟩ (front.length + j) =
      middle.getD j 0 := by
  have bound : front.length + j < (front ++ (middle ++ rest)).length := by
    simp only [List.length_append]
    omega
  simp only [BinaryReader.byteAt, bound, ↓reduceIte]
  rw [List.getD_append_right _ _ _ _ (Nat.le_add_right _ _), Nat.add_sub_cancel_left,
    List.getD_append _ _ _ _ inside]

theorem range_map_getD (data : Bytes) :
    (List.range data.length).map (fun j => data.getD j 0) = data := by
  apply List.ext_getElem
  · simp
  · intro j _ inside
    simp only [List.getElem_map, List.getElem_range]
    exact List.getD_eq_getElem _ 0 inside

theorem readString_encoded (mem : Nat → UInt8) (front data rest : Bytes)
    (short : data.length < 2 ^ 31)
    (fits : front.length + (encodeString data).length < 2 ^ 32) :
    BinaryReader.readString mem ⟨front ++ (encodeString data ++ rest), front.length⟩ =
      .ok (data, ⟨front ++ (encodeString data ++ rest),
        front.length + (encodeString data).length⟩) := by
  obtain ⟨count, positive, -, digits, emitted⟩ := compress_groups data.length (by omega)
  have width : (BinaryWriter.compress data.length []).length = count := by
    rw [emitted, groups_length]
  have size : (encodeString data).length = count + data.length := by
    rw [encodeString, List.length_append, width]
  have bound : BinaryReader.sizeSub (front ++ (encodeString data ++ rest)).length front.length =
      (encodeString data).length + rest.length := by
    simp only [BinaryReader.sizeSub, List.length_append, Nat.le_add_right, ↓reduceIte]
    omega
  -- the length prefix ends inside the encoded field, so `mem` is never asked
  have scanned : BinaryReader.lengthLoop
      (fun j => BinaryReader.byteAt mem ⟨front ++ (encodeString data ++ rest), front.length⟩
        (front.length + j)) ((encodeString data).length + rest.length) 0 0 =
      (UInt32.ofNat data.length, 0 + count - 1) := by
    apply lengthLoop_groups data.length (by omega) _ count 0 _ 0 positive (by omega)
    · simp [Nat.div_eq_of_lt digits]
    · intro j inside
      simp only [Nat.zero_add]
      rw [byteAt_middle mem front _ rest front.length j (by omega), encodeString, emitted]
      exact List.getD_append _ _ _ _ (by rw [groups_length]; exact inside)
  have length : (UInt32.ofNat data.length).toNat = data.length :=
    UInt32.toNat_ofNat_of_lt' (by simp [UInt32.size]; omega)
  have nonnegative : ¬ (UInt32.ofNat data.length).toInt32 < 0 := by
    rw [toInt32_negative_iff, length]
    omega
  -- neither cursor update wraps
  have start : (front.length + (0 + count - 1 + 1)) % 2 ^ 32 = front.length + count := by
    omega
  have content : (List.range data.length).map
      (fun j => BinaryReader.byteAt mem ⟨front ++ (encodeString data ++ rest), front.length⟩
        (front.length + count + j)) = data := by
    refine Eq.trans (List.map_congr_left ?_) (range_map_getD data)
    intro j member
    have inside := List.mem_range.mp member
    rw [Nat.add_assoc, byteAt_middle mem front _ rest front.length (count + j) (by omega),
      encodeString, List.getD_append_right _ _ _ _ (by omega), width, Nat.add_sub_cancel_left]
  have stop : (front.length + count + data.length) % 2 ^ 32 =
      front.length + (encodeString data).length := by
    omega
  simp only [BinaryReader.readString, bound, scanned, length, nonnegative, ↓reduceIte, start,
    content, stop]

end FieldReads

/-! Field lists. A schema is the list of kinds the reader is driven by. -/
section Schema

inductive Field where
  | int (value : Int32)
  | string (data : Bytes)
  deriving DecidableEq, Repr

inductive Kind where
  | int
  | string
  deriving DecidableEq, Repr

def Field.kind : Field → Kind
  | .int _ => .int
  | .string _ => .string

def encodeField : Field → Bytes
  | .int value => encodeInt value
  | .string data => encodeString data

def writeField (write : BinaryWriter) : Field → BinaryWriter
  | .int value => write.writeInt value
  | .string data => write.writeString data

def writeFields (write : BinaryWriter) (fields : List Field) : BinaryWriter :=
  fields.foldl writeField write

/-- One typed read: an exception, `none` for a read that returned false, or the
value with the advanced reader. -/
def readField (mem : Nat → UInt8) (reader : BinaryReader) :
    Kind → Except Fault (Option (Field × BinaryReader))
  | .int => .ok (reader.readInt.map fun (value, next) => (.int value, next))
  | .string => (reader.readString mem).map fun (data, next) => some (.string data, next)

def readFields (mem : Nat → UInt8) :
    List Kind → BinaryReader → Except Fault (Option (List Field × BinaryReader))
  | [], reader => .ok (some ([], reader))
  | kind :: rest, reader =>
      match readField mem reader kind with
      | .error fault => .error fault
      | .ok none => .ok none
      | .ok (some (field, next)) =>
          match readFields mem rest next with
          | .error fault => .error fault
          | .ok none => .ok none
          | .ok (some (fields, last)) => .ok (some (field :: fields, last))

def Field.Short : Field → Prop
  | .int _ => True
  | .string data => data.length < 2 ^ 31

theorem writeField_exact (write : BinaryWriter) (field : Field) (synced : write.Synced)
    (fits : write.m_buffer.length + (encodeField field).length < 2 ^ 32) :
    (writeField write field).m_buffer = write.m_buffer ++ encodeField field ∧
      (writeField write field).Synced := by
  cases field with
  | int value =>
      exact ⟨writeInt_buffer write value synced,
        writeInt_synced write value synced (by simpa [encodeField] using fits)⟩
  | string data =>
      exact ⟨writeString_buffer write data, writeString_synced write data synced fits⟩

theorem writeFields_exact (fields : List Field) (write : BinaryWriter) (synced : write.Synced)
    (fits : write.m_buffer.length + (fields.flatMap encodeField).length < 2 ^ 32) :
    (writeFields write fields).m_buffer = write.m_buffer ++ fields.flatMap encodeField ∧
      (writeFields write fields).Synced := by
  induction fields generalizing write with
  | nil => simpa [writeFields] using synced
  | cons field rest ih =>
      simp only [List.flatMap_cons, List.length_append] at fits
      obtain ⟨buffer, stillSynced⟩ := writeField_exact write field synced (by omega)
      have tail := ih (writeField write field) stillSynced
        (by simp only [buffer, List.length_append]; omega)
      simpa [writeFields, buffer, List.append_assoc] using tail

theorem readField_encoded (mem : Nat → UInt8) (front rest : Bytes) (field : Field)
    (short : field.Short) (fits : front.length + (encodeField field).length < 2 ^ 32) :
    readField mem ⟨front ++ (encodeField field ++ rest), front.length⟩ field.kind =
      .ok (some (field, ⟨front ++ (encodeField field ++ rest),
        front.length + (encodeField field).length⟩)) := by
  cases field with
  | int value =>
      have read := readInt_encoded front rest value (by simpa [encodeField] using fits)
      simp only [encodeField, Field.kind, readField, read, Option.map_some, encodeInt_length]
  | string data =>
      have read := readString_encoded mem front data rest short fits
      simp only [encodeField, Field.kind, readField, read, Except.map]

theorem readFields_encoded (mem : Nat → UInt8) (fields : List Field) (front rest : Bytes)
    (short : ∀ field ∈ fields, field.Short)
    (fits : front.length + (fields.flatMap encodeField).length < 2 ^ 32) :
    readFields mem (fields.map Field.kind)
        ⟨front ++ (fields.flatMap encodeField ++ rest), front.length⟩ =
      .ok (some (fields, ⟨front ++ (fields.flatMap encodeField ++ rest),
        front.length + (fields.flatMap encodeField).length⟩)) := by
  induction fields generalizing front with
  | nil => simp [readFields]
  | cons field tail ih =>
      simp only [List.flatMap_cons, List.length_append] at fits
      have head := readField_encoded mem front (tail.flatMap encodeField ++ rest) field
        (short field (by simp)) (by omega)
      -- for the tail, the first field is part of what stands in front
      have next := ih (front ++ encodeField field)
        (fun other member => short other (List.mem_cons_of_mem field member))
        (by simp only [List.length_append]; omega)
      simp only [List.append_assoc, List.length_append] at next
      simp only [List.map_cons, List.flatMap_cons, List.append_assoc, readFields, head, next,
        List.length_append, Nat.add_assoc]

theorem written_fields (fields : List Field)
    (total : (fields.flatMap encodeField).length < 2 ^ 32) :
    (writeFields .fresh fields).toBytes = fields.flatMap encodeField := by
  have written := (writeFields_exact fields .fresh fresh_synced (by
    simpa [BinaryWriter.fresh] using total)).1
  simpa [BinaryWriter.toBytes, BinaryWriter.fresh] using written

/-- From the start of a buffer. -/
theorem read_fields (mem : Nat → UInt8) (fields : List Field) (suffix : Bytes)
    (short : ∀ field ∈ fields, field.Short)
    (total : (fields.flatMap encodeField).length < 2 ^ 32) :
    readFields mem (fields.map Field.kind)
        (BinaryReader.ofBytes (fields.flatMap encodeField ++ suffix)) =
      .ok (some (fields, ⟨fields.flatMap encodeField ++ suffix,
        (fields.flatMap encodeField).length⟩)) := by
  have read := readFields_encoded mem fields [] suffix short (by simpa using total)
  simpa only [BinaryReader.ofBytes, List.nil_append, List.length_nil, Nat.zero_add] using read

/-- Writing a list of fields and reading it back under its own schema returns
every field, and the cursor ends on the number of bytes written. -/
theorem fields_round_trip (mem : Nat → UInt8) (fields : List Field) (suffix : Bytes)
    (short : ∀ field ∈ fields, field.Short)
    (total : (fields.flatMap encodeField).length < 2 ^ 32) :
    ∃ last, readFields mem (fields.map Field.kind)
        (BinaryReader.ofBytes ((writeFields .fresh fields).toBytes ++ suffix)) =
          .ok (some (fields, last)) ∧
      last.m_index = (writeFields .fresh fields).toBytes.length := by
  rw [written_fields fields total]
  exact ⟨_, read_fields mem fields suffix short total, rfl⟩

/-- A negative integer and a string whose length needs two prefix bytes. -/
theorem fields_round_trip_two_groups :
    ∃ last, readFields (fun _ => 0) [.int, .string, .int]
        (BinaryReader.ofBytes ((writeFields .fresh
          [.int (-5), .string (List.replicate 130 7), .int 268435456]).toBytes ++ [1, 2])) =
          .ok (some ([.int (-5), .string (List.replicate 130 7), .int 268435456], last)) ∧
      last.m_index = (writeFields .fresh
        [.int (-5), .string (List.replicate 130 7), .int 268435456]).toBytes.length :=
  fields_round_trip (fun _ => 0) [.int (-5), .string (List.replicate 130 7), .int 268435456]
    [1, 2] (by simp [Field.Short]) (by decide +kernel)

end Schema

end EdoyumIM.FieldCodec
