import EdoyumIM.FieldCodec
import EdoyumIM.StreamFraming

/-!
Framing of both servers: `TcpSession::Send` and `OnRead`. The chat server puts
a 4-byte size in front of a frame, the file server an 8-byte one; both are in
host byte order and count the six bytes of inner length and checksum that the
reader skips. Sizes are signed on the wire and compared as `size_t`. The muduo
`Buffer` is a byte queue. A send on a null connection, the logging and the
unused read timestamp are left out.
-/

namespace EdoyumIM.SessionFraming

open MachineWords FieldCodec StreamFraming

/-- `TcpSession::Send` of the chat server (ClientSession.h): the bytes given to
`conn->send`, and the writer, which keeps the frame header it was reused for. -/
def send (write : BinaryWriter) : Bytes × BinaryWriter :=
  let out := write.toBytes
  let len := int32OfNat out.length
  let header := ((write.clear.writeData (leBytes 4 (len + 6).toUInt32.toNat)).writeInt
    len).writeData (leBytes 2 (htons 0).toNat)
  (header.toBytes ++ out, header)

/-- `TcpSession::Send` of the file server (FileServer/TcpSession.cpp): the same
with a 64-bit `len`, which `htonl` cuts to 32 bits. -/
def sendFile (write : BinaryWriter) : Bytes × BinaryWriter :=
  let out := write.toBytes
  let len := UInt64.ofNat out.length
  let header := ((write.clear.writeData (leBytes 8 (len + 6).toNat)).writeData
    (leBytes 4 (htonl len.toUInt32).toNat)).writeData (leBytes 2 (htons 0).toNat)
  (header.toBytes ++ out, header)

/-- One round of the `OnRead` loops, for a size header of `width` bytes. A
negative or too small size passes the unsigned test when the sum wraps or is
reached, and `assign` then throws. -/
def takeFrame (width : Nat) (buffer : Bytes) : Peek UInt8 Bytes Fault :=
  if buffer.length < width then .wait
  else
    let packagesize := signedOf (8 * width) (leNat (buffer.take width))
    if (buffer.length : Int) < (width + packagesize) % 2 ^ 64 then .wait
    else
      let body := buffer.drop width
      -- the count given to `assign` is negative, hence huge as a `size_t`
      if packagesize - 6 < 0 then .fail .lengthError
      else .frame ((body.drop 6).take (packagesize - 6).toNat) (body.drop packagesize.toNat)

theorem takeFrame_cases (width : Nat) (buffer : Bytes) (small : width ≤ 8)
    (result : Peek UInt8 Bytes Fault) (taken : takeFrame width buffer = result) :
    result = .wait ∨
    (width ≤ buffer.length ∧ result = .fail .lengthError ∧
      signedOf (8 * width) (leNat (buffer.take width)) < 6 ∧
      (width + signedOf (8 * width) (leNat (buffer.take width))) % 2 ^ 64 ≤ buffer.length) ∨
    (width ≤ buffer.length ∧ ∃ size : Nat,
      signedOf (8 * width) (leNat (buffer.take width)) = size ∧ 6 ≤ size ∧ size < 2 ^ 63 ∧
      width + size ≤ buffer.length ∧
      result = .frame (((buffer.drop width).drop 6).take (size - 6))
        ((buffer.drop width).drop size)) := by
  subst taken
  simp only [takeFrame]
  by_cases header : buffer.length < width
  · simp [header]
  have complete : width ≤ buffer.length := by omega
  simp only [header, ↓reduceIte, complete, true_and]
  generalize sizes : signedOf (8 * width) (leNat (buffer.take width)) = packagesize
  have upper : packagesize < 2 ^ 63 := by
    have bound := leNat_lt (buffer.take width)
    rw [List.length_take, Nat.min_eq_left complete,
      show (256 : Nat) = 2 ^ 8 by rfl, ← pow_mul] at bound
    rw [← sizes, signedOf]
    have narrow : (2 : Nat) ^ (8 * width - 1) ≤ 2 ^ 63 :=
      Nat.pow_le_pow_right (by omega) (by omega)
    split
    · omega
    · have cast : ((leNat (buffer.take width) : Nat) : Int) < 2 ^ (8 * width) := by
        exact_mod_cast bound
      omega
  by_cases short : (buffer.length : Int) < (width + packagesize) % 2 ^ 64
  · exact Or.inl (if_pos short)
  simp only [short, ↓reduceIte]
  by_cases negative : packagesize - 6 < 0
  · refine Or.inr (Or.inl ⟨by simp [negative], by omega, by omega⟩)
  · obtain ⟨size, rfl⟩ := Int.eq_ofNat_of_zero_le (show 0 ≤ packagesize by omega)
    refine Or.inr (Or.inr ⟨size, rfl, by omega, by omega, by omega, ?_⟩)
    simp only [negative, ↓reduceIte, Int.toNat_natCast]
    congr 2
    omega

theorem takeFrame_frame (width size : Nat) (buffer : Bytes) (small : width ≤ 8)
    (sizes : signedOf (8 * width) (leNat (buffer.take width)) = size) (enough : 6 ≤ size)
    (short : size < 2 ^ 63) (complete : width + size ≤ buffer.length) :
    takeFrame width buffer = .frame (((buffer.drop width).drop 6).take (size - 6))
      ((buffer.drop width).drop size) := by
  have header : ¬ buffer.length < width := by omega
  have reached : ¬ (buffer.length : Int) < (width + (size : Int)) % 2 ^ 64 := by omega
  have positive : ¬ (size : Int) - 6 < 0 := by omega
  have count : ((size : Int) - 6).toNat = size - 6 := by omega
  simp only [takeFrame, header, sizes, reached, positive, count, ↓reduceIte, Int.toNat_natCast]

theorem takeFrame_fail (width : Nat) (buffer : Bytes) (header : width ≤ buffer.length)
    (sizes : signedOf (8 * width) (leNat (buffer.take width)) < 6)
    (reached : (width + signedOf (8 * width) (leNat (buffer.take width))) % 2 ^ 64 ≤
      buffer.length) :
    takeFrame width buffer = .fail .lengthError := by
  have present : ¬ buffer.length < width := by omega
  have passes : ¬ (buffer.length : Int) <
      (width + signedOf (8 * width) (leNat (buffer.take width))) % 2 ^ 64 := by omega
  have negative : signedOf (8 * width) (leNat (buffer.take width)) - 6 < 0 := by omega
  simp only [takeFrame, present, passes, negative, ↓reduceIte]

theorem take_header (width : Nat) (buffer more : Bytes) (header : width ≤ buffer.length) :
    (buffer ++ more).take width = buffer.take width :=
  List.take_append_of_le_length header

/-- The decision about the head of the buffer only looks at the frame itself, so
it does not depend on what follows. -/
def sizeFramer (width : Nat) (positive : 0 < width) (small : width ≤ 8) :
    Framer UInt8 Bytes Fault where
  peek := takeFrame width
  empty_waits := by simp [takeFrame, positive]
  shrinks := by
    intro buffer message rest taken
    rcases takeFrame_cases width buffer small _ taken with
      waits | ⟨-, failed, -⟩ | ⟨-, size, -, enough, -, complete, framed⟩
    · cases waits
    · cases failed
    · injection framed with _ left
      rw [left, List.length_drop, List.length_drop]
      omega
  frame_extends := by
    intro buffer message rest more taken
    rcases takeFrame_cases width buffer small _ taken with
      waits | ⟨-, failed, -⟩ | ⟨header, size, sizes, enough, short, complete, framed⟩
    · cases waits
    · cases failed
    · injection framed with content left
      have body : ((buffer ++ more).drop width) = buffer.drop width ++ more :=
        List.drop_append_of_le_length header
      have length : (buffer.drop width).length = buffer.length - width := List.length_drop
      rw [takeFrame_frame width size (buffer ++ more) small
        (by rwa [take_header width buffer more header]) enough short
        (by simp only [List.length_append]; omega), body, content, left]
      -- the new symbols stand behind the frame, so content and rest split as before
      congr 1
      · rw [List.drop_append_of_le_length (by omega)]
        exact List.take_append_of_le_length (by simp only [List.length_drop]; omega)
      · exact List.drop_append_of_le_length (by omega)
  fail_extends := by
    intro buffer error more taken
    rcases takeFrame_cases width buffer small _ taken with
      waits | ⟨header, failed, sizes, reached⟩ | ⟨-, size, -, -, -, -, framed⟩
    · cases waits
    · rw [failed]
      apply takeFrame_fail
      · simp only [List.length_append]
        omega
      · rwa [take_header width buffer more header]
      · rw [take_header width buffer more header]
        simp only [List.length_append]
        omega
    · cases framed

/-! The sizes of the two headers. -/

theorem chatHeader_pos : 0 < 4 := by decide

theorem chatHeader_le : 4 ≤ 8 := by decide

theorem fileHeader_pos : 0 < 8 := by decide

theorem fileHeader_le : 8 ≤ 8 := by decide

/-- `ClientSession::OnRead` on the bytes buffered for a connection. -/
def ClientSession.onRead {S : Type} (process : S → Bytes → Except Fault (Bool × S))
    (state : S) (buffer : Bytes) : Reading S UInt8 Bytes Fault :=
  read (sizeFramer 4 chatHeader_pos chatHeader_le) process state buffer

/-- `FileSession::OnRead`, with the 64-bit `file_msg` header. -/
def FileSession.onRead {S : Type} (process : S → Bytes → Except Fault (Bool × S))
    (state : S) (buffer : Bytes) : Reading S UInt8 Bytes Fault :=
  read (sizeFramer 8 fileHeader_pos fileHeader_le) process state buffer

/-- The callbacks of one connection over the segments TCP delivers. -/
def ClientSession.receive {S : Type} (process : S → Bytes → Except Fault (Bool × S))
    (state : S) (segments : List Bytes) : Reading S UInt8 Bytes Fault :=
  feed (sizeFramer 4 chatHeader_pos chatHeader_le) process state [] segments

def FileSession.receive {S : Type} (process : S → Bytes → Except Fault (Bool × S))
    (state : S) (segments : List Bytes) : Reading S UInt8 Bytes Fault :=
  feed (sizeFramer 8 fileHeader_pos fileHeader_le) process state [] segments

/-- Any two ways of cutting a byte stream into reads, well formed or not, give
the same messages, the same handler state and the same end. -/
theorem segments_indistinguishable {S : Type} (process : S → Bytes → Except Fault (Bool × S))
    (state : S) (left right : List Bytes) (same : left.flatten = right.flatten) :
    ((ClientSession.receive process state left).rejected = false →
      ClientSession.receive process state left = ClientSession.receive process state right) ∧
    ((FileSession.receive process state left).rejected = false →
      FileSession.receive process state left = FileSession.receive process state right) :=
  ⟨segmentation_independent _ process state left right same,
    segmentation_independent _ process state left right same⟩

/-- A handler that accepts everything and remembers what it was handed. -/
def remember (log : List Bytes) (message : Bytes) : Except Fault (Bool × List Bytes) :=
  .ok (true, log ++ [message])

/-- One frame with payload `[42]`, then a size of `-1`, cut inside both headers. -/
theorem segments_indistinguishable_split :
    ClientSession.receive remember [] [[7, 0], [0, 0, 0, 0, 0, 1, 0, 0, 42, 255], [255, 255, 255]] =
      ClientSession.receive remember [] [[7, 0, 0, 0, 0, 0, 0, 1, 0, 0, 42, 255, 255, 255, 255]] ∧
    FileSession.receive remember [] [[7, 0], [0, 0, 0, 0, 0, 1, 0, 0, 42, 255], [255, 255, 255]] =
      FileSession.receive remember [] [[7, 0, 0, 0, 0, 0, 0, 1, 0, 0, 42, 255, 255, 255, 255]] := by
  have both := segments_indistinguishable remember []
    [[7, 0], [0, 0, 0, 0, 0, 1, 0, 0, 42, 255], [255, 255, 255]]
    [[7, 0, 0, 0, 0, 0, 0, 1, 0, 0, 42, 255, 255, 255, 255]] rfl
  exact ⟨both.1 (by decide), both.2 (by decide)⟩

/-! The frames the senders build, in closed form. -/
section SentFrames

def frameHeader (size : Nat) : Bytes :=
  leBytes 4 (int32OfNat size + 6).toUInt32.toNat ++ (encodeInt (int32OfNat size) ++ [0, 0])

def fileHeader (size : Nat) : Bytes :=
  leBytes 8 (UInt64.ofNat size + 6).toNat ++
    ((leBytes 4 (UInt64.ofNat size).toUInt32.toNat).reverse ++ [0, 0])

theorem htons_zero : leBytes 2 (htons 0).toNat = [0, 0] := by decide

theorem sized_synced (buffer : Bytes) : BinaryWriter.Synced ⟨buffer, buffer.length⟩ := rfl

theorem three_writes (first second third : Bytes)
    (fits : (first ++ (second ++ third)).length < 2 ^ 32) :
    ((BinaryWriter.fresh.writeData first).writeData second).writeData third =
      ⟨first ++ (second ++ third), (first ++ (second ++ third)).length⟩ := by
  simp only [List.length_append] at fits
  rw [writeData_exact BinaryWriter.fresh first fresh_synced
      (by simp only [BinaryWriter.fresh, List.length_nil]; omega),
    writeData_exact _ second (sized_synced _) (by simp [BinaryWriter.fresh]; omega),
    writeData_exact _ third (sized_synced _) (by simp [BinaryWriter.fresh]; omega)]
  simp [BinaryWriter.fresh, List.append_assoc]

theorem frameHeader_length (size : Nat) : (frameHeader size).length = 10 := by
  simp [frameHeader]

theorem fileHeader_length (size : Nat) : (fileHeader size).length = 14 := by
  simp [fileHeader]

theorem header_writes (write : BinaryWriter) (size : Nat) :
    ((write.clear.writeData (leBytes 4 (int32OfNat size + 6).toUInt32.toNat)).writeInt
      (int32OfNat size)).writeData (leBytes 2 (htons 0).toNat) = ⟨frameHeader size, 10⟩ := by
  rw [show write.clear = BinaryWriter.fresh from rfl, BinaryWriter.writeInt, htonl_bytes,
    htons_zero, three_writes _ _ _ (by simp)]
  exact congrArg (BinaryWriter.mk (frameHeader size)) (frameHeader_length size)

theorem fileHeader_writes (write : BinaryWriter) (size : Nat) :
    ((write.clear.writeData (leBytes 8 (UInt64.ofNat size + 6).toNat)).writeData
      (leBytes 4 (htonl (UInt64.ofNat size).toUInt32).toNat)).writeData
        (leBytes 2 (htons 0).toNat) = ⟨fileHeader size, 14⟩ := by
  rw [show write.clear = BinaryWriter.fresh from rfl, htonl_bytes, htons_zero,
    three_writes _ _ _ (by simp)]
  exact congrArg (BinaryWriter.mk (fileHeader size)) (fileHeader_length size)

/-- Both what goes on the wire and what is left in the writer: the header alone. -/
theorem send_exact (write : BinaryWriter) :
    send write = (frameHeader write.toBytes.length ++ write.toBytes,
      ⟨frameHeader write.toBytes.length, 10⟩) := by
  rw [send, header_writes write write.toBytes.length]
  rfl

theorem sendFile_exact (write : BinaryWriter) :
    sendFile write = (fileHeader write.toBytes.length ++ write.toBytes,
      ⟨fileHeader write.toBytes.length, 14⟩) := by
  rw [sendFile, fileHeader_writes write write.toBytes.length]
  rfl

theorem frameHeader_size (size : Nat) (short : size + 6 < 2 ^ 31) :
    leNat ((frameHeader size).take 4) = size + 6 := by
  have first : (frameHeader size).take 4 =
      leBytes 4 (int32OfNat size + 6).toUInt32.toNat := by
    rw [frameHeader]
    exact List.take_left' (leBytes_length 4 _)
  have value : (int32OfNat size + 6).toUInt32.toNat = size + 6 := by
    rw [int32OfNat, Int32.toUInt32_add, UInt32.toUInt32_toInt32, UInt32.toNat_add,
      UInt32.toNat_ofNat']
    have six : (6 : Int32).toUInt32.toNat = 6 := rfl
    rw [six]
    omega
  rw [first, leNat_leBytes_of_lt 4 _ (by omega), value]

theorem fileHeader_size (size : Nat) (short : size + 6 < 2 ^ 31) :
    leNat ((fileHeader size).take 8) = size + 6 := by
  have first : (fileHeader size).take 8 = leBytes 8 (UInt64.ofNat size + 6).toNat := by
    rw [fileHeader]
    exact List.take_left' (leBytes_length 8 _)
  have value : (UInt64.ofNat size + 6).toNat = size + 6 := by
    rw [UInt64.toNat_add, UInt64.toNat_ofNat']
    have six : (6 : UInt64).toNat = 6 := rfl
    rw [six]
    omega
  rw [first, leNat_leBytes_of_lt 8 _ (by omega), value]

end SentFrames

/-! A frame whose header carries the size of the rest is taken off whole, and a
proper prefix of it is left alone. -/
section WholeFrames

variable (width : Nat) (header out : Bytes) (wide : 4 ≤ width) (small : width ≤ 8)
  (length : header.length = width + 6) (short : out.length + 6 < 2 ^ 31)
  (size : leNat (header.take width) = out.length + 6)

include wide small length short size

theorem takeFrame_whole (more : Bytes) :
    takeFrame width (header ++ out ++ more) = .frame out more := by
  have first : (header ++ out ++ more).take width = header.take width := by
    rw [List.append_assoc]
    exact take_header width header _ (by omega)
  have half : (2 : Nat) ^ 31 ≤ 2 ^ (8 * width - 1) := Nat.pow_le_pow_right (by omega) (by omega)
  have sizes : signedOf (8 * width) (leNat ((header ++ out ++ more).take width)) =
      ((out.length + 6 : Nat) : Int) := by
    rw [first, size, signedOf_small _ _ (by omega)]
  have body : (header ++ out ++ more).drop width = header.drop width ++ (out ++ more) := by
    rw [List.append_assoc]
    exact List.drop_append_of_le_length (by omega)
  have inner : (header.drop width).length = 6 := by simp only [List.length_drop]; omega
  rw [takeFrame_frame width (out.length + 6) _ small sizes (by omega) (by omega)
    (by simp only [List.length_append]; omega), body]
  congr 1
  · rw [List.drop_left' inner, Nat.add_sub_cancel, List.take_left]
  · rw [← List.append_assoc, List.drop_left' (by simp only [List.length_append]; omega)]

theorem takeFrame_cut (cut : Nat) (proper : cut < (header ++ out).length) :
    takeFrame width ((header ++ out).take cut) = .wait := by
  have visible : ((header ++ out).take cut).length = cut := by
    rw [List.length_take, Nat.min_eq_left (by omega)]
  simp only [List.length_append] at proper
  by_cases early : cut < width
  · simp only [takeFrame, visible, early, ↓reduceIte]
  · have first : ((header ++ out).take cut).take width = header.take width := by
      rw [List.take_take, Nat.min_eq_left (by omega)]
      exact take_header width header out (by omega)
    have half : (2 : Nat) ^ 31 ≤ 2 ^ (8 * width - 1) :=
      Nat.pow_le_pow_right (by omega) (by omega)
    have sizes : signedOf (8 * width) (leNat (((header ++ out).take cut).take width)) =
        ((out.length + 6 : Nat) : Int) := by
      rw [first, size, signedOf_small _ _ (by omega)]
    -- the header is whole, but the size it names has not arrived yet
    have waits : (cut : Int) < (width + ((out.length + 6 : Nat) : Int)) % 2 ^ 64 := by omega
    simp only [takeFrame, visible, early, sizes, waits, ↓reduceIte]

end WholeFrames

section RoundTrip

variable {S : Type} (process : S → Bytes → Except Fault (Bool × S)) (state : S)

theorem frames_read (width : Nat) (positive : 0 < width) (wide : 4 ≤ width) (small : width ≤ 8)
    (header : Nat → Bytes) (length : ∀ size, (header size).length = width + 6)
    (sizes : ∀ size, size + 6 < 2 ^ 31 → leNat ((header size).take width) = size + 6)
    (payloads : List Bytes) (last : Bytes) (cut : Nat)
    (short : ∀ out ∈ payloads, out.length + 6 < 2 ^ 31) (lastShort : last.length + 6 < 2 ^ 31)
    (proper : cut < (header last.length ++ last).length)
    (accepts : ∀ out ∈ payloads, ∀ before, ∃ next, process before out = .ok (true, next)) :
    let reading := read (sizeFramer width positive small) process state
      (payloads.flatMap (fun out => header out.length ++ out) ++
        (header last.length ++ last).take cut)
    reading.handed = payloads ∧ reading.rejected = false ∧
      reading.finish = .waiting ((header last.length ++ last).take cut) := by
  apply read_encoded
  · intro out member more
    have bound := short out member
    exact takeFrame_whole width _ out wide small (length _) bound (sizes _ bound) more
  · exact takeFrame_cut width _ last wide small (length _) lastShort (sizes _ lastShort) cut
      proper
  · exact accepts

/-- The frames that either server's `Send` builds, followed by a proper prefix of
one more, hand exactly the payloads to `Process` and leave the prefix behind. -/
theorem framing_round_trip (writes : List BinaryWriter) (last : BinaryWriter)
    (chatCut fileCut : Nat)
    (short : ∀ write ∈ writes, write.toBytes.length ≤ 2 ^ 31 - 7)
    (lastShort : last.toBytes.length ≤ 2 ^ 31 - 7)
    (chatProper : chatCut < (send last).1.length)
    (fileProper : fileCut < (sendFile last).1.length)
    (accepts : ∀ write ∈ writes, ∀ before, ∃ next,
      process before write.toBytes = .ok (true, next)) :
    (let reading := ClientSession.onRead process state
      (writes.flatMap (fun write => (send write).1) ++ (send last).1.take chatCut)
    reading.handed = writes.map BinaryWriter.toBytes ∧ reading.rejected = false ∧
      reading.finish = .waiting ((send last).1.take chatCut)) ∧
    (let reading := FileSession.onRead process state
      (writes.flatMap (fun write => (sendFile write).1) ++ (sendFile last).1.take fileCut)
    reading.handed = writes.map BinaryWriter.toBytes ∧ reading.rejected = false ∧
      reading.finish = .waiting ((sendFile last).1.take fileCut)) := by
  have bounds : ∀ out ∈ writes.map BinaryWriter.toBytes, out.length + 6 < 2 ^ 31 := by
    intro out member
    obtain ⟨write, inside, rfl⟩ := List.mem_map.mp member
    have bound := short write inside
    omega
  have agree : ∀ out ∈ writes.map BinaryWriter.toBytes, ∀ before, ∃ next,
      process before out = .ok (true, next) := by
    intro out member before
    obtain ⟨write, inside, rfl⟩ := List.mem_map.mp member
    exact accepts write inside before
  simp only [send_exact, sendFile_exact] at chatProper fileProper ⊢
  have chat := frames_read process state 4 (by omega) (by omega) (by omega) frameHeader
    frameHeader_length frameHeader_size (writes.map BinaryWriter.toBytes) last.toBytes chatCut
    bounds (by omega) chatProper agree
  have file := frames_read process state 8 (by omega) (by omega) (by omega) fileHeader
    fileHeader_length fileHeader_size (writes.map BinaryWriter.toBytes) last.toBytes fileCut
    bounds (by omega) fileProper agree
  simp only [List.flatMap_map] at chat file
  exact ⟨chat, file⟩

theorem framing_round_trip_two_frames :
    (ClientSession.onRead remember [] ([⟨[1, 2, 3], 3⟩, ⟨[], 0⟩].flatMap
        (fun write => (send write).1) ++ (send ⟨[9], 1⟩).1.take 6)).handed = [[1, 2, 3], []] ∧
      (FileSession.onRead remember [] ([⟨[1, 2, 3], 3⟩, ⟨[], 0⟩].flatMap
        (fun write => (sendFile write).1) ++ (sendFile ⟨[9], 1⟩).1.take 14)).handed =
          [[1, 2, 3], []] := by
  have both := framing_round_trip remember [] [⟨[1, 2, 3], 3⟩, ⟨[], 0⟩] ⟨[9], 1⟩ 6 14
    (by decide) (by decide) (by decide) (by decide)
    (fun write _ before => ⟨before ++ [write.toBytes], rfl⟩)
  exact ⟨both.1.1, both.2.1⟩

end RoundTrip

end EdoyumIM.SessionFraming
