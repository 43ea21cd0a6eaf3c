import EdoyumIM.ConnectionLifecycle
import EdoyumIM.ReceiveLoop

/-!
A connection as a transport. The frames of the sessions go through the output
side of a connection, whatever parts of them the kernel takes at a time, and
come out of the receive loops at the other end, in whatever reads the bytes
arrive there.
-/

namespace EdoyumIM.Transport

open MachineWords FieldCodec StreamFraming SessionFraming NetBuffer ReceiveLoop TcpConnections
  ConnectionPhases ConnectionLifecycle

/-! A prefix of a row of frames. -/
section Prefixes

variable {α B : Type}

/-- Some whole frames and a proper part of the next one, if there is a next one. -/
theorem prefix_frames (frame : α → List B) (items : List α) (stream : List B)
    (front : stream <+: items.flatMap frame) :
    ∃ whole tail, stream = (items.take whole).flatMap frame ++ tail ∧ whole ≤ items.length ∧
      (tail ≠ [] → ∃ item cut, items[whole]? = some item ∧ cut < (frame item).length ∧
        tail = (frame item).take cut) := by
  induction items generalizing stream with
  | nil =>
      have empty : stream = [] := List.prefix_nil.mp front
      exact ⟨0, [], by simpa using empty, Nat.le_refl 0, fun some => absurd rfl some⟩
  | cons item rest ih =>
      rw [List.flatMap_cons] at front
      by_cases long : (frame item).length ≤ stream.length
      · obtain ⟨later, rfl⟩ : ∃ later, stream = frame item ++ later := by
          obtain ⟨beyond, whole⟩ := front
          have head : stream.take (frame item).length = frame item := by
            have taken : (stream ++ beyond).take (frame item).length = stream.take _ :=
              List.take_append_of_le_length long
            rw [← taken, whole, List.take_left]
          exact ⟨stream.drop (frame item).length, by
            conv_lhs => rw [← List.take_append_drop (frame item).length stream, head]⟩
        have behind := (List.prefix_append_right_inj (frame item)).mp front
        obtain ⟨whole, tail, split, within, part⟩ := ih later behind
        refine ⟨whole + 1, tail, ?_, by simpa using within, ?_⟩
        · rw [List.take_succ_cons, List.flatMap_cons, List.append_assoc, ← split]
        · simpa using part
      · -- the stream ends inside the first frame
        have inside : stream <+: frame item :=
          List.prefix_of_prefix_length_le front (List.prefix_append _ _) (by omega)
        refine ⟨0, stream, rfl, Nat.zero_le _, fun _ => ⟨item, stream.length, rfl, by omega, ?_⟩⟩
        exact List.prefix_iff_eq_take.mp inside

end Prefixes

/-- The messages taken over on a connection, in order. -/
def messagesOf (id : Nat) (seen : List Seen) : List Bytes :=
  (seenOf id seen).filterMap fun label =>
    match label with
    | .sent _ data => some data
    | _ => none

theorem sentOf_eq (id : Nat) (seen : List Seen) :
    sentOf id seen = (messagesOf id seen).flatten := by
  rw [sentOf, messagesOf]
  induction seenOf id seen with
  | nil => rfl
  | cons label rest ih => cases label <;> simp [sentPart, ih]

/-! The two servers, each with its frames and its receive loop. -/
section Sides

inductive Side where
  | chat | file

def Side.frame : Side → BinaryWriter → Bytes
  | .chat, write => (send write).1
  | .file, write => (sendFile write).1

def Side.handleReads {S : Type} (process : S → Bytes → Except Fault (Bool × S)) (state : S)
    (reads : List Bytes) : Side → Option (Outcome S Buffer Bytes Fault)
  | .chat => ClientSession.handleReads process state reads
  | .file => FileSession.handleReads process state reads

variable {S : Type} (process : S → Bytes → Except Fault (Bool × S)) (state : S)

/-- Reads that add up to whole frames and a part of one more. -/
theorem frames_arrive (width : Nat) (positive : 0 < width) (wide : 4 ≤ width)
    (small : width ≤ 8) (header : Nat → Bytes)
    (length : ∀ size, (header size).length = width + 6)
    (sizes : ∀ size, size + 6 < 2 ^ 31 → leNat ((header size).take width) = size + 6)
    (payloads : List Bytes) (last : Bytes) (cut : Nat)
    (short : ∀ out ∈ payloads, out.length + 6 < 2 ^ 31) (lastShort : last.length + 6 < 2 ^ 31)
    (proper : cut < (header last.length ++ last).length)
    (accepts : ∀ out ∈ payloads, ∀ before, ∃ next, process before out = .ok (true, next))
    (reads : List Bytes)
    (arrived : reads.flatten = payloads.flatMap (fun out => header out.length ++ out) ++
      (header last.length ++ last).take cut) :
    ∃ outcome rest, ReceiveLoop.handleReads width process state reads = some outcome ∧
      outcome.handed = payloads ∧ outcome.rejected = false ∧ outcome.ended = .ok rest ∧
      rest.readable = (header last.length ++ last).take cut := by
  obtain ⟨handed, calm, finish⟩ := frames_read process state width positive wide small header
    length sizes payloads last cut short lastShort proper accepts
  rw [← arrived] at handed calm finish
  have whole := feed_eq_read (sizeFramer width positive small) process reads state []
    (sizeFramer width positive small).empty_waits (Or.inr calm)
  obtain ⟨outcome, ran, same⟩ := Option.map_eq_some_iff.mp
    (handleReads_feed width positive small process state reads)
  rw [whole, List.nil_append] at same
  rw [← same] at handed calm finish
  simp only [Outcome.reading] at handed calm finish
  cases ended : outcome.ended with
  | error error =>
      rw [ended] at finish
      cases finish
  | ok rest =>
      rw [ended] at finish
      exact ⟨outcome, rest, ran, handed, calm, ended, by simpa using finish⟩

/-- Frames of one side, whole ones and a part of one more, at its receive loop. -/
theorem side_arrives (side : Side) (writes : List BinaryWriter) (last : BinaryWriter) (cut : Nat)
    (short : ∀ write ∈ writes, write.toBytes.length ≤ 2 ^ 31 - 7)
    (lastShort : last.toBytes.length ≤ 2 ^ 31 - 7) (proper : cut < (side.frame last).length)
    (accepts : ∀ write ∈ writes, ∀ before, ∃ next,
      process before write.toBytes = .ok (true, next))
    (reads : List Bytes)
    (arrived : reads.flatten = writes.flatMap side.frame ++ (side.frame last).take cut) :
    ∃ outcome rest, side.handleReads process state reads = some outcome ∧
      outcome.handed = writes.map BinaryWriter.toBytes ∧ outcome.rejected = false ∧
      outcome.ended = .ok rest ∧ rest.readable = (side.frame last).take cut := by
  have bounds : ∀ out ∈ writes.map BinaryWriter.toBytes, out.length + 6 < 2 ^ 31 := by
    intro out member
    obtain ⟨write, inside, rfl⟩ := List.mem_map.mp member
    have bound := short write inside
    omega
  have agree : ∀ out ∈ writes.map BinaryWriter.toBytes, ∀ before, ∃ next,
      process before out = .ok (true, next) := by
    intro out member before
    obtain ⟨write, inside, rfl⟩ := List.mem_map.mp member
    exact accepts write inside before
  cases side with
  | chat =>
      have frames (write : BinaryWriter) : Side.chat.frame write =
          frameHeader write.toBytes.length ++ write.toBytes := by
        rw [Side.frame, send_exact]
      rw [frames] at proper ⊢
      refine frames_arrive process state 4 (by omega) (by omega) (by omega) frameHeader
        frameHeader_length frameHeader_size _ last.toBytes cut bounds (by omega) proper agree reads
        ?_
      rw [arrived, frames, List.flatMap_map]
      simp only [funext frames]
  | file =>
      have frames (write : BinaryWriter) : Side.file.frame write =
          fileHeader write.toBytes.length ++ write.toBytes := by
        rw [Side.frame, sendFile_exact]
      rw [frames] at proper ⊢
      refine frames_arrive process state 8 (by omega) (by omega) (by omega) fileHeader
        fileHeader_length fileHeader_size _ last.toBytes cut bounds (by omega) proper agree reads
        ?_
      rw [arrived, frames, List.flatMap_map]
      simp only [funext frames]

theorem frame_pos (side : Side) (write : BinaryWriter) : 0 < (side.frame write).length := by
  cases side with
  | chat =>
      rw [Side.frame, send_exact, List.length_append, frameHeader_length]
      omega
  | file =>
      rw [Side.frame, sendFile_exact, List.length_append, fileHeader_length]
      omega

end Sides

/-- Two frames are sent when a connection is up, of which the kernel has taken
17 of 24 bytes after the second turn. -/
def greeting : App := fun seen =>
  match seen.getLast? with
  | some (.up id) =>
      [.send id (send ⟨[1, 2, 3], 3⟩).1 (.wrote 5), .send id (send ⟨[9], 1⟩).1 (.wrote 0)]
  | _ => []

def greetingTurns : List (List Active) :=
  [[.accept 7], [.event 0 { out := true } none (.wrote 12)]]

def greetingReads : List Bytes :=
  [[9, 0, 0, 0, 0, 0, 0], [3, 0, 0, 1, 2, 3, 7, 0, 0, 0]]

end EdoyumIM.Transport
