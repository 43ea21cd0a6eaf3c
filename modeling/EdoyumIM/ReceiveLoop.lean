import EdoyumIM.NetBuffer
import EdoyumIM.SessionFraming

/-!
The receive callbacks on the buffer of the connection itself: `handleRead`
appends what was read, `OnRead` copies frames out of the vector and moves the
indices. They hand over what the loop on plain bytes hands over, and no
assertion of the buffer fails. A callback without a result has aborted.
-/

namespace EdoyumIM.ReceiveLoop

open MachineWords FieldCodec StreamFraming SessionFraming ByteFiles NetBuffer

/-! A framing loop whose symbols lie in a store of its own. `view` says which
symbols a store holds; rounds on the store that look like rounds on its symbols
make callbacks that look alike. -/
section Backing

variable {S B C M E : Type}

inductive Round (C M E : Type) where
  | wait
  | frame (message : M) (rest : C)
  | fail (error : E)

def Round.peek (view : C → List B) : Round C M E → Peek B M E
  | .wait => .wait
  | .frame message rest => .frame message (view rest)
  | .fail error => .fail error

structure Outcome (S C M E : Type) where
  state : S
  handed : List M
  rejected : Bool
  ended : Except E C

def Outcome.after (first : List M) (refused : Bool) (outcome : Outcome S C M E) :
    Outcome S C M E :=
  { outcome with
    handed := first ++ outcome.handed
    rejected := refused || outcome.rejected }

def Outcome.reading (view : C → List B) (outcome : Outcome S C M E) : Reading S B M E where
  state := outcome.state
  handed := outcome.handed
  rejected := outcome.rejected
  finish := match outcome.ended with
    | .ok store => .waiting (view store)
    | .error error => .failed error

def turn (round : C → Option (Round C M E)) (process : S → M → Except E (Bool × S)) :
    Nat → S → C → Option (Outcome S C M E)
  | 0, state, store => some ⟨state, [], false, .ok store⟩
  | fuel + 1, state, store => do
      match ← round store with
      | .wait => some ⟨state, [], false, .ok store⟩
      | .fail error => some ⟨state, [], false, .error error⟩
      | .frame message rest =>
          match process state message with
          | .error error => some ⟨state, [message], false, .error error⟩
          | .ok (accepted, next) =>
              let later ← turn round process fuel next rest
              some (later.after [message] (!accepted))

/-- The callbacks over the segments of a stream, each appended by `fill` first. -/
def callbacks (round : C → Option (Round C M E)) (fill : List B → C → Option C)
    (size : C → Nat) (process : S → M → Except E (Bool × S)) :
    S → C → List (List B) → Option (Outcome S C M E)
  | state, store, [] => some ⟨state, [], false, .ok store⟩
  | state, store, segment :: rest => do
      let filled ← fill segment store
      let first ← turn round process (size filled + 1) state filled
      match first.ended with
      | .error _ => some first
      | .ok left =>
          if first.rejected then some first
          else
            let later ← callbacks round fill size process first.state left rest
            some (later.after first.handed false)

variable (framer : Framer B M E) (process : S → M → Except E (Bool × S)) (view : C → List B)
  (round : C → Option (Round C M E)) (fill : List B → C → Option C) (size : C → Nat)

theorem reading_after (first : List M) (refused : Bool) (outcome : Outcome S C M E) :
    (outcome.after first refused).reading view = (outcome.reading view).after first refused := rfl

theorem turn_reads
    (looks : ∀ store, (round store).map (Round.peek view) = some (framer.peek (view store)))
    (fuel : Nat) (state : S) (store : C) :
    (turn round process fuel state store).map (Outcome.reading view) =
      some (loop framer process fuel state (view store)) := by
  induction fuel generalizing state store with
  | zero => rfl
  | succ fuel ih =>
      have look := looks store
      cases seen : round store with
      | none =>
          rw [seen] at look
          cases look
      | some taken =>
          rw [seen, Option.map_some, Option.some.injEq] at look
          simp only [turn, loop, seen, Option.bind_eq_bind, Option.bind_some, ← look]
          cases taken with
          | wait => rfl
          | fail error => rfl
          | frame message rest =>
              simp only [Round.peek]
              cases handled : process state message with
              | error error => rfl
              | ok answer =>
                  obtain ⟨later, ran, same⟩ := Option.map_eq_some_iff.mp (ih answer.2 rest)
                  simp only [ran, Option.bind_some, Option.map_some, reading_after, same]

theorem callbacks_feed
    (looks : ∀ store, (round store).map (Round.peek view) = some (framer.peek (view store)))
    (fills : ∀ segment store, (fill segment store).map view = some (view store ++ segment))
    (sizes : ∀ store, size store = (view store).length)
    (segments : List (List B)) (state : S) (store : C) :
    (callbacks round fill size process state store segments).map (Outcome.reading view) =
      some (feed framer process state (view store) segments) := by
  induction segments generalizing state store with
  | nil => rfl
  | cons segment rest ih =>
      obtain ⟨filled, full, whole⟩ := Option.map_eq_some_iff.mp (fills segment store)
      obtain ⟨first, ran, same⟩ := Option.map_eq_some_iff.mp
        (turn_reads framer process view round looks (size filled + 1) state filled)
      have once : read framer process state (view store ++ segment) = first.reading view := by
        rw [StreamFraming.read, ← whole, ← sizes, same]
      simp only [callbacks, feed, full, ran, once, Option.bind_eq_bind, Option.bind_some]
      cases ended : first.ended with
      | error error => simp only [Option.map_some, Outcome.reading, ended]
      | ok left =>
          simp only [Outcome.reading, ended]
          cases refused : first.rejected with
          | true =>
              simp only [↓reduceIte, Option.map_some, Outcome.reading, ended, refused]
          | false =>
              obtain ⟨later, went, rest⟩ := Option.map_eq_some_iff.mp (ih first.state left)
              simp only [Bool.false_eq_true, ↓reduceIte, went, Option.bind_some,
                Option.map_some, reading_after, rest]

end Backing

/-! The rounds of both `OnRead`. -/
section Sessions

/-- One round of `OnRead` on the vector and its indices, for a size of `width` bytes. -/
def frameRound (width : Nat) (buf : Buffer) : Option (Round Buffer Bytes Fault) :=
  if buf.readableBytes < width then some .wait
  else
    -- what is copied from `peek()` does not stop at the readable bytes
    let packagesize := signedOf (8 * width) (leNat (readAt buf.readerIndex width buf.buffer))
    if (buf.readableBytes : Int) < (width + packagesize) % 2 ^ 64 then some .wait
    else do
      let body ← buf.retrieve width
      if packagesize - 6 < 0 then some (.fail .lengthError)
      else
        let inbuf := readAt (body.readerIndex + 6) (packagesize - 6).toNat body.buffer
        let rest ← body.retrieve packagesize.toNat
        some (.frame inbuf rest)

theorem readAt_peek (buf : Buffer) (skipped count : Nat)
    (within : skipped + count ≤ buf.readableBytes) :
    readAt (buf.readerIndex + skipped) count buf.buffer =
      (buf.readable.drop skipped).take count := by
  rw [Buffer.readable, readAt, readAt, List.drop_take, List.drop_drop, List.take_take,
    Nat.min_eq_left (by omega)]

theorem packagesize_lt (bytes : Bytes) (small : bytes.length ≤ 8) :
    signedOf (8 * bytes.length) (leNat bytes) < 2 ^ 63 := by
  have bound := leNat_lt bytes
  rw [show (256 : Nat) = 2 ^ 8 by rfl, ← pow_mul] at bound
  have narrow : (2 : Nat) ^ (8 * bytes.length - 1) ≤ 2 ^ 63 :=
    Nat.pow_le_pow_right (by omega) (by omega)
  have cast : (leNat bytes : Int) < 2 ^ (8 * bytes.length) := by exact_mod_cast bound
  rw [signedOf]
  split <;> omega

theorem frameRound_peek (width : Nat) (small : width ≤ 8) (buf : Buffer) :
    (frameRound width buf).map (Round.peek Buffer.readable) =
      some (takeFrame width buf.readable) := by
  have length := buf.readable_length
  by_cases header : buf.readableBytes < width
  · have waits : buf.readable.length < width := by omega
    simp only [frameRound, takeFrame, header, waits, ↓reduceIte, Option.map_some, Round.peek]
  · have complete : ¬ buf.readable.length < width := by omega
    have sizes := readAt_peek buf 0 width (by omega)
    rw [Nat.add_zero, List.drop_zero] at sizes
    have front : (buf.readable.take width).length = width := by
      rw [List.length_take]
      omega
    have upper := packagesize_lt (buf.readable.take width) (by omega)
    rw [front] at upper
    simp only [frameRound, takeFrame, header, ↓reduceIte, sizes, length]
    generalize signedOf (8 * width) (leNat (buf.readable.take width)) = packagesize at upper
    by_cases short : (buf.readableBytes : Int) < (width + packagesize) % 2 ^ 64
    · simp only [short, ↓reduceIte, Option.map_some, Round.peek]
    · have cut := buf.retrieve_readable width
      rw [if_pos (by omega)] at cut
      obtain ⟨body, taken, left⟩ := Option.map_eq_some_iff.mp cut
      simp only [short, ↓reduceIte, taken, Option.bind_eq_bind, Option.bind_some]
      by_cases negative : packagesize - 6 < 0
      · simp only [negative, ↓reduceIte, Option.map_some, Round.peek]
      · have size : body.readableBytes = buf.readableBytes - width := by
          rw [← body.readable_length, left, List.length_drop, length]
        have content := readAt_peek body 6 (packagesize - 6).toNat (by omega)
        have last := body.retrieve_readable packagesize.toNat
        rw [if_pos (by rw [body.readable_length]; omega)] at last
        obtain ⟨rest, dropped, behind⟩ := Option.map_eq_some_iff.mp last
        simp only [negative, ↓reduceIte, dropped, Option.bind_some, Option.map_some, Round.peek,
          content, behind, left]

/-- The calls of `handleRead` on one connection, from the state its buffer is
created in. -/
def handleReads {S : Type} (width : Nat) (process : S → Bytes → Except Fault (Bool × S))
    (state : S) (reads : List Bytes) : Option (Outcome S Buffer Bytes Fault) :=
  callbacks (frameRound width) Buffer.readFd Buffer.readableBytes process state
    (Buffer.new kInitialSize) reads

theorem handleReads_feed {S : Type} (width : Nat) (positive : 0 < width) (small : width ≤ 8)
    (process : S → Bytes → Except Fault (Bool × S)) (state : S) (reads : List Bytes) :
    (handleReads width process state reads).map (Outcome.reading Buffer.readable) =
      some (feed (sizeFramer width positive small) process state [] reads) := by
  have fills (data : Bytes) (buf : Buffer) :
      (buf.readFd data).map Buffer.readable = some (buf.readable ++ data) := by
    obtain ⟨next, ran, whole, -⟩ := buf.readFd_exact data
    rw [ran, Option.map_some, whole]
  have same := callbacks_feed (sizeFramer width positive small) process Buffer.readable
    (frameRound width) (fun data buf => buf.readFd data) Buffer.readableBytes
    (frameRound_peek width small) fills
    (fun buf => buf.readable_length.symm) reads state (Buffer.new kInitialSize)
  rw [Buffer.readable_new] at same
  exact same

def ClientSession.handleReads {S : Type} (process : S → Bytes → Except Fault (Bool × S))
    (state : S) (reads : List Bytes) : Option (Outcome S Buffer Bytes Fault) :=
  ReceiveLoop.handleReads 4 process state reads

def FileSession.handleReads {S : Type} (process : S → Bytes → Except Fault (Bool × S))
    (state : S) (reads : List Bytes) : Option (Outcome S Buffer Bytes Fault) :=
  ReceiveLoop.handleReads 8 process state reads

/-- Whatever arrives, in whatever reads, the loops of both sessions on the
vector never fail an assertion of the buffer and do what they do on plain bytes. -/
theorem receive_refines {S : Type} (process : S → Bytes → Except Fault (Bool × S)) (state : S)
    (reads : List Bytes) :
    (ClientSession.handleReads process state reads).map (Outcome.reading Buffer.readable) =
        some (ClientSession.receive process state reads) ∧
      (FileSession.handleReads process state reads).map (Outcome.reading Buffer.readable) =
        some (FileSession.receive process state reads) :=
  ⟨handleReads_feed 4 chatHeader_pos chatHeader_le process state reads,
    handleReads_feed 8 fileHeader_pos fileHeader_le process state reads⟩

end Sessions

end EdoyumIM.ReceiveLoop
