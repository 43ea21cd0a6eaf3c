import Mathlib

/-!
Incremental framing of a symbol stream. A `Framer` looks at the head of a
buffer and either waits for more symbols, takes one message off, or fails. Its
laws say that a decision once taken is not revised when more symbols arrive.
`read` is the loop a receive callback runs over its buffer, `feed` the sequence
of callbacks over the segments of a stream; a callback whose handler rejected a
message ends the connection, so later segments are not read.
-/

namespace EdoyumIM.StreamFraming

inductive Peek (B M E : Type) where
  | wait
  | frame (message : M) (rest : List B)
  | fail (error : E)

structure Framer (B M E : Type) where
  peek : List B → Peek B M E
  empty_waits : peek [] = .wait
  shrinks : ∀ {buffer message rest}, peek buffer = .frame message rest →
    rest.length < buffer.length
  frame_extends : ∀ {buffer message rest} (more), peek buffer = .frame message rest →
    peek (buffer ++ more) = .frame message (rest ++ more)
  fail_extends : ∀ {buffer error} (more), peek buffer = .fail error →
    peek (buffer ++ more) = .fail error

inductive Finish (B E : Type) where
  | waiting (leftover : List B)
  | failed (error : E)
  deriving DecidableEq

/-- What a reading did: the handler state it ended in, the messages handed to
the handler in order, whether one was rejected, and how it ended. -/
@[ext] structure Reading (S B M E : Type) where
  state : S
  handed : List M
  rejected : Bool
  finish : Finish B E
  deriving DecidableEq

variable {S B M E : Type}

def Reading.after (first : List M) (refused : Bool) (reading : Reading S B M E) :
    Reading S B M E :=
  { reading with
    handed := first ++ reading.handed
    rejected := refused || reading.rejected }

def loop (framer : Framer B M E) (process : S → M → Except E (Bool × S)) :
    Nat → S → List B → Reading S B M E
  | 0, state, buffer => ⟨state, [], false, .waiting buffer⟩
  | fuel + 1, state, buffer =>
      match framer.peek buffer with
      | .wait => ⟨state, [], false, .waiting buffer⟩
      | .fail error => ⟨state, [], false, .failed error⟩
      | .frame message rest =>
          match process state message with
          | .error error => ⟨state, [message], false, .failed error⟩
          | .ok (accepted, next) =>
              (loop framer process fuel next rest).after [message] (!accepted)

def read (framer : Framer B M E) (process : S → M → Except E (Bool × S))
    (state : S) (buffer : List B) : Reading S B M E :=
  loop framer process (buffer.length + 1) state buffer

def feed (framer : Framer B M E) (process : S → M → Except E (Bool × S)) :
    S → List B → List (List B) → Reading S B M E
  | state, buffer, [] => ⟨state, [], false, .waiting buffer⟩
  | state, buffer, segment :: rest =>
      let first := read framer process state (buffer ++ segment)
      match first.finish with
      | .failed _ => first
      | .waiting leftover =>
          -- the connection is closed, later segments never reach the handler
          if first.rejected then first
          else (feed framer process first.state leftover rest).after first.handed false

variable (framer : Framer B M E) (process : S → M → Except E (Bool × S))

theorem loop_fuel (enough more : Nat) (state : S) (buffer : List B)
    (left : buffer.length < enough) (right : buffer.length < more) :
    loop framer process enough state buffer = loop framer process more state buffer := by
  induction enough generalizing more state buffer with
  | zero => omega
  | succ enough ih =>
      obtain ⟨more, rfl⟩ : ∃ previous, more = previous + 1 := ⟨more - 1, by omega⟩
      simp only [loop]
      cases head : framer.peek buffer with
      | wait => rfl
      | fail error => rfl
      | frame message rest =>
          have shorter := framer.shrinks head
          cases handled : process state message with
          | error error => simp only [handled]
          | ok outcome =>
              simp only [handled]
              rw [ih more outcome.2 rest (by omega) (by omega)]

/-! The four steps of the loop, without its fuel. -/

theorem read_wait (state : S) (buffer : List B) (head : framer.peek buffer = .wait) :
    read framer process state buffer = ⟨state, [], false, .waiting buffer⟩ := by
  simp only [read, loop, head]

theorem read_fail (state : S) (buffer : List B) (error : E)
    (head : framer.peek buffer = .fail error) :
    read framer process state buffer = ⟨state, [], false, .failed error⟩ := by
  simp only [read, loop, head]

theorem read_throw (state : S) (buffer rest : List B) (message : M) (error : E)
    (head : framer.peek buffer = .frame message rest)
    (handled : process state message = .error error) :
    read framer process state buffer = ⟨state, [message], false, .failed error⟩ := by
  simp only [read, loop, head, handled]

theorem read_frame (state next : S) (buffer rest : List B) (message : M) (accepted : Bool)
    (head : framer.peek buffer = .frame message rest)
    (handled : process state message = .ok (accepted, next)) :
    read framer process state buffer =
      (read framer process next rest).after [message] (!accepted) := by
  have shorter := framer.shrinks head
  rw [read, loop]
  simp only [head, handled]
  rw [loop_fuel framer process buffer.length (rest.length + 1) next rest shorter (by omega)]
  rfl

theorem after_nil (reading : Reading S B M E) : reading.after [] false = reading := by
  simp [Reading.after]

/-- Induction along the rounds of the loop: a frame leaves a shorter buffer. -/
theorem rounds {motive : S → List B → Prop}
    (wait : ∀ state buffer, framer.peek buffer = .wait → motive state buffer)
    (fail : ∀ state buffer error, framer.peek buffer = .fail error → motive state buffer)
    (throws : ∀ state buffer message rest error, framer.peek buffer = .frame message rest →
      process state message = .error error → motive state buffer)
    (frame : ∀ state buffer message rest accepted next,
      framer.peek buffer = .frame message rest →
      process state message = .ok (accepted, next) → motive next rest → motive state buffer)
    (state : S) (buffer : List B) : motive state buffer := by
  induction size : buffer.length using Nat.strong_induction_on generalizing state buffer with
  | h size ih =>
      cases head : framer.peek buffer with
      | wait => exact wait state buffer head
      | fail error => exact fail state buffer error head
      | frame message rest =>
          cases handled : process state message with
          | error error => exact throws state buffer message rest error head handled
          | ok outcome =>
              apply frame state buffer message rest outcome.1 outcome.2 head handled
              exact ih rest.length (size ▸ framer.shrinks head) outcome.2 rest rfl

/-- Reading a longer buffer is reading the shorter one and then going on with
its leftover, unless the shorter one already failed. -/
theorem read_append (state : S) (buffer more : List B) :
    read framer process state (buffer ++ more) =
      match (read framer process state buffer).finish with
      | .failed _ => read framer process state buffer
      | .waiting leftover =>
          (read framer process (read framer process state buffer).state (leftover ++ more)).after
            (read framer process state buffer).handed
            (read framer process state buffer).rejected := by
  induction state, buffer using rounds framer process with
  | wait state buffer head => simp only [read_wait framer process state buffer head, after_nil]
  | fail state buffer error head =>
      have longer := framer.fail_extends more head
      simp only [read_fail framer process state _ error longer,
        read_fail framer process state buffer error head]
  | throws state buffer message rest error head handled =>
      have longer := framer.frame_extends more head
      simp only [read_throw framer process state _ _ message error longer handled,
        read_throw framer process state _ _ message error head handled]
  | frame state buffer message rest accepted next head handled ih =>
      have longer := framer.frame_extends more head
      rw [read_frame framer process state next _ _ message accepted longer handled,
        read_frame framer process state next _ _ message accepted head handled, ih]
      cases ended : (read framer process next rest).finish with
      | failed error => simp [Reading.after, ended]
      | waiting leftover => simp [Reading.after, ended, Bool.or_assoc]

theorem read_leftover_waits (state : S) (buffer leftover : List B)
    (ended : (read framer process state buffer).finish = .waiting leftover) :
    framer.peek leftover = .wait := by
  induction state, buffer using rounds framer process with
  | wait state buffer head =>
      rw [read_wait framer process state buffer head, Finish.waiting.injEq] at ended
      rw [← ended, head]
  | fail state buffer error head =>
      rw [read_fail framer process state buffer error head] at ended
      cases ended
  | throws state buffer message rest error head handled =>
      rw [read_throw framer process state _ _ message error head handled] at ended
      cases ended
  | frame state buffer message rest accepted next head handled ih =>
      rw [read_frame framer process state next _ _ message accepted head handled] at ended
      exact ih ended

/-- As long as nothing is rejected, the callbacks over the segments do what one
callback over the whole stream does. -/
theorem feed_eq_read (segments : List (List B)) (state : S) (buffer : List B)
    (waits : framer.peek buffer = .wait)
    (accepted : (feed framer process state buffer segments).rejected = false ∨
      (read framer process state (buffer ++ segments.flatten)).rejected = false) :
    feed framer process state buffer segments =
      read framer process state (buffer ++ segments.flatten) := by
  induction segments generalizing state buffer with
  | nil => simp [feed, read_wait framer process state buffer waits]
  | cons segment rest ih =>
      have whole := read_append framer process state (buffer ++ segment) rest.flatten
      simp only [List.append_assoc] at whole
      simp only [List.flatten_cons] at accepted ⊢
      rw [whole] at accepted ⊢
      simp only [feed] at accepted ⊢
      cases ended : (read framer process state (buffer ++ segment)).finish with
      | failed error => rfl
      | waiting leftover =>
          -- what one callback leaves is again a buffer that waits
          have idle := read_leftover_waits framer process state _ leftover ended
          simp only [ended] at accepted ⊢
          cases refused : (read framer process state (buffer ++ segment)).rejected with
          | true => simp [refused, Reading.after] at accepted
          | false =>
              simp only [refused, Bool.false_eq_true, ↓reduceIte] at accepted ⊢
              rw [ih _ leftover idle]
              rcases accepted with fed | whole
              · exact Or.inl (by simpa [Reading.after] using fed)
              · exact Or.inr (by simpa [Reading.after] using whole)

theorem segmentation_independent (state : S) (left right : List (List B))
    (same : left.flatten = right.flatten)
    (accepted : (feed framer process state [] left).rejected = false) :
    feed framer process state [] left = feed framer process state [] right := by
  have first := feed_eq_read framer process left state [] framer.empty_waits (Or.inl accepted)
  have calm : (read framer process state ([] ++ right.flatten)).rejected = false := by
    rw [← same, ← first, accepted]
  rw [first, feed_eq_read framer process right state [] framer.empty_waits (Or.inr calm), same]

/-- A stream of encoded messages and an incomplete one hands over exactly the
messages, as long as the handler accepts them. -/
theorem read_encoded (encode : M → List B) (messages : List M) (tail : List B) (state : S)
    (decodes : ∀ message ∈ messages, ∀ more,
      framer.peek (encode message ++ more) = .frame message more)
    (waits : framer.peek tail = .wait)
    (accepts : ∀ message ∈ messages, ∀ before, ∃ next,
      process before message = .ok (true, next)) :
    (read framer process state (messages.flatMap encode ++ tail)).handed = messages ∧
      (read framer process state (messages.flatMap encode ++ tail)).rejected = false ∧
      (read framer process state (messages.flatMap encode ++ tail)).finish = .waiting tail := by
  induction messages generalizing state with
  | nil => simp [read_wait framer process state tail waits]
  | cons message rest ih =>
      obtain ⟨next, accepted⟩ := accepts message (by simp) state
      have later := ih next (fun other member => decodes other (List.mem_cons_of_mem _ member))
        (fun other member => accepts other (List.mem_cons_of_mem _ member))
      have head := decodes message (by simp) (rest.flatMap encode ++ tail)
      rw [List.flatMap_cons, List.append_assoc,
        read_frame framer process state next _ _ message true head accepted]
      simp only [Reading.after, later, List.singleton_append, Bool.not_true, Bool.or_self,
        and_self]

/-! The first rejected message of a stream and the symbols behind it. -/
section Rejection

/-- The handler state after some messages, whatever it said about them. -/
def passed (process : S → M → Except E (Bool × S)) : S → List M → Except E S
  | state, [] => .ok state
  | state, message :: rest =>
      match process state message with
      | .error error => .error error
      | .ok (_, next) => passed process next rest

def Rejects (state : S) (before : List M) (message : M) : Prop :=
  ∃ reached next, passed process state before = .ok reached ∧
    process reached message = .ok (false, next)

/-- A rejected message is the last one handed over. -/
def Final (state : S) (handed : List M) : Prop :=
  ∀ before message after, handed = before ++ message :: after →
    Rejects process state before message → after = []

def scanRejected (framer : Framer B M E) (process : S → M → Except E (Bool × S)) :
    Nat → S → List B → Option (List B)
  | 0, _, _ => none
  | fuel + 1, state, stream =>
      match framer.peek stream with
      | .wait => none
      | .fail _ => none
      | .frame message rest =>
          match process state message with
          | .error _ => none
          | .ok (accepted, next) =>
              if accepted then scanRejected framer process fuel next rest else some rest

/-- What stands behind the first message of a stream that the handler rejects. -/
def behindRejected (state : S) (stream : List B) : Option (List B) :=
  scanRejected framer process (stream.length + 1) state stream

/-- No whole message stands at the head. -/
def NoFrame (stream : List B) : Prop :=
  ∀ message rest, framer.peek stream ≠ .frame message rest

theorem scanRejected_fuel (enough more : Nat) (state : S) (stream : List B)
    (left : stream.length < enough) (right : stream.length < more) :
    scanRejected framer process enough state stream =
      scanRejected framer process more state stream := by
  induction enough generalizing more state stream with
  | zero => exact absurd left (Nat.not_lt_zero _)
  | succ enough ih =>
      cases more with
      | zero => exact absurd right (Nat.not_lt_zero _)
      | succ more =>
          simp only [scanRejected]
          cases head : framer.peek stream with
          | wait => rfl
          | fail error => rfl
          | frame message rest =>
              have shorter := framer.shrinks head
              cases handled : process state message with
              | error error => simp only [handled]
              | ok outcome =>
                  simp only [handled]
                  rw [ih more outcome.2 rest (by omega) (by omega)]

theorem behindRejected_quiet (state : S) (stream : List B)
    (quiet : NoFrame framer stream) : behindRejected framer process state stream = none := by
  rw [behindRejected, scanRejected]
  cases head : framer.peek stream with
  | wait => rfl
  | fail error => rfl
  | frame message rest => exact absurd head (quiet message rest)

theorem behindRejected_throw (state : S) (stream rest : List B) (message : M) (error : E)
    (head : framer.peek stream = .frame message rest)
    (handled : process state message = .error error) :
    behindRejected framer process state stream = none := by
  simp only [behindRejected, scanRejected, head, handled]

theorem behindRejected_frame (state next : S) (stream rest : List B) (message : M)
    (accepted : Bool) (head : framer.peek stream = .frame message rest)
    (handled : process state message = .ok (accepted, next)) :
    behindRejected framer process state stream =
      if accepted then behindRejected framer process next rest else some rest := by
  have shorter := framer.shrinks head
  rw [behindRejected, scanRejected]
  simp only [head, handled]
  rw [scanRejected_fuel framer process stream.length (rest.length + 1) next rest shorter
    (Nat.lt_succ_self _)]
  rfl

theorem noFrame_of_wait (stream : List B) (waits : framer.peek stream = .wait) :
    NoFrame framer stream := by
  intro message rest framed
  rw [waits] at framed
  cases framed

theorem noFrame_of_fail (stream : List B) (error : E) (fails : framer.peek stream = .fail error) :
    NoFrame framer stream := by
  intro message rest framed
  rw [fails] at framed
  cases framed

theorem read_handed_nil (state : S) (stream : List B) :
    (read framer process state stream).handed = [] ↔ NoFrame framer stream := by
  cases head : framer.peek stream with
  | wait => simp [read_wait framer process state stream head, noFrame_of_wait framer stream head]
  | fail error =>
      simp [read_fail framer process state stream error head,
        noFrame_of_fail framer stream error head]
  | frame message rest =>
      have framed : ¬ NoFrame framer stream := fun quiet => quiet message rest head
      cases handled : process state message with
      | error error =>
          simp [read_throw framer process state _ _ message error head handled, framed]
      | ok outcome =>
          simp [read_frame framer process state outcome.2 _ _ message outcome.1 head handled,
            Reading.after, framed]

theorem final_nil (state : S) : Final process state [] := by
  intro before message after split
  simp at split

theorem final_single (state : S) (message : M) : Final process state [message] := by
  intro before other after split _
  cases before with
  | nil =>
      obtain ⟨rfl, rfl⟩ := List.cons.inj split
      rfl
  | cons first before => simp at split

theorem final_cons (state next : S) (message : M) (rest : List M) (accepted : Bool)
    (handled : process state message = .ok (accepted, next)) :
    Final process state (message :: rest) ↔
      (accepted = false → rest = []) ∧ Final process next rest := by
  constructor
  · intro final
    constructor
    · rintro rfl
      exact final [] message rest rfl ⟨state, next, rfl, handled⟩
    · rintro before other after rfl ⟨reached, last, passes, refuses⟩
      exact final (message :: before) other after rfl
        ⟨reached, last, by simpa only [passed, handled] using passes, refuses⟩
  · rintro ⟨first, later⟩ before other after split ⟨reached, last, passes, refuses⟩
    cases before with
    | nil =>
        obtain ⟨rfl, rfl⟩ := List.cons.inj split
        cases passes
        rw [handled, Except.ok.injEq, Prod.mk.injEq] at refuses
        exact first refuses.1
    | cons head before =>
        obtain ⟨rfl, tail⟩ := List.cons.inj split
        simp only [passed, handled] at passes
        exact later before other after tail ⟨reached, last, passes, refuses⟩

/-- One callback hands nothing over behind a rejected message exactly if no
whole message stands there. -/
theorem read_final (state : S) (stream : List B) :
    Final process state (read framer process state stream).handed ↔
      ∀ rest, behindRejected framer process state stream = some rest → NoFrame framer rest := by
  induction state, stream using rounds framer process with
  | wait state stream head =>
      simp [read_wait framer process state stream head, final_nil,
        behindRejected_quiet framer process state stream (noFrame_of_wait framer stream head)]
  | fail state stream error head =>
      simp [read_fail framer process state stream error head, final_nil,
        behindRejected_quiet framer process state stream (noFrame_of_fail framer stream error head)]
  | throws state stream message rest error head handled =>
      simp [read_throw framer process state _ _ message error head handled,
        final_single process state message,
        behindRejected_throw framer process state _ _ message error head handled]
  | frame state stream message rest accepted next head handled ih =>
      rw [read_frame framer process state next _ _ message accepted head handled,
        behindRejected_frame framer process state next _ _ message accepted head handled]
      simp only [Reading.after, List.singleton_append]
      rw [final_cons process state next message _ accepted handled, ih]
      cases accepted with
      | true => simp
      | false =>
          simp only [forall_const, Bool.false_eq_true, ↓reduceIte, Option.some.injEq,
            forall_eq', read_handed_nil]
          constructor
          · exact And.left
          · intro quiet
            refine ⟨quiet, ?_⟩
            simp [behindRejected_quiet framer process next rest quiet]

theorem behindRejected_append (state : S) (stream rest more : List B)
    (behind : behindRejected framer process state stream = some rest) :
    behindRejected framer process state (stream ++ more) = some (rest ++ more) := by
  induction state, stream using rounds framer process with
  | wait state stream head =>
      rw [behindRejected_quiet framer process state stream
        (noFrame_of_wait framer stream head)] at behind
      cases behind
  | fail state stream error head =>
      rw [behindRejected_quiet framer process state stream
        (noFrame_of_fail framer stream error head)] at behind
      cases behind
  | throws state stream message left error head handled =>
      rw [behindRejected_throw framer process state _ _ message error head handled] at behind
      cases behind
  | frame state stream message left accepted next head handled ih =>
      have longer := framer.frame_extends more head
      rw [behindRejected_frame framer process state next _ _ message accepted head
        handled] at behind
      rw [behindRejected_frame framer process state next _ _ message accepted longer handled]
      cases accepted with
      | true => exact ih behind
      | false =>
          simp only [Bool.false_eq_true, ↓reduceIte, Option.some.injEq] at behind ⊢
          rw [behind]

theorem rejected_iff (state : S) (stream : List B) :
    (read framer process state stream).rejected = true ↔
      ∃ rest, behindRejected framer process state stream = some rest := by
  induction state, stream using rounds framer process with
  | wait state stream head =>
      simp [read_wait framer process state stream head,
        behindRejected_quiet framer process state stream (noFrame_of_wait framer stream head)]
  | fail state stream error head =>
      simp [read_fail framer process state stream error head,
        behindRejected_quiet framer process state stream (noFrame_of_fail framer stream error head)]
  | throws state stream message rest error head handled =>
      simp [read_throw framer process state _ _ message error head handled,
        behindRejected_throw framer process state _ _ message error head handled]
  | frame state stream message rest accepted next head handled ih =>
      rw [read_frame framer process state next _ _ message accepted head handled,
        behindRejected_frame framer process state next _ _ message accepted head handled]
      cases accepted with
      | true => simpa [Reading.after] using ih
      | false => simp [Reading.after]

/-- A callback that failed before any rejection: nothing more is ever looked at. -/
theorem behindRejected_failed (state : S) (stream more : List B) (error : E)
    (ended : (read framer process state stream).finish = .failed error)
    (calm : (read framer process state stream).rejected = false) :
    behindRejected framer process state (stream ++ more) = none := by
  have same : read framer process state (stream ++ more) = read framer process state stream := by
    rw [read_append, ended]
  rw [← same, ← Bool.not_eq_true, rejected_iff] at calm
  exact Option.eq_none_iff_forall_ne_some.mpr fun rest behind => calm ⟨rest, behind⟩

/-- A callback that rejected nothing and waits: the stream goes on behind it. -/
theorem calm_waiting (state : S) (stream leftover : List B)
    (ended : (read framer process state stream).finish = .waiting leftover)
    (calm : (read framer process state stream).rejected = false) :
    (∀ more, behindRejected framer process state (stream ++ more) =
      behindRejected framer process (read framer process state stream).state
        (leftover ++ more)) ∧
    ∀ later, Final process state ((read framer process state stream).handed ++ later) ↔
      Final process (read framer process state stream).state later := by
  induction state, stream using rounds framer process with
  | wait state stream head =>
      rw [read_wait framer process state stream head] at ended ⊢
      cases ended
      exact ⟨fun _ => rfl, fun _ => Iff.rfl⟩
  | fail state stream error head =>
      rw [read_fail framer process state stream error head] at ended
      cases ended
  | throws state stream message rest error head handled =>
      rw [read_throw framer process state _ _ message error head handled] at ended
      cases ended
  | frame state stream message rest accepted next head handled ih =>
      rw [read_frame framer process state next _ _ message accepted head handled] at ended calm ⊢
      simp only [Reading.after, Bool.or_eq_false_iff, Bool.not_eq_false'] at ended calm
      obtain ⟨rfl, calm⟩ := calm
      obtain ⟨behind, final⟩ := ih ended calm
      constructor
      · intro more
        have longer := framer.frame_extends more head
        rw [behindRejected_frame framer process state next _ _ message true longer handled]
        exact behind more
      · intro later
        simp only [Reading.after, List.cons_append, List.nil_append]
        rw [final_cons process state next message _ true handled, final]
        simp

/-- When the first rejected message has arrived, no whole message has arrived
behind it. -/
def Cleared (state : S) (buffer : List B) (segments : List (List B)) : Prop :=
  ∀ early segment late rest, segments = early ++ segment :: late →
    behindRejected framer process state (buffer ++ early.flatten) = none →
    behindRejected framer process state (buffer ++ (early.flatten ++ segment)) = some rest →
    NoFrame framer rest

/-- A callback that ends the connection leaves nothing to later segments. -/
theorem cleared_last (state : S) (buffer segment : List B) (rest : List (List B))
    (waits : framer.peek buffer = .wait)
    (ended : ∀ more left,
      behindRejected framer process state (buffer ++ segment ++ more) = some left →
      behindRejected framer process state (buffer ++ segment) ≠ none) :
    Cleared framer process state buffer (segment :: rest) ↔
      ∀ left, behindRejected framer process state (buffer ++ segment) = some left →
        NoFrame framer left := by
  constructor
  · intro cleared left behind
    apply cleared [] segment rest left rfl
    · rw [List.flatten_nil, List.append_nil]
      exact behindRejected_quiet framer process state buffer (noFrame_of_wait framer buffer waits)
    · exact behind
  · intro quiet early next late left split before behind
    cases early with
    | nil =>
        obtain ⟨rfl, rfl⟩ := List.cons.inj split
        exact quiet left behind
    | cons first early =>
        obtain ⟨rfl, rfl⟩ := List.cons.inj split
        rw [List.flatten_cons, ← List.append_assoc] at before
        rw [List.flatten_cons, List.append_assoc, ← List.append_assoc buffer] at behind
        have found := ended _ left behind
        obtain ⟨tail, here⟩ := Option.ne_none_iff_exists'.mp found
        rw [behindRejected_append framer process state _ tail _ here] at before
        cases before

/-- A callback that rejected nothing hands the question on to later segments. -/
theorem cleared_next (state next : S) (buffer segment leftover : List B) (rest : List (List B))
    (idle : framer.peek leftover = .wait)
    (behind : ∀ more, behindRejected framer process state (buffer ++ segment ++ more) =
      behindRejected framer process next (leftover ++ more)) :
    Cleared framer process state buffer (segment :: rest) ↔
      Cleared framer process next leftover rest := by
  constructor
  · rintro cleared early later late left rfl before after
    apply cleared (segment :: early) later late left rfl
    · rw [List.flatten_cons, ← List.append_assoc, behind]
      exact before
    · rw [List.flatten_cons, List.append_assoc, ← List.append_assoc buffer, behind]
      exact after
  · intro cleared early later late left split before after
    cases early with
    | nil =>
        obtain ⟨rfl, rfl⟩ := List.cons.inj split
        have none := behind []
        simp only [List.append_nil, behindRejected_quiet framer process next leftover
          (noFrame_of_wait framer leftover idle)] at none
        rw [List.flatten_nil, List.nil_append, none] at after
        cases after
    | cons first early =>
        obtain ⟨rfl, rfl⟩ := List.cons.inj split
        rw [List.flatten_cons, ← List.append_assoc, behind] at before
        rw [List.flatten_cons, List.append_assoc, ← List.append_assoc buffer, behind] at after
        exact cleared early later late left rfl before after

/-- Over all callbacks of a connection a rejected message is the last one
handed over exactly if no whole message had arrived behind it by then. -/
theorem feed_final (segments : List (List B)) (state : S) (buffer : List B)
    (waits : framer.peek buffer = .wait) :
    Final process state (feed framer process state buffer segments).handed ↔
      Cleared framer process state buffer segments := by
  induction segments generalizing state buffer with
  | nil =>
      constructor
      · rintro - early segment late rest split
        simp at split
      · intro _
        exact final_nil process state
  | cons segment rest ih =>
      cases refused : (read framer process state (buffer ++ segment)).rejected with
      | true =>
          obtain ⟨left, behind⟩ := (rejected_iff framer process state _).mp refused
          have stops : feed framer process state buffer (segment :: rest) =
              read framer process state (buffer ++ segment) := by
            simp only [feed, refused, ↓reduceIte]
            cases (read framer process state (buffer ++ segment)).finish <;> rfl
          rw [stops, read_final, cleared_last framer process state buffer segment rest waits]
          intro _ _ _
          simp [behind]
      | false =>
          cases ended : (read framer process state (buffer ++ segment)).finish with
          | failed error =>
              have stops : feed framer process state buffer (segment :: rest) =
                  read framer process state (buffer ++ segment) := by simp only [feed, ended]
              rw [stops, read_final, cleared_last framer process state buffer segment rest waits]
              intro more left behind
              rw [behindRejected_failed framer process state _ more error ended refused] at behind
              cases behind
          | waiting leftover =>
              have idle := read_leftover_waits framer process state _ leftover ended
              obtain ⟨behind, final⟩ :=
                calm_waiting framer process state (buffer ++ segment) leftover ended refused
              have goes : (feed framer process state buffer (segment :: rest)).handed =
                  (read framer process state (buffer ++ segment)).handed ++
                    (feed framer process (read framer process state (buffer ++ segment)).state
                      leftover rest).handed := by
                simp only [feed, ended, refused, Bool.false_eq_true, ↓reduceIte, Reading.after]
              rw [goes, final, ih _ leftover idle]
              exact (cleared_next framer process state _ buffer segment leftover rest idle
                behind).symm

end Rejection

/-! The buffers the loop looks at, one for each of its rounds. -/
section Heads

def scanHeads (framer : Framer B M E) (process : S → M → Except E (Bool × S)) :
    Nat → S → List B → List (List B)
  | 0, _, _ => []
  | fuel + 1, state, buffer =>
      match framer.peek buffer with
      | .wait => [buffer]
      | .fail _ => [buffer]
      | .frame message rest =>
          match process state message with
          | .error _ => [buffer]
          | .ok (_, next) => buffer :: scanHeads framer process fuel next rest

def heads (state : S) (buffer : List B) : List (List B) :=
  scanHeads framer process (buffer.length + 1) state buffer

/-- The messages that stand in front of the rest of a buffer. -/
inductive Splits (framer : Framer B M E) : List B → List M → List B → Prop
  | nil (buffer : List B) : Splits framer buffer [] buffer
  | cons {buffer rest last : List B} {message : M} {messages : List M}
      (head : framer.peek buffer = .frame message rest) (later : Splits framer rest messages last) :
      Splits framer buffer (message :: messages) last

theorem scanHeads_fuel (enough more : Nat) (state : S) (buffer : List B)
    (left : buffer.length < enough) (right : buffer.length < more) :
    scanHeads framer process enough state buffer = scanHeads framer process more state buffer := by
  induction enough generalizing more state buffer with
  | zero => exact absurd left (Nat.not_lt_zero _)
  | succ enough ih =>
      cases more with
      | zero => exact absurd right (Nat.not_lt_zero _)
      | succ more =>
          simp only [scanHeads]
          cases head : framer.peek buffer with
          | wait => rfl
          | fail error => rfl
          | frame message rest =>
              have shorter := framer.shrinks head
              cases handled : process state message with
              | error error => simp only [handled]
              | ok outcome =>
                  simp only [handled]
                  rw [ih more outcome.2 rest (by omega) (by omega)]

theorem heads_quiet (state : S) (buffer : List B) (quiet : NoFrame framer buffer) :
    heads framer process state buffer = [buffer] := by
  rw [heads, scanHeads]
  cases head : framer.peek buffer with
  | wait => rfl
  | fail error => rfl
  | frame message rest => exact absurd head (quiet message rest)

theorem heads_throw (state : S) (buffer rest : List B) (message : M) (error : E)
    (head : framer.peek buffer = .frame message rest)
    (handled : process state message = .error error) :
    heads framer process state buffer = [buffer] := by
  simp only [heads, scanHeads, head, handled]

theorem heads_frame (state next : S) (buffer rest : List B) (message : M) (accepted : Bool)
    (head : framer.peek buffer = .frame message rest)
    (handled : process state message = .ok (accepted, next)) :
    heads framer process state buffer = buffer :: heads framer process next rest := by
  have shorter := framer.shrinks head
  rw [heads, scanHeads]
  simp only [head, handled]
  rw [scanHeads_fuel framer process buffer.length (rest.length + 1) next rest shorter
    (Nat.lt_succ_self _)]
  rfl

theorem splits_quiet (buffer last : List B) (messages : List M) (quiet : NoFrame framer buffer) :
    Splits framer buffer messages last ↔ messages = [] ∧ last = buffer := by
  constructor
  · intro split
    cases split with
    | nil => exact ⟨rfl, rfl⟩
    | cons head later => exact absurd head (quiet _ _)
  · rintro ⟨rfl, rfl⟩
    exact .nil last

/-- A buffer is looked at exactly if it is what stands behind some messages that
were all handled without an exception. -/
theorem mem_heads (state : S) (buffer last : List B) :
    last ∈ heads framer process state buffer ↔
      ∃ messages reached, Splits framer buffer messages last ∧
        passed process state messages = .ok reached := by
  induction state, buffer using rounds framer process with
  | wait state buffer head =>
      have quiet := noFrame_of_wait framer buffer head
      simp [heads_quiet framer process state buffer quiet, splits_quiet framer buffer last _ quiet,
        passed]
  | fail state buffer error head =>
      have quiet := noFrame_of_fail framer buffer error head
      simp [heads_quiet framer process state buffer quiet, splits_quiet framer buffer last _ quiet,
        passed]
  | throws state buffer message rest error head handled =>
      rw [heads_throw framer process state buffer rest message error head handled,
        List.mem_singleton]
      constructor
      · rintro rfl
        exact ⟨[], state, .nil last, rfl⟩
      · rintro ⟨messages, reached, split, passes⟩
        cases split with
        | nil => rfl
        | cons first later =>
            rw [head] at first
            cases first
            simp [passed, handled] at passes
  | frame state buffer message rest accepted next head handled ih =>
      rw [heads_frame framer process state next buffer rest message accepted head handled,
        List.mem_cons, ih]
      constructor
      · rintro (rfl | ⟨messages, reached, split, passes⟩)
        · exact ⟨[], state, .nil last, rfl⟩
        · exact ⟨message :: messages, reached, .cons head split, by simpa only [passed, handled]⟩
      · rintro ⟨messages, reached, split, passes⟩
        cases split with
        | nil => exact Or.inl rfl
        | cons first later =>
            rw [head] at first
            cases first
            simp only [passed, handled] at passes
            exact Or.inr ⟨_, reached, later, passes⟩

end Heads

end EdoyumIM.StreamFraming
