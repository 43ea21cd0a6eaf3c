import EdoyumIM.ByteFiles

/-!
Many buffered streams on the same files, byte by byte. `Waits` are the bytes
that some stream has not written yet, `Stored` those that stand in the files.
`Settles` is what writing out does, by whichever stream and however far: a byte
that no stream contradicts is not lost. A record of what was put to each file
since it was emptied stays true along it.
-/

namespace EdoyumIM.WaitingBytes

open OrderedStore ByteFiles

variable {Name B : Type}

/-! One stream. -/
section Ahead

/-- The byte that the stream holds back for a position of its file. -/
def ahead (stream : ByteFiles.Stream Name B) (position : Nat) : Option B :=
  if stream.base ≤ position then stream.pending[position - stream.base]? else none

theorem ahead_idle (stream : ByteFiles.Stream Name B) (position : Nat)
    (idle : stream.pending = []) : ahead stream position = none := by
  simp [ahead, idle]

theorem ahead_put (stream : ByteFiles.Stream Name B) (data : List B) (position : Nat) (byte : B)
    (waits : ahead { stream with pending := data } position = some byte) :
    ∃ place < data.length, position = stream.base + place ∧ data[place]? = some byte := by
  simp only [ahead] at waits
  split_ifs at waits with reached
  obtain ⟨inside, -⟩ := List.getElem?_eq_some_iff.mp waits
  exact ⟨position - stream.base, inside, by omega, waits⟩

/-- The part of the buffer that is written out. -/
def ready (kept : Nat) (stream : ByteFiles.Stream Name B) : List B :=
  stream.pending.take (stream.pending.length - kept)

variable [Inhabited B]

theorem settle_stays (kept : Nat) (stream : ByteFiles.Stream Name B) (content : List B)
    (position : Nat) (byte : B) (stored : content[position]? = some byte)
    (agrees : ∀ other, ahead stream position = some other → other = byte) :
    (writeAt stream.base (ready kept stream) content)[position]? = some byte := by
  obtain ⟨present, -⟩ := List.getElem?_eq_some_iff.mp stored
  by_cases written : stream.base ≤ position ∧
      position < stream.base + (ready kept stream).length
  · obtain ⟨reached, inside⟩ := written
    rw [getElem?_writeAt_inside _ _ _ _ reached inside]
    obtain ⟨other, found⟩ : ∃ other, (ready kept stream)[position - stream.base]? = some other :=
      ⟨_, List.getElem?_eq_getElem (by omega)⟩
    have waits : ahead stream position = some other := by
      rw [ahead, if_pos reached, ← found, ready,
        List.getElem?_take_of_lt (by rw [ready, List.length_take] at inside; omega)]
    rw [found, agrees other waits]
  · rw [getElem?_writeAt_outside _ _ _ _ (by omega) present, stored]

variable [LinearOrder Name]

theorem settle_waits (kept : Nat) (stream : ByteFiles.Stream Name B) (disk : Disk Name B)
    (position : Nat) (byte : B) (waits : ahead (stream.settle kept disk).1 position = some byte) :
    ahead stream position = some byte := by
  simp only [ahead, Stream.settle, List.length_take, List.getElem?_drop] at waits ⊢
  split_ifs at waits with later
  rw [if_pos (by omega), ← waits]
  congr 1
  omega

theorem settle_lands (kept : Nat) (stream : ByteFiles.Stream Name B) (disk : Disk Name B)
    (content : List B) (position : Nat) (byte : B) (waits : ahead stream position = some byte) :
    ahead (stream.settle kept disk).1 position = some byte ∨
      (writeAt stream.base (ready kept stream) content)[position]? = some byte := by
  rw [ahead] at waits
  split_ifs at waits with reached
  by_cases written : position < stream.base + (ready kept stream).length
  · right
    rw [getElem?_writeAt_inside _ _ _ _ reached written, ready,
      List.getElem?_take_of_lt (by rw [ready, List.length_take] at written; omega), waits]
  · left
    simp only [ready, List.length_take] at written
    simp only [ahead, Stream.settle, List.length_take, List.getElem?_drop]
    rw [if_pos (by omega), ← waits]
    congr 1
    omega

end Ahead

/-! All streams. -/
section Settling

variable [LinearOrder Name]

structure Shelf (Name B : Type) [LinearOrder Name] where
  streams : List (ByteFiles.Stream Name B)
  disk : Disk Name B

def Waits (shelf : Shelf Name B) (file : Name) (position : Nat) (byte : B) : Prop :=
  ∃ stream ∈ shelf.streams, stream.file = file ∧ ahead stream position = some byte

def Stored (shelf : Shelf Name B) (file : Name) (position : Nat) (byte : B) : Prop :=
  ∃ content, shelf.disk.find? file = some content ∧ content[position]? = some byte

def Present (shelf : Shelf Name B) (file : Name) : Prop :=
  (shelf.disk.find? file).isSome = true

def Grounded (shelf : Shelf Name B) : Prop :=
  ∀ stream ∈ shelf.streams, Present shelf stream.file

theorem grounded_closed (disk : Disk Name B) : Grounded ⟨[], disk⟩ := nofun

structure Settles (before after : Shelf Name B) : Prop where
  waits : ∀ file position byte, Waits after file position byte → Waits before file position byte
  stays : ∀ file position byte, Stored before file position byte →
    (∀ other, Waits before file position other → other = byte) → Stored after file position byte
  lands : ∀ file position byte, Present before file → Waits before file position byte →
    (∀ other, Waits before file position other → other = byte) →
      Waits after file position byte ∨ Stored after file position byte
  present : ∀ file, Present before file → Present after file
  grounded : Grounded before → Grounded after

namespace Settles

variable {before between after : Shelf Name B}

theorem refl (shelf : Shelf Name B) : Settles shelf shelf where
  waits _ _ _ waits := waits
  stays _ _ _ stored _ := stored
  lands _ _ _ _ waits _ := Or.inl waits
  present _ here := here
  grounded grounded := grounded

theorem trans (first : Settles before between) (second : Settles between after) :
    Settles before after where
  waits file position byte waits := first.waits _ _ _ (second.waits file position byte waits)
  stays file position byte stored agrees :=
    second.stays _ _ _ (first.stays file position byte stored agrees)
      fun other waits => agrees other (first.waits _ _ _ waits)
  lands file position byte here waits agrees := by
    have still : ∀ other, Waits between file position other → other = byte :=
      fun other waits => agrees other (first.waits _ _ _ waits)
    rcases first.lands file position byte here waits agrees with later | stored
    · exact second.lands file position byte (first.present file here) later still
    · exact Or.inr (second.stays file position byte stored still)
  present file here := second.present file (first.present file here)
  grounded grounded := second.grounded (first.grounded grounded)

end Settles

theorem waits_cons (stream : ByteFiles.Stream Name B) (rest : List (ByteFiles.Stream Name B))
    (disk : Disk Name B) (file : Name) (position : Nat) (byte : B) :
    Waits ⟨stream :: rest, disk⟩ file position byte ↔
      (stream.file = file ∧ ahead stream position = some byte) ∨
        Waits ⟨rest, disk⟩ file position byte := by
  simp [Waits]

theorem not_waits (streams : List (ByteFiles.Stream Name B)) (disk : Disk Name B) (file : Name)
    (position : Nat)
    (quiet : ∀ stream ∈ streams, stream.file = file → ahead stream position = none) (byte : B) :
    ¬ Waits ⟨streams, disk⟩ file position byte := by
  rintro ⟨stream, member, here, waits⟩
  rw [quiet stream member here] at waits
  cases waits

/-- Streams without a byte that waits, beside others. -/
theorem settles_idle (one other : List (ByteFiles.Stream Name B)) (disk : Disk Name B)
    (silent : ∀ stream ∈ other, stream ∈ one ∨ stream.pending = [] ∧ Present ⟨one, disk⟩ stream.file)
    (nothing : ∀ stream ∈ one, stream ∈ other ∨ stream.pending = []) :
    Settles ⟨one, disk⟩ ⟨other, disk⟩ where
  waits file position byte := by
    rintro ⟨stream, member, here, waits⟩
    rcases silent stream member with same | ⟨idle, -⟩
    · exact ⟨stream, same, here, waits⟩
    · rw [ahead_idle stream position idle] at waits
      cases waits
  stays _ _ _ stored _ := stored
  lands file position byte _ := by
    rintro ⟨stream, member, here, waits⟩ -
    rcases nothing stream member with same | idle
    · exact Or.inl ⟨stream, same, here, waits⟩
    · rw [ahead_idle stream position idle] at waits
      cases waits
  present _ here := here
  grounded := by
    intro grounded stream member
    rcases silent stream member with same | ⟨-, here⟩
    · exact grounded stream same
    · exact here

/-- Only which streams there are matters, not their order. -/
theorem settles_members (one other : List (ByteFiles.Stream Name B)) (disk : Disk Name B)
    (same : ∀ stream, stream ∈ one ↔ stream ∈ other) : Settles ⟨one, disk⟩ ⟨other, disk⟩ :=
  settles_idle one other disk (fun stream member => Or.inl ((same stream).mpr member))
    fun stream member => Or.inl ((same stream).mp member)

/-- Where an idle stream stands makes no difference. -/
theorem settles_moved (one other : ByteFiles.Stream Name B)
    (rest : List (ByteFiles.Stream Name B)) (disk : Disk Name B) (same : other.file = one.file)
    (idle : one.pending = []) (alsoIdle : other.pending = []) :
    Settles ⟨one :: rest, disk⟩ ⟨other :: rest, disk⟩ where
  waits file position byte waits := by
    rw [waits_cons] at waits ⊢
    rcases waits with ⟨-, waits⟩ | waits
    · rw [ahead_idle other position alsoIdle] at waits
      cases waits
    · exact Or.inr waits
  stays _ _ _ stored _ := stored
  lands file position byte _ waits _ := by
    rw [waits_cons] at waits ⊢
    rcases waits with ⟨-, waits⟩ | waits
    · rw [ahead_idle one position idle] at waits
      cases waits
    · exact Or.inl (Or.inr waits)
  present _ here := here
  grounded grounded stream member := by
    rcases List.mem_cons.mp member with rfl | inside
    · exact same ▸ grounded one List.mem_cons_self
    · exact grounded stream (List.mem_cons_of_mem _ inside)

variable [Inhabited B]

theorem settles_settle (kept : Nat) (stream : ByteFiles.Stream Name B)
    (rest : List (ByteFiles.Stream Name B)) (disk : Disk Name B) :
    Settles ⟨stream :: rest, disk⟩ ⟨(stream.settle kept disk).1 :: rest, (stream.settle kept disk).2⟩ := by
  have found : ∀ file, (stream.settle kept disk).2.find? file =
      (disk.find? file).map fun content =>
        if file = stream.file then writeAt stream.base (ready kept stream) content else content :=
    fun file => find?_write stream.file file stream.base (ready kept stream) disk
  constructor
  case waits =>
    intro file position byte waits
    rw [waits_cons] at waits ⊢
    exact waits.imp (fun ⟨here, waits⟩ => ⟨here, settle_waits kept stream disk position byte waits⟩) id
  case stays =>
    rintro file position byte ⟨content, here, stored⟩ agrees
    refine ⟨_, (found file).trans (congrArg (Option.map _) here), ?_⟩
    split_ifs with same
    · exact settle_stays kept stream content position byte stored fun other waits =>
        agrees other ⟨stream, List.mem_cons_self, same.symm, waits⟩
    · exact stored
  case lands =>
    intro file position byte here waits agrees
    obtain ⟨content, stands⟩ := Option.isSome_iff_exists.mp here
    rw [waits_cons] at waits ⊢
    rcases waits with ⟨rfl, waits⟩ | other
    · rcases settle_lands kept stream disk content position byte waits with later | stored
      · exact Or.inl (Or.inl ⟨rfl, later⟩)
      · right
        refine ⟨_, (found stream.file).trans (congrArg (Option.map _) stands), ?_⟩
        simpa using stored
    · exact Or.inl (Or.inr other)
  case present =>
    intro file here
    exact (stream.settle_present kept disk file).trans here
  case grounded =>
    intro grounded other member
    refine (stream.settle_present kept disk other.file).trans ?_
    rcases List.mem_cons.mp member with rfl | inside
    · exact grounded stream List.mem_cons_self
    · exact grounded other (List.mem_cons_of_mem _ inside)

theorem settles_closed (stream : ByteFiles.Stream Name B) (rest : List (ByteFiles.Stream Name B))
    (disk : Disk Name B) : Settles ⟨stream :: rest, disk⟩ ⟨rest, (stream.flush disk).2⟩ := by
  refine (settles_settle 0 stream rest disk).trans (settles_idle _ _ _ ?_ ?_)
  · exact fun other member => Or.inl (List.mem_cons_of_mem _ member)
  · intro other member
    rcases List.mem_cons.mp member with rfl | inside
    · exact Or.inr (stream.flush_pending disk)
    · exact Or.inl inside

theorem settles_seek (target : Int) (stream : ByteFiles.Stream Name B)
    (rest : List (ByteFiles.Stream Name B)) (disk : Disk Name B) :
    Settles ⟨stream :: rest, disk⟩ ⟨(stream.seek target disk).1 :: rest, (stream.seek target disk).2⟩ :=
  (settles_settle 0 stream rest disk).trans
    (settles_moved _ _ rest _ (stream.seek_file target disk) (stream.flush_pending disk)
      (stream.seek_pending target disk))

theorem settles_get (count : Nat) (stream : ByteFiles.Stream Name B)
    (rest : List (ByteFiles.Stream Name B)) (disk : Disk Name B) :
    Settles ⟨stream :: rest, disk⟩
      ⟨(stream.get count disk).2.1 :: rest, (stream.get count disk).2.2⟩ := by
  rw [Stream.get]
  split_ifs
  · exact (settles_settle 0 stream rest disk).trans
      (settles_moved _ _ rest _ rfl (stream.flush_pending disk) (stream.flush_pending disk))
  · exact Settles.refl _

theorem settles_flushAll (streams : List (ByteFiles.Stream Name B)) (disk : Disk Name B) :
    Settles ⟨streams, disk⟩ ⟨[], flushAll streams disk⟩ := by
  have closes : ∀ (order : List (ByteFiles.Stream Name B)) (disk : Disk Name B),
      Settles ⟨order, disk⟩
        ⟨[], order.foldl (fun disk stream => (stream.flush disk).2) disk⟩ := by
    intro order
    induction order with
    | nil => exact fun disk => Settles.refl _
    | cons stream rest ih => exact fun disk => (settles_closed stream rest disk).trans (ih _)
  refine (settles_members streams _ disk fun stream => ?_).trans (closes _ disk)
  rw [List.mem_insertionSort]

theorem flushAll_present (streams : List (ByteFiles.Stream Name B)) (disk : Disk Name B)
    (file : Name) : ((flushAll streams disk).find? file).isSome = (disk.find? file).isSome := by
  have each : ∀ (order : List (ByteFiles.Stream Name B)) (disk : Disk Name B),
      ((order.foldl (fun disk stream => (stream.flush disk).2) disk).find? file).isSome =
        (disk.find? file).isSome := by
    intro order
    induction order with
    | nil => exact fun disk => rfl
    | cons stream rest ih => exact fun disk => (ih _).trans (stream.settle_present 0 disk file)
  exact each _ disk

end Settling

/-! What was put to the files. -/
section Records

variable [LinearOrder Name]

/-- A byte in its file that no stream is going to overwrite. -/
def Rests (shelf : Shelf Name B) (file : Name) (position : Nat) (byte : B) : Prop :=
  Stored shelf file position byte ∧ ∀ other, ¬ Waits shelf file position other

theorem Settles.rests {before after : Shelf Name B} (settles : Settles before after) (file : Name)
    (position : Nat) (byte : B) (rests : Rests before file position byte) :
    Rests after file position byte := by
  obtain ⟨stored, quiet⟩ := rests
  constructor
  · exact settles.stays file position byte stored fun other waits => absurd waits (quiet other)
  · exact fun other waits => quiet other (settles.waits file position other waits)

/-- Data laid over what was known, from a position on. -/
def laid (offset : Int) (data : List B) (old : Nat → Option B) (position : Nat) : Option B :=
  if offset ≤ position ∧ position < offset + data.length then data[(position - offset).toNat]?
  else old position

theorem laid_outside (offset : Int) (data : List B) (old : Nat → Option B) (position : Nat)
    (outside : ¬ (offset ≤ position ∧ position < offset + data.length)) :
    laid offset data old position = old position := if_neg outside

theorem laid_inside (base : Nat) (data : List B) (old : Nat → Option B) (place : Nat)
    (inside : place < data.length) : laid base data old (base + place) = data[place]? := by
  rw [laid, if_pos (by omega)]
  congr 1
  omega

/-- The record behind `fopen(path, "w")`, and behind `fwrite`. -/
def emptied (file : Name) (written : Name → Nat → Option B) (other : Name) : Nat → Option B :=
  if other = file then fun _ => none else written other

def placed (file : Name) (base : Nat) (data : List B) (written : Name → Nat → Option B)
    (other : Name) : Nat → Option B :=
  if other = file then laid base data (written file) else written other

/-- The bytes put to the files since they were emptied, as `written` tells. -/
structure Agrees (written : Name → Nat → Option B) (shelf : Shelf Name B) : Prop where
  present : ∀ file position byte, written file position = some byte → Present shelf file
  waiting : ∀ file position byte, written file position = some byte →
    ∀ other, Waits shelf file position other → other = byte
  held : ∀ file position byte, written file position = some byte →
    Waits shelf file position byte ∨ Stored shelf file position byte

/-- Nothing was written, so there is nothing to agree with. -/
theorem agrees_unwritten (shelf : Shelf Name B) : Agrees (fun _ _ => none) shelf :=
  ⟨nofun, nofun, nofun⟩

theorem Agrees.settles {written : Name → Nat → Option B} {before after : Shelf Name B}
    (agrees : Agrees written before) (settles : Settles before after) : Agrees written after where
  present file position byte known := settles.present file (agrees.present file position byte known)
  waiting file position byte known other waits :=
    agrees.waiting file position byte known other (settles.waits file position other waits)
  held file position byte known := by
    have only := agrees.waiting file position byte known
    rcases agrees.held file position byte known with waits | stored
    · exact settles.lands file position byte (agrees.present file position byte known) waits only
    · exact Or.inr (settles.stays file position byte stored only)

/-- `fopen(path, "w")`: what the other streams hold back is still to come. -/
theorem agrees_emptied {written : Name → Nat → Option B} {streams : List (ByteFiles.Stream Name B)}
    {disk : Disk Name B} (agrees : Agrees written ⟨streams, disk⟩)
    (stream : ByteFiles.Stream Name B) :
    Agrees (emptied stream.file written)
      ⟨stream :: streams, disk.set stream.file []⟩ := by
  have known : ∀ file position byte,
      emptied stream.file written file position = some byte →
        file ≠ stream.file ∧ written file position = some byte := by
    intro file position byte known
    rw [emptied] at known
    by_cases same : file = stream.file
    · subst same
      rw [if_pos rfl] at known
      cases known
    · rw [if_neg same] at known
      exact ⟨same, known⟩
  have kept : ∀ file, file ≠ stream.file →
      (disk.set stream.file []).find? file = disk.find? file :=
    fun file other => (OrderedMap.find?_set _ _ _ _).trans (if_neg other)
  constructor
  case present =>
    intro file position byte told
    obtain ⟨other, told⟩ := known file position byte told
    rw [Present, kept file other]
    exact agrees.present file position byte told
  case waiting =>
    intro file position byte told byte' waits
    obtain ⟨other, told⟩ := known file position byte told
    rcases (waits_cons _ _ _ _ _ _).mp waits with ⟨here, -⟩ | ⟨stream', member, waits⟩
    · exact absurd here.symm other
    · exact agrees.waiting file position byte told byte' ⟨stream', member, waits⟩
  case held =>
    intro file position byte told
    obtain ⟨other, told⟩ := known file position byte told
    rcases agrees.held file position byte told with ⟨stream', member, waits⟩ | ⟨content, stored⟩
    · exact Or.inl ⟨stream', List.mem_cons_of_mem _ member, waits⟩
    · exact Or.inr ⟨content, (kept file other).symm ▸ stored⟩

/-- `fwrite` to a stream that was positioned: its bytes wait. No other stream
may hold another byte for these positions. -/
theorem agrees_put {written : Name → Nat → Option B} {rest : List (ByteFiles.Stream Name B)}
    {disk : Disk Name B} (stream : ByteFiles.Stream Name B) (data : List B)
    (idle : stream.pending = []) (agrees : Agrees written ⟨stream :: rest, disk⟩)
    (here : Present ⟨rest, disk⟩ stream.file)
    (clear : ∀ other ∈ rest, other.file = stream.file → ∀ place < data.length,
      ahead other (stream.base + place) = none ∨ ahead other (stream.base + place) = data[place]?) :
    Agrees (placed stream.file stream.base data written)
      ⟨{ stream with pending := data } :: rest, disk⟩ := by
  -- a byte that is known now was put just now, or was known before and is not in the way
  have known : ∀ file position byte,
      placed stream.file stream.base data written file position = some byte →
        (file = stream.file ∧ ∃ place < data.length, position = stream.base + place ∧
            data[place]? = some byte) ∨
          written file position = some byte ∧
            ∀ place < data.length, file = stream.file → position ≠ stream.base + place := by
    intro file position byte told
    rw [placed] at told
    by_cases same : file = stream.file
    · subst same
      rw [if_pos rfl] at told
      by_cases inside : stream.base ≤ position ∧ position < stream.base + data.length
      · obtain ⟨place, rfl⟩ := Nat.exists_eq_add_of_le inside.1
        rw [laid_inside _ _ _ place (by omega)] at told
        exact Or.inl ⟨rfl, place, by omega, rfl, told⟩
      · rw [laid_outside _ _ _ _ (by omega)] at told
        exact Or.inr ⟨told, fun place small _ => by omega⟩
    · rw [if_neg same] at told
      exact Or.inr ⟨told, fun _ _ equal => absurd equal same⟩
  constructor
  case present =>
    intro file position byte told
    rcases known file position byte told with ⟨rfl, -⟩ | ⟨told, -⟩
    · exact here
    · exact agrees.present file position byte told
  case waiting =>
    intro file position byte told other waits
    rw [waits_cons] at waits
    rcases known file position byte told with ⟨rfl, place, small, rfl, put⟩ | ⟨told, apart⟩
    · rcases waits with ⟨-, waits⟩ | ⟨stream', member, same, waits⟩
      · obtain ⟨place', -, equal, found⟩ := ahead_put stream data _ other waits
        obtain rfl : place = place' := by omega
        exact Option.some.inj (found.symm.trans put)
      · rcases clear stream' member same place small with silent | alike
        · rw [silent] at waits
          cases waits
        · exact Option.some.inj ((waits.symm.trans alike).trans put)
    · rcases waits with ⟨same, waits⟩ | waits
      · obtain ⟨place, small, equal, -⟩ := ahead_put stream data _ other waits
        exact absurd equal (apart place small same.symm)
      · exact agrees.waiting file position byte told other ((waits_cons _ _ _ _ _ _).mpr (Or.inr waits))
  case held =>
    intro file position byte told
    rw [waits_cons]
    rcases known file position byte told with ⟨rfl, place, small, rfl, put⟩ | ⟨told, -⟩
    · refine Or.inl (Or.inl ⟨rfl, ?_⟩)
      rw [ahead, if_pos (Nat.le_add_right _ _), Nat.add_sub_cancel_left, put]
    · rcases agrees.held file position byte told with waits | stored
      · rcases (waits_cons _ _ _ _ _ _).mp waits with ⟨-, waits⟩ | waits
        · rw [ahead_idle stream position idle] at waits
          cases waits
        · exact Or.inl (Or.inr waits)
      · exact Or.inr stored

end Records

end EdoyumIM.WaitingBytes
