import EdoyumIM.Effects
import EdoyumIM.FieldCodec

/-!
The public operations of BinaryWriter in any order. A fixed-size write goes to
`m_index` and cuts off whatever stands behind it, a string goes to the end of
the buffer; the two agree as long as `m_index` is the size of the buffer. After
`operator=` from a string it is zero, until the next fixed-size write, which
then takes the place of as many bytes as the assignment left uncounted.
-/

namespace EdoyumIM.WriterOperations

open MachineWords FieldCodec Effects

/-! A log that is extended at its end or started again. -/
section Log

inductive Edit (α : Type) where
  | extend (piece : List α)
  | restart (piece : List α)

variable {α : Type}

def edit (log : List α) : Edit α → List α
  | .extend piece => log ++ piece
  | .restart piece => piece

def contents (log : List α) (edits : List (Edit α)) : List α := edits.foldl edit log

theorem contents_extends (log : List α) (edits : List (Edit α))
    (extending : ∀ one ∈ edits, ∃ piece, one = .extend piece) :
    log <+: contents log edits := by
  induction edits generalizing log with
  | nil => exact List.prefix_refl log
  | cons one rest ih =>
      obtain ⟨⟨piece, rfl⟩, later⟩ := List.forall_mem_cons.mp extending
      exact (List.prefix_append log piece).trans (ih (log ++ piece) later)

end Log

/-! The operations. -/
section Operations

inductive Operation where
  | writeData (object : Bytes)
  | writeString (data : Bytes)
  | clear
  | assign (BW : Bytes)
  | writerFile (str : Fin (BinaryWriter.binaryPacklenLen2 + BinaryWriter.checksumLen) → UInt8)

def perform (write : BinaryWriter) : Operation → BinaryWriter
  | .writeData object => write.writeData object
  | .writeString data => write.writeString data
  | .clear => write.clear
  | .assign BW => write.assign BW
  | .writerFile str => write.writerFile str

def step (write : BinaryWriter) (operation : Operation) : List Unit × BinaryWriter :=
  ([], perform write operation)

/-- What the operation is for. -/
def Operation.edit : Operation → Edit UInt8
  | .writeData object => .extend object
  | .writeString data => .extend (encodeString data)
  | .clear => .restart []
  | .assign BW => .restart BW
  | .writerFile str => .restart (List.ofFn str)

def Operation.size (operation : Operation) : Nat :=
  match operation.edit with
  | .extend piece => piece.length
  | .restart piece => piece.length

/-- The buffer stays below the range of `m_index`. -/
def Small (write : BinaryWriter) (operation : Operation) : Prop :=
  (perform write operation).m_buffer.length < 2 ^ 32

/-- A `WriteData` leaves the bytes in the buffer and puts its own behind them. -/
def Appends (write : BinaryWriter) (operation : Operation) : Prop :=
  (perform write operation).m_buffer = edit write.m_buffer operation.edit

def AppendOnly (write : BinaryWriter) (operation : Operation) : Prop :=
  (perform write operation).Synced ∧ Appends write operation

instance (write : BinaryWriter) (operation : Operation) : Decidable (AppendOnly write operation) :=
  inferInstanceAs (Decidable (_ = _ ∧ _ = _))

/-- The fields of the codec are written by such operations. -/
def ofField : Field → Operation
  | .int value => .writeData (leBytes 4 (htonl value.toUInt32).toNat)
  | .string data => .writeString data

theorem writeFields_run (write : BinaryWriter) (fields : List Field) :
    writeFields write fields = (run step write (fields.map ofField)).2 := by
  induction fields generalizing write with
  | nil => rfl
  | cons field rest ih =>
      cases field with
      | int value => exact ih (write.writeInt value)
      | string data => exact ih (write.writeString data)

end Operations

/-! One operation. -/
section Steps

/-- The cursor is in the buffer or at its end. -/
def Inside (write : BinaryWriter) : Prop := write.m_index ≤ write.m_buffer.length

/-- A non-empty assignment leaves its bytes uncounted. -/
def Assigns : Operation → Prop
  | .assign BW => BW ≠ []
  | _ => False

/-- Behind these the cursor is at the end again. -/
def Realigns : Operation → Prop
  | .writeString _ => False
  | .assign BW => BW = []
  | _ => True

variable (write : BinaryWriter)

theorem writeData_length (object : Bytes) (inside : Inside write) :
    (write.writeData object).m_buffer.length = write.m_index + object.length := by
  rw [writeData_taken write object inside, List.length_append, List.length_take,
    Nat.min_eq_left inside]

theorem writeString_length (data : Bytes) :
    (write.writeString data).m_buffer.length =
      write.m_buffer.length + (encodeString data).length := by
  rw [writeString_buffer, List.length_append]

theorem perform_inside (operation : Operation) (inside : Inside write) :
    Inside (perform write operation) := by
  cases operation with
  | writeData object =>
      have length := writeData_length write object inside
      exact (Nat.mod_le _ _).trans length.ge
  | writeString data =>
      have length := writeString_length write data
      rw [perform, Inside, writeString_index, length]
      exact (Nat.mod_le _ _).trans (Nat.add_le_add_right inside _)
  | clear => exact le_rfl
  | assign BW => exact Nat.zero_le _
  | writerFile str => exact (List.length_ofFn (f := str)).ge

/-- What takes the cursor from the end of the buffer, and what brings it back. -/
theorem perform_drifts (operation : Operation) (inside : Inside write)
    (small : Small write operation) :
    ¬ (perform write operation).Synced ↔
      (Assigns operation ∨ ¬ write.Synced) ∧ ¬ Realigns operation := by
  cases operation with
  | writeData object =>
      have length := writeData_length write object inside
      rw [Small, perform, length] at small
      have aligned : (write.writeData object).Synced :=
        (Nat.mod_eq_of_lt small).trans length.symm
      exact iff_of_false (not_not_intro aligned) fun drift => drift.2 trivial
  | writeString data =>
      have length := writeString_length write data
      rw [Small, perform, length] at small
      rw [Inside] at inside
      have index : (write.writeString data).m_index =
          write.m_index + (encodeString data).length := by
        rw [writeString_index]
        exact Nat.mod_eq_of_lt (by omega)
      simp only [perform, BinaryWriter.Synced, index, length, Assigns, Realigns, false_or,
        not_false_eq_true, and_true]
      omega
  | clear => exact iff_of_false (not_not_intro rfl) fun drift => drift.2 trivial
  | assign BW =>
      cases BW with
      | nil => exact iff_of_false (not_not_intro rfl) fun drift => drift.2 rfl
      | cons byte rest =>
          exact iff_of_true (Nat.succ_ne_zero rest.length).symm
            ⟨Or.inl (List.cons_ne_nil byte rest), List.cons_ne_nil byte rest⟩
  | writerFile str =>
      have aligned : (write.writerFile str).Synced := (List.length_ofFn (f := str)).symm
      exact iff_of_false (not_not_intro aligned) fun drift => drift.2 trivial

/-- Only a fixed-size write can lose bytes, and does so away from the end. -/
theorem appends_iff (operation : Operation) (inside : Inside write) :
    Appends write operation ↔ ∀ object, operation = .writeData object → write.Synced := by
  cases operation with
  | writeData object =>
      rw [Appends, perform, writeData_taken write object inside]
      simp only [Operation.edit, edit, List.append_cancel_right_eq, List.take_eq_self_iff]
      constructor
      · exact fun reached _ _ => inside.antisymm reached
      · exact fun synced => (synced object rfl).ge
  | writeString data => exact iff_of_true (writeString_buffer write data) nofun
  | clear => exact iff_of_true rfl nofun
  | assign BW => exact iff_of_true rfl nofun
  | writerFile str => exact iff_of_true rfl nofun

theorem perform_appendOnly_iff (operation : Operation) (synced : write.Synced)
    (small : Small write operation) :
    AppendOnly write operation ↔ ∀ BW, operation = .assign BW → BW = [] := by
  have inside : Inside write := synced.le
  have drifts := perform_drifts write operation inside small
  have appends := (appends_iff write operation inside).mpr fun _ _ => synced
  rw [AppendOnly, and_iff_left appends, ← not_iff_not, drifts]
  cases operation with
  | assign BW => simp [Assigns, Realigns, synced]
  | writeData object => simp [Assigns, synced]
  | writeString data => simp [Assigns, synced]
  | clear => simp [Assigns, synced]
  | writerFile str => simp [Assigns, synced]

end Steps

/-! Every order of operations. -/
section Runs

/-- Where every step appends, the buffer is the log that the operations make. -/
theorem run_contents (write : BinaryWriter) (operations : List Operation)
    (appends : Along step Appends write operations) :
    (run step write operations).2.m_buffer =
      contents write.m_buffer (operations.map Operation.edit) := by
  induction operations generalizing write with
  | nil => rfl
  | cons operation rest ih =>
      obtain ⟨here, later⟩ := appends
      calc (run step (perform write operation) rest).2.m_buffer
          = contents (perform write operation).m_buffer (rest.map Operation.edit) := ih _ later
        _ = contents (edit write.m_buffer operation.edit) (rest.map Operation.edit) :=
            congrArg (contents · _) here

/-- What is in the buffer stays in front of what is written to it later. -/
theorem buffer_kept (write : BinaryWriter) (operations : List Operation)
    (appends : Along step Appends write operations)
    (writes : ∀ operation ∈ operations, ∃ piece, operation.edit = .extend piece) :
    write.m_buffer <+: (run step write operations).2.m_buffer := by
  rw [run_contents write operations appends]
  apply contents_extends
  intro one member
  obtain ⟨operation, inside, rfl⟩ := List.mem_map.mp member
  exact writes operation inside

theorem perform_length (write : BinaryWriter) (operation : Operation) (inside : Inside write) :
    (perform write operation).m_buffer.length ≤ write.m_buffer.length + operation.size := by
  cases operation with
  | writeData object =>
      exact (writeData_length write object inside).le.trans (Nat.add_le_add_right inside _)
  | writeString data => exact (writeString_length write data).le
  | clear => exact Nat.zero_le _
  | assign BW => exact Nat.le_add_left _ _
  | writerFile str => exact Nat.le_add_left _ _

/-- Operations that hand over less than `2 ^ 32` bytes in all. -/
theorem small_of_total (write : BinaryWriter) (operations : List Operation)
    (inside : Inside write)
    (total : write.m_buffer.length + (operations.map Operation.size).sum < 2 ^ 32) :
    Along step Small write operations := by
  induction operations generalizing write with
  | nil => exact trivial
  | cons operation rest ih =>
      have length := perform_length write operation inside
      rw [List.map_cons, List.sum_cons] at total
      refine ⟨?_, ih _ (perform_inside write operation inside) ?_⟩
      · rw [Small]
        omega
      · dsimp only [step]
        omega

theorem run_inside (operations : List Operation) (small : Along step Small .fresh operations) :
    Along step (fun write operation => Inside write ∧ Small write operation) .fresh operations :=
  along_of_invariant step (fun _ _ inside here => ⟨inside, here⟩)
    (fun write operation inside _ => perform_inside write operation inside) .fresh operations
    le_rfl small

/-- A non-empty string was assigned, and nothing has brought the cursor back since. -/
def Drifts (before : List Operation) : Prop :=
  ∃ earlier BW later, before = earlier ++ .assign BW :: later ∧ BW ≠ [] ∧
    ∀ operation ∈ later, ¬ Realigns operation

theorem drifted_iff (before : List Operation) (small : Along step Small .fresh before) :
    ¬ (run step .fresh before).2.Synced ↔ Drifts before := by
  rw [latched_iff_of step (fun write => ¬ write.Synced)
    (fun write operation held => perform_drifts write operation held.1 held.2) .fresh before
    (run_inside before small)]
  constructor
  · rintro (⟨drift, -⟩ | ⟨earlier, setting, later, rfl, assigns, unaligned⟩)
    · exact absurd fresh_synced drift
    · cases setting with
      | assign BW =>
          exact ⟨earlier, BW, later, rfl, assigns,
            (along_mem_iff step (fun operation => ¬ Realigns operation) _ later).mp unaligned.2⟩
      | _ => cases assigns
  · rintro ⟨earlier, BW, later, rfl, filled, unaligned⟩
    refine Or.inr ⟨earlier, .assign BW, later, rfl, filled, filled, ?_⟩
    exact along_of_mem step _ later unaligned

/-- Every `WriteData` appends its bytes if and only if no fixed-size write comes
while an assigned string is uncounted. -/
theorem writes_append_iff (operations : List Operation)
    (small : Along step Small .fresh operations) :
    Along step Appends .fresh operations ↔
      ∀ before object after, operations = before ++ .writeData object :: after →
        ¬ Drifts before := by
  rw [along_iff_of step (fun write operation held => appends_iff write operation held.1) .fresh
    operations (run_inside operations small), along_splits]
  constructor
  · rintro synced before object after rfl drifts
    have front := ((along_append step Small .fresh before _).mp small).1
    exact (drifted_iff before front).mpr drifts (synced before _ after rfl object rfl)
  · rintro undrifted before _ after rfl object rfl
    have front := ((along_append step Small .fresh before _).mp small).1
    by_contra drift
    exact undrifted before object after rfl ((drifted_iff before front).mp drift)

/-- The cursor equals the size of the buffer after every operation and every
`WriteData` appends its bytes if and only if no string but the empty one is
assigned. -/
theorem append_only_iff (operations : List Operation)
    (small : Along step Small .fresh operations) :
    Along step AppendOnly .fresh operations ↔ ∀ BW, .assign BW ∈ operations → BW = [] := by
  rw [along_iff step perform_appendOnly_iff (fun write operation synced small empty =>
      ((perform_appendOnly_iff write operation synced small).mpr empty).1) .fresh operations
    fresh_synced small]
  rw [along_mem_iff]
  constructor
  · exact fun all BW member => all _ member BW rfl
  · rintro empty _ member BW rfl
    exact empty BW member

/-- A header that is filled later, two fields, and a second use of the writer. -/
theorem append_only_iff_two_uses :
    Along step AppendOnly .fresh [.writerFile fun _ => 204, .writeData [0, 0, 0, 7],
      .writeString [104, 105], .assign [], .writeString []] :=
  (append_only_iff [.writerFile fun _ => 204, .writeData [0, 0, 0, 7], .writeString [104, 105],
    .assign [], .writeString []] (small_of_total .fresh _ le_rfl (by decide))).mpr (by simp)

/-- An integer behind an assigned string: five bytes were there, and four are left. -/
theorem assigned_overwritten :
    let operations : List Operation := [.assign [104, 101, 108, 108, 111], .writeData [0, 0, 0, 7]]
    (operations.map Operation.size).sum < 2 ^ 32 ∧
    ¬ Along step AppendOnly .fresh operations ∧
    (run step .fresh (operations.take 1)).2 = ⟨[104, 101, 108, 108, 111], 0⟩ ∧
    (run step .fresh operations).2 = ⟨[0, 0, 0, 7], 4⟩ := by
  decide

end Runs

end EdoyumIM.WriterOperations
