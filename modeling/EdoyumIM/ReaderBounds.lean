import EdoyumIM.ChatServer
import EdoyumIM.FileServer

/-!
Bounds of the reads on a `BinaryReader`. A client of the reader is a `Plan`: it
names the next read depending on what the reads before returned, and may go on
behind a read that returned false. `ReadData<T>` checks its bounds.
`ReadData<string>` checks nothing, so it keeps to the buffer exactly when the
length prefix under the cursor ends in the buffer and names no more bytes than
stand behind it.
-/

namespace EdoyumIM.ReaderBounds

open MachineWords FieldCodec

inductive Plan where
  | stop
  | read (kind : Kind) (next : Option Field → Plan)

def Plan.ofKinds : List Kind → Plan
  | [] => .stop
  | kind :: rest => .read kind fun _ => ofKinds rest

structure ReadCall where
  reader : BinaryReader
  kind : Kind
  outcome : Except Fault (Option (Field × BinaryReader))

/-- The reads of a plan, up to the first exception. -/
def calls (mem : Nat → UInt8) : Plan → BinaryReader → List ReadCall
  | .stop, _ => []
  | .read kind next, reader =>
      ⟨reader, kind, readField mem reader kind⟩ ::
        match readField mem reader kind with
        | .error _ => []
        | .ok none => calls mem (next none) reader
        | .ok (some (field, advanced)) => calls mem (next (some field)) advanced

/-! What the bytes of a message say. A length prefix is a numeral of any length. -/
section Prefixes

/-- The numeral at the head of some bytes, with `value` for the digits before
it, and the bytes behind it. -/
def lengthPrefix : Nat → Bytes → Option (Nat × Bytes)
  | _, [] => none
  | value, byte :: rest =>
      let grown := 128 * value + (byte &&& 0x7F).toNat
      if byte &&& 0x80 = 0 then some (grown, rest) else lengthPrefix grown rest

/-- Where the content of the string field at a cursor starts, and its length. -/
def stringField (buffer : Bytes) (cursor : Nat) : Option (Nat × Nat) :=
  match lengthPrefix 0 (buffer.drop cursor) with
  | none => none
  | some (value, behind) =>
      if behind.length < value then none else some (buffer.length - behind.length, value)

def intAt (buffer : Bytes) (cursor : Nat) : Int32 :=
  int32OfNat (leNat ((buffer.drop cursor).take 4).reverse)

/-- The content of a string field, at the positions a `uint32_t` cursor and an
`int` length can name. -/
def stringAt (buffer : Bytes) (start length : Nat) : Bytes :=
  (buffer.drop (start % 2 ^ 32)).take (length % 2 ^ 32)

/-- Every string a plan comes to ends inside the buffer, and its length is no
negative `int`. -/
def prefixesFit (buffer : Bytes) : Plan → Nat → Bool
  | .stop, _ => true
  | .read .int next, cursor =>
      if cursor + 4 ≤ buffer.length then
        prefixesFit buffer (next (some (.int (intAt buffer cursor)))) ((cursor + 4) % 2 ^ 32)
      else prefixesFit buffer (next none) cursor
  | .read .string next, cursor =>
      match stringField buffer cursor with
      | none => false
      | some (start, length) =>
          length % 2 ^ 32 < 2 ^ 31 &&
            prefixesFit buffer (next (some (.string (stringAt buffer start length))))
              ((start + length) % 2 ^ 32)

/-- A field of the plan is cut off, or its prefix is unterminated or too large. -/
def malformed (buffer : Bytes) : Plan → Nat → Bool
  | .stop, _ => false
  | .read .int next, cursor =>
      if cursor + 4 ≤ buffer.length then
        malformed buffer (next (some (.int (intAt buffer cursor)))) ((cursor + 4) % 2 ^ 32)
      else true
  | .read .string next, cursor =>
      match stringField buffer cursor with
      | none => true
      | some (start, length) =>
          malformed buffer (next (some (.string (stringAt buffer start length)))) ((start + length) % 2 ^ 32)

theorem lengthPrefix_shrinks (bytes behind : Bytes) (value total : Nat)
    (decoded : lengthPrefix value bytes = some (total, behind)) :
    behind.length < bytes.length := by
  induction bytes generalizing value with
  | nil => simp [lengthPrefix] at decoded
  | cons byte rest ih =>
      simp only [lengthPrefix] at decoded
      split at decoded
      · obtain ⟨-, rfl⟩ : _ ∧ rest = behind := by simpa using decoded
        simp
      · have shorter := ih _ decoded
        simp only [List.length_cons]
        omega

theorem stringField_some (buffer : Bytes) (cursor start length : Nat)
    (field : stringField buffer cursor = some (start, length)) :
    ∃ behind, lengthPrefix 0 (buffer.drop cursor) = some (length, behind) ∧
      start = buffer.length - behind.length ∧ cursor < start ∧
      start + length ≤ buffer.length := by
  simp only [stringField] at field
  split at field
  · cases field
  · next value behind decoded =>
    have shorter := lengthPrefix_shrinks _ _ _ _ decoded
    rw [List.length_drop] at shorter
    split_ifs at field with large
    obtain ⟨rfl, rfl⟩ : buffer.length - behind.length = start ∧ value = length := by
      simpa using field
    exact ⟨behind, decoded, rfl, by omega, by omega⟩

end Prefixes

/-! One read, in terms of the bytes under the cursor. -/
section Reads

variable (mem : Nat → UInt8) (buffer : Bytes) (cursor : Nat)

theorem shift_or_ofNat (value : Nat) (byte : UInt8) :
    (UInt32.ofNat value <<< 7) ||| (byte &&& 0x7F).toUInt32 =
      UInt32.ofNat (128 * value + (byte &&& 0x7F).toNat) := by
  have small : (byte &&& 0x7F).toNat < 2 ^ 7 := by
    rw [UInt8.toNat_and]
    exact lt_of_le_of_lt Nat.and_le_right (by decide)
  -- the digits that the shift drops are those beyond the word
  have shifted : (UInt32.ofNat value <<< 7).toNat = 2 ^ 7 * (value % 2 ^ 25) := by
    rw [UInt32.toNat_shiftLeft, UInt32.toNat_ofNat']
    simp only [UInt32.reduceToNat, Nat.shiftLeft_eq, Nat.reduceMod]
    omega
  have joined := Nat.two_pow_add_eq_or_of_lt small (value % 2 ^ 25)
  apply UInt32.toNat.inj
  rw [UInt32.toNat_or, shifted, UInt8.toNat_toUInt32, ← joined, UInt32.toNat_ofNat']
  omega

/-- The loop of the reader over bytes that hold a whole numeral. -/
theorem lengthLoop_prefix (pcur : Nat → UInt8) (bytes behind : Bytes) (value total i : Nat)
    (bytesAt : ∀ j, j < bytes.length → pcur (i + j) = bytes.getD j 0)
    (decoded : lengthPrefix value bytes = some (total, behind)) :
    BinaryReader.lengthLoop pcur bytes.length i (UInt32.ofNat value) =
      (UInt32.ofNat total, i + (bytes.length - behind.length) - 1) := by
  induction bytes generalizing value i with
  | nil => simp [lengthPrefix] at decoded
  | cons byte rest ih =>
      have first : pcur i = byte := by simpa using bytesAt 0 (by simp)
      simp only [lengthPrefix] at decoded
      simp only [List.length_cons, BinaryReader.lengthLoop, first, shift_or_ofNat]
      split at decoded
      · next last =>
        obtain ⟨rfl, rfl⟩ : _ = total ∧ rest = behind := by simpa using decoded
        simp only [last, ↓reduceIte]
        congr 1
        omega
      · next more =>
        have shorter := lengthPrefix_shrinks _ _ _ _ decoded
        simp only [more, ↓reduceIte]
        rw [ih _ (i + 1) (fun j inside => ?_) decoded]
        · congr 1
          omega
        · have next := bytesAt (j + 1) (by simpa using inside)
          rw [show i + 1 + j = i + (j + 1) by omega, next]
          simp

theorem byteAt_drop (index j : Nat) (inside : index + j < buffer.length) :
    BinaryReader.byteAt mem ⟨buffer, cursor⟩ (index + j) = (buffer.drop index).getD j 0 := by
  simp only [BinaryReader.byteAt, inside, ↓reduceIte, List.getD_eq_getElem?_getD,
    List.getElem?_drop]

theorem byteAt_slice (start length : Nat) (inside : start + length ≤ buffer.length) :
    (List.range length).map (fun j => BinaryReader.byteAt mem ⟨buffer, cursor⟩ (start + j)) =
      (buffer.drop start).take length := by
  apply List.ext_getElem
  · simp only [List.length_map, List.length_range, List.length_take, List.length_drop]
    omega
  · intro j left right
    have bound : j < length := by simpa using left
    rw [List.getElem_map, List.getElem_range, byteAt_drop mem buffer cursor start j (by omega),
      List.getElem_take, List.getD_eq_getElem _ 0 (by rw [List.length_drop]; omega)]

theorem readInt_at :
    BinaryReader.readInt ⟨buffer, cursor⟩ =
      if cursor + 4 ≤ buffer.length then
        some (intAt buffer cursor, ⟨buffer, (cursor + 4) % 2 ^ 32⟩) else none := by
  simp only [BinaryReader.readInt, BinaryReader.readData, intAt]
  by_cases inside : cursor + 4 ≤ buffer.length
  · simp [inside, Nat.not_lt.mpr inside]
  · simp [inside, Nat.not_le.mp inside]

theorem readString_at (start length : Nat) (inside : cursor ≤ buffer.length)
    (field : stringField buffer cursor = some (start, length)) :
    BinaryReader.readString mem ⟨buffer, cursor⟩ =
      if length % 2 ^ 32 < 2 ^ 31 then
        .ok (stringAt buffer start length, ⟨buffer, (start + length) % 2 ^ 32⟩)
      else .error .lengthError := by
  obtain ⟨behind, decoded, starts, after, fits⟩ :=
    stringField_some buffer cursor start length field
  have shorter := lengthPrefix_shrinks _ _ _ _ decoded
  have remaining : BinaryReader.sizeSub buffer.length cursor = (buffer.drop cursor).length := by
    rw [BinaryReader.sizeSub, if_pos inside, List.length_drop]
  have scanned := lengthLoop_prefix
    (fun j => BinaryReader.byteAt mem ⟨buffer, cursor⟩ (cursor + j)) (buffer.drop cursor) behind 0
    length 0 (fun j bound => by
      rw [Nat.zero_add]
      exact byteAt_drop mem buffer cursor cursor j
        (by rw [List.length_drop] at bound; omega)) decoded
  rw [List.length_drop] at shorter scanned remaining
  have value : (UInt32.ofNat length).toNat = length % 2 ^ 32 := UInt32.toNat_ofNat'
  have negative : (UInt32.ofNat length).toInt32 < 0 ↔ ¬ length % 2 ^ 32 < 2 ^ 31 := by
    rw [toInt32_negative_iff, value, Nat.not_lt]
  have begins : (cursor + (0 + (buffer.length - cursor - behind.length) - 1 + 1)) % 2 ^ 32 =
      start % 2 ^ 32 := by
    congr 1
    omega
  simp only [BinaryReader.readString, remaining]
  rw [show (0 : UInt32) = UInt32.ofNat 0 from rfl, scanned]
  simp only [negative, value, begins]
  by_cases short : length % 2 ^ 32 < 2 ^ 31
  · have content := byteAt_slice mem buffer cursor (start % 2 ^ 32) (length % 2 ^ 32) (by omega)
    simp only [short, not_true_eq_false, ↓reduceIte, content, stringAt, Nat.add_mod_mod,
      Nat.mod_add_mod]
  · simp only [short, not_false_eq_true, ↓reduceIte]

theorem int_field :
    readField mem ⟨buffer, cursor⟩ .int =
      .ok (if cursor + 4 ≤ buffer.length then
        some (.int (intAt buffer cursor), ⟨buffer, (cursor + 4) % 2 ^ 32⟩) else none) := by
  rw [readField, readInt_at]
  split_ifs <;> rfl

theorem string_field (start length : Nat) (inside : cursor ≤ buffer.length)
    (field : stringField buffer cursor = some (start, length)) :
    readField mem ⟨buffer, cursor⟩ .string =
      if length % 2 ^ 32 < 2 ^ 31 then
        .ok (some (.string (stringAt buffer start length), ⟨buffer, (start + length) % 2 ^ 32⟩))
      else .error .lengthError := by
  rw [readField, readString_at mem buffer cursor start length inside field]
  split_ifs <;> rfl

theorem string_never_false (reader : BinaryReader) :
    readField mem reader .string ≠ .ok none := by
  rw [readField]
  cases reader.readString mem <;> simp [Except.map]

end Reads

/-! All reads of a plan. -/
section Plans

variable (mem : Nat → UInt8) (buffer : Bytes)

/-- The value consists of the bytes in front of the cursor. -/
def TakenFrom (buffer : Bytes) (cursor : Nat) : Field → Prop
  | .int value => ∃ start, start + 4 ≤ buffer.length ∧ cursor = (start + 4) % 2 ^ 32 ∧
      value = int32OfNat (leNat ((buffer.drop start).take 4).reverse)
  | .string data => ∃ start, start + data.length ≤ buffer.length ∧
      cursor = (start + data.length) % 2 ^ 32 ∧ data = (buffer.drop start).take data.length

/-- The read raises nothing, leaves the cursor in the buffer, returns bytes of
the buffer, and refuses a string whose prefix is unterminated or too large. -/
def ReadCall.Contained (call : ReadCall) : Prop :=
  ∃ result, call.outcome = .ok result ∧
    (∀ field next, result = some (field, next) →
      next.m_buffer = call.reader.m_buffer ∧ next.m_index ≤ next.m_buffer.length ∧
        TakenFrom next.m_buffer next.m_index field) ∧
    (call.kind = .string → stringField call.reader.m_buffer call.reader.m_index = none →
      result = none)

theorem int_contained (cursor : Nat) :
    ReadCall.Contained ⟨⟨buffer, cursor⟩, .int, readField mem ⟨buffer, cursor⟩ .int⟩ := by
  refine ⟨_, int_field mem buffer cursor, ?_, by simp⟩
  intro field next returned
  split_ifs at returned with inside
  obtain ⟨rfl, rfl⟩ := Prod.mk.inj (Option.some.inj returned)
  have low : (cursor + 4) % 2 ^ 32 ≤ buffer.length := le_trans (Nat.mod_le _ _) inside
  exact ⟨rfl, low, cursor, inside, rfl, rfl⟩

theorem string_contained (cursor : Nat) (inside : cursor ≤ buffer.length) :
    ReadCall.Contained ⟨⟨buffer, cursor⟩, .string, readField mem ⟨buffer, cursor⟩ .string⟩ ↔
      ∃ start length, stringField buffer cursor = some (start, length) ∧
        length % 2 ^ 32 < 2 ^ 31 := by
  constructor
  · rintro ⟨result, returned, -, refuses⟩
    cases field : stringField buffer cursor with
    | none =>
        have never := refuses rfl field
        subst never
        exact absurd returned (string_never_false mem _)
    | some parts =>
        obtain ⟨start, length⟩ := parts
        have read := string_field mem buffer cursor start length inside field
        refine ⟨start, length, rfl, ?_⟩
        by_contra long
        rw [if_neg long] at read
        rw [read] at returned
        cases returned
  · rintro ⟨start, length, field, short⟩
    obtain ⟨behind, -, -, after, fits⟩ := stringField_some buffer cursor start length field
    have read := string_field mem buffer cursor start length inside field
    rw [if_pos short] at read
    refine ⟨_, read, ?_, by simp [field]⟩
    intro value next returned
    obtain ⟨rfl, rfl⟩ := Prod.mk.inj (Option.some.inj returned)
    have size : (stringAt buffer start length).length = length % 2 ^ 32 := by
      rw [stringAt, List.length_take, List.length_drop]
      omega
    have low : (start + length) % 2 ^ 32 ≤ buffer.length := le_trans (Nat.mod_le _ _) fits
    refine ⟨rfl, low, start % 2 ^ 32, ?_, ?_, ?_⟩
    · show start % 2 ^ 32 + _ ≤ buffer.length
      rw [size]
      omega
    · rw [size, Nat.add_mod]
    · rw [size, stringAt]

theorem calls_int (next : Option Field → Plan) (cursor : Nat) :
    calls mem (.read .int next) ⟨buffer, cursor⟩ =
      ⟨⟨buffer, cursor⟩, .int, readField mem ⟨buffer, cursor⟩ .int⟩ ::
        if cursor + 4 ≤ buffer.length then
          calls mem (next (some (.int (intAt buffer cursor)))) ⟨buffer, (cursor + 4) % 2 ^ 32⟩
        else calls mem (next none) ⟨buffer, cursor⟩ := by
  rw [calls, int_field]
  split_ifs <;> rfl

theorem calls_string (next : Option Field → Plan) (cursor start length : Nat)
    (inside : cursor ≤ buffer.length) (field : stringField buffer cursor = some (start, length))
    (short : length % 2 ^ 32 < 2 ^ 31) :
    calls mem (.read .string next) ⟨buffer, cursor⟩ =
      ⟨⟨buffer, cursor⟩, .string, readField mem ⟨buffer, cursor⟩ .string⟩ ::
        calls mem (next (some (.string (stringAt buffer start length))))
          ⟨buffer, (start + length) % 2 ^ 32⟩ := by
  rw [calls, string_field mem buffer cursor start length inside field, if_pos short]

theorem prefixesFit_string (next : Option Field → Plan) (cursor : Nat) :
    prefixesFit buffer (.read .string next) cursor = true ↔
      ∃ start length, stringField buffer cursor = some (start, length) ∧
        length % 2 ^ 32 < 2 ^ 31 ∧
        prefixesFit buffer (next (some (.string (stringAt buffer start length))))
          ((start + length) % 2 ^ 32) = true := by
  rw [prefixesFit]
  cases stringField buffer cursor with
  | none => simp
  | some parts =>
      simp only [Bool.and_eq_true, decide_eq_true_eq, Option.some.injEq]
      constructor
      · intro fits
        exact ⟨parts.1, parts.2, rfl, fits⟩
      · rintro ⟨start, length, rfl, fits⟩
        exact fits

/-- Whatever stands behind the buffer: all reads of a plan are contained exactly
if the prefixes of the strings it comes to fit. -/
theorem calls_contained (plan : Plan) (cursor : Nat) (inside : cursor ≤ buffer.length) :
    (∀ call ∈ calls mem plan ⟨buffer, cursor⟩, call.Contained) ↔
      prefixesFit buffer plan cursor = true := by
  induction plan generalizing cursor with
  | stop => simp [calls, prefixesFit]
  | read kind next ih =>
      cases kind with
      | int =>
          have first := int_contained mem buffer cursor
          rw [calls_int, List.forall_mem_cons, and_iff_right first, prefixesFit]
          split_ifs with complete
          · exact ih _ _ (le_trans (Nat.mod_le _ _) complete)
          · exact ih _ _ inside
      | string =>
          have first := string_contained mem buffer cursor inside
          rw [prefixesFit_string]
          constructor
          · intro contained
            rw [calls, List.forall_mem_cons, first] at contained
            obtain ⟨start, length, field, short⟩ := contained.1
            obtain ⟨-, -, -, -, ends⟩ := stringField_some buffer cursor start length field
            have later := contained.2
            rw [string_field mem buffer cursor start length inside field, if_pos short] at later
            exact ⟨start, length, field, short, (ih _ _ (le_trans (Nat.mod_le _ _) ends)).mp later⟩
          · rintro ⟨start, length, field, short, later⟩
            obtain ⟨-, -, -, -, ends⟩ := stringField_some buffer cursor start length field
            rw [calls_string mem buffer next cursor start length inside field short,
              List.forall_mem_cons]
            exact ⟨first.mpr ⟨start, length, field, short⟩,
              (ih _ _ (le_trans (Nat.mod_le _ _) ends)).mpr later⟩

end Plans

/-! The reads of the two servers. -/
section Servers

/-- The reads of `ClientSession::Process`, which ignores the result of the last. -/
def chatPlan : Plan :=
  .read .int fun
    | some (.int cmd) => .read .int fun
        | some _ => .read .string fun _ =>
            match ChatWorld.MsgType.ofCode cmd with
            | some .chat => .read .int fun _ => .stop
            | some .multichat => .read .string fun _ => .stop
            | _ => .stop
        | none => .stop
    | _ => .stop

/-- The reads behind the sequence number of a file request. -/
def requestPlan : Plan :=
  .read .string fun filemd5 =>
    if filemd5 = some (.string []) then .stop
    else .read .int fun
      | some _ => .read .int fun
          | some _ => .read .string fun _ => .stop
          | none => .stop
      | none => .stop

/-- The reads of `FileSession::Process`. -/
def filePlan : Plan :=
  .read .int fun
    | some _ => .read .int fun
        | some _ => requestPlan
        | none => .stop
    | none => .stop

variable (mem : Nat → UInt8) (buffer : Bytes)

theorem header_unread : ChatServer.readHeader buffer = none ↔ buffer.length < 8 := by
  simp only [ChatServer.readHeader, BinaryReader.ofBytes, readInt_at]
  by_cases first : 4 ≤ buffer.length
  · by_cases second : 8 ≤ buffer.length
    · simp [first, second, readInt_at]
    · simp [first, second, readInt_at]
      omega
  · simp [first]
    omega

theorem chat_refuses (env : JsonValue.Env) (me : ChatWorld.ClientSession) (conn : Bytes)
    (garbage : Int32) (world : ChatWorld.World) :
    (ChatServer.process env me conn mem garbage buffer world).value = .ok false ↔
      buffer.length < 8 := by
  rw [← header_unread, ChatServer.process]
  cases front : ChatServer.readHeader buffer with
  | none => simp
  | some parts =>
      obtain ⟨cmd, m_seq, reader⟩ := parts
      simp only [reduceCtorEq, iff_false, Effects.Act.modify_bind]
      cases read : reader.readString mem with
      | error fault => simp
      | ok parts =>
          rw [Effects.Act.lift_ok_bind, (Effects.Act.bind_pure_map _ _ _).2.2]
          cases (ChatServer.request env _ conn mem garbage cmd parts.2 parts.1 _).value <;>
            simp [Except.map]

/-- A file request whose strings fit is only cut off in one of its integers. -/
theorem request_cut (cursor : Nat) (inside : cursor ≤ buffer.length)
    (fits : prefixesFit buffer requestPlan cursor = true)
    (cut : malformed buffer requestPlan cursor = true) :
    FileServer.readRequest mem ⟨buffer, cursor⟩ = .ok none := by
  rw [requestPlan, prefixesFit_string] at fits
  obtain ⟨start, length, field, short, later⟩ := fits
  have read := readString_at mem buffer cursor start length inside field
  rw [if_pos short] at read
  rw [requestPlan, malformed, field] at cut
  simp only [FileServer.readRequest, read, bind, Except.bind]
  by_cases named : stringAt buffer start length = []
  · simp [named]
    rfl
  simp only [Option.some.injEq, Field.string.injEq, named, ↓reduceIte, malformed, prefixesFit,
    readInt_at] at cut later ⊢
  split_ifs at cut later ⊢ with offset filesize
  · -- nothing is left to be cut off: the prefix of the data fits as well
    split at later
    · cases later
    · next data =>
      rw [data] at cut
      cases cut
  · simp only [readInt_at, if_neg filesize]
    rfl
  · rfl

theorem file_refuses (fs : FileServer.FileSystem) (luck : FileServer.Luck) (desk : FileServer.Desk)
    (fits : prefixesFit buffer filePlan 0 = true) (cut : malformed buffer filePlan 0 = true) :
    (FileServer.process fs mem luck buffer desk).value = .ok false := by
  rw [FileServer.process, BinaryReader.ofBytes, readInt_at]
  by_cases first : 0 + 4 ≤ buffer.length
  swap
  · rw [if_neg first]
    rfl
  simp only [first, ↓reduceIte, readInt_at]
  by_cases second : (0 + 4) % 2 ^ 32 + 4 ≤ buffer.length
  swap
  · rw [if_neg second]
    rfl
  simp only [filePlan, prefixesFit, malformed, first, second, ↓reduceIte] at fits cut ⊢
  rw [request_cut mem buffer _ (by omega) fits cut]
  rfl

/-- All reads on a buffer are contained exactly if the prefixes of its strings
fit. Each `Process` also refuses every malformed message exactly if, beyond
that, no chat message ends inside its target. -/
theorem reads_contained_iff :
    (∀ plan, (∀ call ∈ calls mem plan (.ofBytes buffer), call.Contained) ↔
      prefixesFit buffer plan 0 = true) ∧
    (∀ env me conn garbage world,
      ((∀ call ∈ calls mem chatPlan (.ofBytes buffer), call.Contained) ∧
        (malformed buffer chatPlan 0 = true →
          (ChatServer.process env me conn mem garbage buffer world).value = .ok false)) ↔
      (prefixesFit buffer chatPlan 0 = true ∧
        (malformed buffer chatPlan 0 = true → buffer.length < 8))) ∧
    (∀ fs luck desk,
      ((∀ call ∈ calls mem filePlan (.ofBytes buffer), call.Contained) ∧
        (malformed buffer filePlan 0 = true →
          (FileServer.process fs mem luck buffer desk).value = .ok false)) ↔
      prefixesFit buffer filePlan 0 = true) := by
  have contained := fun plan => calls_contained mem buffer plan 0 (Nat.zero_le _)
  refine ⟨contained, ?_, ?_⟩
  · intro env me conn garbage world
    rw [chat_refuses]
    exact and_congr_left fun _ => contained chatPlan
  · intro fs luck desk
    constructor
    · rintro ⟨safe, -⟩
      exact (contained filePlan).mp safe
    · intro fits
      exact ⟨(contained filePlan).mpr fits, file_refuses mem buffer fs luck desk fits⟩

/-- A prefix without a last digit, a length of five before one byte, and a
length of `2 ^ 32 - 1`, which is read as `-1`. -/
theorem prefixes_unchecked :
    ¬ (∀ call ∈ calls (fun _ => 0) (.ofKinds [.string]) (.ofBytes [0x80]), call.Contained) ∧
    ¬ (∀ call ∈ calls (fun _ => 0) (.ofKinds [.string]) (.ofBytes [5, 65]), call.Contained) ∧
    ¬ (∀ call ∈ calls (fun _ => 0) (.ofKinds [.string])
      (.ofBytes [0x8F, 0xFF, 0xFF, 0xFF, 0x7F]), call.Contained) ∧
    ¬ (∀ call ∈ calls (fun _ => 0) chatPlan
      (.ofBytes [0, 0, 3, 0xE8, 0, 0, 0, 1, 0x80]), call.Contained) := by
  refine ⟨?_, ?_, ?_, ?_⟩
  all_goals
    intro contained
    have fits := (calls_contained (fun _ => 0) _ _ 0 (Nat.zero_le _)).mp contained
    revert fits
    decide

end Servers

end EdoyumIM.ReaderBounds
