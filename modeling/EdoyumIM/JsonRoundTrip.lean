import EdoyumIM.JsonNumbers

/-!
Values written by the JSON library and read by it again. The text of a value is
read as that value with its strings respelled, whatever their bytes are; the
only thing that can keep it from being read is the stack limit of the reader.
-/

namespace EdoyumIM.JsonRoundTrip

open MachineWords FieldCodec JsonValue OrderedStore JsonReader JsonWriter JsonStrings JsonNumbers
open BuiltStyledStreamWriter

/-! What is read where a value was written. -/
section Reread

mutual

/-- How many nodes are on the stack while the deepest value is read. -/
def depth : Json → Nat
  | .array items => depthItems items + 1
  | .object members => depthMembers members + 1
  | _ => 1

def depthItems : List Json → Nat
  | [] => 0
  | item :: items => max (depth item) (depthItems items)

def depthMembers : List (Bytes × Json) → Nat
  | [] => 0
  | (_, value) :: members => max (depth value) (depthMembers members)

end

mutual

/-- No doubles, and integers of at most 64 bits. -/
def plain : Json → Bool
  | .real _ => false
  | .int value => -2 ^ 63 ≤ value ∧ value ≤ maxLargestUInt
  | .uint value => value ≤ maxLargestUInt
  | .array items => plainItems items
  | .object members => plainMembers members
  | _ => true

def plainItems : List Json → Bool
  | [] => true
  | item :: items => plain item && plainItems items

def plainMembers : List (Bytes × Json) → Bool
  | [] => true
  | (_, value) :: members => plain value && plainMembers members

end

mutual

def reread : Json → Json
  | .int value => number value
  | .uint value => number value
  | .string value => .string (respell value)
  | .array items => .array (rereadItems items)
  | .object members => .object (rereadMembers members OrderedMap.empty).entries
  | other => other

def rereadItems : List Json → List Json
  | [] => []
  | item :: items => reread item :: rereadItems items

def rereadMembers : List (Bytes × Json) → OrderedMap Bytes Json → OrderedMap Bytes Json
  | [], map => map
  | (name, value) :: members, map =>
      rereadMembers members (map.set (respell name) (reread value))

end

theorem depth_pos (value : Json) : 0 < depth value := by
  cases value <;> simp [depth]

end Reread

/-! What the reader makes of the pieces of a text. -/
section Reading

variable (decodeDouble : Bytes → Option ℚ)

/-- The outcome of a reading that takes a stack as deep as `needed`. -/
def within {α : Type} (needed free : Nat) (value : α) (tail : Bytes) : Except Stop (α × Bytes) :=
  if needed ≤ free then .ok (value, tail) else .error .exceeded

/-- The text `front` is read as the value, behind spaces and before anything
that does not go on with a number. -/
def ReadsBack (value : Json) (front : Bytes) : Prop :=
  ∀ free blank tail, blank.all isSpace = true → Stops tail →
    readValue decodeDouble free (blank ++ (front ++ tail)) =
      within (depth value) free (reread value) tail

def ReadsItems (items : List Json) (front : Bytes) : Prop :=
  items.length ≤ front.length + 1 ∧
    ∀ free rounds close tail, items.length ≤ rounds → close.all isSpace = true →
      readElements (readValue decodeDouble free) rounds (front ++ (close ++ 0x5D :: tail)) =
        within (depthItems items) free (rereadItems items) tail

def ReadsMembers (members : List (Bytes × Json)) (front : Bytes) : Prop :=
  members.length ≤ front.length + 1 ∧
    ∀ free rounds name map close tail, members.length ≤ rounds → close.all isSpace = true →
      readMembers (readValue decodeDouble free) rounds name map (front ++ (close ++ 0x7D :: tail)) =
        within (depthMembers members) free (rereadMembers members map) tail

variable {decodeDouble}

/-- A value that is one token. -/
theorem reads_token {value : Json} {front : Bytes} (type_ : TokenType)
    (shallow : depth value = 1) (solid : type_ ≠ .tokenComment)
    (token : ∀ tail, Stops tail → readToken (front ++ tail) = (⟨type_, front⟩, tail))
    (decodes : ∀ free current tail, skipCommentTokens current = (⟨type_, front⟩, tail) →
      readValue decodeDouble (free + 1) current = .ok (reread value, tail)) :
    ReadsBack decodeDouble value front := by
  intro free blank tail spaces stops
  cases free with
  | zero => simp [readValue, within, shallow]
  | succ free =>
      have read : readToken (blank ++ (front ++ tail)) = (⟨type_, front⟩, tail) :=
        (readToken_blank blank _ spaces).trans (token tail stops)
      rw [decodes free _ tail (skip_token read solid), within, if_pos (by omega)]

theorem reads_null : ReadsBack decodeDouble .null (text "null") := by
  refine reads_token .tokenNull rfl (by decide) (fun tail _ => ?_) fun free current tail read => ?_
  · exact readToken_scan 0x6E (text "ull") tail _ (by decide)
      (congrArg (Prod.mk TokenType.tokenNull) (matchPattern_append (text "ull") tail))
  · simp only [readValue, read, reread]

theorem reads_bool (value : Bool) :
    ReadsBack decodeDouble (.bool value) (text (if value then "true" else "false")) := by
  cases value with
  | true =>
      refine reads_token .tokenTrue rfl (by decide) (fun tail _ => ?_)
        fun free current tail read => ?_
      · exact readToken_scan 0x74 (text "rue") tail _ (by decide)
          (congrArg (Prod.mk TokenType.tokenTrue) (matchPattern_append (text "rue") tail))
      · simp only [readValue, read, reread]
  | false =>
      refine reads_token .tokenFalse rfl (by decide) (fun tail _ => ?_)
        fun free current tail read => ?_
      · exact readToken_scan 0x66 (text "alse") tail _ (by decide)
          (congrArg (Prod.mk TokenType.tokenFalse) (matchPattern_append (text "alse") tail))
      · simp only [readValue, read, reread]

theorem reads_string (value : Bytes) :
    ReadsBack decodeDouble (.string value) (valueToQuotedStringN value) := by
  refine reads_token .tokenString rfl (by decide) (fun tail _ => readToken_quoted value tail)
    fun free current tail read => ?_
  simp only [readValue, read, decodeString_quoted, Option.map_some, decoded, reread]

theorem reads_int (value : Int) (least : -2 ^ 63 ≤ value) (greatest : value ≤ maxLargestUInt) :
    ReadsBack decodeDouble (.int value) (valueToString value) := by
  refine reads_token .tokenNumber rfl (by decide) (readToken_int value)
    fun free current tail read => ?_
  simp only [readValue, read, decodeNumber_int decodeDouble value least greatest, decoded, reread]

theorem reads_uint (value : Nat) (fits : value ≤ maxLargestUInt) :
    ReadsBack decodeDouble (.uint value) (uintToString value) := by
  refine reads_token .tokenNumber rfl (by decide) (readToken_uint value)
    fun free current tail read => ?_
  simp only [readValue, read, decodeNumber_uint decodeDouble value fits, decoded, reread]

end Reading

/-! Arrays and objects. -/
section Containers

variable {decodeDouble : Bytes → Option ℚ}

theorem close_array (close tail : Bytes) (spaces : close.all isSpace = true) :
    readToken (close ++ 0x5D :: tail) = (⟨.tokenArrayEnd, [0x5D]⟩, tail) :=
  readToken_single 0x5D _ close tail spaces (by decide) rfl

theorem close_object (close tail : Bytes) (spaces : close.all isSpace = true) :
    readToken (close ++ 0x7D :: tail) = (⟨.tokenObjectEnd, [0x7D]⟩, tail) :=
  readToken_single 0x7D _ close tail spaces (by decide) rfl

theorem comma (tail : Bytes) : readToken (0x2C :: tail) = (⟨.tokenArraySeparator, [0x2C]⟩, tail) :=
  readToken_single 0x2C _ [] tail rfl (by decide) rfl

theorem within_both {α γ : Type} (first second free : Nat) (value : α) (both : γ)
    (middle tail : Bytes) (next : α × Bytes → Except Stop (γ × Bytes))
    (follows : next (value, middle) = within second free both tail) :
    (within first free value middle >>= next) = within (max first second) free both tail := by
  by_cases enough : first ≤ free
  · rw [within, if_pos enough]
    refine follows.trans ?_
    simp only [within, max_le_iff, enough, true_and]
  · rw [within, if_neg enough, within, if_neg (by omega)]
    rfl

theorem within_map {α γ : Type} (needed free : Nat) (value : α) (change : α → γ) (tail : Bytes) :
    (within needed free value tail >>= fun read => .ok (change read.1, read.2)) =
      within needed free (change value) tail := by
  rw [within, within]
  split_ifs <;> rfl

theorem reads_lastItem {value : Json} {blank front : Bytes}
    (reads : ReadsBack decodeDouble value front) (spaces : blank.all isSpace = true) :
    ReadsItems decodeDouble [value] (blank ++ front) := by
  refine ⟨by simp, ?_⟩
  intro free rounds close tail enough closing
  obtain ⟨more, rfl⟩ : ∃ more, rounds = more + 1 := ⟨rounds - 1, by simp at enough; omega⟩
  rw [readElements, List.append_assoc,
    reads free blank _ spaces (stops_blank close tail closing 0x5D (by decide))]
  refine within_both _ 0 free _ _ _ tail _ ?_
  simp only [skip_token (close_array close tail closing) (by decide)]
  rfl

theorem reads_moreItems {value next : Json} {items : List Json} {blank front behind : Bytes}
    (reads : ReadsBack decodeDouble value front) (spaces : blank.all isSpace = true)
    (rest : ReadsItems decodeDouble (next :: items) behind) :
    ReadsItems decodeDouble (value :: next :: items) (blank ++ (front ++ 0x2C :: behind)) := by
  refine ⟨by have := rest.1; simp at this ⊢; omega, ?_⟩
  intro free rounds close tail enough closing
  obtain ⟨more, rfl⟩ : ∃ more, rounds = more + 1 := ⟨rounds - 1, by simp at enough; omega⟩
  have apart : Stops (0x2C :: (behind ++ (close ++ 0x5D :: tail))) :=
    stops_blank [] _ rfl 0x2C (by decide)
  have later := rest.2 free more close tail (by simp at enough ⊢; omega) closing
  rw [readElements, List.append_assoc, List.append_assoc, List.cons_append,
    reads free blank _ spaces apart]
  refine within_both _ (depthItems (next :: items)) free _ _ _ tail _ ?_
  simp only [skip_token (comma _) (by decide), later]
  exact within_map _ free _ (reread value :: ·) tail

theorem colon (tail : Bytes) :
    readToken (text " : " ++ tail) = (⟨.tokenMemberSeparator, [0x3A]⟩, 0x20 :: tail) :=
  readToken_single 0x3A _ [0x20] (0x20 :: tail) rfl (by decide) rfl

/-- A member up to the end of its value. -/
theorem reads_member {value : Json} {blank front : Bytes}
    (reads : ReadsBack decodeDouble value front) (spaces : blank.all isSpace = true)
    (name tail : Bytes) (stops : Stops tail)
    (free rounds : Nat) (last : Bytes) (map : OrderedMap Bytes Json) :
    readMembers (readValue decodeDouble free) (rounds + 1) last map
        (blank ++ (valueToQuotedStringN name ++ (text " : " ++ (front ++ tail)))) =
      (within (depth value) free (reread value) tail >>= fun read =>
        memberEnd read.2 >>= fun ended =>
        if ended.1 then .ok (map.set (respell name) read.1, ended.2)
        else readMembers (readValue decodeDouble free) rounds (respell name)
          (map.set (respell name) read.1) ended.2) := by
  have named := readToken_quoted name (text " : " ++ (front ++ tail))
  have behind :
      readToken (blank ++ (valueToQuotedStringN name ++ (text " : " ++ (front ++ tail)))) =
      (⟨.tokenString, valueToQuotedStringN name⟩, text " : " ++ (front ++ tail)) :=
    (readToken_blank blank _ spaces).trans named
  have read := reads free [0x20] tail rfl stops
  rw [readMembers, skip_token behind (fun same => by cases same)]
  change (decoded (decodeString (valueToQuotedStringN name)) _ >>= _) = _
  rw [decodeString_quoted, ← read]
  simp only [decoded, bind, Except.bind, colon, ↓reduceIte]
  rfl

theorem reads_lastMember {value : Json} {blank front : Bytes} (name : Bytes)
    (reads : ReadsBack decodeDouble value front) (spaces : blank.all isSpace = true) :
    ReadsMembers decodeDouble [(name, value)]
      (blank ++ (valueToQuotedStringN name ++ (text " : " ++ front))) := by
  refine ⟨by simp, ?_⟩
  intro free rounds last map close tail enough closing
  obtain ⟨more, rfl⟩ : ∃ more, rounds = more + 1 := ⟨rounds - 1, by simp at enough; omega⟩
  have ended := close_object close tail closing
  simp only [List.append_assoc]
  rw [reads_member reads spaces name _ (stops_blank close tail closing 0x7D (by decide))]
  refine within_both _ 0 free _ _ _ tail _ ?_
  simp only [memberEnd, ended]
  rfl

theorem reads_moreMembers {value : Json} {next : Bytes × Json} {members : List (Bytes × Json)}
    {blank front behind : Bytes} (name : Bytes) (reads : ReadsBack decodeDouble value front)
    (spaces : blank.all isSpace = true)
    (rest : ReadsMembers decodeDouble (next :: members) behind) :
    ReadsMembers decodeDouble ((name, value) :: next :: members)
      (blank ++ (valueToQuotedStringN name ++ (text " : " ++ (front ++ 0x2C :: behind)))) := by
  refine ⟨by have := rest.1; simp at this ⊢; omega, ?_⟩
  intro free rounds last map close tail enough closing
  obtain ⟨more, rfl⟩ : ∃ more, rounds = more + 1 := ⟨rounds - 1, by simp at enough; omega⟩
  have apart : Stops (0x2C :: (behind ++ (close ++ 0x7D :: tail))) :=
    stops_blank [] _ rfl 0x2C (by decide)
  have later := rest.2 free more (respell name) (map.set (respell name) (reread value)) close tail
    (by simp at enough ⊢; omega) closing
  simp only [List.append_assoc, List.cons_append]
  rw [reads_member reads spaces name _ apart]
  refine within_both _ (depthMembers (next :: members)) free _ _ _ tail _ ?_
  simp only [memberEnd, comma]
  exact later

/-- A loop over items does not start at a closing bracket. -/
theorem reads_open {item : Json} {items : List Json} {front close tail : Bytes}
    (reads : ReadsItems decodeDouble (item :: items) front) (closing : close.all isSpace = true) :
    ¬ (skipSpaces (front ++ (close ++ 0x5D :: tail))).head? = some 0x5D := by
  intro closed
  obtain ⟨rest, shut⟩ : ∃ rest, skipSpaces (front ++ (close ++ 0x5D :: tail)) = 0x5D :: rest := by
    cases start : skipSpaces (front ++ (close ++ 0x5D :: tail)) with
    | nil => simp [start] at closed
    | cons c rest => exact ⟨rest, by rw [start] at closed; simpa using closed⟩
  have token : readToken (front ++ (close ++ 0x5D :: tail)) = (⟨.tokenArrayEnd, [0x5D]⟩, rest) := by
    rw [readToken, shut]
    exact congrArg (fun text => (Token.mk .tokenArrayEnd text, rest)) (between_append [0x5D] rest)
  have whole := reads.2 (depthItems (item :: items)) (items.length + 1) close tail (by simp) closing
  obtain ⟨free, deep⟩ : ∃ free, depthItems (item :: items) = free + 1 :=
    ⟨depthItems (item :: items) - 1, by have := depth_pos item; rw [depthItems]; omega⟩
  rw [deep, readElements, readValue, skip_token token (by decide)] at whole
  simp [within, bind, Except.bind] at whole

theorem reads_array {item : Json} {items : List Json} {front close : Bytes}
    (reads : ReadsItems decodeDouble (item :: items) front) (closing : close.all isSpace = true) :
    ReadsBack decodeDouble (.array (item :: items)) (0x5B :: (front ++ (close ++ [0x5D]))) := by
  intro free blank tail spaces _
  cases free with
  | zero => simp [readValue, within, depth]
  | succ free =>
      have token : readToken (blank ++ 0x5B :: (front ++ (close ++ 0x5D :: tail))) =
          (⟨.tokenArrayBegin, [0x5B]⟩, front ++ (close ++ 0x5D :: tail)) :=
        readToken_single 0x5B _ blank _ spaces (by decide) rfl
      have whole := reads.2 free ((front ++ (close ++ 0x5D :: tail)).length + 1) close tail
        (by have := reads.1; simp at this ⊢; omega) closing
      have inner : readValue decodeDouble (free + 1)
          (blank ++ 0x5B :: (front ++ (close ++ 0x5D :: tail))) =
          within (depthItems (item :: items)) free
            (Json.array (rereadItems (item :: items))) tail := by
        rw [readValue, skip_token token (by decide)]
        simp only [readArray, if_neg (reads_open reads closing), whole]
        exact within_map _ free _ Json.array tail
      simpa [within, depth, reread] using inner

theorem reads_object {member : Bytes × Json} {members : List (Bytes × Json)} {front close : Bytes}
    (reads : ReadsMembers decodeDouble (member :: members) front)
    (closing : close.all isSpace = true) :
    ReadsBack decodeDouble (.object (member :: members))
      (0x7B :: (front ++ (close ++ [0x7D]))) := by
  intro free blank tail spaces _
  cases free with
  | zero => simp [readValue, within, depth]
  | succ free =>
      have token : readToken (blank ++ 0x7B :: (front ++ (close ++ 0x7D :: tail))) =
          (⟨.tokenObjectBegin, [0x7B]⟩, front ++ (close ++ 0x7D :: tail)) :=
        readToken_single 0x7B _ blank _ spaces (by decide) rfl
      have whole := reads.2 free ((front ++ (close ++ 0x7D :: tail)).length + 1) []
        OrderedMap.empty close tail (by have := reads.1; simp at this ⊢; omega) closing
      have inner : readValue decodeDouble (free + 1)
          (blank ++ 0x7B :: (front ++ (close ++ 0x7D :: tail))) =
          within (depthMembers (member :: members)) free
            (Json.object (rereadMembers (member :: members) OrderedMap.empty).entries) tail := by
        rw [readValue, skip_token token (by decide)]
        simp only [readObject, whole]
        exact within_map _ free _ (fun map : OrderedMap Bytes Json => Json.object map.entries) tail
      simpa [within, depth, reread] using inner

theorem reads_emptyArray : ReadsBack decodeDouble (.array []) (text "[]") := by
  intro free blank tail spaces _
  cases free with
  | zero => simp [readValue, within, depth]
  | succ free =>
      have token : readToken (blank ++ (text "[]" ++ tail)) =
          (⟨.tokenArrayBegin, [0x5B]⟩, 0x5D :: tail) :=
        readToken_single 0x5B _ blank (0x5D :: tail) spaces (by decide) rfl
      have ended : (readToken (0x5D :: tail)).2 = tail :=
        congrArg Prod.snd (close_array [] tail rfl)
      rw [readValue, skip_token token (by decide)]
      simp only [readArray, ended]
      simp [skipSpaces, isSpace, within, depth, depthItems, reread, rereadItems]

theorem reads_emptyObject : ReadsBack decodeDouble (.object []) (text "\x7b\x7d") := by
  intro free blank tail spaces _
  cases free with
  | zero => simp [readValue, within, depth]
  | succ free =>
      have token : readToken (blank ++ (text "\x7b\x7d" ++ tail)) =
          (⟨.tokenObjectBegin, [0x7B]⟩, 0x7D :: tail) :=
        readToken_single 0x7B _ blank (0x7D :: tail) spaces (by decide) rfl
      have ended := skip_token (close_object [] tail rfl) (by decide)
      rw [List.nil_append] at ended
      rw [readValue, skip_token token (by decide)]
      simp only [readObject, readMembers, ended, ↓reduceIte]
      simp [bind, Except.bind, within, depth, depthMembers, reread, rereadMembers]

end Containers

/-! What the writer puts out. -/
section Writing

variable {decodeDouble : Bytes → Option ℚ} {realText : ℚ → Bytes}

/-- The writer has put out `front`, on the same indentation. -/
structure Wrote (before after : BuiltStyledStreamWriter) (front : Bytes) : Prop where
  out : after.sout_ = before.sout_ ++ front
  indentation : after.indentString_ = before.indentString_

theorem Wrote.then {before middle after : BuiltStyledStreamWriter} {front behind : Bytes}
    (first : Wrote before middle front) (second : Wrote middle after behind) :
    Wrote before after (front ++ behind) :=
  ⟨by rw [second.out, first.out, List.append_assoc], second.indentation.trans first.indentation⟩

theorem wrote_push (writer : BuiltStyledStreamWriter) (value : Bytes) :
    Wrote writer (writer.pushValue value) value := ⟨rfl, rfl⟩

theorem wrote_mark (writer : BuiltStyledStreamWriter) (indented_ : Bool) :
    Wrote writer (writer.setIndented indented_) [] := ⟨(List.append_nil _).symm, rfl⟩

theorem wrote_line (writer : BuiltStyledStreamWriter)
    (spaces : writer.indentString_.all isSpace = true) :
    ∃ blank, blank.all isSpace = true ∧ Wrote writer writer.lineStart blank := by
  rw [lineStart]
  split_ifs
  · exact ⟨[], rfl, (List.append_nil _).symm, rfl⟩
  · exact ⟨0x0A :: writer.indentString_, by simpa [isSpace] using spaces, rfl, rfl⟩

theorem wrote_withIndent (writer : BuiltStyledStreamWriter)
    (spaces : writer.indentString_.all isSpace = true) (value : Bytes) :
    ∃ blank, blank.all isSpace = true ∧
      Wrote writer (writer.writeWithIndent value) (blank ++ value) := by
  obtain ⟨blank, white, line⟩ := wrote_line writer spaces
  refine ⟨blank, white, ?_⟩
  have whole := (line.then (wrote_push _ value)).then (wrote_mark _ false)
  rwa [List.append_nil] at whole

/-- An opening bracket, what stands in one indentation more, and the closing one. -/
theorem wrote_bracket (writer after : BuiltStyledStreamWriter) (opening closing front : Bytes)
    (spaces : writer.indentString_.all isSpace = true)
    (inner : Wrote (writer.writeWithIndent opening).indent after front) :
    ∃ blank close, blank.all isSpace = true ∧ close.all isSpace = true ∧
      Wrote writer (after.unindent.writeWithIndent closing)
        (blank ++ (opening ++ (front ++ (close ++ closing)))) := by
  obtain ⟨blank, white, opened⟩ := wrote_withIndent writer spaces opening
  have indentation : after.unindent.indentString_ = writer.indentString_ := by
    have kept := inner.indentation
    have line := opened.indentation
    simp only [indent, unindent] at kept ⊢
    rw [kept, line, List.dropLast_concat]
  obtain ⟨close, blankClose, closed⟩ := wrote_withIndent after.unindent
    (by rw [indentation]; exact spaces) closing
  refine ⟨blank, close, white, blankClose, ?_, closed.indentation.trans indentation⟩
  have out := inner.out
  have before := opened.out
  simp only [indent] at out
  rw [closed.out]
  simp only [unindent, out, before, List.append_assoc]

theorem indented_spaces (writer : BuiltStyledStreamWriter) (opening : Bytes)
    (spaces : writer.indentString_.all isSpace = true) :
    (writer.writeWithIndent opening).indent.indentString_.all isSpace = true := by
  obtain ⟨_, _, opened⟩ := wrote_withIndent writer spaces opening
  simp only [indent, opened.indentation, List.all_append, spaces]
  rfl

theorem reads_spaced {value : Json} {blank front : Bytes}
    (reads : ReadsBack decodeDouble value front) (spaces : blank.all isSpace = true) :
    ReadsBack decodeDouble value (blank ++ front) := by
  intro free before tail white stops
  have all : (before ++ blank).all isSpace = true := by simp [white, spaces]
  simpa only [List.append_assoc] using reads free (before ++ blank) tail all stops

mutual

theorem value_reads (value : Json) (ordinary : plain value = true)
    (writer : BuiltStyledStreamWriter) (spaces : writer.indentString_.all isSpace = true) :
    ∃ front, Wrote writer (writeValue realText value writer) front ∧
      ReadsBack decodeDouble value front := by
  match value with
  | .null => exact ⟨_, wrote_push writer _, reads_null⟩
  | .int value =>
      obtain ⟨least, greatest⟩ : -2 ^ 63 ≤ value ∧ value ≤ maxLargestUInt := by
        simpa [plain] using ordinary
      exact ⟨_, wrote_push writer _, reads_int value least greatest⟩
  | .uint value =>
      exact ⟨_, wrote_push writer _, reads_uint value (by simpa [plain] using ordinary)⟩
  | .real value => simp [plain] at ordinary
  | .string value => exact ⟨_, wrote_push writer _, reads_string value⟩
  | .bool value => exact ⟨_, wrote_push writer _, reads_bool value⟩
  | .array [] => exact ⟨_, wrote_push writer _, reads_emptyArray⟩
  | .array (item :: items) =>
      obtain ⟨front, wrote, reads⟩ := items_read (item :: items) (by simp)
        (by simpa [plain] using ordinary)
        (writer.writeWithIndent (text "[")).indent (indented_spaces writer _ spaces)
      obtain ⟨blank, close, white, closing, whole⟩ := wrote_bracket writer _ (text "[") (text "]")
        front spaces wrote
      exact ⟨_, whole, reads_spaced (reads_array reads closing) white⟩
  | .object [] => exact ⟨_, wrote_push writer _, reads_emptyObject⟩
  | .object (member :: members) =>
      obtain ⟨front, wrote, reads⟩ := members_read (member :: members) (by simp)
        (by simpa [plain] using ordinary)
        (writer.writeWithIndent (text "\x7b")).indent (indented_spaces writer _ spaces)
      obtain ⟨blank, close, white, closing, whole⟩ := wrote_bracket writer _ (text "\x7b")
        (text "\x7d") front spaces wrote
      exact ⟨_, whole, reads_spaced (reads_object reads closing) white⟩

theorem items_read (items : List Json) (some : items ≠ []) (ordinary : plainItems items = true)
    (writer : BuiltStyledStreamWriter) (spaces : writer.indentString_.all isSpace = true) :
    ∃ front, Wrote writer (writeItems realText items writer) front ∧
      ReadsItems decodeDouble items front := by
  match items with
  | [] => exact absurd rfl some
  | [item] =>
      obtain ⟨blank, white, line⟩ := wrote_line writer spaces
      obtain ⟨front, wrote, reads⟩ := value_reads item (by simpa [plainItems] using ordinary)
        (writer.lineStart.setIndented true) (by rw [setIndented, line.indentation]; exact spaces)
      have first := ((line.then (wrote_mark _ true)).then wrote).then (wrote_mark _ false)
      rw [List.append_nil, List.append_nil] at first
      exact ⟨_, first, reads_lastItem reads white⟩
  | item :: next :: items =>
      obtain ⟨here, later⟩ : plain item = true ∧ plainItems (next :: items) = true := by
        simpa [plainItems] using ordinary
      obtain ⟨blank, white, line⟩ := wrote_line writer spaces
      obtain ⟨front, wrote, reads⟩ := value_reads item here (writer.lineStart.setIndented true)
        (by rw [setIndented, line.indentation]; exact spaces)
      have first := ((line.then (wrote_mark _ true)).then wrote).then (wrote_mark _ false)
      rw [List.append_nil, List.append_nil] at first
      have separated := first.then (wrote_push _ (text ","))
      obtain ⟨behind, rest, more⟩ := items_read (next :: items) (by simp) later _
        (by rw [separated.indentation]; exact spaces)
      refine ⟨_, separated.then rest, ?_⟩
      rw [List.append_assoc, List.append_assoc]
      exact reads_moreItems reads white more

theorem members_read (members : List (Bytes × Json)) (some : members ≠ [])
    (ordinary : plainMembers members = true) (writer : BuiltStyledStreamWriter)
    (spaces : writer.indentString_.all isSpace = true) :
    ∃ front, Wrote writer (writeMembers realText members writer) front ∧
      ReadsMembers decodeDouble members front := by
  match members with
  | [] => exact absurd rfl some
  | [(name, value)] =>
      obtain ⟨blank, white, line⟩ := wrote_withIndent writer spaces (valueToQuotedStringN name)
      have named := line.then (wrote_push _ (text " : "))
      obtain ⟨front, wrote, reads⟩ := value_reads value (by simpa [plainMembers] using ordinary) _
        (by rw [named.indentation]; exact spaces)
      refine ⟨_, named.then wrote, ?_⟩
      rw [List.append_assoc, List.append_assoc]
      exact reads_lastMember name reads white
  | (name, value) :: next :: members =>
      obtain ⟨here, later⟩ : plain value = true ∧ plainMembers (next :: members) = true := by
        simpa [plainMembers] using ordinary
      obtain ⟨blank, white, line⟩ := wrote_withIndent writer spaces (valueToQuotedStringN name)
      have named := line.then (wrote_push _ (text " : "))
      obtain ⟨front, wrote, reads⟩ := value_reads value here _
        (by rw [named.indentation]; exact spaces)
      have separated := (named.then wrote).then (wrote_push _ (text ","))
      obtain ⟨behind, rest, more⟩ := members_read (next :: members) (by simp) later _
        (by rw [separated.indentation]; exact spaces)
      refine ⟨_, separated.then rest, ?_⟩
      rw [List.append_assoc, List.append_assoc, List.append_assoc, List.append_assoc]
      exact reads_moreMembers name reads white more

end

end Writing

/-! The round trip. -/
section RoundTrip

variable (decodeDouble : Bytes → Option ℚ) (realText : ℚ → Bytes)

theorem mem_set {V : Type} (name : Bytes) (value : V) (map : OrderedMap Bytes V)
    (entry : Bytes × V) (member : entry ∈ (map.set name value).entries) :
    entry = (name, value) ∨ entry ∈ map.entries := by
  rcases mem_insertBy _ _ _ _ member with new | old
  · exact Or.inl new
  · exact Or.inr (List.mem_filter.mp old).1

theorem erase_absent {V : Type} (name : Bytes) (map : OrderedMap Bytes V)
    (absent : ∀ entry ∈ map.entries, entry.1 ≠ name) : (map.erase name).entries = map.entries :=
  List.filter_eq_self.mpr fun entry member => by simpa using absent entry member

theorem set_first {V : Type} (name : Bytes) (value : V) (map : OrderedMap Bytes V)
    (least : ∀ entry ∈ map.entries, name < entry.1) :
    (map.set name value).entries = (name, value) :: map.entries := by
  have same := erase_absent name map fun entry member => (least entry member).ne'
  change insertBy Prod.fst (name, value) (map.erase name).entries = _
  rw [same]
  cases entries : map.entries with
  | nil => rfl
  | cons first rest => exact if_pos (least first (by simp [entries]))

theorem set_last {V : Type} (name : Bytes) (value : V) (map : OrderedMap Bytes V)
    (greatest : ∀ entry ∈ map.entries, entry.1 < name) :
    (map.set name value).entries = map.entries ++ [(name, value)] := by
  have same := erase_absent name map fun entry member => (greatest entry member).ne
  change insertBy Prod.fst (name, value) (map.erase name).entries = _
  rw [same]
  generalize map.entries = entries at greatest
  induction entries with
  | nil => rfl
  | cons first rest ih =>
      obtain ⟨below, later⟩ := List.forall_mem_cons.mp greatest
      rw [insertBy, if_neg below.not_gt, if_pos below, ih later, List.cons_append]

theorem plainMembers_iff (members : List (Bytes × Json)) :
    plainMembers members = true ↔ ∀ member ∈ members, plain member.2 = true := by
  induction members with
  | nil => simp [plainMembers]
  | cons member members ih => simp [plainMembers, ih]

mutual

theorem plain_held (value : Json) (ordinary : plain value = true) : plain (held value) = true := by
  match value with
  | .null | .int _ | .uint _ | .real _ | .string _ | .bool _ => exact ordinary
  | .array items => exact plain_heldItems items ordinary
  | .object members =>
      exact (plainMembers_iff _).mpr (plain_heldMembers members ordinary)

theorem plain_heldItems (items : List Json) (ordinary : plainItems items = true) :
    plainItems (heldItems items) = true := by
  match items with
  | [] => rfl
  | item :: items =>
      obtain ⟨here, later⟩ : plain item = true ∧ plainItems items = true := by
        simpa [plainItems] using ordinary
      rw [heldItems, plainItems, plain_held item here, plain_heldItems items later]
      rfl

theorem plain_heldMembers (members : List (Bytes × Json)) (ordinary : plainMembers members = true) :
    ∀ member ∈ (heldMembers members).entries, plain member.2 = true := by
  match members with
  | [] => exact fun member none => absurd none List.not_mem_nil
  | (name, value) :: members =>
      obtain ⟨here, later⟩ : plain value = true ∧ plainMembers members = true := by
        simpa [plainMembers] using ordinary
      intro member inside
      rcases mem_set name (held value) _ member inside with rfl | old
      · exact plain_held value here
      · exact plain_heldMembers members later member old

end

/-- The whole text of a value but its last line end is read as the value. -/
theorem styled_read (value : Json) (ordinary : plain value = true) :
    readValue decodeDouble stackLimit_g (toStyledString realText value) =
      within (depth (held value)) stackLimit_g (reread (held value)) [0x0A] := by
  obtain ⟨front, wrote, reads⟩ : ∃ front, Wrote {} (writeValue realText (held value) {}) front ∧
      ReadsBack decodeDouble (held value) front :=
    value_reads (held value) (plain_held value ordinary) {} rfl
  rw [toStyledString, wrote.out]
  exact reads stackLimit_g [] [0x0A] rfl (stops_blank [] [] rfl 0x0A (by decide))

/-- A value without doubles, whatever the bytes of its strings, is written as a
text that the reader takes for that value with its strings respelled, unless it
is nested deeper than the stack limit. -/
theorem styled_reads_back (value : Json) (ordinary : plain value = true) :
    parse decodeDouble (toStyledString realText value) =
      if depth (held value) ≤ stackLimit_g then .ok (some (reread (held value)))
      else .error .jsonRuntimeError := by
  rw [parse, styled_read decodeDouble realText value ordinary, within]
  split_ifs <;> rfl

/-- Quotes, a control character, a NUL and a byte that is no UTF-8 in one value. -/
def letters : Json :=
  .object [(text "name", .string [0x22, 0x5C, 0x0A, 0x00, 0xFF]),
    (text "code", .array [.int (-7), .uint 5000000000, .null])]

theorem styled_reads_back_letters :
    parse (fun _ => none) (toStyledString (fun _ => []) letters) =
      if depth (held letters) ≤ stackLimit_g then .ok (some (reread (held letters)))
      else .error .jsonRuntimeError :=
  styled_reads_back (fun _ => none) (fun _ => []) letters rfl

end RoundTrip

end EdoyumIM.JsonRoundTrip
