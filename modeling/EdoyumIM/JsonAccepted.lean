import EdoyumIM.JsonRoundTrip

/-!
What the JSON reader does on any document. It always comes to an end, it throws
only when its stack is exceeded, which takes as many brackets, and what it
accepts is in the form the library holds values in. Such a value is written and
read again with no loss after the first time.
-/

namespace EdoyumIM.JsonAccepted

open MachineWords FieldCodec JsonValue OrderedStore JsonReader JsonWriter JsonStrings JsonNumbers
open JsonRoundTrip

/-! Outcomes of the functions of the reader. -/
section Outcomes

def isOpening (c : UInt8) : Bool := c = 0x5B || c = 0x7B

def openings (current : Bytes) : Nat := current.countP isOpening

theorem openings_suffix {rest current : Bytes} (part : rest <:+ current) :
    openings rest ≤ openings current := part.sublist.countP_le

variable {α β : Type}

/-- What a call that has `free` levels of the stack left may come to: a good value
and less left to read, an error, or an exception below as many brackets. -/
def Meets (free : Nat) (good : α → Prop) (current : Bytes) : Except Stop (α × Bytes) → Prop
  | .ok (value, rest) => good value ∧ rest <:+ current ∧ rest.length < current.length
  | .error .failed => True
  | .error .exceeded => free ≤ openings current
  | .error .starved => False

theorem Meets.shift {free : Nat} {good : α → Prop} {middle current : Bytes}
    {result : Except Stop (α × Bytes)} (meets : Meets free good middle result)
    (part : middle <:+ current) : Meets free good current result := by
  match result with
  | .ok (value, rest) =>
      exact ⟨meets.1, meets.2.1.trans part, Nat.lt_of_lt_of_le meets.2.2 part.length_le⟩
  | .error .failed => exact trivial
  | .error .exceeded => exact Nat.le_trans meets (openings_suffix part)
  | .error .starved => exact meets

theorem Meets.bind {free : Nat} {good : α → Prop} {next : β → Prop} {current : Bytes}
    {result : Except Stop (α × Bytes)} {continue_ : α × Bytes → Except Stop (β × Bytes)}
    (meets : Meets free good current result)
    (follows : ∀ value rest, good value → rest <:+ current → rest.length < current.length →
      Meets free next current (continue_ (value, rest))) :
    Meets free next current (result >>= continue_) := by
  match result with
  | .ok (value, rest) => exact follows value rest meets.1 meets.2.1 meets.2.2
  | .error .failed => exact trivial
  | .error .exceeded => exact meets
  | .error .starved => exact meets.elim

theorem Meets.weaken {free : Nat} {good better : α → Prop} {current : Bytes}
    {result : Except Stop (α × Bytes)} (meets : Meets free good current result)
    (implies : ∀ value, good value → better value) : Meets free better current result := by
  match result with
  | .ok (value, rest) => exact ⟨implies value meets.1, meets.2⟩
  | .error .failed => exact trivial
  | .error .exceeded => exact meets
  | .error .starved => exact meets

theorem skip_suffix (current : Bytes) : (skipCommentTokens current).2 <:+ current := by
  fun_induction skipCommentTokens current with
  | case1 current comment ih => exact ih.trans (readToken_suffix current)
  | case2 current solid => exact readToken_suffix current

/-- A token that is not a comment is read where its characters begin. -/
theorem skip_cases (current : Bytes) :
    (skipCommentTokens current).1.type_ = .tokenEndOfStream ∨
    ∃ c start, c :: start <:+ current ∧
      (skipCommentTokens current).1.type_ =
        (if (scan c start).2.1 then (scan c start).1 else .tokenError) ∧
      (skipCommentTokens current).2 = (scan c start).2.2 := by
  fun_induction skipCommentTokens current with
  | case1 current comment ih =>
      rcases ih with ended | ⟨c, start, inside, type_, rest⟩
      · exact Or.inl ended
      · exact Or.inr ⟨c, start, inside.trans (readToken_suffix current), type_, rest⟩
  | case2 current solid =>
      rcases readToken_cases current with ended | found
      · exact Or.inl (by rw [ended])
      · exact Or.inr found

theorem skip_lt (current : Bytes)
    (inside : (skipCommentTokens current).1.type_ ≠ .tokenEndOfStream) :
    (skipCommentTokens current).2.length < current.length := by
  rcases skip_cases current with ended | ⟨c, start, part, -, rest⟩
  · exact absurd ended inside
  · rw [rest]
    exact Nat.lt_of_le_of_lt (scan_suffix c start).length_le part.length_le

/-- Only a bracket gives an opening token. -/
theorem scan_opening (c : UInt8) (start : Bytes)
    (opening : (if (scan c start).2.1 then (scan c start).1 else TokenType.tokenError) =
        .tokenObjectBegin ∨
      (if (scan c start).2.1 then (scan c start).1 else TokenType.tokenError) = .tokenArrayBegin) :
    isOpening c = true ∧ (scan c start).2.2 = start := by
  have kind : (scan c start).1 = .tokenObjectBegin ∨ (scan c start).1 = .tokenArrayBegin := by
    split_ifs at opening
    · exact opening
    · simp at opening
  have letters : ∀ c : UInt8, letter c = '\x7b' ∨ letter c = '[' → isOpening c = true := by
    decide +kernel
  rw [scan] at kind ⊢
  split at kind
  case h_1 same => exact ⟨letters c (Or.inl same), rfl⟩
  case h_3 same => exact ⟨letters c (Or.inr same), rfl⟩
  all_goals simp at kind

theorem opening_counted (current : Bytes)
    (opening : (skipCommentTokens current).1.type_ = .tokenObjectBegin ∨
      (skipCommentTokens current).1.type_ = .tokenArrayBegin) :
    openings (skipCommentTokens current).2 + 1 ≤ openings current := by
  rcases skip_cases current with ended | ⟨c, start, part, type_, rest⟩
  · simp [ended] at opening
  · rw [type_] at opening
    obtain ⟨bracket, same⟩ := scan_opening c start opening
    rw [rest, same]
    have counted := openings_suffix part
    rwa [openings, List.countP_cons_of_pos bracket] at counted

/-- A bracket lies between a level and the next. -/
theorem Meets.deepen {free : Nat} {good : α → Prop} {current rest : Bytes}
    {result : Except Stop (α × Bytes)} (meets : Meets free good rest result)
    (part : rest <:+ current) (counted : openings rest + 1 ≤ openings current) :
    Meets (free + 1) good current result := by
  match result with
  | .ok (value, tail) =>
      exact ⟨meets.1, meets.2.1.trans part, Nat.lt_of_lt_of_le meets.2.2 part.length_le⟩
  | .error .failed => exact trivial
  | .error .exceeded => exact Nat.le_trans (Nat.succ_le_succ meets) counted
  | .error .starved => exact meets

theorem decoded_meets {free : Nat} {good : α → Prop} {current rest : Bytes} (value : Option α)
    (part : rest <:+ current) (shorter : rest.length < current.length)
    (decodes : ∀ found, value = some found → good found) :
    Meets free good current (decoded value rest) := by
  cases value with
  | none => exact trivial
  | some value => exact ⟨decodes value rfl, part, shorter⟩

end Outcomes

/-! The loops, over any function that reads a value. -/
section Loops

variable {read : Bytes → Except Stop (Json × Bytes)} {free : Nat} {good : Json → Prop}

theorem elements_meet (meets : ∀ current, Meets free good current (read current)) (rounds : Nat)
    (current : Bytes) (enough : current.length < rounds) :
    Meets free (fun values => ∀ value ∈ values, good value) current
      (readElements read rounds current) := by
  induction rounds generalizing current with
  | zero => omega
  | succ rounds ih =>
      rw [readElements]
      refine (meets current).bind fun value rest holds part shorter => ?_
      have behind := (skip_suffix rest).trans part
      have less := Nat.lt_of_le_of_lt (skip_suffix rest).length_le shorter
      simp only
      split
      · exact ⟨by simpa using holds, behind, less⟩
      · refine ((ih _ (by omega)).shift behind).bind fun values after all partAfter less => ?_
        exact ⟨List.forall_mem_cons.mpr ⟨holds, all⟩, partAfter, less⟩
      · exact trivial

theorem array_meets {better : Json → Prop}
    (meets : ∀ current, Meets free good current (read current))
    (arrays : ∀ values, (∀ value ∈ values, good value) → better (.array values))
    (current : Bytes) : Meets free better current (readArray read current) := by
  rw [readArray]
  split_ifs with closed
  · refine ⟨arrays [] (by simp), readToken_suffix current, readToken_lt current ?_⟩
    cases start : skipSpaces current with
    | nil => simp [start] at closed
    | cons c rest =>
        obtain rfl : c = 0x5D := by rw [start] at closed; simpa using closed
        rw [readToken, start]
        change TokenType.tokenArrayEnd ≠ .tokenEndOfStream
        decide
  · refine (elements_meet meets _ current (Nat.lt_succ_self _)).bind ?_
    intro values rest all part shorter
    exact ⟨arrays values all, part, shorter⟩

theorem memberEnd_meets (current : Bytes) :
    Meets free (fun _ => True) current (memberEnd current) := by
  have part := readToken_suffix current
  rw [memberEnd]
  simp only
  split
  next closed => exact ⟨trivial, part, readToken_lt current (by simp [closed])⟩
  next more => exact ⟨trivial, part, readToken_lt current (by simp [more])⟩
  next comment =>
      have behind := skip_suffix (readToken current).2
      have shorter := readToken_lt current (by simp [comment])
      exact ⟨trivial, behind.trans part, Nat.lt_of_le_of_lt behind.length_le shorter⟩
  next => exact trivial

theorem members_meet (meets : ∀ current, Meets free good current (read current)) (rounds : Nat)
    (name : Bytes) (map : OrderedMap Bytes Json) (held : ∀ entry ∈ map.entries, good entry.2)
    (current : Bytes) (enough : current.length < rounds) :
    Meets free (fun map : OrderedMap Bytes Json => ∀ entry ∈ map.entries, good entry.2) current
      (readMembers read rounds name map current) := by
  induction rounds generalizing name map current with
  | zero => omega
  | succ rounds ih =>
      have token := skip_suffix current
      rw [readMembers]
      simp only
      split
      next closed =>
          split_ifs
          · exact ⟨held, token, skip_lt current (by simp [closed])⟩
          · exact trivial
      next named =>
          have shorter := skip_lt current (by simp [named])
          have key : Meets free (fun _ => True) current (decoded (decodeString
              (skipCommentTokens current).1.text) (skipCommentTokens current).2) :=
            decoded_meets _ token shorter fun _ _ => trivial
          refine key.bind fun name rest _ partName shorterName => ?_
          have colon := (readToken_suffix rest).trans partName
          simp only
          split_ifs
          · refine ((meets _).shift colon).bind fun value rest holds part _ => ?_
            refine ((memberEnd_meets rest).shift part).bind fun ended rest _ part shorter => ?_
            have all : ∀ entry ∈ (map.set name value).entries, good entry.2 := by
              intro entry member
              rcases mem_set name value map entry member with rfl | old
              · exact holds
              · exact held entry old
            simp only
            split_ifs
            · exact ⟨all, part, shorter⟩
            · exact (ih name _ all rest (by omega)).shift part
          · exact trivial
      next => exact trivial

end Loops

/-! The values. -/
section Values

mutual

/-- The values as the library holds them once they are read. -/
def Accepted : Json → Prop
  | .int value => -2 ^ 63 ≤ value ∧ value ≤ maxInt
  | .uint value => maxInt < value ∧ value ≤ maxLargestUInt
  | .array items => AcceptedItems items
  | .object members => Ascending Prod.fst members ∧ AcceptedMembers members
  | _ => True

def AcceptedItems : List Json → Prop
  | [] => True
  | item :: items => Accepted item ∧ AcceptedItems items

def AcceptedMembers : List (Bytes × Json) → Prop
  | [] => True
  | (_, value) :: members => Accepted value ∧ AcceptedMembers members

end

theorem acceptedItems_iff (items : List Json) (free : Nat) :
    (AcceptedItems items ∧ depthItems items ≤ free) ↔
      ∀ item ∈ items, Accepted item ∧ depth item ≤ free := by
  induction items with
  | nil => simp [AcceptedItems, depthItems]
  | cons item items ih =>
      rw [List.forall_mem_cons, ← ih]
      simp only [AcceptedItems, depthItems, max_le_iff]
      tauto

theorem acceptedMembers_iff (members : List (Bytes × Json)) (free : Nat) :
    (AcceptedMembers members ∧ depthMembers members ≤ free) ↔
      ∀ member ∈ members, Accepted member.2 ∧ depth member.2 ≤ free := by
  induction members with
  | nil => simp [AcceptedMembers, depthMembers]
  | cons member members ih =>
      rw [List.forall_mem_cons, ← ih]
      simp only [AcceptedMembers, depthMembers, max_le_iff]
      tauto

theorem decodeDigits_le (maxIntegerValue : Nat) (digits : Bytes) (value found : Nat)
    (within : value ≤ maxIntegerValue)
    (decodes : decodeDigits maxIntegerValue digits value = some found) :
    found ≤ maxIntegerValue := by
  induction digits generalizing value with
  | nil => exact (Option.some.inj decodes) ▸ within
  | cons c rest ih =>
      rw [decodeDigits] at decodes
      split_ifs at decodes with digit
      have nine : ∀ c : UInt8, isDigit c = true → c.toNat - 0x30 ≤ 9 := by decide +kernel
      have small := nine c digit
      simp only at decodes
      split_ifs at decodes with beyond
      · exact ih _ (by simp only [not_and_or, not_or] at beyond; omega) decodes

theorem decodeNumber_accepted (decodeDouble : Bytes → Option ℚ) (token : Bytes) (value : Json)
    (decodes : decodeNumber decodeDouble token = some value) :
    Accepted value ∧ depth value = 1 := by
  simp only [decodeNumber] at decodes
  cases loop : decodeDigits (if (decide (token.head? = some 0x2D)) then maxLargestInt + 1
      else maxLargestUInt) (if (decide (token.head? = some 0x2D)) then token.tail else token) 0 with
  | none =>
      rw [loop] at decodes
      obtain ⟨value, -, rfl⟩ := Option.map_eq_some_iff.mp decodes
      exact ⟨trivial, rfl⟩
  | some found =>
      rw [loop] at decodes
      obtain rfl := Option.some.inj decodes
      have fits := decodeDigits_le _ _ 0 found (Nat.zero_le _) loop
      split_ifs at fits ⊢ with negative small
      · exact ⟨⟨by rw [maxLargestInt] at fits; omega, by rw [maxInt]; omega⟩, rfl⟩
      · exact ⟨⟨by omega, by exact_mod_cast small⟩, rfl⟩
      · exact ⟨⟨Nat.lt_of_not_le small, fits⟩, rfl⟩

variable (decodeDouble : Bytes → Option ℚ)

/-- Level by level: what is read is accepted, and no deeper than the stack. -/
theorem readValue_meets (free : Nat) (current : Bytes) :
    Meets free (fun value => Accepted value ∧ depth value ≤ free) current
      (readValue decodeDouble free current) := by
  induction free generalizing current with
  | zero => exact Nat.zero_le _
  | succ free ih =>
      have part := skip_suffix current
      have inside : ∀ type_, (skipCommentTokens current).1.type_ = type_ →
          type_ ≠ .tokenEndOfStream → (skipCommentTokens current).2.length < current.length :=
        fun type_ same some => skip_lt current (by rw [same]; exact some)
      rw [readValue]
      simp only
      split
      next opening =>
          have object : Meets free (fun value => Accepted value ∧ depth value ≤ free + 1)
              (skipCommentTokens current).2
              (readObject (readValue decodeDouble free) (skipCommentTokens current).2) := by
            refine (members_meet ih _ [] OrderedMap.empty (fun _ none => absurd none
              List.not_mem_nil) _ (Nat.lt_succ_self _)).bind fun map rest all partMap shorter => ?_
            obtain ⟨accepted, shallow⟩ := (acceptedMembers_iff map.entries free).mpr all
            exact ⟨⟨⟨map.ascending, accepted⟩, Nat.succ_le_succ shallow⟩, partMap, shorter⟩
          exact object.deepen part (opening_counted current (Or.inl opening))
      next opening =>
          have arrays : ∀ values : List Json,
              (∀ value ∈ values, Accepted value ∧ depth value ≤ free) →
              Accepted (.array values) ∧ depth (.array values) ≤ free + 1 := by
            intro values all
            obtain ⟨accepted, shallow⟩ := (acceptedItems_iff values free).mpr all
            exact ⟨accepted, Nat.succ_le_succ shallow⟩
          exact (array_meets ih arrays _).deepen part (opening_counted current (Or.inr opening))
      next number =>
          refine decoded_meets _ part (inside _ number (by decide)) fun value decodes => ?_
          obtain ⟨accepted, flat⟩ := decodeNumber_accepted decodeDouble _ value decodes
          exact ⟨accepted, by omega⟩
      next quoted =>
          refine decoded_meets _ part (inside _ quoted (by decide)) fun value decodes => ?_
          obtain ⟨data, -, rfl⟩ := Option.map_eq_some_iff.mp decodes
          exact ⟨trivial, Nat.le_add_left 1 free⟩
      next word => exact ⟨⟨trivial, Nat.le_add_left 1 free⟩, part, inside _ word (by decide)⟩
      next word => exact ⟨⟨trivial, Nat.le_add_left 1 free⟩, part, inside _ word (by decide)⟩
      next word => exact ⟨⟨trivial, Nat.le_add_left 1 free⟩, part, inside _ word (by decide)⟩
      next => exact trivial

theorem accepted_form (document : Bytes) (value : Json)
    (accepted : parse decodeDouble document = .ok (some value)) :
    Accepted value ∧ depth value ≤ stackLimit_g := by
  have meets := readValue_meets decodeDouble stackLimit_g document
  rw [parse] at accepted
  cases found : readValue decodeDouble stackLimit_g document with
  | ok outcome =>
      rw [found] at meets accepted
      obtain rfl := Option.some.inj (Except.ok.inj accepted)
      exact meets.1
  | error stop =>
      rw [found] at accepted
      cases stop <;> cases accepted

end Values

/-! Values that were read, written and read again. -/
section Settled

mutual

theorem held_accepted (value : Json) (accepted : Accepted value) : held value = value := by
  match value with
  | .null | .int _ | .uint _ | .real _ | .string _ | .bool _ => rfl
  | .array items => exact congrArg Json.array (heldItems_accepted items accepted)
  | .object members =>
      exact congrArg Json.object (heldMembers_accepted members accepted.1 accepted.2)

theorem heldItems_accepted (items : List Json) (accepted : AcceptedItems items) :
    heldItems items = items := by
  match items with
  | [] => rfl
  | item :: items =>
      rw [heldItems, held_accepted item accepted.1, heldItems_accepted items accepted.2]

theorem heldMembers_accepted (members : List (Bytes × Json))
    (ascending : Ascending Prod.fst members) (accepted : AcceptedMembers members) :
    (heldMembers members).entries = members := by
  match members with
  | [] => rfl
  | (name, value) :: members =>
      obtain ⟨least, rest⟩ := List.pairwise_cons.mp ascending
      have later := heldMembers_accepted members rest accepted.2
      rw [heldMembers, held_accepted value accepted.1]
      rw [set_first name value _ (by rw [later]; exact least), later]

end

/-- UTF-8, as the sequence of the characters it stands for. -/
def Utf8 (data : Bytes) : Prop := ∃ chars : List Char, data = chars.flatMap String.utf8EncodeChar

theorem Utf8.respelled {data : Bytes} (utf8 : Utf8 data) : respell data = data := by
  obtain ⟨chars, rfl⟩ := utf8
  exact respell_utf8 chars

mutual

/-- All strings and all names of members are UTF-8. -/
def Utf8Texts : Json → Prop
  | .string data => Utf8 data
  | .array items => Utf8Items items
  | .object members => Utf8Members members
  | _ => True

def Utf8Items : List Json → Prop
  | [] => True
  | item :: items => Utf8Texts item ∧ Utf8Items items

def Utf8Members : List (Bytes × Json) → Prop
  | [] => True
  | (name, value) :: members => Utf8 name ∧ Utf8Texts value ∧ Utf8Members members

end

mutual

/-- In the form of a value that was read, a text in UTF-8 is read as it was. -/
theorem reread_settled (value : Json) (accepted : Accepted value) (utf8 : Utf8Texts value) :
    reread value = value := by
  match value with
  | .null | .real _ | .bool _ => rfl
  | .int value => exact if_pos accepted.2
  | .uint value =>
      have above : ¬ (value : Int) ≤ maxInt := by
        have := accepted.1
        omega
      exact (if_neg above).trans rfl
  | .string data => exact congrArg Json.string utf8.respelled
  | .array items => exact congrArg Json.array (rereadItems_settled items accepted utf8)
  | .object members =>
      exact congrArg Json.object (rereadMembers_settled members OrderedMap.empty accepted.1
        accepted.2 utf8 (fun _ none => absurd none List.not_mem_nil))

theorem rereadItems_settled (items : List Json) (accepted : AcceptedItems items)
    (utf8 : Utf8Items items) : rereadItems items = items := by
  match items with
  | [] => rfl
  | item :: items =>
      rw [rereadItems, reread_settled item accepted.1 utf8.1,
        rereadItems_settled items accepted.2 utf8.2]

theorem rereadMembers_settled (members : List (Bytes × Json)) (map : OrderedMap Bytes Json)
    (ascending : Ascending Prod.fst members) (accepted : AcceptedMembers members)
    (utf8 : Utf8Members members)
    (below : ∀ entry ∈ map.entries, ∀ member ∈ members, entry.1 < member.1) :
    (rereadMembers members map).entries = map.entries ++ members := by
  match members with
  | [] => exact (List.append_nil _).symm
  | (name, value) :: members =>
      obtain ⟨least, rest⟩ := List.pairwise_cons.mp ascending
      have added := set_last name value map fun entry member =>
        below entry member _ List.mem_cons_self
      rw [rereadMembers, utf8.1.respelled, reread_settled value accepted.1 utf8.2.1,
        rereadMembers_settled members (map.set name value) rest accepted.2 utf8.2.2, added,
        List.append_assoc, List.singleton_append]
      intro entry member other inside
      rw [added] at member
      rcases List.mem_append.mp member with old | new
      · exact below entry old other (List.mem_cons_of_mem _ inside)
      · rw [List.mem_singleton.mp new]
        exact least other inside

end

theorem codePointToUTF8_scalar (codepoint : Nat) (scalar : codepoint.isValidChar) :
    codePointToUTF8 codepoint = String.utf8EncodeChar (Char.ofNat codepoint) := by
  rw [← codePointToUTF8_char, Char.toNat_ofNat, if_pos scalar]

theorem respelled_scalar (c : UInt8) (behind : Bytes) :
    (respelled (utf8ToCodepoint (c :: behind)).1).isValidChar := by
  rw [respelled]
  rcases utf8ToCodepoint_cases c behind with ⟨below, point⟩ | ⟨-, -, single⟩
  · rw [point, if_pos (by omega)]
    exact Or.inl (by omega)
  · split_ifs
    · rcases Nat.lt_or_ge (utf8ToCodepoint (c :: behind)).1 0xD800 with low | high
      · exact Or.inl low
      · exact Or.inr ⟨by omega, by omega⟩
    · exact Or.inr ⟨by omega, by omega⟩

/-- What a string is respelled as is UTF-8. -/
theorem respell_utf8Text (data : Bytes) : Utf8 (respell data) := by
  fun_induction respell data with
  | case1 => exact ⟨[], rfl⟩
  | case2 c behind ih =>
      obtain ⟨chars, rest⟩ := ih
      refine ⟨Char.ofNat (respelled (utf8ToCodepoint (c :: behind)).1) :: chars, ?_⟩
      rw [rest, List.flatMap_cons, codePointToUTF8_scalar _ (respelled_scalar c behind)]

/-- A value of at most the given depth that is read as it was once written. -/
structure Settled (bound : Nat) (value : Json) : Prop where
  accepted : Accepted value
  utf8 : Utf8Texts value
  ordinary : plain value = true
  shallow : depth value ≤ bound

theorem number_settled (value : Int) (least : -2 ^ 63 ≤ value) (greatest : value ≤ maxLargestUInt) :
    Settled 1 (number value) := by
  rw [number]
  split_ifs with small
  · exact ⟨⟨least, small⟩, trivial, decide_eq_true ⟨least, greatest⟩, Nat.le_refl _⟩
  · refine ⟨⟨by omega, by omega⟩, trivial, ?_, Nat.le_refl _⟩
    simp only [plain, decide_eq_true_eq]
    omega

theorem settledItems_iff (bound : Nat) (items : List Json) :
    (∀ item ∈ items, Settled bound item) ↔
      AcceptedItems items ∧ Utf8Items items ∧ plainItems items = true ∧
        depthItems items ≤ bound := by
  induction items with
  | nil => simp [AcceptedItems, Utf8Items, plainItems, depthItems]
  | cons item items ih =>
      rw [List.forall_mem_cons, ih]
      simp only [AcceptedItems, Utf8Items, plainItems, depthItems, max_le_iff, Bool.and_eq_true]
      constructor
      · rintro ⟨⟨accepted, utf8, ordinary, shallow⟩, later⟩
        tauto
      · rintro ⟨⟨accepted, _⟩, ⟨utf8, _⟩, ⟨ordinary, _⟩, shallow, _⟩
        exact ⟨⟨accepted, utf8, ordinary, shallow⟩, by tauto⟩

theorem settledMembers_iff (bound : Nat) (members : List (Bytes × Json)) :
    (∀ member ∈ members, Utf8 member.1 ∧ Settled bound member.2) ↔
      AcceptedMembers members ∧ Utf8Members members ∧ plainMembers members = true ∧
        depthMembers members ≤ bound := by
  induction members with
  | nil => simp [AcceptedMembers, Utf8Members, plainMembers, depthMembers]
  | cons member members ih =>
      rw [List.forall_mem_cons, ih]
      simp only [AcceptedMembers, Utf8Members, plainMembers, depthMembers, max_le_iff,
        Bool.and_eq_true]
      constructor
      · rintro ⟨⟨named, accepted, utf8, ordinary, shallow⟩, later⟩
        tauto
      · rintro ⟨⟨accepted, _⟩, ⟨named, utf8, _⟩, ⟨ordinary, _⟩, shallow, _⟩
        exact ⟨⟨named, accepted, utf8, ordinary, shallow⟩, by tauto⟩

mutual

theorem reread_settles (value : Json) (ordinary : plain value = true) :
    Settled (depth value) (reread value) := by
  match value with
  | .null | .bool _ => exact ⟨trivial, trivial, rfl, Nat.le_refl _⟩
  | .real _ => simp [plain] at ordinary
  | .string data => exact ⟨trivial, respell_utf8Text data, rfl, Nat.le_refl _⟩
  | .int value =>
      obtain ⟨least, greatest⟩ : -2 ^ 63 ≤ value ∧ value ≤ maxLargestUInt := by
        simpa [plain] using ordinary
      exact number_settled value least greatest
  | .uint value =>
      have fits : value ≤ maxLargestUInt := by simpa [plain] using ordinary
      exact number_settled value (by omega) (by omega)
  | .array items =>
      obtain ⟨accepted, utf8, simple, shallow⟩ := (settledItems_iff (depthItems items) _).mp
        (rereadItems_settle items (depthItems items) (Nat.le_refl _) ordinary)
      exact ⟨accepted, utf8, simple, Nat.succ_le_succ shallow⟩
  | .object members =>
      obtain ⟨accepted, utf8, simple, shallow⟩ := (settledMembers_iff (depthMembers members) _).mp
        (rereadMembers_settle members OrderedMap.empty (depthMembers members) (Nat.le_refl _)
          ordinary (fun _ none => absurd none List.not_mem_nil))
      exact ⟨⟨OrderedMap.ascending _, accepted⟩, utf8, simple, Nat.succ_le_succ shallow⟩

theorem rereadItems_settle (items : List Json) (bound : Nat) (shallow : depthItems items ≤ bound)
    (ordinary : plainItems items = true) : ∀ item ∈ rereadItems items, Settled bound item := by
  match items with
  | [] => exact fun _ none => absurd none List.not_mem_nil
  | item :: items =>
      obtain ⟨here, later⟩ : plain item = true ∧ plainItems items = true := by
        simpa [plainItems] using ordinary
      obtain ⟨first, rest⟩ := max_le_iff.mp shallow
      have settled := reread_settles item here
      exact List.forall_mem_cons.mpr ⟨{ settled with shallow := settled.shallow.trans first },
        rereadItems_settle items bound rest later⟩

theorem rereadMembers_settle (members : List (Bytes × Json)) (map : OrderedMap Bytes Json)
    (bound : Nat) (shallow : depthMembers members ≤ bound) (ordinary : plainMembers members = true)
    (before : ∀ entry ∈ map.entries, Utf8 entry.1 ∧ Settled bound entry.2) :
    ∀ entry ∈ (rereadMembers members map).entries, Utf8 entry.1 ∧ Settled bound entry.2 := by
  match members with
  | [] => exact before
  | (name, value) :: members =>
      obtain ⟨here, later⟩ : plain value = true ∧ plainMembers members = true := by
        simpa [plainMembers] using ordinary
      obtain ⟨first, rest⟩ := max_le_iff.mp shallow
      have settled := reread_settles value here
      refine rereadMembers_settle members _ bound rest later fun entry member => ?_
      rcases mem_set _ _ map entry member with rfl | old
      · exact ⟨respell_utf8Text name, { settled with shallow := settled.shallow.trans first }⟩
      · exact before entry old

end

variable (decodeDouble : Bytes → Option ℚ) (realText : ℚ → Bytes)

theorem accepted_read {value : Json} (accepted : Accepted value) (ordinary : plain value = true)
    (shallow : depth value ≤ stackLimit_g) :
    parse decodeDouble (toStyledString realText value) = .ok (some (reread value)) := by
  rw [parse, styled_read decodeDouble realText value ordinary, held_accepted value accepted, within,
    if_pos shallow]

end Settled

end EdoyumIM.JsonAccepted
