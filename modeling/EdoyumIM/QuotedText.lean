import Mathlib

/-!
Texts with quoted strings in them, written without escaping and read with it.
A reader walks over the text byte by byte; inside a string a doubled quote
stands for one, and the escape byte changes what the byte behind it stands for.
No byte is read as more than one symbol, so a text whose length is the number of
the symbols it is meant to have is read as meant only if every byte of it stands
for itself.
-/

namespace EdoyumIM.QuotedText

/-- `denotes` is what a byte behind the escape byte stands for, together with
it: some byte, or the two themselves. -/
structure Rules (α : Type) where
  quote : α
  slash : α
  denotes : α → List α
  apart : slash ≠ quote
  short : ∀ letter, (denotes letter).length = 1 ∨ denotes letter = [slash, letter]
  quoteOne : (denotes quote).length = 1
  slashOne : (denotes slash).length = 1

inductive Symbol (α : Type) where
  | plain (letter : α)
  | edge
  | char (letter : α)
  deriving DecidableEq, Repr

/-- `escaped` is behind an escape byte in a string, `closing` behind a quote. -/
inductive Mode where
  | outside
  | inside
  | escaped
  | closing
  deriving DecidableEq, Repr

variable {α : Type} (rules : Rules α)

/-! The reader. -/
section Reading

variable [DecidableEq α]

/-- The symbols of a text; none if its last string does not end. -/
def lex : Mode → List α → Option (List (Symbol α))
  | .outside, [] => some []
  | .inside, [] => none
  | .escaped, [] => none
  | .closing, [] => some [.edge]
  | .outside, letter :: rest =>
      if letter = rules.quote then (lex .inside rest).map (Symbol.edge :: ·)
      else (lex .outside rest).map (Symbol.plain letter :: ·)
  | .inside, letter :: rest =>
      if letter = rules.quote then lex .closing rest
      else if letter = rules.slash then lex .escaped rest
      else (lex .inside rest).map (Symbol.char letter :: ·)
  | .escaped, letter :: rest =>
      (lex .inside rest).map ((rules.denotes letter).map Symbol.char ++ ·)
  | .closing, letter :: rest =>
      if letter = rules.quote then (lex .inside rest).map (Symbol.char letter :: ·)
      else (lex .outside rest).map (Symbol.edge :: Symbol.plain letter :: ·)

/-- The bytes already read that have not become a symbol yet. -/
def pending : Mode → Nat
  | .outside | .inside => 0
  | .escaped | .closing => 1

theorem lex_length (mode : Mode) (letters : List α) (symbols : List (Symbol α))
    (read : lex rules mode letters = some symbols) :
    symbols.length ≤ letters.length + pending mode := by
  induction letters generalizing mode symbols with
  | nil =>
      cases mode with
      | outside => simp_all [lex]
      | inside => cases read
      | escaped => cases read
      | closing =>
          obtain rfl := Option.some.inj read
          exact le_rfl
  | cons letter rest ih =>
      cases mode with
      | outside =>
          rw [lex] at read
          split_ifs at read
          all_goals
            obtain ⟨later, tail, rfl⟩ := Option.map_eq_some_iff.mp read
            have := ih _ _ tail
            simp_all [pending]
      | inside =>
          rw [lex] at read
          split_ifs at read
          · have := ih _ _ read
            simp_all [pending]
          · have := ih _ _ read
            simp_all [pending]
          · obtain ⟨later, tail, rfl⟩ := Option.map_eq_some_iff.mp read
            have := ih _ _ tail
            simp_all [pending]
      | escaped =>
          obtain ⟨later, tail, rfl⟩ := Option.map_eq_some_iff.mp read
          have := ih _ _ tail
          have two : (rules.denotes letter).length ≤ 2 := by
            rcases rules.short letter with one | same
            · omega
            · simp [same]
          simp only [List.length_append, List.length_map, List.length_cons, pending] at this ⊢
          omega
      | closing =>
          rw [lex] at read
          split_ifs at read
          all_goals
            obtain ⟨later, tail, rfl⟩ := Option.map_eq_some_iff.mp read
            have := ih _ _ tail
            simp only [List.length_cons, pending] at this ⊢
            omega

theorem lex_plain (piece rest : List α) (quiet : rules.quote ∉ piece) :
    lex rules .outside (piece ++ rest) =
      (lex rules .outside rest).map (piece.map Symbol.plain ++ ·) := by
  induction piece with
  | nil => simp
  | cons letter piece ih =>
      simp only [List.mem_cons, not_or] at quiet
      rw [List.cons_append, lex, if_neg (Ne.symm quiet.1), ih quiet.2, Option.map_map]
      rfl

theorem lex_opening (rest : List α) :
    lex rules .outside (rules.quote :: rest) = (lex rules .inside rest).map (Symbol.edge :: ·) := by
  rw [lex, if_pos rfl]

/-- The first symbol of what follows a string is no quote. -/
theorem lex_closing (rest : List α) (ends : rest.head? ≠ some rules.quote) :
    lex rules .closing rest = (lex rules .outside rest).map (Symbol.edge :: ·) := by
  cases rest with
  | nil => rfl
  | cons letter rest =>
      have other : letter ≠ rules.quote := fun same => ends (congrArg some same)
      rw [lex, lex, if_neg other, if_neg other, Option.map_map]
      rfl

end Reading

/-! Strings whose bytes stand for themselves. -/
section Inertness

/-- The escape byte together with this one stands for the two themselves. -/
def Kept (letter : α) : Prop := rules.denotes letter = [rules.slash, letter]

instance [DecidableEq α] (letter : α) : Decidable (Kept rules letter) := inferInstanceAs (Decidable (_ = _))

def Inert : List α → Prop
  | [] => True
  | letter :: rest =>
      letter ≠ rules.quote ∧ (letter = rules.slash → ∃ next ∈ rest.head?, Kept rules next) ∧
        Inert rest

instance decidableInert [DecidableEq α] : ∀ string : List α, Decidable (Inert rules string)
  | [] => .isTrue trivial
  | _ :: rest =>
      have := decidableInert rest
      inferInstanceAs (Decidable (_ ∧ _ ∧ _))

theorem kept_plain (letter : α) (kept : Kept rules letter) :
    letter ≠ rules.quote ∧ letter ≠ rules.slash := by
  constructor
  · rintro rfl
    have one := rules.quoteOne
    rw [kept] at one
    cases one
  · rintro rfl
    have one := rules.slashOne
    rw [kept] at one
    cases one

variable [DecidableEq α]

theorem lex_inert (string rest : List α) (inert : Inert rules string)
    (ends : rest.head? ≠ some rules.quote) :
    lex rules .inside (string ++ rules.quote :: rest) =
      (lex rules .outside rest).map (string.map Symbol.char ++ Symbol.edge :: ·) := by
  induction string with
  | nil =>
      rw [List.nil_append, lex, if_pos rfl, lex_closing rules rest ends]
      rfl
  | cons letter string ih =>
      obtain ⟨noQuote, kept, later⟩ := inert
      have tail := ih later
      by_cases slash : letter = rules.slash
      · obtain ⟨next, first, two⟩ := kept slash
        obtain ⟨string, rfl⟩ := List.head?_eq_some_iff.mp first
        obtain ⟨plain, single⟩ := kept_plain rules next two
        rw [List.cons_append, lex, if_neg plain, if_neg single] at tail
        rw [List.cons_append, lex, if_neg noQuote, if_pos slash, List.cons_append, lex,
          show rules.denotes next = [rules.slash, next] from two]
        have both := congrArg (Option.map (Symbol.char rules.slash :: ·)) tail
        rw [Option.map_map, Option.map_map] at both
        rw [slash]
        exact both
      · rw [List.cons_append, lex, if_neg noQuote, if_neg slash, tail, Option.map_map]
        rfl

/-- Behind a quote: two quotes read as one byte would leave too few symbols. -/
theorem edge_of_lex (letters : List α) (first : Symbol α) (symbols : List (Symbol α))
    (size : letters.length ≤ symbols.length)
    (read : lex rules .closing letters = some (first :: symbols)) : first = .edge := by
  cases letters with
  | nil => exact (List.cons.inj (Option.some.inj read)).1.symm
  | cons letter rest =>
      rw [lex] at read
      split_ifs at read
      · obtain ⟨later, tail, same⟩ := Option.map_eq_some_iff.mp read
        have few := lex_length rules _ _ _ tail
        rw [(List.cons.inj same).2, pending] at few
        simp only [List.length_cons] at size
        omega
      · obtain ⟨later, tail, same⟩ := Option.map_eq_some_iff.mp read
        exact (List.cons.inj same).1.symm

/-- Behind the escape byte, for the same reason, the two bytes stand for themselves. -/
theorem kept_of_lex (next : α) (rest : List α) (first : Symbol α) (symbols : List (Symbol α))
    (size : rest.length < symbols.length)
    (read : lex rules .escaped (next :: rest) = some (first :: symbols)) :
    Kept rules next ∧ ∃ later, lex rules .inside rest = some later ∧
      symbols = .char next :: later := by
  obtain ⟨later, tail, same⟩ := Option.map_eq_some_iff.mp read
  have few := lex_length rules _ _ _ tail
  rw [pending] at few
  rcases rules.short next with one | two
  · have sizes := congrArg List.length same
    simp only [List.length_append, List.length_map, one, List.length_cons] at sizes
    omega
  · rw [two] at same
    exact ⟨two, later, tail, (List.cons.inj same).2.symm⟩

/-- A string that is read as itself, with as many symbols behind it as there are
bytes, is inert. -/
theorem inert_of_lex (string rest : List α) (symbols : List (Symbol α))
    (ends : rest.head? ≠ some rules.quote) (size : rest.length ≤ symbols.length)
    (read : lex rules .inside (string ++ rules.quote :: rest) =
      some (string.map Symbol.char ++ Symbol.edge :: symbols)) :
    Inert rules string ∧ lex rules .outside rest = some symbols := by
  induction string with
  | nil =>
      rw [List.nil_append, lex, if_pos rfl, lex_closing rules rest ends] at read
      obtain ⟨later, tail, same⟩ := Option.map_eq_some_iff.mp read
      exact ⟨trivial, tail.trans (congrArg some (List.cons.inj same).2)⟩
  | cons letter string ih =>
      rw [List.cons_append, lex] at read
      split_ifs at read with quote slash
      · have edge := edge_of_lex rules _ _ _ (by simpa using size) read
        cases edge
      · cases string with
        | nil =>
            -- an escape byte at the end of the string hides the quote behind it
            have kept := (kept_of_lex rules _ _ _ _ (by simpa using Nat.lt_succ_of_le size) read).1
            exact absurd rfl (kept_plain rules _ kept).1
        | cons next string =>
            obtain ⟨kept, later, tail, same⟩ := kept_of_lex rules _ _ _ _
              (by simpa using Nat.lt_succ_of_le size) read
            obtain ⟨plain, single⟩ := kept_plain rules next kept
            have again : lex rules .inside (next :: string ++ rules.quote :: rest) =
                some ((next :: string).map Symbol.char ++ Symbol.edge :: symbols) := by
              rw [List.cons_append, lex, if_neg plain, if_neg single]
              exact (congrArg (Option.map _) tail).trans (congrArg some same.symm)
            obtain ⟨inert, behind⟩ := ih again
            exact ⟨⟨quote, fun _ => ⟨next, rfl, kept⟩, inert⟩, behind⟩
      · obtain ⟨later, after, same⟩ := Option.map_eq_some_iff.mp read
        obtain ⟨inert, behind⟩ := ih (after.trans (congrArg some (List.cons.inj same).2))
        exact ⟨⟨quote, fun other => absurd other slash, inert⟩, behind⟩

end Inertness

/-! Texts with several strings: what stands in front, then the strings, each with
what stands behind it. -/
section Templates

structure Template (α : Type) where
  lead : List α
  fields : List (List α × List α)

namespace Template

def strings (template : Template α) : List (List α) := template.fields.map Prod.fst

def fieldsText : List (List α × List α) → List α
  | [] => []
  | (string, behind) :: rest =>
      rules.quote :: (string ++ rules.quote :: (behind ++ fieldsText rest))

def text (template : Template α) : List α := template.lead ++ fieldsText rules template.fields

def fieldsSymbols : List (List α × List α) → List (Symbol α)
  | [] => []
  | (string, behind) :: rest =>
      .edge :: (string.map .char ++ .edge :: (behind.map .plain ++ fieldsSymbols rest))

/-- The symbols the text is meant to have. -/
def symbols (template : Template α) : List (Symbol α) :=
  template.lead.map .plain ++ fieldsSymbols template.fields

/-- Outside of the strings there is no quote, and no two strings touch. -/
structure Sound (template : Template α) : Prop where
  lead : rules.quote ∉ template.lead
  behind : ∀ field ∈ template.fields, field.2 ≠ [] ∧ rules.quote ∉ field.2

theorem mem_fieldsText (letter : α) (fields : List (List α × List α)) :
    letter ∈ fieldsText rules fields ↔
      ∃ field ∈ fields, letter = rules.quote ∨ letter ∈ field.1 ∨ letter ∈ field.2 := by
  induction fields with
  | nil => simp [fieldsText]
  | cons field rest ih =>
      simp only [fieldsText, List.mem_cons, List.mem_append, ih, exists_eq_or_imp]
      grind

theorem fieldsSymbols_length (fields : List (List α × List α)) :
    (fieldsSymbols fields).length = (fieldsText rules fields).length := by
  induction fields with
  | nil => rfl
  | cons field rest ih => simp [fieldsSymbols, fieldsText, ih]

theorem symbols_length (template : Template α) :
    template.symbols.length = (template.text rules).length := by
  simp [symbols, text, fieldsSymbols_length rules]

/-- Whatever is read as the symbols of a template is as long as its text. -/
theorem length_of_lex [DecidableEq α] (template : Template α) (letters : List α)
    (read : lex rules .outside letters = some template.symbols) :
    (template.text rules).length ≤ letters.length := by
  rw [← symbols_length rules template]
  exact lex_length rules .outside letters _ read

end Template

theorem head_behind (behind rest : List α) (some' : behind ≠ []) (quiet : rules.quote ∉ behind) :
    (behind ++ rest).head? ≠ some rules.quote := by
  cases behind with
  | nil => exact absurd rfl some'
  | cons letter behind =>
      intro same
      exact quiet (Option.some.inj same ▸ List.mem_cons_self)

variable [DecidableEq α]

theorem lex_plain_iff (piece rest : List α) (symbols : List (Symbol α))
    (quiet : rules.quote ∉ piece) :
    lex rules .outside (piece ++ rest) = some (piece.map Symbol.plain ++ symbols) ↔
      lex rules .outside rest = some symbols := by
  rw [lex_plain rules piece rest quiet]
  constructor
  · intro read
    obtain ⟨later, tail, same⟩ := Option.map_eq_some_iff.mp read
    rw [tail, List.append_cancel_left same]
  · intro tail
    rw [tail, Option.map_some]

open Template in
theorem lex_fields_iff (fields : List (List α × List α))
    (behind : ∀ field ∈ fields, field.2 ≠ [] ∧ rules.quote ∉ field.2) :
    lex rules .outside (fieldsText rules fields) = some (fieldsSymbols fields) ↔
      ∀ field ∈ fields, Inert rules field.1 := by
  induction fields with
  | nil => simp [fieldsText, fieldsSymbols, lex]
  | cons field rest ih =>
      obtain ⟨string, after⟩ := field
      obtain ⟨⟨some', quiet⟩, later⟩ := List.forall_mem_cons.mp behind
      have ends := head_behind rules after (fieldsText rules rest) some' quiet
      have tails := lex_plain_iff rules after (fieldsText rules rest) (fieldsSymbols rest) quiet
      rw [List.forall_mem_cons, ← ih later, ← tails, fieldsText, fieldsSymbols, lex_opening]
      constructor
      · intro read
        obtain ⟨symbols, inside, same⟩ := Option.map_eq_some_iff.mp read
        obtain rfl := (List.cons.inj same).2
        refine inert_of_lex rules string _ _ ends ?_ inside
        simp [fieldsSymbols_length rules]
      · rintro ⟨inert, tail⟩
        rw [lex_inert rules string _ inert ends, tail]
        rfl

/-- A text is read as meant if and only if every string in it is inert. -/
theorem lex_template_iff (template : Template α) (sound : template.Sound rules) :
    lex rules .outside (template.text rules) = some template.symbols ↔
      ∀ string ∈ template.strings, Inert rules string := by
  rw [Template.text, Template.symbols, lex_plain_iff rules _ _ _ sound.lead,
    lex_fields_iff rules _ sound.behind, Template.strings, List.forall_mem_map]

end Templates

end EdoyumIM.QuotedText
