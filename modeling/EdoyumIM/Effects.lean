import Mathlib

/-!
Commands with a state, a trace and exceptions. `Act σ ω ε α` runs on a state
`σ`, records labels `ω`, and returns a value or an exception; what a command
did before it threw is kept. `Built atom` are the commands composed of atoms.
Two kinds of facts pass from the atoms to everything built from them: a
relation between the state before, the trace and the state after that is
`Composable`, and that two related states cannot be told apart.
-/

namespace EdoyumIM.Effects

structure Outcome (σ ω ε α : Type) where
  trace : List ω
  state : σ
  value : Except ε α

def Act (σ ω ε α : Type) := σ → Outcome σ ω ε α

variable {σ ω ε α β : Type}

namespace Act

def andThen (first : Act σ ω ε α) (next : α → Act σ ω ε β) : Act σ ω ε β := fun state =>
  match (first state).value with
  | .error fault => ⟨(first state).trace, (first state).state, .error fault⟩
  | .ok value =>
      ⟨(first state).trace ++ (next value (first state).state).trace,
        (next value (first state).state).state, (next value (first state).state).value⟩

instance instMonad : Monad (Act σ ω ε) where
  pure value := fun state => ⟨[], state, .ok value⟩
  bind := andThen

def gets (look : σ → α) : Act σ ω ε α := fun state => ⟨[], state, .ok (look state)⟩

def modify (change : σ → σ) : Act σ ω ε Unit := fun state => ⟨[], change state, .ok ()⟩

def emit (label : ω) : Act σ ω ε Unit := fun state => ⟨[label], state, .ok ()⟩

def lift (result : Except ε α) : Act σ ω ε α := fun state => ⟨[], state, result⟩

/-- Run a state transformer that returns a value. -/
def call (operation : σ → α × σ) : Act σ ω ε α := fun state =>
  ⟨[], (operation state).2, .ok (operation state).1⟩

@[simp] theorem pure_apply (value : α) (state : σ) :
    (pure value : Act σ ω ε α) state = ⟨[], state, .ok value⟩ := rfl

@[simp] theorem gets_apply (look : σ → α) (state : σ) :
    (gets look : Act σ ω ε α) state = ⟨[], state, .ok (look state)⟩ := rfl

@[simp] theorem modify_apply (change : σ → σ) (state : σ) :
    (modify change : Act σ ω ε Unit) state = ⟨[], change state, .ok ()⟩ := rfl

@[simp] theorem emit_apply (label : ω) (state : σ) :
    (emit label : Act σ ω ε Unit) state = ⟨[label], state, .ok ()⟩ := rfl

@[simp] theorem lift_apply (result : Except ε α) (state : σ) :
    (lift result : Act σ ω ε α) state = ⟨[], state, result⟩ := rfl

@[simp] theorem call_apply (operation : σ → α × σ) (state : σ) :
    (call operation : Act σ ω ε α) state =
      ⟨[], (operation state).2, .ok (operation state).1⟩ := rfl

theorem bind_ok (first : Act σ ω ε α) (next : α → Act σ ω ε β) (state : σ) (value : α)
    (returned : (first state).value = .ok value) :
    (first >>= next) state =
      ⟨(first state).trace ++ (next value (first state).state).trace,
        (next value (first state).state).state, (next value (first state).state).value⟩ := by
  show andThen first next state = _
  rw [andThen, returned]

theorem bind_error (first : Act σ ω ε α) (next : α → Act σ ω ε β) (state : σ) (fault : ε)
    (thrown : (first state).value = .error fault) :
    (first >>= next) state = ⟨(first state).trace, (first state).state, .error fault⟩ := by
  show andThen first next state = _
  rw [andThen, thrown]

@[simp] theorem lift_ok_bind (value : α) (next : α → Act σ ω ε β) :
    (lift (.ok value) >>= next) = next value := rfl

@[simp] theorem lift_error_bind (fault : ε) (next : α → Act σ ω ε β) :
    (lift (.error fault) >>= next) = lift (.error fault) := rfl

theorem gets_bind (look : σ → α) (next : α → Act σ ω ε β) (state : σ) :
    (gets look >>= next) state = next (look state) state := rfl

theorem modify_bind (change : σ → σ) (next : Unit → Act σ ω ε β) (state : σ) :
    (modify change >>= next) state = next () (change state) := rfl

theorem call_bind (operation : σ → α × σ) (next : α → Act σ ω ε β) (state : σ) :
    (call operation >>= next) state = next (operation state).1 (operation state).2 := rfl

theorem emit_bind (label : ω) (next : Unit → Act σ ω ε β) (state : σ) :
    (emit label >>= next) state =
      ⟨label :: (next () state).trace, (next () state).state, (next () state).value⟩ := rfl

/-- A last step that computes from the result changes neither trace nor state. -/
theorem bind_pure_map (command : Act σ ω ε α) (result : α → β) (state : σ) :
    ((command >>= fun value => pure (result value)) state).trace = (command state).trace ∧
      ((command >>= fun value => pure (result value)) state).state = (command state).state ∧
      ((command >>= fun value => pure (result value)) state).value =
        (command state).value.map result := by
  cases returned : (command state).value with
  | error fault => simp [bind_error _ _ _ fault returned, Except.map]
  | ok value => simp [bind_ok _ _ _ value returned, Except.map]

/-- A loop whose rounds leave the state alone. -/
theorem forM_still (entries : List α) (body : α → Act σ ω ε PUnit) (labels : α → List ω)
    (state : σ) (rounds : ∀ entry, body entry state = ⟨labels entry, state, .ok ()⟩) :
    (entries.forM body : Act σ ω ε PUnit) state = ⟨entries.flatMap labels, state, .ok ()⟩ := by
  induction entries with
  | nil => rfl
  | cons entry rest ih =>
      show (body entry >>= fun _ => rest.forM body) state = _
      rw [bind_ok _ _ state () (by rw [rounds])]
      simp [rounds, ih]

theorem forM_emit (entries : List α) (label : α → ω) (state : σ) :
    (entries.forM fun entry => emit (label entry) : Act σ ω ε PUnit) state =
      ⟨entries.map label, state, .ok ()⟩ := by
  rw [forM_still entries _ (fun entry => [label entry]) state fun entry => rfl,
    List.map_eq_flatMap]

end Act

inductive Built (atom : ∀ α : Type, Act σ ω ε α → Prop) : ∀ {α : Type}, Act σ ω ε α → Prop
  | pure {α : Type} (value : α) : Built atom (Pure.pure value)
  | lift {α : Type} (result : Except ε α) : Built atom (Act.lift result)
  | atom {α : Type} {command : Act σ ω ε α} (basic : atom α command) : Built atom command
  | bind {α β : Type} {first : Act σ ω ε α} {next : α → Act σ ω ε β}
      (builtFirst : Built atom first) (builtNext : ∀ value, Built atom (next value)) :
      Built atom (first >>= next)

section Shapes

variable {atom : ∀ α : Type, Act σ ω ε α → Prop}

theorem built_ite {condition : Prop} [Decidable condition] {yes no : Act σ ω ε α}
    (builtYes : condition → Built atom yes) (builtNo : ¬ condition → Built atom no) :
    Built atom (if condition then yes else no) := by
  split
  next holds => exact builtYes holds
  next fails => exact builtNo fails

theorem built_forM {entries : List α} {body : α → Act σ ω ε PUnit}
    (builtBody : ∀ entry ∈ entries, Built atom (body entry)) :
    Built atom (entries.forM body) := by
  induction entries with
  | nil => exact .pure PUnit.unit
  | cons entry rest ih =>
      exact .bind (builtBody entry (by simp)) fun _ =>
        ih fun other member => builtBody other (List.mem_cons_of_mem entry member)

theorem built_foldlM {entries : List α} {body : β → α → Act σ ω ε β} (start : β)
    (builtBody : ∀ entry ∈ entries, ∀ value, Built atom (body value entry)) :
    Built atom (entries.foldlM body start) := by
  induction entries generalizing start with
  | nil => exact .pure start
  | cons entry rest ih =>
      exact .bind (builtBody entry (by simp) start) fun value =>
        ih value fun other member => builtBody other (List.mem_cons_of_mem entry member)

end Shapes

/-! Relations along one execution. -/
section Keeping

structure Composable (relation : σ → List ω → σ → Prop) : Prop where
  nothing : ∀ state, relation state [] state
  sequence : ∀ {before middle after : σ} {first second : List ω},
    relation before first middle → relation middle second after →
      relation before (first ++ second) after

def Keeps (relation : σ → List ω → σ → Prop) (command : Act σ ω ε α) : Prop :=
  ∀ state, relation state (command state).trace (command state).state

variable {relation : σ → List ω → σ → Prop}

theorem keeps_bind (composable : Composable relation) {first : Act σ ω ε α}
    {next : α → Act σ ω ε β} (keepsFirst : Keeps relation first)
    (keepsNext : ∀ value, Keeps relation (next value)) : Keeps relation (first >>= next) := by
  intro state
  cases returned : (first state).value with
  | error fault =>
      -- what came before the exception stays, the rest does not run
      rw [Act.bind_error first next state fault returned]
      exact keepsFirst state
  | ok value =>
      rw [Act.bind_ok first next state value returned]
      exact composable.sequence (keepsFirst state) (keepsNext value _)

theorem keeps_forM (composable : Composable relation) {entries : List α}
    {body : α → Act σ ω ε PUnit} (keepsBody : ∀ entry, Keeps relation (body entry)) :
    Keeps relation (entries.forM body) := by
  induction entries with
  | nil => exact fun state => composable.nothing state
  | cons entry rest ih => exact keeps_bind composable (keepsBody entry) fun _ => ih

theorem keeps_foldlM (composable : Composable relation) {entries : List α}
    {body : β → α → Act σ ω ε β} (start : β)
    (keepsBody : ∀ value entry, Keeps relation (body value entry)) :
    Keeps relation (entries.foldlM body start) := by
  induction entries generalizing start with
  | nil => exact fun state => composable.nothing state
  | cons entry rest ih => exact keeps_bind composable (keepsBody start entry) fun value => ih value

theorem Built.keeps {atom : ∀ α : Type, Act σ ω ε α → Prop} (composable : Composable relation)
    (atoms : ∀ {α : Type} {command : Act σ ω ε α}, atom α command → Keeps relation command)
    {command : Act σ ω ε α} (built : Built atom command) : Keeps relation command := by
  induction built with
  | pure value => exact fun state => composable.nothing state
  | lift result => exact fun state => composable.nothing state
  | atom basic => exact atoms basic
  | bind _ _ keepsFirst keepsNext => exact keeps_bind composable keepsFirst keepsNext

/-- A relation that is only asked for where `start` holds, and keeps `start`. -/
def Guarded (start : σ → Prop) (relation : σ → List ω → σ → Prop) :
    σ → List ω → σ → Prop := fun before trace after =>
  start before → start after ∧ relation before trace after

theorem guarded_composable (start : σ → Prop) (composable : Composable relation) :
    Composable (Guarded start relation) where
  nothing state := fun holds => ⟨holds, composable.nothing state⟩
  sequence := by
    intro before middle after first second one other holds
    obtain ⟨inside, head⟩ := one holds
    obtain ⟨still, tail⟩ := other inside
    exact ⟨still, composable.sequence head tail⟩

end Keeping

/-! Commands that return from every state, and commands that throw from every
state. -/
section Returning

def Returns (command : Act σ ω ε α) : Prop := ∀ state, ∃ value, (command state).value = .ok value

def Throws (command : Act σ ω ε α) : Prop :=
  ∀ state, ∃ fault, (command state).value = .error fault

theorem returns_pure (value : α) : Returns (pure value : Act σ ω ε α) := fun _ => ⟨value, rfl⟩

theorem returns_gets (look : σ → α) : Returns (Act.gets look : Act σ ω ε α) :=
  fun state => ⟨look state, rfl⟩

theorem returns_bind {first : Act σ ω ε α} {next : α → Act σ ω ε β} (head : Returns first)
    (tail : ∀ value, Returns (next value)) : Returns (first >>= next) := by
  intro state
  obtain ⟨value, returned⟩ := head state
  rw [Act.bind_ok first next state value returned]
  exact tail value _

theorem returns_forM {entries : List α} {body : α → Act σ ω ε PUnit}
    (rounds : ∀ entry ∈ entries, Returns (body entry)) : Returns (entries.forM body) := by
  induction entries with
  | nil => exact returns_pure PUnit.unit
  | cons entry rest ih =>
      refine returns_bind (rounds entry List.mem_cons_self) fun _ => ih ?_
      exact fun other member => rounds other (List.mem_cons_of_mem entry member)

theorem returns_foldlM {entries : List α} {body : β → α → Act σ ω ε β} (start : β)
    (rounds : ∀ value entry, Returns (body value entry)) :
    Returns (entries.foldlM body start) := by
  induction entries generalizing start with
  | nil => exact returns_pure start
  | cons entry rest ih => exact returns_bind (rounds start entry) fun value => ih value

theorem throws_lift (fault : ε) : Throws (Act.lift (.error fault) : Act σ ω ε α) :=
  fun _ => ⟨fault, rfl⟩

/-- An exception in a round ends the loop, whatever came before. -/
theorem throws_forM {entries : List α} {body : α → Act σ ω ε PUnit} (bad : α)
    (member : bad ∈ entries) (throws : Throws (body bad)) : Throws (entries.forM body) := by
  induction entries with
  | nil => exact absurd member List.not_mem_nil
  | cons entry rest ih =>
      intro state
      show ∃ fault, ((body entry >>= fun _ => rest.forM body) state).value = .error fault
      cases returned : (body entry state).value with
      | error fault => exact ⟨fault, by rw [Act.bind_error _ _ _ fault returned]⟩
      | ok value =>
          rw [Act.bind_ok _ _ _ value returned]
          rcases List.mem_cons.mp member with rfl | later
          · obtain ⟨fault, thrown⟩ := throws state
            rw [thrown] at returned
            cases returned
          · exact ih later _

end Returning

/-! Pairs of executions from related states. -/
section Respecting

def Respects (same : σ → σ → Prop) (command : Act σ ω ε α) : Prop :=
  ∀ left right, same left right →
    (command left).trace = (command right).trace ∧
    (command left).value = (command right).value ∧
    same (command left).state (command right).state

variable {same : σ → σ → Prop}

theorem respects_bind {first : Act σ ω ε α} {next : α → Act σ ω ε β}
    (respectsFirst : Respects same first) (respectsNext : ∀ value, Respects same (next value)) :
    Respects same (first >>= next) := by
  intro left right related
  obtain ⟨traces, values, states⟩ := respectsFirst left right related
  cases returned : (first left).value with
  | error fault =>
      rw [Act.bind_error first next left fault returned,
        Act.bind_error first next right fault (values ▸ returned)]
      exact ⟨traces, rfl, states⟩
  | ok value =>
      rw [Act.bind_ok first next left value returned,
        Act.bind_ok first next right value (values ▸ returned)]
      obtain ⟨moreTraces, lastValues, lastStates⟩ := respectsNext value _ _ states
      exact ⟨by rw [traces, moreTraces], lastValues, lastStates⟩

theorem Built.respects {atom : ∀ α : Type, Act σ ω ε α → Prop}
    (atoms : ∀ {α : Type} {command : Act σ ω ε α}, atom α command → Respects same command)
    {command : Act σ ω ε α} (built : Built atom command) : Respects same command := by
  induction built with
  | pure value => exact fun left right related => ⟨rfl, rfl, related⟩
  | lift result => exact fun left right related => ⟨rfl, rfl, related⟩
  | atom basic => exact atoms basic
  | bind _ _ respectsFirst respectsNext => exact respects_bind respectsFirst respectsNext

end Respecting

/-! Runs of a machine that takes one event at a time and records a trace. -/
section Runs

variable {E : Type}

def run (step : σ → E → List ω × σ) : σ → List E → List ω × σ
  | state, [] => ([], state)
  | state, event :: rest =>
      ((step state event).1 ++ (run step (step state event).2 rest).1,
        (run step (step state event).2 rest).2)

theorem run_keeps (step : σ → E → List ω × σ) {relation : σ → List ω → σ → Prop}
    (composable : Composable relation)
    (keeps : ∀ state event, relation state (step state event).1 (step state event).2)
    (state : σ) (events : List E) :
    relation state (run step state events).1 (run step state events).2 := by
  induction events generalizing state with
  | nil => exact composable.nothing state
  | cons event rest ih => exact composable.sequence (keeps state event) (ih _)

theorem run_append (step : σ → E → List ω × σ) (state : σ) (before after : List E) :
    (run step state (before ++ after)).2 = (run step (run step state before).2 after).2 := by
  induction before generalizing state with
  | nil => rfl
  | cons event rest ih => exact ih (step state event).2

/-- The condition holds at every step of the run. -/
def Along (step : σ → E → List ω × σ) (condition : σ → E → Prop) : σ → List E → Prop
  | _, [] => True
  | state, event :: rest =>
      condition state event ∧ Along step condition (step state event).2 rest

instance decidableAlong (step : σ → E → List ω × σ) (condition : σ → E → Prop)
    [∀ state event, Decidable (condition state event)] :
    ∀ state events, Decidable (Along step condition state events)
  | _, [] => .isTrue trivial
  | state, event :: rest =>
      have := decidableAlong step condition (step state event).2 rest
      inferInstanceAs (Decidable (_ ∧ _))

theorem along_always (step : σ → E → List ω × σ) {condition : σ → E → Prop}
    (always : ∀ state event, condition state event) (state : σ) (events : List E) :
    Along step condition state events := by
  induction events generalizing state with
  | nil => exact trivial
  | cons event rest ih => exact ⟨always state event, ih _⟩

/-- Where an invariant makes a property and a condition on the next step agree,
and a step under the condition keeps the invariant, the property holds at every
step exactly if the condition does. -/
theorem along_iff (step : σ → E → List ω × σ) {invariant : σ → Prop}
    {assumed property condition : σ → E → Prop}
    (agree : ∀ state event, invariant state → assumed state event →
      (property state event ↔ condition state event))
    (keeps : ∀ state event, invariant state → assumed state event → condition state event →
      invariant (step state event).2)
    (state : σ) (events : List E) (holds : invariant state)
    (along : Along step assumed state events) :
    Along step property state events ↔ Along step condition state events := by
  induction events generalizing state with
  | nil => exact Iff.rfl
  | cons event rest ih =>
      obtain ⟨here, later⟩ := along
      -- the invariant is carried to the rest only where the condition was met
      have same := agree state event holds here
      constructor
      · rintro ⟨head, tail⟩
        have met := same.mp head
        exact ⟨met, (ih _ (keeps state event holds here met) later).mp tail⟩
      · rintro ⟨met, tail⟩
        exact ⟨same.mpr met, (ih _ (keeps state event holds here met) later).mpr tail⟩

/-- Two conditions that agree under a third one, which holds at every step. -/
theorem along_iff_of (step : σ → E → List ω × σ) {assumed left right : σ → E → Prop}
    (agree : ∀ state event, assumed state event → (left state event ↔ right state event))
    (state : σ) (events : List E) (along : Along step assumed state events) :
    Along step left state events ↔ Along step right state events :=
  along_iff step (fun state event (_ : True) here => agree state event here)
    (fun _ _ _ _ _ => trivial) state events trivial along

theorem along_congr (step : σ → E → List ω × σ) {left right : σ → E → Prop}
    (same : ∀ state event, left state event ↔ right state event) (state : σ) (events : List E) :
    Along step left state events ↔ Along step right state events :=
  along_iff_of step (fun state event _ => same state event) state events
    (along_always step (fun _ _ => trivial) state events)

theorem along_append (step : σ → E → List ω × σ) (condition : σ → E → Prop) (state : σ)
    (before after : List E) :
    Along step condition state (before ++ after) ↔
      Along step condition state before ∧ Along step condition (run step state before).2 after := by
  induction before generalizing state with
  | nil => exact (and_iff_right trivial).symm
  | cons first rest ih => rw [List.cons_append, Along, Along, ih, and_assoc, run]

/-- The condition at the step that follows the given ones. -/
theorem along_at (step : σ → E → List ω × σ) (condition : σ → E → Prop) (state : σ)
    (before : List E) (event : E) (after : List E)
    (along : Along step condition state (before ++ event :: after)) :
    condition (run step state before).2 event :=
  ((along_append step condition state before (event :: after)).mp along).2.1

/-- A condition on the events alone. -/
theorem along_mem_iff (step : σ → E → List ω × σ) (condition : E → Prop) (state : σ)
    (events : List E) :
    Along step (fun _ event => condition event) state events ↔
      ∀ event ∈ events, condition event := by
  induction events generalizing state with
  | nil => simp [Along]
  | cons event rest ih => rw [Along, ih, List.forall_mem_cons]

theorem along_of_mem (step : σ → E → List ω × σ) {condition : E → Prop} (state : σ)
    (events : List E) (all : ∀ event ∈ events, condition event) :
    Along step (fun _ event => condition event) state events :=
  (along_mem_iff step condition state events).mpr all

/-- A property that an invariant and the condition on a step give. -/
theorem along_of_invariant (step : σ → E → List ω × σ) {invariant : σ → Prop}
    {condition property : σ → E → Prop}
    (sound : ∀ state event, invariant state → condition state event → property state event)
    (keeps : ∀ state event, invariant state → condition state event →
      invariant (step state event).2)
    (state : σ) (events : List E) (holds : invariant state)
    (along : Along step condition state events) : Along step property state events := by
  induction events generalizing state with
  | nil => exact trivial
  | cons event rest ih =>
      exact ⟨sound state event holds along.1, ih _ (keeps state event holds along.1) along.2⟩

/-- A property of everything that a run records. -/
theorem along_trace (step : σ → E → List ω × σ) (good : ω → Prop) (state : σ) (events : List E) :
    (∀ label ∈ (run step state events).1, good label) ↔
      Along step (fun state event => ∀ label ∈ (step state event).1, good label) state events := by
  induction events generalizing state with
  | nil => simp [run, Along]
  | cons event rest ih =>
      rw [run, Along, ← ih, List.forall_mem_append]

/-- A flag that some steps set and some clear is up behind a run exactly if it
was set, at the start or on the way, and no step from there on cleared it. -/
theorem latched_iff_of (step : σ → E → List ω × σ) (flag : σ → Prop)
    {assumed sets clears : σ → E → Prop}
    (kept : ∀ state event, assumed state event →
      (flag (step state event).2 ↔ (sets state event ∨ flag state) ∧ ¬ clears state event))
    (state : σ) (events : List E) (along : Along step assumed state events) :
    flag (run step state events).2 ↔
      (flag state ∧ Along step (fun state event => ¬ clears state event) state events) ∨
      ∃ earlier setting later, events = earlier ++ setting :: later ∧
        sets (run step state earlier).2 setting ∧
        Along step (fun state event => ¬ clears state event) (run step state earlier).2
          (setting :: later) := by
  induction events generalizing state with
  | nil => simp [run, Along]
  | cons event rest ih =>
      rw [run, ih _ along.2, kept state event along.1]
      constructor
      · rintro (⟨⟨here | before, uncleared⟩, along⟩ | ⟨earlier, setting, later, rfl, set', along⟩)
        · exact Or.inr ⟨[], event, rest, rfl, here, uncleared, along⟩
        · exact Or.inl ⟨before, uncleared, along⟩
        · exact Or.inr ⟨event :: earlier, setting, later, rfl, set', along⟩
      · rintro (⟨before, uncleared, along⟩ | ⟨earlier, setting, later, split, set', along⟩)
        · exact Or.inl ⟨⟨Or.inr before, uncleared⟩, along⟩
        · cases earlier with
          | nil =>
              obtain ⟨rfl, rfl⟩ := List.cons.inj split
              exact Or.inl ⟨⟨Or.inl set', along.1⟩, along.2⟩
          | cons first earlier =>
              obtain ⟨rfl, tail⟩ := List.cons.inj split
              exact Or.inr ⟨earlier, setting, later, tail, set', along⟩

theorem latched_iff (step : σ → E → List ω × σ) (flag : σ → Prop) {sets clears : σ → E → Prop}
    (kept : ∀ state event,
      flag (step state event).2 ↔ (sets state event ∨ flag state) ∧ ¬ clears state event)
    (state : σ) (events : List E) :
    flag (run step state events).2 ↔
      (flag state ∧ Along step (fun state event => ¬ clears state event) state events) ∨
      ∃ earlier setting later, events = earlier ++ setting :: later ∧
        sets (run step state earlier).2 setting ∧
        Along step (fun state event => ¬ clears state event) (run step state earlier).2
          (setting :: later) :=
  latched_iff_of step flag (fun state event _ => kept state event)
    state events (along_always step (fun _ _ => trivial) state events)

/-- A condition at every step, as one on every way to split the run. -/
theorem along_splits (step : σ → E → List ω × σ) (condition : σ → E → Prop) (state : σ)
    (events : List E) :
    Along step condition state events ↔
      ∀ before event after, events = before ++ event :: after →
        condition (run step state before).2 event := by
  constructor
  · rintro along before event after rfl
    exact along_at step condition state before event after along
  · intro all
    induction events generalizing state with
    | nil => exact trivial
    | cons event rest ih =>
        refine ⟨all [] event rest rfl, ih _ ?_⟩
        rintro before next after rfl
        exact all (event :: before) next after rfl

/-- A property of every state that a run reaches, its first one included. -/
theorem along_reached (step : σ → E → List ω × σ) (good : σ → Prop) (state : σ)
    (events : List E) :
    (good state ∧ Along step (fun state event => good (step state event).2) state events) ↔
      ∀ before after, events = before ++ after → good (run step state before).2 := by
  induction events generalizing state with
  | nil =>
      constructor
      · rintro ⟨start, -⟩ before after split
        obtain ⟨rfl, -⟩ := List.append_eq_nil_iff.mp split.symm
        exact start
      · intro reached
        exact ⟨reached [] [] rfl, trivial⟩
  | cons event rest ih =>
      constructor
      · rintro ⟨start, next, later⟩ before after split
        cases before with
        | nil => exact start
        | cons first before =>
            obtain ⟨rfl, tail⟩ := List.cons.inj split
            exact (ih _).mp ⟨next, later⟩ before after tail
      · intro reached
        obtain ⟨next, later⟩ := (ih (step state event).2).mpr fun before after split =>
          reached (event :: before) after (congrArg (List.cons event) split)
        exact ⟨reached [] (event :: rest) rfl, next, later⟩

end Runs

end EdoyumIM.Effects
