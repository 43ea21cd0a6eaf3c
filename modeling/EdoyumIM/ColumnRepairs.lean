import EdoyumIM.SchemaSetup
import EdoyumIM.UserStore

/-!
`CheckTable` on a database that is a parameter: what its loop over the rows of
`desc` concludes, how many rounds it takes, and which statements follow. The
loop runs over a `QueryResult`, so an empty result and the end of the rows are
told as `Fetch` and `NextRow` tell them.
-/

namespace EdoyumIM.ColumnRepairs

open OrderedStore TableSchema SchemaSetup
open UserStore (QueryResult)

/-! The row loop, for a number of rounds. -/
section Loop

/-- What `Fetch` points to in a cleared row. -/
def noFields : Column := ⟨"", ""⟩

variable (info : TableInfo) (emptyData : Bool)

def checkLoop : Nat → QueryResult Column → Scan → Option Scan
  | 0, result, scan =>
      match result.fetch emptyData noFields with
      | none => some scan
      | some _ => none
  | rounds + 1, result, scan =>
      match result.fetch emptyData noFields with
      | none => some scan
      | some row =>
          match visit info scan row with
          -- `continue`, in front of `NextRow`
          | .again => checkLoop rounds result scan
          | .stop last => some last
          | .next seen =>
              match result.nextRow with
              | (false, _) => some seen
              | (true, next) => checkLoop rounds next seen

theorem checkLoop_stays (rounds : Nat) (row : Column) (pending : List Column) (running : Bool)
    (scan : Scan) (again : visit info scan row = .again) :
    checkLoop info emptyData rounds ⟨some row, pending, running⟩ scan = none := by
  induction rounds with
  | zero => rfl
  | succ rounds ih => simpa only [checkLoop, QueryResult.fetch, again] using ih

/-- With a round for each row the loop does what `scanRows` says. -/
theorem checkLoop_rows (pending : List Column) (rounds : Nat) (enough : pending.length < rounds)
    (row : Column) (scan : Scan) :
    checkLoop info emptyData rounds ⟨some row, pending, true⟩ scan =
      scanRows info (row :: pending) scan := by
  induction pending generalizing rounds row scan with
  | nil =>
      obtain ⟨more, rfl⟩ := Nat.exists_eq_add_of_lt enough
      rw [scanRows]
      cases move : visit info scan row with
      | again => exact checkLoop_stays info emptyData _ row [] true scan move
      | stop last => simp [checkLoop, QueryResult.fetch, move]
      | next seen => simp [checkLoop, QueryResult.fetch, QueryResult.nextRow, move, scanRows]
  | cons next pending ih =>
      obtain ⟨more, rfl⟩ := Nat.exists_eq_add_of_lt enough
      rw [scanRows]
      cases move : visit info scan row with
      | again => exact checkLoop_stays info emptyData _ row (next :: pending) true scan move
      | stop last => simp [checkLoop, QueryResult.fetch, move]
      | next seen =>
          have remaining := ih ((next :: pending).length + more) (by simp; omega) next seen
          simpa only [checkLoop, QueryResult.fetch, QueryResult.nextRow, move, if_true] using remaining

/-- However many rounds it took, the loop ended as `scanRows` says. -/
theorem checkLoop_ended (rounds : Nat) (row : Column) (pending : List Column) (scan last : Scan)
    (ended : checkLoop info emptyData rounds ⟨some row, pending, true⟩ scan = some last) :
    scanRows info (row :: pending) scan = some last := by
  induction rounds generalizing row pending scan with
  | zero => cases ended
  | succ rounds ih =>
      rw [scanRows]
      cases move : visit info scan row with
      | again =>
          rw [checkLoop_stays info emptyData _ row pending true scan move] at ended
          cases ended
      | stop seen => simpa only [checkLoop, QueryResult.fetch, move] using ended
      | next seen =>
          simp only [checkLoop, QueryResult.fetch, QueryResult.nextRow, move] at ended
          cases pending with
          | nil => exact ended
          | cons next more => exact ih next more seen ended

theorem checkLoop_iff (rows : List Column) (filled : rows ≠ []) (scan last : Scan) :
    (∃ rounds, checkLoop info emptyData rounds (.ofRows rows) scan = some last) ↔
      scanRows info rows scan = some last := by
  cases rows with
  | nil => exact absurd rfl filled
  | cons row pending =>
      constructor
      · rintro ⟨rounds, ended⟩
        exact checkLoop_ended info emptyData rounds row pending scan last ended
      · intro ended
        refine ⟨pending.length + 1, ?_⟩
        rw [← ended]
        exact checkLoop_rows info emptyData pending _ (Nat.lt_succ_self _) row scan

end Loop

/-! When the loop ends. -/
section Ending

theorem mismatched_unmatched (info : TableInfo) (field : FieldInfo) (type : String)
    (member : field ∈ info.fields) (wrong : type ≠ field.sDesc) :
    ¬ ∃ other ∈ info.fields, (⟨field.sName, type⟩ : Column) = declared other := by
  rintro ⟨other, inside, same⟩
  obtain ⟨name, right⟩ := Column.mk.inj same
  obtain rfl := field_unique info field other member inside name
  exact wrong right

/-- Rows that all match reach no further than the first row that does not. -/
theorem matching_split (info : TableInfo) (before rest reached after : List Column)
    (first row : Column) (unmatched : ¬ ∃ field ∈ info.fields, first = declared field)
    (same : before ++ first :: rest = reached ++ row :: after)
    (matching : Matching info reached) : row ∈ before ∨ row = first := by
  rcases List.append_eq_append_iff.mp same with
    ⟨between, rfl, tail⟩ | ⟨between, rfl, tail⟩
  · cases between with
    | nil => exact Or.inr (List.cons.inj tail).1.symm
    | cons other between =>
        -- the row that does not match would be among those reached
        obtain ⟨rfl, -⟩ := List.cons.inj tail
        exact absurd (matching first (by simp)) unmatched
  · cases between with
    | nil => exact Or.inr (List.cons.inj tail).1
    | cons other between =>
        obtain ⟨rfl, -⟩ := List.cons.inj tail
        exact Or.inl (by simp)

theorem scanRows_ends_iff (info : TableInfo) (rows : List Column) :
    (scanRows info rows (.start info)).isSome ↔
      ∀ before row after, rows = before ++ row :: after → Matching info before →
        ∃ field ∈ info.fields, field.sName = row.name := by
  have named : ∀ row, (∃ field ∈ info.fields, row = declared field) →
      ∃ field ∈ info.fields, field.sName = row.name := by
    rintro row ⟨field, member, rfl⟩
    exact ⟨field, member, rfl⟩
  rcases rows_cases info rows with
    matching | ⟨before, field, type, after, rfl, matching, member, wrong⟩ |
    ⟨before, row, after, rfl, matching, undeclared⟩
  · have ends := scanRows_matching info rows [] (.start info) matching
    rw [List.append_nil] at ends
    apply iff_of_true
    · simp [ends, scanRows]
    · rintro reached row after rfl -
      exact named row (matching row (by simp))
  · apply iff_of_true
    · rw [scan_mismatch info before after field type matching member wrong]
      rfl
    · intro reached row rest same reachable
      rcases matching_split info before after reached rest _ row
        (mismatched_unmatched info field type member wrong) same reachable with earlier | rfl
      · exact named row (matching row earlier)
      · exact ⟨field, member, rfl⟩
  · apply iff_of_false
    · rw [scanRows_matching info before _ _ matching, scanRows,
        visit_undeclared info _ row undeclared]
      simp
    · intro all
      obtain ⟨field, member, same⟩ := all before row after rfl matching
      exact undeclared field member same

/-- The loop takes at most one round for each row exactly if no row that it comes
to names an undeclared column, and no row is made up for an empty result. -/
theorem check_loop_ends_iff (info : TableInfo) (emptyData : Bool) (rows : List Column) :
    (checkLoop info emptyData rows.length (.ofRows rows) (.start info)).isSome ↔
      (rows = [] → emptyData = false) ∧
      ∀ before row after, rows = before ++ row :: after → Matching info before →
        ∃ field ∈ info.fields, field.sName = row.name := by
  cases rows with
  | nil => cases emptyData <;> simp [checkLoop, QueryResult.ofRows, QueryResult.fetch]
  | cons row pending =>
      have ended := checkLoop_rows info emptyData pending (pending.length + 1)
        (Nat.lt_succ_self _) row (.start info)
      rw [← scanRows_ends_iff, ← ended]
      simp [QueryResult.ofRows]

/-- A column more than the program declares, in front: the loop never ends. -/
theorem extra_column_loops :
    ¬ ∀ info emptyData rows,
      (checkLoop info emptyData rows.length (.ofRows rows) (.start info)).isSome := by
  intro all
  have absent : ∀ field ∈ relationshipInfo.fields, field.sName ≠ "f_note" := by
    decide +kernel
  have stays := checkLoop_stays relationshipInfo true 1 ⟨"f_note", "text"⟩ [] true
    (.start relationshipInfo) (visit_undeclared relationshipInfo _ _ absent)
  have ends := all relationshipInfo true [⟨"f_note", "text"⟩]
  rw [List.length_singleton, QueryResult.ofRows, stays] at ends
  cases ends

end Ending

/-! The statements. Every one is made by `execute`, which says whether it
succeeded. -/
section Statements

variable {σ : Type}

/-- The loops over `rest` and `mapChange`. -/
def alterColumnsBy (execute : Statement → σ → Bool × σ) (table verb keyword : String) :
    List FieldInfo → σ → Bool × σ
  | [], state => (true, state)
  | field :: rest, state =>
      match execute (.alterTable table verb keyword field) state with
      | (false, refused) => (false, refused)
      | (true, altered) => alterColumnsBy execute table verb keyword rest altered

/-- `CheckTable`, where `desc` returns the given rows. -/
def checkTableBy (execute : Statement → σ → Bool × σ) (info : TableInfo) (emptyData : Bool)
    (rounds : Nat) (rows : List Column) (state : σ) : Option (Bool × σ) :=
  match execute (.desc info.sName) state with
  | (false, asked) =>
      if info.fields = [] then some (false, asked)
      else some (execute (.createTable info.sName info.fields info.sKey) asked)
  | (true, asked) =>
      match checkLoop info emptyData rounds (.ofRows rows) (.start info) with
      | none => none
      | some scan =>
          match alterColumnsBy execute info.sName "add" "colum" scan.rest.values asked with
          | (false, added) => some (false, added)
          | (true, added) =>
              some (alterColumnsBy execute info.sName "modify" "column" scan.mapChange.values added)

/-- The server of `Init` as such a database. -/
def byServer (statement : Statement) (server : Server) : Bool × Server :=
  ((server.excute statement).1 ≠ .refused, (server.excute statement).2)

theorem alterColumnsBy_server (table verb keyword : String) (fields : List FieldInfo)
    (server : Server) :
    alterColumnsBy byServer table verb keyword fields server =
      alterColumns table verb keyword fields server := by
  induction fields generalizing server with
  | nil => rfl
  | cons field rest ih =>
      rw [alterColumnsBy, alterColumns, byServer]
      rcases server.excute (.alterTable table verb keyword field) with ⟨answer, altered⟩
      cases answer with
      | refused => rfl
      | first => exact ih altered
      | second nAffectedCount => exact ih altered

theorem checkTable_by_server (info : TableInfo) (emptyData : Bool) (server : Server) (table : Table)
    (present : server.tables info.sName = some table) :
    checkTable info server =
      checkTableBy byServer info emptyData table.columns.length table.columns server := by
  have loop : checkLoop info emptyData table.columns.length (.ofRows table.columns) (.start info) =
      scanRows info table.columns (.start info) := by
    cases columns : table.columns with
    | nil => exact absurd columns table.nonempty
    | cons row pending =>
        exact checkLoop_rows info emptyData pending _ (Nat.lt_succ_self _) row _
  rw [checkTable, checkTableBy, loop, byServer, present, Option.map_some, Option.getD_some]
  rcases server.excute (.desc info.sName) with ⟨answer, asked⟩
  have refusal : some (createTable info asked) =
      if info.fields = [] then some (false, asked)
      else some (byServer (.createTable info.sName info.fields info.sKey) asked) := by
    rw [createTable]
    split_ifs
    · rfl
    · rfl
  cases scanRows info table.columns (.start info) with
  | none =>
      cases answer with
      | refused => exact refusal
      | first => rfl
      | second nAffectedCount => rfl
  | some scan =>
      simp only [alterColumnsBy_server]
      cases answer with
      | refused => exact refusal
      | first =>
          simp only [ne_eq, reduceCtorEq, not_false_eq_true, decide_true]
          rcases alterColumns info.sName "add" "colum" scan.rest.values asked with ⟨result, added⟩
          cases result <;> rfl
      | second nAffectedCount =>
          simp only [ne_eq, reduceCtorEq, not_false_eq_true, decide_true]
          rcases alterColumns info.sName "add" "colum" scan.rest.values asked with ⟨result, added⟩
          cases result <;> rfl

/-- A database that carries out every statement and remembers it. -/
def note (statement : Statement) (issued : List Statement) : Bool × List Statement :=
  (true, issued ++ [statement])

theorem alterColumnsBy_note (table verb keyword : String) (fields : List FieldInfo)
    (issued : List Statement) :
    alterColumnsBy note table verb keyword fields issued =
      (true, issued ++ fields.map (.alterTable table verb keyword)) := by
  induction fields generalizing issued with
  | nil => simp [alterColumnsBy]
  | cons field rest ih => simp [alterColumnsBy, note, ih]

/-- What follows from the end of the loop. -/
def concluded (info : TableInfo) (scan : Scan) : List Statement :=
  scan.rest.values.map (.alterTable info.sName "add" "colum") ++
    scan.mapChange.values.map (.alterTable info.sName "modify" "column")

theorem checkTableBy_note (info : TableInfo) (emptyData : Bool) (rounds : Nat) (rows : List Column) :
    checkTableBy note info emptyData rounds rows [] =
      (checkLoop info emptyData rounds (.ofRows rows) (.start info)).map fun scan =>
        (true, .desc info.sName :: concluded info scan) := by
  rw [checkTableBy]
  cases ended : checkLoop info emptyData rounds (.ofRows rows) (.start info) with
  | none => simp [note]
  | some scan => simp [note, alterColumnsBy_note, concluded]

end Statements

/-! The statements that the difference between the table and its declaration
asks for. -/
section Repairs

variable (info : TableInfo) (rows : List Column)

def missing : List FieldInfo := info.fields.filter fun field => field.sName ∉ rows.map Column.name

def mistyped : List FieldInfo :=
  info.fields.filter fun field => ∃ row ∈ rows, row.name = field.sName ∧ row.type ≠ field.sDesc

/-- `keyword` is the word that an added column is announced with. -/
def repairs (keyword : String) : List Statement :=
  (missing info rows).map (.alterTable info.sName "add" keyword) ++
    (mistyped info rows).map (.alterTable info.sName "modify" "column")

def RepairsExactly (keyword : String) (emptyData : Bool) : Prop :=
  ∃ rounds result issued,
    checkTableBy note info emptyData rounds rows [] =
      some (result, .desc info.sName :: issued) ∧
    issued.Perm (repairs info rows keyword)

theorem repairsExactly_iff (keyword : String) (emptyData : Bool) :
    RepairsExactly info rows keyword emptyData ↔
      ∃ scan, (∃ rounds,
        checkLoop info emptyData rounds (.ofRows rows) (.start info) = some scan) ∧
        (concluded info scan).Perm (repairs info rows keyword) := by
  constructor
  · rintro ⟨rounds, result, issued, ran, exact⟩
    rw [checkTableBy_note, Option.map_eq_some_iff] at ran
    obtain ⟨scan, ended, same⟩ := ran
    obtain ⟨-, rfl⟩ := List.cons.inj (Prod.mk.inj same).2
    exact ⟨scan, ⟨rounds, ended⟩, exact⟩
  · rintro ⟨scan, ⟨rounds, ended⟩, exact⟩
    exact ⟨rounds, true, concluded info scan, by rw [checkTableBy_note, ended]; rfl, exact⟩

theorem missing_nil_iff :
    missing info rows = [] ↔ ∀ field ∈ info.fields, field.sName ∈ rows.map Column.name := by
  simp [missing]

theorem struck_entries (scan : Scan) :
    (struck rows scan).rest.entries =
      scan.rest.entries.filter fun entry => entry.1 ∉ rows.map Column.name := by
  induction rows generalizing scan with
  | nil => simp [struck]
  | cons row more ih =>
      rw [struck, List.foldl_cons, ← struck, ih, OrderedMap.erase, List.filter_filter]
      apply List.filter_congr
      intro entry _
      by_cases here : entry.1 = row.name
      · simp [here]
      · simp [here]

theorem struck_values : (struck rows (.start info)).rest.values = missing info rows := by
  rw [OrderedMap.values, struck_entries, missing, TableInfo.fields, OrderedMap.values,
    List.filter_map]
  congr 1
  apply List.filter_congr
  intro entry member
  simp [info.named entry member]

theorem fields_nodup : info.fields.Nodup := by
  rw [TableInfo.fields, OrderedMap.values, List.Nodup, List.pairwise_map]
  apply info.mapField.ascending.imp_of_mem
  intro left right one other before same
  rw [info.named left one, info.named right other, same] at before
  exact lt_irrefl _ before

/-- A loop that struck every row it should, and kept every type that is off. -/
theorem concluded_perm_iff (keyword : String) (scan : Scan)
    (rest : scan.rest.values = missing info rows)
    (change : scan.mapChange.values = mistyped info rows) :
    (concluded info scan).Perm (repairs info rows keyword) ↔
      keyword = "colum" ∨ ∀ field ∈ info.fields, field.sName ∈ rows.map Column.name := by
  rw [concluded, repairs, rest, change, List.perm_append_right_iff, ← missing_nil_iff]
  constructor
  · intro exact
    cases absent : missing info rows with
    | nil => exact Or.inr rfl
    | cons field more =>
        rw [absent] at exact
        have issued := exact.subset (List.mem_cons_self)
        obtain ⟨other, -, same⟩ := List.mem_map.mp issued
        exact Or.inl (Statement.alterTable.inj same).2.2.1
  · rintro (rfl | none)
    · exact List.Perm.refl _
    · simp [none]

theorem mistyped_matching (matching : Matching info rows) : mistyped info rows = [] := by
  rw [mistyped, List.filter_eq_nil_iff]
  intro field member off
  obtain ⟨row, inside, name, wrong⟩ := of_decide_eq_true off
  obtain ⟨other, known, rfl⟩ := matching row inside
  obtain rfl := field_unique info other field known member name
  exact wrong rfl

theorem mistyped_last (before : List Column) (field : FieldInfo) (type : String)
    (matching : Matching info before) (member : field ∈ info.fields) (wrong : type ≠ field.sDesc) :
    mistyped info (before ++ [⟨field.sName, type⟩]) = [field] := by
  have only : ∀ other ∈ info.fields,
      (∃ row ∈ before ++ [⟨field.sName, type⟩], row.name = other.sName ∧ row.type ≠ other.sDesc) ↔
        other = field := by
    intro other inside
    constructor
    · rintro ⟨row, reached, name, off⟩
      rcases List.mem_append.mp reached with earlier | last
      · obtain ⟨known, declares, rfl⟩ := matching row earlier
        obtain rfl := field_unique info known other declares inside name
        exact absurd rfl off
      · obtain rfl := List.mem_singleton.mp last
        exact (field_unique info field other member inside name).symm
    · rintro rfl
      exact ⟨_, List.mem_append_right _ List.mem_cons_self, rfl, wrong⟩
  rw [mistyped, List.filter_congr fun other inside => decide_eq_decide.mpr (only other inside)]
  rw [List.filter_eq, List.count_eq_one_of_mem (fields_nodup info) member]
  rfl

theorem struck_mismatch (before : List Column) (field : FieldInfo) (type : String) :
    ((struck before (.start info)).rest.erase field.sName).values =
      missing info (before ++ [⟨field.sName, type⟩]) := by
  rw [← struck_values, struck, struck, List.foldl_append]
  rfl

/-- The loop stops at the first column whose type is off. -/
theorem mismatch_ends (before after : List Column) (field : FieldInfo) (type : String)
    (matching : Matching info before) (member : field ∈ info.fields) (wrong : type ≠ field.sDesc) :
    ∃ scan, scanRows info (before ++ ⟨field.sName, type⟩ :: after) (.start info) = some scan ∧
      scan.rest.values = missing info (before ++ [⟨field.sName, type⟩]) ∧
      scan.mapChange.values = [field] :=
  ⟨_, scan_mismatch info before after field type matching member wrong,
    struck_mismatch info before field type, rfl⟩

/-- Rows behind the first mismatch are not seen: their columns are added again. -/
theorem unseen_added (keyword : String) (before after : List Column) (field : FieldInfo)
    (type : String) (scan : Scan) (next : Column)
    (names : ((before ++ ⟨field.sName, type⟩ :: next :: after).map Column.name).Nodup)
    (declares : ∃ other ∈ info.fields, other.sName = next.name)
    (rest : scan.rest.values = missing info (before ++ [⟨field.sName, type⟩])) :
    ¬ (concluded info scan).Perm
      (repairs info (before ++ ⟨field.sName, type⟩ :: next :: after) keyword) := by
  intro exact
  obtain ⟨other, member, same⟩ := declares
  have unseen : other ∈ missing info (before ++ [⟨field.sName, type⟩]) := by
    rw [missing, List.mem_filter]
    refine ⟨member, decide_eq_true ?_⟩
    intro seen
    rw [List.append_cons, List.map_append] at names
    exact (List.nodup_append.mp names).2.2 other.sName seen next.name
      (List.mem_map_of_mem List.mem_cons_self) same
  have issued : Statement.alterTable info.sName "add" "colum" other ∈ concluded info scan := by
    rw [concluded, rest]
    exact List.mem_append_left _ (List.mem_map_of_mem unseen)
  rcases List.mem_append.mp (exact.subset issued) with added | modified
  · obtain ⟨absent, lacking, equal⟩ := List.mem_map.mp added
    obtain rfl : absent = other := (Statement.alterTable.inj equal).2.2.2
    have gone := of_decide_eq_true (List.mem_filter.mp lacking).2
    exact gone (by simp [same])
  · obtain ⟨changed, -, equal⟩ := List.mem_map.mp modified
    simp at equal

theorem dropLast_unmatched (before after : List Column) (field : FieldInfo) (type : String)
    (next : Column) (member : field ∈ info.fields) (wrong : type ≠ field.sDesc) :
    ¬ Matching info (before ++ ⟨field.sName, type⟩ :: next :: after).dropLast := by
  intro matching
  apply mismatched_unmatched info field type member wrong
  apply matching
  rw [List.dropLast_append_of_ne_nil (List.cons_ne_nil _ _), List.dropLast_cons_cons]
  exact List.mem_append_right _ List.mem_cons_self

theorem checkLoop_made_up (rounds : Nat) (scan : Scan) :
    checkLoop info true (rounds + 1) (.ofRows []) scan =
      match visit info scan noFields with
      | .again => checkLoop info true rounds (.ofRows []) scan
      | .stop last => some last
      | .next seen => some seen := rfl

/-- A made-up row takes the column without a name from `rest`. -/
theorem made_up_ended (rounds : Nat) (last : Scan)
    (ended : checkLoop info true rounds (.ofRows []) (.start info) = some last) :
    ∃ field, info.mapField.find? "" = some field ∧ last.rest = info.mapField.erase "" := by
  induction rounds with
  | zero => cases ended
  | succ rounds ih =>
      rw [checkLoop_made_up, visit] at ended
      simp only [noFields] at ended
      cases found : info.mapField.find? "" with
      | none =>
          rw [found] at ended
          rw [found] at ih
          exact ih ended
      | some field =>
          rw [found] at ended
          refine ⟨field, rfl, ?_⟩
          by_cases right : field.sDesc = ""
          · simp only [right, ne_eq, not_true_eq_false, if_false, Option.some.injEq] at ended
            rw [← ended]
            rfl
          · simp only [right, ne_eq, not_false_eq_true, if_true, Option.some.injEq] at ended
            rw [← ended]
            rfl

theorem made_up_row (keyword : String) : ¬ RepairsExactly info [] keyword true := by
  rw [repairsExactly_iff]
  rintro ⟨scan, ⟨rounds, ended⟩, exact⟩
  obtain ⟨field, found, rest⟩ := made_up_ended info rounds scan ended
  obtain ⟨member, name⟩ := (find?_field info "" field).mp found
  have lost : field ∉ scan.rest.values := by
    rw [rest]
    intro kept
    obtain ⟨entry, inside, rfl⟩ := List.mem_map.mp kept
    obtain ⟨old, other⟩ := List.mem_filter.mp inside
    rw [info.named entry old, name] at other
    simp at other
  have asked : Statement.alterTable info.sName "add" keyword field ∈ repairs info [] keyword :=
    List.mem_append_left _ (List.mem_map_of_mem (List.mem_filter.mpr ⟨member, by simp⟩))
  rcases List.mem_append.mp (exact.symm.subset asked) with added | modified
  · obtain ⟨other, kept, equal⟩ := List.mem_map.mp added
    obtain rfl : other = field := (Statement.alterTable.inj equal).2.2.2
    exact lost kept
  · obtain ⟨other, -, equal⟩ := List.mem_map.mp modified
    simp at equal

theorem no_rows (keyword : String) :
    RepairsExactly info [] keyword false ↔
      keyword = "colum" ∨ ∀ field ∈ info.fields, field.sName ∈ ([] : List Column).map Column.name := by
  rw [repairsExactly_iff]
  have stops : ∀ rounds,
      checkLoop info false rounds (.ofRows []) (.start info) = some (.start info) := by
    intro rounds
    cases rounds <;> rfl
  have rest : (Scan.start info).rest.values = missing info [] := struck_values info []
  have change : (Scan.start info).mapChange.values = mistyped info [] := by
    rw [mistyped_matching info [] (by simp [Matching])]
    rfl
  rw [← concluded_perm_iff info [] keyword (.start info) rest change]
  constructor
  · rintro ⟨scan, ⟨rounds, ended⟩, exact⟩
    rw [stops, Option.some.injEq] at ended
    rwa [ended]
  · intro exact
    exact ⟨.start info, ⟨0, stops 0⟩, exact⟩

/-- `CheckTable` repairs exactly the differences if every row but the last one
matches its declaration, no row is made up for an empty result, and no column is
missing, or `colum` counts as the word for an added one. -/
theorem repairs_exactly_iff (keyword : String) (emptyData : Bool)
    (names : (rows.map Column.name).Nodup)
    (declares : ∀ row ∈ rows, ∃ field ∈ info.fields, field.sName = row.name) :
    RepairsExactly info rows keyword emptyData ↔
      Matching info rows.dropLast ∧ (rows = [] → emptyData = false) ∧
      (keyword = "colum" ∨ ∀ field ∈ info.fields, field.sName ∈ rows.map Column.name) := by
  by_cases filled : rows = []
  · subst filled
    cases emptyData with
    | false => simpa [Matching] using no_rows info keyword
    | true => simpa using made_up_row info keyword
  have scanned : RepairsExactly info rows keyword emptyData ↔
      ∃ scan, scanRows info rows (.start info) = some scan ∧
        (concluded info scan).Perm (repairs info rows keyword) := by
    rw [repairsExactly_iff]
    simp only [checkLoop_iff info emptyData rows filled]
  rw [scanned]
  rcases rows_cases info rows with
    matching | ⟨before, field, type, after, rfl, matching, member, wrong⟩ |
    ⟨before, row, after, rfl, matching, undeclared⟩
  · have ends := scanRows_matching info rows [] (.start info) matching
    rw [List.append_nil, scanRows] at ends
    have change : (struck rows (.start info)).mapChange.values = mistyped info rows := by
      rw [struck_change, mistyped_matching info rows matching]
      rfl
    have exact := concluded_perm_iff info rows keyword _ (struck_values info rows) change
    have shorter : Matching info rows.dropLast :=
      fun row reached => matching row (List.dropLast_subset rows reached)
    simp [ends, exact, shorter, filled]
  · obtain ⟨scan, ends, rest, change⟩ :=
      mismatch_ends info before after field type matching member wrong
    cases after with
    | nil =>
        rw [← mistyped_last info before field type matching member wrong] at change
        have exact := concluded_perm_iff info _ keyword scan rest change
        rw [List.dropLast_concat]
        simp only [ends, Option.some.injEq, exists_eq_left', exact, matching, true_and, filled,
          false_implies]
    | cons next after =>
        have known := declares next (by simp)
        have extra := unseen_added info keyword before after field type scan next names known rest
        have unmatched := dropLast_unmatched info before after field type next member wrong
        simp only [ends, Option.some.injEq, exists_eq_left', extra, unmatched, false_and]
  · obtain ⟨field, member, same⟩ := declares row (by simp)
    exact absurd same (undeclared field member)

end Repairs

/-! The table of the relationships, as two servers describe it. -/
section Sample

/-- The last column has an older type. -/
def olderRows : List Column :=
  [⟨"f_id", "bigint(20)"⟩, ⟨"f_user_id1", "bigint(20)"⟩, ⟨"f_user_id2", "bigint(20)"⟩,
    ⟨"f_remark", "varchar(64)"⟩, ⟨"f_create_time", "datetime"⟩]

/-- A server that shows no width for its integer types. -/
def bareRows : List Column :=
  [⟨"f_id", "bigint"⟩, ⟨"f_user_id1", "bigint"⟩, ⟨"f_user_id2", "bigint"⟩,
    ⟨"f_remark", "varchar(64)"⟩, ⟨"f_create_time", "timestamp"⟩]

theorem repairs_exactly_iff_older : RepairsExactly relationshipInfo olderRows "column" true := by
  have names : (olderRows.map Column.name).Nodup := by decide +kernel
  have declares : ∀ row ∈ olderRows, ∃ field ∈ relationshipInfo.fields, field.sName = row.name := by
    decide +kernel
  have matching : Matching relationshipInfo olderRows.dropLast := by
    unfold Matching
    decide +kernel
  have all : ∀ field ∈ relationshipInfo.fields, field.sName ∈ olderRows.map Column.name := by
    decide +kernel
  exact (repairs_exactly_iff relationshipInfo olderRows "column" true names declares).mpr
    ⟨matching, fun empty => absurd empty (List.cons_ne_nil _ _), Or.inr all⟩

theorem bare_types_added_again :
    (bareRows.map Column.name).Nodup ∧
    (∀ row ∈ bareRows, ∃ field ∈ relationshipInfo.fields, field.sName = row.name) ∧
    ∀ keyword, ¬ RepairsExactly relationshipInfo bareRows keyword true := by
  have names : (bareRows.map Column.name).Nodup := by decide +kernel
  have declares : ∀ row ∈ bareRows, ∃ field ∈ relationshipInfo.fields, field.sName = row.name := by
    decide +kernel
  have first : ∃ field ∈ relationshipInfo.fields, field.sName = "f_id" ∧ "bigint" ≠ field.sDesc := by
    decide +kernel
  refine ⟨names, declares, ?_⟩
  intro keyword exact
  obtain ⟨field, member, name, wrong⟩ := first
  obtain ⟨scan, ended, same⟩ := (repairsExactly_iff _ _ keyword true).mp exact
  have split : bareRows = [] ++ ⟨field.sName, "bigint"⟩ :: bareRows.tail := by
    rw [name]
    rfl
  have filled : bareRows ≠ [] := List.cons_ne_nil _ _
  rw [checkLoop_iff _ _ _ filled, split, scan_mismatch relationshipInfo [] _ field
    "bigint" (by simp [Matching]) member wrong] at ended
  obtain rfl := Option.some.inj ended
  rw [split] at names same
  exact unseen_added relationshipInfo keyword [] _ field "bigint" _ _ names
    (declares ⟨"f_user_id1", "bigint"⟩ (by simp [bareRows]))
    (struck_mismatch relationshipInfo [] field "bigint") same

end Sample

end EdoyumIM.ColumnRepairs
