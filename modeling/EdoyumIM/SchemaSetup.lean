import EdoyumIM.TableSchema

/-!
`MySqlManager::Init`. The database server keeps the columns of its tables as
`desc` lists them. Every statement may be refused, and a refused one changes
nothing; how it is answered may depend on how often it was made before. A
column clause is only SQL with the keyword `column`, so `add colum` is refused
by every server. The calls on a missing `m_mysql` and the logging are left out.
-/

namespace EdoyumIM.SchemaSetup

open OrderedStore TableSchema

structure Column where
  name : String
  type : String
  deriving DecidableEq, Repr

structure Table where
  columns : List Column
  nonempty : columns ≠ []

def declared (field : FieldInfo) : Column := ⟨field.sName, field.sDesc⟩

/-! The server. -/
section Server

inductive Statement where
  | showDatabases
  | createDatabase (name : String)
  | desc (table : String)
  | createTable (table : String) (fields : List FieldInfo) (sKey : String)
  | alterTable (table verb keyword : String) (field : FieldInfo)
  deriving DecidableEq

/-- A statement may be answered at once or behind a reconnect of MySQLTool, which
is the only case in which the number of affected rows is reported. -/
inductive Answer where
  | refused
  | first
  | second (nAffectedCount : UInt32)
  deriving DecidableEq

structure Server where
  databases : List String
  tables : String → Option Table
  answers : Statement → Nat → Answer
  issued : List Statement := []

namespace Server

def withTable (name : String) (table : Table) (server : Server) : Server :=
  { server with tables := fun other => if other = name then some table else server.tables other }

def modifyType (field : FieldInfo) (table : Table) : Table where
  columns := table.columns.map fun column =>
    if column.name = field.sName then { column with type := field.sDesc } else column
  nonempty := by simpa using table.nonempty

def addColumn (field : FieldInfo) (table : Table) : Table :=
  ⟨table.columns ++ [declared field], by simp⟩

/-- What a statement does that the server carries out; `none` is an error. -/
def apply (server : Server) : Statement → Option Server
  | .showDatabases => some server
  | .createDatabase name =>
      if name ∈ server.databases then none
      else some { server with databases := server.databases ++ [name] }
  | .desc table => (server.tables table).map fun _ => server
  | .createTable table fields _ =>
      match server.tables table with
      | some _ => some server
      | none =>
          if filled : fields.map declared ≠ [] then
            some (server.withTable table ⟨fields.map declared, filled⟩)
          else none
  | .alterTable name verb keyword field =>
      match server.tables name with
      | none => none
      | some table =>
          if keyword ≠ "column" then none
          else if verb = "modify" then
            if field.sName ∈ table.columns.map Column.name then
              some (server.withTable name (modifyType field table))
            else none
          else if verb = "add" then
            if field.sName ∈ table.columns.map Column.name then none
            else some (server.withTable name (addColumn field table))
          else none

/-- How the next issue of a statement is answered. -/
def answer (server : Server) (statement : Statement) : Answer :=
  server.answers statement (server.issued.count statement)

def record (statement : Statement) (server : Server) : Server :=
  { server with issued := server.issued ++ [statement] }

def excute (statement : Statement) (server : Server) : Answer × Server :=
  match server.answer statement, server.apply statement with
  | .refused, _ => (.refused, server.record statement)
  | _, none => (.refused, server.record statement)
  | answer, some changed => (answer, changed.record statement)

end Server

end Server

/-! The start-up. A result of `none` is a call that does not return. -/
section Setup

/-- `CreateTable`. -/
def createTable (info : TableInfo) (server : Server) : Bool × Server :=
  if info.fields = [] then (false, server)
  else
    let (answer, after) := server.excute (.createTable info.sName info.fields info.sKey)
    (answer ≠ .refused, after)

structure Scan where
  rest : OrderedMap String FieldInfo
  mapChange : OrderedMap String FieldInfo

def Scan.start (info : TableInfo) : Scan := ⟨info.mapField, OrderedMap.empty⟩

/-- What the loop does with the current row: go on with the next one, stop, or,
for a column that is not declared, `continue` with the same row. -/
inductive Move where
  | next (scan : Scan)
  | stop (scan : Scan)
  | again

def visit (info : TableInfo) (scan : Scan) (row : Column) : Move :=
  match info.mapField.find? row.name with
  | none => .again
  | some field =>
      let seen := { scan with rest := scan.rest.erase row.name }
      if field.sDesc ≠ row.type then
        .stop { seen with mapChange := seen.mapChange.insert row.name field }
      else .next seen

/-- The loop over the rows of `desc`, for a number of rounds. -/
def rowLoop (info : TableInfo) : Nat → List Column → Scan → Option Scan
  | 0, _, _ => none
  | _ + 1, [], scan => some scan
  | rounds + 1, row :: more, scan =>
      match visit info scan row with
      | .again => rowLoop info rounds (row :: more) scan
      | .stop last => some last
      | .next seen => rowLoop info rounds more seen

/-- The loop as it ends, if it does. -/
def scanRows (info : TableInfo) : List Column → Scan → Option Scan
  | [], scan => some scan
  | row :: more, scan =>
      match visit info scan row with
      | .again => none
      | .stop last => some last
      | .next seen => scanRows info more seen

/-- The loops over `rest` and `mapChange`, up to the first refusal. -/
def alterColumns (table verb keyword : String) : List FieldInfo → Server → Bool × Server
  | [], server => (true, server)
  | field :: rest, server =>
      match server.excute (.alterTable table verb keyword field) with
      | (.refused, refused) => (false, refused)
      | (_, altered) => alterColumns table verb keyword rest altered

/-- `CheckTable`. -/
def checkTable (info : TableInfo) (server : Server) : Option (Bool × Server) :=
  match server.excute (.desc info.sName) with
  | (.refused, asked) => some (createTable info asked)
  | (_, asked) =>
      match scanRows info (((server.tables info.sName).map Table.columns).getD []) (.start info) with
      | none => none
      | some scan =>
          match alterColumns info.sName "add" "colum" scan.rest.values asked with
          | (false, added) => some (false, added)
          | (true, added) =>
              some (alterColumns info.sName "modify" "column" scan.mapChange.values added)

/-- The body of the loop of `Init` over `m_mapTable`. -/
def setUpTable (info : TableInfo) (server : Server) : Option (Bool × Server) :=
  match checkTable info server with
  | none => none
  | some (true, checked) => some (true, checked)
  | some (false, checked) => some (createTable info checked)

def setUpTables : List TableInfo → Server → Option (Bool × Server)
  | [], server => some (true, server)
  | info :: rest, server =>
      match setUpTable info server with
      | none => none
      | some (false, failed) => some (false, failed)
      | some (true, ready) => setUpTables rest ready

/-- `CheckDatabase`. -/
def checkDatabase (dbname : String) (server : Server) : Bool × Server :=
  match server.excute .showDatabases with
  | (.refused, asked) => (false, asked)
  | (_, asked) => (dbname ∈ asked.databases, asked)

/-- `CreateDatabase`; `naffect` stays zero unless `Execute` reports a number. -/
def createDatabase (dbname : String) (server : Server) : Bool × Server :=
  match server.excute (.createDatabase dbname) with
  | (.refused, asked) => (false, asked)
  | (.first, asked) => (false, asked)
  | (.second naffect, asked) => (naffect = 1, asked)

/-- `MySqlManager::Init`. -/
def init (schema : Schema) (connects : Bool) (dbname : String) (server : Server) :
    Option (Bool × Server) :=
  if connects then
    match checkDatabase dbname server with
    | (true, checked) => setUpTables schema.tables.values checked
    | (false, checked) =>
        match createDatabase dbname checked with
        | (false, created) => some (false, created)
        | (true, created) => setUpTables schema.tables.values created
  else some (false, server)

end Setup

/-! The loop over the rows that `desc` returns. -/
section Rows

/-- The loop returns exactly if it comes to no undeclared column. -/
theorem rowLoop_iff (info : TableInfo) (rows : List Column) (scan last : Scan) :
    (∃ rounds, rowLoop info rounds rows scan = some last) ↔ scanRows info rows scan = some last := by
  constructor
  · rintro ⟨rounds, ended⟩
    induction rounds generalizing rows scan with
    | zero => cases ended
    | succ rounds ih =>
        cases rows with
        | nil => exact ended
        | cons row more =>
            rw [rowLoop] at ended
            rw [scanRows]
            cases move : visit info scan row with
            | again =>
                rw [move] at ended
                -- the same row in the same state again
                have same := ih (row :: more) scan ended
                rw [scanRows, move] at same
                exact same
            | stop seen => rwa [move] at ended
            | next seen =>
                rw [move] at ended
                exact ih more seen ended
  · intro ended
    induction rows generalizing scan with
    | nil => exact ⟨1, ended⟩
    | cons row more ih =>
        rw [scanRows] at ended
        cases move : visit info scan row with
        | again => simp [move] at ended
        | stop seen =>
            rw [move] at ended
            exact ⟨1, by rw [rowLoop, move]; exact ended⟩
        | next seen =>
            rw [move] at ended
            obtain ⟨rounds, later⟩ := ih seen ended
            exact ⟨rounds + 1, by rw [rowLoop, move]; exact later⟩

def Matching (info : TableInfo) (rows : List Column) : Prop :=
  ∀ row ∈ rows, ∃ field ∈ info.fields, row = declared field

theorem visit_matching (info : TableInfo) (scan : Scan) (field : FieldInfo)
    (member : field ∈ info.fields) :
    visit info scan (declared field) = .next { scan with rest := scan.rest.erase field.sName } := by
  have found := (find?_field info field.sName field).mpr ⟨member, rfl⟩
  simp [visit, declared, found]

theorem visit_other (info : TableInfo) (scan : Scan) (field : FieldInfo) (type : String)
    (member : field ∈ info.fields) (other : type ≠ field.sDesc) :
    visit info scan ⟨field.sName, type⟩ =
      .stop ⟨scan.rest.erase field.sName, scan.mapChange.insert field.sName field⟩ := by
  have found := (find?_field info field.sName field).mpr ⟨member, rfl⟩
  simp [visit, found, other.symm]

theorem visit_undeclared (info : TableInfo) (scan : Scan) (row : Column)
    (absent : ∀ field ∈ info.fields, field.sName ≠ row.name) : visit info scan row = .again := by
  have missing : info.mapField.find? row.name = none := by
    apply Option.eq_none_iff_forall_ne_some.mpr
    intro field found
    obtain ⟨member, same⟩ := (find?_field info row.name field).mp found
    exact absent field member same
  simp only [visit, missing]

/-- The state behind rows that all match: their names are struck from `rest`. -/
def struck (rows : List Column) (scan : Scan) : Scan :=
  rows.foldl (fun seen row => { seen with rest := seen.rest.erase row.name }) scan

theorem scanRows_matching (info : TableInfo) (before rows : List Column) (scan : Scan)
    (matching : Matching info before) :
    scanRows info (before ++ rows) scan = scanRows info rows (struck before scan) := by
  induction before generalizing scan with
  | nil => rfl
  | cons row more ih =>
      obtain ⟨field, member, rfl⟩ := matching row List.mem_cons_self
      rw [List.cons_append, scanRows, visit_matching info scan field member]
      exact ih _ fun other inside => matching other (List.mem_cons_of_mem _ inside)

theorem struck_change (rows : List Column) (scan : Scan) :
    (struck rows scan).mapChange = scan.mapChange := by
  induction rows generalizing scan with
  | nil => rfl
  | cons row more ih => exact ih _

theorem struck_rest (rows : List Column) (scan : Scan) (name : String) (field : FieldInfo) :
    (struck rows scan).rest.find? name = some field ↔
      scan.rest.find? name = some field ∧ name ∉ rows.map Column.name := by
  induction rows generalizing scan with
  | nil => simp [struck]
  | cons row more ih =>
      rw [struck, List.foldl_cons, ← struck, ih, OrderedMap.find?_erase]
      by_cases here : name = row.name
      · simp [here]
      · simp [here]

/-- Either all rows match, or some row is the first that does not. -/
theorem rows_cases (info : TableInfo) (rows : List Column) :
    Matching info rows ∨
    (∃ before field type after, rows = before ++ ⟨field.sName, type⟩ :: after ∧
      Matching info before ∧ field ∈ info.fields ∧ type ≠ field.sDesc) ∨
    ∃ before row after, rows = before ++ row :: after ∧ Matching info before ∧
      ∀ field ∈ info.fields, field.sName ≠ row.name := by
  induction rows with
  | nil => exact Or.inl fun row member => absurd member List.not_mem_nil
  | cons row more ih =>
      by_cases known : ∃ field ∈ info.fields, field.sName = row.name
      · obtain ⟨field, member, same⟩ := known
        by_cases right : row.type = field.sDesc
        · have fits : row = declared field := by
            rw [declared, same, ← right]
          have extend : ∀ before, Matching info before → Matching info (row :: before) := by
            intro before matching
            exact List.forall_mem_cons.mpr ⟨⟨field, member, fits⟩, matching⟩
          rcases ih with all | ⟨before, other, type, after, split, matching, inside, wrong⟩ |
            ⟨before, other, after, split, matching, absent⟩
          · exact Or.inl (extend more all)
          · exact Or.inr (Or.inl ⟨row :: before, other, type, after, by rw [split]; rfl,
              extend before matching, inside, wrong⟩)
          · exact Or.inr (Or.inr ⟨row :: before, other, after, by rw [split]; rfl,
              extend before matching, absent⟩)
        · refine Or.inr (Or.inl ⟨[], field, row.type, more, ?_, ?_, member, right⟩)
          · rw [same]
            rfl
          · exact fun other inside => absurd inside List.not_mem_nil
      · exact Or.inr (Or.inr ⟨[], row, more, rfl,
          fun other inside => absurd inside List.not_mem_nil,
          fun field member same => known ⟨field, member, same⟩⟩)

theorem values_nil_iff (map : OrderedMap String FieldInfo) :
    map.values = [] ↔ ∀ name field, map.find? name ≠ some field := by
  rw [OrderedMap.values, List.map_eq_nil_iff, List.eq_nil_iff_forall_not_mem]
  constructor
  · intro none name field found
    exact none _ ((OrderedMap.find?_iff name map field).mp found)
  · intro never entry member
    exact never entry.1 entry.2 ((OrderedMap.find?_iff entry.1 map entry.2).mpr member)

/-- Every declared column is there with its type. -/
def Complete (info : TableInfo) (table : Table) : Prop :=
  ∀ field ∈ info.fields, declared field ∈ table.columns

/-- One declared column has another type, and all others stand in front of it. -/
def OneOff (info : TableInfo) (table : Table) (field : FieldInfo) : Prop :=
  field ∈ info.fields ∧ ∃ before type after,
    table.columns = before ++ ⟨field.sName, type⟩ :: after ∧ Matching info before ∧
    type ≠ field.sDesc ∧ ∀ other ∈ info.fields, other ≠ field → declared other ∈ before

theorem start_rest (info : TableInfo) (rows : List Column) (name : String) (field : FieldInfo) :
    (struck rows (.start info)).rest.find? name = some field ↔
      (field ∈ info.fields ∧ field.sName = name) ∧ name ∉ rows.map Column.name := by
  rw [struck_rest, Scan.start, find?_field]

theorem matching_mem (info : TableInfo) (rows : List Column) (matching : Matching info rows)
    (field : FieldInfo) (member : field ∈ info.fields)
    (named : field.sName ∈ rows.map Column.name) : declared field ∈ rows := by
  obtain ⟨row, inside, same⟩ := List.mem_map.mp named
  obtain ⟨other, known, rfl⟩ := matching row inside
  rwa [field_unique info field other member known same.symm]

theorem scan_mismatch (info : TableInfo) (before after : List Column) (field : FieldInfo)
    (type : String) (matching : Matching info before) (member : field ∈ info.fields)
    (wrong : type ≠ field.sDesc) :
    scanRows info (before ++ ⟨field.sName, type⟩ :: after) (.start info) =
      some ⟨(struck before (.start info)).rest.erase field.sName,
        OrderedMap.empty.insert field.sName field⟩ := by
  rw [scanRows_matching info before _ _ matching, scanRows,
    visit_other info _ field type member wrong, struck_change]
  rfl

/-- Behind a first mismatch nothing is left to be added exactly if every other
column stands in front of it. -/
theorem mismatch_rest (info : TableInfo) (before : List Column) (field : FieldInfo)
    (matching : Matching info before) :
    ((struck before (.start info)).rest.erase field.sName).values = [] ↔
      ∀ other ∈ info.fields, other.sName ≠ field.sName → declared other ∈ before := by
  rw [values_nil_iff]
  constructor
  · intro none other member different
    by_contra absent
    apply none other.sName other
    rw [OrderedMap.find?_erase, if_neg different, start_rest]
    exact ⟨⟨member, rfl⟩, fun named => absent (matching_mem info before matching other member named)⟩
  · intro present name other found
    rw [OrderedMap.find?_erase] at found
    split_ifs at found with same
    rw [start_rest] at found
    obtain ⟨⟨member, rfl⟩, absent⟩ := found
    exact absent (List.mem_map.mpr ⟨_, present other member same, rfl⟩)

theorem oneOff_scan (info : TableInfo) (table : Table) (field : FieldInfo)
    (off : OneOff info table field) :
    ∃ scan, scanRows info table.columns (.start info) = some scan ∧ scan.rest.values = [] ∧
      scan.mapChange.values = [field] := by
  obtain ⟨member, before, type, after, split, matching, wrong, others⟩ := off
  refine ⟨_, split ▸ scan_mismatch info before after field type matching member wrong, ?_, rfl⟩
  apply (mismatch_rest info before field matching).mpr
  intro other inside different
  exact others other inside fun same => different (same ▸ rfl)

/-- What a loop that ended tells about the table. -/
theorem scan_cases (info : TableInfo) (table : Table) (scan : Scan)
    (ended : scanRows info table.columns (.start info) = some scan) :
    (Complete info table ∧ scan.rest.values = [] ∧ scan.mapChange.values = []) ∨
    (∃ field, OneOff info table field ∧ scan.rest.values = [] ∧ scan.mapChange.values = [field]) ∨
    scan.rest.values ≠ [] := by
  by_cases filled : scan.rest.values = []
  swap
  · exact Or.inr (Or.inr filled)
  rcases rows_cases info table.columns with
    matching | ⟨before, field, type, after, split, matching, member, wrong⟩ |
    ⟨before, row, after, split, matching, absent⟩
  · have all := scanRows_matching info table.columns [] (.start info) matching
    rw [List.append_nil, ended] at all
    obtain rfl := Option.some.inj all
    refine Or.inl ⟨?_, filled, by rw [struck_change]; rfl⟩
    intro field member
    by_contra absent
    apply (values_nil_iff _).mp filled field.sName field
    rw [start_rest]
    exact ⟨⟨member, rfl⟩,
      fun named => absent (matching_mem info table.columns matching field member named)⟩
  · have first := scan_mismatch info before after field type matching member wrong
    rw [← split, ended] at first
    obtain rfl := Option.some.inj first
    refine Or.inr (Or.inl ⟨field, ⟨member, before, type, after, split, matching, wrong, ?_⟩,
      filled, rfl⟩)
    intro other inside different
    apply (mismatch_rest info before field matching).mp filled other inside
    exact fun same => different (field_unique info other field inside member same)
  · rw [split, scanRows_matching info before _ _ matching, scanRows,
      visit_undeclared info _ row absent] at ended
    cases ended

end Rows

/-! What the statements about one table leave alone. -/
section Frames

def Statement.table : Statement → Option String
  | .showDatabases | .createDatabase _ => none
  | .desc table | .createTable table _ _ | .alterTable table _ _ _ => some table

/-- Only statements about one table were made, and only that table changed. -/
structure About (name : String) (before after : Server) : Prop where
  answers : after.answers = before.answers
  others : ∀ other, other ≠ name → after.tables other = before.tables other
  log : ∃ made, after.issued = before.issued ++ made ∧
    ∀ statement ∈ made, statement.table = some name

theorem about_trans {name : String} {before middle after : Server}
    (first : About name before middle) (second : About name middle after) :
    About name before after where
  answers := second.answers.trans first.answers
  others other different := (second.others other different).trans (first.others other different)
  log := by
    obtain ⟨made, issued, one⟩ := first.log
    obtain ⟨more, longer, two⟩ := second.log
    exact ⟨made ++ more, by rw [longer, issued, List.append_assoc],
      List.forall_mem_append.mpr ⟨one, two⟩⟩

theorem about_refl (name : String) (server : Server) : About name server server where
  answers := rfl
  others _ _ := rfl
  log := ⟨[], (List.append_nil _).symm, by simp⟩

theorem excute_cases (server : Server) (statement : Statement) :
    server.excute statement = (.refused, server.record statement) ∨
    ∃ changed, server.answer statement ≠ .refused ∧ server.apply statement = some changed ∧
      server.excute statement = (server.answer statement, changed.record statement) := by
  rw [Server.excute]
  cases answer : server.answer statement with
  | refused => exact Or.inl rfl
  | first =>
      cases applied : server.apply statement with
      | none => exact Or.inl rfl
      | some changed => exact Or.inr ⟨changed, by simp, rfl, rfl⟩
  | second naffect =>
      cases applied : server.apply statement with
      | none => exact Or.inl rfl
      | some changed => exact Or.inr ⟨changed, by simp, rfl, rfl⟩

theorem apply_about (server changed : Server) (statement : Statement) (name : String)
    (here : statement.table = some name) (applied : server.apply statement = some changed) :
    changed.answers = server.answers ∧ changed.issued = server.issued ∧
      ∀ other, other ≠ name → changed.tables other = server.tables other := by
  cases statement with
  | showDatabases => cases here
  | createDatabase database => cases here
  | desc table =>
      obtain ⟨-, -, rfl⟩ := Option.map_eq_some_iff.mp applied
      exact ⟨rfl, rfl, fun _ _ => rfl⟩
  | createTable table fields sKey =>
      obtain rfl : table = name := Option.some.inj here
      simp only [Server.apply] at applied
      split at applied
      · obtain rfl := Option.some.inj applied
        exact ⟨rfl, rfl, fun _ _ => rfl⟩
      · split_ifs at applied
        obtain rfl := Option.some.inj applied
        exact ⟨rfl, rfl, fun other different => if_neg different⟩
  | alterTable table verb keyword field =>
      obtain rfl : table = name := Option.some.inj here
      simp only [Server.apply] at applied
      split at applied
      · cases applied
      · split_ifs at applied
        all_goals
          obtain rfl := Option.some.inj applied
          exact ⟨rfl, rfl, fun other different => if_neg different⟩

theorem excute_about (server : Server) (statement : Statement) (name : String)
    (here : statement.table = some name) : About name server (server.excute statement).2 := by
  rcases excute_cases server statement with refused | ⟨changed, -, applied, done⟩
  · rw [refused]
    exact ⟨rfl, fun _ _ => rfl, [statement], rfl, by simpa using here⟩
  · obtain ⟨answers, issued, others⟩ := apply_about server changed statement name here applied
    rw [done]
    exact ⟨answers, others, [statement], by rw [← issued]; rfl, by simpa using here⟩

theorem createTable_about (info : TableInfo) (server : Server) :
    About info.sName server (createTable info server).2 := by
  rw [createTable]
  split_ifs
  · exact about_refl info.sName server
  · exact excute_about server _ info.sName rfl

theorem alterColumns_nil (table verb keyword : String) (server : Server) :
    alterColumns table verb keyword [] server = (true, server) := rfl

theorem alterColumns_about (table verb keyword : String) (fields : List FieldInfo)
    (server : Server) : About table server (alterColumns table verb keyword fields server).2 := by
  induction fields generalizing server with
  | nil => exact about_refl table server
  | cons field rest ih =>
      have head := excute_about server (.alterTable table verb keyword field) table rfl
      rw [alterColumns]
      split
      · next refused same => rwa [same] at head
      · next answer altered _ same =>
        rw [same] at head
        exact about_trans head (ih altered)

theorem checkTable_about (info : TableInfo) (server after : Server) (result : Bool)
    (checked : checkTable info server = some (result, after)) : About info.sName server after := by
  have asks := excute_about server (.desc info.sName) info.sName rfl
  rw [checkTable] at checked
  split at checked
  · next asked same =>
    rw [same] at asks
    obtain rfl := (Prod.mk.inj (Option.some.inj checked)).2
    exact about_trans asks (createTable_about info asked)
  · next answer asked _ same =>
    rw [same] at asks
    split at checked
    · cases checked
    · next scan ended =>
      have adds := alterColumns_about info.sName "add" "colum" scan.rest.values asked
      split at checked
      · next added failed =>
        rw [failed] at adds
        obtain ⟨-, rfl⟩ := Prod.mk.inj (Option.some.inj checked)
        exact about_trans asks adds
      · next added done =>
        rw [done] at adds
        obtain rfl := (Prod.mk.inj (Option.some.inj checked)).2
        exact about_trans asks (about_trans adds (alterColumns_about info.sName "modify" "column"
          scan.mapChange.values added))

theorem setUpTable_about (info : TableInfo) (server after : Server) (result : Bool)
    (done : setUpTable info server = some (result, after)) : About info.sName server after := by
  rw [setUpTable] at done
  split at done
  · cases done
  · next checked same =>
    obtain ⟨rfl, rfl⟩ := Prod.mk.inj (Option.some.inj done)
    exact checkTable_about info server checked _ same
  · next checked same =>
    obtain rfl := (Prod.mk.inj (Option.some.inj done)).2
    exact about_trans (checkTable_about info server checked false same)
      (createTable_about info checked)

end Frames

/-! One table. -/
section OneTable

variable (info : TableInfo)

def Ready (server : Server) : Prop :=
  ∃ table, server.tables info.sName = some table ∧ Complete info table

/-- What has to be true before the start-up for a table to be ready behind it: it
is missing, or complete, or it is one type off, is described, and the server
carries the change out. -/
def Settled (server : Server) : Prop :=
  ∀ table, server.tables info.sName = some table →
    Complete info table ∨
      (server.answers (.desc info.sName) 0 ≠ .refused ∧ ∃ field, OneOff info table field ∧
        server.answers (.alterTable info.sName "modify" "column" field) 0 ≠ .refused)

theorem ready_iff (server : Server) (table : Table)
    (present : server.tables info.sName = some table) : Ready info server ↔ Complete info table := by
  constructor
  · rintro ⟨other, found, complete⟩
    rw [present] at found
    exact Option.some.inj found ▸ complete
  · exact fun complete => ⟨table, present, complete⟩

theorem createTable_tables (server : Server) :
    (server.tables info.sName = none ∧ Ready info (createTable info server).2) ∨
    ((server.tables info.sName = none → (createTable info server).1 = false) ∧
      (createTable info server).2.tables = server.tables) := by
  rw [createTable]
  split_ifs with blank
  · exact Or.inr ⟨fun _ => rfl, rfl⟩
  · rcases excute_cases server (.createTable info.sName info.fields info.sKey) with
      refused | ⟨changed, -, applied, done⟩
    · exact Or.inr (by rw [refused]; exact ⟨fun _ => rfl, rfl⟩)
    · rw [done]
      simp only [Server.apply] at applied
      split at applied
      · next table present =>
        obtain rfl := Option.some.inj applied
        exact Or.inr ⟨fun absent => absurd (present.symm.trans absent) (by simp), rfl⟩
      · next absent =>
        split_ifs at applied with filled
        obtain rfl := Option.some.inj applied
        refine Or.inl ⟨absent, _, if_pos rfl, ?_⟩
        intro field member
        exact List.mem_map.mpr ⟨field, member, rfl⟩

theorem createTable_present (server : Server) (table : Table)
    (present : server.tables info.sName = some table) :
    (createTable info server).2.tables info.sName = some table := by
  rcases createTable_tables info server with ⟨absent, -⟩ | ⟨-, same⟩
  · rw [present] at absent
    cases absent
  · rwa [same]

theorem colum_refused (fields : List FieldInfo) (server : Server) (some_ : fields ≠ []) :
    (alterColumns info.sName "add" "colum" fields server).1 = false ∧
      (alterColumns info.sName "add" "colum" fields server).2.tables = server.tables := by
  cases fields with
  | nil => exact absurd rfl some_
  | cons field rest =>
      rcases excute_cases server (.alterTable info.sName "add" "colum" field) with
        refused | ⟨changed, -, applied, -⟩
      · rw [alterColumns, refused]
        exact ⟨rfl, rfl⟩
      · simp only [Server.apply] at applied
        split at applied
        · cases applied
        · simp at applied

theorem repaired (table : Table) (field : FieldInfo) (off : OneOff info table field) :
    Complete info (Server.modifyType field table) := by
  obtain ⟨member, before, type, after, split, -, -, others⟩ := off
  intro other inside
  by_cases same : other = field
  · subst same
    exact List.mem_map.mpr ⟨⟨other.sName, type⟩, by simp [split], by simp [declared]⟩
  · have different : (declared other).name ≠ field.sName := fun named =>
      same (field_unique info other field inside member named)
    have present : declared other ∈ table.columns :=
      split ▸ List.mem_append_left _ (others other inside same)
    exact List.mem_map.mpr ⟨declared other, present, if_neg different⟩

theorem modify_answered (server : Server) (table : Table) (field : FieldInfo)
    (present : server.tables info.sName = some table) (off : OneOff info table field) :
    server.apply (.alterTable info.sName "modify" "column" field) =
      some (server.withTable info.sName (Server.modifyType field table)) := by
  have named : field.sName ∈ table.columns.map Column.name := by
    obtain ⟨-, before, type, after, split, -⟩ := off
    simp [split]
  simp [Server.apply, present, named]

theorem answer_unissued (server : Server) (statement : Statement)
    (fresh : statement ∉ server.issued) :
    server.answer statement = server.answers statement 0 := by
  rw [Server.answer, List.count_eq_zero.mpr fresh]

/-- A table that is there behind the check stays as it is: a CREATE TABLE that
follows a failed check does not change it. -/
theorem setUp_after (server checked after : Server) (result : Bool) (table : Table)
    (check : checkTable info server = some (result, checked))
    (there : checked.tables info.sName = some table)
    (done : setUpTable info server = some (true, after)) : after.tables info.sName = some table := by
  rw [setUpTable, check] at done
  cases result with
  | true =>
      obtain ⟨-, rfl⟩ := Prod.mk.inj (Option.some.inj done)
      exact there
  | false =>
      obtain rfl := congrArg Prod.snd (Option.some.inj done)
      exact createTable_present info checked table there

theorem setUp_absent (server after : Server) (absent : server.tables info.sName = none)
    (done : setUpTable info server = some (true, after)) : Ready info after := by
  have asked : server.excute (.desc info.sName) = (.refused, server.record (.desc info.sName)) := by
    rcases excute_cases server (.desc info.sName) with refused | ⟨changed, -, applied, -⟩
    · exact refused
    · simp [Server.apply, absent] at applied
  have checked : checkTable info server =
      some (createTable info (server.record (.desc info.sName))) := by
    rw [checkTable, asked]
  have first := createTable_tables info (server.record (.desc info.sName))
  rw [setUpTable, checked] at done
  split at done
  · next none => cases none
  · next last made =>
    obtain rfl := (Prod.mk.inj (Option.some.inj done)).2
    rw [Option.some.inj made] at first
    rcases first with ⟨-, ready⟩ | ⟨failed, -⟩
    · exact ready
    · cases failed absent
  · next last made =>
    rw [Option.some.inj made] at first
    rcases first with ⟨-, ready⟩ | ⟨-, same⟩
    · obtain ⟨table, present, complete⟩ := ready
      obtain rfl := congrArg Prod.snd (Option.some.inj done)
      exact ⟨table, createTable_present info last table present, complete⟩
    · have still : last.tables info.sName = none := by rw [same]; exact absent
      rcases createTable_tables info last with ⟨-, ready⟩ | ⟨failed, -⟩
      · rwa [Option.some.inj done] at ready
      · have result := failed still
        rw [Option.some.inj done] at result
        cases result

theorem modify_excuted (server : Server) (table : Table) (field : FieldInfo)
    (present : server.tables info.sName = some table) (off : OneOff info table field) :
    let (modified, after) := alterColumns info.sName "modify" "column" [field] server
    (modified = false ∧ after.tables = server.tables ∧
      server.answer (.alterTable info.sName "modify" "column" field) = .refused) ∨
    (modified = true ∧ after.tables info.sName = some (Server.modifyType field table) ∧
      server.answer (.alterTable info.sName "modify" "column" field) ≠ .refused) := by
  have effect := modify_answered info server table field present off
  rw [alterColumns, Server.excute, effect]
  cases answer : server.answer (.alterTable info.sName "modify" "column" field) with
  | refused => exact Or.inl ⟨rfl, rfl, rfl⟩
  | first => exact Or.inr ⟨rfl, if_pos rfl, by simp⟩
  | second naffect => exact Or.inr ⟨rfl, if_pos rfl, by simp⟩

theorem checkTable_described (server asked : Server) (table : Table)
    (present : server.tables info.sName = some table) (answer : Answer)
    (answered : answer ≠ .refused) (described : server.excute (.desc info.sName) = (answer, asked)) :
    checkTable info server =
      match scanRows info table.columns (.start info) with
      | none => none
      | some scan =>
          match alterColumns info.sName "add" "colum" scan.rest.values asked with
          | (false, added) => some (false, added)
          | (true, added) =>
              some (alterColumns info.sName "modify" "column" scan.mapChange.values added) := by
  rw [checkTable, described, present]
  cases answer with
  | refused => exact absurd rfl answered
  | first => rfl
  | second naffect => rfl

theorem desc_excuted (server : Server) (table : Table)
    (present : server.tables info.sName = some table) :
    server.excute (.desc info.sName) =
      (server.answer (.desc info.sName), server.record (.desc info.sName)) := by
  have describes : server.apply (.desc info.sName) = some server := by
    simp [Server.apply, present]
  rw [Server.excute, describes]
  cases answer : server.answer (.desc info.sName) with
  | refused => rfl
  | first => rfl
  | second naffect => rfl

theorem ready_checked (server checked after : Server) (result : Bool) (table : Table)
    (check : checkTable info server = some (result, checked))
    (there : checked.tables info.sName = some table)
    (done : setUpTable info server = some (true, after)) :
    Ready info after ↔ Complete info table :=
  ready_iff info after table (setUp_after info server checked after result table check there done)

/-- The table is taken for missing. -/
theorem setUp_undescribed (server after : Server) (table : Table)
    (present : server.tables info.sName = some table)
    (silent : server.answer (.desc info.sName) = .refused)
    (done : setUpTable info server = some (true, after)) :
    Ready info after ↔ Complete info table := by
  have check : checkTable info server =
      some (createTable info (server.record (.desc info.sName))) := by
    rw [checkTable, desc_excuted info server table present, silent]
  have there := createTable_present info (server.record (.desc info.sName)) table present
  exact ready_checked info server _ after _ table check there done

theorem setUp_modified (server asked after : Server) (table : Table) (field : FieldInfo)
    (present : asked.tables info.sName = some table) (one : OneOff info table field)
    (check : checkTable info server =
      some (alterColumns info.sName "modify" "column" [field] asked))
    (done : setUpTable info server = some (true, after)) :
    Ready info after ↔ Complete info table ∨
      asked.answer (.alterTable info.sName "modify" "column" field) ≠ .refused := by
  have change := modify_excuted info asked table field present one
  generalize alterColumns info.sName "modify" "column" [field] asked = outcome at change check
  obtain ⟨result, checked⟩ := outcome
  rcases change with ⟨rfl, same, silent⟩ | ⟨rfl, changed, answered⟩
  · have there : checked.tables info.sName = some table := by rw [same]; exact present
    rw [ready_checked info server checked after false table check there done]
    simp [silent]
  · rw [ready_checked info server checked after true _ check changed done]
    exact iff_of_true (repaired info table field one) (Or.inr answered)

theorem setUp_present (server after : Server) (table : Table)
    (fresh : ∀ made ∈ server.issued, made.table ≠ some info.sName)
    (present : server.tables info.sName = some table)
    (done : setUpTable info server = some (true, after)) :
    Ready info after ↔ Complete info table ∨
      (server.answers (.desc info.sName) 0 ≠ .refused ∧ ∃ field, OneOff info table field ∧
        server.answers (.alterTable info.sName "modify" "column" field) 0 ≠ .refused) := by
  have first := answer_unissued server (.desc info.sName) fun made => fresh _ made rfl
  have asked := desc_excuted info server table present
  rw [← first]
  by_cases silent : server.answer (.desc info.sName) = .refused
  · rw [setUp_undescribed info server after table present silent done]
    simp [silent]
  have described := checkTable_described info server _ table present _ silent asked
  cases ended : scanRows info table.columns (.start info) with
  | none =>
      simp only [ended] at described
      rw [setUpTable, described] at done
      cases done
  | some scan =>
      simp only [ended] at described
      have off : ∀ field, OneOff info table field →
          scan.rest.values = [] ∧ scan.mapChange.values = [field] := by
        intro field off
        obtain ⟨other, same, filled, change⟩ := oneOff_scan info table field off
        obtain rfl := Option.some.inj (ended.symm.trans same)
        exact ⟨filled, change⟩
      rcases scan_cases info table scan ended with
        ⟨complete, filled, right⟩ | ⟨field, one, filled, change⟩ | missing
      · -- nothing to do
        simp only [filled, right, alterColumns_nil] at described
        rw [ready_checked info server _ after _ table described present done]
        simp [complete]
      · simp only [filled, change, alterColumns_nil] at described
        have unissued : Statement.alterTable info.sName "modify" "column" field ∉
            (server.record (.desc info.sName)).issued := by
          intro made
          rcases List.mem_append.mp made with old | new
          · exact fresh _ old rfl
          · simp at new
        -- no other column can be off
        have only (other : FieldInfo) (again : OneOff info table other) : other = field := by
          have both := (off other again).2
          rw [change] at both
          exact (List.cons.inj both).1.symm
        rw [setUp_modified info server (server.record (.desc info.sName)) after table field present
          one described done, answer_unissued _ _ unissued]
        constructor
        · rintro (complete | loud)
          · exact Or.inl complete
          · exact Or.inr ⟨silent, field, one, loud⟩
        · rintro (complete | ⟨-, other, again, loud⟩)
          · exact Or.inl complete
          · exact Or.inr (only other again ▸ loud)
      · -- the first clause is no SQL, whatever else would have to be done
        have fails := colum_refused info scan.rest.values (server.record (.desc info.sName)) missing
        generalize added : alterColumns info.sName "add" "colum" scan.rest.values
          (server.record (.desc info.sName)) = outcome at fails described
        obtain ⟨result, last⟩ := outcome
        obtain ⟨rfl, same⟩ := fails
        have there : last.tables info.sName = some table := by rw [same]; exact present
        rw [ready_checked info server last after false table described there done]
        constructor
        · exact Or.inl
        · rintro (complete | ⟨-, field, one, -⟩)
          · exact complete
          · exact absurd (off field one).1 missing

/-- A column that is not declared, in front of the first mismatch: the loop stays
at its row, and the start-up does not return. -/
theorem undeclared_never_returns (server : Server) (table : Table) (before after : List Column)
    (row : Column) (fresh : Statement.desc info.sName ∉ server.issued)
    (present : server.tables info.sName = some table)
    (answered : server.answers (.desc info.sName) 0 ≠ .refused)
    (split : table.columns = before ++ row :: after) (matching : Matching info before)
    (undeclared : ∀ field ∈ info.fields, field.sName ≠ row.name) :
    setUpTable info server = none ∧
      ∀ rounds, rowLoop info rounds table.columns (.start info) = none := by
  have stays : scanRows info table.columns (.start info) = none := by
    rw [split, scanRows_matching info before _ _ matching, scanRows,
      visit_undeclared info _ row undeclared]
  constructor
  · have first := answer_unissued server (.desc info.sName) fresh
    rcases excute_cases server (.desc info.sName) with refused | ⟨changed, loud, -, asked⟩
    · rw [Server.excute, first, Server.apply, present, Option.map_some] at refused
      cases answer : server.answers (.desc info.sName) 0 with
      | refused => exact absurd answer answered
      | first => simp [answer] at refused
      | second naffect => simp [answer] at refused
    · have described := checkTable_described info server _ table present _ loud asked
      simp only [stays] at described
      rw [setUpTable, described]
  · intro rounds
    apply Option.eq_none_iff_forall_ne_some.mpr
    intro last ended
    rw [(rowLoop_iff info table.columns _ last).mp ⟨rounds, ended⟩] at stays
    cases stays

theorem setUp_ready (server after : Server)
    (fresh : ∀ made ∈ server.issued, made.table ≠ some info.sName)
    (done : setUpTable info server = some (true, after)) :
    Ready info after ↔ Settled info server := by
  cases found : server.tables info.sName with
  | none =>
      have ready := setUp_absent info server after found done
      exact iff_of_true ready fun table present => by simp [found] at present
  | some table =>
      rw [setUp_present info server after table fresh found done, Settled, found]
      simp

end OneTable

/-! All tables. -/
section AllTables

theorem setUpTables_others (infos : List TableInfo) (server after : Server) (result : Bool)
    (done : setUpTables infos server = some (result, after)) (name : String)
    (absent : name ∉ infos.map TableInfo.sName) : after.tables name = server.tables name := by
  induction infos generalizing server with
  | nil =>
      obtain ⟨-, rfl⟩ := Prod.mk.inj (Option.some.inj done)
      rfl
  | cons info rest ih =>
      rw [List.map_cons, List.mem_cons, not_or] at absent
      rw [setUpTables] at done
      split at done
      · cases done
      · next failed same =>
        obtain ⟨-, rfl⟩ := Prod.mk.inj (Option.some.inj done)
        exact (setUpTable_about info server failed false same).others name absent.1
      · next ready same =>
        rw [ih ready done absent.2]
        exact (setUpTable_about info server ready true same).others name absent.1

/-- What a statement about one table leaves of the question for another. -/
theorem settled_about (info other : TableInfo) (before after : Server)
    (different : other.sName ≠ info.sName) (about : About info.sName before after) :
    Settled other after ↔ Settled other before := by
  rw [Settled, Settled, about.others other.sName different, about.answers]

theorem setUpTables_ready (infos : List TableInfo) (server after : Server)
    (names : (infos.map TableInfo.sName).Nodup)
    (fresh : ∀ info ∈ infos, ∀ made ∈ server.issued, made.table ≠ some info.sName)
    (done : setUpTables infos server = some (true, after)) :
    (∀ info ∈ infos, Ready info after) ↔ ∀ info ∈ infos, Settled info server := by
  induction infos generalizing server with
  | nil => simp
  | cons info rest ih =>
      rw [setUpTables] at done
      split at done
      · cases done
      · simp at done
      · next ready same =>
        have about := setUpTable_about info server ready true same
        have later : ∀ other ∈ rest, other.sName ≠ info.sName := by
          intro other member equal
          rw [List.map_cons, List.nodup_cons] at names
          exact names.1 (List.mem_map.mpr ⟨other, member, equal⟩)
        have unissued : ∀ other ∈ rest, ∀ made ∈ ready.issued, made.table ≠ some other.sName := by
          intro other member made issued named
          obtain ⟨log, longer, here⟩ := about.log
          rw [longer, List.mem_append] at issued
          rcases issued with old | new
          · exact fresh other (List.mem_cons_of_mem _ member) made old named
          · rw [here made new, Option.some.injEq] at named
            exact later other member named.symm
        rw [List.map_cons, List.nodup_cons] at names
        have tail := ih ready names.2 unissued done
        have head := setUp_ready info server ready (fresh info List.mem_cons_self) same
        have kept : Ready info after ↔ Ready info ready := by
          rw [Ready, Ready, setUpTables_others rest ready after true done info.sName names.1]
        rw [List.forall_mem_cons, List.forall_mem_cons, kept, head, tail]
        apply and_congr_right
        intro _
        apply forall₂_congr
        intro other member
        exact settled_about info other server ready (later other member) about

/-- No statement about a table was made, and no table changed. -/
structure Preliminary (before after : Server) : Prop where
  tables : after.tables = before.tables
  answers : after.answers = before.answers
  log : ∀ made ∈ after.issued, made.table = none

theorem excute_preliminary (before server : Server) (statement : Statement)
    (free : statement.table = none) (so_far : Preliminary before server) :
    Preliminary before (server.excute statement).2 := by
  have logged : ∀ made ∈ server.issued ++ [statement], made.table = none :=
    List.forall_mem_append.mpr ⟨so_far.log, by simpa using free⟩
  rcases excute_cases server statement with refused | ⟨changed, -, applied, done⟩
  · rw [refused]
    exact ⟨so_far.tables, so_far.answers, logged⟩
  · rw [done]
    cases statement with
    | showDatabases =>
        obtain rfl := Option.some.inj applied
        exact ⟨so_far.tables, so_far.answers, logged⟩
    | createDatabase name =>
        simp only [Server.apply] at applied
        split_ifs at applied
        obtain rfl := Option.some.inj applied
        exact ⟨so_far.tables, so_far.answers, logged⟩
    | desc table => cases free
    | createTable table fields sKey => cases free
    | alterTable table verb keyword field => cases free

theorem checkDatabase_preliminary (dbname : String) (server : Server) (start : server.issued = []) :
    Preliminary server (checkDatabase dbname server).2 := by
  have asks := excute_preliminary server server .showDatabases rfl ⟨rfl, rfl, by simp [start]⟩
  rw [checkDatabase]
  split
  all_goals
    next same => rwa [same] at asks

theorem createDatabase_preliminary (dbname : String) (before server : Server)
    (so_far : Preliminary before server) :
    Preliminary before (createDatabase dbname server).2 := by
  have makes := excute_preliminary before server (.createDatabase dbname) rfl so_far
  rw [createDatabase]
  split
  all_goals
    next same => rwa [same] at makes

/-- Where `Init` returns true, the tables were set up behind the question for
the database. -/
theorem init_setUp (schema : Schema) (connects : Bool) (dbname : String) (server after : Server)
    (start : server.issued = []) (returned : init schema connects dbname server = some (true, after)) :
    ∃ ready, Preliminary server ready ∧
      setUpTables schema.tables.values ready = some (true, after) := by
  have asks := checkDatabase_preliminary dbname server start
  rw [init] at returned
  split_ifs at returned
  · split at returned
    · next checked same =>
      rw [same] at asks
      exact ⟨checked, asks, returned⟩
    · next checked same =>
      rw [same] at asks
      have makes := createDatabase_preliminary dbname server checked asks
      split at returned
      · simp at returned
      · next created done =>
        rw [done] at makes
        exact ⟨created, makes, returned⟩
  · simp at returned

/-- Where `Init` returns true, every table of the schema is there with all its
columns exactly if each table was settled before. -/
theorem schema_ready_iff (schema : Schema) (connects : Bool) (dbname : String)
    (server after : Server) (start : server.issued = [])
    (returned : init schema connects dbname server = some (true, after)) :
    (∀ info ∈ schema.tables.values, Ready info after) ↔
      ∀ info ∈ schema.tables.values, Settled info server := by
  obtain ⟨ready, asked, done⟩ := init_setUp schema connects dbname server after start returned
  rw [setUpTables_ready schema.tables.values ready after (names_nodup schema) _ done]
  · apply forall₂_congr
    intro info _
    rw [Settled, Settled, asked.tables, asked.answers]
  · intro info _ made issued named
    rw [asked.log made issued] at named
    cases named

end AllTables

/-! A server that answers everything, with or without an old t_user. -/
section Sample

def answering (tables : String → Option Table) : Server :=
  ⟨["im"], tables, fun _ _ => .first, []⟩

/-- A table t_user that has its key column only. -/
def oldUsers (name : String) : Option Table :=
  if name = "t_user" then some ⟨[⟨"f_user_id", "bigint(20)"⟩], by simp⟩ else none

theorem fresh_database_ready :
    ((init m_mapTable true "im" (answering fun _ => none)).map Prod.fst = some true) ∧
    ∃ after, init m_mapTable true "im" (answering fun _ => none) = some (true, after) ∧
      ∀ info ∈ m_mapTable.tables.values, Ready info after := by
  have runs : (init m_mapTable true "im" (answering fun _ => none)).map Prod.fst = some true := by
    decide +kernel
  obtain ⟨⟨result, after⟩, returned, rfl⟩ := Option.map_eq_some_iff.mp runs
  refine ⟨runs, after, returned, ?_⟩
  apply (schema_ready_iff m_mapTable true "im" _ after rfl returned).mpr
  intro info _ table present
  cases present

/-- `Init` reports success over a t_user without its other columns. -/
theorem old_table_accepted :
    ∃ after, init m_mapTable true "im" (answering oldUsers) = some (true, after) ∧
      ∃ info ∈ m_mapTable.tables.values, ¬ Ready info after := by
  have runs : (init m_mapTable true "im" (answering oldUsers)).map
      (fun result => (result.1, (result.2.tables "t_user").map Table.columns)) =
        some (true, some [⟨"f_user_id", "bigint(20)"⟩]) := by
    decide +kernel
  have declares : (m_mapTable.tables.values.any fun info =>
      info.sName = "t_user" ∧ info.fields.any fun field => field.sName = "f_username") = true := by
    decide +kernel
  obtain ⟨⟨result, after⟩, returned, shown⟩ := Option.map_eq_some_iff.mp runs
  obtain ⟨rfl, columns⟩ := Prod.mk.inj shown
  obtain ⟨info, member, both⟩ := List.any_eq_true.mp declares
  obtain ⟨name, has⟩ := of_decide_eq_true both
  obtain ⟨field, inside, username⟩ := List.any_eq_true.mp has
  refine ⟨after, returned, info, member, ?_⟩
  rintro ⟨table, present, complete⟩
  rw [name] at present
  have there := complete field inside
  simp only [present, Option.map_some, Option.some.injEq] at columns
  rw [columns, List.mem_singleton, declared, of_decide_eq_true username] at there
  simp at there

end Sample

end EdoyumIM.SchemaSetup
