import EdoyumIM.Friendships
import EdoyumIM.SchemaSetup

/-!
The rows that the loops over a `QueryResult` take in: those of `LoadUserFromDB`
and `LoadRelationshipFromDB`, which go to the end, and that of `CheckDatabase`,
which stops at a name. The constructor fetches the first row; where there is
none, `EndQuery` clears the row, and it depends on the storage of the cleared
vector whether the loops see it.
-/

namespace EdoyumIM.QueryIteration

open OrderedStore UserStore UserLockstep Friendships

/-! Loops to the end. -/
section ToTheEnd

variable {ρ α : Type} (emptyData : Bool) (blank : ρ)

/-- The rows that such a loop takes in, one behind the other. -/
def taken (rows : List ρ) : List ρ :=
  fetchRows emptyData blank (fun seen row => seen ++ [row]) rows []

theorem foldl_concat (rows seen : List ρ) :
    rows.foldl (fun seen row => seen ++ [row]) seen = seen ++ rows := by
  induction rows generalizing seen with
  | nil => exact (List.append_nil seen).symm
  | cons row rest ih =>
      rw [List.foldl_cons, ih]
      exact List.append_assoc seen [row] rest

theorem taken_eq (rows : List ρ) : taken emptyData blank rows = visited emptyData blank rows := by
  rw [taken, fetchRows_eq, foldl_concat]
  rfl

/-- Whatever the loop does with a row, it does with the rows taken. -/
theorem fetchRows_taken (visit : α → ρ → α) (rows : List ρ) (seen : α) :
    fetchRows emptyData blank visit rows seen = (taken emptyData blank rows).foldl visit seen := by
  rw [fetchRows_eq, taken_eq]

theorem taken_iff (rows : List ρ) :
    taken emptyData blank rows = rows ↔ (rows.length = 0 → emptyData = false) := by
  rw [taken_eq]
  cases rows with
  | nil => cases emptyData <;> simp [visited]
  | cons row rest => simp [visited]

end ToTheEnd

/-! The loop of `CheckDatabase`, which also keeps the names that it compared. -/
section Search

variable (emptyData : Bool) (dbname : String)

def searchLoop : Nat → QueryResult String → List String → Option (Bool × List String)
  | 0, _, _ => none
  | fuel + 1, result, seen =>
      match result.fetch emptyData "" with
      | none => some (false, seen)
      | some name =>
          if name = dbname then some (true, seen ++ [name])
          else
            match result.nextRow with
            | (false, _) => some (false, seen ++ [name])
            | (true, next) => searchLoop fuel next (seen ++ [name])

/-- `CheckDatabase` on the rows of `show databases`. -/
def checkDatabase (names : List String) : Option (Bool × List String) :=
  searchLoop emptyData dbname (names.length + 1) (.ofRows names) []

/-- The rows up to the first one that is the name. -/
def upToMatch (names : List String) : List String := names.take (names.idxOf dbname + 1)

theorem searchLoop_rows (pending : List String) (fuel : Nat) (enough : pending.length < fuel)
    (name : String) (seen : List String) :
    searchLoop emptyData dbname fuel ⟨some name, pending, true⟩ seen =
      some (decide (dbname ∈ name :: pending), seen ++ upToMatch dbname (name :: pending)) := by
  induction pending generalizing fuel name seen with
  | nil =>
      obtain ⟨more, rfl⟩ := Nat.exists_eq_add_of_lt enough
      by_cases here : name = dbname
      · simp [searchLoop, QueryResult.fetch, here, upToMatch]
      · simp [searchLoop, QueryResult.fetch, QueryResult.nextRow, here, Ne.symm here, upToMatch]
  | cons next pending ih =>
      obtain ⟨more, rfl⟩ := Nat.exists_eq_add_of_lt enough
      by_cases here : name = dbname
      · simp [searchLoop, QueryResult.fetch, here, upToMatch]
      · have behind := ih ((next :: pending).length + more) (by simp; omega) next (seen ++ [name])
        have unmatched : ¬ dbname = name := fun same => here same.symm
        simp only [searchLoop, QueryResult.fetch, QueryResult.nextRow, here, if_false, if_true,
          behind, upToMatch, List.idxOf_cons_ne _ here, List.mem_cons, unmatched, false_or,
          List.take_succ_cons, List.append_assoc, List.singleton_append]

theorem checkDatabase_rows (names : List String) (filled : names ≠ []) :
    checkDatabase emptyData dbname names =
      some (decide (dbname ∈ names), upToMatch dbname names) := by
  cases names with
  | nil => exact absurd rfl filled
  | cons name pending =>
      exact searchLoop_rows emptyData dbname pending _ (by simp) name []

end Search

/-! The three result sets. -/
section ResultSets

def relationshipRows (database : Database) (userid : Int32) : List (Int32 × Int32) :=
  database.t_user_relationship.filter fun row => row.1 = userid ∨ row.2 = userid

inductive Query where
  | users (database : Database)
  | relationships (database : Database) (userid : Int32)
  | databases (dbname : String) (names : List String)

/-- The number of rows that come back. -/
def Query.rowcount : Query → Nat
  | .users database => database.t_user.rows.length
  | .relationships database userid => (relationshipRows database userid).length
  | .databases _ names => names.length

/-- The loop takes the rows of the result, and the function makes of them what
they say. -/
def IteratesExactly (emptyData : Bool) : Query → Prop
  | .users database =>
      taken emptyData blankRow (descending database) = descending database ∧
      ((loadUserFromDB emptyData database {}).m_cachedUsers).Perm
        (database.t_user.rows.map userOfRow)
  | .relationships database userid =>
      taken emptyData (0, 0) (relationshipRows database userid) = relationshipRows database userid ∧
      ∀ friend, friend ∈ (loadRelationshipFromDB emptyData database userid OrderedSet.empty).elems ↔
        (userid, friend) ∈ database.t_user_relationship ∨
        (friend, userid) ∈ database.t_user_relationship
  | .databases dbname names =>
      ∃ found compared, checkDatabase emptyData dbname names = some (found, compared) ∧
        compared = upToMatch dbname names ∧ (found = true ↔ dbname ∈ names)

theorem descending_length (database : Database) :
    (descending database).length = database.t_user.rows.length :=
  (descending_perm database).length_eq

theorem users_loaded (emptyData : Bool) (database : Database)
    (exact : taken emptyData blankRow (descending database) = descending database) :
    (loadUserFromDB emptyData database {}).m_cachedUsers = (descending database).map userOfRow := by
  rw [loadUserFromDB, fetchRows_taken, ← descending, exact, (foldl_loadUser _ _).1]
  rfl

theorem relationships_loaded (emptyData : Bool) (database : Database) (userid friend : Int32)
    (exact : taken emptyData (0, 0) (relationshipRows database userid) =
      relationshipRows database userid) :
    friend ∈ (loadRelationshipFromDB emptyData database userid OrderedSet.empty).elems ↔
      (userid, friend) ∈ database.t_user_relationship ∨
      (friend, userid) ∈ database.t_user_relationship := by
  rw [loadRelationshipFromDB, fetchRows_taken, ← relationshipRows, exact, foldl_loadFriend]
  simp only [OrderedSet.empty, List.not_mem_nil, false_or, relationshipRows, List.mem_filter,
    decide_eq_true_eq]
  constructor
  · rintro ⟨⟨one, other⟩, ⟨member, mine⟩, same⟩
    by_cases first : one = userid
    · rw [if_pos first] at same
      exact Or.inl (by rwa [same, ← first])
    · rw [if_neg first] at same
      exact Or.inr (by rwa [same, ← mine.resolve_left first])
  · rintro (first | second)
    · exact ⟨_, ⟨first, Or.inl rfl⟩, (if_pos rfl).symm⟩
    · refine ⟨_, ⟨second, Or.inr rfl⟩, ?_⟩
      split_ifs with same
      · exact same
      · rfl

/-- A result is iterated exactly if it has a row, or `Fetch` returns a null
pointer for a cleared row. -/
theorem iterated_exactly_iff (emptyData : Bool) (query : Query) :
    IteratesExactly emptyData query ↔ (query.rowcount = 0 → emptyData = false) := by
  cases query with
  | users database =>
      rw [IteratesExactly, Query.rowcount, ← descending_length, taken_iff]
      apply and_iff_left_of_imp
      intro exact
      rw [users_loaded emptyData database ((taken_iff emptyData _ _).mpr exact)]
      exact (descending_perm database).map userOfRow
  | relationships database userid =>
      rw [IteratesExactly, Query.rowcount, taken_iff]
      apply and_iff_left_of_imp
      intro exact friend
      exact relationships_loaded emptyData database userid friend ((taken_iff emptyData _ _).mpr exact)
  | databases dbname names =>
      by_cases filled : names = []
      · subst filled
        cases emptyData with
        | false => simp [IteratesExactly, checkDatabase, searchLoop, Query.rowcount,
            QueryResult.ofRows, QueryResult.fetch, upToMatch]
        | true =>
            apply iff_of_false _ (by simp [Query.rowcount])
            rintro ⟨found, compared, ran, same, -⟩
            -- the made-up name has been compared
            by_cases here : "" = dbname
            all_goals
              simp [checkDatabase, searchLoop, QueryResult.ofRows, QueryResult.fetch,
                QueryResult.nextRow, here, same, upToMatch] at ran
      · rw [IteratesExactly, checkDatabase_rows emptyData dbname names filled]
        apply iff_of_true
        · exact ⟨_, _, rfl, rfl, decide_eq_true_iff⟩
        · intro none
          exact absurd (List.length_eq_zero_iff.mp none) filled

/-- A user without relationships is given the friend 0. -/
theorem friend_made_up :
    0 ∈ (loadRelationshipFromDB true {} 1 OrderedSet.empty).elems ∧
    ¬ IteratesExactly true (.relationships {} 1) := by
  have friend : 0 ∈ (loadRelationshipFromDB true {} 1 OrderedSet.empty).elems := by
    decide
  refine ⟨friend, ?_⟩
  rintro ⟨-, loaded⟩
  have related := (loaded 0).mp friend
  simp at related

end ResultSets

/-! On the server of `Init`. -/
section Init

open SchemaSetup (Server)

theorem checkDatabase_server (emptyData : Bool) (dbname : String) (server : Server)
    (filled : server.databases ≠ []) (answered : server.answer .showDatabases ≠ .refused) :
    (checkDatabase emptyData dbname server.databases).map Prod.fst =
      some (SchemaSetup.checkDatabase dbname server).1 := by
  rw [checkDatabase_rows emptyData dbname server.databases filled, SchemaSetup.checkDatabase]
  rcases SchemaSetup.excute_cases server .showDatabases with refused | ⟨changed, -, applied, done⟩
  · rw [Server.excute] at refused
    cases answer : server.answer .showDatabases with
    | refused => exact absurd answer answered
    | first => simp [answer, Server.apply] at refused
    | second nAffectedCount => simp [answer, Server.apply] at refused
  · obtain rfl := Option.some.inj applied
    rw [done]
    cases answer : server.answer .showDatabases with
    | refused => exact absurd answer answered
    | first => rfl
    | second nAffectedCount => rfl

end Init

end EdoyumIM.QueryIteration
