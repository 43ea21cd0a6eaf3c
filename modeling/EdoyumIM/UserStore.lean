import EdoyumIM.JsonValue
import EdoyumIM.OrderedStore

/-!
UserManager over the database of MySqlManager. A statement is kept as what it
is meant to do, with its values taken literally; the database may refuse any
statement, and refuses a second row with the same primary key `f_user_id`. The
tables hold the columns that some statement writes or reads: the `f_id` and
time columns are left out, and so are the members of `User` that no function
reads (`clienttype`, `status`, `customfacefmt`) and the unused `m_mapUsers`.
A NULL string column is `none` and reads back as the empty string.
-/

namespace EdoyumIM.UserStore

open MachineWords OrderedStore JsonValue

def GROUPID_BOUBDARY : Int32 := 0x0FFFFFFF

structure User where
  userid : Int32 := -1
  username : Bytes := []
  password : Bytes := []
  nickname : Bytes := []
  facetype : Int32 := -1
  custimface : Bytes := []
  gender : Int32 := -1
  birthday : Int32 := -1
  signature : Bytes := []
  address : Bytes := []
  phonenumber : Bytes := []
  mail : Bytes := []
  ownerid : Int32 := -1
  friends : OrderedSet Int32 := OrderedSet.empty
  deriving DecidableEq, Repr

/-! The tables. -/
section Tables

/-- A row of t_user with the defaults of the schema. The owner column is the one
that the INSERT of `AddGroup` names; the schema calls its own `f_owner`, so a
database without the other column refuses that statement. -/
structure UserRow where
  f_user_id : Int32
  f_username : Bytes
  f_nickname : Bytes
  f_password : Bytes
  f_facetype : Int32 := 0
  f_customface : Option Bytes := none
  f_gender : Int32 := 0
  f_birthday : Int32 := 19900101
  f_signature : Option Bytes := none
  f_address : Option Bytes := none
  f_phonenumber : Option Bytes := none
  f_mail : Option Bytes := none
  f_owner_id : Option Int32 := none
  deriving DecidableEq, Repr

structure UserTable where
  rows : List UserRow
  primaryKey : (rows.map UserRow.f_user_id).Nodup

namespace UserTable

def empty : UserTable := ⟨[], List.nodup_nil⟩

def ids (table : UserTable) : List Int32 := table.rows.map UserRow.f_user_id

def insert (row : UserRow) (table : UserTable) : Option UserTable :=
  if taken : row.f_user_id ∈ table.ids then none
  else some ⟨table.rows ++ [row], by
    rw [List.map_append]
    refine List.nodup_append.mpr ⟨table.primaryKey, by simp, ?_⟩
    rintro id member other last rfl
    exact taken (by simpa using (List.mem_singleton.mp last) ▸ member)⟩

/-- UPDATE of the row with the given key, by columns other than the key. -/
def update (userid : Int32) (change : UserRow → UserRow) (table : UserTable) : UserTable :=
  ⟨table.rows.map fun row =>
      if row.f_user_id = userid then { change row with f_user_id := row.f_user_id } else row, by
    have keys : ∀ row : UserRow, (if row.f_user_id = userid then
        { change row with f_user_id := row.f_user_id } else row).f_user_id = row.f_user_id := by
      intro row
      split_ifs <;> rfl
    rw [List.map_map, show UserRow.f_user_id ∘ _ = UserRow.f_user_id from funext keys]
    exact table.primaryKey⟩

theorem insert_cases (row : UserRow) (table : UserTable) :
    (row.f_user_id ∈ table.ids ∧ table.insert row = none) ∨
    (row.f_user_id ∉ table.ids ∧
      ∃ larger, larger.rows = table.rows ++ [row] ∧ table.insert row = some larger) := by
  by_cases taken : row.f_user_id ∈ table.ids
  · exact Or.inl ⟨taken, dif_pos taken⟩
  · exact Or.inr ⟨taken, _, rfl, dif_neg taken⟩

theorem ids_update (userid : Int32) (change : UserRow → UserRow) (table : UserTable) :
    (table.update userid change).ids = table.ids := by
  simp only [ids, update, List.map_map]
  apply List.map_congr_left
  intro row _
  simp only [Function.comp_apply]
  split_ifs <;> rfl

theorem update_absent (userid : Int32) (change : UserRow → UserRow) (table : UserTable)
    (absent : userid ∉ table.ids) : table.update userid change = table := by
  have rows : (table.update userid change).rows = table.rows := by
    rw [update]
    refine List.map_congr_left (fun row member => ?_) |>.trans (List.map_id _)
    have other : row.f_user_id ≠ userid := fun same => absent (List.mem_map.mpr ⟨row, member, same⟩)
    rw [if_neg other, id]
  cases table with
  | mk old key => exact (UserTable.mk.injEq _ _ _ _).mpr rows

/-- The key picks one row. -/
theorem row_unique (table : UserTable) (left right : UserRow) (one : left ∈ table.rows)
    (other : right ∈ table.rows) (same : left.f_user_id = right.f_user_id) : left = right :=
  List.inj_on_of_nodup_map table.primaryKey one other same

end UserTable

structure ChatRow where
  f_senderid : Int32
  f_targetid : Int32
  f_msgcontent : Bytes
  deriving DecidableEq, Repr

structure Database where
  t_user : UserTable := UserTable.empty
  t_user_relationship : List (Int32 × Int32) := []
  t_chatmsg : List ChatRow := []

end Tables

inductive Statement where
  | insertUser (userid : Int32) (username nickname password : Bytes)
  | insertGroup (groupid : Int32) (groupname : Bytes) (ownerid : Int32)
  | insertRelationship (id1 id2 : Int32)
  | deleteRelationship (id1 id2 : Int32)
  | updateUserInfo (userid : Int32) (newuserinfo : User)
  | updatePassword (userid : Int32) (newpassword : Bytes)
  | insertChatMsg (senderid targetid : Int32) (chatmsg : Bytes)

namespace Database

def withUsers (database : Database) (table : UserTable) : Database :=
  { database with t_user := table }

/-- The intended effect of a statement; `none` is a duplicate key. -/
def apply (database : Database) : Statement → Option Database
  | .insertUser userid username nickname password =>
      (database.t_user.insert
        { f_user_id := userid, f_username := username, f_nickname := nickname,
          f_password := password }).map database.withUsers
  | .insertGroup groupid groupname ownerid =>
      (database.t_user.insert
        { f_user_id := groupid, f_username := decimal groupid, f_nickname := groupname,
          f_password := [], f_owner_id := some ownerid }).map database.withUsers
  | .insertRelationship id1 id2 =>
      some { database with t_user_relationship := database.t_user_relationship ++ [(id1, id2)] }
  | .deleteRelationship id1 id2 =>
      some { database with
        t_user_relationship := database.t_user_relationship.filter (· ≠ (id1, id2)) }
  | .updateUserInfo userid info =>
      some (database.withUsers (database.t_user.update userid fun row =>
        { row with
          f_nickname := info.nickname, f_facetype := info.facetype,
          f_customface := some info.custimface, f_gender := info.gender,
          f_birthday := info.birthday, f_signature := some info.signature,
          f_address := some info.address, f_phonenumber := some info.phonenumber,
          f_mail := some info.mail }))
  | .updatePassword userid newpassword =>
      some (database.withUsers (database.t_user.update userid fun row =>
        { row with f_password := newpassword }))
  | .insertChatMsg senderid targetid chatmsg =>
      some { database with t_chatmsg := database.t_chatmsg ++ [⟨senderid, targetid, chatmsg⟩] }

/-- The answer to an INSERT of a row into t_user with the given key. -/
def accepts (accept : Bool) (userid : Int32) (database : Database) : Bool :=
  accept && decide (userid ∉ database.t_user.ids)

/-- `MySqlManager::Excute`: `accept` is the database's own decision. -/
def excute (accept : Bool) (statement : Statement) (database : Database) : Bool × Database :=
  if accept then
    match database.apply statement with
    | some changed => (true, changed)
    | none => (false, database)
  else (false, database)

end Database

/-! Query results and the loop that `LoadUserFromDB` and `LoadRelationshipFromDB`
run over them. `EndQuery` clears the current row; a cleared vector keeps its
storage, so `Fetch` may return a non-null pointer to blank fields. -/
section Queries

variable {ρ α : Type}

structure QueryResult (ρ : Type) where
  m_CurrentRow : Option ρ
  pending : List ρ
  running : Bool

namespace QueryResult

def ofRows : List ρ → QueryResult ρ
  | [] => ⟨none, [], false⟩
  | row :: rest => ⟨some row, rest, true⟩

def fetch (emptyData : Bool) (blank : ρ) (result : QueryResult ρ) : Option ρ :=
  match result.m_CurrentRow with
  | some row => some row
  | none => if emptyData then some blank else none

def nextRow (result : QueryResult ρ) : Bool × QueryResult ρ :=
  if result.running then
    match result.pending with
    | [] => (false, ⟨none, [], false⟩)
    | row :: rest => (true, ⟨some row, rest, true⟩)
  else (false, result)

def fetchLoop (emptyData : Bool) (blank : ρ) (visit : α → ρ → α) :
    Nat → QueryResult ρ → α → α
  | 0, _, seen => seen
  | fuel + 1, result, seen =>
      match result.fetch emptyData blank with
      | none => seen
      | some row =>
          -- the row is visited before the loop learns whether there is another
          match result.nextRow with
          | (false, _) => visit seen row
          | (true, next) => fetchLoop emptyData blank visit fuel next (visit seen row)

end QueryResult

def fetchRows (emptyData : Bool) (blank : ρ) (visit : α → ρ → α) (rows : List ρ) (seen : α) : α :=
  QueryResult.fetchLoop emptyData blank visit (rows.length + 1) (QueryResult.ofRows rows) seen

/-- The rows the loop visits: all of them, or one blank row when there is none
and the cleared vector still has storage. -/
def visited (emptyData : Bool) (blank : ρ) : List ρ → List ρ
  | [] => if emptyData then [blank] else []
  | row :: rest => row :: rest

theorem fetchLoop_rows (emptyData : Bool) (blank : ρ) (visit : α → ρ → α) (rest : List ρ)
    (fuel : Nat) (enough : rest.length < fuel) (row : ρ) (seen : α) :
    QueryResult.fetchLoop emptyData blank visit fuel ⟨some row, rest, true⟩ seen =
      (row :: rest).foldl visit seen := by
  induction rest generalizing fuel row seen with
  | nil =>
      obtain ⟨more, rfl⟩ : ∃ more, fuel = more + 1 := ⟨fuel - 1, by simp at enough; omega⟩
      rfl
  | cons next rest ih =>
      obtain ⟨more, rfl⟩ : ∃ more, fuel = more + 1 := ⟨fuel - 1, by simp at enough; omega⟩
      have remaining : rest.length < more := by simpa using enough
      exact ih more remaining next (visit seen row)

theorem fetchRows_eq (emptyData : Bool) (blank : ρ) (visit : α → ρ → α) (rows : List ρ)
    (seen : α) :
    fetchRows emptyData blank visit rows seen = (visited emptyData blank rows).foldl visit seen := by
  cases rows with
  | nil => cases emptyData <;> rfl
  | cons row rest =>
      exact fetchLoop_rows emptyData blank visit rest (rest.length + 2) (by omega) row seen

theorem mem_visited (emptyData : Bool) (blank row : ρ) (rows : List ρ)
    (member : row ∈ visited emptyData blank rows) : row ∈ rows ∨ row = blank := by
  cases rows with
  | nil => cases emptyData <;> simp_all [visited]
  | cons first rest => exact Or.inl member

end Queries

structure UserManager where
  m_cachedUsers : List User := []
  m_baseUserID : Int32 := 0
  m_baseGrupID : Int32 := 0xFFFFFFF

structure Store where
  users : UserManager := {}
  database : Database := {}

namespace Store

def excute (accept : Bool) (statement : Statement) (store : Store) : Bool × Store :=
  ((store.database.excute accept statement).1,
    { store with database := (store.database.excute accept statement).2 })

theorem excute_cases (accept : Bool) (statement : Statement) (store : Store) :
    store.excute accept statement = (false, store) ∨
    ∃ changed, store.database.apply statement = some changed ∧
      store.excute accept statement = (true, { store with database := changed }) := by
  simp only [excute, Database.excute]
  cases accept with
  | false => exact Or.inl rfl
  | true =>
      cases applied : store.database.apply statement with
      | none => exact Or.inl rfl
      | some changed => exact Or.inr ⟨changed, rfl, rfl⟩

theorem excute_insert (accept : Bool) (statement : Statement) (row : UserRow) (store : Store)
    (inserts : store.database.apply statement =
      (store.database.t_user.insert row).map store.database.withUsers) :
    (store.database.accepts accept row.f_user_id = false ∧
      store.excute accept statement = (false, store)) ∨
    (store.database.accepts accept row.f_user_id = true ∧
      ∃ table, table.rows = store.database.t_user.rows ++ [row] ∧
        store.excute accept statement =
          (true, { store with database := store.database.withUsers table })) := by
  simp only [excute, Database.excute, Database.accepts, inserts]
  cases accept with
  | false => exact Or.inl ⟨rfl, rfl⟩
  | true =>
      rcases UserTable.insert_cases row store.database.t_user with
        ⟨taken, refused⟩ | ⟨free, table, rows, inserted⟩
      · exact Or.inl ⟨by simp [taken], by simp [refused]⟩
      · exact Or.inr ⟨by simp [free], table, rows, by simp [inserted]⟩

def cached (store : Store) : List User := store.users.m_cachedUsers

def withCached (store : Store) (users : List User) : Store :=
  { store with users := { store.users with m_cachedUsers := users } }

/-- `AddUser`; the result is the caller's user as the call leaves it. -/
def addUser (user : User) (accept : Bool) (store : Store) : Option User × Store :=
  let counted : Store :=
    { store with users := { store.users with m_baseUserID := store.users.m_baseUserID + 1 } }
  let userid := counted.users.m_baseUserID
  match counted.excute accept
      (.insertUser userid user.username user.nickname user.password) with
  | (false, refused) => (none, refused)
  | (true, inserted) =>
      let added : User :=
        { user with userid := userid, facetype := 0, birthday := 20000101, gender := 0, ownerid := 0 }
      (some added, inserted.withCached (inserted.cached ++ [added]))

def countUser (store : Store) : Store :=
  { store with users := { store.users with m_baseUserID := store.users.m_baseUserID + 1 } }

theorem addUser_exact (user : User) (accept : Bool) (store : Store) :
    let userid := store.users.m_baseUserID + 1
    let row : UserRow :=
      { f_user_id := userid, f_username := user.username, f_nickname := user.nickname
        f_password := user.password }
    let added : User :=
      { user with userid := userid, facetype := 0, birthday := 20000101, gender := 0, ownerid := 0 }
    (store.database.accepts accept userid = false ∧
      store.addUser user accept = (none, store.countUser)) ∨
    (store.database.accepts accept userid = true ∧
      ∃ table, table.rows = store.database.t_user.rows ++ [row] ∧
        store.addUser user accept =
          (some added, { users := { store.countUser.users with
                                    m_cachedUsers := store.cached ++ [added] }
                         database := store.database.withUsers table })) := by
  intro userid row added
  rw [addUser, ← countUser]
  rcases excute_insert accept (.insertUser store.countUser.users.m_baseUserID user.username
      user.nickname user.password) row store.countUser rfl with
    ⟨refused, same⟩ | ⟨accepted, table, rows, same⟩
  · exact Or.inl ⟨refused, by rw [same]⟩
  · rw [same]
    exact Or.inr ⟨accepted, table, rows, rfl⟩

theorem addUser_cases (user : User) (accept : Bool) (store : Store) :
    (store.database.accepts accept (store.users.m_baseUserID + 1) = false ∧
      store.addUser user accept = (none, store.countUser)) ∨
    (store.database.accepts accept (store.users.m_baseUserID + 1) = true ∧
      ∃ row table added, table.rows = store.database.t_user.rows ++ [row] ∧
        store.addUser user accept =
          (some added, { users := { store.countUser.users with
                                    m_cachedUsers := store.cached ++ [added] }
                         database := store.database.withUsers table }) ∧
        row.f_user_id = store.users.m_baseUserID + 1 ∧ row.f_owner_id = none ∧
        added.userid = store.users.m_baseUserID + 1) := by
  rcases addUser_exact user accept store with refused | ⟨accepted, table, rows, same⟩
  · exact Or.inl refused
  · exact Or.inr ⟨accepted, _, table, _, rows, same, rfl, rfl, rfl⟩

/-- `AddGroup`; `groupname` is a C string. The result is `groupid`, which a
refused call does not assign. -/
def addGroup (groupname : Bytes) (ownerid : Int32) (accept : Bool) (store : Store) :
    Option Int32 × Store :=
  let counted : Store :=
    { store with users := { store.users with m_baseGrupID := store.users.m_baseGrupID + 1 } }
  let groupid := counted.users.m_baseGrupID
  match counted.excute accept (.insertGroup groupid groupname ownerid) with
  | (false, refused) => (none, refused)
  | (true, inserted) =>
      let added : User :=
        { userid := groupid, username := decimal groupid, nickname := groupname, ownerid := ownerid }
      (some groupid, inserted.withCached (inserted.cached ++ [added]))

def countGroup (store : Store) : Store :=
  { store with users := { store.users with m_baseGrupID := store.users.m_baseGrupID + 1 } }

theorem addGroup_exact (groupname : Bytes) (ownerid : Int32) (accept : Bool) (store : Store) :
    let groupid := store.users.m_baseGrupID + 1
    let row : UserRow :=
      { f_user_id := groupid, f_username := decimal groupid, f_nickname := groupname
        f_password := [], f_owner_id := some ownerid }
    let added : User :=
      { userid := groupid, username := decimal groupid, nickname := groupname, ownerid := ownerid }
    (store.database.accepts accept groupid = false ∧
      store.addGroup groupname ownerid accept = (none, store.countGroup)) ∨
    (store.database.accepts accept groupid = true ∧
      ∃ table, table.rows = store.database.t_user.rows ++ [row] ∧
        store.addGroup groupname ownerid accept =
          (some groupid,
            { users := { store.countGroup.users with m_cachedUsers := store.cached ++ [added] }
              database := store.database.withUsers table })) := by
  intro groupid row added
  rw [addGroup, ← countGroup]
  rcases excute_insert accept (.insertGroup store.countGroup.users.m_baseGrupID groupname ownerid)
      row store.countGroup rfl with
    ⟨refused, same⟩ | ⟨accepted, table, rows, same⟩
  · exact Or.inl ⟨refused, by rw [same]⟩
  · rw [same]
    exact Or.inr ⟨accepted, table, rows, rfl⟩

theorem addGroup_cases (groupname : Bytes) (ownerid : Int32) (accept : Bool) (store : Store) :
    (store.database.accepts accept (store.users.m_baseGrupID + 1) = false ∧
      store.addGroup groupname ownerid accept = (none, store.countGroup)) ∨
    (store.database.accepts accept (store.users.m_baseGrupID + 1) = true ∧
      ∃ row table added, table.rows = store.database.t_user.rows ++ [row] ∧
        store.addGroup groupname ownerid accept =
          (some (store.users.m_baseGrupID + 1),
            { users := { store.countGroup.users with m_cachedUsers := store.cached ++ [added] }
              database := store.database.withUsers table }) ∧
        row.f_user_id = store.users.m_baseGrupID + 1 ∧ row.f_owner_id = some ownerid ∧
        row.f_password = [] ∧ added.userid = store.users.m_baseGrupID + 1 ∧
        added.password = []) := by
  rcases addGroup_exact groupname ownerid accept store with refused | ⟨accepted, table, rows, same⟩
  · exact Or.inl refused
  · exact Or.inr ⟨accepted, _, table, _, rows, same, rfl, rfl, rfl, rfl, rfl⟩

/-- The loop of `AddFriendToUser` and `DeleteFriendToUser`, which stops as soon
as both records have been met. -/
def relateLoop (edit : Int32 → OrderedSet Int32 → OrderedSet Int32) (userid friendid : Int32) :
    Bool → Bool → List User → Bool × List User
  | _, _, [] => (false, [])
  | bFound1, bFound2, iter :: rest =>
      let first : User :=
        if iter.userid = userid then { iter with friends := edit friendid iter.friends } else iter
      let second : User :=
        if first.userid = friendid then { first with friends := edit userid first.friends } else first
      let found1 := bFound1 || decide (iter.userid = userid)
      let found2 := bFound2 || decide (iter.userid = friendid)
      -- later records with one of the ids are not reached any more
      if found1 && found2 then (true, second :: rest)
      else
        let later := relateLoop edit userid friendid found1 found2 rest
        (later.1, second :: later.2)

def addFriendToUser (userid friendid : Int32) (store : Store) : Bool × Store :=
  let related := relateLoop OrderedSet.insert userid friendid false false store.cached
  (related.1, store.withCached related.2)

def deleteFriendToUser (userid friendid : Int32) (store : Store) : Bool × Store :=
  let related := relateLoop OrderedSet.erase userid friendid false false store.cached
  (related.1, store.withCached related.2)

def makeFriendRelationship (smallid greatid : Int32) (accept : Bool) (store : Store) :
    Bool × Store :=
  if smallid ≥ greatid then (false, store)
  else
    match store.excute accept (.insertRelationship smallid greatid) with
    | (false, refused) => (false, refused)
    | (true, inserted) => inserted.addFriendToUser smallid greatid

def releaseFriendRelationship (smallid greatid : Int32) (accept : Bool) (store : Store) :
    Bool × Store :=
  if smallid ≥ greatid then (false, store)
  else
    match store.excute accept (.deleteRelationship smallid greatid) with
    | (false, refused) => (false, refused)
    | (true, deleted) => deleted.deleteFriendToUser smallid greatid

/-- The loops of `UpdateUserInfo` and `ModifyUserPassword`: change the first
cached record with the id. -/
def changeFirst (userid : Int32) (change : User → User) : List User → Bool × List User
  | [] => (false, [])
  | iter :: rest =>
      if iter.userid = userid then (true, change iter :: rest)
      else ((changeFirst userid change rest).1, iter :: (changeFirst userid change rest).2)

def changeCached (userid : Int32) (change : User → User) (store : Store) : Bool × Store :=
  let changed := changeFirst userid change store.cached
  (changed.1, store.withCached changed.2)

def updateUserInfo (userid : Int32) (newuserinfo : User) (accept : Bool) (store : Store) :
    Bool × Store :=
  match store.excute accept (.updateUserInfo userid newuserinfo) with
  | (false, refused) => (false, refused)
  | (true, updated) =>
      updated.changeCached userid fun iter =>
        { iter with
          nickname := newuserinfo.nickname, facetype := newuserinfo.facetype,
          custimface := newuserinfo.custimface, gender := newuserinfo.gender,
          birthday := newuserinfo.birthday, signature := newuserinfo.signature,
          address := newuserinfo.address, phonenumber := newuserinfo.phonenumber,
          mail := newuserinfo.mail }

def modifyUserPassword (userid : Int32) (newpassword : Bytes) (accept : Bool) (store : Store) :
    Bool × Store :=
  match store.excute accept (.updatePassword userid newpassword) with
  | (false, refused) => (false, refused)
  | (true, updated) => updated.changeCached userid fun iter => { iter with password := newpassword }

def saveChatMsgToDb (senderid targetid : Int32) (chatmsg : Bytes) (accept : Bool) (store : Store) :
    Bool × Store :=
  store.excute accept (.insertChatMsg senderid targetid chatmsg)

def getUserInfoByUsername (name : Bytes) (store : Store) : Option User :=
  store.cached.find? fun iter => iter.username = name

def getUserInfoByUserId (userid : Int32) (store : Store) : Option User :=
  store.cached.find? fun iter => iter.userid = userid

/-- The friends of the first record with the id, each as its first record. -/
def getFriendInfoByUserId (userid : Int32) (store : Store) : List User :=
  let friendsId := ((store.getUserInfoByUserId userid).map User.friends).getD OrderedSet.empty
  friendsId.elems.filterMap fun id => store.getUserInfoByUserId id

end Store

/-! Start-up. -/
section Init

/-- The fields of a cleared row read as empty strings and zeros. -/
def blankRow : UserRow :=
  { f_user_id := 0, f_username := [], f_nickname := [], f_password := [], f_birthday := 0 }

def userOfRow (row : UserRow) : User :=
  { userid := row.f_user_id, username := row.f_username, nickname := row.f_nickname
    password := row.f_password, facetype := row.f_facetype
    custimface := row.f_customface.getD [], gender := row.f_gender, birthday := row.f_birthday
    signature := row.f_signature.getD [], address := row.f_address.getD []
    phonenumber := row.f_phonenumber.getD [], mail := row.f_mail.getD [] }

def loadUser (users : UserManager) (row : UserRow) : UserManager :=
  { users with
    m_cachedUsers := users.m_cachedUsers ++ [userOfRow row]
    m_baseUserID := if row.f_user_id > users.m_baseUserID then row.f_user_id else users.m_baseUserID }

/-- `LoadUserFromDB`; only `m_baseUserID` is rebuilt from the table. -/
def loadUserFromDB (emptyData : Bool) (database : Database) (users : UserManager) : UserManager :=
  fetchRows emptyData blankRow loadUser
    (database.t_user.rows.insertionSort fun left right => right.f_user_id ≤ left.f_user_id) users

def loadFriend (userid : Int32) (friends : OrderedSet Int32) (row : Int32 × Int32) :
    OrderedSet Int32 :=
  if row.1 = userid then friends.insert row.2 else friends.insert row.1

def loadRelationshipFromDB (emptyData : Bool) (database : Database) (userid : Int32)
    (friends : OrderedSet Int32) : OrderedSet Int32 :=
  fetchRows emptyData (0, 0) (loadFriend userid)
    (database.t_user_relationship.filter fun row => row.1 = userid ∨ row.2 = userid) friends

/-- A fresh `UserManager` after `Init`. -/
def init (emptyData : Bool) (database : Database) : UserManager :=
  let loaded := loadUserFromDB emptyData database {}
  { loaded with
    m_cachedUsers := loaded.m_cachedUsers.map fun iter =>
      { iter with friends := loadRelationshipFromDB emptyData database iter.userid iter.friends } }

theorem foldl_loadUser (rows : List UserRow) (users : UserManager) :
    (rows.foldl loadUser users).m_cachedUsers = users.m_cachedUsers ++ rows.map userOfRow ∧
      (rows.foldl loadUser users).m_baseGrupID = users.m_baseGrupID := by
  induction rows generalizing users with
  | nil => simp
  | cons row rest ih =>
      obtain ⟨cached, base⟩ := ih (loadUser users row)
      refine ⟨?_, base⟩
      rw [List.foldl_cons, cached]
      simp [loadUser]

/-- The counter of `LoadUserFromDB` is the greatest id of the rows, or stays. -/
theorem foldl_baseUserID (rows : List UserRow) (users : UserManager) :
    users.m_baseUserID ≤ (rows.foldl loadUser users).m_baseUserID ∧
    (∀ row ∈ rows, row.f_user_id ≤ (rows.foldl loadUser users).m_baseUserID) ∧
    ((rows.foldl loadUser users).m_baseUserID = users.m_baseUserID ∨
      ∃ row ∈ rows, (rows.foldl loadUser users).m_baseUserID = row.f_user_id) := by
  induction rows generalizing users with
  | nil => exact ⟨le_rfl, by simp, Or.inl rfl⟩
  | cons row rest ih =>
      obtain ⟨above, covers, attained⟩ := ih (loadUser users row)
      have next : (loadUser users row).m_baseUserID = max row.f_user_id users.m_baseUserID := by
        simp only [loadUser]
        split_ifs with greater
        · exact (max_eq_left greater.le).symm
        · exact (max_eq_right (not_lt.mp greater)).symm
      rw [next] at above attained
      rw [List.foldl_cons]
      refine ⟨(le_max_right _ _).trans above, ?_, ?_⟩
      · intro other member
        rcases List.mem_cons.mp member with rfl | later
        · exact (le_max_left _ _).trans above
        · exact covers other later
      · rcases attained with same | ⟨other, later, same⟩
        · rcases max_choice row.f_user_id users.m_baseUserID with new | old
          · exact Or.inr ⟨row, List.mem_cons_self, same.trans new⟩
          · exact Or.inl (same.trans old)
        · exact Or.inr ⟨other, List.mem_cons_of_mem row later, same⟩

theorem init_baseUserID (emptyData : Bool) (database : Database) :
    0 ≤ (init emptyData database).m_baseUserID ∧
    (∀ row ∈ database.t_user.rows, row.f_user_id ≤ (init emptyData database).m_baseUserID) ∧
    ((init emptyData database).m_baseUserID = 0 ∨
      ∃ row ∈ database.t_user.rows, (init emptyData database).m_baseUserID = row.f_user_id) := by
  simp only [init, loadUserFromDB, fetchRows_eq]
  generalize sorted : database.t_user.rows.insertionSort
    (fun left right => right.f_user_id ≤ left.f_user_id) = rows
  have same : ∀ row, row ∈ rows ↔ row ∈ database.t_user.rows := by
    intro row
    rw [← sorted, List.mem_insertionSort]
  obtain ⟨above, covers, attained⟩ := foldl_baseUserID (visited emptyData blankRow rows) {}
  refine ⟨above, ?_, ?_⟩
  · intro row member
    refine covers row ?_
    cases rows with
    | nil => exact absurd ((same row).mpr member) List.not_mem_nil
    | cons first rest => exact (same row).mpr member
  · rcases attained with start | ⟨row, member, same'⟩
    · exact Or.inl start
    · rcases mem_visited emptyData blankRow row rows member with present | rfl
      · exact Or.inr ⟨row, (same row).mp present, same'⟩
      · exact Or.inl same'

theorem init_baseGrupID (emptyData : Bool) (database : Database) :
    (init emptyData database).m_baseGrupID = GROUPID_BOUBDARY := by
  simp only [init, loadUserFromDB, fetchRows_eq]
  exact (foldl_loadUser _ {}).2

/-- A record after start-up is that of a row, or the blank one. -/
theorem mem_init (emptyData : Bool) (database : Database) (user : User)
    (member : user ∈ (init emptyData database).m_cachedUsers) :
    ∃ row, (row ∈ database.t_user.rows ∨ row = blankRow) ∧ user.userid = row.f_user_id ∧
      user.password = row.f_password := by
  simp only [init, loadUserFromDB, fetchRows_eq, (foldl_loadUser _ {}).1, List.nil_append,
    List.map_map, List.mem_map] at member
  obtain ⟨row, loaded, rfl⟩ := member
  -- `LoadRelationshipFromDB` changes the friends of a record only
  refine ⟨row, ?_, rfl, rfl⟩
  exact (mem_visited emptyData blankRow row _ loaded).imp_left fun inside => by
    simpa using inside

end Init

end EdoyumIM.UserStore
