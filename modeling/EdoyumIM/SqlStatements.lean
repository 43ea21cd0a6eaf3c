import EdoyumIM.TableSchema
import EdoyumIM.UserLockstep

/-!
The statements of UserManager against the tables of MySqlManager. A statement
is kept as the table, the columns and the values that its text names, in the
order of the text. The text quotes a string without escaping it, so one that
holds a quote, a backslash or a NUL may be read as something else; what the
database makes of such a text is left open. Everything else it decides by the
declared columns. The truncation of `AddGroup` to 255 bytes cuts the text
behind the column list and is left out.
-/

namespace EdoyumIM.SqlStatements

open MachineWords OrderedStore JsonValue Effects UserStore TableSchema IdClasses UserLockstep

inductive Value where
  | int (value : Int32)
  | string (data : Bytes)
  | now
  deriving DecidableEq, Repr

inductive Sql where
  | insert (table : String) (columns : List String) (values : List Value)
  | update (table : String) (sets : List (String × Value)) (key : String × Value)
  | delete (table : String) (conditions : List (String × Value))
  | select (columns : List String) (table : String) (conditions : List (String × Value))
      (order : List String)

/-! The texts. -/
section Texts

def sqlOf : Statement → Sql
  | .insertUser userid username nickname password =>
      .insert "t_user" ["f_user_id", "f_username", "f_nickname", "f_password", "f_register_time"]
        [.int userid, .string username, .string nickname, .string password, .now]
  | .insertGroup groupid groupname ownerid =>
      .insert "t_user"
        ["f_user_id", "f_username", "f_nickname", "f_password", "f_owner_id", "f_register_time"]
        [.int groupid, .string (decimal groupid), .string groupname, .string [], .int ownerid, .now]
  | .insertRelationship id1 id2 =>
      .insert "t_user_relationship" ["f_user_id1", "f_user_id2"] [.int id1, .int id2]
  | .deleteRelationship id1 id2 =>
      .delete "t_user_relationship" [("f_user_id1", .int id1), ("f_user_id2", .int id2)]
  | .updateUserInfo userid newuserinfo =>
      .update "t_user"
        [("f_nickname", .string newuserinfo.nickname), ("f_facetype", .int newuserinfo.facetype),
          ("f_customface", .string newuserinfo.custimface), ("f_gender", .int newuserinfo.gender),
          ("f_birthday", .int newuserinfo.birthday), ("f_signature", .string newuserinfo.signature),
          ("f_address", .string newuserinfo.address),
          ("f_phonenumber", .string newuserinfo.phonenumber), ("f_mail", .string newuserinfo.mail)]
        ("f_user_id", .int userid)
  | .updatePassword userid newpassword =>
      .update "t_user" [("f_password", .string newpassword)] ("f_user_id", .int userid)
  | .insertChatMsg senderid targetid chatmsg =>
      .insert "t_chatmsg" ["f_senderid", "f_targetid", "f_msgcontent"]
        [.int senderid, .int targetid, .string chatmsg]

/-- The query of `LoadUserFromDB`. -/
def selectUsers : Sql :=
  .select ["f_user_id", "f_username", "f_nickname", "f_password", "f_facetype", "f_customface",
      "f_gender", "f_birthday", "f_signature", "f_address", "f_phonenumber", "f_mail"]
    "t_user" [] ["f_user_id"]

/-- The query of `LoadRelationshipFromDB`. -/
def selectRelationship (userid : Int32) : Sql :=
  .select ["f_user_id1", "f_user_id2"] "t_user_relationship"
    [("f_user_id1", .int userid), ("f_user_id2", .int userid)] []

end Texts

/-! What a text asks of the tables. -/
section Fitting

namespace Sql

def table : Sql → String
  | .insert table _ _ => table
  | .update table _ _ => table
  | .delete table _ => table
  | .select _ table _ _ => table

/-- Every column that the text names. -/
def columns : Sql → List String
  | .insert _ columns _ => columns
  | .update _ sets key => sets.map Prod.fst ++ [key.1]
  | .delete _ conditions => conditions.map Prod.fst
  | .select columns _ conditions order => columns ++ conditions.map Prod.fst ++ order

/-- The columns that a new row takes from the text. -/
def supplied : Sql → Option (List String)
  | .insert _ columns _ => some columns
  | _ => none

/-- The values that a row takes from the text. -/
def stored : Sql → List (String × Value)
  | .insert _ columns values => columns.zip values
  | .update _ sets _ => sets
  | _ => []

def values : Sql → List Value
  | .insert _ _ values => values
  | .update _ sets key => sets.map Prod.snd ++ [key.2]
  | .delete _ conditions => conditions.map Prod.snd
  | .select _ _ conditions _ => conditions.map Prod.snd

end Sql

def names (part whole : String) : Prop := part.toList <:+: whole.toList

instance (part whole : String) : Decidable (names part whole) :=
  inferInstanceAs (Decidable (part.toList <:+: whole.toList))

/-- NOT NULL without a default: a new row has to bring a value. -/
def needed (field : FieldInfo) : Prop :=
  names "NOT NULL" field.sType ∧ ¬ names "DEFAULT" field.sType ∧
    ¬ names "AUTO_INCREMENT" field.sType

instance (field : FieldInfo) : Decidable (needed field) := inferInstanceAs (Decidable (_ ∧ _))

def fitsTable (info : TableInfo) (columns : List String) (supplied : Option (List String)) : Bool :=
  columns.all (fun name => (info.mapField.find? name).isSome) &&
    supplied.all fun given => info.fields.all fun field =>
      decide (needed field → field.sName ∈ given)

def fitsColumns (schema : Schema) (table : String) (columns : List String)
    (supplied : Option (List String)) : Bool :=
  match schema.tables.find? table with
  | some info => fitsTable info columns supplied
  | none => false

def fits (schema : Schema) (sql : Sql) : Bool :=
  fitsColumns schema sql.table sql.columns sql.supplied

/-- What `fits` says: the columns are declared, and a new row misses none. -/
theorem fits_iff (schema : Schema) (sql : Sql) :
    fits schema sql = true ↔
      ∃ info, schema.tables.find? sql.table = some info ∧
        (∀ name ∈ sql.columns, ∃ field ∈ info.fields, field.sName = name) ∧
        ∀ given, sql.supplied = some given → ∀ field ∈ info.fields, needed field →
          field.sName ∈ given := by
  have known (info : TableInfo) (name : String) :
      (info.mapField.find? name).isSome = true ↔ ∃ field ∈ info.fields, field.sName = name := by
    rw [Option.isSome_iff_exists]
    exact exists_congr fun field => find?_field info name field
  rw [fits, fitsColumns]
  cases found : schema.tables.find? sql.table with
  | none => simp
  | some info =>
      cases given : sql.supplied with
      | none => simp [fitsTable, known]
      | some columns => simp [fitsTable, known, ← imp_iff_not_or]

end Fitting

/-- Every statement of UserManager fits, but for the one of AddGroup: it names
`f_owner_id`, where the table has `f_owner`. -/
theorem sqlOf_fits (statement : Statement) :
    fits m_mapTable (sqlOf statement) = true ↔
      ∀ groupid groupname ownerid, statement ≠ .insertGroup groupid groupname ownerid := by
  -- the columns are the same whatever the arguments are
  cases statement with
  | insertUser userid username nickname password =>
      have decided : fits m_mapTable (sqlOf (.insertUser 0 [] [] [])) = true := by decide +kernel
      exact iff_of_true decided nofun
  | insertGroup groupid groupname ownerid =>
      have decided : ¬ fits m_mapTable (sqlOf (.insertGroup 0 [] 0)) = true := by decide +kernel
      exact iff_of_false decided fun other => other groupid groupname ownerid rfl
  | insertRelationship id1 id2 =>
      have decided : fits m_mapTable (sqlOf (.insertRelationship 0 0)) = true := by decide +kernel
      exact iff_of_true decided nofun
  | deleteRelationship id1 id2 =>
      have decided : fits m_mapTable (sqlOf (.deleteRelationship 0 0)) = true := by decide +kernel
      exact iff_of_true decided nofun
  | updateUserInfo userid newuserinfo =>
      have decided : fits m_mapTable (sqlOf (.updateUserInfo 0 {})) = true := by decide +kernel
      exact iff_of_true decided nofun
  | updatePassword userid newpassword =>
      have decided : fits m_mapTable (sqlOf (.updatePassword 0 [])) = true := by decide +kernel
      exact iff_of_true decided nofun
  | insertChatMsg senderid targetid chatmsg =>
      have decided : fits m_mapTable (sqlOf (.insertChatMsg 0 0 [])) = true := by decide +kernel
      exact iff_of_true decided nofun

theorem selectUsers_fits : fits m_mapTable selectUsers = true := by decide +kernel

theorem selectRelationship_fits (userid : Int32) :
    fits m_mapTable (selectRelationship userid) = true := by
  have decided : fits m_mapTable (selectRelationship 0) = true := by decide +kernel
  exact decided

/-! The database's decision. `suits` tells which values a declared type takes,
and `garbled` what becomes of a text with a string that ends early. -/
section Decision

structure Link where
  connected : Bool
  suits : FieldInfo → Value → Bool
  garbled : Sql → Bool

def plain (data : Bytes) : Prop := ∀ byte ∈ data, byte ≠ 0x27 ∧ byte ≠ 0x5C ∧ byte ≠ 0

instance (data : Bytes) : Decidable (plain data) :=
  inferInstanceAs (Decidable (∀ byte ∈ data, _))

def Value.plain : Value → Bool
  | .string data => decide (SqlStatements.plain data)
  | _ => true

namespace Link

def suitsColumn (link : Link) (info : TableInfo) (entry : String × Value) : Bool :=
  (info.mapField.find? entry.1).all fun field => link.suits field entry.2

/-- Every value suits the column it is written to, where that is declared. -/
def suitsAll (link : Link) (schema : Schema) (sql : Sql) : Bool :=
  (schema.tables.find? sql.table).all fun info => sql.stored.all (link.suitsColumn info)

def accepts (link : Link) (schema : Schema) (sql : Sql) : Bool :=
  link.connected &&
    -- a text names its columns before any value when it is an INSERT
    if sql.values.all Value.plain then fits schema sql && link.suitsAll schema sql
    else fits schema sql && link.garbled sql

end Link

end Decision

/-! The calls on UserManager, each with the database's decision. -/
section Calls

/-- The statement that a call writes with, unless it returns before. -/
def written (store : Store) : Call → Option Statement
  | .addUser user _ =>
      some (.insertUser (store.users.m_baseUserID + 1) user.username user.nickname user.password)
  | .addGroup groupname ownerid _ =>
      some (.insertGroup (store.users.m_baseGrupID + 1) groupname ownerid)
  | .makeFriend smallid greatid _ =>
      if smallid ≥ greatid then none else some (.insertRelationship smallid greatid)
  | .releaseFriend smallid greatid _ =>
      if smallid ≥ greatid then none else some (.deleteRelationship smallid greatid)
  | .updateUserInfo userid newuserinfo _ => some (.updateUserInfo userid newuserinfo)
  | .modifyUserPassword userid newpassword _ => some (.updatePassword userid newpassword)
  | .saveChatMsg senderid targetid chatmsg _ => some (.insertChatMsg senderid targetid chatmsg)
  | .restart => none

/-- Every text that a call hands to the database. -/
def issued (emptyData : Bool) (store : Store) (call : Call) : List Sql :=
  match call with
  | .restart =>
      selectUsers :: (loadUserFromDB emptyData store.database {}).m_cachedUsers.map fun iter =>
        selectRelationship iter.userid
  | _ => ((written store call).map sqlOf).toList

def withAccept (accept : Bool) : Call → Call
  | .addUser user _ => .addUser user accept
  | .addGroup groupname ownerid _ => .addGroup groupname ownerid accept
  | .makeFriend smallid greatid _ => .makeFriend smallid greatid accept
  | .releaseFriend smallid greatid _ => .releaseFriend smallid greatid accept
  | .updateUserInfo userid newuserinfo _ => .updateUserInfo userid newuserinfo accept
  | .modifyUserPassword userid newpassword _ => .modifyUserPassword userid newpassword accept
  | .saveChatMsg senderid targetid chatmsg _ => .saveChatMsg senderid targetid chatmsg accept
  | .restart => .restart

def decision (link : Link) (store : Store) (call : Call) : Bool :=
  (written store call).all fun statement => link.accepts m_mapTable (sqlOf statement)

/-- The call as the database of `link` answers it. -/
def decided (link : Link) (store : Store) (call : Call) : Call :=
  withAccept (decision link store call) call

def answered (emptyData : Bool) (store : Store) (event : Link × Call) : List Bool × Store :=
  called emptyData store (decided event.1 store event.2)

def succeeds (emptyData : Bool) (store : Store) (event : Link × Call) : Bool :=
  (perform emptyData store (decided event.1 store event.2)).1

/-- The calls that are to fail only on a key or on the connection. -/
def inserts : Call → Prop
  | .addUser _ _ | .addGroup _ _ _ | .makeFriend _ _ _ | .saveChatMsg _ _ _ _ => True
  | _ => False

/-- The other two tables are keyed by the column that the server counts up. -/
def clashes (store : Store) : Call → Prop
  | .addUser _ _ => store.users.m_baseUserID + 1 ∈ store.database.t_user.ids
  | .addGroup _ _ _ => store.users.m_baseGrupID + 1 ∈ store.database.t_user.ids
  | _ => False

/-- The values of the call suit the columns it writes them to. -/
def Suited (store : Store) (event : Link × Call) : Prop :=
  (written store event.2).all (fun statement =>
    event.1.suitsAll m_mapTable (sqlOf statement)) = true

instance (store : Store) (event : Link × Call) : Decidable (Suited store event) :=
  inferInstanceAs (Decidable (_ = true))

def Fitting (emptyData : Bool) (store : Store) (event : Link × Call) : Prop :=
  (∀ sql ∈ issued emptyData store event.2, fits m_mapTable sql = true) ∧
    (inserts event.2 → succeeds emptyData store event = false →
      event.1.connected = false ∨ clashes store event.2)

/-- The text of a statement is read as it was meant, or accepted all the same. -/
def Link.reads (link : Link) (statement : Statement) : Prop :=
  (sqlOf statement).values.all Value.plain = true ∨ link.garbled (sqlOf statement) = true

instance (link : Link) (statement : Statement) : Decidable (link.reads statement) :=
  inferInstanceAs (Decidable (_ ∨ _))

def cachedId (store : Store) (id : Int32) : Prop := id ∈ store.cached.map User.userid

instance (store : Store) (id : Int32) : Decidable (cachedId store id) :=
  inferInstanceAs (Decidable (_ ∈ _))

def Sound (store : Store) (event : Link × Call) : Prop :=
  match event.2 with
  | .addUser user _ =>
      event.1.connected = false ∨ store.users.m_baseUserID + 1 ∈ store.database.t_user.ids ∨
        event.1.reads (.insertUser (store.users.m_baseUserID + 1) user.username user.nickname
          user.password)
  | .addGroup _ _ _ => False
  | .makeFriend smallid greatid _ =>
      event.1.connected = false ∨
        smallid < greatid ∧ cachedId store smallid ∧ cachedId store greatid
  | .saveChatMsg senderid targetid chatmsg _ =>
      event.1.connected = false ∨ event.1.reads (.insertChatMsg senderid targetid chatmsg)
  | _ => True

instance (store : Store) (event : Link × Call) : Decidable (Sound store event) :=
  match event with
  | (_, .addUser _ _) => inferInstanceAs (Decidable (_ ∨ _ ∨ _))
  | (_, .addGroup _ _ _) => .isFalse id
  | (_, .makeFriend _ _ _) => inferInstanceAs (Decidable (_ ∨ _ ∧ _ ∧ _))
  | (_, .saveChatMsg _ _ _ _) => inferInstanceAs (Decidable (_ ∨ _))
  | (_, .releaseFriend _ _ _) => .isTrue trivial
  | (_, .updateUserInfo _ _ _) => .isTrue trivial
  | (_, .modifyUserPassword _ _ _) => .isTrue trivial
  | (_, .restart) => .isTrue trivial

end Calls

/-! One call. -/
section Steps

variable {link : Link} {store : Store} {statement : Statement}

theorem accepts_iff (suited : link.suitsAll m_mapTable (sqlOf statement) = true)
    (other : ∀ groupid groupname ownerid, statement ≠ .insertGroup groupid groupname ownerid) :
    link.accepts m_mapTable (sqlOf statement) = true ↔
      link.connected = true ∧ link.reads statement := by
  rw [Link.accepts, Link.reads, suited, (sqlOf_fits statement).mpr other]
  cases (sqlOf statement).values.all Value.plain <;> simp

theorem decision_iff {call : Call} (suited : Suited store (link, call))
    (writes : written store call = some statement)
    (other : ∀ groupid groupname ownerid, statement ≠ .insertGroup groupid groupname ownerid) :
    decision link store call = true ↔ link.connected = true ∧ link.reads statement := by
  rw [Suited, writes, Option.all_some] at suited
  rw [decision, writes, Option.all_some]
  exact accepts_iff suited other

/-- The texts of a restart and of every call but AddGroup fit. -/
theorem issued_fit (emptyData : Bool) (store : Store) (call : Call) :
    (∀ sql ∈ issued emptyData store call, fits m_mapTable sql = true) ↔
      ∀ groupname ownerid accept, call ≠ .addGroup groupname ownerid accept := by
  cases call with
  | restart =>
      refine iff_of_true ?_ nofun
      intro sql member
      rcases List.mem_cons.mp member with rfl | later
      · exact selectUsers_fits
      · obtain ⟨iter, -, rfl⟩ := List.mem_map.mp later
        exact selectRelationship_fits iter.userid
  | addGroup groupname ownerid accept => simp [issued, written, sqlOf_fits]
  | makeFriend smallid greatid accept =>
      simp only [issued, written]
      split_ifs <;> simp [sqlOf_fits]
  | releaseFriend smallid greatid accept =>
      simp only [issued, written]
      split_ifs <;> simp [sqlOf_fits]
  | addUser user accept => simp [issued, written, sqlOf_fits]
  | updateUserInfo userid newuserinfo accept => simp [issued, written, sqlOf_fits]
  | modifyUserPassword userid newpassword accept => simp [issued, written, sqlOf_fits]
  | saveChatMsg senderid targetid chatmsg accept => simp [issued, written, sqlOf_fits]

theorem addUser_succeeds (user : User) (accept : Bool) (store : Store) :
    (store.addUser user accept).1.isSome =
      store.database.accepts accept (store.users.m_baseUserID + 1) := by
  rcases Store.addUser_exact user accept store with ⟨refused, same⟩ | ⟨accepted, table, -, same⟩
  · rw [same, refused]
    rfl
  · rw [same, accepted]
    rfl

theorem saveChatMsg_succeeds (senderid targetid : Int32) (chatmsg : Bytes) (accept : Bool)
    (store : Store) : (store.saveChatMsgToDb senderid targetid chatmsg accept).1 = accept := by
  cases accept <;> rfl

theorem fitting_iff (emptyData : Bool) (store : Store) (event : Link × Call)
    (suited : Suited store event) : Fitting emptyData store event ↔ Sound store event := by
  obtain ⟨link, call⟩ := event
  rw [Fitting, issued_fit]
  cases call with
  | addGroup groupname ownerid accept =>
      exact iff_of_false (fun holds => holds.1 groupname ownerid accept rfl) id
  | restart => exact iff_of_true ⟨by simp, False.elim⟩ trivial
  | releaseFriend smallid greatid accept => exact iff_of_true ⟨by simp, False.elim⟩ trivial
  | updateUserInfo userid newuserinfo accept => exact iff_of_true ⟨by simp, False.elim⟩ trivial
  | modifyUserPassword userid newpassword accept => exact iff_of_true ⟨by simp, False.elim⟩ trivial
  | addUser user accept =>
      have read := decision_iff suited rfl (by simp)
      have result : succeeds emptyData store (link, .addUser user accept) = true ↔
          (link.connected = true ∧ link.reads (.insertUser (store.users.m_baseUserID + 1)
            user.username user.nickname user.password)) ∧
          store.users.m_baseUserID + 1 ∉ store.database.t_user.ids := by
        rw [← read, succeeds, decided, withAccept, perform, addUser_succeeds, Database.accepts,
          Bool.and_eq_true, decide_eq_true_eq]
      rw [← Bool.not_eq_true, result, ← Bool.not_eq_true]
      simp only [Sound, clashes, inserts, true_imp_iff]
      grind
  | makeFriend smallid greatid accept =>
      have result : succeeds emptyData store (link, .makeFriend smallid greatid accept) = true ↔
          link.connected = true ∧ smallid < greatid ∧ cachedId store smallid ∧
            cachedId store greatid := by
        rw [succeeds, decided, withAccept, perform, makeFriend_result, and_left_comm,
          ← cachedId, ← cachedId]
        by_cases order : smallid < greatid
        · have writes : written store (.makeFriend smallid greatid accept) =
              some (.insertRelationship smallid greatid) := if_neg order.not_ge
          -- two numbers: there is nothing in the text to be misread
          have clear : link.reads (.insertRelationship smallid greatid) := Or.inl rfl
          rw [decision_iff suited writes (by simp)]
          simp [clear]
        · simp [order]
      rw [← Bool.not_eq_true, result, ← Bool.not_eq_true]
      simp only [Sound, clashes, inserts, true_imp_iff]
      grind
  | saveChatMsg senderid targetid chatmsg accept =>
      have read := decision_iff suited rfl (by simp)
      have result : succeeds emptyData store (link, .saveChatMsg senderid targetid chatmsg accept) =
          true ↔ link.connected = true ∧ link.reads (.insertChatMsg senderid targetid chatmsg) := by
        rw [← read, succeeds, decided, withAccept, perform, saveChatMsg_succeeds]
      rw [← Bool.not_eq_true, result, ← Bool.not_eq_true]
      simp only [Sound, clashes, inserts, true_imp_iff]
      grind

end Steps

/-- In every run, a call of UserManager hands over statements that fit the
declared tables, and its inserts fail on a key or the connection only, if and
only if it is not AddGroup, makes friends of two cached users given in order,
and its strings do not end the quoted text. -/
theorem statements_fit_iff (emptyData : Bool) (store : Store) (events : List (Link × Call))
    (suited : Along (answered emptyData) (Suited) store events) :
    Along (answered emptyData) (Fitting emptyData) store events ↔
      Along (answered emptyData) Sound store events := by
  exact along_iff_of (answered emptyData) (fitting_iff emptyData) store events suited

section Samples

/-- A database that is there, takes numbers for number columns and strings of up
to 64 bytes for string columns, and reads no text that a string cuts short. -/
def localDatabase : Link where
  connected := true
  suits field value :=
    match value with
    | .int _ => decide (names "int" field.sDesc)
    | .string data =>
        decide (names "varchar(64)" field.sDesc ∧ data.length ≤ 64) || decide (field.sDesc = "blob")
    | .now => decide (field.sDesc = "datetime")
  garbled _ := false

def people : List (Link × Call) :=
  [(localDatabase, .addUser { username := text "ann", nickname := text "Ann" } false),
    (localDatabase, .addUser { username := text "bob", nickname := text "Bob" } false),
    (localDatabase, .makeFriend 1 2 false), (localDatabase, .saveChatMsg 1 2 (text "hi") false)]

theorem statements_fit_people :
    Along (answered false) Suited {} people ∧
      Along (answered false) (Fitting false) {} people := by
  have suited : Along (answered false) Suited {} people := by decide +kernel
  exact ⟨suited, (statements_fit_iff false {} people suited).mpr (by decide +kernel)⟩

/-- A database made from the declarations refuses every new group. -/
theorem group_refused :
    let event := (localDatabase, Call.addGroup (text "team") 1 false)
    Suited {} event ∧ succeeds false {} event = false ∧ localDatabase.connected = true ∧
      ¬ clashes {} event.2 ∧ ¬ Along (answered false) (Fitting false) {} [event] := by
  intro event
  refine ⟨by decide +kernel, by decide +kernel, rfl, List.not_mem_nil, ?_⟩
  rintro ⟨⟨texts, -⟩, -⟩
  exact (issued_fit false {} event.2).mp texts (text "team") 1 false rfl

end Samples

end EdoyumIM.SqlStatements
