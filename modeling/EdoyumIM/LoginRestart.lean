import EdoyumIM.HandlerSteps
import EdoyumIM.UserLockstep

/-!
A login before and after a restart. The running server answers from the first
cached record with the user name, in the order in which the records were added;
a server started on the same database answers from the row with the greatest id
and with the values that the schema put there.
-/

namespace EdoyumIM.LoginRestart

open MachineWords FieldCodec JsonValue OrderedStore Effects UserStore ChatWorld ChatServer
open HandlerSteps PairedLists IdClasses UserLockstep
open SessionFraming (send)

section Replies

variable (env : Env)

/-- The response to a well-formed login request. -/
def judge (store : Store) (username password : Bytes) : Json :=
  match store.getUserInfoByUsername username with
  | none => .ofMembers (codeMsg 103 "user is not exist or password is incorrest!")
  | some user =>
      if password ≠ user.password then
        .ofMembers (codeMsg 104 "user is not exist or password is incorrest!")
      else profile user username

/-- The JSON text of a login response, or the exception. -/
def loginReply (store : Store) (data : Bytes) : Except Fault Json :=
  match env.parse data with
  | .error fault => .error fault
  | .ok none => .ok (.ofMembers (codeMsg 101 "json pares failed!"))
  | .ok (some root) =>
      match loginFields root with
      | .error fault => .error fault
      | .ok none => .ok (.ofMembers (codeMsg 102 "json data type error!"))
      | .ok (some (username, password)) => .ok (judge store username password)

/-- The first thing a login does on its connection is to send this reply. -/
theorem login_replies (me : ClientSession) (conn data : Bytes) (world : World) :
    match loginReply env world.store data with
    | .error fault =>
        (onLoginResponse env me conn data world).trace = [] ∧
          (onLoginResponse env me conn data world).value = .error fault
    | .ok response =>
        (onLoginResponse env me conn data world).trace.head? =
          some (.send conn (send ((header .login me.m_seq).writeString
            (env.toStyledString response))).1 .reply) := by
  simp only [loginReply, judge, onLoginResponse]
  cases parsed : env.parse data with
  | error fault => exact ⟨rfl, rfl⟩
  | ok document =>
  cases document with
  | none => rfl
  | some root =>
  simp only [Act.lift_ok_bind]
  cases fields : loginFields root with
  | error fault => exact ⟨rfl, rfl⟩
  | ok checked =>
  cases checked with
  | none => rfl
  | some pair =>
  obtain ⟨username, password⟩ := pair
  simp only [Act.lift_ok_bind, look, Act.gets_bind]
  cases found : Store.getUserInfoByUsername username world.store with
  | none => rfl
  | some user =>
      by_cases agrees : password = user.password
      · simp only [agrees, ne_eq, not_true_eq_false, ↓reduceIte]
        rw [logIn, Act.bind_ok _ _ _ () rfl, Act.bind_ok (answer _ _ _ _ _) _ _ () rfl]
        rfl
      · simp only [agrees, ne_eq, not_false_eq_true, ↓reduceIte]
        rfl

/-- A response tells every field of the record apart. -/
theorem profile_eq_iff (one other : User) (username : Bytes) :
    profile one username = profile other username ↔
      one.userid = other.userid ∧ one.nickname = other.nickname ∧
      one.facetype = other.facetype ∧ one.custimface = other.custimface ∧
      one.gender = other.gender ∧ one.birthday = other.birthday ∧
      one.signature = other.signature ∧ one.address = other.address ∧
      one.phonenumber = other.phonenumber ∧ one.mail = other.mail := by
  simp [profile, Json.ofMembers, codeMsg, Json.ofInt32, Int32.toInt_inj]

theorem profile_not_refusal (user : User) (username : Bytes) (code : Int32) (msg : String) :
    profile user username ≠ .ofMembers (codeMsg code msg) := by
  simp [profile, Json.ofMembers, codeMsg]

end Replies

/-! The record that answers. -/
section Lookups

/-- The record with the greatest id of those with the user name. -/
def Newest (store : Store) (username : Bytes) (user : User) : Prop :=
  user ∈ store.cached ∧ user.username = username ∧
    ∀ other ∈ store.cached, other.username = username → other.userid ≤ user.userid

/-- The first and the newest record with the name both refuse the password, or
they are one record and its profile has been saved. -/
def Steady (unsaved : List Int32) (store : Store) (username password : Bytes) : Prop :=
  ∀ first newest, store.getUserInfoByUsername username = some first →
    Newest store username newest →
    (password ≠ first.password ∧ password ≠ newest.password) ∨
      (first.userid = newest.userid ∧ first.userid ∉ unsaved)

theorem descending_sorted (database : Database) :
    (descending database).Pairwise fun left right => right.f_user_id ≤ left.f_user_id :=
  List.pairwise_insertionSort (fun left right : UserRow => right.f_user_id ≤ left.f_user_id) _

/-- A search from the greatest id down. -/
theorem descending_find (database : Database) (username : Bytes) (row : UserRow)
    (found : (descending database).find? (fun row => row.f_username = username) = some row) :
    row ∈ database.t_user.rows ∧ row.f_username = username ∧
      ∀ other ∈ database.t_user.rows, other.f_username = username →
        other.f_user_id ≤ row.f_user_id := by
  obtain ⟨hit, before, after, split, earlier⟩ := List.find?_eq_some_iff_append.mp found
  have sorted := descending_sorted database
  refine ⟨(descending_perm database).mem_iff.mp (List.mem_of_find?_eq_some found),
    of_decide_eq_true hit, ?_⟩
  intro other member mine
  have inside := (descending_perm database).mem_iff.mpr member
  rw [split] at inside sorted
  rcases List.mem_append.mp inside with early | late
  · simpa [mine] using earlier other early
  · rcases List.mem_cons.mp late with rfl | later
    · exact le_rfl
    · exact (List.pairwise_cons.mp (List.pairwise_append.mp sorted).2.1).1 other later

theorem started_lookup (emptyData : Bool) (database : Database) (username : Bytes)
    (reads : ReadsRows emptyData database) :
    (started emptyData database).getUserInfoByUsername username =
      ((descending database).find? fun row => row.f_username = username).map
        (loaded emptyData database) := by
  rw [Store.getUserInfoByUsername, started_cached emptyData database reads, List.find?_map]
  rfl

variable {unsaved : List Int32} {store : Store}

/-- Where nobody has the name, no row has it. -/
theorem lookup_none (mirrored : Mirrored unsaved store) (username : Bytes)
    (absent : store.getUserInfoByUsername username = none) :
    (descending store.database).find? (fun row => row.f_username = username) = none := by
  apply List.find?_eq_none.mpr
  intro row member mine
  have inside := (descending_perm store.database).mem_iff.mp member
  obtain ⟨user, present, same⟩ := mirrored.covered row inside
  have shows := mirrored.related_of_key store.database.t_user.primaryKey present inside same
  exact List.find?_eq_none.mp absent user present (by simpa [shows.username] using mine)

/-- Where somebody has the name, the row that a start finds is that of the newest
such record. -/
theorem lookup_some (mirrored : Mirrored unsaved store) (username : Bytes) (first : User)
    (found : store.getUserInfoByUsername username = some first) :
    ∃ row newest, (descending store.database).find? (fun row => row.f_username = username) =
        some row ∧
      Newest store username newest ∧ newest.userid = row.f_user_id ∧ Shows unsaved newest row := by
  have here := List.mem_of_find?_eq_some found
  have name : first.username = username := by simpa using List.find?_some found
  obtain ⟨own, inside, -, shows⟩ := mirrored.matched first here
  have hit : ((descending store.database).find? fun row => row.f_username = username).isSome :=
    List.find?_isSome.mpr ⟨own, (descending_perm store.database).mem_iff.mpr inside,
      by simp [← shows.username, name]⟩
  obtain ⟨row, located⟩ := Option.isSome_iff_exists.mp hit
  obtain ⟨present, mine, greatest⟩ := descending_find store.database username row located
  obtain ⟨newest, cached, same⟩ := mirrored.covered row present
  have showsRow := mirrored.related_of_key store.database.t_user.primaryKey cached present same
  refine ⟨row, newest, located, ⟨cached, showsRow.username.trans mine, ?_⟩, same, showsRow⟩
  intro other member otherName
  obtain ⟨otherRow, otherInside, otherSame, otherShows⟩ := mirrored.matched other member
  rw [otherSame, same]
  exact greatest otherRow otherInside (otherShows.username.symm.trans otherName)

theorem newest_unique (mirrored : Mirrored unsaved store) (username : Bytes) (one other : User)
    (first : Newest store username one) (second : Newest store username other) : one = other :=
  mirrored.unique first.1 second.1
    (le_antisymm (second.2.2 one first.1 first.2.1) (first.2.2 other second.1 second.2.1))

/-- A record and the one loaded from a row show the same profile exactly if the
row is its own and the record is saved. -/
theorem profile_loaded_iff (emptyData : Bool) (mirrored : Mirrored unsaved store)
    (username : Bytes) (first newest : User) (row : UserRow) (here : first ∈ store.cached)
    (there : newest ∈ store.cached) (same : newest.userid = row.f_user_id)
    (shows : Shows unsaved newest row) :
    profile first username = profile (loaded emptyData store.database row) username ↔
      first.userid = newest.userid ∧ first.userid ∉ unsaved := by
  rw [profile_eq_iff]
  constructor
  · rintro ⟨ids, -, -, -, -, birthday, -⟩
    have only : first = newest := mirrored.unique here there (ids.trans same.symm)
    subst only
    exact ⟨rfl, fun fresh => shows.fresh fresh birthday⟩
  · rintro ⟨ids, saved⟩
    have only : first = newest := mirrored.unique here there ids
    subst only
    obtain ⟨facetype, custimface, gender, birthday, signature, address, phonenumber, mail⟩ :=
      shows.saved saved
    exact ⟨same, shows.nickname, facetype, custimface, gender, birthday, signature, address,
      phonenumber, mail⟩

theorem judge_eq_iff (emptyData : Bool) (mirrored : Mirrored unsaved store)
    (reads : ReadsRows emptyData store.database) (username password : Bytes) :
    judge store username password = judge (started emptyData store.database) username password ↔
      Steady unsaved store username password := by
  rw [judge, judge, started_lookup emptyData store.database username reads]
  cases found : store.getUserInfoByUsername username with
  | none =>
      rw [lookup_none mirrored username found]
      simp [Steady, found]
  | some first =>
      obtain ⟨row, newest, located, isNewest, same, shows⟩ :=
        lookup_some mirrored username first found
      have steady : Steady unsaved store username password ↔
          (password ≠ first.password ∧ password ≠ row.f_password) ∨
            (first.userid = newest.userid ∧ first.userid ∉ unsaved) := by
        rw [← shows.password]
        constructor
        · intro holds
          exact holds first newest found isNewest
        · intro condition one other foundOne otherNewest
          obtain rfl := Option.some.inj (found.symm.trans foundOne)
          rwa [newest_unique mirrored username other newest otherNewest isNewest]
      have profiles := profile_loaded_iff emptyData mirrored username first newest row
        (List.mem_of_find?_eq_some found) isNewest.1 same shows
      have loadedPassword : (loaded emptyData store.database row).password = row.f_password := rfl
      rw [steady, located]
      simp only [Option.map_some, loadedPassword]
      have apart : first.password ≠ row.f_password → first.userid ≠ newest.userid := by
        intro different ids
        have only := mirrored.unique (List.mem_of_find?_eq_some found) isNewest.1 ids
        exact different (only ▸ shows.password)
      by_cases one : password = first.password
      · by_cases other : password = row.f_password
        · simp only [← one, ← other, ne_eq, not_true_eq_false, ↓reduceIte, and_self, false_or]
          exact profiles
        · -- only the running server lets the user in
          have ids := apart (one ▸ other)
          simp [other, ← one, ids, profile_not_refusal]
      · by_cases other : password = row.f_password
        · have ids := apart (other ▸ Ne.symm one)
          simp [one, ← other, ids, (profile_not_refusal _ _ _ _).symm]
        · simp [one, other]

theorem reply_eq_iff (env : Env) (mirrored : Mirrored unsaved store)
    (reads : ReadsRows env.emptyData store.database) (data : Bytes) :
    loginReply env store data = loginReply env (started env.emptyData store.database) data ↔
      ∀ username password, loginRequest env data = some (username, password) →
        Steady unsaved store username password := by
  simp only [loginReply, loginRequest]
  cases parsed : env.parse data with
  | error fault => simp
  | ok document =>
  cases document with
  | none => simp
  | some root =>
  dsimp only
  cases fields : loginFields root with
  | error fault => simp
  | ok checked =>
  cases checked with
  | none => simp
  | some pair =>
      obtain ⟨username, password⟩ := pair
      simp only [Except.ok.injEq, judge_eq_iff env.emptyData mirrored reads]
      constructor
      · rintro steady name word same
        obtain ⟨rfl, rfl⟩ := Prod.mk.inj (Option.some.inj same)
        exact steady
      · intro steady
        exact steady username password rfl

end Lookups

/-! Rows are never deleted from t_user. -/
section Starts

variable {unsaved : List Int32} {store : Store}

theorem changeRecord_rows (statement : Statement) (userid : Int32) (change : User → User)
    (changeRow : UserRow → UserRow) (accept : Bool) (mirrored : Mirrored unsaved store)
    (applies : store.database.apply statement =
      some (store.database.withUsers (store.database.t_user.update userid changeRow))) :
    (changeRecord statement userid change accept store).2.database.t_user.rows.length =
      store.database.t_user.rows.length := by
  rcases changeRecord_cases unsaved statement userid change changeRow accept store mirrored applies
    with nothing | both
  · rw [nothing]
  · rw [both]
    exact List.length_map _

theorem perform_rows (emptyData : Bool) (call : Call) (mirrored : Mirrored unsaved store) :
    store.database.t_user.rows.length ≤
      (perform emptyData store call).2.database.t_user.rows.length := by
  cases call with
  | addUser user accept =>
      rcases Store.addUser_exact user accept store with ⟨-, refused⟩ | ⟨-, table, rows, same⟩
      · rw [perform, refused]
        exact le_rfl
      · rw [perform, same]
        simp [Database.withUsers, rows]
  | addGroup groupname ownerid accept =>
      rcases Store.addGroup_exact groupname ownerid accept store with
        ⟨-, refused⟩ | ⟨-, table, rows, same⟩
      · rw [perform, refused]
        exact le_rfl
      · rw [perform, same]
        simp [Database.withUsers, rows]
  | makeFriend smallid greatid accept =>
      rw [perform, Store.makeFriendRelationship]
      split_ifs
      · exact le_rfl
      · rcases Store.excute_cases accept (.insertRelationship smallid greatid) store with
          refused | ⟨changed, applied, accepted⟩
        · rw [refused]
        · rw [accepted]
          obtain rfl := Option.some.inj applied
          exact le_rfl
  | releaseFriend smallid greatid accept =>
      rw [perform, Store.releaseFriendRelationship]
      split_ifs
      · exact le_rfl
      · rcases Store.excute_cases accept (.deleteRelationship smallid greatid) store with
          refused | ⟨changed, applied, accepted⟩
        · rw [refused]
        · rw [accepted]
          obtain rfl := Option.some.inj applied
          exact le_rfl
  | updateUserInfo userid newuserinfo accept =>
      exact (changeRecord_rows (.updateUserInfo userid newuserinfo) userid (rewritten newuserinfo) _
        accept mirrored rfl).ge
  | modifyUserPassword userid newpassword accept =>
      exact (changeRecord_rows (.updatePassword userid newpassword) userid _ _ accept mirrored
        rfl).ge
  | saveChatMsg senderid targetid chatmsg accept =>
      rw [perform, Store.saveChatMsgToDb]
      rcases Store.excute_cases accept (.insertChatMsg senderid targetid chatmsg) store with
        refused | ⟨changed, applied, accepted⟩
      · rw [refused]
      · rw [accepted]
        obtain rfl := Option.some.inj applied
        exact le_rfl
  | restart => exact le_rfl

/-- A server that was first started on rows is always restarted on rows. -/
theorem run_readsRows (emptyData : Bool) (calls : List Call) (store : Store)
    (unsaved : List Int32) (mirrored : Mirrored unsaved store)
    (reads : ReadsRows emptyData store.database) :
    Along (called emptyData) (startsOnRows emptyData) store calls ∧
      ReadsRows emptyData (run (called emptyData) store calls).2.database := by
  induction calls generalizing store unsaved with
  | nil => exact ⟨trivial, reads⟩
  | cons call rest ih =>
      have here : startsOnRows emptyData store call := by
        cases call <;> trivial
      have grown := perform_rows emptyData call mirrored
      have next : ReadsRows emptyData (perform emptyData store call).2.database := by
        rcases reads with exact' | some'
        · exact Or.inl exact'
        · right
          have positive := List.length_pos_iff.mpr some'
          exact List.length_pos_iff.mp (positive.trans_le grown)
      obtain ⟨later, last⟩ := ih _ _ (perform_mirrored emptyData unsaved store call mirrored here) next
      exact ⟨⟨here, later⟩, last⟩

end Starts

/-- In every state of a server that was first started on rows (or whose query
results are iterated exactly) and for every login request, the running server and
one restarted on the same database give the same response if and only if the
request is malformed, nobody has the user name, the first and the newest record
with the name both refuse the password, or they are one record whose profile the
database has. -/
theorem login_survives_restart_iff (env : Env) (database : Database) (calls : List Call)
    (reads : ReadsRows env.emptyData database) (data : Bytes) :
    let start := started env.emptyData database
    let store := (run (called env.emptyData) start calls).2
    loginReply env store data = loginReply env (started env.emptyData store.database) data ↔
      ∀ username password, loginRequest env data = some (username, password) →
        Steady (unsavedIds env.emptyData start [] calls) store username password := by
  intro start store
  have mirrored : Mirrored [] start := started_mirrored env.emptyData database reads
  obtain ⟨starts, last⟩ := run_readsRows env.emptyData calls start [] mirrored reads
  exact reply_eq_iff env (run_mirrored env.emptyData calls start [] mirrored starts) last data

def exactEnv : Env := { sampleEnv with emptyData := false }

def newcomer : User := { username := text "a", nickname := text "a", password := text "p" }

theorem login_survives_restart_iff_reloaded :
    let store := (run (called false) (started false {}) [.addUser newcomer true, .restart]).2
    let data := requestText (logsIn "a" "p")
    ReadsRows exactEnv.emptyData {} ∧
    loginReply exactEnv store data = loginReply exactEnv (started false store.database) data := by
  intro store data
  have reads : ReadsRows exactEnv.emptyData {} := Or.inl rfl
  refine ⟨reads, (login_survives_restart_iff exactEnv {} [.addUser newcomer true, .restart] reads
    data).mpr ?_⟩
  intro username password _ first newest found isNewest
  have only : store.cached.map User.userid = [1] := by decide +kernel
  have mine : ∀ user ∈ store.cached, user.userid = 1 := by
    intro user member
    have listed : user.userid ∈ store.cached.map User.userid := List.mem_map_of_mem member
    rw [only] at listed
    exact List.mem_singleton.mp listed
  right
  constructor
  · rw [mine first (List.mem_of_find?_eq_some found)]
    exact (mine newest isNewest.1).symm
  · exact List.not_mem_nil

/-- Somebody registers and logs in: the response names another birthday than it
does after a restart. -/
theorem birthday_changes_on_restart :
    let store := (run (called false) (started false {}) [.addUser newcomer true]).2
    let data := requestText (logsIn "a" "p")
    loginReply exactEnv store data ≠ loginReply exactEnv (started false store.database) data := by
  intro store data same
  have texts := congrArg (fun reply => reply.toOption.map styledText) same
  revert texts
  decide +kernel

end EdoyumIM.LoginRestart
