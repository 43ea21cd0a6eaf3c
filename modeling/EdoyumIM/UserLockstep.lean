import EdoyumIM.GroupAccounts
import EdoyumIM.IdClasses
import EdoyumIM.PairedLists

/-!
The cached users beside t_user. Every function of UserManager writes the
database first and the cache second; a start loads the cache from the table.
The calls here are those the server makes, with any arguments, each with the
database's decision about its statement. A cached record agrees with the row
under its id on what identifies and admits a user; it shows the same profile
too, unless it was added since the last start and never updated, because
AddUser and AddGroup put other values into the record than the schema puts into
the row.
-/

namespace EdoyumIM.UserLockstep

open MachineWords JsonValue OrderedStore Effects UserStore PairedLists IdClasses
open ChatWorld ChatServer HandlerSteps
open GroupAccounts (Life live deliver_store finish_state process_login_store)

section Calls

inductive Call where
  | addUser (user : User) (accept : Bool)
  | addGroup (groupname : Bytes) (ownerid : Int32) (accept : Bool)
  | makeFriend (smallid greatid : Int32) (accept : Bool)
  | releaseFriend (smallid greatid : Int32) (accept : Bool)
  | updateUserInfo (userid : Int32) (newuserinfo : User) (accept : Bool)
  | modifyUserPassword (userid : Int32) (newpassword : Bytes) (accept : Bool)
  | saveChatMsg (senderid targetid : Int32) (chatmsg : Bytes) (accept : Bool)
  | restart

/-- What a call returns, and the store behind it. -/
def perform (emptyData : Bool) (store : Store) : Call → Bool × Store
  | .addUser user accept => ((store.addUser user accept).1.isSome, (store.addUser user accept).2)
  | .addGroup groupname ownerid accept =>
      ((store.addGroup groupname ownerid accept).1.isSome,
        (store.addGroup groupname ownerid accept).2)
  | .makeFriend smallid greatid accept => store.makeFriendRelationship smallid greatid accept
  | .releaseFriend smallid greatid accept => store.releaseFriendRelationship smallid greatid accept
  | .updateUserInfo userid newuserinfo accept => store.updateUserInfo userid newuserinfo accept
  | .modifyUserPassword userid newpassword accept =>
      store.modifyUserPassword userid newpassword accept
  | .saveChatMsg senderid targetid chatmsg accept =>
      store.saveChatMsgToDb senderid targetid chatmsg accept
  | .restart => (true, started emptyData store.database)

def called (emptyData : Bool) (store : Store) (call : Call) : List Bool × Store :=
  ([(perform emptyData store call).1], (perform emptyData store call).2)

/-- The user that a call on t_user is about. -/
def named (store : Store) : Call → Option Int32
  | .addUser _ _ => some (store.users.m_baseUserID + 1)
  | .addGroup _ _ _ => some (store.users.m_baseGrupID + 1)
  | .updateUserInfo userid _ _ => some userid
  | .modifyUserPassword userid _ _ => some userid
  | _ => none

/-- The ids added since the last start whose record was never updated. -/
def noteUnsaved (emptyData : Bool) (store : Store) (unsaved : List Int32) (call : Call) :
    List Int32 :=
  match call with
  | .addUser _ _ =>
      if (perform emptyData store call).1 then (store.users.m_baseUserID + 1) :: unsaved
      else unsaved
  | .addGroup _ _ _ =>
      if (perform emptyData store call).1 then (store.users.m_baseGrupID + 1) :: unsaved
      else unsaved
  | .updateUserInfo userid _ _ =>
      if (perform emptyData store call).1 then unsaved.filter (· ≠ userid) else unsaved
  | .restart => []
  | _ => unsaved

def unsavedIds (emptyData : Bool) : Store → List Int32 → List Call → List Int32
  | _, unsaved, [] => unsaved
  | store, unsaved, call :: rest =>
      unsavedIds emptyData (perform emptyData store call).2
        (noteUnsaved emptyData store unsaved call) rest

/-- A start reads rows only: not the cleared row of an empty result. -/
def ReadsRows (emptyData : Bool) (database : Database) : Prop :=
  emptyData = false ∨ database.t_user.rows ≠ []

def startsOnRows (emptyData : Bool) (store : Store) : Call → Prop
  | .restart => ReadsRows emptyData store.database
  | _ => True

end Calls

/-! The server makes no other calls. -/
section Server

def Called (emptyData : Bool) (before : World) (_trace : List Label) (after : World) : Prop :=
  ∃ calls, after.store = (run (called emptyData) before.store calls).2

theorem called_composable (emptyData : Bool) : Composable (Called emptyData) where
  nothing _ := ⟨[], rfl⟩
  sequence := by
    rintro before middle after first second ⟨calls, reached⟩ ⟨more, last⟩
    exact ⟨calls ++ more, by rw [run_append, ← reached, last]⟩

theorem called_still (emptyData : Bool) (before after : World) (trace : List Label)
    (same : after.store = before.store) : Called emptyData before trace after := ⟨[], same⟩

theorem basic_called {me : ClientSession} {kind : Option MsgType} {conn data : Bytes} {α : Type}
    {command : Handler α} (emptyData : Bool) (basic : Basic me kind conn data α command) :
    Keeps (Called emptyData) command := by
  intro world
  cases basic with
  | look question blind => exact ⟨[], rfl⟩
  | reply bytes => exact ⟨[], rfl⟩
  | status peer bytes => exact ⟨[], rfl⟩
  | edit change keepsUser blind => exact ⟨[], rfl⟩
  | direct target small => exact called_still _ _ _ _ (deliver_store _ _ _ _ _ world)
  | group target writer => exact called_still _ _ _ _ (deliver_store _ _ _ _ _ world)
  | notify type target outbuf => exact called_still _ _ _ _ (deliver_store _ _ _ _ _ world)
  | ask call =>
      let accept := world.answers world.asked
      cases call with
      | addUser user => exact ⟨[.addUser user accept], rfl⟩
      | addGroup groupname creates => exact ⟨[.addGroup groupname me.userID accept], rfl⟩
      | makeFriend smallid greatid => exact ⟨[.makeFriend smallid greatid accept], rfl⟩
      | releaseFriend smallid greatid => exact ⟨[.releaseFriend smallid greatid accept], rfl⟩
      | updateUserInfo newuserinfo => exact ⟨[.updateUserInfo me.userID newuserinfo accept], rfl⟩
      | modifyUserPassword newpassword =>
          exact ⟨[.modifyUserPassword me.userID newpassword accept], rfl⟩
      | saveChatMsg target text => exact ⟨[.saveChatMsg me.userID target text accept], rfl⟩

theorem login_called (env : Env) (emptyData : Bool) (me : ClientSession) (conn data : Bytes) :
    Keeps (Called emptyData) (onLoginResponse env me conn data) := by
  intro world
  rcases login_cases env me conn data world with
    ⟨username, password, user, -, granted⟩ | ⟨-, unchanged, -⟩
  · obtain ⟨_, _, -, -, state⟩ := logIn_outcome env me conn world username password user
    exact called_still _ _ _ _ (by rw [granted, state]; rfl)
  · exact called_still _ _ _ _ (by rw [unchanged])

theorem live_called (env : Env) (world : World) (life : Life) :
    Called env.emptyData world (live env world life).1 (live env world life).2 := by
  cases life with
  | restart => exact ⟨[.restart], rfl⟩
  | event event =>
      rw [live, step]
      split
      · cases event with
        | connect conn junkTarget => exact ⟨[], rfl⟩
        | disconnect conn => exact ⟨[], rfl⟩
        | frame conn msgbuff mem garbage =>
            rw [serve]
            cases found : world.m_mapclient.find? conn with
            | none => exact ⟨[], rfl⟩
            | some me =>
                obtain ⟨calls, reached⟩ := process_keeps env me conn mem garbage msgbuff
                  (called_composable env.emptyData)
                  (fun _ _ _ {_ _} basic => basic_called env.emptyData basic)
                  (fun _ _ => login_called env env.emptyData _ conn _) world
                exact ⟨calls, (finish_state _).trans reached⟩
      · exact ⟨[], rfl⟩

/-- The store of every server run is one that a run of calls reaches. -/
theorem server_store_called (env : Env) (database : Database) (answers : Nat → Bool) (asked : Nat)
    (lives : List Life) :
    ∃ calls, (run (live env) (boot env database answers asked) lives).2.store =
      (run (called env.emptyData) (started env.emptyData database) calls).2 :=
  run_keeps (live env) (called_composable env.emptyData) (live_called env)
    (boot env database answers asked) lives

end Server

/-! The loops over the cached users, where every id occurs once. -/
section Loops

def relate (edit : Int32 → OrderedSet Int32 → OrderedSet Int32) (userid friendid : Int32)
    (iter : User) : User :=
  if iter.userid = userid then { iter with friends := edit friendid iter.friends }
  else if iter.userid = friendid then { iter with friends := edit userid iter.friends }
  else iter

theorem relate_userid (edit : Int32 → OrderedSet Int32 → OrderedSet Int32)
    (userid friendid : Int32) (iter : User) :
    (relate edit userid friendid iter).userid = iter.userid := by
  rw [relate]
  split_ifs <;> rfl

theorem map_relate_absent (edit : Int32 → OrderedSet Int32 → OrderedSet Int32)
    (userid friendid : Int32) (users : List User) (noFirst : userid ∉ users.map User.userid)
    (noSecond : friendid ∉ users.map User.userid) :
    users.map (relate edit userid friendid) = users := by
  induction users with
  | nil => rfl
  | cons iter rest ih =>
      simp only [List.map_cons, List.mem_cons, not_or] at noFirst noSecond
      rw [List.map_cons, ih noFirst.2 noSecond.2, relate, if_neg (Ne.symm noFirst.1),
        if_neg (Ne.symm noSecond.1)]

theorem relateLoop_cons (edit : Int32 → OrderedSet Int32 → OrderedSet Int32)
    (userid friendid : Int32) (apart : userid ≠ friendid) (bFound1 bFound2 : Bool) (iter : User)
    (rest : List User) :
    (Store.relateLoop edit userid friendid bFound1 bFound2 (iter :: rest)).2 =
      relate edit userid friendid iter ::
        if (bFound1 || decide (iter.userid = userid)) &&
            (bFound2 || decide (iter.userid = friendid)) then rest
        else (Store.relateLoop edit userid friendid (bFound1 || decide (iter.userid = userid))
          (bFound2 || decide (iter.userid = friendid)) rest).2 := by
  simp only [Store.relateLoop]
  by_cases mine : iter.userid = userid
  · cases bFound2 <;> simp [relate, mine, apart]
  · by_cases other : iter.userid = friendid
    · cases bFound1 <;> simp [relate, other, apart.symm]
    · cases bFound1 <;> cases bFound2 <;> simp [relate, mine, other]

theorem relateLoop_result (edit : Int32 → OrderedSet Int32 → OrderedSet Int32)
    (userid friendid : Int32) (bFound1 bFound2 : Bool) (iter : User) (rest : List User) :
    (Store.relateLoop edit userid friendid bFound1 bFound2 (iter :: rest)).1 =
      if (bFound1 || decide (iter.userid = userid)) &&
          (bFound2 || decide (iter.userid = friendid)) then true
      else (Store.relateLoop edit userid friendid (bFound1 || decide (iter.userid = userid))
        (bFound2 || decide (iter.userid = friendid)) rest).1 := by
  simp only [Store.relateLoop]
  exact apply_ite Prod.fst _ _ _

/-- The loop succeeds if and only if it meets both ids. -/
theorem relateLoop_found (edit : Int32 → OrderedSet Int32 → OrderedSet Int32)
    (userid friendid : Int32) (users : List User) (bFound1 bFound2 : Bool)
    (missing : (bFound1 && bFound2) = false) :
    (Store.relateLoop edit userid friendid bFound1 bFound2 users).1 = true ↔
      (bFound1 = true ∨ userid ∈ users.map User.userid) ∧
        (bFound2 = true ∨ friendid ∈ users.map User.userid) := by
  induction users generalizing bFound1 bFound2 with
  | nil => cases bFound1 <;> cases bFound2 <;> simp_all [Store.relateLoop]
  | cons iter rest ih =>
      have met : ∀ (found : Bool) (id : Int32),
          (found || decide (iter.userid = id)) = true ∨ id ∈ rest.map User.userid ↔
            found = true ∨ id ∈ (iter :: rest).map User.userid := by
        intro found id
        rw [Bool.or_eq_true, decide_eq_true_eq, or_assoc, List.map_cons, List.mem_cons, @eq_comm _ id]
      rw [relateLoop_result, ← met bFound1, ← met bFound2]
      cases both : (bFound1 || decide (iter.userid = userid)) &&
          (bFound2 || decide (iter.userid = friendid)) with
      | true =>
          obtain ⟨one, other⟩ := (Bool.and_eq_true _ _).mp both
          exact iff_of_true rfl ⟨Or.inl one, Or.inl other⟩
      | false => exact ih _ _ both

/-- Both updates leave everything alone, or change the row first. -/
theorem relationship_cases (statement : Statement) (follow : Store → Bool × Store)
    (smallid greatid : Int32) (accept : Bool) (store : Store) {changed : Database}
    (applied : store.database.apply statement = some changed) {outcome : Bool × Store}
    (update : outcome = if smallid ≥ greatid then (false, store)
      else match store.excute accept statement with
        | (false, refused) => (false, refused)
        | (true, done) => follow done) :
    ((smallid ≥ greatid ∨ accept = false) ∧ outcome = (false, store)) ∨
      (smallid < greatid ∧ accept = true ∧ outcome = follow { store with database := changed }) := by
  rw [update]
  split_ifs with order
  · exact Or.inl ⟨Or.inl order, rfl⟩
  · cases accept with
    | false => exact Or.inl ⟨Or.inr rfl, rfl⟩
    | true =>
        refine Or.inr ⟨not_le.mp order, rfl, ?_⟩
        simp only [Store.excute, Database.excute, applied, if_true]

theorem makeFriend_cases (smallid greatid : Int32) (accept : Bool) (store : Store) :
    ((smallid ≥ greatid ∨ accept = false) ∧
      store.makeFriendRelationship smallid greatid accept = (false, store)) ∨
    (smallid < greatid ∧ accept = true ∧
      store.makeFriendRelationship smallid greatid accept =
        Store.addFriendToUser smallid greatid
          { store with database :=
              { store.database with
                t_user_relationship :=
                  store.database.t_user_relationship ++ [(smallid, greatid)] } }) :=
  relationship_cases (.insertRelationship smallid greatid) (Store.addFriendToUser smallid greatid)
    smallid greatid accept store rfl rfl

theorem releaseFriend_cases (smallid greatid : Int32) (accept : Bool) (store : Store) :
    ((smallid ≥ greatid ∨ accept = false) ∧
      store.releaseFriendRelationship smallid greatid accept = (false, store)) ∨
    (smallid < greatid ∧ accept = true ∧
      store.releaseFriendRelationship smallid greatid accept =
        Store.deleteFriendToUser smallid greatid
          { store with database :=
              { store.database with
                t_user_relationship :=
                  store.database.t_user_relationship.filter (· ≠ (smallid, greatid)) } }) :=
  relationship_cases (.deleteRelationship smallid greatid)
    (Store.deleteFriendToUser smallid greatid) smallid greatid accept store rfl rfl

/-- Both updates succeed if both ids are cached. -/
theorem relationship_result (edit : Int32 → OrderedSet Int32 → OrderedSet Int32)
    (smallid greatid : Int32) (accept : Bool) (store : Store) {outcome : Bool × Store}
    (decided : ((smallid ≥ greatid ∨ accept = false) ∧ outcome = (false, store)) ∨
      (smallid < greatid ∧ accept = true ∧
        outcome.1 = (Store.relateLoop edit smallid greatid false false store.cached).1)) :
    outcome.1 = true ↔ smallid < greatid ∧ accept = true ∧
      smallid ∈ store.cached.map User.userid ∧ greatid ∈ store.cached.map User.userid := by
  rcases decided with ⟨wrong | rfl, same⟩ | ⟨order, rfl, same⟩
  · simp [same, wrong.not_gt]
  · simp [same]
  · rw [same, relateLoop_found _ _ _ _ _ _ rfl]
    simp [order]

theorem makeFriend_result (smallid greatid : Int32) (accept : Bool) (store : Store) :
    (store.makeFriendRelationship smallid greatid accept).1 = true ↔
      smallid < greatid ∧ accept = true ∧ smallid ∈ store.cached.map User.userid ∧
        greatid ∈ store.cached.map User.userid :=
  relationship_result OrderedSet.insert smallid greatid accept store
    ((makeFriend_cases smallid greatid accept store).imp_right
      (And.imp_right (And.imp_right (congrArg Prod.fst))))

theorem releaseFriend_result (smallid greatid : Int32) (accept : Bool) (store : Store) :
    (store.releaseFriendRelationship smallid greatid accept).1 = true ↔
      smallid < greatid ∧ accept = true ∧ smallid ∈ store.cached.map User.userid ∧
        greatid ∈ store.cached.map User.userid :=
  relationship_result OrderedSet.erase smallid greatid accept store
    ((releaseFriend_cases smallid greatid accept store).imp_right
      (And.imp_right (And.imp_right (congrArg Prod.fst))))

/-- The loop reaches every record it is meant for, although it may stop early. -/
theorem relateLoop_eq (edit : Int32 → OrderedSet Int32 → OrderedSet Int32)
    (userid friendid : Int32) (apart : userid ≠ friendid) (users : List User)
    (distinct : (users.map User.userid).Nodup) (bFound1 bFound2 : Bool)
    (first : bFound1 = true → userid ∉ users.map User.userid)
    (second : bFound2 = true → friendid ∉ users.map User.userid) :
    (Store.relateLoop edit userid friendid bFound1 bFound2 users).2 =
      users.map (relate edit userid friendid) := by
  induction users generalizing bFound1 bFound2 with
  | nil => rfl
  | cons iter rest ih =>
      obtain ⟨fresh, tail⟩ := List.nodup_cons.mp distinct
      -- an id that has been met does not occur again
      have later : ∀ (found : Bool) (id : Int32),
          (found = true → id ∉ (iter :: rest).map User.userid) →
          (found || decide (iter.userid = id)) = true → id ∉ rest.map User.userid := by
        intro found id absent met member
        rcases (Bool.or_eq_true _ _).mp met with before | here
        · exact absent before (List.mem_cons_of_mem _ member)
        · exact fresh ((of_decide_eq_true here) ▸ member)
      have noFirst := later bFound1 userid first
      have noSecond := later bFound2 friendid second
      rw [relateLoop_cons edit userid friendid apart, List.map_cons]
      congr 1
      split_ifs with both
      · obtain ⟨one, other⟩ := (Bool.and_eq_true _ _).mp both
        exact (map_relate_absent edit userid friendid rest (noFirst one) (noSecond other)).symm
      · exact ih tail _ _ noFirst noSecond

theorem map_change_absent (userid : Int32) (change : User → User) (users : List User)
    (absent : userid ∉ users.map User.userid) :
    (users.map fun iter => if iter.userid = userid then change iter else iter) = users := by
  induction users with
  | nil => rfl
  | cons iter rest ih =>
      simp only [List.map_cons, List.mem_cons, not_or] at absent
      rw [List.map_cons, ih absent.2, if_neg (Ne.symm absent.1)]

theorem changeFirst_eq (userid : Int32) (change : User → User) (users : List User)
    (distinct : (users.map User.userid).Nodup) :
    Store.changeFirst userid change users =
      (decide (userid ∈ users.map User.userid),
        users.map fun iter => if iter.userid = userid then change iter else iter) := by
  induction users with
  | nil => rfl
  | cons iter rest ih =>
      obtain ⟨fresh, tail⟩ := List.nodup_cons.mp distinct
      by_cases here : iter.userid = userid
      · have untouched := map_change_absent userid change rest (here ▸ fresh)
        simp [Store.changeFirst, here, untouched]
      · simp [Store.changeFirst, here, ih tail, Ne.symm here]

end Loops

/-! The records and the rows. -/
section Mirror

def sameProfile (user : User) (row : UserRow) : Prop :=
  user.facetype = row.f_facetype ∧ user.custimface = row.f_customface.getD [] ∧
  user.gender = row.f_gender ∧ user.birthday = row.f_birthday ∧
  user.signature = row.f_signature.getD [] ∧ user.address = row.f_address.getD [] ∧
  user.phonenumber = row.f_phonenumber.getD [] ∧ user.mail = row.f_mail.getD []

structure Shows (unsaved : List Int32) (user : User) (row : UserRow) : Prop where
  username : user.username = row.f_username
  nickname : user.nickname = row.f_nickname
  password : user.password = row.f_password
  saved : user.userid ∉ unsaved → sameProfile user row
  fresh : user.userid ∈ unsaved → user.birthday ≠ row.f_birthday

def Mirrored (unsaved : List Int32) (store : Store) : Prop :=
  Paired User.userid UserRow.f_user_id (Shows unsaved) store.cached store.database.t_user.rows

theorem Shows.congr_user {unsaved : List Int32} {user : User} {row : UserRow}
    (shows : Shows unsaved user row) (friends : OrderedSet Int32) :
    Shows unsaved { user with friends := friends } row :=
  ⟨shows.username, shows.nickname, shows.password, shows.saved, shows.fresh⟩

/-- The rows of t_user in the order in which a start reads them. -/
def descending (database : Database) : List UserRow :=
  database.t_user.rows.insertionSort fun left right => right.f_user_id ≤ left.f_user_id

theorem descending_perm (database : Database) :
    (descending database).Perm database.t_user.rows := List.perm_insertionSort _ _

def loaded (emptyData : Bool) (database : Database) (row : UserRow) : User :=
  { userOfRow row with
    friends := loadRelationshipFromDB emptyData database row.f_user_id OrderedSet.empty }

theorem started_cached (emptyData : Bool) (database : Database)
    (reads : ReadsRows emptyData database) :
    (started emptyData database).cached = (descending database).map (loaded emptyData database) := by
  have rows : visited emptyData blankRow (descending database) = descending database := by
    cases sorted : descending database with
    | cons row rest => rfl
    | nil =>
        rcases reads with exact' | some'
        · rw [exact']
          rfl
        · have permuted := descending_perm database
          rw [sorted] at permuted
          exact absurd permuted.nil_eq.symm some'
  simp only [started, Store.cached, init, loadUserFromDB, fetchRows_eq]
  rw [← descending, rows, (foldl_loadUser _ {}).1, List.nil_append, List.map_map]
  rfl

theorem started_mirrored (emptyData : Bool) (database : Database)
    (reads : ReadsRows emptyData database) : Mirrored [] (started emptyData database) := by
  rw [Mirrored, started_cached emptyData database reads]
  apply paired_load _ database.t_user.primaryKey _ (descending_perm database)
  · intro row
    rfl
  · intro row
    exact ⟨rfl, rfl, rfl, fun _ => ⟨rfl, rfl, rfl, rfl, rfl, rfl, rfl, rfl⟩,
      fun member => absurd member List.not_mem_nil⟩

/-- A new record beside a new row, which show different birthdays. -/
theorem append_mirrored (unsaved : List Int32) (store after : Store) (id : Int32) (added : User)
    (row : UserRow) (mirrored : Mirrored unsaved store)
    (cached : after.cached = store.cached ++ [added])
    (rows : after.database.t_user.rows = store.database.t_user.rows ++ [row])
    (free : id ∉ store.database.t_user.ids) (mine : added.userid = id) (key : row.f_user_id = id)
    (username : added.username = row.f_username) (nickname : added.nickname = row.f_nickname)
    (password : added.password = row.f_password) (birthday : added.birthday ≠ row.f_birthday) :
    Mirrored (id :: unsaved) after := by
  subst mine
  rw [Mirrored, cached, rows]
  apply Paired.append mirrored added row free key.symm
  · exact ⟨username, nickname, password, fun saved => absurd List.mem_cons_self saved,
      fun _ => birthday⟩
  · intro user other apart shows
    have same : user.userid ∈ added.userid :: unsaved ↔ user.userid ∈ unsaved := by
      simp [apart]
    exact ⟨shows.username, shows.nickname, shows.password,
      fun saved => shows.saved (fun old => saved (same.mpr old)),
      fun fresh => shows.fresh (same.mp fresh)⟩

/-- An UPDATE of t_user and the loop over the cached records behind it. -/
def changeRecord (statement : Statement) (userid : Int32) (change : User → User) (accept : Bool)
    (store : Store) : Bool × Store :=
  match store.excute accept statement with
  | (false, refused) => (false, refused)
  | (true, updated) => updated.changeCached userid change

def rewritten (newuserinfo iter : User) : User :=
  { iter with
    nickname := newuserinfo.nickname, facetype := newuserinfo.facetype
    custimface := newuserinfo.custimface, gender := newuserinfo.gender
    birthday := newuserinfo.birthday, signature := newuserinfo.signature
    address := newuserinfo.address, phonenumber := newuserinfo.phonenumber
    mail := newuserinfo.mail }

theorem updateUserInfo_eq (userid : Int32) (newuserinfo : User) (accept : Bool) (store : Store) :
    store.updateUserInfo userid newuserinfo accept =
      changeRecord (.updateUserInfo userid newuserinfo) userid (rewritten newuserinfo) accept
        store := rfl

theorem modifyUserPassword_eq (userid : Int32) (newpassword : Bytes) (accept : Bool)
    (store : Store) :
    store.modifyUserPassword userid newpassword accept =
      changeRecord (.updatePassword userid newpassword) userid
        (fun iter => { iter with password := newpassword }) accept store := rfl

theorem changeCached_eq (userid : Int32) (change : User → User) (store : Store)
    (database : Database) (distinct : (store.cached.map User.userid).Nodup) :
    Store.changeCached userid change { store with database := database } =
      (decide (userid ∈ store.cached.map User.userid),
        { users := { store.users with m_cachedUsers := store.cached.map fun iter =>
                      if iter.userid = userid then change iter else iter }
          database := database }) :=
  congrArg (fun changed : Bool × List User =>
      (changed.1, ({ store with database := database } : Store).withCached changed.2))
    (changeFirst_eq userid change store.cached distinct)

/-- It changes nothing, or the record and the row of the user. -/
theorem changeRecord_cases (unsaved : List Int32) (statement : Statement) (userid : Int32)
    (change : User → User) (changeRow : UserRow → UserRow) (accept : Bool) (store : Store)
    (mirrored : Mirrored unsaved store)
    (applies : store.database.apply statement =
      some (store.database.withUsers (store.database.t_user.update userid changeRow))) :
    changeRecord statement userid change accept store = (false, store) ∨
    changeRecord statement userid change accept store =
      (true, { users := { store.users with m_cachedUsers := store.cached.map fun iter =>
                            if iter.userid = userid then change iter else iter }
               database :=
                store.database.withUsers (store.database.t_user.update userid changeRow) }) := by
  rw [changeRecord]
  rcases Store.excute_cases accept statement store with refused | ⟨changed, applied, accepted⟩
  · rw [refused]
    exact Or.inl rfl
  · rw [accepted]
    obtain rfl := Option.some.inj (applies.symm.trans applied)
    dsimp only
    rw [changeCached_eq userid change store _ mirrored.distinct]
    by_cases known : userid ∈ store.cached.map User.userid
    · right
      rw [decide_eq_true known]
    · left
      -- the database accepts an UPDATE that no row is concerned by
      have absent : userid ∉ store.database.t_user.ids := fun member =>
        known ((mirrored.mem_keys userid).mpr member)
      rw [UserTable.update_absent userid changeRow _ absent, decide_eq_false known,
        map_change_absent userid change _ known]
      rfl

/-- The change of the row and that of the record make one show the other. -/
theorem changed_mirrored (unsaved later : List Int32) (store : Store) (userid : Int32)
    (change : User → User) (changeRow : UserRow → UserRow) (mirrored : Mirrored unsaved store)
    (keepsId : ∀ user, (change user).userid = user.userid)
    (mine : ∀ user row, user.userid = userid → Shows unsaved user row →
      Shows later (change user) { changeRow row with f_user_id := row.f_user_id })
    (others : ∀ id, id ≠ userid → (id ∈ later ↔ id ∈ unsaved)) :
    Mirrored later
      { users := { store.users with m_cachedUsers := store.cached.map fun iter =>
                    if iter.userid = userid then change iter else iter }
        database := store.database.withUsers (store.database.t_user.update userid changeRow) } := by
  apply Paired.map mirrored
  · intro user
    split_ifs
    · exact keepsId user
    · rfl
  · intro row
    split_ifs <;> rfl
  · intro user row same shows
    by_cases here : user.userid = userid
    · rw [if_pos here, if_pos (same ▸ here)]
      exact mine user row here shows
    · have apart := others user.userid here
      rw [if_neg here, if_neg (same ▸ here)]
      exact ⟨shows.username, shows.nickname, shows.password,
        fun saved => shows.saved (fun old => saved (apart.mpr old)),
        fun fresh => shows.fresh (apart.mp fresh)⟩

/-- Editing the friends of two records leaves the table alone. -/
theorem related_mirrored (unsaved : List Int32) (store : Store)
    (edit : Int32 → OrderedSet Int32 → OrderedSet Int32) (userid friendid : Int32)
    (apart : userid ≠ friendid) (mirrored : Mirrored unsaved store) :
    Paired User.userid UserRow.f_user_id (Shows unsaved)
      (Store.relateLoop edit userid friendid false false store.cached).2
      store.database.t_user.rows := by
  rw [relateLoop_eq edit userid friendid apart store.cached mirrored.distinct false false
    (by simp) (by simp), ← List.map_id store.database.t_user.rows]
  apply Paired.map mirrored
  · exact relate_userid edit userid friendid
  · intro row
    rfl
  · intro user row _ shows
    rw [relate]
    split_ifs
    · exact shows.congr_user _
    · exact shows.congr_user _
    · exact shows

end Mirror

/-! One call, and then a whole run. -/
section Runs

variable (emptyData : Bool)

theorem accepts_free (accept : Bool) (id : Int32) (database : Database)
    (accepted : database.accepts accept id = true) : id ∉ database.t_user.ids := by
  rw [Database.accepts, Bool.and_eq_true] at accepted
  exact of_decide_eq_true accepted.2

theorem addUser_mirrored (unsaved : List Int32) (store : Store) (user : User) (accept : Bool)
    (mirrored : Mirrored unsaved store) :
    Mirrored (noteUnsaved emptyData store unsaved (.addUser user accept))
      (perform emptyData store (.addUser user accept)).2 := by
  rcases Store.addUser_exact user accept store with ⟨-, refused⟩ | ⟨accepted, table, rows, same⟩
  · simp only [noteUnsaved, perform, refused, Option.isSome_none, Bool.false_eq_true, ↓reduceIte]
    exact mirrored
  · simp only [noteUnsaved, perform, same, Option.isSome_some, ↓reduceIte]
    exact append_mirrored unsaved store _ _ _ _ mirrored rfl rows
      (accepts_free accept _ _ accepted) rfl rfl rfl rfl rfl
      (by dsimp only; decide)

theorem addGroup_mirrored (unsaved : List Int32) (store : Store) (groupname : Bytes)
    (ownerid : Int32) (accept : Bool) (mirrored : Mirrored unsaved store) :
    Mirrored (noteUnsaved emptyData store unsaved (.addGroup groupname ownerid accept))
      (perform emptyData store (.addGroup groupname ownerid accept)).2 := by
  rcases Store.addGroup_exact groupname ownerid accept store with
    ⟨-, refused⟩ | ⟨accepted, table, rows, same⟩
  · simp only [noteUnsaved, perform, refused, Option.isSome_none, Bool.false_eq_true, ↓reduceIte]
    exact mirrored
  · simp only [noteUnsaved, perform, same, Option.isSome_some, ↓reduceIte]
    exact append_mirrored unsaved store _ _ _ _ mirrored rfl rows
      (accepts_free accept _ _ accepted) rfl rfl rfl rfl rfl
      (by dsimp only; decide)

theorem updateUserInfo_mirrored (unsaved : List Int32) (store : Store) (userid : Int32)
    (newuserinfo : User) (accept : Bool) (mirrored : Mirrored unsaved store) :
    Mirrored (noteUnsaved emptyData store unsaved (.updateUserInfo userid newuserinfo accept))
      (perform emptyData store (.updateUserInfo userid newuserinfo accept)).2 := by
  have result : perform emptyData store (.updateUserInfo userid newuserinfo accept) =
      changeRecord (.updateUserInfo userid newuserinfo) userid (rewritten newuserinfo) accept
        store := rfl
  simp only [noteUnsaved]
  rcases changeRecord_cases unsaved (.updateUserInfo userid newuserinfo) userid
    (rewritten newuserinfo) _ accept store mirrored rfl with nothing | both
  · rw [result.trans nothing]
    exact mirrored
  · rw [result.trans both]
    apply changed_mirrored unsaved _ store userid _ _ mirrored
    · intro user
      rfl
    · intro user row here shows
      exact ⟨shows.username, rfl, shows.password,
        fun _ => ⟨rfl, rfl, rfl, rfl, rfl, rfl, rfl, rfl⟩,
        fun fresh => absurd here (of_decide_eq_true (List.mem_filter.mp fresh).2)⟩
    · intro id apart
      simp [apart]

theorem modifyUserPassword_mirrored (unsaved : List Int32) (store : Store) (userid : Int32)
    (newpassword : Bytes) (accept : Bool) (mirrored : Mirrored unsaved store) :
    Mirrored unsaved (store.modifyUserPassword userid newpassword accept).2 := by
  rw [modifyUserPassword_eq]
  rcases changeRecord_cases unsaved (.updatePassword userid newpassword) userid _ _ accept store
    mirrored rfl with nothing | both
  · rw [nothing]
    exact mirrored
  · rw [both]
    apply changed_mirrored unsaved unsaved store userid _ _ mirrored
    · intro user
      rfl
    · intro user row here shows
      exact ⟨shows.username, shows.nickname, rfl, shows.saved, shows.fresh⟩
    · intro id _
      rfl

theorem makeFriend_mirrored (unsaved : List Int32) (store : Store) (smallid greatid : Int32)
    (accept : Bool) (mirrored : Mirrored unsaved store) :
    Mirrored unsaved (store.makeFriendRelationship smallid greatid accept).2 := by
  rcases makeFriend_cases smallid greatid accept store with ⟨-, same⟩ | ⟨order, -, same⟩
  · rw [same]
    exact mirrored
  · rw [same]
    exact related_mirrored unsaved store OrderedSet.insert smallid greatid order.ne mirrored

theorem releaseFriend_mirrored (unsaved : List Int32) (store : Store) (smallid greatid : Int32)
    (accept : Bool) (mirrored : Mirrored unsaved store) :
    Mirrored unsaved (store.releaseFriendRelationship smallid greatid accept).2 := by
  rcases releaseFriend_cases smallid greatid accept store with ⟨-, same⟩ | ⟨order, -, same⟩
  · rw [same]
    exact mirrored
  · rw [same]
    exact related_mirrored unsaved store OrderedSet.erase smallid greatid order.ne mirrored

theorem perform_mirrored (unsaved : List Int32) (store : Store) (call : Call)
    (mirrored : Mirrored unsaved store) (starts : startsOnRows emptyData store call) :
    Mirrored (noteUnsaved emptyData store unsaved call) (perform emptyData store call).2 := by
  cases call with
  | addUser user accept => exact addUser_mirrored emptyData unsaved store user accept mirrored
  | addGroup groupname ownerid accept =>
      exact addGroup_mirrored emptyData unsaved store groupname ownerid accept mirrored
  | makeFriend smallid greatid accept =>
      exact makeFriend_mirrored unsaved store smallid greatid accept mirrored
  | releaseFriend smallid greatid accept =>
      exact releaseFriend_mirrored unsaved store smallid greatid accept mirrored
  | updateUserInfo userid newuserinfo accept =>
      exact updateUserInfo_mirrored emptyData unsaved store userid newuserinfo accept mirrored
  | modifyUserPassword userid newpassword accept =>
      exact modifyUserPassword_mirrored unsaved store userid newpassword accept mirrored
  | saveChatMsg senderid targetid chatmsg accept =>
      rcases Store.excute_cases accept (.insertChatMsg senderid targetid chatmsg) store with
        refused | ⟨changed, applied, accepted⟩
      · simp only [noteUnsaved, perform, Store.saveChatMsgToDb, refused]
        exact mirrored
      · simp only [noteUnsaved, perform, Store.saveChatMsgToDb, accepted]
        cases applied
        exact mirrored
  | restart => exact started_mirrored emptyData store.database starts

theorem run_mirrored (calls : List Call) (store : Store) (unsaved : List Int32)
    (mirrored : Mirrored unsaved store)
    (starts : Along (called emptyData) (startsOnRows emptyData) store calls) :
    Mirrored (unsavedIds emptyData store unsaved calls)
      (run (called emptyData) store calls).2 := by
  induction calls generalizing store unsaved with
  | nil => exact mirrored
  | cons call rest ih =>
      obtain ⟨here, later⟩ := starts
      exact ih _ _ (perform_mirrored emptyData unsaved store call mirrored here) later

theorem along_exact (calls : List Call) (store : Store) :
    Along (called false) (startsOnRows false) store calls := by
  induction calls generalizing store with
  | nil => trivial
  | cons call rest ih =>
      refine ⟨?_, ih _⟩
      cases call <;> first | trivial | exact Or.inl rfl

end Runs

/-! What a call on t_user leaves alone. -/
section Frames

/-- Both sides agree outside of one id. -/
structure OnlyAbout (id : Int32) (before after : Store) : Prop where
  cached : after.cached.filter (·.userid ≠ id) = before.cached.filter (·.userid ≠ id)
  rows : after.database.t_user.rows.filter (·.f_user_id ≠ id) =
    before.database.t_user.rows.filter (·.f_user_id ≠ id)
  relationships : after.database.t_user_relationship = before.database.t_user_relationship
  messages : after.database.t_chatmsg = before.database.t_chatmsg

theorem filter_map_at {α : Type} (key : α → Int32) (id : Int32) (change : α → α)
    (keeps : ∀ entry, key (change entry) = key entry) (entries : List α) :
    (entries.map fun entry => if key entry = id then change entry else entry).filter
      (key · ≠ id) = entries.filter (key · ≠ id) := by
  induction entries with
  | nil => rfl
  | cons entry rest ih =>
      by_cases here : key entry = id
      · simpa [here, keeps] using ih
      · simpa [here] using ih

theorem changed_onlyAbout (store : Store) (userid : Int32) (change : User → User)
    (changeRow : UserRow → UserRow) (keepsId : ∀ user, (change user).userid = user.userid) :
    OnlyAbout userid store
      { users := { store.users with m_cachedUsers := store.cached.map fun iter =>
                    if iter.userid = userid then change iter else iter }
        database := store.database.withUsers (store.database.t_user.update userid changeRow) } :=
  ⟨filter_map_at User.userid userid change keepsId store.cached,
    filter_map_at UserRow.f_user_id userid
      (fun row => { changeRow row with f_user_id := row.f_user_id }) (fun _ => rfl) _, rfl, rfl⟩

theorem appended_onlyAbout (store after : Store) (id : Int32) (table : UserTable) (added : User)
    (row : UserRow) (cached : after.cached = store.cached ++ [added])
    (database : after.database = store.database.withUsers table)
    (rows : table.rows = store.database.t_user.rows ++ [row]) (mine : added.userid = id)
    (key : row.f_user_id = id) : OnlyAbout id store after := by
  refine ⟨?_, ?_, by rw [database]; rfl, by rw [database]; rfl⟩
  · simp [cached, List.filter_append, mine]
  · rw [database]
    simp [Database.withUsers, rows, List.filter_append, key]

/-- A call on t_user that fails leaves both sides as they are; one that succeeds
is about the named user only. -/
theorem named_call_cases (emptyData : Bool) (unsaved : List Int32) (store : Store) (call : Call)
    (id : Int32) (mirrored : Mirrored unsaved store) (about : named store call = some id) :
    ((perform emptyData store call).1 = false ∧
      (perform emptyData store call).2.database = store.database ∧
      (perform emptyData store call).2.cached = store.cached) ∨
    ((perform emptyData store call).1 = true ∧
      OnlyAbout id store (perform emptyData store call).2) := by
  cases call with
  | addUser user accept =>
      cases about
      rcases Store.addUser_exact user accept store with ⟨-, refused⟩ | ⟨-, table, rows, same⟩
      · rw [perform, refused]
        exact Or.inl ⟨rfl, rfl, rfl⟩
      · rw [perform, same]
        exact Or.inr ⟨rfl, appended_onlyAbout store _ _ table _ _ rfl rfl rows rfl rfl⟩
  | addGroup groupname ownerid accept =>
      cases about
      rcases Store.addGroup_exact groupname ownerid accept store with
        ⟨-, refused⟩ | ⟨-, table, rows, same⟩
      · rw [perform, refused]
        exact Or.inl ⟨rfl, rfl, rfl⟩
      · rw [perform, same]
        exact Or.inr ⟨rfl, appended_onlyAbout store _ _ table _ _ rfl rfl rows rfl rfl⟩
  | updateUserInfo userid newuserinfo accept =>
      obtain rfl := Option.some.inj about
      rw [perform, updateUserInfo_eq]
      rcases changeRecord_cases unsaved (.updateUserInfo userid newuserinfo) userid _ _ accept store
        mirrored rfl with nothing | both
      · rw [nothing]
        exact Or.inl ⟨rfl, rfl, rfl⟩
      · rw [both]
        exact Or.inr ⟨rfl, changed_onlyAbout store userid _ _ fun _ => rfl⟩
  | modifyUserPassword userid newpassword accept =>
      obtain rfl := Option.some.inj about
      rw [perform, modifyUserPassword_eq]
      rcases changeRecord_cases unsaved (.updatePassword userid newpassword) userid _ _ accept store
        mirrored rfl with nothing | both
      · rw [nothing]
        exact Or.inl ⟨rfl, rfl, rfl⟩
      · rw [both]
        exact Or.inr ⟨rfl, changed_onlyAbout store userid _ _ fun _ => rfl⟩
  | makeFriend smallid greatid accept => cases about
  | releaseFriend smallid greatid accept => cases about
  | saveChatMsg senderid targetid chatmsg accept => cases about
  | restart => cases about

end Frames

/-- Where the rows of a result are iterated exactly: after every run of calls and
restarts the cached ids are distinct and those of t_user, and every record
agrees with its row on username, nickname and password; a call on t_user that
returns false changes neither side, and one that returns true is about the named
user only. -/
theorem users_in_lockstep (database : Database) (calls : List Call) :
    let store := (run (called false) (started false database) calls).2
    (store.cached.map User.userid).Nodup ∧
    (∀ id, id ∈ store.cached.map User.userid ↔ id ∈ store.database.t_user.ids) ∧
    (∀ user ∈ store.cached, ∀ row ∈ store.database.t_user.rows, user.userid = row.f_user_id →
      user.username = row.f_username ∧ user.nickname = row.f_nickname ∧
        user.password = row.f_password) ∧
    ∀ call id, named store call = some id →
      let result := perform false store call
      (result.1 = false →
        result.2.database = store.database ∧ result.2.cached = store.cached) ∧
      (result.1 = true → OnlyAbout id store result.2) := by
  intro store
  have mirrored : Mirrored (unsavedIds false (started false database) [] calls) store :=
    run_mirrored false calls _ [] (started_mirrored false database (Or.inl rfl))
      (along_exact calls _)
  refine ⟨mirrored.distinct, mirrored.mem_keys, ?_, ?_⟩
  · intro user here row there same
    have shows := mirrored.related_of_key store.database.t_user.primaryKey here there same
    exact ⟨shows.username, shows.nickname, shows.password⟩
  · intro call id about result
    rcases named_call_cases false _ store call id mirrored about with
      ⟨failed, database, cached⟩ | ⟨succeeded, only⟩
    · exact ⟨fun _ => ⟨database, cached⟩, fun wrong => absurd (failed.symm.trans wrong) (by simp)⟩
    · exact ⟨fun wrong => absurd (succeeded.symm.trans wrong) (by simp), fun _ => only⟩

end EdoyumIM.UserLockstep
