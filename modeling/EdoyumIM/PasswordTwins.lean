import EdoyumIM.AccountGuard

/-!
The data of a server that holds another password for one account, and the calls
of UserManager on both: every call for another account does the same to the two,
and returns the same.
-/

namespace EdoyumIM.PasswordSecrecy

open MachineWords FieldCodec JsonValue OrderedStore Effects UserStore ChatWorld ChatServer
open HandlerSteps IdClasses UserLockstep UsableAccounts Delivery AccountGuard

/-! Another password for the account with an id: the row and the cached records. -/
section Replacing

variable (userid : Int32) (password : Bytes)

def replaceUser (user : User) : User :=
  if user.userid = userid then { user with password := password } else user

def replaceRow (row : UserRow) : UserRow := { row with f_password := password }

def replaceDatabase (database : Database) : Database :=
  database.withUsers (database.t_user.update userid (replaceRow password))

def replaceUsers (users : UserManager) : UserManager :=
  { users with m_cachedUsers := users.m_cachedUsers.map (replaceUser userid password) }

def replaceStore (store : Store) : Store where
  users := replaceUsers userid password store.users
  database := replaceDatabase userid password store.database

def replaceWorld (world : World) : World :=
  { world with store := replaceStore userid password world.store }

variable {userid : Int32} {password : Bytes}

@[simp] theorem replaceUser_userid (user : User) :
    (replaceUser userid password user).userid = user.userid := by
  rw [replaceUser]
  split_ifs <;> rfl

@[simp] theorem replaceUser_username (user : User) :
    (replaceUser userid password user).username = user.username := by
  rw [replaceUser]
  split_ifs <;> rfl

@[simp] theorem replaceUser_friends (user : User) :
    (replaceUser userid password user).friends = user.friends := by
  rw [replaceUser]
  split_ifs <;> rfl

theorem replaceUser_other (user : User) (apart : user.userid ≠ userid) :
    replaceUser userid password user = user := if_neg apart

/-- A record with its password left out. -/
def veil (user : User) : User := { user with password := [] }

theorem veil_replaceUser (user : User) : veil (replaceUser userid password user) = veil user := by
  rw [replaceUser]
  split_ifs <;> rfl

theorem table_ext {left right : UserTable} (rows : left.rows = right.rows) : left = right := by
  cases left
  cases right
  exact (UserTable.mk.injEq _ _ _ _).mpr rows

theorem update_rows (id : Int32) (change : UserRow → UserRow) (table : UserTable) :
    (table.update id change).rows = table.rows.map fun row =>
      if row.f_user_id = id then { change row with f_user_id := row.f_user_id } else row := rfl

end Replacing

/-! The functions of UserManager on the two stores. -/
section Calls

variable {userid : Int32} (password : Bytes) (store : Store)

theorem found_userid (wanted : Int32) :
    (replaceStore userid password store).getUserInfoByUserId wanted =
      (store.getUserInfoByUserId wanted).map (replaceUser userid password) := by
  simp only [Store.getUserInfoByUserId, Store.cached, replaceStore, replaceUsers, List.find?_map]
  simp

theorem found_username (name : Bytes) :
    (replaceStore userid password store).getUserInfoByUsername name =
      (store.getUserInfoByUsername name).map (replaceUser userid password) := by
  simp only [Store.getUserInfoByUsername, Store.cached, replaceStore, replaceUsers, List.find?_map]
  simp

theorem found_friends (wanted : Int32) :
    (replaceStore userid password store).getFriendInfoByUserId wanted =
      (store.getFriendInfoByUserId wanted).map (replaceUser userid password) := by
  simp only [Store.getFriendInfoByUserId, found_userid, Option.map_map, List.map_filterMap]
  simp [Function.comp_def]

theorem replaced_ids (database : Database) :
    (replaceDatabase userid password database).t_user.ids = database.t_user.ids :=
  UserTable.ids_update userid (replaceRow password) database.t_user

/-- The key of the account is taken, so that no INSERT is accepted for it. -/
theorem insert_replaced (table : UserTable) (taken : userid ∈ table.ids) (row : UserRow) :
    (table.update userid (replaceRow password)).insert row =
      (table.insert row).map (UserTable.update userid (replaceRow password)) := by
  have ids := UserTable.ids_update userid (replaceRow password) table
  rcases UserTable.insert_cases row table with ⟨present, refused⟩ | ⟨free, larger, rows, inserted⟩
  · rcases UserTable.insert_cases row (table.update userid (replaceRow password)) with
      ⟨-, same⟩ | ⟨free, -⟩
    · rw [same, refused, Option.map_none]
    · exact absurd (ids ▸ present) free
  · rcases UserTable.insert_cases row (table.update userid (replaceRow password)) with
      ⟨present, -⟩ | ⟨-, other, otherRows, same⟩
    · exact absurd (ids ▸ present) free
    · have apart : row.f_user_id ≠ userid := fun own => free (own ▸ taken)
      rw [same, inserted, Option.map_some]
      congr 1
      apply table_ext
      rw [otherRows, update_rows, update_rows, rows, List.map_append, List.map_singleton,
        if_neg apart]

/-- An UPDATE of another row. -/
theorem update_replaced (table : UserTable) (other : Int32) (apart : other ≠ userid)
    (change : UserRow → UserRow) :
    (table.update userid (replaceRow password)).update other change =
      (table.update other change).update userid (replaceRow password) := by
  apply table_ext
  simp only [update_rows, List.map_map]
  apply List.map_congr_left
  intro row _
  simp only [Function.comp_apply]
  by_cases own : row.f_user_id = userid
  · simp only [own, if_pos, if_neg apart.symm]
  · by_cases changed : row.f_user_id = other
    · simp only [changed, if_pos, if_neg apart]
    · simp only [own, changed, if_false]

/-- What a statement must not do to the account. -/
def Aside (userid : Int32) : Statement → Prop
  | .updateUserInfo other _ => other ≠ userid
  | .updatePassword other _ => other ≠ userid
  | _ => True

theorem apply_replaced (database : Database) (taken : userid ∈ database.t_user.ids)
    (statement : Statement) (aside : Aside userid statement) :
    (replaceDatabase userid password database).apply statement =
      (database.apply statement).map (replaceDatabase userid password) := by
  cases statement with
  | insertUser id username nickname text =>
      simp only [Database.apply, replaceDatabase, Database.withUsers,
        insert_replaced password database.t_user taken, Option.map_map]
      rfl
  | insertGroup groupid groupname ownerid =>
      simp only [Database.apply, replaceDatabase, Database.withUsers,
        insert_replaced password database.t_user taken, Option.map_map]
      rfl
  | insertRelationship id1 id2 => rfl
  | deleteRelationship id1 id2 => rfl
  | updateUserInfo other info =>
      simp only [Database.apply, replaceDatabase, Database.withUsers, Option.map_some,
        update_replaced password database.t_user other aside]
  | updatePassword other text =>
      simp only [Database.apply, replaceDatabase, Database.withUsers, Option.map_some,
        update_replaced password database.t_user other aside]
  | insertChatMsg senderid targetid chatmsg => rfl

theorem excute_replaced (taken : userid ∈ store.database.t_user.ids) (accept : Bool)
    (statement : Statement) (aside : Aside userid statement) :
    (replaceStore userid password store).excute accept statement =
      ((store.excute accept statement).1,
        replaceStore userid password (store.excute accept statement).2) := by
  have same := apply_replaced password store.database taken statement aside
  simp only [Store.excute, Database.excute, replaceStore] at same ⊢
  cases accept with
  | false => rfl
  | true =>
      rw [same]
      cases store.database.apply statement <;> rfl

/-- The loops of `UpdateUserInfo` and `ModifyUserPassword` for another id. -/
theorem changeFirst_replaced (other : Int32) (apart : other ≠ userid) (change : User → User)
    (keepsId : ∀ iter, (change iter).userid = iter.userid) (users : List User) :
    Store.changeFirst other change (users.map (replaceUser userid password)) =
      ((Store.changeFirst other change users).1,
        (Store.changeFirst other change users).2.map (replaceUser userid password)) := by
  induction users with
  | nil => rfl
  | cons iter rest ih =>
      rw [List.map_cons, Store.changeFirst, Store.changeFirst, replaceUser_userid]
      by_cases here : iter.userid = other
      · have mine : iter.userid ≠ userid := here ▸ apart
        rw [if_pos here, if_pos here, List.map_cons, replaceUser_other iter mine,
          replaceUser_other (change iter) (by rwa [keepsId])]
      · rw [if_neg here, if_neg here, ih, List.map_cons]

theorem changeRecord_replaced (taken : userid ∈ store.database.t_user.ids) (statement : Statement)
    (aside : Aside userid statement) (other : Int32) (apart : other ≠ userid)
    (change : User → User) (keepsId : ∀ iter, (change iter).userid = iter.userid) (accept : Bool) :
    changeRecord statement other change accept (replaceStore userid password store) =
      ((changeRecord statement other change accept store).1,
        replaceStore userid password (changeRecord statement other change accept store).2) := by
  rw [changeRecord, changeRecord, excute_replaced password store taken accept statement aside]
  rcases store.excute accept statement with ⟨answer, after⟩
  cases answer with
  | false => rfl
  | true =>
      have loop := changeFirst_replaced password other apart change keepsId after.cached
      simp only [Store.changeCached]
      change ((Store.changeFirst other change
        (after.cached.map (replaceUser userid password))).1, _) = _
      rw [Prod.mk.injEq]
      constructor
      · rw [loop]
      · change (replaceStore userid password after).withCached (Store.changeFirst other change
          (after.cached.map (replaceUser userid password))).2 = _
        rw [loop]
        rfl

/-- What the loop over the friends does to a record that it meets. -/
def met (edit : Int32 → OrderedSet Int32 → OrderedSet Int32) (wanted added : Int32) (user : User) :
    User :=
  if user.userid = wanted then { user with friends := edit added user.friends } else user

theorem met_replaced (edit : Int32 → OrderedSet Int32 → OrderedSet Int32) (wanted added : Int32)
    (user : User) :
    met edit wanted added (replaceUser userid password user) =
      replaceUser userid password (met edit wanted added user) := by
  rw [met, met, replaceUser_userid, replaceUser_friends]
  by_cases here : user.userid = wanted
  · rw [if_pos here, if_pos here]
    simp only [replaceUser]
    split_ifs <;> rfl
  · rw [if_neg here, if_neg here]

theorem relateLoop_cons (edit : Int32 → OrderedSet Int32 → OrderedSet Int32) (one other : Int32)
    (bFound1 bFound2 : Bool) (iter : User) (rest : List User) :
    Store.relateLoop edit one other bFound1 bFound2 (iter :: rest) =
      let found1 := bFound1 || decide (iter.userid = one)
      let found2 := bFound2 || decide (iter.userid = other)
      let second := met edit other one (met edit one other iter)
      if found1 && found2 then (true, second :: rest)
      else ((Store.relateLoop edit one other found1 found2 rest).1,
        second :: (Store.relateLoop edit one other found1 found2 rest).2) := rfl

theorem relateLoop_replaced (edit : Int32 → OrderedSet Int32 → OrderedSet Int32)
    (one other : Int32) (users : List User) (bFound1 bFound2 : Bool) :
    Store.relateLoop edit one other bFound1 bFound2 (users.map (replaceUser userid password)) =
      ((Store.relateLoop edit one other bFound1 bFound2 users).1,
        (Store.relateLoop edit one other bFound1 bFound2 users).2.map
          (replaceUser userid password)) := by
  induction users generalizing bFound1 bFound2 with
  | nil => rfl
  | cons iter rest ih =>
      simp only [List.map_cons, relateLoop_cons, met_replaced, replaceUser_userid, ih]
      split_ifs <;> rfl

theorem related_replaced (edit : Int32 → OrderedSet Int32 → OrderedSet Int32) (one other : Int32) :
    Store.relateLoop edit one other false false (replaceStore userid password store).cached =
      ((Store.relateLoop edit one other false false store.cached).1,
        (Store.relateLoop edit one other false false store.cached).2.map
          (replaceUser userid password)) :=
  relateLoop_replaced password edit one other store.cached false false

theorem makeFriend_replaced (taken : userid ∈ store.database.t_user.ids) (smallid greatid : Int32)
    (accept : Bool) :
    (replaceStore userid password store).makeFriendRelationship smallid greatid accept =
      ((store.makeFriendRelationship smallid greatid accept).1, replaceStore userid password
        (store.makeFriendRelationship smallid greatid accept).2) := by
  rw [Store.makeFriendRelationship, Store.makeFriendRelationship,
    excute_replaced password store taken accept (.insertRelationship smallid greatid) trivial]
  split_ifs
  · rfl
  · rcases store.excute accept (.insertRelationship smallid greatid) with ⟨answer, after⟩
    cases answer with
    | false => rfl
    | true =>
        simp only [Store.addFriendToUser, related_replaced]
        rfl

theorem releaseFriend_replaced (taken : userid ∈ store.database.t_user.ids)
    (smallid greatid : Int32) (accept : Bool) :
    (replaceStore userid password store).releaseFriendRelationship smallid greatid accept =
      ((store.releaseFriendRelationship smallid greatid accept).1, replaceStore userid password
        (store.releaseFriendRelationship smallid greatid accept).2) := by
  rw [Store.releaseFriendRelationship, Store.releaseFriendRelationship,
    excute_replaced password store taken accept (.deleteRelationship smallid greatid) trivial]
  split_ifs
  · rfl
  · rcases store.excute accept (.deleteRelationship smallid greatid) with ⟨answer, after⟩
    cases answer with
    | false => rfl
    | true =>
        simp only [Store.deleteFriendToUser, related_replaced]
        rfl

/-- A record that is added behind the others, under an id of its own. -/
theorem added_replaced (added : User) (apart : added.userid ≠ userid) :
    (replaceStore userid password store).withCached
        ((replaceStore userid password store).cached ++ [added]) =
      replaceStore userid password (store.withCached (store.cached ++ [added])) := by
  simp only [Store.withCached, Store.cached, replaceStore, replaceUsers, List.map_append,
    List.map_singleton, replaceUser_other added apart]

/-- What a refused INSERT into t_user leaves, and an accepted one. -/
theorem inserted_replaced (taken : userid ∈ store.database.t_user.ids) (row : UserRow)
    (statement : Statement) (accept : Bool) (aside : Aside userid statement)
    (inserts : store.database.apply statement =
      (store.database.t_user.insert row).map store.database.withUsers) :
    (store.excute accept statement = (false, store) ∧
      (replaceStore userid password store).excute accept statement =
        (false, replaceStore userid password store)) ∨
    row.f_user_id ≠ userid ∧ ∃ after, store.excute accept statement = (true, after) ∧
      (replaceStore userid password store).excute accept statement =
        (true, replaceStore userid password after) := by
  have both := excute_replaced password store taken accept statement aside
  rcases Store.excute_insert accept statement row store inserts with
    ⟨-, same⟩ | ⟨accepted, table, -, same⟩
  · exact Or.inl ⟨same, by rw [both, same]⟩
  · refine Or.inr ⟨?_, _, same, by rw [both, same]⟩
    rintro rfl
    exact accepts_free accept _ _ accepted taken

theorem addUser_replaced (taken : userid ∈ store.database.t_user.ids) (user : User)
    (accept : Bool) :
    (replaceStore userid password store).addUser user accept =
      ((store.addUser user accept).1,
        replaceStore userid password (store.addUser user accept).2) := by
  have counted : (replaceStore userid password store).countUser =
      replaceStore userid password store.countUser := rfl
  have base : (replaceStore userid password store.countUser).users.m_baseUserID =
      store.countUser.users.m_baseUserID := rfl
  rw [Store.addUser, Store.addUser, ← Store.countUser, ← Store.countUser, counted, base]
  rcases inserted_replaced password store.countUser taken
      { f_user_id := store.countUser.users.m_baseUserID, f_username := user.username
        f_nickname := user.nickname, f_password := user.password }
      (.insertUser store.countUser.users.m_baseUserID user.username user.nickname user.password)
      accept trivial rfl with ⟨one, other⟩ | ⟨apart, after, one, other⟩
  · rw [one, other]
  · rw [one, other]
    exact Prod.ext rfl (added_replaced password after _ apart)

theorem addGroup_replaced (taken : userid ∈ store.database.t_user.ids) (groupname : Bytes)
    (ownerid : Int32) (accept : Bool) :
    (replaceStore userid password store).addGroup groupname ownerid accept =
      ((store.addGroup groupname ownerid accept).1,
        replaceStore userid password (store.addGroup groupname ownerid accept).2) := by
  have counted : (replaceStore userid password store).countGroup =
      replaceStore userid password store.countGroup := rfl
  have base : (replaceStore userid password store.countGroup).users.m_baseGrupID =
      store.countGroup.users.m_baseGrupID := rfl
  rw [Store.addGroup, Store.addGroup, ← Store.countGroup, ← Store.countGroup, counted, base]
  rcases inserted_replaced password store.countGroup taken
      { f_user_id := store.countGroup.users.m_baseGrupID
        f_username := decimal store.countGroup.users.m_baseGrupID, f_nickname := groupname
        f_password := [], f_owner_id := some ownerid }
      (.insertGroup store.countGroup.users.m_baseGrupID groupname ownerid) accept trivial rfl with
    ⟨one, other⟩ | ⟨apart, after, one, other⟩
  · rw [one, other]
  · rw [one, other]
    exact Prod.ext rfl (added_replaced password after _ apart)

/-- Every call of a session under another id does the same to both. -/
theorem storeCall_replaced {me : ClientSession} {kind : Option MsgType} {α : Type}
    {operation : Bool → Store → α × Store} (call : StoreCall me kind α operation)
    (apart : me.userID ≠ userid) (taken : userid ∈ store.database.t_user.ids) (accept : Bool) :
    operation accept (replaceStore userid password store) =
      ((operation accept store).1, replaceStore userid password (operation accept store).2) := by
  cases call with
  | addUser user => exact addUser_replaced password store taken user accept
  | addGroup groupname creates =>
      exact addGroup_replaced password store taken groupname me.userID accept
  | makeFriend smallid greatid =>
      exact makeFriend_replaced password store taken smallid greatid accept
  | releaseFriend smallid greatid =>
      exact releaseFriend_replaced password store taken smallid greatid accept
  | updateUserInfo newuserinfo =>
      rw [updateUserInfo_eq, updateUserInfo_eq]
      exact changeRecord_replaced password store taken (.updateUserInfo me.userID newuserinfo) apart
        me.userID apart (rewritten newuserinfo) (fun _ => rfl) accept
  | modifyUserPassword newpassword =>
      rw [modifyUserPassword_eq, modifyUserPassword_eq]
      exact changeRecord_replaced password store taken (.updatePassword me.userID newpassword) apart
        me.userID apart (fun iter => { iter with password := newpassword }) (fun _ => rfl) accept
  | saveChatMsg target data =>
      exact excute_replaced password store taken accept (.insertChatMsg me.userID target data)
        trivial

end Calls

end EdoyumIM.PasswordSecrecy
