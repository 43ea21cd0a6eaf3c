import EdoyumIM.LoginRestart

/-!
What makes the account of a registration usable. A login takes the first cached
record with the user name, and nothing asks whether the name of a new record is
taken. In the running server the older record stays in front; after a restart
the one with the greater id does. Of a record and its row only the id, the user
name and the password matter here, and these three are followed through every
call of UserManager.
-/

namespace EdoyumIM.UsableAccounts

open MachineWords FieldCodec JsonValue OrderedStore Effects UserStore ChatWorld ChatServer
open HandlerSteps PairedLists IdClasses UserLockstep LoginRestart
open GroupAccounts (Life live Known deliver_store finish_state)
open SessionFraming (send)

/-! Ids, names and passwords. -/
section Credentials

abbrev Credentials := Int32 × Bytes × Bytes

def credentials (iter : User) : Credentials := (iter.userid, iter.username, iter.password)

def keys (store : Store) : List Credentials := store.cached.map credentials

/-- Among the entries, the one with the id is alone and the first with its name. -/
structure Foremost (entry : Credentials) (entries : List Credentials) : Prop where
  first : (entries.find? fun other => other.2.1 = entry.2.1) = some entry
  alone : ∀ other ∈ entries, other.1 = entry.1 → other = entry
  once : (entries.map Prod.fst).count entry.1 = 1

theorem Foremost.append {entry added : Credentials} {entries : List Credentials}
    (foremost : Foremost entry entries) (apart : added.1 ≠ entry.1) :
    Foremost entry (entries ++ [added]) where
  first := by rw [List.find?_append, foremost.first, Option.some_or]
  alone := by
    intro other member same
    rcases List.mem_append.mp member with old | new
    · exact foremost.alone other old same
    · exact absurd (List.mem_singleton.mp new ▸ same) apart
  once := by simp [foremost.once, apart]

/-- A new entry whose id and name are both free. -/
theorem foremost_added (entry : Credentials) (entries : List Credentials)
    (freeId : ∀ other ∈ entries, other.1 ≠ entry.1)
    (freeName : ∀ other ∈ entries, other.2.1 ≠ entry.2.1) :
    Foremost entry (entries ++ [entry]) where
  first := by
    have absent : (entries.find? fun other => other.2.1 = entry.2.1) = none :=
      List.find?_eq_none.mpr fun other member => by simpa using freeName other member
    rw [List.find?_append, absent]
    simp
  alone := by
    intro other member same
    rcases List.mem_append.mp member with old | new
    · exact absurd same (freeId other old)
    · exact List.mem_singleton.mp new
  once := by
    have absent : entry.1 ∉ entries.map Prod.fst := by
      intro member
      obtain ⟨other, old, same⟩ := List.mem_map.mp member
      exact freeId other old same
    simp [List.count_eq_zero.mpr absent]

/-- The passwords may change, but those of the entries with the id all to the same. -/
theorem Foremost.change {entry : Credentials} {before after : List Credentials}
    (foremost : Foremost entry before) (password : Bytes)
    (tags : (after.map fun other => (other.1, other.2.1)) =
      before.map fun other => (other.1, other.2.1))
    (mine : ∀ other ∈ after, other.1 = entry.1 → other = (entry.1, entry.2.1, password)) :
    Foremost (entry.1, entry.2.1, password) after where
  first := by
    have found : ((after.map fun other => (other.1, other.2.1)).find? fun tag =>
        tag.2 = entry.2.1) = some (entry.1, entry.2.1) := by
      rw [tags, List.find?_map]
      exact congrArg (Option.map _) foremost.first
    rw [List.find?_map] at found
    obtain ⟨other, located, same⟩ := Option.map_eq_some_iff.mp found
    have held := mine other (List.mem_of_find?_eq_some located) (Prod.mk.inj same).1
    exact located.trans (congrArg some held)
  alone := mine
  once := by
    have ids := congrArg (List.map Prod.fst) tags
    rw [List.map_map, List.map_map] at ids
    exact (congrArg (List.count entry.1) ids).trans foremost.once

/-- The record of the user is found under the name, and the row has the same id,
name and password. -/
structure Usable (entry : Credentials) (store : Store) : Prop where
  record : Foremost entry (keys store)
  row : ∃ row ∈ store.database.t_user.rows,
    (row.f_user_id, row.f_username, row.f_password) = entry

theorem Usable.stored {entry : Credentials} {store : Store} (usable : Usable entry store) :
    entry.1 ∈ store.database.t_user.ids := by
  obtain ⟨row, member, rfl⟩ := usable.row
  exact List.mem_map_of_mem member

theorem Usable.follow {entry : Credentials} {before after : Store} (usable : Usable entry before)
    (records : keys after = keys before)
    (rows : after.database.t_user = before.database.t_user) : Usable entry after :=
  ⟨records ▸ usable.record, rows ▸ usable.row⟩

/-- A new record beside a new row, under an id that no row had. -/
theorem Usable.add {entry : Credentials} {before after : Store} (usable : Usable entry before)
    (added : User) (row : UserRow) (cached : after.cached = before.cached ++ [added])
    (rows : after.database.t_user.rows = before.database.t_user.rows ++ [row])
    (free : added.userid ∉ before.database.t_user.ids) : Usable entry after where
  record := by
    rw [keys, cached, List.map_append]
    apply usable.record.append
    intro taken
    have same : added.userid = entry.1 := taken
    exact free (same ▸ usable.stored)
  row := by
    obtain ⟨own, member, mine⟩ := usable.row
    exact ⟨own, rows ▸ List.mem_append_left _ member, mine⟩

end Credentials

/-! The calls. -/
section Calls

theorem relateLoop_keys (edit : Int32 → OrderedSet Int32 → OrderedSet Int32)
    (userid friendid : Int32) (users : List User) (bFound1 bFound2 : Bool) :
    (Store.relateLoop edit userid friendid bFound1 bFound2 users).2.map credentials =
      users.map credentials := by
  induction users generalizing bFound1 bFound2 with
  | nil => rfl
  | cons iter rest ih =>
      simp only [Store.relateLoop]
      split_ifs <;> simp [credentials, ih]

theorem changeFirst_map {α : Type} (seen : User → α) (userid : Int32) (change : User → User)
    (keeps : ∀ iter, seen (change iter) = seen iter) (users : List User) :
    (Store.changeFirst userid change users).2.map seen = users.map seen := by
  induction users with
  | nil => rfl
  | cons iter rest ih =>
      rw [Store.changeFirst]
      split_ifs
      · rw [List.map_cons, keeps, List.map_cons]
      · rw [List.map_cons, ih, List.map_cons]

/-- What the loop of an UPDATE makes of a member. -/
theorem mem_changeFirst (userid : Int32) (change : User → User) (users : List User) (iter : User)
    (member : iter ∈ (Store.changeFirst userid change users).2) :
    iter ∈ users ∨ ∃ old ∈ users, old.userid = userid ∧ iter = change old := by
  induction users with
  | nil => exact Or.inl member
  | cons first rest ih =>
      rw [Store.changeFirst] at member
      split_ifs at member with here
      · rcases List.mem_cons.mp member with rfl | later
        · exact Or.inr ⟨first, List.mem_cons_self, here, rfl⟩
        · exact Or.inl (List.mem_cons_of_mem first later)
      · rcases List.mem_cons.mp member with rfl | later
        · exact Or.inl List.mem_cons_self
        · rcases ih later with same | ⟨old, inside, mine, changed⟩
          · exact Or.inl (List.mem_cons_of_mem first same)
          · exact Or.inr ⟨old, List.mem_cons_of_mem first inside, mine, changed⟩

/-- Where the id occurs once, the loop changes every record with the id. -/
theorem mem_changeFirst_once (userid : Int32) (change : User → User) (users : List User)
    (once : (users.map User.userid).count userid ≤ 1) (iter : User)
    (member : iter ∈ (Store.changeFirst userid change users).2) (mine : iter.userid = userid) :
    ∃ old ∈ users, old.userid = userid ∧ iter = change old := by
  induction users with
  | nil => exact absurd member List.not_mem_nil
  | cons first rest ih =>
      rw [List.map_cons] at once
      rw [Store.changeFirst] at member
      split_ifs at member with here
      · rw [here, List.count_cons_self] at once
        have absent : userid ∉ rest.map User.userid := List.count_eq_zero.mp (by omega)
        rcases List.mem_cons.mp member with rfl | later
        · exact ⟨first, List.mem_cons_self, here, rfl⟩
        · exact absurd (mine ▸ List.mem_map_of_mem later) absent
      · rw [List.count_cons_of_ne here] at once
        rcases List.mem_cons.mp member with rfl | later
        · exact absurd mine here
        · obtain ⟨old, inside, same⟩ := ih once later
          exact ⟨old, List.mem_cons_of_mem first inside, same⟩

variable {entry : Credentials} {store : Store}

theorem addUser_usable (usable : Usable entry store) (user : User) (accept : Bool) :
    Usable entry (store.addUser user accept).2 := by
  rcases Store.addUser_exact user accept store with ⟨-, same⟩ | ⟨accepted, table, rows, same⟩
  · rw [same]
    exact usable.follow rfl rfl
  · rw [same]
    exact usable.add _ _ rfl rows (accepts_free accept _ _ accepted)

theorem addGroup_usable (usable : Usable entry store) (groupname : Bytes) (ownerid : Int32)
    (accept : Bool) : Usable entry (store.addGroup groupname ownerid accept).2 := by
  rcases Store.addGroup_exact groupname ownerid accept store with
    ⟨-, same⟩ | ⟨accepted, table, rows, same⟩
  · rw [same]
    exact usable.follow rfl rfl
  · rw [same]
    exact usable.add _ _ rfl rows (accepts_free accept _ _ accepted)

theorem makeFriend_usable (usable : Usable entry store) (smallid greatid : Int32)
    (accept : Bool) : Usable entry (store.makeFriendRelationship smallid greatid accept).2 := by
  rcases makeFriend_cases smallid greatid accept store with ⟨-, same⟩ | ⟨-, -, same⟩
  · rw [same]
    exact usable
  · rw [same]
    exact usable.follow (relateLoop_keys _ _ _ _ _ _) rfl

theorem releaseFriend_usable (usable : Usable entry store) (smallid greatid : Int32)
    (accept : Bool) : Usable entry (store.releaseFriendRelationship smallid greatid accept).2 := by
  rcases releaseFriend_cases smallid greatid accept store with ⟨-, same⟩ | ⟨-, -, same⟩
  · rw [same]
    exact usable
  · rw [same]
    exact usable.follow (relateLoop_keys _ _ _ _ _ _) rfl

theorem saveChatMsg_usable (usable : Usable entry store) (senderid targetid : Int32)
    (chatmsg : Bytes) (accept : Bool) :
    Usable entry (store.saveChatMsgToDb senderid targetid chatmsg accept).2 := by
  rw [Store.saveChatMsgToDb]
  rcases Store.excute_cases accept (.insertChatMsg senderid targetid chatmsg) store with
    refused | ⟨changed, applied, accepted⟩
  · rw [refused]
    exact usable
  · rw [accepted]
    obtain rfl := Option.some.inj applied
    exact usable.follow rfl rfl

theorem updateUserInfo_usable (usable : Usable entry store) (userid : Int32)
    (newuserinfo : User) (accept : Bool) :
    Usable entry (store.updateUserInfo userid newuserinfo accept).2 := by
  rw [updateUserInfo_eq, changeRecord]
  rcases Store.excute_cases accept (.updateUserInfo userid newuserinfo) store with
    refused | ⟨changed, applied, accepted⟩
  · rw [refused]
    exact usable
  · rw [accepted]
    obtain rfl := Option.some.inj applied
    obtain ⟨row, member, mine⟩ := usable.row
    have same := changeFirst_map credentials userid (rewritten newuserinfo) (fun _ => rfl)
      store.cached
    constructor
    · exact (congrArg (Foremost entry) same).mpr usable.record
    · refine ⟨_, List.mem_map_of_mem member, ?_⟩
      rw [← mine]
      split_ifs <;> rfl

/-- A change of the user's own password reaches the record and the row alike. -/
theorem modifyUserPassword_usable (usable : Usable entry store) (userid : Int32)
    (newpassword : Bytes) (accept : Bool) :
    ∃ later, Usable (entry.1, entry.2.1, later)
      (store.modifyUserPassword userid newpassword accept).2 := by
  rw [modifyUserPassword_eq, changeRecord]
  rcases Store.excute_cases accept (.updatePassword userid newpassword) store with
    refused | ⟨changed, applied, accepted⟩
  · rw [refused]
    exact ⟨entry.2.2, usable⟩
  · rw [accepted]
    obtain rfl := Option.some.inj applied
    obtain ⟨row, member, rfl⟩ := usable.row
    have once : (store.cached.map User.userid).count row.f_user_id = 1 := by
      simpa [keys, credentials, Function.comp_def] using usable.record.once
    have tags : ((Store.changeFirst userid (fun iter => { iter with password := newpassword })
        store.cached).2.map credentials).map (fun other => (other.1, other.2.1)) =
        (keys store).map fun other => (other.1, other.2.1) := by
      rw [keys, List.map_map, List.map_map]
      exact changeFirst_map _ userid (fun iter => { iter with password := newpassword })
        (fun _ => rfl) store.cached
    by_cases own : row.f_user_id = userid
    · refine ⟨newpassword, usable.record.change newpassword tags ?_,
        _, List.mem_map_of_mem member, by rw [if_pos own]⟩
      intro other inside mine
      obtain ⟨iter, changed, rfl⟩ := List.mem_map.mp inside
      -- the loop has reached the one record with the id
      obtain ⟨old, there, -, rfl⟩ := mem_changeFirst_once userid _ store.cached (own ▸ once.le)
        iter changed (own ▸ mine)
      have known := usable.record.alone _ (List.mem_map_of_mem there) mine
      exact Prod.ext mine (Prod.ext (congrArg (·.2.1) known) rfl)
    · refine ⟨row.f_password, usable.record.change row.f_password tags ?_,
        _, List.mem_map_of_mem member, by rw [if_neg own]⟩
      intro other inside mine
      obtain ⟨iter, changed, rfl⟩ := List.mem_map.mp inside
      rcases mem_changeFirst userid _ store.cached iter changed with same | ⟨old, -, other, rfl⟩
      · exact usable.record.alone _ (List.mem_map_of_mem same) mine
      · exact absurd (mine.symm.trans other) own

/-- No row with the user name has a greater id. -/
def Unrivalled (id : Int32) (name : Bytes) (database : Database) : Prop :=
  ∀ row ∈ database.t_user.rows, row.f_username = name → row.f_user_id ≤ id

instance (id : Int32) (name : Bytes) (database : Database) :
    Decidable (Unrivalled id name database) :=
  inferInstanceAs (Decidable (∀ row ∈ database.t_user.rows, _))

theorem restart_usable (emptyData : Bool) (usable : Usable entry store)
    (unrivalled : Unrivalled entry.1 entry.2.1 store.database) :
    Usable entry (started emptyData store.database) := by
  obtain ⟨own, member, mine⟩ := usable.row
  have reads : ReadsRows emptyData store.database := Or.inr (List.ne_nil_of_mem member)
  have cached : keys (started emptyData store.database) =
      (descending store.database).map fun row =>
        (row.f_user_id, row.f_username, row.f_password) := by
    rw [keys, started_cached emptyData store.database reads, List.map_map]
    rfl
  have only : ∀ row ∈ store.database.t_user.rows, row.f_user_id = entry.1 → row = own := by
    intro row inside same
    exact store.database.t_user.row_unique row own inside member
      (same.trans (congrArg Prod.fst mine).symm)
  have sorted := descending_perm store.database
  refine ⟨?_, own, member, mine⟩
  rw [cached]
  constructor
  · have present : ((descending store.database).find? fun row =>
        row.f_username = entry.2.1).isSome :=
      List.find?_isSome.mpr ⟨own, sorted.mem_iff.mpr member, by simp [← mine]⟩
    obtain ⟨row, located⟩ := Option.isSome_iff_exists.mp present
    obtain ⟨inside, named, greatest⟩ := descending_find store.database _ row located
    -- the row found has the greatest id, and no id is greater than the user's
    have bound := greatest own member (by simp [← mine])
    have least : row.f_user_id ≤ own.f_user_id := by
      simpa [← mine] using unrivalled row inside named
    have same : row = own := store.database.t_user.row_unique row own inside member
      (le_antisymm least bound)
    rw [List.find?_map, ← mine]
    rw [← mine] at located
    exact congrArg (Option.map _) (located.trans (congrArg some same))
  · intro other inside same
    obtain ⟨row, found, rfl⟩ := List.mem_map.mp inside
    rw [only row (sorted.mem_iff.mp found) same]
    exact mine
  · rw [List.map_map]
    have ids := sorted.map UserRow.f_user_id
    have once := List.count_eq_one_of_mem store.database.t_user.primaryKey
      (List.mem_map_of_mem member)
    rw [← mine]
    exact (ids.count_eq _).trans once

end Calls

/-! One step of the server. -/
section Steps

variable (env : Env)

/-- The user stays usable, with the same password or another one. -/
def Carries (id : Int32) (name : Bytes) (before : World) (_trace : List Label) (after : World) :
    Prop :=
  ∀ password, Usable (id, name, password) before.store →
    ∃ later, Usable (id, name, later) after.store

variable {id : Int32} {name : Bytes}

theorem carries_composable : Composable (Carries id name) where
  nothing _ password usable := ⟨password, usable⟩
  sequence one other password usable := by
    obtain ⟨middle, still⟩ := one password usable
    exact other middle still

theorem carries_still (before after : World) (trace : List Label)
    (same : after.store = before.store) : Carries id name before trace after :=
  fun password usable => ⟨password, same ▸ usable⟩

theorem call_carries {me : ClientSession} {kind : Option MsgType} {α : Type}
    {operation : Bool → Store → α × Store} (call : StoreCall me kind α operation) :
    Keeps (Carries id name) (ask operation) := by
  intro world password usable
  let accept := world.answers world.asked
  cases call with
  | addUser user => exact ⟨password, addUser_usable usable user accept⟩
  | addGroup groupname creates => exact ⟨password, addGroup_usable usable groupname _ accept⟩
  | makeFriend smallid greatid => exact ⟨password, makeFriend_usable usable _ _ accept⟩
  | releaseFriend smallid greatid => exact ⟨password, releaseFriend_usable usable _ _ accept⟩
  | updateUserInfo newuserinfo => exact ⟨password, updateUserInfo_usable usable _ _ accept⟩
  | modifyUserPassword newpassword => exact modifyUserPassword_usable usable _ newpassword accept
  | saveChatMsg target data => exact ⟨password, saveChatMsg_usable usable _ _ _ accept⟩

theorem basic_carries {me : ClientSession} {kind : Option MsgType} {conn data : Bytes} {α : Type}
    {command : Handler α} (basic : Basic me kind conn data α command) :
    Keeps (Carries id name) command := by
  intro world
  cases basic with
  | look question blind => exact carries_still _ _ _ rfl
  | reply bytes => exact carries_still _ _ _ rfl
  | status peer bytes => exact carries_still _ _ _ rfl
  | edit change keepsUser blind => exact carries_still _ _ _ rfl
  | direct target small => exact carries_still _ _ _ (deliver_store _ _ _ _ _ world)
  | group target writer => exact carries_still _ _ _ (deliver_store _ _ _ _ _ world)
  | notify type target outbuf => exact carries_still _ _ _ (deliver_store _ _ _ _ _ world)
  | ask call => exact call_carries call world

theorem login_carries (me : ClientSession) (conn data : Bytes) :
    Keeps (Carries id name) (onLoginResponse env me conn data) := by
  intro world
  rcases login_cases env me conn data world with
    ⟨username, password, user, -, granted⟩ | ⟨-, unchanged, -⟩
  · obtain ⟨_, _, -, -, state⟩ := logIn_outcome env me conn world username password user
    exact carries_still _ _ _ (by rw [granted, state]; rfl)
  · exact carries_still _ _ _ (by rw [unchanged])

theorem step_carries (world : World) (event : Event) :
    Carries id name world (step env world event).1 (step env world event).2 := by
  rw [step]
  split
  · cases event with
    | connect conn junkTarget => exact carries_still _ _ _ rfl
    | disconnect conn => exact carries_still _ _ _ rfl
    | frame conn msgbuff mem garbage =>
        rw [serve]
        cases found : world.m_mapclient.find? conn with
        | none => exact carries_still _ _ _ rfl
        | some me =>
            intro password usable
            obtain ⟨later, still⟩ := process_keeps env me conn mem garbage msgbuff
              carries_composable (fun _ _ _ {_ _} basic => basic_carries basic)
              (fun _ _ => login_carries env _ conn _) world password usable
            exact ⟨later, by rw [finish_state]; exact still⟩
  · exact carries_still _ _ _ rfl

/-- The password in the row of a user. -/
def rowPassword (id : Int32) (database : Database) : Option Bytes :=
  (database.t_user.rows.find? fun row => row.f_user_id = id).map UserRow.f_password

theorem usable_rowPassword {entry : Credentials} {store : Store} (usable : Usable entry store) :
    rowPassword entry.1 store.database = some entry.2.2 := by
  obtain ⟨own, member, rfl⟩ := usable.row
  have present : (store.database.t_user.rows.find? fun row =>
      row.f_user_id = own.f_user_id).isSome :=
    List.find?_isSome.mpr ⟨own, member, by simp⟩
  obtain ⟨row, located⟩ := Option.isSome_iff_exists.mp present
  have same : row = own := store.database.t_user.row_unique row own
    (List.mem_of_find?_eq_some located) member (by simpa using List.find?_some located)
  rw [rowPassword, located, same]
  rfl

/-- The step leaves the password of the user as it is. -/
def KeepsPassword (id : Int32) (world : World) (life : Life) : Prop :=
  rowPassword id (live env world life).2.store.database = rowPassword id world.store.database

instance (world : World) (life : Life) : Decidable (KeepsPassword env id world life) :=
  inferInstanceAs (Decidable (_ = _))

/-- A restart finds no row with the name and a greater id. -/
def StartsUnrivalled (id : Int32) (name : Bytes) (world : World) : Life → Prop
  | .restart => Unrivalled id name world.store.database
  | .event _ => True

instance (world : World) (life : Life) : Decidable (StartsUnrivalled id name world life) :=
  match life with
  | .restart => inferInstanceAs (Decidable (Unrivalled _ _ _))
  | .event _ => .isTrue trivial

theorem live_usable {password : Bytes} (world : World) (life : Life)
    (usable : Usable (id, name, password) world.store)
    (kept : KeepsPassword env id world life) (starts : StartsUnrivalled id name world life) :
    Usable (id, name, password) (live env world life).2.store := by
  cases life with
  | restart => exact restart_usable env.emptyData usable starts
  | event event =>
      obtain ⟨later, still⟩ := step_carries env world event password usable
      have same : some later = some password :=
        (usable_rowPassword still).symm.trans (kept.trans (usable_rowPassword usable))
      obtain rfl := Option.some.inj same
      exact still

theorem run_usable {password : Bytes} (lives : List Life) (world : World)
    (usable : Usable (id, name, password) world.store)
    (kept : Along (live env) (KeepsPassword env id) world lives)
    (starts : Along (live env) (StartsUnrivalled id name) world lives) :
    Usable (id, name, password) (run (live env) world lives).2.store := by
  induction lives generalizing world with
  | nil => exact usable
  | cons life rest ih =>
      exact ih _ (live_usable env world life usable kept.1 starts.1) kept.2 starts.2

end Steps

/-! Every cached id is that of a row or not positive, in every state reached. -/
section Reached

def Listed (store : Store) : Prop := ∀ user ∈ store.cached, Known store.database user.userid

theorem Listed.follow {before after : Store} (listed : Listed before)
    (records : after.cached.map User.userid = before.cached.map User.userid)
    (rows : after.database.t_user.ids = before.database.t_user.ids) : Listed after := by
  intro user member
  have kept : user.userid ∈ before.cached.map User.userid :=
    records ▸ List.mem_map_of_mem member
  obtain ⟨old, inside, same⟩ := List.mem_map.mp kept
  rw [Known, rows, ← same]
  exact listed old inside

theorem Listed.add {before after : Store} (listed : Listed before) (added : User) (row : UserRow)
    (cached : after.cached = before.cached ++ [added])
    (rows : after.database.t_user.rows = before.database.t_user.rows ++ [row])
    (key : row.f_user_id = added.userid) : Listed after := by
  have ids : after.database.t_user.ids = before.database.t_user.ids ++ [added.userid] := by
    rw [UserTable.ids, rows, List.map_append, List.map_singleton, key, UserTable.ids]
  intro user member
  rw [cached] at member
  rw [Known, ids]
  rcases List.mem_append.mp member with old | new
  · exact (listed user old).imp_right (List.mem_append_left _)
  · rw [List.mem_singleton.mp new]
    exact Or.inr (List.mem_append_right _ List.mem_cons_self)

theorem related_ids (edit : Int32 → OrderedSet Int32 → OrderedSet Int32)
    (userid friendid : Int32) (users : List User) :
    (Store.relateLoop edit userid friendid false false users).2.map User.userid =
      users.map User.userid := by
  have same := congrArg (List.map Prod.fst)
    (relateLoop_keys edit userid friendid users false false)
  rwa [List.map_map, List.map_map] at same

theorem changeRecord_listed (statement : Statement) (userid : Int32) (change : User → User)
    (changeRow : UserRow → UserRow) (accept : Bool) (store : Store) (listed : Listed store)
    (keepsId : ∀ user, (change user).userid = user.userid)
    (applies : store.database.apply statement =
      some (store.database.withUsers (store.database.t_user.update userid changeRow))) :
    Listed (changeRecord statement userid change accept store).2 := by
  rw [changeRecord]
  rcases Store.excute_cases accept statement store with refused | ⟨changed, applied, accepted⟩
  · rw [refused]
    exact listed
  · rw [accepted]
    obtain rfl := Option.some.inj (applies.symm.trans applied)
    exact listed.follow (changeFirst_map User.userid userid change keepsId store.cached)
      (UserTable.ids_update userid changeRow _)

theorem perform_listed (emptyData : Bool) (store : Store) (call : Call) (listed : Listed store) :
    Listed (perform emptyData store call).2 := by
  cases call with
  | addUser user accept =>
      rw [perform]
      rcases Store.addUser_exact user accept store with ⟨-, same⟩ | ⟨-, table, rows, same⟩
      · rw [same]
        exact listed
      · rw [same]
        exact listed.add _ _ rfl rows rfl
  | addGroup groupname ownerid accept =>
      rw [perform]
      rcases Store.addGroup_exact groupname ownerid accept store with
        ⟨-, same⟩ | ⟨-, table, rows, same⟩
      · rw [same]
        exact listed
      · rw [same]
        exact listed.add _ _ rfl rows rfl
  | makeFriend smallid greatid accept =>
      rw [perform]
      rcases makeFriend_cases smallid greatid accept store with ⟨-, same⟩ | ⟨-, -, same⟩
      · rw [same]
        exact listed
      · rw [same]
        exact listed.follow (related_ids _ _ _ _) rfl
  | releaseFriend smallid greatid accept =>
      rw [perform]
      rcases releaseFriend_cases smallid greatid accept store with ⟨-, same⟩ | ⟨-, -, same⟩
      · rw [same]
        exact listed
      · rw [same]
        exact listed.follow (related_ids _ _ _ _) rfl
  | updateUserInfo userid newuserinfo accept =>
      exact changeRecord_listed _ userid (rewritten newuserinfo) _ accept store listed
        (fun _ => rfl) rfl
  | modifyUserPassword userid newpassword accept =>
      exact changeRecord_listed _ userid (fun iter => { iter with password := newpassword }) _
        accept store listed (fun _ => rfl) rfl
  | saveChatMsg senderid targetid chatmsg accept =>
      rw [perform, Store.saveChatMsgToDb]
      rcases Store.excute_cases accept (.insertChatMsg senderid targetid chatmsg) store with
        refused | ⟨changed, applied, accepted⟩
      · rw [refused]
        exact listed
      · rw [accepted]
        obtain rfl := Option.some.inj applied
        exact listed
  | restart =>
      intro user member
      obtain ⟨row, origin, same, -⟩ := mem_init emptyData store.database user member
      rw [same]
      rcases origin with inside | rfl
      · exact Or.inr (List.mem_map_of_mem inside)
      · exact Or.inl (by decide)

/-- The states of a server that was started on some database. -/
def Reachable (env : Env) (world : World) : Prop :=
  ∃ database answers asked lives,
    world = (run (live env) (boot env database answers asked) lives).2

theorem reachable_listed (env : Env) (world : World) (reachable : Reachable env world) :
    Listed world.store := by
  obtain ⟨database, answers, asked, lives, rfl⟩ := reachable
  obtain ⟨calls, reached⟩ := server_store_called env database answers asked lives
  rw [reached]
  have start : Listed (started env.emptyData database) :=
    perform_listed env.emptyData { database := database } .restart nofun
  generalize started env.emptyData database = store at start
  clear reached
  induction calls generalizing store with
  | nil => exact start
  | cons call rest ih => exact ih _ (perform_listed env.emptyData store call start)

end Reached

/-! Registrations, and the logins behind them. -/
section Registrations

variable (env : Env)

/-- The user that a well-formed register request asks for. -/
def registerRequest (data : Bytes) : Option User :=
  match env.parse data with
  | .ok (some root) =>
      match root.stringAt "username", root.stringAt "nickname", root.stringAt "password" with
      | .ok (some username), .ok (some nickname), .ok (some password) =>
          some { username := username, nickname := nickname, password := password }
      | _, _, _ => none
  | _ => none

/-- The register request that a step handles. -/
def registration (world : World) : Life → Option User
  | .event (.frame conn msgbuff mem _) =>
      if world.up ∧ (world.m_mapclient.find? conn).isSome then
        match decodeFrame mem msgbuff with
        | some (cmd, _, data, _) =>
            if MsgType.ofCode cmd = some .register then registerRequest env data else none
        | none => none
      else none
  | _ => none

def added (world : World) (newcomer : User) : Option User × Store :=
  world.store.addUser newcomer (world.answers world.asked)

/-- The answer to a well-formed request, by what `AddUser` returned. -/
def registerReply : Option User → Json
  | none => .ofMembers (codeMsg 100 "register failed!")
  | some _ => .ofMembers (codeMsg 0 "ok")

theorem register_outcome (me : ClientSession) (conn data : Bytes) (world : World)
    (newcomer : User) (asks : registerRequest env data = some newcomer) :
    onRegisterResponse env me conn data world =
      ⟨[.send conn (send ((header .register me.m_seq).writeString (env.toStyledString
          (registerReply (added world newcomer).1)))).1 .reply],
        { world with store := (added world newcomer).2, asked := world.asked + 1 }, .ok ()⟩ := by
  rw [registerRequest] at asks
  split at asks
  · next root parsed =>
    split at asks
    · next username nickname password name nick word =>
      obtain rfl := Option.some.inj asks
      simp only [onRegisterResponse, parsed, name, nick, word, Act.lift_ok_bind, ask,
        Act.call_bind, added]
      cases (Store.addUser _ (world.answers world.asked) world.store).1 with
      | none => rfl
      | some user => rfl
    · cases asks
  · cases asks

theorem registration_some (world : World) (life : Life) (newcomer : User)
    (asks : registration env world life = some newcomer) :
    ∃ conn msgbuff mem garbage me cmd m_seq data rest,
      life = .event (.frame conn msgbuff mem garbage) ∧ world.up = true ∧
      world.m_mapclient.find? conn = some me ∧
      decodeFrame mem msgbuff = some (cmd, m_seq, data, rest) ∧
      MsgType.ofCode cmd = some .register ∧ registerRequest env data = some newcomer := by
  unfold registration at asks
  split at asks
  · next conn msgbuff mem garbage =>
    split_ifs at asks with served
    obtain ⟨me, found⟩ := Option.isSome_iff_exists.mp served.2
    split at asks
    · next cmd m_seq data rest decoded =>
      split_ifs at asks with kind
      exact ⟨conn, msgbuff, mem, garbage, me, cmd, m_seq, data, rest, rfl, served.1, found,
        decoded, kind, asks⟩
    · cases asks
  · cases asks

/-- A registration answers code 0 exactly if the record and its row are added. -/
theorem registration_step (world : World) (life : Life) (newcomer : User)
    (asks : registration env world life = some newcomer) :
    (∃ conn m_seq, (live env world life).1 =
      [.send conn (send ((header .register m_seq).writeString (env.toStyledString
        (registerReply (added world newcomer).1)))).1 .reply]) ∧
    (live env world life).2.store = (added world newcomer).2 := by
  obtain ⟨conn, msgbuff, mem, garbage, me, cmd, m_seq, data, rest, rfl, up, found, decoded, kind,
    request'⟩ := registration_some env world life newcomer asks
  obtain ⟨trace, state⟩ := process_outcome env me conn mem garbage msgbuff cmd m_seq data rest
    decoded world
  have handled : request env { me with m_seq := m_seq } conn mem garbage cmd rest data =
      onRegisterResponse env { me with m_seq := m_seq } conn data := by
    rw [request, kind]
    rfl
  rw [handled, register_outcome env _ conn data _ newcomer request'] at trace state
  rw [live, step, if_pos up, serve, found]
  constructor
  · refine ⟨conn, m_seq, ?_⟩
    dsimp only
    rw [finish]
    split
    · exact trace
    · exact trace
  · rw [finish_state, state]
    rfl

/-- The login with a name and a password is answered with the record of the id. -/
def LogsInAs (id : Int32) (newcomer : User) (store : Store) : Prop :=
  ∀ data, loginRequest env data = some (newcomer.username, newcomer.password) →
    ∃ user, loginReply env store data = .ok (profile user newcomer.username) ∧ user.userid = id

theorem loginReply_request (store : Store) (data username password : Bytes)
    (asks : loginRequest env data = some (username, password)) :
    loginReply env store data = .ok (judge store username password) := by
  rw [loginRequest] at asks
  rw [loginReply]
  split at asks
  · next root parsed =>
    rw [parsed]
    dsimp only
    split at asks
    · next fields checked =>
      rw [checked, asks]
    · cases asks
  · cases asks

theorem usable_logsIn (newcomer : User) (id : Int32) (store : Store)
    (usable : Usable (id, newcomer.username, newcomer.password) store) :
    LogsInAs env id newcomer store := by
  intro data asks
  have first := usable.record.first
  rw [keys, List.find?_map] at first
  obtain ⟨user, found, same⟩ := Option.map_eq_some_iff.mp first
  obtain ⟨mine, -, password⟩ : user.userid = id ∧ user.username = newcomer.username ∧
      user.password = newcomer.password := by simpa [credentials] using same
  refine ⟨user, ?_, mine⟩
  have located : store.getUserInfoByUsername newcomer.username = some user := found
  rw [loginReply_request env store data _ _ asks, judge, located]
  simp [password]

theorem added_usable (world : World) (newcomer : User) (listed : Listed world.store)
    (accepted : (added world newcomer).1.isSome) (positive : 0 < world.store.users.m_baseUserID + 1)
    (free : ∀ user ∈ world.store.cached, user.username ≠ newcomer.username) :
    Usable (world.store.users.m_baseUserID + 1, newcomer.username, newcomer.password)
      (added world newcomer).2 := by
  rw [added] at accepted ⊢
  rcases Store.addUser_exact newcomer (world.answers world.asked) world.store with
    ⟨-, same⟩ | ⟨granted, table, rows, same⟩
  · rw [same] at accepted
    cases accepted
  · have fresh := accepts_free _ _ _ granted
    rw [same]
    constructor
    · rw [keys, Store.cached, List.map_append]
      apply foremost_added
      · intro other member taken
        obtain ⟨user, inside, rfl⟩ := List.mem_map.mp member
        have known := listed user inside
        rw [show user.userid = world.store.users.m_baseUserID + 1 from taken] at known
        exact known.elim positive.not_ge fresh
      · intro other member
        obtain ⟨user, inside, rfl⟩ := List.mem_map.mp member
        exact free user inside
    · exact ⟨_, rows ▸ List.mem_append_right _ List.mem_cons_self, rfl⟩

/-- A registration under a name that another record has is answered with code 0
too, and the login behind it goes to that record. -/
theorem taken_name_unusable (world : World) (newcomer user : User)
    (found : world.store.getUserInfoByUsername newcomer.username = some user) :
    (added world newcomer).2.getUserInfoByUsername newcomer.username = some user := by
  rw [added]
  rcases Store.addUser_exact newcomer (world.answers world.asked) world.store with
    ⟨-, same⟩ | ⟨-, table, rows, same⟩
  · rw [same]
    exact found
  · rw [same]
    simp only [Store.getUserInfoByUsername] at found ⊢
    rw [Store.cached, List.find?_append, found, Option.some_or]

/-- In every run of the server: after a registration that answered code 0, under
a name that no cached record had, a login with the name and the password is
answered with code 0 and the new id, as long as nothing changes that user's
password and no restart finds a row with the name and a greater id. -/
theorem registered_account_usable (world : World) (life : Life) (newcomer : User)
    (after : List Life) (reachable : Reachable env world)
    (asks : registration env world life = some newcomer)
    (accepted : (added world newcomer).1.isSome)
    (positive : 0 < world.store.users.m_baseUserID + 1)
    (free : ∀ user ∈ world.store.cached, user.username ≠ newcomer.username)
    (kept : Along (live env) (KeepsPassword env (world.store.users.m_baseUserID + 1))
      (live env world life).2 after)
    (starts : Along (live env)
      (StartsUnrivalled (world.store.users.m_baseUserID + 1) newcomer.username)
      (live env world life).2 after) :
    LogsInAs env (world.store.users.m_baseUserID + 1) newcomer
      (run (live env) (live env world life).2 after).2.store := by
  have usable := added_usable world newcomer (reachable_listed env world reachable) accepted
    positive free
  rw [← (registration_step env world life newcomer asks).2] at usable
  exact usable_logsIn env newcomer _ _ (run_usable env after _ usable kept starts)

end Registrations

section Sample

def sampleStart : World :=
  (run (live sampleEnv) (boot sampleEnv {} (fun _ => true) 0) [.event (.connect [1] 0)]).2

def registersFirst : Life :=
  .event (sampleFrame [1] .register 1 (requestText (registers "a" "p")))

def firstNewcomer : User := { username := text "a", nickname := text "a", password := text "p" }

/-- Somebody else registers, and the server restarts. -/
def otherLives : List Life :=
  [.event (sampleFrame [1] .register 2 (requestText (registers "b" "q"))), .restart,
    .event (.connect [2] 0)]

theorem registered_account_usable_restarted :
    (added sampleStart firstNewcomer).1.isSome ∧
    LogsInAs sampleEnv 1 firstNewcomer
      (run (live sampleEnv) (live sampleEnv sampleStart registersFirst).2 otherLives).2.store := by
  have accepted : (added sampleStart firstNewcomer).1.isSome := by decide +kernel
  have first : sampleStart.store.users.m_baseUserID + 1 = 1 := by decide +kernel
  refine ⟨accepted, ?_⟩
  rw [← first]
  exact registered_account_usable sampleEnv sampleStart registersFirst firstNewcomer otherLives
    ⟨{}, fun _ => true, 0, [.event (.connect [1] 0)], rfl⟩ (by decide +kernel) accepted
    (by rw [first]; decide) (by decide +kernel) (by rw [first]; decide +kernel)
    (by rw [first]; decide +kernel)

/-- The same request twice: both registrations answer code 0, and the login
belongs to the first one. -/
theorem second_registration_unusable :
    let world := (live sampleEnv sampleStart registersFirst).2
    let data := requestText (logsIn "a" "p")
    registration sampleEnv world registersFirst = some firstNewcomer ∧
    (added world firstNewcomer).1.map User.userid = some 2 ∧
    world.store.users.m_baseUserID + 1 = 2 ∧
    loginRequest sampleEnv data = some (text "a", text "p") ∧
    ¬ LogsInAs sampleEnv 2 firstNewcomer (live sampleEnv world registersFirst).2.store := by
  intro world data
  have asks : loginRequest sampleEnv data = some (text "a", text "p") := by decide +kernel
  refine ⟨by decide +kernel, by decide +kernel, by decide +kernel, asks, ?_⟩
  intro logsIn
  obtain ⟨user, reply, mine⟩ := logsIn data asks
  have first : ((live sampleEnv world registersFirst).2.store.getUserInfoByUsername
      (text "a")).map credentials = some (1, text "a", text "p") := by decide +kernel
  obtain ⟨older, found, same⟩ := Option.map_eq_some_iff.mp first
  obtain ⟨id, -, password⟩ : older.userid = 1 ∧ older.username = text "a" ∧
      older.password = text "p" := by simpa [credentials] using same
  rw [loginReply_request sampleEnv _ data _ _ asks, judge, found] at reply
  have profiles := Except.ok.inj reply
  simp only [password, ne_eq, not_true_eq_false, ↓reduceIte] at profiles
  have ids := ((profile_eq_iff older user (text "a")).mp profiles).1
  rw [id, mine] at ids
  exact absurd ids (by decide)

end Sample

end EdoyumIM.UsableAccounts
