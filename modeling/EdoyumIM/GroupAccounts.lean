import EdoyumIM.SenderIdentity

/-!
Groups and logins. `AddGroup` puts a group into the list of users, with an empty
password, so a login may succeed as a group. The invariant `Sound` says where the
ids of groups can stand; every step keeps it unless the step is a login with an
empty password under a name that the cache resolves to a group. The steps here
are the events of the server and restarts on the same database.
-/

namespace EdoyumIM.GroupAccounts

open MachineWords FieldCodec JsonValue OrderedStore Effects UserStore ChatWorld ChatServer
open HandlerSteps SenderIdentity

section Lives

inductive Life where
  | event (event : Event)
  | restart

def live (env : Env) (world : World) : Life → List Label × World
  | .event event => step env world event
  | .restart => ([], boot env world.store.database world.answers world.asked)

/-- A row that `AddGroup` inserted is one with an owner. -/
def isGroup (database : Database) (id : Int32) : Bool :=
  database.t_user.rows.any fun row => row.f_user_id = id ∧ row.f_owner_id.isSome

/-- A login request with an empty password under a name whose first cached
record is a group. -/
def asksForGroup (env : Env) (store : Store) (data : Bytes) : Bool :=
  match loginRequest env data with
  | some (username, []) =>
      match store.getUserInfoByUsername username with
      | some user => isGroup store.database user.userid
      | none => false
  | _ => false

def loginAsGroup (env : Env) (world : World) : Life → Bool
  | .event (.frame conn msgbuff mem _) =>
      world.up && (world.m_mapclient.find? conn).isSome &&
        match loginData mem msgbuff with
        | some data => asksForGroup env world.store data
        | none => false
  | _ => false

def isCreateGroup (mem : Nat → UInt8) (msgbuff : Bytes) : Bool :=
  match decodeFrame mem msgbuff with
  | some (cmd, _) => MsgType.ofCode cmd = some .creategroup
  | none => false

/-- The group counter can be advanced once more without signed overflow. -/
def hasRoom (world : World) : Life → Bool
  | .event (.frame _ msgbuff mem _) =>
      !isCreateGroup mem msgbuff || decide (world.store.users.m_baseGrupID < Int32.maxValue)
  | _ => true

def NoGroupSession (world : World) : Prop :=
  ∀ conn session, world.m_mapclient.find? conn = some session →
    isGroup world.store.database session.userID = false

end Lives

/-! What the store keeps. -/
section Stores

theorem isGroup_iff (database : Database) (id : Int32) :
    isGroup database id = true ↔
      ∃ row ∈ database.t_user.rows, row.f_user_id = id ∧ row.f_owner_id.isSome := by
  simp [isGroup]

/-- An id of a row, or one that no row of a group can have. -/
def Known (database : Database) (id : Int32) : Prop := id ≤ 0 ∨ id ∈ database.t_user.ids

def Person (database : Database) (id : Int32) : Prop :=
  Known database id ∧ isGroup database id = false

structure SoundStore (store : Store) : Prop where
  base : GROUPID_BOUBDARY ≤ store.users.m_baseGrupID
  rows : ∀ row ∈ store.database.t_user.rows, row.f_owner_id.isSome →
    0 < row.f_user_id ∧ row.f_password = []
  cached : ∀ user ∈ store.cached, Known store.database user.userid ∧
    (isGroup store.database user.userid = true → user.password = [])

/-- Rows stay, and a new group gets a positive id that was free. -/
structure Grows (before after : Database) : Prop where
  ids : ∀ id ∈ before.t_user.ids, id ∈ after.t_user.ids
  groups : ∀ id, isGroup after id = true → isGroup before id = true ∨
    (0 < id ∧ id ∉ before.t_user.ids)

theorem Grows.refl (database : Database) : Grows database database :=
  ⟨fun _ => id, fun _ => Or.inl⟩

theorem Grows.trans {before middle after : Database} (first : Grows before middle)
    (second : Grows middle after) : Grows before after where
  ids id member := second.ids id (first.ids id member)
  groups id group := by
    rcases second.groups id group with old | ⟨positive, free⟩
    · exact first.groups id old
    · exact Or.inr ⟨positive, fun member => free (first.ids id member)⟩

theorem Grows.known {before after : Database} (grows : Grows before after) {id : Int32}
    (known : Known before id) : Known after id := known.imp_right (grows.ids id)

/-- A known id does not turn into that of a group. -/
theorem Grows.old_group {before after : Database} (grows : Grows before after) {id : Int32}
    (known : Known before id) (group : isGroup after id = true) : isGroup before id = true := by
  rcases grows.groups id group with old | ⟨positive, free⟩
  · exact old
  · rcases known with low | member
    · exact absurd low (not_le.mpr positive)
    · exact absurd member free

theorem Grows.person {before after : Database} (grows : Grows before after) {id : Int32}
    (person : Person before id) : Person after id := by
  refine ⟨grows.known person.1, ?_⟩
  apply Bool.eq_false_iff.mpr
  intro group
  exact Bool.false_ne_true (person.2 ▸ grows.old_group person.1 group)

/-- A change that leaves the rows of groups as they are, and the passwords of
their records. -/
theorem SoundStore.follow {before after : Store} (sound : SoundStore before)
    (base : GROUPID_BOUBDARY ≤ after.users.m_baseGrupID)
    (ids : after.database.t_user.ids = before.database.t_user.ids)
    (groupRows : ∀ row ∈ after.database.t_user.rows, row.f_owner_id.isSome →
      row ∈ before.database.t_user.rows)
    (records : ∀ user ∈ after.cached, ∃ old ∈ before.cached, user.userid = old.userid ∧
      (user.password = old.password ∨ isGroup before.database user.userid = false)) :
    SoundStore after ∧ Grows before.database after.database := by
  have old_groups : ∀ id, isGroup after.database id = true → isGroup before.database id = true := by
    intro id group
    obtain ⟨row, member, same, owned⟩ := (isGroup_iff _ id).mp group
    exact (isGroup_iff _ id).mpr ⟨row, groupRows row member owned, same, owned⟩
  refine ⟨⟨base, ?_, ?_⟩, fun id member => ids ▸ member, fun id group => Or.inl (old_groups id group)⟩
  · intro row member owned
    exact sound.rows row (groupRows row member owned) owned
  · intro user member
    obtain ⟨old, cached, sameId, samePassword⟩ := records user member
    obtain ⟨known, empty⟩ := sound.cached old cached
    refine ⟨?_, fun group => ?_⟩
    · rw [sameId]
      exact known.imp_right fun inside => ids ▸ inside
    · have group' := old_groups user.userid group
      rcases samePassword with same | person
      · rw [same]
        exact empty (sameId ▸ group')
      · exact absurd (person ▸ group') Bool.false_ne_true

/-- An INSERT of a row with a free id, and of its record into the cache. -/
theorem SoundStore.insert {before : Store} (sound : SoundStore before) (row : UserRow)
    (table : UserTable) (free : row.f_user_id ∉ before.database.t_user.ids)
    (rows : table.rows = before.database.t_user.rows ++ [row])
    (fresh : row.f_owner_id.isSome → 0 < row.f_user_id ∧ row.f_password = [])
    (users : UserManager) (base : GROUPID_BOUBDARY ≤ users.m_baseGrupID) (added : User)
    (cached : users.m_cachedUsers = before.cached ++ [added])
    (sameId : added.userid = row.f_user_id)
    (unlocked : row.f_owner_id.isSome → added.password = []) :
    SoundStore ⟨users, before.database.withUsers table⟩ ∧
      Grows before.database (before.database.withUsers table) := by
  have inside : ∀ id, id ∈ table.ids ↔ id ∈ before.database.t_user.ids ∨ id = row.f_user_id := by
    intro id
    simp [UserTable.ids, rows, eq_comm]
  have groups : ∀ id, isGroup (before.database.withUsers table) id = true ↔
      isGroup before.database id = true ∨ (id = row.f_user_id ∧ row.f_owner_id.isSome) := by
    intro id
    simp only [isGroup, Database.withUsers, rows, List.any_append, List.any_cons, List.any_nil,
      Bool.or_false, Bool.or_eq_true, decide_eq_true_eq, eq_comm (a := id)]
  have grows : Grows before.database (before.database.withUsers table) := by
    refine ⟨fun id member => (inside id).mpr (Or.inl member), fun id group => ?_⟩
    rcases (groups id).mp group with old | ⟨rfl, owned⟩
    · exact Or.inl old
    · exact Or.inr ⟨(fresh owned).1, free⟩
  refine ⟨⟨base, ?_, ?_⟩, grows⟩
  · intro other member owned
    rcases List.mem_append.mp (rows ▸ member) with old | new
    · exact sound.rows other old owned
    · obtain rfl := List.mem_singleton.mp new
      exact fresh owned
  · intro user member
    rcases List.mem_append.mp (show user ∈ before.cached ++ [added] from cached ▸ member) with old | new
    · obtain ⟨known, empty⟩ := sound.cached user old
      exact ⟨grows.known known, fun group => empty (grows.old_group known group)⟩
    · obtain rfl := List.mem_singleton.mp new
      refine ⟨Or.inr ((inside _).mpr (Or.inr sameId)), fun group => ?_⟩
      rcases (groups _).mp group with old | ⟨-, owned⟩
      · -- the id was free, so no row of a group had it
        obtain ⟨taken, present, same, -⟩ := (isGroup_iff _ _).mp old
        refine absurd ?_ free
        rw [← sameId, ← same]
        exact List.mem_map_of_mem present
      · exact unlocked owned

/-! The calls of UserManager. -/

def account (user : User) : Int32 × Bytes := (user.userid, user.password)

theorem records_of_accounts {before after : List User}
    (same : after.map account = before.map account) (user : User) (member : user ∈ after) :
    ∃ old ∈ before, user.userid = old.userid ∧ user.password = old.password := by
  have inside : account user ∈ before.map account := same ▸ List.mem_map_of_mem member
  obtain ⟨old, present, accounts⟩ := List.mem_map.mp inside
  obtain ⟨ids, passwords⟩ := Prod.mk.inj accounts
  exact ⟨old, present, ids.symm, passwords.symm⟩

theorem relateLoop_accounts (edit : Int32 → OrderedSet Int32 → OrderedSet Int32)
    (userid friendid : Int32) (bFound1 bFound2 : Bool) (users : List User) :
    (Store.relateLoop edit userid friendid bFound1 bFound2 users).2.map account =
      users.map account := by
  induction users generalizing bFound1 bFound2 with
  | nil => rfl
  | cons iter rest ih =>
      rw [Store.relateLoop]
      dsimp only
      split_ifs <;> simp only [List.map_cons, ih, account]

theorem mem_changeFirst (userid : Int32) (change : User → User) (users : List User) (user : User)
    (member : user ∈ (Store.changeFirst userid change users).2) :
    user ∈ users ∨ ∃ old ∈ users, old.userid = userid ∧ user = change old := by
  induction users with
  | nil => cases member
  | cons iter rest ih =>
      rw [Store.changeFirst] at member
      split_ifs at member with here
      · rcases List.mem_cons.mp member with rfl | later
        · exact Or.inr ⟨iter, List.mem_cons_self, here, rfl⟩
        · exact Or.inl (List.mem_cons_of_mem iter later)
      · rcases List.mem_cons.mp member with rfl | later
        · exact Or.inl List.mem_cons_self
        · rcases ih later with old | ⟨old, present, same, changed⟩
          · exact Or.inl (List.mem_cons_of_mem iter old)
          · exact Or.inr ⟨old, List.mem_cons_of_mem iter present, same, changed⟩

theorem SoundStore.same {before after : Store} (sound : SoundStore before)
    (base : GROUPID_BOUBDARY ≤ after.users.m_baseGrupID)
    (table : after.database.t_user = before.database.t_user)
    (accounts : after.cached.map account = before.cached.map account) :
    SoundStore after ∧ Grows before.database after.database := by
  apply sound.follow base
  · rw [table]
  · intro row member _
    exact table ▸ member
  · intro user member
    obtain ⟨old, present, ids, passwords⟩ := records_of_accounts accounts user member
    exact ⟨old, present, ids, Or.inl passwords⟩

/-- UPDATE of the row of a person, and of the first record with that id. -/
theorem SoundStore.update {before : Store} (sound : SoundStore before) (userid : Int32)
    (person : isGroup before.database userid = false) (change : UserRow → UserRow)
    (keepsOwner : ∀ row, (change row).f_owner_id = row.f_owner_id) (edit : User → User)
    (keepsId : ∀ user, (edit user).userid = user.userid) :
    let updated : Store :=
      { before with
        database := before.database.withUsers (before.database.t_user.update userid change) }
    SoundStore (updated.changeCached userid edit).2 ∧
      Grows before.database (updated.changeCached userid edit).2.database := by
  intro updated
  refine @SoundStore.follow before (updated.changeCached userid edit).2 sound sound.base ?_ ?_ ?_
  · exact UserTable.ids_update userid change before.database.t_user
  · intro row member owned
    obtain ⟨old, present, rfl⟩ := List.mem_map.mp member
    split_ifs at owned ⊢ with here
    · -- the row with the given key is not that of a group
      have group : isGroup before.database userid = true :=
        (isGroup_iff _ _).mpr ⟨old, present, here, keepsOwner old ▸ owned⟩
      exact absurd (person ▸ group) Bool.false_ne_true
    · exact present
  · intro user member
    rcases mem_changeFirst userid edit _ user member with old | ⟨old, present, here, rfl⟩
    · exact ⟨user, old, rfl, Or.inl rfl⟩
    · refine ⟨old, present, keepsId old, Or.inr ?_⟩
      rw [keepsId, here]
      exact person

theorem addUser_grows {store : Store} (sound : SoundStore store) (user : User) (accept : Bool) :
    SoundStore (store.addUser user accept).2 ∧
      Grows store.database (store.addUser user accept).2.database := by
  rcases Store.addUser_cases user accept store with
    ⟨-, refused⟩ | ⟨accepted, row, table, added, rows, same, id, owner, addedId⟩
  · rw [refused]
    exact @SoundStore.same store store.countUser sound sound.base rfl rfl
  · rw [same]
    have free : row.f_user_id ∉ store.database.t_user.ids := by
      simpa [Database.accepts, id] using (Bool.and_eq_true_iff.mp accepted).2
    exact sound.insert row table free rows (by simp [owner]) _ sound.base added rfl
      (addedId.trans id.symm) (by simp [owner])

theorem next_group (base : Int32) (low : GROUPID_BOUBDARY ≤ base) (room : base < Int32.maxValue) :
    GROUPID_BOUBDARY ≤ base + 1 ∧ 0 < base + 1 := by
  rw [Int32.le_iff_toInt_le] at low ⊢
  rw [Int32.lt_iff_toInt_lt] at room ⊢
  have bound : GROUPID_BOUBDARY.toInt = 268435455 := rfl
  have greatest : Int32.maxValue.toInt = 2147483647 := rfl
  have next := toInt_succ base (by omega) (by omega)
  rw [Int32.toInt_zero]
  omega

theorem addGroup_grows {store : Store} (sound : SoundStore store) (groupname : Bytes)
    (ownerid : Int32) (accept : Bool) (room : store.users.m_baseGrupID < Int32.maxValue) :
    SoundStore (store.addGroup groupname ownerid accept).2 ∧
      Grows store.database (store.addGroup groupname ownerid accept).2.database := by
  obtain ⟨base, positive⟩ := next_group store.users.m_baseGrupID sound.base room
  rcases Store.addGroup_cases groupname ownerid accept store with
    ⟨-, refused⟩ | ⟨accepted, row, table, added, rows, same, id, -, empty, addedId, unlocked⟩
  · rw [refused]
    exact @SoundStore.same store store.countGroup sound base rfl rfl
  · rw [same]
    have free : row.f_user_id ∉ store.database.t_user.ids := by
      simpa [Database.accepts, id] using (Bool.and_eq_true_iff.mp accepted).2
    exact sound.insert row table free rows (fun _ => ⟨id ▸ positive, empty⟩) _ base added rfl
      (addedId.trans id.symm) fun _ => unlocked

/-- Functions that execute a statement and go on when it was accepted. -/
theorem excute_grows {store : Store} (sound : SoundStore store) (accept : Bool)
    (statement : Statement) (next : Store → Bool × Store)
    (accepted : ∀ changed, store.database.apply statement = some changed →
      SoundStore (next { store with database := changed }).2 ∧
        Grows store.database (next { store with database := changed }).2.database) :
    let outcome := match store.excute accept statement with
      | (false, refused) => (false, refused)
      | (true, changed) => next changed
    SoundStore outcome.2 ∧ Grows store.database outcome.2.database := by
  rcases Store.excute_cases accept statement store with refused | ⟨changed, applied, same⟩
  · rw [refused]
    exact ⟨sound, Grows.refl store.database⟩
  · rw [same]
    exact accepted changed applied

theorem storeCall_grows {me : ClientSession} {kind : Option MsgType} {α : Type}
    {operation : Bool → Store → α × Store} (call : StoreCall me kind α operation)
    (other : kind ≠ some .creategroup) (accept : Bool) {store : Store} (sound : SoundStore store)
    (person : isGroup store.database me.userID = false) :
    SoundStore (operation accept store).2 ∧
      Grows store.database (operation accept store).2.database := by
  cases call with
  | addUser user => exact addUser_grows sound user accept
  -- the one call that may add a group
  | addGroup groupname creates => exact absurd creates other
  | makeFriend smallid greatid =>
      rw [Store.makeFriendRelationship]
      split_ifs
      · exact ⟨sound, Grows.refl store.database⟩
      · apply excute_grows sound
        rintro _ ⟨⟩
        exact @SoundStore.same store _ sound sound.base rfl (relateLoop_accounts _ _ _ _ _ _)
  | releaseFriend smallid greatid =>
      rw [Store.releaseFriendRelationship]
      split_ifs
      · exact ⟨sound, Grows.refl store.database⟩
      · apply excute_grows sound
        rintro _ ⟨⟩
        exact @SoundStore.same store _ sound sound.base rfl (relateLoop_accounts _ _ _ _ _ _)
  | updateUserInfo newuserinfo =>
      apply excute_grows sound
      rintro _ ⟨⟩
      refine sound.update me.userID person _ ?_ _ ?_ <;> exact fun _ => rfl
  | modifyUserPassword newpassword =>
      apply excute_grows sound
      rintro _ ⟨⟩
      refine sound.update me.userID person _ ?_ _ ?_ <;> exact fun _ => rfl
  | saveChatMsg target data =>
      rcases Store.excute_cases accept (.insertChatMsg me.userID target data) store with
        refused | ⟨changed, applied, accepted⟩
      · rw [Store.saveChatMsgToDb, refused]
        exact ⟨sound, Grows.refl store.database⟩
      · rw [Store.saveChatMsgToDb, accepted]
        obtain rfl := Option.some.inj applied
        exact @SoundStore.same store _ sound sound.base rfl rfl

theorem boot_sound (emptyData : Bool) {store : Store} (sound : SoundStore store) :
    SoundStore { users := init emptyData store.database, database := store.database } := by
  refine ⟨(init_baseGrupID emptyData store.database).ge, sound.rows, ?_⟩
  intro user member
  obtain ⟨row, loaded, ids, passwords⟩ := mem_init emptyData store.database user member
  rw [ids, passwords]
  rcases loaded with present | rfl
  · refine ⟨Or.inr (List.mem_map_of_mem present), fun group => ?_⟩
    obtain ⟨owner, inside, same, owned⟩ := (isGroup_iff _ _).mp group
    -- the key leaves only the row of the group itself
    obtain rfl := UserTable.row_unique _ owner row inside present same
    exact (sound.rows owner inside owned).2
  · exact ⟨Or.inl le_rfl, fun _ => rfl⟩

end Stores

/-! Frames. The requesting session is that of a person. -/
section Frames

def Held (me : ClientSession) (world : World) : Prop :=
  SoundStore world.store ∧ Person world.store.database me.userID

def StoreGrows (before : World) (_trace : List Label) (after : World) : Prop :=
  Grows before.store.database after.store.database

theorem storeGrows_composable : Composable StoreGrows where
  nothing world := Grows.refl world.store.database
  sequence first second := Grows.trans first second

/-- Nothing but a call of UserManager reaches the store. -/
theorem guarded_still {me : ClientSession} {before after : World} {trace : List Label}
    (same : after.store = before.store) : Guarded (Held me) StoreGrows before trace after := by
  intro held
  refine ⟨?_, ?_⟩
  · rw [Held, same]
    exact held
  · rw [StoreGrows, same]
    exact Grows.refl before.store.database

theorem guarded_call {me : ClientSession} {before after : World} {trace : List Label}
    (call : SoundStore before.store → Person before.store.database me.userID →
      SoundStore after.store ∧ Grows before.store.database after.store.database) :
    Guarded (Held me) StoreGrows before trace after := by
  rintro ⟨sound, person⟩
  obtain ⟨after_sound, grows⟩ := call sound person
  exact ⟨⟨after_sound, grows.person person⟩, grows⟩

theorem deliver_store (channel : Channel) (target : Int32) (item : Item) (writer : BinaryWriter)
    (cached : Bytes) (world : World) :
    (deliver channel target item writer cached world).state.store = world.store := by
  cases found : world.addressOf target with
  | none => rw [deliver_offline _ _ _ _ _ world found]
  | some peer => rw [deliver_online _ _ _ _ _ world peer found]

theorem basic_grows {me : ClientSession} {kind : Option MsgType} {conn data : Bytes} {α : Type}
    {command : Handler α} (other : kind ≠ some .creategroup)
    (basic : Basic me kind conn data α command) :
    Keeps (Guarded (Held me) StoreGrows) command := by
  intro world
  cases basic with
  | look question blind => exact guarded_still rfl
  | reply bytes => exact guarded_still rfl
  | status peer bytes => exact guarded_still rfl
  | ask call =>
      exact guarded_call fun sound person => storeCall_grows call other _ sound person.2
  | edit change keepsUser blind => exact guarded_still rfl
  | direct target small => exact guarded_still (deliver_store _ _ _ _ _ world)
  | group target writer => exact guarded_still (deliver_store _ _ _ _ _ world)
  | notify type target outbuf => exact guarded_still (deliver_store _ _ _ _ _ world)

theorem built_grows {me : ClientSession} {kind : Option MsgType} {conn data : Bytes} {α : Type}
    {command : Handler α} (other : kind ≠ some .creategroup)
    (built : Built (Basic me kind conn data) command) :
    Keeps (Guarded (Held me) StoreGrows) command :=
  built.keeps (guarded_composable (Held me) storeGrows_composable) (basic_grows other)

theorem createGroup_grows (env : Env) (me : ClientSession) (conn data : Bytes) (garbage : Int32)
    (world : World) (held : Held me world)
    (room : world.store.users.m_baseGrupID < Int32.maxValue) :
    Held me (onCreateGroupResponse env me conn data garbage world).state ∧
      Grows world.store.database
        (onCreateGroupResponse env me conn data garbage world).state.store.database := by
  rcases createGroup_shape env me conn data garbage with built | ⟨groupname, next, shape, built⟩
  · exact built_grows (by simp) (built none) world held
  · rw [shape, Act.bind_ok _ _ _ _ rfl]
    obtain ⟨sound, person⟩ := held
    obtain ⟨made, grows⟩ :=
      addGroup_grows sound groupname me.userID (world.answers world.asked) room
    -- one group is made with room for it; the rest of the handler makes none
    have middle : Held me (ask (Store.addGroup groupname me.userID) world).state :=
      ⟨made, grows.person person⟩
    obtain ⟨last, more⟩ := built_grows (by simp) (built none _) _ middle
    exact ⟨last, grows.trans more⟩

/-- A frame that is no login. -/
theorem process_grows (env : Env) (me : ClientSession) (conn : Bytes) (mem : Nat → UInt8)
    (garbage : Int32) (msgbuff : Bytes) (world : World) (held : Held me world)
    (other : loginData mem msgbuff = none)
    (room : isCreateGroup mem msgbuff = true → world.store.users.m_baseGrupID < Int32.maxValue) :
    Held me (process env me conn mem garbage msgbuff world).state ∧
      Grows world.store.database
        (process env me conn mem garbage msgbuff world).state.store.database := by
  cases decoded : decodeFrame mem msgbuff with
  | none =>
      exact built_grows (by simp) (process_undecoded env me conn mem garbage msgbuff decoded [])
        world held
  | some parts =>
      obtain ⟨cmd, m_seq, data, rest⟩ := parts
      have login : MsgType.ofCode cmd ≠ some .login := by
        intro kind
        simp [loginData, decoded, kind] at other
      by_cases creates : MsgType.ofCode cmd = some .creategroup
      · have enough := room (by simp [isCreateGroup, decoded, creates])
        rw [(process_outcome env me conn mem garbage msgbuff cmd m_seq data rest decoded world).2,
          request, creates]
        exact createGroup_grows env { me with m_seq := m_seq } conn data garbage _ held enough
      · exact built_grows creates
          (process_built env me conn mem garbage msgbuff cmd m_seq data rest decoded login) world held

theorem process_login_store (env : Env) (me : ClientSession) (conn : Bytes) (mem : Nat → UInt8)
    (garbage : Int32) (msgbuff data : Bytes) (world : World)
    (login : loginData mem msgbuff = some data) :
    (process env me conn mem garbage msgbuff world).state.store = world.store := by
  obtain ⟨cmd, m_seq, rest, decoded, kind⟩ := loginData_some mem msgbuff data login
  rw [(process_login_outcome env me conn mem garbage msgbuff cmd m_seq data rest decoded kind world).2]
  rcases login_cases env { me with m_seq := m_seq } conn data
      (world.modifySession conn fun session => { session with m_seq := m_seq }) with
    ⟨username, password, user, -, granted⟩ | ⟨-, unchanged, -⟩
  · obtain ⟨_, _, -, -, state⟩ := logIn_outcome env { me with m_seq := m_seq } conn
      (world.modifySession conn fun session => { session with m_seq := m_seq }) username password user
    rw [granted, state]
    rfl
  · rw [unchanged]
    rfl

end Frames

/-! Steps and runs. -/
section Steps

variable (env : Env)

structure Sound (world : World) : Prop where
  store : SoundStore world.store
  sessions : ∀ conn, Person world.store.database (heldId world conn)

theorem low_person {store : Store} (sound : SoundStore store) (id : Int32) (low : id ≤ 0) :
    Person store.database id := by
  refine ⟨Or.inl low, Bool.eq_false_iff.mpr ?_⟩
  intro group
  obtain ⟨row, member, rfl, owned⟩ := (isGroup_iff _ id).mp group
  exact absurd low (not_le.mpr (sound.rows row member owned).1)

theorem finish_state {α : Type} (outcome : Outcome World Label Fault α) :
    (finish outcome).2.store = outcome.state.store := by
  rw [finish]
  split <;> rfl

theorem step_grows (world : World) (sound : Sound world) (event : Event)
    (room : hasRoom world (.event event) = true) :
    SoundStore (step env world event).2.store ∧
      Grows world.store.database (step env world event).2.store.database := by
  have still : SoundStore world.store ∧ Grows world.store.database world.store.database :=
    ⟨sound.store, Grows.refl world.store.database⟩
  rw [step]
  split
  · cases event with
    | connect conn junkTarget => exact still
    | disconnect conn => exact still
    | frame conn msgbuff mem garbage =>
        rw [serve]
        split
        · exact still
        · next me found =>
          rw [finish_state]
          cases login : loginData mem msgbuff with
          | some data =>
              rw [process_login_store env me conn mem garbage msgbuff data world login]
              exact still
          | none =>
              -- the calls of the handler are made for the id this session holds
              have person : Person world.store.database me.userID := by
                simpa [heldId, found] using sound.sessions conn
              have enough : isCreateGroup mem msgbuff = true →
                  world.store.users.m_baseGrupID < Int32.maxValue := by
                intro creates
                simpa [hasRoom, creates] using room
              obtain ⟨held, grows⟩ := process_grows env me conn mem garbage msgbuff world
                ⟨sound.store, person⟩ login enough
              exact ⟨held.1, grows⟩
  · exact still

theorem loginMatches_some (data : Bytes) (store : Store) (username password : Bytes) (user : User)
    (matched : loginMatches env data store = some (username, password, user)) :
    loginRequest env data = some (username, password) ∧
      store.getUserInfoByUsername username = some user ∧ password = user.password := by
  rw [loginMatches] at matched
  split at matched
  · cases matched
  · next name word asked =>
    split at matched
    · next record found =>
      split_ifs at matched with agrees
      obtain ⟨rfl, rfl, rfl⟩ : name = username ∧ word = password ∧ record = user := by
        simpa using matched
      exact ⟨asked, found, agrees⟩
    · cases matched

/-- A login that is not one for a group gives its session the id of a person. -/
theorem login_person (store : Store) (sound : SoundStore store) (data username password : Bytes)
    (user : User) (matched : loginMatches env data store = some (username, password, user))
    (other : asksForGroup env store data = false) : Person store.database user.userid := by
  obtain ⟨asked, found, agrees⟩ := loginMatches_some env data store username password user matched
  obtain ⟨known, empty⟩ := sound.cached user (List.mem_of_find?_eq_some found)
  refine ⟨known, Bool.eq_false_iff.mpr ?_⟩
  intro group
  -- the password that agreed with a group's is the empty one
  have unlocked : password = [] := agrees.trans (empty group)
  subst unlocked
  simp [asksForGroup, asked, found, group] at other

theorem person_update {database : Database} (ids : Bytes → Int32) (conn peer : Bytes) (id : Int32)
    (kept : Person database (ids peer)) (entered : Person database id) :
    Person database (Function.update ids conn id peer) := by
  by_cases here : peer = conn
  · subst here
    rw [Function.update_self]
    exact entered
  · rw [Function.update_of_ne here]
    exact kept

theorem step_sound (world : World) (sound : Sound world) (event : Event)
    (room : hasRoom world (.event event) = true)
    (other : loginAsGroup env world (.event event) = false) :
    Sound (step env world event).2 := by
  -- the store first, then the id of every session by what the event makes of it
  obtain ⟨store, grows⟩ := step_grows env world sound event room
  refine ⟨store, fun peer => ?_⟩
  have kept := grows.person (sound.sessions peer)
  rw [step_tracks env world (heldId world) (fun _ => rfl) event peer]
  cases event with
  | connect conn junkTarget => exact kept
  | disconnect conn =>
      rw [identify]
      split_ifs
      · exact person_update _ conn peer (-1) kept (low_person store (-1) (by decide))
      · exact kept
  | frame conn msgbuff mem garbage =>
      rw [identify]
      split_ifs with served
      · cases login : loginData mem msgbuff with
        | none => exact kept
        | some data =>
            dsimp only
            cases matched : loginMatches env data world.store with
            | none => exact kept
            | some grant =>
                obtain ⟨username, password, user⟩ := grant
                have honest : asksForGroup env world.store data = false := by
                  simpa [loginAsGroup, served.1, served.2, login] using other
                have entered := login_person env world.store sound.store data username password user
                  matched honest
                exact person_update _ conn peer user.userid kept (grows.person entered)
      · exact kept

theorem live_sound (world : World) (sound : Sound world) (life : Life)
    (room : hasRoom world life = true) (other : loginAsGroup env world life = false) :
    Sound (live env world life).2 := by
  cases life with
  | event event => exact step_sound env world sound event room other
  | restart =>
      have store := boot_sound env.emptyData sound.store
      exact ⟨store, fun conn => low_person store (-1) (by decide)⟩

theorem sound_noGroupSession (world : World) (sound : Sound world) : NoGroupSession world := by
  intro conn session found
  have person := sound.sessions conn
  rw [heldId, found] at person
  exact person.2

theorem asksForGroup_true (store : Store) (data : Bytes)
    (asks : asksForGroup env store data = true) :
    ∃ username user, loginRequest env data = some (username, []) ∧
      store.getUserInfoByUsername username = some user ∧
      isGroup store.database user.userid = true := by
  rw [asksForGroup] at asks
  split at asks
  · next username asked =>
    split at asks
    · next user found => exact ⟨username, user, asked, found, asks⟩
    · cases asks
  · cases asks

theorem login_store (world : World) (conn msgbuff : Bytes) (mem : Nat → UInt8) (garbage : Int32)
    (data : Bytes) (login : loginData mem msgbuff = some data) :
    (step env world (.frame conn msgbuff mem garbage)).2.store = world.store := by
  rw [step]
  split
  · rw [serve]
    split
    · rfl
    · next me _ =>
      rw [finish_state]
      exact process_login_store env me conn mem garbage msgbuff data world login
  · rfl

/-- A login for a group succeeds: its record has an empty password. -/
theorem login_enters_group (world : World) (sound : Sound world) (conn msgbuff : Bytes)
    (mem : Nat → UInt8) (garbage : Int32) (data : Bytes) (up : world.up = true)
    (present : (world.m_mapclient.find? conn).isSome = true)
    (login : loginData mem msgbuff = some data)
    (asks : asksForGroup env world.store data = true) :
    ¬ NoGroupSession (step env world (.frame conn msgbuff mem garbage)).2 := by
  intro none
  obtain ⟨username, user, asked, found, group⟩ := asksForGroup_true env world.store data asks
  have unlocked := (sound.store.cached user (List.mem_of_find?_eq_some found)).2 group
  have matched : loginMatches env data world.store = some (username, [], user) := by
    simp [loginMatches, asked, found, unlocked]
  have entered : heldId (step env world (.frame conn msgbuff mem garbage)).2 conn =
      user.userid := by
    rw [step_tracks env world (heldId world) (fun _ => rfl) _ conn, identify,
      if_pos ⟨up, present⟩, login]
    simp only [matched, Function.update_self]
  rw [heldId] at entered
  cases held : (step env world (.frame conn msgbuff mem garbage)).2.m_mapclient.find? conn with
  | none =>
      -- without a session the id would be -1, which no group has
      have low : user.userid ≤ 0 := by
        rw [← entered, held]
        decide
      exact absurd group (by simp [(low_person sound.store user.userid low).2])
  | some session =>
      have person := none conn session held
      rw [held] at entered
      rw [login_store env world conn msgbuff mem garbage data login,
        show session.userID = user.userid from entered, group] at person
      cases person

theorem loginAsGroup_enters (world : World) (sound : Sound world) (life : Life)
    (asks : loginAsGroup env world life = true) : ¬ NoGroupSession (live env world life).2 := by
  cases life with
  | restart => cases asks
  | event event =>
      cases event with
      | connect conn junkTarget => cases asks
      | disconnect conn => cases asks
      | frame conn msgbuff mem garbage =>
          simp only [loginAsGroup, Bool.and_eq_true] at asks
          cases login : loginData mem msgbuff with
          | none => simp [login] at asks
          | some data =>
              simp only [login] at asks
              exact login_enters_group env world sound conn msgbuff mem garbage data asks.1.1
                asks.1.2 login asks.2

/-- In a run from an empty database without overflow of the group counter: no
state reached has a session with the id of a group, if and only if no step is a
login with an empty password under a name that belongs to a group. -/
theorem groups_stay_out_iff (answers : Nat → Bool) (asked : Nat) (lives : List Life)
    (room : Along (live env) (fun world life => hasRoom world life = true)
      (boot env {} answers asked) lives) :
    (∀ before after, lives = before ++ after →
      NoGroupSession (run (live env) (boot env {} answers asked) before).2) ↔
    Along (live env) (fun world life => loginAsGroup env world life = false)
      (boot env {} answers asked) lives := by
  have empty : SoundStore {} := by
    refine ⟨le_rfl, ?_, ?_⟩ <;> intro _ member <;> cases member
  have store := boot_sound env.emptyData empty
  have start : Sound (boot env {} answers asked) :=
    ⟨store, fun conn => low_person store (-1) (by decide)⟩
  -- from here on step by step, with `Sound` as the invariant
  rw [← along_reached, and_iff_right (sound_noGroupSession _ start)]
  refine along_iff (live env) ?_ ?_ _ lives start room
  · intro world life sound enough
    constructor
    · intro none
      apply Bool.eq_false_iff.mpr
      intro asks
      exact loginAsGroup_enters env world sound life asks none
    · intro other
      exact sound_noGroupSession _ (live_sound env world sound life enough other)
  · intro world life sound enough other
    exact live_sound env world sound life enough other

/-- User `a` makes a group, the server restarts, and `a` logs in again. -/
def honestLives : List Life :=
  [.event (.connect [1] 0),
    .event (sampleFrame [1] .register 1 (requestText (registers "a" "p"))),
    .event (sampleFrame [1] .login 2 (requestText (logsIn "a" "p"))),
    .event (sampleFrame [1] .creategroup 3 (requestText (createsGroup "g"))), .restart,
    .event (.connect [2] 0), .event (sampleFrame [2] .login 1 (requestText (logsIn "a" "p")))]

theorem groups_stay_out_iff_restart :
    Along (live sampleEnv) (fun world life => hasRoom world life = true)
      (boot sampleEnv {} (fun _ => true) 0) honestLives ∧
    Along (live sampleEnv) (fun world life => loginAsGroup sampleEnv world life = false)
      (boot sampleEnv {} (fun _ => true) 0) honestLives ∧
    NoGroupSession (run (live sampleEnv) (boot sampleEnv {} (fun _ => true) 0) honestLives).2 := by
  have room : Along (live sampleEnv) (fun world life => hasRoom world life = true)
      (boot sampleEnv {} (fun _ => true) 0) honestLives := by decide +kernel
  have honest : Along (live sampleEnv)
      (fun world life => loginAsGroup sampleEnv world life = false)
      (boot sampleEnv {} (fun _ => true) 0) honestLives := by decide +kernel
  exact ⟨room, honest, (groups_stay_out_iff sampleEnv (fun _ => true) 0 honestLives room).mpr honest
    honestLives [] (List.append_nil _).symm⟩

/-- The group itself logs in, with its id as name and no password. -/
def groupLives : List Life :=
  [.event (.connect [1] 0),
    .event (sampleFrame [1] .register 1 (requestText (registers "a" "p"))),
    .event (sampleFrame [1] .login 2 (requestText (logsIn "a" "p"))),
    .event (sampleFrame [1] .creategroup 3 (requestText (createsGroup "g"))),
    .event (sampleFrame [1] .login 4 (requestText (logsIn "268435456" "")))]

theorem group_logs_in :
    let reached := (run (live sampleEnv) (boot sampleEnv {} (fun _ => true) 0) groupLives).2
    (reached.m_mapclient.find? [1]).map ClientSession.userID = some 268435456 ∧
    isGroup reached.store.database 268435456 = true ∧ ¬ NoGroupSession reached := by
  intro reached
  have entered : (reached.m_mapclient.find? [1]).map ClientSession.userID = some 268435456 := by
    decide +kernel
  have group : isGroup reached.store.database 268435456 = true := by decide +kernel
  refine ⟨entered, group, fun none => ?_⟩
  obtain ⟨session, found, same⟩ := Option.map_eq_some_iff.mp entered
  have person := none [1] session found
  rw [same, group] at person
  cases person

end Steps

end EdoyumIM.GroupAccounts
