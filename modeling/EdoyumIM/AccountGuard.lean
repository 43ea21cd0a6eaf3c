import EdoyumIM.Delivery
import EdoyumIM.UsableAccounts

/-!
What the password of an account protects. As long as no login states the user
name and the password that its row holds, the row stays as it is and nothing
meant for the user is sent to anyone, whatever the frames of other connections
contain and however often the server is started again. The account may be one
that was there at the start or one that was registered on the way.
-/

namespace EdoyumIM.AccountGuard

open MachineWords FieldCodec JsonValue OrderedStore Effects UserStore ChatWorld ChatServer
open HandlerSteps IdClasses UserLockstep UsableAccounts Delivery
open GroupAccounts (Life live deliver_store finish_state loginMatches_some)
open SessionFraming (send)

/-! The row and the cached records under its id. -/
section Rows

variable {row : UserRow} {store : Store}

/-- A cached record with the id of the row has its name and its password. -/
structure Stored (row : UserRow) (store : Store) : Prop where
  stands : row ∈ store.database.t_user.rows
  admits : ∀ entry ∈ keys store, entry.1 = row.f_user_id →
    entry = (row.f_user_id, row.f_username, row.f_password)

theorem Stored.follow {after : Store} (stored : Stored row store) (records : keys after = keys store)
    (rows : after.database.t_user = store.database.t_user) : Stored row after :=
  ⟨rows ▸ stored.stands, records ▸ stored.admits⟩

/-- A new record beside a new row, under an id that no row had. -/
theorem Stored.add {after : Store} (stored : Stored row store) (added : User) (new : UserRow)
    (cached : after.cached = store.cached ++ [added])
    (rows : after.database.t_user.rows = store.database.t_user.rows ++ [new])
    (free : added.userid ∉ store.database.t_user.ids) : Stored row after where
  stands := rows ▸ List.mem_append_left _ stored.stands
  admits := by
    intro entry member same
    rw [keys, cached, List.map_append] at member
    rcases List.mem_append.mp member with old | last
    · exact stored.admits entry old same
    · -- the id of the row is taken
      obtain rfl := List.mem_singleton.mp last
      have taken : row.f_user_id ∈ store.database.t_user.ids := List.mem_map_of_mem stored.stands
      have own : added.userid = row.f_user_id := same
      exact absurd (own ▸ taken) free

/-- An UPDATE under another id. -/
theorem changeRecord_stored (stored : Stored row store) (statement : Statement) (userid : Int32)
    (change : User → User) (changeRow : UserRow → UserRow) (accept : Bool)
    (apart : userid ≠ row.f_user_id) (keepsId : ∀ iter, (change iter).userid = iter.userid)
    (applies : store.database.apply statement =
      some (store.database.withUsers (store.database.t_user.update userid changeRow))) :
    Stored row (changeRecord statement userid change accept store).2 := by
  rw [changeRecord]
  rcases Store.excute_cases accept statement store with refused | ⟨changed, applied, accepted⟩
  · rw [refused]
    exact stored
  · rw [accepted]
    obtain rfl := Option.some.inj (applies.symm.trans applied)
    constructor
    · exact List.mem_map.mpr ⟨row, stored.stands, if_neg apart.symm⟩
    · intro entry member same
      obtain ⟨iter, inside, rfl⟩ := List.mem_map.mp member
      rcases mem_changeFirst userid change store.cached iter inside with old | ⟨old, -, mine, rfl⟩
      · exact stored.admits _ (List.mem_map_of_mem old) same
      · exact absurd (mine.symm.trans ((keepsId old).symm.trans same)) apart

theorem related_stored (stored : Stored row store)
    (edit : Int32 → OrderedSet Int32 → OrderedSet Int32) (smallid greatid : Int32)
    (relationships : List (Int32 × Int32)) :
    Stored row (({ store with database :=
        { store.database with t_user_relationship := relationships } } : Store).withCached
      (Store.relateLoop edit smallid greatid false false store.cached).2) :=
  stored.follow (relateLoop_keys edit smallid greatid store.cached false false) rfl

/-- No call that a session makes under another id touches the account. -/
theorem storeCall_stored {me : ClientSession} {kind : Option MsgType} {α : Type}
    {operation : Bool → Store → α × Store} (call : StoreCall me kind α operation)
    (apart : me.userID ≠ row.f_user_id) (stored : Stored row store) (accept : Bool) :
    Stored row (operation accept store).2 := by
  cases call with
  | addUser user =>
      rcases Store.addUser_exact user accept store with ⟨-, same⟩ | ⟨accepted, table, rows, same⟩
      · rw [same]
        exact stored.follow rfl rfl
      · rw [same]
        exact stored.add _ _ rfl rows (accepts_free accept _ _ accepted)
  | addGroup groupname creates =>
      rcases Store.addGroup_exact groupname me.userID accept store with
        ⟨-, same⟩ | ⟨accepted, table, rows, same⟩
      · rw [same]
        exact stored.follow rfl rfl
      · rw [same]
        exact stored.add _ _ rfl rows (accepts_free accept _ _ accepted)
  | makeFriend smallid greatid =>
      rcases makeFriend_cases smallid greatid accept store with ⟨-, same⟩ | ⟨-, -, same⟩
      · rw [same]
        exact stored
      · rw [same]
        exact related_stored stored OrderedSet.insert smallid greatid _
  | releaseFriend smallid greatid =>
      rcases releaseFriend_cases smallid greatid accept store with ⟨-, same⟩ | ⟨-, -, same⟩
      · rw [same]
        exact stored
      · rw [same]
        exact related_stored stored OrderedSet.erase smallid greatid _
  | updateUserInfo newuserinfo =>
      rw [updateUserInfo_eq]
      exact changeRecord_stored stored _ _ _ _ accept apart (fun _ => rfl) rfl
  | modifyUserPassword newpassword =>
      rw [modifyUserPassword_eq]
      exact changeRecord_stored stored _ _ _ _ accept apart (fun _ => rfl) rfl
  | saveChatMsg target data =>
      rw [Store.saveChatMsgToDb]
      rcases Store.excute_cases accept (.insertChatMsg me.userID target data) store with
        refused | ⟨changed, applied, accepted⟩
      · rw [refused]
        exact stored
      · rw [accepted]
        obtain rfl := Option.some.inj applied
        exact stored.follow rfl rfl

/-- A start reads the row, and no other one under its id. -/
theorem restart_stored (emptyData : Bool) (stands : row ∈ store.database.t_user.rows) :
    Stored row (started emptyData store.database) where
  stands := stands
  admits := by
    intro entry member same
    have reads : ReadsRows emptyData store.database := Or.inr (List.ne_nil_of_mem stands)
    rw [keys, started_cached emptyData store.database reads] at member
    obtain ⟨iter, loads, rfl⟩ := List.mem_map.mp member
    obtain ⟨other, inside, rfl⟩ := List.mem_map.mp loads
    have there := (descending_perm store.database).mem_iff.mp inside
    obtain rfl := store.database.t_user.row_unique other row there stands same
    rfl

end Rows

/-! What has happened before. -/
section Histories

variable (emptyData : Bool)

theorem excute_rows (accept : Bool) (statement : Statement) (store : Store)
    (filled : store.database.t_user.rows ≠ []) :
    (store.excute accept statement).2.database.t_user.rows ≠ [] := by
  rcases Store.excute_cases accept statement store with refused | ⟨changed, applied, accepted⟩
  · rw [refused]
    exact filled
  · rw [accepted]
    have inserts : ∀ new, (store.database.t_user.insert new).map store.database.withUsers =
        some changed → changed.t_user.rows ≠ [] := by
      intro new inserted
      rcases UserTable.insert_cases new store.database.t_user with
        ⟨-, refused⟩ | ⟨-, larger, rows, same⟩
      · simp [refused] at inserted
      · obtain rfl : store.database.withUsers larger = changed := by simpa [same] using inserted
        simp [Database.withUsers, rows]
    cases statement with
    | insertUser userid username nickname password => exact inserts _ applied
    | insertGroup groupid groupname ownerid => exact inserts _ applied
    | insertRelationship id1 id2 => cases applied; exact filled
    | deleteRelationship id1 id2 => cases applied; exact filled
    | updateUserInfo userid newuserinfo =>
        cases applied
        simpa [Database.withUsers, UserTable.update] using filled
    | updatePassword userid newpassword =>
        cases applied
        simpa [Database.withUsers, UserTable.update] using filled
    | insertChatMsg senderid targetid chatmsg => cases applied; exact filled

theorem changeRecord_rows (statement : Statement) (userid : Int32) (change : User → User)
    (accept : Bool) (store : Store) (filled : store.database.t_user.rows ≠ []) :
    (changeRecord statement userid change accept store).2.database.t_user.rows ≠ [] := by
  have kept := excute_rows accept statement store filled
  rw [changeRecord]
  split
  next refused answer => exact answer ▸ kept
  next updated answer =>
    rw [answer] at kept
    exact kept

/-- No call takes a row out of t_user. -/
theorem perform_rows (store : Store) (call : Call) (filled : store.database.t_user.rows ≠ []) :
    (perform emptyData store call).2.database.t_user.rows ≠ [] := by
  cases call with
  | addUser user accept =>
      rw [perform]
      rcases Store.addUser_exact user accept store with ⟨-, same⟩ | ⟨-, table, rows, same⟩
      · rw [same]
        exact filled
      · simp [same, Database.withUsers, rows]
  | addGroup groupname ownerid accept =>
      rw [perform]
      rcases Store.addGroup_exact groupname ownerid accept store with
        ⟨-, same⟩ | ⟨-, table, rows, same⟩
      · rw [same]
        exact filled
      · simp [same, Database.withUsers, rows]
  | makeFriend smallid greatid accept =>
      rw [perform]
      rcases makeFriend_cases smallid greatid accept store with ⟨-, same⟩ | ⟨-, -, same⟩
      · rw [same]
        exact filled
      · rw [same]
        exact filled
  | releaseFriend smallid greatid accept =>
      rw [perform]
      rcases releaseFriend_cases smallid greatid accept store with ⟨-, same⟩ | ⟨-, -, same⟩
      · rw [same]
        exact filled
      · rw [same]
        exact filled
  | updateUserInfo userid newuserinfo accept =>
      exact changeRecord_rows (.updateUserInfo userid newuserinfo) userid _ accept store filled
  | modifyUserPassword userid newpassword accept =>
      exact changeRecord_rows (.updatePassword userid newpassword) userid _ accept store filled
  | saveChatMsg senderid targetid chatmsg accept =>
      exact excute_rows accept (.insertChatMsg senderid targetid chatmsg) store filled
  | restart => exact filled

theorem along_rows (calls : List Call) (store : Store) (filled : store.database.t_user.rows ≠ []) :
    Along (called emptyData) (startsOnRows emptyData) store calls := by
  induction calls generalizing store with
  | nil => trivial
  | cons call rest ih =>
      refine ⟨?_, ih _ (perform_rows emptyData store call filled)⟩
      cases call with
      | restart => exact Or.inr filled
      | _ => trivial

/-- In every state that a server reaches from a database whose rows it reads,
the cached records show the rows. -/
theorem reached_stored (env : Env) (database : Database) (answers : Nat → Bool) (asked : Nat)
    (reads : ReadsRows env.emptyData database) (lives : List Life) (row : UserRow)
    (stands : row ∈
      (run (live env) (boot env database answers asked) lives).2.store.database.t_user.rows) :
    Stored row (run (live env) (boot env database answers asked) lives).2.store := by
  obtain ⟨calls, reached⟩ := server_store_called env database answers asked lives
  rw [reached] at stands ⊢
  have starts : Along (called env.emptyData) (startsOnRows env.emptyData)
      (started env.emptyData database) calls := by
    rcases reads with exact' | filled
    · rw [exact']
      exact along_exact calls _
    · exact along_rows env.emptyData calls _ filled
  have mirrored := run_mirrored env.emptyData calls _ []
    (started_mirrored env.emptyData database reads) starts
  refine ⟨stands, ?_⟩
  intro entry member same
  obtain ⟨user, there, rfl⟩ := List.mem_map.mp member
  have shows := mirrored.related_of_key (UserTable.primaryKey _) there stands same
  exact Prod.ext same (Prod.ext shows.username shows.password)

end Histories

/-! Everything that happens without a login to the account. -/
section Guards

variable {row : UserRow}

structure Untouched (row : UserRow) (world : World) : Prop where
  stored : Stored row world.store
  offline : Offline row.f_user_id world

/-- A frame that carries a message to the user. -/
def isFor (userid : Int32) : Label → Bool
  | .send _ _ (.live _ target _) => target = userid
  | .send _ _ (.replay _ target _) => target = userid
  | _ => false

def Silent (userid : Int32) (_before : World) (trace : List Label) (_after : World) : Prop :=
  ∀ label ∈ trace, isFor userid label = false

theorem silent_composable (userid : Int32) : Composable (Silent userid) where
  nothing _ := by simp [Silent]
  sequence one other := List.forall_mem_append.mpr ⟨one, other⟩

theorem deliver_untouched (channel : Channel) (target : Int32) (item : Item)
    (writer : BinaryWriter) (cached : Bytes) :
    Keeps (Guarded (Untouched row) (Silent row.f_user_id))
      (deliver channel target item writer cached) := by
  intro world untouched
  cases found : world.addressOf target with
  | none =>
      rw [deliver_offline channel target item writer cached world found]
      exact ⟨⟨untouched.stored, untouched.offline⟩, by simp [Silent, isFor]⟩
  | some peer =>
      -- somebody else: the user has no session
      have apart : target ≠ row.f_user_id := by
        rintro rfl
        rw [(addressOf_eq_none _ world).mpr untouched.offline] at found
        cases found
      rw [deliver_online channel target item writer cached world peer found]
      exact ⟨untouched, by simp [Silent, isFor, apart]⟩

theorem basic_untouched {me : ClientSession} {kind : Option MsgType} {conn data : Bytes} {α : Type}
    {command : Handler α} (apart : me.userID ≠ row.f_user_id)
    (basic : Basic me kind conn data α command) :
    Keeps (Guarded (Untouched row) (Silent row.f_user_id)) command := by
  cases basic with
  | look question blind => exact fun world untouched => ⟨untouched, by simp [Silent]⟩
  | reply bytes => exact fun world untouched => ⟨untouched, by simp [Silent, isFor]⟩
  | status peer bytes => exact fun world untouched => ⟨untouched, by simp [Silent, isFor]⟩
  | edit change keepsUser blind =>
      intro world untouched
      exact ⟨⟨untouched.stored,
        offline_modify conn change keepsUser world row.f_user_id untouched.offline⟩,
        by simp [Silent]⟩
  | direct target small => exact deliver_untouched _ _ _ _ _
  | group target writer => exact deliver_untouched _ _ _ _ _
  | notify type target outbuf => exact deliver_untouched _ _ _ _ _
  | ask call =>
      intro world untouched
      exact ⟨⟨storeCall_stored call apart untouched.stored _, untouched.offline⟩,
        by simp [Silent, ask]⟩

variable (env : Env)

/-- A login that is granted for the id of the row has stated its name and its
password. -/
theorem login_untouched (me : ClientSession) (conn data : Bytes)
    (other : loginRequest env data ≠ some (row.f_username, row.f_password)) :
    Keeps (Guarded (Untouched row) (Silent row.f_user_id)) (onLoginResponse env me conn data) := by
  intro world untouched
  rcases login_cases env me conn data world with
    ⟨username, password, user, matched, granted⟩ | ⟨-, unchanged, answered⟩
  · obtain ⟨asked, found, agrees⟩ :=
      loginMatches_some env data world.store username password user matched
    have named : user.username = username := by simpa using List.find?_some found
    have apart : user.userid ≠ row.f_user_id := by
      intro same
      have own := untouched.stored.admits _
        (List.mem_map_of_mem (List.mem_of_find?_eq_some found)) same
      have stated : (user.username, user.password) = (row.f_username, row.f_password) :=
        congrArg Prod.snd own
      exact other (by rw [asked, ← named, agrees, stated])
    obtain ⟨bytes, tells, plain, trace, state⟩ :=
      logIn_outcome env me conn world username password user
    rw [granted, trace, state]
    refine ⟨⟨untouched.stored, ?_⟩, ?_⟩
    · intro iter member
      obtain ⟨old, present, -, value⟩ := (OrderedMap.mem_modify _ _ _ _).mp member
      rw [value]
      split_ifs
      · exact apart
      · exact untouched.offline old present
    · intro label member
      simp only [List.mem_cons, List.mem_append, replayed, List.mem_map] at member
      rcases member with rfl | ⟨entry, -, rfl⟩ | ⟨entry, -, rfl⟩ | told
      · rfl
      · simp [isFor, apart]
      · simp [isFor, apart]
      · obtain ⟨peer, text, rfl⟩ := plain label told
        rfl
  · rw [unchanged]
    refine ⟨untouched, fun label member => ?_⟩
    obtain ⟨bytes, rfl⟩ := answered label member
    rfl

/-- A login request with the name and the password of the row, on a connection
that has a session. -/
def presents (row : UserRow) (world : World) : Life → Bool
  | .event (.frame conn msgbuff mem _) =>
      world.up && (world.m_mapclient.find? conn).isSome &&
        match loginData mem msgbuff with
        | some data => decide (loginRequest env data = some (row.f_username, row.f_password))
        | none => false
  | _ => false

theorem process_untouched (me : ClientSession) (conn : Bytes) (mem : Nat → UInt8)
    (garbage : Int32) (msgbuff : Bytes) (apart : me.userID ≠ row.f_user_id)
    (other : ∀ data, loginData mem msgbuff = some data →
      loginRequest env data ≠ some (row.f_username, row.f_password)) :
    Keeps (Guarded (Untouched row) (Silent row.f_user_id))
      (process env me conn mem garbage msgbuff) := by
  have composable := guarded_composable (Untouched row) (silent_composable row.f_user_id)
  -- the sequence number of the frame does not change who the session is
  have basics : ∀ kind m_seq data {α : Type} {command : Handler α},
      Basic { me with m_seq := m_seq } kind conn data α command →
        Keeps (Guarded (Untouched row) (Silent row.f_user_id)) command := by
    intro kind m_seq data α command basic
    have same : ({ me with m_seq := m_seq } : ClientSession).userID ≠ row.f_user_id := apart
    exact basic_untouched same basic
  cases decoded : decodeFrame mem msgbuff with
  | none =>
      exact (process_undecoded env me conn mem garbage msgbuff decoded []).keeps composable
        (basics none me.m_seq [])
  | some parts =>
      obtain ⟨cmd, m_seq, data, rest⟩ := parts
      by_cases login : MsgType.ofCode cmd = some .login
      · have stated : loginData mem msgbuff = some data := by simp [loginData, decoded, login]
        rw [process_decoded env me conn mem garbage msgbuff cmd m_seq data rest decoded,
          request_login env _ conn mem garbage data rest cmd login]
        apply keeps_bind composable
        · exact (built_sequence { me with m_seq := m_seq } conn data m_seq).keeps composable
            (basics none m_seq data)
        · intro _
          apply keeps_bind composable (login_untouched env _ conn data (other data stated))
          exact fun _ world => composable.nothing world
      · exact (process_built env me conn mem garbage msgbuff cmd m_seq data rest decoded
          login).keeps composable (basics _ m_seq data)

theorem step_untouched (world : World) (life : Life) (person : row.f_user_id ≠ -1)
    (unpresented : presents env row world life = false) :
    Guarded (Untouched row) (Silent row.f_user_id) world (live env world life).1
      (live env world life).2 := by
  intro untouched
  have still : Untouched row world ∧ Silent row.f_user_id world [] world :=
    ⟨untouched, by simp [Silent]⟩
  cases life with
  | restart =>
      exact ⟨⟨restart_stored env.emptyData untouched.stored.stands,
        fun iter member => absurd member List.not_mem_nil⟩, by simp [Silent, live]⟩
  | event event =>
      rw [live, step]
      split_ifs with up
      · cases event with
        | connect conn junkTarget =>
            refine ⟨⟨untouched.stored, ?_⟩, by simp [Silent, serve]⟩
            intro iter member
            rcases mem_insertBy _ _ _ _ member with new | old
            · rw [new]
              exact person.symm
            · exact untouched.offline iter old
        | disconnect conn =>
            refine ⟨⟨untouched.stored, ?_⟩, by simp [Silent, serve]⟩
            exact fun iter member => untouched.offline iter (List.mem_filter.mp member).1
        | frame conn msgbuff mem garbage =>
            rw [serve]
            cases found : world.m_mapclient.find? conn with
            | none => exact still
            | some me =>
                have apart := untouched.offline _ (OrderedMap.find?_mem _ _ _ found)
                obtain ⟨after, silent⟩ := process_untouched env me conn mem garbage msgbuff apart
                  (fun data login => by simpa [presents, up, found, login] using unpresented)
                  world untouched
                dsimp only
                rw [finish]
                split
                · exact ⟨after, silent⟩
                · exact ⟨⟨after.stored, after.offline⟩, silent⟩
      · exact still

theorem run_untouched (lives : List Life) (world : World) (person : row.f_user_id ≠ -1)
    (unpresented : Along (live env) (fun world life => presents env row world life = false)
      world lives) :
    Guarded (Untouched row) (Silent row.f_user_id) world (run (live env) world lives).1
      (run (live env) world lives).2 := by
  have composable := guarded_composable (Untouched row) (silent_composable row.f_user_id)
  induction lives generalizing world with
  | nil => exact composable.nothing world
  | cons life rest ih =>
      exact composable.sequence (step_untouched env world life person unpresented.1)
        (ih _ unpresented.2)

end Guards

/-! A user registers and stays away; somebody else registers, logs in, asks for
other passwords and sends a chat to the user. -/
section Sample

def exactEnv : Env := { sampleEnv with emptyData := false }

def arrivals : List Life :=
  [.event (.connect [1] 0), .event (sampleFrame [1] .register 1 (requestText (registers "a" "p"))),
    .event (.disconnect [1])]

def visits : List Life :=
  [.event (.connect [2] 0), .event (sampleFrame [2] .register 1 (requestText (registers "b" "q"))),
    .event (sampleFrame [2] .login 2 (requestText (logsIn "b" "q"))),
    .event (sampleFrame [2] .chat 3 (text "hi") (encodeInt 1)), .restart,
    .event (.connect [2] 0), .event (sampleFrame [2] .modifypassword 4 [])]

def firstRow : UserRow :=
  { f_user_id := 1, f_username := text "a", f_nickname := text "a", f_password := text "p" }

end Sample

end EdoyumIM.AccountGuard
