import EdoyumIM.PasswordTwins

/-!
What the password of an account gives away. A server is compared with one that
holds another password for the same account: as long as no login to the account
states either of the two, everybody is sent the same bytes in the same order by
both, and the states differ in that password alone.
-/

namespace EdoyumIM.PasswordSecrecy

open MachineWords FieldCodec JsonValue OrderedStore Effects UserStore ChatWorld ChatServer
open HandlerSteps IdClasses UserLockstep UsableAccounts Delivery AccountGuard
open GroupAccounts (Life live finish_state)
open SessionFraming (send)

/-! Handlers on the two servers. Among the requests, only a create-group request
may make every call. -/
section Handlers

variable (row : UserRow) (password : Bytes)

def Twins (left right : World) : Prop :=
  right = replaceWorld row.f_user_id password left ∧ Stored row left.store

/-- The same frames and the same result on both. -/
abbrev Hides {α : Type} (command : Handler α) : Prop :=
  Built (fun _ atom => Respects (Twins row password) atom) command

variable {row : UserRow} {password : Bytes} {α β : Type}

theorem stored_taken {store : Store} (stored : Stored row store) :
    row.f_user_id ∈ store.database.t_user.ids := List.mem_map_of_mem stored.stands

theorem hides_emit (label : Label) : Hides row password (Act.emit label : Handler Unit) :=
  .atom fun _ _ twins => ⟨rfl, rfl, twins⟩

theorem hides_gets (question : World → α)
    (same : ∀ world, question (replaceWorld row.f_user_id password world) = question world) :
    Hides row password (Act.gets question) := by
  refine .atom fun left right twins => ⟨rfl, ?_, twins⟩
  rw [Act.gets_apply, Act.gets_apply, twins.1, same]

/-- A question whose answer holds the password, asked for the other parts. -/
theorem hides_look {question : Store → α} {next : α → Handler β} (cover : α → α)
    (same : ∀ store, cover (question (replaceStore row.f_user_id password store)) =
      cover (question store))
    (covered : ∀ found, next (cover found) = next found)
    (behind : ∀ found, Hides row password (next found)) :
    Hides row password (look question >>= next) := by
  refine .atom fun left right twins => ?_
  have answers : next (question right.store) = next (question left.store) := by
    rw [twins.1, ← covered, replaceWorld, same, covered]
  rw [look, Act.gets_bind, Act.gets_bind, answers]
  exact (behind (question left.store)).respects (fun atom => atom) left right twins

theorem hides_modify (change : World → World)
    (commutes : ∀ world, change (replaceWorld row.f_user_id password world) =
      replaceWorld row.f_user_id password (change world))
    (keepsStore : ∀ world, (change world).store = world.store) :
    Hides row password (Act.modify change) := by
  refine .atom fun left right twins => ⟨rfl, rfl, ?_, ?_⟩
  · change change right = replaceWorld row.f_user_id password (change left)
    rw [twins.1, commutes]
  · change Stored row (change left).store
    rw [keepsStore]
    exact twins.2

theorem hides_session (conn : Bytes) (change : ClientSession → ClientSession) :
    Hides row password (Act.modify (World.modifySession conn change)) :=
  hides_modify _ (fun _ => rfl) fun _ => rfl

theorem hides_ask {me : ClientSession} {operation : Bool → Store → α × Store}
    (call : StoreCall me (some .creategroup) α operation)
    (apart : me.userID ≠ row.f_user_id) : Hides row password (ask operation) := by
  refine .atom fun left right twins => ?_
  have both := storeCall_replaced password left.store call apart (stored_taken twins.2)
    (left.answers left.asked)
  have right' : ask operation right = ⟨[], replaceWorld row.f_user_id password
      (ask operation left).state, (ask operation left).value⟩ := by
    rw [twins.1]
    simp only [ask, Act.call_apply, replaceWorld, both]
  rw [right']
  exact ⟨rfl, rfl, rfl, storeCall_stored call apart twins.2 _⟩

theorem hides_deliver (channel : Channel) (target : Int32) (item : Item) (writer : BinaryWriter)
    (cached : Bytes) : Hides row password (deliver channel target item writer cached) := by
  refine .bind (hides_emit _) fun _ => ?_
  refine .bind (hides_gets (World.addressOf target) fun _ => rfl) fun found => ?_
  cases found with
  | none => exact .bind (hides_modify _ (fun _ => rfl) fun _ => rfl) fun _ => .pure writer
  | some peer => exact .bind (hides_emit _) fun _ => .pure _

theorem hides_replay (conn : Bytes) (channel : Channel) (userid : Int32) :
    Hides row password (replay conn channel userid) := by
  refine .bind (.atom fun left right twins => ?_) fun taken =>
    built_forM fun iter _ => hides_emit _
  obtain ⟨rfl, stored⟩ := twins
  exact ⟨rfl, rfl, rfl, stored⟩

theorem forM_veil (body : User → Handler PUnit) (covered : ∀ user, body (veil user) = body user)
    (users : List User) : (users.map veil).forM body = users.forM body := by
  induction users with
  | nil => rfl
  | cons user rest ih =>
      change (body (veil user) >>= fun _ => (rest.map veil).forM body) =
        (body user >>= fun _ => rest.forM body)
      rw [covered, ih]

theorem foldlM_veil (body : α → User → Handler α)
    (covered : ∀ start user, body start (veil user) = body start user) (users : List User)
    (start : α) : (users.map veil).foldlM body start = users.foldlM body start := by
  rw [List.foldlM_map]
  simp only [covered]

theorem friends_veiled (owner : Int32) (store : Store) :
    ((replaceStore row.f_user_id password store).getFriendInfoByUserId owner).map veil =
      (store.getFriendInfoByUserId owner).map veil := by
  rw [found_friends, List.map_map]
  exact List.map_congr_left fun user _ => veil_replaceUser user

theorem userid_veiled (wanted : Int32) (store : Store) :
    ((replaceStore row.f_user_id password store).getUserInfoByUserId wanted).map veil =
      (store.getUserInfoByUserId wanted).map veil := by
  rw [found_userid, Option.map_map]
  exact congrArg (fun cover => (store.getUserInfoByUserId wanted).map cover)
    (funext veil_replaceUser)

theorem username_veiled (name : Bytes) (store : Store) :
    ((replaceStore row.f_user_id password store).getUserInfoByUsername name).map veil =
      (store.getUserInfoByUsername name).map veil := by
  rw [found_username, Option.map_map]
  exact congrArg (fun cover => (store.getUserInfoByUsername name).map cover)
    (funext veil_replaceUser)

theorem userList_replaced (key : String) (withAddress : Bool) (userid : Int32) (world : World) :
    userList key withAddress userid (replaceWorld row.f_user_id password world) =
      userList key withAddress userid world := by
  have entry : ∀ user, userInfo withAddress (replaceUser row.f_user_id password user)
      (world.isUserSessionExsit (replaceUser row.f_user_id password user).userid) =
      userInfo withAddress user (world.isUserSessionExsit user.userid) := by
    intro user
    rw [replaceUser_userid]
    simp only [replaceUser]
    split_ifs <;> rfl
  have found : (replaceWorld row.f_user_id password world).store.getFriendInfoByUserId userid =
      (world.store.getFriendInfoByUserId userid).map (replaceUser row.f_user_id password) :=
    found_friends password world.store userid
  rw [userList, userList, found]
  cases world.store.getFriendInfoByUserId userid with
  | nil => rfl
  | cons user rest =>
      simp only [List.map_cons, List.map_map]
      change [(key, Json.array (userInfo withAddress (replaceUser row.f_user_id password user)
        (world.isUserSessionExsit (replaceUser row.f_user_id password user).userid) :: _))] = _
      rw [entry]
      congr 4
      exact List.map_congr_left fun other _ => entry other

end Handlers

/-! The requests, one lemma each. -/
section Requests

variable {row : UserRow} {password : Bytes} (env : Env) (me : ClientSession) (conn data : Bytes)

theorem hides_answer (kind : MsgType) (response : Json) :
    Hides row password (answer env me conn kind response) := hides_emit _

theorem hides_tellFriends (owner userid type : Int32) :
    Hides row password (tellFriends env owner userid type) := by
  refine hides_look (List.map veil) (friends_veiled owner)
    (fun friends => forM_veil _ (fun _ => rfl) friends) fun friends => built_forM fun iter _ => ?_
  refine .bind (hides_gets (World.addressOf iter.userid) fun _ => rfl) fun found => ?_
  cases found with
  | none => exact .pure ()
  | some peer => exact hides_emit _

/-- A look at one record for other things than its password. -/
theorem hides_record {β : Type} {question : Store → Option User} {next : Option User → Handler β}
    (same : ∀ store, (question (replaceStore row.f_user_id password store)).map veil =
      (question store).map veil)
    (covered : ∀ user, next (some (veil user)) = next (some user))
    (absent : Hides row password (next none))
    (present : ∀ user, Hides row password (next (some user))) :
    Hides row password (look question >>= next) := by
  refine hides_look (Option.map veil) same (fun found => ?_) fun found => ?_
  · cases found with
    | none => rfl
    | some user => exact covered user
  · cases found with
    | none => exact absent
    | some user => exact present user

theorem hides_findUser : Hides row password (onFindUserResponse env me conn data) := by
  refine .bind (.lift _) fun parsed => ?_
  cases parsed with
  | none => exact .pure ()
  | some root =>
      refine .bind (.lift _) fun type => .bind (.lift _) fun username => ?_
      split
      next type username =>
        exact hides_record (username_veiled username) (fun _ => rfl)
          (hides_answer env me conn _ _) fun user => hides_answer env me conn _ _
      next => exact .pure ()

theorem hides_notifyTarget (type target : Int32) (root : Json) :
    Hides row password (notifyTarget env me type target root) :=
  .bind (hides_deliver _ _ _ _ _) fun _ => .pure ()

theorem hides_getFriendList : Hides row password (onGetFriendListResponse env me conn) :=
  .bind (hides_gets _ (userList_replaced _ _ _)) fun _ => hides_answer env me conn _ _

theorem hides_getGroupMember :
    Hides row password (onGetGroupMemberResponse env me conn data) := by
  refine .bind (.lift _) fun parsed => ?_
  cases parsed with
  | none => exact .pure ()
  | some root =>
      refine .bind (.lift _) fun groupid => ?_
      cases groupid with
      | none => exact .pure ()
      | some groupid =>
          exact .bind (hides_gets _ (userList_replaced _ _ _)) fun _ => hides_answer env me conn _ _

theorem hides_logIn (username text : Bytes) (user : User) :
    Hides row password (logIn env me conn username text user) := by
  refine .bind (hides_session conn _) fun _ => .bind (hides_answer env me conn _ _) fun _ => ?_
  exact .bind (hides_replay conn _ _) fun _ => .bind (hides_replay conn _ _) fun _ =>
    hides_tellFriends env _ _ _

/-- A login that is refused by both looks the same on both. -/
theorem hides_login
    (one : loginRequest env data ≠ some (row.f_username, row.f_password))
    (other : loginRequest env data ≠ some (row.f_username, password)) :
    Hides row password (onLoginResponse env me conn data) := by
  rw [onLoginResponse]
  rw [loginRequest] at one other
  cases parsed : env.parse data with
  | error fault => exact .lift _
  | ok document =>
  cases document with
  | none => exact hides_answer env me conn _ _
  | some root =>
  simp only [parsed, Act.lift_ok_bind] at one other ⊢
  cases fields : loginFields root with
  | error fault => exact .lift _
  | ok checked =>
  cases checked with
  | none => exact hides_answer env me conn _ _
  | some pair =>
  obtain ⟨username, text⟩ := pair
  simp only [fields, Act.lift_ok_bind, ne_eq, Option.some.injEq] at one other ⊢
  refine .atom fun left right twins => ?_
  obtain ⟨rfl, stored⟩ := twins
  have same : Twins row password left (replaceWorld row.f_user_id password left) := ⟨rfl, stored⟩
  have answers : (replaceWorld row.f_user_id password left).store.getUserInfoByUsername username =
      (left.store.getUserInfoByUsername username).map (replaceUser row.f_user_id password) :=
    found_username password left.store username
  simp only [look, Act.gets_bind, answers]
  cases found : left.store.getUserInfoByUsername username with
  | none => exact (hides_answer env me conn _ _).respects (fun atom => atom) left _ same
  | some user =>
      have named : user.username = username := by simpa using List.find?_some found
      by_cases own : user.userid = row.f_user_id
      · -- the record of the account: neither of its two passwords was stated
        have key := stored.admits _ (List.mem_map_of_mem (List.mem_of_find?_eq_some found)) own
        have kept : (user.username, user.password) = (row.f_username, row.f_password) :=
          congrArg Prod.snd key
        have title : username = row.f_username := named.symm.trans (congrArg Prod.fst kept)
        have wrong : text ≠ user.password := fun stated =>
          one (Prod.ext title (stated.trans (congrArg Prod.snd kept)))
        have wrongToo : text ≠ (replaceUser row.f_user_id password user).password := by
          rw [replaceUser, if_pos own]
          exact fun stated => other (Prod.ext title stated)
        simp only [Option.map_some, if_pos wrong, if_pos wrongToo]
        exact (hides_answer env me conn _ _).respects (fun atom => atom) left _ same
      · rw [Option.map_some, replaceUser_other user own]
        have both : Hides row password (if text ≠ user.password then
            answer env me conn .login
              (.ofMembers (codeMsg 104 "user is not exist or password is incorrest!"))
          else logIn env me conn username text user) :=
          built_ite (fun _ => hides_answer env me conn _ _) fun _ => hides_logIn env me conn _ _ _
        exact both.respects (fun atom => atom) left _ same

variable (apart : me.userID ≠ row.f_user_id)
include apart

theorem hides_register : Hides row password (onRegisterResponse env me conn data) := by
  refine .bind (.lift _) fun parsed => ?_
  cases parsed with
  | none => exact hides_answer env me conn _ _
  | some root =>
      refine .bind (.lift _) fun username => .bind (.lift _) fun nickname =>
        .bind (.lift _) fun text => ?_
      split
      · refine .bind (hides_ask (.addUser _) apart) fun added => ?_
        cases added with
        | none => exact hides_answer env me conn _ _
        | some user => exact hides_answer env me conn _ _
      · exact hides_answer env me conn _ _

theorem hides_deleteFriend (friendid : Int32) :
    Hides row password (deleteFriend env me conn friendid) := by
  refine .bind (hides_ask (.releaseFriend _ _) apart) fun released => ?_
  refine built_ite (fun _ => ?_) fun _ => .pure ()
  refine hides_record (userid_veiled friendid) (fun _ => rfl) (.pure ()) fun cachedUser => ?_
  refine .bind (hides_answer env me conn _ _) fun _ => built_ite (fun _ => ?_) fun _ => ?_
  · refine .bind (hides_gets (World.addressOf friendid) fun _ => rfl) fun online => ?_
    cases online with
    | none => exact .pure ()
    | some peer => exact hides_emit _
  · exact hides_tellFriends env _ _ _

theorem hides_addGroup (groupid : Int32) :
    Hides row password (onAddGroupResponse env me conn groupid) := by
  refine .bind (hides_ask (.makeFriend _ _) apart) fun made => ?_
  refine built_ite (fun _ => ?_) fun _ => .pure ()
  refine hides_record (userid_veiled groupid) (fun _ => rfl) (.pure ()) fun groupUser => ?_
  exact .bind (hides_answer env me conn _ _) fun _ => hides_tellFriends env _ _ _

theorem hides_acceptFriend (request : Json) (target : Int32) :
    Hides row password (acceptFriend env me conn request target) := by
  refine .bind (.lift _) fun accept => ?_
  cases accept with
  | none => exact .pure ()
  | some accept =>
      have related : Hides row password (relateAccepted me accept target) :=
        built_ite (fun _ => hides_ask (.makeFriend _ _) apart) fun _ => .pure true
      refine .bind related fun made => built_ite (fun _ => ?_) fun _ => .pure ()
      refine hides_record (userid_veiled target) (fun _ => rfl) (.pure ()) fun targetUser => ?_
      exact .bind (hides_answer env me conn _ _) fun _ => hides_notifyTarget env me _ _ _

theorem hides_operateFriend :
    Hides row password (onOperateFriendResponse env me conn data) := by
  refine .bind (.lift _) fun parsed => ?_
  cases parsed with
  | none => exact .pure ()
  | some root =>
      refine .bind (.lift _) fun type => .bind (.lift _) fun userid => ?_
      split
      · split_ifs
        · exact hides_deleteFriend env me conn apart _
        · exact hides_addGroup env me conn apart _
        · exact hides_deleteFriend env me conn apart _
        · exact hides_notifyTarget env me _ _ _
        · exact hides_acceptFriend env me conn apart _ _
        · exact hides_notifyTarget env me _ _ _
      · exact .pure ()

theorem hides_updateUserInfo :
    Hides row password (onUpdateUserInfoResponse env me conn data) := by
  refine .bind (.lift _) fun parsed => ?_
  cases parsed with
  | none => exact .pure ()
  | some root =>
      refine .bind (.lift _) fun checked => ?_
      cases checked with
      | none => exact .pure ()
      | some newuserinfo =>
          refine .bind (hides_ask (.updateUserInfo _) apart) fun updated => ?_
          split
          · exact .bind (hides_answer env me conn _ _) fun _ => hides_tellFriends env _ _ _
          · exact .bind (hides_answer env me conn _ _) fun _ => hides_tellFriends env _ _ _

/-- The password that is compared here is that of the session's own account. -/
theorem hides_modifyPassword :
    Hides row password (onModifyPasswordResponse env me conn data) := by
  have own : ∀ store : Store,
      (replaceStore row.f_user_id password store).getUserInfoByUserId me.userID =
        store.getUserInfoByUserId me.userID := by
    intro store
    rw [found_userid]
    cases found : store.getUserInfoByUserId me.userID with
    | none => rfl
    | some user =>
        have mine : user.userid = me.userID := by simpa using List.find?_some found
        rw [Option.map_some, replaceUser_other user (mine ▸ apart)]
  refine .bind (.lift _) fun parsed => ?_
  cases parsed with
  | none => exact .pure ()
  | some root =>
      refine .bind (.lift _) fun oldpass => .bind (.lift _) fun newPass => ?_
      split
      · refine hides_look id own (fun _ => rfl) fun found => ?_
        cases found with
        | none => exact .pure ()
        | some cachedUser =>
            refine built_ite (fun _ => hides_answer env me conn _ _) fun _ => ?_
            refine .bind (hides_ask (.modifyUserPassword _) apart) fun modified => ?_
            exact built_ite (fun _ => hides_answer env me conn _ _)
              fun _ => hides_answer env me conn _ _
      · exact .pure ()

theorem hides_createGroup (garbage : Int32) :
    Hides row password (onCreateGroupResponse env me conn data garbage) := by
  refine .bind (.lift _) fun parsed => ?_
  cases parsed with
  | none => exact .pure ()
  | some root =>
      refine .bind (.lift _) fun groupname => ?_
      cases groupname with
      | none => exact .pure ()
      | some groupname =>
          refine .bind (hides_ask (.addGroup _ rfl) apart) fun created => ?_
          refine .bind (hides_ask (.makeFriend _ _) apart) fun made => ?_
          refine built_ite (fun _ => ?_) fun _ => .pure ()
          exact .bind (hides_answer env me conn _ _) fun _ => hides_answer env me conn _ _

theorem hides_chat (target : Int32) (targets : Bytes) :
    Hides row password
      (onChatResponse { me with m_target := target, m_targets := targets } data) := by
  refine .bind (hides_ask (.saveChatMsg target data) apart) fun _ => ?_
  refine built_ite (fun _ => .bind (hides_deliver _ _ _ _ _) fun _ => .pure ()) fun _ => ?_
  refine hides_look (List.map veil) (friends_veiled _) (fun friends => ?_) fun friends => ?_
  · exact congrArg (fun loop => loop >>= fun _ => pure ())
      (foldlM_veil _ (fun _ _ => rfl) friends _)
  · exact .bind (built_foldlM _ fun iter _ writer => hides_deliver _ _ _ _ _) fun _ => .pure ()

theorem hides_multiChat (targets : Bytes) :
    Hides row password
      (onMultiChatResponse env { me with m_targets := targets } conn data) := by
  refine .bind (.lift _) fun parsed => ?_
  cases parsed with
  | none => exact .pure ()
  | some root =>
      refine .bind (.lift _) fun items => ?_
      cases items with
      | none => exact .pure ()
      | some items =>
          refine built_forM fun item _ => .bind (.lift _) fun target => ?_
          exact .bind (hides_session conn _) fun _ => hides_chat me data apart target targets

theorem hides_request (mem : Nat → UInt8) (garbage : Int32) (rest : BinaryReader) (cmd : Int32)
    (one : MsgType.ofCode cmd = some .login →
      loginRequest env data ≠ some (row.f_username, row.f_password))
    (other : MsgType.ofCode cmd = some .login →
      loginRequest env data ≠ some (row.f_username, password)) :
    Hides row password (request env me conn mem garbage cmd rest data) := by
  rw [request]
  cases code : MsgType.ofCode cmd with
  | none => exact .pure ()
  | some kind =>
      cases kind with
      | headerbeart => exact hides_emit _
      | register => exact hides_register env me conn data apart
      | login => exact hides_login env me conn data (one code) (other code)
      | getofriendlist => exact hides_getFriendList env me conn
      | finduser => exact hides_findUser env me conn data
      | operatefriend => exact hides_operateFriend env me conn data apart
      | userstatuschange => exact .pure ()
      | updateuserinfo => exact hides_updateUserInfo env me conn data apart
      | modifypassword => exact hides_modifyPassword env me conn data apart
      | creategroup => exact hides_createGroup env me conn data apart garbage
      | getgroupmembers => exact hides_getGroupMember env me conn data
      | chat =>
          simp only [chatRequest]
          split
          · exact hides_chat me data apart me.m_target me.m_targets
          · exact .bind (hides_session conn _) fun _ => hides_chat me data apart _ me.m_targets
      | multichat =>
          refine .bind (.lift _) fun targets => .bind (hides_session conn _) fun _ => ?_
          exact hides_multiChat env me conn data apart targets.1

theorem hides_process (mem : Nat → UInt8) (garbage : Int32) (msgbuff : Bytes)
    (one : ∀ text, loginData mem msgbuff = some text →
      loginRequest env text ≠ some (row.f_username, row.f_password))
    (other : ∀ text, loginData mem msgbuff = some text →
      loginRequest env text ≠ some (row.f_username, password)) :
    Hides row password (process env me conn mem garbage msgbuff) := by
  cases decoded : decodeFrame mem msgbuff with
  | none =>
      rcases undecoded_shape env me conn mem garbage msgbuff decoded with
        dropped | ⟨m_seq, fault, thrown⟩
      · rw [dropped]
        exact .pure false
      · rw [thrown]
        exact .bind (hides_session conn _) fun _ => .lift _
  | some parts =>
      obtain ⟨cmd, m_seq, text, rest⟩ := parts
      have stated : MsgType.ofCode cmd = some .login → loginData mem msgbuff = some text := by
        intro login
        simp [loginData, decoded, login]
      -- the sequence number of the frame does not change who the session is
      have still : ({ me with m_seq := m_seq } : ClientSession).userID ≠ row.f_user_id := apart
      rw [process_decoded env me conn mem garbage msgbuff cmd m_seq text rest decoded]
      refine .bind (hides_session conn _) fun _ => .bind ?_ fun _ => .pure true
      exact hides_request env _ conn text still mem garbage rest cmd
        (fun login => one text (stated login)) fun login => other text (stated login)

end Requests

/-! Runs. -/
section Runs

variable {row : UserRow} {password : Bytes} (env : Env)

def replacedRow (row other : UserRow) (password : Bytes) : UserRow :=
  if other.f_user_id = row.f_user_id then
    { replaceRow password other with f_user_id := other.f_user_id }
  else other

theorem replacedRow_key (other : UserRow) :
    (replacedRow row other password).f_user_id = other.f_user_id := by
  rw [replacedRow]
  split_ifs <;> rfl

theorem userOfRow_replaced (other : UserRow) :
    userOfRow (replacedRow row other password) =
      replaceUser row.f_user_id password (userOfRow other) := by
  by_cases own : other.f_user_id = row.f_user_id
  · rw [replacedRow, if_pos own]
    exact (if_pos own).symm
  · rw [replacedRow, if_neg own]
    exact (replaceUser_other (userOfRow other) own).symm

theorem foldl_replaced (rows : List UserRow) (users : UserManager) :
    (rows.map fun other => replacedRow row other password).foldl loadUser
        (replaceUsers row.f_user_id password users) =
      replaceUsers row.f_user_id password (rows.foldl loadUser users) := by
  induction rows generalizing users with
  | nil => rfl
  | cons other rest ih =>
      have one : loadUser (replaceUsers row.f_user_id password users)
          (replacedRow row other password) =
          replaceUsers row.f_user_id password (loadUser users other) := by
        simp only [loadUser, replaceUsers, userOfRow_replaced, replacedRow_key, List.map_append,
          List.map_singleton]
      rw [List.map_cons, List.foldl_cons, List.foldl_cons, one, ih]

/-- A start reads the same rows in the same order, one of them with the other
password. -/
theorem load_replaced (emptyData : Bool) (database : Database)
    (stands : row ∈ database.t_user.rows) :
    loadUserFromDB emptyData (replaceDatabase row.f_user_id password database) {} =
      replaceUsers row.f_user_id password (loadUserFromDB emptyData database {}) := by
  have sorted : descending (replaceDatabase row.f_user_id password database) =
      (descending database).map fun other => replacedRow row other password := by
    refine (List.map_insertionSort _ _ _ database.t_user.rows fun left _ right _ => ?_).symm
    change _ ↔ (replacedRow row right password).f_user_id ≤
      (replacedRow row left password).f_user_id
    rw [replacedRow_key, replacedRow_key]
  have filled : descending database ≠ [] :=
    List.ne_nil_of_mem ((descending_perm database).mem_iff.mpr stands)
  have reads : ∀ rows : List UserRow, rows ≠ [] → visited emptyData blankRow rows = rows := by
    intro rows some
    cases rows with
    | nil => exact absurd rfl some
    | cons first rest => rfl
  rw [loadUserFromDB, loadUserFromDB, fetchRows_eq, fetchRows_eq]
  change (visited emptyData blankRow
    (descending (replaceDatabase row.f_user_id password database))).foldl loadUser {} =
    replaceUsers row.f_user_id password
      ((visited emptyData blankRow (descending database)).foldl loadUser {})
  rw [sorted, reads _ filled, reads _ (by simpa using filled)]
  exact foldl_replaced (descending database) {}

theorem boot_replaced (database : Database) (stands : row ∈ database.t_user.rows)
    (answers : Nat → Bool) (asked : Nat) :
    boot env (replaceDatabase row.f_user_id password database) answers asked =
      replaceWorld row.f_user_id password (boot env database answers asked) := by
  have users : init env.emptyData (replaceDatabase row.f_user_id password database) =
      replaceUsers row.f_user_id password (init env.emptyData database) := by
    simp only [init, load_replaced env.emptyData database stands]
    simp only [replaceUsers, List.map_map]
    congr 1
    apply List.map_congr_left
    intro iter _
    simp only [Function.comp_apply, replaceUser]
    split_ifs <;> rfl
  simp only [boot, users, replaceWorld, replaceStore]

theorem unpresented_frame (owner : UserRow) (world : World) {conn msgbuff : Bytes}
    (me : ClientSession) {mem : Nat → UInt8} {garbage : Int32} {data : Bytes}
    (up : world.up = true) (found : world.m_mapclient.find? conn = some me)
    (unpresented : presents env owner world (.event (.frame conn msgbuff mem garbage)) = false)
    (login : loginData mem msgbuff = some data) :
    loginRequest env data ≠ some (owner.f_username, owner.f_password) := by
  simpa [presents, up, found, login] using unpresented

theorem step_twins (world : World) (life : Life) (untouched : Untouched row world)
    (one : presents env row world life = false)
    (other : presents env (replaceRow password row) world life = false) :
    (live env (replaceWorld row.f_user_id password world) life).1 = (live env world life).1 ∧
      (live env (replaceWorld row.f_user_id password world) life).2 =
        replaceWorld row.f_user_id password (live env world life).2 := by
  cases life with
  | restart =>
      exact ⟨rfl, boot_replaced env world.store.database untouched.stored.stands world.answers
        world.asked⟩
  | event event =>
      have same : (replaceWorld row.f_user_id password world).up = world.up := rfl
      by_cases up : world.up = true
      · simp only [live, step, same, up, if_true]
        cases event with
        | connect conn junkTarget => exact ⟨rfl, rfl⟩
        | disconnect conn => exact ⟨rfl, rfl⟩
        | frame conn msgbuff mem garbage =>
            have sessions : (replaceWorld row.f_user_id password world).m_mapclient =
                world.m_mapclient := rfl
            cases found : world.m_mapclient.find? conn with
            | none =>
                simp only [serve, sessions, found, and_self]
            | some me =>
                simp only [serve, sessions, found]
                have apart := untouched.offline _ (OrderedMap.find?_mem _ _ _ found)
                have hides : Hides row password (process env me conn mem garbage msgbuff) := by
                  refine hides_process env me conn apart mem garbage msgbuff ?_ ?_
                  · exact fun data => unpresented_frame env row world me up found one
                  · exact fun data =>
                      unpresented_frame env (replaceRow password row) world me up found other
                obtain ⟨traces, values, states, -⟩ := hides.respects (fun atom => atom) world
                  (replaceWorld row.f_user_id password world) ⟨rfl, untouched.stored⟩
                rw [finish, finish, ← traces, ← values, states]
                cases (process env me conn mem garbage msgbuff world).value with
                | ok result => exact ⟨rfl, rfl⟩
                | error fault => exact ⟨rfl, rfl⟩
      · simp only [live, step, same, up]
        exact ⟨rfl, rfl⟩

theorem run_twins (lives : List Life) (world : World) (person : row.f_user_id ≠ -1)
    (untouched : Untouched row world)
    (one : Along (live env) (fun world life => presents env row world life = false) world lives)
    (other : Along (live env) (fun world life =>
      presents env (replaceRow password row) world life = false) world lives) :
    (run (live env) (replaceWorld row.f_user_id password world) lives).1 =
        (run (live env) world lives).1 ∧
      (run (live env) (replaceWorld row.f_user_id password world) lives).2 =
        replaceWorld row.f_user_id password (run (live env) world lives).2 := by
  induction lives generalizing world with
  | nil => exact ⟨rfl, rfl⟩
  | cons life rest ih =>
      obtain ⟨traces, states⟩ := step_twins env world life untouched one.1 other.1
      have still := (step_untouched env world life person one.1 untouched).1
      obtain ⟨later, ends⟩ := ih (live env world life).2 still one.2 other.2
      rw [run, run, traces, states]
      exact ⟨by rw [later], ends⟩

end Runs

end EdoyumIM.PasswordSecrecy
