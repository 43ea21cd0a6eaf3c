import EdoyumIM.ChatServer

/-!
What the handling of one frame can do. Every command but a login is composed of
the actions listed in `Basic`, which name the requesting session, the kind of
its request, its connection and the text of the frame; a login either only answers or is
`logIn` for the record its request matches. Later results look at these
actions and never at the handlers.
-/

namespace EdoyumIM.HandlerSteps

open MachineWords FieldCodec JsonValue OrderedStore Effects UserStore ChatWorld ChatServer
open SessionFraming (send)

/-- Two sessions that agree on everything but the fields a target is read into. -/
def SameSession (left right : ClientSession) : Prop :=
  left.m_seq = right.m_seq ∧ left.m_user = right.m_user

/-- Two worlds that agree on everything but these fields. -/
structure SameButTargets (left right : World) : Prop where
  store : left.store = right.store
  cache : left.cache = right.cache
  sessions : OrderedMap.Related SameSession left.m_mapclient right.m_mapclient
  answers : left.answers = right.answers
  asked : left.asked = right.asked
  up : left.up = right.up

/-- The calls of UserManager that a request of a kind makes for `me`. Only a
create-group request makes a group. -/
inductive StoreCall (me : ClientSession) (kind : Option MsgType) :
    ∀ α : Type, (Bool → Store → α × Store) → Prop
  | addUser (user : User) : StoreCall me kind _ (Store.addUser user)
  | addGroup (groupname : Bytes) (creates : kind = some .creategroup) :
      StoreCall me kind _ (Store.addGroup groupname me.userID)
  | makeFriend (smallid greatid : Int32) :
      StoreCall me kind _ (Store.makeFriendRelationship smallid greatid)
  | releaseFriend (smallid greatid : Int32) :
      StoreCall me kind _ (Store.releaseFriendRelationship smallid greatid)
  | updateUserInfo (newuserinfo : User) :
      StoreCall me kind _ (Store.updateUserInfo me.userID newuserinfo)
  | modifyUserPassword (newpassword : Bytes) :
      StoreCall me kind _ (Store.modifyUserPassword me.userID newpassword)
  | saveChatMsg (target : Int32) (data : Bytes) :
      StoreCall me kind _ (Store.saveChatMsgToDb me.userID target data)

inductive Basic (me : ClientSession) (kind : Option MsgType) (conn data : Bytes) :
    ∀ α : Type, Handler α → Prop
  | look {α : Type} (question : World → α)
      (blind : ∀ left right, SameButTargets left right → question left = question right) :
      Basic me kind conn data α (Act.gets question)
  | reply (bytes : Bytes) : Basic me kind conn data Unit (Act.emit (.send conn bytes .reply))
  | status (peer bytes : Bytes) : Basic me kind conn data Unit (Act.emit (.send peer bytes .status))
  | ask {α : Type} {operation : Bool → Store → α × Store} (call : StoreCall me kind α operation) :
      Basic me kind conn data α (ask operation)
  | edit (change : ClientSession → ClientSession) (keepsUser : ∀ session,
      (change session).m_user = session.m_user) (blind : ∀ left right,
        SameSession left right → SameSession (change left) (change right)) :
      Basic me kind conn data Unit (Act.modify (World.modifySession conn change))
  | direct (target : Int32) (person : target < GROUPID_BOUBDARY) :
      Basic me kind conn data BinaryWriter
        (deliver .chat target ⟨.direct, me.m_seq, me.userID, data⟩
          (chatWriter { me with m_target := target } data)
          (chatWriter { me with m_target := target } data).toBytes)
  | group (target : Int32) (writer : BinaryWriter) :
      Basic me kind conn data BinaryWriter
        (deliver .chat target ⟨.group, me.m_seq, me.userID, data⟩ writer writer.toBytes)
  | notify (type target : Int32) (outbuf : Bytes) :
      Basic me kind conn data BinaryWriter
        (deliver .notify target ⟨.friendOperation type, me.m_seq, me.userID, outbuf⟩
          ((header .operatefriend me.m_seq).writeString outbuf) outbuf)

/-! Questions that cannot see a target field. -/
section Blindness

theorem find_blind (userid : Int32) (left right : List (Bytes × ClientSession))
    (same : List.Forall₂ (OrderedMap.SameEntry SameSession) left right) :
    Option.Rel (OrderedMap.SameEntry SameSession)
      (left.find? fun iter => iter.2.userID = userid)
      (right.find? fun iter => iter.2.userID = userid) := by
  induction same with
  | nil => exact .none
  | @cons one other _ _ head _ ih =>
      have ids : one.2.userID = other.2.userID := congrArg User.userid head.2.2
      by_cases here : other.2.userID = userid
      · simpa [List.find?_cons, ids, here] using Option.Rel.some head
      · simpa [List.find?_cons, ids, here] using ih

theorem addressOf_blind (userid : Int32) (left right : World) (same : SameButTargets left right) :
    World.addressOf userid left = World.addressOf userid right := by
  have found := find_blind userid _ _ same.sessions
  simp only [World.addressOf, World.getSessionByID]
  generalize left.m_mapclient.entries.find? _ = one at found ⊢
  generalize right.m_mapclient.entries.find? _ = other at found ⊢
  cases found with
  | none => rfl
  | some head => simp [head.1, head.2.1]

theorem isUserSessionExsit_blind (userid : Int32) (left right : World)
    (same : SameButTargets left right) :
    left.isUserSessionExsit userid = right.isUserSessionExsit userid := by
  have found := congrArg Option.isSome (addressOf_blind userid left right same)
  simpa [World.addressOf, World.getSessionByID, World.isUserSessionExsit,
    List.isSome_find?] using found

theorem userList_blind (key : String) (withAddress : Bool) (userid : Int32) (left right : World)
    (same : SameButTargets left right) :
    userList key withAddress userid left = userList key withAddress userid right := by
  simp only [userList, same.store, isUserSessionExsit_blind _ left right same]

end Blindness

/-! The handlers, one lemma each. -/
section Handlers

variable {kind : Option MsgType} (env : Env) (me : ClientSession) (conn data : Bytes)

theorem built_answer (command : MsgType) (response : Json) :
    Built (Basic me kind conn data) (answer env me conn command response) := .atom (.reply _)

theorem built_look {α : Type} (question : Store → α) :
    Built (Basic me kind conn data) (look question) :=
  .atom (.look _ fun _ _ same => by rw [same.store])

theorem built_ask {α : Type} {operation : Bool → Store → α × Store}
    (call : StoreCall me kind α operation) : Built (Basic me kind conn data) (ask operation) :=
  .atom (.ask call)

theorem built_address (userid : Int32) :
    Built (Basic me kind conn data) (Act.gets (World.addressOf userid)) :=
  .atom (.look _ (addressOf_blind userid))

theorem built_tellFriends (owner userid type : Int32) :
    Built (Basic me kind conn data) (tellFriends env owner userid type) := by
  refine .bind (built_look me conn data _) fun friends => built_forM fun iter _ => ?_
  refine .bind (built_address me conn data iter.userid) fun found => ?_
  cases found with
  | none => exact .pure ()
  | some peer => exact .atom (.status peer.1 _)

theorem built_heartbeat : Built (Basic me kind conn data) (onHeartbeatResponse me conn) :=
  .atom (.reply _)

theorem built_register : Built (Basic me kind conn data) (onRegisterResponse env me conn data) := by
  refine .bind (.lift _) fun parsed => ?_
  cases parsed with
  | none => exact built_answer env me conn data _ _
  | some root =>
      refine .bind (.lift _) fun username => .bind (.lift _) fun nickname =>
        .bind (.lift _) fun password => ?_
      split
      · refine .bind (built_ask me conn data (.addUser _)) fun added => ?_
        cases added with
        | none => exact built_answer env me conn data _ _
        | some user => exact built_answer env me conn data _ _
      · exact built_answer env me conn data _ _

theorem built_getFriendList : Built (Basic me kind conn data) (onGetFriendListResponse env me conn) :=
  .bind (.atom (.look _ (userList_blind _ _ _))) fun _ => built_answer env me conn data _ _

theorem built_findUser : Built (Basic me kind conn data) (onFindUserResponse env me conn data) := by
  refine .bind (.lift _) fun parsed => ?_
  cases parsed with
  | none => exact .pure ()
  | some root =>
      refine .bind (.lift _) fun type => .bind (.lift _) fun username => ?_
      split
      · refine .bind (built_look me conn data _) fun found => ?_
        cases found with
        | none => exact built_answer env me conn data _ _
        | some user => exact built_answer env me conn data _ _
      · exact .pure ()

theorem built_deleteFriend (friendid : Int32) :
    Built (Basic me kind conn data) (deleteFriend env me conn friendid) := by
  refine .bind (built_ask me conn data (.releaseFriend _ _)) fun released => ?_
  refine built_ite (fun _ => ?_) fun _ => .pure ()
  refine .bind (built_look me conn data _) fun found => ?_
  cases found with
  | none => exact .pure ()
  | some cachedUser =>
      refine .bind (built_answer env me conn data _ _) fun _ => built_ite (fun _ => ?_) fun _ => ?_
      · refine .bind (built_address me conn data friendid) fun online => ?_
        cases online with
        | none => exact .pure ()
        | some peer => exact .atom (.status peer.1 _)
      · exact built_tellFriends env me conn data _ _ _

theorem built_addGroup (groupid : Int32) :
    Built (Basic me kind conn data) (onAddGroupResponse env me conn groupid) := by
  refine .bind (built_ask me conn data (.makeFriend _ _)) fun made => ?_
  refine built_ite (fun _ => ?_) fun _ => .pure ()
  refine .bind (built_look me conn data _) fun found => ?_
  cases found with
  | none => exact .pure ()
  | some groupUser =>
      exact .bind (built_answer env me conn data _ _) fun _ =>
        built_tellFriends env me conn data _ _ _

theorem built_notifyTarget (type target : Int32) (root : Json) :
    Built (Basic me kind conn data) (notifyTarget env me type target root) :=
  .bind (.atom (.notify type target _)) fun _ => .pure ()

theorem built_acceptFriend (request : Json) (target : Int32) :
    Built (Basic me kind conn data) (acceptFriend env me conn request target) := by
  refine .bind (.lift _) fun accept => ?_
  cases accept with
  | none => exact .pure ()
  | some accept =>
      have related : Built (Basic me kind conn data) (relateAccepted me accept target) :=
        built_ite (fun _ => built_ask me conn data (.makeFriend _ _)) fun _ => .pure true
      refine .bind related fun made => built_ite (fun _ => ?_) fun _ => .pure ()
      refine .bind (built_look me conn data _) fun found => ?_
      cases found with
      | none => exact .pure ()
      | some targetUser =>
          exact .bind (built_answer env me conn data _ _) fun _ =>
            built_notifyTarget env me conn data _ _ _

theorem built_operateFriend :
    Built (Basic me kind conn data) (onOperateFriendResponse env me conn data) := by
  refine .bind (.lift _) fun parsed => ?_
  cases parsed with
  | none => exact .pure ()
  | some root =>
      refine .bind (.lift _) fun type => .bind (.lift _) fun userid => ?_
      split
      · split_ifs
        · exact built_deleteFriend env me conn data _
        · exact built_addGroup env me conn data _
        · exact built_deleteFriend env me conn data _
        · exact built_notifyTarget env me conn data _ _ _
        · exact built_acceptFriend env me conn data _ _
        · exact built_notifyTarget env me conn data _ _ _
      · exact .pure ()

theorem built_updateUserInfo :
    Built (Basic me kind conn data) (onUpdateUserInfoResponse env me conn data) := by
  refine .bind (.lift _) fun parsed => ?_
  cases parsed with
  | none => exact .pure ()
  | some root =>
      refine .bind (.lift _) fun checked => ?_
      cases checked with
      | none => exact .pure ()
      | some newuserinfo =>
          refine .bind (built_ask me conn data (.updateUserInfo _)) fun updated => ?_
          split
          · exact .bind (built_answer env me conn data _ _) fun _ =>
              built_tellFriends env me conn data _ _ _
          · exact .bind (built_answer env me conn data _ _) fun _ =>
              built_tellFriends env me conn data _ _ _

theorem built_modifyPassword :
    Built (Basic me kind conn data) (onModifyPasswordResponse env me conn data) := by
  refine .bind (.lift _) fun parsed => ?_
  cases parsed with
  | none => exact .pure ()
  | some root =>
      refine .bind (.lift _) fun oldpass => .bind (.lift _) fun newPass => ?_
      split
      · refine .bind (built_look me conn data _) fun found => ?_
        cases found with
        | none => exact .pure ()
        | some cachedUser =>
            refine built_ite (fun _ => built_answer env me conn data _ _) fun _ => ?_
            refine .bind (built_ask me conn data (.modifyUserPassword _)) fun modified => ?_
            exact built_ite (fun _ => built_answer env me conn data _ _)
              fun _ => built_answer env me conn data _ _
      · exact .pure ()

/-- A create-group request makes at most one group, before anything else. -/
theorem createGroup_shape (garbage : Int32) :
    (∀ kind, Built (Basic me kind conn data) (onCreateGroupResponse env me conn data garbage)) ∨
    ∃ groupname next,
      onCreateGroupResponse env me conn data garbage =
        (ask (Store.addGroup groupname me.userID) >>= next) ∧
      ∀ kind created, Built (Basic me kind conn data) (next created) := by
  rw [onCreateGroupResponse]
  cases parsed : env.parse data with
  | error fault => exact Or.inl fun kind => .lift _
  | ok document =>
  cases document with
  | none => exact Or.inl fun kind => .pure ()
  | some root =>
  simp only [Act.lift_ok_bind]
  cases named : root.stringAt "groupname" with
  | error fault => exact Or.inl fun kind => .lift _
  | ok groupname =>
  cases groupname with
  | none => exact Or.inl fun kind => .pure ()
  | some groupname =>
      simp only [Act.lift_ok_bind]
      -- behind the call, whatever it returned, no further group is made
      refine Or.inr ⟨cString groupname, _, rfl, fun kind created => ?_⟩
      refine .bind (built_ask me conn data (.makeFriend _ _)) fun made => ?_
      split
      · exact .bind (built_answer env me conn data _ _) fun _ => built_answer env me conn data _ _
      · exact .pure ()

theorem built_createGroup (garbage : Int32) :
    Built (Basic me (some .creategroup) conn data)
      (onCreateGroupResponse env me conn data garbage) := by
  rcases createGroup_shape env me conn data garbage with built | ⟨groupname, next, shape, built⟩
  · exact built _
  · rw [shape]
    exact .bind (built_ask me conn data (.addGroup groupname rfl)) fun created => built _ created

theorem built_getGroupMember :
    Built (Basic me kind conn data) (onGetGroupMemberResponse env me conn data) := by
  refine .bind (.lift _) fun parsed => ?_
  cases parsed with
  | none => exact .pure ()
  | some root =>
      refine .bind (.lift _) fun groupid => ?_
      cases groupid with
      | none => exact .pure ()
      | some groupid =>
          exact .bind (.atom (.look _ (userList_blind _ _ _))) fun _ =>
            built_answer env me conn data _ _

theorem built_chat (target : Int32) (targets : Bytes) :
    Built (Basic me kind conn data)
      (onChatResponse { me with m_target := target, m_targets := targets } data) := by
  refine .bind (built_ask me conn data (.saveChatMsg target data)) fun _ => ?_
  -- a person gets the message once, a group's members in a loop over one writer
  refine built_ite (fun person => .bind (.atom (.direct target person)) fun _ => .pure ()) fun _ => ?_
  refine .bind (built_look me conn data _) fun friends => ?_
  exact .bind (built_foldlM _ fun iter _ writer => .atom (.group iter.userid writer))
    fun _ => .pure ()

theorem built_retarget (target : Int32) :
    Built (Basic me kind conn data)
      (Act.modify (World.modifySession conn fun session => { session with m_target := target })) :=
  .atom (.edit _ (fun _ => rfl) fun _ _ same => same)

theorem built_multiChat (targets : Bytes) :
    Built (Basic me kind conn data)
      (onMultiChatResponse env { me with m_targets := targets } conn data) := by
  refine .bind (.lift _) fun parsed => ?_
  cases parsed with
  | none => exact .pure ()
  | some root =>
      refine .bind (.lift _) fun items => ?_
      cases items with
      | none => exact .pure ()
      | some items =>
          refine built_forM fun item _ => .bind (.lift _) fun target => ?_
          refine .bind (built_retarget me conn data target) fun _ => ?_
          exact built_chat me conn data target targets

end Handlers

/-! A login request. -/
section Logins

variable (env : Env) (me : ClientSession) (conn data : Bytes) (world : World)

/-- The user name and the password of a well-formed login request. -/
def loginRequest : Option (Bytes × Bytes) :=
  match env.parse data with
  | .ok (some root) =>
      match loginFields root with
      | .ok fields => fields
      | .error _ => none
  | _ => none

/-- The cached record that the user name and the password of a login request
agree with, if the request is well formed. -/
def loginMatches (store : Store) : Option (Bytes × Bytes × User) :=
  match loginRequest env data with
  | none => none
  | some (username, password) =>
      match store.getUserInfoByUsername username with
      | some user => if password = user.password then some (username, password, user) else none
      | none => none

/-- An outcome that changed nothing and at most answered the requester. -/
def OnlyAnswered (outcome : Outcome World Label Fault Unit) : Prop :=
  outcome.state = world ∧ ∀ label ∈ outcome.trace, ∃ bytes, label = .send conn bytes .reply

theorem answer_onlyAnswered (kind : MsgType) (response : Json) :
    OnlyAnswered conn world (answer env me conn kind response world) :=
  ⟨rfl, fun label member => ⟨_, by simpa [answer] using member⟩⟩

theorem fault_onlyAnswered (fault : Fault) :
    OnlyAnswered conn world (Act.lift (.error fault) world) :=
  ⟨rfl, by simp⟩

theorem login_cases :
    (∃ username password user,
      loginMatches env data world.store = some (username, password, user) ∧
      onLoginResponse env me conn data world = logIn env me conn username password user world) ∨
    (loginMatches env data world.store = none ∧
      OnlyAnswered conn world (onLoginResponse env me conn data world)) := by
  simp only [loginMatches, loginRequest, onLoginResponse]
  cases parsed : env.parse data with
  | error fault => exact Or.inr ⟨rfl, fault_onlyAnswered conn world fault⟩
  | ok document =>
  cases document with
  | none => exact Or.inr ⟨rfl, answer_onlyAnswered env me conn world _ _⟩
  | some root =>
  simp only [Act.lift_ok_bind]
  cases fields : loginFields root with
  | error fault => exact Or.inr ⟨rfl, fault_onlyAnswered conn world fault⟩
  | ok checked =>
  cases checked with
  | none => exact Or.inr ⟨rfl, answer_onlyAnswered env me conn world _ _⟩
  | some pair =>
  obtain ⟨username, password⟩ := pair
  simp only [Act.lift_ok_bind, look, Act.gets_bind]
  cases found : Store.getUserInfoByUsername username world.store with
  | none => exact Or.inr ⟨rfl, answer_onlyAnswered env me conn world _ _⟩
  | some user =>
      -- the record and the password decide; nothing asks whether it is a group
      by_cases agrees : password = user.password
      · exact Or.inl ⟨username, password, user, by simp [agrees], by simp [agrees]⟩
      · exact Or.inr ⟨by simp [agrees],
          by simpa [agrees] using answer_onlyAnswered env me conn world _ _⟩

def Tells (before : World) (trace : List Label) (after : World) : Prop :=
  after = before ∧ ∀ label ∈ trace, ∃ peer bytes, label = .send peer bytes .status

theorem tells_composable : Composable Tells where
  nothing state := ⟨rfl, by simp⟩
  sequence := by
    rintro before middle after first second ⟨rfl, one⟩ ⟨rfl, other⟩
    exact ⟨rfl, fun label member => (List.mem_append.mp member).elim (one label) (other label)⟩

theorem tellFriends_tells (owner userid type : Int32) :
    Keeps Tells (tellFriends env owner userid type) := by
  refine keeps_bind tells_composable (fun world => ⟨rfl, by simp [look]⟩) fun friends => ?_
  refine keeps_forM tells_composable fun iter => ?_
  refine keeps_bind tells_composable (fun world => ⟨rfl, by simp⟩) fun found => ?_
  cases found with
  | none => exact fun world => tells_composable.nothing world
  | some peer => exact fun world => ⟨rfl, fun label member => ⟨peer.1, _, List.mem_singleton.mp member⟩⟩

def drained (userid : Int32) (cache : MsgCacheManager) : MsgCacheManager :=
  { m_listNotifyMsgCache := cache.m_listNotifyMsgCache.filter (·.userid ≠ userid)
    m_listChatMsgCache := cache.m_listChatMsgCache.filter (·.userid ≠ userid) }

theorem list_drained (userid : Int32) (cache : MsgCacheManager) (channel : Channel) :
    (drained userid cache).list channel = (cache.list channel).filter (·.userid ≠ userid) := by
  cases channel <;> rfl

def loggedIn (username password : Bytes) (user : User) : World :=
  { world.modifySession conn (enter username password user) with
    cache := drained user.userid world.cache }

def replayed (channel : Channel) (userid : Int32) : List Label :=
  ((world.cache.list channel).filter (·.userid = userid)).map fun iter =>
    .send conn (send (BinaryWriter.fresh.writeString iter.msg)).1 (.replay channel userid iter.item)

theorem logIn_outcome (username password : Bytes) (user : User) :
    ∃ bytes tells, (∀ label ∈ tells, ∃ peer bytes, label = .send peer bytes .status) ∧
      (logIn env me conn username password user world).trace =
        .send conn bytes .reply :: (replayed conn world .notify user.userid ++
          (replayed conn world .chat user.userid ++ tells)) ∧
      (logIn env me conn username password user world).state =
        loggedIn conn world username password user := by
  obtain ⟨unchanged, plain⟩ := tellFriends_tells env user.userid user.userid 1
    (loggedIn conn world username password user)
  refine ⟨(send ((header .login me.m_seq).writeString
    (env.toStyledString (profile user username)))).1, _, plain, ?_, ?_⟩
  all_goals
    rw [logIn, Act.bind_ok _ _ _ () rfl, Act.bind_ok _ _ _ () rfl,
      Act.bind_ok _ _ _ () (by rw [replay_outcome]), Act.bind_ok _ _ _ () (by rw [replay_outcome])]
  · simp only [replay_outcome]
    rfl
  · simp only [replay_outcome]
    exact unchanged

end Logins

/-! A whole frame. -/
section Frames

variable (env : Env) (me : ClientSession) (conn : Bytes) (mem : Nat → UInt8) (garbage : Int32)
  (msgbuff : Bytes)

/-- The command, the sequence number and the data string of a frame, with the
reader behind them. -/
def decodeFrame : Option (Int32 × Int32 × Bytes × BinaryReader) :=
  match readHeader msgbuff with
  | none => none
  | some (cmd, m_seq, reader) =>
      match reader.readString mem with
      | .error _ => none
      | .ok (data, rest) => some (cmd, m_seq, data, rest)

theorem built_sequence {kind : Option MsgType} (data : Bytes) (m_seq : Int32) :
    Built (Basic me kind conn data)
      (Act.modify (World.modifySession conn fun session => { session with m_seq := m_seq })) :=
  .atom (.edit _ (fun _ => rfl) fun _ _ same => ⟨rfl, same.2⟩)

/-- A frame that does not decode is dropped, or throws after its sequence number
was read. -/
theorem undecoded_shape (undecoded : decodeFrame mem msgbuff = none) :
    process env me conn mem garbage msgbuff = pure false ∨
    ∃ m_seq fault, process env me conn mem garbage msgbuff =
      (Act.modify (World.modifySession conn fun session => { session with m_seq := m_seq }) >>=
        fun _ => Act.lift (.error fault)) := by
  rw [process]
  rw [decodeFrame] at undecoded
  cases front : readHeader msgbuff with
  | none => exact Or.inl rfl
  | some parts =>
      obtain ⟨cmd, m_seq, reader⟩ := parts
      rw [front] at undecoded
      cases read : reader.readString mem with
      | error fault => exact Or.inr ⟨m_seq, fault, by simp only [read, Act.lift_error_bind]⟩
      | ok parts => simp [read] at undecoded

theorem process_undecoded (undecoded : decodeFrame mem msgbuff = none) (data : Bytes) :
    Built (Basic me none conn data) (process env me conn mem garbage msgbuff) := by
  rcases undecoded_shape env me conn mem garbage msgbuff undecoded with
    dropped | ⟨m_seq, fault, thrown⟩
  · rw [dropped]
    exact .pure false
  · rw [thrown]
    exact .bind (built_sequence me conn data m_seq) fun _ => .lift _

theorem process_decoded (cmd m_seq : Int32) (data : Bytes) (rest : BinaryReader)
    (decoded : decodeFrame mem msgbuff = some (cmd, m_seq, data, rest)) :
    process env me conn mem garbage msgbuff =
      (Act.modify (World.modifySession conn fun session => { session with m_seq := m_seq }) >>=
        fun _ => request env { me with m_seq := m_seq } conn mem garbage cmd rest data >>=
          fun _ => pure true) := by
  rw [process]
  rw [decodeFrame] at decoded
  cases front : readHeader msgbuff with
  | none => simp [front] at decoded
  | some parts =>
      obtain ⟨cmd', m_seq', reader⟩ := parts
      rw [front] at decoded
      cases read : reader.readString mem with
      | error fault => simp [read] at decoded
      | ok parts =>
          obtain ⟨rfl, rfl, rfl⟩ : cmd' = cmd ∧ m_seq' = m_seq ∧ parts = (data, rest) := by
            simpa [read] using decoded
          simp only [read, Act.lift_ok_bind]

theorem built_request (data : Bytes) (rest : BinaryReader) (cmd : Int32)
    (other : MsgType.ofCode cmd ≠ some .login) :
    Built (Basic me (MsgType.ofCode cmd) conn data)
      (request env me conn mem garbage cmd rest data) := by
  rw [request]
  cases code : MsgType.ofCode cmd with
  | none => exact .pure ()
  | some kind =>
      cases kind with
      | headerbeart => exact built_heartbeat me conn data
      | register => exact built_register env me conn data
      | login => exact absurd code other
      | getofriendlist => exact built_getFriendList env me conn data
      | finduser => exact built_findUser env me conn data
      | operatefriend => exact built_operateFriend env me conn data
      | userstatuschange => exact .pure ()
      | updateuserinfo => exact built_updateUserInfo env me conn data
      | modifypassword => exact built_modifyPassword env me conn data
      | creategroup => exact built_createGroup env me conn data garbage
      | getgroupmembers => exact built_getGroupMember env me conn data
      | chat =>
          simp only [chatRequest]
          split
          · exact built_chat me conn data me.m_target me.m_targets
          · exact .bind (built_retarget me conn data _) fun _ =>
              built_chat me conn data _ me.m_targets
      | multichat =>
          refine .bind (.lift _) fun targets => .bind ?_ fun _ => ?_
          · exact .atom (.edit _ (fun _ => rfl) fun _ _ same => same)
          · exact built_multiChat env me conn data targets.1

theorem request_login (data : Bytes) (rest : BinaryReader) (cmd : Int32)
    (login : MsgType.ofCode cmd = some .login) :
    request env me conn mem garbage cmd rest data = onLoginResponse env me conn data := by
  rw [request, login]
  rfl

theorem process_built (cmd m_seq : Int32) (data : Bytes) (rest : BinaryReader)
    (decoded : decodeFrame mem msgbuff = some (cmd, m_seq, data, rest))
    (other : MsgType.ofCode cmd ≠ some .login) :
    Built (Basic { me with m_seq := m_seq } (MsgType.ofCode cmd) conn data)
      (process env me conn mem garbage msgbuff) := by
  rw [process_decoded env me conn mem garbage msgbuff cmd m_seq data rest decoded]
  exact .bind (built_sequence _ conn data m_seq) fun _ =>
    .bind (built_request env _ conn mem garbage data rest cmd other) fun _ => .pure true

theorem process_outcome (cmd m_seq : Int32) (data : Bytes) (rest : BinaryReader)
    (decoded : decodeFrame mem msgbuff = some (cmd, m_seq, data, rest)) (world : World) :
    let read := world.modifySession conn fun session => { session with m_seq := m_seq }
    let handled := request env { me with m_seq := m_seq } conn mem garbage cmd rest data read
    (process env me conn mem garbage msgbuff world).trace = handled.trace ∧
      (process env me conn mem garbage msgbuff world).state = handled.state := by
  intro read handled
  rw [process_decoded env me conn mem garbage msgbuff cmd m_seq data rest decoded,
    Act.bind_ok _ _ _ () rfl]
  exact ⟨(Act.bind_pure_map _ (fun _ => true) read).1, (Act.bind_pure_map _ (fun _ => true) read).2.1⟩

/-- The data string of a login frame. -/
def loginData : Option Bytes :=
  match decodeFrame mem msgbuff with
  | some (cmd, _, data, _) => if MsgType.ofCode cmd = some .login then some data else none
  | none => none

theorem loginData_some (data : Bytes) (login : loginData mem msgbuff = some data) :
    ∃ cmd m_seq rest, decodeFrame mem msgbuff = some (cmd, m_seq, data, rest) ∧
      MsgType.ofCode cmd = some .login := by
  rw [loginData] at login
  split at login
  · next cmd m_seq text rest decoded =>
    split_ifs at login with kind
    obtain rfl : text = data := by simpa using login
    exact ⟨cmd, m_seq, rest, decoded, kind⟩
  · cases login

theorem process_login_outcome (cmd m_seq : Int32) (data : Bytes) (rest : BinaryReader)
    (decoded : decodeFrame mem msgbuff = some (cmd, m_seq, data, rest))
    (login : MsgType.ofCode cmd = some .login) (world : World) :
    let read := world.modifySession conn fun session => { session with m_seq := m_seq }
    let entered := onLoginResponse env { me with m_seq := m_seq } conn data read
    (process env me conn mem garbage msgbuff world).trace = entered.trace ∧
      (process env me conn mem garbage msgbuff world).state = entered.state := by
  rw [← request_login env _ conn mem garbage data rest cmd login]
  exact process_outcome env me conn mem garbage msgbuff cmd m_seq data rest decoded world

/-- A composable relation holds of the handling of every frame if it holds of
the basic actions and of logins. -/
theorem process_keeps {relation : World → List Label → World → Prop}
    (composable : Composable relation)
    (basics : ∀ kind m_seq data {α : Type} {command : Handler α},
      Basic { me with m_seq := m_seq } kind conn data α command → Keeps relation command)
    (logins : ∀ m_seq data,
      Keeps relation (onLoginResponse env { me with m_seq := m_seq } conn data)) :
    Keeps relation (process env me conn mem garbage msgbuff) := by
  cases decoded : decodeFrame mem msgbuff with
  | none =>
      exact (process_undecoded env me conn mem garbage msgbuff decoded []).keeps composable
        (basics none me.m_seq [])
  | some parts =>
      obtain ⟨cmd, m_seq, data, rest⟩ := parts
      -- a login is no composition of basic actions: it changes the user of a session
      by_cases login : MsgType.ofCode cmd = some .login
      · rw [process_decoded env me conn mem garbage msgbuff cmd m_seq data rest decoded,
          request_login env _ conn mem garbage data rest cmd login]
        refine keeps_bind composable ?_ fun _ => keeps_bind composable (logins m_seq data) fun _ =>
          fun state => composable.nothing state
        exact (built_sequence { me with m_seq := m_seq } conn data m_seq).keeps composable
          (basics none m_seq data)
      · exact (process_built env me conn mem garbage msgbuff cmd m_seq data rest decoded
          login).keeps composable (basics _ m_seq data)

end Frames

end EdoyumIM.HandlerSteps
