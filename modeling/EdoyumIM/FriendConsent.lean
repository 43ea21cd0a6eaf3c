import EdoyumIM.FriendshipSides

/-!
What it takes to become friends. The server relays a request to its target and
keeps no record of it, so an acceptance is all that counts. Create-group
requests are left aside: behind a refused `AddGroup` they go on with whatever
the stack holds in the place of the new id.
-/

namespace EdoyumIM.FriendConsent

open MachineWords FieldCodec JsonValue OrderedStore Effects UserStore UserLockstep
open ChatWorld ChatServer HandlerSteps GroupAccounts Friendships FriendshipSides

/-! Requests of every other kind leave the relationships alone. -/
section Unrelated

def Unmoved (before : World) (_trace : List Label) (after : World) : Prop :=
  relationRows after = relationRows before

theorem unmoved_composable : Composable Unmoved where
  nothing _ := rfl
  sequence one other := Eq.trans other one

theorem still_unmoved {α : Type} {command : Handler α} (still : Keeps Still command) :
    Keeps Unmoved command := fun world =>
  congrArg (fun store : Store => store.database.t_user_relationship) (still world).1

theorem unmoved_pure {α : Type} (value : α) : Keeps Unmoved (pure value : Handler α) :=
  fun _ => rfl

theorem unmoved_lift {α : Type} (result : Except Fault α) :
    Keeps Unmoved (Act.lift result : Handler α) := fun _ => rfl

theorem unmoved_gets {α : Type} (question : World → α) :
    Keeps Unmoved (Act.gets question : Handler α) := fun _ => rfl

theorem unmoved_edit (conn : Bytes) (change : ClientSession → ClientSession) :
    Keeps Unmoved (Act.modify (World.modifySession conn change) : Handler Unit) := fun _ => rfl

variable (env : Env) (me : ClientSession) (conn data : Bytes)

theorem unmoved_answer (kind : MsgType) (response : Json) :
    Keeps Unmoved (answer env me conn kind response) := fun _ => rfl

theorem unmoved_ask {α : Type} {operation : Bool → Store → α × Store}
    (same : ∀ accept store, (operation accept store).2.database.t_user_relationship =
      store.database.t_user_relationship) : Keeps Unmoved (ask operation) :=
  fun world => same _ world.store

theorem unmoved_tell (owner userid type : Int32) :
    Keeps Unmoved (tellFriends env owner userid type) := fun world => by
  rw [Unmoved, (tellFriends_tells env owner userid type world).1]

theorem addUser_rows (user : User) (accept : Bool) (store : Store) :
    (store.addUser user accept).2.database.t_user_relationship =
      store.database.t_user_relationship := by
  rcases Store.addUser_exact user accept store with ⟨-, same⟩ | ⟨-, table, -, same⟩
  · rw [same]
    rfl
  · rw [same]
    rfl

theorem changeRecord_rows (statement : Statement) (userid : Int32) (change : User → User)
    (accept : Bool) (store : Store)
    (keeps : ∀ database changed, Database.apply database statement = some changed →
      changed.t_user_relationship = database.t_user_relationship) :
    (match store.excute accept statement with
      | (false, refused) => (false, refused)
      | (true, updated) => updated.changeCached userid change).2.database.t_user_relationship =
      store.database.t_user_relationship := by
  rcases Store.excute_cases accept statement store with refused | ⟨changed, applied, accepted⟩
  · rw [refused]
  · rw [accepted]
    exact keeps _ _ applied

theorem updateUserInfo_rows (userid : Int32) (newuserinfo : User) (accept : Bool) (store : Store) :
    (store.updateUserInfo userid newuserinfo accept).2.database.t_user_relationship =
      store.database.t_user_relationship :=
  changeRecord_rows _ userid _ accept store fun _ _ applied => by cases applied; rfl

theorem modifyUserPassword_rows (userid : Int32) (newpassword : Bytes) (accept : Bool)
    (store : Store) :
    (store.modifyUserPassword userid newpassword accept).2.database.t_user_relationship =
      store.database.t_user_relationship :=
  changeRecord_rows _ userid _ accept store fun _ _ applied => by cases applied; rfl

theorem saveChatMsg_rows (senderid targetid : Int32) (chatmsg : Bytes) (accept : Bool)
    (store : Store) :
    (store.saveChatMsgToDb senderid targetid chatmsg accept).2.database.t_user_relationship =
      store.database.t_user_relationship := by
  cases accept <;> rfl

theorem unmoved_register : Keeps Unmoved (onRegisterResponse env me conn data) := by
  refine keeps_bind unmoved_composable (unmoved_lift _) fun parsed => ?_
  cases parsed with
  | none => exact unmoved_answer env me conn _ _
  | some root =>
      refine keeps_bind unmoved_composable (unmoved_lift _) fun username =>
        keeps_bind unmoved_composable (unmoved_lift _) fun nickname =>
          keeps_bind unmoved_composable (unmoved_lift _) fun password => ?_
      split
      · refine keeps_bind unmoved_composable (unmoved_ask (addUser_rows _)) fun added => ?_
        cases added with
        | none => exact unmoved_answer env me conn _ _
        | some user => exact unmoved_answer env me conn _ _
      · exact unmoved_answer env me conn _ _

theorem unmoved_login : Keeps Unmoved (onLoginResponse env me conn data) := by
  intro world
  rcases login_cases env me conn data world with
    ⟨username, password, user, -, granted⟩ | ⟨-, unchanged, -⟩
  · obtain ⟨_, _, -, -, state⟩ := logIn_outcome env me conn world username password user
    rw [Unmoved, granted, state]
    rfl
  · rw [Unmoved, unchanged]

theorem unmoved_findUser : Keeps Unmoved (onFindUserResponse env me conn data) := by
  refine keeps_bind unmoved_composable (unmoved_lift _) fun parsed => ?_
  cases parsed with
  | none => exact unmoved_pure ()
  | some root =>
      refine keeps_bind unmoved_composable (unmoved_lift _) fun type =>
        keeps_bind unmoved_composable (unmoved_lift _) fun username => ?_
      split
      · refine keeps_bind unmoved_composable (unmoved_gets _) fun found => ?_
        cases found with
        | none => exact unmoved_answer env me conn _ _
        | some user => exact unmoved_answer env me conn _ _
      · exact unmoved_pure ()

theorem unmoved_updateUserInfo : Keeps Unmoved (onUpdateUserInfoResponse env me conn data) := by
  refine keeps_bind unmoved_composable (unmoved_lift _) fun parsed => ?_
  cases parsed with
  | none => exact unmoved_pure ()
  | some root =>
      refine keeps_bind unmoved_composable (unmoved_lift _) fun checked => ?_
      cases checked with
      | none => exact unmoved_pure ()
      | some newuserinfo =>
          refine keeps_bind unmoved_composable (unmoved_ask (updateUserInfo_rows _ _))
            fun updated => ?_
          split
          · exact keeps_bind unmoved_composable (unmoved_answer env me conn _ _)
              fun _ => unmoved_tell env _ _ _
          · exact keeps_bind unmoved_composable (unmoved_answer env me conn _ _)
              fun _ => unmoved_tell env _ _ _

theorem unmoved_modifyPassword : Keeps Unmoved (onModifyPasswordResponse env me conn data) := by
  refine keeps_bind unmoved_composable (unmoved_lift _) fun parsed => ?_
  cases parsed with
  | none => exact unmoved_pure ()
  | some root =>
      refine keeps_bind unmoved_composable (unmoved_lift _) fun oldpass =>
        keeps_bind unmoved_composable (unmoved_lift _) fun newPass => ?_
      split
      · refine keeps_bind unmoved_composable (unmoved_gets _) fun found => ?_
        cases found with
        | none => exact unmoved_pure ()
        | some cachedUser =>
            dsimp only
            split
            · exact unmoved_answer env me conn _ _
            · refine keeps_bind unmoved_composable (unmoved_ask (modifyUserPassword_rows _ _))
                fun modified => ?_
              split
              · exact unmoved_answer env me conn _ _
              · exact unmoved_answer env me conn _ _
      · exact unmoved_pure ()

theorem unmoved_getGroupMember :
    Keeps Unmoved (onGetGroupMemberResponse env me conn data) := by
  refine keeps_bind unmoved_composable (unmoved_lift _) fun parsed => ?_
  cases parsed with
  | none => exact unmoved_pure ()
  | some root =>
      refine keeps_bind unmoved_composable (unmoved_lift _) fun groupid => ?_
      cases groupid with
      | none => exact unmoved_pure ()
      | some groupid =>
          exact keeps_bind unmoved_composable (unmoved_gets _) fun _ =>
            unmoved_answer env me conn _ _

theorem unmoved_chat : Keeps Unmoved (onChatResponse me data) := by
  refine keeps_bind unmoved_composable (unmoved_ask (saveChatMsg_rows _ _ _)) fun _ => ?_
  split
  · exact keeps_bind unmoved_composable (still_unmoved (still_deliver _ _ _ _ _))
      fun _ => unmoved_pure ()
  · refine keeps_bind unmoved_composable (unmoved_gets _) fun friends => ?_
    refine keeps_bind unmoved_composable ?_ fun _ => unmoved_pure ()
    exact keeps_foldlM unmoved_composable _ fun _ _ => still_unmoved (still_deliver _ _ _ _ _)

theorem unmoved_multiChat : Keeps Unmoved (onMultiChatResponse env me conn data) := by
  refine keeps_bind unmoved_composable (unmoved_lift _) fun parsed => ?_
  cases parsed with
  | none => exact unmoved_pure ()
  | some root =>
      refine keeps_bind unmoved_composable (unmoved_lift _) fun items => ?_
      cases items with
      | none => exact unmoved_pure ()
      | some items =>
          refine keeps_forM unmoved_composable fun item => ?_
          refine keeps_bind unmoved_composable (unmoved_lift _) fun target => ?_
          exact keeps_bind unmoved_composable (unmoved_edit conn _) fun _ => unmoved_chat _ data

theorem unmoved_request (mem : Nat → UInt8) (garbage cmd : Int32) (rest : BinaryReader)
    (noOperation : MsgType.ofCode cmd ≠ some .operatefriend)
    (noGroup : MsgType.ofCode cmd ≠ some .creategroup) :
    Keeps Unmoved (request env me conn mem garbage cmd rest data) := by
  rw [request]
  cases code : MsgType.ofCode cmd with
  | none => exact unmoved_pure ()
  | some kind =>
      cases kind with
      | headerbeart => exact fun _ => rfl
      | register => exact unmoved_register env me conn data
      | login => exact unmoved_login env me conn data
      | getofriendlist => exact fun _ => rfl
      | finduser => exact unmoved_findUser env me conn data
      | operatefriend => exact absurd code noOperation
      | userstatuschange => exact unmoved_pure ()
      | updateuserinfo => exact unmoved_updateUserInfo env me conn data
      | modifypassword => exact unmoved_modifyPassword env me conn data
      | creategroup => exact absurd code noGroup
      | getgroupmembers => exact unmoved_getGroupMember env me conn data
      | chat =>
          simp only [chatRequest]
          split
          · exact unmoved_chat me data
          · exact keeps_bind unmoved_composable (unmoved_edit conn _) fun _ => unmoved_chat _ data
      | multichat =>
          refine keeps_bind unmoved_composable (unmoved_lift _) fun targets =>
            keeps_bind unmoved_composable (unmoved_edit conn _) fun _ => ?_
          exact unmoved_multiChat env _ conn data

end Unrelated

/-! Friend operations. -/
section Operations

variable (env : Env) (me : ClientSession) (conn data : Bytes)

/-- The text is an acceptance that names the other one of the two. -/
def Agreement (row : Int32 × Int32) : Prop :=
  ∃ root target, env.parse data = .ok (some root) ∧ root.intAt "type" = .ok (some 3) ∧
    root.intAt "userid" = .ok (some target) ∧ root.intAt "accept" = .ok (some 1) ∧
    pair me.userID target = row

/-- No row of this kind is added. -/
def NoneAdded (row : Int32 × Int32) (before : World) (_trace : List Label) (after : World) : Prop :=
  (relationRows after).count row ≤ (relationRows before).count row

variable {row : Int32 × Int32}

theorem noneAdded_composable : Composable (NoneAdded row) where
  nothing _ := le_rfl
  sequence one other := le_trans other one

theorem unmoved_noneAdded {α : Type} {command : Handler α} (unmoved : Keeps Unmoved command) :
    Keeps (NoneAdded row) command := fun world => by
  rw [NoneAdded, unmoved world]

theorem made_noneAdded (store : Store) (smallid greatid : Int32) (accept : Bool)
    (differs : (smallid, greatid) ≠ row) :
    (store.makeFriendRelationship smallid greatid accept).2.database.t_user_relationship.count row ≤
      store.database.t_user_relationship.count row := by
  rcases makeFriend_cases smallid greatid accept store with ⟨-, same⟩ | ⟨-, -, same⟩
  · rw [same]
  · rw [same]
    exact (List.count_append.trans (by rw [List.count_singleton, beq_eq_false_iff_ne.mpr differs]; rfl)).le

theorem released_noneAdded (store : Store) (smallid greatid : Int32) (accept : Bool) :
    (store.releaseFriendRelationship smallid greatid accept).2.database.t_user_relationship.count row ≤
      store.database.t_user_relationship.count row := by
  rcases releaseFriend_cases smallid greatid accept store with ⟨-, same⟩ | ⟨-, -, same⟩
  · rw [same]
  · rw [same]
    exact List.filter_sublist.count_le row

theorem noneAdded_delete (friendid : Int32) :
    Keeps (NoneAdded row) (deleteFriend env me conn friendid) := by
  intro world
  rw [NoneAdded, relationRows, (deleteFriend_calls env me conn friendid world).1]
  exact released_noneAdded world.store _ _ _

theorem joinGroup_calls (groupid : Int32) (world : World) :
    (onAddGroupResponse env me conn groupid world).state.store =
      (world.store.makeFriendRelationship me.userID groupid (world.answers world.asked)).2 := by
  refine (ask_then _ _ (fun made => ?_) world).1
  split
  · refine keeps_bind still_composable (fun world => ⟨rfl, rfl⟩) fun found => ?_
    cases found with
    | none => exact fun world => still_composable.nothing world
    | some groupUser =>
        refine keeps_bind still_composable (fun world => ⟨rfl, rfl⟩) fun _ world => ?_
        rw [Still, (tellFriends_tells env groupid groupid 3 world).1]
        exact ⟨rfl, rfl⟩
  · exact fun world => still_composable.nothing world

theorem noneAdded_join (groupid : Int32) (group : groupid ≥ GROUPID_BOUBDARY)
    (person : row.2 < GROUPID_BOUBDARY) :
    Keeps (NoneAdded row) (onAddGroupResponse env me conn groupid) := by
  intro world
  rw [NoneAdded, relationRows, joinGroup_calls env me conn groupid world]
  apply made_noneAdded
  rintro rfl
  exact group.not_gt person

theorem noneAdded_accept (request : Json) (target : Int32)
    (dissent : request.intAt "accept" = .ok (some 1) → pair me.userID target ≠ row) :
    Keeps (NoneAdded row) (acceptFriend env me conn request target) := by
  cases answer : request.intAt "accept" with
  | error fault =>
      rw [acceptFriend, answer]
      exact fun world => noneAdded_composable.nothing world
  | ok accept =>
  cases accept with
  | none =>
      rw [acceptFriend, answer]
      exact fun world => noneAdded_composable.nothing world
  | some accept =>
      by_cases agrees : accept = 1
      · subst agrees
        intro world
        rw [NoneAdded, relationRows,
          (acceptFriend_calls env me conn request target world answer).1, ordered_pair]
        exact made_noneAdded world.store _ _ _ (dissent answer)
      · -- a refusal is only passed on
        rw [acceptFriend, answer]
        simp only [Act.lift_ok_bind, relateAccepted, if_neg agrees]
        refine keeps_bind noneAdded_composable (fun world => noneAdded_composable.nothing world)
          fun made => ?_
        split
        · refine keeps_bind noneAdded_composable (fun world => noneAdded_composable.nothing world)
            fun found => ?_
          cases found with
          | none => exact fun world => noneAdded_composable.nothing world
          | some targetUser =>
              refine keeps_bind noneAdded_composable
                (unmoved_noneAdded (unmoved_answer env me conn _ _)) fun _ => ?_
              exact unmoved_noneAdded (still_unmoved (still_notify env me 3 target _))
        · exact fun world => noneAdded_composable.nothing world

theorem noneAdded_operate (person : row.2 < GROUPID_BOUBDARY)
    (dissent : ¬ Agreement env me data row) :
    Keeps (NoneAdded row) (onOperateFriendResponse env me conn data) := by
  have nothing : ∀ {α : Type} (result : Except Fault α),
      Keeps (NoneAdded row) (Act.lift result : Handler α) :=
    fun result => unmoved_noneAdded (unmoved_lift result)
  rw [onOperateFriendResponse]
  cases parsed : env.parse data with
  | error fault => exact nothing _
  | ok document =>
  cases document with
  | none => exact nothing (.ok ())
  | some root =>
  simp only [Act.lift_ok_bind]
  cases typed : root.intAt "type" with
  | error fault => exact nothing _
  | ok type =>
  cases named : root.intAt "userid" with
  | error fault => exact nothing _
  | ok userid =>
  simp only [Act.lift_ok_bind]
  split
  · next type target =>
    split_ifs with group leaving removed asked accepted
    · exact noneAdded_delete env me conn target
    · exact noneAdded_join env me conn target group person
    · exact noneAdded_delete env me conn target
    · exact unmoved_noneAdded (still_unmoved (still_notify env me type target _))
    · refine noneAdded_accept env me conn root target fun agrees same => dissent ?_
      exact ⟨root, target, parsed, accepted ▸ typed, named, agrees, same⟩
    · exact unmoved_noneAdded (still_unmoved (still_notify env me type target _))
  · exact nothing (.ok ())

/-- A request (type 1) is only passed on: it leaves nothing behind that an
acceptance could look at. -/
theorem request_forgotten (root : Json) (target : Int32) (world : World)
    (parsed : env.parse data = .ok (some root)) (type : root.intAt "type" = .ok (some 1))
    (userid : root.intAt "userid" = .ok (some target)) (person : target < GROUPID_BOUBDARY) :
    (onOperateFriendResponse env me conn data world).state.store = world.store := by
  simp only [onOperateFriendResponse, parsed, type, userid, Act.lift_ok_bind,
    if_neg person.not_ge]
  exact (still_notify env me 1 target _ world).1

end Operations

/-! Whole frames, and the runs of the server. -/
section Runs

variable (env : Env)

def knows (world : World) (one other : Int32) : Prop :=
  ∃ iter ∈ world.store.cached, iter.userid = one ∧ other ∈ iter.friends.elems

instance (world : World) (one other : Int32) : Decidable (knows world one other) :=
  inferInstanceAs (Decidable (∃ iter ∈ world.store.cached, _))

/-- A relationship is made: its row is new, and each record holds the other id. -/
def Befriended (row : Int32 × Int32) (before after : World) : Prop :=
  (relationRows before).count row < (relationRows after).count row ∧
    knows after row.1 row.2 ∧ knows after row.2 row.1

instance (row : Int32 × Int32) (before after : World) : Decidable (Befriended row before after) :=
  inferInstanceAs (Decidable (_ ∧ _ ∧ _))

/-- Two people, the smaller id first. -/
structure People (row : Int32 × Int32) : Prop where
  order : row.1 < row.2
  person : row.2 < GROUPID_BOUBDARY

def createsGroup : Life → Bool
  | .event (.frame _ msgbuff mem _) => isCreateGroup mem msgbuff
  | _ => false

/-- The event is an acceptance on the session of one of the two that names the
other one. -/
def Consents (world : World) (life : Life) (row : Int32 × Int32) : Prop :=
  ∃ conn msgbuff mem garbage me cmd m_seq data rest,
    life = .event (.frame conn msgbuff mem garbage) ∧ world.m_mapclient.find? conn = some me ∧
    decodeFrame mem msgbuff = some (cmd, m_seq, data, rest) ∧
    MsgType.ofCode cmd = some .operatefriend ∧ Agreement env me data row

theorem frame_noneAdded (me : ClientSession) (conn msgbuff : Bytes) (mem : Nat → UInt8)
    (garbage : Int32) (row : Int32 × Int32) (person : row.2 < GROUPID_BOUBDARY)
    (noGroup : isCreateGroup mem msgbuff = false)
    (dissent : ∀ cmd m_seq data rest, decodeFrame mem msgbuff = some (cmd, m_seq, data, rest) →
      MsgType.ofCode cmd = some .operatefriend → ¬ Agreement env me data row) :
    Keeps (NoneAdded row) (process env me conn mem garbage msgbuff) := by
  cases decoded : decodeFrame mem msgbuff with
  | none =>
      rcases undecoded_shape env me conn mem garbage msgbuff decoded with
        dropped | ⟨m_seq, fault, thrown⟩
      · rw [dropped]
        exact fun world => noneAdded_composable.nothing world
      · rw [thrown]
        exact fun world => noneAdded_composable.nothing world
  | some parts =>
      obtain ⟨cmd, m_seq, data, rest⟩ := parts
      rw [process_decoded env me conn mem garbage msgbuff cmd m_seq data rest decoded]
      refine keeps_bind noneAdded_composable (unmoved_noneAdded (unmoved_edit conn _)) fun _ =>
        keeps_bind noneAdded_composable ?_ fun _ => fun world => noneAdded_composable.nothing world
      by_cases operation : MsgType.ofCode cmd = some .operatefriend
      · rw [request, operation]
        exact noneAdded_operate env _ conn data person (dissent cmd m_seq data rest decoded operation)
      · refine unmoved_noneAdded (unmoved_request env _ conn data mem garbage cmd rest operation ?_)
        intro group
        rw [isCreateGroup, decoded] at noGroup
        exact of_decide_eq_false noGroup group

theorem event_noneAdded (world : World) (life : Life) (row : Int32 × Int32)
    (person : row.2 < GROUPID_BOUBDARY) (noGroup : createsGroup life = false)
    (dissent : ¬ Consents env world life row) :
    NoneAdded row world [] (live env world life).2 := by
  cases life with
  | restart => exact le_rfl
  | event event =>
      rw [live, step]
      split
      · cases event with
        | connect conn junkTarget => exact le_rfl
        | disconnect conn => exact le_rfl
        | frame conn msgbuff mem garbage =>
            rw [serve]
            cases found : world.m_mapclient.find? conn with
            | none => exact le_rfl
            | some me =>
                have kept := frame_noneAdded env me conn msgbuff mem garbage row person noGroup
                  (fun cmd m_seq data rest decoded operation agreement => dissent
                    ⟨conn, msgbuff, mem, garbage, me, cmd, m_seq, data, rest, rfl, found, decoded,
                      operation, agreement⟩) world
                rw [NoneAdded, relationRows, relationRows]
                dsimp only
                rw [finish_state]
                exact kept
      · exact le_rfl

/-- In every run, two people become friends by a frame other than a create-group
request only if the frame is an acceptance of one of them that names the other.
Whether a request came before makes no difference: it leaves the users and the
tables as they were. -/
theorem friends_by_acceptance (database : Database) (answers : Nat → Bool) (asked : Nat)
    (lives : List Life) :
    Along (live env)
      (fun world life => ∀ row, People row → createsGroup life = false →
        Befriended row world (live env world life).2 → Consents env world life row)
      (boot env database answers asked) lives ∧
    ∀ (me : ClientSession) (conn data : Bytes) (root : Json) (target : Int32) (world : World),
      env.parse data = .ok (some root) → root.intAt "type" = .ok (some 1) →
      root.intAt "userid" = .ok (some target) → target < GROUPID_BOUBDARY →
      (onOperateFriendResponse env me conn data world).state.store = world.store := by
  constructor
  · apply along_always
    intro world life row people noGroup befriended
    by_contra dissent
    exact befriended.1.not_ge (event_noneAdded env world life row people.person noGroup dissent)
  · intro me conn data root target world parsed type userid person
    exact request_forgotten env me conn data root target world parsed type userid person

/-- The event is a request for a friendship, whoever it names. -/
def requests : Life → Bool
  | .event (.frame _ msgbuff mem _) =>
      match decodeFrame mem msgbuff with
      | some (cmd, _, data, _) =>
          MsgType.ofCode cmd = some .operatefriend &&
            match env.parse data with
            | .ok (some root) => decide (root.intAt "type" = .ok (some 1))
            | _ => false
      | none => false
  | _ => false

def consentEnv : Env where
  parse data := .ok
    (([registers "a" "p", registers "b" "q", logsIn "a" "p", logsIn "b" "q", befriends 1,
      agreesWith 1].find? fun members => requestText members = data).map .ofMembers)
  toStyledString := styledText
  emptyData := true

/-- Two users register and log in, and the second one accepts the first, who
never asked. -/
def unaskedLives : List Life :=
  ([.connect [49] 0, .connect [50] 0,
    sampleFrame [49] .register 1 (requestText (registers "a" "p")),
    sampleFrame [50] .register 1 (requestText (registers "b" "q")),
    sampleFrame [49] .login 2 (requestText (logsIn "a" "p")),
    sampleFrame [50] .login 2 (requestText (logsIn "b" "q")),
    sampleFrame [50] .operatefriend 3 (requestText (agreesWith 1))] : List Event).map Life.event

/-- The world before the acceptance. -/
def unaskedWorld : World :=
  (run (live consentEnv) (boot consentEnv {} (fun _ => true) 0) (unaskedLives.take 6)).2

def acceptance : Life :=
  .event (sampleFrame [50] .operatefriend 3 (requestText (agreesWith 1)))

theorem friends_by_acceptance_unasked :
    Befriended (1, 2) unaskedWorld (live consentEnv unaskedWorld acceptance).2 ∧
      Consents consentEnv unaskedWorld acceptance (1, 2) := by
  have befriended : Befriended (1, 2) unaskedWorld (live consentEnv unaskedWorld acceptance).2 := by
    decide +kernel
  obtain ⟨-, -, -, -, -, -, last, -⟩ :=
    (friends_by_acceptance consentEnv {} (fun _ => true) 0 unaskedLives).1
  exact ⟨befriended, last (1, 2) ⟨by decide, by decide⟩ (by decide +kernel) befriended⟩

theorem accepted_without_request :
    let start := boot consentEnv {} (fun _ => true) 0
    People (1, 2) ∧
    Befriended (1, 2) (run (live consentEnv) start (unaskedLives.take 6)).2
      (run (live consentEnv) start unaskedLives).2 ∧
    unaskedLives.length = 7 ∧ ∀ life ∈ unaskedLives, requests consentEnv life = false := by
  intro start
  exact ⟨⟨by decide, by decide⟩, by decide +kernel, rfl, by decide +kernel⟩

end Runs

end EdoyumIM.FriendConsent
