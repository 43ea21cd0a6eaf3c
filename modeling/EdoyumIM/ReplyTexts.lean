import EdoyumIM.JsonAccepted
import EdoyumIM.SenderIdentity
import EdoyumIM.GroupAccounts

/-!
The JSON texts that the server sends. Every text is that of a response in one of
the forms that its command has, also the texts that wait in the cache until a
login. With the library behind the handlers each of them is read again, and the
members read are those of the response, whatever bytes the users chose for their
names and signatures.
-/

namespace EdoyumIM.ReplyTexts

open MachineWords FieldCodec JsonValue OrderedStore Effects UserStore ChatWorld ChatServer
open JsonReader JsonWriter JsonStrings JsonNumbers JsonRoundTrip HandlerSteps
open GroupAccounts (Life live finish_state)
open SenderIdentity (DecodesAs)
open SessionFraming (send send_exact frameHeader)

/-! The members of an object that was written and read. -/
section Members

/-- Bytes below 0x80 are written and read as they are. -/
theorem respell_ascii (name : Bytes) (ascii : name.all (· < 0x80) = true) : respell name = name := by
  induction name with
  | nil => rw [respell]
  | cons c rest ih =>
      obtain ⟨below, later⟩ : c < 0x80 ∧ rest.all (· < 0x80) = true := by simpa using ascii
      rcases utf8ToCodepoint_cases c rest with ⟨-, point⟩ | ⟨above, -⟩
      · rw [respell, point, codePointToUTF8_below c below, List.drop_zero, ih later]
        rfl
      · exact absurd below (not_lt.mpr above)

theorem lookup_next {V : Type} (name : Bytes) (entry : Bytes × V) (rest : List (Bytes × V)) :
    (entry :: rest).lookup name = if name = entry.1 then some entry.2 else rest.lookup name := by
  by_cases here : name = entry.1
  · rw [if_pos here, here, List.lookup, beq_self_eq_true]
  · rw [if_neg here, List.lookup, beq_eq_false_iff_ne.mpr here]

theorem lookup_entries {V : Type} (name : Bytes) (entries : List (Bytes × V)) :
    entries.lookup name = (entries.find? fun entry => entry.1 = name).map Prod.snd := by
  induction entries with
  | nil => rfl
  | cons entry rest ih =>
      rw [lookup_next, ih, List.find?_cons]
      by_cases here : entry.1 = name
      · simp [here]
      · simp [here, Ne.symm here]

theorem lookup_find {V : Type} (name : Bytes) (map : OrderedMap Bytes V) :
    map.entries.lookup name = map.find? name := by
  rw [lookup_entries, OrderedMap.find?]
  congr
  funext entry
  exact decide_eq_decide.mpr Iff.rfl

/-- The first member with a name is the one that an object holds. -/
theorem find_held (members : List (Bytes × Json)) (name : Bytes) :
    (heldMembers members).find? name = (members.lookup name).map held := by
  induction members with
  | nil => rfl
  | cons member rest ih =>
      obtain ⟨first, value⟩ := member
      rw [heldMembers, OrderedMap.find?_set, ih, lookup_next]
      split_ifs
      · rfl
      · rfl

theorem find_reread (members : List (Bytes × Json)) (map : OrderedMap Bytes Json) (name : Bytes)
    (distinct : (members.map Prod.fst).Nodup)
    (settled : ∀ member ∈ members, respell member.1 = member.1) :
    (rereadMembers members map).find? name =
      ((members.lookup name).map reread).or (map.find? name) := by
  induction members generalizing map with
  | nil => rfl
  | cons member rest ih =>
      obtain ⟨first, value⟩ := member
      obtain ⟨fresh, tail⟩ := List.nodup_cons.mp distinct
      rw [rereadMembers, settled (first, value) List.mem_cons_self,
        ih _ tail fun other inside => settled other (List.mem_cons_of_mem _ inside),
        OrderedMap.find?_set, lookup_next]
      split_ifs with here
      · -- no later member has the name
        have absent : rest.lookup name = none := by
          rw [lookup_entries, Option.map_eq_none_iff, List.find?_eq_none]
          intro other inside same
          have taken : other.1 = first := (of_decide_eq_true same).trans here
          exact fresh (List.mem_map.mpr ⟨other, inside, taken⟩)
        rw [absent]
        rfl
      · rfl

theorem held_names (members : List (Bytes × Json)) (good : Bytes → Prop)
    (all : ∀ member ∈ members, good member.1) :
    ∀ entry ∈ (heldMembers members).entries, good entry.1 := by
  induction members with
  | nil => exact fun entry none => absurd none List.not_mem_nil
  | cons member rest ih =>
      obtain ⟨name, value⟩ := member
      obtain ⟨here, later⟩ := List.forall_mem_cons.mp all
      intro entry inside
      rcases mem_set name (held value) _ entry inside with rfl | old
      · exact here
      · exact ih later entry old

/-- Where all names are ASCII, a member of what was read is the member of the
object, written and read. -/
theorem member_reread (members : List (Bytes × Json))
    (ascii : ∀ member ∈ members, member.1.all (· < 0x80) = true) (key : String) :
    (reread (held (.object members))).member key =
      ((Json.object members).member key).map fun value => reread (held value) := by
  have names := held_names members (fun name => respell name = name)
    fun member inside => respell_ascii member.1 (ascii member inside)
  have distinct : ((heldMembers members).entries.map Prod.fst).Nodup :=
    (List.pairwise_map.mpr (heldMembers members).ascending).imp fun less => less.ne
  have read := find_reread (heldMembers members).entries OrderedMap.empty (text key) distinct names
  rw [lookup_find, find_held, Option.map_map] at read
  simp only [held, reread, Json.member, lookup_find, read]
  cases members.lookup (text key) with
  | none => rfl
  | some value => rfl

end Members

/-! What a command is answered with. -/
section Forms

def codeKeys : List String := ["code", "msg"]

def userKeys : List String :=
  ["userid", "username", "nickname", "facetype", "customface", "gender", "birthday", "signature"]

def entryKeys (withAddress : Bool) : List String :=
  userKeys ++ (if withAddress then ["address"] else []) ++
    ["phonenumber", "mail", "clienttype", "status"]

/-- The names of the members of a response, in the order in which they are set. -/
def forms : MsgType → List (List String)
  | .register | .modifypassword => [codeKeys]
  | .login =>
      [codeKeys, codeKeys ++ ["userid", "nickname", "facetype", "customface", "gender", "birthday",
        "signature", "address", "phonenumber", "mail", "username"]]
  | .getofriendlist => [codeKeys, codeKeys ++ ["userinfo"]]
  | .finduser => [codeKeys ++ ["userinfo"]]
  | .operatefriend => [["userid", "type", "username"], ["userid", "type", "username", "accept"]]
  | .userstatuschange => [["type", "onlinestatus"], ["type"]]
  | .updateuserinfo => [codeKeys, codeKeys ++ userKeys ++ ["address", "phonenumber", "mail"]]
  | .creategroup => [codeKeys, codeKeys ++ ["groupid", "groupname"]]
  | .getgroupmembers => [codeKeys ++ ["groupid"], codeKeys ++ ["groupid", "members"]]
  | .headerbeart | .chat | .multichat => []

/-- The names of the members of an entry of a list. -/
def entryForms : MsgType → List (List String)
  | .getofriendlist => [entryKeys true]
  | .getgroupmembers => [entryKeys false]
  | .finduser => [["userid", "username", "nickname", "facetype"]]
  | _ => []

inductive Scalar : Json → Prop
  | number (value : Int32) : Scalar (.ofInt32 value)
  | string (data : Bytes) : Scalar (.string data)

inductive Entry (kind : MsgType) : Json → Prop
  | record (members : List (String × Json)) (names : members.map Prod.fst ∈ entryForms kind)
      (data : ∀ member ∈ members, Scalar member.2) : Entry kind (.ofMembers members)

inductive Datum (kind : MsgType) : Json → Prop
  | scalar {value : Json} (scalar : Scalar value) : Datum kind value
  | list (items : List Json) (entries : ∀ item ∈ items, Entry kind item) :
      Datum kind (.array items)

/-- A friend operation that no branch knows is passed on as a null value. -/
inductive Reply (kind : MsgType) : Json → Prop
  | unknown (passed : kind = .operatefriend) : Reply kind .null
  | record (members : List (String × Json)) (names : members.map Prod.fst ∈ forms kind)
      (data : ∀ member ∈ members, Datum kind member.2) : Reply kind (.ofMembers members)

attribute [simp] Scalar.number Scalar.string

@[simp] theorem datum_number (kind : MsgType) (value : Int32) : Datum kind (.ofInt32 value) :=
  .scalar (.number value)

@[simp] theorem datum_string (kind : MsgType) (data : Bytes) : Datum kind (.string data) :=
  .scalar (.string data)

theorem reply_code (kind : MsgType) (code : Int32) (msg : String)
    (plain : codeKeys ∈ forms kind) : Reply kind (.ofMembers (codeMsg code msg)) :=
  .record _ plain (by simp [codeMsg])

theorem reply_profile (user : User) (username : Bytes) : Reply .login (profile user username) :=
  .record _ (by simp [codeMsg, forms, codeKeys]) (by simp [codeMsg])

theorem reply_friend (userid type : Int32) (username : Bytes) :
    Reply .operatefriend (.ofMembers (friendInfo userid type username)) :=
  .record _ (by simp [friendInfo, forms]) (by simp [friendInfo])

theorem reply_accepted (userid type accept : Int32) (username : Bytes) :
    Reply .operatefriend
      (.ofMembers (friendInfo userid type username ++ [("accept", .ofInt32 accept)])) :=
  .record _ (by simp [friendInfo, forms]) (by simp [friendInfo])

theorem entry_user (kind : MsgType) (withAddress : Bool) (iter : User) (userOnline : Bool)
    (listed : entryKeys withAddress ∈ entryForms kind) :
    Entry kind (userInfo withAddress iter userOnline) := by
  constructor
  · cases withAddress <;> exact listed
  · cases withAddress <;> simp

/-- The list of friends or members, which is absent where there is none. -/
theorem reply_list (kind : MsgType) (key : String) (withAddress : Bool) (userid : Int32)
    (world : World) (front : List (String × Json))
    (listed : entryKeys withAddress ∈ entryForms kind)
    (without : front.map Prod.fst ∈ forms kind) (filled : front.map Prod.fst ++ [key] ∈ forms kind)
    (data : ∀ member ∈ front, Datum kind member.2) :
    Reply kind (.ofMembers (front ++ userList key withAddress userid world)) := by
  rw [userList]
  split
  · rw [List.append_nil]
    exact .record front without data
  · constructor
    · rw [List.map_append]
      exact filled
    · refine List.forall_mem_append.mpr ⟨data, List.forall_mem_singleton.mpr (.list _ ?_)⟩
      intro item inside
      obtain ⟨iter, -, rfl⟩ := List.mem_map.mp inside
      exact entry_user kind withAddress iter _ listed

end Forms

/-! What the handlers put into frames and into the cache. -/
section Handlers

variable (env : Env) (me : ClientSession) (conn data : Bytes)

def framed (fields : List Field) : Bytes := (send (writeFields .fresh fields)).1

/-- The fields of a message of the server's own making. -/
inductive Announced : List Field → Prop
  | heartbeat (m_seq : Int32) :
      Announced [.int MsgType.headerbeart.code, .int m_seq, .string []]
  | reply (kind : MsgType) (m_seq : Int32) (response : Json) (reply : Reply kind response) :
      Announced [.int kind.code, .int m_seq, .string (env.toStyledString response)]
  | status (m_seq userid : Int32) (response : Json) (reply : Reply .userstatuschange response) :
      Announced [.int MsgType.userstatuschange.code, .int m_seq,
        .string (env.toStyledString response), .int userid]
  | stored (response : Json) (reply : Reply .operatefriend response) :
      Announced [.string (env.toStyledString response)]

/-- A chat carries what its sender wrote. -/
def isChat : Cause → Bool
  | .live .chat _ _ => true
  | .replay .chat _ _ => true
  | _ => false

def Spoken : Label → Prop
  | .accept _ _ _ => True
  | .send _ bytes cause =>
      isChat cause = true ∨ ∃ fields, Announced env fields ∧ bytes = framed fields

/-- A notification that waits for a login is a text that was to be sent. -/
def Noted (world : World) : Prop :=
  ∀ entry ∈ world.cache.list .notify,
    ∃ response, Reply .operatefriend response ∧ entry.msg = env.toStyledString response

def AllSpoken (_before : World) (trace : List Label) (_after : World) : Prop :=
  ∀ label ∈ trace, Spoken env label

theorem allSpoken_composable : Composable (AllSpoken env) where
  nothing _ := by simp [AllSpoken]
  sequence one other := List.forall_mem_append.mpr ⟨one, other⟩

def Speaks {α : Type} (command : Handler α) : Prop :=
  Keeps (Guarded (Noted env) (AllSpoken env)) command

variable {env}

theorem speaks_bind {α β : Type} {first : Handler α} {next : α → Handler β}
    (head : Speaks env first) (tail : ∀ value, Speaks env (next value)) :
    Speaks env (first >>= next) :=
  keeps_bind (guarded_composable (Noted env) (allSpoken_composable env)) head tail

/-- What the answer to a question is used for may depend on the state it was asked in. -/
theorem speaks_asked {α β : Type} {question : World → α} {next : α → Handler β}
    (tail : ∀ world, Speaks env (next (question world))) :
    Speaks env (Act.gets question >>= next) := by
  intro world
  rw [Act.gets_bind]
  exact tail world world

theorem speaks_forM {α : Type} {entries : List α} {body : α → Handler PUnit}
    (rounds : ∀ entry, Speaks env (body entry)) : Speaks env (entries.forM body) :=
  keeps_forM (guarded_composable (Noted env) (allSpoken_composable env)) rounds

theorem speaks_foldlM {α β : Type} {entries : List α} {body : β → α → Handler β} (start : β)
    (rounds : ∀ value entry, Speaks env (body value entry)) :
    Speaks env (entries.foldlM body start) :=
  keeps_foldlM (guarded_composable (Noted env) (allSpoken_composable env)) start rounds

/-- A command that sends nothing and stores no message. -/
theorem speaks_quiet {α : Type} {command : Handler α} (silent : ∀ world, (command world).trace = [])
    (cache : ∀ world, (command world).state.cache = world.cache) : Speaks env command := by
  intro world noted
  refine ⟨?_, ?_⟩
  · intro entry member
    exact noted entry (cache world ▸ member)
  · rw [AllSpoken, silent]
    simp

theorem speaks_pure {α : Type} (value : α) : Speaks env (pure value : Handler α) :=
  speaks_quiet (fun _ => rfl) fun _ => rfl

theorem speaks_lift {α : Type} (result : Except Fault α) :
    Speaks env (Act.lift result : Handler α) :=
  speaks_quiet (fun _ => rfl) fun _ => rfl

theorem speaks_gets {α : Type} (question : World → α) :
    Speaks env (Act.gets question : Handler α) :=
  speaks_quiet (fun _ => rfl) fun _ => rfl

theorem speaks_look {α : Type} (question : Store → α) : Speaks env (look question) :=
  speaks_quiet (fun _ => rfl) fun _ => rfl

theorem speaks_ask {α : Type} (operation : Bool → Store → α × Store) :
    Speaks env (ask operation) :=
  speaks_quiet (fun _ => rfl) fun _ => rfl

theorem speaks_edit (change : ClientSession → ClientSession) :
    Speaks env (Act.modify (World.modifySession conn change)) :=
  speaks_quiet (fun _ => rfl) fun _ => rfl

theorem speaks_emit (peer : Bytes) (fields : List Field) (cause : Cause)
    (announced : Announced env fields) :
    Speaks env (Act.emit (.send peer (framed fields) cause)) := by
  intro world noted
  refine ⟨noted, List.forall_mem_singleton.mpr ?_⟩
  exact Or.inr ⟨fields, announced, rfl⟩

theorem header_fields (kind : MsgType) (m_seq : Int32) (outbuf : Bytes) :
    (header kind m_seq).writeString outbuf =
      writeFields .fresh [.int kind.code, .int m_seq, .string outbuf] := rfl

theorem status_fields (kind : MsgType) (m_seq userid : Int32) (outbuf : Bytes) :
    ((header kind m_seq).writeString outbuf).writeInt userid =
      writeFields .fresh [.int kind.code, .int m_seq, .string outbuf, .int userid] := rfl

theorem speaks_answer {kind : MsgType} {response : Json} (reply : Reply kind response) :
    Speaks env (answer env me conn kind response) := by
  rw [answer, header_fields]
  exact speaks_emit conn _ .reply (.reply kind me.m_seq response reply)

theorem speaks_status (peer : Bytes × Int32) (userid type : Int32) (known : type = 1 ∨ type = 3) :
    Speaks env (sendUserStatusChangeMsg env peer userid type) := by
  have sends : ∀ response, Reply .userstatuschange response → Speaks env
      (Act.emit (.send peer.1 (send (((header .userstatuschange peer.2).writeString
        (env.toStyledString response)).writeInt userid)).1 .status)) := by
    intro response reply
    rw [status_fields]
    exact speaks_emit peer.1 _ .status (.status peer.2 userid response reply)
  rw [sendUserStatusChangeMsg]
  rcases known with rfl | rfl
  · rw [if_pos rfl]
    exact sends _ (.record _ (by simp [forms]) (by simp))
  · rw [if_neg (by decide), if_neg (by decide), if_pos rfl]
    exact sends _ (.record _ (by simp [forms]) (by simp))

theorem speaks_tellFriends (owner userid type : Int32) (known : type = 1 ∨ type = 3) :
    Speaks env (tellFriends env owner userid type) := by
  apply speaks_bind (speaks_look _)
  intro friends
  apply speaks_forM
  intro iter
  apply speaks_bind (speaks_gets _)
  intro found
  cases found with
  | none => exact speaks_pure ()
  | some peer => exact speaks_status peer userid type known

theorem speaks_chat (target : Int32) (item : Item) (writer : BinaryWriter) (cached : Bytes) :
    Speaks env (deliver .chat target item writer cached) := by
  intro world noted
  cases found : world.addressOf target with
  | none =>
      rw [deliver_offline _ _ _ _ _ world found]
      refine ⟨?_, List.forall_mem_singleton.mpr trivial⟩
      intro entry member
      simp only [MsgCacheManager.addMsgCache, MsgCacheManager.list_setList] at member
      exact noted entry (by simpa using member)
  | some peer =>
      rw [deliver_online _ _ _ _ _ world peer found]
      exact ⟨noted, List.forall_mem_cons.mpr
        ⟨trivial, List.forall_mem_singleton.mpr (Or.inl rfl)⟩⟩

/-- What is stored for a user who is offline is the same text. -/
theorem speaks_notify (type target : Int32) {root : Json} (reply : Reply .operatefriend root) :
    Speaks env (notifyTarget env me type target root) := by
  apply speaks_bind
  · intro world noted
    cases found : world.addressOf target with
    | none =>
        rw [deliver_offline _ _ _ _ _ world found]
        refine ⟨?_, List.forall_mem_singleton.mpr trivial⟩
        intro entry member
        simp only [MsgCacheManager.addMsgCache, MsgCacheManager.list_setList, if_true,
          List.mem_append, List.mem_singleton] at member
        rcases member with old | rfl
        · exact noted entry old
        · exact ⟨root, reply, rfl⟩
    | some peer =>
        rw [deliver_online _ _ _ _ _ world peer found]
        refine ⟨noted, List.forall_mem_cons.mpr ⟨trivial, List.forall_mem_singleton.mpr ?_⟩⟩
        rw [header_fields]
        exact Or.inr ⟨_, .reply .operatefriend me.m_seq root reply, rfl⟩
  · exact fun _ => speaks_pure ()

theorem speaks_replay (channel : Channel) (userid : Int32) :
    Speaks env (replay conn channel userid) := by
  intro world noted
  rw [replay_outcome]
  constructor
  · intro entry member
    simp only [MsgCacheManager.list_setList] at member
    cases channel with
    | chat => exact noted entry (by simpa using member)
    | notify =>
        rw [if_pos rfl] at member
        exact noted entry (List.mem_filter.mp member).1
  · intro label member
    obtain ⟨entry, stored, rfl⟩ := List.mem_map.mp member
    cases channel with
    | chat => exact Or.inl rfl
    | notify =>
        obtain ⟨response, reply, text⟩ := noted entry (List.mem_filter.mp stored).1
        rw [text]
        exact Or.inr ⟨_, .stored response reply, rfl⟩

end Handlers

/-! The handlers one by one. -/
section Commands

variable {env : Env} (me : ClientSession) (conn data : Bytes)

theorem speaks_heartbeat : Speaks env (onHeartbeatResponse me conn) := by
  rw [onHeartbeatResponse, header_fields]
  exact speaks_emit conn _ .reply (.heartbeat me.m_seq)

theorem speaks_register : Speaks env (onRegisterResponse env me conn data) := by
  apply speaks_bind (speaks_lift _)
  intro parsed
  cases parsed with
  | none => exact speaks_answer me conn (reply_code _ _ _ (by decide))
  | some root =>
      apply speaks_bind (speaks_lift _)
      intro username
      apply speaks_bind (speaks_lift _)
      intro nickname
      apply speaks_bind (speaks_lift _)
      intro password
      split
      · apply speaks_bind (speaks_ask _)
        intro added
        cases added with
        | none => exact speaks_answer me conn (reply_code _ _ _ (by decide))
        | some user => exact speaks_answer me conn (reply_code _ _ _ (by decide))
      · exact speaks_answer me conn (reply_code _ _ _ (by decide))

theorem speaks_logIn (username password : Bytes) (user : User) :
    Speaks env (logIn env me conn username password user) := by
  apply speaks_bind (speaks_edit conn _)
  intro _
  apply speaks_bind (speaks_answer me conn (reply_profile user username))
  intro _
  apply speaks_bind (speaks_replay conn .notify user.userid)
  intro _
  apply speaks_bind (speaks_replay conn .chat user.userid)
  intro _
  exact speaks_tellFriends _ _ _ (Or.inl rfl)

theorem speaks_login : Speaks env (onLoginResponse env me conn data) := by
  apply speaks_bind (speaks_lift _)
  intro parsed
  cases parsed with
  | none => exact speaks_answer me conn (reply_code _ _ _ (by decide))
  | some root =>
      apply speaks_bind (speaks_lift _)
      intro fields
      cases fields with
      | none => exact speaks_answer me conn (reply_code _ _ _ (by decide))
      | some pair =>
          apply speaks_bind (speaks_look _)
          intro found
          cases found with
          | none => exact speaks_answer me conn (reply_code _ _ _ (by decide))
          | some user =>
              dsimp only
              split_ifs
              · exact speaks_answer me conn (reply_code _ _ _ (by decide))
              · exact speaks_logIn me conn _ _ user

theorem speaks_getFriendList : Speaks env (onGetFriendListResponse env me conn) := by
  apply speaks_asked
  intro world
  exact speaks_answer me conn (reply_list .getofriendlist "userinfo" true me.userID world
    (codeMsg 0 "ok") (by simp [entryForms]) (by simp [forms, codeMsg, codeKeys])
    (by simp [forms, codeMsg, codeKeys]) (by simp [codeMsg]))

theorem speaks_findUser : Speaks env (onFindUserResponse env me conn data) := by
  apply speaks_bind (speaks_lift _)
  intro parsed
  cases parsed with
  | none => exact speaks_pure ()
  | some root =>
      apply speaks_bind (speaks_lift _)
      intro type
      apply speaks_bind (speaks_lift _)
      intro username
      split
      · apply speaks_bind (speaks_look _)
        intro found
        cases found with
        | none =>
            exact speaks_answer me conn (.record _ (by simp [forms, codeMsg, codeKeys])
              (by simp [codeMsg]))
        | some user =>
            apply speaks_answer me conn
            apply Reply.record _ (by simp [forms, codeMsg, codeKeys])
            refine List.forall_mem_append.mpr ⟨by simp [codeMsg],
              List.forall_mem_singleton.mpr (.list _ (List.forall_mem_singleton.mpr ?_))⟩
            exact .record _ (by simp [entryForms]) (by simp)
      · exact speaks_pure ()

theorem speaks_deleteFriend (friendid : Int32) :
    Speaks env (deleteFriend env me conn friendid) := by
  apply speaks_bind (speaks_ask _)
  intro released
  split
  · apply speaks_bind (speaks_look _)
    intro found
    cases found with
    | none => exact speaks_pure ()
    | some cachedUser =>
        apply speaks_bind (speaks_answer me conn (reply_friend _ _ _))
        intro _
        split
        · apply speaks_bind (speaks_gets _)
          intro online
          cases online with
          | none => exact speaks_pure ()
          | some peer =>
              dsimp only
              rw [header_fields]
              exact speaks_emit peer.1 _ .status
                (.reply .operatefriend me.m_seq _ (reply_friend me.userID 5 me.m_user.username))
        · exact speaks_tellFriends _ _ _ (Or.inr rfl)
  · exact speaks_pure ()

theorem speaks_addGroup (groupid : Int32) : Speaks env (onAddGroupResponse env me conn groupid) := by
  apply speaks_bind (speaks_ask _)
  intro made
  split
  · apply speaks_bind (speaks_look _)
    intro found
    cases found with
    | none => exact speaks_pure ()
    | some groupUser =>
        apply speaks_bind (speaks_answer me conn (reply_accepted _ _ _ _))
        intro _
        exact speaks_tellFriends _ _ _ (Or.inr rfl)
  · exact speaks_pure ()

theorem speaks_acceptFriend (request : Json) (targetUserid : Int32) :
    Speaks env (acceptFriend env me conn request targetUserid) := by
  apply speaks_bind (speaks_lift _)
  intro accept
  cases accept with
  | none => exact speaks_pure ()
  | some accept =>
      apply speaks_bind
      · rw [relateAccepted]
        split
        · exact speaks_ask _
        · exact speaks_pure true
      · intro made
        split
        · apply speaks_bind (speaks_look _)
          intro found
          cases found with
          | none => exact speaks_pure ()
          | some targetUser =>
              apply speaks_bind (speaks_answer me conn (reply_accepted _ _ _ _))
              intro _
              exact speaks_notify me _ _ (reply_accepted _ _ _ _)
        · exact speaks_pure ()

theorem speaks_operateFriend : Speaks env (onOperateFriendResponse env me conn data) := by
  apply speaks_bind (speaks_lift _)
  intro parsed
  cases parsed with
  | none => exact speaks_pure ()
  | some root =>
      apply speaks_bind (speaks_lift _)
      intro type
      apply speaks_bind (speaks_lift _)
      intro userid
      split
      · next type targetUserid =>
        split_ifs
        · exact speaks_deleteFriend me conn targetUserid
        · exact speaks_addGroup me conn targetUserid
        · exact speaks_deleteFriend me conn targetUserid
        · exact speaks_notify me _ _ (reply_friend _ _ _)
        · exact speaks_acceptFriend me conn root targetUserid
        · exact speaks_notify me _ _ (.unknown rfl)
      · exact speaks_pure ()

theorem speaks_updateUserInfo : Speaks env (onUpdateUserInfoResponse env me conn data) := by
  apply speaks_bind (speaks_lift _)
  intro parsed
  cases parsed with
  | none => exact speaks_pure ()
  | some root =>
      apply speaks_bind (speaks_lift _)
      intro info
      cases info with
      | none => exact speaks_pure ()
      | some newuserinfo =>
          apply speaks_bind (speaks_ask _)
          intro updated
          split
          · apply speaks_bind (speaks_answer me conn
              (.record _ (by simp [forms, codeMsg, codeKeys, userKeys]) (by simp [codeMsg])))
            exact fun _ => speaks_tellFriends _ _ _ (Or.inr rfl)
          · apply speaks_bind (speaks_answer me conn (reply_code _ _ _ (by decide)))
            exact fun _ => speaks_tellFriends _ _ _ (Or.inr rfl)

theorem speaks_modifyPassword : Speaks env (onModifyPasswordResponse env me conn data) := by
  apply speaks_bind (speaks_lift _)
  intro parsed
  cases parsed with
  | none => exact speaks_pure ()
  | some root =>
      apply speaks_bind (speaks_lift _)
      intro oldpass
      apply speaks_bind (speaks_lift _)
      intro newPass
      split
      · apply speaks_bind (speaks_look _)
        intro found
        cases found with
        | none => exact speaks_pure ()
        | some cachedUser =>
            dsimp only
            split
            · exact speaks_answer me conn (reply_code _ _ _ (by decide))
            · apply speaks_bind (speaks_ask _)
              intro modified
              split
              · exact speaks_answer me conn (reply_code _ _ _ (by decide))
              · exact speaks_answer me conn (reply_code _ _ _ (by decide))
      · exact speaks_pure ()

theorem speaks_createGroup (garbage : Int32) :
    Speaks env (onCreateGroupResponse env me conn data garbage) := by
  apply speaks_bind (speaks_lift _)
  intro parsed
  cases parsed with
  | none => exact speaks_pure ()
  | some root =>
      apply speaks_bind (speaks_lift _)
      intro groupname
      cases groupname with
      | none => exact speaks_pure ()
      | some groupname =>
          apply speaks_bind (speaks_ask _)
          intro created
          apply speaks_bind (speaks_ask _)
          intro made
          split
          · apply speaks_bind
            · cases created with
              | none => exact speaks_answer me conn (reply_code _ _ _ (by decide))
              | some groupid =>
                  exact speaks_answer me conn (.record _ (by simp [forms, codeMsg, codeKeys])
                    (by simp [codeMsg]))
            · exact fun _ => speaks_answer me conn (reply_friend _ _ _)
          · exact speaks_pure ()

theorem speaks_getGroupMember : Speaks env (onGetGroupMemberResponse env me conn data) := by
  apply speaks_bind (speaks_lift _)
  intro parsed
  cases parsed with
  | none => exact speaks_pure ()
  | some root =>
      apply speaks_bind (speaks_lift _)
      intro groupid
      cases groupid with
      | none => exact speaks_pure ()
      | some groupid =>
          apply speaks_asked
          intro world
          exact speaks_answer me conn (reply_list .getgroupmembers "members" false groupid world
            (codeMsg 0 "ok" ++ [("groupid", .ofInt32 groupid)]) (by simp [entryForms])
            (by simp [forms, codeMsg, codeKeys]) (by simp [forms, codeMsg, codeKeys])
            (by simp [codeMsg]))

theorem speaks_onChat : Speaks env (onChatResponse me data) := by
  apply speaks_bind (speaks_ask _)
  intro _
  split
  · apply speaks_bind (speaks_chat _ _ _ _)
    exact fun _ => speaks_pure ()
  · apply speaks_bind (speaks_look _)
    intro friends
    apply speaks_bind
    · exact speaks_foldlM _ fun writer iter => speaks_chat _ _ _ _
    · exact fun _ => speaks_pure ()

theorem speaks_onMultiChat : Speaks env (onMultiChatResponse env me conn data) := by
  apply speaks_bind (speaks_lift _)
  intro parsed
  cases parsed with
  | none => exact speaks_pure ()
  | some root =>
      apply speaks_bind (speaks_lift _)
      intro targets
      cases targets with
      | none => exact speaks_pure ()
      | some targets =>
          apply speaks_forM
          intro item
          apply speaks_bind (speaks_lift _)
          intro target
          apply speaks_bind (speaks_edit conn _)
          exact fun _ => speaks_onChat _ data

theorem speaks_dispatch (garbage : Int32) (kind : MsgType) :
    Speaks env (dispatch env me conn data garbage kind) := by
  cases kind with
  | headerbeart => exact speaks_heartbeat me conn
  | register => exact speaks_register me conn data
  | login => exact speaks_login me conn data
  | getofriendlist => exact speaks_getFriendList me conn
  | finduser => exact speaks_findUser me conn data
  | operatefriend => exact speaks_operateFriend me conn data
  | userstatuschange => exact speaks_pure ()
  | updateuserinfo => exact speaks_updateUserInfo me conn data
  | modifypassword => exact speaks_modifyPassword me conn data
  | creategroup => exact speaks_createGroup me conn data garbage
  | getgroupmembers => exact speaks_getGroupMember me conn data
  | chat => exact speaks_pure ()
  | multichat => exact speaks_pure ()

end Commands

/-! Whole frames and runs. -/
section Runs

variable {env : Env}

theorem speaks_request (me : ClientSession) (conn : Bytes) (mem : Nat → UInt8) (garbage cmd : Int32)
    (reader : BinaryReader) (data : Bytes) :
    Speaks env (request env me conn mem garbage cmd reader data) := by
  rw [request]
  split
  · rw [chatRequest]
    split
    · exact speaks_onChat me data
    · apply speaks_bind (speaks_edit conn _)
      exact fun _ => speaks_onChat _ data
  · apply speaks_bind (speaks_lift _)
    intro targets
    apply speaks_bind (speaks_edit conn _)
    exact fun _ => speaks_onMultiChat _ conn data
  · exact speaks_dispatch me conn data garbage _
  · exact speaks_pure ()

theorem speaks_process (me : ClientSession) (conn : Bytes) (mem : Nat → UInt8) (garbage : Int32)
    (msgbuff : Bytes) : Speaks env (process env me conn mem garbage msgbuff) := by
  rw [process]
  split
  · exact speaks_pure false
  · apply speaks_bind (speaks_edit conn _)
    intro _
    apply speaks_bind (speaks_lift _)
    intro parts
    apply speaks_bind (speaks_request _ conn mem garbage _ _ _)
    exact fun _ => speaks_pure true

theorem live_speaks (world : World) (life : Life) :
    Guarded (Noted env) (AllSpoken env) world (live env world life).1 (live env world life).2 := by
  intro noted
  have still : Noted env world ∧ AllSpoken env world [] world := ⟨noted, by simp [AllSpoken]⟩
  cases life with
  | restart => exact ⟨fun entry member => absurd member List.not_mem_nil, still.2⟩
  | event event =>
      rw [live, step]
      split_ifs
      · cases event with
        | connect conn junkTarget => exact still
        | disconnect conn => exact still
        | frame conn msgbuff mem garbage =>
            rw [serve]
            split
            · exact still
            · next me found =>
              obtain ⟨after, spoken⟩ := speaks_process me conn mem garbage msgbuff world noted
              rw [finish]
              split
              · exact ⟨after, spoken⟩
              · exact ⟨after, spoken⟩
      · exact still

theorem run_speaks (database : Database) (answers : Nat → Bool) (asked : Nat) (lives : List Life) :
    ∀ label ∈ (run (live env) (boot env database answers asked) lives).1, Spoken env label := by
  have spoken := run_keeps (live env)
    (guarded_composable (Noted env) (allSpoken_composable env)) live_speaks
    (boot env database answers asked) lives
  exact (spoken fun entry member => absurd member List.not_mem_nil).2

end Runs

/-! The texts, read by the library. -/
section Reading

variable (decodeDouble : Bytes → Option ℚ) (realText : ℚ → Bytes)

theorem forms_ascii (kind : MsgType) :
    ∀ names ∈ forms kind, ∀ name ∈ names, (text name).all (· < 0x80) = true := by
  cases kind <;> decide +kernel

theorem plain_scalar {value : Json} (scalar : Scalar value) : plain value = true := by
  cases scalar with
  | number value =>
      have least := value.le_toInt
      have greatest := value.toInt_lt
      refine decide_eq_true ⟨by omega, ?_⟩
      rw [maxLargestUInt]
      omega
  | string data => rfl

theorem plainItems_iff (items : List Json) :
    plainItems items = true ↔ ∀ item ∈ items, plain item = true := by
  induction items with
  | nil => simp [plainItems]
  | cons item items ih => simp [plainItems, ih]

theorem plain_members (members : List (String × Json))
    (data : ∀ member ∈ members, plain member.2 = true) :
    plain (.ofMembers members) = true := by
  refine (plainMembers_iff _).mpr fun entry inside => ?_
  obtain ⟨member, there, rfl⟩ := List.mem_map.mp inside
  exact data member there

theorem plain_datum {kind : MsgType} {value : Json} (datum : Datum kind value) :
    plain value = true := by
  cases datum with
  | scalar scalar => exact plain_scalar scalar
  | list items entries =>
      refine (plainItems_iff items).mpr fun item inside => ?_
      cases entries item inside with
      | record members names data =>
          exact plain_members members fun member there => plain_scalar (data member there)

theorem plain_reply {kind : MsgType} {response : Json} (reply : Reply kind response) :
    plain response = true := by
  cases reply with
  | unknown passed => rfl
  | record members names data =>
      exact plain_members members fun member there => plain_datum (data member there)

theorem depthItems_le (items : List Json) (bound : Nat) :
    depthItems items ≤ bound ↔ ∀ item ∈ items, depth item ≤ bound := by
  induction items with
  | nil => simp [depthItems]
  | cons item items ih => simp [depthItems, ih]

theorem depthMembers_le (members : List (Bytes × Json)) (bound : Nat) :
    depthMembers members ≤ bound ↔ ∀ member ∈ members, depth member.2 ≤ bound := by
  induction members with
  | nil => simp [depthMembers]
  | cons member members ih => simp [depthMembers, ih]

mutual

/-- The library does not hold a value any deeper than it was built. -/
theorem depth_held (value : Json) : depth (held value) ≤ depth value := by
  match value with
  | .null | .int _ | .uint _ | .real _ | .string _ | .bool _ => exact Nat.le_refl _
  | .array items =>
      have inner := depth_heldItems items
      simp only [held, depth]
      omega
  | .object members =>
      have inner := (depthMembers_le _ _).mpr (depth_heldMembers members)
      simp only [held, depth]
      omega

theorem depth_heldItems (items : List Json) : depthItems (heldItems items) ≤ depthItems items := by
  match items with
  | [] => exact Nat.le_refl _
  | item :: items =>
      have here := depth_held item
      have later := depth_heldItems items
      simp only [heldItems, depthItems]
      omega

theorem depth_heldMembers (members : List (Bytes × Json)) :
    ∀ member ∈ (heldMembers members).entries, depth member.2 ≤ depthMembers members := by
  match members with
  | [] => exact fun member none => absurd none List.not_mem_nil
  | (name, value) :: members =>
      intro member inside
      rcases mem_set name (held value) _ member inside with rfl | old
      · exact (depth_held value).trans (Nat.le_max_left _ _)
      · exact (depth_heldMembers members member old).trans (Nat.le_max_right _ _)

end

theorem depth_members (members : List (String × Json)) (bound : Nat)
    (data : ∀ member ∈ members, depth member.2 ≤ bound) :
    depth (.ofMembers members) ≤ bound + 1 := by
  refine Nat.succ_le_succ ((depthMembers_le _ _).mpr fun entry inside => ?_)
  obtain ⟨member, there, rfl⟩ := List.mem_map.mp inside
  exact data member there

theorem depth_scalar {value : Json} (scalar : Scalar value) : depth value ≤ 1 := by
  cases scalar <;> exact Nat.le_refl _

theorem depth_datum {kind : MsgType} {value : Json} (datum : Datum kind value) :
    depth value ≤ 3 := by
  cases datum with
  | scalar scalar => exact (depth_scalar scalar).trans (by omega)
  | list items entries =>
      refine Nat.succ_le_succ ((depthItems_le items 2).mpr fun item inside => ?_)
      cases entries item inside with
      | record fields names data =>
          exact depth_members fields 1 fun field place => depth_scalar (data field place)

/-- A response, its lists, their entries and the data of these. -/
theorem depth_reply {kind : MsgType} {response : Json} (reply : Reply kind response) :
    depth response ≤ 4 := by
  cases reply with
  | unknown passed => exact Nat.le_add_left 1 3
  | record members names data =>
      exact depth_members members 3 fun member there => depth_datum (data member there)

theorem int_uint (value : Nat) : (Json.uint value).int? = (Json.int value).int? := by
  have same : (Json.uint value).isInt = (Json.int value).isInt := by
    simp only [Json.isInt]
    apply decide_eq_decide.mpr
    omega
  simp only [Json.int?, Json.asInt, same, Int32.ofInt_eq_ofNat]

theorem int_number (value : Int) : (number value).int? = (Json.int value).int? := by
  rw [number]
  split_ifs with small
  · rfl
  · rw [maxInt] at small
    rw [int_uint, Int.toNat_of_nonneg (by omega)]

/-- Integers are read as they were built. -/
theorem int_reread (value : Json) : (reread (held value)).int? = value.int? := by
  cases value with
  | int value => exact int_number value
  | uint value => exact (int_number value).trans (int_uint value).symm
  | _ => rfl

theorem string_number (value : Int) : (number value).string? = none := by
  rw [number]
  split_ifs <;> rfl

theorem string_reread (value : Json) :
    (reread (held value)).string? = value.string?.map respell := by
  cases value with
  | int value => exact string_number value
  | uint value => exact string_number value
  | _ => rfl

/-- The text is read, and what is found in it is what was put into a response. -/
structure Reads (kind : MsgType) (outbuf : Bytes) (response read : Json) : Prop where
  form : Reply kind response
  parsed : parse decodeDouble outbuf = .ok (some read)
  member : ∀ key, read.member key =
    (response.member key).map fun value => reread (held value)
  int : ∀ key, read.intAt key = response.intAt key
  string : ∀ key, read.stringAt key = (response.stringAt key).map (Option.map respell)

theorem reply_reads {kind : MsgType} {response : Json} (reply : Reply kind response) :
    Reads decodeDouble kind (toStyledString realText response) response
      (reread (held response)) := by
  have member : ∀ key, (reread (held response)).member key =
      (response.member key).map fun value => reread (held value) := by
    cases reply with
    | unknown passed => exact fun key => rfl
    | record members names data =>
        apply member_reread
        intro entry inside
        obtain ⟨member, there, rfl⟩ := List.mem_map.mp inside
        exact forms_ascii kind _ names member.1 (List.mem_map_of_mem there)
  refine ⟨reply, ?_, member, ?_, ?_⟩
  · have shallow := (depth_held response).trans (depth_reply reply)
    rw [styled_reads_back, if_pos (shallow.trans (by decide))]
    exact plain_reply reply
  · intro key
    rw [Json.intAt, member, Json.intAt]
    cases response.member key with
    | error fault => rfl
    | ok value => exact congrArg Except.ok (int_reread value)
  · intro key
    rw [Json.stringAt, member, Json.stringAt]
    cases response.member key with
    | error fault => rfl
    | ok value => exact congrArg Except.ok (string_reread value)

/-- A message whose text a receiver with the same library can read. -/
inductive Legible : List Field → Prop
  | heartbeat (m_seq : Int32) :
      Legible [.int MsgType.headerbeart.code, .int m_seq, .string []]
  | reply (kind : MsgType) (m_seq : Int32) (outbuf : Bytes) (response read : Json)
      (reads : Reads decodeDouble kind outbuf response read) :
      Legible [.int kind.code, .int m_seq, .string outbuf]
  | status (m_seq userid : Int32) (outbuf : Bytes) (response read : Json)
      (reads : Reads decodeDouble .userstatuschange outbuf response read) :
      Legible [.int MsgType.userstatuschange.code, .int m_seq, .string outbuf, .int userid]
  | stored (outbuf : Bytes) (response read : Json)
      (reads : Reads decodeDouble .operatefriend outbuf response read) :
      Legible [.string outbuf]

theorem announced_legible (env : Env) (texts : env.toStyledString = toStyledString realText)
    (fields : List Field) (announced : Announced env fields) : Legible decodeDouble fields := by
  cases announced with
  | heartbeat m_seq => exact .heartbeat m_seq
  | reply kind m_seq response reply =>
      exact .reply kind m_seq _ response _ (texts ▸ reply_reads decodeDouble realText reply)
  | status m_seq userid response reply =>
      exact .status m_seq userid _ response _ (texts ▸ reply_reads decodeDouble realText reply)
  | stored response reply =>
      exact .stored _ response _ (texts ▸ reply_reads decodeDouble realText reply)

/-- The frame consists of its header and a payload that decodes as the fields. -/
def Carried (bytes : Bytes) (fields : List Field) : Prop :=
  (∀ field ∈ fields, field.Short) → (fields.flatMap encodeField).length < 2 ^ 32 →
    ∃ payload, bytes = frameHeader payload.length ++ payload ∧ DecodesAs payload fields

theorem framed_carried (fields : List Field) : Carried (framed fields) fields := by
  intro short total
  refine ⟨fields.flatMap encodeField, ?_, ?_⟩
  · rw [framed, send_exact, written_fields fields total]
  · intro mem
    have read := read_fields mem fields [] short total
    rw [List.append_nil] at read
    exact ⟨_, read⟩

/-- Every frame but a chat is one that a receiver with the same library reads. -/
def AllLegible (trace : List Label) : Prop :=
  ∀ conn bytes cause, .send conn bytes cause ∈ trace → isChat cause = false →
    ∃ fields, Legible decodeDouble fields ∧ Carried bytes fields

end Reading

end EdoyumIM.ReplyTexts
