import EdoyumIM.ChatWorld

/-!
ClientSession: the request handlers, `Process`, and the server as a machine
that takes one event at a time. `conn` is the connection a frame came in on,
`me` the session object behind it. The fields of `me` are read from the
argument: while a frame is handled only the handler itself writes them, and it
goes on with the value it wrote. Logging, console output and the debug dumps
are left out.
-/

namespace EdoyumIM.ChatServer

open MachineWords FieldCodec JsonValue OrderedStore Effects UserStore ChatWorld
open SessionFraming (send)

section Handlers

variable (env : Env) (me : ClientSession) (conn : Bytes) (data : Bytes)

def header (kind : MsgType) (m_seq : Int32) : BinaryWriter :=
  (BinaryWriter.fresh.writeInt kind.code).writeInt m_seq

/-- Write a JSON text behind the header of the given command, and send it on
the requester's connection. -/
def answer (kind : MsgType) (response : Json) : Handler Unit :=
  Act.emit (.send conn
    (send ((header kind me.m_seq).writeString (env.toStyledString response))).1 .reply)

def codeMsg (code : Int32) (msg : String) : List (String × Json) :=
  [("code", .ofInt32 code), ("msg", .string (text msg))]

def onHeartbeatResponse : Handler Unit :=
  Act.emit (.send conn (send ((header .headerbeart me.m_seq).writeString [])).1 .reply)

def onRegisterResponse : Handler Unit := do
  match ← Act.lift (env.parse data) with
  | none => answer env me conn .register (.ofMembers (codeMsg 101 "json pares failed!"))
  | some root =>
      let username ← Act.lift (root.stringAt "username")
      let nickname ← Act.lift (root.stringAt "nickname")
      let password ← Act.lift (root.stringAt "password")
      match username, nickname, password with
      | some username, some nickname, some password =>
          match ← ask (Store.addUser
              { username := username, nickname := nickname, password := password }) with
          | none => answer env me conn .register (.ofMembers (codeMsg 100 "register failed!"))
          | some _ => answer env me conn .register (.ofMembers (codeMsg 0 "ok"))
      | _, _, _ => answer env me conn .register (.ofMembers (codeMsg 102 "json data type error!"))

/-- Sent on the session of another user, with that session's sequence number. -/
def sendUserStatusChangeMsg (peer : Bytes × Int32) (userid : Int32) (type : Int32) : Handler Unit :=
  let status : Json :=
    if type = 1 then .ofMembers [("type", .ofInt32 1), ("onlinestatus", .ofInt32 1)]
    else if type = 2 then .ofMembers [("type", .ofInt32 2), ("onlinestatus", .ofInt32 0)]
    else if type = 3 then .ofMembers [("type", .ofInt32 3)]
    else .null
  Act.emit (.send peer.1
    (send (((header .userstatuschange peer.2).writeString (env.toStyledString status)).writeInt
      userid)).1 .status)

/-- The loops that tell the online friends of `owner` about a change of `userid`. -/
def tellFriends (owner userid : Int32) (type : Int32) : Handler Unit := do
  let friends ← look (Store.getFriendInfoByUserId owner)
  friends.forM fun iter => do
    match ← Act.gets (World.addressOf iter.userid) with
    | none => pure ()
    | some peer => sendUserStatusChangeMsg env peer userid type

def profile (user : User) (username : Bytes) : Json :=
  .ofMembers (codeMsg 0 "ok" ++
    [("userid", .ofInt32 user.userid), ("nickname", .string user.nickname),
      ("facetype", .ofInt32 user.facetype), ("customface", .string user.custimface),
      ("gender", .ofInt32 user.gender), ("birthday", .ofInt32 user.birthday),
      ("signature", .string user.signature), ("address", .string user.address),
      ("phonenumber", .string user.phonenumber), ("mail", .string user.mail),
      ("username", .string username)])

/-- What a login writes into the session object. -/
def enter (username password : Bytes) (user : User) (session : ClientSession) : ClientSession :=
  { session with m_user := { session.m_user with
      userid := user.userid, username := username, nickname := user.nickname
      password := password } }

/-- The part of `OnLoginResponse` behind its checks. -/
def logIn (username password : Bytes) (user : User) : Handler Unit := do
  Act.modify (World.modifySession conn (enter username password user))
  answer env me conn .login (profile user username)
  replay conn .notify user.userid
  replay conn .chat user.userid
  tellFriends env user.userid user.userid 1

/-- The user name and the password of a login request; `none` is a wrong type
of one of the four fields. -/
def loginFields (root : Json) : Except Fault (Option (Bytes × Bytes)) := do
  let username ← root.stringAt "username"
  let password ← root.stringAt "password"
  let clienttype ← root.intAt "clienttype"
  let status ← root.intAt "status"
  match username, password, clienttype, status with
  | some username, some password, some _, some _ => pure (some (username, password))
  | _, _, _, _ => pure none

def onLoginResponse : Handler Unit := do
  match ← Act.lift (env.parse data) with
  | none => answer env me conn .login (.ofMembers (codeMsg 101 "json pares failed!"))
  | some root =>
      match ← Act.lift (loginFields root) with
      | none => answer env me conn .login (.ofMembers (codeMsg 102 "json data type error!"))
      | some (username, password) =>
          match ← look (Store.getUserInfoByUsername username) with
          | none =>
              answer env me conn .login
                (.ofMembers (codeMsg 103 "user is not exist or password is incorrest!"))
          | some user =>
              -- groups are records too, with an empty password
              if password ≠ user.password then
                answer env me conn .login
                  (.ofMembers (codeMsg 104 "user is not exist or password is incorrest!"))
              else logIn env me conn username password user

/-- One entry of a friend or member list; only friend lists carry the address. -/
def userInfo (withAddress : Bool) (iter : User) (userOnline : Bool) : Json :=
  .ofMembers
    ([("userid", .ofInt32 iter.userid), ("username", .string iter.username),
        ("nickname", .string iter.nickname), ("facetype", .ofInt32 iter.facetype),
        ("customface", .string iter.custimface), ("gender", .ofInt32 iter.gender),
        ("birthday", .ofInt32 iter.birthday), ("signature", .string iter.signature)] ++
      (if withAddress then [("address", .string iter.address)] else []) ++
      [("phonenumber", .string iter.phonenumber), ("mail", .string iter.mail),
        ("clienttype", .ofInt32 1), ("status", .ofInt32 (if userOnline then 1 else 0))])

/-- `response[key].append(re)` for every friend; without one the member is absent. -/
def userList (key : String) (withAddress : Bool) (userid : Int32) (world : World) :
    List (String × Json) :=
  match world.store.getFriendInfoByUserId userid with
  | [] => []
  | friends => [(key, .array (friends.map fun iter =>
      userInfo withAddress iter (world.isUserSessionExsit iter.userid)))]

def onGetFriendListResponse : Handler Unit := do
  let userinfo ← Act.gets (userList "userinfo" true me.userID)
  answer env me conn .getofriendlist (.ofMembers (codeMsg 0 "ok" ++ userinfo))

def onFindUserResponse : Handler Unit := do
  match ← Act.lift (env.parse data) with
  | none => pure ()
  | some root =>
      let type ← Act.lift (root.intAt "type")
      let username ← Act.lift (root.stringAt "username")
      match type, username with
      | some _, some username =>
          match ← look (Store.getUserInfoByUsername username) with
          | none =>
              answer env me conn .finduser
                (.ofMembers (codeMsg 0 "ok" ++ [("userinfo", .string (text "[]"))]))
          | some user =>
              answer env me conn .finduser (.ofMembers (codeMsg 0 "ok" ++
                [("userinfo", .array [.ofMembers
                  [("userid", .ofInt32 user.userid), ("username", .string user.username),
                    ("nickname", .string user.nickname),
                    ("facetype", .ofInt32 user.facetype)]])]))
      | _, _ => pure ()

def friendInfo (userid : Int32) (type : Int32) (username : Bytes) : List (String × Json) :=
  [("userid", .ofInt32 userid), ("type", .ofInt32 type), ("username", .string username)]

/-- The two ids of a relationship, the smaller one first. -/
def ordered (one other : Int32) : Int32 × Int32 := if one > other then (other, one) else (one, other)

def deleteFriend (friendid : Int32) : Handler Unit := do
  let ids := ordered friendid me.userID
  if ← ask (Store.releaseFriendRelationship ids.1 ids.2) then
    match ← look (Store.getUserInfoByUserId friendid) with
    | none => pure ()
    | some cachedUser =>
        answer env me conn .operatefriend (.ofMembers (friendInfo friendid 5 cachedUser.username))
        if friendid < GROUPID_BOUBDARY then
          match ← Act.gets (World.addressOf friendid) with
          | none => pure ()
          | some peer =>
              Act.emit (.send peer.1 (send ((header .operatefriend me.m_seq).writeString
                (env.toStyledString
                  (.ofMembers (friendInfo me.userID 5 me.m_user.username))))).1 .status)
        else tellFriends env friendid friendid 3
  else pure ()

def onAddGroupResponse (groupid : Int32) : Handler Unit := do
  if ← ask (Store.makeFriendRelationship me.userID groupid) then
    match ← look (Store.getUserInfoByUserId groupid) with
    | none => pure ()
    | some groupUser =>
        answer env me conn .operatefriend
          (.ofMembers (friendInfo groupUser.userid 3 groupUser.username ++ [("accept", .ofInt32 3)]))
        tellFriends env groupid groupid 3
  else pure ()

/-- The end of `OnOperateFriendResponse`: a notification that is stored as the
JSON text alone when the target is offline. -/
def notifyTarget (type targetUserid : Int32) (root : Json) : Handler Unit := do
  let outbuf := env.toStyledString root
  let _ ← deliver .notify targetUserid ⟨.friendOperation type, me.m_seq, me.userID, outbuf⟩
    ((header .operatefriend me.m_seq).writeString outbuf) outbuf
  pure ()

/-- Only an acceptance makes a relationship. -/
def relateAccepted (accept targetUserid : Int32) : Handler Bool :=
  let ids := ordered me.userID targetUserid
  if accept = 1 then ask (Store.makeFriendRelationship ids.1 ids.2) else pure true

/-- Type 3: an answer to a friend request. -/
def acceptFriend (request : Json) (targetUserid : Int32) : Handler Unit := do
  match ← Act.lift (request.intAt "accept") with
  | none => pure ()
  | some accept =>
      if ← relateAccepted me accept targetUserid then
        match ← look (Store.getUserInfoByUserId targetUserid) with
        | none => pure ()
        | some targetUser =>
            answer env me conn .operatefriend
              (.ofMembers (friendInfo targetUser.userid 3 targetUser.username ++
                [("accept", .ofInt32 accept)]))
            notifyTarget env me 3 targetUserid
              (.ofMembers (friendInfo me.userID 3 me.m_user.username ++
                [("accept", .ofInt32 accept)]))
      else pure ()

def onOperateFriendResponse : Handler Unit := do
  match ← Act.lift (env.parse data) with
  | none => pure ()
  | some root =>
      let type ← Act.lift (root.intAt "type")
      let userid ← Act.lift (root.intAt "userid")
      match type, userid with
      | some type, some targetUserid =>
          -- a group is left with type 4 and joined with every other type
          if targetUserid ≥ GROUPID_BOUBDARY then
            if type = 4 then deleteFriend env me conn targetUserid
            else onAddGroupResponse env me conn targetUserid
          else if type = 4 then deleteFriend env me conn targetUserid
          else if type = 1 then
            notifyTarget env me type targetUserid
              (.ofMembers (friendInfo me.userID 2 me.m_user.username))
          else if type = 3 then acceptFriend env me conn root targetUserid
          -- no other type is checked: the text is that of a null value
          else notifyTarget env me type targetUserid .null
      | _, _ => pure ()

/-- The nine fields `OnUpdateUserInfoResponse` asks for; `none` is a wrong type. -/
def newUserInfo (root : Json) : Except Fault (Option User) := do
  let nickname ← root.stringAt "nickname"
  let facetype ← root.intAt "facetype"
  let customface ← root.stringAt "customface"
  let gender ← root.intAt "gender"
  let birthday ← root.intAt "birthday"
  let signature ← root.stringAt "signature"
  let address ← root.stringAt "address"
  let phonenumber ← root.stringAt "phonenumber"
  let mail ← root.stringAt "mail"
  match nickname, facetype, customface, gender, birthday, signature, address, phonenumber, mail with
  | some nickname, some facetype, some customface, some gender, some birthday, some signature,
      some address, some phonenumber, some mail =>
      pure (some
        { nickname := nickname, facetype := facetype, custimface := customface, gender := gender
          birthday := birthday, signature := signature, address := address
          phonenumber := phonenumber, mail := mail })
  | _, _, _, _, _, _, _, _, _ => pure none

def onUpdateUserInfoResponse : Handler Unit := do
  match ← Act.lift (env.parse data) with
  | none => pure ()
  | some root =>
      match ← Act.lift (newUserInfo root) with
      | none => pure ()
      | some newuserinfo =>
          if ← ask (Store.updateUserInfo me.userID newuserinfo) then
            answer env me conn .updateuserinfo (.ofMembers (codeMsg 0 "ok" ++
              [("userid", .ofInt32 me.userID), ("username", .string me.m_user.username),
                ("nickname", .string newuserinfo.nickname),
                ("facetype", .ofInt32 newuserinfo.facetype),
                ("customface", .string newuserinfo.custimface),
                ("gender", .ofInt32 newuserinfo.gender),
                ("birthday", .ofInt32 newuserinfo.birthday),
                ("signature", .string newuserinfo.signature),
                ("address", .string newuserinfo.address),
                ("phonenumber", .string newuserinfo.phonenumber),
                ("mail", .string newuserinfo.mail)]))
          else
            answer env me conn .updateuserinfo (.ofMembers (codeMsg 104 "update user info failed"))
          tellFriends env me.userID me.userID 3

def onModifyPasswordResponse : Handler Unit := do
  match ← Act.lift (env.parse data) with
  | none => pure ()
  | some root =>
      let oldpass ← Act.lift (root.stringAt "oldpassword")
      let newPass ← Act.lift (root.stringAt "newpassword")
      match oldpass, newPass with
      | some oldpass, some newPass =>
          match ← look (Store.getUserInfoByUserId me.userID) with
          | none => pure ()
          | some cachedUser =>
              if cachedUser.password ≠ oldpass then
                answer env me conn .modifypassword
                  (.ofMembers (codeMsg 103 "incorrect old password"))
              else if ← ask (Store.modifyUserPassword me.userID newPass) then
                answer env me conn .modifypassword (.ofMembers (codeMsg 0 "ok"))
              else
                answer env me conn .modifypassword
                  (.ofMembers (codeMsg 105 "modify password error"))
      | _, _ => pure ()

/-- A `std::string` read as a C string. -/
def cString (name : Bytes) : Bytes := name.takeWhile (· ≠ 0)

/-- `garbage` is what the uninitialised `groupid` holds; a refused `AddGroup`
does not end the handler. -/
def onCreateGroupResponse (garbage : Int32) : Handler Unit := do
  match ← Act.lift (env.parse data) with
  | none => pure ()
  | some root =>
      match ← Act.lift (root.stringAt "groupname") with
      | none => pure ()
      | some groupname =>
          let created ← ask (Store.addGroup (cString groupname) me.userID)
          let groupid := created.getD garbage
          let response := match created with
            | none => codeMsg 106 "create group error"
            | some _ => codeMsg 0 "ok" ++
                [("groupid", .ofInt32 groupid), ("groupname", .string groupname)]
          -- reached after a refused `AddGroup` too, then with the stack word
          if ← ask (Store.makeFriendRelationship me.userID groupid) then
            answer env me conn .creategroup (.ofMembers response)
            answer env me conn .operatefriend (.ofMembers (friendInfo groupid 3 groupname))
          else pure ()

def onGetGroupMemberResponse : Handler Unit := do
  match ← Act.lift (env.parse data) with
  | none => pure ()
  | some root =>
      match ← Act.lift (root.intAt "groupid") with
      | none => pure ()
      | some groupid =>
          let members ← Act.gets (userList "members" false groupid)
          answer env me conn .getgroupmembers
            (.ofMembers (codeMsg 0 "ok" ++ [("groupid", .ofInt32 groupid)] ++ members))

def chatWriter : BinaryWriter :=
  (((header .chat me.m_seq).writeString data).writeInt me.userID).writeInt me.m_target

def onChatResponse : Handler Unit := do
  let writer := chatWriter me data
  let _ ← ask (Store.saveChatMsgToDb me.userID me.m_target data)
  if me.m_target < GROUPID_BOUBDARY then
    let _ ← deliver .chat me.m_target ⟨.direct, me.m_seq, me.userID, data⟩ writer writer.toBytes
    pure ()
  else
    let friends ← look (Store.getFriendInfoByUserId me.m_target)
    -- one writer for the whole loop: each round goes on with what `Send` left in it
    let _ ← friends.foldlM (fun writer iter =>
      deliver .chat iter.userid ⟨.group, me.m_seq, me.userID, data⟩ writer writer.toBytes) writer
    pure ()

def onMultiChatResponse : Handler Unit := do
  match ← Act.lift (env.parse me.m_targets) with
  | none => pure ()
  | some root =>
      match ← Act.lift ((root.member "targets").map Json.array?) with
      | none => pure ()
      | some targets =>
          targets.forM fun item => do
            let target ← Act.lift item.asInt
            Act.modify (World.modifySession conn fun session => { session with m_target := target })
            onChatResponse { me with m_target := target } data

/-- The commands whose handler takes nothing but `data`. -/
def dispatch (garbage : Int32) : MsgType → Handler Unit
  | .headerbeart => onHeartbeatResponse me conn
  | .register => onRegisterResponse env me conn data
  | .login => onLoginResponse env me conn data
  | .getofriendlist => onGetFriendListResponse env me conn
  | .finduser => onFindUserResponse env me conn data
  | .operatefriend => onOperateFriendResponse env me conn data
  | .updateuserinfo => onUpdateUserInfoResponse env me conn data
  | .modifypassword => onModifyPasswordResponse env me conn data
  | .creategroup => onCreateGroupResponse env me conn data garbage
  | .getgroupmembers => onGetGroupMemberResponse env me conn data
  | .userstatuschange | .chat | .multichat => pure ()

end Handlers

section Process

variable (env : Env) (me : ClientSession) (conn : Bytes)

/-- The command and the sequence number in front of a frame. -/
def readHeader (msgbuff : Bytes) : Option (Int32 × Int32 × BinaryReader) := do
  let (cmd, afterCmd) ← (BinaryReader.ofBytes msgbuff).readInt
  let (m_seq, afterSeq) ← afterCmd.readInt
  pure (cmd, m_seq, afterSeq)

/-- The read of `m_target` leaves the field alone when the frame is too short. -/
def chatRequest (reader : BinaryReader) (data : Bytes) : Handler Unit :=
  match reader.readInt with
  | none => onChatResponse me data
  | some (target, _) => do
      Act.modify (World.modifySession conn fun session => { session with m_target := target })
      onChatResponse { me with m_target := target } data

def multiChatRequest (mem : Nat → UInt8) (reader : BinaryReader) (data : Bytes) :
    Handler Unit := do
  let (targets, _) ← Act.lift (reader.readString mem)
  Act.modify (World.modifySession conn fun session => { session with m_targets := targets })
  onMultiChatResponse env { me with m_targets := targets } conn data

def request (mem : Nat → UInt8) (garbage : Int32) (cmd : Int32) (reader : BinaryReader)
    (data : Bytes) : Handler Unit :=
  match MsgType.ofCode cmd with
  | some .chat => chatRequest me conn reader data
  | some .multichat => multiChatRequest env me conn mem reader data
  | some kind => dispatch env me conn data garbage kind
  | none => pure ()

def process (mem : Nat → UInt8) (garbage : Int32) (msgbuff : Bytes) : Handler Bool :=
  match readHeader msgbuff with
  | none => pure false
  | some (cmd, m_seq, reader) => do
      Act.modify (World.modifySession conn fun session => { session with m_seq := m_seq })
      let (data, rest) ← Act.lift (reader.readString mem)
      request env { me with m_seq := m_seq } conn mem garbage cmd rest data
      pure true

end Process

/-! The event loop. A frame comes with the bytes behind the receive string and
the stack word that the code may read uninitialised; a new session has an
uninitialised `m_target`. -/
section EventLoop

inductive Event where
  | connect (conn : Bytes) (junkTarget : Int32)
  | disconnect (conn : Bytes)
  | frame (conn msgbuff : Bytes) (mem : Nat → UInt8) (garbage : Int32)

def finish {α : Type} (outcome : Outcome World Label Fault α) : List Label × World :=
  match outcome.value with
  | .ok _ => (outcome.trace, outcome.state)
  | .error _ => (outcome.trace, { outcome.state with up := false })

def serve (env : Env) (world : World) : Event → List Label × World
  | .connect conn junkTarget =>
      ([], { world with m_mapclient := world.m_mapclient.insert conn { m_target := junkTarget } })
  | .disconnect conn => ([], { world with m_mapclient := world.m_mapclient.erase conn })
  | .frame conn msgbuff mem garbage =>
      match world.m_mapclient.find? conn with
      | none => ([], world)
      | some me => finish (process env me conn mem garbage msgbuff world)

def step (env : Env) (world : World) (event : Event) : List Label × World :=
  if world.up then serve env world event else ([], world)

/-- The server right after start-up on a database. -/
def boot (env : Env) (database : Database) (answers : Nat → Bool) (asked : Nat) : World :=
  { store := { users := init env.emptyData database, database := database }
    answers := answers, asked := asked }

end EventLoop

/-! A concrete environment for worked runs: the parser on the texts of a few
requests, and the styled writer, both for flat objects of integers and plain
strings. -/
section Sample

def quoted (data : Bytes) : Bytes := text "\"" ++ data ++ text "\""

def valueText : Json → Bytes
  | .int value => decimal (Int32.ofInt value)
  | .string data => quoted data
  | _ => text "null"

def requestText (members : List (String × Json)) : Bytes :=
  text "\x7b" ++ (text ",").intercalate (members.map fun entry =>
    quoted (text entry.1) ++ text ":" ++ valueText entry.2) ++ text "\x7d"

def styledText : Json → Bytes
  | .object members =>
      text "\x7b\n\t" ++
        (text ",\n\t").intercalate
          ((members.insertionSort fun left right => left.1 ≤ right.1).map fun entry =>
            quoted entry.1 ++ text " : " ++ valueText entry.2) ++
        text "\n\x7d\n"
  | other => valueText other ++ text "\n"

def registers (name password : String) : List (String × Json) :=
  [("username", .string (text name)), ("nickname", .string (text name)),
    ("password", .string (text password))]

def logsIn (name password : String) : List (String × Json) :=
  [("username", .string (text name)), ("password", .string (text password)),
    ("clienttype", .int 1), ("status", .int 1)]

def befriends (userid : Int) : List (String × Json) := [("type", .int 1), ("userid", .int userid)]

def createsGroup (name : String) : List (String × Json) := [("groupname", .string (text name))]

def sampleRequests : List (List (String × Json)) :=
  [registers "a" "p", registers "b" "q", logsIn "a" "p", logsIn "b" "q", logsIn "268435456" "",
    createsGroup "g", befriends 268435456, befriends 2]

def sampleEnv : Env where
  parse data := .ok ((sampleRequests.find? fun members => requestText members = data).map .ofMembers)
  toStyledString := styledText
  emptyData := true

/-- A frame on a connection, with the bytes behind the data string. -/
def sampleFrame (conn : Bytes) (kind : MsgType) (m_seq : Int32) (data : Bytes)
    (rest : Bytes := []) : Event :=
  .frame conn (((header kind m_seq).writeString data).toBytes ++ rest) (fun _ => 0) 0

end Sample

end EdoyumIM.ChatServer
