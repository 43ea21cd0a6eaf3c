import EdoyumIM.Effects
import EdoyumIM.SessionFraming
import EdoyumIM.UserStore

/-!
The state of the chat server and the actions its handlers are made of: the
singletons UserManager, MsgCacheManager and IMServer, and the database. A
connection stands for its address text, which is the key of its session in
`m_mapclient`, so `m_sessionid` and `m_conn` are that key. The trace records
every `conn->send`. Items, causes and `accept` labels only say why a message
was sent or stored; no handler reads them.
-/

namespace EdoyumIM.ChatWorld

open MachineWords FieldCodec OrderedStore Effects UserStore
open SessionFraming (send)

inductive MsgType where
  | headerbeart
  | register
  | login
  | getofriendlist
  | finduser
  | operatefriend
  | userstatuschange
  | updateuserinfo
  | modifypassword
  | creategroup
  | getgroupmembers
  | chat
  | multichat
  deriving DecidableEq, Repr

namespace MsgType

def code : MsgType → Int32
  | headerbeart => 1000
  | register => 1001
  | login => 1002
  | getofriendlist => 1003
  | finduser => 1004
  | operatefriend => 1005
  | userstatuschange => 1006
  | updateuserinfo => 1007
  | modifypassword => 1008
  | creategroup => 1009
  | getgroupmembers => 1010
  | chat => 1100
  | multichat => 1101

def all : List MsgType :=
  [headerbeart, register, login, getofriendlist, finduser, operatefriend, userstatuschange,
    updateuserinfo, modifypassword, creategroup, getgroupmembers, chat, multichat]

def ofCode (cmd : Int32) : Option MsgType := all.find? fun kind => kind.code = cmd

end MsgType

inductive Channel where
  | notify
  | chat
  deriving DecidableEq, Repr

/-- Where a message comes from: a direct chat, a group chat, or a friend
operation of the given type. -/
inductive Stem where
  | direct
  | group
  | friendOperation (type : Int32)
  deriving DecidableEq, Repr

/-- A message as its request states it. -/
structure Item where
  stem : Stem
  seq : Int32
  sender : Int32
  body : Bytes
  deriving DecidableEq, Repr

inductive Cause where
  | reply
  | status
  | live (channel : Channel) (target : Int32) (item : Item)
  | replay (channel : Channel) (target : Int32) (item : Item)
  deriving DecidableEq, Repr

inductive Label where
  | accept (channel : Channel) (target : Int32) (item : Item)
  | send (conn : Bytes) (bytes : Bytes) (cause : Cause)
  deriving DecidableEq, Repr

/-! MsgCacheManager. The two lists and their functions are alike. -/
section MessageCache

structure CachedMsg where
  userid : Int32
  msg : Bytes
  item : Item
  deriving DecidableEq, Repr

structure MsgCacheManager where
  m_listNotifyMsgCache : List CachedMsg := []
  m_listChatMsgCache : List CachedMsg := []
  deriving DecidableEq

namespace MsgCacheManager

def list (cache : MsgCacheManager) : Channel → List CachedMsg
  | .notify => cache.m_listNotifyMsgCache
  | .chat => cache.m_listChatMsgCache

def setList (cache : MsgCacheManager) : Channel → List CachedMsg → MsgCacheManager
  | .notify, entries => { cache with m_listNotifyMsgCache := entries }
  | .chat, entries => { cache with m_listChatMsgCache := entries }

/-- `AddNotifyMsgCache` and `AddChatMsgCache`. -/
def addMsgCache (channel : Channel) (entry : CachedMsg) (cache : MsgCacheManager) :
    MsgCacheManager :=
  cache.setList channel (cache.list channel ++ [entry])

/-- The loop that erases the entries of a user while it walks over the list:
the entries taken out, and those left. -/
def takeLoop (userid : Int32) : List CachedMsg → List CachedMsg × List CachedMsg
  | [] => ([], [])
  | iter :: rest =>
      if iter.userid = userid then
        (iter :: (takeLoop userid rest).1, (takeLoop userid rest).2)
      else ((takeLoop userid rest).1, iter :: (takeLoop userid rest).2)

/-- `GetNotifyMsgCache` and `GetChatMagCache`. -/
def getMsgCache (channel : Channel) (userid : Int32) (cache : MsgCacheManager) :
    List CachedMsg × MsgCacheManager :=
  ((takeLoop userid (cache.list channel)).1,
    cache.setList channel (takeLoop userid (cache.list channel)).2)

@[simp] theorem list_setList (cache : MsgCacheManager) (channel other : Channel)
    (entries : List CachedMsg) :
    (cache.setList channel entries).list other =
      if other = channel then entries else cache.list other := by
  cases channel <;> cases other <;> rfl

theorem takeLoop_eq (userid : Int32) (entries : List CachedMsg) :
    takeLoop userid entries =
      (entries.filter (·.userid = userid), entries.filter (·.userid ≠ userid)) := by
  induction entries with
  | nil => rfl
  | cons iter rest ih => by_cases mine : iter.userid = userid <;> simp [takeLoop, ih, mine]

end MsgCacheManager

end MessageCache

structure ClientSession where
  m_seq : Int32 := 0
  m_user : User := {}
  m_target : Int32
  m_targets : Bytes := []

def ClientSession.userID (session : ClientSession) : Int32 := session.m_user.userid

/-- `answers` are the database's decisions about the statements it is asked to
execute, in order; `up` is lost when an exception leaves the event loop. -/
structure World where
  store : Store
  cache : MsgCacheManager := {}
  m_mapclient : OrderedMap Bytes ClientSession := OrderedMap.empty
  answers : Nat → Bool
  asked : Nat := 0
  up : Bool := true

namespace World

/-- `GetSessionByID`: the first session in key order, with its connection. -/
def getSessionByID (userid : Int32) (world : World) : Option (Bytes × ClientSession) :=
  world.m_mapclient.entries.find? fun iter => iter.2.userID = userid

def isUserSessionExsit (userid : Int32) (world : World) : Bool :=
  world.m_mapclient.entries.any fun iter => iter.2.userID = userid

/-- The connection of a found session and the sequence number it holds. -/
def addressOf (userid : Int32) (world : World) : Option (Bytes × Int32) :=
  (world.getSessionByID userid).map fun iter => (iter.1, iter.2.m_seq)

def modifySession (conn : Bytes) (change : ClientSession → ClientSession) (world : World) : World :=
  { world with m_mapclient := world.m_mapclient.modify conn change }

end World

abbrev Handler (α : Type) := Act World Label Fault α

/-- Call a function of UserManager that executes one statement. -/
def ask {α : Type} (operation : Bool → Store → α × Store) : Handler α :=
  Act.call fun world =>
    ((operation (world.answers world.asked) world.store).1,
      { world with
        store := (operation (world.answers world.asked) world.store).2
        asked := world.asked + 1 })

def look {α : Type} (question : Store → α) : Handler α :=
  Act.gets fun world => question world.store

/-- Send to a user who is online, else store `cached` for a later login. The
result is the writer as `Send` leaves it. -/
def deliver (channel : Channel) (target : Int32) (item : Item) (writer : BinaryWriter)
    (cached : Bytes) : Handler BinaryWriter := do
  Act.emit (.accept channel target item)
  match ← Act.gets (World.addressOf target) with
  | none =>
      Act.modify fun world =>
        { world with cache := world.cache.addMsgCache channel ⟨target, cached, item⟩ }
      pure writer
  | some (conn, _) =>
      Act.emit (.send conn (send writer).1 (.live channel target item))
      pure (send writer).2

/-- The replay loops of a login: every stored message is written as a string
into the cleared writer. -/
def replay (conn : Bytes) (channel : Channel) (userid : Int32) : Handler Unit := do
  let taken ← Act.call fun world =>
    ((world.cache.getMsgCache channel userid).1,
      { world with cache := (world.cache.getMsgCache channel userid).2 })
  taken.forM fun iter =>
    Act.emit (.send conn (send (BinaryWriter.fresh.writeString iter.msg)).1
      (.replay channel userid iter.item))

theorem deliver_offline (channel : Channel) (target : Int32) (item : Item) (writer : BinaryWriter)
    (cached : Bytes) (world : World) (offline : world.addressOf target = none) :
    deliver channel target item writer cached world =
      ⟨[.accept channel target item],
        { world with cache := world.cache.addMsgCache channel ⟨target, cached, item⟩ },
        .ok writer⟩ := by
  rw [deliver, Act.bind_ok _ _ _ () rfl]
  simp only [Act.emit_apply, Act.gets_bind, offline]
  rfl

theorem deliver_online (channel : Channel) (target : Int32) (item : Item) (writer : BinaryWriter)
    (cached : Bytes) (world : World) (peer : Bytes × Int32)
    (online : world.addressOf target = some peer) :
    deliver channel target item writer cached world =
      ⟨[.accept channel target item,
          .send peer.1 (send writer).1 (.live channel target item)],
        world, .ok (send writer).2⟩ := by
  rw [deliver, Act.bind_ok _ _ _ () rfl]
  simp only [Act.emit_apply, Act.gets_bind, online]
  rfl

theorem replay_outcome (conn : Bytes) (channel : Channel) (userid : Int32) (world : World) :
    replay conn channel userid world =
      ⟨((world.cache.list channel).filter (·.userid = userid)).map fun iter =>
          .send conn (send (BinaryWriter.fresh.writeString iter.msg)).1
            (.replay channel userid iter.item),
        { world with
          cache := world.cache.setList channel
            ((world.cache.list channel).filter (·.userid ≠ userid)) },
        .ok ()⟩ := by
  rw [replay, Act.bind_ok _ _ _ _ rfl]
  simp only [Act.call_apply, MsgCacheManager.getMsgCache, MsgCacheManager.takeLoop_eq,
    Act.forM_emit, List.nil_append]

end EdoyumIM.ChatWorld
