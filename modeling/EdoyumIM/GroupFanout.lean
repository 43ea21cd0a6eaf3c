import EdoyumIM.ChatMessages

/-!
The group branch of `OnChatResponse`. One writer serves all members, and `Send`
leaves the header of the frame it built in the writer it is given. So the copies
are alike exactly when nobody before the last member is online.
-/

namespace EdoyumIM.GroupFanout

open MachineWords FieldCodec JsonValue OrderedStore Effects UserStore ChatWorld ChatServer
open HandlerSteps ChatMessages
open SessionFraming (send send_exact frameHeader frameHeader_length)

/-! The copies one pass over the member list makes. -/
section Copies

/-- Frames by connection, and stored texts by user, for a loop that starts with
the given writer. -/
def copies (world : World) : BinaryWriter → List User → List (Bytes × Bytes) × List (Int32 × Bytes)
  | _, [] => ([], [])
  | writer, iter :: rest =>
      match world.addressOf iter.userid with
      | none =>
          ((copies world writer rest).1, (iter.userid, writer.toBytes) :: (copies world writer rest).2)
      | some peer =>
          ((peer.1, (send writer).1) :: (copies world (send writer).2 rest).1,
            (copies world (send writer).2 rest).2)

theorem groupLoop_copies (item : Item) (world : World) (friends : List User)
    (writer : BinaryWriter) (current : World)
    (sessions : current.m_mapclient = world.m_mapclient) :
    sentIn (groupLoop item writer friends current).trace = (copies world writer friends).1 ∧
    (∃ new, (groupLoop item writer friends current).state.cache.m_listChatMsgCache =
        current.cache.m_listChatMsgCache ++ new ∧
      new.map (fun entry => (entry.userid, entry.msg)) = (copies world writer friends).2) ∧
    (groupLoop item writer friends current).state.cache.m_listNotifyMsgCache =
      current.cache.m_listNotifyMsgCache ∧
    ∃ last, (groupLoop item writer friends current).value = .ok last := by
  induction friends generalizing writer current with
  | nil => exact ⟨rfl, ⟨[], by simp [groupLoop], rfl⟩, rfl, writer, rfl⟩
  | cons iter rest ih =>
      have address : current.addressOf iter.userid = world.addressOf iter.userid := by
        simp only [World.addressOf, World.getSessionByID, sessions]
      -- the loop goes on with the writer that the delivery left
      have unfolded : groupLoop item writer (iter :: rest) =
          (deliver .chat iter.userid item writer writer.toBytes >>= fun left =>
            groupLoop item left rest) := rfl
      cases found : world.addressOf iter.userid with
      | none =>
          have head := deliver_offline .chat iter.userid item writer writer.toBytes current
            (address.trans found)
          obtain ⟨sent, ⟨new, grown, stored⟩, notices, last, ended⟩ := ih writer
            { current with
              cache := current.cache.addMsgCache .chat ⟨iter.userid, writer.toBytes, item⟩ } sessions
          rw [unfolded, Act.bind_ok _ _ _ writer (by rw [head]), head]
          simp only [copies, found]
          refine ⟨by simpa [sentIn] using sent,
            ⟨⟨iter.userid, writer.toBytes, item⟩ :: new, ?_, by simp [stored]⟩, notices, last, ended⟩
          rw [grown]
          simp [MsgCacheManager.addMsgCache, MsgCacheManager.setList, MsgCacheManager.list]
      | some peer =>
          have head := deliver_online .chat iter.userid item writer writer.toBytes current peer
            (address.trans found)
          obtain ⟨sent, stored, notices, last, ended⟩ := ih (send writer).2 current sessions
          rw [unfolded, Act.bind_ok _ _ _ (send writer).2 (by rw [head]), head]
          simp only [copies, found]
          exact ⟨by simpa [sentIn] using sent, stored, notices, last, ended⟩

/-- One copy of `message` for each member: a frame when online, else a stored text. -/
def sentCopies (world : World) (message : Bytes) (friends : List User) : List (Bytes × Bytes) :=
  friends.filterMap fun iter =>
    (world.addressOf iter.userid).map fun peer =>
      (peer.1, frameHeader message.length ++ message)

def storedCopies (world : World) (message : Bytes) (friends : List User) : List (Int32 × Bytes) :=
  (friends.filter fun iter => (world.addressOf iter.userid).isNone).map fun iter =>
    (iter.userid, message)

/-- As long as nobody before the last member is online, no `Send` touches the
writer before it is used for the last time. -/
theorem copies_alike (world : World) (writer : BinaryWriter) (friends : List User)
    (away : ∀ iter ∈ friends.dropLast, world.addressOf iter.userid = none) :
    copies world writer friends =
      (sentCopies world writer.toBytes friends, storedCopies world writer.toBytes friends) := by
  induction friends with
  | nil => rfl
  | cons iter rest ih =>
      cases rest with
      | nil =>
          cases found : world.addressOf iter.userid with
          | none => simp [copies, sentCopies, storedCopies, found]
          | some peer => simp [copies, sentCopies, storedCopies, found, send_exact]
      | cons next others =>
          have first := away iter (by simp)
          have tail := ih fun other member => away other (by simp [member])
          rw [copies, first, tail]
          simp [sentCopies, storedCopies, first]

/-- A member who is online before the last one leaves ten header bytes in the
writer, and the next member gets those. -/
theorem copies_spoiled (world : World) (writer : BinaryWriter) (friends : List User) (iter : User)
    (early : iter ∈ friends.dropLast) (online : world.addressOf iter.userid ≠ none) :
    (∃ sent ∈ (copies world writer friends).1, sent.2.length = 20) ∨
      ∃ stored ∈ (copies world writer friends).2, stored.2.length = 10 := by
  induction friends generalizing writer with
  | nil => simp at early
  | cons head rest ih =>
      cases rest with
      | nil => simp at early
      | cons next others =>
          cases found : world.addressOf head.userid with
          | none =>
              have later : iter ∈ (next :: others).dropLast := by
                rcases List.mem_cons.mp (by simpa using early) with here | there
                · exact absurd (here ▸ found) online
                · exact there
              rw [copies, found]
              rcases ih writer later with sent | ⟨stored, member, size⟩
              · exact Or.inl sent
              · exact Or.inr ⟨stored, List.mem_cons_of_mem _ member, size⟩
          | some peer =>
              -- here the header of the frame just sent is all that is left
              have left : (send writer).2.toBytes.length = 10 := by
                rw [send_exact]
                exact frameHeader_length _
              simp only [copies, found]
              cases also : world.addressOf next.userid with
              | none => exact Or.inr ⟨(next.userid, (send writer).2.toBytes), by simp, left⟩
              | some other =>
                  refine Or.inl ⟨(other.1, (send (send writer).2).1), by simp, ?_⟩
                  rw [send_exact (send writer).2, List.length_append, frameHeader_length, left]

end Copies

/-! The handler. -/
section Handler

variable (me : ClientSession) (data : Bytes) (world : World)

/-- Every cached member of the group gets exactly one copy, nobody else gets
one, and all copies carry the encoding of the message. -/
def UniformFanout : Prop :=
  let friends := world.store.getFriendInfoByUserId me.m_target
  let outcome := onChatResponse me data world
  (sentIn outcome.trace).Perm (sentCopies world (payload me data) friends) ∧
  (∃ new, outcome.state.cache.m_listChatMsgCache = world.cache.m_listChatMsgCache ++ new ∧
    (new.map fun entry => (entry.userid, entry.msg)).Perm
      (storedCopies world (payload me data) friends)) ∧
  outcome.state.cache.m_listNotifyMsgCache = world.cache.m_listNotifyMsgCache

theorem onChat_copies (group : ¬ me.m_target < GROUPID_BOUBDARY) :
    let friends := world.store.getFriendInfoByUserId me.m_target
    let outcome := onChatResponse me data world
    sentIn outcome.trace = (copies world (chatWriter me data) friends).1 ∧
    (∃ new, outcome.state.cache.m_listChatMsgCache = world.cache.m_listChatMsgCache ++ new ∧
      new.map (fun entry => (entry.userid, entry.msg)) =
        (copies world (chatWriter me data) friends).2) ∧
    outcome.state.cache.m_listNotifyMsgCache = world.cache.m_listNotifyMsgCache := by
  intro friends outcome
  obtain ⟨sent, stored, notices, last, ended⟩ := groupLoop_copies
    ⟨.group, me.m_seq, me.userID, data⟩ world friends (chatWriter me data)
    (logged me data world) rfl
  have unfolded : outcome = _ := onChat_group me data world group
  rw [unfolded, Act.bind_ok _ _ _ last ended]
  simp only [Act.pure_apply, List.append_nil]
  exact ⟨sent, stored, notices⟩

theorem fanout_alike (group : ¬ me.m_target < GROUPID_BOUBDARY) (short : data.length < 2 ^ 31)
    (away : ∀ iter ∈ (world.store.getFriendInfoByUserId me.m_target).dropLast,
      world.addressOf iter.userid = none) : UniformFanout me data world := by
  obtain ⟨sent, ⟨new, grown, stored⟩, notices⟩ := onChat_copies me data world group
  rw [copies_alike world _ _ away, chatWriter_toBytes me data short] at sent stored
  exact ⟨List.Perm.of_eq sent, ⟨new, grown, List.Perm.of_eq stored⟩, notices⟩

theorem fanout_spoiled (group : ¬ me.m_target < GROUPID_BOUBDARY) (short : data.length < 2 ^ 31)
    (iter : User) (early : iter ∈ (world.store.getFriendInfoByUserId me.m_target).dropLast)
    (online : world.addressOf iter.userid ≠ none) : ¬ UniformFanout me data world := by
  rintro ⟨sentAlike, ⟨new, grown, storedAlike⟩, -⟩
  obtain ⟨sent, ⟨made, also, stored⟩, -⟩ := onChat_copies me data world group
  have size := payload_length me data
  have bound := (encodeString_length_le data short).2
  -- a copy of ten header bytes is shorter than every chat payload
  obtain rfl : new = made := List.append_cancel_left (grown.symm.trans also)
  rcases copies_spoiled world (chatWriter me data) _ iter early online with
    ⟨copy, member, short⟩ | ⟨copy, member, short⟩
  · have expected := (sentAlike.mem_iff).mp (sent ▸ member)
    obtain ⟨other, -, address⟩ := List.mem_filterMap.mp expected
    obtain ⟨peer, -, rfl⟩ := Option.map_eq_some_iff.mp address
    simp only [List.length_append, frameHeader_length] at short
    omega
  · have expected := (storedAlike.mem_iff).mp (stored ▸ member)
    obtain ⟨other, -, rfl⟩ := List.mem_map.mp expected
    simp only at short
    omega

/-- The fan-out of a group chat is uniform exactly when no member before the
last one is online. -/
theorem fanout_uniform_iff (mem : Nat → UInt8) (msgbuff : Bytes) (cmd m_seq : Int32)
    (rest : BinaryReader) (decoded : decodeFrame mem msgbuff = some (cmd, m_seq, data, rest))
    (group : me.m_target ≥ GROUPID_BOUBDARY) :
    UniformFanout me data world ↔
      ∀ iter ∈ (world.store.getFriendInfoByUserId me.m_target).dropLast,
        world.addressOf iter.userid = none := by
  have short := decodeFrame_short mem msgbuff data cmd m_seq rest decoded
  constructor
  · intro uniform iter early
    by_contra online
    exact fanout_spoiled me data world (not_lt.mpr group) short iter early online uniform
  · exact fanout_alike me data world (not_lt.mpr group) short

/-- `a` creates a group, `b` joins it, and both stay online. -/
def sampleRun : List Event :=
  [.connect [1] 0, sampleFrame [1] .register 1 (requestText (registers "a" "p")),
    sampleFrame [1] .login 2 (requestText (logsIn "a" "p")),
    sampleFrame [1] .creategroup 3 (requestText (createsGroup "g")),
    .connect [2] 0, sampleFrame [2] .register 1 (requestText (registers "b" "q")),
    sampleFrame [2] .login 2 (requestText (logsIn "b" "q")),
    sampleFrame [2] .operatefriend 3 (requestText (befriends 268435456))]

def sampleWorld : World :=
  (run (step sampleEnv) (boot sampleEnv {} (fun _ => true) 0) sampleRun).2

/-- The session of `a` when it handles a chat to the group. -/
def sampleSession : ClientSession :=
  { (sampleWorld.m_mapclient.find? [1]).getD { m_target := 0 } with
    m_seq := 4, m_target := 268435456 }

def sampleMember : User := ((sampleWorld.store.getFriendInfoByUserId 268435456).head?).getD {}

theorem fanout_uniform_iff_two_members :
    sampleSession.m_target ≥ GROUPID_BOUBDARY ∧
    (UniformFanout sampleSession (text "hi") sampleWorld ↔
      ∀ iter ∈ (sampleWorld.store.getFriendInfoByUserId sampleSession.m_target).dropLast,
        sampleWorld.addressOf iter.userid = none) :=
  ⟨by decide, fanout_uniform_iff sampleSession (text "hi") sampleWorld (fun _ => 0)
    (((header .chat 4).writeString (text "hi")).writeInt 268435456).toBytes 1100 4
    ⟨(((header .chat 4).writeString (text "hi")).writeInt 268435456).toBytes, 11⟩
    (by decide +kernel) (by decide)⟩

theorem two_members_online_differ : ¬ UniformFanout sampleSession (text "hi") sampleWorld :=
  fanout_spoiled sampleSession (text "hi") sampleWorld (by decide) (by decide) sampleMember
    (by decide +kernel) (by decide +kernel)

end Handler

end EdoyumIM.GroupFanout
