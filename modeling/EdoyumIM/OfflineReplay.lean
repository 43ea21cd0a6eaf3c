import EdoyumIM.ChatMessages

/-!
The two ways a message reaches a user: the frame sent at once when the user is
online, and the frame a later login replays from the cache. The cache holds the
whole payload of a chat but only the JSON text of a notification, and the replay
writes what it finds as one more string field. The frames differ in size, so
they never agree.
-/

namespace EdoyumIM.OfflineReplay

open MachineWords FieldCodec JsonValue OrderedStore Effects UserStore ChatWorld ChatServer
open HandlerSteps ChatMessages
open SessionFraming (send send_exact frameHeader frameHeader_length)

/-- The frames sent live to a user on a channel. -/
def liveFrames (channel : Channel) (target : Int32) (trace : List Label) : List Bytes :=
  trace.filterMap fun label => match label with
    | .send _ bytes (.live kind peer _) => if kind = channel ∧ peer = target then some bytes else none
    | _ => none

/-- The frames that the replay loop of a login sends in the world `after` beyond
those it would have sent in the world `before`. -/
def addedReplays (conn : Bytes) (channel : Channel) (target : Int32) (before after : World) :
    List Bytes :=
  (sentIn ((replay conn channel target after).trace.drop
    (replay conn channel target before).trace.length)).map Prod.snd

/-- A request puts the same frames on its target's connection whether the target
was online, or offline and logs in later on `conn`. -/
def ReplayAgrees (request : Handler Unit) (channel : Channel) (target : Int32)
    (online offline : World) (conn : Bytes) : Prop :=
  liveFrames channel target (request online).trace =
    addedReplays conn channel target offline (request offline).state

section Frames

variable (channel : Channel) (target : Int32) (item : Item) (writer : BinaryWriter)
  (cached : Bytes)

theorem liveFrames_deliver (online : World) (present : online.addressOf target ≠ none) :
    liveFrames channel target (deliver channel target item writer cached online).trace =
      [(send writer).1] := by
  obtain ⟨peer, found⟩ := Option.ne_none_iff_exists'.mp present
  rw [deliver_online channel target item writer cached online peer found]
  simp [liveFrames]

theorem addedReplays_deliver (before offline : World) (caches : offline.cache = before.cache)
    (away : offline.addressOf target = none) (conn : Bytes) :
    addedReplays conn channel target before
        (deliver channel target item writer cached offline).state =
      [(send (BinaryWriter.fresh.writeString cached)).1] := by
  rw [deliver_offline channel target item writer cached offline away]
  simp [addedReplays, replay_outcome, MsgCacheManager.addMsgCache, sentIn, caches]

end Frames

section Sizes

theorem send_length (writer : BinaryWriter) :
    (send writer).1.length = 10 + writer.toBytes.length := by
  rw [send_exact, List.length_append, frameHeader_length]

theorem writeString_length (cached : Bytes) :
    (BinaryWriter.fresh.writeString cached).toBytes.length = (encodeString cached).length := by
  have written := writeString_buffer .fresh cached
  simpa [BinaryWriter.toBytes, BinaryWriter.fresh] using congrArg List.length written

/-- A stored chat payload is longer as a string field than it was as a payload. -/
theorem chat_sizes_differ (me : ClientSession) (data : Bytes) (short : data.length < 2 ^ 31) :
    (send (chatWriter me data)).1 ≠
      (send (BinaryWriter.fresh.writeString (chatWriter me data).toBytes)).1 := by
  intro same
  have sizes := congrArg List.length same
  rw [send_length, send_length, writeString_length, chatWriter_toBytes me data short] at sizes
  have bound := (encodeString_length_le data short).1
  have total := payload_length me data
  -- the replay puts at least one length byte in front of the stored payload
  obtain ⟨count, positive, -, -, emitted⟩ :=
    compress_groups (payload me data).length (by omega)
  have wrapped : (encodeString (payload me data)).length = count + (payload me data).length := by
    rw [encodeString, emitted, List.length_append, groups_length]
  omega

/-- A replayed notification lacks the command and the sequence number. -/
theorem notice_sizes_differ (m_seq : Int32) (outbuf : Bytes) :
    (send ((header .operatefriend m_seq).writeString outbuf)).1 ≠
      (send (BinaryWriter.fresh.writeString outbuf)).1 := by
  intro same
  have sizes := congrArg List.length same
  -- command and sequence number are eight bytes that the cache does not hold
  have front : (header .operatefriend m_seq).m_buffer.length = 8 := by
    rw [header_buffer, List.length_append, encodeInt_length, encodeInt_length]
  have live : ((header .operatefriend m_seq).writeString outbuf).toBytes.length =
      8 + (encodeString outbuf).length := by
    rw [BinaryWriter.toBytes, writeString_buffer, List.length_append, front]
  rw [send_length, send_length, writeString_length, live] at sizes
  omega

end Sizes

section Requests

theorem chat_disagrees (me : ClientSession) (data : Bytes) (short : data.length < 2 ^ 31)
    (person : me.m_target < GROUPID_BOUBDARY) (online offline : World)
    (present : online.addressOf me.m_target ≠ none) (away : offline.addressOf me.m_target = none)
    (conn : Bytes) :
    ¬ ReplayAgrees (onChatResponse me data) .chat me.m_target online offline conn := by
  intro agrees
  rw [ReplayAgrees, onChat_direct me data online person, onChat_direct me data offline person,
    (Act.bind_pure_map _ _ _).1, (Act.bind_pure_map _ _ _).2.1,
    liveFrames_deliver _ _ _ _ _ (logged me data online) present,
    addedReplays_deliver _ _ _ _ _ offline (logged me data offline) rfl away conn] at agrees
  exact chat_sizes_differ me data short (List.cons.inj agrees).1

theorem notice_disagrees (env : Env) (me : ClientSession) (type target : Int32) (root : Json)
    (online offline : World) (present : online.addressOf target ≠ none)
    (away : offline.addressOf target = none) (conn : Bytes) :
    ¬ ReplayAgrees (notifyTarget env me type target root) .notify target online offline conn := by
  intro agrees
  rw [ReplayAgrees, notifyTarget, (Act.bind_pure_map _ _ _).1, (Act.bind_pure_map _ _ _).2.1,
    liveFrames_deliver _ _ _ _ _ online present,
    addedReplays_deliver _ _ _ _ _ offline offline rfl away conn] at agrees
  exact notice_sizes_differ me.m_seq (env.toStyledString root) (List.cons.inj agrees).1

/-- No direct chat and no friend notification is replayed as the frame that
would have been sent live. -/
theorem replay_never_agrees (env : Env) (me : ClientSession) (mem : Nat → UInt8)
    (msgbuff data : Bytes) (cmd m_seq : Int32) (rest : BinaryReader)
    (decoded : decodeFrame mem msgbuff = some (cmd, m_seq, data, rest))
    (type target : Int32) (root : Json) (online offline : World) (conn : Bytes)
    (present : online.addressOf target ≠ none) (away : offline.addressOf target = none) :
    (target < GROUPID_BOUBDARY →
      ¬ ReplayAgrees (onChatResponse { me with m_target := target } data) .chat target
        online offline conn) ∧
    ¬ ReplayAgrees (notifyTarget env me type target root) .notify target online offline conn :=
  ⟨fun person => chat_disagrees { me with m_target := target } data
      (decodeFrame_short mem msgbuff data cmd m_seq rest decoded) person online offline present
      away conn,
    notice_disagrees env me type target root online offline present away conn⟩

/-- A server on which the first registered user is logged in, and one on which
nobody is. -/
def sampleOnline : World :=
  (run (step sampleEnv) (boot sampleEnv {} (fun _ => true) 0)
    [.connect [2] 0, sampleFrame [2] .register 1 (requestText (registers "b" "q")),
      sampleFrame [2] .login 2 (requestText (logsIn "b" "q"))]).2

def sampleOffline : World := boot sampleEnv {} (fun _ => true) 0

def sampleChat : Bytes := (((header .chat 4).writeString (text "hi")).writeInt 1).toBytes

theorem replay_never_agrees_first_user :
    sampleOnline.addressOf 1 ≠ none ∧ sampleOffline.addressOf 1 = none ∧
    ¬ ReplayAgrees (onChatResponse { m_seq := 4, m_target := 1 } (text "hi")) .chat 1
      sampleOnline sampleOffline [3] ∧
    ¬ ReplayAgrees (notifyTarget sampleEnv { m_seq := 4, m_target := 1 } 1 1
      (.ofMembers (friendInfo (-1) 2 []))) .notify 1 sampleOnline sampleOffline [3] := by
  have present : sampleOnline.addressOf 1 ≠ none := by decide +kernel
  have never := replay_never_agrees sampleEnv { m_seq := 4, m_target := 1 } (fun _ => 0)
    sampleChat (text "hi") 1100 4 ⟨sampleChat, 11⟩ (by decide +kernel) 1 1
    (.ofMembers (friendInfo (-1) 2 [])) sampleOnline sampleOffline [3] present rfl
  exact ⟨present, rfl, never.1 (by decide), never.2⟩

/-- The frames of the chat of the sample: the replayed payload is the live one
behind a length byte, and its first field reads as another command. -/
theorem first_user_frames_differ :
    liveFrames .chat 1
        (onChatResponse { m_seq := 4, m_target := 1 } (text "hi") sampleOnline).trace =
      [frameHeader 19 ++ [0, 0, 4, 76, 0, 0, 0, 4, 2, 104, 105, 255, 255, 255, 255, 0, 0, 0, 1]] ∧
    addedReplays [3] .chat 1 sampleOffline
        (onChatResponse { m_seq := 4, m_target := 1 } (text "hi") sampleOffline).state =
      [frameHeader 20 ++
        [19, 0, 0, 4, 76, 0, 0, 0, 4, 2, 104, 105, 255, 255, 255, 255, 0, 0, 0, 1]] ∧
    ¬ ReplayAgrees (onChatResponse { m_seq := 4, m_target := 1 } (text "hi")) .chat 1
      sampleOnline sampleOffline [3] := by
  have live : liveFrames .chat 1
      (onChatResponse { m_seq := 4, m_target := 1 } (text "hi") sampleOnline).trace =
    [frameHeader 19 ++ [0, 0, 4, 76, 0, 0, 0, 4, 2, 104, 105, 255, 255, 255, 255, 0, 0, 0, 1]] := by
    decide +kernel
  have replays : addedReplays [3] .chat 1 sampleOffline
      (onChatResponse { m_seq := 4, m_target := 1 } (text "hi") sampleOffline).state =
    [frameHeader 20 ++
      [19, 0, 0, 4, 76, 0, 0, 0, 4, 2, 104, 105, 255, 255, 255, 255, 0, 0, 0, 1]] := by
    decide +kernel
  refine ⟨live, replays, fun agrees => ?_⟩
  rw [ReplayAgrees, live, replays] at agrees
  exact absurd agrees (by decide +kernel)

end Requests

end EdoyumIM.OfflineReplay
