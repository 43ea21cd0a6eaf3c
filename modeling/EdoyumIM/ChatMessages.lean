import EdoyumIM.HandlerSteps

/-!
Chat messages: the bytes of a chat payload, and the two branches of
`OnChatResponse` behind the statement that logs the message.
-/

namespace EdoyumIM.ChatMessages

open MachineWords FieldCodec JsonValue OrderedStore Effects UserStore ChatWorld ChatServer
open HandlerSteps

/-! The payload of a chat message. -/
section Payload

def chatFields (me : ClientSession) (data : Bytes) : List Field :=
  [.int MsgType.chat.code, .int me.m_seq, .string data, .int me.userID, .int me.m_target]

/-- The encoding of command, sequence number, data, sender and target. -/
def payload (me : ClientSession) (data : Bytes) : Bytes := (chatFields me data).flatMap encodeField

theorem readString_short (mem : Nat → UInt8) (reader rest : BinaryReader) (data : Bytes)
    (read : reader.readString mem = .ok (data, rest)) : data.length < 2 ^ 31 := by
  simp only [BinaryReader.readString] at read
  split at read
  · cases read
  · next nonnegative =>
    -- `assign` threw unless the length read is nonnegative as an `int`
    rw [toInt32_negative_iff, not_le] at nonnegative
    injection read with pair
    rw [← (Prod.mk.inj pair).1]
    simpa using nonnegative

theorem decodeFrame_short (mem : Nat → UInt8) (msgbuff data : Bytes) (cmd m_seq : Int32)
    (rest : BinaryReader) (decoded : decodeFrame mem msgbuff = some (cmd, m_seq, data, rest)) :
    data.length < 2 ^ 31 := by
  rw [decodeFrame] at decoded
  split at decoded
  · cases decoded
  · next parts =>
    split at decoded
    · cases decoded
    · next read =>
      simp only [Option.some.injEq, Prod.mk.injEq] at decoded
      obtain ⟨-, -, rfl, -⟩ := decoded
      exact readString_short mem _ _ _ read

theorem header_buffer (kind : MsgType) (m_seq : Int32) :
    (header kind m_seq).m_buffer = encodeInt kind.code ++ encodeInt m_seq := by
  rw [header, writeInt_buffer _ _ (writeInt_synced _ _ fresh_synced (by simp [BinaryWriter.fresh])),
    writeInt_buffer _ _ fresh_synced]
  simp [BinaryWriter.fresh]

theorem payload_length (me : ClientSession) (data : Bytes) :
    (payload me data).length = 16 + (encodeString data).length := by
  simp [payload, chatFields, encodeField]
  omega

theorem chatWriter_toBytes (me : ClientSession) (data : Bytes) (short : data.length < 2 ^ 31) :
    (chatWriter me data).toBytes = payload me data := by
  have bound := (encodeString_length_le data short).1
  have size := payload_length me data
  apply written_fields (chatFields me data)
  rw [← payload, size]
  omega

end Payload

/-! The two branches. -/
section Branches

variable (me : ClientSession) (data : Bytes) (world : World)

def sentIn (trace : List Label) : List (Bytes × Bytes) :=
  trace.filterMap fun label => match label with
    | .send conn bytes _ => some (conn, bytes)
    | .accept .. => none

/-- The world after the message log was asked to take the message. -/
def logged : World :=
  { world with
    store := (Store.saveChatMsgToDb me.userID me.m_target data (world.answers world.asked)
      world.store).2
    asked := world.asked + 1 }

theorem onChat_direct (person : me.m_target < GROUPID_BOUBDARY) :
    onChatResponse me data world =
      (deliver .chat me.m_target ⟨.direct, me.m_seq, me.userID, data⟩ (chatWriter me data)
        (chatWriter me data).toBytes >>= fun _ => pure ()) (logged me data world) := by
  rw [onChatResponse, ask, Act.bind_ok _ _ _ _ rfl, if_pos person]
  rfl

def groupLoop (item : Item) (writer : BinaryWriter) (friends : List User) : Handler BinaryWriter :=
  friends.foldlM (fun writer iter => deliver .chat iter.userid item writer writer.toBytes) writer

theorem onChat_group (group : ¬ me.m_target < GROUPID_BOUBDARY) :
    onChatResponse me data world =
      (groupLoop ⟨.group, me.m_seq, me.userID, data⟩ (chatWriter me data)
        (world.store.getFriendInfoByUserId me.m_target) >>= fun _ => pure ())
        (logged me data world) := by
  rw [onChatResponse, ask, Act.bind_ok _ _ _ _ rfl, if_neg group]
  rfl

end Branches

end EdoyumIM.ChatMessages
