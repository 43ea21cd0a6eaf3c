import EdoyumIM.ChatMessages

/-!
Who a session speaks for. `identities` reads the run only: a login that matches
a cached record sets the identity of its connection, and nothing else does. The
session objects agree with it after every run, and the direct chats that a frame
sends or stores carry that identity, the frame's own sequence number and data.
-/

namespace EdoyumIM.SenderIdentity

open MachineWords FieldCodec JsonValue OrderedStore Effects UserStore ChatWorld ChatServer
open HandlerSteps ChatMessages
open SessionFraming (send send_exact frameHeader)

section Histories

variable (env : Env)

/-- How an event changes the identities of the connections. -/
def identify (world : World) (ids : Bytes → Int32) : Event → Bytes → Int32
  | .connect _ _ => ids
  | .disconnect conn => if world.up then Function.update ids conn (-1) else ids
  | .frame conn msgbuff mem _ =>
      if world.up ∧ (world.m_mapclient.find? conn).isSome then
        match loginData mem msgbuff with
        | none => ids
        | some data =>
            match loginMatches env data world.store with
            | none => ids
            | some (_, _, user) => Function.update ids conn user.userid
      else ids

def identities : World → (Bytes → Int32) → List Event → Bytes → Int32
  | _, ids, [] => ids
  | world, ids, event :: rest =>
      identities (step env world event).2 (identify env world ids event) rest

/-- The id a connection's session holds, if it has a session. -/
def ownerOf (world : World) (conn : Bytes) : Option Int32 :=
  (world.m_mapclient.find? conn).map ClientSession.userID

/-- The id a connection's session holds; a connection without one counts as not
logged in. -/
def heldId (world : World) (conn : Bytes) : Int32 :=
  ((world.m_mapclient.find? conn).map ClientSession.userID).getD (-1)

def Tracks (world : World) (ids : Bytes → Int32) : Prop := ∀ conn, heldId world conn = ids conn

end Histories

/-! Actions other than a login leave every session and its id alone. -/
section Ids

def KeepsOwners (before : World) (_trace : List Label) (after : World) : Prop :=
  ∀ conn, ownerOf after conn = ownerOf before conn

def KeepsIds (before : World) (_trace : List Label) (after : World) : Prop :=
  ∀ conn, heldId after conn = heldId before conn

theorem keepsOwners_composable : Composable KeepsOwners where
  nothing _ _ := rfl
  sequence one other conn := (other conn).trans (one conn)

theorem ownerOf_edit (conn other : Bytes) (change : ClientSession → ClientSession)
    (keepsUser : ∀ session, (change session).m_user = session.m_user) (world : World) :
    ownerOf (world.modifySession conn change) other = ownerOf world other := by
  rw [ownerOf, World.modifySession, OrderedMap.find?_modify, ownerOf]
  cases world.m_mapclient.find? other with
  | none => rfl
  | some session =>
      by_cases here : other = conn
      · simp [here, ClientSession.userID, keepsUser]
      · simp [here]

theorem deliver_keepsOwners (channel : Channel) (target : Int32) (item : Item)
    (writer : BinaryWriter) (cached : Bytes) :
    Keeps KeepsOwners (deliver channel target item writer cached) := by
  intro world other
  cases found : world.addressOf target with
  | none => rw [deliver_offline _ _ _ _ _ world found]; rfl
  | some peer => rw [deliver_online _ _ _ _ _ world peer found]

theorem basic_keepsOwners {kind : Option MsgType} (me : ClientSession) (conn data : Bytes)
    {α : Type} {command : Handler α}
    (basic : Basic me kind conn data α command) : Keeps KeepsOwners command := by
  cases basic with
  | look question blind => exact fun _ _ => rfl
  | reply bytes => exact fun _ _ => rfl
  | status peer bytes => exact fun _ _ => rfl
  | ask call => exact fun _ _ => rfl
  | edit change keepsUser blind =>
      exact fun world other => ownerOf_edit conn other change keepsUser world
  | direct target person => exact deliver_keepsOwners _ _ _ _ _
  | group target writer => exact deliver_keepsOwners _ _ _ _ _
  | notify type target outbuf => exact deliver_keepsOwners _ _ _ _ _

theorem ownerOf_loggedIn (conn other username password : Bytes) (user : User) (world : World)
    (present : (world.m_mapclient.find? conn).isSome) :
    ownerOf (loggedIn conn world username password user) other =
      if other = conn then some user.userid else ownerOf world other := by
  rw [ownerOf, loggedIn, World.modifySession, OrderedMap.find?_modify, ownerOf]
  by_cases here : other = conn
  · subst here
    obtain ⟨session, found⟩ := Option.isSome_iff_exists.mp present
    simp [found, enter, ClientSession.userID]
  · cases world.m_mapclient.find? other <;> simp [here]

theorem process_keepsOwners (env : Env) (me : ClientSession) (conn : Bytes) (mem : Nat → UInt8)
    (garbage : Int32) (msgbuff : Bytes) (other : loginData mem msgbuff = none) :
    Keeps KeepsOwners (process env me conn mem garbage msgbuff) := by
  cases decoded : decodeFrame mem msgbuff with
  | none =>
      exact (process_undecoded env me conn mem garbage msgbuff decoded []).keeps
        keepsOwners_composable (basic_keepsOwners me conn [])
  | some parts =>
      obtain ⟨cmd, m_seq, data, rest⟩ := parts
      have kind : MsgType.ofCode cmd ≠ some .login := by
        intro login
        simp [loginData, decoded, login] at other
      exact (process_built env me conn mem garbage msgbuff cmd m_seq data rest decoded kind).keeps
        keepsOwners_composable (basic_keepsOwners _ conn data)

theorem process_keepsIds (env : Env) (me : ClientSession) (conn : Bytes) (mem : Nat → UInt8)
    (garbage : Int32) (msgbuff : Bytes) (other : loginData mem msgbuff = none) :
    Keeps KeepsIds (process env me conn mem garbage msgbuff) := fun world peer =>
  congrArg (Option.getD · (-1))
    (process_keepsOwners env me conn mem garbage msgbuff other world peer)

/-- A login request gives its connection the id of the record it matches. -/
theorem process_loginOwners (env : Env) (me : ClientSession) (conn : Bytes) (mem : Nat → UInt8)
    (garbage : Int32) (msgbuff data : Bytes) (world : World)
    (login : loginData mem msgbuff = some data)
    (present : (world.m_mapclient.find? conn).isSome) (other : Bytes) :
    ownerOf (process env me conn mem garbage msgbuff world).state other =
      match loginMatches env data world.store with
      | none => ownerOf world other
      | some (_, _, user) => if other = conn then some user.userid else ownerOf world other := by
  obtain ⟨cmd, m_seq, rest, decoded, kind⟩ := loginData_some mem msgbuff data login
  let read := world.modifySession conn fun session => { session with m_seq := m_seq }
  have same : ownerOf read other = ownerOf world other :=
    ownerOf_edit conn other (fun session => { session with m_seq := m_seq }) (fun _ => rfl) world
  have still : (read.m_mapclient.find? conn).isSome := by
    simpa [read, World.modifySession, OrderedMap.find?_modify] using present
  rw [(process_login_outcome env me conn mem garbage msgbuff cmd m_seq data rest decoded kind world).2]
  rcases login_cases env { me with m_seq := m_seq } conn data read with
    ⟨username, password, user, matched, granted⟩ | ⟨refused, unchanged, -⟩
  · obtain ⟨_, _, -, -, state⟩ :=
      logIn_outcome env { me with m_seq := m_seq } conn read username password user
    have matched' : loginMatches env data world.store = some (username, password, user) := matched
    rw [granted, state, matched', ownerOf_loggedIn conn other username password user read still, same]
  · have refused' : loginMatches env data world.store = none := refused
    rw [unchanged, refused', same]

theorem frame_tracks (env : Env) (me : ClientSession) (conn : Bytes) (mem : Nat → UInt8)
    (garbage : Int32) (msgbuff : Bytes) (world : World) (ids : Bytes → Int32)
    (tracks : Tracks world ids) (up : world.up)
    (present : (world.m_mapclient.find? conn).isSome) :
    Tracks (process env me conn mem garbage msgbuff world).state
      (identify env world ids (.frame conn msgbuff mem garbage)) := by
  intro other
  rw [identify, if_pos ⟨up, present⟩]
  cases login : loginData mem msgbuff with
  | none =>
      exact (process_keepsIds env me conn mem garbage msgbuff login world other).trans (tracks other)
  | some data =>
      have owner := process_loginOwners env me conn mem garbage msgbuff data world login present other
      dsimp only
      cases granted : loginMatches env data world.store with
      | none =>
          rw [granted] at owner
          exact (congrArg (Option.getD · (-1)) owner).trans (tracks other)
      | some grant =>
          rw [granted] at owner
          refine (congrArg (Option.getD · (-1)) owner).trans ?_
          by_cases here : other = conn
          · simp [here]
          · simp only [here, ↓reduceIte, ne_eq, not_false_eq_true, Function.update_of_ne]
            exact tracks other

/-- One event moves the ids of the sessions as it moves the identities. -/
theorem step_tracks (env : Env) (world : World) (ids : Bytes → Int32) (tracks : Tracks world ids)
    (event : Event) : Tracks (step env world event).2 (identify env world ids event) := by
  intro other
  rw [step]
  by_cases up : world.up
  · rw [if_pos up]
    cases event with
    | connect conn junkTarget =>
        -- a session that is already there stays; a new one is not logged in
        rw [identify, ← tracks other, heldId, heldId, serve, OrderedMap.find?_insert]
        by_cases here : other = conn
        · subst here
          cases world.m_mapclient.find? other <;> simp [ClientSession.userID]
        · simp [here]
    | disconnect conn =>
        simp only [identify, up, if_true, serve, heldId, OrderedMap.find?_erase]
        by_cases here : other = conn
        · simp [here]
        · simpa [here, heldId] using tracks other
    | frame conn msgbuff mem garbage =>
        rw [serve]
        cases found : world.m_mapclient.find? conn with
        | none => simpa [identify, found] using tracks other
        | some me =>
            have ended : heldId (finish (process env me conn mem garbage msgbuff world)).2 other =
                heldId (process env me conn mem garbage msgbuff world).state other := by
              rw [finish]
              split <;> rfl
            exact ended.trans (frame_tracks env me conn mem garbage msgbuff world ids tracks up
              (by simp [found]) other)
  · cases event <;> simpa [identify, up] using tracks other

theorem run_tracks (env : Env) (events : List Event) (world : World) (ids : Bytes → Int32)
    (tracks : Tracks world ids) :
    Tracks (run (step env) world events).2 (identities env world ids events) := by
  induction events generalizing world ids with
  | nil => exact tracks
  | cons event rest ih => exact ih _ _ (step_tracks env world ids tracks event)

end Ids

/-! The payloads of direct chats. -/
section Payloads

/-- What a receiver reads field by field, whatever lies behind the payload. -/
def DecodesAs (message : Bytes) (fields : List Field) : Prop :=
  ∀ mem, ∃ last, readFields mem (fields.map Field.kind) (BinaryReader.ofBytes message) =
    .ok (some (fields, last))

theorem payload_decodes (me : ClientSession) (data : Bytes) (short : data.length < 2 ^ 31) :
    DecodesAs (payload me data) (chatFields me data) := by
  intro mem
  have bound := (encodeString_length_le data short).1
  have size := payload_length me data
  have read := readFields_encoded mem (chatFields me data) [] []
    (by simpa [chatFields, Field.Short] using short)
    (by rw [← payload, size, List.length_nil]; omega)
  simp only [List.nil_append, List.append_nil, List.length_nil] at read
  exact ⟨_, read⟩

/-- The direct chats that an event sent live or put into the cache, by target.
A frame on the wire has ten header bytes before its payload. -/
def directPayloads (before : World) (trace : List Label) (after : World) : List (Int32 × Bytes) :=
  (trace.filterMap fun label => match label with
    | .send _ bytes (.live .chat target item) =>
        if item.stem = .direct then some (target, bytes.drop 10) else none
    | _ => none) ++
  ((after.cache.m_listChatMsgCache.drop before.cache.m_listChatMsgCache.length).filterMap
    fun entry => if entry.item.stem = .direct then some (entry.userid, entry.msg) else none)

/-- Only direct chats of the given session and data are sent or stored, and the
cache is only appended to. -/
def Authored (me : ClientSession) (data : Bytes) (before : World) (trace : List Label)
    (after : World) : Prop :=
  (∃ new, after.cache.m_listChatMsgCache = before.cache.m_listChatMsgCache ++ new ∧
    ∀ entry ∈ new, entry.item.stem = .direct →
      entry.msg = payload { me with m_target := entry.userid } data) ∧
  ∀ peer bytes target item, .send peer bytes (.live .chat target item) ∈ trace →
    item.stem = .direct → bytes.drop 10 = payload { me with m_target := target } data

theorem authored_composable (me : ClientSession) (data : Bytes) :
    Composable (Authored me data) where
  nothing _ := ⟨⟨[], by simp⟩, by simp⟩
  sequence := by
    rintro before middle after first second ⟨⟨new, grown, good⟩, labels⟩
      ⟨⟨more, grown', good'⟩, labels'⟩
    refine ⟨⟨new ++ more, by rw [grown', grown, List.append_assoc], ?_⟩, ?_⟩
    · intro entry member
      exact (List.mem_append.mp member).elim (good entry) (good' entry)
    · intro peer bytes target item member
      exact (List.mem_append.mp member).elim (labels peer bytes target item)
        (labels' peer bytes target item)

theorem authored_still (me : ClientSession) (data : Bytes) (before after : World)
    (trace : List Label) (cache : after.cache = before.cache)
    (labels : ∀ peer bytes target item,
      Label.send peer bytes (.live .chat target item) ∉ trace) :
    Authored me data before trace after :=
  ⟨⟨[], by simp [cache]⟩, fun peer bytes target item member =>
    absurd member (labels peer bytes target item)⟩

/-- A delivery of something else than a direct chat, or of the session's own
direct chat. -/
theorem deliver_authored (me : ClientSession) (data : Bytes) (channel : Channel) (target : Int32)
    (item : Item) (writer : BinaryWriter) (cached : Bytes)
    (own : channel = .chat → item.stem = .direct →
      writer.toBytes = payload { me with m_target := target } data ∧
        cached = payload { me with m_target := target } data) :
    Keeps (Authored me data) (deliver channel target item writer cached) := by
  intro world
  cases found : world.addressOf target with
  | none =>
      rw [deliver_offline _ _ _ _ _ world found]
      refine ⟨?_, by simp⟩
      cases channel with
      | notify => exact ⟨[], by simp [MsgCacheManager.addMsgCache, MsgCacheManager.setList]⟩
      | chat =>
          refine ⟨[⟨target, cached, item⟩], rfl, fun entry member direct => ?_⟩
          obtain rfl := List.mem_singleton.mp member
          exact (own rfl direct).2
  | some peer =>
      rw [deliver_online _ _ _ _ _ world peer found]
      refine ⟨⟨[], by simp⟩, fun other bytes target' item' member direct => ?_⟩
      simp only [List.mem_cons, reduceCtorEq, Label.send.injEq, Cause.live.injEq, List.not_mem_nil,
        or_false, false_or] at member
      obtain ⟨-, rfl, rfl, rfl, rfl⟩ := member
      -- the frame is the ten header bytes and then the payload
      rw [send_exact, (own rfl direct).1]
      exact List.drop_left' (SessionFraming.frameHeader_length _)

theorem basic_authored {kind : Option MsgType} (me : ClientSession) (conn data : Bytes)
    (short : data.length < 2 ^ 31) {α : Type} {command : Handler α}
    (basic : Basic me kind conn data α command) :
    Keeps (Authored me data) command := by
  cases basic with
  | look question blind => exact fun world => authored_still _ _ _ _ _ rfl (by simp)
  | reply bytes => exact fun world => authored_still _ _ _ _ _ rfl (by simp)
  | status peer bytes => exact fun world => authored_still _ _ _ _ _ rfl (by simp)
  | ask call => exact fun world => authored_still _ _ _ _ _ rfl (by simp [ask])
  | edit change keepsUser blind => exact fun world => authored_still _ _ _ _ _ rfl (by simp)
  | direct target person =>
      have written := chatWriter_toBytes { me with m_target := target } data short
      exact deliver_authored me data _ _ _ _ _ fun _ _ => ⟨written, written⟩
  | group target writer => exact deliver_authored me data _ _ _ _ _ fun _ direct => by cases direct
  | notify type target outbuf =>
      exact deliver_authored me data _ _ _ _ _ fun chat => by cases chat

/-- A login stores nothing and sends no direct chat live. -/
theorem login_sends_none (env : Env) (me : ClientSession) (conn data : Bytes) (world : World) :
    ((onLoginResponse env me conn data world).state.cache.m_listChatMsgCache).length ≤
      world.cache.m_listChatMsgCache.length ∧
    ∀ peer bytes target item, Label.send peer bytes (.live .chat target item) ∉
      (onLoginResponse env me conn data world).trace := by
  rcases login_cases env me conn data world with
    ⟨username, password, user, -, granted⟩ | ⟨-, unchanged, answered⟩
  · obtain ⟨bytes, tells, plain, trace, state⟩ :=
      logIn_outcome env me conn world username password user
    rw [granted, state, trace]
    -- a login answers, replays from the caches and tells friends, and no more
    refine ⟨List.length_filter_le _ _, fun peer bytes target item member => ?_⟩
    simp only [List.mem_cons, reduceCtorEq, Label.send.injEq, List.mem_append, replayed,
      List.mem_map] at member
    rcases member with ⟨-, -, wrong⟩ | ⟨_, -, -, -, wrong⟩ | ⟨_, -, -, -, wrong⟩ | told
    · cases wrong
    · cases wrong
    · cases wrong
    · obtain ⟨_, _, wrong⟩ := plain _ told
      cases wrong
  · rw [unchanged]
    refine ⟨le_rfl, fun peer bytes target item member => ?_⟩
    obtain ⟨_, wrong⟩ := answered _ member
    cases wrong

theorem directPayloads_authored (me : ClientSession) (data : Bytes) (before after : World)
    (trace : List Label) (authored : Authored me data before trace after)
    (entry : Int32 × Bytes) (member : entry ∈ directPayloads before trace after) :
    entry.2 = payload { me with m_target := entry.1 } data := by
  obtain ⟨⟨new, grown, good⟩, labels⟩ := authored
  rcases List.mem_append.mp member with sent | stored
  · obtain ⟨label, inside, counted⟩ := List.mem_filterMap.mp sent
    split at counted
    · next peer bytes target item =>
      split_ifs at counted with direct
      obtain rfl := Option.some.inj counted
      exact labels peer bytes target item inside direct
    · cases counted
  · rw [grown, List.drop_left] at stored
    obtain ⟨cached, inside, counted⟩ := List.mem_filterMap.mp stored
    split_ifs at counted with direct
    obtain rfl := Option.some.inj counted
    exact good cached inside direct

theorem directPayloads_none (before after : World) (trace : List Label)
    (shrinks : after.cache.m_listChatMsgCache.length ≤ before.cache.m_listChatMsgCache.length)
    (labels : ∀ peer bytes target item,
      Label.send peer bytes (.live .chat target item) ∉ trace) :
    directPayloads before trace after = [] := by
  rw [directPayloads, List.drop_of_length_le shrinks, List.filterMap_nil, List.append_nil]
  refine List.filterMap_eq_nil_iff.mpr fun label member => ?_
  split
  · next peer bytes target item => exact absurd member (labels peer bytes target item)
  · rfl

theorem undecoded_silent (env : Env) (me : ClientSession) (conn : Bytes) (mem : Nat → UInt8)
    (garbage : Int32) (msgbuff : Bytes) (world : World)
    (undecoded : decodeFrame mem msgbuff = none) :
    (process env me conn mem garbage msgbuff world).trace = [] ∧
      (process env me conn mem garbage msgbuff world).state.cache = world.cache := by
  rcases undecoded_shape env me conn mem garbage msgbuff undecoded with dropped | ⟨m_seq, _, thrown⟩
  · rw [dropped]
    exact ⟨rfl, rfl⟩
  · rw [thrown]
    exact ⟨rfl, rfl⟩

/-- A login frame sends and stores no direct chat of its own. -/
theorem process_login_silent (env : Env) (me : ClientSession) (conn : Bytes) (mem : Nat → UInt8)
    (garbage : Int32) (msgbuff : Bytes) (cmd m_seq : Int32) (data : Bytes) (rest : BinaryReader)
    (world : World) (decoded : decodeFrame mem msgbuff = some (cmd, m_seq, data, rest))
    (login : MsgType.ofCode cmd = some .login) :
    directPayloads world (process env me conn mem garbage msgbuff world).trace
      (process env me conn mem garbage msgbuff world).state = [] := by
  let read := world.modifySession conn fun session => { session with m_seq := m_seq }
  have silent := login_sends_none env { me with m_seq := m_seq } conn data read
  obtain ⟨trace, state⟩ := process_login_outcome env me conn mem garbage msgbuff cmd m_seq data rest
    decoded login world
  rw [trace, state]
  exact directPayloads_none world _ _ silent.1 silent.2

theorem process_payloads (env : Env) (me : ClientSession) (conn : Bytes) (mem : Nat → UInt8)
    (garbage : Int32) (msgbuff : Bytes) (world : World) (entry : Int32 × Bytes)
    (member : entry ∈ directPayloads world
      (process env me conn mem garbage msgbuff world).trace
      (process env me conn mem garbage msgbuff world).state) :
    ∃ cmd m_seq data rest, decodeFrame mem msgbuff = some (cmd, m_seq, data, rest) ∧
      DecodesAs entry.2 [.int MsgType.chat.code, .int m_seq, .string data, .int me.userID,
        .int entry.1] := by
  cases decoded : decodeFrame mem msgbuff with
  | none =>
      obtain ⟨trace, cache⟩ := undecoded_silent env me conn mem garbage msgbuff world decoded
      rw [directPayloads_none _ _ _ (by rw [cache]) (by simp [trace])] at member
      cases member
  | some parts =>
      obtain ⟨cmd, m_seq, data, rest⟩ := parts
      have short := decodeFrame_short mem msgbuff data cmd m_seq rest decoded
      refine ⟨cmd, m_seq, data, rest, rfl, ?_⟩
      by_cases login : MsgType.ofCode cmd = some .login
      · have empty := process_login_silent env me conn mem garbage msgbuff cmd m_seq data rest world
          decoded login
        rw [empty] at member
        cases member
      -- the handler works for the session as the frame's sequence number leaves it
      · let mine : ClientSession := { me with m_seq := m_seq }
        have built : Built (Basic mine (MsgType.ofCode cmd) conn data) (process env me conn mem garbage msgbuff) :=
          process_built env me conn mem garbage msgbuff cmd m_seq data rest decoded login
        have authored : Authored mine data world
            (process env me conn mem garbage msgbuff world).trace
            (process env me conn mem garbage msgbuff world).state :=
          built.keeps (authored_composable mine data)
            (fun basic => basic_authored mine conn data short basic) world
        have text := directPayloads_authored mine data world _ _ authored entry member
        rw [text]
        exact payload_decodes { mine with m_target := entry.1 } data short

end Payloads

/-- After every run each session holds the identity that the run gives it, and
the direct chats that one more frame sends or stores decode as the chat command,
the frame's sequence number and data, that identity and the target used. -/
theorem sender_authentic (env : Env) (database : Database) (answers : Nat → Bool) (asked : Nat)
    (events : List Event) :
    let start := boot env database answers asked
    let world := (run (step env) start events).2
    let identity := identities env start (fun _ => -1) events
    (∀ conn session, world.m_mapclient.find? conn = some session →
      session.m_user.userid = identity conn) ∧
    ∀ conn msgbuff mem garbage,
      let handled := step env world (.frame conn msgbuff mem garbage)
      ∀ entry ∈ directPayloads world handled.1 handled.2,
        ∃ cmd m_seq data rest, decodeFrame mem msgbuff = some (cmd, m_seq, data, rest) ∧
          DecodesAs entry.2 [.int MsgType.chat.code, .int m_seq, .string data,
            .int (identity conn), .int entry.1] := by
  intro start world identity
  -- no connection has a session at the start, hence no identity
  have tracks : Tracks world identity :=
    run_tracks env events start (fun _ => -1) fun conn => rfl
  have holds : ∀ conn session, world.m_mapclient.find? conn = some session →
      session.m_user.userid = identity conn := by
    intro conn session found
    simpa [heldId, found, ClientSession.userID] using tracks conn
  refine ⟨holds, ?_⟩
  intro conn msgbuff mem garbage handled entry member
  have idle : directPayloads world [] world = [] :=
    directPayloads_none world world [] le_rfl (by simp)
  have result : handled = if world.up then serve env world (.frame conn msgbuff mem garbage)
      else ([], world) := rfl
  by_cases up : world.up
  · rw [if_pos up, serve] at result
    cases found : world.m_mapclient.find? conn with
    | none =>
        simp only [found] at result
        simp [result, idle] at member
    | some me =>
        simp only [found] at result
        have same : directPayloads world handled.1 handled.2 = directPayloads world
            (process env me conn mem garbage msgbuff world).trace
            (process env me conn mem garbage msgbuff world).state := by
          rw [result, finish]
          split <;> rfl
        rw [same] at member
        have sender : me.userID = identity conn := holds conn me found
        rw [← sender]
        exact process_payloads env me conn mem garbage msgbuff world entry member
  · rw [if_neg up] at result
    simp [result, idle] at member

/-- User `a` registers and logs in. -/
def sampleRun : List Event :=
  [.connect [1] 0, sampleFrame [1] .register 1 (requestText (registers "a" "p")),
    sampleFrame [1] .login 2 (requestText (logsIn "a" "p"))]

theorem sender_authentic_first_chat :
    let start := boot sampleEnv {} (fun _ => true) 0
    let world := (run (step sampleEnv) start sampleRun).2
    let handled := step sampleEnv world (sampleFrame [1] .chat 3 (text "hi") (encodeInt 2))
    identities sampleEnv start (fun _ => -1) sampleRun [1] = 1 ∧
    (directPayloads world handled.1 handled.2).map Prod.fst = [2] ∧
    ∀ entry ∈ directPayloads world handled.1 handled.2,
      ∃ m_seq data, DecodesAs entry.2 [.int MsgType.chat.code, .int m_seq, .string data,
        .int (identities sampleEnv start (fun _ => -1) sampleRun [1]), .int entry.1] := by
  refine ⟨by decide +kernel, by decide +kernel, fun entry member => ?_⟩
  obtain ⟨_, m_seq, data, _, -, decodes⟩ :=
    (sender_authentic sampleEnv {} (fun _ => true) 0 sampleRun).2 [1] _ _ _ entry member
  exact ⟨m_seq, data, decodes⟩

end EdoyumIM.SenderIdentity
