import EdoyumIM.FriendshipSides
import EdoyumIM.SenderIdentity

/-!
The notices that tell friends about a change: of a user who logs in or edits
the profile, or of a group that somebody joins or leaves. All four handlers end
with the same loop over the friends of the user or the group. A friend is one of
the ids of the friend set; ids without a record are passed over, and so are
friends without a session.
-/

namespace EdoyumIM.StatusFanout

open MachineWords FieldCodec JsonValue OrderedStore Effects UserStore UserLockstep
open ChatWorld ChatServer HandlerSteps GroupAccounts SenderIdentity Friendships FriendshipSides
open SessionFraming (send send_exact frameHeader_length)
open ChatMessages (header_buffer)

/-! The frames. -/
section Frames

variable (env : Env)

def statusBody (type : Int32) : Json :=
  if type = 1 then .ofMembers [("type", .ofInt32 1), ("onlinestatus", .ofInt32 1)]
  else if type = 2 then .ofMembers [("type", .ofInt32 2), ("onlinestatus", .ofInt32 0)]
  else if type = 3 then .ofMembers [("type", .ofInt32 3)]
  else .null

def statusFields (m_seq userid type : Int32) : List Field :=
  [.int MsgType.userstatuschange.code, .int m_seq, .string (env.toStyledString (statusBody type)),
    .int userid]

/-- The frame of `SendUserStatusChangeMsg` on a session with the given sequence number. -/
def statusFrame (m_seq userid type : Int32) : Bytes :=
  (send (((header .userstatuschange m_seq).writeString
    (env.toStyledString (statusBody type))).writeInt userid)).1

/-- A frame without its header. -/
def payloadOf (frame : Bytes) : Bytes := frame.drop 10

theorem payloadOf_send (write : BinaryWriter) : payloadOf (send write).1 = write.toBytes := by
  rw [payloadOf, send_exact]
  exact List.drop_left' (frameHeader_length _)

def commandOf (frame : Bytes) : Option Int32 :=
  (BinaryReader.ofBytes (payloadOf frame)).readInt.map Prod.fst

theorem commandOf_header (kind : MsgType) (m_seq : Int32) (data : Bytes) :
    commandOf (send ((header kind m_seq).writeString data)).1 = some kind.code := by
  have read := readInt_encoded [] (encodeInt m_seq ++ encodeString data) kind.code (by simp)
  rw [commandOf, payloadOf_send, BinaryWriter.toBytes, writeString_buffer, header_buffer,
    List.append_assoc]
  exact congrArg (Option.map Prod.fst) read

/-- The text of a notice can be sent at all. -/
def ShortStatus : Prop := ∀ type, (env.toStyledString (statusBody type)).length < 2 ^ 31

variable {env}

theorem statusFields_short (short : ShortStatus env) (m_seq userid type : Int32) :
    (∀ field ∈ statusFields env m_seq userid type, field.Short) ∧
      ((statusFields env m_seq userid type).flatMap encodeField).length < 2 ^ 32 := by
  have body := short type
  have bound := (encodeString_length_le _ body).1
  constructor
  · simpa [statusFields, Field.Short] using body
  · simp only [statusFields, List.flatMap_cons, List.flatMap_nil, List.length_append, encodeField,
      encodeInt_length, List.length_nil]
    omega

theorem statusFrame_payload (short : ShortStatus env) (m_seq userid type : Int32) :
    payloadOf (statusFrame env m_seq userid type) =
      (statusFields env m_seq userid type).flatMap encodeField := by
  rw [statusFrame, payloadOf_send]
  exact written_fields (statusFields env m_seq userid type)
    (statusFields_short short m_seq userid type).2

theorem statusFrame_decodes (short : ShortStatus env) (m_seq userid type : Int32) :
    DecodesAs (payloadOf (statusFrame env m_seq userid type))
      (statusFields env m_seq userid type) := by
  intro mem
  obtain ⟨fields, total⟩ := statusFields_short short m_seq userid type
  have read := read_fields mem (statusFields env m_seq userid type) [] fields total
  rw [List.append_nil] at read
  rw [statusFrame_payload short]
  exact ⟨_, read⟩

theorem commandOf_status (short : ShortStatus env) (m_seq userid type : Int32) :
    commandOf (statusFrame env m_seq userid type) = some MsgType.userstatuschange.code := by
  rw [commandOf, statusFrame_payload short]
  exact congrArg (Option.map Prod.fst) (readInt_encoded [] _ MsgType.userstatuschange.code (by simp))

end Frames

/-! Who is told. -/
section Recipients

def friendSet (world : World) (owner : Int32) : OrderedSet Int32 :=
  ((world.store.getUserInfoByUserId owner).map User.friends).getD OrderedSet.empty

/-- A friend of the user or the group who has a record. -/
def CachedFriend (world : World) (owner friend : Int32) : Prop :=
  friend ∈ (friendSet world owner).elems ∧ friend ∈ cachedIds world

instance (world : World) (owner friend : Int32) : Decidable (CachedFriend world owner friend) :=
  inferInstanceAs (Decidable (_ ∧ _))

/-- The sessions of the friends, each with its sequence number. -/
def recipients (world : World) (owner : Int32) : List (Bytes × Int32) :=
  (world.store.getFriendInfoByUserId owner).filterMap fun iter => world.addressOf iter.userid

variable (world : World) (owner : Int32)

theorem lookup_userid (id : Int32) (user : User)
    (found : world.store.getUserInfoByUserId id = some user) : user.userid = id := by
  simpa using List.find?_some found

theorem lookup_isSome (id : Int32) :
    (world.store.getUserInfoByUserId id).isSome = true ↔ id ∈ cachedIds world := by
  rw [Store.getUserInfoByUserId, List.find?_isSome, cachedIds, List.mem_map]
  simp only [decide_eq_true_eq]

theorem friendInfo_ids :
    (world.store.getFriendInfoByUserId owner).map User.userid =
      (friendSet world owner).elems.filter (· ∈ cachedIds world) := by
  rw [Store.getFriendInfoByUserId, ← friendSet, List.map_filterMap]
  induction (friendSet world owner).elems with
  | nil => rfl
  | cons id rest ih =>
      rw [List.filterMap_cons, List.filter_cons, ih]
      cases found : world.store.getUserInfoByUserId id with
      | none =>
          have absent : id ∉ cachedIds world := by
            rw [← lookup_isSome, found]
            exact Bool.false_ne_true
          simp [absent]
      | some user =>
          have present : id ∈ cachedIds world := by
            rw [← lookup_isSome, found]
            rfl
          simp [present, lookup_userid world id user found]

theorem addressOf_owner (id : Int32) (entry : Bytes × Int32)
    (found : world.addressOf id = some entry) : ownerOf world entry.1 = some id := by
  obtain ⟨iter, located, rfl⟩ := Option.map_eq_some_iff.mp found
  have member := List.mem_of_find?_eq_some located
  have holds := List.find?_some located
  rw [ownerOf, (OrderedMap.find?_iff iter.1 world.m_mapclient iter.2).mpr member]
  simpa using holds

theorem recipients_eq :
    recipients world owner =
      ((friendSet world owner).elems.filter (· ∈ cachedIds world)).filterMap world.addressOf := by
  rw [← friendInfo_ids, List.filterMap_map]
  rfl

/-- One entry of a list without duplicates is the only one with a hit. -/
theorem filter_only {α β : Type} (entries : List α) (look : α → Option β) (hit : β → Bool)
    (nodup : entries.Nodup) (one : α) (member : one ∈ entries) (found : β)
    (looked : look one = some found) (hits : hit found = true)
    (only : ∀ other ∈ entries, other ≠ one → ∀ entry, look other = some entry → hit entry = false) :
    (entries.filterMap look).filter hit = [found] := by
  induction entries with
  | nil => cases member
  | cons first rest ih =>
      obtain ⟨fresh, tail⟩ := List.nodup_cons.mp nodup
      have others : ∀ other ∈ rest, other ≠ one → ∀ entry, look other = some entry →
          hit entry = false := fun other later => only other (List.mem_cons_of_mem first later)
      rcases List.mem_cons.mp member with rfl | later
      · have none : (rest.filterMap look).filter hit = [] := by
          rw [List.filter_eq_nil_iff]
          intro entry inside
          obtain ⟨other, there, seen⟩ := List.mem_filterMap.mp inside
          rw [others other there (fun same => fresh (same ▸ there)) entry seen]
          exact Bool.false_ne_true
        rw [List.filterMap_cons, looked]
        simp [hits, none]
      · have apart : first ≠ one := fun same => fresh (same ▸ later)
        rw [List.filterMap_cons]
        cases seen : look first with
        | none => exact ih tail later others
        | some entry =>
            have misses := only first List.mem_cons_self apart entry seen
            simpa [misses] using ih tail later others

theorem recipients_hit (friend : Int32) (conn : Bytes) (m_seq : Int32)
    (known : CachedFriend world owner friend)
    (found : world.addressOf friend = some (conn, m_seq)) :
    (recipients world owner).filter (·.1 = conn) = [(conn, m_seq)] := by
  rw [recipients_eq]
  have ascending : (friendSet world owner).elems.Pairwise (· < ·) := (friendSet world owner).ascending
  have nodup : (friendSet world owner).elems.Nodup := ascending.imp fun before => before.ne
  refine filter_only _ _ _ (nodup.filter _) friend ?_ (conn, m_seq) found (by simp) ?_
  · simpa [CachedFriend] using known
  · intro other _ apart entry located
    apply decide_eq_false
    intro same
    have mine := addressOf_owner world friend _ found
    have theirs := addressOf_owner world other entry located
    rw [same, mine] at theirs
    exact apart (Option.some.inj theirs).symm

theorem recipients_miss (conn : Bytes)
    (missing : ∀ friend m_seq, CachedFriend world owner friend →
      world.addressOf friend ≠ some (conn, m_seq)) :
    (recipients world owner).filter (·.1 = conn) = [] := by
  rw [recipients_eq, List.filter_eq_nil_iff]
  intro entry inside
  obtain ⟨friend, member, located⟩ := List.mem_filterMap.mp inside
  have known : CachedFriend world owner friend := by simpa [CachedFriend] using member
  rw [decide_eq_true_eq]
  rintro rfl
  exact missing friend entry.2 known located

end Recipients

/-! The traces. A replayed message is no notice, whatever its bytes are. -/
section Traces

def statusFrames (conn : Bytes) (trace : List Label) : List Bytes :=
  trace.filterMap fun label => match label with
    | .send peer bytes cause =>
        match cause with
        | .replay .. => none
        | _ =>
            if peer = conn ∧ commandOf bytes = some MsgType.userstatuschange.code then some bytes
            else none
    | .accept .. => none

theorem statusFrames_append (conn : Bytes) (first second : List Label) :
    statusFrames conn (first ++ second) = statusFrames conn first ++ statusFrames conn second :=
  List.filterMap_append

variable (env : Env) (conn : Bytes)

theorem statusFrames_answer (me : ClientSession) (home : Bytes) (kind : MsgType) (response : Json)
    (world : World) (other : kind ≠ .userstatuschange) :
    statusFrames conn (answer env me home kind response world).trace = [] := by
  have codes : kind.code ≠ MsgType.userstatuschange.code := by
    cases kind <;> first | exact absurd rfl other | decide
  simp [answer, statusFrames, commandOf_header, codes]

theorem statusFrames_replay (home : Bytes) (channel : Channel) (userid : Int32) (world : World) :
    statusFrames conn (replay home channel userid world).trace = [] := by
  rw [replay_outcome]
  simp [statusFrames]

def notice (userid type : Int32) (peer : Bytes × Int32) : Label :=
  .send peer.1 (statusFrame env peer.2 userid type) .status

theorem tellFriends_outcome (owner userid type : Int32) (world : World) :
    tellFriends env owner userid type world =
      ⟨(recipients world owner).map (notice env userid type), world, .ok ()⟩ := by
  rw [tellFriends, look, Act.gets_bind, recipients, List.map_filterMap,
    List.filterMap_eq_flatMap_toList]
  apply Act.forM_still
  intro iter
  rw [Act.gets_bind]
  cases world.addressOf iter.userid with
  | none => rfl
  | some peer => rfl

variable {env}

theorem statusFrames_notices (short : ShortStatus env) (peers : List (Bytes × Int32))
    (userid type : Int32) :
    statusFrames conn (peers.map (notice env userid type)) =
      (peers.filter (·.1 = conn)).map fun peer => statusFrame env peer.2 userid type := by
  induction peers with
  | nil => rfl
  | cons peer rest ih =>
      rw [List.map_cons, statusFrames, List.filterMap_cons, ← statusFrames, ih, List.filter_cons]
      by_cases mine : peer.1 = conn
      · simp [notice, mine, commandOf_status short]
      · simp [notice, mine]

end Traces

/-! What the four handlers send. -/
section Handlers

/-- Each cached friend's session gets one notice, in the state `after`, and no
other session gets any. -/
structure FansOut (env : Env) (trace : List Label) (after : World) (owner type : Int32) :
    Prop where
  told : ∀ friend conn m_seq, CachedFriend after owner friend →
    after.addressOf friend = some (conn, m_seq) →
      statusFrames conn trace = [statusFrame env m_seq owner type] ∧
      DecodesAs (payloadOf (statusFrame env m_seq owner type)) (statusFields env m_seq owner type)
  untold : ∀ conn, (∀ friend m_seq, CachedFriend after owner friend →
    after.addressOf friend ≠ some (conn, m_seq)) → statusFrames conn trace = []

variable {env : Env} {owner type : Int32}

theorem fansOut_tell (short : ShortStatus env) (world : World) :
    FansOut env (tellFriends env owner owner type world).trace
      (tellFriends env owner owner type world).state owner type := by
  rw [tellFriends_outcome]
  constructor
  · intro friend conn m_seq known found
    refine ⟨?_, statusFrame_decodes short m_seq owner type⟩
    rw [statusFrames_notices conn short, recipients_hit world owner friend conn m_seq known found]
    rfl
  · intro conn missing
    rw [statusFrames_notices conn short, recipients_miss world owner conn missing]
    rfl

/-- A command without notices in front of the rest. -/
theorem fansOut_behind {α : Type} (first : Handler α) (next : α → Handler Unit) (world : World)
    (value : α) (returned : (first world).value = .ok value)
    (quiet : ∀ conn, statusFrames conn (first world).trace = [])
    (rest : FansOut env (next value (first world).state).trace
      (next value (first world).state).state owner type) :
    FansOut env ((first >>= next) world).trace ((first >>= next) world).state owner type := by
  rw [Act.bind_ok first next world value returned]
  constructor
  · intro friend conn m_seq known found
    rw [statusFrames_append, quiet, List.nil_append]
    exact rest.told friend conn m_seq known found
  · intro conn missing
    rw [statusFrames_append, quiet, List.nil_append]
    exact rest.untold conn missing

theorem fansOut_answer (short : ShortStatus env) (me : ClientSession) (home : Bytes)
    (kind : MsgType) (response : Json) (world : World) (other : kind ≠ .userstatuschange) :
    FansOut env
      ((answer env me home kind response >>= fun _ => tellFriends env owner owner type) world).trace
      ((answer env me home kind response >>= fun _ => tellFriends env owner owner type) world).state
      owner type :=
  fansOut_behind _ _ world () rfl
    (fun conn => statusFrames_answer env conn me home kind response world other)
    (fansOut_tell short world)

theorem login_fansOut (short : ShortStatus env) (me : ClientSession) (conn data : Bytes)
    (world : World) (username password : Bytes) (user : User)
    (grant : loginMatches env data world.store = some (username, password, user)) :
    FansOut env (onLoginResponse env me conn data world).trace
      (onLoginResponse env me conn data world).state user.userid 1 := by
  have granted : onLoginResponse env me conn data world =
      logIn env me conn username password user world := by
    rcases login_cases env me conn data world with ⟨_, _, _, same, granted⟩ | ⟨none, -, -⟩
    · rw [grant] at same
      obtain ⟨rfl, rfl, rfl⟩ : _ ∧ _ ∧ _ := by simpa using same
      exact granted
    · rw [grant] at none
      cases none
  rw [granted, logIn]
  -- the answer and both replays come before the loop
  refine fansOut_behind _ _ world () rfl (fun _ => rfl) ?_
  refine fansOut_behind _ _ _ () rfl (fun peer => statusFrames_answer env peer me conn _ _ _
    (by decide)) ?_
  refine fansOut_behind _ _ _ () (by rw [replay_outcome])
    (fun peer => statusFrames_replay peer conn _ _ _) ?_
  refine fansOut_behind _ _ _ () (by rw [replay_outcome])
    (fun peer => statusFrames_replay peer conn _ _ _) ?_
  exact fansOut_tell short _

theorem updateUserInfo_fansOut (short : ShortStatus env) (me : ClientSession) (conn data : Bytes)
    (world : World) (root : Json) (newuserinfo : User)
    (parsed : env.parse data = .ok (some root)) (checked : newUserInfo root = .ok (some newuserinfo)) :
    FansOut env (onUpdateUserInfoResponse env me conn data world).trace
      (onUpdateUserInfoResponse env me conn data world).state me.userID 3 := by
  simp only [onUpdateUserInfoResponse, parsed, checked, Act.lift_ok_bind, ask, Act.call_bind]
  split
  · exact fansOut_answer short me conn .updateuserinfo _ _ (by decide)
  · exact fansOut_answer short me conn .updateuserinfo _ _ (by decide)

/-- The cached ids stay as they are when friends change. -/
theorem related_ids (edit : Int32 → OrderedSet Int32 → OrderedSet Int32) (userid friendid : Int32)
    (users : List User) :
    (Store.relateLoop edit userid friendid false false users).2.map User.userid =
      users.map User.userid := by
  have accounts := congrArg (List.map Prod.fst)
    (relateLoop_accounts edit userid friendid false false users)
  simpa [List.map_map, account, Function.comp_def] using accounts

theorem made_ids (smallid greatid : Int32) (accept : Bool) (store : Store) :
    (store.makeFriendRelationship smallid greatid accept).2.cached.map User.userid =
      store.cached.map User.userid := by
  rcases makeFriend_cases smallid greatid accept store with ⟨-, same⟩ | ⟨-, -, same⟩
  · rw [same]
  · rw [same]
    exact related_ids _ _ _ store.cached

theorem released_ids (smallid greatid : Int32) (accept : Bool) (store : Store) :
    (store.releaseFriendRelationship smallid greatid accept).2.cached.map User.userid =
      store.cached.map User.userid := by
  rcases releaseFriend_cases smallid greatid accept store with ⟨-, same⟩ | ⟨-, -, same⟩
  · rw [same]
  · rw [same]
    exact related_ids _ _ _ store.cached

theorem join_fansOut (short : ShortStatus env) (me : ClientSession) (conn : Bytes)
    (world : World) (groupid : Int32)
    (joins : (world.store.makeFriendRelationship me.userID groupid
      (world.answers world.asked)).1 = true) :
    FansOut env (onAddGroupResponse env me conn groupid world).trace
      (onAddGroupResponse env me conn groupid world).state groupid 3 := by
  have present := ((makeFriend_result _ _ _ _).mp joins).2.2.2
  rw [← made_ids me.userID groupid (world.answers world.asked)] at present
  rw [onAddGroupResponse, ask, Act.call_bind, joins, if_pos rfl, look, Act.gets_bind]
  obtain ⟨groupUser, found⟩ := Option.isSome_iff_exists.mp
    ((lookup_isSome { world with
      store := (world.store.makeFriendRelationship me.userID groupid
        (world.answers world.asked)).2 } groupid).mpr present)
  rw [found]
  exact fansOut_answer short me conn .operatefriend _ _ (by decide)

theorem quit_fansOut (short : ShortStatus env) (me : ClientSession) (conn : Bytes)
    (world : World) (groupid : Int32) (group : groupid ≥ GROUPID_BOUBDARY)
    (leaves : (world.store.releaseFriendRelationship (ordered groupid me.userID).1
      (ordered groupid me.userID).2 (world.answers world.asked)).1 = true) :
    FansOut env (deleteFriend env me conn groupid world).trace
      (deleteFriend env me conn groupid world).state groupid 3 := by
  have both := ((releaseFriend_result _ _ _ _).mp leaves).2.2
  have present : groupid ∈ world.store.cached.map User.userid := by
    rw [ordered] at both
    split_ifs at both
    · exact both.2
    · exact both.1
  rw [← released_ids (ordered groupid me.userID).1 (ordered groupid me.userID).2
    (world.answers world.asked)] at present
  rw [deleteFriend, ask, Act.call_bind, leaves, if_pos rfl, look, Act.gets_bind]
  obtain ⟨cachedUser, found⟩ := Option.isSome_iff_exists.mp
    ((lookup_isSome { world with
      store := (world.store.releaseFriendRelationship (ordered groupid me.userID).1
        (ordered groupid me.userID).2 (world.answers world.asked)).2 } groupid).mpr present)
  rw [found]
  simp only [if_neg group.not_gt]
  exact fansOut_answer short me conn .operatefriend _ _ (by decide)

end Handlers

/-- A login, a profile update, a join and a quit each send one notice to the
session of every cached friend that has one, with that session's sequence
number, and none to any other session. The friends and the sessions are those
behind the change. -/
theorem status_fanout_exact (env : Env) (short : ShortStatus env) (me : ClientSession)
    (conn data : Bytes) (world : World) :
    (∀ username password user,
      loginMatches env data world.store = some (username, password, user) →
      let outcome := onLoginResponse env me conn data world
      FansOut env outcome.trace outcome.state user.userid 1) ∧
    (∀ root newuserinfo, env.parse data = .ok (some root) →
      newUserInfo root = .ok (some newuserinfo) →
      let outcome := onUpdateUserInfoResponse env me conn data world
      FansOut env outcome.trace outcome.state me.userID 3) ∧
    ∀ root type groupid, env.parse data = .ok (some root) → root.intAt "type" = .ok (some type) →
      root.intAt "userid" = .ok (some groupid) → groupid ≥ GROUPID_BOUBDARY →
      let outcome := onOperateFriendResponse env me conn data world
      let accept := world.answers world.asked
      let ids := ordered groupid me.userID
      (type ≠ 4 → (world.store.makeFriendRelationship me.userID groupid accept).1 = true →
        FansOut env outcome.trace outcome.state groupid 3) ∧
      (type = 4 → (world.store.releaseFriendRelationship ids.1 ids.2 accept).1 = true →
        FansOut env outcome.trace outcome.state groupid 3) := by
  refine ⟨?_, ?_, ?_⟩
  · intro username password user grant
    exact login_fansOut short me conn data world username password user grant
  · intro root newuserinfo parsed checked
    exact updateUserInfo_fansOut short me conn data world root newuserinfo parsed checked
  · intro root type groupid parsed typed named group outcome accept ids
    constructor
    · intro joining joins
      have same : outcome = onAddGroupResponse env me conn groupid world := by
        simp only [outcome, onOperateFriendResponse, parsed, typed, named, Act.lift_ok_bind,
          if_pos group, if_neg joining]
      rw [same]
      exact join_fansOut short me conn world groupid joins
    · rintro rfl leaves
      have same : outcome = deleteFriend env me conn groupid world := by
        simp only [outcome, onOperateFriendResponse, parsed, typed, named, Act.lift_ok_bind,
          if_pos group, if_true]
      rw [same]
      exact quit_fansOut short me conn world groupid group leaves

section Sample

/-- User `1` is about to log in; the friend `2` is online, the friend `3` is not,
and nobody has the id `4` any more. -/
def friendOnline : World where
  store := { users := { m_cachedUsers :=
    [{ userid := 1, username := text "a", password := text "p",
       friends := ((OrderedSet.empty.insert 2).insert 3).insert 4 },
      { userid := 2, friends := OrderedSet.empty.insert 1 }, { userid := 3 }] } }
  m_mapclient := (OrderedMap.empty.insert [49] { m_target := 0 }).insert [50]
    { m_user := { userid := 2 }, m_seq := 7, m_target := 0 }
  answers _ := true

theorem sampleEnv_short : ShortStatus sampleEnv := by
  intro type
  rw [statusBody]
  split_ifs <;> decide +kernel

theorem status_fanout_exact_login :
    let outcome := onLoginResponse sampleEnv { m_target := 0 } [49] (requestText (logsIn "a" "p"))
      friendOnline
    statusFrames [50] outcome.trace = [statusFrame sampleEnv 7 1 1] := by
  intro outcome
  have grant : (loginMatches sampleEnv (requestText (logsIn "a" "p")) friendOnline.store).map
      (·.2.2.userid) = some 1 := by decide +kernel
  obtain ⟨⟨username, password, user⟩, matched, id⟩ := Option.map_eq_some_iff.mp grant
  have fan := (status_fanout_exact sampleEnv sampleEnv_short { m_target := 0 } [49]
    (requestText (logsIn "a" "p")) friendOnline).1 username password user matched
  rw [show user.userid = 1 from id] at fan
  exact (fan.told 2 [50] 7 (by decide +kernel) (by decide +kernel)).1

end Sample

end EdoyumIM.StatusFanout
