import EdoyumIM.RelationshipUpdates

/-!
A create-group request whose INSERT the database refuses. The handler answers
with code 106 only after it has joined the user to the group whose id the failed
call never assigned: whatever the stack word is, the request is either not
answered at all or leaves a relationship with that word behind.
-/

namespace EdoyumIM.GroupCreation

open MachineWords FieldCodec JsonValue OrderedStore Effects UserStore ChatWorld ChatServer
open RelationshipUpdates
open SessionFraming (send)

section Refusals

variable (env : Env) (me : ClientSession) (conn data : Bytes) (garbage : Int32)

def groupReply (kind : MsgType) (members : List (String × Json)) : Label :=
  .send conn (send ((header kind me.m_seq).writeString
    (env.toStyledString (.ofMembers members)))).1 .reply

def createFailed : Label :=
  groupReply env me conn .creategroup (codeMsg 106 "create group error")

def joined (groupname : Bytes) (groupid : Int32) : Label :=
  groupReply env me conn .operatefriend (friendInfo groupid 3 groupname)

/-- What a failed creation should leave behind: the state of before and one
answer. -/
structure NoEffect (groupname : Bytes) (before : World) (outcome : Outcome World Label Fault Unit) :
    Prop where
  relations : SameRelations before.store outcome.state.store
  notJoined : ∀ groupid, joined env me conn groupname groupid ∉ outcome.trace
  answered : createFailed env me conn ∈ outcome.trace

/-- The database refuses the statement of `AddGroup`. -/
def AddGroupFails (groupname : Bytes) (world : World) : Prop :=
  (world.store.addGroup (cString groupname) me.userID (world.answers world.asked)).1 = none

instance (groupname : Bytes) (world : World) : Decidable (AddGroupFails me groupname world) :=
  decidable_of_iff' _ Option.isNone_iff_eq_none.symm

def joins (world : World) : Bool × Store :=
  world.store.countGroup.makeFriendRelationship me.userID garbage (world.answers (world.asked + 1))

variable {data}

/-- All that a refused creation does is to join the group that the stack word
names; it answers only if that succeeds. -/
theorem refused_creation (world : World) (root : Json) (groupname : Bytes)
    (parsed : env.parse data = .ok (some root))
    (named : root.stringAt "groupname" = .ok (some groupname))
    (fails : AddGroupFails me groupname world) :
    onCreateGroupResponse env me conn data garbage world =
      ⟨if (joins me garbage world).1 then
          [createFailed env me conn, joined env me conn groupname garbage] else [],
        { world with store := (joins me garbage world).2, asked := world.asked + 1 + 1 },
        .ok ()⟩ := by
  have counted : world.store.addGroup (cString groupname) me.userID (world.answers world.asked) =
      (none, world.store.countGroup) := by
    rcases Store.addGroup_cases (cString groupname) me.userID (world.answers world.asked)
        world.store with ⟨-, same⟩ | ⟨-, row, table, added, -, same, -⟩
    · exact same
    · rw [AddGroupFails, same] at fails
      cases fails
  simp only [onCreateGroupResponse, parsed, named, Act.lift_ok_bind, ask, Act.call_bind, counted,
    Option.getD_none]
  by_cases made : (joins me garbage world).1 = true
  · rw [if_pos made, if_pos (by exact made)]
    rfl
  · rw [if_neg made, if_neg (by exact made)]
    rfl

theorem refused_creation_effect (world : World) (root : Json) (groupname : Bytes)
    (parsed : env.parse data = .ok (some root))
    (named : root.stringAt "groupname" = .ok (some groupname))
    (fails : AddGroupFails me groupname world) :
    ¬ NoEffect env me conn groupname world
      (onCreateGroupResponse env me conn data garbage world) := by
  intro clean
  have answered := clean.answered
  have rows := clean.relations.rows
  rw [refused_creation env me conn garbage world root groupname parsed named fails] at answered rows
  cases made : (joins me garbage world).1 with
  | false => simp [made] at answered
  | true =>
      -- the answer comes with a row that names the stack word
      simp only [joins] at made rows
      rcases UserLockstep.makeFriend_cases me.userID garbage (world.answers (world.asked + 1))
          world.store.countGroup with ⟨-, same⟩ | ⟨-, -, same⟩
      · rw [same] at made
        cases made
      · rw [same] at rows
        simp [Store.addFriendToUser, Store.withCached, Store.countGroup] at rows

end Refusals

/-! Users `1` and `2` are registered and `1` is logged in; the database refuses
the group, and takes the statement after it. -/
section Sample

def twoUsers : World :=
  (run (step sampleEnv) (boot sampleEnv {} (fun asked => asked ≠ 2) 0)
    [.connect [1] 0, sampleFrame [1] .register 1 (requestText (registers "a" "p")),
      sampleFrame [1] .register 2 (requestText (registers "b" "q")),
      sampleFrame [1] .login 3 (requestText (logsIn "a" "p"))]).2

def firstUser : ClientSession := (twoUsers.m_mapclient.find? [1]).getD { m_target := 0 }

theorem refused_creation_effect_sample :
    (sampleEnv.parse (requestText (createsGroup "g"))).isOk = true ∧
    AddGroupFails firstUser (text "g") twoUsers ∧
    ¬ NoEffect sampleEnv firstUser [1] (text "g") twoUsers
      (onCreateGroupResponse sampleEnv firstUser [1] (requestText (createsGroup "g")) 2
        twoUsers) := by
  have fails : AddGroupFails firstUser (text "g") twoUsers := by decide +kernel
  have found : (sampleRequests.find? fun members =>
      requestText members = requestText (createsGroup "g")) = some (createsGroup "g") :=
    List.find?_eq_some_iff_getElem.mpr
      ⟨by decide +kernel, 5, by decide, rfl, by decide +kernel⟩
  have parsed : sampleEnv.parse (requestText (createsGroup "g")) =
      .ok (some (.ofMembers (createsGroup "g"))) := congrArg Except.ok (congrArg _ found)
  exact ⟨congrArg Except.isOk parsed, fails,
    refused_creation_effect sampleEnv firstUser [1] 2 twoUsers _ (text "g") parsed rfl fails⟩

/-- The stack word `2` makes the two users friends, and one request is answered
with code 106 and with a group joined; the word `0` leaves it unanswered. -/
theorem failed_creation_joins :
    let outcome (garbage : Int32) :=
      onCreateGroupResponse sampleEnv firstUser [1] (requestText (createsGroup "g")) garbage twoUsers
    AddGroupFails firstUser (text "g") twoUsers ∧
    twoUsers.store.database.t_user_relationship = [] ∧
    (outcome 2).state.store.database.t_user_relationship = [(1, 2)] ∧
    joined sampleEnv firstUser [1] (text "g") 2 ∈ (outcome 2).trace ∧
    (outcome 0).trace = [] ∧
    ¬ NoEffect sampleEnv firstUser [1] (text "g") twoUsers (outcome 2) ∧
    ¬ NoEffect sampleEnv firstUser [1] (text "g") twoUsers (outcome 0) := by
  intro outcome
  have before : twoUsers.store.database.t_user_relationship = [] := by decide +kernel
  have after : (outcome 2).state.store.database.t_user_relationship = [(1, 2)] := by
    decide +kernel
  have silent : (outcome 0).trace = [] := by decide +kernel
  refine ⟨by decide +kernel, before, after, by decide +kernel, silent, ?_, ?_⟩
  · intro clean
    have rows := clean.relations.rows
    rw [before, after] at rows
    cases rows
  · intro clean
    have answered := clean.answered
    rw [silent] at answered
    cases answered

end Sample

end EdoyumIM.GroupCreation
