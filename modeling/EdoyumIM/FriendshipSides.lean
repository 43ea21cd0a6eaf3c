import EdoyumIM.RelationshipUpdates

/-!
Acceptance and deletion of a friendship, as the handler of friend operations
does them on the session of one user for the other. Either of the two may be
the one who acts: the handler brings the ids into order before it calls
UserManager.
-/

namespace EdoyumIM.FriendshipSides

open MachineWords FieldCodec JsonValue OrderedStore Effects UserStore UserLockstep
open ChatWorld ChatServer GroupAccounts Friendships RelationshipUpdates

/-! What comes behind the call of UserManager. -/
section Behind

/-- The users, the database and its answers are as they were. -/
def Still (before : World) (_trace : List Label) (after : World) : Prop :=
  after.store = before.store ∧ after.answers = before.answers

theorem still_composable : Composable Still where
  nothing _ := ⟨rfl, rfl⟩
  sequence one other := ⟨other.1.trans one.1, other.2.trans one.2⟩

variable (env : Env) (me : ClientSession) (conn : Bytes)

theorem still_deliver (channel : Channel) (target : Int32) (item : Item) (writer : BinaryWriter)
    (cached : Bytes) : Keeps Still (deliver channel target item writer cached) := by
  intro world
  cases found : world.addressOf target with
  | none => rw [deliver_offline _ _ _ _ _ world found]; exact ⟨rfl, rfl⟩
  | some peer => rw [deliver_online _ _ _ _ _ world peer found]; exact ⟨rfl, rfl⟩

theorem still_notify (type target : Int32) (root : Json) :
    Keeps Still (notifyTarget env me type target root) :=
  keeps_bind still_composable (still_deliver _ _ _ _ _) fun _ world => still_composable.nothing world

/-- A call of UserManager and commands that leave it alone. -/
theorem ask_then {α β : Type} (operation : Bool → Store → α × Store) (next : α → Handler β)
    (calm : ∀ value, Keeps Still (next value)) (world : World) :
    ((ask operation >>= next) world).state.store =
        (operation (world.answers world.asked) world.store).2 ∧
      ((ask operation >>= next) world).state.answers = world.answers := by
  rw [ask, Act.call_bind]
  exact calm _ _

theorem acceptFriend_calls (request : Json) (target : Int32) (world : World)
    (agrees : request.intAt "accept" = .ok (some 1)) :
    (acceptFriend env me conn request target world).state.store =
        (world.store.makeFriendRelationship (ordered me.userID target).1
          (ordered me.userID target).2 (world.answers world.asked)).2 ∧
      (acceptFriend env me conn request target world).state.answers = world.answers := by
  simp only [acceptFriend, agrees, Act.lift_ok_bind, relateAccepted, if_true]
  refine ask_then _ _ (fun made => ?_) world
  split
  · refine keeps_bind still_composable (fun world => ⟨rfl, rfl⟩) fun found => ?_
    cases found with
    | none => exact fun world => still_composable.nothing world
    | some targetUser =>
        exact keeps_bind still_composable (fun world => ⟨rfl, rfl⟩) fun _ =>
          still_notify env me 3 target _
  · exact fun world => still_composable.nothing world

theorem deleteFriend_calls (friendid : Int32) (world : World) :
    (deleteFriend env me conn friendid world).state.store =
        (world.store.releaseFriendRelationship (ordered friendid me.userID).1
          (ordered friendid me.userID).2 (world.answers world.asked)).2 ∧
      (deleteFriend env me conn friendid world).state.answers = world.answers := by
  refine ask_then _ _ (fun released => ?_) world
  split
  · refine keeps_bind still_composable (fun world => ⟨rfl, rfl⟩) fun found => ?_
    cases found with
    | none => exact fun world => still_composable.nothing world
    | some cachedUser =>
        refine keeps_bind still_composable (fun world => ⟨rfl, rfl⟩) fun _ => ?_
        split
        · refine keeps_bind still_composable (fun world => ⟨rfl, rfl⟩) fun online => ?_
          cases online with
          | none => exact fun world => still_composable.nothing world
          | some peer => exact fun world => ⟨rfl, rfl⟩
        · intro world
          rw [Still, (HandlerSteps.tellFriends_tells env friendid friendid 3 world).1]
          exact ⟨rfl, rfl⟩
  · exact fun world => still_composable.nothing world

end Behind

/-! What the two calls make of the records. -/
section Records

theorem ordered_pair (one other : Int32) : ordered one other = pair one other := by
  rw [ordered, pair]
  split_ifs with above
  · rw [min_eq_right above.le, max_eq_left above.le]
  · rw [min_eq_left (not_lt.mp above), max_eq_right (not_lt.mp above)]

theorem relate_comm (edit : Int32 → OrderedSet Int32 → OrderedSet Int32) (one other : Int32)
    (apart : one ≠ other) : relate edit one other = relate edit other one := by
  funext iter
  rw [relate, relate]
  split_ifs with first second
  · exact absurd (first.symm.trans second) apart
  · rfl
  · rfl
  · rfl

theorem relate_pair (edit : Int32 → OrderedSet Int32 → OrderedSet Int32) (one other : Int32)
    (apart : one ≠ other) :
    relate edit (pair one other).1 (pair one other).2 = relate edit one other := by
  rw [← ordered_pair, ordered]
  split_ifs
  · exact relate_comm edit other one apart.symm
  · rfl

theorem pair_lt (one other : Int32) (apart : one ≠ other) : (pair one other).1 < (pair one other).2 :=
  min_lt_max.mpr apart

/-- Two changes of the friends, one behind the other. -/
theorem relate_relate (first second third : Int32 → OrderedSet Int32 → OrderedSet Int32)
    (one other : Int32) (merge : ∀ id set, second id (first id set) = third id set) (iter : User) :
    relate second one other (relate first one other iter) = relate third one other iter := by
  rw [relate, relate_userid, relate, relate]
  split_ifs <;> simp [merge]

theorem insert_insert (elem : Int32) (set : OrderedSet Int32) :
    (set.insert elem).insert elem = set.insert elem := by
  apply OrderedSet.ext_mem
  intro other
  simp [OrderedSet.mem_insert]

theorem erase_insert (elem : Int32) (set : OrderedSet Int32) :
    (set.insert elem).erase elem = set.erase elem := by
  apply OrderedSet.ext_mem
  intro other
  rw [OrderedSet.mem_erase, OrderedSet.mem_erase, OrderedSet.mem_insert]
  constructor
  · rintro ⟨same | member, apart⟩
    · exact absurd same apart
    · exact ⟨member, apart⟩
  · rintro ⟨member, apart⟩
    exact ⟨Or.inr member, apart⟩

theorem makeFriend_related (one other : Int32) (apart : one ≠ other) (store : Store)
    (distinct : (store.cached.map User.userid).Nodup) :
    let after := (store.makeFriendRelationship (pair one other).1 (pair one other).2 true).2
    after.database.t_user_relationship = store.database.t_user_relationship ++ [pair one other] ∧
      after.cached = store.cached.map (relate OrderedSet.insert one other) := by
  intro after
  have order := pair_lt one other apart
  rcases makeFriend_cases (pair one other).1 (pair one other).2 true store with
    ⟨wrong | never, -⟩ | ⟨-, -, same⟩
  · exact absurd order wrong.not_gt
  · exact absurd never nofun
  · have whole := relateLoop_eq OrderedSet.insert _ _ order.ne store.cached distinct false false
      (by simp) (by simp)
    rw [relate_pair _ one other apart] at whole
    exact ⟨by rw [show after = _ from congrArg Prod.snd same]; rfl,
      by rw [show after = _ from congrArg Prod.snd same]; exact whole⟩

theorem releaseFriend_related (one other : Int32) (apart : one ≠ other) (store : Store)
    (distinct : (store.cached.map User.userid).Nodup) :
    let after := (store.releaseFriendRelationship (pair one other).1 (pair one other).2 true).2
    after.database.t_user_relationship =
        store.database.t_user_relationship.filter (· ≠ pair one other) ∧
      after.cached = store.cached.map (relate OrderedSet.erase one other) := by
  intro after
  have order := pair_lt one other apart
  rcases releaseFriend_cases (pair one other).1 (pair one other).2 true store with
    ⟨wrong | never, -⟩ | ⟨-, -, same⟩
  · exact absurd order wrong.not_gt
  · exact absurd never nofun
  · have whole := relateLoop_eq OrderedSet.erase _ _ order.ne store.cached distinct false false
      (by simp) (by simp)
    rw [relate_pair _ one other apart] at whole
    exact ⟨by rw [show after = _ from congrArg Prod.snd same]; rfl,
      by rw [show after = _ from congrArg Prod.snd same]; exact whole⟩

end Records

/-! Requests of one of two users about the other. -/
section Requests

structure Request where
  me : ClientSession
  conn : Bytes
  data : Bytes

def operate (env : Env) (world : World) (request : Request) : World :=
  (onOperateFriendResponse env request.me request.conn request.data world).state

/-- A request of type 3 with accept 1, on the session of `one`, that names `other`. -/
def Accepts (env : Env) (one other : Int32) (request : Request) : Prop :=
  request.me.userID = one ∧ ∃ root, env.parse request.data = .ok (some root) ∧
    root.intAt "type" = .ok (some 3) ∧ root.intAt "userid" = .ok (some other) ∧
    root.intAt "accept" = .ok (some 1)

/-- A request of type 4. -/
def Deletes (env : Env) (one other : Int32) (request : Request) : Prop :=
  request.me.userID = one ∧ ∃ root, env.parse request.data = .ok (some root) ∧
    root.intAt "type" = .ok (some 4) ∧ root.intAt "userid" = .ok (some other)

def relationRows (world : World) : List (Int32 × Int32) := world.store.database.t_user_relationship

def cachedIds (world : World) : List Int32 := world.store.cached.map User.userid

variable {env : Env} {one other : Int32} {request : Request} {world : World}

theorem operate_accept (person : other < GROUPID_BOUBDARY) (accepts : Accepts env one other request) :
    (operate env world request).store =
        (world.store.makeFriendRelationship (pair one other).1 (pair one other).2
          (world.answers world.asked)).2 ∧
      (operate env world request).answers = world.answers := by
  obtain ⟨rfl, root, parsed, type, userid, agrees⟩ := accepts
  simp only [operate, onOperateFriendResponse, parsed, type, userid, Act.lift_ok_bind,
    if_neg person.not_ge]
  rw [← ordered_pair]
  exact acceptFriend_calls env request.me request.conn root other world agrees

theorem operate_delete (person : other < GROUPID_BOUBDARY) (deletes : Deletes env one other request) :
    (operate env world request).store =
        (world.store.releaseFriendRelationship (pair one other).1 (pair one other).2
          (world.answers world.asked)).2 ∧
      (operate env world request).answers = world.answers := by
  obtain ⟨rfl, root, parsed, type, userid⟩ := deletes
  simp only [operate, onOperateFriendResponse, parsed, type, userid, Act.lift_ok_bind,
    if_neg person.not_ge]
  rw [pair_comm, ← ordered_pair]
  exact deleteFriend_calls env request.me request.conn other world

/-- The statements succeed, and no id is cached twice. -/
structure Granting (world : World) : Prop where
  answers : ∀ asked, world.answers asked = true
  distinct : (cachedIds world).Nodup

/-- What a request did: the rows, and the records by `edit` of each other's id. -/
structure Did (edit : Int32 → OrderedSet Int32 → OrderedSet Int32) (one other : Int32)
    (rows : List (Int32 × Int32)) (before after : World) : Prop where
  rows : relationRows after = rows
  cached : after.store.cached = before.store.cached.map (relate edit one other)
  answers : after.answers = before.answers

theorem Did.granting {edit : Int32 → OrderedSet Int32 → OrderedSet Int32}
    {rows : List (Int32 × Int32)} {after : World} (did : Did edit one other rows world after)
    (granting : Granting world) : Granting after where
  answers asked := did.answers ▸ granting.answers asked
  distinct := by
    have ids : cachedIds after = cachedIds world := by
      rw [cachedIds, did.cached, List.map_map]
      exact List.map_congr_left fun iter _ => relate_userid edit one other iter
    exact ids ▸ granting.distinct

theorem accept_did (apart : one ≠ other) (person : other < GROUPID_BOUBDARY)
    (accepts : Accepts env one other request) (granting : Granting world) :
    Did OrderedSet.insert one other (relationRows world ++ [pair one other]) world
      (operate env world request) := by
  obtain ⟨store, answers⟩ := operate_accept person accepts
  rw [granting.answers] at store
  obtain ⟨rows, cached⟩ := makeFriend_related one other apart world.store granting.distinct
  exact ⟨by rw [relationRows, store, rows, relationRows], by rw [store, cached], answers⟩

theorem delete_did (apart : one ≠ other) (person : other < GROUPID_BOUBDARY)
    (deletes : Deletes env one other request) (granting : Granting world) :
    Did OrderedSet.erase one other ((relationRows world).filter (· ≠ pair one other)) world
      (operate env world request) := by
  obtain ⟨store, answers⟩ := operate_delete person deletes
  rw [granting.answers] at store
  obtain ⟨rows, cached⟩ := releaseFriend_related one other apart world.store granting.distinct
  exact ⟨by rw [relationRows, store, rows, relationRows], by rw [store, cached], answers⟩

theorem Did.swap {edit : Int32 → OrderedSet Int32 → OrderedSet Int32}
    {rows : List (Int32 × Int32)} {after : World} (apart : one ≠ other)
    (did : Did edit other one rows world after) : Did edit one other rows world after where
  rows := did.rows
  cached := relate_comm edit one other apart ▸ did.cached
  answers := did.answers

end Requests

/-! The same from either side. -/
section Sides

/-- Two different users who are no groups. -/
structure Persons (one other : Int32) : Prop where
  apart : one ≠ other
  first : one < GROUPID_BOUBDARY
  second : other < GROUPID_BOUBDARY

variable {env : Env} {one other : Int32} {request : Request} {world : World}

theorem either_accepts (persons : Persons one other)
    (accepts : Accepts env one other request ∨ Accepts env other one request)
    (granting : Granting world) :
    Did OrderedSet.insert one other (relationRows world ++ [pair one other]) world
      (operate env world request) := by
  rcases accepts with here | there
  · exact accept_did persons.apart persons.second here granting
  · rw [pair_comm]
    exact (accept_did persons.apart.symm persons.first there granting).swap persons.apart

theorem either_deletes (persons : Persons one other)
    (deletes : Deletes env one other request ∨ Deletes env other one request)
    (granting : Granting world) :
    Did OrderedSet.erase one other ((relationRows world).filter (· ≠ pair one other)) world
      (operate env world request) := by
  rcases deletes with here | there
  · exact delete_did persons.apart persons.second here granting
  · rw [pair_comm]
    exact (delete_did persons.apart.symm persons.first there granting).swap persons.apart

/-- The records and rows without what the two have with each other. -/
def without (one other : Int32) (world : World) : List User × List (Int32 × Int32) :=
  (world.store.cached.map (relate OrderedSet.erase one other),
    (relationRows world).filter (· ≠ pair one other))

theorem accept_without (persons : Persons one other)
    (accepts : Accepts env one other request ∨ Accepts env other one request)
    (granting : Granting world) :
    without one other (operate env world request) = without one other world := by
  have did := either_accepts persons accepts granting
  rw [without, did.cached, did.rows, List.map_map, without, List.filter_append]
  congr 1
  · apply List.map_congr_left
    intro iter _
    exact relate_relate _ _ _ one other erase_insert iter
  · simp

/-- Any number of acceptances from both sides. -/
theorem accepts_without (persons : Persons one other) (requests : List Request)
    (accept : ∀ request ∈ requests,
      Accepts env one other request ∨ Accepts env other one request)
    (granting : Granting world) :
    Granting (requests.foldl (operate env) world) ∧
      without one other (requests.foldl (operate env) world) = without one other world := by
  induction requests generalizing world with
  | nil => exact ⟨granting, rfl⟩
  | cons request rest ih =>
      have here := accept request List.mem_cons_self
      obtain ⟨still, same⟩ := ih (fun later member => accept later (List.mem_cons_of_mem _ member))
        ((either_accepts persons here granting).granting granting)
      exact ⟨still, same.trans (accept_without persons here granting)⟩

/-- Users who know each other gain nothing by another acceptance. -/
theorem accepts_again (persons : Persons one other) (requests : List Request)
    (accept : ∀ request ∈ requests,
      Accepts env one other request ∨ Accepts env other one request)
    (granting : Granting world)
    (known : world.store.cached.map (relate OrderedSet.insert one other) = world.store.cached) :
    (requests.foldl (operate env) world).store.cached = world.store.cached := by
  induction requests generalizing world with
  | nil => rfl
  | cons request rest ih =>
      have did := either_accepts persons (accept request List.mem_cons_self) granting
      have same : (operate env world request).store.cached = world.store.cached :=
        did.cached.trans known
      have later := ih (fun later member => accept later (List.mem_cons_of_mem _ member))
        (did.granting granting) (by rw [same, known])
      exact later.trans same

/-- What a deletion makes of a friend set. -/
def separated (one other : Int32) (entry : Int32 × OrderedSet Int32) : Int32 × OrderedSet Int32 :=
  if entry.1 = one then (entry.1, entry.2.erase other)
  else if entry.1 = other then (entry.1, entry.2.erase one)
  else entry

theorem sets_without (one other : Int32) (world : World) :
    (without one other world).1.map (fun iter => (iter.userid, iter.friends)) =
      (friendSets world.store).map (separated one other) := by
  rw [without, friendSets, List.map_map, List.map_map]
  apply List.map_congr_left
  intro iter _
  simp only [Function.comp_apply, relate, separated]
  split_ifs <;> rfl

/-- The table names the smaller id first. -/
def RowsOrdered (world : World) : Prop := ∀ row ∈ relationRows world, row.1 < row.2

end Sides

/-- For two different cached users who are no groups, an acceptance on either
session leads to the same rows and friend sets, further ones change no set, and
one deletion from either side takes the two apart and leaves the rest alone. -/
theorem friendship_sides_agree (env : Env) (world : World) (one other : Int32)
    (persons : Persons one other) (granting : Granting world)
    (mine theirs : Request) (myAccept : Accepts env one other mine)
    (theirAccept : Accepts env other one theirs) :
    (relationRows (operate env world mine) = relationRows (operate env world theirs) ∧
      friendSets (operate env world mine).store = friendSets (operate env world theirs).store) ∧
    (∀ further : List Request,
      (∀ request ∈ further, Accepts env one other request ∨ Accepts env other one request) →
      friendSets (further.foldl (operate env) (operate env world mine)).store =
        friendSets (operate env world mine).store) ∧
    ∀ (accepts : List Request) (delete : Request),
      (∀ request ∈ accepts, Accepts env one other request ∨ Accepts env other one request) →
      (Deletes env one other delete ∨ Deletes env other one delete) →
      let before := accepts.foldl (operate env) world
      let after := operate env before delete
      friendSets after.store = (friendSets before.store).map (separated one other) ∧
      relationRows after = (relationRows before).filter (· ≠ pair one other) ∧
      friendSets after.store = (friendSets world.store).map (separated one other) ∧
      relationRows after = (relationRows world).filter (· ≠ pair one other) ∧
      (RowsOrdered world → (one, other) ∉ relationRows after ∧ (other, one) ∉ relationRows after) := by
  have first := either_accepts persons (Or.inl myAccept) granting
  have second := either_accepts persons (Or.inr theirAccept) granting
  refine ⟨⟨first.rows.trans second.rows.symm, ?_⟩, ?_, ?_⟩
  · rw [friendSets, friendSets, first.cached, second.cached]
  · intro further accept
    have known : (operate env world mine).store.cached.map (relate OrderedSet.insert one other) =
        (operate env world mine).store.cached := by
      rw [first.cached, List.map_map]
      apply List.map_congr_left
      intro iter _
      exact relate_relate _ _ _ one other insert_insert iter
    rw [friendSets, accepts_again persons further accept (first.granting granting) known, friendSets]
  · intro accepts delete accept deletes before after
    obtain ⟨still, same⟩ := accepts_without persons accepts accept granting
    have did := either_deletes persons deletes still
    have whole : (after.store.cached, relationRows after) = without one other before :=
      Prod.ext did.cached did.rows
    have sets : friendSets after.store = (friendSets before.store).map (separated one other) := by
      rw [← sets_without, ← whole, friendSets]
    have start : (after.store.cached, relationRows after) = without one other world :=
      whole.trans same
    have rows : relationRows after = (relationRows world).filter (· ≠ pair one other) :=
      congrArg Prod.snd start
    refine ⟨sets, did.rows, ?_, rows, ?_⟩
    · rw [← sets_without, ← start, friendSets]
    · intro ordered
      have gone : ∀ row ∈ relationRows after, row ≠ pair one other ∧ row.1 < row.2 := by
        intro row member
        rw [rows, List.mem_filter, decide_eq_true_eq] at member
        exact ⟨member.2, ordered row member.1⟩
      refine ⟨fun member => ?_, fun member => ?_⟩
      · obtain ⟨apart, order⟩ := gone _ member
        exact apart ((pair_eq_iff one other one other order).mpr (Or.inl ⟨rfl, rfl⟩)).symm
      · obtain ⟨apart, order⟩ := gone _ member
        exact apart ((pair_eq_iff one other other one order).mpr (Or.inr ⟨rfl, rfl⟩)).symm

section Sample

def agreesWith (userid : Int) : List (String × Json) :=
  [("type", .int 3), ("userid", .int userid), ("accept", .int 1)]

def leaves (userid : Int) : List (String × Json) := [("type", .int 4), ("userid", .int userid)]

def sidesEnv : Env where
  parse data := .ok
    (([agreesWith 1, agreesWith 2, leaves 1, leaves 2].find? fun members =>
      requestText members = data).map .ofMembers)
  toStyledString := styledText
  emptyData := true

/-- Three users, of whom `2` and `3` are friends. -/
def threeCached : World where
  store :=
    { users := { m_cachedUsers :=
        [{ userid := 3, friends := OrderedSet.empty.insert 2 }, { userid := 1 },
          { userid := 2, friends := OrderedSet.empty.insert 3 }] }
      database := { t_user_relationship := [(2, 3)] } }
  answers _ := true

def asks (userid : Int32) (members : List (String × Json)) : Request :=
  ⟨{ m_user := { userid := userid }, m_target := 0 }, decimal userid, requestText members⟩

theorem friendship_sides_agree_three :
    Persons 1 2 ∧ Granting threeCached ∧ Accepts sidesEnv 1 2 (asks 1 (agreesWith 2)) ∧
    Accepts sidesEnv 2 1 (asks 2 (agreesWith 1)) ∧
    Deletes sidesEnv 2 1 (asks 2 (leaves 1)) ∧
    friendSets (operate sidesEnv threeCached (asks 1 (agreesWith 2))).store =
      friendSets (operate sidesEnv threeCached (asks 2 (agreesWith 1))).store ∧
    relationRows (operate sidesEnv
      (operate sidesEnv threeCached (asks 1 (agreesWith 2))) (asks 2 (leaves 1))) = [(2, 3)] := by
  have persons : Persons 1 2 := ⟨by decide, by decide, by decide⟩
  have granting : Granting threeCached := ⟨fun _ => rfl, by decide⟩
  have mine : Accepts sidesEnv 1 2 (asks 1 (agreesWith 2)) :=
    ⟨rfl, .ofMembers (agreesWith 2), rfl, rfl, rfl, rfl⟩
  have theirs : Accepts sidesEnv 2 1 (asks 2 (agreesWith 1)) :=
    ⟨rfl, .ofMembers (agreesWith 1), rfl, rfl, rfl, rfl⟩
  have delete : Deletes sidesEnv 2 1 (asks 2 (leaves 1)) :=
    ⟨rfl, .ofMembers (leaves 1), rfl, rfl, rfl⟩
  obtain ⟨⟨-, sets⟩, -, apart⟩ :=
    friendship_sides_agree sidesEnv threeCached 1 2 persons granting _ _ mine theirs
  obtain ⟨-, -, -, rows, -⟩ := apart [asks 1 (agreesWith 2)] (asks 2 (leaves 1))
    (fun request member => Or.inl ((List.mem_singleton.mp member) ▸ mine)) (Or.inr delete)
  exact ⟨persons, granting, mine, theirs, delete, sets, rows.trans (by decide)⟩

end Sample

end EdoyumIM.FriendshipSides
