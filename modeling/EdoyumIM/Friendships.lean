import EdoyumIM.UserLockstep

/-!
Friendship is kept three times: in the records of both users and in a row of
t_user_relationship, the smaller id first. A call stores the row before it knows
whether both records exist, and edits the records it finds. The friends of a
cached user are always backed by rows; a row between two cached users is known
to both unless it is older than one of their records.
-/

namespace EdoyumIM.Friendships

open MachineWords JsonValue OrderedStore Effects UserStore PairedLists IdClasses UserLockstep

section Pairs

/-- The row of two users. -/
def pair (one other : Int32) : Int32 × Int32 := (min one other, max one other)

theorem pair_comm (one other : Int32) : pair one other = pair other one := by
  rw [pair, pair, min_comm, max_comm]

theorem pair_eq_iff (one other small great : Int32) (order : small < great) :
    pair one other = (small, great) ↔
      (one = small ∧ other = great) ∨ (one = great ∧ other = small) := by
  rw [pair, Prod.mk.injEq]
  constructor
  · rintro ⟨least, greatest⟩
    rcases le_total one other with below | above
    · rw [min_eq_left below] at least
      rw [max_eq_right below] at greatest
      exact Or.inl ⟨least, greatest⟩
    · rw [min_eq_right above] at least
      rw [max_eq_left above] at greatest
      exact Or.inr ⟨greatest, least⟩
  · rintro (⟨rfl, rfl⟩ | ⟨rfl, rfl⟩)
    · exact ⟨min_eq_left order.le, max_eq_right order.le⟩
    · exact ⟨min_eq_right order.le, max_eq_left order.le⟩

theorem mem_relate_insert (small great id : Int32) (order : small < great) (user : User) :
    id ∈ (relate OrderedSet.insert small great user).friends.elems ↔
      id ∈ user.friends.elems ∨ pair user.userid id = (small, great) := by
  rw [pair_eq_iff _ _ _ _ order, relate]
  split_ifs with first second
  · rw [OrderedSet.mem_insert]
    simp [first, order.ne, or_comm]
  · rw [OrderedSet.mem_insert]
    simp [second, order.ne', or_comm]
  · simp [first, second]

theorem mem_relate_erase (small great id : Int32) (order : small < great) (user : User) :
    id ∈ (relate OrderedSet.erase small great user).friends.elems ↔
      id ∈ user.friends.elems ∧ pair user.userid id ≠ (small, great) := by
  rw [Ne, pair_eq_iff _ _ _ _ order, relate]
  split_ifs with first second
  · rw [OrderedSet.mem_erase]
    simp [first, order.ne]
  · rw [OrderedSet.mem_erase]
    simp [second, order.ne']
  · simp [first, second]

theorem foldl_loadFriend (userid id : Int32) (rows : List (Int32 × Int32))
    (friends : OrderedSet Int32) :
    id ∈ (rows.foldl (loadFriend userid) friends).elems ↔
      id ∈ friends.elems ∨ ∃ row ∈ rows, id = if row.1 = userid then row.2 else row.1 := by
  induction rows generalizing friends with
  | nil => simp
  | cons row rest ih =>
      have visit : id ∈ (loadFriend userid friends row).elems ↔
          id = (if row.1 = userid then row.2 else row.1) ∨ id ∈ friends.elems := by
        rw [loadFriend]
        split_ifs <;> exact OrderedSet.mem_insert _ _ _
      rw [List.foldl_cons, ih, visit]
      simp only [List.mem_cons, exists_eq_or_imp]
      rw [or_comm (a := id = _), or_assoc]

theorem mem_loaded (database : Database) (row : UserRow) (id : Int32)
    (ordered : ∀ entry ∈ database.t_user_relationship, entry.1 < entry.2) :
    id ∈ (loaded false database row).friends.elems ↔
      pair row.f_user_id id ∈ database.t_user_relationship := by
  have rows : ∀ entries : List (Int32 × Int32), visited false (0, 0) entries = entries := by
    intro entries
    cases entries <;> rfl
  simp only [loaded, loadRelationshipFromDB, fetchRows_eq, rows, foldl_loadFriend,
    OrderedSet.empty, List.not_mem_nil, false_or, List.mem_filter, decide_eq_true_eq]
  constructor
  · rintro ⟨⟨one, other⟩, ⟨member, mine⟩, same⟩
    have order := ordered _ member
    have here : pair row.f_user_id id = (one, other) := by
      apply (pair_eq_iff _ _ _ _ order).mpr
      by_cases first : one = row.f_user_id
      · exact Or.inl ⟨first.symm, by simpa [first] using same⟩
      · exact Or.inr ⟨(mine.resolve_left first).symm, by simpa [first] using same⟩
    rwa [here]
  · intro member
    have order := ordered _ member
    refine ⟨pair row.f_user_id id, ⟨member, ?_⟩, ?_⟩
    all_goals
      rcases (pair_eq_iff row.f_user_id id _ _ order).mp rfl with ⟨first, second⟩ | ⟨second, first⟩
    · exact Or.inl first.symm
    · exact Or.inr second.symm
    · rw [if_pos first.symm]
      exact second
    · rw [if_neg (fun same => order.ne (same.trans second))]
      exact first

end Pairs

/-! One call. -/
section Calls

/-- Friendship is symmetric and matches the table. -/
def Friendly (store : Store) : Prop :=
  ∀ one ∈ store.cached, ∀ other ∈ store.cached,
    (other.userid ∈ one.friends.elems ↔ one.userid ∈ other.friends.elems) ∧
    (other.userid ∈ one.friends.elems ↔
      pair one.userid other.userid ∈ store.database.t_user_relationship)

instance (store : Store) : Decidable (Friendly store) :=
  inferInstanceAs (Decidable (∀ one ∈ store.cached, ∀ other ∈ store.cached, _ ∧ _))

structure Linked (store : Store) : Prop where
  mirrored : ∃ unsaved, Mirrored unsaved store
  ordered : ∀ row ∈ store.database.t_user_relationship, row.1 < row.2
  backed : ∀ user ∈ store.cached, ∀ id ∈ user.friends.elems,
    pair user.userid id ∈ store.database.t_user_relationship
  joined : ∀ one ∈ store.cached, ∀ other ∈ store.cached,
    pair one.userid other.userid ∈ store.database.t_user_relationship →
      other.userid ∈ one.friends.elems

theorem Linked.friendly {store : Store} (linked : Linked store) : Friendly store := by
  intro one here other there
  have known : ∀ one ∈ store.cached, ∀ other ∈ store.cached,
      (other.userid ∈ one.friends.elems ↔
        pair one.userid other.userid ∈ store.database.t_user_relationship) :=
    fun one here other there =>
      ⟨fun member => linked.backed one here _ member, linked.joined one here other there⟩
  constructor
  · rw [known one here other there, known other there one here, pair_comm]
  · exact known one here other there

/-- A registration comes with a new `User`. -/
def registers : Call → Prop
  | .addUser user _ => user.friends = OrderedSet.empty
  | _ => True

/-- No row joins the id with a cached user. -/
def Unrelated (store : Store) (id : Int32) : Prop :=
  ∀ user ∈ store.cached, pair user.userid id ∉ store.database.t_user_relationship

/-- Not a record for an id that already stands in a row with a cached user. -/
def clear (store : Store) : Call → Prop
  | .addUser _ accept =>
      store.database.accepts accept (store.users.m_baseUserID + 1) = true →
        Unrelated store (store.users.m_baseUserID + 1)
  | .addGroup _ _ accept =>
      store.database.accepts accept (store.users.m_baseGrupID + 1) = true →
        Unrelated store (store.users.m_baseGrupID + 1)
  | _ => True

instance : (call : Call) → Decidable (registers call)
  | .addUser user _ => inferInstanceAs (Decidable (user.friends = OrderedSet.empty))
  | .addGroup _ _ _ | .makeFriend _ _ _ | .releaseFriend _ _ _ | .updateUserInfo _ _ _
  | .modifyUserPassword _ _ _ | .saveChatMsg _ _ _ _ | .restart => .isTrue trivial

instance (store : Store) (id : Int32) : Decidable (Unrelated store id) :=
  inferInstanceAs (Decidable (∀ user ∈ store.cached, _ ∉ _))

instance (store : Store) : (call : Call) → Decidable (clear store call)
  | .addUser _ _ | .addGroup _ _ _ => inferInstanceAs (Decidable (_ = true → Unrelated _ _))
  | .makeFriend _ _ _ | .releaseFriend _ _ _ | .updateUserInfo _ _ _
  | .modifyUserPassword _ _ _ | .saveChatMsg _ _ _ _ | .restart => .isTrue trivial

theorem linked_same (before after : Store) (linked : Linked before)
    (mirrored : ∃ unsaved, Mirrored unsaved after)
    (rows : after.database.t_user_relationship = before.database.t_user_relationship)
    (records : ∀ user ∈ after.cached, ∃ old ∈ before.cached,
      old.userid = user.userid ∧ old.friends = user.friends) : Linked after := by
  refine ⟨mirrored, ?_, ?_, ?_⟩
  · rw [rows]
    exact linked.ordered
  · intro user member id friend
    obtain ⟨old, inside, sameId, sameFriends⟩ := records user member
    rw [rows, ← sameId]
    exact linked.backed old inside id (sameFriends ▸ friend)
  · intro one here other there row
    obtain ⟨first, inside, firstId, friends⟩ := records one here
    obtain ⟨second, present, secondId, -⟩ := records other there
    rw [rows, ← firstId, ← secondId] at row
    rw [← friends, ← secondId]
    exact linked.joined first inside second present row

/-- A new record without friends: all is well exactly if no row names its id
together with a cached user. -/
theorem append_linked (before after : Store) (added : User) (linked : Linked before)
    (mirrored : ∃ unsaved, Mirrored unsaved after)
    (rows : after.database.t_user_relationship = before.database.t_user_relationship)
    (cached : after.cached = before.cached ++ [added])
    (alone : added.friends = OrderedSet.empty) (apart : Unrelated before added.userid) :
    Linked after := by
  have none : ∀ id, id ∉ added.friends.elems := by
    intro id
    rw [alone]
    exact List.not_mem_nil
  refine ⟨mirrored, ?_, ?_, ?_⟩
  · rw [rows]
    exact linked.ordered
  · rw [cached, rows]
    intro user member id friend
    rcases List.mem_append.mp member with old | new
    · exact linked.backed user old id friend
    · obtain rfl := List.mem_singleton.mp new
      exact absurd friend (none id)
  · rw [cached, rows]
    intro one here other there row
    rcases List.mem_append.mp here with oldOne | newOne
    · rcases List.mem_append.mp there with oldOther | newOther
      · exact linked.joined one oldOne other oldOther row
      · obtain rfl := List.mem_singleton.mp newOther
        exact absurd row (apart one oldOne)
    · obtain rfl := List.mem_singleton.mp newOne
      rcases List.mem_append.mp there with oldOther | newOther
      · rw [pair_comm] at row
        exact absurd row (apart other oldOther)
      · obtain rfl := List.mem_singleton.mp newOther
        -- a row has two different ids
        have order := linked.ordered _ row
        simp [pair] at order

theorem friendly_unrelated (before after : Store) (id : Int32) (added : User)
    (friendly : Friendly after) (cached : after.cached = before.cached ++ [added])
    (rows : after.database.t_user_relationship = before.database.t_user_relationship)
    (alone : added.friends = OrderedSet.empty) (mine : added.userid = id) :
    Unrelated before id := by
  subst mine
  intro user member row
  have known := (friendly added (by simp [cached]) user (by simp [cached, member])).2
  rw [alone, rows, pair_comm] at known
  exact List.not_mem_nil (known.mpr row)

/-- Rows that go and come, and the same edit of the records on both ends. -/
theorem relate_linked (before after : Store)
    (edit : Int32 → OrderedSet Int32 → OrderedSet Int32) (small great : Int32)
    (keep new : Int32 × Int32 → Prop) (linked : Linked before)
    (mirrored : ∃ unsaved, Mirrored unsaved after)
    (cached : after.cached = before.cached.map (relate edit small great))
    (rows : ∀ row, row ∈ after.database.t_user_relationship ↔
      (row ∈ before.database.t_user_relationship ∧ keep row) ∨ new row)
    (friends : ∀ user id, id ∈ (relate edit small great user).friends.elems ↔
      (id ∈ user.friends.elems ∧ keep (pair user.userid id)) ∨ new (pair user.userid id))
    (order : ∀ row, new row → row.1 < row.2) : Linked after := by
  refine ⟨mirrored, ?_, ?_, ?_⟩
  · intro row member
    rcases (rows row).mp member with ⟨old, -⟩ | fresh
    · exact linked.ordered row old
    · exact order row fresh
  · rw [cached]
    intro user member id friend
    obtain ⟨old, inside, rfl⟩ := List.mem_map.mp member
    rw [relate_userid, rows]
    rcases (friends old id).mp friend with ⟨known, kept⟩ | fresh
    · exact Or.inl ⟨linked.backed old inside id known, kept⟩
    · exact Or.inr fresh
  · rw [cached]
    intro one here other there row
    obtain ⟨first, inside, rfl⟩ := List.mem_map.mp here
    obtain ⟨second, present, rfl⟩ := List.mem_map.mp there
    rw [relate_userid, relate_userid, rows] at row
    rw [relate_userid, friends]
    rcases row with ⟨old, kept⟩ | fresh
    · exact Or.inl ⟨linked.joined first inside second present old, kept⟩
    · exact Or.inr fresh

theorem makeFriend_linked (store : Store) (smallid greatid : Int32) (accept : Bool)
    (linked : Linked store) :
    Linked (store.makeFriendRelationship smallid greatid accept).2 := by
  obtain ⟨unsaved, mirrored⟩ := linked.mirrored
  have still := makeFriend_mirrored unsaved store smallid greatid accept mirrored
  rcases makeFriend_cases smallid greatid accept store with ⟨-, same⟩ | ⟨order, -, same⟩
  · rw [same]
    exact linked
  · rw [same] at still ⊢
    apply relate_linked store _ OrderedSet.insert smallid greatid (fun _ => True)
      (· = (smallid, greatid)) linked ⟨unsaved, still⟩
    · exact relateLoop_eq OrderedSet.insert smallid greatid order.ne store.cached
        mirrored.distinct false false (by simp) (by simp)
    · intro row
      simp [Store.addFriendToUser, Store.withCached]
    · intro user id
      simp [mem_relate_insert smallid greatid id order user]
    · rintro row rfl
      exact order

theorem releaseFriend_linked (store : Store) (smallid greatid : Int32) (accept : Bool)
    (linked : Linked store) :
    Linked (store.releaseFriendRelationship smallid greatid accept).2 := by
  obtain ⟨unsaved, mirrored⟩ := linked.mirrored
  have still := releaseFriend_mirrored unsaved store smallid greatid accept mirrored
  rcases releaseFriend_cases smallid greatid accept store with ⟨-, same⟩ | ⟨order, -, same⟩
  · rw [same]
    exact linked
  · rw [same] at still ⊢
    apply relate_linked store _ OrderedSet.erase smallid greatid (· ≠ (smallid, greatid))
      (fun _ => False) linked ⟨unsaved, still⟩
    · exact relateLoop_eq OrderedSet.erase smallid greatid order.ne store.cached
        mirrored.distinct false false (by simp) (by simp)
    · intro row
      simp [Store.deleteFriendToUser, Store.withCached]
    · intro user id
      simp [mem_relate_erase smallid greatid id order user]
    · rintro row ⟨⟩

/-- A call that changes records otherwise than in their friends. -/
theorem changed_linked (store : Store) (statement : Statement) (userid : Int32)
    (change : User → User) (changeRow : UserRow → UserRow) (accept : Bool) (linked : Linked store)
    (applies : store.database.apply statement =
      some (store.database.withUsers (store.database.t_user.update userid changeRow)))
    (keepsId : ∀ user, (change user).userid = user.userid)
    (keepsFriends : ∀ user, (change user).friends = user.friends)
    (still : ∃ unsaved, Mirrored unsaved (changeRecord statement userid change accept store).2) :
    Linked (changeRecord statement userid change accept store).2 := by
  obtain ⟨unsaved, mirrored⟩ := linked.mirrored
  rcases changeRecord_cases unsaved statement userid change changeRow accept store mirrored applies
    with nothing | both
  · rw [nothing]
    exact linked
  · rw [both] at still ⊢
    apply linked_same store _ linked still rfl
    intro user member
    obtain ⟨old, inside, rfl⟩ := List.mem_map.mp member
    refine ⟨old, inside, ?_, ?_⟩
    · split_ifs
      · exact (keepsId old).symm
      · rfl
    · split_ifs
      · exact (keepsFriends old).symm
      · rfl

theorem restart_linked (store : Store) (linked : Linked store) :
    Linked (started false store.database) := by
  have cached := started_cached false store.database (Or.inl rfl)
  refine ⟨⟨[], started_mirrored false store.database (Or.inl rfl)⟩, linked.ordered, ?_, ?_⟩
  · rw [cached]
    intro user member id friend
    obtain ⟨row, -, rfl⟩ := List.mem_map.mp member
    exact (mem_loaded store.database row id linked.ordered).mp friend
  · rw [cached]
    intro one here other there known
    obtain ⟨row, -, rfl⟩ := List.mem_map.mp here
    exact (mem_loaded store.database row _ linked.ordered).mpr known

theorem perform_linked (store : Store) (call : Call) (linked : Linked store)
    (fresh : registers call) (apart : clear store call) :
    Linked (perform false store call).2 := by
  obtain ⟨unsaved, mirrored⟩ := linked.mirrored
  have starts : startsOnRows false store call := by
    cases call <;> first | trivial | exact Or.inl rfl
  have still : ∃ unsaved, Mirrored unsaved (perform false store call).2 :=
    ⟨_, perform_mirrored false unsaved store call mirrored starts⟩
  cases call with
  | addUser user accept =>
      rcases Store.addUser_exact user accept store with
        ⟨-, refused⟩ | ⟨accepted, table, rows, same⟩
      · rw [perform, refused] at still ⊢
        exact linked_same store _ linked still rfl fun user member => ⟨user, member, rfl, rfl⟩
      · rw [perform, same] at still ⊢
        exact append_linked store _ _ linked still rfl rfl fresh (apart accepted)
  | addGroup groupname ownerid accept =>
      rcases Store.addGroup_exact groupname ownerid accept store with
        ⟨-, refused⟩ | ⟨accepted, table, rows, same⟩
      · rw [perform, refused] at still ⊢
        exact linked_same store _ linked still rfl fun user member => ⟨user, member, rfl, rfl⟩
      · rw [perform, same] at still ⊢
        exact append_linked store _ _ linked still rfl rfl rfl (apart accepted)
  | makeFriend smallid greatid accept =>
      exact makeFriend_linked store smallid greatid accept linked
  | releaseFriend smallid greatid accept =>
      exact releaseFriend_linked store smallid greatid accept linked
  | updateUserInfo userid newuserinfo accept =>
      exact changed_linked store (.updateUserInfo userid newuserinfo) userid
        (rewritten newuserinfo) _ accept linked rfl (fun _ => rfl) (fun _ => rfl) still
  | modifyUserPassword userid newpassword accept =>
      exact changed_linked store (.updatePassword userid newpassword) userid _ _ accept linked rfl
        (fun _ => rfl) (fun _ => rfl) still
  | saveChatMsg senderid targetid chatmsg accept =>
      rcases Store.excute_cases accept (.insertChatMsg senderid targetid chatmsg) store with
        refused | ⟨changed, applied, accepted⟩
      · rw [perform, Store.saveChatMsgToDb, refused]
        exact linked
      · rw [perform, Store.saveChatMsgToDb, accepted] at still ⊢
        obtain rfl := Option.some.inj applied
        exact linked_same store _ linked still rfl fun user member => ⟨user, member, rfl, rfl⟩
  | restart => exact restart_linked store linked

theorem perform_friendly_iff (store : Store) (call : Call) (linked : Linked store)
    (fresh : registers call) :
    Friendly (perform false store call).2 ↔ clear store call := by
  constructor
  · intro friendly
    cases call with
    | addUser user accept =>
        intro accepted
        rcases Store.addUser_exact user accept store with ⟨refused, -⟩ | ⟨-, table, rows, same⟩
        · rw [refused] at accepted
          cases accepted
        · rw [perform, same] at friendly
          exact friendly_unrelated store _ _ _ friendly rfl rfl fresh rfl
    | addGroup groupname ownerid accept =>
        intro accepted
        rcases Store.addGroup_exact groupname ownerid accept store with
          ⟨refused, -⟩ | ⟨-, table, rows, same⟩
        · rw [refused] at accepted
          cases accepted
        · rw [perform, same] at friendly
          exact friendly_unrelated store _ _ _ friendly rfl rfl rfl rfl
    | makeFriend smallid greatid accept => trivial
    | releaseFriend smallid greatid accept => trivial
    | updateUserInfo userid newuserinfo accept => trivial
    | modifyUserPassword userid newpassword accept => trivial
    | saveChatMsg senderid targetid chatmsg accept => trivial
    | restart => trivial
  · intro apart
    exact (perform_linked store call linked fresh apart).friendly

end Calls

/-! Whole runs, from an empty database. -/
section Runs

theorem empty_linked : Linked (started false {}) := by
  have cached := started_cached false {} (Or.inl rfl)
  refine ⟨⟨[], started_mirrored false {} (Or.inl rfl)⟩, ?_, ?_, ?_⟩
  · intro row member
    cases member
  · rw [cached]
    intro user member
    cases member
  · rw [cached]
    intro user member
    cases member

theorem along_registers (calls : List Call) (store : Store)
    (fresh : ∀ call ∈ calls, registers call) :
    Along (called false) (fun _ call => registers call) store calls := by
  induction calls generalizing store with
  | nil => trivial
  | cons call rest ih =>
      exact ⟨fresh call List.mem_cons_self,
        ih _ fun other member => fresh other (List.mem_cons_of_mem call member)⟩

/-- Two users become friends, the server restarts, and a third one registers. -/
def threeUsers : List Call :=
  [.addUser { username := [97] } true, .addUser { username := [98] } true, .makeFriend 1 2 true,
    .restart, .addUser { username := [99] } true]

end Runs

end EdoyumIM.Friendships
