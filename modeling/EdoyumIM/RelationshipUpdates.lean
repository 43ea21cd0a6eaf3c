import EdoyumIM.Friendships

/-!
MakeFriendRelationship and ReleaseFriendRelationship change the table first,
then the records they meet, and report a failure when one of the two users has
no record. What was changed until then is kept.
-/

namespace EdoyumIM.RelationshipUpdates

open MachineWords JsonValue OrderedStore Effects UserStore IdClasses UserLockstep

section Sets

theorem erase_eq_iff (elem : Int32) (set : OrderedSet Int32) :
    set.erase elem = set ↔ elem ∉ set.elems := by
  constructor
  · intro same member
    rw [← same] at member
    exact ((OrderedSet.mem_erase elem elem set).mp member).2 rfl
  · intro absent
    apply OrderedSet.ext_mem
    intro other
    rw [OrderedSet.mem_erase]
    exact and_iff_left_of_imp fun member same => absent (same ▸ member)

def friendSets (store : Store) : List (Int32 × OrderedSet Int32) :=
  store.cached.map fun iter => (iter.userid, iter.friends)

structure SameRelations (before after : Store) : Prop where
  rows : after.database.t_user_relationship = before.database.t_user_relationship
  sets : friendSets after = friendSets before

/-- A scan that misses one of the ids goes through all records. -/
theorem relateLoop_missed (edit : Int32 → OrderedSet Int32 → OrderedSet Int32)
    (userid friendid : Int32) (apart : userid ≠ friendid) (users : List User)
    (bFound1 bFound2 : Bool)
    (missed : (Store.relateLoop edit userid friendid bFound1 bFound2 users).1 = false) :
    (Store.relateLoop edit userid friendid bFound1 bFound2 users).2 =
      users.map (relate edit userid friendid) := by
  induction users generalizing bFound1 bFound2 with
  | nil => rfl
  | cons iter rest ih =>
      rw [relateLoop_result] at missed
      rw [relateLoop_cons edit userid friendid apart, List.map_cons]
      congr 1
      split_ifs at missed ⊢
      exact ih _ _ missed

/-- No record holds the other one of the two ids. -/
def Strangers (smallid greatid : Int32) (store : Store) : Prop :=
  ∀ iter ∈ store.cached, (iter.userid = smallid → greatid ∉ iter.friends.elems) ∧
    (iter.userid = greatid → smallid ∉ iter.friends.elems)

instance (smallid greatid : Int32) (store : Store) : Decidable (Strangers smallid greatid store) :=
  inferInstanceAs (Decidable (∀ iter ∈ store.cached, _))

theorem erased_sets_iff (smallid greatid : Int32) (order : smallid < greatid) (store : Store) :
    friendSets (store.withCached
        (store.cached.map (relate OrderedSet.erase smallid greatid))) = friendSets store ↔
      Strangers smallid greatid store := by
  rw [friendSets, friendSets, Store.withCached, Store.cached, List.map_map, List.map_inj_left]
  refine forall₂_congr fun iter _ => ?_
  rw [Function.comp_apply, relate_userid, Prod.mk.injEq, and_iff_right rfl, relate]
  split_ifs with small great
  · simp [small, order.ne, erase_eq_iff]
  · simp [great, order.ne', erase_eq_iff]
  · simp [small, great]

end Sets

/-! The two calls. A call that succeeds, or is no such call, promises nothing. -/
section Calls

variable (emptyData : Bool) (store : Store)

def Atomic (call : Call) : Prop :=
  match call with
  | .makeFriend smallid greatid _ | .releaseFriend smallid greatid _ =>
      smallid < greatid → (perform emptyData store call).1 = false →
        SameRelations store (perform emptyData store call).2
  | _ => True

def BothCached (smallid greatid : Int32) : Prop :=
  smallid ∈ store.cached.map User.userid ∧ greatid ∈ store.cached.map User.userid

instance (smallid greatid : Int32) : Decidable (BothCached store smallid greatid) :=
  inferInstanceAs (Decidable (_ ∧ _))

/-- The statement is refused, both users are there, or there is nothing to undo. -/
def Undisturbed : Call → Prop
  | .makeFriend smallid greatid accept =>
      smallid < greatid → accept = true → BothCached store smallid greatid
  | .releaseFriend smallid greatid accept =>
      smallid < greatid → accept = true → ¬ BothCached store smallid greatid →
        (smallid, greatid) ∉ store.database.t_user_relationship ∧ Strangers smallid greatid store
  | _ => True

instance (call : Call) : Decidable (Undisturbed store call) :=
  match call with
  | .makeFriend _ _ _ => inferInstanceAs (Decidable (_ → _ → _))
  | .releaseFriend _ _ _ => inferInstanceAs (Decidable (_ → _ → _ → _))
  | .addUser _ _ => .isTrue trivial
  | .addGroup _ _ _ => .isTrue trivial
  | .updateUserInfo _ _ _ => .isTrue trivial
  | .modifyUserPassword _ _ _ => .isTrue trivial
  | .saveChatMsg _ _ _ _ => .isTrue trivial
  | .restart => .isTrue trivial

theorem makeFriend_atomic_iff (smallid greatid : Int32) (accept : Bool) :
    Atomic emptyData store (.makeFriend smallid greatid accept) ↔
      Undisturbed store (.makeFriend smallid greatid accept) := by
  simp only [Atomic, Undisturbed, perform]
  refine forall_congr' fun order => ?_
  have result := makeFriend_result smallid greatid accept store
  rcases makeFriend_cases smallid greatid accept store with ⟨why, same⟩ | ⟨-, rfl, same⟩
  · rcases why with wrong | rfl
    · exact absurd order wrong.not_gt
    · rw [same]
      exact iff_of_true (fun _ => ⟨rfl, rfl⟩) fun refused => absurd refused (by decide)
  · rw [← Bool.not_eq_true, result]
    constructor
    · intro atomic _
      by_contra missing
      have kept := (atomic fun found => missing found.2.2).rows
      -- the new row is there whatever the scan of the records finds
      rw [same] at kept
      simp [Store.addFriendToUser, Store.withCached] at kept
    · intro cached failed
      exact absurd ⟨order, rfl, cached rfl⟩ failed

theorem releaseFriend_atomic_iff (smallid greatid : Int32) (accept : Bool) :
    Atomic emptyData store (.releaseFriend smallid greatid accept) ↔
      Undisturbed store (.releaseFriend smallid greatid accept) := by
  simp only [Atomic, Undisturbed, perform]
  refine forall_congr' fun order => ?_
  rcases releaseFriend_cases smallid greatid accept store with ⟨why, same⟩ | ⟨-, rfl, same⟩
  · rcases why with wrong | rfl
    · exact absurd order wrong.not_gt
    · rw [same]
      exact iff_of_true (fun _ => ⟨rfl, rfl⟩) fun refused => absurd refused (by decide)
  · have found := relateLoop_found OrderedSet.erase smallid greatid store.cached false false rfl
    simp only [Bool.false_eq_true, false_or] at found
    rw [same, Store.deleteFriendToUser]
    by_cases both : BothCached store smallid greatid
    · exact iff_of_true (fun failed => absurd ((found.mpr both).symm.trans failed) (by decide))
        fun _ missing => absurd both missing
    · have missed := Bool.eq_false_iff.mpr (mt found.mp both)
      have scanned := relateLoop_missed OrderedSet.erase smallid greatid order.ne store.cached
        false false missed
      have sets := erased_sets_iff smallid greatid order store
      have rows : store.database.t_user_relationship.filter (· ≠ (smallid, greatid)) =
          store.database.t_user_relationship ↔
            (smallid, greatid) ∉ store.database.t_user_relationship := by
        rw [List.filter_eq_self]
        simp only [decide_eq_true_eq]
        exact ⟨fun apart member => apart _ member rfl, fun absent row member same =>
          absent (same ▸ member)⟩
      constructor
      · intro atomic _ _
        have kept := atomic missed
        exact ⟨rows.mp kept.rows, sets.mp (scanned ▸ kept.sets)⟩
      · intro undisturbed _
        obtain ⟨absent, strangers⟩ := undisturbed rfl both
        exact ⟨rows.mpr absent, scanned.symm ▸ sets.mpr strangers⟩

theorem atomic_iff (call : Call) : Atomic emptyData store call ↔ Undisturbed store call := by
  cases call with
  | makeFriend smallid greatid accept =>
      exact makeFriend_atomic_iff emptyData store smallid greatid accept
  | releaseFriend smallid greatid accept =>
      exact releaseFriend_atomic_iff emptyData store smallid greatid accept
  | _ => exact Iff.rfl

end Calls

/-- In every run of calls from any start, every relationship update that fails
leaves rows and friend sets alone if and only if each one is refused by the
database, finds both users cached, or has nothing to change. -/
theorem relationship_updates_atomic_iff (emptyData : Bool) (database : Database)
    (calls : List Call) :
    Along (called emptyData) (Atomic emptyData) (started emptyData database) calls ↔
      Along (called emptyData) Undisturbed (started emptyData database) calls :=
  along_congr (called emptyData) (atomic_iff emptyData) (started emptyData database) calls

/-- User `1` is there, and nobody is user `2`: the relationship is refused, but
its row and one side of the friendship stay. -/
theorem half_a_friendship :
    let calls : List Call := [.addUser { username := [97] } true, .makeFriend 1 2 true]
    let before := (run (called false) (started false {}) (calls.take 1)).2
    let after := (run (called false) (started false {}) calls).2
    (perform false before (.makeFriend 1 2 true)).1 = false ∧
      before.database.t_user_relationship = [] ∧
      after.database.t_user_relationship = [(1, 2)] ∧
      before.cached.map (·.friends.elems) = [[]] ∧ after.cached.map (·.friends.elems) = [[2]] ∧
      ¬ Along (called false) (Atomic false) (started false {}) calls := by
  intro calls before after
  have rows : before.database.t_user_relationship = [] := by decide +kernel
  have added : (perform false before (.makeFriend 1 2 true)).2.database.t_user_relationship =
      [(1, 2)] := by decide +kernel
  have failed : (perform false before (.makeFriend 1 2 true)).1 = false := by decide +kernel
  refine ⟨failed, rows, added, by decide +kernel, by decide +kernel, ?_⟩
  rintro ⟨-, atomic, -⟩
  have kept : (perform false before (.makeFriend 1 2 true)).2.database.t_user_relationship =
      before.database.t_user_relationship := (atomic (by decide) failed).rows
  rw [added, rows] at kept
  exact absurd kept nofun

end EdoyumIM.RelationshipUpdates
