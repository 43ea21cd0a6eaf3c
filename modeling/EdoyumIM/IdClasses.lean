import EdoyumIM.Effects
import EdoyumIM.UserStore

/-!
The ids of people and of groups. `AddUser` and `AddGroup` advance one counter
each; a start sets the group counter to its first value and the user counter to
the greatest id of t_user, where groups stand too. The fields of `Site` other
than the store only record the run: whether the last start found the row of a
group, and how often each counter has been advanced.
-/

namespace EdoyumIM.IdClasses

open MachineWords JsonValue Effects UserStore

section Operations

inductive Op where
  | addUser (user : User) (accept : Bool)
  | addGroup (groupname : Bytes) (ownerid : Int32) (accept : Bool)
  | restart

inductive Handed where
  | person (id : Int32)
  | group (id : Int32)
  deriving DecidableEq

/-- The side of the boundary an id belongs on. -/
def Handed.Apart : Handed → Prop
  | .person id => id < GROUPID_BOUBDARY
  | .group id => GROUPID_BOUBDARY < id

instance : (handed : Handed) → Decidable handed.Apart
  | .person id => inferInstanceAs (Decidable (id < GROUPID_BOUBDARY))
  | .group id => inferInstanceAs (Decidable (GROUPID_BOUBDARY < id))

def hasGroup (database : Database) : Bool :=
  database.t_user.rows.any fun row => row.f_owner_id.isSome

structure Site where
  store : Store
  foundGroup : Bool := false
  people : Nat := 0
  groups : Nat := 0

def started (emptyData : Bool) (database : Database) : Store :=
  { users := init emptyData database, database := database }

def act (emptyData : Bool) (site : Site) : Op → List Handed × Site
  | .addUser user accept =>
      ((site.store.addUser user accept).1.toList.map fun added => .person added.userid,
        { site with store := (site.store.addUser user accept).2, people := site.people + 1 })
  | .addGroup groupname ownerid accept =>
      ((site.store.addGroup groupname ownerid accept).1.toList.map .group,
        { site with
          store := (site.store.addGroup groupname ownerid accept).2, groups := site.groups + 1 })
  | .restart =>
      ([], { site with
        store := started emptyData site.store.database
        foundGroup := hasGroup site.store.database })

/-- Both counters can be advanced once more within their ranges. -/
def hasRoom (site : Site) : Op → Prop
  | .addUser _ _ => site.people + 1 < 2 ^ 28 - 1 ∧ site.people + site.groups < 2 ^ 31 - 2 ^ 28
  | .addGroup _ _ _ => site.people + site.groups < 2 ^ 31 - 2 ^ 28
  | .restart => True

/-- Not an accepted registration behind a start that found a group. -/
def ahead (site : Site) : Op → Prop
  | .addUser _ accept =>
      site.foundGroup = true →
        site.store.database.accepts accept (site.store.users.m_baseUserID + 1) = false
  | _ => True

instance (site : Site) : (op : Op) → Decidable (hasRoom site op)
  | .addUser _ _ => inferInstanceAs (Decidable (_ ∧ _))
  | .addGroup _ _ _ => inferInstanceAs (Decidable (_ < _))
  | .restart => .isTrue trivial

instance (site : Site) : (op : Op) → Decidable (ahead site op)
  | .addUser _ _ => inferInstanceAs (Decidable (_ = _ → _ = _))
  | .addGroup _ _ _ => .isTrue trivial
  | .restart => .isTrue trivial

end Operations

section Invariant

/-- The ids of the rows after so many calls. Without a group they are those of
the registrations alone. -/
def RowsBounded (database : Database) (people groups : Nat) : Prop :=
  ∀ row ∈ database.t_user.rows,
    row.f_user_id.toInt ≤ 2 ^ 28 - 1 + groups + people ∧
    (row.f_owner_id.isSome → 2 ^ 28 - 1 < row.f_user_id.toInt) ∧
    (hasGroup database = false → row.f_user_id.toInt ≤ people)

structure Bounded (site : Site) : Prop where
  groupBase : 2 ^ 28 - 1 ≤ site.store.users.m_baseGrupID.toInt ∧
    site.store.users.m_baseGrupID.toInt ≤ 2 ^ 28 - 1 + site.groups
  userBase : 0 ≤ site.store.users.m_baseUserID.toInt ∧
    site.store.users.m_baseUserID.toInt ≤ 2 ^ 28 - 1 + site.groups + site.people
  low : site.foundGroup = false → site.store.users.m_baseUserID.toInt ≤ site.people
  high : site.foundGroup = true →
    2 ^ 28 - 1 < site.store.users.m_baseUserID.toInt ∧ hasGroup site.store.database = true
  rows : RowsBounded site.store.database site.people site.groups

theorem boundary_toInt : GROUPID_BOUBDARY.toInt = 2 ^ 28 - 1 := rfl

theorem RowsBounded.later {database : Database} {people groups : Nat}
    (bounded : RowsBounded database people groups) (people' groups' : Nat) (more : people ≤ people')
    (moreGroups : groups ≤ groups') : RowsBounded database people' groups' := by
  intro row member
  obtain ⟨bound, owned, alone⟩ := bounded row member
  refine ⟨by omega, owned, fun none => ?_⟩
  have small := alone none
  omega

theorem hasGroup_insert (database : Database) (table : UserTable) (row : UserRow)
    (rows : table.rows = database.t_user.rows ++ [row]) :
    hasGroup (database.withUsers table) = (hasGroup database || row.f_owner_id.isSome) := by
  simp [hasGroup, Database.withUsers, rows]

theorem RowsBounded.insert {database : Database} {people groups : Nat}
    (bounded : RowsBounded database people groups) (table : UserTable) (row : UserRow)
    (rows : table.rows = database.t_user.rows ++ [row])
    (bound : row.f_user_id.toInt ≤ 2 ^ 28 - 1 + groups + people)
    (owned : row.f_owner_id.isSome → 2 ^ 28 - 1 < row.f_user_id.toInt)
    (alone : hasGroup database = false → row.f_owner_id = none → row.f_user_id.toInt ≤ people) :
    RowsBounded (database.withUsers table) people groups := by
  intro other member
  rw [hasGroup_insert database table row rows, Bool.or_eq_false_iff]
  rcases List.mem_append.mp (rows ▸ member) with old | new
  · obtain ⟨oldBound, oldOwned, oldAlone⟩ := bounded other old
    exact ⟨oldBound, oldOwned, fun none => oldAlone none.1⟩
  · obtain rfl := List.mem_singleton.mp new
    exact ⟨bound, owned, fun none => alone none.1 (by simpa using none.2)⟩

theorem addUser_bounded (site : Site) (bounded : Bounded site) (emptyData : Bool) (user : User)
    (accept : Bool) (room : hasRoom site (.addUser user accept)) :
    Bounded (act emptyData site (.addUser user accept)).2 := by
  obtain ⟨-, total⟩ := room
  obtain ⟨userLow, userHigh⟩ := bounded.userBase
  obtain ⟨groupLow, groupHigh⟩ := bounded.groupBase
  have next := toInt_succ site.store.users.m_baseUserID userLow (by omega)
  have counted : (site.store.users.m_baseUserID + 1).toInt ≤
      2 ^ 28 - 1 + site.groups + ((site.people + 1 : Nat) : Int) := by
    omega
  have low : site.foundGroup = false →
      (site.store.users.m_baseUserID + 1).toInt ≤ ((site.people + 1 : Nat) : Int) := by
    intro unmixed
    have before := bounded.low unmixed
    omega
  have high : site.foundGroup = true → 2 ^ 28 - 1 < (site.store.users.m_baseUserID + 1).toInt := by
    intro mixed
    have before := (bounded.high mixed).1
    omega
  have rows := bounded.rows.later (site.people + 1) site.groups (by omega) le_rfl
  rcases Store.addUser_cases user accept site.store with
    ⟨-, refused⟩ | ⟨-, row, table, added, grown, same, id, owner, -⟩
  · simp only [act, refused]
    exact ⟨⟨groupLow, groupHigh⟩, ⟨by simp only [Store.countUser]; omega, counted⟩, low,
      fun mixed => ⟨high mixed, (bounded.high mixed).2⟩, rows⟩
  · simp only [act, same]
    refine ⟨⟨groupLow, groupHigh⟩, ⟨by simp only [Store.countUser]; omega, counted⟩, low, ?_, ?_⟩
    · intro mixed
      refine ⟨high mixed, ?_⟩
      rw [hasGroup_insert _ table row grown, (bounded.high mixed).2, Bool.true_or]
    · apply rows.insert table row grown
      · rw [id]
        exact counted
      · simp [owner]
      · intro none _
        rw [id]
        -- a start that found a group would leave its row in the table
        apply low
        apply Bool.eq_false_iff.mpr
        intro mixed
        exact Bool.false_ne_true (none ▸ (bounded.high mixed).2)

theorem addGroup_bounded (site : Site) (bounded : Bounded site) (emptyData : Bool)
    (groupname : Bytes) (ownerid : Int32) (accept : Bool)
    (room : hasRoom site (.addGroup groupname ownerid accept)) :
    Bounded (act emptyData site (.addGroup groupname ownerid accept)).2 := by
  have total : site.people + site.groups < 2 ^ 31 - 2 ^ 28 := room
  obtain ⟨userLow, userHigh⟩ := bounded.userBase
  obtain ⟨groupLow, groupHigh⟩ := bounded.groupBase
  have next := toInt_succ site.store.users.m_baseGrupID (by omega) (by omega)
  have counted : 2 ^ 28 - 1 ≤ (site.store.users.m_baseGrupID + 1).toInt ∧
      (site.store.users.m_baseGrupID + 1).toInt ≤
        2 ^ 28 - 1 + ((site.groups + 1 : Nat) : Int) := by
    omega
  have user : 0 ≤ site.store.users.m_baseUserID.toInt ∧ site.store.users.m_baseUserID.toInt ≤
      2 ^ 28 - 1 + ((site.groups + 1 : Nat) : Int) + site.people := by
    omega
  have rows := bounded.rows.later site.people (site.groups + 1) le_rfl (by omega)
  rcases Store.addGroup_cases groupname ownerid accept site.store with
    ⟨-, refused⟩ | ⟨-, row, table, added, grown, same, id, owner, -⟩
  · simp only [act, refused]
    exact ⟨counted, user, bounded.low, bounded.high, rows⟩
  · simp only [act, same]
    refine ⟨counted, user, bounded.low, ?_, ?_⟩
    · intro mixed
      refine ⟨(bounded.high mixed).1, ?_⟩
      rw [hasGroup_insert _ table row grown, owner, Option.isSome_some, Bool.or_true]
    · apply rows.insert table row grown
      · rw [id]
        omega
      · intro _
        rw [id]
        omega
      · simp [owner]

/-- A start sees the greatest id of all rows, groups included. -/
theorem restart_bounded (site : Site) (bounded : Bounded site) (emptyData : Bool) :
    Bounded (act emptyData site .restart).2 := by
  -- the counter is zero or the id of a row, and no row is above it
  obtain ⟨nonneg, covers, attained⟩ := init_baseUserID emptyData site.store.database
  have groupBase := init_baseGrupID emptyData site.store.database
  have base : 0 ≤ (init emptyData site.store.database).m_baseUserID.toInt := by
    simpa using Int32.le_iff_toInt_le.mp nonneg
  simp only [act, started]
  refine ⟨?_, ⟨base, ?_⟩, ?_, ?_, bounded.rows⟩
  · simp only [groupBase, boundary_toInt]
    omega
  · rcases attained with zero | ⟨row, member, same⟩
    · simp only [zero, Int32.toInt_zero]
      omega
    · simp only [same]
      exact (bounded.rows row member).1
  · intro none
    rcases attained with zero | ⟨row, member, same⟩
    · simp only [zero, Int32.toInt_zero]
      omega
    · simp only [same]
      exact (bounded.rows row member).2.2 none
  · intro some
    refine ⟨?_, some⟩
    obtain ⟨row, member, owned⟩ := List.any_eq_true.mp some
    have above := (bounded.rows row member).2.1 owned
    have covered := Int32.le_iff_toInt_le.mp (covers row member)
    exact lt_of_lt_of_le above covered

theorem act_bounded (emptyData : Bool) (site : Site) (op : Op) (bounded : Bounded site)
    (room : hasRoom site op) : Bounded (act emptyData site op).2 := by
  cases op with
  | addUser user accept => exact addUser_bounded site bounded emptyData user accept room
  | addGroup groupname ownerid accept =>
      exact addGroup_bounded site bounded emptyData groupname ownerid accept room
  | restart => exact restart_bounded site bounded emptyData

end Invariant

section Runs

variable (emptyData : Bool)

/-- What one call hands out is on its side unless it is a registration behind a
start that found a group. -/
theorem act_apart_iff (site : Site) (op : Op) (bounded : Bounded site) (room : hasRoom site op) :
    (∀ handed ∈ (act emptyData site op).1, handed.Apart) ↔ ahead site op := by
  cases op with
  | restart => exact ⟨fun _ => trivial, fun _ handed member => absurd member List.not_mem_nil⟩
  | addGroup groupname ownerid accept =>
      refine ⟨fun _ => trivial, fun _ handed member => ?_⟩
      have total : site.people + site.groups < 2 ^ 31 - 2 ^ 28 := room
      obtain ⟨groupLow, groupHigh⟩ := bounded.groupBase
      have next := toInt_succ site.store.users.m_baseGrupID (by omega) (by omega)
      rcases Store.addGroup_cases groupname ownerid accept site.store with
        ⟨-, refused⟩ | ⟨-, row, table, added, -, same, -⟩
      · simp [act, refused] at member
      · obtain rfl : handed = .group (site.store.users.m_baseGrupID + 1) := by
          simpa [act, same] using member
        rw [Handed.Apart, Int32.lt_iff_toInt_lt, boundary_toInt]
        omega
  | addUser user accept =>
      obtain ⟨few, total⟩ := room
      obtain ⟨userLow, userHigh⟩ := bounded.userBase
      have next := toInt_succ site.store.users.m_baseUserID userLow (by omega)
      rcases Store.addUser_cases user accept site.store with
        ⟨answer, refused⟩ | ⟨answer, row, table, added, -, same, -, -, id⟩
      · refine ⟨fun _ _ => answer, fun _ handed member => ?_⟩
        simp [act, refused] at member
      · have only : (act emptyData site (.addUser user accept)).1 =
            [.person (site.store.users.m_baseUserID + 1)] := by
          simp [act, same, id]
        rw [only, List.forall_mem_singleton, Handed.Apart, Int32.lt_iff_toInt_lt, boundary_toInt,
          ahead, answer]
        -- the counter is a count of calls, or above the greatest group
        cases found : site.foundGroup with
        | false =>
            have small := bounded.low found
            simp only [Bool.false_eq_true, false_implies, iff_true]
            omega
        | true =>
            have large := (bounded.high found).1
            simp only [Bool.true_eq_false, forall_const, iff_false, not_lt]
            omega

def opened : Site := { store := started emptyData {} }

theorem opened_bounded : Bounded (opened emptyData) := by
  have blank : Bounded { store := {} } := by
    refine ⟨by decide, by decide, fun _ => by decide, ?_, ?_⟩
    · intro mixed
      cases mixed
    · intro row member
      cases member
  exact restart_bounded _ blank emptyData

/-- In a run within the ranges of the counters, every id that `AddUser` hands
out is below the boundary and every id that `AddGroup` hands out above it, if
and only if no registration is accepted behind a start that found a group. -/
theorem ids_apart_iff (ops : List Op) (room : Along (act emptyData) hasRoom (opened emptyData) ops) :
    (∀ handed ∈ (run (act emptyData) (opened emptyData) ops).1, handed.Apart) ↔
      Along (act emptyData) ahead (opened emptyData) ops := by
  rw [along_trace]
  refine along_iff (act emptyData) ?_ ?_ _ ops (opened_bounded emptyData) room
  · intro site op bounded enough
    exact act_apart_iff emptyData site op bounded enough
  · intro site op bounded enough _
    exact act_bounded emptyData site op bounded enough

/-- Two registrations, a restart between them, and a group at the end. -/
def sampleOps : List Op :=
  [.addUser {} true, .restart, .addUser {} true, .addGroup [] 1 true]

theorem ids_apart_iff_late_group :
    Along (act true) hasRoom (opened true) sampleOps ∧
    (run (act true) (opened true) sampleOps).1 = [.person 1, .person 2, .group 268435456] ∧
    ∀ handed ∈ (run (act true) (opened true) sampleOps).1, handed.Apart := by
  have room : Along (act true) hasRoom (opened true) sampleOps := by decide +kernel
  exact ⟨room, by decide +kernel,
    (ids_apart_iff true sampleOps room).mpr (by decide +kernel)⟩

/-- A group, a restart, and then a registration. -/
theorem person_behind_groups :
    (run (act true) (opened true) [.addGroup [] 1 true, .restart, .addUser {} true]).1 =
      [.group 268435456, .person 268435457] ∧
    ¬ (∀ handed ∈
        (run (act true) (opened true) [.addGroup [] 1 true, .restart, .addUser {} true]).1,
      handed.Apart) := by
  decide +kernel

end Runs

end EdoyumIM.IdClasses
