import Mathlib

/-!
Ordered associative containers as strictly ascending lists. Insertion keeps an
entry that is already present under the same key, as `std::set::insert` and
`std::map::insert` do; iteration is in ascending key order. The order is a
field of both structures, so a container out of order cannot be built.
-/

namespace EdoyumIM.OrderedStore

variable {α β : Type} [LinearOrder α]

def insertBy (key : β → α) (entry : β) : List β → List β
  | [] => [entry]
  | first :: rest =>
      if key entry < key first then entry :: first :: rest
      else if key first < key entry then first :: insertBy key entry rest
      else first :: rest

def Ascending (key : β → α) (entries : List β) : Prop :=
  entries.Pairwise fun left right => key left < key right

theorem mem_insertBy (key : β → α) (entry other : β) (entries : List β)
    (member : other ∈ insertBy key entry entries) : other = entry ∨ other ∈ entries := by
  induction entries with
  | nil => simpa [insertBy] using member
  | cons first rest ih =>
      rw [insertBy] at member
      split_ifs at member with before after
      · simpa using member
      · rcases List.mem_cons.mp member with here | later
        · exact Or.inr (here ▸ List.mem_cons_self)
        · rcases ih later with new | old
          · exact Or.inl new
          · exact Or.inr (List.mem_cons_of_mem first old)
      · exact Or.inr member

theorem mem_insertBy_of_mem (key : β → α) (entry other : β) (entries : List β)
    (member : other ∈ entries) : other ∈ insertBy key entry entries := by
  induction entries with
  | nil => simp at member
  | cons first rest ih =>
      rw [insertBy]
      split_ifs
      · exact List.mem_cons_of_mem entry member
      · rcases List.mem_cons.mp member with here | later
        · exact here ▸ List.mem_cons_self
        · exact List.mem_cons_of_mem first (ih later)
      · exact member

theorem mem_insertBy_new (key : β → α) (entry : β) (entries : List β)
    (absent : ∀ other ∈ entries, key other ≠ key entry) : entry ∈ insertBy key entry entries := by
  induction entries with
  | nil => simp [insertBy]
  | cons first rest ih =>
      rw [insertBy]
      split_ifs with before after
      · exact List.mem_cons_self
      · exact List.mem_cons_of_mem first
          (ih fun other member => absent other (List.mem_cons_of_mem first member))
      -- neither smaller nor greater: the key would be taken
      · exact absurd (le_antisymm (not_lt.mp before) (not_lt.mp after))
          (absent first List.mem_cons_self)

theorem insertBy_ascending (key : β → α) (entry : β) (entries : List β)
    (ascending : Ascending key entries) : Ascending key (insertBy key entry entries) := by
  induction entries with
  | nil => simp [insertBy, Ascending]
  | cons first rest ih =>
      obtain ⟨least, tail⟩ := List.pairwise_cons.mp ascending
      rw [insertBy]
      split_ifs with before after
      · refine List.pairwise_cons.mpr ⟨?_, ascending⟩
        intro other member
        rcases List.mem_cons.mp member with here | later
        · exact here ▸ before
        · exact before.trans (least other later)
      · refine List.pairwise_cons.mpr ⟨?_, ih tail⟩
        intro other member
        rcases mem_insertBy key entry other rest member with new | old
        · exact new ▸ after
        · exact least other old
      · exact ascending

/-- The strict order leaves one entry for each key. -/
theorem ascending_unique (key : β → α) (entries : List β) (ascending : Ascending key entries)
    (left right : β) (one : left ∈ entries) (other : right ∈ entries)
    (same : key left = key right) : left = right := by
  induction entries with
  | nil => simp at one
  | cons first rest ih =>
      obtain ⟨least, tail⟩ := List.pairwise_cons.mp ascending
      rcases List.mem_cons.mp one with here | later
      · rcases List.mem_cons.mp other with alsoHere | otherLater
        · exact here.trans alsoHere.symm
        · exact absurd (here ▸ same) (least right otherLater).ne
      · rcases List.mem_cons.mp other with alsoHere | otherLater
        · exact absurd (alsoHere ▸ same.symm) (least left later).ne
        · exact ih tail later otherLater

/-- `std::set<α>`. -/
@[ext] structure OrderedSet (α : Type) [LinearOrder α] where
  elems : List α
  ascending : Ascending id elems

namespace OrderedSet

def empty : OrderedSet α := ⟨[], List.Pairwise.nil⟩

def insert (elem : α) (set : OrderedSet α) : OrderedSet α :=
  ⟨insertBy id elem set.elems, insertBy_ascending id elem set.elems set.ascending⟩

def erase (elem : α) (set : OrderedSet α) : OrderedSet α :=
  ⟨set.elems.filter (· ≠ elem), set.ascending.filter _⟩

instance [DecidableEq α] : DecidableEq (OrderedSet α) := fun left right =>
  decidable_of_iff (left.elems = right.elems) OrderedSet.ext_iff.symm

instance [Repr α] : Repr (OrderedSet α) := ⟨fun set => reprPrec set.elems⟩

theorem mem_insert (elem other : α) (set : OrderedSet α) :
    other ∈ (set.insert elem).elems ↔ other = elem ∨ other ∈ set.elems := by
  constructor
  · exact mem_insertBy id elem other set.elems
  · rintro (rfl | member)
    · by_cases present : other ∈ set.elems
      · exact mem_insertBy_of_mem id other other set.elems present
      · apply mem_insertBy_new id other set.elems
        rintro elem inside rfl
        exact present inside
    · exact mem_insertBy_of_mem id elem other set.elems member

theorem mem_erase (elem other : α) (set : OrderedSet α) :
    other ∈ (set.erase elem).elems ↔ other ∈ set.elems ∧ other ≠ elem := by
  simp [erase]

theorem ext_mem (left right : OrderedSet α)
    (same : ∀ elem, elem ∈ left.elems ↔ elem ∈ right.elems) : left = right := by
  have before : left.elems.Pairwise (· < ·) := left.ascending
  have after : right.elems.Pairwise (· < ·) := right.ascending
  exact OrderedSet.ext (before.eq_of_mem_iff after same)

end OrderedSet

/-- `std::map<α, V>`. -/
@[ext] structure OrderedMap (α V : Type) [LinearOrder α] where
  entries : List (α × V)
  ascending : Ascending Prod.fst entries

namespace OrderedMap

variable {V : Type}

def empty : OrderedMap α V := ⟨[], List.Pairwise.nil⟩

def insert (key : α) (value : V) (map : OrderedMap α V) : OrderedMap α V :=
  ⟨insertBy Prod.fst (key, value) map.entries,
    insertBy_ascending Prod.fst (key, value) map.entries map.ascending⟩

def erase (key : α) (map : OrderedMap α V) : OrderedMap α V :=
  ⟨map.entries.filter (·.1 ≠ key), map.ascending.filter _⟩

/-- Assignment under a key, whether or not it is taken. -/
def set (key : α) (value : V) (map : OrderedMap α V) : OrderedMap α V :=
  (map.erase key).insert key value

def find? (key : α) (map : OrderedMap α V) : Option V :=
  (map.entries.find? (·.1 = key)).map Prod.snd

def values (map : OrderedMap α V) : List V := map.entries.map Prod.snd

/-- Change the object stored under a key in place. -/
def modify (key : α) (change : V → V) (map : OrderedMap α V) : OrderedMap α V :=
  ⟨map.entries.map fun entry => if entry.1 = key then (entry.1, change entry.2) else entry, by
    refine List.pairwise_map.mpr (map.ascending.imp ?_)
    intro left right less
    split_ifs <;> exact less⟩

def mapValues (change : α → V → V) (map : OrderedMap α V) : OrderedMap α V :=
  ⟨map.entries.map fun entry => (entry.1, change entry.1 entry.2),
    List.pairwise_map.mpr (map.ascending.imp fun less => less)⟩

theorem find?_mem (key : α) (map : OrderedMap α V) (value : V)
    (found : map.find? key = some value) : (key, value) ∈ map.entries := by
  obtain ⟨entry, located, rfl⟩ := Option.map_eq_some_iff.mp found
  have same : entry.1 = key := by simpa using List.find?_some located
  exact same ▸ List.mem_of_find?_eq_some located

theorem find?_iff (key : α) (map : OrderedMap α V) (value : V) :
    map.find? key = some value ↔ (key, value) ∈ map.entries := by
  constructor
  · exact find?_mem key map value
  · intro member
    cases located : map.entries.find? (·.1 = key) with
    | none =>
        have absent := List.find?_eq_none.mp located (key, value) member
        simp at absent
    | some entry =>
        have same : entry.1 = key := by simpa using List.find?_some located
        -- `find?` may stop at no other entry, since the key occurs once
        have only := ascending_unique Prod.fst map.entries map.ascending entry (key, value)
          (List.mem_of_find?_eq_some located) member same
        simp [find?, located, only]

theorem find?_none_iff (key : α) (map : OrderedMap α V) :
    map.find? key = none ↔ ∀ entry ∈ map.entries, entry.1 ≠ key := by
  simp [find?]

theorem find?_insert (key other : α) (value : V) (map : OrderedMap α V) :
    (map.insert key value).find? other =
      if other = key then some ((map.find? key).getD value) else map.find? other := by
  split_ifs with same
  · subst same
    refine (find?_iff other _ _).mpr ?_
    cases found : map.find? other with
    | none =>
        exact mem_insertBy_new Prod.fst (other, value) map.entries
          ((find?_none_iff other map).mp found)
    | some old => exact mem_insertBy_of_mem Prod.fst _ _ _ (find?_mem other map old found)
  · refine Option.ext fun held => ?_
    rw [find?_iff, find?_iff]
    constructor
    · intro member
      rcases mem_insertBy Prod.fst (key, value) (other, held) map.entries member with new | old
      · exact absurd (Prod.mk.inj new).1 same
      · exact old
    · exact mem_insertBy_of_mem Prod.fst _ _ _

theorem find?_erase (key other : α) (map : OrderedMap α V) :
    (map.erase key).find? other = if other = key then none else map.find? other := by
  split_ifs with same
  · refine (find?_none_iff other _).mpr fun entry member => ?_
    simpa [same] using (List.mem_filter.mp member).2
  · refine Option.ext fun held => ?_
    rw [find?_iff, find?_iff]
    simp [erase, same]

theorem find?_set (key other : α) (value : V) (map : OrderedMap α V) :
    (map.set key value).find? other = if other = key then some value else map.find? other := by
  rw [set, find?_insert, find?_erase, if_pos rfl, Option.getD_none, find?_erase]
  split_ifs <;> rfl

theorem mem_modify (key : α) (change : V → V) (map : OrderedMap α V) (entry : α × V) :
    entry ∈ (map.modify key change).entries ↔
      ∃ old ∈ map.entries, entry.1 = old.1 ∧
        entry.2 = if old.1 = key then change old.2 else old.2 := by
  simp only [modify, List.mem_map]
  constructor
  · rintro ⟨old, member, rfl⟩
    exact ⟨old, member, by split_ifs <;> rfl, by split_ifs <;> rfl⟩
  · rintro ⟨old, member, sameKey, sameValue⟩
    refine ⟨old, member, ?_⟩
    rw [← Prod.eta entry, sameKey, sameValue]
    split_ifs <;> rfl

theorem find?_modify (key other : α) (change : V → V) (map : OrderedMap α V) :
    (map.modify key change).find? other =
      (map.find? other).map fun value => if other = key then change value else value := by
  cases found : map.find? other with
  | some value =>
      have member := (find?_iff other map value).mp found
      refine (find?_iff other _ _).mpr ((mem_modify key change map _).mpr ?_)
      exact ⟨(other, value), member, rfl, rfl⟩
  | none =>
      cases changed : (map.modify key change).find? other with
      | none => rfl
      | some value =>
          obtain ⟨old, member, same, -⟩ :=
            (mem_modify key change map _).mp ((find?_iff other _ value).mp changed)
          have present : map.find? other = some old.2 :=
            (find?_iff other map old.2).mpr (by rw [show other = old.1 from same]; exact member)
          rw [present] at found
          cases found

theorem erase_modify (key : α) (change : V → V) (map : OrderedMap α V) :
    (map.modify key change).erase key = map.erase key := by
  apply OrderedMap.ext
  simp only [modify, erase]
  induction map.entries with
  | nil => rfl
  | cons entry rest ih =>
      rw [List.map_cons, List.filter_cons, List.filter_cons, ih]
      by_cases here : entry.1 = key <;> simp [here]

/-- A search along the entries ends at the least key that fits. -/
theorem search_iff (fits : α × V → Bool) (map : OrderedMap α V) (entry : α × V) :
    map.entries.find? fits = some entry ↔
      entry ∈ map.entries ∧ fits entry = true ∧
        ∀ other ∈ map.entries, fits other = true → entry.1 ≤ other.1 := by
  have least : ∀ found, map.entries.find? fits = some found →
      ∀ other ∈ map.entries, fits other = true → found.1 ≤ other.1 := by
    intro found located other member hit
    -- whatever stands before the found entry does not fit
    obtain ⟨-, before, after, split, earlier⟩ := List.find?_eq_some_iff_append.mp located
    have order := map.ascending
    rw [split] at member order
    rcases List.mem_append.mp member with early | late
    · simpa [hit] using earlier other early
    · rcases List.mem_cons.mp late with here | later
      · rw [here]
      · exact ((List.pairwise_cons.mp (List.pairwise_append.mp order).2.1).1 other later).le
  constructor
  · intro located
    exact ⟨List.mem_of_find?_eq_some located, List.find?_some located, least entry located⟩
  · rintro ⟨member, hit, smallest⟩
    cases located : map.entries.find? fits with
    | none => exact absurd hit (List.find?_eq_none.mp located entry member)
    | some found =>
        have inside := List.mem_of_find?_eq_some located
        have same := le_antisymm (least found located entry member hit)
          (smallest found inside (List.find?_some located))
        rw [ascending_unique Prod.fst map.entries map.ascending found entry inside member same]

/-! Maps with the same keys and related values; the operations keep the relation. -/
section Related

variable {relation : V → V → Prop}

def SameEntry (relation : V → V → Prop) (left right : α × V) : Prop :=
  left.1 = right.1 ∧ relation left.2 right.2

def Related (relation : V → V → Prop) (left right : OrderedMap α V) : Prop :=
  List.Forall₂ (SameEntry relation) left.entries right.entries

theorem related_insert (reflexive : ∀ value, relation value value) (key : α) (value : V)
    {left right : OrderedMap α V} (related : Related relation left right) :
    Related relation (left.insert key value) (right.insert key value) := by
  unfold Related at related ⊢
  simp only [insert]
  generalize left.entries = lefts at related ⊢
  generalize right.entries = rights at related ⊢
  induction related with
  | nil => exact .cons ⟨rfl, reflexive value⟩ .nil
  | @cons one other _ _ head tail ih =>
      rw [insertBy, insertBy, ← head.1]
      split_ifs
      · exact .cons ⟨rfl, reflexive value⟩ (.cons head tail)
      · exact .cons head ih
      · exact .cons head tail

theorem related_erase (key : α) {left right : OrderedMap α V}
    (related : Related relation left right) :
    Related relation (left.erase key) (right.erase key) := by
  unfold Related at related ⊢
  simp only [erase]
  generalize left.entries = lefts at related ⊢
  generalize right.entries = rights at related ⊢
  induction related with
  | nil => exact .nil
  | @cons one other _ _ head tail ih =>
      by_cases here : other.1 = key
      · simpa [List.filter_cons, head.1, here] using ih
      · simpa [List.filter_cons, head.1, here] using List.Forall₂.cons head ih

theorem related_modify (key : α) {change : V → V} {left right : OrderedMap α V}
    (respects : ∀ one other, relation one other → relation (change one) (change other))
    (related : Related relation left right) :
    Related relation (left.modify key change) (right.modify key change) := by
  refine List.forall₂_map_left_iff.mpr (List.forall₂_map_right_iff.mpr (related.imp ?_))
  rintro one other ⟨keys, values⟩
  rw [keys]
  split_ifs
  · exact ⟨rfl, respects _ _ values⟩
  · exact ⟨keys, values⟩

theorem related_find? (key : α) {left right : OrderedMap α V}
    (related : Related relation left right) :
    Option.Rel relation (left.find? key) (right.find? key) := by
  unfold Related at related
  simp only [find?]
  generalize left.entries = lefts at related ⊢
  generalize right.entries = rights at related ⊢
  induction related with
  | nil => exact .none
  | @cons one other _ _ head tail ih =>
      rw [List.find?_cons, List.find?_cons, head.1]
      by_cases here : other.1 = key
      · simpa [here] using Option.Rel.some head.2
      · simpa [here] using ih

end Related

end OrderedMap

end EdoyumIM.OrderedStore
