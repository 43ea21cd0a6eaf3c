import Mathlib

/-!
A list of records kept beside a keyed table. `Paired` says that a key occurs
once on the left, that both sides have the same keys, and that a record is
related to the entry under its key. The rules below carry the pairing through
an insertion on both sides, a change under one key, a change of the records
alone, and a fresh load of the records from the table; the relation may change
with the step.
-/

namespace EdoyumIM.PairedLists

variable {α β κ : Type} {key : α → κ} {keyOf : β → κ} {related next : α → β → Prop}
  {left : List α} {right : List β}

structure Paired (key : α → κ) (keyOf : β → κ) (related : α → β → Prop) (left : List α)
    (right : List β) : Prop where
  distinct : (left.map key).Nodup
  covered : ∀ entry ∈ right, ∃ record ∈ left, key record = keyOf entry
  matched : ∀ record ∈ left, ∃ entry ∈ right, key record = keyOf entry ∧ related record entry

theorem Paired.mem_keys (paired : Paired key keyOf related left right) (id : κ) :
    id ∈ left.map key ↔ id ∈ right.map keyOf := by
  constructor
  · intro member
    obtain ⟨record, inside, rfl⟩ := List.mem_map.mp member
    obtain ⟨entry, present, same, -⟩ := paired.matched record inside
    exact List.mem_map.mpr ⟨entry, present, same.symm⟩
  · intro member
    obtain ⟨entry, inside, rfl⟩ := List.mem_map.mp member
    obtain ⟨record, present, same⟩ := paired.covered entry inside
    exact List.mem_map.mpr ⟨record, present, same⟩

theorem Paired.unique (paired : Paired key keyOf related left right) {one other : α}
    (here : one ∈ left) (there : other ∈ left) (same : key one = key other) : one = other :=
  List.inj_on_of_nodup_map paired.distinct here there same

/-- Where the keys of the table are distinct too, a record is related to every
entry under its key. -/
theorem Paired.related_of_key (paired : Paired key keyOf related left right)
    (primary : (right.map keyOf).Nodup) {record : α} {entry : β} (here : record ∈ left)
    (there : entry ∈ right) (same : key record = keyOf entry) : related record entry := by
  obtain ⟨other, present, sameKey, holds⟩ := paired.matched record here
  have only := List.inj_on_of_nodup_map primary present there (sameKey.symm.trans same)
  rwa [← only]

/-- The relation may be replaced by one that follows from it. -/
theorem Paired.imp (paired : Paired key keyOf related left right)
    (weaken : ∀ record entry, related record entry → next record entry) :
    Paired key keyOf next left right := by
  refine ⟨paired.distinct, paired.covered, ?_⟩
  intro record member
  obtain ⟨entry, present, same, holds⟩ := paired.matched record member
  exact ⟨entry, present, same, weaken record entry holds⟩

theorem Paired.append (paired : Paired key keyOf related left right) (record : α) (entry : β)
    (free : key record ∉ right.map keyOf) (same : key record = keyOf entry)
    (new : next record entry)
    (old : ∀ other row, key other ≠ key record → related other row → next other row) :
    Paired key keyOf next (left ++ [record]) (right ++ [entry]) := by
  have absent : ∀ other ∈ left, key other ≠ key record := by
    intro other member taken
    exact free ((paired.mem_keys _).mp (List.mem_map.mpr ⟨other, member, taken⟩))
  constructor
  · rw [List.map_append, List.map_singleton]
    apply List.nodup_append.mpr
    refine ⟨paired.distinct, by simp, ?_⟩
    rintro id member other last rfl
    obtain ⟨taken, inside, sameKey⟩ := List.mem_map.mp member
    exact absent taken inside (sameKey.trans (List.mem_singleton.mp last))
  · intro row member
    rcases List.mem_append.mp member with inside | last
    · obtain ⟨other, present, sameKey⟩ := paired.covered row inside
      exact ⟨other, List.mem_append_left _ present, sameKey⟩
    · obtain rfl := List.mem_singleton.mp last
      exact ⟨record, by simp, same⟩
  · intro other member
    rcases List.mem_append.mp member with inside | last
    · obtain ⟨row, present, sameKey, holds⟩ := paired.matched other inside
      exact ⟨row, List.mem_append_left _ present, sameKey,
        old other row (absent other inside) holds⟩
    · obtain rfl := List.mem_singleton.mp last
      exact ⟨entry, by simp, same, new⟩

/-- A change of the records and one of the entries that both keep the keys. -/
theorem Paired.map (paired : Paired key keyOf related left right) (change : α → α)
    (changeRow : β → β) (keepsKey : ∀ record, key (change record) = key record)
    (keepsRow : ∀ entry, keyOf (changeRow entry) = keyOf entry)
    (moved : ∀ record entry, key record = keyOf entry → related record entry →
      next (change record) (changeRow entry)) :
    Paired key keyOf next (left.map change) (right.map changeRow) := by
  constructor
  · rw [List.map_map, show key ∘ change = key from funext keepsKey]
    exact paired.distinct
  · intro entry member
    obtain ⟨row, inside, rfl⟩ := List.mem_map.mp member
    obtain ⟨record, present, same⟩ := paired.covered row inside
    exact ⟨change record, List.mem_map_of_mem present, by rw [keepsKey, keepsRow, same]⟩
  · intro record member
    obtain ⟨old, inside, rfl⟩ := List.mem_map.mp member
    obtain ⟨entry, present, same, holds⟩ := paired.matched old inside
    exact ⟨changeRow entry, List.mem_map_of_mem present, by rw [keepsKey, keepsRow, same],
      moved old entry same holds⟩

/-- Records made from the entries of the table, in any order. -/
theorem paired_load (load : β → α) (primary : (right.map keyOf).Nodup) (order : List β)
    (permuted : order.Perm right) (keepsKey : ∀ entry, key (load entry) = keyOf entry)
    (loaded : ∀ entry, related (load entry) entry) :
    Paired key keyOf related (order.map load) right := by
  constructor
  · rw [List.map_map, show key ∘ load = keyOf from funext keepsKey]
    exact ((permuted.map keyOf).nodup_iff).mpr primary
  · intro entry member
    exact ⟨load entry, List.mem_map_of_mem (permuted.mem_iff.mpr member), keepsKey entry⟩
  · intro record member
    obtain ⟨entry, inside, rfl⟩ := List.mem_map.mp member
    exact ⟨entry, permuted.mem_iff.mp inside, keepsKey entry, loaded entry⟩

end EdoyumIM.PairedLists
