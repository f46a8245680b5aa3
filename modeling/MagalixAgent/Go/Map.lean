import MagalixAgent.Go.Basic

namespace MagalixAgent

/-! Go maps as lists of entries, one per key, and the orders in which `range`
may visit them. Go randomises the iteration order of a map, so every `range`
over a map in the model takes its order from a `MapOrder`: any arrangement of
the entries. -/

/-- A Go `map[κ]ν`: its entries in the order the keys were first inserted. -/
abbrev GoMap (κ ν : Type) := List (κ × ν)

namespace GoMap

variable {κ ν : Type} [DecidableEq κ]

/-- `map[κ]ν{}`. -/
def empty : GoMap κ ν := []

/-- `value, ok := m[key]`. -/
def lookup (entries : GoMap κ ν) (key : κ) : Option ν :=
  (List.lookup key entries)

/-- `m[key] = value`: the entry of `key` takes the new value where it stands, or
a new entry is added. -/
def insert (entries : GoMap κ ν) (key : κ) (value : ν) : GoMap κ ν :=
  if (entries.lookup key).isSome then
    List.map (fun entry => if entry.1 = key then (key, value) else entry) entries
  else List.concat entries (key, value)

theorem keys_insert (entries : GoMap κ ν) (key : κ) (value : ν) :
    List.map Prod.fst (entries.insert key value) =
      if (entries.lookup key).isSome then List.map Prod.fst entries
      else List.concat (List.map Prod.fst entries) key := by
  unfold insert
  split
  · simp only [List.map_map]
    congr 1
    funext entry
    by_cases same : entry.1 = key <;> simp [same]
  · simp

theorem mem_insert {entries : GoMap κ ν} {key : κ} {value : ν} {entry : κ × ν}
    (member : entry ∈ entries.insert key value) : entry ∈ entries ∨ entry = (key, value) := by
  unfold insert at member
  split at member
  · obtain ⟨old, oldMember, replaced⟩ := List.mem_map.mp member
    by_cases same : old.1 = key
    · rw [if_pos same] at replaced
      exact .inr replaced.symm
    · rw [if_neg same] at replaced
      exact .inl (replaced ▸ oldMember)
  · simpa using member

theorem mem_of_lookup {entries : GoMap κ ν} {key : κ} {value : ν}
    (found : entries.lookup key = some value) : (key, value) ∈ entries := by
  induction entries with
  | nil => cases found
  | cons head tail induction =>
      unfold lookup at found
      by_cases same : key = head.1
      · simp only [List.lookup, same, beq_self_eq_true, Option.some.injEq] at found
        subst found
        exact same ▸ List.mem_cons_self _ _
      · have different : (key == head.1) = false := beq_false_of_ne same
        simp only [List.lookup, different] at found
        exact List.mem_cons_of_mem _ (induction found)

omit [DecidableEq κ] in
theorem nodup_empty : ((empty : GoMap κ ν).map Prod.fst).Nodup := List.nodup_nil

theorem lookup_eq_none {entries : GoMap κ ν} {key : κ} :
    entries.lookup key = none ↔ key ∉ entries.map Prod.fst := by
  induction entries with
  | nil => simp [lookup]
  | cons head tail induction =>
      by_cases same : key = head.1
      · simp [lookup, List.lookup, same]
      · have different : (key == head.1) = false := beq_false_of_ne same
        simp only [lookup] at induction
        simp [lookup, List.lookup, different, induction, same]

/-- Inserting keeps one entry per key. -/
theorem nodup_insert {entries : GoMap κ ν} (nodup : (entries.map Prod.fst).Nodup) (key : κ)
    (value : ν) : ((entries.insert key value).map Prod.fst).Nodup := by
  rw [keys_insert]
  split
  · exact nodup
  · rename_i absent
    rw [List.concat_eq_append]
    exact nodup.append (List.nodup_singleton _) (List.disjoint_singleton.mpr
      (lookup_eq_none.mp (Option.not_isSome_iff_eq_none.mp absent)))

/-- With one entry per key, every entry is what its key looks up. -/
theorem lookup_of_mem {entries : GoMap κ ν} (nodup : (entries.map Prod.fst).Nodup)
    {entry : κ × ν} (member : entry ∈ entries) : entries.lookup entry.1 = some entry.2 := by
  induction entries with
  | nil => cases member
  | cons head tail induction =>
      rw [List.map_cons, List.nodup_cons] at nodup
      rcases List.mem_cons.mp member with rfl | later
      · simp [lookup, List.lookup]
      · have different : (entry.1 == head.1) = false := beq_false_of_ne fun same =>
          nodup.1 (same ▸ List.mem_map_of_mem Prod.fst later)
        simpa [lookup, List.lookup, different] using induction nodup.2 later

theorem lookup_append (front back : GoMap κ ν) (key : κ) :
    (front ++ back).lookup key = (front.lookup key).or (back.lookup key) := by
  induction front with
  | nil => rfl
  | cons head tail induction =>
      by_cases same : key = head.1
      · simp [lookup, List.lookup, same]
      · simpa [lookup, List.lookup, beq_false_of_ne same] using induction

theorem lookup_append_last {entries : GoMap κ ν} {key : κ} (absent : entries.lookup key = none)
    (value : ν) : (entries ++ [(key, value)]).lookup key = some value := by
  rw [lookup_append, absent]
  simp [lookup, List.lookup]

@[simp] theorem insert_nil (key : κ) (value : ν) :
    GoMap.insert ([] : GoMap κ ν) key value = [(key, value)] := rfl

theorem lookup_map_replace (entries : GoMap κ ν) (key other : κ) (value : ν) :
    GoMap.lookup (entries.map fun entry => if entry.1 = key then (key, value) else entry) other =
      if other = key then (entries.lookup key).map fun _ => value else entries.lookup other := by
  induction entries with
  | nil => split <;> rfl
  | cons head tail induction =>
      obtain ⟨headKey, headValue⟩ := head
      simp only [lookup] at induction ⊢
      by_cases replaced : headKey = key
      · subst replaced
        rw [List.map_cons, if_pos rfl]
        by_cases same : other = headKey
        · subst same
          simp [List.lookup]
        · simp [List.lookup, same, beq_false_of_ne same, induction]
      · rw [List.map_cons, if_neg replaced]
        by_cases same : other = key
        · subst same
          simp [List.lookup, beq_false_of_ne (Ne.symm replaced), induction]
        · by_cases found : other = headKey
          · subst found
            simp [List.lookup, same]
          · simp [List.lookup, same, beq_false_of_ne found, induction]

theorem lookup_insert (entries : GoMap κ ν) (key other : κ) (value : ν) :
    (entries.insert key value).lookup other =
      if other = key then some value else entries.lookup other := by
  unfold insert
  split
  · rename_i present
    rw [lookup_map_replace]
    split
    · obtain ⟨found, lookedUp⟩ := Option.isSome_iff_exists.mp present
      simp [lookedUp]
    · rfl
  · rename_i absent
    rw [List.concat_eq_append, lookup_append]
    by_cases same : other = key
    · subst same
      rw [Option.not_isSome_iff_eq_none.mp absent]
      simp [lookup, List.lookup]
    · cases entries.lookup other <;> simp [same, lookup, List.lookup, beq_false_of_ne same]

/-- A new key is appended. -/
theorem insert_of_lookup_eq_none {entries : GoMap κ ν} {key : κ}
    (absent : entries.lookup key = none) (value : ν) :
    entries.insert key value = entries ++ [(key, value)] := by
  simp [insert, absent]

/-- The last entry takes the new value of its key in place. -/
theorem insert_last {entries : GoMap κ ν} {key : κ} (absent : entries.lookup key = none)
    (old value : ν) : (entries ++ [(key, old)]).insert key value = entries ++ [(key, value)] := by
  have others : ∀ entry ∈ entries, entry.1 ≠ key := fun entry member same =>
    lookup_eq_none.mp absent (List.mem_map.mpr ⟨entry, member, same⟩)
  unfold insert
  rw [if_pos (by simp [lookup_append, absent, lookup, List.lookup])]
  simp only [List.map_append, List.map_cons, List.map_nil, if_pos rfl]
  congr 1
  exact (List.map_congr_left fun entry member => if_neg (others entry member)).trans
    (List.map_id _)

theorem insert_ne_nil (entries : GoMap κ ν) (key : κ) (value : ν) :
    entries.insert key value ≠ [] := by
  unfold insert
  split
  · rename_i present
    intro empty
    simp [List.map_eq_nil_iff.mp empty, lookup] at present
  · simp

end GoMap

/-- An iteration order the Go runtime may choose for `range` over a map: any
arrangement of the entries. -/
structure MapOrder where
  arrange : {α : Type} → List α → List α
  perm : ∀ {α : Type} (entries : List α), (arrange entries).Perm entries

/-- Visiting the entries in insertion order. -/
def MapOrder.insertion : MapOrder := ⟨fun entries => entries, fun _ => List.Perm.refl _⟩

@[simp] theorem MapOrder.arrange_nil (order : MapOrder) {α : Type} :
    order.arrange ([] : List α) = [] :=
  (order.perm []).eq_nil

theorem MapOrder.mem_arrange (order : MapOrder) {α : Type} {entries : List α} {entry : α} :
    entry ∈ order.arrange entries ↔ entry ∈ entries :=
  (order.perm entries).mem_iff

end MagalixAgent
