import ProcessStep.Table

/-!
What is found in tables. Of several entries that are written under a key the last one is found
(`get?_extend`), and what is found under all keys determines a sorted table (`ext_of_sorted`).
-/

namespace ProcessStep.Table

variable {α : Type u} {t t' : Table α} {es : List (String × α)} {k : String} {v : α}

/-! ### Places of entries -/

theorem insert_nil (k : String) (v : α) : insert [] k v = [(k, v)] := rfl

theorem insert_of_lt {k' : String} {v' : α} (before : k < k') :
    insert ((k', v') :: t) k v = (k, v) :: (k', v') :: t := by
  rw [insert, if_pos before]

theorem insert_of_gt {k' : String} {v' : α} (behind : k' < k) :
    insert ((k', v') :: t) k v = (k', v') :: insert t k v := by
  rw [insert, if_neg (String.lt_asymm behind), if_neg (Std.ne_of_lt behind).symm]

/-! ### Entries written one after the other -/

def last? (es : List (String × α)) (k : String) : Option α :=
  match es with
  | [] => none
  | e :: rest => (last? rest k).or (if e.1 = k then some e.2 else none)

/-- What is written last under a key is found, or else what was there before. -/
theorem get?_extend (t : Table α) (es : List (String × α)) (k : String) :
    (t.extend es).get? k = (last? es k).or (t.get? k) := by
  induction es generalizing t with
  | nil => rfl
  | cons e es ih =>
      rw [extend_cons, ih, get?_insert, last?]
      cases last? es k with
      | some v => rfl
      | none => by_cases same : e.1 = k <;> simp [same]

theorem get?_ofList (es : List (String × α)) (k : String) : (ofList es).get? k = last? es k := by
  rw [ofList, get?_extend, get?_nil, Option.or_none]

theorem last?_eq_none_iff : last? es k = none ↔ k ∉ es.map (·.1) := by
  induction es with
  | nil => simp [last?]
  | cons e es ih =>
      rw [last?, Option.or_eq_none_iff, ih, List.map_cons, List.mem_cons, not_or, and_comm]
      simp [eq_comm]

/-- The entry behind which no other has its key is the last one. -/
theorem last?_append_cons {before after : List (String × α)} (last : k ∉ after.map (·.1)) :
    last? (before ++ (k, v) :: after) k = some v := by
  induction before with
  | nil => simp [last?, last?_eq_none_iff.mpr last]
  | cons e before ih => rw [List.cons_append, last?, ih, Option.some_or]

/-- With distinct keys there is no later entry, so every entry is the last of its key. -/
theorem last?_of_mem (distinct : (es.map (·.1)).Nodup) (member : (k, v) ∈ es) :
    last? es k = some v := by
  induction es with
  | nil => cases member
  | cons e es ih =>
      obtain ⟨first, rest⟩ := List.nodup_cons.mp distinct
      rw [last?]
      rcases List.mem_cons.mp member with rfl | later
      · rw [last?_eq_none_iff.mpr first, Option.none_or, if_pos rfl]
      · rw [ih rest later, Option.some_or]

theorem last?_eq_getLast? (es : List (String × α)) (k : String) :
    last? es k = ((es.filter (·.1 = k)).getLast?).map (·.2) := by
  induction es with
  | nil => rfl
  | cons e es ih =>
      rw [last?, ih, List.filter_cons]
      by_cases same : e.1 = k
      · rw [if_pos same, if_pos (by simpa using same), List.getLast?_cons]
        cases (es.filter (·.1 = k)).getLast? <;> rfl
      · rw [if_neg same, if_neg (by simpa using same), Option.or_none]

/-- Entries under other keys do not matter. -/
theorem last?_filter (p : String → Bool) (kept : p k = true) (es : List (String × α)) :
    last? (es.filter fun e => p e.1) k = last? es k := by
  induction es with
  | nil => rfl
  | cons e es ih =>
      rw [List.filter_cons, last?]
      by_cases passes : p e.1 = true
      · rw [if_pos passes, last?, ih]
      · have differs : e.1 ≠ k := fun same => passes (same ▸ kept)
        rw [if_neg passes, ih, if_neg differs, Option.or_none]

/-! ### Sorted tables -/

/-- Keys in strictly ascending order are distinct. -/
theorem distinct_of_sorted (sorted : t.Sorted) : (t.map (·.1)).Nodup :=
  List.pairwise_map.mpr (sorted.imp Std.ne_of_lt)

theorem mem_of_get? (found : t.get? k = some v) : (k, v) ∈ t := by
  induction t with
  | nil => cases found
  | cons e t ih =>
      obtain ⟨key, value⟩ := e
      rw [get?_cons] at found
      by_cases same : key = k
      · rw [if_pos same] at found
        cases found
        exact same ▸ List.mem_cons_self
      · rw [if_neg same] at found
        exact List.mem_cons_of_mem _ (ih found)

theorem get?_eq_none_iff : t.get? k = none ↔ k ∉ t.map (·.1) := by
  induction t with
  | nil => simp
  | cons e t ih =>
      obtain ⟨key, value⟩ := e
      rw [get?_cons, List.map_cons, List.mem_cons, not_or]
      by_cases same : key = k
      · simp [same]
      · rw [if_neg same, ih]
        exact ⟨fun absent => ⟨Ne.symm same, absent⟩, fun absent => absent.2⟩

theorem isSome_last? (es : List (String × α)) (k : String) :
    (last? es k).isSome = (get? es k).isSome := by
  rw [Bool.eq_iff_iff, Option.isSome_iff_ne_none, Option.isSome_iff_ne_none, ne_eq, ne_eq,
    last?_eq_none_iff, get?_eq_none_iff]

theorem get?_of_mem (distinct : (t.map (·.1)).Nodup) (member : (k, v) ∈ t) :
    t.get? k = some v := by
  induction t with
  | nil => cases member
  | cons e t ih =>
      obtain ⟨first, rest⟩ := List.nodup_cons.mp distinct
      obtain ⟨key, value⟩ := e
      rw [get?_cons]
      rcases List.mem_cons.mp member with same | later
      · cases same
        rw [if_pos rfl]
      · have listed : k ∈ t.map (·.1) := List.mem_map_of_mem later
        have differs : key ≠ k := fun same => first (same ▸ listed)
        rw [if_neg differs, ih rest later]

/-- In a sorted table exactly the entries are found. -/
theorem get?_eq_some_iff (sorted : t.Sorted) : t.get? k = some v ↔ (k, v) ∈ t :=
  ⟨mem_of_get?, get?_of_mem (distinct_of_sorted sorted)⟩

/-- Sorted tables in which the same is found are the same. -/
theorem ext_of_sorted (sorted : t.Sorted) (sorted' : t'.Sorted)
    (same : ∀ k, t.get? k = t'.get? k) : t = t' := by
  have differ {a b : String × α} (less : a.1 < b.1) : a ≠ b := fun same =>
    String.lt_irrefl a.1 (same ▸ less)
  -- Both have the same entries, and there is only one order for them.
  have perm : t.Perm t' := (List.perm_ext_iff_of_nodup (sorted.imp differ)
    (sorted'.imp differ)).mpr fun e => by
      rw [← get?_eq_some_iff sorted, ← get?_eq_some_iff sorted', same]
  exact perm.eq_of_pairwise (fun a b _ _ less greater =>
    absurd (String.lt_trans less greater) (String.lt_irrefl a.1)) sorted sorted'

/-- In a sorted table the only entry under a key is the last one. -/
theorem last?_of_sorted (sorted : t.Sorted) (k : String) : last? t k = t.get? k := by
  cases found : t.get? k with
  | none => exact last?_eq_none_iff.mpr (get?_eq_none_iff.mp found)
  | some v => exact last?_of_mem (distinct_of_sorted sorted) (mem_of_get? found)

/-- Writing the entries of a sorted table makes the same table. -/
theorem ofList_of_sorted (sorted : t.Sorted) : ofList t = t :=
  ext_of_sorted (sorted_ofList t) sorted fun k => by rw [get?_ofList, last?_of_sorted sorted]

theorem sorted_map {β : Type v} (sorted : t.Sorted) (f : α → β) :
    Sorted (t.map fun e => (e.1, f e.2)) :=
  List.pairwise_map.mpr sorted

theorem get?_filter_ne (t : Table α) (k k' : String) :
    get? (t.filter fun e => e.1 ≠ k) k' = if k' = k then none else t.get? k' := by
  induction t with
  | nil => simp
  | cons e t ih =>
      obtain ⟨key, v⟩ := e
      rw [List.filter_cons, get?_cons]
      by_cases dropped : key = k
      · rw [if_neg (by simpa using dropped), ih]
        by_cases same : k' = k
        · rw [if_pos same, if_pos same]
        · rw [if_neg same, if_neg same, if_neg fun other => same (other.symm.trans dropped)]
      · rw [if_pos (by simpa using dropped), get?_cons, ih]
        by_cases same : key = k'
        · rw [if_pos same, if_pos same, if_neg (same ▸ dropped)]
        · rw [if_neg same, if_neg same]

theorem get?_map {β : Type v} (f : α → β) (t : Table α) (k : String) :
    get? (t.map fun e => (e.1, f e.2)) k = (t.get? k).map f := by
  induction t with
  | nil => rfl
  | cons e t ih =>
      rw [List.map_cons, get?_cons, ih, get?_cons]
      by_cases same : e.1 = k <;> simp [same]

end ProcessStep.Table
