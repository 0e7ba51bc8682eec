/-!
Tables: values under text keys, kept in ascending order of the keys with each key once. Looking
up is by key; writing a key replaces what stood under it, and `extend` writes all entries of
another table over those of the first. Writing is seen by `get?` under its key only, and keeps
the keys in order (`get?_insert`, `sorted_insert`).
-/

namespace ProcessStep

/-- Entries in ascending order of their keys. -/
abbrev Table (α : Type u) := List (String × α)

namespace Table

variable {α : Type u} {β : Type v}

def get? (t : Table α) (k : String) : Option α :=
  match t with
  | [] => none
  | (k', v) :: rest => if k' = k then some v else get? rest k

def contains (t : Table α) (k : String) : Bool :=
  (get? t k).isSome

/-- Writes `v` under `k`; an earlier value of that key is lost. -/
def insert (t : Table α) (k : String) (v : α) : Table α :=
  match t with
  | [] => [(k, v)]
  | (k', v') :: rest =>
      if k < k' then (k, v) :: (k', v') :: rest
      else if k = k' then (k, v) :: rest
      else (k', v') :: insert rest k v

/-- Entries written one after the other, so that the last value of a key counts. -/
def extend (t : Table α) (entries : List (String × α)) : Table α :=
  entries.foldl (fun t e => t.insert e.1 e.2) t

def ofList (entries : List (String × α)) : Table α :=
  extend [] entries

def keys (t : Table α) : List String :=
  t.map (·.1)

def insertSome (t : Table α) (k : String) (v : Option α) : Table α :=
  match v with
  | some v => t.insert k v
  | none => t

/-- Adds `v` at the end of the list under `k`. -/
def push {β : Type v} (t : Table (List β)) (k : String) (v : β) : Table (List β) :=
  t.insert k ((t.get? k).getD [] ++ [v])

/-- The keys ascend strictly. -/
def Sorted (t : Table α) : Prop :=
  List.Pairwise (fun a b => a.1 < b.1) t

instance (t : Table α) : Decidable t.Sorted :=
  inferInstanceAs (Decidable (List.Pairwise (fun a b => a.1 < b.1) t))

@[simp] theorem get?_nil (k : String) : get? ([] : Table α) k = none := rfl

theorem get?_cons (k' : String) (v : α) (t : Table α) (k : String) :
    get? ((k', v) :: t) k = if k' = k then some v else get? t k := rfl

@[simp] theorem get?_insert_self (t : Table α) (k : String) (v : α) :
    (t.insert k v).get? k = some v := by
  induction t with
  | nil => simp [insert, get?]
  | cons e rest ih =>
    obtain ⟨k', v'⟩ := e
    unfold insert
    split
    · simp [get?]
    · split
      · simp [get?]
      · next h => simp [get?, Ne.symm h, ih]

theorem get?_insert_of_ne (t : Table α) {k k' : String} (v : α) (h : k ≠ k') :
    (t.insert k v).get? k' = t.get? k' := by
  induction t with
  | nil => simp [insert, get?, h]
  | cons e rest ih =>
    obtain ⟨key, old⟩ := e
    unfold insert
    split
    · simp [get?, h]
    · split
      · next hk => subst hk; simp [get?, h]
      · simp [get?, ih]

theorem get?_insert (t : Table α) (k k' : String) (v : α) :
    (t.insert k v).get? k' = if k = k' then some v else t.get? k' := by
  split
  · next h => subst h; simp
  · next h => exact get?_insert_of_ne t v h

theorem get?_insertSome (t : Table α) (k k' : String) (v : Option α) :
    (t.insertSome k v).get? k' = if k = k' then v.or (t.get? k') else t.get? k' := by
  cases v with
  | none => simp [insertSome]
  | some v => simp [insertSome, get?_insert]

@[simp] theorem extend_nil (t : Table α) : t.extend [] = t := rfl

@[simp] theorem extend_cons (t : Table α) (e : String × α) (es : List (String × α)) :
    t.extend (e :: es) = (t.insert e.1 e.2).extend es := rfl

theorem sorted_nil : Sorted ([] : Table α) := List.Pairwise.nil

theorem eq_or_mem_of_mem_insert {t : Table α} {k : String} {v : α} {e : String × α}
    (h : e ∈ t.insert k v) : e = (k, v) ∨ e ∈ t := by
  induction t with
  | nil => simpa [insert] using h
  | cons entry rest ih =>
    obtain ⟨key, old⟩ := entry
    unfold insert at h
    split at h
    · simpa using h
    · split at h
      · rcases List.mem_cons.1 h with rfl | h
        · exact .inl rfl
        · exact .inr (List.mem_cons_of_mem _ h)
      · rcases List.mem_cons.1 h with rfl | h
        · exact .inr List.mem_cons_self
        · exact (ih h).imp id (List.mem_cons_of_mem _)

theorem sorted_insert {t : Table α} (sorted : t.Sorted) (k : String) (v : α) :
    (t.insert k v).Sorted := by
  induction t with
  | nil => exact List.pairwise_singleton _ _
  | cons entry rest ih =>
    obtain ⟨key, old⟩ := entry
    obtain ⟨above, ascending⟩ := List.pairwise_cons.1 sorted
    unfold insert
    split
    · next less =>
        refine List.pairwise_cons.2 ⟨fun e he => ?_, sorted⟩
        rcases List.mem_cons.1 he with rfl | he
        · exact less
        · exact String.lt_trans less (above e he)
    · next notLess =>
        split
        · next same => exact List.pairwise_cons.2 ⟨same ▸ above, ascending⟩
        · next differs =>
            refine List.pairwise_cons.2 ⟨fun e he => ?_, ih ascending⟩
            rcases eq_or_mem_of_mem_insert he with rfl | he
            · exact Std.lt_of_le_of_ne (String.not_lt.1 notLess) (Ne.symm differs)
            · exact above e he

theorem sorted_extend {t : Table α} (sorted : t.Sorted) (entries : List (String × α)) :
    (t.extend entries).Sorted := by
  induction entries generalizing t with
  | nil => exact sorted
  | cons e rest ih => exact ih (sorted_insert sorted e.1 e.2)

theorem sorted_ofList (entries : List (String × α)) : (ofList entries).Sorted :=
  sorted_extend sorted_nil entries

end Table

end ProcessStep
