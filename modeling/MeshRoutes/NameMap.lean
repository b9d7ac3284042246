/-!
# Maps from names

A finite map whose entries stand in ascending order of their names, by code point. Maps with
the same value at every name are equal, so a map has one form whatever order it was built in.
-/

namespace MeshRoutes

structure NameMap (α : Type) where
  entries : List (String × α)
  ascending : entries.Pairwise fun a b => a.1 < b.1

namespace NameMap

variable {α : Type}

def empty : NameMap α := ⟨[], .nil⟩

instance : Inhabited (NameMap α) := ⟨empty⟩

/-- The value of the first entry of a name. -/
def lookup (name : String) : List (String × α) → Option α
  | [] => none
  | (n, v) :: rest => if n = name then some v else lookup name rest

def get? (map : NameMap α) (name : String) : Option α := lookup name map.entries

def names (map : NameMap α) : List String := map.entries.map Prod.fst

/-- The values, in the order of their names. -/
def values (map : NameMap α) : List α := map.entries.map Prod.snd

/-! ## Insertion -/

/-- Puts an entry in its place, or in the place of the entry of that name. -/
def insertEntry (name : String) (value : α) : List (String × α) → List (String × α)
  | [] => [(name, value)]
  | (n, v) :: rest =>
    if name < n then (name, value) :: (n, v) :: rest
    else if name = n then (name, value) :: rest
    else (n, v) :: insertEntry name value rest

private theorem lt_of_not_lt_of_ne {a b : String} (h : ¬a < b) (hne : a ≠ b) : b < a :=
  Std.lt_of_le_of_ne (String.not_lt.1 h) hne.symm

theorem mem_insertEntry {name : String} {value : α} {entries : List (String × α)}
    {e : String × α} (h : e ∈ insertEntry name value entries) :
    e = (name, value) ∨ e ∈ entries := by
  induction entries with
  | nil => exact .inl (by simpa [insertEntry] using h)
  | cons entry rest ih =>
    obtain ⟨n, v⟩ := entry
    unfold insertEntry at h
    split at h
    · simpa using h
    · split at h
      · rcases List.mem_cons.1 h with h | h
        · exact .inl h
        · exact .inr (List.mem_cons_of_mem _ h)
      · rcases List.mem_cons.1 h with h | h
        · exact .inr (h ▸ List.mem_cons_self)
        · exact (ih h).imp id (List.mem_cons_of_mem _)

theorem pairwise_insertEntry (name : String) (value : α) {entries : List (String × α)}
    (h : entries.Pairwise fun a b => a.1 < b.1) :
    (insertEntry name value entries).Pairwise fun a b => a.1 < b.1 := by
  induction h with
  | nil => exact List.pairwise_singleton _ _
  | @cons entry rest hlt hrest ih =>
    obtain ⟨n, v⟩ := entry
    unfold insertEntry
    split
    · rename_i hn
      refine .cons (fun e he => ?_) (.cons hlt hrest)
      rcases List.mem_cons.1 he with rfl | he
      · exact hn
      · exact String.lt_trans hn (hlt e he)
    · split
      · rename_i hn
        exact .cons (fun e he => hn ▸ hlt e he) hrest
      · rename_i hnot hne
        refine .cons (fun e he => ?_) ih
        rcases mem_insertEntry he with rfl | he
        · exact lt_of_not_lt_of_ne hnot hne
        · exact hlt e he

/-- Sets the value at a name. -/
def insert (map : NameMap α) (name : String) (value : α) : NameMap α :=
  ⟨insertEntry name value map.entries, pairwise_insertEntry name value map.ascending⟩

/-- The map of some entries. Where a name is repeated, its last value counts. -/
def ofList (entries : List (String × α)) : NameMap α :=
  entries.foldl (fun map (name, value) => map.insert name value) empty

/-! ## Removal -/

def erase (map : NameMap α) (name : String) : NameMap α :=
  ⟨map.entries.filter (·.1 != name), map.ascending.filter _⟩

end NameMap

end MeshRoutes
