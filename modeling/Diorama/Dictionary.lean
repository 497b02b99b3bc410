/-! Finite maps from names and finite sets of names, listed in the order of their names. The order is part of
the type, so two maps with the same members are equal. -/

namespace Diorama

structure Dictionary (α : Type) where
  entries : List (String × α)
  sorted : entries.Pairwise (fun a b => a.1 < b.1)

namespace Dictionary

variable {α β : Type}

theorem ext {d e : Dictionary α} (h : d.entries = e.entries) : d = e := by
  cases d; cases e; cases h; rfl

instance [BEq α] : BEq (Dictionary α) := ⟨fun d e => d.entries == e.entries⟩

instance [DecidableEq α] : DecidableEq (Dictionary α) := fun d e =>
  if h : d.entries = e.entries then isTrue (ext h)
  else isFalse fun same => h (same ▸ rfl)

def empty : Dictionary α := ⟨[], .nil⟩

instance : EmptyCollection (Dictionary α) := ⟨empty⟩

instance : Inhabited (Dictionary α) := ⟨∅⟩

def size (d : Dictionary α) : Nat := d.entries.length

def isEmpty (d : Dictionary α) : Bool := d.entries.isEmpty

def keys (d : Dictionary α) : List String := d.entries.map (·.1)

def values (d : Dictionary α) : List α := d.entries.map (·.2)

def find? (d : Dictionary α) (key : String) : Option α :=
  (d.entries.find? (·.1 == key)).map (·.2)

def contains (d : Dictionary α) (key : String) : Bool := d.entries.any (·.1 == key)

def insertEntry (key : String) (value : α) : List (String × α) → List (String × α)
  | [] => [(key, value)]
  | entry :: rest =>
    if key < entry.1 then (key, value) :: entry :: rest
    else if key = entry.1 then (key, value) :: rest
    else entry :: insertEntry key value rest

theorem mem_insertEntry {key : String} {value : α} {entries : List (String × α)}
    {entry : String × α} (h : entry ∈ insertEntry key value entries) :
    entry = (key, value) ∨ entry ∈ entries := by
  induction entries with
  | nil => simpa [insertEntry] using h
  | cons head rest ih =>
    simp only [insertEntry] at h
    split at h
    · simpa using h
    · split at h
      · rcases List.mem_cons.1 h with h | h
        · exact .inl h
        · exact .inr (List.mem_cons_of_mem _ h)
      · rcases List.mem_cons.1 h with h | h
        · exact .inr (h ▸ List.mem_cons_self)
        · exact (ih h).imp id (List.mem_cons_of_mem _)

theorem sorted_insertEntry {key : String} {value : α} {entries : List (String × α)}
    (h : entries.Pairwise (fun a b => a.1 < b.1)) :
    (insertEntry key value entries).Pairwise (fun a b => a.1 < b.1) := by
  induction entries with
  | nil => simp [insertEntry]
  | cons head rest ih =>
    obtain ⟨first, others⟩ := List.pairwise_cons.1 h
    simp only [insertEntry]
    split
    · rename_i lt
      refine List.pairwise_cons.2 ⟨fun entry mem => ?_, h⟩
      rcases List.mem_cons.1 mem with rfl | mem
      · exact lt
      · exact String.lt_trans lt (first entry mem)
    · rename_i notLt
      split
      · rename_i eq
        subst eq
        exact List.pairwise_cons.2 ⟨first, others⟩
      · rename_i ne
        refine List.pairwise_cons.2 ⟨fun entry mem => ?_, ih others⟩
        rcases mem_insertEntry mem with rfl | mem
        · refine Decidable.byContradiction fun notGt => ne ?_
          exact String.le_antisymm (String.not_lt.1 notGt) (String.not_lt.1 notLt)
        · exact first entry mem

def insert (d : Dictionary α) (key : String) (value : α) : Dictionary α :=
  ⟨insertEntry key value d.entries, sorted_insertEntry d.sorted⟩

def erase (d : Dictionary α) (key : String) : Dictionary α :=
  ⟨d.entries.filter (·.1 != key), d.sorted.filter _⟩

def filter (p : String → α → Bool) (d : Dictionary α) : Dictionary α :=
  ⟨d.entries.filter fun entry => p entry.1 entry.2, d.sorted.filter _⟩

def map (f : α → β) (d : Dictionary α) : Dictionary β where
  entries := d.entries.map fun entry => (entry.1, f entry.2)
  sorted := List.pairwise_map.2 d.sorted

def ofList (entries : List (String × α)) : Dictionary α :=
  entries.foldl (fun d entry => d.insert entry.1 entry.2) ∅

end Dictionary

structure NameSet where
  names : List String
  sorted : names.Pairwise (· < ·)

namespace NameSet

theorem ext {s t : NameSet} (h : s.names = t.names) : s = t := by
  cases s; cases t; cases h; rfl

instance : DecidableEq NameSet := fun s t =>
  if h : s.names = t.names then isTrue (ext h)
  else isFalse fun same => h (same ▸ rfl)

def empty : NameSet := ⟨[], .nil⟩

instance : EmptyCollection NameSet := ⟨empty⟩

instance : Inhabited NameSet := ⟨∅⟩

def contains (s : NameSet) (name : String) : Bool := s.names.contains name

instance : Membership String NameSet := ⟨fun s name => name ∈ s.names⟩

def insertName (name : String) : List String → List String
  | [] => [name]
  | head :: rest =>
    if name < head then name :: head :: rest
    else if name = head then head :: rest
    else head :: insertName name rest

theorem mem_insertName {name : String} {names : List String} {other : String} :
    other ∈ insertName name names ↔ other = name ∨ other ∈ names := by
  induction names with
  | nil => simp [insertName]
  | cons head rest ih =>
    simp only [insertName]
    split
    · simp
    · split
      · rename_i eq
        simp [eq]
      · rw [List.mem_cons, ih, List.mem_cons]
        exact or_left_comm

theorem sorted_insertName {name : String} {names : List String} (h : names.Pairwise (· < ·)) :
    (insertName name names).Pairwise (· < ·) := by
  induction names with
  | nil => simp [insertName]
  | cons head rest ih =>
    obtain ⟨first, others⟩ := List.pairwise_cons.1 h
    simp only [insertName]
    split
    · rename_i lt
      refine List.pairwise_cons.2 ⟨fun other mem => ?_, h⟩
      rcases List.mem_cons.1 mem with rfl | mem
      · exact lt
      · exact String.lt_trans lt (first other mem)
    · rename_i notLt
      split
      · exact h
      · rename_i ne
        refine List.pairwise_cons.2 ⟨fun other mem => ?_, ih others⟩
        rcases mem_insertName.1 mem with rfl | mem
        · refine Decidable.byContradiction fun notGt => ne ?_
          exact String.le_antisymm (String.not_lt.1 notGt) (String.not_lt.1 notLt)
        · exact first other mem

def insert (s : NameSet) (name : String) : NameSet :=
  ⟨insertName name s.names, sorted_insertName s.sorted⟩

def erase (s : NameSet) (name : String) : NameSet :=
  ⟨s.names.filter (· != name), s.sorted.filter _⟩

def isEmpty (s : NameSet) : Bool := s.names.isEmpty

def ofList (names : List String) : NameSet := names.foldl insert ∅

end NameSet

end Diorama
