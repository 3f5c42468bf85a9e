/-!
# Maps from field names, in order of first insertion

A map is its list of entries, no name twice. Inserting under a name that is
present replaces the value and keeps its place; a new name comes last. A map of
lists collects values by name with `push`. The view of a map is `entries`, and
each operation is described by what it does to the names and to look-up.
-/

namespace Fieldwise

universe u v

/-! ### Entry lists -/

namespace Entries

variable {α : Type u} {β : Type v}

/-- The names of the entries, in order. -/
def keys (entries : List (String × α)) : List String := entries.map Prod.fst

/-- The value of the first entry with a name. -/
def get? (key : String) : List (String × α) → Option α
  | [] => none
  | (k, a) :: rest => if k = key then some a else get? key rest

/-- Replaces the value under `key`, or adds an entry at the end; `f` gives the
new value from the old one. -/
def alter (key : String) (f : Option α → α) : List (String × α) → List (String × α)
  | [] => [(key, f none)]
  | (k, a) :: rest => if k = key then (k, f (some a)) :: rest else (k, a) :: alter key f rest

theorem get?_alter (key other : String) (f : Option α → α) (entries : List (String × α)) :
    get? other (alter key f entries) =
      if other = key then some (f (get? key entries)) else get? other entries := by
  induction entries with
  | nil => by_cases h : key = other <;> simp [alter, get?, h, eq_comm]
  | cons entry rest ih =>
    obtain ⟨k, a⟩ := entry
    by_cases hk : k = key
    · subst hk
      by_cases h : k = other
      · simp [alter, get?, h]
      · have h' : ¬other = k := fun e => h e.symm
        simp [alter, get?, h, h']
    · by_cases h : k = other
      · subst h
        simp [alter, get?, hk]
      · simp only [alter, hk, ↓reduceIte, get?, h, ih]

theorem keys_alter (key : String) (f : Option α → α) (entries : List (String × α)) :
    keys (alter key f entries) =
      if key ∈ keys entries then keys entries else keys entries ++ [key] := by
  induction entries with
  | nil => simp [alter, keys]
  | cons entry rest ih =>
    obtain ⟨k, a⟩ := entry
    by_cases hk : k = key
    · simp [alter, keys, hk]
    · have hk' : ¬key = k := fun h => hk h.symm
      simp only [keys] at ih
      by_cases hm : key ∈ rest.map Prod.fst
      · simp only [hm, ↓reduceIte] at ih
        simp only [alter, hk, ↓reduceIte, keys, List.map_cons, ih, List.mem_cons, hk', hm,
          or_true]
      · simp only [hm, ↓reduceIte] at ih
        simp only [alter, hk, ↓reduceIte, keys, List.map_cons, ih, List.mem_cons, hk', hm,
          or_self, List.cons_append]

theorem nodup_keys_alter (key : String) (f : Option α → α) {entries : List (String × α)}
    (h : (keys entries).Nodup) : (keys (alter key f entries)).Nodup := by
  rw [keys_alter]
  split
  · exact h
  · rename_i hm
    rw [List.nodup_append]
    exact ⟨h, by simp, by rintro a ha b hb rfl; simp at hb; subst hb; exact hm ha⟩

theorem keys_map (f : String → α → β) (entries : List (String × α)) :
    keys (entries.map fun e => (e.1, f e.1 e.2)) = keys entries := by
  simp [keys, Function.comp_def]

theorem get?_map (f : α → β) (key : String) (entries : List (String × α)) :
    get? key (entries.map fun e => (e.1, f e.2)) = (get? key entries).map f := by
  induction entries with
  | nil => rfl
  | cons entry rest ih =>
    obtain ⟨k, a⟩ := entry
    by_cases hk : k = key
    · simp only [List.map_cons, get?, hk, ↓reduceIte, Option.map_some]
    · simp only [List.map_cons, get?, hk, ↓reduceIte, ih]

end Entries

/-! ### Maps -/

/-- A map from field names, in order of first insertion. -/
structure FieldMap (α : Type u) where
  entries : List (String × α)
  distinct : (Entries.keys entries).Nodup

namespace FieldMap

variable {α : Type u} {β : Type v}

/-- The map without entries. -/
def empty : FieldMap α := ⟨[], List.nodup_nil⟩

instance : EmptyCollection (FieldMap α) := ⟨empty⟩
instance : Inhabited (FieldMap α) := ⟨empty⟩

/-- The names, in order of first insertion. -/
def keys (m : FieldMap α) : List String := Entries.keys m.entries

/-- The values, in the order of their names. -/
def values (m : FieldMap α) : List α := m.entries.map Prod.snd

def size (m : FieldMap α) : Nat := m.entries.length

/-- A map without entries. -/
def isEmpty (m : FieldMap α) : Bool := m.entries.isEmpty

def get? (m : FieldMap α) (key : String) : Option α := Entries.get? key m.entries

def contains (m : FieldMap α) (key : String) : Bool := (m.get? key).isSome

def alter (m : FieldMap α) (key : String) (f : Option α → α) : FieldMap α :=
  ⟨Entries.alter key f m.entries, Entries.nodup_keys_alter key f m.distinct⟩

/-- Gives the name a value, in the place it had or at the end. -/
def insert (m : FieldMap α) (key : String) (a : α) : FieldMap α := m.alter key fun _ => a

def push (m : FieldMap (List α)) (key : String) (a : α) : FieldMap (List α) :=
  m.alter key fun old => old.getD [] ++ [a]

/-- The map of a list of entries, where a later entry replaces an earlier one. -/
def ofList (entries : List (String × α)) : FieldMap α :=
  entries.foldl (fun m e => m.insert e.1 e.2) empty

def mapValues (f : α → β) (m : FieldMap α) : FieldMap β :=
  ⟨m.entries.map fun e => (e.1, f e.2), by
    rw [Entries.keys_map (fun _ => f)]
    exact m.distinct⟩

theorem get?_insert (m : FieldMap α) (key other : String) (a : α) :
    (m.insert key a).get? other = if other = key then some a else m.get? other :=
  Entries.get?_alter key other _ m.entries

theorem keys_insert (m : FieldMap α) (key : String) (a : α) :
    (m.insert key a).keys = if key ∈ m.keys then m.keys else m.keys ++ [key] :=
  Entries.keys_alter key _ m.entries

theorem get?_push (m : FieldMap (List α)) (key other : String) (a : α) :
    (m.push key a).get? other =
      if other = key then some ((m.get? key).getD [] ++ [a]) else m.get? other :=
  Entries.get?_alter key other _ m.entries

theorem keys_push (m : FieldMap (List α)) (key : String) (a : α) :
    (m.push key a).keys = if key ∈ m.keys then m.keys else m.keys ++ [key] :=
  Entries.keys_alter key _ m.entries

theorem nodup_keys (m : FieldMap α) : m.keys.Nodup := m.distinct

theorem get?_mapValues (f : α → β) (m : FieldMap α) (key : String) :
    (m.mapValues f).get? key = (m.get? key).map f := Entries.get?_map f key m.entries

theorem eq_of_entries {m n : FieldMap α} (h : m.entries = n.entries) : m = n := by
  cases m
  cases n
  cases h
  rfl

end FieldMap

end Fieldwise
