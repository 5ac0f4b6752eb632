/-!
# Maps in insertion order

A finite map that remembers the order in which its keys first arrived.  Giving
a key a new value keeps the key where it stands, so a listing shows first
places and last values.
-/

namespace Bindery

universe u v

/-- A finite map listed in the order in which the keys were first inserted. -/
structure OrderedMap (κ : Type u) (α : Type v) where
  entries : List (κ × α) := []
  deriving DecidableEq, Repr

namespace OrderedMap

variable {κ : Type u} {α : Type v} [DecidableEq κ]

/-! ## Lists of entries -/

/-- The value of the first entry with the key. -/
def lookup (key : κ) : List (κ × α) → Option α
  | [] => none
  | entry :: rest => if entry.1 = key then some entry.2 else lookup key rest

/-- Replace the value of the key where it stands, or add the key at the end. -/
def place (key : κ) (value : α) : List (κ × α) → List (κ × α)
  | [] => [(key, value)]
  | entry :: rest =>
      if entry.1 = key then (key, value) :: rest
      else entry :: place key value rest

/-- Remove the first entry with the key. -/
def remove (key : κ) : List (κ × α) → List (κ × α)
  | [] => []
  | entry :: rest => if entry.1 = key then rest else entry :: remove key rest

theorem lookup_place (key other : κ) (value : α) (entries : List (κ × α)) :
    lookup other (place key value entries) =
      if key = other then some value else lookup other entries := by
  induction entries with
  | nil => simp [place, lookup]
  | cons entry rest ih =>
      by_cases same : entry.1 = key
      · by_cases equal : key = other <;> simp [place, lookup, same, equal]
      · by_cases equal : key = other
        · subst other
          simp [place, lookup, same, ih]
        · simp [place, lookup, same, equal, ih]

theorem lookup_isSome_iff (key : κ) (entries : List (κ × α)) :
    (lookup key entries).isSome ↔ key ∈ entries.map Prod.fst := by
  induction entries with
  | nil => simp [lookup]
  | cons entry rest ih =>
      by_cases same : entry.1 = key
      · simp [lookup, same]
      · simp [lookup, same, Ne.symm same, ih]

/-- A key that is there keeps its place, and a new one comes last. -/
theorem map_fst_place (key : κ) (value : α) (entries : List (κ × α)) :
    (place key value entries).map Prod.fst =
      if key ∈ entries.map Prod.fst then entries.map Prod.fst
      else entries.map Prod.fst ++ [key] := by
  induction entries with
  | nil => simp [place]
  | cons entry rest ih =>
      by_cases same : entry.1 = key
      · simp [place, same]
      · by_cases member : key ∈ rest.map Prod.fst
        · rw [if_pos member] at ih
          rw [if_pos (by simpa using Or.inr (by simpa using member))]
          simp [place, same, ih]
        · rw [if_neg member] at ih
          rw [if_neg (by simpa [Ne.symm same] using member)]
          simp [place, same, ih]

/-! ## Maps -/

/-- The value of a key. -/
def get? (map : OrderedMap κ α) (key : κ) : Option α :=
  lookup key map.entries

/-- Whether a key has a value. -/
def contains (map : OrderedMap κ α) (key : κ) : Bool :=
  (map.get? key).isSome

/-- Give a key a value. -/
def insert (map : OrderedMap κ α) (key : κ) (value : α) : OrderedMap κ α :=
  ⟨place key value map.entries⟩

/-- Take a key out, leaving the order of the others. -/
def erase (map : OrderedMap κ α) (key : κ) : OrderedMap κ α :=
  ⟨remove key map.entries⟩

omit [DecidableEq κ] in
/-- The keys in order. -/
def keys (map : OrderedMap κ α) : List κ :=
  map.entries.map Prod.fst

omit [DecidableEq κ] in
/-- The values in the order of their keys. -/
def values (map : OrderedMap κ α) : List α :=
  map.entries.map Prod.snd

omit [DecidableEq κ] in
/-- The number of keys. -/
def size (map : OrderedMap κ α) : Nat :=
  map.entries.length

omit [DecidableEq κ] in
/-- Whether no key has a value. -/
def isEmpty (map : OrderedMap κ α) : Bool :=
  map.entries.isEmpty

theorem get?_insert (map : OrderedMap κ α) (key other : κ) (value : α) :
    (map.insert key value).get? other =
      if key = other then some value else map.get? other :=
  lookup_place key other value map.entries

theorem contains_iff_mem_keys (map : OrderedMap κ α) (key : κ) :
    map.contains key = true ↔ key ∈ map.keys :=
  lookup_isSome_iff key map.entries

theorem keys_insert (map : OrderedMap κ α) (key : κ) (value : α) :
    (map.insert key value).keys =
      if key ∈ map.keys then map.keys else map.keys ++ [key] :=
  map_fst_place key value map.entries

/-- Inserting keeps the keys distinct. -/
theorem nodup_keys_insert {map : OrderedMap κ α} (distinct : map.keys.Nodup)
    (key : κ) (value : α) : (map.insert key value).keys.Nodup := by
  rw [keys_insert]
  split
  · exact distinct
  · rename_i absent
    exact List.nodup_append.mpr
      ⟨distinct, by simp, fun first firstMem second secondMem equal => by
        simp only [List.mem_singleton] at secondMem
        exact absent (secondMem ▸ equal ▸ firstMem)⟩

end OrderedMap

end Bindery
