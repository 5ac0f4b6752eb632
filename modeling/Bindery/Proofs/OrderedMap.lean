import Mathlib.Algebra.GroupWithZero.Nat
import Mathlib.Data.List.Basic
import Mathlib.Data.List.Nodup
import Bindery.OrderedMap

/-!
# Laws of maps in insertion order

While the keys of a map are distinct, its entries and its look-ups say the
same.
-/

namespace Bindery.OrderedMap

universe u v w

variable {κ : Type u} {α : Type v} [DecidableEq κ]

/-! ## Entries and look-ups -/

/-- A value that is looked up stands among the entries. -/
theorem mem_of_lookup {key : κ} {value : α} {entries : List (κ × α)}
    (found : lookup key entries = some value) : (key, value) ∈ entries := by
  induction entries with
  | nil => simp [lookup] at found
  | cons entry rest ih =>
      rcases entry with ⟨other, held⟩
      by_cases same : other = key
      · simp only [lookup, same, if_true, Option.some.injEq] at found
        subst same found
        exact List.mem_cons_self
      · simp only [lookup, same, if_false] at found
        exact List.mem_cons_of_mem _ (ih found)

/-- With distinct keys every entry is found. -/
theorem lookup_of_mem {key : κ} {value : α} {entries : List (κ × α)}
    (distinct : (entries.map Prod.fst).Nodup) (member : (key, value) ∈ entries) :
    lookup key entries = some value := by
  induction entries with
  | nil => simp at member
  | cons entry rest ih =>
      rw [List.map_cons, List.nodup_cons] at distinct
      rcases List.mem_cons.mp member with rfl | inRest
      · simp [lookup]
      · have different : entry.1 ≠ key := by
          intro same
          exact distinct.1 (List.mem_map.mpr ⟨(key, value), inRest, same.symm⟩)
        simp only [lookup, different, if_false]
        exact ih distinct.2 inRest

theorem mem_entries_iff {map : OrderedMap κ α} (distinct : map.keys.Nodup)
    (key : κ) (value : α) :
    (key, value) ∈ map.entries ↔ map.get? key = some value :=
  ⟨lookup_of_mem distinct, mem_of_lookup⟩

theorem mem_or_snd_eq_of_mem_place {key : κ} {value : α} {entries : List (κ × α)} {entry : κ × α}
    (member : entry ∈ place key value entries) : entry ∈ entries ∨ entry.2 = value := by
  induction entries with
  | nil =>
      rw [place, List.mem_singleton] at member
      exact Or.inr (congrArg Prod.snd member)
  | cons first rest ih =>
      rw [place] at member
      split at member
      · rcases List.mem_cons.mp member with rfl | inRest
        · exact Or.inr rfl
        · exact Or.inl (List.mem_cons_of_mem first inRest)
      · rcases List.mem_cons.mp member with rfl | inRest
        · exact Or.inl List.mem_cons_self
        · exact (ih inRest).imp_left (List.mem_cons_of_mem first)

/-- A value of a map is an old one or the one that was put in. -/
theorem mem_values_insert {map : OrderedMap κ α} {key : κ} {value other : α}
    (member : other ∈ (map.insert key value).values) : other ∈ map.values ∨ other = value := by
  obtain ⟨entry, inEntries, rfl⟩ := List.mem_map.mp member
  exact (mem_or_snd_eq_of_mem_place inEntries).imp_left List.mem_map_of_mem

/-- A new key comes after the others. -/
theorem place_of_not_mem {key : κ} {entries : List (κ × α)} (new : key ∉ entries.map Prod.fst)
    (value : α) : place key value entries = entries ++ [(key, value)] := by
  induction entries with
  | nil => rfl
  | cons entry rest ih =>
      rw [List.map_cons, List.mem_cons, not_or] at new
      rw [place, if_neg (Ne.symm new.1), ih new.2, List.cons_append]

theorem entries_insert_of_not_contains {map : OrderedMap κ α} {key : κ}
    (new : map.contains key = false) (value : α) :
    (map.insert key value).entries = map.entries ++ [(key, value)] := by
  apply place_of_not_mem
  intro member
  rw [(contains_iff_mem_keys map key).mpr member] at new
  cases new

/-! ## Emptiness -/

omit [DecidableEq κ] in
theorem isEmpty_eq_false_iff (map : OrderedMap κ α) :
    map.isEmpty = false ↔ ∃ key, key ∈ map.keys := by
  rcases map with ⟨entries⟩
  cases entries with
  | nil => simp [isEmpty, keys]
  | cons entry rest => simp [isEmpty, keys]

/-! ## Sizes and sums -/

theorem size_insert (map : OrderedMap κ α) (key : κ) (value : α) :
    (map.insert key value).size = map.size + if map.contains key then 0 else 1 := by
  have length_keys : ∀ other : OrderedMap κ α, other.size = other.keys.length := by
    intro other
    rw [size, keys, List.length_map]
  rw [length_keys, length_keys, keys_insert]
  simp only [contains_iff_mem_keys]
  split <;> simp

/-- A value that is put in its place takes the place of the one looked up. -/
theorem sum_map_place (weight : α → Nat) (key : κ) (value : α) (entries : List (κ × α)) :
    ((place key value entries).map fun entry => weight entry.2).sum +
        ((lookup key entries).map weight).getD 0 =
      (entries.map fun entry => weight entry.2).sum + weight value := by
  induction entries with
  | nil => simp [place, lookup]
  | cons entry rest ih =>
      by_cases same : entry.1 = key
      · simp only [place, lookup, same, if_true, List.map_cons, List.sum_cons, Option.map_some,
          Option.getD_some]
        omega
      · simp only [place, lookup, same, if_false, List.map_cons, List.sum_cons]
        omega

/-- With distinct keys the values are what the keys look up. -/
theorem flatMap_values {β : Type w} (map : OrderedMap κ α) (distinct : map.keys.Nodup)
    (expand : α → List β) :
    map.values.flatMap expand =
      map.keys.flatMap fun key => ((map.get? key).map expand).getD [] := by
  rw [values, keys, List.flatMap_map, List.flatMap_map, List.flatMap_def, List.flatMap_def]
  congr 1
  apply List.map_congr_left
  rintro ⟨key, value⟩ member
  rw [(mem_entries_iff distinct key value).mp member]
  rfl

end Bindery.OrderedMap
