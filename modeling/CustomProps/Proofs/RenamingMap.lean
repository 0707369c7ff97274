import CustomProps.RenamingMap
import Mathlib.Data.List.Nodup
/-!
# The index of a renaming map

The index says where each name stands among the entries, and nothing else. So whatever is read
through the index can be read off the entries.
-/
namespace CustomProps.RenamingMap

variable {m : RenamingMap} {name renamed : String}

/-- The index knows a name exactly where an entry has it. -/
def Indexed (m : RenamingMap) : Prop :=
  ∀ (name : String) (i : Nat), m.index[name]? = some i ↔ m.keys[i]? = some name

theorem keys_insert (m : RenamingMap) (name renamed : String) :
    (m.insert name renamed).keys = if m.contains name then m.keys else m.keys ++ [name] := by
  rw [keys, toList_insert]
  split
  · rfl
  · rw [List.map_append]
    rfl

theorem length_keys (m : RenamingMap) : m.keys.length = m.size := by
  simp [keys, toList, size]

theorem getElem?_keys (m : RenamingMap) (i : Nat) :
    m.keys[i]? = m.entries[i]?.map Prod.fst := by
  simp [keys, toList]

theorem indexed_empty : empty.Indexed := by
  intro name i
  simp [empty, keys, toList]

theorem Indexed.contains_iff (h : m.Indexed) : m.contains name = true ↔ name ∈ m.keys := by
  rw [contains, Std.HashMap.contains_eq_isSome_getElem?, Option.isSome_iff_exists,
    List.mem_iff_getElem?]
  exact exists_congr fun i => h name i

theorem Indexed.nodup_keys (h : m.Indexed) : m.keys.Nodup := by
  refine List.nodup_iff_getElem?_ne_getElem?.mpr fun i j hij hj heq => ?_
  have hsome : m.keys[j]? = some m.keys[j] := List.getElem?_eq_getElem hj
  have hi := (h _ i).mpr (heq.trans hsome)
  have hj := (h _ j).mpr hsome
  rw [hi, Option.some.injEq] at hj
  omega

theorem Indexed.get?_eq_some_iff (h : m.Indexed) :
    m.get? name = some renamed ↔ (name, renamed) ∈ m.toList := by
  have hentry : ∀ i, m.index[name]? = some i ∧ m.entries[i]?.map Prod.snd = some renamed ↔
      m.entries[i]? = some (name, renamed) := by
    intro i
    rw [h name i, getElem?_keys]
    cases m.entries[i]? with
    | none => simp
    | some entry => simp [Prod.ext_iff]
  rw [get?, Option.bind_eq_some_iff, toList, Array.mem_toList_iff, Array.mem_iff_getElem?]
  exact exists_congr hentry

theorem getElem?_concat_eq_some_iff {l : List String} {i : Nat} {other : String} :
    (l ++ [name])[i]? = some other ↔ l[i]? = some other ∨ i = l.length ∧ name = other := by
  rcases Nat.lt_trichotomy i l.length with hlt | rfl | hgt
  · have hne : i ≠ l.length := Nat.ne_of_lt hlt
    simp [List.getElem?_append_left hlt, hne]
  · simp
  · have hne : i ≠ l.length := Nat.ne_of_gt hgt
    have hnone : (l ++ [name])[i]? = none := List.getElem?_eq_none (by simp; omega)
    simp [hnone, List.getElem?_eq_none (Nat.le_of_lt hgt), hne]

theorem Indexed.insert (h : m.Indexed) (name renamed : String) : (m.insert name renamed).Indexed := by
  cases hc : m.contains name with
  | true =>
    have hsame : m.insert name renamed = m := by rw [RenamingMap.insert, add, if_pos hc]
    rw [hsame]
    exact h
  | false =>
    have hnew : name ∉ m.keys := by
      rw [← h.contains_iff, hc]
      exact Bool.false_ne_true
    have hindex : (m.insert name renamed).index = m.index.insert name m.keys.length := by
      rw [RenamingMap.insert, add, if_neg (by simp [hc]), length_keys]
      rfl
    intro other i
    rw [hindex, keys_insert, if_neg (by simp [hc]), Std.HashMap.getElem?_insert,
      getElem?_concat_eq_some_iff, ← h other i]
    split
    · rename_i heq
      obtain rfl := eq_of_beq heq
      -- The old index must not know `name` at a place of its own.
      have hold : m.index[name]? ≠ some i := by
        intro hi
        exact hnew (List.mem_of_getElem? ((h name i).mp hi))
      simp [hold, eq_comm]
    · rename_i hne
      have hother : name ≠ other := by simpa using hne
      simp [hother]

end CustomProps.RenamingMap
