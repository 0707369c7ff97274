import CustomProps.Proofs.Exchange
import CustomProps.Proofs.FirstMet
import CustomProps.Proofs.RenamingMap
/-!
# What a renaming map tells of its inserts

A map is made by inserts, and only the first insert of a name counts. All that can be asked of the
map, through the index or through the entries, follows from the sequence of inserts; and so does its
written form, from which the entries are read back in their order.
-/
namespace CustomProps.RenamingMap

variable {m : RenamingMap} {name : String} {history : List (String × String)}

/-- The map that the given inserts make of the empty one. -/
def ofInserts (history : List (String × String)) : RenamingMap :=
  history.foldl (fun m entry => m.insert entry.1 entry.2) .empty

theorem ofInserts_concat (history : List (String × String)) (name renamed : String) :
    ofInserts (history ++ [(name, renamed)]) = (ofInserts history).insert name renamed :=
  List.foldl_append

/-! ### One insert -/

theorem fst_add (m : RenamingMap) (name renamed : String) :
    (m.add name renamed).1 = !m.contains name := by
  unfold add
  cases m.contains name with
  | true => rfl
  | false => rfl

theorem Indexed.getElem?_index (h : m.Indexed) (name : String) (i : Nat) :
    m.index[name]? = some i ↔ ∃ renamed, m.entries[i]? = some (name, renamed) := by
  rw [h name i, getElem?_keys, Option.map_eq_some_iff]
  constructor
  · rintro ⟨⟨_, renamed⟩, hentry, rfl⟩
    exact ⟨renamed, hentry⟩
  · rintro ⟨renamed, hentry⟩
    exact ⟨(name, renamed), hentry, rfl⟩

theorem Indexed.get?_eq_none_iff (h : m.Indexed) : m.get? name = none ↔ name ∉ m.keys := by
  rw [Option.eq_none_iff_forall_not_mem, keys, List.mem_map]
  constructor
  · rintro hnone ⟨⟨_, renamed⟩, hmem, rfl⟩
    exact hnone renamed (h.get?_eq_some_iff.mpr hmem)
  · intro hnot renamed hsome
    exact hnot ⟨(name, renamed), h.get?_eq_some_iff.mp hsome, rfl⟩

/-- An insert answers only where nothing was known. -/
theorem Indexed.get?_insert (h : m.Indexed) (name renamed other : String) :
    (m.insert name renamed).get? other =
      (m.get? other).or (if name = other then some renamed else none) := by
  have hinsert := h.insert name renamed
  cases hold : m.get? other with
  | some known =>
    rw [Option.some_or, hinsert.get?_eq_some_iff, toList_insert]
    split
    · exact h.get?_eq_some_iff.mp hold
    · exact List.mem_append_left _ (h.get?_eq_some_iff.mp hold)
  | none =>
    have hunknown := h.get?_eq_none_iff.mp hold
    rw [Option.none_or]
    split
    · rename_i hname
      have hnew : ¬m.contains name = true := by
        rw [h.contains_iff, hname]
        exact hunknown
      rw [hinsert.get?_eq_some_iff, toList_insert, if_neg hnew, hname]
      exact List.mem_append_right _ (List.mem_singleton.mpr rfl)
    · rename_i hname
      rw [hinsert.get?_eq_none_iff, keys_insert]
      split
      · exact hunknown
      · rw [List.mem_append, List.mem_singleton]
        exact not_or.mpr ⟨hunknown, Ne.symm hname⟩

/-! ### All inserts -/

theorem indexed_ofInserts (history : List (String × String)) : (ofInserts history).Indexed := by
  induction history using List.reverseRecOn with
  | nil => exact indexed_empty
  | append_singleton history entry ih =>
    rw [ofInserts_concat]
    exact ih.insert entry.1 entry.2

theorem keys_ofInserts (history : List (String × String)) :
    (ofInserts history).keys = (history.map Prod.fst).eraseDups := by
  induction history using List.reverseRecOn with
  | nil => rfl
  | append_singleton history entry ih =>
    have hcontains : (ofInserts history).contains entry.1 = true ↔
        entry.1 ∈ history.map Prod.fst := by
      rw [(indexed_ofInserts history).contains_iff, ih, List.mem_eraseDups]
    rw [ofInserts_concat, keys_insert, List.map_append, List.map_singleton, eraseDups_concat, ih]
    simp only [hcontains]

theorem get?_ofInserts (history : List (String × String)) (name : String) :
    (ofInserts history).get? name =
      (history.find? fun entry => entry.1 == name).map Prod.snd := by
  induction history using List.reverseRecOn with
  | nil => exact indexed_empty.get?_eq_none_iff.mpr List.not_mem_nil
  | append_singleton history entry ih =>
    rw [ofInserts_concat, (indexed_ofInserts history).get?_insert, ih, List.find?_append,
      Option.map_or, List.find?_singleton]
    by_cases hname : entry.1 = name
    · simp [hname]
    · simp [hname]

theorem contains_ofInserts_iff :
    (ofInserts history).contains name = true ↔ name ∈ history.map Prod.fst := by
  rw [(indexed_ofInserts history).contains_iff, keys_ofInserts, List.mem_eraseDups]

/-- Index and entries of a map say the same, and what they say is what was inserted first. -/
structure Tells (m : RenamingMap) (history : List (String × String)) : Prop where
  /-- The index has a name at a place exactly if the entry at this place has the name. -/
  index : ∀ (name : String) (i : Nat),
    m.index[name]? = some i ↔ ∃ renamed, m.entries[i]? = some (name, renamed)
  nodup : m.keys.Nodup
  /-- The names in the order in which they were first inserted. -/
  keys : m.keys = (history.map Prod.fst).eraseDups
  /-- The first insert of a name is the one that counts. -/
  get? : ∀ name, m.get? name = (history.find? fun entry => entry.1 == name).map Prod.snd
  mem : ∀ name renamed, m.get? name = some renamed ↔ (name, renamed) ∈ m.toList
  contains : ∀ name, m.contains name = true ↔ name ∈ m.keys
  size : m.size = m.toList.length ∧ m.size = m.keys.length
  isEmpty : m.isEmpty = true ↔ m.size = 0

theorem tells_ofInserts (history : List (String × String)) : (ofInserts history).Tells history := by
  have hindexed := indexed_ofInserts history
  exact {
    index := hindexed.getElem?_index
    nodup := hindexed.nodup_keys
    keys := keys_ofInserts history
    get? := get?_ofInserts history
    mem := fun _ _ => hindexed.get?_eq_some_iff
    contains := fun _ => hindexed.contains_iff
    size := ⟨(Array.length_toList ..).symm, (length_keys _).symm⟩
    isEmpty := by simp [RenamingMap.isEmpty, RenamingMap.size] }

/-- Whatever was inserted, index and entries tell it alike; an insert takes place exactly if its name
is new; and what a name has been given stays, whatever is inserted later. -/
theorem told_of_inserts (history : List (String × String)) :
    (ofInserts history).Tells history ∧
      (∀ name renamed, ((ofInserts history).add name renamed).1 = true ↔
        name ∉ history.map Prod.fst) ∧
      ∀ later name renamed, (ofInserts history).get? name = some renamed →
        (ofInserts (history ++ later)).get? name = some renamed := by
  refine ⟨tells_ofInserts history, fun name renamed => ?_, fun later name renamed hname => ?_⟩
  · rw [fst_add, Bool.not_eq_true', Bool.eq_false_iff, Ne, contains_ofInserts_iff]
  · rw [get?_ofInserts] at hname ⊢
    rw [List.find?_append, Option.map_or, hname, Option.some_or]

/-- The second insert of `b` changes nothing. -/
theorem told_of_repeated :
    (ofInserts [("b", "b_"), ("a", "a_"), ("b", "x")]).get? "b" = some "b_" ∧
      (ofInserts ([("b", "b_"), ("a", "a_"), ("b", "x")] ++ [("b", "y"), ("c", "c_")])).get? "b" =
        some "b_" := by
  have hknown : (ofInserts [("b", "b_"), ("a", "a_"), ("b", "x")]).get? "b" = some "b_" := by
    rw [get?_ofInserts]
    rfl
  exact ⟨hknown, (told_of_inserts _).2.2 [("b", "y"), ("c", "c_")] "b" "b_" hknown⟩

/-! ### The written form -/

/-- The pairs of texts that a JSON object writes, its members in order. -/
def pairs? (source : String) : Option (List (String × String)) :=
  match Json.parse? source with
  | some (.object members) => (Json.textMembers? members).bind fun texts =>
    texts.mapM fun (name, v) => v.string?.map (name, ·)
  | _ => none

theorem sound_toJson (m : RenamingMap) : m.toJson.Sound := by
  refine Json.sound_ofMembers fun member hmember => ?_
  obtain ⟨entry, -, rfl⟩ := List.mem_map.mp hmember
  exact Json.sound_ofString entry.2

theorem pairs?_print (m : RenamingMap) : pairs? m.print = some m.toList := by
  have hparse : Json.parse? m.print = some m.toJson := Json.parse?_pretty m.sound_toJson
  rw [pairs?, hparse, toJson, Json.ofMembers]
  dsimp only
  rw [Json.textMembers?_map, Option.bind_some]
  induction m.toList with
  | nil => rfl
  | cons entry rest ih =>
    rw [List.map_cons, List.mapM_cons, ih]
    rfl

/-- The written form of a map has the entries as the members of one object, in their order and no
name twice; so maps with the same written form have the same entries. -/
theorem pairs_of_print (history : List (String × String)) :
    pairs? (ofInserts history).print = some (ofInserts history).toList ∧
      ((ofInserts history).toList.map Prod.fst).Nodup ∧
      ∀ other, (ofInserts other).print = (ofInserts history).print →
        (ofInserts other).toList = (ofInserts history).toList := by
  refine ⟨pairs?_print _, (indexed_ofInserts history).nodup_keys, fun other hprint => ?_⟩
  have hpairs := pairs?_print (ofInserts other)
  rw [hprint, pairs?_print] at hpairs
  exact (Option.some.inj hpairs).symm

/-- An insert that comes too late leaves no trace in the written form. -/
theorem pairs_of_print_late :
    (ofInserts [("b", "b_"), ("b", "x")]).print = (ofInserts [("b", "b_")]).print ∧
      (ofInserts [("b", "b_"), ("b", "x")]).toList = (ofInserts [("b", "b_")]).toList := by
  have hlate : ofInserts [("b", "b_"), ("b", "x")] = ofInserts [("b", "b_")] := by
    have hknown : (ofInserts [("b", "b_")]).contains "b" = true :=
      contains_ofInserts_iff.mpr (List.mem_singleton.mpr rfl)
    show (ofInserts [("b", "b_")]).insert "b" "x" = ofInserts [("b", "b_")]
    rw [insert, add, if_pos hknown]
  have hprint := congrArg print hlate
  exact ⟨hprint, (pairs_of_print [("b", "b_")]).2.2 _ hprint⟩

end CustomProps.RenamingMap
