import CustomProps.Config
import CustomProps.Proofs.Json.RoundTrip
import CustomProps.Stylesheet
/-!
# What is written is read back

The texts in which stylesheets and configurations are handed on say all that there is to say about
them: reading the text gives what was written, whatever characters its strings hold.
-/
namespace CustomProps

/-! ### Records -/

namespace Json

theorem textMembers?_map (members : List (String × Json)) :
    textMembers? (members.map fun (k, v) => (some k, v)) = some members := by
  induction members with
  | nil => rfl
  | cons m rest ih =>
    rw [textMembers?] at ih ⊢
    rw [List.map_cons, List.mapM_cons, ih]
    rfl

theorem record?_ofMembers (names : List String) (members : List (String × Json)) :
    record? names (ofMembers members) = names.mapM (field? members) := by
  rw [ofMembers, record?, textMembers?_map, Option.bind_some]

theorem list?_array_map {α : Type} {read : Json → Option α} {write : α → Json} {l : List α}
    (h : ∀ a ∈ l, read (write a) = some a) : list? read (.array (l.map write)) = some l := by
  rw [list?]
  induction l with
  | nil => rfl
  | cons a rest ih =>
    have hrest := ih fun b hb => h b (List.mem_cons_of_mem _ hb)
    rw [List.map_cons, List.mapM_cons, h a List.mem_cons_self, hrest]
    rfl

theorem sound_array_map {α : Type} {write : α → Json} {l : List α} (h : ∀ a ∈ l, (write a).Sound) :
    (array (l.map write)).Sound := by
  rw [Sound, soundItems_iff]
  intro v hv
  obtain ⟨a, ha, rfl⟩ := List.mem_map.mp hv
  exact h a ha

theorem sound_ofString (s : String) : (ofString s).Sound := trivial

end Json

/-! ### Stylesheets -/

namespace Declaration

theorem sound_toJson (d : Declaration) : d.toJson.Sound := by
  apply Json.sound_ofMembers
  simp [Json.sound_ofString]

theorem ofJson?_toJson (d : Declaration) : ofJson? d.toJson = some d := by
  rw [ofJson?, toJson, Json.record?_ofMembers]
  rfl

end Declaration

namespace Rule

theorem sound_toJson (r : Rule) : r.toJson.Sound := by
  have hdeclarations := Json.sound_array_map fun d (_ : d ∈ r.declarations) => d.sound_toJson
  apply Json.sound_ofMembers
  simp [Json.sound_ofString, hdeclarations]

theorem ofJson?_toJson (r : Rule) : ofJson? r.toJson = some r := by
  have hdeclarations : Json.list? Declaration.ofJson?
      (.array (r.declarations.map Declaration.toJson)) = some r.declarations :=
    Json.list?_array_map fun d _ => d.ofJson?_toJson
  rw [ofJson?, toJson, Json.record?_ofMembers]
  simp [Json.field?, Json.fieldOr?, Json.string?, Json.ofString, hdeclarations]

end Rule

namespace Stylesheet

theorem sound_toJson (s : Stylesheet) : s.toJson.Sound := by
  have hrules := Json.sound_array_map fun r (_ : r ∈ s.rules) => r.sound_toJson
  apply Json.sound_ofMembers
  simp [hrules]

theorem ofJson?_toJson (s : Stylesheet) : ofJson? s.toJson = some s := by
  have hrules : Json.list? Rule.ofJson? (.array (s.rules.map Rule.toJson)) = some s.rules :=
    Json.list?_array_map fun r _ => r.ofJson?_toJson
  rw [ofJson?, toJson, Json.record?_ofMembers]
  simp [Json.field?, Json.fieldOr?, hrules]

/-- The text of a stylesheet is read as that stylesheet; so printing and reading once more changes
nothing of what any text was read as. -/
theorem parse?_print : (∀ s : Stylesheet, parse? s.print = some s) ∧
    ∀ source, ((parse? source).map print).bind parse? = parse? source := by
  have hprint : ∀ s : Stylesheet, parse? s.print = some s := by
    intro s
    rw [parse?, print, Json.parse?_pretty s.sound_toJson, Option.bind_some, ofJson?_toJson]
  refine ⟨hprint, fun source => ?_⟩
  cases parse? source with
  | none => rfl
  | some s => exact hprint s

end Stylesheet

/-! ### Configurations -/

namespace ExclusionEntry

theorem sound_toJson (e : ExclusionEntry) : e.toJson.Sound := by
  cases e with
  | name n => trivial
  | pattern text =>
    apply Json.sound_ofMembers
    simp [Json.sound_ofString]

theorem ofJson?_toJson (e : ExclusionEntry) : ofJson? e.toJson = some e := by
  cases e with
  | name n => rfl
  | pattern text => rfl

theorem depth_toJson_le (e : ExclusionEntry) : e.toJson.depth ≤ 1 := by
  cases e with
  | name n => exact Nat.zero_le 1
  | pattern text => exact Nat.le_refl 1

end ExclusionEntry

namespace Config

theorem sound_getD (word : Option String) : ((word.map Json.ofString).getD .null).Sound := by
  cases word with
  | none => trivial
  | some text => trivial

theorem option?_getD (word : Option String) :
    Json.option? Json.string? ((word.map Json.ofString).getD .null) = some word := by
  cases word with
  | none => rfl
  | some text => rfl

theorem sound_toJson (c : Config) : c.toJson.Sound := by
  have hexcept := Json.sound_array_map fun e (_ : e ∈ c.except) => e.sound_toJson
  apply Json.sound_ofMembers
  simp [sound_getD, hexcept]

theorem ofJson?_toJson (c : Config) : ofJson? c.toJson = some c := by
  have hexcept : Json.list?
      (fun v => if v.depth + 2 < nestingBound then ExclusionEntry.ofJson? v else none)
      (.array (c.except.map ExclusionEntry.toJson)) = some c.except := by
    refine Json.list?_array_map fun e _ => ?_
    have hdepth : e.toJson.depth + 2 < nestingBound := by
      have := e.depth_toJson_le
      have : nestingBound = 128 := rfl
      omega
    rw [if_pos hdepth, e.ofJson?_toJson]
  have hfields : Json.record? fields c.toJson =
      some [some ((c.strategy.map Json.ofString).getD .null),
        some (.array (c.except.map ExclusionEntry.toJson)),
        some ((c.lead.map Json.ofString).getD .null)] := by
    rw [toJson, Json.record?_ofMembers]
    rfl
  rw [ofJson?, hfields, Option.bind_some, ofFields?]
  simp [Json.fieldOr?, option?_getD, hexcept]

/-- The text of a configuration is read as that configuration, which asks for the same options or
fails in the same way. -/
theorem ofJsonText?_print (c : Config) : ofJsonText? c.print = some c ∧
    (ofJsonText? c.print).map options = some c.options := by
  have hprint : ofJsonText? c.print = some c := by
    rw [ofJsonText?, print, Json.parse?_compact c.sound_toJson, Option.bind_some, ofJson?_toJson]
  exact ⟨hprint, by rw [hprint, Option.map_some]⟩

end Config

end CustomProps
