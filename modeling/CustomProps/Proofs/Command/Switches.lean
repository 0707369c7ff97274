import CustomProps.Command.Invocation
import CustomProps.Proofs.Files.Written
/-!
# One more switch

Arguments that are read are read with one more switch behind them as well: what was found before
stays as it is, and the new switch comes last. Only two dashes alone stand in the way, for behind
them every argument is an operand.
-/
namespace CustomProps.Command

theorem Argument.eq_of_ofText {text : String} (h : ofText text = .endOfSwitches) : text = "--" := by
  unfold ofText at h
  split at h
  · rename_i htext
    rw [← String.toList_inj, htext]
    rfl
  · dsimp only at h
    split at h
    · cases h
    · cases h
  · cases h
  · cases h

/-- A word and its value in one argument are parted by the first equals sign. -/
theorem Argument.ofText_word {word : String} (hword : '=' ∉ word.toList) (value : String) :
    ofText ("--" ++ word ++ "=" ++ value) = .word word (some value) := by
  have hname : ∀ c ∈ word.toList, (c != '=') = true := by
    intro c hc
    simpa using ne_of_mem_of_not_mem hc hword
  have htake : (word.toList ++ '=' :: value.toList).takeWhile (· != '=') = word.toList := by
    rw [List.takeWhile_append_of_pos hname]
    simp
  have hdrop : (word.toList ++ '=' :: value.toList).dropWhile (· != '=') = '=' :: value.toList := by
    rw [List.dropWhile_append_of_pos hname]
    simp
  have htext : ("--" ++ word ++ "=" ++ value).toList =
      '-' :: '-' :: (word.toList ++ '=' :: value.toList) := by
    simp [String.toList_append]
  unfold ofText
  rw [htext]
  cases hl : word.toList ++ '=' :: value.toList with
  | nil => simp at hl
  | cons c cs =>
    rw [hl] at htake hdrop
    simp only [htake, hdrop, String.ofList_toList]

namespace Reading

variable {r r' : Reading} {g : Grammar}

/-! ### Switches are read as switches -/

theorem of_accept {s : Switch} {value : String} (h : r.accept s value = .ok r') :
    r' = { r with found := r.found ++ [(s.word, value)] } := by
  unfold accept misuse at h
  split at h
  · split at h
    · cases h
    · split at h
      · cases h
        rfl
      · cases h
  · split at h
    · cases h
    · cases h
      rfl
  · cases h
    rfl
  · cases h
  · cases h

theorem of_settle (h : r.settle = .ok r') :
    r'.pending = .nothing ∧ r'.operandsOnly = r.operandsOnly := by
  unfold settle misuse at h
  split at h
  · rename_i hpending
    cases h
    exact ⟨hpending, rfl⟩
  · cases h
  · rw [of_accept h]
    exact ⟨rfl, rfl⟩

theorem operandsOnly_switch {s : Switch} {attached : Option String}
    (h : r.switch s attached = .ok r') : r'.operandsOnly = r.operandsOnly := by
  unfold switch at h
  obtain ⟨r₁, hsettle, hrest⟩ := exists_of_bind_eq_ok h
  rw [← (of_settle hsettle).2]
  split at hrest
  · rw [of_accept hrest]
  · split at hrest
    · cases hrest
      rfl
    · rw [of_accept hrest]

theorem operandsOnly_letters {switches : List Switch} {cs : List Char}
    (h : r.letters switches cs = .ok r') : r'.operandsOnly = r.operandsOnly := by
  induction cs generalizing r with
  | nil =>
    cases h
    rfl
  | cons c cs ih =>
    unfold letters misuse at h
    split at h
    · cases h
    · split at h
      · -- The rest of the letters is the value.
        split at h
        · exact operandsOnly_switch h
        · exact operandsOnly_switch h
        · exact operandsOnly_switch h
      · obtain ⟨r₁, hswitch, hrest⟩ := exists_of_bind_eq_ok h
        rw [ih hrest, operandsOnly_switch hswitch]

theorem operandsOnly_word {switches : List Switch} {name : String} {value : Option String}
    (h : r.word switches name value = .ok r') : r'.operandsOnly = r.operandsOnly := by
  unfold word misuse at h
  split at h
  · cases h
  · split at h
    · split at h
      · exact operandsOnly_switch h
      · cases h
    · exact operandsOnly_switch h

theorem operandsOnly_takeOperand {operands : Operands} {text : String}
    (h : r.takeOperand operands text = .ok r') : r'.operandsOnly = r.operandsOnly := by
  unfold takeOperand misuse at h
  split at h
  · cases h
  · split at h
    · cases h
    · obtain ⟨r₁, hsettle, hrest⟩ := exists_of_bind_eq_ok h
      cases hrest
      exact (of_settle hsettle).2

theorem operandsOnly_take {text : String} (h : r.take g text = .ok r') (htext : text ≠ "--")
    (hr : r.operandsOnly = false) : r'.operandsOnly = false := by
  unfold take at h
  rw [hr, if_neg Bool.false_ne_true] at h
  rw [← hr]
  split at h
  · rename_i hend
    exact absurd (Argument.eq_of_ofText hend) htext
  · exact operandsOnly_word h
  · exact operandsOnly_letters h
  · cases h
    exact hr.symm
  · exact operandsOnly_takeOperand h

theorem operandsOnly_run {args rest : List String} (h : r.run g args = .ok (r', rest))
    (hargs : "--" ∉ args) (hr : r.operandsOnly = false) : r'.operandsOnly = false := by
  induction args generalizing r with
  | nil =>
    cases h
    exact hr
  | cons text args ih =>
    unfold run at h
    split at h
    · cases h
      exact hr
    · obtain ⟨r₁, htake, hrest⟩ := exists_of_bind_eq_ok h
      have htext : text ≠ "--" := (List.ne_of_not_mem_cons hargs).symm
      exact ih hrest (List.not_mem_of_not_mem_cons hargs) (operandsOnly_take htake htext hr)

/-! ### Arguments behind the others -/

/-- What a command leaves is the end of the arguments. -/
theorem suffix_of_run {args rest : List String} (h : r.run g args = .ok (r', rest)) :
    rest <:+ args := by
  induction args generalizing r with
  | nil =>
    cases h
    exact List.suffix_rfl
  | cons text args ih =>
    unfold run at h
    split at h
    · cases h
      exact List.suffix_rfl
    · obtain ⟨r₁, -, hrest⟩ := exists_of_bind_eq_ok h
      exact (ih hrest).trans (List.suffix_cons text args)

theorem run_append_of_command {args rest : List String} {text : String}
    (h : r.run g args = .ok (r', text :: rest)) (more : List String) :
    r.run g (args ++ more) = .ok (r', text :: (rest ++ more)) := by
  induction args generalizing r with
  | nil => cases h
  | cons first args ih =>
    unfold run at h
    rw [List.cons_append, run]
    split at h
    · rename_i hbegins
      cases h
      rw [if_pos hbegins]
    · rename_i hbegins
      rw [if_neg hbegins]
      obtain ⟨r₁, htake, hrest⟩ := exists_of_bind_eq_ok h
      rw [htake]
      exact ih hrest

theorem run_cons_of_file (hg : g.operands = .file) (r : Reading) (text : String)
    (rest : List String) : r.run g (text :: rest) = (do (← r.take g text).run g rest) := by
  have hbegins : r.beginsCommand g.operands text = false := by
    cases hpending : r.pending with
    | nothing => simp [beginsCommand, hg, hpending]
    | awaiting s => simp [beginsCommand, hg, hpending]
    | holding s value => simp [beginsCommand, hg, hpending]
  rw [run, hbegins, if_neg Bool.false_ne_true]

/-- Where no argument begins a command, all of them are read. -/
theorem run_append_of_file {args rest : List String} (hg : g.operands = .file)
    (h : r.run g args = .ok (r', rest)) (more : List String) :
    rest = [] ∧ r.run g (args ++ more) = r'.run g more := by
  induction args generalizing r with
  | nil =>
    cases h
    exact ⟨rfl, rfl⟩
  | cons text args ih =>
    rw [run_cons_of_file hg] at h
    obtain ⟨r₁, htake, hrest⟩ := exists_of_bind_eq_ok h
    rw [List.cons_append, run_cons_of_file hg, htake]
    exact ih hrest

/-! ### What is found -/

/-- The reading with one more switch found. -/
def also (r : Reading) (word value : String) : Reading :=
  { r with found := r.found ++ [(word, value)] }

theorem value?_also {word other : String} (h : word ≠ other) (r : Reading) (value : String) :
    (r.also word value).value? other = r.value? other := by
  rw [value?, also, List.lookup_append]
  simp [List.lookup_cons, beq_false_of_ne h.symm, value?]

theorem values_also_of_ne {word other : String} (h : word ≠ other) (r : Reading) (value : String) :
    (r.also word value).values other = r.values other := by
  simp [values, also, beq_false_of_ne h]

theorem values_also (r : Reading) (word value : String) :
    (r.also word value).values word = r.values word ++ [value] := by
  simp [values, also]

theorem isFound_also {word other : String} (h : word ≠ other) (r : Reading) (value : String) :
    (r.also word value).isFound other = r.isFound other := by
  rw [isFound, count, values_also_of_ne h, isFound, count]

/-- A switch that takes any value, and more than once, is found once more. -/
theorem word_of_repeats {s : Switch} {placeholder value : String}
    (hs : g.switches.find? (fun other => other.word == s.word) = some s)
    (hkind : s.kind = .value placeholder [] true) (hsettle : r.settle = .ok r') :
    r.word g.switches s.word (some value) = .ok (r'.also s.word value) := by
  have hvalue : s.takesValue = true := by
    rw [Switch.takesValue, hkind]
  have haccept : r'.accept s value = .ok (r'.also s.word value) := by
    rw [accept, hkind]
    rfl
  rw [word, hs]
  dsimp only
  rw [if_pos hvalue, switch, hsettle]
  exact haccept

end Reading

/-! ### One more exclusion -/

/-- The argument that keeps a name. -/
def exceptArgument (name : String) : String := "--" ++ "except" ++ "=" ++ name

theorem readAll_append_except {args : List String} {r : Reading}
    (h : readAll renameGrammar args = .ok r) (hargs : "--" ∉ args) (name : String) :
    readAll renameGrammar (args ++ [exceptArgument name]) = .ok (r.also "except" name) := by
  unfold readAll at h ⊢
  obtain ⟨⟨r₁, rest⟩, hrun, hsettle⟩ := exists_of_bind_eq_ok h
  have hopen : r₁.operandsOnly = false := Reading.operandsOnly_run hrun hargs rfl
  have hform : Argument.ofText (exceptArgument name) = .word "except" (some name) :=
    Argument.ofText_word (by decide) name
  have htake : r₁.take renameGrammar (exceptArgument name) = .ok (r.also "except" name) := by
    rw [Reading.take, hopen, if_neg Bool.false_ne_true, hform]
    exact Reading.word_of_repeats (s := ⟨"except", none, .value "NAME" [] true⟩) (by decide) rfl
      hsettle
  have hpending : (r.also "except" name).pending = .nothing := (Reading.of_settle hsettle).1
  rw [(Reading.run_append_of_file rfl hrun _).2, Reading.run_cons_of_file rfl, htake]
  show Reading.settle _ = _
  rw [Reading.settle, hpending]

/-- The same renaming with other names kept. -/
def RenameArguments.keeping (a : RenameArguments) (names : List String) : RenameArguments :=
  { a with exceptNames := names }

theorem readRename_append_except {args : List String} {a : RenameArguments}
    (h : readRename args = .ok a) (hargs : "--" ∉ args) (name : String) :
    readRename (args ++ [exceptArgument name]) = .ok (a.keeping (a.exceptNames ++ [name])) := by
  unfold readRename at h ⊢
  obtain ⟨r, hall, hrest⟩ := exists_of_bind_eq_ok h
  obtain ⟨input, hinput, hmade⟩ := exists_of_bind_eq_ok hrest
  cases hmade
  have hsame : (r.also "except" name).neededOperand = .ok input := hinput
  rw [readAll_append_except hall hargs]
  show (do let input ← (r.also "except" name).neededOperand; _) = _
  rw [hsame]
  show Except.ok _ = Except.ok _
  simp [RenameArguments.keeping, Reading.value?_also, Reading.values_also_of_ne, Reading.values_also,
    Reading.isFound_also, Reading.format]

/-- A renaming is read in two parts: the switches of the program, and what stands behind the word. -/
theorem Invocation.exists_of_read {args : List String} {i : Invocation} {a : RenameArguments}
    (h : read args = .ok i) (ha : i.request = some (.rename a)) : ∃ r behind r',
      Reading.start.run programGrammar args = .ok (r, "rename" :: behind) ∧
        readRename behind = .ok a ∧ r.settle = .ok r' ∧
        i.config = r'.value? "config" ∧ i.verbosity = r'.count "verbose" := by
  unfold read at h
  obtain ⟨⟨r, rest⟩, hrun, hrest⟩ := exists_of_bind_eq_ok h
  dsimp only at hrest
  split at hrest
  · obtain ⟨request, hrequest, hsettled⟩ := exists_of_bind_eq_ok hrest
    obtain ⟨r', hsettle, hmade⟩ := exists_of_bind_eq_ok hsettled
    obtain ⟨a', hbehind, rfl⟩ := exists_of_map_eq_ok hrequest
    cases hmade
    cases ha
    exact ⟨r, _, r', hrun, hbehind, hsettle, rfl, rfl⟩
  · obtain ⟨request, hrequest, hsettled⟩ := exists_of_bind_eq_ok hrest
    obtain ⟨r', -, hmade⟩ := exists_of_bind_eq_ok hsettled
    obtain ⟨a', -, rfl⟩ := exists_of_map_eq_ok hrequest
    cases hmade
    cases ha
  · cases hrest
  · obtain ⟨request, hrequest, hsettled⟩ := exists_of_bind_eq_ok hrest
    obtain ⟨r', -, hmade⟩ := exists_of_bind_eq_ok hsettled
    cases hrequest
    cases hmade
    cases ha

theorem Invocation.read_append_except {args : List String} {i : Invocation} {a : RenameArguments}
    (h : read args = .ok i) (ha : i.request = some (.rename a)) (hargs : "--" ∉ args)
    (name : String) : read (args ++ [exceptArgument name]) =
      .ok { i with request := some (.rename (a.keeping (a.exceptNames ++ [name]))) } := by
  obtain ⟨r, behind, r', hrun, hbehind, hsettle, hconfig, hverbosity⟩ := exists_of_read h ha
  have hopen : "--" ∉ behind := fun hmem =>
    hargs ((Reading.suffix_of_run hrun).subset (List.mem_cons_of_mem _ hmem))
  unfold read
  rw [Reading.run_append_of_command hrun]
  show (do let request ← (readRename (behind ++ [exceptArgument name])).map _; _) = _
  rw [readRename_append_except hbehind hopen]
  show (do let r ← r.settle; _) = _
  rw [hsettle, hconfig, hverbosity]
  rfl

end CustomProps.Command
