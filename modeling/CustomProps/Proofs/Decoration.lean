import CustomProps.Proofs.Resolver
import CustomProps.Proofs.Value.Inert
import CustomProps.Proofs.Value.Rename
/-!
# Decorated names in values

A decorated name is the name with more text around it: the leading text and a hyphen in front, an
underscore behind. If the leading text holds no mark of a value, a name part with its name decorated
is a name part as before.
-/
namespace CustomProps

namespace Value

/-! ### Name parts -/

/-- The quote that a string is to be closed by is one. -/
def Quoting.Proper : Quoting → Prop
  | .outside => True
  | .inside q => Ascii.isQuote q = true
  | .escaped q => Ascii.isQuote q = true

theorem Quoting.Proper.next {s : Quoting} (h : s.Proper) (x : UInt8) : (s.next x).Proper := by
  cases s with
  | outside =>
    rw [Quoting.next]
    split
    · assumption
    · trivial
  | inside q =>
    rw [Quoting.next]
    split
    · exact h
    · split
      · trivial
      · exact h
  | escaped q => exact h

theorem Quoting.Proper.after {s : Quoting} (h : s.Proper) (l : List UInt8) : (s.after l).Proper := by
  induction l generalizing s with
  | nil => exact h
  | cons x l ih => exact ih (h.next x)

theorem Quoting.eq_outside_of_next {s : Quoting} (h : s.Proper) {x : UInt8}
    (hx : Ascii.isQuote x = false) (hs : s.next x = .outside) : s = .outside := by
  cases s with
  | outside => rfl
  | inside q =>
    exfalso
    rw [Quoting.next] at hs
    split at hs
    · cases hs
    · split at hs
      · rename_i hxq
        rw [hxq, h] at hx
        cases hx
      · cases hs
  | escaped q => cases hs

theorem readPart?_of_append_blank {l m : List UInt8} (hm : Blank m)
    (h : Nesting.top.readPart? (l ++ m) = some .top) : Nesting.top.readPart? l = some .top := by
  induction m generalizing l with
  | nil =>
    rw [List.append_nil] at h
    exact h
  | cons x m ih =>
    have hx : Nesting.top.readPart? (l ++ [x]) = some .top := by
      refine ih (fun y hy => hm y (List.mem_cons_of_mem _ hy)) ?_
      rw [List.append_assoc]
      exact h
    rw [Nesting.readPart?_append] at hx
    obtain ⟨⟨q, d⟩, hl, hlast⟩ := Option.bind_eq_some_iff.mp hx
    obtain ⟨u, hu, hnil⟩ := Option.bind_eq_some_iff.mp hlast
    obtain rfl := Option.some.inj hnil
    obtain ⟨hquote, ho, hc, -⟩ := Ascii.marks_of_isSpace x (hm x (List.mem_cons_self ..))
    have hnext := Nesting.next?_of_nextPart? hu
    have hproper : Quoting.Proper q := by
      have hq : q = Quoting.outside.after l :=
        Nesting.quoting_of_read? (Nesting.read?_of_readPart? hl)
      rw [hq]
      exact (show Quoting.outside.Proper from trivial).after l
    have hq : q = .outside :=
      Quoting.eq_outside_of_next hproper hquote (Nesting.quoting_of_next? hnext).symm
    rw [hq, Nesting.next?_outside ho hc, Option.some.injEq] at hnext
    have hd : d = 0 := congrArg Nesting.depth hnext
    rw [hl, hq, hd]
    rfl

theorem NamePart.Sound.surround {lead name trail front back : List UInt8}
    (h : (NamePart.named lead name trail).Sound) (hfront : Inert front)
    (hback : back = [] ∨ back = [0x5f]) :
    (NamePart.named lead (front ++ (name ++ back)) trail).Sound := by
  obtain ⟨⟨hlead, hname, htrail⟩, hclosed⟩ := h
  have hdashes : Inert dashes := by
    intro x hx
    simp only [dashes, List.mem_cons, List.not_mem_nil, or_false, or_self] at hx
    subst hx
    decide
  have hinert : Inert back := by
    rcases hback with rfl | rfl
    · intro x hx
      cases hx
    · intro x hx
      obtain rfl := List.mem_singleton.mp hx
      decide
  refine ⟨⟨hlead, ?_, htrail⟩, ?_⟩
  · rcases hback with rfl | rfl
    · obtain ⟨m, x, rfl, hink⟩ := hname
      exact ⟨front ++ m, x, by simp, hink⟩
    · exact ⟨front ++ name, 0x5f, by simp, by decide⟩
  · have hread : Nesting.top.readPart? name = some .top := by
      refine readPart?_of_append_blank htrail ?_
      rw [bytes, Nesting.readPart?_append, readPart?_inert (inert_of_blank hlead),
        Option.bind_some, Nesting.readPart?_append, readPart?_inert hdashes] at hclosed
      exact hclosed
    simp only [bytes, Nesting.readPart?_append, readPart?_inert (inert_of_blank hlead),
      readPart?_inert hdashes, readPart?_inert hfront, hread, readPart?_inert hinert,
      readPart?_inert (inert_of_blank htrail), Option.bind_some]

/-! ### Texts as bytes -/

/-- What `f` makes of the text that the bytes are; bytes that are no text stay as they are. -/
def onBytes (f : String → String) (l : List UInt8) : List UInt8 :=
  if h : ByteArray.IsValidUTF8 ⟨⟨l⟩⟩ then utf8 (f (String.ofByteArray ⟨⟨l⟩⟩ h)) else l

theorem onBytes_utf8 (f : String → String) (s : String) : onBytes f (utf8 s) = utf8 (f s) := by
  have hvalid : ByteArray.IsValidUTF8 ⟨⟨utf8 s⟩⟩ := s.isValidUTF8
  rw [onBytes, dif_pos hvalid]
  rfl

theorem onBytes_cases (f : String → String) (l : List UInt8) :
    onBytes f l = l ∨ ∃ s, utf8 s = l ∧ onBytes f l = utf8 (f s) := by
  by_cases h : ByteArray.IsValidUTF8 ⟨⟨l⟩⟩
  · refine Or.inr ⟨String.ofByteArray ⟨⟨l⟩⟩ h, rfl, ?_⟩
    rw [onBytes, dif_pos h]
  · refine Or.inl ?_
    rw [onBytes, dif_neg h]

end Value

namespace Options

/-- No mark of a value stands in the leading text. -/
def LeadsPlainly (o : Options) : Prop :=
  ∀ lead, o.lead = some lead → ∀ c ∈ lead.toList, c ∉ Value.marks

theorem utf8_target {o : Options} (h : o.LeadsPlainly) (name : String) :
    ∃ front back, utf8 (o.target name) = front ++ (utf8 name ++ back) ∧ Value.Inert front ∧
      (back = [] ∨ back = [0x5f]) := by
  have hnil : Value.Inert [] := by
    intro x hx
    cases hx
  have happly : ∃ back, utf8 (o.strategy.apply name) = utf8 name ++ back ∧
      (back = [] ∨ back = [0x5f]) := by
    cases o.strategy with
    | plain => exact ⟨[], (List.append_nil _).symm, Or.inl rfl⟩
    | debug => exact ⟨[0x5f], utf8_append _ _, Or.inr rfl⟩
  obtain ⟨back, hback, hcases⟩ := happly
  cases hx : o.isExcluded name with
  | true =>
    refine ⟨[], [], ?_, hnil, Or.inl rfl⟩
    rw [target_of_isExcluded hx, List.append_nil, List.nil_append]
  | false =>
    rw [target_of_not_isExcluded hx, decorate]
    cases hl : o.lead with
    | none => exact ⟨[], back, hback, hnil, hcases⟩
    | some lead =>
      refine ⟨utf8 lead ++ [Ascii.dash], back, ?_, ?_, hcases⟩
      · show utf8 (lead ++ leadSeparator ++ o.strategy.apply name) = _
        rw [utf8_append, utf8_append, hback]
        rfl
      · refine (Value.inert_of_marks (h lead hl)).append ?_
        intro x hx
        obtain rfl := List.mem_singleton.mp hx
        decide

/-- Name parts stay name parts under new names. -/
theorem sound_rename_target {o : Options} (h : o.LeadsPlainly) (p : Value.NamePart) (hp : p.Sound) :
    (p.rename (Value.onBytes o.target)).Sound := by
  cases p with
  | nameless text => exact hp
  | named lead name trail =>
    rcases Value.onBytes_cases o.target name with hsame | ⟨s, rfl, htarget⟩
    · rw [Value.NamePart.rename, hsame]
      exact hp
    · obtain ⟨front, back, hbytes, hfront, hback⟩ := utf8_target h s
      rw [Value.NamePart.rename, htarget, hbytes]
      exact hp.surround hfront hback

end Options
end CustomProps
