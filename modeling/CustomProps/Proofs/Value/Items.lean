import CustomProps.Proofs.Value.Inert
import CustomProps.Proofs.Value.Layout
import CustomProps.Proofs.Value.Pending
/-!
# Values as trees

A value can be put together from plain text, quoted strings, groups in parentheses and calls, whose
fallbacks are put together in the same way. Printing such a tree makes a value; where the pieces
meet, no call may continue an identifier and no group may make a call of the text in front of it.
-/
namespace CustomProps.Value

/-- White space, as characters. -/
def blanks : List Char := [' ', '\t', '\n', '\x0c', '\r']

/-- Text without quotes and parentheses. -/
structure PlainText where
  text : String
  plain : ∀ c ∈ text.toList, c ∉ ['"', '\'', '(', ')']

/-- A character in a string, or any character behind a backslash. -/
inductive QuotedChar (quote : Char) where
  | plain (c : Char) (h : c ≠ quote ∧ c ≠ '\\')
  | escaped (c : Char)

/-- A string that is closed by the quote that opens it. -/
structure QuotedText where
  quote : Char
  isQuote : quote = '"' ∨ quote = '\''
  content : List (QuotedChar quote)

/-- What a call begins with, up to the end of its name part. -/
structure CallHead where
  word : String
  lead : String
  name : String
  trail : String
  spells : word.toList.map Char.toLower = ['v', 'a', 'r']
  blankLead : ∀ c ∈ lead.toList, c ∈ blanks
  blankTrail : ∀ c ∈ trail.toList, c ∈ blanks
  plain : ∀ c ∈ name.toList, c ∉ marks
  ink : ∃ m c, name.toList = m ++ [c] ∧ c ∉ blanks

inductive Items where
  | nil
  | text (t : PlainText) (rest : Items)
  | quoted (t : QuotedText) (rest : Items)
  | group (inner rest : Items)
  | call (head : CallHead) (rest : Items)
  | callWith (head : CallHead) (fallback rest : Items)

/-! ### Printing -/

def QuotedChar.print {quote : Char} : QuotedChar quote → String
  | plain c _ => String.singleton c
  | escaped c => "\\" ++ String.singleton c

/-- The characters of a string and the quote that closes it. -/
def QuotedText.printFrom {quote : Char} : List (QuotedChar quote) → String
  | [] => String.singleton quote
  | c :: cs => c.print ++ printFrom cs

def QuotedText.print (t : QuotedText) : String := String.singleton t.quote ++ printFrom t.content

def CallHead.print (h : CallHead) : String :=
  h.word ++ ("(" ++ (h.lead ++ ("--" ++ (h.name ++ h.trail))))

def Items.print : Items → String
  | nil => ""
  | text t rest => t.text ++ rest.print
  | quoted t rest => t.print ++ rest.print
  | group inner rest => "(" ++ (inner.print ++ (")" ++ rest.print))
  | call head rest => head.print ++ (")" ++ rest.print)
  | callWith head fallback rest =>
    head.print ++ ("," ++ (fallback.print ++ (")" ++ rest.print)))

/-- The pieces may stand side by side behind `before`: no call continues an identifier, and no group
makes a call of what stands in front of it. -/
def Items.Fits (before : String) : Items → Prop
  | nil => True
  | text t rest => rest.Fits (before ++ t.text)
  | quoted t rest => rest.Fits (before ++ t.print)
  | group inner rest =>
    ¬EndsVar (utf8 before) ∧ inner.Fits (before ++ "(") ∧
      rest.Fits (before ++ ("(" ++ (inner.print ++ ")")))
  | call head rest => ¬EndsIdent (utf8 before) ∧ rest.Fits (before ++ (head.print ++ ")"))
  | callWith head fallback rest =>
    ¬EndsIdent (utf8 before) ∧ fallback.Fits (before ++ (head.print ++ ",")) ∧
      rest.Fits (before ++ (head.print ++ ("," ++ (fallback.print ++ ")"))))

instance Items.decidableFits : (before : String) → (items : Items) → Decidable (items.Fits before)
  | _, nil => isTrue trivial
  | before, text t rest => decidableFits (before ++ t.text) rest
  | before, quoted t rest => decidableFits (before ++ t.print) rest
  | before, group inner rest =>
    have := decidableFits (before ++ "(") inner
    have := decidableFits (before ++ ("(" ++ (inner.print ++ ")"))) rest
    inferInstanceAs (Decidable (_ ∧ _ ∧ _))
  | before, call head rest =>
    have := decidableFits (before ++ (head.print ++ ")")) rest
    inferInstanceAs (Decidable (_ ∧ _))
  | before, callWith head fallback rest =>
    have := decidableFits (before ++ (head.print ++ ",")) fallback
    have := decidableFits (before ++ (head.print ++ ("," ++ (fallback.print ++ ")")))) rest
    inferInstanceAs (Decidable (_ ∧ _ ∧ _))

/-- A call of a tree: where it is printed, all of its text, its name, and its fallback. -/
structure Cited where
  start : Nat
  text : String
  name : String
  fallback : Option String
deriving DecidableEq, Repr

/-- The calls of a tree that is printed from `o` on: a call, those of its fallback, then its later
siblings. -/
def Items.cited (o : Nat) : Items → List Cited
  | nil => []
  | text t rest => rest.cited (o + t.text.utf8ByteSize)
  | quoted t rest => rest.cited (o + t.print.utf8ByteSize)
  | group inner rest => inner.cited (o + 1) ++ rest.cited (o + 1 + inner.print.utf8ByteSize + 1)
  | call head rest =>
    ⟨o, head.print ++ ")", head.name, none⟩ :: rest.cited (o + head.print.utf8ByteSize + 1)
  | callWith head fallback rest =>
    let inner := o + head.print.utf8ByteSize + 1
    ⟨o, head.print ++ ("," ++ (fallback.print ++ ")")), head.name, some fallback.print⟩ ::
      (fallback.cited inner ++ rest.cited (inner + fallback.print.utf8ByteSize + 1))

/-! ### The bytes of the pieces -/

theorem PlainText.marks_of_mem {t : PlainText} {x : UInt8} (hx : x ∈ utf8 t.text) :
    Ascii.isQuote x = false ∧ x ≠ Ascii.openParen ∧ x ≠ Ascii.closeParen := by
  have hclear : ∀ d ∈ ['"', '\'', '(', ')'], ∀ y, String.utf8EncodeChar d = [y] → y < 0x80 →
      x ≠ y := by
    intro d hd y hy hlt
    exact ne_of_mem_utf8 (fun hmem => t.plain d hmem hd) hy hlt hx
  refine ⟨?_, ?_, ?_⟩
  · have hdouble := hclear '"' (by decide) 0x22 (by decide) (by decide)
    have hsingle := hclear '\'' (by decide) 0x27 (by decide) (by decide)
    simp [Ascii.isQuote, hdouble, hsingle]
  · exact hclear '(' (by decide) 0x28 (by decide) (by decide)
  · exact hclear ')' (by decide) 0x29 (by decide) (by decide)

theorem QuotedChar.stays {quote : Char} {q : UInt8} (hq : String.utf8EncodeChar quote = [q])
    (hlt : q < 0x80) (c : QuotedChar quote) : Stays q (utf8 c.print) := by
  have hne : ∀ {c d : Char} {x y : UInt8}, c ≠ d → x ∈ String.utf8EncodeChar c → y < 0x80 →
      String.utf8EncodeChar d = [y] → x ≠ y := by
    rintro c d x y hcd hx hy hd rfl
    exact hcd (eq_of_mem_utf8EncodeChar hx hy hd)
  cases c with
  | plain c h =>
    rw [QuotedChar.print, utf8_singleton]
    refine Stays.of_forall fun x hx => ⟨?_, ?_⟩
    · exact hne h.1 hx hlt hq
    · exact hne h.2 hx (by decide) (by decide)
  | escaped c =>
    have hback : utf8 "\\" = [Ascii.backslash] := by decide
    rw [QuotedChar.print, utf8_append, hback, utf8_singleton]
    obtain ⟨x, l, hc⟩ := List.exists_cons_of_ne_nil (utf8EncodeChar_ne_nil c)
    rw [hc]
    refine Stays.backslash (Stays.of_forall fun y hy => ?_)
    -- the backslash takes the first byte of the character, and none of the others is below 128
    have hge : ¬y < 0x80 := not_lt_of_mem_tail hc hy
    refine ⟨?_, ?_⟩
    · rintro rfl
      exact hge hlt
    · rintro rfl
      exact hge (by decide)

theorem QuotedText.closes {quote : Char} {q : UInt8} (hq : String.utf8EncodeChar quote = [q])
    (hquote : Ascii.isQuote q = true) (hlt : q < 0x80) (content : List (QuotedChar quote)) :
    Closes q (utf8 (printFrom content)) := by
  induction content with
  | nil =>
    rw [printFrom, utf8_singleton, hq]
    exact Closes.quote hquote
  | cons c content ih =>
    rw [printFrom, utf8_append]
    exact (c.stays hq hlt).append_closes ih

theorem QuotedText.isString (t : QuotedText) : IsString (utf8 t.print) := by
  have hbyte : ∃ q, String.utf8EncodeChar t.quote = [q] ∧ Ascii.isQuote q = true ∧ q < 0x80 := by
    rcases t.isQuote with h | h
    · exact ⟨0x22, by rw [h]; decide, by decide, by decide⟩
    · exact ⟨0x27, by rw [h]; decide, by decide, by decide⟩
  obtain ⟨q, hq, hquote, hlt⟩ := hbyte
  refine ⟨q, utf8 (printFrom t.content), ?_, hquote, closes hq hquote hlt t.content⟩
  rw [print, utf8_append, utf8_singleton, hq, List.singleton_append]

/-! ### The beginning of a call -/

theorem eq_or_eq_of_toLower {c d u : Char} (h : c.toLower = d) (hu : u.val + 32 = d.val) :
    c = d ∨ c = u := by
  unfold Char.toLower at h
  split at h
  · refine Or.inr (Char.ext ?_)
    have hval : c.val + ('a'.val - 'A'.val) = d.val := congrArg Char.val h
    rw [← hu] at hval
    exact (UInt32.add_left_inj 32).mp hval
  · exact Or.inl h

theorem blank_of_blanks {s : String} (h : ∀ c ∈ s.toList, c ∈ blanks) : Blank (utf8 s) := by
  have hspace : (blanks.all fun c => (String.utf8EncodeChar c).all Ascii.isSpace) = true := by
    decide
  intro x hx
  rw [utf8_eq_flatMap] at hx
  obtain ⟨c, hc, hxc⟩ := List.mem_flatMap.mp hx
  exact List.all_eq_true.mp (List.all_eq_true.mp hspace c (h c hc)) x hxc

theorem exists_blank {x : UInt8} (hx : Ascii.isSpace x = true) :
    ∃ d ∈ blanks, String.utf8EncodeChar d = [x] := by
  have hany : ∀ y, Ascii.isSpace y = true →
      (blanks.any fun d => String.utf8EncodeChar d == [y]) = true := by
    refine Ascii.forall_byte ?_
    decide +kernel
  obtain ⟨d, hd, hbyte⟩ := List.any_eq_true.mp (hany x hx)
  exact ⟨d, hd, beq_iff_eq.mp hbyte⟩

theorem endsInk_of_blanks {s : String} (h : ∃ m c, s.toList = m ++ [c] ∧ c ∉ blanks) :
    EndsInk (utf8 s) := by
  obtain ⟨m, c, hs, hc⟩ := h
  have hne := utf8EncodeChar_ne_nil c
  refine ⟨m.flatMap String.utf8EncodeChar ++ (String.utf8EncodeChar c).dropLast,
    (String.utf8EncodeChar c).getLast hne, ?_, Bool.eq_false_iff.mpr fun hspace => hc ?_⟩
  · rw [utf8_eq_flatMap, hs, List.flatMap_append, List.flatMap_singleton, List.append_assoc,
      List.dropLast_concat_getLast]
  · obtain ⟨d, hd, hx⟩ := exists_blank hspace
    rw [eq_of_mem_utf8EncodeChar (List.getLast_mem hne) (Ascii.lt_of_isSpace _ hspace) hx]
    exact hd

namespace CallHead

variable (h : CallHead)

def opening : List UInt8 := utf8 h.word ++ [Ascii.openParen]

def part : NamePart := .named (utf8 h.lead) (utf8 h.name) (utf8 h.trail)

theorem utf8_print : utf8 h.print = h.opening ++ h.part.bytes := by
  have hopen : utf8 "(" = [Ascii.openParen] := by decide
  have hdashes : utf8 "--" = dashes := by decide
  simp only [print, opening, part, NamePart.bytes, utf8_append, hopen, hdashes, List.append_assoc]

theorem isOpening : IsOpening h.opening := by
  obtain ⟨c₁, l₁, hw, h₁, hl₁⟩ := List.map_eq_cons_iff.mp h.spells
  obtain ⟨c₂, l₂, rfl, h₂, hl₂⟩ := List.map_eq_cons_iff.mp hl₁
  obtain ⟨c₃, l₃, rfl, h₃, hl₃⟩ := List.map_eq_cons_iff.mp hl₂
  obtain rfl := List.map_eq_nil_iff.mp hl₃
  have hv : c₁ = 'v' ∨ c₁ = 'V' := eq_or_eq_of_toLower h₁ rfl
  have ha : c₂ = 'a' ∨ c₂ = 'A' := eq_or_eq_of_toLower h₂ rfl
  have hr : c₃ = 'r' ∨ c₃ = 'R' := eq_or_eq_of_toLower h₃ rfl
  rw [opening, utf8_eq_flatMap, hw]
  rcases hv with rfl | rfl <;> rcases ha with rfl | rfl <;> rcases hr with rfl | rfl <;> decide

theorem part_sound : h.part.Sound where
  split := ⟨blank_of_blanks h.blankLead, endsInk_of_blanks h.ink, blank_of_blanks h.blankTrail⟩
  closed := by
    have hlead := inert_of_blank (blank_of_blanks h.blankLead)
    have htrail := inert_of_blank (blank_of_blanks h.blankTrail)
    have hdashes : Inert dashes := by
      intro x hx
      obtain rfl : x = Ascii.dash := by simpa [dashes] using hx
      decide
    exact readPart?_inert (hlead.append (hdashes.append ((inert_of_marks h.plain).append htrail)))

end CallHead

end CustomProps.Value
