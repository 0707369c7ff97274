import CustomProps.Json.Reader
import CustomProps.Proofs.Json.Tokens
/-!
# Values are read back from either written form

Both written forms of a value consist of the same tokens, with blanks between them in one of them,
and what the tokens write is the value.
-/
namespace CustomProps.Json

/-! ### The tokens of a value -/

mutual
def tokens : Json → List Token
  | .null => [.null]
  | .bool b => [.bool b]
  | .number n => [.number n]
  | .string text => [.string text]
  | .array items => .openArray :: itemTokens items
  | .object members => .openObject :: memberTokens members

def itemTokens : List Json → List Token
  | [] => [.closeArray]
  | [v] => tokens v ++ [.closeArray]
  | v :: rest => tokens v ++ .comma :: itemTokens rest

def memberTokens : List (Option String × Json) → List Token
  | [] => [.closeObject]
  | [(k, v)] => .string k :: .colon :: (tokens v ++ [.closeObject])
  | (k, v) :: rest => .string k :: .colon :: (tokens v ++ .comma :: memberTokens rest)
end

mutual
/-- All numbers in the value are written with digits. -/
def Sound : Json → Prop
  | .number n => n.Sound
  | .array items => SoundItems items
  | .object members => SoundMembers members
  | _ => True

def SoundItems : List Json → Prop
  | [] => True
  | v :: rest => v.Sound ∧ SoundItems rest

def SoundMembers : List (Option String × Json) → Prop
  | [] => True
  | (_, v) :: rest => v.Sound ∧ SoundMembers rest
end

theorem soundItems_iff {items : List Json} : SoundItems items ↔ ∀ v ∈ items, v.Sound := by
  induction items with
  | nil => simp [SoundItems]
  | cons v rest ih => simp [SoundItems, ih]

theorem sound_ofMembers {members : List (String × Json)} (h : ∀ m ∈ members, m.2.Sound) :
    (ofMembers members).Sound := by
  rw [ofMembers, Sound]
  induction members with
  | nil => trivial
  | cons m rest ih =>
    exact ⟨h m List.mem_cons_self, ih fun m' hm' => h m' (List.mem_cons_of_mem _ hm')⟩

/-! ### Written forms -/

section Written

open Token

theorem reads_bool (b : Bool) {cs : List Char} {ts : List Token} (h : Reads cs ts) :
    Reads (boolChars b ++ cs) (.bool b :: ts) := by
  cases b with
  | true => exact h.token rfl rfl
  | false => exact h.token rfl rfl

theorem reads_key (k : Option String) {cs : List Char} {ts : List Token} (h : Reads cs ts) :
    Reads (quoteText k ++ ':' :: cs) (.string k :: .colon :: ts) := by
  have hcolon : Reads (':' :: cs) (.colon :: ts) := h.token rfl rfl
  exact hcolon.string k

mutual
theorem reads_compactChars (v : Json) (hv : v.Sound) {cs : List Char} {ts : List Token}
    (hcs : Delimits cs) (h : Reads cs ts) : Reads (compactChars v ++ cs) (tokens v ++ ts) := by
  match v with
  | .null => exact h.token rfl rfl
  | .bool b => exact reads_bool b h
  | .number n => exact h.number hv hcs
  | .string text => exact h.string text
  | .array items => exact (reads_compactItems items hv h).token rfl rfl
  | .object members => exact (reads_compactMembers members hv h).token rfl rfl

theorem reads_compactItems (items : List Json) (hitems : SoundItems items) {cs : List Char}
    {ts : List Token} (h : Reads cs ts) :
    Reads (compactItems items ++ cs) (itemTokens items ++ ts) := by
  have hclose : Reads (']' :: cs) (.closeArray :: ts) := h.token rfl rfl
  match items with
  | [] => exact hclose
  | [v] =>
    rw [compactItems, itemTokens, List.append_assoc, List.append_assoc]
    exact reads_compactChars v hitems.1 (delimits_cons cs (by decide)) hclose
  | v :: next :: rest =>
    have hrest := reads_compactItems (next :: rest) hitems.2 h
    have hcomma : Reads (',' :: (compactItems (next :: rest) ++ cs))
        (.comma :: (itemTokens (next :: rest) ++ ts)) := hrest.token rfl rfl
    have hv := reads_compactChars v hitems.1 (delimits_cons _ (by decide)) hcomma
    simpa [compactItems, itemTokens] using hv

theorem reads_compactMembers (members : List (Option String × Json))
    (hmembers : SoundMembers members) {cs : List Char} {ts : List Token} (h : Reads cs ts) :
    Reads (compactMembers members ++ cs) (memberTokens members ++ ts) := by
  have hclose : Reads ('\x7d' :: cs) (.closeObject :: ts) := h.token rfl rfl
  match members with
  | [] => exact hclose
  | [(k, v)] =>
    have hv := reads_compactChars v hmembers.1 (delimits_cons _ (by decide)) hclose
    simpa [compactMembers, memberTokens] using reads_key k hv
  | (k, v) :: next :: rest =>
    have hrest := reads_compactMembers (next :: rest) hmembers.2 h
    have hcomma : Reads (',' :: (compactMembers (next :: rest) ++ cs))
        (.comma :: (memberTokens (next :: rest) ++ ts)) := hrest.token rfl rfl
    have hv := reads_compactChars v hmembers.1 (delimits_cons _ (by decide)) hcomma
    simpa [compactMembers, memberTokens] using reads_key k hv
end

mutual
theorem reads_prettyChars (level : Nat) (v : Json) (hv : v.Sound) {cs : List Char} {ts : List Token}
    (hcs : Delimits cs) (h : Reads cs ts) :
    Reads (prettyChars level v ++ cs) (tokens v ++ ts) := by
  match v with
  | .null => exact h.token rfl rfl
  | .bool b => exact reads_bool b h
  | .number n => exact h.number hv hcs
  | .string text => exact h.string text
  | .array [] =>
    have hclose : Reads (']' :: cs) (.closeArray :: ts) := h.token rfl rfl
    exact hclose.token rfl rfl
  | .array (item :: rest) =>
    have hitems := (reads_prettyItems level (item :: rest) hv h).newLine (level + 1)
    have hopen : Reads ('[' :: (newLine (level + 1) ++ (prettyItems level (item :: rest) ++ cs)))
        (.openArray :: (itemTokens (item :: rest) ++ ts)) := hitems.token rfl rfl
    simpa [prettyChars, tokens] using hopen
  | .object [] =>
    have hclose : Reads ('\x7d' :: cs) (.closeObject :: ts) := h.token rfl rfl
    exact hclose.token rfl rfl
  | .object (m :: rest) =>
    have hmembers := (reads_prettyMembers level (m :: rest) hv h).newLine (level + 1)
    have hopen : Reads ('\x7b' :: (newLine (level + 1) ++ (prettyMembers level (m :: rest) ++ cs)))
        (.openObject :: (memberTokens (m :: rest) ++ ts)) := hmembers.token rfl rfl
    simpa [prettyChars, tokens] using hopen

theorem reads_prettyItems (level : Nat) (items : List Json) (hitems : SoundItems items)
    {cs : List Char} {ts : List Token} (h : Reads cs ts) :
    Reads (prettyItems level items ++ cs) (itemTokens items ++ ts) := by
  have hclose : Reads (']' :: cs) (.closeArray :: ts) := h.token rfl rfl
  match items with
  | [] => exact hclose
  | [v] =>
    have hv := reads_prettyChars (level + 1) v hitems.1 (delimits_cons _ (by decide))
      (hclose.newLine level)
    simpa [prettyItems, itemTokens, newLine] using hv
  | v :: next :: rest =>
    have hrest := (reads_prettyItems level (next :: rest) hitems.2 h).newLine (level + 1)
    have hcomma : Reads
        (',' :: (newLine (level + 1) ++ (prettyItems level (next :: rest) ++ cs)))
        (.comma :: (itemTokens (next :: rest) ++ ts)) := hrest.token rfl rfl
    have hv := reads_prettyChars (level + 1) v hitems.1 (delimits_cons _ (by decide)) hcomma
    simpa [prettyItems, itemTokens] using hv

theorem reads_prettyMembers (level : Nat) (members : List (Option String × Json))
    (hmembers : SoundMembers members) {cs : List Char} {ts : List Token} (h : Reads cs ts) :
    Reads (prettyMembers level members ++ cs) (memberTokens members ++ ts) := by
  have hclose : Reads ('\x7d' :: cs) (.closeObject :: ts) := h.token rfl rfl
  match members with
  | [] => exact hclose
  | [(k, v)] =>
    have hv := reads_prettyChars (level + 1) v hmembers.1 (delimits_cons _ (by decide))
      (hclose.newLine level)
    have hblank : Reads (' ' :: _) _ := hv.blank rfl
    simpa [prettyMembers, memberTokens, newLine] using reads_key k hblank
  | (k, v) :: next :: rest =>
    have hrest := (reads_prettyMembers level (next :: rest) hmembers.2 h).newLine (level + 1)
    have hcomma : Reads
        (',' :: (newLine (level + 1) ++ (prettyMembers level (next :: rest) ++ cs)))
        (.comma :: (memberTokens (next :: rest) ++ ts)) := hrest.token rfl rfl
    have hv := reads_prettyChars (level + 1) v hmembers.1 (delimits_cons _ (by decide)) hcomma
    have hblank : Reads (' ' :: _) _ := hv.blank rfl
    simpa [prettyMembers, memberTokens] using reads_key k hblank
end

end Written

/-! ### What tokens write -/

section Reader

open Reader

theorem exists_tokens_eq (v : Json) : ∃ t ts, tokens v = t :: ts ∧ t ≠ .closeArray := by
  cases v with
  | null => exact ⟨_, _, rfl, by simp⟩
  | bool b => exact ⟨_, _, rfl, by simp⟩
  | number n => exact ⟨_, _, rfl, by simp⟩
  | string text => exact ⟨_, _, rfl, by simp⟩
  | array items => exact ⟨_, _, rfl, by simp⟩
  | object members => exact ⟨_, _, rfl, by simp⟩

/-- Behind an opening bracket the tokens of a value are its first item. -/
theorem foldlM_firstItem (v : Json) (outer : List Container) (ts : List Token) :
    (tokens v ++ ts).foldlM step (.firstItem outer) =
      (tokens v ++ ts).foldlM step (.value (.array [] :: outer)) := by
  obtain ⟨t, rest, hv, ht⟩ := exists_tokens_eq v
  rw [hv, List.cons_append, List.foldlM_cons, List.foldlM_cons]
  cases t with
  | closeArray => exact absurd rfl ht
  | _ => rfl

mutual
theorem foldlM_tokens (v : Json) (outer : List Container) (ts : List Token) :
    (tokens v ++ ts).foldlM step (.value outer) = ts.foldlM step (deliver v outer) := by
  match v with
  | .null => rfl
  | .bool b => rfl
  | .number n => rfl
  | .string text => rfl
  | .array [] => rfl
  | .array (item :: rest) =>
    have hitems := foldlM_itemTokens (item :: rest) (List.cons_ne_nil _ _) [] outer ts
    show (itemTokens (item :: rest) ++ ts).foldlM step (.firstItem outer) = _
    cases rest with
    | nil =>
      rw [itemTokens, List.append_assoc, foldlM_firstItem, ← List.append_assoc]
      exact hitems
    | cons next rest =>
      rw [itemTokens, List.append_assoc, foldlM_firstItem, ← List.append_assoc]
      · exact hitems
      · simp
  | .object [] => rfl
  | .object (m :: rest) =>
    have hmembers := foldlM_memberTokens (m :: rest) (List.cons_ne_nil _ _) [] outer ts
    cases rest with
    | nil => exact hmembers
    | cons next rest => exact hmembers

theorem foldlM_itemTokens (items : List Json) (hne : items ≠ []) (found : List Json)
    (outer : List Container) (ts : List Token) :
    (itemTokens items ++ ts).foldlM step (.value (.array found :: outer)) =
      ts.foldlM step (deliver (.array (found.reverse ++ items)) outer) := by
  match items with
  | [] => contradiction
  | [v] =>
    have hv := foldlM_tokens v (.array found :: outer) (.closeArray :: ts)
    simpa [itemTokens, deliver, step] using hv
  | v :: next :: rest =>
    have hv := foldlM_tokens v (.array found :: outer) (.comma :: (itemTokens (next :: rest) ++ ts))
    have hrest := foldlM_itemTokens (next :: rest) (List.cons_ne_nil _ _) (v :: found) outer ts
    simpa [itemTokens, deliver, step] using hv.trans hrest

theorem foldlM_memberTokens (members : List (Option String × Json)) (hne : members ≠ [])
    (found : List (Option String × Json)) (outer : List Container) (ts : List Token) :
    (memberTokens members ++ ts).foldlM step (.nextKey found outer) =
      ts.foldlM step (deliver (.object (found.reverse ++ members)) outer) := by
  match members with
  | [] => contradiction
  | [(k, v)] =>
    have hv := foldlM_tokens v (.object found k :: outer) (.closeObject :: ts)
    simpa [memberTokens, deliver, step] using hv
  | (k, v) :: next :: rest =>
    have hv := foldlM_tokens v (.object found k :: outer)
      (.comma :: (memberTokens (next :: rest) ++ ts))
    have hrest := foldlM_memberTokens (next :: rest) (List.cons_ne_nil _ _) ((k, v) :: found) outer ts
    simpa [memberTokens, deliver, step] using hv.trans hrest
end

theorem ofTokens?_tokens (v : Json) : ofTokens? (tokens v) = some v := by
  have hv := foldlM_tokens v [] []
  rw [List.append_nil] at hv
  rw [ofTokens?, hv]
  rfl

end Reader

/-! ### Both forms are read back -/

theorem parse?_compact {v : Json} (h : v.Sound) : parse? v.compact = some v := by
  have hreads : Token.Reads v.compact.toList (tokens v) := by
    have hchars := reads_compactChars v h (fun _ hc => by cases hc) Token.Reads.nil
    rw [List.append_nil, List.append_nil] at hchars
    rwa [compact, String.toList_ofList]
  rw [parse?, hreads.ofText?_eq, Option.bind_some, ofTokens?_tokens]

theorem parse?_pretty {v : Json} (h : v.Sound) : parse? v.pretty = some v := by
  have hreads : Token.Reads v.pretty.toList (tokens v) := by
    have hchars := reads_prettyChars 0 v h (fun _ hc => by cases hc) Token.Reads.nil
    rw [List.append_nil, List.append_nil] at hchars
    rwa [pretty, String.toList_ofList]
  rw [parse?, hreads.ofText?_eq, Option.bind_some, ofTokens?_tokens]

end CustomProps.Json
