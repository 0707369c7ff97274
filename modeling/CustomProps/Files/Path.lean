/-!
Paths as they are written: the pieces of a text between its slashes. Empty pieces and single dots
name nothing, so `a//b/.` names what `a/b` names, but a path keeps its own spelling. A path that
begins with a slash has an empty first piece and at least one more.

Parents and siblings follow what a path names: `a/b/.` has the last name `b` and the parent `a`.
-/
namespace CustomProps

structure Path where
  pieces : List String
deriving DecidableEq, Repr, Inhabited

namespace Path

def ofText (text : String) : Path := ⟨(text.toList.splitOn '/').map String.ofList⟩

def text (p : Path) : String := "/".intercalate p.pieces

/-- The path has no text at all. -/
def isEmpty (p : Path) : Bool := p.pieces == [""]

/-- A piece that names nothing. -/
def isBlank (piece : String) : Bool := piece == "" || piece == "."

/-- The pieces less the empty ones at the end. -/
def withoutEndSlashes (p : Path) : List String :=
  (p.pieces.reverse.dropWhile (· == "")).reverse

/-- The pieces up to the last one that names something. -/
def trim : List String → List String
  | [] => []
  | piece :: rest =>
    match trim rest with
    | [] => if isBlank piece then [] else [piece]
    | kept => piece :: kept

/-- What a path begins with when it begins at the root or with a dot, and the pieces after that. -/
def splitLead (p : Path) : Option String × List String :=
  match p.pieces with
  | "" :: next :: rest => (some "", next :: rest)
  | "." :: rest => (some ".", rest)
  | pieces => (none, pieces)

/-- The path that a lead and trimmed pieces write. -/
def ofLead : Option String → List String → Path
  | some "", [] => ⟨["", ""]⟩
  | some lead, pieces => ⟨lead :: pieces⟩
  | none, [] => ⟨[""]⟩
  | none, pieces => ⟨pieces⟩

/-- The path without its last name. The root and the empty path have no parent; a dot alone has the
empty one. -/
def parent? (p : Path) : Option Path :=
  match p.splitLead with
  | (lead, pieces) =>
    match trim pieces with
    | [] => if lead = some "." then some ⟨[""]⟩ else none
    | kept => some (ofLead lead (trim kept.dropLast))

/-- The last name of a path, unless it leads upwards there. -/
def name? (p : Path) : Option String :=
  (trim p.splitLead.2).getLast?.filter fun piece => piece != ".."

/-- The path that leads on from `p` by the given pieces; a slash that ends `p` is not repeated. -/
def join (p : Path) (pieces : List String) : Path :=
  if p.pieces.getLast? = some "" then ⟨p.pieces.dropLast ++ pieces⟩ else ⟨p.pieces ++ pieces⟩

/-- A path with another last name, which is added if there is none. -/
def withName (p : Path) (name : String) : Path :=
  match p.name?, p.parent? with
  | some _, some parent => parent.join [name]
  | _, _ => p.join [name]

/-- A file name up to its last dot; a dot in front does not count. -/
def stem (name : String) : String :=
  let cs := name.toList
  match cs.reverse.dropWhile (· != '.') with
  | [] | ['.'] => name
  | _ :: before => String.ofList before.reverse

/-- The path beside `p` whose last name is that of `p` up to its last dot, a dot, and `ending`. -/
def sibling (p : Path) (ending : String) : Path :=
  p.withName ((p.name?.map stem).getD "" ++ "." ++ ending)

/-! ### Parents are shorter -/

/-- The length of pieces when each is followed by one more character. -/
def extent : List String → Nat
  | [] => 0
  | piece :: rest => piece.length + 1 + extent rest

def size (p : Path) : Nat := extent p.pieces

theorem extent_trim_le (pieces : List String) : extent (trim pieces) ≤ extent pieces := by
  fun_induction trim pieces with
  | case1 => simp
  | case2 => simp [extent]
  | case3 => simp [extent]
  | case4 piece rest _ ih => simpa [extent] using ih

theorem two_le_extent_of_trim {pieces : List String} (h : trim pieces ≠ []) :
    2 ≤ extent pieces := by
  fun_induction trim pieces with
  | case1 => contradiction
  | case2 => contradiction
  | case3 piece rest _ hp ih =>
    have : piece.length ≠ 0 := fun h0 => by
      have : piece = "" := String.length_eq_zero_iff.mp h0
      simp [isBlank, this] at hp
    simp [extent]
    omega
  | case4 piece rest kept ih =>
    have := ih kept
    simp only [extent] at *
    omega

theorem extent_dropLast_lt {pieces : List String} (h : pieces ≠ []) :
    extent pieces.dropLast < extent pieces := by
  induction pieces with
  | nil => contradiction
  | cons piece rest ih =>
    cases rest with
    | nil => simp [extent]
    | cons next rest =>
      have := ih (by simp)
      simp only [extent, List.dropLast_cons_cons] at *
      omega

theorem extent_trim_dropLast_lt {pieces : List String} (h : pieces ≠ []) :
    extent (trim pieces.dropLast) < extent pieces :=
  Nat.lt_of_le_of_lt (extent_trim_le _) (extent_dropLast_lt h)

theorem size_parent?_lt {p q : Path} (h : p.parent? = some q) : q.size < p.size := by
  obtain ⟨lead, pieces, hl⟩ : ∃ lead pieces, p.splitLead = (lead, pieces) := ⟨_, _, rfl⟩
  have hp : p.size = extent pieces + (lead.map fun l => l.length + 1).getD 0 ∧
      (lead = none ∨ lead = some "" ∨ lead = some ".") := by
    unfold splitLead at hl
    split at hl <;> cases hl <;> simp [size, extent, *] <;> omega
  simp only [parent?, hl] at h
  split at h
  · rename_i ht
    split at h
    · rename_i hd
      subst hd
      cases h
      rw [hp.1]
      show 1 < extent pieces + 2
      omega
    · cases h
  · rename_i hk
    have h2 := two_le_extent_of_trim hk
    have hlt := Nat.lt_of_lt_of_le (extent_trim_dropLast_lt hk) (extent_trim_le pieces)
    cases h
    rw [hp.1]
    rcases hp.2 with rfl | rfl | rfl <;> simp only [ofLead] <;> split <;>
      simp_all [size, extent] <;> omega

end Path
end CustomProps
