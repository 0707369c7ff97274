import CustomProps.Pattern.Regex
/-!
Where expressions match, by playing all matches at once. The characters that an expression consumes
carry marks: a mark says that some match has just consumed the last character of the text there. One
visit of the expression at each place of the text moves the marks over the next character, so the
time taken is at most the length of the text times the size of the expression, however repetitions
nest. Parts without marks are not gone through unless a match begins in them.
-/
namespace CustomProps.Pattern

open Unicode (CodeSet)

/-! ### Places -/

/-- What words in ASCII are made of. -/
def asciiWord : CodeSet :=
  .union [.ofRange 0x30 0x39, .ofRange 0x41 0x5a, .singleton 0x5f, .ofRange 0x61 0x7a]

/-- A gap between two neighbours in a text, told by the code points at its sides. -/
structure Gap where
  before : Option Nat
  after : Option Nat

namespace Gap

def lineFeed : Nat := 0x0a

def carriageReturn : Nat := 0x0d

/-- At the start of the text or after a line break; not between the parts of a break of two. -/
def startsLine (g : Gap) (crlf : Bool) : Bool :=
  g.before.all fun b =>
    b == lineFeed || (crlf && b == carriageReturn && g.after != some lineFeed)

/-- At the end of the text or before a line break; not between the parts of a break of two. -/
def endsLine (g : Gap) (crlf : Bool) : Bool :=
  g.after.all fun a =>
    (a == lineFeed && !(crlf && g.before == some carriageReturn)) || (crlf && a == carriageReturn)

def isAtWord (g : Gap) (edge : WordEdge) (unicode : Bool) : Bool :=
  let within (c : Option Nat) : Bool := c.any (if unicode then Unicode.word else asciiWord).contains
  match edge with
  | .boundary => within g.before != within g.after
  | .noBoundary => within g.before == within g.after
  | .start => !within g.before && within g.after
  | .finish => within g.before && !within g.after
  | .startHalf => !within g.before
  | .finishHalf => !within g.after

/-- The gap is such a place. -/
def isAt (g : Gap) : Place → Bool
  | .textStart => g.before.isNone
  | .textEnd => g.after.isNone
  | .lineStart crlf => g.startsLine crlf
  | .lineEnd crlf => g.endsLine crlf
  | .word edge unicode => g.isAtWord edge unicode

end Gap

/-! ### Marks -/

/-- What is known of an expression whose characters carry marks without going through it. -/
structure Summary where
  /-- Some character carries a mark. -/
  isLive : Bool
  /-- Whether the expression matches the empty text, if that is the same at all gaps. -/
  skips : Option Bool

/-- The summary of a compound of two expressions; `op` says when it matches the empty text. -/
def Summary.join (op : Bool → Bool → Bool) (s t : Summary) : Summary where
  isLive := s.isLive || t.isLive
  skips := do some (op (← s.skips) (← t.skips))

/-- An expression whose characters carry marks. Compound expressions come with their summaries. -/
inductive Marked where
  | empty
  | one (set : CodeSet) (mark : Bool)
  | look (place : Place)
  | concat (known : Summary) (first second : Marked)
  | either (known : Summary) (left right : Marked)
  /-- Once or more. -/
  | plus (known : Summary) (inner : Marked)
deriving Inhabited

namespace Marked

def summary : Marked → Summary
  | .empty => ⟨false, some true⟩
  | .one _ mark => ⟨mark, some false⟩
  | .look _ => ⟨false, none⟩
  | .concat known _ _ => known
  | .either known _ _ => known
  | .plus known _ => known

/-- One expression after the other. -/
def chain (r q : Marked) : Marked := .concat (.join (fun a b => a && b) r.summary q.summary) r q

/-- One of two expressions. -/
def fork (r q : Marked) : Marked := .either (.join (fun a b => a || b) r.summary q.summary) r q

/-- An expression once or more. -/
def loop (r : Marked) : Marked := .plus r.summary r

/-- What a visit at a gap finds. -/
structure Visit where
  /-- The expression matches the empty text at this gap. -/
  skips : Bool
  /-- A match of the expression ends at this gap, after a character. -/
  ends : Bool
  /-- The expression with its marks moved over the next character, given whether a match of it may
  begin at this gap. -/
  move : Bool → Marked

/-- The visit of `r` that `full` makes, which is put off while `r` carries no mark. -/
def Visit.ofSummary (known : Summary) (r : Marked) (full : Unit → Visit) : Visit :=
  match known with
  | ⟨false, some skips⟩ => ⟨skips, false, fun begins => if begins then (full ()).move true else r⟩
  | _ => full ()

def visit (g : Gap) : Marked → Visit
  | .empty => ⟨true, false, fun _ => .empty⟩
  | .one s mark => ⟨false, mark, fun begins => .one s (begins && g.after.any s.contains)⟩
  | .look p => ⟨g.isAt p, false, fun _ => .look p⟩
  | .concat known r q =>
    .ofSummary known (.concat known r q) fun _ =>
      let v := r.visit g
      let w := q.visit g
      ⟨v.skips && w.skips, w.ends || (v.ends && w.skips),
        fun begins => chain (v.move begins) (w.move (v.ends || (begins && v.skips)))⟩
  | .either known r q =>
    .ofSummary known (.either known r q) fun _ =>
      let v := r.visit g
      let w := q.visit g
      ⟨v.skips || w.skips, v.ends || w.ends, fun begins => fork (v.move begins) (w.move begins)⟩
  | .plus known r =>
    .ofSummary known (.plus known r) fun _ =>
      let v := r.visit g
      ⟨v.skips, v.ends, fun begins => loop (v.move (begins || v.ends))⟩

/-- The expression matches some stretch of a text that begins or ends here or later. -/
def matchesFrom (r : Marked) (before : Option Nat) : List Nat → Bool
  | [] =>
    let v := r.visit ⟨before, none⟩
    v.skips || v.ends
  | c :: rest =>
    let v := r.visit ⟨before, some c⟩
    v.skips || v.ends || (v.move true).matchesFrom (some c) rest

/-! ### Expressions without marks -/

def optional (r : Marked) : Marked := fork .empty r

/-- An expression `n` times. -/
def power (r : Marked) (n : Nat) : Marked :=
  if n = 0 then .empty
  else if n = 1 then r
  else chain (r.power (n / 2)) (r.power (n - n / 2))
termination_by n

def repeated (r : Marked) (least : Nat) : Option Nat → Marked
  | some most => chain (r.power least) (r.optional.power (most - least))
  | none =>
    if least = 0 then r.loop.optional else chain (r.power (least - 1)) r.loop

mutual
/-- The expression with no marks set. -/
def ofRegex : Regex → Marked
  | .empty => .empty
  | .text codes =>
    (Balanced.join? chain (codes.map fun c => .one (.singleton c) false)).getD .empty
  | .one s => .one s false
  | .look p => .look p
  | .repetition inner least most => (ofRegex inner).repeated least most
  | .capture inner => ofRegex inner
  | .concat items => (Balanced.join? chain (ofRegexes [] items)).getD .empty
  | .either items => (Balanced.join? fork (ofRegexes [] items)).getD (.one .empty false)

/-- The same for each of some expressions; `done` holds those before them, the last one first. -/
def ofRegexes (done : List Marked) : List Regex → List Marked
  | [] => done.reverse
  | r :: rest => ofRegexes (ofRegex r :: done) rest
end

end Marked

/-- The expression matches some stretch of the text. -/
def Regex.matchesIn (r : Regex) (text : List Nat) : Bool :=
  (Marked.ofRegex r).matchesFrom none text

end CustomProps.Pattern
