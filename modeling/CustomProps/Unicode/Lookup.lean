import CustomProps.Unicode.Age
import CustomProps.Unicode.Segmentation
/-!
Sets of code points by the names that the character database gives them: general categories,
scripts, binary properties, and the values of the properties that have several. Names are compared
loosely: case, blanks, underscores and hyphens do not count, nor does a leading `is`.
-/
namespace CustomProps.Unicode

/-- What counts in a name. A leading `is` is dropped, unless that would leave `c`: `isc` is the name
of a property of its own. -/
def looseName (name : String) : String :=
  let bare (cs : List Char) : List Char :=
    (cs.filter fun c => c.toNat < 0x80 && c != ' ' && c != '_' && c != '-').map Char.toLower
  match name.toList with
  | i :: s :: rest =>
    if i.toLower == 'i' && s.toLower == 's' then
      if bare rest == ['c'] then "isc" else String.ofList (bare rest)
    else String.ofList (bare name.toList)
  | cs => String.ofList (bare cs)

/-- The entry of a list of named things that has a given loose name. -/
def findByName? {α : Type} (entries : List (List String × α)) (loose : String) : Option α :=
  (entries.find? fun e => e.1.any fun n => looseName n == loose).map Prod.snd

/-! ### The classes behind the one-letter escapes -/

def digit : CodeSet := Category.among [.decimalNumber]

def space : CodeSet := Property.whiteSpace

/-- Letters, marks, digits, connectors and the joiners: what words are made of. -/
def word : CodeSet :=
  .union [Property.alphabetic, Category.codes (·.isMark), digit,
    Category.among [.connectorPunctuation], Property.joinControl]

/-! ### Named sets -/

/-- General categories, groups of them, and the sets of all, of all assigned and of all ASCII code
points. Surrogates are no characters and have no entry. -/
def categoriesByName : List (List String × (Unit → CodeSet)) :=
  let one (k : Category) (_ : Unit) : CodeSet := Category.among [k]
  let group (p : Category → Bool) (_ : Unit) : CodeSet := Category.codes p
  [(["Any"], group fun _ => true),
    (["Assigned"], group (· != .unassigned)),
    (["ASCII"], fun _ => .ofRange 0x00 0x7f),
    (["C", "Other"], group (·.isOther)),
    (["Cc", "Control", "cntrl"], one .control),
    (["Cf", "Format"], one .format),
    (["Cn", "Unassigned"], one .unassigned),
    (["Co", "Private_Use"], one .privateUse),
    (["L", "Letter"], group (·.isLetter)),
    (["LC", "Cased_Letter"], group (·.isCasedLetter)),
    (["Ll", "Lowercase_Letter"], one .lowercaseLetter),
    (["Lm", "Modifier_Letter"], one .modifierLetter),
    (["Lo", "Other_Letter"], one .otherLetter),
    (["Lt", "Titlecase_Letter"], one .titlecaseLetter),
    (["Lu", "Uppercase_Letter"], one .uppercaseLetter),
    (["M", "Mark", "Combining_Mark"], group (·.isMark)),
    (["Mc", "Spacing_Mark"], one .spacingMark),
    (["Me", "Enclosing_Mark"], one .enclosingMark),
    (["Mn", "Nonspacing_Mark"], one .nonspacingMark),
    (["N", "Number"], group (·.isNumber)),
    (["Nd", "Decimal_Number", "digit"], one .decimalNumber),
    (["Nl", "Letter_Number"], one .letterNumber),
    (["No", "Other_Number"], one .otherNumber),
    (["P", "Punctuation", "punct"], group (·.isPunctuation)),
    (["Pc", "Connector_Punctuation"], one .connectorPunctuation),
    (["Pd", "Dash_Punctuation"], one .dashPunctuation),
    (["Pe", "Close_Punctuation"], one .closePunctuation),
    (["Pf", "Final_Punctuation"], one .finalPunctuation),
    (["Pi", "Initial_Punctuation"], one .initialPunctuation),
    (["Po", "Other_Punctuation"], one .otherPunctuation),
    (["Ps", "Open_Punctuation"], one .openPunctuation),
    (["S", "Symbol"], group (·.isSymbol)),
    (["Sc", "Currency_Symbol"], one .currencySymbol),
    (["Sk", "Modifier_Symbol"], one .modifierSymbol),
    (["Sm", "Math_Symbol"], one .mathSymbol),
    (["So", "Other_Symbol"], one .otherSymbol),
    (["Z", "Separator"], group (·.isSeparator)),
    (["Zl", "Line_Separator"], one .lineSeparator),
    (["Zp", "Paragraph_Separator"], one .paragraphSeparator),
    (["Zs", "Space_Separator"], one .spaceSeparator)]

def categoryByName? (loose : String) : Option CodeSet :=
  (findByName? categoriesByName loose).map fun codes => codes ()

/-- The code of the script with a given loose name. -/
def scriptByName? (loose : String) : Option String :=
  findByName? (Script.names.map fun (code, names) => (code :: names, code)) loose

/-- The version with a given loose name: `V` and its numbers, or the numbers with a point. -/
def versionByName? (loose : String) : Option Age.Version :=
  findByName?
    (Age.versions.map fun v => ([s!"{v.major}.{v.minor}", s!"V{v.major}_{v.minor}"], v)) loose

/-- How a set of code points is asked for. -/
inductive Query where
  /-- By the name of a binary property, a general category or a script. -/
  | named (name : String)
  /-- By the value of a property. -/
  | valued (property value : String)
deriving DecidableEq, Repr, Inhabited

/-- The set of that name: a binary property before a general category before a script. -/
def find? : Query → Option CodeSet
  | .named name =>
    let loose := looseName name
    (findByName? Property.byName loose).orElse fun _ =>
      (categoryByName? loose).orElse fun _ => (scriptByName? loose).map Script.codes
  | .valued property value =>
    let loose := looseName value
    match looseName property with
    | "gc" | "generalcategory" => categoryByName? loose
    | "sc" | "script" => (scriptByName? loose).map Script.codes
    | "scx" | "scriptextensions" => (scriptByName? loose).map Script.users
    | "age" => (versionByName? loose).map Age.upTo
    | "gcb" | "graphemeclusterbreak" => findByName? Segmentation.graphemeBreak loose
    | "sb" | "sentencebreak" => findByName? Segmentation.sentenceBreak loose
    | "wb" | "wordbreak" => findByName? Segmentation.wordBreak loose
    | _ => none

end CustomProps.Unicode
