import CustomProps.Exclusion
import CustomProps.Strategy
/-!
What a run is asked to do: the strategy, the exclusions, and a text that is put in front of every
renamed name. Options are built up from the defaults one setting at a time, or from a configuration;
either way a strategy or pattern that makes no sense is an error before any stylesheet is touched.
-/
namespace CustomProps

/-- Why settings make no options. -/
inductive OptionsError where
  | unknownStrategy (word : String)
  | invalidPattern (text : String) (fault : Pattern.Fault)
deriving DecidableEq, Repr, Inhabited

namespace OptionsError

/-- What is wrong. -/
def claim : OptionsError → String
  | unknownStrategy word => s!"Unknown rename strategy '{word}' (expected 'none' or 'debug')"
  | invalidPattern text _ => s!"Invalid exclusion pattern '{text}': "

/-- Why it is wrong, where there is more to say. -/
def detail? : OptionsError → Option String
  | unknownStrategy _ => none
  | invalidPattern _ fault => some fault.message

def message (e : OptionsError) : String := e.claim ++ e.detail?.getD ""

end OptionsError

/-- The strategy that a word stands for. -/
def Strategy.parse (word : String) : Except OptionsError Strategy :=
  match Strategy.ofWord? word with
  | some s => .ok s
  | none => .error (.unknownStrategy word)

/-- The exclusion that an entry asks for. -/
def ExclusionEntry.compile : ExclusionEntry → Except OptionsError Exclusion
  | .name n => .ok (.exact n)
  | .pattern text =>
    match Pattern.compile text with
    | .ok p => .ok (.pattern p)
    | .error fault => .error (.invalidPattern text fault)

structure Options where
  strategy : Strategy
  except : List Exclusion
  /-- What stands in front of renamed names, parted by a hyphen. -/
  lead : Option String

/-- One step in building options. -/
inductive Setting where
  | strategy (word : String)
  | lead (text : String)
  | exclude (entry : ExclusionEntry)
deriving DecidableEq, Repr, Inhabited

namespace Options

/-- Nothing is renamed and nothing is excluded. -/
def initial : Options := ⟨.plain, [], none⟩

instance : Inhabited Options := ⟨initial⟩

/-- What parts the leading text from the name. -/
def leadSeparator : String := "-"

/-- The options after one more setting. -/
def set (o : Options) : Setting → Except OptionsError Options
  | .strategy word => (Strategy.parse word).map fun s => { o with strategy := s }
  | .lead text => .ok { o with lead := some text }
  | .exclude entry => entry.compile.map fun e => { o with except := o.except ++ [e] }

/-- The options that settings build from the defaults; the first setting that fails is the error. -/
def ofSettings (settings : List Setting) : Except OptionsError Options :=
  settings.foldlM set initial

def isExcluded (o : Options) (name : String) : Bool := o.except.any fun e => e.excludes name

/-- What a name that is not excluded is renamed to: the strategy first, then the leading text. -/
def decorate (o : Options) (name : String) : String :=
  match o.lead with
  | some lead => lead ++ leadSeparator ++ o.strategy.apply name
  | none => o.strategy.apply name

/-- The options on one line, as diagnostics show them; `delivers` says whether the renaming map is
handed on. -/
def describe (o : Options) (delivers : Bool) : String :=
  let strategy :=
    match o.strategy with
    | .plain => "None"
    | .debug => "Debug"
  let lead :=
    match o.lead with
    | some lead => "Some(" ++ Quoted.quote lead ++ ")"
    | none => "None"
  "RenameOptions \x7b strategy: " ++ strategy ++
    ", except: [" ++ ", ".intercalate (o.except.map Exclusion.describe) ++
    "], prefix: " ++ lead ++
    ", output_map_callback: " ++ (if delivers then "true" else "false") ++ " \x7d"

end Options
end CustomProps
