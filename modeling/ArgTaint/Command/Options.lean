/-
ArgTaint.Command.Options — the options of the commands.

* `CommonOptions` — the options that all the commands have.
* `TaintOptions`, `RenderOptions` — those of the two commands.
* `parseOptions` — the options of a list of arguments, what is printed when
  they are refused, and the state up to there.
* `loadSettings` — how packages are loaded.
-/
import ArgTaint.Command.Flag
import ArgTaint.Text.SafeName

namespace ArgTaint.Command

/-- The options that all the commands have. -/
structure CommonOptions where
  config : String := ""
  verbose : Bool := false
  withTest : Bool := false
  noColor : Bool := false
  exclude : List String := []
  buildTags : List String := []
  /-- The arguments after the options. -/
  arguments : List String := []
  deriving DecidableEq, Repr

/-- The options of the taint command. -/
structure TaintOptions extends CommonOptions where
  helper : String := ""
  targetKinds : String := ""
  report : Bool := false
  deriving DecidableEq, Repr

/-- The options of the render command. -/
structure RenderOptions extends CommonOptions where
  function : String := ""
  output : String := ""
  deriving DecidableEq, Repr

def showList (paths : List String) : String := "[" ++ " ".intercalate paths ++ "]"

def buildTagsPurpose : String :=
  "a list of `build tags` to consider satisfied during the build. For more information " ++
    "about build tags, see the description of build constraints in the documentation for " ++
    "the go/build package"

/-- The build tags after the option is set. A value that is refused leaves no
tags. -/
def setBuildTags (v : String) (c : CommonOptions) : CommonOptions × Option ValueError :=
  match splitTags v with
  | .ok tags => ({ c with buildTags := tags }, none)
  | .error quote => ({ c with buildTags := [] }, some (.unterminated quote))

def commonFlags : List (Flag CommonOptions) :=
  [.text "config" "config file path for analysis (defaults are used if empty)"
      fun v c => { c with config := v },
   .switch "verbose" "verbose printing on standard output" fun v c => { c with verbose := v },
   .switch "with-test" "load tests during analysis" fun v c => { c with withTest := v },
   .switch "no-color" "do not color the output" fun v c => { c with noColor := v },
   { Flag.text "exclude" "file or directory whose functions are not analysed (can be repeated)"
      fun v c => { c with exclude := c.exclude ++ [v] } with
     standard := showList [] },
   { name := "build-tags", purpose := buildTagsPurpose, standard := "<tagsFlag>",
     set := setBuildTags }]

/-- An option on a part of a state. -/
def Flag.lift {σ τ : Type} (f : Flag σ) (get : τ → σ) (put : σ → τ → τ) : Flag τ where
  name := f.name
  purpose := f.purpose
  standard := f.standard
  isSwitch := f.isSwitch
  set v t :=
    let (s, e) := f.set v (get t)
    (put s t, e)

def taintFlags : List (Flag TaintOptions) :=
  commonFlags.map (·.lift TaintOptions.toCommonOptions fun c o =>
    { o with toCommonOptions := c }) ++
    [.text "helper" "override the helper function of the config"
        fun v o => { o with helper := v },
     .text "target-kinds" "override the target kinds of the config (comma-separated)"
        fun v o => { o with targetKinds := v },
     .switch "report" "write the targets to a report in the reports directory"
        fun v o => { o with report := v }]

def renderFlags : List (Flag RenderOptions) :=
  commonFlags.map (·.lift RenderOptions.toCommonOptions fun c o =>
    { o with toCommonOptions := c }) ++
    [.text "fn" "name of the function to render, short or fully qualified"
        fun v o => { o with function := v },
     .text "o" "output file for the graph (defaults to <function>.dot)"
        fun v o => { o with output := v }]

def taintAbout : String :=
  " Find the instructions whose outcome depends on function arguments.\n" ++
    "Usage:\n  symobf taint [options] <package path(s)>\n" ++
    "Examples:\n  % symobf taint -config config.yaml package...\n" ++
    "  % symobf taint -target-kinds compare,store -report ./...\n"

def renderAbout : String :=
  " Render the taint flow graph of a function in graphviz format.\n" ++
    "Usage:\n  symobf render [options] -fn <function> <package path(s)>\n" ++
    "Examples:\n  % symobf render -fn check -o check.dot package...\n" ++
    "  % dot -Tsvg check.dot -o check.svg\n"

/-- Why the options of a command are refused. -/
inductive OptionsError where
  | flag (command : String) (arguments : List String) (cause : Flag.Error)
  | noFunction
  deriving DecidableEq, Repr

def OptionsError.message : OptionsError → String
  | .flag command arguments cause =>
    "failed to parse command " ++ command ++ " with args " ++ showList arguments ++ ": " ++
      cause.message
  | .noFunction => "missing -fn flag, the function to render"

def OptionsError.isHelp : OptionsError → Bool
  | .flag _ _ .help => true
  | _ => false

/-- The outcome of reading options: the build tags, what is printed, and the
options or why they are refused. -/
structure Parsed (σ : Type) where
  buildTags : List String
  printed : String
  options : Except OptionsError σ

def parseOptions {σ : Type} (flags : List (Flag σ)) (common : σ → CommonOptions)
    (finish : List String → σ → σ) (start : σ) (command about : String)
    (arguments : List String) : Parsed σ :=
  let (s, rest) := Flag.parse flags start arguments
  match rest with
  | .ok rest => ⟨(common s).buildTags, "", .ok (finish rest s)⟩
  | .error e =>
    ⟨(common s).buildTags, Flag.complaint flags about e, .error (.flag command arguments e)⟩

def parseCommon (command about : String) (arguments : List String) : Parsed CommonOptions :=
  parseOptions commonFlags id (fun rest c => { c with arguments := rest }) {} command about
    arguments

def parseTaint (arguments : List String) : Parsed TaintOptions :=
  parseOptions taintFlags TaintOptions.toCommonOptions
    (fun rest o => { o with arguments := rest }) {} "taint" taintAbout arguments

def parseRender (arguments : List String) : Parsed RenderOptions :=
  let p := parseOptions renderFlags RenderOptions.toCommonOptions
    (fun rest o => { o with arguments := rest }) {} "render" renderAbout arguments
  match p.options with
  | .ok o => if o.function = "" then { p with options := .error .noFunction } else p
  | .error _ => p

/-- The file that the drawings of a function are written to: the given one, or
one named after the function. -/
def outputFile (function : Text) (output : String) : String :=
  if output = "" then Text.safeName function ++ ".dot" else output

/-! ## Loading -/

/-- How packages are loaded. -/
structure LoadSettings where
  tests : Bool
  buildFlags : List String
  /-- What is loaded of each package, as a set of bits: all of it. -/
  mode : Nat := 9215
  deriving DecidableEq, Repr

def loadSettings (buildTags : List String) (tests : Bool) : LoadSettings where
  tests := tests
  buildFlags := if buildTags.isEmpty then [] else ["-tags=" ++ ",".intercalate buildTags]

end ArgTaint.Command
