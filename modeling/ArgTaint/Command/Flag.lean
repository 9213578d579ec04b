/-
ArgTaint.Command.Flag — options on the command line.

An option is a dash or two, a name, and a value: after an equals sign, or as
the next argument. A switch needs no value and takes one only after an equals
sign. Options end at the first argument that is none, or after two dashes.

* `Flag`, `Flag.Error` — an option, and why arguments are refused.
* `Flag.parse` — the options of a list of arguments.
* `Flag.usage` — the description of the options of a command.
* `splitTags` — the value of the option for build tags.
-/
import ArgTaint.Text.Quoted

namespace ArgTaint.Command

/-! ## Values -/

def switchValue? (s : String) : Option Bool :=
  match s with
  | "1" | "t" | "T" | "TRUE" | "true" | "True" => some true
  | "0" | "f" | "F" | "FALSE" | "false" | "False" => some false
  | _ => none

def isTagSpace (c : Char) : Bool := c == ' ' || c == '\t' || c == '\n' || c == '\r'

/-- The fields between spaces; a field that starts with a quote goes on to the
next such quote, and the error is the quote that has no end. -/
def quotedFields : Nat → List Char → Except Char (List String)
  | 0, _ => .ok []
  | bound + 1, cs =>
    match cs.dropWhile isTagSpace with
    | [] => .ok []
    | c :: rest =>
      if c == '"' || c == '\'' then
        match rest.dropWhile (· != c) with
        | [] => .error c
        | _ :: more =>
          (quotedFields bound more).map (String.ofList (rest.takeWhile (· != c)) :: ·)
      else
        (quotedFields bound ((c :: rest).dropWhile fun d => !isTagSpace d)).map
          (String.ofList ((c :: rest).takeWhile fun d => !isTagSpace d) :: ·)

/-- The build tags of a value: fields between spaces when it has a space or a
single quote, else the parts between commas. -/
def splitTags (s : String) : Except Char (List String) :=
  if s.toList.any fun c => c == ' ' || c == '\'' then quotedFields (s.length + 1) s.toList
  else .ok ((s.splitOn ",").filter (· ≠ ""))

/-! ## Options -/

/-- Why a value is refused. -/
inductive ValueError where
  | notSwitch
  | unterminated (quote : Char)
  deriving DecidableEq, Repr

def ValueError.message : ValueError → String
  | .notSwitch => "parse error"
  | .unterminated quote => "unterminated " ++ String.singleton quote ++ " string"

/-- An option that changes a state. -/
structure Flag (σ : Type) where
  name : String
  /-- What the option is for. -/
  purpose : String
  /-- The value that it has when it is not given. -/
  standard : String := ""
  isSwitch : Bool := false
  /-- The state after the option is set to a value, also when the value is
  refused. -/
  set : String → σ → σ × Option ValueError

namespace Flag

/-- Why arguments are refused. -/
inductive Error where
  | help
  | malformed (argument : String)
  | unknown (name : String)
  | needsValue (name : String)
  | badSwitch (name value : String) (cause : ValueError)
  | badValue (name value : String) (cause : ValueError)
  deriving DecidableEq, Repr

def Error.message : Error → String
  | .help => "flag: help requested"
  | .malformed argument => "bad flag syntax: " ++ argument
  | .unknown name => "flag provided but not defined: -" ++ name
  | .needsValue name => "flag needs an argument: -" ++ name
  | .badSwitch name value cause =>
    "invalid boolean value " ++ Text.quote (Text.ofString value) ++ " for -" ++ name ++ ": " ++
      cause.message
  | .badValue name value cause =>
    "invalid value " ++ Text.quote (Text.ofString value) ++ " for flag -" ++ name ++ ": " ++
      cause.message

variable {σ : Type}

def text (name purpose : String) (set : String → σ → σ) : Flag σ where
  name := name
  purpose := purpose
  set v s := (set v s, none)

def switch (name purpose : String) (set : Bool → σ → σ) : Flag σ where
  name := name
  purpose := purpose
  standard := "false"
  isSwitch := true
  set v s :=
    match switchValue? v with
    | some b => (set b s, none)
    | none => (s, some .notSwitch)

/-- What an argument is. -/
inductive Argument where
  /-- It is no option. -/
  | positional
  /-- It ends the options. -/
  | separator
  | malformed
  | option (name : String) (value : Option String)
  deriving DecidableEq, Repr

def splitValue (cs : List Char) : String × Option String :=
  match cs with
  | [] => ("", none)
  | c :: rest =>
    let name := String.ofList (c :: rest.takeWhile (· != '='))
    match rest.dropWhile (· != '=') with
    | [] => (name, none)
    | _ :: value => (name, some (String.ofList value))

def classify (argument : String) : Argument :=
  let body (cs : List Char) : Argument :=
    match cs with
    | [] => .malformed
    | c :: rest =>
      if c == '-' || c == '=' then .malformed
      else
        let (name, value) := splitValue (c :: rest)
        .option name value
  match argument.toList with
  | ['-', '-'] => .separator
  | '-' :: '-' :: rest => body rest
  | '-' :: c :: rest => body (c :: rest)
  | _ => .positional

/-- The state after the options of the arguments, and the arguments after
them. -/
def parse (flags : List (Flag σ)) (s : σ) : List String → σ × Except Error (List String)
  | [] => (s, .ok [])
  | argument :: rest =>
    match classify argument with
    | .positional => (s, .ok (argument :: rest))
    | .separator => (s, .ok rest)
    | .malformed => (s, .error (.malformed argument))
    | .option name value =>
      match flags.find? fun f => f.name = name with
      | none => (s, .error (if name = "help" || name = "h" then .help else .unknown name))
      | some f =>
        if f.isSwitch then
          let v := value.getD "true"
          match f.set v s with
          | (s, none) => parse flags s rest
          | (s, some e) => (s, .error (.badSwitch name v e))
        else
          match value, rest with
          | some v, rest =>
            match f.set v s with
            | (s, none) => parse flags s rest
            | (s, some e) => (s, .error (.badValue name v e))
          | none, v :: rest =>
            match f.set v s with
            | (s, none) => parse flags s rest
            | (s, some e) => (s, .error (.badValue name v e))
          | none, [] => (s, .error (.needsValue name))

/-- The description of the options of a command, in the order of their
names. -/
def usage (flags : List (Flag σ)) (about : String) : String :=
  about ++ "\nOptions:\n" ++
    String.join
      ((flags.mergeSort fun f g => !decide (g.name < f.name)).map fun f =>
        "  " ++ f.name ++ ": " ++ f.purpose ++ " (default: " ++
          Text.quote (Text.ofString f.standard) ++ ")\n")

/-- What is printed when arguments are refused. -/
def complaint (flags : List (Flag σ)) (about : String) (e : Error) : String :=
  (if e = .help then "" else e.message ++ "\n") ++ usage flags about

end Flag

end ArgTaint.Command
