import Blueprint.Path
import Blueprint.Text.Cut

/-!
# Arguments

The command words with their options. An option is long or a single letter; letters may stand
together, and a value follows its option, with or without an equals sign. No option is given twice.
-/

namespace Blueprint.CommandLine

inductive Command where
  | init (path : Path)
  | validate (patterns : List String)
  | compile (file : Path) (config output : Option Path) (pretty : Bool)
  | editables (file : Path) (config : Option Path)
  | hash (file : Path) (config : Option Path)
  deriving DecidableEq, Repr, Inhabited

/-- Arguments that ask for no command. -/
inductive Halt where
  | version
  | help
  | misuse
  deriving DecidableEq, Repr, Inhabited

/-- An option; without a value it is a flag. -/
structure Switch where
  long : String
  short : Option Char
  takesValue : Bool := false
  deriving DecidableEq, Repr, Inhabited

/-- What the arguments of a command say. -/
structure Given where
  flags : List String := []
  values : List (String × String) := []
  operands : List String := []
  deriving DecidableEq, Repr, Inhabited

def verboseOption : Switch := ⟨"verbose", some 'v', false⟩

def helpOption : Switch := ⟨"help", some 'h', false⟩

def versionOption : Switch := ⟨"version", some 'V', false⟩

def fileOption : Switch := ⟨"file", some 'f', true⟩

def configOption : Switch := ⟨"config", some 'c', true⟩

def outputOption : Switch := ⟨"output", some 'o', true⟩

def prettyOption : Switch := ⟨"pretty", none, false⟩

def isOption (arg : String) : Bool :=
  match arg.toList with
  | '-' :: _ :: _ => true
  | _ => false

def setFlag (g : Given) (o : Switch) : Except Halt Given :=
  if o = helpOption then .error .help
  else if o = versionOption then .error .version
  else if g.flags.contains o.long then .error .misuse
  else .ok { g with flags := o.long :: g.flags }

def setValue (g : Given) (o : Switch) (value : String) : Except Halt Given :=
  if value.isEmpty || (g.values.lookup o.long).isSome then .error .misuse
  else .ok { g with values := (o.long, value) :: g.values }

/-- Takes the value of an option from the argument after it. -/
def setNext (g : Given) (o : Switch) : List String → Except Halt (Given × List String)
  | [] => .error .misuse
  | v :: rest => if isOption v then .error .misuse else do return (← setValue g o v, rest)

/-- Letters of one argument; the first that takes a value has the rest for it. -/
def letters (options : List Switch) (rest : List String) :
    List Char → Given → Except Halt (Given × List String)
  | [], g => .ok (g, rest)
  | c :: cs, g =>
    match options.find? fun o => o.short = some c with
    | none => .error .misuse
    | some o =>
      if !o.takesValue then do letters options rest cs (← setFlag g o)
      else
        match cs with
        | [] => setNext g o rest
        | '=' :: value => do return (← setValue g o (String.ofList value), rest)
        | value => do return (← setValue g o (String.ofList value), rest)

/-- A long option, with its value after an equals sign or in the next argument. -/
def long (options : List Switch) (rest : List String) (text : List Char) (g : Given) :
    Except Halt (Given × List String) :=
  let (name, value?) :=
    match Text.cut? ['='] text with
    | some (name, value) => (name, some (String.ofList value))
    | none => (text, none)
  match options.find? fun o => o.long.toList = name with
  | none => .error .misuse
  | some o =>
    match o.takesValue, value? with
    | false, some _ => .error .misuse
    | false, none => do return (← setFlag g o, rest)
    | true, some value => do return (← setValue g o value, rest)
    | true, none => setNext g o rest

/-- Options before anything else: what is given, and the other arguments. -/
def leading (options : List Switch) : Nat → List String → Given → Except Halt (Given × List String)
  | 0, args, g => .ok (g, args)
  | _ + 1, [], g => .ok (g, [])
  | fuel + 1, arg :: rest, g =>
    match arg.toList with
    | ['-', '-'] => .ok (g, arg :: rest)
    | '-' :: '-' :: text => do
      let (g, rest) ← long options rest text g
      leading options fuel rest g
    | '-' :: c :: cs => do
      let (g, rest) ← letters options rest (c :: cs) g
      leading options fuel rest g
    | _ => .ok (g, arg :: rest)

/-- Options and operands in any order; after two dashes all are operands. -/
def all (options : List Switch) : Nat → List String → Given → Except Halt Given
  | 0, _, g => .ok g
  | fuel + 1, args, g => do
    match ← leading options args.length args g with
    | (g, []) => return g
    | (g, arg :: rest) =>
      if arg = "--" then return { g with operands := g.operands ++ rest }
      else all options fuel rest { g with operands := g.operands ++ [arg] }

def given (options : List Switch) (args : List String) : Except Halt Given :=
  all (options ++ [verboseOption, helpOption]) (args.length + 1) args {}

namespace Given

def path? (g : Given) (o : Switch) : Option Path := (g.values.lookup o.long).map Path.mk

def file (g : Given) : Path := (g.path? fileOption).getD ⟨"bpforge.yaml"⟩

def config? (g : Given) : Option Path := g.path? configOption

def noOperands (g : Given) : Except Halt Unit :=
  if g.operands.isEmpty then .ok () else .error .misuse

end Given

def command (word : String) (args : List String) : Except Halt Command :=
  match word with
  | "init" => do
    match (← given [] args).operands with
    | [] => return .init ⟨"."⟩
    | [path] => if path.isEmpty then throw .misuse else return .init ⟨path⟩
    | _ => throw .misuse
  | "validate" => do
    let patterns := (← given [] args).operands
    return .validate (if patterns.isEmpty then ["bpforge.yaml"] else patterns)
  | "compile" => do
    let g ← given [fileOption, configOption, outputOption, prettyOption] args
    g.noOperands
    return .compile g.file g.config? (g.path? outputOption) (g.flags.contains prettyOption.long)
  | "editables" => do
    let g ← given [fileOption, configOption] args
    g.noOperands
    return .editables g.file g.config?
  | "hash" => do
    let g ← given [fileOption, configOption] args
    g.noOperands
    return .hash g.file g.config?
  | "help" => throw .help
  | _ => throw .misuse

def parse (args : List String) : Except Halt Command := do
  match ← leading [verboseOption, helpOption, versionOption] args.length args {} with
  | (_, word :: rest) => command word rest
  | (_, []) => throw .misuse

end Blueprint.CommandLine
