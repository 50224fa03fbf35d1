import DocIndex.Log

/-!
# Arguments of the command line

Options come before the command and its own arguments behind it. An option takes the rest of its
argument behind an equals sign for its value, or else the next argument, and stands at most once;
an option that is not given may be taken from the environment. Behind two dashes nothing is an
option. Arguments are checked in their order, so that the first fault ends the reading, and so does
the first flag for help.
-/

namespace DocIndex.Command

inductive Request where
  | build
  | rebuild
  | find (pattern : String)
  | summary (object : String)
  | checkIds
  | dump
  | file (page : Path) (pageClass : PageClass)
deriving DecidableEq, Repr

inductive UsageError where
  | noCommand
  | unknownCommand (name : String)
  | unexpected (argument : String)
  | missingValue (option : String)
  | emptyValue (option : String)
  | repeated (option : String)
  | missingArgument
  | emptyArgument
  | unknownClass (error : UnknownClass)
deriving DecidableEq, Repr

def UsageError.message : UsageError → String
  | noCommand => "a command is missing"
  | unknownCommand name => "unknown command: " ++ name
  | unexpected argument => "unexpected argument: " ++ argument
  | missingValue option => "a value is missing for " ++ option
  | emptyValue option => "the value for " ++ option ++ " is empty"
  | repeated option => option ++ " cannot be used more than once"
  | missingArgument => "an argument is missing"
  | emptyArgument => "an argument is empty"
  | unknownClass error => error.message

/-- Where reading arguments ends early. -/
inductive Stop where
  | help
  | usage (error : UsageError)
deriving DecidableEq, Repr

abbrev Reading (α : Type) := Except Stop α

def refuse {α : Type} (error : UsageError) : Reading α :=
  .error (.usage error)

inductive ValueOption where
  | manual
  | packages
  | misc
  | index
  | pageClass
deriving DecidableEq, Repr

namespace ValueOption

def general : List ValueOption :=
  [manual, packages, misc, index]

def name : ValueOption → String
  | manual => "manual"
  | packages => "packages"
  | misc => "misc"
  | index => "index"
  | pageClass => "class"

def variableName? : ValueOption → Option String
  | manual => some "MANINDEX_MANUAL"
  | packages => some "MANINDEX_PACKAGES"
  | misc => some "MANINDEX_MISC"
  | index => some "MANINDEX_DB"
  | pageClass => none

end ValueOption

/-- What an argument is by its look. -/
inductive Shape where
  /-- Two dashes, behind which nothing is an option. -/
  | dashes
  /-- A name behind two dashes, and what stands behind an equals sign. -/
  | long (name : String) (value : Option String)
  /-- Letters behind one dash. -/
  | short (letters : List Char)
  | plain
deriving DecidableEq, Repr

def shapeOf (argument : String) : Shape :=
  match argument.toList with
  | ['-', '-'] => .dashes
  | '-' :: '-' :: rest =>
    .long (String.ofList (rest.takeWhile (· != '=')))
      (match rest.dropWhile (· != '=') with
        | _ :: value => some (String.ofList value)
        | [] => none)
  | '-' :: c :: rest => .short (c :: rest)
  | _ => .plain

abbrev Values := List (ValueOption × String)

/-- A value that an option can have: the name of a class for the one, and any path for the
others. -/
def checkValue (option : ValueOption) (value : String) : Reading Unit :=
  match option, PageClass.ofName value with
  | .pageClass, .error error => refuse (.unknownClass error)
  | .pageClass, .ok _ => .ok ()
  | option, _ => if value.isEmpty then refuse (.emptyValue option.name) else .ok ()

def addValue (values : Values) (option : ValueOption) (value : String) : Reading Values := do
  if values.any (·.1 = option) then refuse (.repeated option.name)
  checkValue option value
  return values ++ [(option, value)]

/-- The letters of flags, `v` to be told more and `h` for help: the number of the former. -/
def readFlags (argument : String) : List Char → Reading Nat
  | [] => .ok 0
  | 'v' :: rest => (readFlags argument rest).map (· + 1)
  | 'h' :: _ => .error .help
  | _ => refuse (.unexpected argument)

/-- What was read of the arguments of a command or before it: values of options, plain arguments,
the number of flags that ask to be told more, and the arguments left. -/
structure Given where
  values : Values
  plain : List String
  flags : Nat
  rest : List String

def Given.nothing : Given := ⟨[], [], 0, []⟩

/-- What arguments a command takes, or may stand before it. -/
structure Grammar where
  options : List ValueOption
  /-- The number of plain arguments. -/
  limit : Nat
  /-- Whether a plain argument may be the empty text. -/
  allowsEmpty : Bool

namespace Grammar

/-- The options before the command. The first plain argument is the command. -/
def general : Grammar := ⟨ValueOption.general, 0, false⟩

/-- A command that has no arguments of its own. -/
def bare : Grammar := ⟨[], 0, false⟩

def text : Grammar := ⟨[], 1, true⟩

/-- The command for one page: a path, which is not empty, and a class. -/
def page : Grammar := ⟨[.pageClass], 1, false⟩

def addPlain (grammar : Grammar) (given : Given) (argument : String) : Reading Given :=
  if argument.isEmpty && !grammar.allowsEmpty then refuse .emptyArgument
  else .ok { given with plain := given.plain ++ [argument] }

/-- Reads options, and plain arguments up to the limit; more of them are refused if the limit is not
zero, and otherwise left. -/
def read (grammar : Grammar) (given : Given) : List String → Reading Given
  | [] => .ok given
  | argument :: rest =>
    match shapeOf argument with
    | .dashes =>
      match rest.drop (grammar.limit - given.plain.length) with
      | [] => rest.foldlM grammar.addPlain given
      | extra :: _ => refuse (.unexpected extra)
    | .short letters => do
      let flags ← readFlags argument letters
      grammar.read { given with flags := given.flags + flags } rest
    | .long "help" none => .error .help
    | .long "verbose" none => grammar.read { given with flags := given.flags + 1 } rest
    | .long name value =>
      match grammar.options.find? (·.name = name), value with
      | none, _ => refuse (.unexpected argument)
      | some option, some value => do
        let values ← addValue given.values option value
        grammar.read { given with values } rest
      | some option, none =>
        match rest with
        | [] => refuse (.missingValue option.name)
        | value :: rest =>
          if shapeOf value = .plain then do
            let values ← addValue given.values option value
            grammar.read { given with values } rest
          else refuse (.missingValue option.name)
    | .plain =>
      if given.plain.length < grammar.limit then do
        let given ← grammar.addPlain given argument
        grammar.read given rest
      else if grammar.limit = 0 then .ok { given with rest := argument :: rest }
      else refuse (.unexpected argument)

end Grammar

def readNone (arguments : List String) (request : Request) : Reading (Request × Nat) := do
  let given ← Grammar.bare.read .nothing arguments
  match given.rest with
  | [] => return (request, given.flags)
  | extra :: _ => refuse (.unexpected extra)

def readOne (arguments : List String) (request : String → Request) :
    Reading (Request × Nat) := do
  let given ← Grammar.text.read .nothing arguments
  match given.plain with
  | argument :: _ => return (request argument, given.flags)
  | [] => refuse .missingArgument

def readFile (arguments : List String) : Reading (Request × Nat) := do
  let given ← Grammar.page.read .nothing arguments
  let pageClass := ((given.values.lookup .pageClass).bind PageClass.ofName?).getD .manual
  match given.plain with
  | page :: _ => return (.file page pageClass, given.flags)
  | [] => refuse .missingArgument

def commandNames : List String :=
  ["build", "rebuild", "find", "summary", "check-ids", "dump", "file", "help"]

def readHelp : List String → Reading (Request × Nat)
  | [] => .error .help
  | [name] =>
    if commandNames.contains name then .error .help else refuse (.unknownCommand name)
  | _ :: extra :: _ => refuse (.unexpected extra)

/-- Reads a command with its arguments: the request, and the number of flags behind the command
that ask to be told more. -/
def readCommand (name : String) (arguments : List String) : Reading (Request × Nat) :=
  match name with
  | "build" => readNone arguments .build
  | "rebuild" => readNone arguments .rebuild
  | "find" => readOne arguments .find
  | "summary" => readOne arguments .summary
  | "check-ids" => readNone arguments .checkIds
  | "dump" => readNone arguments .dump
  | "file" => readFile arguments
  | "help" => readHelp arguments
  | _ => refuse (.unknownCommand name)

/-- The values of the options before the command, those of the environment included. -/
def withEnvironment (environment : String → Option String) (values : Values) : Reading Values :=
  ValueOption.general.foldlM (fun values option =>
    if values.any (·.1 = option) then .ok values
    else
      match option.variableName?.bind environment with
      | none => .ok values
      | some value => addValue values option value) values

/-- A request, the values of the options before the command, and how much is to be told. -/
structure Call where
  request : Request
  values : Values
  verbosity : Verbosity

/-- Reads all arguments. Flags before the command count when there are none behind it. -/
def readCall (arguments : List String) (environment : String → Option String) : Reading Call := do
  let given ← Grammar.general.read .nothing arguments
  match given.rest with
  | [] => refuse .noCommand
  | name :: rest =>
    let (request, flags) ← readCommand name rest
    let values ← withEnvironment environment given.values
    return ⟨request, values, .ofCount (if flags = 0 then given.flags else flags)⟩

end DocIndex.Command
