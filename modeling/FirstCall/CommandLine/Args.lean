import FirstCall.Settings

/-!
# Command-line arguments

A source file, options with a value, and flags. An option's value follows it, either behind an
equals sign or as the next argument, which must not look like an option. After two dashes on
their own every argument is a source file.
-/

namespace FirstCall

inductive UsageFault where
  | missingFile
  | emptyValue (name : String)
  | missingValue (name : String)
  | unexpected (argument : String)
  | repeated (name : String)
  | conflict
  | help
  deriving DecidableEq, Repr

def UsageFault.message : UsageFault → String
  | .missingFile => "the source file is missing"
  | .emptyValue name => name ++ " needs a value that is not empty"
  | .missingValue name => name ++ " needs a value"
  | .unexpected argument => "unexpected argument " ++ argument
  | .repeated name => name ++ " cannot be used more than once"
  | .conflict => "--verbose cannot be used with --quiet"
  | .help => "usage: dispatcher [--dump-wasm] [--service PATH] [--entry NAME] [-v | -q] FILE"

inductive Word where
  | escape
  | long (name : String) (value : Option String)
  | short (flags : List Char)
  | plain (text : String)
  deriving DecidableEq, Repr

/-- The form of an argument. A single dash is plain text. -/
def Word.ofArgument (argument : String) : Word :=
  match argument.toList with
  | ['-', '-'] => .escape
  | ['-'] => .plain argument
  | '-' :: '-' :: rest =>
    let name := String.ofList (rest.takeWhile (· ≠ '='))
    match rest.dropWhile (· ≠ '=') with
    | _ :: value => .long name (some (String.ofList value))
    | [] => .long name none
  | '-' :: flags => .short flags
  | _ => .plain argument

structure Args where
  file : Option String
  dumpWasm : Bool
  service : Option String
  entry : Option String
  verbose : Nat
  quiet : Nat
  deriving DecidableEq, Repr

namespace Args

def none : Args := ⟨.none, false, .none, .none, 0, 0⟩

def withFile (args : Args) (file : String) : Except UsageFault Args :=
  if file = "" then .error (.emptyValue "FILE")
  else if args.file.isSome then .error (.unexpected file)
  else .ok { args with file := some file }

/-- Takes the path of the compiler service; an empty one is refused. -/
def withService (args : Args) (path : String) : Except UsageFault Args :=
  if path = "" then .error (.emptyValue "--service")
  else if args.service.isSome then .error (.repeated "--service")
  else .ok { args with service := some path }

def withEntry (args : Args) (name : String) : Except UsageFault Args :=
  if args.entry.isSome then .error (.repeated "--entry") else .ok { args with entry := some name }

def dumping (args : Args) : Except UsageFault Args :=
  if args.dumpWasm then .error (.repeated "--dump-wasm") else .ok { args with dumpWasm := true }

/-- A flag of a single letter. -/
def withLetter (args : Args) (letter : Char) : Except UsageFault Args :=
  if letter = 'v' then .ok { args with verbose := args.verbose + 1 }
  else if letter = 'q' then .ok { args with quiet := args.quiet + 1 }
  else if letter = 'h' then .error .help
  else .error (.unexpected (String.ofList ['-', letter]))

/-- A flag of a whole word. -/
def withFlag (args : Args) (name : String) : Except UsageFault Args :=
  if name = "dump-wasm" then args.dumping
  else if name = "verbose" then args.withLetter 'v'
  else if name = "quiet" then args.withLetter 'q'
  else if name = "help" then .error .help
  else .error (.unexpected ("--" ++ name))

def withValue (args : Args) (name value : String) : Except UsageFault Args :=
  if name = "service" then args.withService value
  else if name = "entry" then args.withEntry value
  else .error (.unexpected ("--" ++ name ++ "=" ++ value))

def readAll : List String → Args → Except UsageFault Args
  | [], args => .ok args
  | argument :: rest, args =>
    match Word.ofArgument argument with
    | .escape => rest.foldlM withFile args
    | .plain text => do readAll rest (← args.withFile text)
    | .short flags => do readAll rest (← flags.foldlM withLetter args)
    | .long name (some value) => do readAll rest (← args.withValue name value)
    | .long name .none =>
      if name = "service" ∨ name = "entry" then
        match rest with
        | [] => .error (.missingValue ("--" ++ name))
        | next :: others =>
          match Word.ofArgument next with
          | .plain value => do readAll others (← args.withValue name value)
          | _ => .error (.missingValue ("--" ++ name))
      else do readAll rest (← args.withFlag name)

end Args

/-- A command: the file to run, how to run it, and how much to say. -/
structure Command where
  file : String
  settings : Settings
  verbosity : Nat
  deriving DecidableEq, Repr

/-- The rank that is logged unless told otherwise: warnings and errors. -/
def standardVerbosity : Nat := 2

def Command.ofArguments (arguments : List String) : Except UsageFault Command := do
  let args ← Args.readAll arguments Args.none
  if 0 < args.verbose ∧ 0 < args.quiet then throw .conflict
  let some file := args.file | throw .missingFile
  let settings := ((Settings.default.servedBy (args.service.getD standardService)).enteredAt
    (args.entry.getD standardEntry)).dumping args.dumpWasm
  return ⟨file, settings, standardVerbosity + args.verbose - args.quiet⟩

end FirstCall
