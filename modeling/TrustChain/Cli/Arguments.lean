/-!
# Command line arguments

The options of the program, in long and short form. A value may follow its option or be attached to
it; what follows a short option is its value, an equals sign in front of it aside. Only the option
for pools may be repeated, and there are no arguments other than options. A request for help or for
the version is granted as soon as it is come across, before whatever is wrong after it.
-/

namespace TrustChain.Cli

structure Arguments where
  endEntityFile : Option String
  pools : List String
  timeOfInterest : Option UInt64
  settingsFile : Option String
  loggingConfig : Option String
  listPool : Bool
  deriving DecidableEq

inductive Request where
  | run (arguments : Arguments)
  | help
  | version
  | misuse
  deriving DecidableEq

inductive ValueOption where
  | endEntityFile
  | pool
  | timeOfInterest
  | settings
  | loggingConfig
  deriving DecidableEq, Repr

inductive Flag where
  | listPool
  | help
  | version
  deriving DecidableEq, Repr

namespace ValueOption

def all : List ValueOption := [endEntityFile, pool, timeOfInterest, settings, loggingConfig]

def longName : ValueOption → String
  | endEntityFile => "end-entity-file"
  | pool => "pool"
  | timeOfInterest => "time-of-interest"
  | settings => "settings"
  | loggingConfig => "logging-config"

def shortName : ValueOption → Char
  | endEntityFile => 'e'
  | pool => 'p'
  | timeOfInterest => 'i'
  | settings => 's'
  | loggingConfig => 'l'

end ValueOption

namespace Flag

def all : List Flag := [listPool, help, version]

def longName : Flag → String
  | listPool => "list-pool"
  | help => "help"
  | version => "version"

def shortName? : Flag → Option Char
  | listPool => none
  | help => some 'h'
  | version => some 'V'

end Flag

/-- An argument, split into its parts. -/
inductive Token where
  | option (option : ValueOption) (value : Option String)
  | flag (flag : Flag)
  /-- The mark after which arguments are no options. -/
  | endOfOptions
  /-- An argument that starts like an option and is none. -/
  | unknown
  | plain (text : String)

namespace Token

def ofLong (text : List Char) : Token :=
  let name := String.ofList (text.takeWhile (· ≠ '='))
  let value := (text.dropWhile (· ≠ '=')).tail?.map String.ofList
  match ValueOption.all.find? (·.longName = name), Flag.all.find? (·.longName = name), value with
  | some o, _, value => option o value
  | none, some f, none => flag f
  | _, _, _ => unknown

/-- Splits a short option into its letter and the value attached to it. -/
def ofShort (letter : Char) (rest : List Char) : Token :=
  match ValueOption.all.find? (·.shortName = letter),
    Flag.all.find? (·.shortName? = some letter) with
  | some o, _ =>
    match rest with
    | [] => option o none
    | '=' :: value => option o (String.ofList value)
    | value => option o (String.ofList value)
  | none, some f => flag f
  | none, none => unknown

def ofArgument (argument : String) : Token :=
  match argument.toList with
  | ['-', '-'] => endOfOptions
  | '-' :: '-' :: text => ofLong text
  | '-' :: letter :: rest => ofShort letter rest
  | _ => plain argument

end Token

namespace Arguments

def empty : Arguments := ⟨none, [], none, none, none, false⟩

/-- Reads a time: decimal digits, with or without a plus sign. -/
def time? (text : String) : Option UInt64 :=
  let digits :=
    match text.toList with
    | '+' :: digits => digits
    | digits => digits
  if digits ≠ [] ∧ digits.all Char.isDigit then
    let n := digits.foldl (fun n c => n * 10 + (c.toNat - 48)) 0
    if n < UInt64.size then some (.ofNat n) else none
  else none

/-- Sets something that has not been set before. -/
def setOnce {α : Type} (old : Option α) (value : α) : Option (Option α) :=
  match old with
  | none => some (some value)
  | some _ => none

def set (arguments : Arguments) (value : String) : ValueOption → Option Arguments
  | .endEntityFile => do
    return { arguments with endEntityFile := ← setOnce arguments.endEntityFile value }
  | .pool => some { arguments with pools := arguments.pools ++ [value] }
  | .timeOfInterest => do
    return { arguments with timeOfInterest := ← setOnce arguments.timeOfInterest (← time? value) }
  | .settings => do
    return { arguments with settingsFile := ← setOnce arguments.settingsFile value }
  | .loggingConfig => do
    return { arguments with loggingConfig := ← setOnce arguments.loggingConfig value }

end Arguments

namespace Request

/-- Reads arguments on top of those that have been read. -/
def ofArgumentsFrom (arguments : Arguments) : List String → Request
  | [] => if arguments = .empty then misuse else run arguments
  | argument :: rest =>
    match Token.ofArgument argument with
    | .flag .help => help
    | .flag .version => version
    | .flag .listPool =>
      if arguments.listPool then misuse
      else ofArgumentsFrom { arguments with listPool := true } rest
    | .option o (some value) =>
      match arguments.set value o with
      | some arguments => ofArgumentsFrom arguments rest
      | none => misuse
    | .option o none =>
      match rest with
      | [] => misuse
      | value :: rest =>
        match Token.ofArgument value with
        | .plain value =>
          match arguments.set value o with
          | some arguments => ofArgumentsFrom arguments rest
          | none => misuse
        | _ => misuse
    | .endOfOptions => if rest = [] ∧ arguments ≠ .empty then run arguments else misuse
    | .unknown => misuse
    | .plain _ => misuse

/-- What the arguments of a call ask for. A call without arguments is no request. -/
def ofArguments (arguments : List String) : Request := ofArgumentsFrom .empty arguments

end Request

end TrustChain.Cli
