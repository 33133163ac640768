import TrustChain.Cli.Arguments
import TrustChain.Loading
import TrustChain.Settings.Format
import TrustChain.Verification

/-!
# The program

A run reads settings, fills the pool, reads the certificate to verify and verifies it. Everything it
needs from outside comes in as a value: what each path leads to, and the current time. It returns
the exit code, and its journal holds what the user is shown.
-/

namespace TrustChain.Cli

def success : UInt8 := 0

def verificationFailure : UInt8 := 1

def inputFailure : UInt8 := 2

def versionText : String := "pathcheck 0.1.0"

def usageLines : List String := [
  "Builds and verifies a certification path for an end entity certificate.",
  "",
  "Usage: pathcheck [OPTIONS]",
  "",
  "  -e, --end-entity-file <FILE>    certificate to verify",
  "  -p, --pool <PATH>               file or folder of certificates to verify it with; repeatable",
  "  -i, --time-of-interest <TIME>   seconds since 1970, or 0 to disable validity checks",
  "  -s, --settings <FILE>           settings in JSON",
  "  -l, --logging-config <FILE>     configuration of logging",
  "      --list-pool                 list the certificates of the pool",
  "  -h, --help                      print this text",
  "  -V, --version                   print the version"]

/-! ### Logging configuration -/

/-- The extension of the last name in a path, without its dot. -/
def extension? (path : String) : Option String :=
  match ((path.splitOn "/").filter fun name => name ≠ "" ∧ name ≠ ".").getLast? with
  | none => none
  | some name =>
    match name.toList.reverse.span (· ≠ '.') with
    | (_, []) => none
    | (_, ['.']) => none
    | (ending, _) => if name = ".." then none else some (String.ofList ending.reverse)

def loggingProblem (path : String) (source : Source) : String :=
  match extension? path with
  | none => "unable to determine the file format"
  | some "json" => "the `json_format` feature is required for `.json` files"
  | some "toml" => "the `toml_format` feature is required for `.toml` files"
  | some ending =>
    if ending = "yaml" ∨ ending = "yml" then
      match source.read with
      | .error problem => problem.message
      | .ok _ => "unsupported logging configuration"
    else "unsupported file format `." ++ ending ++ "`"

/-- Complains about a logging configuration. Messages go to the console in any case. -/
def configureLogging (lookUp : String → Source) : Option String → Journaled Unit
  | none => return
  | some path =>
    Journaled.print
      ("ERROR: failed to configure logging using " ++ path ++ " with " ++
        loggingProblem path (lookUp path) ++ ". Continuing with console logging.")

/-! ### Inputs -/

/-- Fills a pool from several paths. The first that fails is returned with its error. -/
def loadAll (lookUp : String → Source) (pool : List Certificate) :
    List String → Journaled (Except (String × LoadError) (List Certificate))
  | [] => return .ok pool
  | path :: rest => do
    match ← loadCertificates path (lookUp path) pool with
    | (.error e, _) => return .error (path, e)
    | (.ok count, pool) =>
      Journaled.log .debug ("Read " ++ toString count ++ " certificate(s) from " ++ path)
      loadAll lookUp pool rest

/-- The first certificate of a file, or what to say when there is none. -/
def readTarget (path : String) (source : Source) : Except String Certificate :=
  match readCertificates path source.read with
  | .error e => .error ("failed to read " ++ path ++ ": " ++ e.message)
  | .ok [] => .error ("no certificate found in " ++ path)
  | .ok (c :: _) => .ok c

/-! ### Output -/

/-- A number, right-aligned in three columns. -/
def column (n : Nat) : String :=
  String.ofList ((toString n).toList.leftpad 3 ' ')

def listPool (pool : List Certificate) : Journaled Unit :=
  pool.zipIdx.forM fun (c, i) =>
    Journaled.print ("Index: " ++ column i ++ "; Subject: " ++ c.subjectText)

def printChain (chain : VerifiedChain) : Journaled Unit :=
  chain.certificates.zipIdx.forM fun (c, i) =>
    Journaled.print ("Chain[" ++ toString i ++ "]: " ++ c.subjectText)

def giveUp (message : String) : Journaled UInt8 := do
  Journaled.log .error message
  return inputFailure

/-! ### A run -/

def verifyTarget (now : UInt64) (settings : Settings) (target : Certificate)
    (pool : List Certificate) : Journaled UInt8 := do
  match ← Environment.default.verify now settings (some target) pool with
  | .ok chain =>
    printChain chain
    return success
  | .error e =>
    Journaled.print ("Verification failed: " ++ e.message)
    return verificationFailure

/-- Runs the program after its arguments have been read. -/
def run (lookUp : String → Source) (now : UInt64) (arguments : Arguments) : Journaled UInt8 := do
  configureLogging lookUp arguments.loggingConfig
  match (arguments.settingsFile.map fun path => Settings.ofSource (lookUp path)).getD
      (.ok .empty) with
  | .error e => giveUp ("Failed to read settings: " ++ e.message)
  | .ok settings =>
    let settings := (arguments.timeOfInterest.map settings.setTimeOfInterest).getD settings
    match ← loadAll lookUp [] arguments.pools with
    | .error (path, e) =>
      giveUp ("Failed to read certificates from " ++ path ++ ": " ++ e.message)
    | .ok pool =>
      if arguments.listPool then listPool pool
      match arguments.endEntityFile with
      | none =>
        if arguments.listPool then return success
        else giveUp "An end entity file must be provided using --end-entity-file"
      | some path =>
        match readTarget path (lookUp path) with
        | .error message => giveUp message
        | .ok target => verifyTarget now settings target pool

def runArguments (lookUp : String → Source) (now : UInt64) (arguments : List String) :
    Journaled UInt8 := do
  match Request.ofArguments arguments with
  | .run arguments => run lookUp now arguments
  | .help =>
    usageLines.forM Journaled.print
    return success
  | .version =>
    Journaled.print versionText
    return success
  | .misuse => return inputFailure

end TrustChain.Cli
