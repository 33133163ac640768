import TrustChain.Cli.Run
import Std.Time.DateTime.Timestamp

/-!
# The command line

Looks up the paths that the arguments mention, asks the clock, runs the program on what it found,
and shows its output. Nothing is decided here.
-/

namespace TrustChain.Cli

def ioProblem : IO.Error → IoProblem
  | .noFileOrDirectory .. => .notFound
  | .permissionDenied .. => .permissionDenied
  | .inappropriateType _ 20 _ => .notADirectory
  | .inappropriateType .. => .isADirectory
  | .invalidArgument .. => .invalidInput
  | .timeExpired .. => .timedOut
  | .interrupted .. => .interrupted
  | .unexpectedEof => .unexpectedEof
  | _ => .other

def readContent (path : String) : IO (Except IoProblem Octets) := do
  let place := (← IO.currentDir) / path
  try
    return .ok (← IO.FS.readBinFile place).toList
  catch e => return .error (ioProblem e)

/-- Everything below a folder, depth first and in the order of names. -/
partial def traverse (path : String) : IO (List FolderEntry) := do
  let place := (← IO.currentDir) / path
  let names ←
    try
      pure (Except.ok ((← place.readDir).toList.map (·.fileName)))
    catch e => pure (.error (toString e))
  match names with
  | .error message => return [.failure message]
  | .ok names =>
    let below ← (names.mergeSort (· ≤ ·)).mapM fun name => do
      let path := Source.join path name
      if ← ((← IO.currentDir) / path).isDir then traverse path
      else return [.file path (← readContent path)]
    return .folder path :: below.flatten

def lookUp (path : String) : IO Source := do
  let place := (← IO.currentDir) / path
  if path = "" then return .missing .notFound
  else if ← place.isDir then return .folder (← traverse path)
  else
    match ← readContent path with
    | .error problem =>
      if ← place.pathExists then return .file (.error problem) else return .missing problem
    | .ok content => return .file (.ok content)

def mentioned (arguments : Arguments) : List String :=
  arguments.pools ++ arguments.endEntityFile.toList ++ arguments.settingsFile.toList ++
    arguments.loggingConfig.toList

end TrustChain.Cli

open TrustChain

def main (arguments : List String) : IO UInt32 := do
  let paths :=
    match Cli.Request.ofArguments arguments with
    | .run arguments => Cli.mentioned arguments
    | _ => []
  let sources ← paths.mapM fun path => return (path, ← Cli.lookUp path)
  let now ← Std.Time.Timestamp.now
  let outcome := Cli.runArguments
    (fun path => (sources.lookup path).getD (.missing .notFound))
    (.ofNat now.toSecondsSinceUnixEpoch.toInt.toNat) arguments
  for line in outcome.visibleLines do
    IO.println line
  return outcome.value.toUInt32
