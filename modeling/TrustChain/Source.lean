import TrustChain.Error

/-!
# Sources

What a path of the file system leads to, as far as the library cares: nothing, a file with its
content, or a folder. A folder is what a traversal of everything below it comes across, depth first
and in the order of names, with the path of each entry.
-/

namespace TrustChain

inductive FolderEntry where
  /-- A folder, the root of the traversal included. -/
  | folder (path : String)
  | file (path : String) (content : Except IoProblem Octets)
  /-- The traversal cannot go on here; the message says why. -/
  | failure (message : String)

inductive Source where
  /-- Nothing that could be looked at; the problem is what opening it would give. -/
  | missing (problem : IoProblem)
  | file (content : Except IoProblem Octets)
  | folder (entries : List FolderEntry)

namespace IoProblem

/-- The number the operating system has for a problem that it reports. -/
def code? : IoProblem → Option Nat
  | notFound => some 2
  | permissionDenied => some 13
  | notADirectory => some 20
  | isADirectory => some 21
  | invalidFilename => some 36
  | _ => none

/-- The wording of the operating system. -/
def systemText : IoProblem → String
  | notFound => "No such file or directory"
  | permissionDenied => "Permission denied"
  | notADirectory => "Not a directory"
  | isADirectory => "Is a directory"
  | invalidFilename => "File name too long"
  | problem => problem.name

def message (problem : IoProblem) : String :=
  match problem.code? with
  | some code => problem.systemText ++ " (os error " ++ toString code ++ ")"
  | none => problem.systemText

end IoProblem

namespace Source

def read : Source → Except IoProblem Octets
  | missing problem => .error problem
  | file content => content
  | folder _ => .error .isADirectory

def join (path name : String) : String :=
  if path.endsWith "/" then path ++ name else path ++ "/" ++ name

end Source

end TrustChain
