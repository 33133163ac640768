import TrustChain.Certificate.Bundle
import TrustChain.Journal
import TrustChain.Source

/-!
# Loading pools

Certificates are added to a pool from a file or from a folder with everything below it. A file that
is named has to hold certificates. In a folder, files that cannot be read or hold something else are
passed over with a warning; only a traversal that breaks off is an error, and then the certificates
that were found before stay in the pool.
-/

namespace TrustChain

inductive LoadError where
  | absent (path : String)
  | unparsable (path : String)
  | unreadable (problem : IoProblem)
  | traversal (message : String)
  deriving DecidableEq, Repr

namespace LoadError

def message : LoadError → String
  | absent path => path ++ " does not exist"
  | unparsable path => "failed to parse " ++ path
  | unreadable problem => problem.message
  | traversal message => message

end LoadError

def readCertificates (path : String) (content : Except IoProblem Octets) :
    Except LoadError (List Certificate) :=
  match content with
  | .error problem => .error (.unreadable problem)
  | .ok content =>
    match Certificate.ofFile? content with
    | some certificates => .ok certificates
    | none => .error (.unparsable path)

/-- Adds the certificates of a folder to a pool. -/
def loadFolder (pool : List Certificate) :
    List FolderEntry → Journaled (Except LoadError Unit × List Certificate)
  | [] => return (.ok (), pool)
  | .folder _ :: rest => loadFolder pool rest
  | .failure message :: _ => return (.error (.traversal message), pool)
  | .file path content :: rest => do
    match readCertificates path content with
    | .ok certificates =>
      Journaled.log .debug
        ("Read " ++ toString certificates.length ++ " certificate(s) from " ++ path)
      loadFolder (pool ++ certificates) rest
    | .error e =>
      Journaled.log .warn ("Skipping " ++ path ++ ": " ++ e.message)
      loadFolder pool rest

/-- Adds the certificates at a path to a pool and returns their number. -/
def loadCertificates (path : String) (source : Source) (pool : List Certificate) :
    Journaled (Except LoadError Nat × List Certificate) := do
  match source with
  | .missing _ => return (.error (.absent path), pool)
  | .file content =>
    match readCertificates path content with
    | .ok certificates => return (.ok certificates.length, pool ++ certificates)
    | .error e => return (.error e, pool)
  | .folder entries =>
    let (result, loaded) ← loadFolder pool entries
    return (result.map fun () => loaded.length - pool.length, loaded)

end TrustChain
