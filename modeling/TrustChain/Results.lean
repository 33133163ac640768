import TrustChain.Record
import TrustChain.Status

/-!
# Results

What path validation records: a status and, on failure, the position of the certificate that failed,
counted from the target.
-/

namespace TrustChain

inductive ResultValue where
  | status (value : Status)
  | index (value : Nat)
  deriving DecidableEq, Repr

structure Results where
  record : Record ResultValue
  deriving DecidableEq

namespace Results

def empty : Results := ⟨Record.empty⟩

def statusName : String := "cprValidationStatus"

def failedIndexName : String := "cprFailedCertificateIndex"

def status? (results : Results) : Option Status :=
  match results.record.get? statusName with
  | some (.status value) => some value
  | _ => none

def failedIndex? (results : Results) : Option Nat :=
  match results.record.get? failedIndexName with
  | some (.index value) => some value
  | _ => none

def put (results : Results) (name : String) (value : ResultValue) : Results :=
  ⟨results.record.insert name value⟩

def setStatus (results : Results) (status : Status) : Results :=
  results.put statusName (.status status)

def setFailedIndex (results : Results) (index : Nat) : Results :=
  results.put failedIndexName (.index index)

/-- Records a failure: its status and the position of the certificate. -/
def fail (results : Results) (status : Status) (index : Nat) : Results :=
  (results.setStatus status).setFailedIndex index

end Results

end TrustChain
