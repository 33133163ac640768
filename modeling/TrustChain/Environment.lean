import TrustChain.Path.Validation

/-!
# Environments

An environment supplies what path building and validation depend on: the verifiers that evaluate
signatures, and the validators that judge a complete path. Nothing is global; whoever verifies a
certificate brings an environment along.
-/

namespace TrustChain

/-- Something that judges a path. One that has a name is noted in the journal whenever it is
consulted. -/
structure PathValidator where
  name : Option String
  validate : Verifiers → (now : UInt64) → Settings → CertificationPath → Check Unit

namespace PathValidator

def builtin : PathValidator :=
  ⟨none, fun verifiers now settings path => path.validate verifiers now settings⟩

end PathValidator

structure Environment where
  verifiers : Verifiers
  validators : List PathValidator

namespace Environment

def empty : Environment := ⟨[], []⟩

def addVerifier (env : Environment) (verifier : SignatureVerifier) : Environment :=
  { env with verifiers := env.verifiers ++ [verifier] }

def addValidator (env : Environment) (validator : PathValidator) : Environment :=
  { env with validators := env.validators ++ [validator] }

def clearVerifiers (env : Environment) : Environment := { env with verifiers := [] }

def clearValidators (env : Environment) : Environment := { env with validators := [] }

def clear (env : Environment) : Environment := env.clearVerifiers.clearValidators

def addDefaults (env : Environment) : Environment :=
  (env.addValidator .builtin).addVerifier .builtin

/-- The environment of the built-in validator and verifier alone. -/
def default : Environment := empty.addDefaults

/-- Puts a path to validators in turn: the first that accepts it decides, else the last error
stands. `error` stands when there are none. All of them record into the same results. -/
def judgeOr (verifiers : Verifiers) (now : UInt64) (settings : Settings) (path : CertificationPath)
    (error : Error) : List PathValidator → Check Unit
  | [] => throw error
  | validator :: rest => do
    liftM (Journaled.note (validator.name.map .validation))
    tryCatch (validator.validate verifiers now settings path)
      fun e => judgeOr verifiers now settings path e rest

def validatePath (env : Environment) (now : UInt64) (settings : Settings)
    (path : CertificationPath) : Check Unit :=
  judgeOr env.verifiers now settings path .unrecognized env.validators

end Environment

end TrustChain
