import TrustChain.Octets

/-!
# The journal

Operations of the library say what they do as they go along: they log messages, and they note which
verifiers and validators of their environment they consult. A program also prints lines. All of this
is part of what an operation returns. A `Journaled` result is a value together with the entries made
on the way to it, in order, and the value of a composed operation never depends on the entries
(`value_bind`).
-/

namespace TrustChain

namespace Log

inductive Level where
  | error
  | warn
  | info
  | debug
  deriving DecidableEq, Repr

structure Message where
  level : Level
  text : String
  deriving DecidableEq, Repr

end Log

/-- A consultation of a named part of the environment. -/
inductive Consultation where
  /-- A signature verifier, with the key and the signature it was asked about. -/
  | signature (verifier : String) (key signature : Octets)
  | validation (validator : String)
  deriving DecidableEq, Repr

namespace Journal

inductive Entry where
  | logged (message : Log.Message)
  | consulted (consultation : Consultation)
  | printed (line : String)
  deriving DecidableEq, Repr

end Journal

/-- A value and the journal entries made on the way to it. -/
structure Journaled (α : Type) where
  value : α
  entries : List Journal.Entry

namespace Journaled

variable {α β : Type}

instance : Monad Journaled where
  pure value := ⟨value, []⟩
  bind x f :=
    let y := f x.value
    ⟨y.value, x.entries ++ y.entries⟩

@[simp] theorem value_pure (a : α) : (pure a : Journaled α).value = a := rfl

@[simp] theorem entries_pure (a : α) : (pure a : Journaled α).entries = [] := rfl

@[simp] theorem value_bind (x : Journaled α) (f : α → Journaled β) :
    (x >>= f).value = (f x.value).value := rfl

@[simp] theorem entries_bind (x : Journaled α) (f : α → Journaled β) :
    (x >>= f).entries = x.entries ++ (f x.value).entries := rfl

@[simp] theorem value_map (f : α → β) (x : Journaled α) : (f <$> x).value = f x.value := rfl

def enter (entry : Journal.Entry) : Journaled Unit := ⟨(), [entry]⟩

def enterAll (entries : List Journal.Entry) : Journaled Unit := ⟨(), entries⟩

def log (level : Log.Level) (text : String) : Journaled Unit := enter (.logged ⟨level, text⟩)

@[simp] theorem value_log (level : Log.Level) (text : String) : (log level text).value = () := rfl

/-- Notes a consultation, provided that there is one to note. -/
def note : Option Consultation → Journaled Unit
  | none => pure ()
  | some consultation => enter (.consulted consultation)

def print (line : String) : Journaled Unit := enter (.printed line)

def messages (x : Journaled α) : List Log.Message :=
  x.entries.filterMap fun
    | .logged message => some message
    | _ => none

def consultations (x : Journaled α) : List Consultation :=
  x.entries.filterMap fun
    | .consulted consultation => some consultation
    | _ => none

@[simp] theorem consultations_pure (a : α) : (pure a : Journaled α).consultations = [] := rfl

@[simp] theorem consultations_bind (x : Journaled α) (f : α → Journaled β) :
    (x >>= f).consultations = x.consultations ++ (f x.value).consultations :=
  List.filterMap_append

@[simp] theorem consultations_log (level : Log.Level) (text : String) :
    (log level text).consultations = [] := rfl

/-- What the user of a program sees of a journal: printed lines, and messages that are not mere
diagnostics. -/
def visibleLines (x : Journaled α) : List String :=
  x.entries.filterMap fun
    | .printed line => some line
    | .logged ⟨.debug, _⟩ => none
    | .logged message => some message.text
    | .consulted _ => none

end Journaled

end TrustChain
