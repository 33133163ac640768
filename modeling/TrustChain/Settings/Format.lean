import TrustChain.Error
import TrustChain.Settings
import TrustChain.Source
import TrustChain.Text.JsonString
import TrustChain.Text.Utf8

/-!
# Settings files

Settings are kept in files of JSON text: one object, whose members are the settings. The value of a
setting is an object with a single member, which names the type of the value. A setting may be given
more than once, and the last one counts. No file, and a file that does not exist, stand for empty
settings.
-/

namespace TrustChain

namespace Settings.Format

/-! ### Reading -/

/-- The blanks that JSON allows between its parts. -/
def isGap (c : Char) : Bool := c == ' ' || c == '\t' || c == '\n' || c == '\r'

def skipGaps (input : List Char) : List Char := input.dropWhile isGap

/-- Takes a character, after any blanks. -/
def take? (c : Char) (input : List Char) : Option (List Char) :=
  match skipGaps input with
  | d :: rest => if d = c then some rest else none
  | [] => none

def readBool : List Char → Option (Bool × List Char)
  | 't' :: 'r' :: 'u' :: 'e' :: rest => some (true, rest)
  | 'f' :: 'a' :: 'l' :: 's' :: 'e' :: rest => some (false, rest)
  | _ => none

/-- The number that decimal digits write. A zero in front of other digits is refused. -/
def decimal? : List Char → Option Nat
  | [] => none
  | ['0'] => some 0
  | '0' :: _ :: _ => none
  | digits => some (digits.foldl (fun n c => n * 10 + (c.toNat - 48)) 0)

def readNat (bound : Nat) (input : List Char) : Option (Nat × List Char) := do
  let n ← decimal? (input.takeWhile Char.isDigit)
  if n < bound then return (n, input.dropWhile Char.isDigit) else none

def readTyped (type : String) (input : List Char) : Option (SettingValue × List Char) :=
  if type = "Bool" then (readBool input).map fun (b, rest) => (.bool b, rest)
  else if type = "U8" then
    (readNat UInt8.size input).map fun (n, rest) => (.u8 (.ofNat n), rest)
  else if type = "U64" then
    (readNat UInt64.size input).map fun (n, rest) => (.u64 (.ofNat n), rest)
  else none

def readValue (input : List Char) : Option (SettingValue × List Char) := do
  let input ← take? '{' input
  let (type, input) ← Text.JsonString.read (skipGaps input)
  let input ← take? ':' input
  let (value, input) ← readTyped (String.ofList type) (skipGaps input)
  let input ← take? '}' input
  return (value, input)

def readMember (input : List Char) : Option ((String × SettingValue) × List Char) := do
  let (name, input) ← Text.JsonString.read (skipGaps input)
  let input ← take? ':' input
  let (value, input) ← readValue input
  return ((String.ofList name, value), input)

/-- Takes settings that are separated by commas, and the brace after the last of them. -/
def readMembers (input : List Char) : Option (List (String × SettingValue) × List Char) :=
  match readMember input with
  | none => none
  | some (member, rest) =>
    match take? '}' rest, take? ',' rest with
    | some left, _ => some ([member], left)
    | none, some left =>
      if left.length < input.length then
        (readMembers left).map fun (members, left) => (member :: members, left)
      else none
    | none, none => none
termination_by input.length

/-! ### Writing -/

def writeObject (members : List (List Char)) : List Char :=
  '{' :: [','].intercalate members ++ ['}']

def writeMember (name : String) (value : List Char) : List Char :=
  Text.JsonString.write name.toList ++ ':' :: value

def writeValue : SettingValue → List Char
  | .bool b => writeObject [writeMember "Bool" (toString b).toList]
  | .u8 n => writeObject [writeMember "U8" (toString n.toNat).toList]
  | .u64 n => writeObject [writeMember "U64" (toString n.toNat).toList]

end Settings.Format

namespace Settings

def ofText? (text : List Char) : Option Settings := do
  let input ← Format.take? '{' text
  let (members, rest) ←
    match Format.take? '}' input with
    | some rest => some ([], rest)
    | none => Format.readMembers input
  if Format.skipGaps rest = [] then
    return members.foldl (fun settings (name, value) => settings.set name value) empty
  else none

def ofSource : Source → Except Error Settings
  | .missing _ => .ok empty
  | .folder _ => .error (.io .isADirectory)
  | .file (.error problem) => .error (.io problem)
  | .file (.ok content) =>
    match (Text.ofUtf8? content).bind ofText? with
    | some settings => .ok settings
    | none => .error .parse

/-- The text of a settings file, in the order of names and without blanks. -/
def toText (settings : Settings) : String :=
  String.ofList <| Format.writeObject <|
    settings.record.entries.map fun (name, value) =>
      Format.writeMember name (Format.writeValue value)

end Settings

end TrustChain
