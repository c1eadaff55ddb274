import PageInjection.Fragment
import PageInjection.Text.Utf8

/-!
# Stored records

The binary form of fragments and rule texts in the database: numbers with their
lowest byte first, texts after their length in bytes.  Reading takes a record
from the front of a byte sequence and ignores what follows it.
-/

namespace PageInjection.Record

/-- Why bytes are no record. -/
inductive Fault where
  | truncatedNumber
  | truncatedText
  | unknownVariant (found count : Nat)
  | notUtf8 (fault : Text.Utf8Fault)
deriving DecidableEq, Repr

def Fault.message : Fault → String
  | .truncatedNumber => "io error: unexpected end of file"
  | .truncatedText => "io error: "
  | .unknownVariant found count =>
      "invalid value: integer `" ++ toString found ++ "`, expected variant index 0 <= i < " ++
        toString count
  | .notUtf8 fault => "string is not valid utf8: " ++ fault.message

/-- A number in `width` bytes, lowest byte first. -/
def putNumber : (width value : Nat) → List UInt8
  | 0, _ => []
  | width + 1, value => UInt8.ofNat (value % 256) :: putNumber width (value / 256)

/-- Take a number of `width` bytes from the front. -/
def takeNumber : (width : Nat) → List UInt8 → Except Fault (Nat × List UInt8)
  | 0, bytes => .ok (0, bytes)
  | _ + 1, [] => .error .truncatedNumber
  | width + 1, byte :: bytes => do
      let (value, rest) ← takeNumber width bytes
      return (byte.toNat + 256 * value, rest)

def putText (text : String) : List UInt8 :=
  let bytes := Text.encode text.toList
  putNumber 8 bytes.length ++ bytes

def takeText (bytes : List UInt8) : Except Fault (String × List UInt8) := do
  let (length, rest) ← takeNumber 8 bytes
  if rest.length < length then throw .truncatedText
  match Text.decode (rest.take length) with
  | .ok text => return (String.ofList text, rest.drop length)
  | .error fault => throw (.notUtf8 fault)

def putKind (kind : FragmentKind) : List UInt8 :=
  putNumber 4 kind.rank

def takeKind (bytes : List UInt8) : Except Fault (FragmentKind × List UInt8) := do
  let (rank, rest) ← takeNumber 4 bytes
  match FragmentKind.ofRank? rank with
  | some kind => return (kind, rest)
  | none => throw (.unknownVariant rank 3)

/-- A scope: zero, or one and the id. -/
def putScope : Scope → List UInt8
  | .global => putNumber 4 0
  | .resource id => putNumber 4 1 ++ putNumber 8 id.toNat

def takeScope (bytes : List UInt8) : Except Fault (Scope × List UInt8) := do
  let (variant, rest) ← takeNumber 4 bytes
  match variant with
  | 0 => return (.global, rest)
  | 1 =>
      let (id, rest) ← takeNumber 8 rest
      return (.resource (UInt64.ofNat id), rest)
  | _ => throw (.unknownVariant variant 2)

def putTime (time : Int64) : List UInt8 :=
  putNumber 8 time.toUInt64.toNat

def takeTime (bytes : List UInt8) : Except Fault (Int64 × List UInt8) := do
  let (value, rest) ← takeNumber 8 bytes
  return ((UInt64.ofNat value).toInt64, rest)

def putStored (stored : StoredFragment) : List UInt8 :=
  putKind stored.fragment.kind ++ putScope stored.fragment.scope ++
    putText stored.fragment.content ++ putTime stored.updatedAt

/-- Take a fragment with its time from the front. -/
def takeStored (bytes : List UInt8) : Except Fault (StoredFragment × List UInt8) := do
  let (kind, rest) ← takeKind bytes
  let (scope, rest) ← takeScope rest
  let (content, rest) ← takeText rest
  let (updatedAt, rest) ← takeTime rest
  return (⟨⟨kind, scope, content⟩, updatedAt⟩, rest)

def readStored (bytes : List UInt8) : Except Fault StoredFragment :=
  (takeStored bytes).map (·.1)

def readText (bytes : List UInt8) : Except Fault String :=
  (takeText bytes).map (·.1)

end PageInjection.Record
