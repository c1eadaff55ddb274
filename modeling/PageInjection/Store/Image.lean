import PageInjection.Store.Database

/-!
# The database as a file

The number of entries, and then each key and its bytes after their lengths.
-/

namespace PageInjection

namespace Record

def putBytes (bytes : List UInt8) : List UInt8 :=
  putNumber 8 bytes.length ++ bytes

def takeBytes (bytes : List UInt8) : Except Fault (List UInt8 × List UInt8) := do
  let (length, rest) ← takeNumber 8 bytes
  if rest.length < length then throw .truncatedText
  return (rest.take length, rest.drop length)

def takeEntries : (count : Nat) → List UInt8 → Except Fault (List (String × List UInt8))
  | 0, _ => .ok []
  | count + 1, bytes => do
      let (key, rest) ← takeText bytes
      let (value, rest) ← takeBytes rest
      return (key, value) :: (← takeEntries count rest)

end Record

namespace Database

/-- The bytes of a file that holds the database. -/
def toBytes (database : Database) : List UInt8 :=
  Record.putNumber 8 database.entries.length ++
    database.entries.flatMap fun (key, bytes) => Record.putText key ++ Record.putBytes bytes

/-- Read the database from the bytes of a file. -/
def ofBytes (bytes : List UInt8) : Except StoreFault Database :=
  decoded do
    let (count, rest) ← Record.takeNumber 8 bytes
    return ⟨← Record.takeEntries count rest⟩

end Database

end PageInjection
