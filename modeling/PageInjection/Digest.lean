import PageInjection.Text.Numeral
import PageInjection.Text.Utf8
import PageInjection.Fragment

/-!
# Content digests

The BLAKE3 hash of a byte sequence: chunks of 1024 bytes are compressed block
by block, and a binary tree of chunks is compressed to its root.  A node is kept
uncompressed until it is known whether it is the root.  The digest of a fragment
is the first eight bytes of the hash of its content.
-/

namespace PageInjection.Digest

def initialWords : Array UInt32 :=
  #[0x6A09E667, 0xBB67AE85, 0x3C6EF372, 0xA54FF53A, 0x510E527F, 0x9B05688C, 0x1F83D9AB, 0x5BE0CD19]

/-- Where each message word of the next round comes from. -/
def schedule : Array Nat :=
  #[2, 6, 3, 10, 7, 0, 4, 13, 1, 11, 12, 5, 9, 14, 15, 8]

/-- The word at an index; words beyond the end are zero. -/
def wordAt (words : Array UInt32) (index : Nat) : UInt32 :=
  words.getD index 0

def rotateRight (word : UInt32) (count : UInt32) : UInt32 :=
  (word >>> count) ||| (word <<< (32 - count))

/-- Mix two message words into four words of the state. -/
def mix (state : Array UInt32) (a b c d : Nat) (x y : UInt32) : Array UInt32 :=
  let va := wordAt state a + wordAt state b + x
  let vd := rotateRight (wordAt state d ^^^ va) 16
  let vc := wordAt state c + vd
  let vb := rotateRight (wordAt state b ^^^ vc) 12
  let va := va + vb + y
  let vd := rotateRight (vd ^^^ va) 8
  let vc := vc + vd
  let vb := rotateRight (vb ^^^ vc) 7
  (((state.setIfInBounds a va).setIfInBounds b vb).setIfInBounds c vc).setIfInBounds d vd

/-- Mix the columns, then the diagonals. -/
def mixRound (state message : Array UInt32) : Array UInt32 :=
  let m := wordAt message
  let state := mix state 0 4 8 12 (m 0) (m 1)
  let state := mix state 1 5 9 13 (m 2) (m 3)
  let state := mix state 2 6 10 14 (m 4) (m 5)
  let state := mix state 3 7 11 15 (m 6) (m 7)
  let state := mix state 0 5 10 15 (m 8) (m 9)
  let state := mix state 1 6 11 12 (m 10) (m 11)
  let state := mix state 2 7 8 13 (m 12) (m 13)
  mix state 3 4 9 14 (m 14) (m 15)

/-- A number of rounds, with the message permuted in between. -/
def mixRounds : (count : Nat) → (state message : Array UInt32) → Array UInt32
  | 0, state, _ => state
  | count + 1, state, message =>
      mixRounds count (mixRound state message) (schedule.map (wordAt message))

/-- A tree node before its last compression. -/
structure Node where
  chaining : Array UInt32
  block : Array UInt32
  counter : UInt64
  length : UInt32
  flags : UInt32

def chunkStart : UInt32 := 1

def chunkEnd : UInt32 := 2

def parentFlag : UInt32 := 4

def rootFlag : UInt32 := 8

def Node.compress (node : Node) (extraFlags : UInt32) : Array UInt32 :=
  let state := node.chaining ++ initialWords.extract 0 4 ++
    #[node.counter.toUInt32, (node.counter >>> 32).toUInt32, node.length, node.flags ||| extraFlags]
  let state := mixRounds 7 state node.block
  (Array.range 8).map fun index => wordAt state index ^^^ wordAt state (index + 8)

/-- Four bytes as a word, lowest byte first. -/
def wordsOf : List UInt8 → List UInt32
  | a :: b :: c :: d :: rest =>
      (a.toUInt32 ||| (b.toUInt32 <<< 8) ||| (c.toUInt32 <<< 16) ||| (d.toUInt32 <<< 24)) ::
        wordsOf rest
  | [a, b, c] => [a.toUInt32 ||| (b.toUInt32 <<< 8) ||| (c.toUInt32 <<< 16)]
  | [a, b] => [a.toUInt32 ||| (b.toUInt32 <<< 8)]
  | [a] => [a.toUInt32]
  | [] => []

/-- The node of one chunk: all blocks but the last are compressed in order. -/
def chunkNode (counter : UInt64) (chaining : Array UInt32) (flags : UInt32)
    (bytes : List UInt8) : Node :=
  if bytes.length ≤ 64 then
    ⟨chaining, (wordsOf bytes).toArray, counter, bytes.length.toUInt32, flags ||| chunkEnd⟩
  else
    let block : Node := ⟨chaining, (wordsOf (bytes.take 64)).toArray, counter, 64, flags⟩
    chunkNode counter (block.compress 0) 0 (bytes.drop 64)
termination_by bytes.length
decreasing_by simp only [List.length_drop]; omega

/-- The chunks of a byte sequence; there is at least one. -/
def chunkNodes (counter : UInt64) (bytes : List UInt8) : List Node :=
  if bytes.length ≤ 1024 then [chunkNode counter initialWords chunkStart bytes]
  else
    chunkNode counter initialWords chunkStart (bytes.take 1024) ::
      chunkNodes (counter + 1) (bytes.drop 1024)
termination_by bytes.length
decreasing_by simp only [List.length_drop]; omega

/-- Put neighbours under a common parent; a last node without a neighbour moves
up as it is. -/
def pairUp : List Node → List Node
  | left :: right :: rest =>
      ⟨initialWords, left.compress 0 ++ right.compress 0, 0, 64, parentFlag⟩ :: pairUp rest
  | rest => rest

theorem pairUp_length_le : (nodes : List Node) → (pairUp nodes).length ≤ nodes.length
  | left :: right :: rest => by
      have := pairUp_length_le rest
      simp only [pairUp, List.length_cons]
      omega
  | [] => by simp [pairUp]
  | [_] => by simp [pairUp]

/-- Pair up, level by level, until the root is left. -/
def treeRoot : List Node → Option Node
  | [] => none
  | [root] => some root
  | left :: right :: rest => treeRoot (pairUp (left :: right :: rest))
termination_by nodes => nodes.length
decreasing_by
  have := pairUp_length_le rest
  simp only [pairUp, List.length_cons]
  omega

/-- The first 32 bytes of the hash, as words. -/
def hashWords (bytes : List UInt8) : Array UInt32 :=
  match treeRoot (chunkNodes 0 bytes) with
  | some root => root.compress rootFlag
  | none => #[]

/-- The bytes of a word, lowest first. -/
def wordBytes (word : UInt32) : List UInt8 :=
  [word.toUInt8, (word >>> 8).toUInt8, (word >>> 16).toUInt8, (word >>> 24).toUInt8]

/-- The hash of a byte sequence: 32 bytes. -/
def hash (bytes : List UInt8) : List UInt8 :=
  (hashWords bytes).toList.flatMap wordBytes

end PageInjection.Digest

namespace PageInjection.Fragment

/-- A short digest of the content, as sixteen hexadecimal digits. -/
def digest (fragment : Fragment) : String :=
  String.ofList <|
    ((Digest.hash (Text.encode fragment.content.toList)).take 8).flatMap fun byte =>
      Text.hexadecimal 2 byte.toNat

end PageInjection.Fragment
