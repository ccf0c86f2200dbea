namespace MathAgents.Digest

/-!
# The BLAKE3 digest

A message is cut into chunks of 1024 bytes, a chunk into blocks of 64 bytes.  The blocks of a
chunk are compressed one after the other; the chunks are the leaves of a binary tree, whose
parents compress the two values below them.  The topmost compression is marked as the root and
gives the digest, here of 32 bytes.
-/

/-- A row of the compression state. -/
abbrev Row := Vector UInt32 4

/-- A chaining value. -/
abbrev Chain := Vector UInt32 8

/-- The words of a block. -/
abbrev Block := Vector UInt32 16

/-- The initial chaining value. -/
def initialChain : Chain :=
  #v[0x6A09E667, 0xBB67AE85, 0x3C6EF372, 0xA54FF53A, 0x510E527F, 0x9B05688C, 0x1F83D9AB, 0x5BE0CD19]

/-! ### Compression -/

/-- A word rotated to the right. -/
def rotateRight (x n : UInt32) : UInt32 := (x >>> n) ||| (x <<< (32 - n))

/-- The four rows of the compression state. -/
structure Rows where
  a : Row
  b : Row
  c : Row
  d : Row

/-- Two rows added, word by word. -/
def addRows (x y : Row) : Row := x.zipWith (· + ·) y

/-- Two rows combined bitwise and every word rotated to the right. -/
def mixRows (x y : Row) (n : UInt32) : Row := x.zipWith (fun u v => rotateRight (u ^^^ v) n) y

/-- Mixes eight words of a block into the four columns of the state. -/
def Rows.mix (s : Rows) (x y : Row) : Rows :=
  let a := addRows (addRows s.a s.b) x
  let d := mixRows s.d a 16
  let c := addRows s.c d
  let b := mixRows s.b c 12
  let a := addRows (addRows a b) y
  let d := mixRows d a 8
  let c := addRows c d
  let b := mixRows b c 7
  ⟨a, b, c, d⟩

/-- A row rotated by one place. -/
def rotateOnce (r : Row) : Row := #v[r[1], r[2], r[3], r[0]]

/-- A row rotated by two places. -/
def rotateTwice (r : Row) : Row := #v[r[2], r[3], r[0], r[1]]

/-- A row rotated by three places. -/
def rotateThrice (r : Row) : Row := #v[r[3], r[0], r[1], r[2]]

/-- One round: the columns are mixed, then the diagonals. -/
def Rows.round (s : Rows) (m : Block) : Rows :=
  let s := s.mix #v[m[0], m[2], m[4], m[6]] #v[m[1], m[3], m[5], m[7]]
  let s := { s with b := rotateOnce s.b, c := rotateTwice s.c, d := rotateThrice s.d }
  let s := s.mix #v[m[8], m[10], m[12], m[14]] #v[m[9], m[11], m[13], m[15]]
  { s with b := rotateThrice s.b, c := rotateTwice s.c, d := rotateOnce s.d }

/-- The order in which the next round takes the words of a block. -/
def permute (m : Block) : Block :=
  #v[m[2], m[6], m[3], m[10], m[7], m[0], m[4], m[13],
     m[1], m[11], m[12], m[5], m[9], m[14], m[15], m[8]]

/-- Several rounds, the words of the block permuted after each. -/
def Rows.rounds (s : Rows) (m : Block) : Nat → Rows
  | 0 => s
  | n + 1 => (s.round m).rounds (permute m) n

/-- What one compression takes. -/
structure Node where
  chain : Chain
  block : Block
  /-- The number of the chunk; zero for a parent. -/
  counter : UInt64
  /-- The number of bytes of the block. -/
  size : UInt32
  flags : UInt32

/-- The chaining value of a node, with further flags. -/
def Node.compress (n : Node) (flags : UInt32) : Chain :=
  let s : Rows :=
    { a := #v[n.chain[0], n.chain[1], n.chain[2], n.chain[3]]
      b := #v[n.chain[4], n.chain[5], n.chain[6], n.chain[7]]
      c := #v[initialChain[0], initialChain[1], initialChain[2], initialChain[3]]
      d := #v[n.counter.toUInt32, (n.counter >>> 32).toUInt32, n.size, n.flags ||| flags] }
  let s := s.rounds n.block 7
  s.a.zipWith (· ^^^ ·) s.c ++ s.b.zipWith (· ^^^ ·) s.d

/-! ### Chunks and the tree -/

/-- Marks the first block of a chunk. -/
def chunkStart : UInt32 := 1

/-- Marks the last block of a chunk. -/
def chunkEnd : UInt32 := 2

/-- Marks a parent. -/
def parentFlag : UInt32 := 4

/-- Marks the topmost node. -/
def rootFlag : UInt32 := 8

/-- The words of at most 64 bytes, least significant byte first, filled up with zeros. -/
def blockOf (bytes : List UInt8) : Block :=
  Vector.ofFn fun i =>
    let byte (k : Nat) : UInt32 := (bytes[4 * i.val + k]?.getD 0).toUInt32
    byte 0 ||| byte 1 <<< 8 ||| byte 2 <<< 16 ||| byte 3 <<< 24

/-- A list cut into pieces of `n` elements, the last one perhaps shorter; at least one piece. -/
def pieces {α : Type} (n : Nat) (xs : List α) : List (List α) :=
  if _h : xs.length ≤ n ∨ n = 0 then [xs]
  else xs.take n :: pieces n (xs.drop n)
termination_by xs.length
decreasing_by simp only [List.length_drop]; omega

/-- The last node of a chunk, whose blocks are given in order. -/
def chunkNode (counter : UInt64) (chain : Chain) (start : UInt32) : List (List UInt8) → Node
  | [] => ⟨chain, blockOf [], counter, 0, start ||| chunkEnd⟩
  | [last] => ⟨chain, blockOf last, counter, UInt32.ofNat last.length, start ||| chunkEnd⟩
  | block :: rest =>
    let node : Node := ⟨chain, blockOf block, counter, UInt32.ofNat block.length, start⟩
    chunkNode counter (node.compress 0) 0 rest

/-- The node above two others. -/
def parent (left right : Node) : Node :=
  ⟨initialChain, left.compress 0 ++ right.compress 0, 0, 64, parentFlag⟩

/-- The nodes above a level of the tree: each two neighbours have a parent, and a node without a
    right neighbour moves up. -/
def parents : List Node → List Node
  | left :: right :: rest => parent left right :: parents rest
  | nodes => nodes

theorem length_parents_le (nodes : List Node) : (parents nodes).length ≤ nodes.length := by
  fun_induction parents nodes with
  | case1 left right rest ih => simp only [List.length_cons]; omega
  | case2 nodes => exact Nat.le_refl _

/-- The topmost node above a node and its right neighbours. -/
def topmost (first : Node) : List Node → Node
  | [] => first
  | second :: rest => topmost (parent first second) (parents rest)
termination_by rest => rest.length
decreasing_by
  have := length_parents_le rest
  simp only [List.length_cons]
  omega

/-- The bytes of a word, least significant first. -/
def wordBytes (w : UInt32) : List UInt8 :=
  [w.toUInt8, (w >>> 8).toUInt8, (w >>> 16).toUInt8, (w >>> 24).toUInt8]

/-- The digest of a byte sequence. -/
def blake3 (bytes : List UInt8) : List UInt8 :=
  let chunk (i : Nat) (piece : List UInt8) : Node :=
    chunkNode (UInt64.ofNat i) initialChain chunkStart (pieces 64 piece)
  match (pieces 1024 bytes).mapIdx chunk with
  | [] => []
  | first :: rest => ((topmost first rest).compress rootFlag).toList.flatMap wordBytes

/-- A byte as two hexadecimal digits in lower case. -/
def hexByte (b : UInt8) : List Char :=
  let digit (n : Nat) : Char := (Nat.toDigits 16 n).headD '0'
  [digit (b.toNat / 16), digit (b.toNat % 16)]

/-- A byte sequence in hexadecimal. -/
def hex (bytes : List UInt8) : String := String.ofList (bytes.flatMap hexByte)

end MathAgents.Digest
