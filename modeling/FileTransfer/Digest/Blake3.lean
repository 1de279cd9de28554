import FileTransfer.Bytes

namespace FileTransfer.Blake3

/-!
# The BLAKE3 digest

The input is cut into chunks of 1024 octets and each chunk into blocks of 64.
The blocks of a chunk are compressed one after the other.  The chunks are the
leaves of a tree in which every level pairs neighbours and a last one without a
partner moves up, and the root of the tree yields 32 octets.
-/

abbrev Chain := Vector UInt32 8

/-- Sixteen words: a block, or the state of a compression. -/
abbrev Words := Vector UInt32 16

/-- The chaining value before any input. -/
def initial : Chain :=
  #v[0x6A09E667, 0xBB67AE85, 0x3C6EF372, 0xA54FF53A,
    0x510E527F, 0x9B05688C, 0x1F83D9AB, 0x5BE0CD19]

/-- The flag of the first block of a chunk. -/
def chunkStart : UInt32 := 1

/-- The flag of the last block of a chunk. -/
def chunkEnd : UInt32 := 2

/-- The flag of an inner node of the tree. -/
def parentNode : UInt32 := 4

/-- The flag of the root of the tree. -/
def rootNode : UInt32 := 8

/-- The octets of a chunk. -/
def chunkLength : Nat := 1024

/-- The octets of a block. -/
def blockLength : Nat := 64

/-- Rotate a word to the right, by more than no and fewer than 32 places. -/
def rotateRight (word places : UInt32) : UInt32 :=
  (word >>> places) ||| (word <<< (32 - places))

/-- The four words of a state that one mixing step changes. -/
structure Lane where
  a : Fin 16
  b : Fin 16
  c : Fin 16
  d : Fin 16

/-- Mix two words of a block into four words of a state. -/
def mix (state : Words) (lane : Lane) (first second : UInt32) : Words :=
  let a := state[lane.a] + state[lane.b] + first
  let d := rotateRight (state[lane.d] ^^^ a) 16
  let c := state[lane.c] + d
  let b := rotateRight (state[lane.b] ^^^ c) 12
  let a := a + b + second
  let d := rotateRight (d ^^^ a) 8
  let c := c + d
  let b := rotateRight (b ^^^ c) 7
  (((state.set lane.a a).set lane.b b).set lane.c c).set lane.d d

/-- The columns of a state and then its diagonals. -/
def lanes : List (Lane × Fin 16 × Fin 16) := [
  (⟨0, 4, 8, 12⟩, 0, 1), (⟨1, 5, 9, 13⟩, 2, 3),
  (⟨2, 6, 10, 14⟩, 4, 5), (⟨3, 7, 11, 15⟩, 6, 7),
  (⟨0, 5, 10, 15⟩, 8, 9), (⟨1, 6, 11, 12⟩, 10, 11),
  (⟨2, 7, 8, 13⟩, 12, 13), (⟨3, 4, 9, 14⟩, 14, 15)]

/-- Mix all words of a block into a state. -/
def round (state block : Words) : Words :=
  lanes.foldl
    (fun state (lane, first, second) =>
      mix state lane block[first] block[second])
    state

/-- The order in which the next round takes the words of a block. -/
def order : Vector (Fin 16) 16 :=
  #v[2, 6, 3, 10, 7, 0, 4, 13, 1, 11, 12, 5, 9, 14, 15, 8]

/-- The words of a block in the order of the next round. -/
def permute (block : Words) : Words :=
  order.map fun source => block[source]

/-- A number of rounds, each with the words of the block in a new order. -/
def rounds : Nat → Words → Words → Words
  | 0, state, _ => state
  | more + 1, state, block => rounds more (round state block) (permute block)

/-- One input of the compression function. -/
structure Node where
  chain : Chain
  block : Words
  counter : UInt64
  length : UInt32
  flags : UInt32

/-- The state in which the compression of a node starts. -/
def Node.start (node : Node) : Words :=
  #v[node.chain[0], node.chain[1], node.chain[2], node.chain[3],
    node.chain[4], node.chain[5], node.chain[6], node.chain[7],
    initial[0], initial[1], initial[2], initial[3],
    node.counter.toUInt32, (node.counter >>> 32).toUInt32,
    node.length, node.flags]

/-- The chaining value that the compression of a node yields. -/
def Node.output (node : Node) : Chain :=
  let state := rounds 7 node.start node.block
  #v[state[0] ^^^ state[8], state[1] ^^^ state[9],
    state[2] ^^^ state[10], state[3] ^^^ state[11],
    state[4] ^^^ state[12], state[5] ^^^ state[13],
    state[6] ^^^ state[14], state[7] ^^^ state[15]]

/-- The input in groups of one size; the last one may be shorter. -/
def groups (size : Nat) (positive : 0 < size) (bytes : Bytes) : List Bytes :=
  match _ : bytes.drop size with
  | [] => [bytes]
  | next :: more => bytes.take size :: groups size positive (next :: more)
termination_by bytes.length
decreasing_by
  have shorter := congrArg List.length ‹bytes.drop size = _›
  simp only [List.length_drop, List.length_cons] at shorter ⊢
  omega

/-- The word of up to four octets, lowest octet first. -/
def word (bytes : Bytes) : UInt32 :=
  bytes.foldr (fun octet value => (value <<< 8) ||| octet.toUInt32) 0

/-- The words of a block, with zeros after its end. -/
def words (block : Bytes) : Words :=
  let known := ((groups 4 (by decide) block).map word).toArray
  Vector.ofFn fun place => known.getD place 0

/-- The node of the last block of a chunk, after the blocks before it. -/
def lastBlock (chain : Chain) (counter : UInt64) (flags : UInt32) :
    List Bytes → Node
  | [] => ⟨chain, words [], counter, 0, flags ||| chunkEnd⟩
  | [block] =>
      ⟨chain, words block, counter, UInt32.ofNat block.length, flags ||| chunkEnd⟩
  | block :: more =>
      let node : Node :=
        ⟨chain, words block, counter, UInt32.ofNat blockLength, flags⟩
      lastBlock node.output counter 0 more

/-- The leaf of the tree that stands for a chunk. -/
def leaf (counter : Nat) (chunk : Bytes) : Node :=
  lastBlock initial (UInt64.ofNat counter) chunkStart
    (groups blockLength (by decide) chunk)

/-- The inner node above two nodes. -/
def join (left right : Node) : Node where
  chain := initial
  block := left.output ++ right.output
  counter := 0
  length := UInt32.ofNat blockLength
  flags := parentNode

/-- The level above some nodes. -/
def pairUp : List Node → List Node
  | [] => []
  | [single] => [single]
  | left :: right :: more => join left right :: pairUp more

/-- A level is at most half as long, rounded up, as the one below it. -/
theorem length_pairUp (nodes : List Node) :
    (pairUp nodes).length = (nodes.length + 1) / 2 := by
  fun_induction pairUp nodes with
  | case1 => rfl
  | case2 single => simp
  | case3 left right more ih =>
      simp only [List.length_cons, ih]
      omega

def root (first : Node) (others : List Node) : Node :=
  match others with
  | [] => first
  | second :: more => root (join first second) (pairUp more)
termination_by others.length
decreasing_by
  simp only [length_pairUp, List.length_cons]
  omega

def octets (word : UInt32) : Bytes :=
  [word.toUInt8, (word >>> 8).toUInt8, (word >>> 16).toUInt8, (word >>> 24).toUInt8]

def digest (bytes : Bytes) : Bytes :=
  let chunks := groups chunkLength (by decide) bytes
  let leaves := chunks.zipIdx.map fun (chunk, counter) => leaf counter chunk
  match leaves with
  | [] => []
  | first :: others =>
      let top := root first others
      let output := { top with flags := top.flags ||| rootNode }.output
      output.toList.flatMap octets

/-- The digest of an input in hexadecimal. -/
def hexDigest (bytes : Bytes) : String :=
  (digest bytes).toHex

end FileTransfer.Blake3
