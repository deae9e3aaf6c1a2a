/-!
# The BLAKE3 compression function

A node of the hash tree is compressed to a chaining value of eight words. The state of sixteen words
is mixed in seven rounds, and the words of the message change their places between rounds.
-/

namespace GlslBuild.Digest

/-- A row of machine words. -/
abbrev Words (count : Nat) := Vector UInt32 count

/-- The words that a chain starts with. -/
def initialWords : Words 8 :=
  #v[0x6A09E667, 0xBB67AE85, 0x3C6EF372, 0xA54FF53A, 0x510E527F, 0x9B05688C, 0x1F83D9AB, 0x5BE0CD19]

/-- Where each word of the message for the next round comes from. -/
def permutation : Vector (Fin 16) 16 :=
  #v[2, 6, 3, 10, 7, 0, 4, 13, 1, 11, 12, 5, 9, 14, 15, 8]

/-- What is compressed: a block of the message after a chaining value, with its place in the
message, its length in bytes, and what is special about it. -/
structure Node where
  chaining : Words 8
  block : Words 16
  counter : UInt64
  length : UInt32
  flags : UInt32

namespace Node

/-- The first block of a chunk. -/
def chunkStart : UInt32 := 1

/-- The last block of a chunk. -/
def chunkEnd : UInt32 := 2

/-- A block made of two chaining values. -/
def parent : UInt32 := 4

/-- The root of the tree. -/
def root : UInt32 := 8

end Node

/-- The word with its bits moved to the right, the lowest ones coming back at the top. -/
def rotateRight (word amount : UInt32) : UInt32 := word >>> amount ||| word <<< (32 - amount)

/-- Mixes two words of the message into four words of the state. -/
def mix (message : Words 16) (state : Words 16) (places : Vector (Fin 16) 6) : Words 16 :=
  let (a, b, c, d) := (places[0], places[1], places[2], places[3])
  let state := state.set a (state[a] + state[b] + message[places[4]])
  let state := state.set d (rotateRight (state[d] ^^^ state[a]) 16)
  let state := state.set c (state[c] + state[d])
  let state := state.set b (rotateRight (state[b] ^^^ state[c]) 12)
  let state := state.set a (state[a] + state[b] + message[places[5]])
  let state := state.set d (rotateRight (state[d] ^^^ state[a]) 8)
  let state := state.set c (state[c] + state[d])
  state.set b (rotateRight (state[b] ^^^ state[c]) 7)

/-- The steps of a round: four words of the state, first in columns and then in diagonals, and two
words of the message. -/
def roundSteps : List (Vector (Fin 16) 6) :=
  [#v[0, 4, 8, 12, 0, 1], #v[1, 5, 9, 13, 2, 3], #v[2, 6, 10, 14, 4, 5], #v[3, 7, 11, 15, 6, 7],
   #v[0, 5, 10, 15, 8, 9], #v[1, 6, 11, 12, 10, 11], #v[2, 7, 8, 13, 12, 13],
   #v[3, 4, 9, 14, 14, 15]]

/-- One round. -/
def round (message state : Words 16) : Words 16 := roundSteps.foldl (mix message) state

/-- The message of the next round. -/
def permute (message : Words 16) : Words 16 := permutation.map fun place => message[place]

/-- A number of rounds, with the words of the message moved after each. -/
def rounds : Nat → Words 16 → Words 16 → Words 16
  | 0, _, state => state
  | count + 1, message, state => rounds count (permute message) (round message state)

namespace Node

/-- The state before the first round. -/
def initialState (node : Node) : Words 16 :=
  node.chaining ++
    #v[initialWords[0], initialWords[1], initialWords[2], initialWords[3], node.counter.toUInt32,
      (node.counter >>> 32).toUInt32, node.length, node.flags]

/-- The chaining value of a node. -/
def compress (node : Node) : Words 8 :=
  let state := rounds 7 node.block node.initialState
  Vector.ofFn fun place : Fin 8 => state[place.val] ^^^ state[place.val + 8]

end Node

end GlslBuild.Digest
