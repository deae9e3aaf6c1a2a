import GlslBuild.Digest.Compression

/-!
# The BLAKE3 hash tree

A message is cut into chunks of 1024 bytes, and each chunk into blocks of 64 bytes that are
compressed one after the other. The chunks are the leaves of a binary tree; the left side of a node
holds as many chunks as the largest power of two that leaves something for the right side. The
digest is the compressed root.
-/

namespace GlslBuild.Digest

/-- The number that bytes stand for, the lowest byte first. -/
def littleEndian (bytes : List UInt8) : UInt32 :=
  bytes.foldr (fun byte high => high <<< 8 ||| byte.toUInt32) 0

/-- The bytes of a word, the lowest first. -/
def wordBytes (word : UInt32) : List UInt8 :=
  [word.toUInt8, (word >>> 8).toUInt8, (word >>> 16).toUInt8, (word >>> 24).toUInt8]

/-- The words of a block of at most 64 bytes, which is filled up with zeros. -/
def blockWords (bytes : List UInt8) : Words 16 :=
  Vector.ofFn fun place => littleEndian ((bytes.drop (4 * place.val)).take 4)

/-- The last node of a chunk, after the chaining value of what comes before these bytes. -/
def chunkFrom (counter : UInt64) (chaining : Words 8) (start : UInt32) (bytes : List UInt8) :
    Node :=
  if bytes.length ≤ 64 then
    ⟨chaining, blockWords bytes, counter, bytes.length.toUInt32, start ||| Node.chunkEnd⟩
  else
    let node : Node := ⟨chaining, blockWords (bytes.take 64), counter, 64, start⟩
    chunkFrom counter node.compress 0 (bytes.drop 64)
termination_by bytes.length
decreasing_by
  simp only [List.length_drop]
  omega

/-- The node of a chunk with the given number. -/
def chunk (counter : UInt64) (bytes : List UInt8) : Node :=
  chunkFrom counter initialWords Node.chunkStart bytes

/-- The number of bytes on the left side of a node for this many bytes. -/
def leftLength (length : Nat) : Nat := 1024 <<< ((length - 1) / 1024).log2

theorem leftLength_pos (length : Nat) : 0 < leftLength length := by
  rw [leftLength, Nat.shiftLeft_eq]
  exact Nat.mul_pos (by decide) (Nat.two_pow_pos _)

/-- Something is left for the right side. -/
theorem leftLength_lt {length : Nat} (large : 1024 < length) : leftLength length < length := by
  have chunks : (length - 1) / 1024 ≠ 0 := by omega
  have power := Nat.log2_self_le chunks
  rw [leftLength, Nat.shiftLeft_eq]
  omega

/-- The node over two chaining values. -/
def join (left right : Words 8) : Node := ⟨initialWords, left ++ right, 0, 64, Node.parent⟩

/-- The node over bytes of which the first chunk has the given number. -/
def nodeFrom (counter : UInt64) (bytes : List UInt8) : Node :=
  if _large : 1024 < bytes.length then
    let left := leftLength bytes.length
    join (nodeFrom counter (bytes.take left)).compress
      (nodeFrom (counter + (left / 1024).toUInt64) (bytes.drop left)).compress
  else chunk counter bytes
termination_by bytes.length
decreasing_by
  · have smaller := leftLength_lt _large
    simp only [List.length_take]
    omega
  · have positive := leftLength_pos bytes.length
    simp only [List.length_drop]
    omega

/-- The digest of a message, 32 bytes long. -/
def hash (bytes : List UInt8) : List UInt8 :=
  let node := nodeFrom 0 bytes
  { node with flags := node.flags ||| Node.root }.compress.toList.flatMap wordBytes

theorem length_hash (bytes : List UInt8) : (hash bytes).length = 32 := by
  simp only [hash, List.length_flatMap, wordBytes, List.length_cons, List.length_nil,
    List.map_const', List.sum_replicate_nat, Vector.length_toList]

end GlslBuild.Digest
