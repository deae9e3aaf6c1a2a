import GlslBuild.Digest.Tree
import GlslBuild.Options
import GlslBuild.Stage
import GlslBuild.Text.Numeral

/-!
# Identities

An artifact is known by a digest of what it was requested by: the identifier, the name of the stage,
and the options. These are written as fields that each end in a zero byte, and both lists in the
options come after their lengths, so that neither can pass for a part of the other.
-/

namespace GlslBuild

/-- The digest that an artifact is known by, as a hexadecimal numeral. -/
abbrev Identity := Text

namespace Identity

/-- The fields of a request. -/
def fields (identifier stageName : Text) (options : Options) : List Text :=
  [identifier, stageName, Text.decimal options.version,
    Text.decimal options.defines.toList.length] ++ options.defines.toList ++
    Text.decimal options.includes.length :: options.includes

/-- The bytes of a text. -/
def utf8 (text : Text) : List UInt8 := text.flatMap String.utf8EncodeChar

/-- A field as it is written. -/
def encodeField (field : Text) : List UInt8 := utf8 field ++ [0]

/-- A request as it is written. -/
def encode (identifier stageName : Text) (options : Options) : List UInt8 :=
  (fields identifier stageName options).flatMap encodeField

/-- The hexadecimal digits of a byte. -/
def hexByte (byte : UInt8) : Text :=
  [Nat.digitChar (byte.toNat / 16), Nat.digitChar (byte.toNat % 16)]

/-- The identity for a stage name. -/
def compute (identifier stageName : Text) (options : Options) : Identity :=
  (Digest.hash (encode identifier stageName options)).flatMap hexByte

/-- The identity of an object. -/
def ofObject (identifier : Text) (stage : Stage) (options : Options) : Identity :=
  compute identifier stage.name options

/-- The identity of a program. -/
def ofProgram (identifier : Text) (options : Options) : Identity :=
  compute identifier programName options

/-- An identity has sixty-four digits. -/
theorem length_compute (identifier stageName : Text) (options : Options) :
    (compute identifier stageName options).length = 64 := by
  simp only [compute, List.length_flatMap, hexByte, List.length_cons, List.length_nil,
    List.map_const', List.sum_replicate_nat, Digest.length_hash]

end Identity

end GlslBuild
