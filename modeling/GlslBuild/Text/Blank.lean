import GlslBuild.Text.Basic
import GlslBuild.Text.CharClass

/-!
# White space

The White_Space property of Unicode, and trimming by it.
-/

namespace GlslBuild

/-- The characters with the White_Space property. -/
def CharClass.whiteSpace : CharClass :=
  [(0x9, 0xD), (0x20, 0x20), (0x85, 0x85), (0xA0, 0xA0), (0x1680, 0x1680), (0x2000, 0x200A),
   (0x2028, 0x2029), (0x202F, 0x202F), (0x205F, 0x205F), (0x3000, 0x3000)]

namespace Text

/-- A white space character. -/
def isBlank (char : Char) : Bool := CharClass.whiteSpace.contains char

/-- The text without white space at its start. -/
def trimStart (text : Text) : Text := text.dropWhile isBlank

/-- The text without white space at its end. -/
def trimEnd (text : Text) : Text := text.dropEndWhile isBlank

/-- The text without white space at its ends. -/
def trim (text : Text) : Text := trimEnd (trimStart text)

/-- Nothing but white space. -/
def isBlankText (text : Text) : Bool := text.all isBlank

/-- Every ASCII white space character is white space. -/
theorem isBlank_of_isWhitespace {char : Char} (blank : char.isWhitespace = true) :
    isBlank char = true := by
  simp only [Char.isWhitespace, Bool.or_eq_true, decide_eq_true_eq] at blank
  rcases blank with ((rfl | rfl) | rfl) | rfl <;> decide

theorem trimStart_length_le (text : Text) : (trimStart text).length ≤ text.length :=
  (List.dropWhile_sublist isBlank).length_le

end Text

end GlslBuild
