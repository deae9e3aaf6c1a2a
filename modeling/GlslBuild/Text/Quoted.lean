import GlslBuild.Text.Numeral
import GlslBuild.Text.Unprintable

/-!
# Quoted texts

Messages show a piece of source text between quotes, on one line and without characters that a
reader could not tell apart.
-/

namespace GlslBuild.Text

/-- How a character is shown between the given quotes. -/
def escape (quote char : Char) : Text :=
  if char = '\x00' then ['\\', '0']
  else if char = '\t' then ['\\', 't']
  else if char = '\r' then ['\\', 'r']
  else if char = '\n' then ['\\', 'n']
  else if char = '\\' ∨ char = quote then ['\\', char]
  else if isUnprintable char then ['\\', 'u', '\x7b'] ++ Nat.toDigits 16 char.toNat ++ ['\x7d']
  else [char]

/-- The text between double quotes. -/
def quoted (text : Text) : String :=
  String.ofList ('"' :: text.flatMap (escape '"') ++ ['"'])

/-- The character between single quotes. -/
def quotedChar (char : Char) : String :=
  String.ofList ('\x27' :: escape '\x27' char ++ ['\x27'])

/-- A character that needs no escape stands for itself. -/
theorem escape_of_printable {quote char : Char} (printable : isUnprintable char = false)
    (not_quote : char ≠ quote) (not_backslash : char ≠ '\\') (ne_null : char ≠ '\x00')
    (ne_tab : char ≠ '\t') (ne_return : char ≠ '\r') (ne_newline : char ≠ '\n') :
    escape quote char = [char] := by
  simp [escape, *]

end GlslBuild.Text
