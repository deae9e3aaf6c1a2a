import GlslBuild.Text.Basic

/-!
# Lines

Splitting texts into lines and joining lines into texts.
-/

namespace GlslBuild.Text

/-- The lines between newlines; a newline at the end leaves an empty last line. -/
def lines (text : Text) : List Text := text.splitOn '\n'

/-- The line without the carriage returns at its end. -/
def dropReturns (line : Text) : Text := line.dropEndWhile (· == '\r')

/-- Lines written one after the other, each with a newline at its end. -/
def ofLines (lines : List Text) : Text := lines.flatMap fun line => line ++ ['\n']

/-- The line without one carriage return at its end. -/
def dropReturn (line : Text) : Text :=
  if line.getLast? = some '\r' then line.dropLast else line

/-- The lines of a log. A line ends in a newline or in a carriage return and a newline; what
follows the last newline is a line too unless it is empty. -/
def logLines (text : Text) : List Text :=
  let pieces := lines text
  let rest := pieces.getLastD []
  pieces.dropLast.map dropReturn ++ if rest.isEmpty then [] else [rest]

@[simp] theorem ofLines_nil : ofLines [] = [] := rfl

@[simp] theorem ofLines_cons (line : Text) (rest : List Text) :
    ofLines (line :: rest) = line ++ '\n' :: ofLines rest := by
  simp [ofLines]

end GlslBuild.Text
