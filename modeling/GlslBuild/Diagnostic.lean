import GlslBuild.Assembly
import GlslBuild.Text.Digit

/-!
# Diagnostics

Native compilers name the line that they complain about in one of two ways: `ERROR: 0:12:` or
`WARNING: 0:12:`, and `0(12)`. A log is annotated by showing that line under the complaint.
-/

namespace GlslBuild.Diagnostic

/-- The digits at the start of a text, at least one, and what follows them. -/
def digits? (text : Text) : Option (Text × Text) :=
  let digits := text.takeWhile Text.isDecimalDigit
  if digits.isEmpty then none else some (digits, text.dropWhile Text.isDecimalDigit)

/-- The second of two numbers around a character at the start of a text, and what follows it. -/
def secondNumber? (separator : Char) (text : Text) : Option (Text × Text) :=
  match digits? text with
  | some (_, char :: rest) => if char = separator then digits? rest else none
  | _ => none

/-- The line number in a complaint that starts with a word. -/
def worded? (text : Text) : Option Text :=
  ((Text.dropLeading? "ERROR:".toList text).or (Text.dropLeading? "WARNING:".toList text)).bind
    fun rest => (secondNumber? ':' (Text.trimStart rest)).map Prod.fst

/-- The line number in a complaint that starts with the number of its source. -/
def parenthesised? (text : Text) : Option Text :=
  match secondNumber? '(' text with
  | some (number, ')' :: _) => some number
  | _ => none

/-- The number that the digits stand for, if all are ASCII digits and it fits in 64 bits. -/
def wordValue? (digits : Text) : Option Nat :=
  (Text.number? 10 digits).filter fun number => number < 0x10000000000000000

/-- The line of the source that a line of a log complains about. -/
def line? (logLine : Text) : Option Nat :=
  ((worded? logLine).or (parenthesised? logLine)).bind wordValue?

/-- The lines that an annotated log has for a line of a log: that line, and the line of the source
that it complains about if there is such a line. -/
def annotateLine (unit : CompilationUnit) (logLine : Text) : List Text :=
  match (line? logLine).bind unit.line? with
  | some line => [logLine, "    > ".toList ++ Text.trim line]
  | none => [logLine]

/-- The log with the lines of the source that it complains about. -/
def annotate (unit : CompilationUnit) (log : Text) : Text :=
  Text.ofLines ((Text.logLines log).flatMap (annotateLine unit))

end GlslBuild.Diagnostic
