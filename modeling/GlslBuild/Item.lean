import GlslBuild.Comment
import GlslBuild.Directive
import GlslBuild.Identifier
import GlslBuild.Text.Lines

/-!
# Scanned items

Source lines are scanned into items: single lines of ordinary text, and directives, which may take
several lines. A directive goes on after a line that ends in a backslash, and while a block comment
that it opened is open. Whether a line is a directive depends on the lines before it only through a
block comment that ordinary text left open.
-/

namespace GlslBuild

/-- What the lines of an item hold. -/
inductive Content where
  /-- An ordinary line, and whether it starts inside a block comment. -/
  | text (text : Text) (inComment : Bool)
  /-- A directive for the native compiler, without its comments. -/
  | passThrough (text : Text)
  | directive (directive : Directive)
  /-- A directive with a keyword that is not known. -/
  | unknown (keyword : Text)
  deriving DecidableEq, Repr

/-- An item with the number of its first line, counted from one. -/
structure Item where
  line : Nat
  content : Content
  deriving DecidableEq, Repr

namespace Item

/-- The line up to the backslash that it ends in, if it does. -/
def continued? (line : Text) : Option Text :=
  let trimmed := Text.trimEnd line
  if trimmed.getLast? = some '\\' then some trimmed.dropLast else none

/-- Reads on from the line at hand to the end of the directive, after what was already joined. A
backslash disappears together with the white space and the line break after it; inside a comment
the line break is kept. Returns the joined text and the lines that were not read. -/
def readLogical (joined line : Text) (rest : List Text) : Text × List Text :=
  match rest, continued? line with
  | [], some head => (joined ++ head, [])
  | [], none => (joined ++ line, [])
  | next :: rest, some head => readLogical (joined ++ head) (Text.dropReturns next) rest
  | next :: rest, none =>
      if Comment.leavesOpen false (joined ++ line) then
        readLogical (joined ++ line ++ ['\n']) (Text.dropReturns next) rest
      else (joined ++ line, next :: rest)

/-- What a joined directive says: one of the known directives, one for the native compiler, or
neither. A number sign alone is left to the native compiler. -/
def classify (logical : Text) : Content :=
  let cleaned := Text.replaceChar '\n' ' ' (Comment.strip logical)
  match Text.takeIdentifier? (Text.trimStart ((Text.trimStart cleaned).drop 1)) with
  | none => .passThrough (Text.trimEnd cleaned)
  | some (keyword, args) =>
      if passThroughKeywords.contains keyword then .passThrough (Text.trimEnd cleaned)
      else
        match Keyword.ofText? keyword with
        | some keyword => .directive ⟨keyword, Text.trim args⟩
        | none => .unknown keyword

/-- The line starts with a number sign after white space. -/
def startsDirective (line : Text) : Bool := (Text.trimStart line).head? == some '#'

theorem length_readLogical (joined line : Text) (rest : List Text) :
    (readLogical joined line rest).2.length ≤ rest.length := by
  fun_induction readLogical joined line rest <;> simp_all <;> omega

/-- The items of lines that are numbered from `line`, given whether a block comment is open at their
start. -/
def scanFrom (line : Nat) (inComment : Bool) (lines : List Text) : List Item :=
  match lines with
  | [] => []
  | raw :: rest =>
      let text := Text.dropReturns raw
      if inComment || !startsDirective text then
        ⟨line, .text text inComment⟩ ::
          scanFrom (line + 1) (Comment.leavesOpen inComment text) rest
      else
        let logical := readLogical [] text rest
        ⟨line, classify logical.1⟩ ::
          scanFrom (line + 1 + (rest.length - logical.2.length)) false logical.2
termination_by lines.length
decreasing_by
  · simp
  · have shorter := length_readLogical [] (Text.dropReturns raw) rest
    simp only [List.length_cons]
    omega

/-- The items of source lines. -/
def scan (lines : List Text) : List Item := scanFrom 1 false lines

end Item

end GlslBuild
