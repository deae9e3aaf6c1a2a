import GlslBuild.Text.Basic

/-!
# Directives

The directives that preprocessing acts on, and the keywords of those it hands on untouched.
-/

namespace GlslBuild

/-- The keyword of a directive that preprocessing acts on. -/
inductive Keyword where
  | define | undef | ifExpr | ifdef | ifndef | elif | otherwise | endif | includeFile
  deriving DecidableEq, Repr

namespace Keyword

/-- All keywords. -/
def all : List Keyword :=
  [define, undef, ifExpr, ifdef, ifndef, elif, otherwise, endif, includeFile]

/-- How a keyword is written. -/
def text : Keyword → Text
  | define => "define".toList
  | undef => "undef".toList
  | ifExpr => "if".toList
  | ifdef => "ifdef".toList
  | ifndef => "ifndef".toList
  | elif => "elif".toList
  | otherwise => "else".toList
  | endif => "endif".toList
  | includeFile => "include".toList

/-- The keyword that is written so. -/
def ofText? (text : Text) : Option Keyword := all.find? fun keyword => keyword.text == text

/-- Opens, continues or closes a conditional chain. -/
def isConditional : Keyword → Bool
  | define | undef | includeFile => false
  | _ => true

@[simp] theorem ofText?_text (keyword : Keyword) : ofText? keyword.text = some keyword := by
  cases keyword <;> decide

theorem eq_text_of_ofText? {text : Text} {keyword : Keyword}
    (found : ofText? text = some keyword) : text = keyword.text := by
  have same := List.find?_some found
  exact (beq_iff_eq.mp same).symm

end Keyword

/-- The keywords of directives meant for the native compiler. -/
def passThroughKeywords : List Text :=
  ["version".toList, "extension".toList, "pragma".toList, "line".toList, "error".toList]

/-- A directive on one line, without comments and with its arguments trimmed. -/
structure Directive where
  keyword : Keyword
  args : Text
  deriving DecidableEq, Repr

/-- The directive as a source line. -/
def Directive.toLine (directive : Directive) : Text :=
  if directive.args.isEmpty then '#' :: directive.keyword.text
  else '#' :: directive.keyword.text ++ ' ' :: directive.args

end GlslBuild
