import GlslBuild.Definition.Invocation

/-!
# Expansion

Expansion works in passes over a line. A pass replaces every call of a template in one sweep from
left to right, and then every name that stands for text, all at once. Passes go on until one changes
nothing; a bound on their number cuts off definitions that keep growing.
-/

namespace GlslBuild.Expansion

/-- Exactly one of two neighbours is a word character; beyond the ends of a text there is none. -/
def isBoundary (previous next : Option Char) : Bool :=
  previous.any Text.isWord != next.any Text.isWord

/-- One of the names at the start of the text with an opening parenthesis after optional white
space: all that was read, and what follows the parenthesis. Names are tried in the given order. -/
def openCall? (names : List Text) (text : Text) : Option (Text × Text) :=
  names.findSome? fun name =>
    match Text.dropLeading? name text with
    | none => none
    | some tail =>
        match tail.dropWhile Text.isBlank with
        | '(' :: rest => some (name ++ tail.takeWhile Text.isBlank ++ ['('], rest)
        | _ => none

/-- A call of one of the names that starts right here, after the previous character. -/
def callAt? (names : List Text) (previous : Option Char) (text : Text) : Option (Text × Text) :=
  if isBoundary previous text.head? then openCall? names text else none

/-- The name that the beginning of a call is looked up by: without parentheses at its end, and
without white space before those. For identifiers this is the name that was found. -/
def calledName (opening : Text) : Text := Text.trimEnd (opening.dropEndWhile (· == '('))

theorem length_lt_of_openCall? {names : List Text} {text opening rest : Text}
    (found : openCall? names text = some (opening, rest)) : rest.length < text.length := by
  obtain ⟨name, -, here⟩ := List.exists_of_findSome?_eq_some found
  split at here
  · simp at here
  · next tail dropped =>
      have split_tail := Text.dropLeading?_eq_some_iff.mp dropped
      split at here
      · next after opens =>
          simp only [Option.some.injEq, Prod.mk.injEq] at here
          obtain ⟨-, rfl⟩ := here
          have shorter := (List.dropWhile_sublist (l := tail) Text.isBlank).length_le
          rw [opens] at shorter
          rw [split_tail, List.length_append]
          simp only [List.length_cons] at shorter
          omega
      · simp at here

theorem length_lt_of_callAt? {names : List Text} {previous : Option Char}
    {text opening rest : Text} (found : callAt? names previous text = some (opening, rest)) :
    rest.length < text.length := by
  unfold callAt? at found
  split at found
  · exact length_lt_of_openCall? found
  · simp at found

/-- Replaces the calls of the given names in one sweep, going on after each call. A call whose name
is not found under the definitions ends the sweep. -/
def sweepFrom (definitions : Definitions) (names : List Text) (previous : Option Char)
    (text : Text) : Except DefinitionError Text :=
  match text with
  | [] => .ok []
  | char :: tail =>
      match _call : callAt? names previous (char :: tail) with
      | none => (sweepFrom definitions names (some char) tail).map (char :: ·)
      | some (opening, rest) =>
          let name := calledName opening
          match definitions.template? name with
          | none => .ok (char :: tail)
          | some template =>
              match _arguments : Arguments.read? rest with
              | none => .error (.unterminatedCall name)
              | some (arguments, after) =>
                  match template.invoke name arguments with
                  | .error error => .error error
                  | .ok replaced =>
                      (sweepFrom definitions names (some ')') after).map (replaced ++ ·)
termination_by text.length
decreasing_by
  · simp
  · have shorter := length_lt_of_callAt? _call
    have shortest := Arguments.length_lt_of_read? _arguments
    omega

/-- Replaces every call of a template in one sweep from left to right. -/
def sweep (definitions : Definitions) (text : Text) : Except DefinitionError Text :=
  sweepFrom definitions definitions.templateNames none text

/-- What becomes of an identifier that stands for no text: itself in ordinary text, and `false` in
a condition, where `true` and `false` are kept. -/
def unboundName (inCondition : Bool) (name : Text) : Text :=
  if inCondition && name != "true".toList && name != "false".toList then "false".toList else name

/-- Replaces every name that stands for text, all at once. -/
def substitute (definitions : Definitions) (inCondition : Bool) (text : Text) : Text :=
  Text.mapIdentifiers
    (fun name => (definitions.text? name).getD (unboundName inCondition name)) text

/-- One pass: the calls, then the names. -/
def pass (definitions : Definitions) (inCondition : Bool) (text : Text) :
    Except DefinitionError Text :=
  (sweep definitions text).map (substitute definitions inCondition)

/-- Repeats passes until one changes nothing, with `remaining` of at most `limit` passes left. -/
def settle (definitions : Definitions) (inCondition : Bool) (limit : Nat) :
    Nat → Text → Except DefinitionError Text
  | 0, _ => .error (.expansionLimit limit)
  | remaining + 1, text =>
      match pass definitions inCondition text with
      | .error error => .error error
      | .ok next =>
          if next = text then .ok text else settle definitions inCondition limit remaining next

/-- Expands ordinary text within a number of passes. Names without a definition are kept. -/
def ofText (definitions : Definitions) (passLimit : Nat) (text : Text) :
    Except DefinitionError Text :=
  settle definitions false passLimit passLimit text

/-- Expands a condition within a number of passes. Names without a definition become `false`. -/
def ofCondition (definitions : Definitions) (passLimit : Nat) (text : Text) :
    Except DefinitionError Text :=
  settle definitions true passLimit passLimit text

end GlslBuild.Expansion
