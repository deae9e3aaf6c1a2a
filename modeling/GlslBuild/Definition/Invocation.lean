import GlslBuild.Definition.Basic

/-!
# Invocations

Reading the arguments of a call and putting them into a template. All parameters are replaced at
once, so an argument that names another parameter is left alone. Then the paste markers are removed
together with the white space around them.
-/

namespace GlslBuild

/-- The text of an argument list that has been read, one piece for each argument. -/
abbrev Arguments := List Text

/-- Puts a character in front of the first piece. -/
def Arguments.consChar (char : Char) : Arguments → Arguments
  | [] => [[char]]
  | piece :: pieces => (char :: piece) :: pieces

/-- The pieces between the commas outside parentheses, up to the parenthesis that closes a list,
with `depth` more parentheses open, and what follows it. -/
def Arguments.split : Nat → Text → Option (Arguments × Text)
  | _, [] => none
  | 0, ')' :: rest => some ([[]], rest)
  | depth + 1, ')' :: rest =>
      (Arguments.split depth rest).map fun (pieces, after) => (Arguments.consChar ')' pieces, after)
  | depth, '(' :: rest =>
      (Arguments.split (depth + 1) rest).map fun (pieces, after) =>
        (Arguments.consChar '(' pieces, after)
  | 0, ',' :: rest => (Arguments.split 0 rest).map fun (pieces, after) => ([] :: pieces, after)
  | depth, char :: rest =>
      (Arguments.split depth rest).map fun (pieces, after) =>
        (Arguments.consChar char pieces, after)

/-- The trimmed arguments of a call, read from just after its opening parenthesis, and what follows
the closing one. There are none if the list is not closed. -/
def Arguments.read? (text : Text) : Option (Arguments × Text) :=
  (Arguments.split 0 text).map fun (pieces, after) => (pieces.map Text.trim, after)

theorem Arguments.length_lt_of_split {depth : Nat} {text after : Text} {pieces : Arguments}
    (split : Arguments.split depth text = some (pieces, after)) : after.length < text.length := by
  fun_induction Arguments.split depth text generalizing pieces with
  | case1 => simp at split
  | case2 rest =>
      simp only [Option.some.injEq, Prod.mk.injEq] at split
      obtain ⟨-, rfl⟩ := split
      simp
  | case3 depth rest induction | case4 depth rest induction | case5 rest induction
  | case6 depth char rest _ _ _ _ induction =>
      obtain ⟨⟨inner, tail⟩, inner_split, pair⟩ := Option.map_eq_some_iff.mp split
      simp only [Prod.mk.injEq] at pair
      obtain ⟨-, rfl⟩ := pair
      have shorter := induction inner_split
      simp only [List.length_cons]
      omega

theorem Arguments.length_lt_of_read? {text after : Text} {arguments : Arguments}
    (read : Arguments.read? text = some (arguments, after)) : after.length < text.length := by
  obtain ⟨⟨pieces, tail⟩, split, pair⟩ := Option.map_eq_some_iff.mp read
  simp only [Prod.mk.injEq] at pair
  obtain ⟨-, rfl⟩ := pair
  exact Arguments.length_lt_of_split split

namespace Template

/-- What follows a paste marker at the start of the text, with white space on either side. -/
def afterMarker? (text : Text) : Option Text :=
  match Text.trimStart text with
  | '#' :: '#' :: rest => some (Text.trimStart rest)
  | _ => none

theorem length_lt_of_afterMarker? {text after : Text} (found : afterMarker? text = some after) :
    after.length < text.length := by
  unfold afterMarker? at found
  split at found
  · next rest marker =>
      have outer := Text.trimStart_length_le text
      have inner := Text.trimStart_length_le rest
      rw [marker] at outer
      simp only [List.length_cons, Option.some.injEq] at outer found
      rw [← found]
      omega
  · simp at found

/-- The text without paste markers and the white space around them. -/
def paste (text : Text) : Text :=
  match text with
  | [] => []
  | char :: rest =>
      match _marker : afterMarker? (char :: rest) with
      | some after => paste after
      | none => char :: paste rest
termination_by text.length
decreasing_by
  · exact length_lt_of_afterMarker? _marker
  · simp

/-- The number of arguments that were given. Empty parentheses give none to a template without
parameters. -/
def countArguments (template : Template) (arguments : Arguments) : Nat :=
  if template.params.isEmpty && arguments == [[]] then 0 else arguments.length

/-- What an identifier of the body becomes: the argument of the first parameter of that name, or
itself. -/
def argumentFor (template : Template) (arguments : Arguments) (name : Text) : Text :=
  ((template.params.zip arguments).lookup name).getD name

/-- The body with the arguments in place of the parameters. The name is for the error message. -/
def invoke (template : Template) (name : Text) (arguments : Arguments) :
    Except DefinitionError Text :=
  let found := template.countArguments arguments
  if found = template.params.length then
    .ok (paste (Text.mapIdentifiers (template.argumentFor arguments) template.body))
  else .error (.arityMismatch name template.params.length found)

end Template

end GlslBuild
