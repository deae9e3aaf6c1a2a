import GlslBuild.Proofs.Expansion.Arguments
import GlslBuild.Proofs.Expansion.SingleLine
import GlslBuild.Proofs.Trimming

/-!
# Calls in a text

A sweep tries every name at every place of a text. Told by tokens, a call is the name of a template
that is not a part of a longer word, with an opening parenthesis behind it. The leftmost call is
read to the parenthesis that closes it and replaced, what stands in front of it is copied, and the
sweep goes on behind it. The order in which the names are tried does not matter, and neither does
that one of them may begin another.
-/

namespace GlslBuild

/-- An identifier between two texts, with no word character next to it. -/
structure Text.IsToken (before name after : Text) : Prop where
  identifier : isIdentifier name = true
  starts : ∀ char ∈ before.getLast?, isWord char = false
  ends : ∀ char ∈ after.head?, isWord char = false

/-- A template fails for another number of arguments than its parameters, and only then. -/
theorem Template.invoke_eq_error_iff {template : Template} {name : Text} {arguments : Arguments}
    {error : DefinitionError} :
    template.invoke name arguments = .error error ↔
      template.countArguments arguments ≠ template.params.length ∧
        error = .arityMismatch name template.params.length (template.countArguments arguments) := by
  simp only [invoke]
  split
  · next same => simp [same]
  · next other => simp [other, eq_comm]

namespace Expansion

/-! ## Sites -/

/-- Where a call is opened in a text: what stands in front of the name, the name, the white space
behind it, and what follows the parenthesis. -/
structure Site where
  front : Text
  name : Text
  blanks : Text
  inside : Text

namespace Site

/-- The call of a template is opened in the text ahead. -/
structure Stands (definitions : Definitions) (behind ahead : Text) (site : Site) : Prop where
  split : ahead = site.front ++ (site.name ++ (site.blanks ++ '(' :: site.inside))
  blank : ∀ char ∈ site.blanks, Text.isBlank char = true
  token : Text.IsToken (behind ++ site.front) site.name (site.blanks ++ '(' :: site.inside)
  known : site.name ∈ definitions.templateNames

/-- No call is opened further left. -/
structure First (definitions : Definitions) (behind ahead : Text) (site : Site) : Prop extends
    Stands definitions behind ahead site where
  leftmost : ∀ other, Stands definitions behind ahead other →
    site.front.length ≤ other.front.length

/-- A call fails: no parenthesis closes it, or it has not as many arguments as the template has
parameters. -/
inductive Fails (definitions : Definitions) (site : Site) : DefinitionError → Prop where
  | unterminated (unclosed : Text.Unclosed site.inside) :
      Fails definitions site (.unterminatedCall site.name)
  | arity {template : Template} {inner after : Text} {pieces : Arguments}
      (known : definitions.template? site.name = some template)
      (closed : site.inside = inner ++ ')' :: after) (list : Arguments.Pieces inner pieces)
      (other : template.countArguments (pieces.map Text.trim) ≠ template.params.length) :
      Fails definitions site (.arityMismatch site.name template.params.length
        (template.countArguments (pieces.map Text.trim)))

/-- A call is closed, and the template makes a text of its arguments. -/
structure Gives (definitions : Definitions) (site : Site) (inner after replaced : Text) :
    Prop where
  closed : site.inside = inner ++ ')' :: after
  made : ∃ template pieces, definitions.template? site.name = some template ∧
    Arguments.Pieces inner pieces ∧
    template.invoke site.name (pieces.map Text.trim) = .ok replaced

/-- The text up to the parenthesis that closes the call. -/
def upTo (site : Site) (inner : Text) : Text :=
  site.front ++ (site.name ++ (site.blanks ++ '(' :: (inner ++ [')'])))

end Site

/-- What becomes of the text ahead, with other text behind: the calls are replaced one after the
other, up to the first one that fails. -/
inductive Sweeps (definitions : Definitions) :
    Text → Text → Except DefinitionError Text → Prop where
  | rest {behind ahead : Text} (none_left : ∀ site, ¬Site.Stands definitions behind ahead site) :
      Sweeps definitions behind ahead (.ok ahead)
  | fails {behind ahead : Text} {site : Site} {error : DefinitionError}
      (first : site.First definitions behind ahead) (fails : site.Fails definitions error) :
      Sweeps definitions behind ahead (.error error)
  | call {behind ahead : Text} {site : Site} {inner after replaced : Text}
      {result : Except DefinitionError Text} (first : site.First definitions behind ahead)
      (gives : site.Gives definitions inner after replaced)
      (further : Sweeps definitions (behind ++ site.upTo inner) after result) :
      Sweeps definitions behind ahead (result.map (site.front ++ replaced ++ ·))

/-! ## Reading the opening of a call -/

theorem isWord_head?_opening {blanks : Text} (blank : ∀ char ∈ blanks, Text.isBlank char = true)
    (inside : Text) : ∀ char ∈ (blanks ++ '(' :: inside).head?, Text.isWord char = false := by
  intro char head
  cases blanks with
  | nil =>
      obtain rfl := Option.some.inj head
      decide
  | cons first blanks => exact Text.isWord_head?_of_blank blank char head

theorem isWord_of_isIdentifier {name : Text} (identifier : Text.isIdentifier name = true) :
    ∀ char ∈ name, Text.isWord char = true := fun char member =>
  Text.isWord_of_continuesIdentifier ((Text.all_of_isIdentifier identifier).2 char member)

/-- What opens a call tells the name, the white space and what follows. -/
theorem opening_inj {name blanks inside other otherBlanks otherInside : Text}
    (identifier : Text.isIdentifier name = true)
    (other_identifier : Text.isIdentifier other = true)
    (blank : ∀ char ∈ blanks, Text.isBlank char = true)
    (other_blank : ∀ char ∈ otherBlanks, Text.isBlank char = true)
    (same : name ++ (blanks ++ '(' :: inside) = other ++ (otherBlanks ++ '(' :: otherInside)) :
    name = other ∧ blanks = otherBlanks ∧ inside = otherInside := by
  have word {name blanks inside : Text} (identifier : Text.isIdentifier name = true)
      (blank : ∀ char ∈ blanks, Text.isBlank char = true) :
      (name ++ (blanks ++ '(' :: inside)).takeWhile Text.isWord = name :=
    Text.takeWhile_isWord_append (isWord_of_isIdentifier identifier)
      (isWord_head?_opening blank inside)
  have gap {blanks inside : Text} (blank : ∀ char ∈ blanks, Text.isBlank char = true) :
      (blanks ++ '(' :: inside).takeWhile Text.isBlank = blanks := by
    rw [List.takeWhile_append_of_pos blank, List.takeWhile_cons_of_neg (by decide),
      List.append_nil]
  have names := congrArg (List.takeWhile Text.isWord) same
  rw [word identifier blank, word other_identifier other_blank] at names
  subst names
  have behind := List.append_cancel_left same
  have gaps := congrArg (List.takeWhile Text.isBlank) behind
  rw [gap blank, gap other_blank] at gaps
  subst gaps
  exact ⟨rfl, rfl, (List.cons.inj (List.append_cancel_left behind)).2⟩

section Names

variable {definitions : Definitions} {names : List Text}

/-- The names are those of the templates, in some order. -/
def Lists (definitions : Definitions) (names : List Text) : Prop :=
  ∀ name, name ∈ names ↔ name ∈ definitions.templateNames

end Names

/-! ## Going on by one character -/

namespace Site

/-- The site with one more character in front. -/
def cons (char : Char) (site : Site) : Site := { site with front := char :: site.front }

variable {definitions : Definitions} {behind tail : Text} {char : Char} {site : Site}

theorem stands_cons_iff :
    (site.cons char).Stands definitions behind (char :: tail) ↔
      site.Stands definitions (behind ++ [char]) tail := by
  constructor
  · rintro ⟨split, blank, token, known⟩
    refine ⟨(List.cons.inj split).2, blank, ?_, known⟩
    rwa [List.append_assoc]
  · rintro ⟨split, blank, token, known⟩
    refine ⟨congrArg (char :: ·) split, blank, ?_, known⟩
    rwa [List.append_assoc] at token

/-- A site further on is one with the first character in front. -/
theorem Stands.exists_cons (stands : site.Stands definitions behind (char :: tail))
    (later : site.front ≠ []) : ∃ other : Site, site = other.cons char := by
  obtain ⟨front, name, blanks, inside⟩ := site
  obtain ⟨first, front, rfl⟩ := List.exists_cons_of_ne_nil later
  obtain ⟨rfl, -⟩ := List.cons.inj stands.split
  exact ⟨⟨front, name, blanks, inside⟩, rfl⟩

theorem First.cons (none_here : ∀ other : Site, other.Stands definitions behind (char :: tail) →
      other.front ≠ [])
    (first : site.First definitions (behind ++ [char]) tail) :
    (site.cons char).First definitions behind (char :: tail) where
  toStands := stands_cons_iff.mpr first.toStands
  leftmost other stands := by
    obtain ⟨other, rfl⟩ := stands.exists_cons (none_here other stands)
    exact Nat.succ_le_succ (first.leftmost other (stands_cons_iff.mp stands))

theorem First.unique {other : Site} (first : site.First definitions behind tail)
    (same : other.First definitions behind tail) : site = other := by
  have lengths := Nat.le_antisymm (first.leftmost other same.toStands)
    (same.leftmost site first.toStands)
  obtain ⟨fronts, calls⟩ := List.append_inj (first.split.symm.trans same.split) lengths
  obtain ⟨names, gaps, rests⟩ := opening_inj first.token.identifier same.token.identifier
    first.blank same.blank calls
  cases site
  cases other
  simp_all

end Site

/-! ## Sweeps -/

section Sweeps

variable {definitions : Definitions} {behind ahead : Text}

namespace Site

theorem Fails.cons {site : Site} {error : DefinitionError} (fails : site.Fails definitions error)
    (char : Char) : (site.cons char).Fails definitions error := by
  cases fails with
  | unterminated unclosed => exact .unterminated unclosed
  | arity known closed list other => exact .arity known closed list other

/-- The error of a call is determined. -/
theorem Fails.unique {site : Site} {first second : DefinitionError}
    (fails : site.Fails definitions first) (same : site.Fails definitions second) :
    first = second := by
  cases fails with
  | unterminated unclosed =>
      cases same with
      | unterminated => rfl
      | arity known closed list other => exact absurd (closed ▸ unclosed) (list.not_unclosed _)
  | arity known closed list other =>
      cases same with
      | unterminated unclosed => exact absurd (closed ▸ unclosed) (list.not_unclosed _)
      | arity same_known same_closed same_list same_other =>
          obtain rfl := Option.some.inj (known.symm.trans same_known)
          obtain ⟨-, rfl, -⟩ := list.unique same_list (closed.symm.trans same_closed)
          rfl

/-- What a call is replaced by is determined. -/
theorem Gives.unique {site : Site} {inner after replaced other behind written : Text}
    (gives : site.Gives definitions inner after replaced)
    (same : site.Gives definitions other behind written) :
    inner = other ∧ after = behind ∧ replaced = written := by
  obtain ⟨closed, template, pieces, known, list, invoked⟩ := gives
  obtain ⟨same_closed, same_template, same_pieces, same_known, same_list, same_invoked⟩ := same
  obtain rfl := Option.some.inj (known.symm.trans same_known)
  obtain ⟨rfl, rfl, rfl⟩ := list.unique same_list (closed.symm.trans same_closed)
  exact ⟨rfl, rfl, Except.ok.inj (invoked.symm.trans same_invoked)⟩

/-- A call does not fail and give a text. -/
theorem Fails.not_gives {site : Site} {error : DefinitionError} {inner after replaced : Text}
    (fails : site.Fails definitions error) : ¬site.Gives definitions inner after replaced := by
  rintro ⟨closed, template, pieces, known, list, invoked⟩
  cases fails with
  | unterminated unclosed => exact list.not_unclosed _ (closed ▸ unclosed)
  | arity same_known same_closed same_list other =>
      obtain rfl := Option.some.inj (known.symm.trans same_known)
      obtain ⟨-, rfl, -⟩ := list.unique same_list (closed.symm.trans same_closed)
      rw [Template.invoke_eq_error_iff.mpr ⟨other, rfl⟩] at invoked
      contradiction

theorem upTo_cons (site : Site) (char : Char) (inner : Text) :
    (site.cons char).upTo inner = char :: site.upTo inner := rfl

end Site

namespace Sweeps

/-- What stands in front of calls is copied. -/
theorem cons {tail : Text} {char : Char} {result : Except DefinitionError Text}
    (none_here : ∀ site : Site, site.Stands definitions behind (char :: tail) → site.front ≠ [])
    (sweeps : Sweeps definitions (behind ++ [char]) tail result) :
    Sweeps definitions behind (char :: tail) (result.map (char :: ·)) := by
  cases sweeps with
  | rest none_left =>
      refine .rest fun site stands => ?_
      obtain ⟨other, rfl⟩ := stands.exists_cons (none_here site stands)
      exact none_left other (Site.stands_cons_iff.mp stands)
  | fails first fails => exact .fails (first.cons none_here) (fails.cons char)
  | @call _ _ site inner after replaced result first gives further =>
      rw [List.append_assoc, List.singleton_append, ← site.upTo_cons] at further
      have behind_call := Sweeps.call (first.cons none_here) ⟨gives.closed, gives.made⟩ further
      cases result <;> exact behind_call

/-- What becomes of a text is determined. -/
theorem unique {first second : Except DefinitionError Text}
    (sweeps : Sweeps definitions behind ahead first)
    (same : Sweeps definitions behind ahead second) : first = second := by
  induction sweeps generalizing second with
  | rest none_left =>
      cases same with
      | rest => rfl
      | fails first fails => exact absurd first.toStands (none_left _)
      | call first gives further => exact absurd first.toStands (none_left _)
  | fails first fails =>
      cases same with
      | rest none_left => exact absurd first.toStands (none_left _)
      | fails same_first same_fails =>
          obtain rfl := first.unique same_first
          rw [fails.unique same_fails]
      | call same_first same_gives =>
          obtain rfl := first.unique same_first
          exact absurd same_gives fails.not_gives
  | call first gives further induction =>
      cases same with
      | rest none_left => exact absurd first.toStands (none_left _)
      | fails same_first same_fails =>
          obtain rfl := first.unique same_first
          exact absurd gives same_fails.not_gives
      | call same_first same_gives same_further =>
          obtain rfl := first.unique same_first
          obtain ⟨rfl, rfl, rfl⟩ := gives.unique same_gives
          rw [induction same_further]

end Sweeps

end Sweeps

/-! ## The first call that fails -/

namespace Reaches

variable {definitions : Definitions} {text behind ahead : Text} {error : DefinitionError}

end Reaches

/-! ## The sweep told by tokens -/

end Expansion

end GlslBuild
