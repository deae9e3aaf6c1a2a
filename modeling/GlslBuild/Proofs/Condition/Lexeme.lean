import GlslBuild.Proofs.Condition.Row
import GlslBuild.Proofs.Result
import GlslBuild.Proofs.Word
import Mathlib.Data.List.TakeWhile

/-!
# Lexemes of conditions

The lexemes of a condition are its parentheses and the tokens of the texts between them. A lexeme
ends at a space and at a parenthesis, so that the lexemes of a text are those of its parts.
-/

namespace GlslBuild.Condition

/-- A token or a parenthesis. -/
inductive Lexeme where
  | token (token : Token)
  | opening
  | closing
  deriving DecidableEq, Repr

/-- The lexeme of a parenthesis. -/
def Lexeme.ofParenthesis (char : Char) : Lexeme := if char = '(' then .opening else .closing

/-- One row after the other, if there are both. -/
def append? {Item : Type} (first? second? : Option (List Item)) : Option (List Item) :=
  first?.bind fun first => second?.map (first ++ ·)

/-- The lexemes of a text without parentheses. -/
def flatLexemes? (text : Text) : Option (List Lexeme) :=
  (tokenize text).toOption.map (List.map .token)

/-- The lexemes of a text: none if there is something between its parentheses that is no row of
tokens. -/
def lexemes? (text : Text) : Option (List Lexeme) :=
  match _rest : text.dropWhile isFlatChar with
  | [] => flatLexemes? text
  | parenthesis :: rest =>
      append? (flatLexemes? (text.takeWhile isFlatChar))
        ((lexemes? rest).map (.ofParenthesis parenthesis :: ·))
termination_by text.length
decreasing_by
  have shorter := (List.dropWhile_sublist (l := text) isFlatChar).length_le
  rw [_rest, List.length_cons] at shorter
  exact shorter

/-! ## Rows one after the other -/

section Append

variable {Item : Type} {first? second? third? : Option (List Item)}

theorem append?_eq_some_iff {row : List Item} :
    append? first? second? = some row ↔
      ∃ first second, first? = some first ∧ second? = some second ∧ row = first ++ second := by
  cases first? <;> cases second? <;> simp [append?, eq_comm]

theorem append?_assoc :
    append? (append? first? second?) third? = append? first? (append? second? third?) := by
  cases first? <;> cases second? <;> cases third? <;> simp [append?]

theorem map_cons_append? (item : Item) :
    (append? first? second?).map (item :: ·) = append? (first?.map (item :: ·)) second? := by
  cases first? <;> cases second? <;> rfl

end Append

/-! ## Tokens -/

theorem toInt_nonneg_of_literal? {literal : Text} {value : Int64}
    (spelled : literal? literal = some value) : 0 ≤ value.toInt := by
  obtain ⟨number, -, bounded⟩ := Option.bind_eq_some_iff.mp spelled
  split at bounded
  · next small =>
      cases bounded
      rw [Int64.toInt_ofNat_of_lt small]
      exact Int.natCast_nonneg number
  · contradiction

theorem toInt_nonneg_of_constant? {name : Text} {value : Int64}
    (spelled : constant? name = some value) : 0 ≤ value.toInt := by
  rw [constant?] at spelled
  split at spelled
  · cases spelled
    decide
  · split at spelled
    · cases spelled
      decide
    · contradiction

/-- A text that is a row of tokens is put together from blanks, words of numbers and symbols. -/
theorem tokenize_induction {motive : Text → List Token → Prop} (nil : motive [] [])
    (blank : ∀ char rest tokens, Text.isBlank char = true → motive rest tokens →
      motive (char :: rest) tokens)
    (number : ∀ word rest value tokens,
      (∀ char ∈ word, Text.continuesIdentifier char = true) → 0 ≤ value.toInt →
        motive rest tokens → motive (word ++ rest) (.number value :: tokens))
    (symbol : ∀ mark rest tokens, motive rest tokens →
      motive (mark.text ++ rest) (.symbol mark :: tokens))
    {text : Text} {tokens : List Token} (read : tokenize text = .ok tokens) :
    motive text tokens := by
  have word (char : Char) (rest : Text) (belongs : Char → Bool) (value : Int64)
      (tokens : List Token) (first : Text.continuesIdentifier char = true)
      (others : ∀ other, belongs other = true → Text.continuesIdentifier other = true)
      (nonnegative : 0 ≤ value.toInt) (later : motive (rest.dropWhile belongs) tokens) :
      motive (char :: rest) (.number value :: tokens) := by
    rw [← List.takeWhile_append_dropWhile (p := belongs) (l := rest), ← List.cons_append]
    refine number _ _ value tokens ?_ nonnegative later
    intro other member
    rcases List.mem_cons.mp member with rfl | member
    · exact first
    · exact others other (List.all_eq_true.mp List.all_takeWhile other member)
  fun_induction tokenize text generalizing tokens with
  | case1 =>
      cases read
      exact nil
  | case2 char rest is_blank induction => exact blank char rest tokens is_blank (induction read)
  | case3 => contradiction
  | case4 char rest not_blank digit literal value spelled =>
      rename_i induction
      obtain ⟨later, rest_read, rfl⟩ := exists_of_map_eq_ok read
      have first : char.isAlphanum = true := by simp [Char.isAlphanum, digit]
      exact word char rest Char.isAlphanum value later
        (Text.continuesIdentifier_of_isAlphanum first)
        (fun _ => Text.continuesIdentifier_of_isAlphanum) (toInt_nonneg_of_literal? spelled)
        (induction rest_read)
  | case5 => contradiction
  | case6 char rest not_blank not_digit starts name value spelled =>
      rename_i induction
      obtain ⟨later, rest_read, rfl⟩ := exists_of_map_eq_ok read
      exact word char rest Text.continuesIdentifier value later
        (Text.continuesIdentifier_of_startsIdentifier starts) (fun _ continues => continues)
        (toInt_nonneg_of_constant? spelled) (induction rest_read)
  | case7 => contradiction
  | case8 char rest _ _ _ mark after taken induction =>
      obtain ⟨later, rest_read, rfl⟩ := exists_of_map_eq_ok read
      rw [Symbol.take?_eq_some taken]
      exact symbol mark after later (induction rest_read)

/-- A token that a text spells: its number has no sign. -/
def Token.Spelled : Token → Prop
  | .number value => 0 ≤ value.toInt
  | .symbol _ => True

theorem spelled_of_tokenize {text : Text} {tokens : List Token}
    (read : tokenize text = .ok tokens) : ∀ token ∈ tokens, token.Spelled := by
  refine tokenize_induction (motive := fun _ tokens => ∀ token ∈ tokens, token.Spelled)
    ?nil ?blank ?number ?symbol read
  case nil => simp
  case blank => exact fun char rest tokens _ induction => induction
  case number =>
    intro word rest value tokens _ nonnegative induction token member
    rcases List.mem_cons.mp member with rfl | member
    · exact nonnegative
    · exact induction token member
  case symbol =>
    intro mark rest tokens induction token member
    rcases List.mem_cons.mp member with rfl | member
    · trivial
    · exact induction token member

theorem isFlatChar_of_isBlank {char : Char} (blank : Text.isBlank char = true) :
    isFlatChar char = true := by
  by_contra parenthesis
  rcases isFlatChar_eq_false parenthesis with rfl | rfl <;> contradiction

/-- There is no parenthesis in a row of tokens. -/
theorem isFlatChar_of_tokenize {text : Text} {tokens : List Token}
    (read : tokenize text = .ok tokens) : ∀ char ∈ text, isFlatChar char = true := by
  refine tokenize_induction (motive := fun text _ => ∀ char ∈ text, isFlatChar char = true)
    ?nil ?blank ?number ?symbol read
  case nil => simp
  case blank =>
    intro char rest tokens blank induction other member
    rcases List.mem_cons.mp member with rfl | member
    · exact isFlatChar_of_isBlank blank
    · exact induction other member
  case number =>
    intro word rest value tokens continues _ induction char member
    rcases List.mem_append.mp member with member | member
    · exact isFlatChar_of_continuesIdentifier (continues char member)
    · exact induction char member
  case symbol =>
    intro mark rest tokens induction char member
    rcases List.mem_append.mp member with member | member
    · exact (Row.symbol mark).isFlat char member
    · exact induction char member

/-! ## Spaces end tokens -/

theorem toOption_map_cons (token : Token) (read : Except Reason (List Token)) :
    (read.map (token :: ·)).toOption = read.toOption.map (token :: ·) := by
  cases read <;> rfl

/-- The tokens on either side of a space are read apart. -/
theorem toOption_tokenize_append (first second : Text) :
    (tokenize (first ++ ' ' :: second)).toOption =
      append? (tokenize first).toOption (tokenize second).toOption := by
  have space : ∀ char ∈ (' ' :: second).head?, Text.isBlank char = true :=
    (Text.Apart.space second).blank
  have ends : ∀ char ∈ (' ' :: second).head?, Text.isWord char = false := by
    rintro char ⟨⟩
    decide
  have continues : ∀ char, Text.continuesIdentifier char = true → Text.isWord char = true :=
    fun _ => Text.isWord_of_continuesIdentifier
  have alphanum : ∀ char, char.isAlphanum = true → Text.isWord char = true :=
    fun char alphanum => continues char (Text.continuesIdentifier_of_isAlphanum alphanum)
  fun_induction tokenize first with
  | case1 =>
      rw [List.nil_append, tokenize_space]
      cases tokenize second <;> rfl
  | case2 char rest blank induction =>
      rw [List.cons_append, tokenize, if_pos blank, induction]
  | case3 char rest blank digit literal none_spelled =>
      have unseen := Text.takeWhile_append_of_ends alphanum ends rest
      rw [List.cons_append, tokenize, if_neg blank, if_pos digit, unseen.1]
      simp only [literal] at none_spelled
      simp only [none_spelled]
      rfl
  | case4 char rest blank digit literal value spelled =>
      rename_i induction
      have unseen := Text.takeWhile_append_of_ends alphanum ends rest
      rw [List.cons_append, tokenize, if_neg blank, if_pos digit, unseen.1, unseen.2]
      simp only [literal] at spelled
      simp only [spelled]
      rw [toOption_map_cons, toOption_map_cons, induction, map_cons_append?]
  | case5 char rest blank digit starts name none_spelled =>
      have unseen := Text.takeWhile_append_of_ends continues ends rest
      rw [List.cons_append, tokenize, if_neg blank, if_neg digit, if_pos starts, unseen.1]
      simp only [name] at none_spelled
      simp only [none_spelled]
      rfl
  | case6 char rest blank digit starts name value spelled =>
      rename_i induction
      have unseen := Text.takeWhile_append_of_ends continues ends rest
      rw [List.cons_append, tokenize, if_neg blank, if_neg digit, if_pos starts, unseen.1, unseen.2]
      simp only [name] at spelled
      simp only [spelled]
      rw [toOption_map_cons, toOption_map_cons, induction, map_cons_append?]
  | case7 char rest blank digit starts none_taken =>
      have untaken := Symbol.take?_append space (char :: rest)
      rw [none_taken, List.cons_append, Option.map_none] at untaken
      rw [List.cons_append, tokenize, if_neg blank, if_neg digit, if_neg starts]
      split
      · rfl
      · next found =>
          rw [untaken] at found
          cases found
  | case8 char rest blank digit starts symbol after taken induction =>
      have still_taken := Symbol.take?_append space (char :: rest)
      rw [taken, List.cons_append] at still_taken
      rw [List.cons_append, tokenize_of_take? (by simpa using blank) (by simpa using digit)
        (by simpa using starts) still_taken, toOption_map_cons, toOption_map_cons, induction,
        map_cons_append?]

/-! ## Lexemes of parts -/

theorem lexemes?_of_flat {text : Text} (flat : ∀ char ∈ text, isFlatChar char = true) :
    lexemes? text = flatLexemes? text := by
  rw [lexemes?]
  split
  · rfl
  · next parenthesis rest found =>
      rw [List.dropWhile_eq_nil_iff.mpr flat] at found
      contradiction

theorem lexemes?_of_tokenize {text : Text} {tokens : List Token}
    (read : tokenize text = .ok tokens) : lexemes? text = some (tokens.map .token) := by
  rw [lexemes?_of_flat (isFlatChar_of_tokenize read), flatLexemes?, read]
  rfl

theorem lexemes?_flat_append {flat : Text} (all : ∀ char ∈ flat, isFlatChar char = true)
    {parenthesis : Char} (closes : isFlatChar parenthesis = false) (rest : Text) :
    lexemes? (flat ++ parenthesis :: rest) =
      append? (flatLexemes? flat) ((lexemes? rest).map (.ofParenthesis parenthesis :: ·)) := by
  have dropped : (flat ++ parenthesis :: rest).dropWhile isFlatChar = parenthesis :: rest := by
    rw [List.dropWhile_append_of_pos all, List.dropWhile_cons_of_neg (by simp [closes])]
  have taken : (flat ++ parenthesis :: rest).takeWhile isFlatChar = flat := by
    rw [List.takeWhile_append_of_pos all, List.takeWhile_cons_of_neg (by simp [closes]),
      List.append_nil]
  rw [lexemes?, taken]
  split
  · next none_found =>
      rw [dropped] at none_found
      contradiction
  · next other tail found =>
      rw [dropped] at found
      cases found
      rfl

/-- Induction over the parentheses of a text. -/
@[elab_as_elim]
theorem parenthesis_induction {motive : Text → Prop}
    (flat : ∀ text, (∀ char ∈ text, isFlatChar char = true) → motive text)
    (parenthesis : ∀ front char rest, (∀ other ∈ front, isFlatChar other = true) →
      isFlatChar char = false → motive rest → motive (front ++ char :: rest))
    (text : Text) : motive text := by
  induction count : text.length using Nat.strongRecOn generalizing text with
  | _ count induction =>
      have split := List.takeWhile_append_dropWhile (p := isFlatChar) (l := text)
      have all : ∀ char ∈ text.takeWhile isFlatChar, isFlatChar char = true :=
        List.all_eq_true.mp List.all_takeWhile
      cases dropped : text.dropWhile isFlatChar with
      | nil =>
          rw [dropped, List.append_nil] at split
          exact flat text (split ▸ all)
      | cons char rest =>
          have closes := List.head?_dropWhile_not isFlatChar text
          rw [dropped, List.head?_cons] at closes
          rw [← split, dropped]
          refine parenthesis _ char rest all closes (induction _ ?_ rest rfl)
          rw [← count, ← split, dropped]
          simp
          omega

theorem flatLexemes?_append (first second : Text) :
    flatLexemes? (first ++ ' ' :: second) = append? (flatLexemes? first) (flatLexemes? second) := by
  rw [flatLexemes?, toOption_tokenize_append, flatLexemes?, flatLexemes?]
  cases (tokenize first).toOption <;> cases (tokenize second).toOption <;> simp [append?]

/-- The lexemes on either side of a space are apart. -/
theorem lexemes?_append_space (first second : Text) :
    lexemes? (first ++ ' ' :: second) = append? (lexemes? first) (lexemes? second) := by
  have flat_append {before after : Text} (before_flat : ∀ char ∈ before, isFlatChar char = true)
      (after_flat : ∀ char ∈ after, isFlatChar char = true) :
      ∀ char ∈ before ++ ' ' :: after, isFlatChar char = true := by
    intro char member
    rcases List.mem_append.mp member with member | member
    · exact before_flat char member
    · rcases List.mem_cons.mp member with rfl | member
      · rfl
      · exact after_flat char member
  induction first using parenthesis_induction with
  | flat first first_flat =>
      rw [lexemes?_of_flat first_flat]
      induction second using parenthesis_induction with
      | flat second second_flat =>
          rw [lexemes?_of_flat second_flat, lexemes?_of_flat (flat_append first_flat second_flat),
            flatLexemes?_append]
      | parenthesis front char rest front_flat closes _ =>
          have moved : first ++ ' ' :: (front ++ char :: rest) =
              (first ++ ' ' :: front) ++ char :: rest := by simp
          rw [moved, lexemes?_flat_append (flat_append first_flat front_flat) closes,
            lexemes?_flat_append front_flat closes, flatLexemes?_append, append?_assoc]
  | parenthesis front char rest front_flat closes induction =>
      rw [List.append_assoc, List.cons_append, lexemes?_flat_append front_flat closes, induction,
        lexemes?_flat_append front_flat closes, map_cons_append?, append?_assoc]

/-- The lexemes on either side of a parenthesis are apart. -/
theorem lexemes?_append_parenthesis (first : Text) {parenthesis : Char}
    (closes : isFlatChar parenthesis = false) (second : Text) :
    lexemes? (first ++ parenthesis :: second) =
      append? (lexemes? first) ((lexemes? second).map (.ofParenthesis parenthesis :: ·)) := by
  induction first using parenthesis_induction with
  | flat first first_flat =>
      rw [lexemes?_flat_append first_flat closes, lexemes?_of_flat first_flat]
  | parenthesis front char rest front_flat other_closes induction =>
      rw [List.append_assoc, List.cons_append, lexemes?_flat_append front_flat other_closes,
        induction, lexemes?_flat_append front_flat other_closes, map_cons_append?, append?_assoc]

end GlslBuild.Condition
