import GlslBuild.Proofs.Condition.Juxtaposition
import GlslBuild.Proofs.Condition.Reduction

/-!
# Accepted conditions are expressions

Reduction puts numerals in place of groups until a row of tokens is left, and every row that has a
value is read as an expression. Going back from the numerals to the groups, the lexemes of every
accepted text are read as an expression of that value.
-/

namespace GlslBuild.Condition

open BinaryOperator (ranks)

/-- A number without a sign is that of a literal. -/
theorem exists_literal {value : Int64} (nonnegative : 0 ≤ value.toInt) :
    ∃ numeral : Literal, Int64.ofNat numeral.number = value := by
  have most := value.toInt_lt
  have small : value.toInt.toNat < 2 ^ 63 := by omega
  obtain ⟨numeral, -, counted⟩ := Literal.exists_text_eq_decimal small
  refine ⟨numeral, ?_⟩
  rw [counted, ← Int64.toInt_inj, Int64.toInt_ofNat_of_lt small, Int.toNat_of_nonneg nonnegative]

/-! ## Rows with numerals in place of groups -/

/-- The tokens are those of the row, with numerals in place of the groups, which are read as
expressions. If the row is `signed`, the first token behind the minus sign of such a numeral is the
first of the tokens. -/
inductive Grouped : Bool → List Lexeme → List Token → Prop where
  | nil : Grouped false [] []
  | token {token : Token} {row : List Lexeme} {tokens : List Token} (spelled : token.Spelled)
      (behind : Grouped false row tokens) : Grouped false (.token token :: row) (token :: tokens)
  | group {inner : Derivation ranks.length} {value : Int64} {inside row : List Lexeme}
      {tokens : List Token} (reads : inner.ReadFrom false inside)
      (computed : inner.word? = some value) (behind : Grouped false row tokens) :
      Grouped false (.opening :: inside ++ .closing :: row) (numeralTokens value ++ tokens)
  | opposite {inner : Derivation ranks.length} {value : Int64} {inside row : List Lexeme}
      {tokens : List Token} (reads : inner.ReadFrom false inside)
      (computed : inner.word? = some value) (negative : value.toInt < 0)
      (behind : Grouped false row tokens) :
      Grouped true (.opening :: inside ++ .closing :: row) (.number (-value) :: tokens)

namespace Grouped

/-- If an operator comes next, it is a lexeme of its own, or the minus sign of a group. -/
theorem of_symbol {row : List Lexeme} {mark : Symbol} {tokens : List Token}
    (grouped : Grouped false row (.symbol mark :: tokens)) :
    (∃ behind, row = .token (.symbol mark) :: behind ∧ Grouped false behind tokens) ∨
      mark = .minus ∧ Grouped true row tokens := by
  generalize same : Token.symbol mark :: tokens = all at grouped
  cases grouped with
  | nil => contradiction
  | token spelled behind =>
      cases same
      exact .inl ⟨_, rfl, behind⟩
  | @group inner value inside row tokens' reads computed behind =>
      rw [numeralTokens] at same
      split at same
      · next negative =>
          cases same
          exact .inr ⟨rfl, .opposite reads computed negative behind⟩
      · cases same

theorem eq_nil {row : List Lexeme} (grouped : Grouped false row []) : row = [] := by
  generalize same : [] = tokens at grouped
  cases grouped with
  | nil => rfl
  | token => contradiction
  | @group inner value inside row tokens reads computed behind =>
      exact absurd (List.append_eq_nil_iff.mp same.symm).1 (numeralTokens_ne_nil value)

end Grouped

/-! ## From phrases to expressions -/

/-- A group of negative value on its own: its numeral is a phrase with a minus sign, which belongs
to the value. -/
theorem exists_group_of_grouped {row : List Lexeme} {operand : Phrase 0} {rest : List Token}
    (grouped : Grouped true row (operand.tokens ++ rest)) :
    ∃ (inner : Derivation ranks.length) (value : Int64) (inside back : List Lexeme),
      row = .opening :: inside ++ .closing :: back ∧ inner.ReadFrom false inside ∧
        inner.word? = some value ∧ value.toInt < 0 ∧ operand.word? = some (-value) ∧
        Grouped false back rest := by
  generalize same : operand.tokens ++ rest = tokens at grouped
  cases grouped with
  | @opposite inner value inside back tokens reads computed negative behind =>
      cases operand with
      | number number =>
          cases same
          exact ⟨inner, value, inside, back, rfl, reads, computed, negative, rfl, behind⟩
      | unary => cases same

/-- A phrase at the beginning of the tokens is an expression at the beginning of the row, and the
rest belongs to the rest of the row. -/
theorem Grouped.exists_readFrom {depth : Nat} {phrase : Phrase depth} {value : Int64}
    (word : phrase.word? = some value) {signed : Bool} {row : List Lexeme} {rest : List Token}
    (grouped : Grouped signed row (phrase.tokens ++ rest)) :
    ∃ (expression : Derivation depth) (part back : List Lexeme), row = part ++ back ∧
      expression.ReadFrom signed part ∧ expression.word? = some value ∧
        Grouped false back rest := by
  induction phrase generalizing value signed row rest with
  | number number =>
      cases word
      cases signed with
      | true =>
          obtain ⟨inner, group_value, inside, back, rfl, reads, computed, negative, same, behind⟩ :=
            exists_group_of_grouped grouped
          obtain rfl : number = -group_value := Option.some.inj same
          refine ⟨.unary .negate (.group inner), .opening :: inside ++ [.closing], back, by simp,
            .opposite reads ⟨group_value.toInt, negative, ?_⟩, ?_, behind⟩
          · rw [← Derivation.map_toInt_word?, computed, Option.map_some]
          · rw [Derivation.word?, Derivation.word?, computed, Option.map_some]
            rfl
      | false =>
          generalize same : (Phrase.number number).tokens ++ rest = tokens at grouped
          cases grouped with
          | nil => contradiction
          | token spelled behind =>
              cases same
              obtain ⟨numeral, rfl⟩ := exists_literal spelled
              exact ⟨.literal numeral, [_], _, rfl, .literal numeral, rfl, behind⟩
          | @group inner group_value inside back tokens reads computed behind =>
              rw [numeralTokens] at same
              split at same
              · cases same
              · cases same
                exact ⟨.group inner, .opening :: inside ++ [.closing], back, by simp, .group reads,
                  computed, behind⟩
  | unary operator operand induction =>
      cases signed with
      | true =>
          generalize same : (Phrase.unary operator operand).tokens ++ rest = tokens at grouped
          cases grouped
          cases same
      | false =>
          obtain ⟨operand_value, operand_word, rfl⟩ := Option.map_eq_some_iff.mp word
          rcases grouped.of_symbol with ⟨behind, rfl, further⟩ | ⟨minus, signed_row⟩
          · obtain ⟨expression, part, back, rfl, reads, computed, after⟩ :=
              induction operand_word further
            refine ⟨.unary operator expression, _ :: part, back, rfl, .unary operator reads, ?_,
              after⟩
            rw [Derivation.word?, computed, Option.map_some]
          · -- The sign is the one of a negative group, so that operand and sign are the group.
            obtain ⟨inner, group_value, inside, back, rfl, reads, computed, -, opposite, after⟩ :=
              exists_group_of_grouped signed_row
            obtain rfl : operator = .negate := by cases operator <;> first | rfl | contradiction
            obtain rfl := Option.some.inj (operand_word.symm.trans opposite)
            refine ⟨.group inner, .opening :: inside ++ [.closing], back, by simp, .group reads, ?_,
              after⟩
            rw [Derivation.word?, computed, UnaryOperator.apply, Int64.neg_neg]
  | single operand induction =>
      obtain ⟨expression, part, back, split, reads, computed, after⟩ := induction word grouped
      exact ⟨.single expression, part, back, split, .single reads, computed, after⟩
  | binary left operator ranked right left_induction right_induction =>
      obtain ⟨first, left_word, rest_word⟩ := Option.bind_eq_some_iff.mp word
      obtain ⟨second, right_word, applied⟩ := Option.bind_eq_some_iff.mp rest_word
      rw [Phrase.tokens, List.append_assoc, List.cons_append] at grouped
      obtain ⟨left_expression, part, back, rfl, left_reads, left_computed, left_after⟩ :=
        left_induction left_word grouped
      have whole {right_expression : Derivation _}
          (right_computed : right_expression.word? = some second) :
          (Derivation.binary left_expression operator ranked right_expression).word? =
            some value := by
        rw [Derivation.word?, left_computed, right_computed, Option.bind_some, Option.bind_some,
          applied]
      rcases left_after.of_symbol with ⟨behind, rfl, further⟩ | ⟨minus, signed_row⟩
      · obtain ⟨right_expression, more, last, rfl, reads, computed, after⟩ :=
          right_induction right_word further
        exact ⟨.binary left_expression operator ranked right_expression, part ++ _ :: more, last,
          by simp, .binary ranked left_reads reads, whole computed, after⟩
      · obtain ⟨right_expression, more, last, rfl, reads, computed, after⟩ :=
          right_induction right_word signed_row
        obtain rfl : operator = .subtract := by cases operator <;> first | rfl | contradiction
        exact ⟨.binary left_expression .subtract ranked right_expression, part ++ more, last,
          by simp, .juxtaposed ranked left_reads reads, whole computed, after⟩

/-- A row of tokens that has a value is read as an expression. -/
theorem exists_readFrom_of_valueOfTokens {row : List Lexeme} {tokens : List Token} {value : Int64}
    (grouped : Grouped false row tokens) (computed : valueOfTokens tokens = .ok value) :
    ∃ expression : Derivation ranks.length,
      expression.ReadFrom false row ∧ expression.word? = some value := by
  obtain ⟨phrase, rfl, word⟩ := valueOfTokens_eq_ok_iff.mp computed
  rw [← List.append_nil phrase.tokens] at grouped
  obtain ⟨expression, part, back, rfl, reads, same_word, rest⟩ := grouped.exists_readFrom word
  obtain rfl := rest.eq_nil
  exact ⟨expression, by rwa [List.append_nil], same_word⟩

/-! ## From numerals back to groups -/

/-- The tokens are those of the row, with a numeral in place of every group that holds the value of
what is inside. -/
inductive Settled : List Lexeme → List Token → Prop where
  | nil : Settled [] []
  | token {token : Token} {row : List Lexeme} {tokens : List Token} (spelled : token.Spelled)
      (behind : Settled row tokens) : Settled (.token token :: row) (token :: tokens)
  | group {inside row : List Lexeme} {inner tokens : List Token} {value : Int64}
      (settled : Settled inside inner) (computed : valueOfTokens inner = .ok value)
      (behind : Settled row tokens) :
      Settled (.opening :: inside ++ .closing :: row) (numeralTokens value ++ tokens)

/-- Tokens in a row stand in front of a parenthesis or behind it. -/
theorem split_at_closing {first second front back : List Lexeme} {tokens : List Token}
    (tokens_ne_nil : tokens ≠ [])
    (same : first ++ .closing :: second = front ++ (tokens.map .token ++ back)) :
    (∃ rest, first = front ++ (tokens.map .token ++ rest) ∧ back = rest ++ .closing :: second) ∨
      ∃ more, front = first ++ .closing :: more ∧ second = more ++ (tokens.map .token ++ back) := by
  have no_closing : Lexeme.closing ∉ tokens.map Lexeme.token := by simp
  rcases List.append_eq_append_iff.mp same with ⟨more, rfl, behind⟩ | ⟨part, rfl, inside⟩
  · cases more with
    | nil =>
        obtain ⟨token, tokens, rfl⟩ := List.exists_cons_of_ne_nil tokens_ne_nil
        cases behind
    | cons lexeme more =>
        cases behind
        exact .inr ⟨more, rfl, rfl⟩
  · rcases List.append_eq_append_iff.mp inside with ⟨rest, rfl, rfl⟩ | ⟨rest, split, behind⟩
    · exact .inl ⟨rest, rfl, rfl⟩
    · cases rest with
      | nil =>
          rw [List.append_nil] at split
          exact .inl ⟨[], by rw [split, List.append_nil], behind.symm⟩
      | cons lexeme rest =>
          cases behind
          exact absurd (by simp [split]) no_closing

namespace Settled

theorem of_tokens {tokens : List Token} (spelled : ∀ token ∈ tokens, token.Spelled) :
    Settled (tokens.map .token) tokens := by
  induction tokens with
  | nil => exact .nil
  | cons token tokens induction =>
      exact .token (spelled token List.mem_cons_self)
        (induction fun other member => spelled other (List.mem_cons_of_mem token member))

/-- Tokens at the beginning of a row are settled. -/
theorem exists_of_append {first : List Token} {back : List Lexeme} {tokens : List Token}
    (settled : Settled (first.map .token ++ back) tokens) :
    ∃ rest, tokens = first ++ rest ∧ Settled back rest := by
  induction first generalizing tokens with
  | nil => exact ⟨tokens, rfl, settled⟩
  | cons token first induction =>
      cases settled with
      | token spelled behind =>
          obtain ⟨rest, rfl, rest_settled⟩ := induction behind
          exact ⟨rest, rfl, rest_settled⟩

/-- What has a value is read as an expression, group by group from the inside. -/
theorem grouped {row : List Lexeme} {tokens : List Token} (settled : Settled row tokens) :
    Grouped false row tokens := by
  induction settled with
  | nil => exact .nil
  | token spelled behind induction => exact .token spelled induction
  | group settled computed behind inner_induction behind_induction =>
      obtain ⟨expression, reads, word⟩ := exists_readFrom_of_valueOfTokens inner_induction computed
      exact .group reads word behind_induction

section Replace

variable {inside : List Lexeme} {inner : List Token} {value : Int64}

/-- The numeral that a row begins with may give way to a group of its value. -/
theorem replace_first (settled : Settled inside inner) (computed : valueOfTokens inner = .ok value)
    {back : List Lexeme} {tokens : List Token}
    (numeral : Settled ((numeralTokens value).map .token ++ back) tokens) :
    Settled (.opening :: inside ++ .closing :: back) tokens := by
  obtain ⟨rest, rfl, rest_settled⟩ := numeral.exists_of_append
  exact .group settled computed rest_settled

/-- A numeral in a row may give way to a group of its value. -/
theorem replace (settled : Settled inside inner) (computed : valueOfTokens inner = .ok value)
    {front row back : List Lexeme} {tokens : List Token} (whole : Settled row tokens)
    (split : row = front ++ ((numeralTokens value).map .token ++ back)) :
    Settled (front ++ (.opening :: inside ++ .closing :: back)) tokens := by
  induction whole generalizing front back with
  | nil =>
      have numeral := (List.append_eq_nil_iff.mp (List.append_eq_nil_iff.mp split.symm).2).1
      exact absurd (List.map_eq_nil_iff.mp numeral) (numeralTokens_ne_nil value)
  | @token token row tokens spelled behind induction =>
      cases front with
      | nil => exact settled.replace_first computed (split ▸ .token spelled behind)
      | cons lexeme front =>
          cases split
          exact .token spelled (induction rfl)
  | @group other row others tokens other_value other_settled other_computed behind other_induction
      behind_induction =>
      cases front with
      | nil =>
          exact settled.replace_first computed (split ▸ .group other_settled other_computed behind)
      | cons lexeme front =>
          rw [List.cons_append, List.cons_append, List.cons.injEq] at split
          obtain ⟨rfl, same⟩ := split
          rcases split_at_closing (numeralTokens_ne_nil value) same with
            ⟨rest, rfl, rfl⟩ | ⟨more, rfl, rfl⟩
          · have inside_settled := Settled.group (other_induction rfl) other_computed behind
            simpa using inside_settled
          · have behind_settled := Settled.group other_settled other_computed (behind_induction rfl)
            simpa using behind_settled

end Replace

end Settled

theorem lexemes?_groupValue {before after : Text} {value : Int64} {row : List Lexeme}
    (found : lexemes? (before ++ groupValue value ++ after) = some row) :
    ∃ front back, lexemes? before = some front ∧ lexemes? after = some back ∧
      row = front ++ ((numeralTokens value).map .token ++ back) := by
  have moved : before ++ groupValue value ++ after =
      before ++ ' ' :: (Text.signedDecimal value.toInt ++ ' ' :: after) := by
    simp [groupValue]
  rw [moved, lexemes?_append_space, lexemes?_append_space] at found
  obtain ⟨front, behind, front_found, behind_found, rfl⟩ := append?_eq_some_iff.mp found
  obtain ⟨numeral, back, numeral_found, back_found, rfl⟩ := append?_eq_some_iff.mp behind_found
  have fits : value.toInt ≠ -2 ^ 63 := by
    intro least
    have unread : lexemes? (Text.signedDecimal (-2 ^ 63)) = none := by decide +kernel
    rw [least, unread] at numeral_found
    contradiction
  have tokens := lexemes?_of_tokenize (Row.numeral value fits).tokenize_text
  obtain rfl := Option.some.inj (numeral_found.symm.trans tokens)
  exact ⟨front, back, front_found, back_found, rfl⟩

/-- A text with a value has lexemes that settle to tokens of this value. -/
theorem exists_settled_of_valueOf {text : Text} {value : Int64}
    (computed : valueOf text = .ok value) :
    ∃ row tokens, lexemes? text = some row ∧ Settled row tokens ∧
      valueOfTokens tokens = .ok value := by
  have flat {text : Text} {value : Int64} (computed : valueOfFlat text = .ok value) :
      ∃ tokens, lexemes? text = some (tokens.map .token) ∧ Settled (tokens.map .token) tokens ∧
        valueOfTokens tokens = .ok value := by
    rw [valueOfFlat] at computed
    split at computed
    · contradiction
    · next tokens read =>
        exact ⟨tokens, lexemes?_of_tokenize read, .of_tokens (spelled_of_tokenize read), computed⟩
  fun_induction valueOf text with
  | case1 text no_group =>
      obtain ⟨tokens, found, settled, valued⟩ := flat computed
      exact ⟨_, tokens, found, settled, valued⟩
  | case2 => contradiction
  | case3 text before inside after group group_value inside_computed induction =>
      obtain ⟨row, tokens, found, settled, valued⟩ := induction computed
      obtain ⟨inner, inner_found, inner_settled, inner_valued⟩ := flat inside_computed
      obtain ⟨front, back, front_found, back_found, split⟩ := lexemes?_groupValue found
      refine ⟨_, tokens, ?_, inner_settled.replace inner_valued settled split, valued⟩
      rw [eq_of_firstGroup? group, List.append_assoc, List.cons_append,
        lexemes?_append_parenthesis _ rfl, lexemes?_append_parenthesis _ rfl, front_found,
        inner_found, back_found]
      rfl

/-- A text is rejected as an invalid expression, or its lexemes are read as an expression that has
the value of the text. The lexemes are those of an expression of this value, as they are, exactly if
no group stands directly behind an operand. -/
theorem reduce_readFrom (text : Text) :
    (∃ reason, reduce text = .error (.invalidExpression (Text.trim text) reason)) ∨
      ∃ value row, reduce text = .ok value ∧ lexemes? text = some row ∧
        (∃ expression : Derivation ranks.length,
          expression.ReadFrom false row ∧ expression.value? = some value.toInt) ∧
        ((∃ expression : Derivation ranks.length,
          expression.lexemes = row ∧ expression.value? = some value.toInt) ↔ Separated row) := by
  rw [reduce]
  cases computed : valueOf text with
  | error reason => exact .inl ⟨reason, rfl⟩
  | ok value =>
      obtain ⟨row, tokens, found, settled, valued⟩ := exists_settled_of_valueOf computed
      obtain ⟨expression, reads, word⟩ :=
        exists_readFrom_of_valueOfTokens settled.grouped valued
      have same_value : expression.value? = some value.toInt := by
        rw [← expression.map_toInt_word?, word, Option.map_some]
      refine .inr ⟨value, row, rfl, found, ⟨expression, reads, same_value⟩, ?_, ?_⟩
      · rintro ⟨other, rfl, -⟩
        exact other.separated_lexemes
      · exact fun separated => ⟨expression, reads.lexemes_eq separated, same_value⟩

/-- A group of a negative value is taken for the subtraction of its opposite, though no expression
has these lexemes. -/
theorem reduce_group_behind_literal :
    (reduce "1 (-2)".toList).toOption = some (-1) ∧
      (∃ row, lexemes? "1 (-2)".toList = some row ∧
        ∀ expression : Derivation ranks.length, expression.lexemes ≠ row) ∧
      (reduce "1 (2)".toList).toOption = none := by
  refine ⟨by decide +kernel, ?_, by decide +kernel⟩
  have found : lexemes? "1 (-2)".toList = some [.token (.number 1), .opening,
      .token (.symbol .minus), .token (.number 2), .closing] := by
    decide +kernel
  refine ⟨_, found, fun expression same => ?_⟩
  have separated := expression.separated_lexemes
  rw [same] at separated
  exact absurd separated (by decide)

end GlslBuild.Condition
