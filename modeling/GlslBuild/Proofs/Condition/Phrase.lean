import GlslBuild.Condition.Flat
import GlslBuild.Proofs.Condition.Arithmetic
import GlslBuild.Proofs.Result

/-!
# Reading phrases

A phrase is a condition without parentheses. Its tokens are read level by level, and its value is
computed on the way. Reading goes on only if an operator follows that belongs to the same phrase,
and stops at the first division by zero. All that is read without an error is a phrase, so the rows
of tokens that have a value are those of the phrases that have one.
-/

namespace GlslBuild.Condition

open BinaryOperator (ranks)

/-! ## Symbols of operators -/

/-- The symbol that stands for the operator in front of an operand. -/
def UnaryOperator.symbol : UnaryOperator → Symbol
  | .not => .bang
  | .complement => .tilde
  | .negate => .minus
  | .plus => .plus

@[simp] theorem UnaryOperator.text_symbol (operator : UnaryOperator) :
    operator.symbol.text = operator.word := by
  cases operator <;> rfl

@[simp] theorem UnaryOperator.unary?_symbol (operator : UnaryOperator) :
    operator.symbol.unary? = some operator := by
  cases operator <;> rfl

namespace BinaryOperator

/-- The symbol that stands for the operator after an operand. -/
def symbol : BinaryOperator → Symbol
  | .or => .barBar
  | .and => .ampAmp
  | .bitOr => .bar
  | .bitXor => .caret
  | .bitAnd => .amp
  | .equal => .equalEqual
  | .notEqual => .bangEqual
  | .less => .less
  | .greater => .greater
  | .lessEqual => .lessEqual
  | .greaterEqual => .greaterEqual
  | .shiftLeft => .lessLess
  | .shiftRight => .greaterGreater
  | .add => .plus
  | .subtract => .minus
  | .multiply => .star
  | .divide => .slash
  | .remainder => .percent

@[simp] theorem text_symbol (operator : BinaryOperator) : operator.symbol.text = operator.word := by
  cases operator <;> rfl

@[simp] theorem binary?_symbol (operator : BinaryOperator) :
    operator.symbol.binary? = some operator := by
  cases operator <;> rfl

/-- Levels are counted from the loosest operators, ranks from the tightest. -/
theorem level_add_of_mem_ranks {depth : Nat} {operator : BinaryOperator}
    (ranked : operator ∈ ranks.getD depth []) : operator.level + (depth + 1) = levelCount := by
  rcases Nat.lt_or_ge depth ranks.length with below | above
  · have all : ∀ depth < ranks.length, ∀ operator ∈ ranks.getD depth [],
        operator.level + (depth + 1) = levelCount := by decide
    exact all depth below operator ranked
  · rw [List.getD_eq_getElem?_getD, List.getElem?_eq_none above] at ranked
    contradiction

end BinaryOperator

/-! ## Chains of operators -/

/-- Every reading takes tokens away. -/
def Shortens (next : List Token → Reading) : Prop :=
  ∀ tokens value rest, next tokens = .ok (value, rest) → rest.length < tokens.length

theorem takeOperator?_eq_some {level : Nat} {tokens rest : List Token} {operator : BinaryOperator}
    (taken : takeOperator? level tokens = some (operator, rest)) :
    ∃ symbol, tokens = .symbol symbol :: rest ∧ symbol.binary? = some operator ∧
      operator.level = level := by
  unfold takeOperator? at taken
  split at taken
  · next symbol tail =>
      split at taken
      · next found named =>
          split at taken
          · next levelled =>
              cases taken
              exact ⟨symbol, rfl, named, levelled⟩
          · contradiction
      · contradiction
  · contradiction

theorem length_lt_of_takeOperator? {level : Nat} {tokens rest : List Token}
    {operator : BinaryOperator} (taken : takeOperator? level tokens = some (operator, rest)) :
    rest.length < tokens.length := by
  obtain ⟨symbol, rfl, -⟩ := takeOperator?_eq_some taken
  simp

theorem shortens_readOperand : Shortens readOperand := by
  intro tokens value rest read
  fun_induction readOperand tokens generalizing value with
  | case1 => contradiction
  | case2 number tail =>
      cases read
      simp
  | case3 => contradiction
  | case4 symbol tail operator named induction =>
      cases operand : readOperand tail with
      | error reason =>
          rw [operand] at read
          contradiction
      | ok reading =>
          rw [operand] at read
          cases read
          exact Nat.lt_succ_of_lt (induction _ operand)

theorem length_le_of_readChain {level : Nat} {next : List Token → Reading}
    (shortens : Shortens next) {steps : Nat} {left value : Int64} {tokens rest : List Token}
    (read : readChain level next steps left tokens = .ok (value, rest)) :
    rest.length ≤ tokens.length := by
  fun_induction readChain level next steps left tokens with
  | case1 =>
      cases read
      exact Nat.le_refl _
  | case2 =>
      cases read
      exact Nat.le_refl _
  | case3 => contradiction
  | case4 => contradiction
  | case5 steps left tokens operator tail taken right after next_read result applied induction =>
      have first := length_lt_of_takeOperator? taken
      have second := shortens _ _ _ next_read
      have third := induction read
      omega

theorem shortens_readLevel (depth : Nat) : Shortens (readLevel depth) := by
  induction depth with
  | zero => exact shortens_readOperand
  | succ depth induction =>
      intro tokens value rest read
      rw [readLevel] at read
      split at read
      · contradiction
      · next left tail first =>
          have operand := induction _ _ _ first
          have chain := length_le_of_readChain induction read
          omega

/-- Further steps do not matter once there is one for every token. -/
theorem readChain_congr {level : Nat} {next : List Token → Reading} (shortens : Shortens next)
    {steps more : Nat} (left : Int64) {tokens : List Token} (enough : tokens.length ≤ steps)
    (more_enough : tokens.length ≤ more) :
    readChain level next steps left tokens = readChain level next more left tokens := by
  induction steps generalizing more left tokens with
  | zero =>
      obtain rfl := List.length_eq_zero_iff.mp (Nat.le_zero.mp enough)
      cases more <;> rfl
  | succ steps induction =>
      cases more with
      | zero =>
          obtain rfl := List.length_eq_zero_iff.mp (Nat.le_zero.mp more_enough)
          rfl
      | succ more =>
          rw [readChain, readChain]
          split
          · rfl
          · next operator tail taken =>
              have first := length_lt_of_takeOperator? taken
              split
              · rfl
              · next right after read =>
                  have second := shortens _ _ _ read
                  split
                  · rfl
                  · exact induction _ (by omega) (by omega)

/-! ## Reading on from an operand -/

/-- Goes on from a value as reading at a depth does after the first operand. -/
def resume : Nat → Int64 → List Token → Reading
  | 0, value, tokens => .ok (value, tokens)
  | depth + 1, value, tokens =>
      readChain (levelCount - (depth + 1)) (readLevel depth) tokens.length value tokens

/-- The binary operator that tokens begin with. -/
def leading? : List Token → Option BinaryOperator
  | .symbol symbol :: _ => symbol.binary?
  | _ => none

/-- The tokens begin with no operator that binds tighter than those at a depth. -/
def Loose (depth : Nat) (tokens : List Token) : Prop :=
  ∀ operator ∈ leading? tokens, operator.level + depth ≤ levelCount

theorem Loose.of_succ {depth : Nat} {tokens : List Token} (loose : Loose (depth + 1) tokens) :
    Loose depth tokens :=
  fun operator leads => Nat.le_of_succ_le (loose operator leads)

theorem takeOperator?_eq_none {level : Nat} {tokens : List Token}
    (other : ∀ operator ∈ leading? tokens, operator.level ≠ level) :
    takeOperator? level tokens = none := by
  cases taken : takeOperator? level tokens with
  | none => rfl
  | some pair =>
      obtain ⟨symbol, rfl, named, levelled⟩ := takeOperator?_eq_some taken
      exact absurd levelled (other _ named)

/-- Reading stops where an operator follows that is looser than all those at the depth. -/
theorem resume_eq_ok {depth : Nat} {tokens : List Token} (value : Int64)
    (loose : Loose (depth + 1) tokens) : resume depth value tokens = .ok (value, tokens) := by
  cases depth with
  | zero => rfl
  | succ depth =>
      have none_taken : takeOperator? (levelCount - (depth + 1)) tokens = none := by
        apply takeOperator?_eq_none
        intro operator leads
        have bound := loose operator leads
        omega
      rw [resume]
      cases tokens with
      | nil => rfl
      | cons token tail => rw [List.length_cons, readChain, none_taken]

/-- Reading goes on through an operator of the depth. -/
theorem resume_symbol {depth : Nat} {operator : BinaryOperator}
    (ranked : operator ∈ ranks.getD depth []) (left : Int64) (tokens : List Token) :
    resume (depth + 1) left (.symbol operator.symbol :: tokens) =
      match readLevel depth tokens with
      | .error reason => .error reason
      | .ok (right, rest) =>
          match operator.apply left right with
          | none => .error .divisionByZero
          | some value => resume (depth + 1) value rest := by
  have level := BinaryOperator.level_add_of_mem_ranks ranked
  have taken : takeOperator? (levelCount - (depth + 1)) (.symbol operator.symbol :: tokens) =
      some (operator, tokens) := by
    simp only [takeOperator?, BinaryOperator.binary?_symbol]
    rw [if_pos (by omega)]
  rw [resume, List.length_cons, readChain, taken]
  cases read : readLevel depth tokens with
  | error reason => simp only [read]
  | ok reading =>
      obtain ⟨right, rest⟩ := reading
      have shorter := shortens_readLevel depth _ _ _ read
      simp only [read]
      cases operator.apply left right with
      | none => rfl
      | some value =>
          exact readChain_congr (shortens_readLevel depth) _ (Nat.le_of_lt shorter) (Nat.le_refl _)

/-! ## Phrases -/

/-- An expression without groups whose binary operators belong to the ranks below `depth`. At depth
zero it is a number behind unary operators. -/
inductive Phrase : Nat → Type where
  | number (value : Int64) : Phrase 0
  | unary (operator : UnaryOperator) (operand : Phrase 0) : Phrase 0
  /-- A single operand of the operators of a rank. -/
  | single {depth : Nat} (operand : Phrase depth) : Phrase (depth + 1)
  | binary {depth : Nat} (left : Phrase (depth + 1)) (operator : BinaryOperator)
      (ranked : operator ∈ ranks.getD depth []) (right : Phrase depth) : Phrase (depth + 1)

namespace Phrase

variable {depth : Nat}

/-- The tokens of the phrase. -/
def tokens {depth : Nat} : Phrase depth → List Token
  | .number value => [.number value]
  | .unary operator operand => .symbol operator.symbol :: operand.tokens
  | .single operand => operand.tokens
  | .binary left operator _ right => left.tokens ++ .symbol operator.symbol :: right.tokens

/-- The value of the phrase, all operands of which are evaluated: none if it has a division by
zero. -/
def value? {depth : Nat} : Phrase depth → Option Int
  | .number value => some value.toInt
  | .unary operator operand => operand.value?.map operator.meaning
  | .single operand => operand.value?
  | .binary left operator _ right =>
      left.value?.bind fun first => right.value?.bind fun second => operator.meaning? first second

/-- Some division or remainder in the phrase has the value zero to its right. -/
def DividesByZero {depth : Nat} : Phrase depth → Prop
  | .number _ => False
  | .unary _ operand => operand.DividesByZero
  | .single operand => operand.DividesByZero
  | .binary left operator _ right =>
      left.DividesByZero ∨ right.DividesByZero ∨ operator.Divides ∧ right.value? = some 0

/-- The word that the phrase is computed to, if it does not divide by zero. -/
def word? {depth : Nat} : Phrase depth → Option Int64
  | .number value => some value
  | .unary operator operand => operand.word?.map operator.apply
  | .single operand => operand.word?
  | .binary left operator _ right =>
      left.word?.bind fun first => right.word?.bind fun second => operator.apply first second

/-- A phrase has no value exactly if it divides by zero somewhere. -/
theorem value?_eq_none_iff (phrase : Phrase depth) :
    phrase.value? = none ↔ phrase.DividesByZero := by
  induction phrase with
  | number => simp [value?, DividesByZero]
  | unary operator operand induction => simp [value?, DividesByZero, induction]
  | single operand induction => exact induction
  | binary left operator ranked right left_induction right_induction =>
      rw [value?, DividesByZero, ← left_induction, ← right_induction]
      cases left.value? with
      | none => simp
      | some first =>
          cases right.value? with
          | none => simp
          | some second => simp [BinaryOperator.meaning?_eq_none_iff]

/-- Read as an integer, the word of a phrase is its value. -/
theorem map_toInt_word? (phrase : Phrase depth) :
    phrase.word?.map Int64.toInt = phrase.value? := by
  induction phrase with
  | number value => rfl
  | unary operator operand induction =>
      rw [word?, value?, ← induction, Option.map_map, Option.map_map]
      congr 1
      funext word
      exact operator.toInt_apply word
  | single operand induction => exact induction
  | binary left operator ranked right left_induction right_induction =>
      rw [word?, value?, ← left_induction, ← right_induction]
      cases left.word? with
      | none => rfl
      | some first =>
          cases right.word? with
          | none => rfl
          | some second => exact operator.map_toInt_apply first second

theorem word?_eq_some_iff {phrase : Phrase depth} {word : Int64} :
    phrase.word? = some word ↔ phrase.value? = some word.toInt := by
  rw [← map_toInt_word?]
  constructor
  · intro computed
    rw [computed, Option.map_some]
  · intro same
    obtain ⟨other, computed, equal⟩ := Option.map_eq_some_iff.mp same
    rw [computed, Int64.toInt_inj.mp equal]

theorem word?_eq_none_iff {phrase : Phrase depth} : phrase.word? = none ↔ phrase.DividesByZero := by
  rw [← value?_eq_none_iff, ← map_toInt_word?, Option.map_eq_none_iff]

theorem tokens_ne_nil (phrase : Phrase depth) : phrase.tokens ≠ [] := by
  induction phrase with
  | number => simp [tokens]
  | unary => simp [tokens]
  | single operand induction => exact induction
  | binary => simp [tokens]

/-- A phrase is read as its word, and reading goes on from there. -/
theorem readLevel_tokens_append (phrase : Phrase depth) {rest : List Token}
    (loose : Loose depth rest) :
    readLevel depth (phrase.tokens ++ rest) =
      match phrase.word? with
      | none => .error .divisionByZero
      | some value => resume depth value rest := by
  induction phrase generalizing rest with
  | number value => rfl
  | unary operator operand induction =>
      have behind := induction loose
      rw [readLevel] at behind
      simp only [tokens, List.cons_append, readLevel, readOperand, UnaryOperator.unary?_symbol,
        behind, word?]
      cases operand.word? <;> rfl
  | single operand induction =>
      rw [tokens, readLevel, induction loose.of_succ, word?]
      cases operand.word? with
      | none => rfl
      | some value =>
          simp only [resume_eq_ok value loose]
          rfl
  | @binary depth left operator ranked right left_induction right_induction =>
      -- Behind the left operand stands an operator of the same depth, at which reading resumes;
      -- behind the right operand reading stops and comes back to the chain.
      have level := BinaryOperator.level_add_of_mem_ranks ranked
      have follows : Loose (depth + 1) (.symbol operator.symbol :: (right.tokens ++ rest)) := by
        intro other leads
        obtain rfl : operator = other := by simpa [leading?] using leads
        exact Nat.le_of_eq level
      rw [tokens, List.append_assoc, List.cons_append, left_induction follows, word?]
      cases left.word? with
      | none => rfl
      | some first =>
          simp only [resume_symbol ranked, right_induction loose.of_succ]
          cases right.word? with
          | none => rfl
          | some second => simp only [resume_eq_ok second loose, Option.bind_some]

end Phrase

/-! ## All that is read is a phrase -/

theorem Symbol.eq_of_unary? {mark : Symbol} {operator : UnaryOperator}
    (named : mark.unary? = some operator) : mark = operator.symbol := by
  cases mark <;> cases named <;> rfl

theorem Symbol.eq_of_binary? {mark : Symbol} {operator : BinaryOperator}
    (named : mark.binary? = some operator) : mark = operator.symbol := by
  cases mark <;> cases named <;> rfl

theorem BinaryOperator.mem_ranks {depth : Nat} {operator : BinaryOperator}
    (level : operator.level + (depth + 1) = levelCount) : operator ∈ ranks.getD depth [] := by
  obtain rfl : depth = levelCount - 1 - operator.level := by omega
  cases operator <;> decide

/-- What a reading takes from tokens is a phrase, and the value is that of the phrase. -/
def ReadsPhrases (depth : Nat) (next : List Token → Reading) : Prop :=
  ∀ ⦃tokens value rest⦄, next tokens = .ok (value, rest) →
    ∃ phrase : Phrase depth, tokens = phrase.tokens ++ rest ∧ phrase.word? = some value

theorem readsPhrases_readOperand : ReadsPhrases 0 readOperand := by
  intro tokens value rest read
  fun_induction readOperand tokens generalizing value with
  | case1 => contradiction
  | case2 number tail =>
      cases read
      exact ⟨.number number, rfl, rfl⟩
  | case3 => contradiction
  | case4 symbol tail operator named induction =>
      obtain ⟨⟨operand_value, after⟩, operand_read, same⟩ := exists_of_map_eq_ok read
      cases same
      obtain ⟨operand, rfl, computed⟩ := induction operand_read
      refine ⟨.unary operator operand, ?_, ?_⟩
      · rw [Symbol.eq_of_unary? named, Phrase.tokens, List.cons_append]
      · rw [Phrase.word?, computed, Option.map_some]

/-- A chain of operators makes a longer phrase of the one that it goes on from. -/
theorem exists_phrase_of_readChain {depth : Nat} (bounded : depth < levelCount)
    {next : List Token → Reading} (reads : ReadsPhrases depth next) {steps : Nat}
    {left value : Int64} {tokens rest : List Token}
    (read : readChain (levelCount - (depth + 1)) next steps left tokens = .ok (value, rest))
    {first : Phrase (depth + 1)} (computed : first.word? = some left) :
    ∃ phrase : Phrase (depth + 1),
      first.tokens ++ tokens = phrase.tokens ++ rest ∧ phrase.word? = some value := by
  fun_induction readChain (levelCount - (depth + 1)) next steps left tokens generalizing first with
  | case1 =>
      cases read
      exact ⟨first, rfl, computed⟩
  | case2 =>
      cases read
      exact ⟨first, rfl, computed⟩
  | case3 => contradiction
  | case4 => contradiction
  | case5 steps left tokens operator tail taken right after next_read result applied induction =>
      obtain ⟨symbol, rfl, named, level⟩ := takeOperator?_eq_some taken
      obtain ⟨second, rfl, second_computed⟩ := reads next_read
      have ranked : operator ∈ ranks.getD depth [] := BinaryOperator.mem_ranks (by omega)
      have longer : (Phrase.binary first operator ranked second).word? = some result := by
        rw [Phrase.word?, computed, second_computed, Option.bind_some, Option.bind_some, applied]
      obtain ⟨phrase, split, phrase_computed⟩ := induction read longer
      refine ⟨phrase, ?_, phrase_computed⟩
      rw [← split, Symbol.eq_of_binary? named, Phrase.tokens, List.append_assoc, List.cons_append]

theorem readsPhrases_readLevel {depth : Nat} (bounded : depth ≤ levelCount) :
    ReadsPhrases depth (readLevel depth) := by
  induction depth with
  | zero => exact readsPhrases_readOperand
  | succ depth induction =>
      intro tokens value rest read
      have reads := induction (Nat.le_of_succ_le bounded)
      rw [readLevel] at read
      split at read
      · contradiction
      · next left tail first_read =>
          obtain ⟨first, rfl, computed⟩ := reads first_read
          have single_computed : (Phrase.single first).word? = some left := computed
          exact exists_phrase_of_readChain bounded reads read single_computed

/-! ## Rows of tokens that have a value -/

theorem readOperand_ne_emptyExpression (tokens : List Token) :
    readOperand tokens ≠ .error .emptyExpression := by
  fun_induction readOperand tokens with
  | case1 => exact nofun
  | case2 => exact nofun
  | case3 => exact nofun
  | case4 symbol tail operator named induction =>
      cases operand : readOperand tail with
      | ok reading => exact nofun
      | error reason =>
          rintro ⟨⟩
          exact induction operand

theorem readChain_ne_emptyExpression {next : List Token → Reading}
    (operands : ∀ tokens, next tokens ≠ .error .emptyExpression) (level steps : Nat) (left : Int64)
    (tokens : List Token) : readChain level next steps left tokens ≠ .error .emptyExpression := by
  fun_induction readChain level next steps left tokens with
  | case1 => exact nofun
  | case2 => exact nofun
  | case3 steps left tokens operator rest taken reason next_read =>
      rintro ⟨⟩
      exact operands rest next_read
  | case4 => exact nofun
  | case5 steps left tokens operator rest taken right after next_read value applied induction =>
      exact induction

/-- Reading itself never misses an expression: at the end of the tokens it misses an operand. -/
theorem readLevel_ne_emptyExpression (depth : Nat) (tokens : List Token) :
    readLevel depth tokens ≠ .error .emptyExpression := by
  induction depth generalizing tokens with
  | zero => exact readOperand_ne_emptyExpression tokens
  | succ depth induction =>
      rw [readLevel]
      cases first : readLevel depth tokens with
      | error reason =>
          rintro ⟨⟩
          exact induction tokens first
      | ok reading => exact readChain_ne_emptyExpression induction _ _ reading.1 reading.2

theorem valueOfTokens_eq_emptyExpression_iff {tokens : List Token} :
    valueOfTokens tokens = .error .emptyExpression ↔ tokens = [] := by
  rw [valueOfTokens, ← List.isEmpty_iff]
  split
  · next empty => simp [empty]
  · next some_tokens =>
      have missed := readLevel_ne_emptyExpression levelCount tokens
      split
      · next reason failed =>
          rw [failed] at missed
          simp_all
      · simp [some_tokens]
      · simp [some_tokens]

namespace Phrase

/-- The tokens of a whole phrase come to its word. -/
theorem valueOfTokens_tokens (phrase : Phrase ranks.length) :
    valueOfTokens phrase.tokens =
      match phrase.word? with
      | none => .error .divisionByZero
      | some value => .ok value := by
  have ends : Loose ranks.length [] := fun operator leads => by contradiction
  have read := phrase.readLevel_tokens_append ends
  have some_tokens : phrase.tokens.isEmpty = false :=
    List.isEmpty_eq_false_iff.mpr phrase.tokens_ne_nil
  rw [List.append_nil] at read
  simp only [valueOfTokens, some_tokens, Bool.false_eq_true, ↓reduceIte]
  rw [show levelCount = ranks.length from rfl, read]
  cases phrase.word? <;> rfl

end Phrase

theorem readLevel_eq_ok_iff {tokens : List Token} {value : Int64} :
    readLevel levelCount tokens = .ok (value, []) ↔
      ∃ phrase : Phrase ranks.length, phrase.tokens = tokens ∧ phrase.word? = some value := by
  constructor
  · intro read
    obtain ⟨phrase, split, computed⟩ := readsPhrases_readLevel (Nat.le_refl _) read
    rw [List.append_nil] at split
    exact ⟨phrase, split.symm, computed⟩
  · rintro ⟨phrase, rfl, computed⟩
    have ends : Loose ranks.length [] := fun operator leads => by contradiction
    have read := phrase.readLevel_tokens_append ends
    rw [List.append_nil, computed] at read
    exact read

theorem valueOfTokens_eq_ok_iff {tokens : List Token} {value : Int64} :
    valueOfTokens tokens = .ok value ↔
      ∃ phrase : Phrase ranks.length, phrase.tokens = tokens ∧ phrase.word? = some value := by
  rw [← readLevel_eq_ok_iff]
  constructor
  · intro computed
    rw [valueOfTokens] at computed
    split at computed
    · contradiction
    · split at computed
      · contradiction
      · next read =>
          cases computed
          exact read
      · contradiction
  · intro read
    obtain ⟨phrase, rfl, computed⟩ := readLevel_eq_ok_iff.mp read
    rw [phrase.valueOfTokens_tokens, computed]

/-- All tokens of a row are read and come to a value exactly if they are those of a phrase that
divides nowhere by zero, and it is the value of this phrase. Whoever finds several phrases in a row
finds the same value in them. All other rows fail, a phrase that divides by zero for this reason,
and only the row without tokens for want of an expression. -/
theorem values_of_phrases (tokens : List Token) :
    (∀ value, readLevel levelCount tokens = .ok (value, []) ↔
      ∃ phrase : Phrase ranks.length,
        phrase.tokens = tokens ∧ phrase.value? = some value.toInt) ∧
      (∀ value, valueOfTokens tokens = .ok value ↔
        ∃ phrase : Phrase ranks.length,
          phrase.tokens = tokens ∧ phrase.value? = some value.toInt) ∧
      (∀ phrase other : Phrase ranks.length,
        phrase.tokens = tokens → other.tokens = tokens → phrase.value? = other.value?) ∧
      ((∃ reason, valueOfTokens tokens = .error reason) ↔
        ∀ phrase : Phrase ranks.length, phrase.tokens = tokens → phrase.DividesByZero) ∧
      (∀ phrase : Phrase ranks.length, phrase.tokens = tokens → phrase.DividesByZero →
        valueOfTokens tokens = .error .divisionByZero) ∧
      (valueOfTokens tokens = .error .emptyExpression ↔ tokens = []) := by
  simp only [← Phrase.word?_eq_some_iff]
  refine ⟨fun value => readLevel_eq_ok_iff, fun value => valueOfTokens_eq_ok_iff, ?same, ?fails,
    ?zero, valueOfTokens_eq_emptyExpression_iff⟩
  case same =>
    rintro phrase other rfl same_tokens
    have computed := phrase.valueOfTokens_tokens
    rw [← same_tokens, other.valueOfTokens_tokens] at computed
    rw [← phrase.map_toInt_word?, ← other.map_toInt_word?]
    cases first : phrase.word? <;> cases second : other.word? <;> simp_all
  case fails =>
    constructor
    · rintro ⟨reason, failed⟩ phrase rfl
      rw [← Phrase.word?_eq_none_iff]
      rw [phrase.valueOfTokens_tokens] at failed
      cases computed : phrase.word? with
      | none => rfl
      | some value =>
          rw [computed] at failed
          contradiction
    · intro none_left
      cases computed : valueOfTokens tokens with
      | error reason => exact ⟨reason, rfl⟩
      | ok value =>
          obtain ⟨phrase, spelled, word⟩ := valueOfTokens_eq_ok_iff.mp computed
          have nothing := Phrase.word?_eq_none_iff.mpr (none_left phrase spelled)
          rw [word] at nothing
          contradiction
  case zero =>
    rintro phrase rfl divides
    rw [phrase.valueOfTokens_tokens, Phrase.word?_eq_none_iff.mpr divides]

end GlslBuild.Condition
