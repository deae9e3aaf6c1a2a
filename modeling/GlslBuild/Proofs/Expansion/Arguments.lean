import GlslBuild.Definition.Invocation

/-!
# Argument lists

The parenthesis that closes an argument list is the first one behind text in which parentheses
match. The arguments stand between the commas outside parentheses, so parentheses match in each of
them.
-/

namespace GlslBuild

namespace Text

/-- Parentheses match behind open ones: as many are closed as are opened and were open, and nowhere
more than that. -/
structure BalancedFrom (depth : Nat) (text : Text) : Prop where
  closed : text.count ')' = depth + text.count '('
  covered : ∀ front, front <+: text → front.count ')' ≤ depth + front.count '('

/-- Parentheses match. -/
def Balanced (text : Text) : Prop := BalancedFrom 0 text

/-- The number of open parentheses behind a character. -/
def depthBehind (depth : Nat) (char : Char) : Nat :=
  if char = '(' then depth + 1 else if char = ')' then depth - 1 else depth

/-- What is open behind the first character is what is still to be closed. -/
theorem depthBehind_add_count {depth : Nat} {char : Char} (open_or_other : depth = 0 → char ≠ ')')
    (front : Text) :
    depthBehind depth char + front.count '(' + (char :: front).count ')' =
      depth + (char :: front).count '(' + front.count ')' := by
  rw [List.count_cons, List.count_cons, depthBehind]
  split
  · next same =>
      subst same
      simp
      omega
  · split
    · next same =>
        subst same
        have positive : depth ≠ 0 := fun none_open => open_or_other none_open rfl
        simp
        omega
    · simp [*]

theorem balancedFrom_nil_iff {depth : Nat} : BalancedFrom depth [] ↔ depth = 0 := by
  constructor
  · intro balanced
    simpa using balanced.closed.symm
  · rintro rfl
    exact ⟨rfl, fun front leads => by simp [List.prefix_nil.mp leads]⟩

theorem balancedFrom_cons_iff {depth : Nat} {char : Char} {rest : Text} :
    BalancedFrom depth (char :: rest) ↔
      (depth = 0 → char ≠ ')') ∧ BalancedFrom (depthBehind depth char) rest := by
  constructor
  · rintro ⟨closed, covered⟩
    have open_or_other : depth = 0 → char ≠ ')' := by
      rintro rfl rfl
      have first := covered [')'] (by simp)
      simp at first
    refine ⟨open_or_other, ?_, fun front leads => ?_⟩
    · have count := depthBehind_add_count open_or_other rest
      omega
    · have count := depthBehind_add_count open_or_other front
      have here := covered (char :: front) ((List.prefix_cons_inj char).mpr leads)
      omega
  · rintro ⟨open_or_other, closed, covered⟩
    refine ⟨?_, fun front leads => ?_⟩
    · have count := depthBehind_add_count open_or_other rest
      omega
    · rcases List.prefix_cons_iff.mp leads with rfl | ⟨front, rfl, front_leads⟩
      · simp
      · have count := depthBehind_add_count open_or_other front
        have here := covered front front_leads
        omega

theorem BalancedFrom.append {depth : Nat} {first second : Text}
    (balanced : BalancedFrom depth first) (behind : Balanced second) :
    BalancedFrom depth (first ++ second) := by
  induction first generalizing depth with
  | nil =>
      obtain rfl := balancedFrom_nil_iff.mp balanced
      exact behind
  | cons char first induction =>
      obtain ⟨open_or_other, first_balanced⟩ := balancedFrom_cons_iff.mp balanced
      exact balancedFrom_cons_iff.mpr ⟨open_or_other, induction first_balanced⟩

/-- No parenthesis closes those that are open at the start and one more. -/
def UnclosedFrom (depth : Nat) (text : Text) : Prop :=
  ∀ inner after, text = inner ++ ')' :: after → ¬BalancedFrom depth inner

/-- No parenthesis closes one that stands in front of the text. -/
def Unclosed (text : Text) : Prop := UnclosedFrom 0 text

theorem unclosedFrom_cons_iff {depth : Nat} {char : Char} (open_or_other : depth = 0 → char ≠ ')')
    (rest : Text) :
    UnclosedFrom depth (char :: rest) ↔ UnclosedFrom (depthBehind depth char) rest := by
  constructor
  · intro unclosed inner after split balanced
    refine unclosed (char :: inner) after (by rw [split, List.cons_append]) ?_
    exact balancedFrom_cons_iff.mpr ⟨open_or_other, balanced⟩
  · intro unclosed inner after split balanced
    rcases List.cons_eq_append_iff.mp split with ⟨rfl, same⟩ | ⟨inner, rfl, rfl⟩
    · exact open_or_other (balancedFrom_nil_iff.mp balanced) (List.cons.inj same).1.symm
    · exact unclosed inner after rfl (balancedFrom_cons_iff.mp balanced).2

end Text

namespace Arguments

/-- A piece of a list of which more parentheses are open: it closes these, and its commas stand
inside parentheses. -/
structure PieceFrom (depth : Nat) (text : Text) : Prop extends Text.BalancedFrom depth text where
  inside : ∀ front rest, text = front ++ ',' :: rest → front.count ')' < depth + front.count '('

/-- The character neither closes the list nor ends a piece of it. -/
def IsInside (depth : Nat) (char : Char) : Prop := depth = 0 → char ≠ ')' ∧ char ≠ ','

theorem pieceFrom_nil_iff {depth : Nat} : PieceFrom depth [] ↔ depth = 0 :=
  ⟨fun piece => Text.balancedFrom_nil_iff.mp piece.toBalancedFrom,
    fun closed => ⟨Text.balancedFrom_nil_iff.mpr closed, by simp⟩⟩

theorem pieceFrom_cons_iff {depth : Nat} {char : Char} {rest : Text} :
    PieceFrom depth (char :: rest) ↔
      IsInside depth char ∧ PieceFrom (Text.depthBehind depth char) rest := by
  constructor
  · rintro ⟨balanced, inside⟩
    obtain ⟨open_or_other, rest_balanced⟩ := Text.balancedFrom_cons_iff.mp balanced
    refine ⟨fun closed => ⟨open_or_other closed, ?_⟩, rest_balanced, ?_⟩
    · rintro rfl
      have first := inside [] rest rfl
      simp [closed] at first
    · rintro front behind rfl
      have count := Text.depthBehind_add_count open_or_other front
      have here := inside (char :: front) behind rfl
      omega
  · rintro ⟨inside_list, rest_balanced, inside⟩
    have open_or_other : depth = 0 → char ≠ ')' := fun closed => (inside_list closed).1
    refine ⟨Text.balancedFrom_cons_iff.mpr ⟨open_or_other, rest_balanced⟩, ?_⟩
    intro front behind split
    rcases List.cons_eq_append_iff.mp split with ⟨rfl, same⟩ | ⟨front, rfl, rfl⟩
    · obtain ⟨rfl, -⟩ := List.cons.inj same
      have positive : depth ≠ 0 := fun closed => (inside_list closed).2 rfl
      simp
      omega
    · have count := Text.depthBehind_add_count open_or_other front
      have here := inside front behind rfl
      omega

/-- The pieces of a list of which more parentheses are open, of which there is at least one. -/
def PiecesFrom (depth : Nat) : Arguments → Prop
  | [] => False
  | first :: others => PieceFrom depth first ∧ ∀ piece ∈ others, PieceFrom 0 piece

/-! ## Splitting a list -/

theorem split_cons {depth : Nat} {char : Char} (inside : IsInside depth char) (rest : Text) :
    split depth (char :: rest) =
      (split (Text.depthBehind depth char) rest).map fun (pieces, after) =>
        (consChar char pieces, after) := by
  by_cases opens : char = '('
  · subst opens
    rw [split]
    rfl
  by_cases closes : char = ')'
  · subst closes
    cases depth with
    | zero => exact absurd rfl (inside rfl).1
    | succ depth =>
        rw [split]
        rfl
  have no_comma : depth = 0 → char = ',' → False := fun closed => (inside closed).2
  rw [split.eq_6 depth char rest opens (fun _ => closes) (fun _ _ => closes) no_comma,
    Text.depthBehind, if_neg opens, if_neg closes]

theorem cases_of_not_isInside {depth : Nat} {char : Char} (ends : ¬IsInside depth char) :
    depth = 0 ∧ (char = ')' ∨ char = ',') := by
  rw [IsInside, Classical.not_imp, Classical.not_and_iff_not_or_not, Classical.not_not,
    Classical.not_not] at ends
  exact ends

theorem foldr_consChar (first piece : Text) (pieces : Arguments) :
    first.foldr consChar (piece :: pieces) = (first ++ piece) :: pieces := by
  induction first with
  | nil => rfl
  | cons char first induction => rw [List.foldr_cons, induction, consChar, List.cons_append]

/-- A piece is read to its end. -/
theorem split_append {depth : Nat} {first : Text} (piece : PieceFrom depth first) (rest : Text) :
    split depth (first ++ rest) =
      (split 0 rest).map fun (pieces, after) => (first.foldr consChar pieces, after) := by
  induction first generalizing depth with
  | nil =>
      obtain rfl := pieceFrom_nil_iff.mp piece
      exact Option.map_id'.symm
  | cons char first induction =>
      obtain ⟨inside, behind⟩ := pieceFrom_cons_iff.mp piece
      rw [List.cons_append, split_cons inside, induction behind, Option.map_map]
      rfl

theorem split_of_pieces {depth : Nat} {pieces : Arguments} (list : PiecesFrom depth pieces)
    (after : Text) :
    split depth ([','].intercalate pieces ++ ')' :: after) = some (pieces, after) := by
  induction pieces generalizing depth with
  | nil => exact list.elim
  | cons first others induction =>
      obtain ⟨piece, other_pieces⟩ := list
      cases others with
      | nil =>
          rw [List.intercalate_singleton, split_append piece, split, Option.map_some]
          dsimp only
          rw [foldr_consChar, List.append_nil]
      | cons next others =>
          have behind := induction (List.forall_mem_cons.mp other_pieces)
          rw [List.intercalate_cons_cons, List.append_assoc, List.append_assoc,
            split_append piece, List.singleton_append, split, behind]
          dsimp only [Option.map_some]
          rw [foldr_consChar, List.append_nil]

theorem pieces_of_split {depth : Nat} {text after : Text} {pieces : Arguments}
    (read : split depth text = some (pieces, after)) :
    PiecesFrom depth pieces ∧ text = [','].intercalate pieces ++ ')' :: after := by
  induction text generalizing depth pieces with
  | nil => contradiction
  | cons char rest induction =>
      by_cases inside : IsInside depth char
      · rw [split_cons inside] at read
        obtain ⟨⟨behind, tail⟩, behind_read, pair⟩ := Option.map_eq_some_iff.mp read
        obtain ⟨rfl, rfl⟩ := Prod.mk.inj pair
        obtain ⟨list, rfl⟩ := induction behind_read
        cases behind with
        | nil => exact list.elim
        | cons first others =>
            refine ⟨⟨pieceFrom_cons_iff.mpr ⟨inside, list.1⟩, list.2⟩, ?_⟩
            rw [consChar, List.intercalate_cons_cons_left, List.cons_append]
      · have empty : PieceFrom 0 [] := pieceFrom_nil_iff.mpr rfl
        obtain ⟨rfl, rfl | rfl⟩ := cases_of_not_isInside inside
        · rw [split] at read
          obtain ⟨rfl, rfl⟩ := Prod.mk.inj (Option.some.inj read)
          exact ⟨⟨empty, by simp⟩, rfl⟩
        · rw [split] at read
          obtain ⟨⟨behind, tail⟩, behind_read, pair⟩ := Option.map_eq_some_iff.mp read
          obtain ⟨rfl, rfl⟩ := Prod.mk.inj pair
          obtain ⟨list, rfl⟩ := induction behind_read
          cases behind with
          | nil => exact list.elim
          | cons first others =>
              refine ⟨⟨empty, List.forall_mem_cons.mpr list⟩, ?_⟩
              rw [List.intercalate_cons_cons]
              rfl

theorem split_eq_none_iff {depth : Nat} {text : Text} :
    split depth text = none ↔ Text.UnclosedFrom depth text := by
  induction text generalizing depth with
  | nil =>
      refine ⟨fun _ inner after nothing => ?_, fun _ => by rw [split]⟩
      simp at nothing
  | cons char rest induction =>
      by_cases inside : IsInside depth char
      · rw [split_cons inside, Option.map_eq_none_iff, induction,
          Text.unclosedFrom_cons_iff fun closed => (inside closed).1]
      · obtain ⟨rfl, rfl | rfl⟩ := cases_of_not_isInside inside
        · rw [split]
          refine ⟨nofun, fun unclosed => ?_⟩
          exact absurd (Text.balancedFrom_nil_iff.mpr rfl) (unclosed [] rest rfl)
        · rw [split, Option.map_eq_none_iff, induction,
            Text.unclosedFrom_cons_iff (by decide)]
          rfl

/-! ## Reading the arguments of a call -/

/-- The pieces between the commas outside parentheses, of which there is at least one. -/
structure Pieces (inner : Text) (pieces : Arguments) : Prop where
  ne_nil : pieces ≠ []
  each : ∀ piece ∈ pieces, PieceFrom 0 piece
  joined : inner = [','].intercalate pieces

theorem piecesFrom_zero_iff {pieces : Arguments} :
    PiecesFrom 0 pieces ↔ pieces ≠ [] ∧ ∀ piece ∈ pieces, PieceFrom 0 piece := by
  cases pieces with
  | nil => simp [PiecesFrom]
  | cons first others => simp [PiecesFrom]

/-- Parentheses match in a list, as they do in its pieces. -/
theorem Pieces.balanced {inner : Text} {pieces : Arguments} (list : Pieces inner pieces) :
    Text.Balanced inner := by
  obtain ⟨ne_nil, each, rfl⟩ := list
  induction pieces with
  | nil => contradiction
  | cons first others induction =>
      obtain ⟨first_piece, other_pieces⟩ := List.forall_mem_cons.mp each
      cases others with
      | nil => exact List.intercalate_singleton ▸ first_piece.toBalancedFrom
      | cons next others =>
          have behind := induction (List.cons_ne_nil next others) other_pieces
          have comma : Text.Balanced (',' :: [','].intercalate (next :: others)) :=
            Text.balancedFrom_cons_iff.mpr ⟨fun _ => by decide, behind⟩
          rw [List.intercalate_cons_cons, List.append_assoc]
          exact first_piece.toBalancedFrom.append comma

theorem Pieces.subset {inner : Text} {pieces : Arguments} (list : Pieces inner pieces) :
    ∀ piece ∈ pieces, piece ⊆ inner := by
  rw [list.joined]
  intro piece member
  clear list
  induction pieces with
  | nil => contradiction
  | cons first others induction =>
      cases others with
      | nil =>
          obtain rfl := List.mem_singleton.mp member
          rw [List.intercalate_singleton]
          exact List.Subset.refl piece
      | cons next others =>
          rw [List.intercalate_cons_cons]
          rcases List.mem_cons.mp member with rfl | member
          · exact fun char inside => by simp [inside]
          · exact List.subset_append_of_subset_right _ (induction member)

theorem Pieces.split_eq {inner : Text} {pieces : Arguments} (list : Pieces inner pieces)
    (after : Text) : split 0 (inner ++ ')' :: after) = some (pieces, after) := by
  rw [list.joined]
  exact split_of_pieces (piecesFrom_zero_iff.mpr ⟨list.ne_nil, list.each⟩) after

/-- A text begins with one list at most. -/
theorem Pieces.unique {inner after other behind : Text} {pieces others : Arguments}
    (list : Pieces inner pieces) (other_list : Pieces other others)
    (same : inner ++ ')' :: after = other ++ ')' :: behind) :
    inner = other ∧ pieces = others ∧ after = behind := by
  have read := list.split_eq after
  rw [same, other_list.split_eq behind] at read
  obtain ⟨rfl, rfl⟩ := Prod.mk.inj (Option.some.inj read)
  exact ⟨List.append_cancel_right same, rfl, rfl⟩

theorem Pieces.not_unclosed {inner : Text} {pieces : Arguments} (list : Pieces inner pieces)
    (after : Text) : ¬Text.Unclosed (inner ++ ')' :: after) :=
  fun unclosed => unclosed inner after rfl list.balanced

theorem read?_eq_some_iff {text after : Text} {arguments : Arguments} :
    read? text = some (arguments, after) ↔
      ∃ inner pieces, text = inner ++ ')' :: after ∧ Pieces inner pieces ∧
        arguments = pieces.map Text.trim := by
  rw [read?, Option.map_eq_some_iff]
  constructor
  · rintro ⟨⟨pieces, behind⟩, read, pair⟩
    obtain ⟨rfl, rfl⟩ := Prod.mk.inj pair
    obtain ⟨list, split⟩ := pieces_of_split read
    obtain ⟨ne_nil, each⟩ := piecesFrom_zero_iff.mp list
    exact ⟨_, pieces, split, ⟨ne_nil, each, rfl⟩, rfl⟩
  · rintro ⟨inner, pieces, rfl, list, rfl⟩
    exact ⟨_, list.split_eq after, rfl⟩

theorem read?_eq_none_iff {text : Text} : read? text = none ↔ Text.Unclosed text := by
  rw [read?, Option.map_eq_none_iff, split_eq_none_iff, Text.Unclosed]

end Arguments

end GlslBuild
