import GlslBuild.Item
import Mathlib.Data.List.DropRight
import Mathlib.Data.List.Infix

/-!
# Extents of directives

A directive takes the first lines that end it: the last of them does not end in a backslash, and no
block comment is open behind them. Without such lines it takes all that are left. So the lines that
it takes are determined, and they stay the same whatever follows them.
-/

namespace GlslBuild

namespace Text

theorem trimEnd_append_of_blank {blanks : Text} (blank : ∀ char ∈ blanks, isBlank char = true)
    (text : Text) : trimEnd (text ++ blanks) = trimEnd text := by
  have blank_reverse : ∀ char ∈ blanks.reverse, isBlank char = true :=
    fun char member => blank char (List.mem_reverse.mp member)
  rw [trimEnd, trimEnd, dropEndWhile, dropEndWhile, List.reverse_append,
    List.dropWhile_append_of_pos blank_reverse]

/-- Trailing carriage returns are white space. -/
theorem exists_eq_dropReturns_append (line : Text) :
    ∃ returns, (∀ char ∈ returns, isBlank char = true) ∧ line = dropReturns line ++ returns := by
  obtain ⟨returns, split, all⟩ := dropEndWhile_append (· == '\r') line
  refine ⟨returns, fun char member => ?_, split⟩
  rw [beq_iff_eq.mp (all char member)]
  decide

theorem trimEnd_dropReturns (line : Text) : trimEnd (dropReturns line) = trimEnd line := by
  obtain ⟨returns, blank, split⟩ := exists_eq_dropReturns_append line
  conv_rhs => rw [split, trimEnd_append_of_blank blank]

theorem dropReturns_dropReturns (line : Text) :
    dropReturns (dropReturns line) = dropReturns line := by
  rw [dropReturns, dropReturns, dropEndWhile, dropEndWhile, List.reverse_reverse,
    List.dropWhile_idempotent]

/-- Returns are dropped behind a space. -/
theorem dropReturns_append_space (lead rest : Text) :
    dropReturns (lead ++ ' ' :: rest) = lead ++ ' ' :: dropReturns rest := by
  rw [dropReturns, dropReturns, dropEndWhile, dropEndWhile, List.reverse_append, List.reverse_cons,
    List.append_assoc, List.dropWhile_append]
  split
  · next dropped =>
      rw [List.isEmpty_iff.mp dropped]
      simp
  · simp

end Text

namespace Item

/-! ## Directives over several lines -/

@[simp] theorem continued?_dropReturns (line : Text) :
    continued? (Text.dropReturns line) = continued? line := by
  rw [continued?, continued?, Text.trimEnd_dropReturns]

/-- What a line leaves in front of the line that it is joined with: the line break behind it goes
together with a backslash in front of it, and stays otherwise. -/
def joint (line : Text) : Text :=
  match continued? line with
  | some head => head
  | none => Text.dropReturns line ++ ['\n']

/-- Lines joined to one text. -/
def joined : List Text → Text
  | [] => []
  | [line] => (continued? line).getD (Text.dropReturns line)
  | line :: next :: rest => joint line ++ joined (next :: rest)

/-- Lines end a directive, behind what was joined before: the last one does not end in a backslash,
and no block comment is open behind them. -/
def Conclude (lead : Text) (lines : List Text) : Prop :=
  (∀ last ∈ lines.getLast?, continued? last = none) ∧
    Comment.leavesOpen false (lead ++ joined lines) = false

instance (lead : Text) (lines : List Text) : Decidable (Conclude lead lines) :=
  inferInstanceAs (Decidable ((∀ last ∈ lines.getLast?, continued? last = none) ∧
    Comment.leavesOpen false (lead ++ joined lines) = false))

/-- The lines that a directive takes of those ahead: the first ones that end it, or all of them if
there are none. -/
structure IsExtent (lead : Text) (taken ahead : List Text) : Prop where
  leading : taken <+: ahead
  ne_nil : taken ≠ []
  shortest : ∀ other, other <+: ahead → other ≠ [] → Conclude lead other →
    taken.length ≤ other.length
  ends : Conclude lead taken ∨ taken = ahead

theorem joined_cons {lines : List Text} (lines_ne_nil : lines ≠ []) (line : Text) :
    joined (line :: lines) = joint line ++ joined lines := by
  cases lines with
  | nil => contradiction
  | cons next rest => rw [joined]

theorem conclude_cons_iff {lead line : Text} {lines : List Text} (lines_ne_nil : lines ≠ []) :
    Conclude lead (line :: lines) ↔ Conclude (lead ++ joint line) lines := by
  rw [Conclude, Conclude, joined_cons lines_ne_nil, List.append_assoc, List.getLast?_cons,
    List.getLast?_eq_some_getLast lines_ne_nil, Option.getD_some]

theorem conclude_singleton_iff {lead line : Text} :
    Conclude lead [line] ↔ continued? line = none ∧
      Comment.leavesOpen false (lead ++ Text.dropReturns line) = false := by
  rw [Conclude, joined, List.getLast?_singleton]
  constructor
  · rintro ⟨last, closed⟩
    have ended := last line rfl
    rw [ended] at closed
    exact ⟨ended, closed⟩
  · rintro ⟨ended, closed⟩
    rw [ended]
    refine ⟨?_, closed⟩
    rintro _ ⟨⟩
    exact ended

namespace IsExtent

variable {lead line : Text} {taken other ahead rest : List Text}

/-- A line that ends the directive is all that it takes. -/
theorem of_conclude (concludes : Conclude lead [line]) (rest : List Text) :
    IsExtent lead [line] (line :: rest) where
  leading := ⟨rest, rfl⟩
  ne_nil := List.cons_ne_nil line []
  shortest _ _ other_ne_nil _ := List.length_pos_iff.mpr other_ne_nil
  ends := .inl concludes

/-- The last line ends the directive in any case. -/
theorem last (lead line : Text) : IsExtent lead [line] [line] where
  leading := List.prefix_rfl
  ne_nil := List.cons_ne_nil line []
  shortest _ _ other_ne_nil _ := List.length_pos_iff.mpr other_ne_nil
  ends := .inr rfl

/-- A line that does not end the directive is joined with those that the rest takes. -/
theorem cons (goes_on : ¬Conclude lead [line]) (extent : IsExtent (lead ++ joint line) taken rest) :
    IsExtent lead (line :: taken) (line :: rest) where
  leading := List.cons_prefix_cons.mpr ⟨rfl, extent.leading⟩
  ne_nil := List.cons_ne_nil line taken
  shortest other leads other_ne_nil concludes := by
    obtain ⟨first, behind, rfl⟩ := List.exists_cons_of_ne_nil other_ne_nil
    obtain ⟨rfl, behind_leads⟩ := List.cons_prefix_cons.mp leads
    have behind_ne_nil : behind ≠ [] := by
      rintro rfl
      exact goes_on concludes
    exact Nat.succ_le_succ (extent.shortest behind behind_leads behind_ne_nil
      ((conclude_cons_iff behind_ne_nil).mp concludes))
  ends := by
    rcases extent.ends with concludes | rfl
    · exact .inl ((conclude_cons_iff extent.ne_nil).mpr concludes)
    · exact .inr rfl

/-- A directive takes the same lines if more lines follow, unless it lacks its end. -/
theorem append (extent : IsExtent lead taken ahead) (concludes : Conclude lead taken)
    (more : List Text) : IsExtent lead taken (ahead ++ more) where
  leading := extent.leading.trans (List.prefix_append ahead more)
  ne_nil := extent.ne_nil
  shortest other leads other_ne_nil other_concludes := by
    by_contra longer
    have inside : other.length ≤ ahead.length :=
      Nat.le_trans (Nat.le_of_not_le longer) extent.leading.length_le
    have other_leads := List.prefix_of_prefix_length_le leads (List.prefix_append ahead more) inside
    exact longer (extent.shortest other other_leads other_ne_nil other_concludes)
  ends := .inl concludes

/-- The lines that a directive takes of others it takes of its own as well. -/
theorem alone (extent : IsExtent lead taken ahead) : IsExtent lead taken taken where
  leading := List.prefix_rfl
  ne_nil := extent.ne_nil
  shortest other leads := extent.shortest other (leads.trans extent.leading)
  ends := .inr rfl

theorem length_le (extent : IsExtent lead taken ahead) (same : IsExtent lead other ahead) :
    taken.length ≤ other.length := by
  rcases same.ends with concludes | rfl
  · exact extent.shortest other same.leading same.ne_nil concludes
  · exact extent.leading.length_le

/-- The lines that a directive takes are determined. -/
theorem unique (extent : IsExtent lead taken ahead) (same : IsExtent lead other ahead) :
    taken = other := by
  have leads := List.prefix_of_prefix_length_le extent.leading same.leading (extent.length_le same)
  exact leads.eq_of_length (Nat.le_antisymm (extent.length_le same) (same.length_le extent))

end IsExtent

theorem readLogical_nil (lead line : Text) :
    readLogical lead (Text.dropReturns line) [] = (lead ++ joined [line], []) := by
  cases ends : continued? line with
  | some head =>
      rw [readLogical.eq_1 _ _ head (by rw [continued?_dropReturns, ends]), joined, ends]
      rfl
  | none =>
      rw [readLogical.eq_2 _ _ (by rw [continued?_dropReturns, ends]), joined, ends]
      rfl

/-- Joining goes on with the next line unless the line at hand ends the directive. -/
theorem readLogical_cons (lead line next : Text) (rest : List Text) :
    readLogical lead (Text.dropReturns line) (next :: rest) =
      if Conclude lead [line] then (lead ++ joined [line], next :: rest)
      else readLogical (lead ++ joint line) (Text.dropReturns next) rest := by
  simp only [conclude_singleton_iff, joined, joint]
  cases ends : continued? line with
  | some head =>
      rw [readLogical.eq_3 _ _ next rest head (by rw [continued?_dropReturns, ends]),
        if_neg (by simp)]
  | none =>
      rw [readLogical.eq_4 _ _ next rest (by rw [continued?_dropReturns, ends]), List.append_assoc]
      cases Comment.leavesOpen false (lead ++ Text.dropReturns line) <;> simp

/-- Joining reads the lines that the directive takes. -/
theorem exists_isExtent (lead line : Text) (rest : List Text) :
    ∃ taken, IsExtent lead taken (line :: rest) ∧
      readLogical lead (Text.dropReturns line) rest =
        (lead ++ joined taken, (line :: rest).drop taken.length) := by
  induction rest generalizing lead line with
  | nil => exact ⟨[line], .last lead line, readLogical_nil lead line⟩
  | cons next rest induction =>
      rw [readLogical_cons]
      split
      · next concludes => exact ⟨[line], .of_conclude concludes (next :: rest), rfl⟩
      · next goes_on =>
          obtain ⟨taken, extent, read⟩ := induction (lead ++ joint line) next
          refine ⟨line :: taken, .cons goes_on extent, ?_⟩
          rw [read, joined_cons extent.ne_nil, List.append_assoc]
          rfl

/-- What is read of a directive follows from the lines that it takes. -/
theorem readLogical_of_isExtent {lead line : Text} {taken rest : List Text}
    (extent : IsExtent lead taken (line :: rest)) :
    readLogical lead (Text.dropReturns line) rest =
      (lead ++ joined taken, (line :: rest).drop taken.length) := by
  obtain ⟨other, same, read⟩ := exists_isExtent lead line rest
  rw [read, extent.unique same]

/-- Joining reads some of the lines, and these are the same ones if others are left behind them. -/
theorem exists_append_readLogical (lead line : Text) (rest : List Text) :
    ∃ read, rest = read ++ (readLogical lead (Text.dropReturns line) rest).2 ∧
      ∀ others, ((readLogical lead (Text.dropReturns line) rest).2 = [] → others = []) →
        readLogical lead (Text.dropReturns line) (read ++ others) =
          ((readLogical lead (Text.dropReturns line) rest).1, others) := by
  obtain ⟨taken, extent, joins⟩ := exists_isExtent lead line rest
  obtain ⟨first, read, rfl⟩ := List.exists_cons_of_ne_nil extent.ne_nil
  obtain ⟨rfl, leads⟩ := List.cons_prefix_cons.mp extent.leading
  rw [joins, List.length_cons, List.drop_succ_cons]
  refine ⟨read, (List.prefix_iff_eq_append.mp leads).symm, fun others none_left => ?_⟩
  have same : IsExtent lead (first :: read) (first :: (read ++ others)) := by
    rcases extent.ends with concludes | all
    · exact extent.alone.append concludes others
    · rw [none_left (by rw [(List.cons.inj all).2, List.drop_length]), List.append_nil]
      exact extent.alone
  rw [readLogical_of_isExtent same, List.length_cons, List.drop_succ_cons, List.drop_left]

end Item

end GlslBuild
