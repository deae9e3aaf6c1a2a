import GlslBuild.Proofs.Expansion.Arguments
import Mathlib.Data.List.Infix

/-!
# Reading arguments in place

The arguments of a call can be read in one loop over the characters of the whole text, which counts
open parentheses and keeps two byte positions: where it stands and where the current argument
begins. It reads the same arguments up to the same parenthesis, never lowers the count below zero
and never cuts the text inside of a character.
-/

namespace GlslBuild

/-! ## Byte positions -/

namespace Text

/-- The number of bytes of the text in UTF-8. -/
def byteLength : Text → Nat
  | [] => 0
  | char :: rest => char.utf8Size + byteLength rest

/-- What stands on either side of a byte position: none if it is inside of a character or beyond the
end. -/
def splitAt? (position : Nat) : Text → Option (Text × Text)
  | [] => if position = 0 then some ([], []) else none
  | char :: rest =>
      if position = 0 then some ([], char :: rest)
      else if char.utf8Size ≤ position then
        (splitAt? (position - char.utf8Size) rest).map fun (before, behind) =>
          (char :: before, behind)
      else none

/-- What stands between two byte positions. -/
def slice? (start stop : Nat) (text : Text) : Option Text :=
  if start ≤ stop then
    (splitAt? start text).bind fun sides => (splitAt? (stop - start) sides.2).map Prod.fst
  else none

@[simp] theorem byteLength_nil : byteLength [] = 0 := rfl

@[simp] theorem byteLength_cons (char : Char) (rest : Text) :
    byteLength (char :: rest) = char.utf8Size + byteLength rest := rfl

@[simp] theorem byteLength_append (first second : Text) :
    byteLength (first ++ second) = byteLength first + byteLength second := by
  induction first with
  | nil => simp
  | cons char first induction => simp [induction, Nat.add_assoc]

theorem splitAt?_byteLength (before behind : Text) :
    splitAt? (byteLength before) (before ++ behind) = some (before, behind) := by
  induction before with
  | nil => cases behind <;> simp [splitAt?]
  | cons char before induction =>
      have positive := char.utf8Size_pos
      rw [List.cons_append, splitAt?, byteLength_cons, if_neg (by omega), if_pos (by omega),
        Nat.add_sub_cancel_left, induction, Option.map_some]

theorem slice?_byteLength (before piece behind : Text) :
    slice? (byteLength before) (byteLength (before ++ piece)) (before ++ piece ++ behind) =
      some piece := by
  rw [slice?, byteLength_append, if_pos (Nat.le_add_right _ _), List.append_assoc,
    splitAt?_byteLength, Option.bind_some, Nat.add_sub_cancel_left, splitAt?_byteLength,
    Option.map_some]

end Text

namespace Arguments

/-! ## Commas outside parentheses -/

/-- The number of commas in front of which all parentheses are closed, those open at the start
included. -/
def outerCommasFrom (depth : Nat) (text : Text) : Nat :=
  text.inits.countP fun front =>
    front ++ [','] <+: text ∧ front.count ')' = depth + front.count '('

/-- The number of commas that no parentheses enclose. -/
def outerCommas (text : Text) : Nat := outerCommasFrom 0 text

theorem outerCommasFrom_cons {depth : Nat} {char : Char} (open_or_other : depth = 0 → char ≠ ')')
    (rest : Text) :
    outerCommasFrom depth (char :: rest) =
      outerCommasFrom (Text.depthBehind depth char) rest +
        if char = ',' ∧ depth = 0 then 1 else 0 := by
  rw [outerCommasFrom, List.inits_cons, List.countP_cons, List.countP_map, outerCommasFrom]
  congr 1
  · congr 1
    funext front
    have count := Text.depthBehind_add_count open_or_other front
    have same : (char :: front).count ')' = depth + (char :: front).count '(' ↔
        front.count ')' = Text.depthBehind depth char + front.count '(' := by omega
    simp only [Function.comp_apply, List.cons_append, List.prefix_cons_inj, same]
  · simp [@eq_comm _ ',' char, @eq_comm _ 0 depth]

/-- There is no such comma in a piece. -/
theorem outerCommasFrom_append {depth : Nat} {first : Text} (piece : PieceFrom depth first)
    (rest : Text) : outerCommasFrom depth (first ++ rest) = outerCommas rest := by
  induction first generalizing depth with
  | nil =>
      obtain rfl := pieceFrom_nil_iff.mp piece
      rfl
  | cons char first induction =>
      obtain ⟨inside, behind⟩ := pieceFrom_cons_iff.mp piece
      rw [List.cons_append, outerCommasFrom_cons fun closed => (inside closed).1, induction behind,
        if_neg fun ends => (inside ends.2).2 ends.1, Nat.add_zero]

/-- There is one piece more than such commas. -/
theorem Pieces.length_eq {inner : Text} {pieces : Arguments} (list : Pieces inner pieces) :
    pieces.length = outerCommas inner + 1 := by
  obtain ⟨ne_nil, each, rfl⟩ := list
  induction pieces with
  | nil => contradiction
  | cons first others induction =>
      obtain ⟨first_piece, other_pieces⟩ := List.forall_mem_cons.mp each
      cases others with
      | nil =>
          have none_inside := outerCommasFrom_append first_piece []
          rw [List.append_nil] at none_inside
          rw [List.intercalate_singleton, outerCommas, none_inside]
          rfl
      | cons next others =>
          have behind := induction (List.cons_ne_nil next others) other_pieces
          rw [List.intercalate_cons_cons, List.append_assoc, outerCommas,
            outerCommasFrom_append first_piece, List.singleton_append, outerCommas,
            outerCommasFrom_cons (by decide), List.length_cons, behind]
          rfl

/-! ## The reader -/

/-- What a loop over a text may not do. -/
inductive Fault where
  /-- Lower a count of zero. -/
  | underflow
  /-- Cut a text inside of a character or beyond its end. -/
  | cut
  deriving DecidableEq

/-- Where the reader of a list stands, where the current argument begins, the number of parentheses
that are open inside of the list, and the arguments so far. Positions are counted in bytes. -/
structure Reader where
  position : Nat
  start : Nat
  depth : Nat
  arguments : Arguments

/-- What one character comes to: the reader goes on, or the list is closed and what follows it
begins at a position. -/
inductive Outcome where
  | reading (reader : Reader)
  | closed (arguments : Arguments) (stop : Nat)

namespace Reader

/-- The argument that ends where the reader stands. -/
def argument (text : Text) (reader : Reader) : Except Fault Text :=
  match Text.slice? reader.start reader.position text with
  | none => .error .cut
  | some piece => .ok piece.trim

/-- One parenthesis fewer is open. -/
def lower (reader : Reader) : Except Fault Reader :=
  match reader.depth with
  | 0 => .error .underflow
  | depth + 1 => .ok { reader with depth }

/-- The reader behind a character. -/
def pass (char : Char) (reader : Reader) : Reader :=
  { reader with position := reader.position + char.utf8Size }

/-- Reads one character. -/
def step (text : Text) (char : Char) (reader : Reader) : Except Fault Outcome :=
  if char = '(' then .ok (.reading (pass char { reader with depth := reader.depth + 1 }))
  else if char = ')' ∧ reader.depth = 0 then
    (reader.argument text).map fun last =>
      .closed (reader.arguments ++ [last]) (reader.position + 1)
  else if char = ')' then reader.lower.map fun lowered => .reading (pass char lowered)
  else if char = ',' ∧ reader.depth = 0 then
    (reader.argument text).map fun next =>
      .reading (pass char { reader with
        start := reader.position + 1, arguments := reader.arguments ++ [next] })
  else .ok (.reading (pass char reader))

/-- Reads the characters ahead until the list is closed: the arguments and where the list ends, or
nothing if it is not closed. -/
def run (text : Text) (reader : Reader) : Text → Except Fault (Option (Arguments × Nat))
  | [] => .ok none
  | char :: ahead =>
      match reader.step text char with
      | .error fault => .error fault
      | .ok (.closed arguments stop) => .ok (some (arguments, stop))
      | .ok (.reading next) => run text next ahead

end Reader

/-- Reads the arguments of a call that stand from a position of a text on. -/
def readAt (text : Text) (start : Nat) : Except Fault (Option (Arguments × Nat)) :=
  match Text.splitAt? start text with
  | none => .error .cut
  | some (_, ahead) => Reader.run text ⟨start, start, 0, []⟩ ahead

namespace Reader

/-- The reader stands behind a piece of an argument. -/
structure Stands (text before piece ahead : Text) (reader : Reader) : Prop where
  text_eq : text = before ++ piece ++ ahead
  start_eq : reader.start = Text.byteLength before
  position_eq : reader.position = Text.byteLength (before ++ piece)

namespace Stands

variable {text before piece ahead : Text} {char : Char} {reader : Reader}

theorem argument_eq (stands : Stands text before piece ahead reader) :
    reader.argument text = .ok piece.trim := by
  rw [argument, stands.start_eq, stands.position_eq, stands.text_eq, Text.slice?_byteLength]

/-- A character inside of the list belongs to the current argument. -/
theorem step_of_isInside (stands : Stands text before piece (char :: ahead) reader)
    (inside : IsInside reader.depth char) :
    ∃ next, reader.step text char = .ok (.reading next) ∧
      Stands text before (piece ++ [char]) ahead next ∧
      next.depth = Text.depthBehind reader.depth char ∧ next.arguments = reader.arguments := by
  have moved {other : Reader} (start : other.start = reader.start)
      (position : other.position = reader.position) :
      Stands text before (piece ++ [char]) ahead (pass char other) :=
    ⟨by simp [stands.text_eq], start.trans stands.start_eq,
      by simp [pass, position, stands.position_eq, Nat.add_assoc]⟩
  by_cases opens : char = '('
  · subst opens
    exact ⟨pass '(' { reader with depth := reader.depth + 1 }, rfl, moved rfl rfl, rfl, rfl⟩
  by_cases closes : char = ')'
  · subst closes
    obtain ⟨position, start, depth, arguments⟩ := reader
    cases depth with
    | zero => exact absurd rfl (inside rfl).1
    | succ depth => exact ⟨_, rfl, moved rfl rfl, rfl, rfl⟩
  · have no_comma : ¬(char = ',' ∧ reader.depth = 0) := fun ends => (inside ends.2).2 ends.1
    refine ⟨pass char reader, ?_, moved rfl rfl, ?_, rfl⟩
    · rw [step, if_neg opens, if_neg fun ends => closes ends.1, if_neg closes, if_neg no_comma]
    · rw [Text.depthBehind, if_neg opens, if_neg closes]
      rfl

/-- A comma outside of parentheses ends an argument. -/
theorem step_comma (stands : Stands text before piece (',' :: ahead) reader)
    (outside : reader.depth = 0) :
    ∃ next, reader.step text ',' = .ok (.reading next) ∧
      Stands text (before ++ piece ++ [',']) [] ahead next ∧
      next.depth = 0 ∧ next.arguments = reader.arguments ++ [piece.trim] := by
  refine ⟨pass ',' { reader with
    start := reader.position + 1, arguments := reader.arguments ++ [piece.trim] }, ?_,
    ⟨?_, ?_, ?_⟩, outside, rfl⟩
  · simp [step, outside, stands.argument_eq, Except.map]
  · simp [stands.text_eq]
  · rw [Text.byteLength_append, ← stands.position_eq]
    rfl
  · rw [List.append_nil, Text.byteLength_append, ← stands.position_eq]
    rfl

/-- The parenthesis that closes the list ends the last argument. -/
theorem step_closing (stands : Stands text before piece (')' :: ahead) reader)
    (outside : reader.depth = 0) :
    reader.step text ')' = .ok (.closed (reader.arguments ++ [piece.trim])
      (Text.byteLength text - Text.byteLength ahead)) := by
  have stop : reader.position + 1 = Text.byteLength text - Text.byteLength ahead := by
    have size : Char.utf8Size ')' = 1 := rfl
    rw [stands.text_eq, Text.byteLength_append, ← stands.position_eq, Text.byteLength_cons, size]
    omega
  simp [step, outside, stands.argument_eq, Except.map, stop]

/-- The reader finds the pieces of the list, of which it has read the first one in part. -/
theorem run_eq (stands : Stands text before piece ahead reader) :
    reader.run text ahead =
      .ok ((split reader.depth ahead).map fun (pieces, after) =>
        (reader.arguments ++ (piece.foldr consChar pieces).map Text.trim,
          Text.byteLength text - Text.byteLength after)) := by
  -- What has been read of the current argument is still missing in front of the first piece ahead.
  induction ahead generalizing reader before piece with
  | nil => rfl
  | cons char ahead induction =>
      by_cases inside : IsInside reader.depth char
      · obtain ⟨next, stepped, next_stands, depth, arguments⟩ := stands.step_of_isInside inside
        rw [run, stepped]
        dsimp only
        rw [induction next_stands, depth, arguments, split_cons inside, Option.map_map]
        simp only [List.foldr_append]
        rfl
      · obtain ⟨outside, rfl | rfl⟩ := cases_of_not_isInside inside
        · rw [run, stands.step_closing outside, outside, split]
          dsimp only [Option.map_some]
          rw [foldr_consChar, List.append_nil]
          rfl
        · obtain ⟨next, stepped, next_stands, depth, arguments⟩ := stands.step_comma outside
          rw [run, stepped]
          dsimp only
          rw [induction next_stands, depth, arguments, outside, split, Option.map_map]
          congr 2
          funext found
          simp [foldr_consChar]

end Stands

end Reader

/-! ## Lists in a text -/

/-- Behind an opening parenthesis the reader finds nothing exactly if no parenthesis closes it.
Otherwise it ends just behind the one that does, and has read the trimmed pieces between the commas
that no further parentheses enclose. It never lowers a count of zero or cuts a character. -/
theorem readAt_behind_opening (front rest : Text) :
    let text := front ++ '(' :: rest
    let start := Text.byteLength (front ++ ['('])
    readAt text start = .ok ((read? rest).map fun (arguments, after) =>
        (arguments, Text.byteLength text - Text.byteLength after)) ∧
      (readAt text start = .ok none ↔ Text.Unclosed rest) ∧
      ∀ arguments stop, readAt text start = .ok (some (arguments, stop)) ↔
        ∃ inner after pieces, rest = inner ++ ')' :: after ∧ Text.Balanced inner ∧
          stop = Text.byteLength (front ++ '(' :: inner ++ [')']) ∧ Pieces inner pieces ∧
          (∀ piece ∈ pieces, Text.Balanced piece) ∧ pieces.length = outerCommas inner + 1 ∧
          arguments = pieces.map Text.trim := by
  intro text start
  have split : text = front ++ ['('] ++ rest := by simp [text]
  have read : readAt text start = .ok ((read? rest).map fun (arguments, after) =>
      (arguments, Text.byteLength text - Text.byteLength after)) := by
    have stands : Reader.Stands text (front ++ ['(']) [] rest ⟨start, start, 0, []⟩ :=
      ⟨by rw [List.append_nil, split], rfl, by rw [List.append_nil]⟩
    have found : Text.splitAt? start text = some (front ++ ['('], rest) := by
      rw [split]
      exact Text.splitAt?_byteLength _ _
    rw [readAt, found]
    dsimp only
    rw [stands.run_eq, read?, Option.map_map]
    rfl
  refine ⟨read, ?_, fun arguments stop => ?_⟩
  · rw [read, ← read?_eq_none_iff, Except.ok.injEq, Option.map_eq_none_iff]
  · -- What is left behind the list tells where the list ends.
    have stop_eq {inner after : Text} (closed : rest = inner ++ ')' :: after) :
        Text.byteLength text - Text.byteLength after =
          Text.byteLength (front ++ '(' :: inner ++ [')']) := by
      have whole : text = (front ++ '(' :: inner ++ [')']) ++ after := by simp [text, closed]
      rw [whole, Text.byteLength_append, Nat.add_sub_cancel_right]
    rw [read, Except.ok.injEq, Option.map_eq_some_iff]
    constructor
    · rintro ⟨⟨_, after⟩, found, pair⟩
      obtain ⟨rfl, rfl⟩ := Prod.mk.inj pair
      obtain ⟨inner, pieces, closed, list, rfl⟩ := read?_eq_some_iff.mp found
      exact ⟨inner, after, pieces, closed, list.balanced, stop_eq closed, list,
        fun piece member => (list.each piece member).toBalancedFrom, list.length_eq, rfl⟩
    · rintro ⟨inner, after, pieces, closed, -, rfl, list, -, -, rfl⟩
      exact ⟨⟨_, after⟩, read?_eq_some_iff.mpr ⟨inner, pieces, closed, list, rfl⟩,
        congrArg (Prod.mk _) (stop_eq closed)⟩

/-- Positions count bytes, and the text behind the list does not matter. -/
example : readAt "é(1, (2, é) , )) x".toList 3 =
    .ok (some (["1".toList, "(2, é)".toList, []], 17)) := by
  decide +kernel

end Arguments

end GlslBuild
