/-!
# Results that may be errors

What a result that is no error says about the steps that it comes from.
-/

namespace GlslBuild

variable {Error OtherError Item State : Type}

theorem exists_of_map_eq_ok {Result : Type} {function : Item → Result} {read : Except Error Item}
    {result : Result} (mapped : read.map function = .ok result) :
    ∃ item, read = .ok item ∧ function item = result := by
  cases read with
  | error error => contradiction
  | ok item => exact ⟨item, rfl, Except.ok.inj mapped⟩

theorem eq_ok_of_toOption {read : Except Error Item} {item : Item}
    (found : read.toOption = some item) : read = .ok item := by
  cases read with
  | error error => contradiction
  | ok other => exact congrArg Except.ok (Option.some.inj found)

theorem eq_ok_of_mapError_eq_ok {function : Error → OtherError} {read : Except Error Item}
    {item : Item} (mapped : read.mapError function = .ok item) : read = .ok item := by
  cases read with
  | error error => contradiction
  | ok other => exact congrArg _ (Except.ok.inj mapped)

/-- What every step keeps is kept by all steps together. -/
theorem holds_of_foldlM {holds : State → Prop} {items : List Item}
    {step : State → Item → Except Error State}
    (keeps : ∀ item ∈ items, ∀ state later, holds state → step state item = .ok later → holds later)
    {first last : State} (start : holds first) (folded : items.foldlM step first = .ok last) :
    holds last := by
  induction items generalizing first with
  | nil => exact Except.ok.inj folded ▸ start
  | cons item items induction =>
      rw [List.foldlM_cons] at folded
      cases stepped : step first item with
      | error error =>
          rw [stepped] at folded
          contradiction
      | ok later =>
          rw [stepped] at folded
          exact induction (fun other member => keeps other (List.mem_cons_of_mem item member))
            (keeps item List.mem_cons_self first later start stepped) folded

/-- The second result is the first one, unless the first one is an error of a certain kind. -/
def SameUnless (excused : Error → Prop) (first second : Except Error Item) : Prop :=
  second = first ∨ ∃ error, first = .error error ∧ excused error

namespace SameUnless

variable {Result : Type} {excused : Error → Prop} {first second : Except Error Item}

theorem refl (excused : Error → Prop) (result : Except Error Item) :
    SameUnless excused result result :=
  .inl rfl

theorem of_excused {error : Error} (excuse : excused error) :
    SameUnless excused (.error error) second :=
  .inr ⟨error, rfl, excuse⟩

theorem map (same : SameUnless excused first second) (function : Item → Result) :
    SameUnless excused (first.map function) (second.map function) := by
  obtain rfl | ⟨error, rfl, excuse⟩ := same
  · exact .refl ..
  · exact .of_excused excuse

theorem mapError {translate : Error → OtherError} {excusedThen : OtherError → Prop}
    (same : SameUnless excused first second)
    (translates : ∀ error, excused error → excusedThen (translate error)) :
    SameUnless excusedThen (first.mapError translate) (second.mapError translate) := by
  obtain rfl | ⟨error, rfl, excuse⟩ := same
  · exact .refl ..
  · exact .of_excused (translates error excuse)

theorem bind {next later : Item → Except Error Result} (same : SameUnless excused first second)
    (further : ∀ item, SameUnless excused (next item) (later item)) :
    SameUnless excused (first.bind next) (second.bind later) := by
  obtain rfl | ⟨error, rfl, excuse⟩ := same
  · cases second with
    | error error => exact .refl ..
    | ok item => exact further item
  · exact .of_excused excuse

theorem foldlM {step other : State → Item → Except Error State}
    (each : ∀ state item, SameUnless excused (step state item) (other state item))
    (items : List Item) (start : State) :
    SameUnless excused (items.foldlM step start) (items.foldlM other start) := by
  induction items generalizing start with
  | nil => exact .refl ..
  | cons item items induction =>
      rw [List.foldlM_cons, List.foldlM_cons]
      exact (each start item).bind induction

end SameUnless

end GlslBuild
