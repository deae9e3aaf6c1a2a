import GlslBuild.Proofs.Cache.Custody
import GlslBuild.Proofs.Cache.Opaque
import GlslBuild.Proofs.Cache.Step
import Mathlib.Data.List.Induction
import Mathlib.Data.Prod.Basic

/-!
# Numbering what is made

A native compiler may return the same artifact time and again, and then a trace does not tell which
of them a call means. So every session is also followed with numbers: each artifact carries the
number of calls before the one that made it. As caches do not look at artifacts, the session stays
the same, and with their numbers all artifacts differ.
-/

namespace GlslBuild

variable {Factory Native : Type}

/-- The toolchain that numbers what it makes by the calls before. -/
def Toolchain.numbered (toolchain : Toolchain Factory Native) :
    Toolchain Factory (ℕ × Native) where
  source calls factory := toolchain.source (calls.map (Call.map Prod.snd)) factory
  compile calls stage unit :=
    (toolchain.compile (calls.map (Call.map Prod.snd)) stage unit).map (calls.length, ·)
  link calls identifier objects :=
    (toolchain.link (calls.map (Call.map Prod.snd)) identifier (objects.map Prod.snd)).map
      (calls.length, ·)

/-- The workshop that numbers what it makes. -/
def Workshop.numbered (workshop : Workshop Factory Native) : Workshop Factory (ℕ × Native) :=
  ⟨workshop.library, workshop.toolchain.numbered, workshop.config⟩

theorem Output.map_snd (output : Output Native) (number : ℕ) :
    (output.map (number, ·)).map Prod.snd = output := by
  obtain ⟨artifact, log⟩ := output
  cases artifact <;> rfl

theorem Workshop.seen_numbered (workshop : Workshop Factory Native) :
    Seen Prod.snd workshop.numbered workshop := by
  refine ⟨rfl, rfl, fun _ _ => rfl, ?_, ?_⟩
  · intro calls stage unit
    exact (Output.map_snd _ calls.length).symm
  · intro calls identifier objects
    exact (Output.map_snd _ calls.length).symm

namespace Trace

/-- Whatever is made carries the number of calls before. -/
def Numbered (calls : List (Call Factory (ℕ × Native))) : Prop :=
  ∀ (position : ℕ) (call : Call Factory (ℕ × Native)), calls[position]? = some call →
    ∀ entry ∈ call.made?, entry.2.1 = position

theorem numbered_nil : Numbered ([] : List (Call Factory (ℕ × Native))) := by
  simp [Numbered]

theorem Numbered.of_append {calls more : List (Call Factory (ℕ × Native))}
    (numbered : Numbered (calls ++ more)) : Numbered calls := by
  intro position call found
  obtain ⟨bound, -⟩ := List.getElem?_eq_some_iff.mp found
  apply numbered position call
  rw [List.getElem?_append_left bound, found]

theorem Numbered.concat {calls : List (Call Factory (ℕ × Native))}
    (numbered : Numbered calls) {call : Call Factory (ℕ × Native)}
    (number_eq : ∀ entry ∈ call.made?, entry.2.1 = calls.length) : Numbered (calls ++ [call]) := by
  intro position other found
  rw [List.getElem?_append] at found
  split at found
  · exact numbered position other found
  · rw [List.getElem?_singleton] at found
    split at found
    · obtain rfl := Option.some.inj found
      rw [show position = calls.length by omega]
      exact number_eq
    · contradiction

theorem Numbered.append_of_unmade {calls more : List (Call Factory (ℕ × Native))}
    (numbered : Numbered calls) (unmade : ∀ call ∈ more, call.made? = none) :
    Numbered (calls ++ more) := by
  induction more generalizing calls with
  | nil => rwa [List.append_nil]
  | cons call rest induction =>
      obtain ⟨first, later⟩ := List.forall_mem_cons.mp unmade
      have one : Numbered (calls ++ [call]) := numbered.concat (by simp [first])
      have all := induction one later
      rwa [List.append_assoc, List.singleton_append] at all

variable [DecidableEq Native]

/-- What is alive was numbered before. -/
theorem Numbered.lt_of_live {calls : List (Call Factory (ℕ × Native))}
    (numbered : Numbered calls) {entry : ArtifactKind × ℕ × Native}
    (alive : entry ∈ live calls) : entry.2.1 < calls.length := by
  induction calls using List.reverseRecOn with
  | nil => simp [live] at alive
  | append_singleton calls call induction =>
      have earlier := induction numbered.of_append
      rw [live_concat, track] at alive
      rw [List.length_append, List.length_singleton]
      cases deleted : call.deleted? with
      | some native =>
          rw [deleted] at alive
          have before := earlier (List.mem_of_mem_eraseP alive)
          omega
      | none =>
          rw [deleted, List.mem_append, Option.mem_toList] at alive
          rcases alive with alive | made
          · have before := earlier alive
            omega
          · rw [numbered calls.length call (by simp) entry made]
            omega

/-- A numbered compiler never returns what is alive. -/
theorem Numbered.fresh {calls : List (Call Factory (ℕ × Native))} (numbered : Numbered calls) :
    Fresh calls := by
  induction calls using List.reverseRecOn with
  | nil => trivial
  | append_singleton calls call induction =>
      have before := numbered.of_append
      refine (along_append [] calls [call]).mpr ⟨induction before, ?_, trivial⟩
      intro entry made again
      obtain ⟨other, alive, same⟩ := List.mem_map.mp again
      have number_eq := numbered calls.length call (by simp) entry made
      have number_lt := before.lt_of_live alive
      rw [same] at number_lt
      omega

end Trace

namespace Cache

/-- What is stored with the number of the call that made it is numbered right. -/
theorem Step.numbered {workshop : Workshop Factory (ℕ × Native)}
    {toolchain : Toolchain Factory Native} (toolchain_eq : workshop.toolchain = toolchain.numbered)
    {asked : List Request} {careful : Prop} {cache next : Cache Factory (ℕ × Native)}
    (step : Step workshop asked careful cache next) (numbered : Trace.Numbered cache.calls) :
    Trace.Numbered next.calls := by
  cases step with
  | idle idle =>
      obtain ⟨calls, calls_eq, all_idle⟩ := idle.calls_eq
      rw [calls_eq]
      exact numbered.append_of_unmade fun call member => (all_idle call member).1
  | recount found positive artifacts_eq calls_eq => rwa [calls_eq]
  | take request obtained =>
      cases obtained with
      | hit found artifacts_eq calls_eq => rwa [calls_eq]
      | @compiled factory source unit output native absent provided assembled answer artifacts_eq
          calls_eq source_eq output_eq =>
          have read : Trace.Numbered (cache.calls ++ [.source factory source]) :=
            numbered.concat (by simp)
          rw [calls_eq, List.append_cons]
          apply read.concat
          rw [output_eq, toolchain_eq]
          simp [Toolchain.numbered, Output.map]
  | link request registered objects current absent output_eq answer artifacts_eq calls_eq =>
      rw [calls_eq]
      apply numbered.concat
      rw [output_eq, toolchain_eq]
      simp [Toolchain.numbered, Output.map]
  | destroy found free artifacts_eq calls_eq =>
      rw [calls_eq]
      exact numbered.concat (by simp)

theorem numbered_of_steps {workshop : Workshop Factory (ℕ × Native)}
    {toolchain : Toolchain Factory Native} (toolchain_eq : workshop.toolchain = toolchain.numbered)
    {asked : List Request} {careful : Prop} {cache next : Cache Factory (ℕ × Native)}
    (steps : Steps workshop asked careful cache next) (numbered : Trace.Numbered cache.calls) :
    Trace.Numbered next.calls := by
  induction steps with
  | refl => exact numbered
  | tail _ step induction => exact step.numbered toolchain_eq induction

end Cache

namespace Session

variable [DecidableEq Native]

/-- The numbered session is the other one, with the number of its call on everything that is
made. -/
structure Numbers (numbered : Session Factory (ℕ × Native)) (session : Session Factory Native) :
    Prop where
  seen : Seen Prod.snd numbered session
  calls_numbered : Trace.Numbered numbered.cache.calls

theorem numbered_run (workshop : Workshop Factory Native)
    (lifted : List (Action Factory (ℕ × Native))) :
    Trace.Numbered ((start workshop.numbered).run lifted).cache.calls := by
  let session := (start workshop.numbered).run lifted
  have grows := grows_run (start workshop.numbered) lifted
  have steps : Cache.Steps session.workshop session.asked False Cache.empty session.cache :=
    steps_run False.elim False.elim False.elim
  exact Cache.numbered_of_steps grows.toolchain_eq steps Trace.numbered_nil

/-- Every session can be followed with numbers. -/
theorem exists_numbers (workshop : Workshop Factory Native)
    (actions : List (Action Factory Native)) :
    ∃ lifted, lifted.map (Action.map Prod.snd) = actions ∧
      Numbers ((start workshop.numbered).run lifted) ((start workshop).run actions) := by
  have surjective : Function.Surjective (Prod.snd : ℕ × Native → Native) := Prod.snd_surjective
  obtain ⟨lifted, actions_eq, seen, -⟩ :=
    (seen_start workshop.seen_numbered).run surjective actions
  exact ⟨lifted, actions_eq, ⟨seen, numbered_run workshop lifted⟩⟩

end Session

end GlslBuild
