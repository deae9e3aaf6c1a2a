import GlslBuild.Cache.Call
import Mathlib.Data.List.Perm.Basic

/-!
# Traces of calls

What the calls of a cache make and delete. An artifact of the native compiler is alive from the call
that makes it to the first call that deletes it.
-/

namespace GlslBuild

variable {Factory Native : Type}

namespace Call

/-- What a call makes, and as what. -/
def made? : Call Factory Native → Option (ArtifactKind × Native)
  | .compile stage _ output => output.artifact.map (.object stage, ·)
  | .link _ _ output => output.artifact.map (.program, ·)
  | _ => none

/-- The native artifact that a call deletes. -/
def deleted? : Call Factory Native → Option Native
  | .deleteObject native | .deleteProgram native => some native
  | _ => none

/-- A call that neither makes nor deletes anything. -/
def Idle (call : Call Factory Native) : Prop := call.made? = none ∧ call.deleted? = none

@[simp] theorem made?_source (factory : Factory) (source : Source) :
    (.source factory source : Call Factory Native).made? = none := rfl

@[simp] theorem deleted?_source (factory : Factory) (source : Source) :
    (.source factory source : Call Factory Native).deleted? = none := rfl

@[simp] theorem made?_compile (stage : Stage) (unit : CompilationUnit) (output : Output Native) :
    (.compile stage unit output : Call Factory Native).made? =
      output.artifact.map (.object stage, ·) := rfl

@[simp] theorem deleted?_compile (stage : Stage) (unit : CompilationUnit)
    (output : Output Native) :
    (.compile stage unit output : Call Factory Native).deleted? = none := rfl

@[simp] theorem made?_link (identifier : Text) (objects : List Native) (output : Output Native) :
    (.link identifier objects output : Call Factory Native).made? =
      output.artifact.map (.program, ·) := rfl

@[simp] theorem deleted?_link (identifier : Text) (objects : List Native)
    (output : Output Native) :
    (.link identifier objects output : Call Factory Native).deleted? = none := rfl

@[simp] theorem made?_delete (kind : ArtifactKind) (native : Native) :
    (delete kind native : Call Factory Native).made? = none := by
  cases kind <;> rfl

@[simp] theorem deleted?_delete (kind : ArtifactKind) (native : Native) :
    (delete kind native : Call Factory Native).deleted? = some native := by
  cases kind <;> rfl

end Call

namespace Trace

/-- Everything that calls make. -/
def made (calls : List (Call Factory Native)) : List (ArtifactKind × Native) :=
  calls.filterMap Call.made?

/-- The calls that delete something. -/
def deletions (calls : List (Call Factory Native)) : List (Call Factory Native) :=
  calls.filter fun call => call.deleted?.isSome

/-- The call that deletes what was made. -/
def deletionOf (entry : ArtifactKind × Native) : Call Factory Native :=
  Call.delete entry.1 entry.2

/-- The calls that would delete everything that calls make. -/
def undoing (calls : List (Call Factory Native)) : List (Call Factory Native) :=
  (made calls).map deletionOf

@[simp] theorem made_append (first second : List (Call Factory Native)) :
    made (first ++ second) = made first ++ made second :=
  List.filterMap_append

@[simp] theorem deletions_append (first second : List (Call Factory Native)) :
    deletions (first ++ second) = deletions first ++ deletions second :=
  List.filter_append ..

@[simp] theorem undoing_append (first second : List (Call Factory Native)) :
    undoing (first ++ second) = undoing first ++ undoing second := by
  rw [undoing, made_append, List.map_append, undoing, undoing]

theorem undoing_of_made? {call : Call Factory Native} {entry : ArtifactKind × Native}
    (made : call.made? = some entry) : undoing [call] = [deletionOf entry] := by
  simp [undoing, Trace.made, made]

theorem undoing_of_deleted? {call : Call Factory Native} (unmade : call.made? = none) :
    undoing [call] = [] := by
  simp [undoing, made, unmade]

theorem made_of_idle {calls : List (Call Factory Native)} (idle : ∀ call ∈ calls, call.Idle) :
    made calls = [] :=
  List.filterMap_eq_nil_iff.mpr fun call member => (idle call member).1

theorem deletions_of_idle {calls : List (Call Factory Native)}
    (idle : ∀ call ∈ calls, call.Idle) : deletions calls = [] := by
  apply List.filter_eq_nil_iff.mpr
  intro call member
  simp [(idle call member).2]

variable [DecidableEq Native]

/-- What is alive after one more call. -/
def track (alive : List (ArtifactKind × Native)) (call : Call Factory Native) :
    List (ArtifactKind × Native) :=
  match call.deleted? with
  | some native => alive.eraseP fun entry => entry.2 = native
  | none => alive ++ call.made?.toList

/-- What was made and not deleted since. -/
def live (calls : List (Call Factory Native)) : List (ArtifactKind × Native) :=
  calls.foldl track []

/-- Every call is legal after what is alive before it. -/
def Along (legal : List (ArtifactKind × Native) → Call Factory Native → Prop)
    (alive : List (ArtifactKind × Native)) : List (Call Factory Native) → Prop
  | [] => True
  | call :: rest => legal alive call ∧ Along legal (track alive call) rest

/-- Legality along a trace can be checked call by call. -/
instance decidableAlong (legal : List (ArtifactKind × Native) → Call Factory Native → Prop)
    [∀ alive call, Decidable (legal alive call)] :
    (alive : List (ArtifactKind × Native)) → (calls : List (Call Factory Native)) →
      Decidable (Along legal alive calls)
  | _, [] => .isTrue trivial
  | alive, call :: rest =>
      have := decidableAlong legal (track alive call) rest
      inferInstanceAs (Decidable (legal alive call ∧ Along legal (track alive call) rest))

/-- The call makes nothing that is alive already. -/
def MakesFresh (alive : List (ArtifactKind × Native)) (call : Call Factory Native) : Prop :=
  ∀ entry ∈ call.made?, entry.2 ∉ alive.map Prod.snd

/-- If the call deletes something, then this is alive, and the call is the one to delete it with. -/
def DeletesLive (alive : List (ArtifactKind × Native)) (call : Call Factory Native) : Prop :=
  ∀ native ∈ call.deleted?, ∃ entry ∈ alive, entry.2 = native ∧ call = deletionOf entry

/-- The native compiler never returns what is alive. -/
def Fresh (calls : List (Call Factory Native)) : Prop := Along MakesFresh [] calls

/-- Every deletion is of something that is alive, and as what it was made. -/
def Lawful (calls : List (Call Factory Native)) : Prop := Along DeletesLive [] calls

instance (calls : List (Call Factory Native)) : Decidable (Fresh calls) :=
  have (alive : List (ArtifactKind × Native)) (call : Call Factory Native) :
      Decidable (MakesFresh alive call) :=
    inferInstanceAs (Decidable (∀ entry ∈ call.made?, entry.2 ∉ alive.map Prod.snd))
  inferInstanceAs (Decidable (Along MakesFresh [] calls))

theorem live_concat (calls : List (Call Factory Native)) (call : Call Factory Native) :
    live (calls ++ [call]) = track (live calls) call := by
  simp [live]

theorem track_of_idle (alive : List (ArtifactKind × Native)) {call : Call Factory Native}
    (idle : call.Idle) : track alive call = alive := by
  simp [track, idle.1, idle.2]

theorem track_of_made? (alive : List (ArtifactKind × Native)) {call : Call Factory Native}
    {entry : ArtifactKind × Native} (made : call.made? = some entry)
    (undeleted : call.deleted? = none) : track alive call = alive ++ [entry] := by
  simp [track, made, undeleted]

/-- Deleting what stands once among what is alive leaves the rest. -/
theorem track_delete_perm {alive rest : List (ArtifactKind × Native)}
    {entry : ArtifactKind × Native} (perm : alive.Perm (entry :: rest))
    (nodup : (alive.map Prod.snd).Nodup) :
    (track alive (deletionOf entry : Call Factory Native)).Perm rest := by
  have apart : alive.Pairwise fun first second =>
      decide (first.2 = entry.2) = true → decide (second.2 = entry.2) = true → False := by
    refine (List.pairwise_map.mp nodup).imp ?_
    intro first second different first_same second_same
    exact different ((of_decide_eq_true first_same).trans (of_decide_eq_true second_same).symm)
  have erased := perm.eraseP _ apart
  rw [List.eraseP_cons_of_pos (by simp)] at erased
  simpa [track, deletionOf] using erased

theorem along_append {legal : List (ArtifactKind × Native) → Call Factory Native → Prop}
    (alive : List (ArtifactKind × Native)) (first second : List (Call Factory Native)) :
    Along legal alive (first ++ second) ↔
      Along legal alive first ∧ Along legal (first.foldl track alive) second := by
  induction first generalizing alive with
  | nil => simp [Along]
  | cons call rest induction => simp only [List.cons_append, Along, induction, List.foldl_cons,
      and_assoc]

theorem live_append_of_idle (calls : List (Call Factory Native))
    {more : List (Call Factory Native)} (idle : ∀ call ∈ more, call.Idle) :
    live (calls ++ more) = live calls := by
  induction more generalizing calls with
  | nil => rw [List.append_nil]
  | cons call rest induction =>
      have later := induction (calls ++ [call]) fun other member =>
        idle other (List.mem_cons_of_mem call member)
      rw [List.append_assoc, List.singleton_append] at later
      rw [later, live_concat, track_of_idle _ (idle call List.mem_cons_self)]

theorem Fresh.of_append {first second : List (Call Factory Native)}
    (fresh : Fresh (first ++ second)) : Fresh first :=
  ((along_append [] first second).mp fresh).1

theorem Fresh.last {calls : List (Call Factory Native)} {call : Call Factory Native}
    (fresh : Fresh (calls ++ [call])) {entry : ArtifactKind × Native}
    (made : call.made? = some entry) : entry.2 ∉ (live calls).map Prod.snd :=
  ((along_append [] calls [call]).mp fresh).2.1 entry made

/-- A trace stays fresh if the calls after it make nothing. -/
theorem Fresh.append_of_unmade {calls more : List (Call Factory Native)} (fresh : Fresh calls)
    (unmade : ∀ call ∈ more, call.made? = none) : Fresh (calls ++ more) := by
  induction more generalizing calls with
  | nil => rwa [List.append_nil]
  | cons call rest induction =>
      obtain ⟨first, later⟩ := List.forall_mem_cons.mp unmade
      have one : Fresh (calls ++ [call]) :=
        (along_append [] calls [call]).mpr ⟨fresh, by simp [MakesFresh, first], trivial⟩
      have all := induction one later
      rwa [List.append_assoc, List.singleton_append] at all

/-- A trace stays lawful if the calls after it delete nothing. -/
theorem Lawful.append_of_undeleted {calls more : List (Call Factory Native)}
    (lawful : Lawful calls) (undeleted : ∀ call ∈ more, call.deleted? = none) :
    Lawful (calls ++ more) := by
  induction more generalizing calls with
  | nil => rwa [List.append_nil]
  | cons call rest induction =>
      have one : Lawful (calls ++ [call]) := by
        refine (along_append [] calls [call]).mpr ⟨lawful, ?_, trivial⟩
        intro native deleted
        rw [undeleted call List.mem_cons_self] at deleted
        contradiction
      have all := induction one fun other member =>
        undeleted other (List.mem_cons_of_mem call member)
      rwa [List.append_assoc, List.singleton_append] at all

theorem Lawful.concat_deletion {calls : List (Call Factory Native)} (lawful : Lawful calls)
    {entry : ArtifactKind × Native} (alive : entry ∈ live calls) :
    Lawful (calls ++ [deletionOf entry]) := by
  refine (along_append [] calls _).mpr ⟨lawful, ?_, trivial⟩
  intro native deleted
  rw [deletionOf, Call.deleted?_delete, Option.mem_some_iff] at deleted
  exact ⟨entry, alive, deleted, rfl⟩

end Trace

end GlslBuild
