import Switchboard.Session.Step
import Mathlib.Data.List.Nodup

namespace Switchboard

/-!
# Changes of a file

What is found at a path changes by steps; what stands in the way of a step is taken away with it.
Every step but a deletion sets a time stamp.  A stamp that has not been seen at the path before
tells a change from none; the laws about following a file rest on that, and on distinct contents
having distinct digests.  No digest of a fixed length keeps all contents apart, so the latter is
asked only of the contents that the file has had.

A check of the settings looks at the file several times, and the file may change between two looks.
-/

/-- A change of what is found at a path. -/
inductive FileStep where
  | write (stamp : Int) (content : List UInt8)
  | touch (stamp : Int)
  | delete
  | makeDirectory (stamp : Int)
deriving Repr, DecidableEq

namespace FileStep

/-- What is found after a change. Touching makes an empty file if nothing is there. -/
def apply : FileStep -> FileState -> FileState
  | write stamp content, _ => .file stamp content
  | touch stamp, .absent => .file stamp []
  | touch stamp, .directory _ => .directory stamp
  | touch stamp, .locked _ => .locked stamp
  | touch stamp, .file _ content => .file stamp content
  | delete, _ => .absent
  | makeDirectory stamp, _ => .directory stamp

/-- The time stamp that a change sets. -/
def stamp? : FileStep -> Option Int
  | write stamp _ => some stamp
  | touch stamp => some stamp
  | delete => none
  | makeDirectory stamp => some stamp

theorem stamp?_apply (step : FileStep) (file : FileState) :
    (step.apply file).stamp? = step.stamp? := by
  cases step <;> cases file <;> rfl

/-- The time stamps that changes set. -/
def stamps (steps : List FileStep) : List Int := steps.flatMap fun step => step.stamp?.toList

theorem stamps_append (before after : List FileStep) :
    stamps (before ++ after) = stamps before ++ stamps after :=
  List.flatMap_append

/-- What is found after a change that takes nothing away that stands in its way, if it can be
made. -/
def attempt : FileStep -> FileState -> Except FileFault FileState
  | write stamp content => FileState.write stamp content
  | touch stamp => FileState.touch stamp
  | delete => FileState.remove
  | makeDirectory stamp => FileState.makeDirectory stamp

theorem eq_apply_of_attempt (step : FileStep) {file state : FileState}
    (made : step.attempt file = .ok state) : state = step.apply file := by
  cases step <;> cases file <;> cases made <;> rfl

/-- The step of a session that makes a change at a path. -/
def action (path : Text) : FileStep -> Session.Action
  | write stamp content => .write path content (some stamp)
  | touch stamp => .touch path (some stamp)
  | delete => .delete path
  | makeDirectory stamp => .makeDirectory path (some stamp)

end FileStep

namespace Files

theorem get_put (files : Files) (path : Path) (state : FileState) :
    (files.put path state).get path = state := by
  induction files with
  | nil =>
      rw [put, get, List.lookup_cons_self]
      rfl
  | cons entry rest ih =>
      rcases entry with ⟨key, old⟩
      rw [put]
      split
      · rename_i same
        rw [same, get, List.lookup_cons_self]
        rfl
      · rename_i different
        have other : (path == key) = false := beq_false_of_ne (Ne.symm different)
        rw [get] at ih ⊢
        rw [List.lookup_cons, other]
        exact ih

end Files

namespace Session

theorem get_change {session : Session} {text : Text} {path : Path}
    {how : FileState -> Except FileFault FileState} (located : session.locate text = .ok path)
    (done : (session.change text how).reply = .ok .done) :
    how (session.files.get (session.around.resolve path)) =
      .ok ((session.change text how).session.files.get (session.around.resolve path)) := by
  rw [change, located] at done ⊢
  simp only at done ⊢
  cases made : how (session.files.get (session.around.resolve path)) with
  | error fault =>
      rw [made] at done
      cases done
  | ok state => exact congrArg Except.ok (Files.get_put _ _ _).symm

/-- A session changes its files in the same way, if it does: it does not write to a directory or
remove it, and makes no directory in the place of a file. -/
theorem get_perform_action [CharacterNames] [DocumentReader] {session : Session} {text : Text}
    {path : Path} (located : session.locate text = .ok path) (step : FileStep)
    (done : (session.perform (step.action text)).reply = .ok .done) :
    (session.perform (step.action text)).session.files.get (session.around.resolve path) =
      step.apply (session.files.get (session.around.resolve path)) := by
  have same : session.perform (step.action text) = session.change text step.attempt := by
    cases step <;> rfl
  rw [same] at done ⊢
  exact step.eq_apply_of_attempt (get_change located done)

end Session

namespace FileState

theorem stamp?_isSome_of_content? {file : FileState} {content : List UInt8}
    (here : file.content? = some content) : file.stamp?.isSome = true := by
  cases file with
  | file stamp bytes => rfl
  | _ => cases here

/-- What is found after several changes. -/
def after (file : FileState) (steps : List FileStep) : FileState :=
  steps.foldl (fun file step => step.apply file) file

theorem after_append (file : FileState) (first second : List FileStep) :
    file.after (first ++ second) = (file.after first).after second :=
  List.foldl_append

/-- The contents that a file has before, between and after changes. -/
def contents (file : FileState) : List FileStep -> List (List UInt8)
  | [] => file.content?.toList
  | step :: steps => file.content?.toList ++ contents (step.apply file) steps

theorem mem_contents {file : FileState} {content : List UInt8} (steps : List FileStep)
    (here : file.content? = some content) : content ∈ file.contents steps := by
  cases steps with
  | nil => simp [contents, here]
  | cons step steps => simp [contents, here]

theorem contents_subset_append (file : FileState) (first second : List FileStep) :
    file.contents first ⊆ file.contents (first ++ second) := by
  induction first generalizing file with
  | nil =>
      intro content member
      exact mem_contents second (Option.mem_toList.mp member)
  | cons step steps ih =>
      intro content member
      rw [contents, List.mem_append] at member
      rw [List.cons_append, contents, List.mem_append]
      exact member.imp_right fun later => ih (step.apply file) later

theorem contents_after_subset (file : FileState) (first second : List FileStep) :
    (file.after first).contents second ⊆ file.contents (first ++ second) := by
  induction first generalizing file with
  | nil => exact List.Subset.refl _
  | cons step steps ih =>
      intro content member
      rw [List.cons_append, contents]
      exact List.mem_append_right _ (ih (step.apply file) member)

end FileState

/-- Every time stamp that changes set is a new one at the path. -/
def FreshStamps (file : FileState) (steps : List FileStep) : Prop :=
  (file.stamp?.toList ++ FileStep.stamps steps).Nodup

/-- Distinct contents in a list have distinct digests. -/
def DistinctDigests (contents : List (List UInt8)) : Prop :=
  forall first, first ∈ contents -> forall second, second ∈ contents ->
    Digest.ofBytes first = Digest.ofBytes second -> first = second

instance (file : FileState) (steps : List FileStep) : Decidable (FreshStamps file steps) :=
  inferInstanceAs (Decidable (List.Nodup _))

/-- One list of distinct digests does for all contents in it. -/
theorem distinctDigests_of_nodup {pool contents : List (List UInt8)}
    (nodup : (pool.map Digest.ofBytes).Nodup) (within : contents ⊆ pool) :
    DistinctDigests contents := by
  intro first memberFirst second memberSecond same
  exact List.inj_on_of_nodup_map nodup (within memberFirst) (within memberSecond) same

/-- Changes of a file between the four looks of a check. -/
structure Interruption where
  beforeDigest : List FileStep := []
  beforePresence : List FileStep := []
  beforeSettings : List FileStep := []
deriving Repr, DecidableEq

namespace Interruption

/-- All changes in order. -/
def all (changes : Interruption) : List FileStep :=
  changes.beforeDigest ++ (changes.beforePresence ++ changes.beforeSettings)

/-- What the looks find. -/
def looks (changes : Interruption) (file : FileState) : Looks :=
  let digested := file.after changes.beforeDigest
  let found := digested.after changes.beforePresence
  ⟨file, digested, found, found.after changes.beforeSettings⟩

end Interruption
end Switchboard
