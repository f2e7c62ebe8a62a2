import Switchboard.Proofs.Foretelling
import Switchboard.Proofs.Hosting
import Switchboard.Proofs.Naming
import Switchboard.Session.Step

namespace Switchboard

open Text

/-!
# The path of the settings found again

The path of the settings is handed on.  A hook has the fingerprint taken there and the settings
loaded from there; a reloader follows it, and has the settings loaded from there whenever they have
changed.  Each of these parts is handed the text of the path and finds the path for itself: the text
is read, a home directory takes the place of a tilde in front, and for loading the environment
would give another path if the text were empty.

None of that changes a path that has been found, if the home directories are ones from the root.
Then the path is one from the root too, or its first name has no tilde in front.  Such a path is
read from its own text, and it stays as it is whatever the home directories and the environment are
by then.  It does not matter that a tilde may come to the front only when single dots before it are
left out: it does so when the path is found first.

So all parts use one path, and the one that the command shows is the same.  The steps in which a
session takes a fingerprint or begins a watcher are such parts.
-/

namespace Path

/-! ## Paths that stay as they are -/

/-- A path whose first name has a tilde in front. -/
def IsTilded (path : Path) : Prop :=
  path.start = .here ∧ Exists fun user : Text => path.names.head? = some ('~' :: user)

theorem expandHome_of_not_isTilded {path : Path} (plain : ¬ path.IsTilded) (home : Path)
    (others : Text -> Option Path) : path.expandHome home others = .ok path := by
  rw [expandHome]
  split
  · rename_i user names begun named
    exact absurd ⟨begun, user, congrArg List.head? named⟩ plain
  · rfl

/-- A path that is read from its own text and that no home directory changes. -/
structure IsSettled (path : Path) : Prop where
  normal : path.IsNormal
  plain : ¬ path.IsTilded

theorem IsSettled.expandHome_ofText_text {path : Path} (settled : path.IsSettled) (home : Path)
    (others : Text -> Option Path) : (ofText path.text).expandHome home others = .ok path := by
  rw [ofText_text settled.normal]
  exact expandHome_of_not_isTilded settled.plain home others

variable {path home other : Path} {others : Text -> Option Path}

/-- A path is as it was, or leads from a home directory on. -/
theorem of_expandHome (expanded : path.expandHome home others = .ok other) :
    ¬ path.IsTilded ∧ other = path ∨
      Exists fun base : Path =>
        (base = home ∨ Exists fun user : Text => others user = some base) ∧
          other = ⟨base.start, base.names ++ path.names.tail⟩ := by
  rw [expandHome] at expanded
  split at expanded
  · rename_i user names begun named
    split at expanded
    · rename_i base known
      injection expanded with same
      refine Or.inr ⟨base, ?_, by rw [named, ← same]; rfl⟩
      split at known
      · injection known with own
        exact Or.inl own.symm
      · exact Or.inr ⟨user, known⟩
    · cases expanded
  · rename_i bare
    injection expanded with same
    refine Or.inl ⟨?_, same.symm⟩
    rintro ⟨begun, user, named⟩
    rcases List.head?_eq_some_iff.mp named with ⟨rest, whole⟩
    exact bare user rest begun whole

/-- A path from the root, in its normal form. -/
structure IsRooted (path : Path) : Prop where
  normal : path.IsNormal
  rooted : path.start ≠ .here

/-- A path that leads on from a home directory from the root is settled. -/
theorem IsRooted.isSettled_append {base : Path} (rooted : base.IsRooted) (normal : path.IsNormal) :
    IsSettled ⟨base.start, base.names ++ path.names.tail⟩ := by
  -- Behind a root a tilde is part of a name and stands for nothing.
  refine ⟨⟨?_, ?_⟩, fun tilded => rooted.rooted tilded.1⟩
  · exact List.forall_mem_append.mpr ⟨rooted.normal.counted,
      fun name behind => normal.counted name (List.mem_of_mem_tail behind)⟩
  · exact List.forall_mem_append.mpr ⟨rooted.normal.whole,
      fun name behind => normal.whole name (List.mem_of_mem_tail behind)⟩

/-- Home directories from the root settle a path. -/
theorem isSettled_of_expandHome (normal : path.IsNormal) (own : home.IsRooted)
    (foreign : forall user base, others user = some base -> base.IsRooted)
    (expanded : path.expandHome home others = .ok other) : other.IsSettled := by
  rcases of_expandHome expanded with ⟨plain, same⟩ | ⟨base, same | ⟨user, known⟩, leads⟩
  · exact same ▸ ⟨normal, plain⟩
  · exact leads ▸ (same ▸ own).isSettled_append normal
  · exact leads ▸ (foreign user base known).isSettled_append normal

/-- A home directory that has a tilde in front itself settles nothing. -/
example :
    let home : Path := ofText (ofString "./~/a")
    (ofText (ofString "~")).expandHome home (fun _ => none) = .ok home ∧
      home.expandHome home (fun _ => none) = .ok (ofText (ofString "./~/a/a")) := by
  decide

end Path

namespace Surroundings

variable {around : Surroundings} {asked : Option Text} {path : Path}

/-- All home directories are paths from the root. -/
structure HasRootedHomes (around : Surroundings) : Prop where
  own : around.home.IsRooted
  others : forall user home, around.others user = some home -> home.IsRooted

/-- With home directories from the root, the path that a text gives is settled. -/
theorem isSettled_of_expand (homes : around.HasRootedHomes) {text : Text}
    (expanded : around.expand text = .ok path) : path.IsSettled :=
  Path.isSettled_of_expandHome (Path.isNormal_ofText text) homes.own homes.others expanded

/-- A settled path is what its text gives, whatever the surroundings are. -/
theorem expand_text (settled : path.IsSettled) (later : Surroundings) :
    later.expand path.text = .ok path :=
  settled.expandHome_ofText_text later.home later.others

/-- The fingerprint that is taken for the text of a path. -/
def fingerprint (around : Surroundings) (path : Text) : Except PathFault Fingerprint :=
  ((around.expand path).bind Path.ifPossible).map fun path => .ofState (around.find path)

theorem fingerprint_text (settled : path.IsSettled) (around : Surroundings) :
    around.fingerprint path.text =
      path.ifPossible.map fun path => .ofState (around.find path) := by
  rw [fingerprint, expand_text settled]
  rfl

end Surroundings

theorem Path.eq_of_ifPossible {path other : Path} (possible : path.ifPossible = .ok other) :
    other = path := by
  rw [ifPossible] at possible
  split at possible
  · injection possible with same
    exact same.symm
  · cases possible

namespace Reloader

/-- A reloader for the text of a path.  Without a baseline it has the fingerprint taken, for which
the path is found once more. -/
def following (around : Surroundings) (path : Text) (baseline : Option Fingerprint) :
    Except PathFault Reloader :=
  match around.expand path with
  | .error fault => .error fault
  | .ok path =>
      match baseline with
      | some memory => .ok ⟨path, around.resolve path, memory⟩
      | none =>
          (around.fingerprint path.text).map fun memory => ⟨path, around.resolve path, memory⟩

variable {path : Path}

/-- A reloader follows a path, which leads to a path from the root. -/
def IsOn (reloader : Reloader) (path resolved : Path) : Prop :=
  reloader.path = path ∧ reloader.resolved = resolved

end Reloader

namespace Hook

variable [CharacterNames] [DocumentReader]

variable {around : Surroundings} {asked : Option Text} {path : Path}

end Hook

namespace Hosted

/-! ## The reloaders of a hook -/

/-- A hook and all of its reloaders keep to one path. -/
structure KeepsTo (now : Hosted) (path resolved : Path) : Prop where
  hook : now.hook.path = some (path, resolved)
  baseline : now.hook.baseline.isSome = true
  watched : forall watcher, now.hook.watcher = some watcher -> watcher.reloader.IsOn path resolved
  dropped : forall entry, entry ∈ now.dropped -> entry.1.IsOn path resolved

end Hosted

/-- Polling leaves the path of a reloader as it is. -/
theorem Polled.isOn_perform [CharacterNames] [DocumentReader] {now : Polled} {path resolved : Path}
    (on : now.reloader.IsOn path resolved) (step : PollStep) :
    (now.perform step).reloader.IsOn path resolved := by
  rw [perform]
  cases step with
  | goOn place looks =>
      simp only [check?]
      split
      · exact ⟨(Reloader.path_check _ _).trans on.1, (Reloader.resolved_check _ _).trans on.2⟩
      · exact on
  | _ => exact on

namespace Hosted
namespace KeepsTo

variable {now : Hosted} {path resolved : Path}

/-- A watcher that is begun takes up the path and the baseline of the hook. -/
theorem reloader_of_begun? (keeps : now.KeepsTo path resolved) {file : FileState}
    {call : HookCall} {watcher : Watcher} (begun : now.hook.begun? file call = some watcher) :
    watcher.reloader = ⟨path, resolved, now.hook.baseline.getD (.ofState file)⟩ := by
  rcases Hook.of_begun? begun with ⟨_, _, found, led, located, taken⟩
  rw [keeps.hook] at located
  injection located with parts
  injection parts with same together
  rw [taken, same, together]

section

variable [CharacterNames] [DocumentReader]

theorem call (keeps : now.KeepsTo path resolved) (file : FileState) (call : HookCall) :
    (now.perform (.call file call)).KeepsTo path resolved := by
  rw [Hosted.perform, Hook.hook_call_eq]
  refine ⟨keeps.hook, keeps.baseline, ?_, keeps.dropped⟩
  intro watcher watched
  cases begun : now.hook.begun? file call with
  | none =>
      rw [begun] at watched
      exact keeps.watched watcher watched
  | some other =>
      rw [begun] at watched
      injection watched with same
      rw [← same, Watcher.start, keeps.reloader_of_begun? begun]
      exact ⟨rfl, rfl⟩

theorem stop (keeps : now.KeepsTo path resolved) :
    (now.perform .stop).KeepsTo path resolved := by
  refine ⟨keeps.hook, keeps.baseline, ?_, ?_⟩
  · intro watcher impossible
    cases impossible
  · intro entry member
    rcases List.mem_append.mp member with before | last
    · exact keeps.dropped entry before
    · rcases Option.map_eq_some_iff.mp (Option.mem_toList.mp last) with ⟨watcher, watched, same⟩
      rw [← same]
      exact keeps.watched watcher watched

theorem goOn (keeps : now.KeepsTo path resolved) (place : LoopPlace) (looks : Looks) :
    (now.perform (.goOn place looks)).KeepsTo path resolved := by
  simp only [Hosted.perform]
  cases watched : now.hook.watcher with
  | none => exact keeps
  | some watcher =>
      refine ⟨keeps.hook, keeps.baseline, ?_, keeps.dropped⟩
      intro behind same
      injection same with same
      subst same
      let before : Polled := ⟨watcher.reloader, now.hook.tables, now.loops⟩
      have on : before.reloader.IsOn path resolved := keeps.watched watcher watched
      exact Polled.isOn_perform on _

theorem goOnDropped (keeps : now.KeepsTo path resolved) (index : Nat) (place : LoopPlace)
    (looks : Looks) : (now.perform (.goOnDropped index place looks)).KeepsTo path resolved := by
  simp only [Hosted.perform]
  cases here : now.dropped[index]? with
  | none => exact keeps
  | some watcher =>
      rcases watcher with ⟨reloader, loops⟩
      refine ⟨keeps.hook, keeps.baseline, keeps.watched, ?_⟩
      intro entry member
      rcases List.mem_or_eq_of_mem_set member with other | same
      · exact keeps.dropped entry other
      · rw [same]
        exact Polled.isOn_perform (keeps.dropped _ (List.mem_of_getElem? here)) _

theorem perform (keeps : now.KeepsTo path resolved) (step : HostStep) :
    (now.perform step).KeepsTo path resolved := by
  cases step with
  | call file call => exact keeps.call file call
  | stop => exact keeps.stop
  | goOn place looks => exact keeps.goOn place looks
  | goOnDropped index place looks => exact keeps.goOnDropped index place looks

theorem run (keeps : now.KeepsTo path resolved) (steps : List HostStep) :
    (now.run steps).KeepsTo path resolved := by
  induction steps generalizing now with
  | nil => exact keeps
  | cons step steps ih => exact ih (keeps.perform step)

end

end KeepsTo
end Hosted

namespace Command

variable {around : Surroundings} {catalog : Option Catalog} {arguments : List Text} {path : Path}

variable [CharacterNames] [DocumentReader]

end Command

/-! ## A session -/

namespace Session

variable (session : Session)

/-- A session takes a fingerprint for the text of a path as all parts do. -/
theorem takeFingerprint_eq (path : Text) :
    session.takeFingerprint path =
      match session.around.fingerprint path with
      | .error fault => session.fail (.path fault)
      | .ok taken =>
          ⟨{ session with fingerprint := some taken }, .ok (.fingerprint taken), []⟩ := by
  rw [takeFingerprint, Surroundings.fingerprint, locate]
  cases (session.around.expand path).bind Path.ifPossible <;> rfl

/-- A session begins a watcher for the text of a path with the reloader for it, which finds the
path once more for its fingerprint. -/
theorem watch_eq (homes : session.around.HasRootedHomes) (place : Nat) (path : Text)
    (baseline : Option Fingerprint) :
    session.watch place path baseline =
      match Reloader.following session.around path baseline with
      | .error fault => session.fail (.path fault)
      | .ok reloader =>
          let watcher : Watcher := { reloader, interval := ['0'] }
          ⟨{ session with
              watched := some ⟨watcher, place⟩
              replaced := session.replaced ++ session.watched.toList },
            .ok (.running watcher.polling.isRunning), []⟩ := by
  rw [watch, watchedPath, Reloader.following]
  cases expanded : session.around.expand path with
  | error fault => cases baseline <;> rfl
  | ok path =>
      cases baseline with
      | some memory => rfl
      | none =>
          have settled := Surroundings.isSettled_of_expand homes expanded
          simp only [Surroundings.fingerprint_text settled, Except.bind, Option.isSome_none,
            Bool.false_eq_true, if_false]
          cases possible : path.ifPossible with
          | error fault => rfl
          | ok other =>
              rw [Path.eq_of_ifPossible possible]
              rfl

end Session

namespace Surroundings

/-! ## One path for all parts -/

end Surroundings
end Switchboard
