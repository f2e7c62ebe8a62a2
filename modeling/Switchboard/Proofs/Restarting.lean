import Switchboard.Proofs.Checking
import Switchboard.Proofs.Contents
import Switchboard.Watch.Hook

namespace Switchboard

/-!
# A hook that is stopped and begins again

A hook begins to follow its file with the first request that it routes, and begins anew with the
next one if it has been stopped.  Each time it takes the file of startup as the one that is loaded,
whatever tables have come into force since.

So there are two cases behind a restart.  As long as all checks have found the content of startup,
none of them has loaded anything.  Once another content has been found, the content that was found
last is in force if it gives tables, as it is in a run without a restart.
-/

/-- A step of a run. -/
inductive HookStep where
  | change (step : FileStep)
  | call (call : HookCall)
  /-- A check of the file, if the hook follows it. -/
  | check
  | stop

namespace HookStep

/-- The change of the file in a step. -/
def fileSteps : HookStep -> List FileStep
  | change step => [step]
  | _ => []

/-- Whether a step stops the hook. -/
def isStop : HookStep -> Bool
  | stop => true
  | _ => false

end HookStep

/-- A file and a hook. -/
structure Hooked where
  file : FileState
  hook : Hook
  /-- The contents that checks have found since the hook was stopped last. -/
  seen : List (List UInt8) := []

namespace Hook

/-- The watcher that a call begins. -/
def begun? (hook : Hook) (file : FileState) (call : HookCall) : Option Watcher :=
  if hook.routes call then hook.newWatcher? file else none

theorem hook_ensureWatcher (hook : Hook) (file : FileState) :
    (hook.ensureWatcher file).1 =
      { hook with watcher := ((hook.newWatcher? file).map Watcher.start).or hook.watcher } := by
  rw [ensureWatcher]
  cases hook.newWatcher? file <;> rfl

/-- A call changes nothing in a hook but that it may begin a watcher. -/
theorem hook_call_eq (hook : Hook) (file : FileState) (call : HookCall) :
    (hook.call file call).hook =
      { hook with watcher := ((hook.begun? file call).map Watcher.start).or hook.watcher } := by
  rw [Hook.call, begun?]
  cases hook.routes call with
  | false => rfl
  | true =>
      simp only [if_true]
      rw [← hook_ensureWatcher]
      rcases hook.ensureWatcher file with ⟨behind, notices⟩
      cases behind.tables.route call.request <;> rfl

/-- A watcher is begun where there is none, and it takes up the file of the hook. -/
theorem of_begun? {hook : Hook} {file : FileState} {call : HookCall} {watcher : Watcher}
    (begun : hook.begun? file call = some watcher) :
    hook.watcher = none ∧ watcher.polling = {} ∧
      Exists fun path : Path => Exists fun resolved : Path => hook.path = some (path, resolved) ∧
        watcher.reloader = ⟨path, resolved, hook.baseline.getD (Fingerprint.ofState file)⟩ := by
  rw [begun?, newWatcher?] at begun
  split at begun
  · split at begun
    · rename_i path resolved unwatched located
      split at begun
      · injection begun with same
        subst same
        exact ⟨unwatched, rfl, path, resolved, located, rfl⟩
      · cases begun
    · cases begun
  · cases begun

/-- A call leaves a hook as it is, or makes it follow its file from the baseline on. -/
theorem hook_call (hook : Hook) (file : FileState) (call : HookCall) :
    (hook.call file call).hook = hook ∨
      hook.watcher = none ∧ Exists fun path : Path => Exists fun resolved : Path =>
        Exists fun watcher : Watcher => hook.path = some (path, resolved) ∧
          watcher.reloader = ⟨path, resolved, hook.baseline.getD (Fingerprint.ofState file)⟩ ∧
          (hook.call file call).hook = { hook with watcher := some watcher } := by
  rw [hook_call_eq]
  cases begun : hook.begun? file call with
  | none => exact Or.inl rfl
  | some watcher =>
      rcases of_begun? begun with ⟨unwatched, _, path, resolved, located, taken⟩
      exact Or.inr ⟨unwatched, path, resolved, watcher.start, located, taken, rfl⟩

@[simp] theorem tables_call (hook : Hook) (file : FileState) (call : HookCall) :
    (hook.call file call).hook.tables = hook.tables := by
  rw [hook_call_eq]

variable [CharacterNames] [DocumentReader]

/-- What loading a hook from a file that stays as it is sets up. -/
theorem of_load {path resolved : Path} {file : FileState} {hook : Hook}
    (loaded : (load path resolved (.steady file)).1 = .ok hook) :
    hook.path = some (path, resolved) ∧ hook.baseline = some (Fingerprint.ofState file) ∧
      hook.watcher = none ∧ Tables.ofFile resolved file file = .ok hook.tables := by
  rw [load, Looks.steady] at loaded
  simp only at loaded
  rw [Tables.ofFile]
  cases outcome : Settings.load resolved file file with
  | error fault =>
      rw [outcome] at loaded
      cases loaded
  | ok settings =>
      simp only [outcome, ofSettings] at loaded
      cases built : Tables.build settings.router with
      | error fault =>
          rw [built] at loaded
          cases loaded
      | ok tables =>
          simp only [built] at loaded
          cases ready : readyNotices path tables with
          | error fault =>
              rw [ready] at loaded
              cases loaded
          | ok notices =>
              rw [ready] at loaded
              injection loaded with same
              subst same
              exact ⟨rfl, rfl, rfl, by simp only [built]⟩

theorem of_check {hook after : Hook} {looks : Looks} {check : Check}
    (checked : hook.check? looks = some (after, check)) :
    Exists fun watcher : Watcher => hook.watcher = some watcher ∧
      after.tables = (watcher.reloader.check looks).inForce hook.tables := by
  rcases Option.map_eq_some_iff.mp checked with ⟨watcher, watched, same⟩
  injection same with same
  exact ⟨watcher, watched, by rw [← same]; rfl⟩

end Hook

namespace Hooked

section

variable [CharacterNames] [DocumentReader]

/-- What there is behind a step. -/
def perform (now : Hooked) : HookStep -> Hooked
  | .change step => { now with file := step.apply now.file }
  | .call call => { now with hook := (now.hook.call now.file call).hook }
  | .check =>
      match now.hook.check? (.steady now.file) with
      | none => now
      | some (hook, _) => { now with hook, seen := now.seen ++ now.file.content?.toList }
  | .stop => { now with hook := now.hook.stop, seen := [] }

/-- What there is behind a run. -/
def run (now : Hooked) (steps : List HookStep) : Hooked := steps.foldl perform now

/-- What there is behind a check of the file by a watcher. -/
def checked (now : Hooked) (watcher : Watcher) : Hooked :=
  let check := watcher.reloader.checkNow now.file
  { file := now.file
    hook :=
      { now.hook with
        tables := check.inForce now.hook.tables
        watcher := some { watcher with reloader := check.reloader } }
    seen := now.seen ++ now.file.content?.toList }

theorem perform_check (now : Hooked) :
    now.perform .check = (now.hook.watcher.map now.checked).getD now := by
  rw [perform, Hook.check?]
  cases now.hook.watcher <;> rfl

/-- The content that counts as loaded, for a file as it was at startup. -/
def latest? (now : Hooked) (start : FileState) : Option (List UInt8) :=
  now.seen.getLast?.or start.content?

/-- A file that follows from the file of startup, and a hook that remembers what it has found in it.
A hook that follows no file will take the file of startup as found. -/
structure Follows (now : Hooked) (resolved : Path) (start : FileState)
    (pool : List (List UInt8)) (used : List Int) : Prop where
  baseline : now.hook.baseline = some (Fingerprint.ofState start)
  located : forall path other, now.hook.path = some (path, other) -> other = resolved
  tracks : (Fingerprint.ofState start).Tracks used now.file
  known : forall content, content ∈ now.seen -> content ∈ pool
  unfollowed : now.hook.watcher = none -> now.seen = []
  followed : forall watcher, now.hook.watcher = some watcher ->
    watcher.reloader.resolved = resolved ∧ watcher.reloader.memory.Tracks used now.file ∧
      watcher.reloader.memory.digest = (now.latest? start).map Digest.ofBytes

/-- The content that counts as loaded is in force, if it gives tables at all. -/
def IsCurrent (now : Hooked) (resolved : Path) (start : FileState) : Prop :=
  forall content, now.latest? start = some content ->
    forall tables, Tables.ofContent? resolved content = some tables -> now.hook.tables = tables

/-- No check since the hook was stopped last has found another content than that of startup. -/
def SeesStart (now : Hooked) (start : FileState) : Prop :=
  forall content, content ∈ now.seen -> start.content? = some content

variable {now : Hooked} {resolved : Path} {start : FileState} {pool : List (List UInt8)}
  {used : List Int} {content : List UInt8}

theorem latest?_checked (now : Hooked) (start : FileState) (watcher : Watcher) :
    (now.checked watcher).latest? start = now.file.content?.or (now.latest? start) := by
  rw [latest?, checked, List.getLast?_append]
  cases now.file.content? <;> rfl

omit [CharacterNames] [DocumentReader] in
theorem mem_seen_or_start_of_latest? (latest : now.latest? start = some content) :
    content ∈ now.seen ∨ start.content? = some content := by
  rw [latest?] at latest
  cases last : now.seen.getLast? with
  | none =>
      rw [last, Option.none_or] at latest
      exact Or.inr latest
  | some other =>
      rw [last, Option.some_or] at latest
      injection latest with same
      rw [← same]
      exact Or.inl (List.mem_of_getLast? last)

omit [CharacterNames] [DocumentReader] in
theorem SeesStart.content?_of_latest? (sees : now.SeesStart start)
    (latest : now.latest? start = some content) : start.content? = some content := by
  rcases mem_seen_or_start_of_latest? latest with seen | begun
  · exact sees content seen
  · exact begun

omit [CharacterNames] [DocumentReader] in
theorem Follows.mem_of_latest? (follows : now.Follows resolved start pool used)
    (begun : forall content, start.content? = some content -> content ∈ pool)
    (latest : now.latest? start = some content) : content ∈ pool := by
  rcases mem_seen_or_start_of_latest? latest with seen | started
  · exact follows.known content seen
  · exact begun content started

/-- Behind a check the tables of the file are in force exactly if they were before it, or if another
content counts as loaded. -/
theorem Follows.inForce_checkNow_eq_iff (follows : now.Follows resolved start pool used)
    (begun : forall content, start.content? = some content -> content ∈ pool)
    (distinct : DistinctDigests pool) {watcher : Watcher} (watched : now.hook.watcher = some watcher)
    (here : now.file.content? = some content) (member : content ∈ pool) {tables : Tables}
    (given : Tables.ofContent? resolved content = some tables) :
    (watcher.reloader.checkNow now.file).inForce now.hook.tables = tables ↔
      now.hook.tables = tables ∨ now.latest? start ≠ some content := by
  rcases follows.followed watcher watched with ⟨same, tracks, digest⟩
  rw [← same] at given
  rw [Reloader.inForce_checkNow_eq_iff tracks here given, digest]
  refine or_congr_right (not_congr ?_)
  constructor
  · intro equal
    rcases Option.map_eq_some_iff.mp equal with ⟨last, latest, digests⟩
    rw [latest, distinct last (follows.mem_of_latest? begun latest) content member digests]
  · intro latest
    rw [latest]
    rfl

/-! ## What a step keeps -/

theorem Follows.change (follows : now.Follows resolved start pool used) {step : FileStep}
    (fresh : (used ++ step.stamp?.toList).Nodup) :
    (now.perform (.change step)).Follows resolved start pool (used ++ step.stamp?.toList) where
  baseline := follows.baseline
  located := follows.located
  tracks := follows.tracks.apply fresh
  known := follows.known
  unfollowed := follows.unfollowed
  followed := by
    intro watcher watched
    rcases follows.followed watcher watched with ⟨same, tracks, digest⟩
    exact ⟨same, tracks.apply fresh, digest⟩

theorem Follows.call (follows : now.Follows resolved start pool used) (call : HookCall) :
    (now.perform (.call call)).Follows resolved start pool used := by
  rcases now.hook.hook_call now.file call with
    same | ⟨idle, path, other, watcher, located, reloader, same⟩
  · rw [perform, same]
    exact follows
  · rw [perform, same]
    refine ⟨follows.baseline, follows.located, follows.tracks, follows.known, ?_, ?_⟩
    · intro impossible
      cases impossible
    · intro begun watched
      injection watched with equal
      subst equal
      have unseen := follows.unfollowed idle
      rw [reloader, follows.baseline, Option.getD_some]
      refine ⟨follows.located path other located, follows.tracks, ?_⟩
      simp only [latest?, unseen, List.getLast?_nil, Option.none_or]
      exact Fingerprint.digest_ofState start

theorem Follows.checked (follows : now.Follows resolved start pool used)
    (within : forall content, now.file.content? = some content -> content ∈ pool)
    {watcher : Watcher} (watched : now.hook.watcher = some watcher) :
    (now.checked watcher).Follows resolved start pool used := by
  rcases follows.followed watcher watched with ⟨same, tracks, digest⟩
  refine ⟨follows.baseline, follows.located, follows.tracks, ?_, ?_, ?_⟩
  · intro content member
    rcases List.mem_append.mp member with before | found
    · exact follows.known content before
    · exact within content (Option.mem_toList.mp found)
  · intro impossible
    cases impossible
  · intro behind equal
    injection equal with equal
    subst equal
    refine ⟨(Reloader.resolved_check _ _).trans same, tracks.checkNow, ?_⟩
    rw [latest?_checked, Option.map_or, ← digest]
    exact Reloader.digest_checkNow tracks

theorem Follows.stop (follows : now.Follows resolved start pool used) :
    (now.perform .stop).Follows resolved start pool used where
  baseline := follows.baseline
  located := follows.located
  tracks := follows.tracks
  known := by
    intro content impossible
    cases impossible
  unfollowed := fun _ => rfl
  followed := by
    intro watcher impossible
    cases impossible

theorem Follows.perform (follows : now.Follows resolved start pool used) {step : HookStep}
    (fresh : (used ++ FileStep.stamps step.fileSteps).Nodup)
    (within : now.file.contents step.fileSteps ⊆ pool) :
    (now.perform step).Follows resolved start pool (used ++ FileStep.stamps step.fileSteps) := by
  have here : forall content, now.file.content? = some content -> content ∈ pool :=
    fun content found => within (FileState.mem_contents _ found)
  cases step with
  | change step =>
      have stamps : FileStep.stamps (HookStep.change step).fileSteps = step.stamp?.toList :=
        List.append_nil _
      rw [stamps] at fresh ⊢
      exact follows.change fresh
  | call call => simpa [HookStep.fileSteps, FileStep.stamps] using follows.call call
  | check =>
      have checked : (now.perform .check).Follows resolved start pool used := by
        rw [perform_check]
        cases watched : now.hook.watcher with
        | none => exact follows
        | some watcher => exact follows.checked here watched
      simpa [HookStep.fileSteps, FileStep.stamps] using checked
  | stop => simpa [HookStep.fileSteps, FileStep.stamps] using follows.stop

/-- A check puts the content of the file in force, unless it passes over a content that is not. -/
theorem isCurrent_checked (follows : now.Follows resolved start pool used)
    (begun : forall content, start.content? = some content -> content ∈ pool)
    (distinct : DistinctDigests pool)
    (within : forall content, now.file.content? = some content -> content ∈ pool)
    {watcher : Watcher} (watched : now.hook.watcher = some watcher)
    (cause : now.IsCurrent resolved start ∨
      now.file.content?.isSome = true ∧ now.file.content? ≠ now.latest? start) :
    (now.checked watcher).IsCurrent resolved start := by
  intro content latest tables given
  rw [latest?_checked] at latest
  cases here : now.file.content? with
  | none =>
      rw [here, Option.none_or] at latest
      have unheld : Tables.heldBy? watcher.reloader.resolved now.file = none := by
        rw [Tables.heldBy?, here]
        rfl
      rcases cause with current | ⟨impossible, _⟩
      · exact (Reloader.inForce_checkNow_of_unheld _ unheld _).trans
          (current content latest tables given)
      · rw [here] at impossible
        cases impossible
  | some found =>
      rw [here, Option.some_or] at latest
      injection latest with same
      subst same
      refine (follows.inForce_checkNow_eq_iff begun distinct watched here (within found here)
        given).mpr ?_
      by_cases latest : now.latest? start = some found
      · rcases cause with current | ⟨_, other⟩
        · exact Or.inl (current found latest tables given)
        · exact absurd (here.trans latest.symm) other
      · exact Or.inr latest

theorem IsCurrent.perform (current : now.IsCurrent resolved start)
    (follows : now.Follows resolved start pool used)
    (begun : forall content, start.content? = some content -> content ∈ pool)
    (distinct : DistinctDigests pool) {step : HookStep} (goes : step.isStop = false)
    (within : now.file.contents step.fileSteps ⊆ pool) :
    (now.perform step).IsCurrent resolved start := by
  cases step with
  | change step => exact current
  | call call =>
      intro content latest tables given
      exact (Hook.tables_call _ _ _).trans (current content latest tables given)
  | check =>
      rw [perform_check]
      cases watched : now.hook.watcher with
      | none => exact current
      | some watcher =>
          exact isCurrent_checked follows begun distinct
            (fun content found => within (FileState.mem_contents _ found)) watched (Or.inl current)
  | stop => cases goes

theorem seesStart_stop (now : Hooked) (start : FileState) :
    (now.perform .stop).SeesStart start := by
  intro content impossible
  cases impossible

/-- If only the content of startup has been found, a check passes over it, and loads any other. -/
theorem SeesStart.checked (sees : now.SeesStart start)
    (follows : now.Follows resolved start pool used)
    (begun : forall content, start.content? = some content -> content ∈ pool)
    (distinct : DistinctDigests pool)
    (within : forall content, now.file.content? = some content -> content ∈ pool)
    {watcher : Watcher} (watched : now.hook.watcher = some watcher) :
    (now.checked watcher).IsCurrent resolved start ∨ (now.checked watcher).SeesStart start := by
  cases here : now.file.content? with
  | none =>
      right
      intro content member
      apply sees content
      simpa [Hooked.checked, here] using member
  | some found =>
      -- What counts as loaded is the content of startup, be it from the baseline or from a check.
      by_cases latest : now.latest? start = some found
      · right
        intro content member
        have either : content ∈ now.seen ∨ content = found := by
          simpa [Hooked.checked, here] using member
        rcases either with before | same
        · exact sees content before
        · rw [same]
          exact sees.content?_of_latest? latest
      · left
        refine isCurrent_checked follows begun distinct within watched (Or.inr ?_)
        rw [here]
        exact ⟨rfl, Ne.symm latest⟩

/-- Behind any step the content that counts as loaded is in force, or else only the content of
startup has been found since the hook was stopped last. -/
theorem current_or_sees_perform (law : now.IsCurrent resolved start ∨ now.SeesStart start)
    (follows : now.Follows resolved start pool used)
    (begun : forall content, start.content? = some content -> content ∈ pool)
    (distinct : DistinctDigests pool) {step : HookStep}
    (within : now.file.contents step.fileSteps ⊆ pool) :
    (now.perform step).IsCurrent resolved start ∨ (now.perform step).SeesStart start := by
  cases goes : step.isStop with
  | true =>
      cases step with
      | stop => exact Or.inr (seesStart_stop now start)
      | _ => cases goes
  | false =>
      rcases law with current | sees
      · exact Or.inl (current.perform follows begun distinct goes within)
      · cases step with
        | check =>
            rw [perform_check]
            cases watched : now.hook.watcher with
            | none => exact Or.inr sees
            | some watcher =>
                exact sees.checked follows begun distinct
                  (fun content found => within (FileState.mem_contents _ found)) watched
        | stop => cases goes
        | _ => exact Or.inr sees

/-! ## What a run keeps -/

/-- The changes of the file in a run. -/
def fileSteps (steps : List HookStep) : List FileStep := steps.flatMap HookStep.fileSteps

omit [CharacterNames] [DocumentReader] in
theorem fileSteps_cons (step : HookStep) (steps : List HookStep) :
    fileSteps (step :: steps) = step.fileSteps ++ fileSteps steps :=
  List.flatMap_cons

theorem file_perform (now : Hooked) (step : HookStep) :
    (now.perform step).file = now.file.after step.fileSteps := by
  cases step with
  | check =>
      rw [perform_check]
      cases now.hook.watcher <;> rfl
  | _ => rfl

theorem file_run (now : Hooked) (steps : List HookStep) :
    (now.run steps).file = now.file.after (fileSteps steps) := by
  induction steps generalizing now with
  | nil => rfl
  | cons step steps ih =>
      rw [fileSteps_cons, FileState.after_append, ← file_perform]
      exact ih (now.perform step)

/-- What every step keeps of a hook that follows its file, a run keeps. -/
theorem Follows.run (follows : now.Follows resolved start pool used) (Kept : Hooked -> Prop)
    (kept : Kept now) {steps : List HookStep}
    (keeps : forall (now : Hooked) (used : List Int) (step : HookStep), step ∈ steps ->
      now.Follows resolved start pool used -> now.file.contents step.fileSteps ⊆ pool ->
      Kept now -> Kept (now.perform step))
    (fresh : (used ++ FileStep.stamps (fileSteps steps)).Nodup)
    (within : now.file.contents (fileSteps steps) ⊆ pool) :
    (now.run steps).Follows resolved start pool (used ++ FileStep.stamps (fileSteps steps)) ∧
      Kept (now.run steps) := by
  induction steps generalizing now used with
  | nil =>
      rw [fileSteps, List.flatMap_nil, FileStep.stamps, List.flatMap_nil, List.append_nil]
      exact ⟨follows, kept⟩
  | cons step steps ih =>
      rw [fileSteps_cons] at within
      rw [fileSteps_cons, FileStep.stamps_append, ← List.append_assoc] at fresh ⊢
      have here := List.Subset.trans (FileState.contents_subset_append _ _ _) within
      have later := List.Subset.trans (FileState.contents_after_subset _ _ _) within
      rw [← file_perform] at later
      have next := follows.perform (List.nodup_append.mp fresh).1 here
      have first := keeps now used step List.mem_cons_self follows here kept
      exact ih next first (fun now used step member => keeps now used step
        (List.mem_cons_of_mem _ member)) fresh later

theorem follows_of_load {path : Path} {hook : Hook}
    (loaded : (Hook.load path resolved (.steady start)).1 = .ok hook) :
    (⟨start, hook, []⟩ : Hooked).Follows resolved start pool start.stamp?.toList := by
  rcases Hook.of_load loaded with ⟨located, baseline, unwatched, _⟩
  refine ⟨baseline, ?_, Fingerprint.tracks_ofState start, ?_, fun _ => rfl, ?_⟩
  · intro shown other same
    rw [located] at same
    injection same with same
    injection same with _ same
    exact same.symm
  · intro content impossible
    cases impossible
  · intro watcher impossible
    rw [unwatched] at impossible
    cases impossible

theorem isCurrent_of_load {path : Path} {hook : Hook}
    (loaded : (Hook.load path resolved (.steady start)).1 = .ok hook) :
    (⟨start, hook, []⟩ : Hooked).IsCurrent resolved start := by
  rcases Hook.of_load loaded with ⟨_, _, _, built⟩
  intro content here tables given
  have same := Tables.toOption_ofFile resolved (FileState.isPresent_of_content? here) here
  rw [built] at same
  exact Option.some.inj (same.trans given)

/-- What is known of the content that counts as loaded, said by the contents that checks have found. -/
theorem in_force_or_new_iff (law : now.IsCurrent resolved start ∨ now.SeesStart start)
    {tables : Tables} (given : Tables.ofContent? resolved content = some tables) :
    (now.hook.tables = tables ∨ now.latest? start ≠ some content) ↔
      now.hook.tables = tables ∨ start.content? ≠ some content ∨
        Exists fun other => other ∈ now.seen ∧ other ≠ content := by
  constructor
  · intro either
    refine either.imp_right ?_
    intro new
    cases last : now.seen.getLast? with
    | none =>
        rw [latest?, last, Option.none_or] at new
        exact Or.inl new
    | some other =>
        rw [latest?, last, Option.some_or] at new
        exact Or.inr ⟨other, List.mem_of_getLast? last, fun same => new (congrArg some same)⟩
  · intro either
    rcases either with live | other
    · exact Or.inl live
    · by_cases latest : now.latest? start = some content
      · left
        rcases law with current | sees
        · exact current content latest tables given
        · exfalso
          have begun := sees.content?_of_latest? latest
          rcases other with new | ⟨found, member, different⟩
          · exact new begun
          · have same := (sees found member).symm.trans begun
            injection same with same
            exact different same
      · exact Or.inr latest

/-- If every time stamp that is set is a new one and distinct contents have distinct digests, then
the tables of a file are in force behind a check by a hook in exactly three cases: they were so
before, the content is not that of startup, or a check since the hook was stopped last has found
another content.  If the hook has not been stopped they always are. -/
theorem checked_tables_are_those_of_file_iff {path : Path} {hook : Hook}
    (loaded : (Hook.load path resolved (.steady start)).1 = .ok hook) {steps : List HookStep}
    (fresh : FreshStamps start (fileSteps steps))
    (distinct : DistinctDigests (start.contents (fileSteps steps)))
    (ran : now = (⟨start, hook, []⟩ : Hooked).run steps) {tables : Tables}
    (here : now.file.content? = some content)
    (given : Tables.ofContent? resolved content = some tables) {after : Hook} {check : Check}
    (checked : now.hook.check? (.steady now.file) = some (after, check)) :
    (after.tables = tables ↔ now.hook.tables = tables ∨ start.content? ≠ some content ∨
      Exists fun other => other ∈ now.seen ∧ other ≠ content) ∧
    ((forall step, step ∈ steps -> step.isStop = false) -> after.tables = tables) := by
  let pool := start.contents (fileSteps steps)
  have begun : forall content, start.content? = some content -> content ∈ pool :=
    fun content found => FileState.mem_contents _ found
  have member : content ∈ pool := by
    rw [ran, file_run] at here
    have last := FileState.contents_after_subset start (fileSteps steps) []
    rw [List.append_nil] at last
    exact last (FileState.mem_contents [] here)
  have first : (⟨start, hook, []⟩ : Hooked).Follows resolved start pool start.stamp?.toList :=
    follows_of_load loaded
  have current := isCurrent_of_load loaded
  have within := List.Subset.refl pool
  rcases Hook.of_check checked with ⟨watcher, watched, behind⟩
  rw [behind]
  constructor
  · have law := first.run (fun now => now.IsCurrent resolved start ∨ now.SeesStart start)
      (Or.inl current) (fun now used step _ follows within law =>
        current_or_sees_perform law follows begun distinct within) fresh within
    rw [← ran] at law
    refine (law.1.inForce_checkNow_eq_iff begun distinct watched here member given).trans ?_
    exact in_force_or_new_iff law.2 given
  · intro goes
    have law := first.run (fun now => now.IsCurrent resolved start) current
      (fun now used step member follows within current =>
        current.perform follows begun distinct (goes step member) within) fresh within
    rw [← ran] at law
    refine (law.1.inForce_checkNow_eq_iff begun distinct watched here member given).mpr ?_
    by_cases latest : now.latest? start = some content
    · exact Or.inl (law.2 content latest tables given)
    · exact Or.inr latest

/-- The hook for a file with the first of two contents, and the hook behind a run and a check. -/
def openedAndChecked? (steps : List HookStep) : Option (Hook × Hook) :=
  (Hook.load rootPath rootPath (.steady openingFile)).1.toOption.bind fun hook =>
    let now := (⟨openingFile, hook, []⟩ : Hooked).run steps
    (now.hook.check? (.steady now.file)).map fun behind => (hook, behind.1)

theorem of_openedAndChecked? {steps : List HookStep} {hook after : Hook}
    (outcome : openedAndChecked? steps = some (hook, after)) :
    (Hook.load rootPath rootPath (.steady openingFile)).1 = .ok hook ∧
      Exists fun check : Check =>
        ((⟨openingFile, hook, []⟩ : Hooked).run steps).hook.check?
          (.steady ((⟨openingFile, hook, []⟩ : Hooked).run steps).file) = some (after, check) := by
  rcases Option.bind_eq_some_iff.mp outcome with ⟨opened, loaded, behind⟩
  rcases Option.map_eq_some_iff.mp behind with ⟨⟨last, check⟩, checked, same⟩
  injection same with same equal
  subst same equal
  cases outcome : (Hook.load rootPath rootPath (.steady openingFile)).1 with
  | error fault =>
      rw [outcome] at loaded
      cases loaded
  | ok hook =>
      rw [outcome] at loaded
      injection loaded with same
      subst same
      exact ⟨rfl, check, checked⟩

/-- A request that is routed. -/
def autoCall : HookCall :=
  ⟨Text.ofString "completion",
    (Chat.modelKey, .text (Text.ofString "auto")) :: Chat.userRequest [Text.ofString "hi"]⟩

/-- A run in which the second content comes into force, the hook is stopped and begins again with
a content. -/
def restart (content : List UInt8) : List HookStep :=
  [.call autoCall, .change (.write 1010 (contentNaming "b")), .check, .stop,
    .change (.write 1020 content), .call autoCall]

theorem file_restart (hook : Hook) (content : List UInt8) :
    ((⟨openingFile, hook, []⟩ : Hooked).run (restart content)).file = .file 1020 content := by
  rw [file_run]
  rfl

end

/-- If the second content has stayed, it is in force behind a restart. -/
theorem checked_tables_are_those_of_file_iff_other_content :
    Exists fun tables : Tables => Exists fun hook : Hook => Exists fun after : Hook =>
      openedAndChecked? (restart (contentNaming "b")) = some (hook, after) ∧
        Tables.ofContent? rootPath (contentNaming "b") = some tables ∧ after.tables = tables := by
  rcases exists_given_tables with ⟨_, tables, _, given, _⟩
  have ends : (openedAndChecked? (restart (contentNaming "b"))).isSome = true := by decide +kernel
  rcases Option.isSome_iff_exists.mp ends with ⟨⟨hook, after⟩, outcome⟩
  rcases of_openedAndChecked? outcome with ⟨loaded, check, checked⟩
  refine ⟨tables, hook, after, outcome, given, ?_⟩
  have fresh : FreshStamps openingFile (fileSteps (restart (contentNaming "b"))) := by
    decide +kernel
  have distinct :
      DistinctDigests (openingFile.contents (fileSteps (restart (contentNaming "b")))) :=
    distinctDigests_of_nodup nodup_digests (by decide +kernel)
  have here := congrArg FileState.content? (file_restart hook (contentNaming "b"))
  have different : openingFile.content? ≠ some (contentNaming "b") := by decide +kernel
  exact (checked_tables_are_those_of_file_iff loaded fresh distinct rfl here given checked).1.mpr
    (Or.inr (Or.inl different))

/-- If the first content has come back, a check behind a restart leaves the tables of the second one
in force. -/
theorem restarted_check_passes_over_content_of_startup :
    ¬ forall (path resolved : Path) (start : FileState) (hook : Hook),
      (Hook.load path resolved (.steady start)).1 = .ok hook ->
      forall steps : List HookStep, FreshStamps start (fileSteps steps) ->
        DistinctDigests (start.contents (fileSteps steps)) ->
        forall now : Hooked, now = (⟨start, hook, []⟩ : Hooked).run steps ->
          forall tables : Tables, Tables.heldBy? resolved now.file = some tables ->
            forall (after : Hook) (check : Check),
              now.hook.check? (.steady now.file) = some (after, check) -> after.tables = tables := by
  intro follows
  rcases exists_given_tables with ⟨tables, _, given, _, _⟩
  have ends : (openedAndChecked? (restart (contentNaming "a"))).isSome = true ∧
      (openedAndChecked? (restart (contentNaming "a"))).map (fun hooks => some hooks.2.tables) ≠
        some (Tables.ofContent? rootPath (contentNaming "a")) := by
    decide +kernel
  rcases Option.isSome_iff_exists.mp ends.1 with ⟨⟨hook, after⟩, outcome⟩
  rcases of_openedAndChecked? outcome with ⟨loaded, check, checked⟩
  have fresh : FreshStamps openingFile (fileSteps (restart (contentNaming "a"))) := by
    decide +kernel
  have distinct :
      DistinctDigests (openingFile.contents (fileSteps (restart (contentNaming "a")))) :=
    distinctDigests_of_nodup nodup_digests (by decide +kernel)
  have held : Tables.heldBy? rootPath
      ((⟨openingFile, hook, []⟩ : Hooked).run (restart (contentNaming "a"))).file = some tables := by
    rw [file_restart, Tables.heldBy?, FileState.content?, Option.bind_some]
    exact given
  have same := follows rootPath rootPath openingFile hook loaded (restart (contentNaming "a")) fresh
    distinct _ rfl tables held after check checked
  apply ends.2
  rw [outcome, given, ← same]
  rfl

end Hooked
end Switchboard
