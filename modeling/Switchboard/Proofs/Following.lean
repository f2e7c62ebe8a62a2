import Switchboard.Proofs.Checking
import Mathlib.Data.List.Induction

namespace Switchboard

/-!
# Following a file over a whole run

A run mixes changes of the file with checks of it, asked for or made by the loops that poll, and
with polling being started and stopped.  The file may also change while a check is made.

What carries the laws is the content whose digest was taken last.  Its digest is the one that is
remembered, and unless the file changes between the digest and the loading of a check, its tables
are in force if it gives any.  The contents that give none, and those on which a check breaks off,
are remembered all the same; they leave no tables to be in force, so the law holds of them too.
-/

/-- A step of a run. -/
inductive WatchStep where
  | change (step : FileStep)
  /-- A check, and the changes of the file while it is made. -/
  | check (changes : Interruption)
  /-- A turn of every loop that polls. -/
  | turn
  | start
  | stop
deriving Repr, DecidableEq

namespace WatchStep

/-- The changes of the file in a step. -/
def fileSteps : WatchStep -> List FileStep
  | change step => [step]
  | check changes => changes.all
  | _ => []

/-- Whether the file stays as it is once a check has taken its digest. -/
def isSettled : WatchStep -> Bool
  | check changes => changes.beforePresence.isEmpty && changes.beforeSettings.isEmpty
  | _ => true

end WatchStep

/-- A file, the watcher that follows it and the tables in force. -/
structure Followed where
  file : FileState
  watcher : Watcher
  tables : Tables
  /-- The content whose digest was taken last. -/
  read : Option (List UInt8)

namespace Watcher

/-- Loops that have their turn one after the other do what the first of them does. -/
theorem turns_succ [CharacterNames] [DocumentReader] (count : Nat) (watcher : Watcher)
    (file : FileState) :
    turns (count + 1) watcher file =
      let check := watcher.reloader.checkNow file
      ⟨{ watcher with reloader := check.reloader }, newTables? check, pollNotices check⟩ := by
  induction count generalizing watcher with
  | zero => simp [turns]
  | succ count ih =>
      -- The loops behind the first one find the stamp that it has remembered.
      rw [turns, ih]
      simp only [Reloader.checkNow_again, newTables?, pollNotices, Option.none_or, List.append_nil]

end Watcher

namespace Followed

section

variable [CharacterNames] [DocumentReader]

/-- What there is behind a check during which the file changes. -/
def afterCheck (now : Followed) (changes : Interruption) : Followed :=
  let looks := changes.looks now.file
  let check := now.watcher.reloader.check looks
  { file := now.file.after changes.all
    watcher := { now.watcher with reloader := check.reloader }
    tables := check.inForce now.tables
    read := (now.watcher.reloader.read? looks).or now.read }

/-- What there is behind a step. -/
def perform (now : Followed) : WatchStep -> Followed
  | .change step => { now with file := step.apply now.file }
  | .check changes => now.afterCheck changes
  | .turn =>
      let turn := now.watcher.turn now.file
      { now with
        watcher := turn.watcher
        tables := turn.tables.getD now.tables
        read := if now.watcher.polling.loops = 0 then now.read else (now.afterCheck {}).read }
  | .start => { now with watcher := now.watcher.start }
  | .stop => { now with watcher := now.watcher.stop }

/-- What there is behind a run. -/
def run (now : Followed) (steps : List WatchStep) : Followed := steps.foldl perform now

/-- The changes of the file in a run. -/
def fileSteps (steps : List WatchStep) : List FileStep := steps.flatMap WatchStep.fileSteps

/-- Polling as it is behind a turn. -/
def afterTurn (now : Followed) : Followed :=
  { now with watcher := { now.watcher with polling := now.watcher.polling.afterTurn } }

theorem perform_turn (now : Followed) :
    now.perform .turn =
      if now.watcher.polling.loops = 0 then now.afterTurn else (now.afterCheck {}).afterTurn := by
  rw [perform, Watcher.turn]
  cases loops : now.watcher.polling.loops with
  | zero => rfl
  | succ count =>
      rw [Watcher.turns_succ]
      rfl

theorem file_perform (now : Followed) (step : WatchStep) :
    (now.perform step).file = now.file.after step.fileSteps := by
  cases step <;> rfl

@[simp] theorem resolved_perform (now : Followed) (step : WatchStep) :
    (now.perform step).watcher.reloader.resolved = now.watcher.reloader.resolved := by
  cases step with
  | check changes => exact Reloader.resolved_check _ _
  | turn =>
      rw [perform_turn]
      split
      · rfl
      · exact Reloader.resolved_check _ _
  | _ => rfl

theorem resolved_run (now : Followed) (steps : List WatchStep) :
    (now.run steps).watcher.reloader.resolved = now.watcher.reloader.resolved := by
  induction steps generalizing now with
  | nil => rfl
  | cons step steps ih => exact (ih (now.perform step)).trans (resolved_perform now step)

/-- The tables that a content gives to the watcher. -/
def given? (now : Followed) (content : List UInt8) : Option Tables :=
  Tables.ofContent? now.watcher.reloader.resolved content

/-- What is remembered tracks the file and is the digest of the content that was read last. -/
structure Remembers (now : Followed) (pool : List (List UInt8)) (used : List Int) : Prop where
  tracks : now.watcher.reloader.memory.Tracks used now.file
  digest : now.watcher.reloader.memory.digest = now.read.map Digest.ofBytes
  known : forall content, now.read = some content -> content ∈ pool

/-- The content that was read last is in force, if it gives tables at all. -/
def IsCurrent (now : Followed) : Prop :=
  forall content, now.read = some content ->
    forall tables, now.given? content = some tables -> now.tables = tables

variable {now : Followed} {pool : List (List UInt8)} {used : List Int}

omit [CharacterNames] [DocumentReader] in
theorem Remembers.digest_eq_iff (remembers : now.Remembers pool used)
    (distinct : DistinctDigests pool) {content : List UInt8} (member : content ∈ pool) :
    now.watcher.reloader.memory.digest = some (Digest.ofBytes content) ↔
      now.read = some content := by
  rw [remembers.digest]
  constructor
  · intro same
    rcases Option.map_eq_some_iff.mp same with ⟨last, read, equal⟩
    rw [read, distinct last (remembers.known last read) content member equal]
  · intro read
    rw [read]
    rfl

/-! ## What a step keeps -/

theorem Remembers.afterCheck (remembers : now.Remembers pool used) (changes : Interruption)
    (fresh : (used ++ FileStep.stamps changes.all).Nodup)
    (within : now.file.contents changes.all ⊆ pool) :
    (now.afterCheck changes).Remembers pool (used ++ FileStep.stamps changes.all) := by
  refine ⟨remembers.tracks.check fresh, ?_, ?_⟩
  · cases read : now.watcher.reloader.read? (changes.looks now.file) with
    | none =>
        simp only [Followed.afterCheck, read, Option.none_or]
        exact (Reloader.digest_check_of_unread read).trans remembers.digest
    | some content =>
        simp only [Followed.afterCheck, read, Option.some_or, Reloader.memory_check_of_read read,
          Option.map_some]
  · intro content found
    cases read : now.watcher.reloader.read? (changes.looks now.file) with
    | none =>
        simp only [Followed.afterCheck, read, Option.none_or] at found
        exact remembers.known content found
    | some other =>
        simp only [Followed.afterCheck, read, Option.some_or] at found
        injection found with same
        subst same
        have here : (now.file.after changes.beforeDigest).content? = some other :=
          Reloader.content?_of_read read
        apply within
        exact FileState.contents_after_subset _ _ _ (FileState.mem_contents _ here)

theorem Remembers.perform (remembers : now.Remembers pool used) {step : WatchStep}
    (fresh : (used ++ FileStep.stamps step.fileSteps).Nodup)
    (within : now.file.contents step.fileSteps ⊆ pool) :
    (now.perform step).Remembers pool (used ++ FileStep.stamps step.fileSteps) := by
  cases step with
  | change step => exact ⟨remembers.tracks.after fresh, remembers.digest, remembers.known⟩
  | check changes => exact remembers.afterCheck changes fresh within
  | turn =>
      rw [perform_turn]
      split
      · exact ⟨remembers.tracks.after fresh, remembers.digest, remembers.known⟩
      · have checked := remembers.afterCheck {} fresh within
        exact ⟨checked.tracks, checked.digest, checked.known⟩
  | start => exact ⟨remembers.tracks.after fresh, remembers.digest, remembers.known⟩
  | stop => exact ⟨remembers.tracks.after fresh, remembers.digest, remembers.known⟩

theorem read_afterCheck (now : Followed) (changes : Interruption) :
    (now.afterCheck changes).read =
      (now.watcher.reloader.read? (changes.looks now.file)).or now.read :=
  rfl

theorem given?_afterCheck (now : Followed) (changes : Interruption) (content : List UInt8) :
    (now.afterCheck changes).given? content = now.given? content := by
  rw [given?, Followed.afterCheck, Reloader.resolved_check, given?]

/-- A check that reads nothing changes nothing in force. -/
theorem IsCurrent.afterCheck_of_unread (current : now.IsCurrent) {changes : Interruption}
    (unread : now.watcher.reloader.read? (changes.looks now.file) = none) :
    (now.afterCheck changes).IsCurrent := by
  intro content found tables given
  rw [given?_afterCheck] at given
  rw [read_afterCheck, unread, Option.none_or] at found
  exact (Reloader.inForce_check_of_unread unread now.tables).trans
    (current content found tables given)

/-- A content that is read anew comes into force, if the file stays as it is once the check has taken
its digest. -/
theorem isCurrent_afterCheck_of_read (remembers : now.Remembers pool used)
    (distinct : DistinctDigests pool) {changes : Interruption}
    (settled : (WatchStep.check changes).isSettled = true)
    (within : now.file.contents changes.all ⊆ pool) {content : List UInt8}
    (read : now.watcher.reloader.read? (changes.looks now.file) = some content)
    (cause : now.IsCurrent ∨ now.read ≠ some content) : (now.afterCheck changes).IsCurrent := by
  intro last found tables given
  rw [given?_afterCheck] at given
  rw [read_afterCheck, read, Option.some_or] at found
  injection found with same
  subst same
  have here : (now.file.after changes.beforeDigest).content? = some content :=
    Reloader.content?_of_read read
  have member : content ∈ pool :=
    within (FileState.contents_after_subset _ _ _ (FileState.mem_contents _ here))
  by_cases known : now.watcher.reloader.memory.digest = some (Digest.ofBytes content)
  · have last := (remembers.digest_eq_iff distinct member).mp known
    refine (Reloader.inForce_check_of_known read known now.tables).trans ?_
    rcases cause with current | other
    · exact current content last tables given
    · exact absurd last other
  · have looks : (changes.looks now.file).forPresence = now.file.after changes.beforeDigest ∧
        (changes.looks now.file).forSettings = now.file.after changes.beforeDigest := by
      rw [WatchStep.isSettled, Bool.and_eq_true, List.isEmpty_iff, List.isEmpty_iff] at settled
      rw [Interruption.looks, settled.1, settled.2]
      exact ⟨rfl, rfl⟩
    have loaded := Reloader.inForce_check_of_new read known now.tables
    rw [looks.1, looks.2,
      Tables.toOption_ofFile _ (FileState.isPresent_of_content? here) here] at loaded
    exact loaded.trans (congrArg (Option.getD · now.tables) given)

/-- The content that was read last is in force, or is one of given contents. -/
def IsCurrentOr (now : Followed) (torn : List UInt8 -> Prop) : Prop :=
  now.IsCurrent ∨ Exists fun content => now.read = some content ∧ torn content

/-- A check keeps this law if the contents that it reads and does not load at once are among those
given. -/
theorem IsCurrentOr.afterCheck {torn : List UInt8 -> Prop} (law : now.IsCurrentOr torn)
    (remembers : now.Remembers pool used) (distinct : DistinctDigests pool)
    (changes : Interruption) (within : now.file.contents changes.all ⊆ pool)
    (counts : (WatchStep.check changes).isSettled = false -> forall content,
      now.watcher.reloader.read? (changes.looks now.file) = some content -> torn content) :
    (now.afterCheck changes).IsCurrentOr torn := by
  cases found : now.watcher.reloader.read? (changes.looks now.file) with
  | none =>
      rcases law with current | ⟨last, read, marked⟩
      · exact Or.inl (current.afterCheck_of_unread found)
      · refine Or.inr ⟨last, ?_, marked⟩
        rw [read_afterCheck, found, Option.none_or, read]
  | some content =>
      have last : (now.afterCheck changes).read = some content := by
        rw [read_afterCheck, found, Option.some_or]
      cases settled : (WatchStep.check changes).isSettled with
      | false => exact Or.inr ⟨content, last, counts settled content found⟩
      | true =>
          rcases law with current | ⟨other, read, marked⟩
          · exact Or.inl
              (isCurrent_afterCheck_of_read remembers distinct settled within found (Or.inl current))
          · -- A content that was torn and is read again stays torn: its digest is known.
            by_cases same : content = other
            · exact Or.inr ⟨other, by rw [last, same], marked⟩
            · left
              refine isCurrent_afterCheck_of_read remembers distinct settled within found
                (Or.inr ?_)
              rw [read]
              exact fun equal => same (Option.some.inj equal).symm

theorem IsCurrentOr.perform {torn : List UInt8 -> Prop} (law : now.IsCurrentOr torn)
    (remembers : now.Remembers pool used) (distinct : DistinctDigests pool) {step : WatchStep}
    (within : now.file.contents step.fileSteps ⊆ pool)
    (counts : forall changes, step = .check changes -> step.isSettled = false -> forall content,
      now.watcher.reloader.read? (changes.looks now.file) = some content -> torn content) :
    (now.perform step).IsCurrentOr torn := by
  cases step with
  | check changes => exact law.afterCheck remembers distinct changes within (counts changes rfl)
  | turn =>
      rw [perform_turn]
      split
      · exact law
      · exact law.afterCheck remembers distinct {} within (fun impossible => nomatch impossible)
  | _ => exact law

/-! ## What a run keeps -/

omit [CharacterNames] [DocumentReader] in
theorem fileSteps_cons (step : WatchStep) (steps : List WatchStep) :
    fileSteps (step :: steps) = step.fileSteps ++ fileSteps steps :=
  List.flatMap_cons

theorem file_run (now : Followed) (steps : List WatchStep) :
    (now.run steps).file = now.file.after (fileSteps steps) := by
  induction steps generalizing now with
  | nil => rfl
  | cons step steps ih =>
      rw [fileSteps_cons, FileState.after_append, ← file_perform]
      exact ih (now.perform step)

theorem Remembers.run (remembers : now.Remembers pool used) {steps : List WatchStep}
    (fresh : (used ++ FileStep.stamps (fileSteps steps)).Nodup)
    (within : now.file.contents (fileSteps steps) ⊆ pool) :
    (now.run steps).Remembers pool (used ++ FileStep.stamps (fileSteps steps)) := by
  induction steps generalizing now used with
  | nil =>
      rw [fileSteps, List.flatMap_nil, FileStep.stamps, List.flatMap_nil, List.append_nil]
      exact remembers
  | cons step steps ih =>
      rw [fileSteps_cons] at within
      rw [fileSteps_cons, FileStep.stamps_append, ← List.append_assoc] at fresh ⊢
      have here := List.Subset.trans (FileState.contents_subset_append _ _ _) within
      have later := List.Subset.trans (FileState.contents_after_subset _ _ _) within
      rw [← file_perform] at later
      exact ih (remembers.perform (List.nodup_append.mp fresh).1 here) fresh later

/-- A check of a run has taken the digest of a content, and the file has changed before the check
loaded it. -/
def Tears (start : Followed) (steps : List WatchStep) (content : List UInt8) : Prop :=
  Exists fun before : List WatchStep => Exists fun changes : Interruption =>
    Exists fun after : List WatchStep => steps = before ++ .check changes :: after ∧
      (WatchStep.check changes).isSettled = false ∧
        (start.run before).watcher.reloader.read? (changes.looks (start.run before).file) =
          some content

theorem Tears.append {start : Followed} {steps : List WatchStep} {content : List UInt8}
    (tears : start.Tears steps content) (more : List WatchStep) :
    start.Tears (steps ++ more) content := by
  rcases tears with ⟨before, changes, after, same, unsettled, read⟩
  refine ⟨before, changes, after ++ more, ?_, unsettled, read⟩
  rw [same, List.append_assoc, List.cons_append]

/-- The content read last is in force, or a check was interrupted when it had read it. -/
theorem isCurrentOr_tears {start : Followed} (current : start.IsCurrent)
    (remembers : start.Remembers pool used) (distinct : DistinctDigests pool)
    {steps : List WatchStep} (fresh : (used ++ FileStep.stamps (fileSteps steps)).Nodup)
    (within : start.file.contents (fileSteps steps) ⊆ pool) :
    (start.run steps).IsCurrentOr (start.Tears steps) := by
  induction steps using List.reverseRecOn with
  | nil => exact Or.inl current
  | append_singleton steps step ih =>
      have split : fileSteps (steps ++ [step]) = fileSteps steps ++ step.fileSteps := by
        rw [fileSteps, List.flatMap_append]
        exact congrArg _ (List.append_nil _)
      rw [split] at within fresh
      rw [FileStep.stamps_append, ← List.append_assoc] at fresh
      have here := (List.nodup_append.mp fresh).1
      have before := List.Subset.trans (FileState.contents_subset_append _ _ _) within
      have after := List.Subset.trans (FileState.contents_after_subset _ _ _) within
      rw [← file_run] at after
      have law : (start.run steps).IsCurrentOr (start.Tears (steps ++ [step])) :=
        (ih here before).imp_right fun torn => torn.imp fun _ both => ⟨both.1, both.2.append _⟩
      have performed : start.run (steps ++ [step]) = (start.run steps).perform step :=
        List.foldl_append
      rw [performed]
      refine law.perform (remembers.run here before) distinct after ?_
      intro changes same unsettled content read
      subst same
      exact ⟨steps, changes, [], rfl, unsettled, read⟩

/-- If no check is interrupted behind its digest, the content read last is in force. -/
theorem isCurrent_run {start : Followed} (current : start.IsCurrent)
    (remembers : start.Remembers pool used) (distinct : DistinctDigests pool)
    {steps : List WatchStep} (settled : forall step, step ∈ steps -> step.isSettled = true)
    (fresh : (used ++ FileStep.stamps (fileSteps steps)).Nodup)
    (within : start.file.contents (fileSteps steps) ⊆ pool) : (start.run steps).IsCurrent := by
  rcases isCurrentOr_tears current remembers distinct fresh within with
    kept | ⟨content, _, before, changes, after, same, unsettled, _⟩
  · exact kept
  · have member : WatchStep.check changes ∈ steps := by
      rw [same]
      exact List.mem_append_right _ List.mem_cons_self
    exact absurd (settled _ member) (by simp [unsettled])

/-! ## Behind a check of a file that stays as it is -/

/-- The tables of the file are in force behind a check exactly if they were before it, or if the
content that was read last is another one. -/
theorem tables_afterCheck_eq_iff (remembers : now.Remembers pool used)
    (distinct : DistinctDigests pool) {content : List UInt8} (here : now.file.content? = some content)
    (member : content ∈ pool) {tables : Tables} (given : now.given? content = some tables) :
    (now.afterCheck {}).tables = tables ↔ now.tables = tables ∨ now.read ≠ some content := by
  rw [Ne, ← remembers.digest_eq_iff distinct member]
  exact Reloader.inForce_checkNow_eq_iff remembers.tracks here given now.tables

/-- What is current behind a check is the tables of the file if it holds any, and what was in force
before otherwise. -/
theorem tables_afterCheck (remembers : now.Remembers pool used) (current : now.IsCurrent)
    (distinct : DistinctDigests pool) (within : now.file.contents [] ⊆ pool) :
    (now.afterCheck {}).tables =
      (Tables.heldBy? now.watcher.reloader.resolved now.file).getD now.tables := by
  cases held : Tables.heldBy? now.watcher.reloader.resolved now.file with
  | none => exact Reloader.inForce_checkNow_of_unheld _ held now.tables
  | some tables =>
      rcases Option.bind_eq_some_iff.mp held with ⟨content, here, given⟩
      have member : content ∈ pool := within (FileState.mem_contents [] here)
      rw [Option.getD_some, tables_afterCheck_eq_iff remembers distinct here member given]
      by_cases read : now.read = some content
      · exact Or.inl (current content read tables given)
      · exact Or.inr read

/-- The file is as it was when the tables in force were built from it, and is remembered as such. If
there is no file, these are the built-in tables. -/
structure InSync (now : Followed) : Prop where
  memory : now.watcher.reloader.memory = Fingerprint.ofState now.file
  tables : Tables.ofFile now.watcher.reloader.resolved now.file now.file = .ok now.tables
  read : now.read = now.file.content?

theorem InSync.remembers (sync : now.InSync) (within : now.file.contents [] ⊆ pool) :
    now.Remembers pool now.file.stamp?.toList := by
  refine ⟨?_, ?_, ?_⟩
  · rw [sync.memory]
    exact Fingerprint.tracks_ofState now.file
  · rw [sync.memory, sync.read]
    exact Fingerprint.digest_ofState now.file
  · intro content read
    exact within (FileState.mem_contents [] (sync.read.symm.trans read))

theorem InSync.isCurrent (sync : now.InSync) : now.IsCurrent := by
  intro content read tables given
  have here := sync.read.symm.trans read
  have built := Tables.toOption_ofFile now.watcher.reloader.resolved
    (FileState.isPresent_of_content? here) here
  rw [sync.tables] at built
  exact Option.some.inj (built.trans given)

/-- Whether a step makes a check during which the file stays as it is. -/
def checksNow (now : Followed) : WatchStep -> Bool
  | .check changes => changes == {}
  | .turn => now.watcher.polling.loops != 0
  | _ => false

/-- Such a step does what a check does. -/
theorem perform_of_checksNow {step : WatchStep} (checks : now.checksNow step = true) :
    (now.perform step).tables = (now.afterCheck {}).tables := by
  cases step with
  | check changes =>
      rw [eq_of_beq checks]
      rfl
  | turn =>
      rw [perform_turn, if_neg (bne_iff_ne.mp checks)]
      rfl
  | _ => cases checks

/-- If the watcher starts in sync with the file, every time stamp that is set is a new one, no check
is interrupted behind its digest and distinct contents have distinct digests, then the tables behind
every check of a run are those that the file holds, or those before the check if it holds none. -/
theorem checked_tables_are_those_of_file {start : Followed} (sync : start.InSync)
    {steps : List WatchStep} (settled : forall step, step ∈ steps -> step.isSettled = true)
    (fresh : FreshStamps start.file (fileSteps steps))
    (distinct : DistinctDigests (start.file.contents (fileSteps steps))) {step : WatchStep}
    (checks : (start.run steps).checksNow step = true) :
    ((start.run steps).perform step).tables =
      (Tables.heldBy? start.watcher.reloader.resolved (start.run steps).file).getD
        (start.run steps).tables := by
  have within := List.Subset.refl (start.file.contents (fileSteps steps))
  have before : start.file.contents [] ⊆ start.file.contents (fileSteps steps) :=
    FileState.contents_subset_append start.file [] (fileSteps steps)
  have behind : (start.run steps).file.contents [] ⊆ start.file.contents (fileSteps steps) := by
    rw [file_run]
    simpa using FileState.contents_after_subset start.file (fileSteps steps) []
  have remembers := (sync.remembers before).run fresh within
  have current := isCurrent_run sync.isCurrent (sync.remembers before) distinct settled fresh within
  rw [perform_of_checksNow checks, tables_afterCheck remembers current distinct behind, resolved_run]

/-- A watcher that is in sync with it, given the tables of the content. -/
def opening (tables : Tables) : Followed where
  file := openingFile
  watcher := { reloader := ⟨rootPath, rootPath, Fingerprint.ofState openingFile⟩, interval := [] }
  tables := tables
  read := some (contentNaming "a")

theorem inSync_opening {tables : Tables}
    (given : Tables.ofContent? rootPath (contentNaming "a") = some tables) :
    (opening tables).InSync where
  memory := rfl
  tables := Tables.ofFile_of_content? rfl given
  read := rfl

end

/-- Bytes that are no text, a turn, and another content. -/
def refusedThenMended : List WatchStep :=
  [.start, .change (.write 1010 [0xFF]), .turn, .change (.write 1020 (contentNaming "b"))]

/-- A loop that has found bytes that are no text loads the content that comes next. -/
theorem checked_tables_are_those_of_file_behind_refusal :
    Exists fun first : Tables => Exists fun second : Tables => first ≠ second ∧
      (((opening first).run refusedThenMended).perform .turn).tables = second := by
  rcases exists_given_tables with ⟨first, second, givenFirst, givenSecond, different⟩
  refine ⟨first, second, different, ?_⟩
  have settled : forall step, step ∈ refusedThenMended -> step.isSettled = true := by decide
  have fresh : FreshStamps openingFile (fileSteps refusedThenMended) := by decide
  have distinct : DistinctDigests (openingFile.contents (fileSteps refusedThenMended)) :=
    distinctDigests_of_nodup nodup_digests (by decide +kernel)
  have polls : ((opening first).run refusedThenMended).checksNow .turn = true := by
    simp [refusedThenMended, opening, run, perform, checksNow, Watcher.start, Watcher.turn,
      Polling.start, Polling.loops, Polling.afterTurn]
  have mended : ((opening first).run refusedThenMended).file = .file 1020 (contentNaming "b") := by
    rw [file_run]
    rfl
  have followed := checked_tables_are_those_of_file (inSync_opening givenFirst) settled fresh
    distinct polls
  rw [mended, Tables.heldBy?, FileState.content?, Option.bind_some] at followed
  rw [followed, opening]
  simp only [givenSecond, Option.getD_some]

end Followed
end Switchboard
