import Switchboard.Proofs.Following

namespace Switchboard

/-!
# Checks that are interrupted

A check remembers the digest of a content before it loads the settings.  If the file changes in
between, what is loaded need not be that content: it may be a content that is no longer there, or the
built-in settings if the file is gone.  A later check passes over the content whose digest is
remembered, so such tables stay until another content is read.
-/

namespace Followed

variable {now : Followed}

section

variable [CharacterNames] [DocumentReader]

/-- A check of a file that stays as it is leaves its tables in force, unless its content is the one
that was read last and other tables are in force. -/
theorem tables_check_eq_iff {start : Followed} (sync : start.InSync) {steps : List WatchStep}
    (fresh : FreshStamps start.file (fileSteps steps))
    (distinct : DistinctDigests (start.file.contents (fileSteps steps)))
    (ran : now = start.run steps) {content : List UInt8} (rests : now.file.content? = some content)
    {tables : Tables} (given : now.given? content = some tables) :
    (now.perform (.check {})).tables = tables ↔ now.tables = tables ∨ now.read ≠ some content := by
  have before : start.file.contents [] ⊆ start.file.contents (fileSteps steps) :=
    FileState.contents_subset_append start.file [] (fileSteps steps)
  have remembers := (sync.remembers before).run fresh (List.Subset.refl _)
  have member : content ∈ start.file.contents (fileSteps steps) := by
    rw [ran, file_run] at rests
    have last := FileState.contents_after_subset start.file (fileSteps steps) []
    rw [List.append_nil] at last
    exact last (FileState.mem_contents [] rests)
  rw [← ran] at remembers
  exact tables_afterCheck_eq_iff remembers distinct rests member given

/-- However the file changes while checks are made, a check of a file that stays as it is leaves the
tables of the file in force unless its content is the one that was read last and other tables are in
force.  That happens only if a check was interrupted when it had read this content. -/
theorem resting_tables_are_those_of_file_iff {start : Followed} (sync : start.InSync)
    {steps : List WatchStep} (fresh : FreshStamps start.file (fileSteps steps))
    (distinct : DistinctDigests (start.file.contents (fileSteps steps)))
    (ran : now = start.run steps) {content : List UInt8} (rests : now.file.content? = some content)
    {tables : Tables} (given : now.given? content = some tables) :
    ((now.perform (.check {})).tables = tables ↔ now.tables = tables ∨ now.read ≠ some content) ∧
    ((now.perform (.check {})).tables ≠ tables -> start.Tears steps content) := by
  have law := tables_check_eq_iff sync fresh distinct ran rests given
  refine ⟨law, ?_⟩
  intro missed
  have both := not_or.mp (fun either => missed (law.mpr either))
  have read : now.read = some content := Decidable.not_not.mp both.2
  have before : start.file.contents [] ⊆ start.file.contents (fileSteps steps) :=
    FileState.contents_subset_append start.file [] (fileSteps steps)
  have current := isCurrentOr_tears sync.isCurrent (sync.remembers before) distinct fresh
    (List.Subset.refl _)
  rw [← ran] at current
  rcases current with kept | ⟨other, last, torn⟩
  · exact absurd (kept content read tables given) both.1
  · have same := last.symm.trans read
    injection same with same
    rwa [same] at torn

theorem watcher_change (now : Followed) (step : FileStep) :
    (now.perform (.change step)).watcher = now.watcher :=
  rfl

theorem tables_change (now : Followed) (step : FileStep) :
    (now.perform (.change step)).tables = now.tables :=
  rfl

theorem reloader_afterCheck (now : Followed) (changes : Interruption) :
    (now.afterCheck changes).watcher.reloader =
      (now.watcher.reloader.check (changes.looks now.file)).reloader :=
  rfl

theorem inForce_afterCheck (now : Followed) (changes : Interruption) :
    (now.afterCheck changes).tables =
      (now.watcher.reloader.check (changes.looks now.file)).inForce now.tables :=
  rfl

/-- The second content, a check that finds the file deleted once it has read it, and a content. -/
def tornThen (content : List UInt8) : List WatchStep :=
  [.change (.write 1010 (contentNaming "b")), .check { beforePresence := [.delete] },
    .change (.write 1020 content)]

theorem file_tornThen (tables : Tables) (content : List UInt8) :
    ((opening tables).run (tornThen content)).file = .file 1020 content := by
  rw [file_run]
  rfl

theorem read_tornThen (tables : Tables) (content : List UInt8) :
    ((opening tables).run (tornThen content)).read = some (contentNaming "b") :=
  rfl

/-- What there is before the interrupted check. -/
def beforeTear (tables : Tables) : Followed :=
  { opening tables with file := .file 1010 (contentNaming "b") }

/-- What the looks of the interrupted check find. -/
def tornLooks : Looks :=
  ⟨.file 1010 (contentNaming "b"), .file 1010 (contentNaming "b"), .absent, .absent⟩

theorem run_tornThen (tables : Tables) (content : List UInt8) :
    (opening tables).run (tornThen content) =
      ((beforeTear tables).afterCheck { beforePresence := [.delete] }).perform
        (.change (.write 1020 content)) :=
  rfl

omit [CharacterNames] [DocumentReader] in
theorem looks_beforeTear (tables : Tables) :
    Interruption.looks { beforePresence := [.delete] } (beforeTear tables).file = tornLooks :=
  rfl

omit [CharacterNames] [DocumentReader] in
theorem read?_beforeTear (tables : Tables) :
    (beforeTear tables).watcher.reloader.read? tornLooks = some (contentNaming "b") :=
  rfl

theorem stamp_tornThen (tables : Tables) (content : List UInt8) :
    ((opening tables).run (tornThen content)).watcher.reloader.memory.stamp = some 1010 := by
  rw [run_tornThen, watcher_change, reloader_afterCheck, looks_beforeTear,
    Reloader.memory_check_of_read (read?_beforeTear tables)]
  rfl

/-- The interrupted check puts the built-in tables in force. -/
theorem tables_tornThen {builtin : Tables}
    (built : Tables.ofFile rootPath .absent .absent = .ok builtin) (tables : Tables)
    (content : List UInt8) : ((opening tables).run (tornThen content)).tables = builtin := by
  have new : (beforeTear tables).watcher.reloader.memory.digest ≠
      some (Digest.ofBytes (contentNaming "b")) := by
    intro same
    have distinct := distinctDigests_of_nodup nodup_digests (List.Subset.refl _)
    have equal := distinct (contentNaming "a") (by simp) (contentNaming "b") (by simp)
      (Option.some.inj same)
    exact absurd equal (by decide +kernel)
  have resolved : (beforeTear tables).watcher.reloader.resolved = rootPath := rfl
  have presence : tornLooks.forPresence = .absent := rfl
  have settings : tornLooks.forSettings = .absent := rfl
  rw [run_tornThen, tables_change, inForce_afterCheck, looks_beforeTear,
    Reloader.inForce_check_of_new (read?_beforeTear tables) new, resolved, presence, settings, built]
  rfl

end

/-- A content that is another one than that of the interrupted check is loaded. -/
theorem resting_tables_are_those_of_file_iff_other_content :
    Exists fun tables : Tables =>
      Tables.ofContent? rootPath (contentNaming "a") = some tables ∧
        let now := (opening tables).run (tornThen (contentNaming "a"))
        (now.perform (.check {})).tables = tables := by
  rcases exists_given_tables with ⟨tables, _, given, _, _⟩
  refine ⟨tables, given, ?_⟩
  have fresh : FreshStamps openingFile (fileSteps (tornThen (contentNaming "a"))) := by
    decide +kernel
  have distinct :
      DistinctDigests (openingFile.contents (fileSteps (tornThen (contentNaming "a")))) :=
    distinctDigests_of_nodup nodup_digests (by decide +kernel)
  have rests := congrArg FileState.content? (file_tornThen tables (contentNaming "a"))
  have same : ((opening tables).run (tornThen (contentNaming "a"))).given? (contentNaming "a") =
      some tables := by
    rw [given?, resolved_run]
    exact given
  refine (resting_tables_are_those_of_file_iff (inSync_opening given) fresh distinct rfl rests
    same).1.mpr (Or.inr ?_)
  rw [read_tornThen]
  decide +kernel

/-- If a file is deleted behind the digest of a check and comes back with the content that the
digest was taken of, the built-in tables stay in force. -/
theorem interrupted_check_keeps_content_from_loading :
    ¬ forall start : Followed, start.InSync -> forall steps : List WatchStep,
      FreshStamps start.file (fileSteps steps) ->
      DistinctDigests (start.file.contents (fileSteps steps)) ->
        forall now : Followed, now = start.run steps ->
          now.file.stamp? ≠ now.watcher.reloader.memory.stamp ->
          forall tables : Tables,
            Tables.heldBy? now.watcher.reloader.resolved now.file = some tables ->
              (now.perform (.check {})).tables = tables := by
  intro loads
  rcases exists_given_tables with ⟨first, second, givenFirst, givenSecond, _⟩
  rcases exists_builtin_tables with ⟨builtin, built, different⟩
  have sync := inSync_opening givenFirst
  have fresh : FreshStamps openingFile (fileSteps (tornThen (contentNaming "b"))) := by
    decide +kernel
  have distinct :
      DistinctDigests (openingFile.contents (fileSteps (tornThen (contentNaming "b")))) :=
    distinctDigests_of_nodup nodup_digests (by decide +kernel)
  have given : ((opening first).run (tornThen (contentNaming "b"))).given? (contentNaming "b") =
      some second := by
    rw [given?, resolved_run]
    exact givenSecond
  have held : Tables.heldBy?
      ((opening first).run (tornThen (contentNaming "b"))).watcher.reloader.resolved
        ((opening first).run (tornThen (contentNaming "b"))).file = some second := by
    rw [file_tornThen, Tables.heldBy?, FileState.content?, Option.bind_some]
    exact given
  have stamps : ((opening first).run (tornThen (contentNaming "b"))).file.stamp? ≠
      ((opening first).run (tornThen (contentNaming "b"))).watcher.reloader.memory.stamp := by
    rw [file_tornThen, stamp_tornThen]
    decide
  have rests := congrArg FileState.content? (file_tornThen first (contentNaming "b"))
  have missed := loads (opening first) sync (tornThen (contentNaming "b")) fresh distinct _ rfl
    stamps second held
  rcases (tables_check_eq_iff sync fresh distinct rfl rests given).mp missed with live | other
  · rw [tables_tornThen built] at live
    exact different (by rw [live, givenSecond])
  · exact other (read_tornThen first (contentNaming "b"))

end Followed
end Switchboard
