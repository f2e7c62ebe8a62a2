import Switchboard.Proofs.Changes
import Switchboard.Watch.Polling

namespace Switchboard

/-!
# One check of a file

A check reads the file only if it shows another time stamp than the one that is remembered.  What it
remembers and what it puts in force depends on that and, if it reads a content, on whether the digest
of the content is the one that is remembered.

What is remembered tracks the file if no stamp is remembered that is still to come, and if a file
with the remembered stamp has the remembered digest.  Changes and checks keep that.  Then a stamp
that has stayed the same hides no other content, so the digest alone says whether the content is
loaded.
-/

namespace Tables

variable [CharacterNames] [DocumentReader]

/-- The tables that the content of a file gives, if its settings are accepted. -/
def ofContent? (resolved : Path) (content : List UInt8) : Option Tables :=
  match Settings.ofContent resolved.text content with
  | .error _ => none
  | .ok settings => (build settings.router).toOption

/-- The tables that a file holds, if it can be read and its settings are accepted. -/
def heldBy? (resolved : Path) (file : FileState) : Option Tables :=
  file.content?.bind (ofContent? resolved)

theorem toOption_ofFile (resolved : Path) {found opened : FileState} {content : List UInt8}
    (there : found.isPresent = true) (here : opened.content? = some content) :
    (ofFile resolved found opened).toOption = ofContent? resolved content := by
  cases opened with
  | file stamp bytes =>
      injection here with same
      subst same
      rw [ofFile, Settings.load, if_pos there, Settings.ofOpened, ofContent?]
      cases Settings.ofContent resolved.text bytes with
      | error fault => rfl
      | ok settings =>
          simp only
          cases build settings.router <;> rfl
  | _ => cases here

end Tables

theorem FileState.isPresent_of_content? {file : FileState} {content : List UInt8}
    (here : file.content? = some content) : file.isPresent = true := by
  cases file with
  | file stamp bytes => rfl
  | _ => cases here

theorem Tables.ofFile_of_content? [CharacterNames] [DocumentReader] {resolved : Path}
    {file : FileState} {content : List UInt8}
    {tables : Tables} (here : file.content? = some content)
    (given : ofContent? resolved content = some tables) : ofFile resolved file file = .ok tables := by
  have built := (toOption_ofFile resolved (FileState.isPresent_of_content? here) here).trans given
  cases outcome : ofFile resolved file file with
  | error fault =>
      rw [outcome] at built
      cases built
  | ok found =>
      rw [outcome] at built
      exact congrArg Except.ok (Option.some.inj built)

/-- The tables in force behind a check, given those before it. -/
def Check.inForce (check : Check) (live : Tables) : Tables :=
  (Watcher.newTables? check).getD live

namespace Reloader

/-- The content that a check reads to take its digest. -/
def read? (reloader : Reloader) (looks : Looks) : Option (List UInt8) :=
  match looks.forStamp.stamp? with
  | none => none
  | some stamp => if reloader.memory.stamp = some stamp then none else looks.forDigest.content?

variable [CharacterNames] [DocumentReader]

theorem check_of_same_stamp {reloader : Reloader} {looks : Looks}
    (same : looks.forStamp.stamp? = none ∨ looks.forStamp.stamp? = reloader.memory.stamp) :
    reloader.check looks = ⟨reloader, .unchanged, []⟩ := by
  rw [check]
  cases shown : looks.forStamp.stamp? with
  | none => rfl
  | some stamp =>
      rw [shown] at same
      rcases same with impossible | same
      · cases impossible
      · exact if_pos same.symm

/-- A check that reads nothing remembers at most a stamp. -/
theorem check_of_unread {reloader : Reloader} {looks : Looks} (unread : reloader.read? looks = none) :
    Exists fun stamp : Option Int =>
      (stamp = reloader.memory.stamp ∧
          (looks.forStamp.stamp? = none ∨ looks.forStamp.stamp? = reloader.memory.stamp) ∨
        stamp = looks.forStamp.stamp? ∧ looks.forDigest.content? = none) ∧
      reloader.check looks =
        ⟨{ reloader with memory := ⟨stamp, reloader.memory.digest⟩ }, .unchanged, []⟩ := by
  cases shown : looks.forStamp.stamp? with
  | none =>
      refine ⟨_, Or.inl ⟨rfl, Or.inl rfl⟩, check_of_same_stamp (Or.inl shown)⟩
  | some stamp =>
      by_cases same : reloader.memory.stamp = some stamp
      · exact ⟨_, Or.inl ⟨rfl, Or.inr same.symm⟩,
          check_of_same_stamp (Or.inr (shown.trans same.symm))⟩
      · simp only [read?, shown, if_neg same] at unread
        refine ⟨some stamp, Or.inr ⟨rfl, unread⟩, ?_⟩
        simp only [check, shown, if_neg same, unread]
        rfl

/-- A check that reads a content remembers its digest, and loads the settings if the digest is
another one than before. -/
theorem check_of_read {reloader : Reloader} {looks : Looks} {content : List UInt8}
    (read : reloader.read? looks = some content) :
    reloader.check looks =
      let behind := { reloader with
        memory := ⟨looks.forStamp.stamp?, some (Digest.ofBytes content)⟩ }
      if reloader.memory.digest = some (Digest.ofBytes content) then ⟨behind, .unchanged, []⟩
      else behind.reload looks.forPresence looks.forSettings := by
  rw [read?] at read
  cases shown : looks.forStamp.stamp? with
  | none =>
      rw [shown] at read
      cases read
  | some stamp =>
      simp only [shown] at read
      split at read
      · cases read
      · rename_i different
        simp only [check, shown, if_neg different, read]
        by_cases known : reloader.memory.digest = some (Digest.ofBytes content)
        · rw [if_pos known, ← known]
          exact if_pos rfl
        · rw [if_neg known]
          exact if_neg known

omit [CharacterNames] [DocumentReader] in
theorem content?_of_read {reloader : Reloader} {looks : Looks} {content : List UInt8}
    (read : reloader.read? looks = some content) : looks.forDigest.content? = some content := by
  rw [read?] at read
  split at read
  · cases read
  · split at read
    · cases read
    · exact read

@[simp] theorem reloader_reload (reloader : Reloader) (found opened : FileState) :
    (reloader.reload found opened).reloader = reloader := by
  rw [reload]
  split
  · rfl
  · split <;> rfl

theorem newTables?_reload (reloader : Reloader) (found opened : FileState) :
    Watcher.newTables? (reloader.reload found opened) =
      (Tables.ofFile reloader.resolved found opened).toOption := by
  rw [reload]
  cases Tables.ofFile reloader.resolved found opened with
  | ok tables => rfl
  | error fault =>
      simp only
      split <;> rfl

/-! ## What is remembered -/

theorem memory_check_of_read {reloader : Reloader} {looks : Looks} {content : List UInt8}
    (read : reloader.read? looks = some content) :
    (reloader.check looks).reloader.memory =
      ⟨looks.forStamp.stamp?, some (Digest.ofBytes content)⟩ := by
  rw [check_of_read read]
  split
  · rfl
  · rw [reloader_reload]

theorem digest_check_of_unread {reloader : Reloader} {looks : Looks}
    (unread : reloader.read? looks = none) :
    (reloader.check looks).reloader.memory.digest = reloader.memory.digest := by
  rcases check_of_unread unread with ⟨stamp, _, same⟩
  rw [same]

/-- A check changes nothing in a reloader but what it remembers. -/
theorem reloader_check (reloader : Reloader) (looks : Looks) :
    (reloader.check looks).reloader =
      { reloader with memory := (reloader.check looks).reloader.memory } := by
  cases read : reloader.read? looks with
  | none =>
      rcases check_of_unread read with ⟨stamp, _, same⟩
      rw [same]
  | some content =>
      rw [check_of_read read]
      split
      · rfl
      · rw [reloader_reload]

theorem path_check (reloader : Reloader) (looks : Looks) :
    (reloader.check looks).reloader.path = reloader.path := by
  rw [reloader_check]

@[simp] theorem resolved_check (reloader : Reloader) (looks : Looks) :
    (reloader.check looks).reloader.resolved = reloader.resolved := by
  rw [reloader_check]

/-! ## What is put in force -/

theorem inForce_check_of_unread {reloader : Reloader} {looks : Looks}
    (unread : reloader.read? looks = none) (live : Tables) :
    (reloader.check looks).inForce live = live := by
  rcases check_of_unread unread with ⟨stamp, _, same⟩
  rw [same]
  rfl

/-- A content whose digest is remembered puts nothing in force. -/
theorem inForce_check_of_known {reloader : Reloader} {looks : Looks} {content : List UInt8}
    (read : reloader.read? looks = some content)
    (known : reloader.memory.digest = some (Digest.ofBytes content)) (live : Tables) :
    (reloader.check looks).inForce live = live := by
  rw [check_of_read read]
  simp only [if_pos known]
  rfl

/-- A content with another digest makes the check put in force what its last two looks find. -/
theorem inForce_check_of_new {reloader : Reloader} {looks : Looks} {content : List UInt8}
    (read : reloader.read? looks = some content)
    (new : reloader.memory.digest ≠ some (Digest.ofBytes content)) (live : Tables) :
    (reloader.check looks).inForce live =
      (Tables.ofFile reloader.resolved looks.forPresence looks.forSettings).toOption.getD live := by
  rw [check_of_read read]
  simp only [if_neg new, Check.inForce, newTables?_reload]

end Reloader

/-- What is remembered of a file whose time stamps so far are given: no other stamp, and the digest
of the file as long as the file shows the stamp that is remembered. -/
structure Fingerprint.Tracks (memory : Fingerprint) (used : List Int) (file : FileState) : Prop where
  remembered : forall stamp, memory.stamp = some stamp -> stamp ∈ used
  shown : forall stamp, file.stamp? = some stamp -> stamp ∈ used
  covered : memory.stamp = file.stamp? -> forall content, file.content? = some content ->
    memory.digest = some (Digest.ofBytes content)

namespace Fingerprint

theorem digest_ofState (file : FileState) :
    (ofState file).digest = file.content?.map Digest.ofBytes := by
  cases file <;> rfl

theorem tracks_ofState (file : FileState) : (ofState file).Tracks file.stamp?.toList file where
  remembered := by
    intro stamp known
    cases file with
    | file shown bytes => exact Option.mem_toList.mpr known
    | _ => cases known
  shown := by
    intro stamp shown
    exact Option.mem_toList.mpr shown
  covered := by
    intro _ content here
    rw [digest_ofState, here]
    rfl

namespace Tracks

variable {memory : Fingerprint} {used : List Int} {file : FileState}

theorem apply (tracks : memory.Tracks used file) {step : FileStep}
    (fresh : (used ++ step.stamp?.toList).Nodup) :
    memory.Tracks (used ++ step.stamp?.toList) (step.apply file) where
  remembered := by
    intro stamp known
    exact List.mem_append_left _ (tracks.remembered stamp known)
  shown := by
    intro stamp shown
    rw [FileStep.stamp?_apply] at shown
    exact List.mem_append_right _ (Option.mem_toList.mpr shown)
  covered := by
    intro same content here
    -- A content comes with a stamp, and the stamp of the step is none of those before it.
    rcases Option.isSome_iff_exists.mp (FileState.stamp?_isSome_of_content? here) with ⟨stamp, shown⟩
    rw [shown] at same
    have before := tracks.remembered stamp same
    rw [FileStep.stamp?_apply] at shown
    have now : stamp ∈ step.stamp?.toList := Option.mem_toList.mpr shown
    exact absurd rfl ((List.nodup_append.mp fresh).2.2 stamp before stamp now)

/-- Changes that set new stamps keep track. -/
theorem after (tracks : memory.Tracks used file) {steps : List FileStep}
    (fresh : (used ++ FileStep.stamps steps).Nodup) :
    memory.Tracks (used ++ FileStep.stamps steps) (file.after steps) := by
  induction steps generalizing used file with
  | nil =>
      rw [FileStep.stamps, List.flatMap_nil, List.append_nil]
      exact tracks
  | cons step steps ih =>
      have split : FileStep.stamps (step :: steps) = step.stamp?.toList ++ FileStep.stamps steps :=
        List.flatMap_cons
      rw [split, ← List.append_assoc] at fresh ⊢
      exact ih (tracks.apply (List.nodup_append.mp fresh).1) fresh

variable [CharacterNames] [DocumentReader]

/-- A check keeps track of what its look for the digest finds. -/
theorem check_of_looks {reloader : Reloader} (looks : Looks) {more : List Int}
    (stamped : reloader.memory.Tracks used looks.forStamp)
    (digested : reloader.memory.Tracks more looks.forDigest) (within : used ⊆ more) :
    (reloader.check looks).reloader.memory.Tracks more looks.forDigest := by
  cases read : reloader.read? looks with
  | none =>
      rcases Reloader.check_of_unread read with ⟨stamp, cause, same⟩
      rw [same]
      rcases cause with ⟨kept, _⟩ | ⟨new, unreadable⟩
      · rw [kept]
        exact digested
      · refine ⟨?_, digested.shown, ?_⟩
        · intro known equal
          rw [new] at equal
          exact within (stamped.shown known equal)
        · intro _ content here
          exact absurd (here.symm.trans unreadable) (by simp)
  | some content =>
      rw [Reloader.memory_check_of_read read]
      refine ⟨?_, digested.shown, ?_⟩
      · intro known equal
        exact within (stamped.shown known equal)
      · intro _ other here
        have same := here.symm.trans (Reloader.content?_of_read read)
        injection same with same
        rw [same]

/-- A check during which the file changes keeps track. -/
theorem check {reloader : Reloader} (tracks : reloader.memory.Tracks used file)
    {changes : Interruption} (fresh : (used ++ FileStep.stamps changes.all).Nodup) :
    (reloader.check (changes.looks file)).reloader.memory.Tracks
      (used ++ FileStep.stamps changes.all) (file.after changes.all) := by
  rw [Interruption.all, FileStep.stamps_append, ← List.append_assoc] at fresh ⊢
  rw [FileState.after_append]
  have digested := tracks.after (List.nodup_append.mp fresh).1
  have checked := check_of_looks (changes.looks file) tracks digested
    (List.subset_append_left _ _)
  exact checked.after fresh

/-- A check of a file that stays as it is keeps track. -/
theorem checkNow {reloader : Reloader} (tracks : reloader.memory.Tracks used file) :
    (reloader.checkNow file).reloader.memory.Tracks used file :=
  check_of_looks (.steady file) tracks tracks (List.Subset.refl _)

end Tracks
end Fingerprint

/-! ## Checks of a file that stays as it is -/

namespace Reloader

variable {reloader : Reloader} {used : List Int} {file : FileState} {content : List UInt8}

/-- Only a content whose digest is remembered already goes unread. -/
theorem digest_of_unread (tracks : reloader.memory.Tracks used file)
    (here : file.content? = some content) (unread : reloader.read? (.steady file) = none) :
    reloader.memory.digest = some (Digest.ofBytes content) := by
  rcases Option.isSome_iff_exists.mp (FileState.stamp?_isSome_of_content? here) with ⟨stamp, shown⟩
  simp only [read?, Looks.steady, shown] at unread
  split at unread
  · rename_i same
    exact tracks.covered (same.trans shown.symm) content here
  · exact absurd (here.symm.trans unread) (by simp)

variable [CharacterNames] [DocumentReader]

/-- The content of the file is remembered behind a check, if there is one. -/
theorem digest_checkNow (tracks : reloader.memory.Tracks used file) :
    (reloader.checkNow file).reloader.memory.digest =
      (file.content?.map Digest.ofBytes).or reloader.memory.digest := by
  cases read : reloader.read? (.steady file) with
  | none =>
      rw [checkNow, digest_check_of_unread read]
      cases here : file.content? with
      | none => rfl
      | some content => exact digest_of_unread tracks here read
  | some content =>
      have here : file.content? = some content := content?_of_read read
      rw [checkNow, memory_check_of_read read, here]
      rfl

/-- Behind a check the tables of the file are in force exactly if they were before or the digest that
was remembered is another one. -/
theorem inForce_checkNow_eq_iff (tracks : reloader.memory.Tracks used file)
    (here : file.content? = some content) {tables : Tables}
    (given : Tables.ofContent? reloader.resolved content = some tables) (live : Tables) :
    (reloader.checkNow file).inForce live = tables ↔
      live = tables ∨ reloader.memory.digest ≠ some (Digest.ofBytes content) := by
  by_cases known : reloader.memory.digest = some (Digest.ofBytes content)
  · have kept : (reloader.checkNow file).inForce live = live := by
      cases read : reloader.read? (.steady file) with
      | none => exact inForce_check_of_unread read live
      | some found =>
          have same := (content?_of_read read).symm.trans here
          injection same with same
          exact inForce_check_of_known (read.trans (congrArg some same)) known live
    rw [kept]
    simp [known]
  · have read : reloader.read? (.steady file) = some content := by
      cases read : reloader.read? (.steady file) with
      | none => exact absurd (digest_of_unread tracks here read) known
      | some found => rw [← content?_of_read read, ← here]; rfl
    have loaded : (reloader.checkNow file).inForce live = tables := by
      rw [checkNow, inForce_check_of_new read known, Looks.steady,
        Tables.toOption_ofFile _ (FileState.isPresent_of_content? here) here, given]
      rfl
    exact iff_of_true loaded (Or.inr known)

/-- A new content of a file is loaded exactly if the file shows another stamp than the one that is
remembered. -/
theorem result_checkNow_of_new (here : file.content? = some content) {tables : Tables}
    (given : Tables.ofContent? reloader.resolved content = some tables)
    (new : reloader.memory.digest ≠ some (Digest.ofBytes content)) :
    (reloader.checkNow file).result =
      if file.stamp? = reloader.memory.stamp then .unchanged else .replaced tables := by
  by_cases same : file.stamp? = reloader.memory.stamp
  · rw [if_pos same, checkNow, check_of_same_stamp (Or.inr same)]
  · rcases Option.isSome_iff_exists.mp (FileState.stamp?_isSome_of_content? here) with
      ⟨stamp, shown⟩
    have read : reloader.read? (.steady file) = some content := by
      rw [shown] at same
      simp only [read?, Looks.steady, shown, if_neg (Ne.symm same), here]
    rw [if_neg same, checkNow, check_of_read read]
    simp only [if_neg new, reload, Looks.steady, Tables.ofFile_of_content? here given]

/-- A file that holds no tables leaves those in force as they are. -/
theorem inForce_checkNow_of_unheld (reloader : Reloader)
    (unheld : Tables.heldBy? reloader.resolved file = none) (live : Tables) :
    (reloader.checkNow file).inForce live = live := by
  cases read : reloader.read? (.steady file) with
  | none => exact inForce_check_of_unread read live
  | some content =>
      have here : file.content? = some content := content?_of_read read
      by_cases known : reloader.memory.digest = some (Digest.ofBytes content)
      · exact inForce_check_of_known read known live
      · rw [Tables.heldBy?, here, Option.bind_some] at unheld
        rw [checkNow, inForce_check_of_new read known, Looks.steady,
          Tables.toOption_ofFile _ (FileState.isPresent_of_content? here) here, unheld]
        rfl

/-- A check right behind another one does nothing. -/
theorem checkNow_again (reloader : Reloader) (file : FileState) :
    (reloader.checkNow file).reloader.checkNow file =
      ⟨(reloader.checkNow file).reloader, .unchanged, []⟩ := by
  apply check_of_same_stamp
  cases shown : file.stamp? with
  | none => exact Or.inl shown
  | some stamp =>
      right
      cases read : reloader.read? (.steady file) with
      | none =>
          rcases check_of_unread read with ⟨remembered, cause, same⟩
          rw [checkNow, same]
          rcases cause with ⟨kept, absent | equal⟩ | ⟨new, _⟩
          · exact absurd (shown.symm.trans absent) (by simp)
          · exact equal.trans kept.symm
          · exact new.symm
      | some content =>
          rw [checkNow, memory_check_of_read read]

end Reloader

/-! ## Two contents -/

/-- The content of settings that are to be followed and name the model of a tier. -/
def contentNaming (model : String) : List UInt8 :=
  (Text.ofString "reload:\n enabled: on\nrouter:\n rules: []\n tiers:\n  low: " ++
    Text.ofString model).map fun c => UInt8.ofNat c.toNat

/-- A file with the first of the contents. -/
def openingFile : FileState := .file 1000 (contentNaming "a")

/-- The path of the root. -/
def rootPath : Path := ⟨.root, []⟩

/-- Both contents give tables, and not the same ones. -/
theorem exists_given_tables :
    Exists fun first : Tables => Exists fun second : Tables =>
      Tables.ofContent? rootPath (contentNaming "a") = some first ∧
        Tables.ofContent? rootPath (contentNaming "b") = some second ∧ first ≠ second := by
  have accepted : (Tables.ofContent? rootPath (contentNaming "a")).isSome = true ∧
      (Tables.ofContent? rootPath (contentNaming "b")).isSome = true ∧
      Tables.ofContent? rootPath (contentNaming "a") ≠
        Tables.ofContent? rootPath (contentNaming "b") := by
    decide +kernel
  rcases Option.isSome_iff_exists.mp accepted.1 with ⟨first, givenFirst⟩
  rcases Option.isSome_iff_exists.mp accepted.2.1 with ⟨second, givenSecond⟩
  refine ⟨first, second, givenFirst, givenSecond, ?_⟩
  intro same
  exact accepted.2.2 (by rw [givenFirst, givenSecond, same])

theorem exists_of_any_toOption {result : Except ε α} {test : α -> Bool}
    (passed : result.toOption.any test = true) :
    Exists fun value => result = .ok value ∧ test value = true := by
  cases result with
  | error fault => cases passed
  | ok value => exact ⟨value, rfl, passed⟩

/-- The built-in tables are not those of the second content. -/
theorem exists_builtin_tables :
    Exists fun builtin : Tables => Tables.ofFile rootPath .absent .absent = .ok builtin ∧
      some builtin ≠ Tables.ofContent? rootPath (contentNaming "b") := by
  have built : ((Tables.ofFile rootPath .absent .absent).toOption.any fun builtin =>
      some builtin != Tables.ofContent? rootPath (contentNaming "b")) = true := by
    decide +kernel
  rcases exists_of_any_toOption built with ⟨builtin, same, different⟩
  exact ⟨builtin, same, bne_iff_ne.mp different⟩

theorem nodup_digests :
    ([contentNaming "a", contentNaming "b", [0xFF]].map Digest.ofBytes).Nodup := by
  decide +kernel

/-- A reloader that remembers the file with the first content. -/
def openingReloader : Reloader := ⟨rootPath, rootPath, Fingerprint.ofState openingFile⟩

/-- The second content is not the one that it remembers. -/
theorem digest_openingReloader_ne :
    openingReloader.memory.digest ≠ some (Digest.ofBytes (contentNaming "b")) := by
  have apart := nodup_digests
  simp only [List.map_cons, List.nodup_cons, List.mem_cons, not_or] at apart
  intro same
  exact apart.1.1 (Option.some.inj same)

end Switchboard
