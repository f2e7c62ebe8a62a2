import Switchboard.Proofs.Checking
import Mathlib.Data.List.Induction

namespace Switchboard

/-!
# A file that cannot be read for a while

Something may be at the path of the settings and yet not be readable: a directory, or a file that
must not be read.  A check of it loads nothing and reports nothing, and it keeps the digest that is
remembered.  It does not keep the stamp: the stamp is remembered before the content is asked for.

So a content that comes to be readable later on is loaded by the next check, unless it comes with
the very stamp that was seen last while nothing could be read.
-/

/-- Whether a check finds a stamp and no content. -/
def Looks.areBarred (looks : Looks) : Bool :=
  looks.forStamp.stamp?.isSome && looks.forDigest.content?.isNone

namespace Reloader

variable {reloader : Reloader} {looks last : Looks} {blocked : List Looks}

section

variable [CharacterNames] [DocumentReader]

/-- The reloader behind checks, one after the other. -/
def afterChecks (reloader : Reloader) (checks : List Looks) : Reloader :=
  checks.foldl (fun reloader looks => (reloader.check looks).reloader) reloader

/-- A check that cannot read remembers the stamp, and that is all it does. -/
theorem check_of_barred (barred : looks.areBarred = true) :
    reloader.check looks =
      ⟨{ reloader with memory := ⟨looks.forStamp.stamp?, reloader.memory.digest⟩ },
        .unchanged, []⟩ := by
  rw [Looks.areBarred, Bool.and_eq_true, Option.isNone_iff_eq_none] at barred
  rcases Option.isSome_iff_exists.mp barred.1 with ⟨stamp, shown⟩
  by_cases same : reloader.memory.stamp = some stamp
  · rw [check_of_same_stamp (Or.inr (shown.trans same.symm)), shown, ← same]
  · have unread : reloader.read? looks = none := by
      simp only [read?, shown, if_neg same, barred.2]
    rcases check_of_unread unread with ⟨remembered, cause, checked⟩
    rcases cause with ⟨_, absent | equal⟩ | ⟨new, _⟩
    · exact absurd (shown.symm.trans absent) (by simp)
    · exact absurd (equal.symm.trans shown) same
    · rw [checked, new]

theorem afterChecks_concat (reloader : Reloader) (checks : List Looks) (looks : Looks) :
    reloader.afterChecks (checks ++ [looks]) =
      ((reloader.afterChecks checks).check looks).reloader :=
  List.foldl_append

/-- Checks that cannot read keep all but the stamp, of which the one that is seen last stays. -/
theorem afterChecks_of_barred (reloader : Reloader)
    (barred : forall looks, looks ∈ blocked -> looks.areBarred = true) :
    reloader.afterChecks blocked =
      { reloader with
        memory :=
          ⟨(blocked.getLast?.map (·.forStamp.stamp?)).getD reloader.memory.stamp,
            reloader.memory.digest⟩ } := by
  induction blocked using List.reverseRecOn with
  | nil => rfl
  | append_singleton blocked looks ih =>
      have barredLast := barred looks (List.mem_append_right _ List.mem_cons_self)
      rw [afterChecks_concat, ih fun other member => barred other (List.mem_append_left _ member),
        check_of_barred barredLast, List.getLast?_concat]
      rfl

/-- Checks that find a stamp and cannot read come to nothing, report nothing and keep all that is
remembered but the stamp, of which the one seen last stays.  They forget nothing exactly if that
stamp was remembered before.  When the file holds a new content that gives tables, the next check
puts these in force, unless the file shows the stamp seen last. -/
theorem barred_checks_cost_only_the_stamp (reloader : Reloader)
    (barred : forall looks, looks ∈ blocked ++ [last] -> looks.areBarred = true) :
    (forall looks, looks ∈ blocked ++ [last] -> forall now : Reloader,
      (now.check looks).result = .unchanged ∧ (now.check looks).notices = []) ∧
    reloader.afterChecks (blocked ++ [last]) =
      { reloader with memory := ⟨last.forStamp.stamp?, reloader.memory.digest⟩ } ∧
    (reloader.afterChecks (blocked ++ [last]) = reloader ↔
      last.forStamp.stamp? = reloader.memory.stamp) ∧
    forall (file : FileState) (content : List UInt8) (tables : Tables),
      file.content? = some content -> Tables.ofContent? reloader.resolved content = some tables ->
        reloader.memory.digest ≠ some (Digest.ofBytes content) ->
          ((reloader.afterChecks (blocked ++ [last])).checkNow file).result =
            if file.stamp? = last.forStamp.stamp? then .unchanged else .replaced tables := by
  have behind := afterChecks_of_barred reloader barred
  rw [List.getLast?_concat, Option.map_some, Option.getD_some] at behind
  refine ⟨?_, behind, ?_, ?_⟩
  · intro looks member now
    rw [check_of_barred (barred looks member)]
    exact ⟨rfl, rfl⟩
  · rw [behind]
    constructor
    · intro same
      exact congrArg (·.memory.stamp) same
    · intro same
      rw [same]
  · intro file content tables here given new
    rw [behind]
    exact result_checkNow_of_new here given new

end

/-- Behind two looks at a directory the second content is loaded when it comes with a new stamp. -/
theorem barred_checks_cost_only_the_stamp_directory :
    Exists fun second : Tables => Tables.ofContent? rootPath (contentNaming "b") = some second ∧
      ((openingReloader.afterChecks
          [.steady (.directory 1005), .steady (.directory 1010)]).checkNow
        (.file 1020 (contentNaming "b"))).result = .replaced second := by
  rcases exists_given_tables with ⟨_, second, _, given, _⟩
  have barred : forall looks,
      looks ∈ [Looks.steady (.directory 1005)] ++ [Looks.steady (.directory 1010)] ->
        looks.areBarred = true := by
    intro looks member
    simp only [List.cons_append, List.nil_append, List.mem_cons, List.not_mem_nil, or_false] at member
    rcases member with rfl | rfl <;> rfl
  rcases barred_checks_cost_only_the_stamp openingReloader barred with ⟨_, _, _, loads⟩
  have loaded := loads (.file 1020 (contentNaming "b")) _ _ rfl given digest_openingReloader_ne
  exact ⟨second, given, loaded⟩

/-- A look at a directory changes what is remembered, and a new content that comes with the stamp of
the directory is not loaded. -/
theorem barred_check_hides_content_with_its_stamp :
    (¬ forall (reloader : Reloader) (barred : FileState),
      (Looks.steady barred).areBarred = true ->
        (reloader.checkNow barred).reloader.memory = reloader.memory) ∧
    ¬ forall (reloader : Reloader) (barred file : FileState) (content : List UInt8)
      (tables : Tables), (Looks.steady barred).areBarred = true -> file.content? = some content ->
        Tables.ofContent? reloader.resolved content = some tables ->
          reloader.memory.digest ≠ some (Digest.ofBytes content) ->
            ((reloader.checkNow barred).reloader.checkNow file).result = .replaced tables := by
  have barred : (Looks.steady (.directory 1010)).areBarred = true := rfl
  have behind : (openingReloader.checkNow (.directory 1010)).reloader.memory.stamp = some 1010 :=
    congrArg (·.reloader.memory.stamp) (check_of_barred barred)
  constructor
  · intro kept
    rw [kept openingReloader _ barred] at behind
    cases behind
  · intro loads
    rcases exists_given_tables with ⟨_, second, _, given, _⟩
    have loaded := loads openingReloader (.directory 1010) (.file 1010 (contentNaming "b")) _ _
      barred rfl given digest_openingReloader_ne
    have same : (FileState.file 1010 (contentNaming "b")).stamp? =
        (openingReloader.checkNow (.directory 1010)).reloader.memory.stamp := behind.symm
    rw [checkNow, check_of_same_stamp (Or.inr same)] at loaded
    cases loaded

end Reloader
end Switchboard
