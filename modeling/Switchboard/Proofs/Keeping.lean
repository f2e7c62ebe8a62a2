import Switchboard.Proofs.Changes

namespace Switchboard

/-!
# What the steps of a session do to its files

A session changes its files in one place only.  Every other step, whatever it makes, loads, checks
or fails at, leaves them as they are; the loops that have their turn during a step read files and
write none.

A change is made at one path, to what is found there, if that can be done.  A directory can only be
touched or made once more: it is not written to, and not removed.  So a directory stays a directory
for the rest of the session.
-/

namespace Files

theorem get_put_of_ne (files : Files) {path other : Path} (apart : other ≠ path)
    (state : FileState) : (files.put path state).get other = files.get other := by
  induction files with
  | nil =>
      rw [put, get, List.lookup_cons, beq_false_of_ne apart]
      rfl
  | cons entry rest ih =>
      rcases entry with ⟨key, old⟩
      rw [get, get] at ih
      rw [put]
      split
      · rename_i same
        rw [get, get, List.lookup_cons, List.lookup_cons, same, beq_false_of_ne apart]
      · rw [get, get, List.lookup_cons, List.lookup_cons]
        cases other == key with
        | true => rfl
        | false => exact ih

end Files

/-- What becomes of a directory is a directory. -/
theorem FileStep.exists_stamp_of_attempt (step : FileStep) {before : Int} {state : FileState}
    (made : step.attempt (.directory before) = .ok state) :
    Exists fun stamp : Int => state = .directory stamp := by
  cases step with
  | write stamp content => cases made
  | touch stamp =>
      cases made
      exact ⟨stamp, rfl⟩
  | delete => cases made
  | makeDirectory stamp =>
      cases made
      exact ⟨stamp, rfl⟩

namespace Session

variable {session : Session}

/-! ## Steps that change no file -/

/-- A step that leaves the files as they are. -/
def Outcome.KeepsFiles (outcome : Outcome) (session : Session) : Prop :=
  outcome.session.files = session.files

theorem keepsFiles_answer (session : Session) (reply : Reply) (notices : List Notice) :
    (session.answer reply notices).KeepsFiles session := rfl

theorem keepsFiles_fail (session : Session) (fault : StepFault) (notices : List Notice) :
    (session.fail fault notices).KeepsFiles session := rfl

theorem files_putNew (session : Session) (place : Nat) (tables : Option Tables) :
    (session.putNew place tables).files = session.files := by
  cases tables <;> rfl

theorem keepsFiles_answerRouting (session : Session) (result : Except RoutingFault α)
    (reply : α -> Reply) (notices : α -> List Notice) :
    (session.answerRouting result reply notices).KeepsFiles session := by
  cases result <;> rfl

theorem keepsFiles_withRouter {next : Nat -> Live -> Outcome}
    (each : forall place live, (next place live).KeepsFiles session) :
    (session.withRouter next).KeepsFiles session := by
  rw [withRouter]
  split
  · exact each _ _
  · exact keepsFiles_answer session _ _

theorem keepsFiles_withWatched {next : Watched -> Outcome} {before : Session}
    (files : session.files = before.files)
    (each : forall watched, (next watched).KeepsFiles before) :
    (session.withWatched next).KeepsFiles before := by
  rw [withWatched]
  split
  · exact each _
  · exact files

theorem keepsFiles_withHook {next : Hook -> Outcome}
    (each : forall hook, (next hook).KeepsFiles session) :
    (session.withHook next).KeepsFiles session := by
  rw [withHook]
  split
  · exact each _
  · exact keepsFiles_answer session _ _

theorem keepsFiles_takeFingerprint (session : Session) (path : Text) :
    (session.takeFingerprint path).KeepsFiles session := by
  rw [takeFingerprint]
  cases session.locate path <;> rfl

theorem keepsFiles_watch (session : Session) (place : Nat) (path : Text)
    (baseline : Option Fingerprint) : (session.watch place path baseline).KeepsFiles session := by
  rw [watch]
  cases session.watchedPath path baseline <;> rfl

theorem keepsFiles_callHook (session : Session) (notices : List Notice) (hook : Hook)
    (call : HookCall) : (session.callHook notices hook call).KeepsFiles session := by
  rw [callHook]
  split <;> rfl

section

variable [CharacterNames]

theorem keepsFiles_createWith (session : Session) (settings : RouterSettings) :
    (session.createWith settings).KeepsFiles session := by
  rw [createWith]
  cases Tables.build settings <;> rfl

theorem keepsFiles_create (session : Session) (settings : Option Datum) :
    (session.create settings).KeepsFiles session := by
  rw [create]
  cases routerSettings settings with
  | error problems => exact keepsFiles_fail session _ _
  | ok settings => exact keepsFiles_createWith session settings

theorem keepsFiles_reload (session : Session) (place : Nat) (settings : Option Datum) :
    (session.reload place settings).KeepsFiles session := by
  rw [reload]
  cases routerSettings settings with
  | error problems => exact keepsFiles_fail session _ _
  | ok settings =>
      simp only [reloadWith]
      cases Tables.build settings <;> rfl

theorem keepsFiles_createHook (session : Session) (settings reload : Option Datum)
    (path : Option Text) : (session.createHook settings reload path).KeepsFiles session := by
  rw [createHook]
  cases routerSettings settings with
  | error problems => exact keepsFiles_fail session _ _
  | ok settings =>
      cases built : Tables.build settings with
      | error fault =>
          simp only [built]
          exact keepsFiles_fail session _ _
      | ok tables =>
          simp only [built]
          cases reloadSettings reload <;> rfl

variable [DocumentReader]

theorem keepsFiles_loadRouter (session : Session) (asked : Text) :
    (session.loadRouter asked).KeepsFiles session := by
  rw [loadRouter]
  cases session.around.settingsPath (some asked) with
  | error fault => exact keepsFiles_fail session _ _
  | ok path =>
      simp only
      split
      · exact keepsFiles_fail session _ _
      · split <;> rfl

theorem keepsFiles_loadHook (session : Session) (path : Option Text) :
    (session.loadHook path).KeepsFiles session := by
  rw [loadHook]
  split <;> rfl

theorem keepsFiles_checkHook (session : Session) (hook : Hook) :
    (session.checkHook hook).KeepsFiles session := by
  rw [checkHook]
  split <;> rfl

/-- A turn of loops leaves the files as they are. -/
theorem files_turnOfAll (session : Session) (waiting : List Watched) :
    (session.turnOfAll waiting).2.1.files = session.files := by
  induction waiting generalizing session with
  | nil => rfl
  | cons watched rest ih => exact (ih _).trans (files_putNew session _ _)

theorem files_turn (session : Session) : session.turn.1.files = session.files := by
  rw [turn]
  simp only
  split
  · exact files_turnOfAll session session.replaced
  · exact (files_putNew _ _ _).trans (files_turnOfAll session session.replaced)

/-! ## All steps -/

/-- A step leaves the files as they are, or it is a change at one path. -/
theorem keepsFiles_or_changes (session : Session) (action : Action) :
    (session.perform action).KeepsFiles session ∨
      Exists fun text : Text => Exists fun step : FileStep =>
        session.perform action = session.change text step.attempt := by
  cases action with
  | write path content stamp => exact .inr ⟨path, .write (session.stampOr stamp) content, rfl⟩
  | touch path stamp => exact .inr ⟨path, .touch (session.stampOr stamp), rfl⟩
  | delete path => exact .inr ⟨path, .delete, rfl⟩
  | makeDirectory path stamp => exact .inr ⟨path, .makeDirectory (session.stampOr stamp), rfl⟩
  | create settings => exact .inl (keepsFiles_create session settings)
  | load path => exact .inl (keepsFiles_loadRouter session path)
  | reload settings =>
      exact .inl (keepsFiles_withRouter fun place _ => keepsFiles_reload session place settings)
  | hold => exact .inl (keepsFiles_withRouter fun _ _ => rfl)
  | held message =>
      refine .inl (keepsFiles_withRouter fun _ live => ?_)
      split <;> rfl
  | decide message =>
      exact .inl (keepsFiles_withRouter fun _ _ => keepsFiles_answerRouting session _ _ _)
  | classify message => exact .inl (keepsFiles_withRouter fun _ _ => rfl)
  | route request =>
      exact .inl (keepsFiles_withRouter fun _ _ => keepsFiles_answerRouting session _ _ _)
  | status =>
      exact .inl (keepsFiles_withRouter fun _ _ => keepsFiles_answerRouting session _ _ _)
  | resolve category =>
      exact .inl (keepsFiles_withRouter fun _ _ => keepsFiles_answerRouting session _ _ _)
  | isAutomatic request => exact .inl (keepsFiles_withRouter fun _ _ => rfl)
  | fingerprint path => exact .inl (keepsFiles_takeFingerprint session path)
  | watch path fromFingerprint =>
      exact .inl (keepsFiles_withRouter fun place _ => keepsFiles_watch session place path _)
  | check => exact .inl (keepsFiles_withWatched rfl fun _ => files_putNew session _ _)
  | start =>
      refine .inl (keepsFiles_withWatched rfl fun _ => ?_)
      exact keepsFiles_withWatched (files_turn session) fun _ => files_turn session
  | tick =>
      refine .inl (keepsFiles_withWatched rfl fun _ => ?_)
      exact keepsFiles_withWatched (files_turn session) fun _ => files_turn session
  | stop => exact .inl (keepsFiles_withWatched rfl fun _ => rfl)
  | createHook settings reload path =>
      exact .inl (keepsFiles_createHook session settings reload path)
  | loadHook path => exact .inl (keepsFiles_loadHook session path)
  | callHook call =>
      refine .inl (keepsFiles_withHook fun hook => ?_)
      exact (keepsFiles_callHook _ _ hook call).trans (files_turn session)
  | checkHook => exact .inl (keepsFiles_withHook fun hook => keepsFiles_checkHook session hook)
  | stopHook => exact .inl (keepsFiles_withHook fun _ => rfl)

end

/-! ## Directories -/

/-- There is a directory at a path. -/
def HasDirectoryAt (session : Session) (path : Path) : Prop :=
  Exists fun stamp : Int => session.files.get path = .directory stamp

theorem HasDirectoryAt.change {path : Path} (here : session.HasDirectoryAt path) (text : Text)
    (step : FileStep) : (session.change text step.attempt).session.HasDirectoryAt path := by
  rcases here with ⟨before, here⟩
  rw [Session.change]
  split
  · exact ⟨before, here⟩
  · rename_i located _
    simp only
    split
    · exact ⟨before, here⟩
    · rename_i state made
      by_cases same : path = session.around.resolve located
      · rw [← same, here] at made
        rcases step.exists_stamp_of_attempt made with ⟨stamp, becomes⟩
        refine ⟨stamp, ?_⟩
        rw [same, Files.get_put, becomes]
      · exact ⟨before, (Files.get_put_of_ne _ same _).trans here⟩

variable [CharacterNames] [DocumentReader]

theorem HasDirectoryAt.perform {path : Path} (here : session.HasDirectoryAt path)
    (action : Action) : (session.perform action).session.HasDirectoryAt path := by
  rcases session.keepsFiles_or_changes action with kept | ⟨text, step, same⟩
  · rcases here with ⟨stamp, here⟩
    exact ⟨stamp, (congrArg (Files.get · path) kept).trans here⟩
  · rw [same]
    exact here.change text step

/-- The session behind steps, one after the other. -/
def run (session : Session) (actions : List Action) : Session :=
  actions.foldl (fun session action => (session.perform action).session) session

/-- A directory stays a directory, whatever is done in a session. -/
theorem HasDirectoryAt.run {path : Path} (here : session.HasDirectoryAt path)
    (actions : List Action) : (session.run actions).HasDirectoryAt path := by
  induction actions generalizing session with
  | nil => exact here
  | cons action actions ih => exact ih (here.perform action)

end Session
end Switchboard
