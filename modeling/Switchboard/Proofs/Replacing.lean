import Switchboard.Proofs.Checking
import Switchboard.Proofs.Validating
import Switchboard.Session.Step

namespace Switchboard

/-!
# Tables are replaced as a whole, and nothing else is left behind

A router is made, reloaded and checked, with settings that are accepted and with others, and is
asked in between.  A step that gets as far as trying settings from which tables can be built puts
these tables in force, under a number of their own, and says so.  Every other step leaves what is in
force as it is, whatever it stumbles over.

So the tables in force are always those of the latest settings that were accepted.  Since answers
are read off the tables alone, they are the answers of a router that is newly made from these
settings.
-/

/-- The settings that a check comes to try: those that it loads, if it reads a content whose digest
it does not remember. -/
def Reloader.tried? [DocumentReader] (reloader : Reloader) (looks : Looks) :
    Option RouterSettings :=
  (reloader.read? looks).bind fun content =>
    if reloader.memory.digest = some (Digest.ofBytes content) then none
    else
      (Settings.load reloader.resolved looks.forPresence looks.forSettings).toOption.map (·.router)

/-- A step that makes, changes or asks the router in use. -/
inductive RouterStep where
  | create (settings : RouterSettings)
  | reload (settings : RouterSettings)
  /-- A check of a file by whatever watcher serves the router, and what the check finds there. -/
  | check (watcher : Watcher) (looks : Looks)
  | decide (message : Text)
  | route (request : Chat.Request)
  | classify (message : Text)
  | status

namespace RouterStep

/-- A step in a session. -/
def perform [CharacterNames] [DocumentReader] (session : Session) : RouterStep -> Session.Outcome
  | create settings => session.createWith settings
  | reload settings => session.withRouter fun place _ => session.reloadWith place settings
  | check watcher looks =>
      session.withRouter fun place _ => session.checkWith ⟨watcher, place⟩ looks
  | decide message => session.perform (.decide message)
  | route request => session.perform (.route request)
  | classify message => session.perform (.classify message)
  | status => session.perform .status

/-- The settings that a step comes to try.  Without a router in use there is nothing to reload or to
check. -/
def tried? [DocumentReader] (session : Session) : RouterStep -> Option RouterSettings
  | create settings => some settings
  | reload settings => session.live?.map fun _ => settings
  | check watcher looks => session.live?.bind fun _ => watcher.reloader.tried? looks
  | _ => none

/-- Whether a step only asks. -/
def isQuestion : RouterStep -> Bool
  | decide _ => true
  | route _ => true
  | classify _ => true
  | status => true
  | _ => false

end RouterStep

namespace Session

/-- Whether a step says that it has put tables in force: a router has been made or reloaded, or a
check has found settings that it could use. -/
def Outcome.isReplacement (outcome : Outcome) : Bool :=
  match outcome.reply with
  | .ok .done => true
  | .ok (.tables _) => true
  | .ok (.checked isReplaced) => isReplaced
  | _ => false

/-! ## The router in use -/

theorem live?_addRouter (session : Session) (tables : Tables) :
    (session.addRouter tables).live? = some ⟨tables, session.nextNumber⟩ := by
  simp [live?, addRouter]

theorem live?_putTables {session : Session} {place : Nat} {live : Live}
    (current : session.current = some place) (serving : session.live? = some live)
    (tables : Tables) :
    (session.putTables place tables).live? = some ⟨tables, session.nextNumber⟩ := by
  rw [live?, current] at serving
  have inside : place < session.routers.length := (List.getElem?_eq_some_iff.mp serving).1
  simp [live?, putTables, current, inside]

theorem withRouter_of_none {session : Session} (idle : session.live? = none)
    (next : Nat -> Live -> Outcome) :
    session.withRouter next = session.answer (.lacking .router) := by
  rw [withRouter, idle]
  cases session.current <;> rfl

/-- A step that needs a router is given the one in use. -/
theorem withRouter_of_some {session : Session} {live : Live} (serving : session.live? = some live) :
    Exists fun place : Nat => session.current = some place ∧
      forall next : Nat -> Live -> Outcome, session.withRouter next = next place live := by
  cases current : session.current with
  | none =>
      rw [live?, current] at serving
      cases serving
  | some place =>
      refine ⟨place, rfl, ?_⟩
      intro next
      rw [withRouter, current, serving]

end Session

/-! ## What a step does -/

theorem Tables.toOption_ofFile_eq_bind [CharacterNames] [DocumentReader] (resolved : Path)
    (found opened : FileState) :
    (ofFile resolved found opened).toOption =
      ((Settings.load resolved found opened).toOption.map (·.router)).bind fun settings =>
        (build settings).toOption := by
  rw [ofFile]
  cases Settings.load resolved found opened with
  | error fault => rfl
  | ok settings => cases built : build settings.router <;> simp [Except.toOption, built]

/-- A check puts in force what is built from the settings that it comes to try. -/
theorem Reloader.newTables?_check [CharacterNames] [DocumentReader] (reloader : Reloader)
    (looks : Looks) :
    Watcher.newTables? (reloader.check looks) =
      (reloader.tried? looks).bind fun settings => (Tables.build settings).toOption := by
  rw [tried?]
  cases read : reloader.read? looks with
  | none =>
      rcases check_of_unread read with ⟨_, _, same⟩
      rw [same]
      rfl
  | some content =>
      rw [check_of_read read, Option.bind_some]
      simp only
      by_cases known : reloader.memory.digest = some (Digest.ofBytes content)
      · rw [if_pos known, if_pos known]
        rfl
      · rw [if_neg known, if_neg known, newTables?_reload, Tables.toOption_ofFile_eq_bind]

namespace Session

/-- What a step that tries settings, or none, does to the tables in force. -/
inductive Effect [CharacterNames] (before : Session) (tried : Option RouterSettings)
    (outcome : Outcome) : Prop where
  /-- It puts in force what is built from the settings. -/
  | replaces {settings : RouterSettings} {tables : Tables}
      (said : outcome.isReplacement = true) (here : tried = some settings)
      (built : Tables.build settings = .ok tables)
      (put : outcome.session.live? = some ⟨tables, before.nextNumber⟩)
  | keeps (said : outcome.isReplacement = false)
      (unbuilt : (tried.bind fun settings => (Tables.build settings).toOption) = none)
      (kept : outcome.session.live? = before.live?)

namespace Effect

variable {before : Session} {tried : Option RouterSettings} {outcome : Outcome}

variable [CharacterNames]

theorem isReplacement_iff (effect : Effect before tried outcome) :
    outcome.isReplacement = true ↔
      Exists fun settings : RouterSettings => Exists fun tables : Tables =>
        tried = some settings ∧ Tables.build settings = .ok tables := by
  cases effect with
  | replaces said here built put => exact iff_of_true said ⟨_, _, here, built⟩
  | keeps said unbuilt kept =>
      rw [said]
      refine iff_of_false Bool.false_ne_true ?_
      rintro ⟨settings, tables, here, built⟩
      rw [here, Option.bind_some, built] at unbuilt
      cases unbuilt

theorem live?_of_tried (effect : Effect before tried outcome) {settings : RouterSettings}
    {tables : Tables} (here : tried = some settings) (built : Tables.build settings = .ok tables) :
    outcome.session.live? = some ⟨tables, before.nextNumber⟩ := by
  have said := effect.isReplacement_iff.mpr ⟨settings, tables, here, built⟩
  cases effect with
  | replaces _ found made put =>
      rw [here] at found
      injection found with same
      rw [← same, built] at made
      injection made with equal
      rw [put, equal]
  | keeps unsaid _ _ =>
      rw [said] at unsaid
      cases unsaid

theorem live?_of_not_replacement (effect : Effect before tried outcome)
    (unsaid : outcome.isReplacement = false) : outcome.session.live? = before.live? := by
  cases effect with
  | replaces said _ _ _ =>
      rw [said] at unsaid
      cases unsaid
  | keeps _ _ kept => exact kept

end Effect

variable [CharacterNames] [DocumentReader]

omit [DocumentReader] in
theorem effect_createWith (session : Session) (settings : RouterSettings) :
    Effect session (some settings) (session.createWith settings) := by
  unfold createWith
  cases built : Tables.build settings with
  | error fault => exact .keeps rfl (by rw [Option.bind_some, built]; rfl) rfl
  | ok tables => exact .replaces rfl rfl built (session.live?_addRouter tables)

omit [DocumentReader] in
theorem effect_reloadWith {session : Session} {place : Nat} {live : Live}
    (current : session.current = some place) (serving : session.live? = some live)
    (settings : RouterSettings) :
    Effect session (some settings) (session.reloadWith place settings) := by
  unfold reloadWith
  cases built : Tables.build settings with
  | error fault => exact .keeps rfl (by rw [Option.bind_some, built]; rfl) rfl
  | ok tables => exact .replaces rfl rfl built (live?_putTables current serving tables)

omit [CharacterNames] [DocumentReader] in
/-- A check says that tables were replaced exactly if it puts some in force. -/
theorem isReplacement_checkReply (session : Session) (check : Check) (notices : List Notice) :
    (⟨session, checkReply check, notices⟩ : Outcome).isReplacement =
      (Watcher.newTables? check).isSome := by
  unfold checkReply Watcher.newTables?
  cases check.result <;> rfl

theorem effect_checkWith {session : Session} {place : Nat} {live : Live}
    (current : session.current = some place) (serving : session.live? = some live)
    (watcher : Watcher) (looks : Looks) :
    Effect session (watcher.reloader.tried? looks)
      (session.checkWith ⟨watcher, place⟩ looks) := by
  have exact_tables := watcher.reloader.newTables?_check looks
  unfold checkWith
  cases new : Watcher.newTables? (watcher.reloader.check looks) with
  | none =>
      rw [new] at exact_tables
      refine .keeps ?_ exact_tables.symm ?_
      · rw [isReplacement_checkReply, new]
        rfl
      · simp only [new]
        rfl
  | some tables =>
      rw [new] at exact_tables
      rcases Option.bind_eq_some_iff.mp exact_tables.symm with ⟨settings, tried, made⟩
      refine .replaces ?_ tried (toOption_eq_some_iff.mp made) ?_
      · rw [isReplacement_checkReply, new]
        rfl
      · simp only [new]
        exact live?_putTables current serving tables

omit [DocumentReader] in
theorem effect_withRouter {session : Session} {tried : Option RouterSettings}
    {next : Nat -> Live -> Outcome} (idle : session.live? = none -> tried = none)
    (each : forall (place : Nat) (live : Live), session.current = some place ->
      session.live? = some live -> Effect session tried (next place live)) :
    Effect session tried (session.withRouter next) := by
  cases serving : session.live? with
  | none =>
      rw [withRouter_of_none serving, idle serving]
      exact .keeps rfl rfl rfl
  | some live =>
      rcases withRouter_of_some serving with ⟨place, current, given⟩
      rw [given]
      exact each place live current serving

omit [DocumentReader] in
/-- Looking something up in the tables in force leaves them there. -/
theorem effect_lookUp {session : Session} {result : Live -> Except RoutingFault α}
    {reply : α -> Reply} {notices : α -> List Notice}
    (other : forall value : α,
      (session.answer (reply value) (notices value)).isReplacement = false) :
    Effect session none (session.withRouter fun _ live =>
      session.answerRouting (result live) reply notices) := by
  apply effect_withRouter fun _ => rfl
  intro _ live _ _
  unfold answerRouting
  cases result live with
  | error fault => exact .keeps rfl rfl rfl
  | ok value => exact .keeps (other value) rfl rfl

end Session

/-- A step puts in force what is built from the settings that it tries and says so, or leaves what
is in force as it is. -/
theorem RouterStep.effect [CharacterNames] [DocumentReader] (session : Session)
    (step : RouterStep) :
    Session.Effect session (step.tried? session) (step.perform session) := by
  cases step with
  | create settings => exact session.effect_createWith settings
  | reload settings =>
      apply Session.effect_withRouter
      · intro idle
        rw [tried?, idle]
        rfl
      · intro place live current serving
        rw [tried?, serving]
        exact Session.effect_reloadWith current serving settings
  | check watcher looks =>
      apply Session.effect_withRouter
      · intro idle
        rw [tried?, idle]
        rfl
      · intro place live current serving
        rw [tried?, serving]
        exact Session.effect_checkWith current serving watcher looks
  | decide message => exact Session.effect_lookUp fun _ => rfl
  | route request => exact Session.effect_lookUp fun _ => rfl
  | classify message =>
      exact Session.effect_withRouter (fun _ => rfl) fun _ _ _ _ => .keeps rfl rfl rfl
  | status => exact Session.effect_lookUp fun _ => rfl

/-! ## Answers -/

namespace Session

/-- Two steps that come to the same and report the same. -/
structure Outcome.AnswersAs (outcome other : Outcome) : Prop where
  reply : outcome.reply = other.reply
  notices : outcome.notices = other.notices

theorem answersAs_withRouter {session other : Session}
    (same : session.live?.map (·.tables) = other.live?.map (·.tables))
    {next following : Nat -> Live -> Outcome}
    (alike : forall (first second : Nat) (live found : Live), live.tables = found.tables ->
      (next first live).AnswersAs (following second found)) :
    (session.withRouter next).AnswersAs (other.withRouter following) := by
  cases serving : session.live? with
  | none =>
      rw [serving] at same
      rw [withRouter_of_none serving, withRouter_of_none (Option.map_eq_none_iff.mp same.symm)]
      exact ⟨rfl, rfl⟩
  | some live =>
      rw [serving] at same
      rcases Option.map_eq_some_iff.mp same.symm with ⟨found, alsoServing, tables⟩
      rcases withRouter_of_some serving with ⟨first, _, given⟩
      rcases withRouter_of_some alsoServing with ⟨second, _, alsoGiven⟩
      rw [given, alsoGiven]
      exact alike first second live found tables.symm

/-- What is looked up in the tables in force comes to the same where these are the same. -/
theorem answersAs_lookUp {session other : Session}
    (same : session.live?.map (·.tables) = other.live?.map (·.tables))
    (result : Tables -> Except RoutingFault α) (reply : α -> Reply) (notices : α -> List Notice) :
    (session.withRouter fun _ live =>
        session.answerRouting (result live.tables) reply notices).AnswersAs
      (other.withRouter fun _ live =>
        other.answerRouting (result live.tables) reply notices) := by
  apply answersAs_withRouter same
  intro _ _ live found tables
  rw [tables]
  unfold answerRouting
  cases result found.tables <;> exact ⟨rfl, rfl⟩

end Session

/-- What is asked is answered from the tables in force. -/
theorem RouterStep.answersAs [CharacterNames] [DocumentReader] {step : RouterStep}
    (asks : step.isQuestion = true)
    {session other : Session}
    (same : session.live?.map (·.tables) = other.live?.map (·.tables)) :
    (step.perform session).AnswersAs (step.perform other) := by
  cases step with
  | decide message => exact Session.answersAs_lookUp same (fun tables => tables.decide message) _ _
  | route request => exact Session.answersAs_lookUp same (fun tables => tables.route request) _ _
  | classify message =>
      apply Session.answersAs_withRouter same
      intro _ _ live found tables
      rw [tables]
      exact ⟨rfl, rfl⟩
  | status => exact Session.answersAs_lookUp same Tables.status _ _
  | _ => cases asks

/-! ## Runs -/

/-- A session and the settings of the latest step that put tables in force. -/
structure Served where
  session : Session
  latest : Option RouterSettings := none

namespace Served

section

variable [CharacterNames] [DocumentReader]

def perform (now : Served) (step : RouterStep) : Served :=
  let outcome := step.perform now.session
  ⟨outcome.session,
    if outcome.isReplacement then step.tried? now.session else now.latest⟩

def run (now : Served) (steps : List RouterStep) : Served := steps.foldl perform now

/-- The tables in force are those of the latest settings. -/
def IsCurrent (now : Served) : Prop :=
  now.session.live?.map (fun live => .ok live.tables) = now.latest.map Tables.build

theorem IsCurrent.perform {now : Served} (current : now.IsCurrent) (step : RouterStep) :
    (now.perform step).IsCurrent := by
  unfold IsCurrent Served.perform
  cases step.effect now.session with
  | replaces said here built put =>
      simp only [said, if_true, put, here, Option.map_some, built]
  | keeps said unbuilt kept =>
      simp only [said, Bool.false_eq_true, if_false, kept]
      exact current

theorem IsCurrent.run {now : Served} (current : now.IsCurrent) (steps : List RouterStep) :
    (now.run steps).IsCurrent := by
  induction steps generalizing now with
  | nil => exact current
  | cons step steps ih => exact ih (current.perform step)

/-- A router that is newly made from the latest settings has the tables in force. -/
theorem IsCurrent.create {now : Served} (current : now.IsCurrent) {settings : RouterSettings}
    (latest : now.latest = some settings) (other : Session) :
    ((RouterStep.create settings).perform other).reply = .ok .done ∧
      now.session.live?.map (·.tables) =
        ((RouterStep.create settings).perform other).session.live?.map (·.tables) := by
  unfold IsCurrent at current
  rw [latest] at current
  rcases Option.map_eq_some_iff.mp current with ⟨live, serving, built⟩
  have made : (RouterStep.create settings).perform other =
      ⟨other.addRouter live.tables, .ok .done, Tables.buildNotices settings⟩ := by
    simp only [RouterStep.perform, Session.createWith, ← built]
  rw [made, serving, Session.live?_addRouter]
  exact ⟨rfl, rfl⟩

/-- In a run that begins without a router, the tables in force are always those that are built from
the latest settings that were accepted.  A step says that it has put tables in force exactly if
tables can be built from the settings that it tries, and then it has put these in force; otherwise
it leaves the tables in force as they are.  Questions are answered as by a router that is newly made
from the latest settings. -/
theorem live_tables_are_those_of_latest_settings {start : Session} (idle : start.live? = none)
    (steps : List RouterStep) :
    let now := (Served.mk start none).run steps
    now.session.live?.map (fun live => .ok live.tables) = now.latest.map Tables.build ∧
    (forall step : RouterStep,
      let outcome := step.perform now.session
      (outcome.isReplacement = true ↔
        Exists fun settings : RouterSettings => Exists fun tables : Tables =>
          step.tried? now.session = some settings ∧ Tables.build settings = .ok tables) ∧
      (forall (settings : RouterSettings) (tables : Tables),
        step.tried? now.session = some settings -> Tables.build settings = .ok tables ->
          outcome.session.live? = some ⟨tables, now.session.nextNumber⟩) ∧
      (outcome.isReplacement = false -> outcome.session.live? = now.session.live?)) ∧
    forall settings : RouterSettings, now.latest = some settings ->
      forall other : Session,
        let fresh := (RouterStep.create settings).perform other
        fresh.reply = .ok .done ∧
        forall question : RouterStep, question.isQuestion = true ->
          (question.perform now.session).reply = (question.perform fresh.session).reply ∧
          (question.perform now.session).notices = (question.perform fresh.session).notices := by
  intro now
  have begins : (Served.mk start none).IsCurrent := by
    unfold IsCurrent
    rw [idle]
    rfl
  have current : now.IsCurrent := begins.run steps
  refine ⟨current, ?_, ?_⟩
  · intro step outcome
    have exactly := (step.effect now.session).isReplacement_iff
    refine ⟨exactly, ?_, ?_⟩
    · intro settings tables tried built
      exact (step.effect now.session).live?_of_tried tried built
    · intro unsaid
      exact (step.effect now.session).live?_of_not_replacement unsaid
  · intro settings latest other fresh
    rcases current.create latest other with ⟨made, same⟩
    refine ⟨made, ?_⟩
    intro question asks
    have alike := RouterStep.answersAs asks same
    exact ⟨alike.reply, alike.notices⟩

end

/-- Settings with other models. -/
def otherSettings : RouterSettings := { Tables.paddedSettings with tiers := ⟨['x'], ['y'], ['z']⟩ }

/-- A router is made and reloaded, is given settings that are refused, is asked, and meets a file
that is no text. -/
def troubledSteps : List RouterStep :=
  [.create Tables.paddedSettings, .reload otherSettings,
    .reload { otherSettings with fallback := [] }, .decide ['x'],
    .check { reloader := ⟨rootPath, rootPath, {}⟩, interval := ['5'] }
      (.steady (.file 1000 [0xFF]))]

/-- After that it still answers as one that is newly made from the settings of the first reload. -/
theorem live_tables_are_those_of_latest_settings_troubled :
    let session : Session := { home := rootPath, directory := rootPath }
    let now := (Served.mk session none).run troubledSteps
    session.live? = none ∧
      now.session.live? =
        some ⟨{ Tables.paddedTables with models := ⟨['x'], ['y'], ['z']⟩ }, 1⟩ ∧
      (RouterStep.perform now.session (.decide ['x'])).reply =
        (RouterStep.perform ((RouterStep.create otherSettings).perform session).session
          (.decide ['x'])).reply := by
  intro session now
  have idle : session.live? = none := rfl
  have law := live_tables_are_those_of_latest_settings idle troubledSteps
  have latest : now.latest = some otherSettings := rfl
  exact ⟨idle, rfl, ((law.2.2 _ latest session).2 (.decide ['x']) rfl).1⟩

end Served
end Switchboard
