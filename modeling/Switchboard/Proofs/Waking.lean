import Switchboard.Proofs.Following
import Mathlib.Data.List.Induction
import Mathlib.Data.List.Infix
import Mathlib.Data.List.Perm.Basic

namespace Switchboard

/-!
# Loops that go on one by one

Starting begins a loop and keeps a hold of it; a start while polling goes on lets go of the loop
that was held before.  Stopping ends the loop that is held, at once.  A loop that was let go of
does not notice until it goes on: it makes the check that it was waiting for, and ends behind it.

So there is never more than one loop exactly if polling is never started while it goes on, and in
such a run no loop makes a check between a stop and the next start.  In any other run each loop that
is waiting without being held when polling is stopped makes one more check at most.

A turn of all loops, as a session lets them have it, is each of them going on once.
-/

/-- Where a loop is. -/
inductive LoopState where
  /-- Begun, and not yet at work. -/
  | begun
  /-- Waiting for its next check. -/
  | waiting
deriving Repr, DecidableEq

/-- Which of several loops. -/
inductive LoopPlace where
  | held
  /-- One of those that have been let go of, the oldest first. -/
  | free (place : Nat)
deriving Repr, DecidableEq

/-- The loops that poll a file, each one for itself. -/
structure Loops where
  /-- Whether polling has been started and not stopped since. -/
  isRunning : Bool := false
  /-- The loop begun last. -/
  held : Option LoopState := none
  /-- The loops that further starts have let go of, the oldest first. -/
  free : List LoopState := []
deriving Repr, DecidableEq

/-- What happens to the loops. -/
inductive PollStep where
  | start
  | stop
  /-- A loop goes on, given what the looks of its check find if it makes one. -/
  | goOn (place : LoopPlace) (looks : Looks)

namespace Loops

/-- The loops that there are. -/
def all (loops : Loops) : List LoopState := loops.free ++ loops.held.toList

/-- The loop at a place. -/
def at? (loops : Loops) : LoopPlace -> Option LoopState
  | .held => loops.held
  | .free place => loops.free[place]?

/-- Polling started. -/
def start (loops : Loops) : Loops := ⟨true, some .begun, loops.all⟩

/-- Polling stopped. -/
def stop (loops : Loops) : Loops := ⟨false, none, loops.free⟩

/-- The loops behind one of them going on: it waits again, or ends if polling has been stopped. -/
def goOn (loops : Loops) : LoopPlace -> Loops
  | .held =>
      { loops with held := if loops.isRunning then loops.held.map fun _ => .waiting else none }
  | .free place =>
      { loops with
        free :=
          if loops.isRunning then loops.free.set place .waiting else loops.free.eraseIdx place }

/-- Whether a step makes a check. -/
def checks (loops : Loops) : PollStep -> Bool
  | .goOn place _ => loops.at? place == some .waiting
  | _ => false

/-- The loops behind a step. -/
def perform (loops : Loops) : PollStep -> Loops
  | .start => loops.start
  | .stop => loops.stop
  | .goOn place _ => loops.goOn place

/-- The loops behind a run. -/
def run (loops : Loops) (steps : List PollStep) : Loops := steps.foldl perform loops

theorem run_append (loops : Loops) (steps more : List PollStep) :
    loops.run (steps ++ more) = (loops.run steps).run more :=
  List.foldl_append

theorem run_concat (loops : Loops) (steps : List PollStep) (step : PollStep) :
    loops.run (steps ++ [step]) = (loops.run steps).perform step :=
  List.foldl_append

end Loops

/-- A reloader, its loops and the tables in force. -/
structure Polled where
  reloader : Reloader
  tables : Tables
  loops : Loops := {}

theorem Check.inForce_of_replaced {check : Check} {tables : Tables}
    (replaced : check.result = .replaced tables) (live : Tables) : check.inForce live = tables := by
  rw [inForce, Watcher.newTables?, replaced]
  rfl

namespace Polled

variable [CharacterNames] [DocumentReader]

/-- The check that a step makes. -/
def check? (now : Polled) (step : PollStep) : Option Check :=
  match step with
  | .goOn _ looks => if now.loops.checks step then some (now.reloader.check looks) else none
  | _ => none

/-- What there is behind a step. -/
def perform (now : Polled) (step : PollStep) : Polled where
  reloader := ((now.check? step).map (·.reloader)).getD now.reloader
  tables := ((now.check? step).map (·.inForce now.tables)).getD now.tables
  loops := now.loops.perform step

/-- What there is behind a run. -/
def run (now : Polled) (steps : List PollStep) : Polled := steps.foldl perform now

/-- The checks that the loops make in a run. -/
def checks (now : Polled) : List PollStep -> List Check
  | [] => []
  | step :: steps => (now.check? step).toList ++ (now.perform step).checks steps

variable {now : Polled} {step : PollStep} {steps : List PollStep}

theorem loops_run (now : Polled) (steps : List PollStep) :
    (now.run steps).loops = now.loops.run steps := by
  induction steps generalizing now with
  | nil => rfl
  | cons step steps ih => exact ih (now.perform step)

theorem run_append (now : Polled) (steps more : List PollStep) :
    now.run (steps ++ more) = (now.run steps).run more :=
  List.foldl_append

theorem check?_eq_none_iff : now.check? step = none ↔ now.loops.checks step = false := by
  cases step with
  | goOn place looks => simp [check?]
  | _ => exact iff_of_true rfl rfl

/-- A loop that waits makes its check when it goes on. -/
theorem check?_of_waiting {place : LoopPlace} (waits : now.loops.at? place = some .waiting)
    (looks : Looks) : now.check? (.goOn place looks) = some (now.reloader.check looks) := by
  have makes : now.loops.checks (.goOn place looks) = true := beq_iff_eq.mpr waits
  simp only [check?, makes, if_true]

theorem tables_perform_of_waiting {place : LoopPlace} (waits : now.loops.at? place = some .waiting)
    (looks : Looks) :
    (now.perform (.goOn place looks)).tables = (now.reloader.check looks).inForce now.tables := by
  rw [perform, check?_of_waiting waits]
  rfl

/-- A step without a check leaves all but the loops as it is. -/
theorem perform_of_check?_eq_none (silent : now.check? step = none) :
    now.perform step = { now with loops := now.loops.perform step } := by
  rw [perform, silent]
  rfl

/-- Polling changes what is remembered and what is in force by checks alone. -/
theorem run_of_checks_eq_nil (silent : now.checks steps = []) :
    now.run steps = { now with loops := now.loops.run steps } := by
  induction steps generalizing now with
  | nil => rfl
  | cons step steps ih =>
      rw [checks, List.append_eq_nil_iff, Option.toList_eq_nil_iff] at silent
      have rest := ih silent.2
      rw [perform_of_check?_eq_none silent.1] at rest
      rw [run, List.foldl_cons, perform_of_check?_eq_none silent.1]
      exact rest

end Polled

/-! ## A turn of all loops -/

namespace Loops

/-- The loops as they are counted where all of them wait. -/
def polling (loops : Loops) : Polling := ⟨loops.isRunning, loops.held.isSome, loops.free.length⟩

theorem loops_polling (loops : Loops) : loops.polling.loops = loops.all.length := by
  rw [Polling.loops, all, List.length_append, Option.length_toList]
  rfl

theorem polling_start (loops : Loops) : loops.start.polling = loops.polling.start := by
  rw [Polling.start, loops_polling]
  rfl

theorem polling_stop (loops : Loops) : loops.stop.polling = loops.polling.stop := rfl

/-- While polling goes on, so does a loop. -/
theorem polling_goOn {loops : Loops} (running : loops.isRunning = true) (place : LoopPlace) :
    (loops.goOn place).polling = loops.polling := by
  cases place <;> simp [goOn, running, polling]

/-- The last of a count of free loops goes on, and then those before it. -/
def freeSteps (looks : Looks) : Nat -> List PollStep
  | 0 => []
  | count + 1 => .goOn (.free count) looks :: freeSteps looks count

/-- Every loop goes on once. -/
def everyLoop (loops : Loops) (looks : Looks) : List PollStep :=
  .goOn .held looks :: freeSteps looks loops.free.length

theorem exists_goOn_of_mem_freeSteps {looks : Looks} {count : Nat} {step : PollStep}
    (member : step ∈ freeSteps looks count) :
    Exists fun place : LoopPlace => step = .goOn place looks := by
  induction count with
  | zero => cases member
  | succ count ih =>
      rcases List.mem_cons.mp member with same | later
      · exact ⟨_, same⟩
      · exact ih later

/-- Free loops that go on stay if polling goes on, and end otherwise. -/
theorem polling_run_freeSteps (looks : Looks) {count : Nat} {loops : Loops}
    (within : count ≤ loops.free.length) :
    (loops.run (freeSteps looks count)).polling =
      if loops.isRunning then loops.polling
      else { loops.polling with leftBehind := loops.free.length - count } := by
  induction count generalizing loops with
  | zero => exact (ite_self _).symm
  | succ count ih =>
      change ((loops.goOn (.free count)).run (freeSteps looks count)).polling = _
      cases running : loops.isRunning with
      | true =>
          have same := polling_goOn running (.free count)
          have free : (loops.goOn (.free count)).free.length = loops.free.length :=
            congrArg Polling.leftBehind same
          have goesOn : (loops.goOn (.free count)).isRunning = true := running
          rw [ih (free ▸ Nat.le_of_succ_le within), goesOn, same]
          rfl
      | false =>
          have fewer : (loops.goOn (.free count)).free.length = loops.free.length - 1 := by
            simp only [goOn, running, Bool.false_eq_true, if_false]
            exact List.length_eraseIdx_of_lt within
          have next := ih (show count ≤ (loops.goOn (.free count)).free.length by omega)
          rw [next, fewer, Nat.sub_sub, Nat.add_comm 1 count]
          simp [goOn, running, polling]

/-- When every loop has gone on once, the loops are those that a turn leaves. -/
theorem polling_run_everyLoop (loops : Loops) (looks : Looks) :
    (loops.run (loops.everyLoop looks)).polling = loops.polling.afterTurn := by
  change ((loops.goOn .held).run (freeSteps looks (loops.goOn .held).free.length)).polling = _
  rw [polling_run_freeSteps looks (Nat.le_refl _), Nat.sub_self, Polling.afterTurn]
  cases running : loops.isRunning <;> simp [goOn, running, polling]

/-- A loop that has just been begun waits as soon as it goes on. -/
theorem polling_begun (loops : Loops) :
    (loops.start.goOn .held).polling = loops.polling.start ∧
      (loops.start.goOn .held).all = loops.all ++ [.waiting] := by
  rw [← polling_start]
  exact ⟨rfl, rfl⟩

end Loops

namespace Polled

variable [CharacterNames] [DocumentReader]

/-- Loops that check a file in which there is nothing new change nothing but themselves. -/
theorem run_of_settled {now : Polled} {looks : Looks} {steps : List PollStep}
    (settled : now.reloader.check looks = ⟨now.reloader, .unchanged, []⟩)
    (turns : forall step, step ∈ steps -> Exists fun place : LoopPlace => step = .goOn place looks) :
    now.run steps = { now with loops := now.loops.run steps } := by
  induction steps generalizing now with
  | nil => rfl
  | cons step steps ih =>
      rcases turns step List.mem_cons_self with ⟨place, same⟩
      have first : now.perform step = { now with loops := now.loops.perform step } := by
        subst same
        cases makes : now.loops.checks (.goOn place looks) with
        | false => exact perform_of_check?_eq_none (check?_eq_none_iff.mpr makes)
        | true =>
            rw [perform, check?_of_waiting (beq_iff_eq.mp makes), settled]
            rfl
      have rest : (now.perform step).run steps = _ := ih (by rw [first]; exact settled)
        fun other member => turns other (List.mem_cons_of_mem _ member)
      rw [first] at rest
      rw [run, List.foldl_cons, first]
      exact rest

/-- Of loops that go on while the file stays as it is, the first one that waits makes the check. -/
theorem run_of_waiting {now : Polled} {place : LoopPlace} {file : FileState}
    {steps : List PollStep} (waits : now.loops.at? place = some .waiting)
    (turns : forall step, step ∈ steps ->
      Exists fun place : LoopPlace => step = .goOn place (.steady file)) :
    now.run (.goOn place (.steady file) :: steps) =
      { reloader := (now.reloader.checkNow file).reloader
        tables := (now.reloader.checkNow file).inForce now.tables
        loops := now.loops.run (.goOn place (.steady file) :: steps) } := by
  have first : now.perform (.goOn place (.steady file)) =
      { reloader := (now.reloader.checkNow file).reloader
        tables := (now.reloader.checkNow file).inForce now.tables
        loops := now.loops.goOn place } := by
    rw [perform, check?_of_waiting waits]
    rfl
  have settled := Reloader.checkNow_again now.reloader file
  rw [run, List.foldl_cons, first]
  exact run_of_settled settled turns

/-- If any loop waits, one check is made when every loop goes on. -/
theorem run_everyLoop {now : Polled} (file : FileState)
    (waiting : forall loop, loop ∈ now.loops.all -> loop = .waiting) :
    now.run (now.loops.everyLoop (.steady file)) =
      { reloader := if now.loops.all = [] then now.reloader else (now.reloader.checkNow file).reloader
        tables :=
          if now.loops.all = [] then now.tables
          else (now.reloader.checkNow file).inForce now.tables
        loops := now.loops.run (now.loops.everyLoop (.steady file)) } := by
  have turns : forall count : Nat, forall step, step ∈ Loops.freeSteps (.steady file) count ->
      Exists fun place : LoopPlace => step = .goOn place (.steady file) :=
    fun _ _ => Loops.exists_goOn_of_mem_freeSteps
  cases held : now.loops.held with
  | some loop =>
      have member : loop ∈ now.loops.all := by simp [Loops.all, held]
      have waits : now.loops.at? .held = some .waiting := by
        rw [Loops.at?, held, waiting loop member]
      rw [if_neg (List.ne_nil_of_mem member), if_neg (List.ne_nil_of_mem member)]
      exact run_of_waiting waits (turns _)
  | none =>
      have first : now.perform (.goOn .held (.steady file)) =
          { now with loops := now.loops.goOn .held } := by
        refine perform_of_check?_eq_none (check?_eq_none_iff.mpr ?_)
        simp [Loops.checks, Loops.at?, held]
      rw [Loops.everyLoop, run, List.foldl_cons, first]
      cases free : now.loops.free with
      | nil => simp [Loops.all, held, free, Loops.freeSteps, Loops.run, Loops.perform]
      | cons loop rest =>
          have member : loop ∈ now.loops.all := by simp [Loops.all, free]
          rw [if_neg (List.ne_nil_of_mem member), if_neg (List.ne_nil_of_mem member)]
          let behind : Polled := { now with loops := now.loops.goOn .held }
          have inside : rest.length < now.loops.free.length := by rw [free]; exact Nat.lt_succ_self _
          have last := waiting _ (List.mem_append_left _ (List.getElem_mem inside))
          have waits : behind.loops.at? (.free rest.length) = some .waiting :=
            (List.getElem?_eq_getElem inside).trans (congrArg some last)
          exact run_of_waiting waits (turns _)

/-- A turn of loops that all wait is each of them going on once. -/
theorem turn_eq_run_everyLoop (now : Polled)
    (waiting : forall loop, loop ∈ now.loops.all -> loop = .waiting) (interval : Text)
    (file : FileState) :
    let turn := (⟨now.reloader, interval, now.loops.polling⟩ : Watcher).turn file
    let behind := now.run (now.loops.everyLoop (.steady file))
    turn.watcher = ⟨behind.reloader, interval, behind.loops.polling⟩ ∧
      turn.tables.getD now.tables = behind.tables := by
  intro turn behind
  have polling : behind.loops.polling = now.loops.polling.afterTurn := by
    rw [loops_run, Loops.polling_run_everyLoop]
  have ran : behind = _ := run_everyLoop file waiting
  have count := now.loops.loops_polling
  rw [polling, ran]
  by_cases none : now.loops.all = []
  · rw [none, List.length_nil] at count
    have turned : turn = ⟨⟨now.reloader, interval, now.loops.polling.afterTurn⟩, .none, []⟩ := by
      simp only [turn, Watcher.turn, count]
      rfl
    rw [turned, if_pos none, if_pos none]
    exact ⟨rfl, rfl⟩
  · rcases List.exists_cons_of_ne_nil none with ⟨loop, rest, all⟩
    rw [all, List.length_cons] at count
    have turned : turn =
        ⟨⟨(now.reloader.checkNow file).reloader, interval, now.loops.polling.afterTurn⟩,
          Watcher.newTables? (now.reloader.checkNow file),
          Watcher.pollNotices (now.reloader.checkNow file)⟩ := by
      simp only [turn, Watcher.turn, count, Watcher.turns_succ]
    rw [turned, if_neg none, if_neg none]
    exact ⟨rfl, rfl⟩

end Polled

/-! ## Starts and stops -/

/-- A step that happens in a run, said by the steps before it, with no `reset` behind it. -/
def HappenedSince {Step : Type} (reset : Step) (happens : List Step -> Step -> Prop)
    (steps : List Step) : Prop :=
  Exists fun before : List Step => Exists fun step : Step => Exists fun since : List Step =>
    steps = before ++ step :: since ∧ happens before step ∧ reset ∉ since

namespace HappenedSince

variable {Step : Type} {reset : Step} {happens : List Step -> Step -> Prop}

theorem not_nil : ¬ HappenedSince reset happens [] := by
  rintro ⟨before, step, since, impossible, _⟩
  exact List.append_ne_nil_of_right_ne_nil before (List.cons_ne_nil step since) impossible.symm

theorem concat_iff (steps : List Step) (step : Step) :
    HappenedSince reset happens (steps ++ [step]) ↔
      happens steps step ∨ HappenedSince reset happens steps ∧ step ≠ reset := by
  constructor
  · rintro ⟨before, first, since, same, here, kept⟩
    induction since using List.reverseRecOn with
    | nil =>
        rcases List.append_inj' same rfl with ⟨same, last⟩
        rw [same, List.singleton_injective last]
        exact Or.inl here
    | append_singleton since last _ =>
        rw [← List.cons_append, ← List.append_assoc] at same
        rcases List.append_inj' same rfl with ⟨same, equal⟩
        rw [List.mem_append, List.mem_singleton, not_or] at kept
        rw [List.singleton_injective equal]
        exact Or.inr ⟨⟨before, first, since, same, here, kept.1⟩, Ne.symm kept.2⟩
  · rintro (here | ⟨⟨before, first, since, same, here, kept⟩, goes⟩)
    · exact ⟨steps, step, [], rfl, here, List.not_mem_nil⟩
    · refine ⟨before, first, since ++ [step], ?_, here, ?_⟩
      · rw [same, List.append_assoc, List.cons_append]
      · rw [List.mem_append, List.mem_singleton, not_or]
        exact ⟨kept, Ne.symm goes⟩

end HappenedSince

/-- Polling has been started and not stopped since. -/
def IsStarted (steps : List PollStep) : Prop :=
  HappenedSince .stop (fun _ step => step = .start) steps

/-- Polling is started only while it does not go on. -/
def NeverDoubles (steps : List PollStep) : Prop :=
  forall before after, steps = before ++ .start :: after -> ¬ IsStarted before

theorem NeverDoubles.of_append {steps more : List PollStep}
    (single : NeverDoubles (steps ++ more)) : NeverDoubles steps := by
  intro before after same
  exact single before (after ++ more) (by rw [same, List.append_assoc, List.cons_append])

namespace Loops

/-- In a run polling goes on, and a loop is held, exactly if it has been started and not stopped
since. -/
theorem isStarted_iff (steps : List PollStep) :
    ((({} : Loops).run steps).isRunning = true ↔ IsStarted steps) ∧
      ((({} : Loops).run steps).held.isSome = true ↔ IsStarted steps) := by
  induction steps using List.reverseRecOn with
  | nil =>
      have idle : ¬ IsStarted [] := HappenedSince.not_nil
      exact ⟨iff_of_false Bool.false_ne_true idle, iff_of_false Bool.false_ne_true idle⟩
  | append_singleton steps step ih =>
      rw [run_concat, IsStarted, HappenedSince.concat_iff, ← IsStarted, ← ih.1]
      cases step with
      | start => simp [perform, start]
      | stop => simp [perform, stop]
      | goOn place looks =>
          have same : (({} : Loops).run steps).held.isSome = (({} : Loops).run steps).isRunning :=
            Bool.eq_iff_iff.mpr (ih.2.trans ih.1.symm)
          cases place with
          | free place => simp [perform, goOn, same]
          | held =>
              cases running : (({} : Loops).run steps).isRunning <;>
                simp [perform, goOn, running, same]

/-- Without a start while polling goes on no loop is let go of. -/
theorem free_run_of_neverDoubles {steps : List PollStep} (single : NeverDoubles steps) :
    (({} : Loops).run steps).free = [] := by
  induction steps using List.reverseRecOn with
  | nil => rfl
  | append_singleton steps step ih =>
      have before := ih single.of_append
      rw [run_concat]
      cases step with
      | start =>
          have idle : ¬ (({} : Loops).run steps).held.isSome = true := by
            rw [(isStarted_iff steps).2]
            exact single steps [] rfl
          rw [Bool.not_eq_true, Option.isSome_eq_false_iff, Option.isNone_iff_eq_none] at idle
          simp [perform, start, all, before, idle]
      | stop => exact before
      | goOn place looks =>
          cases place with
          | held => exact before
          | free place => simp [perform, goOn, before]

/-- There is never more than one loop exactly if polling is started only while it does not go on. -/
theorem single_iff_neverDoubles (steps : List PollStep) :
    (forall before after, steps = before ++ after -> (({} : Loops).run before).all.length ≤ 1) ↔
      NeverDoubles steps := by
  constructor
  · intro single before after same started
    have held := (isStarted_iff before).2.mpr started
    have count := single (before ++ [.start]) after (by rw [same, List.append_assoc]; rfl)
    rw [run_concat] at count
    rcases Option.isSome_iff_exists.mp held with ⟨loop, held⟩
    simp [perform, start, all, held] at count
  · intro single before after same
    rw [same] at single
    rw [all, free_run_of_neverDoubles single.of_append, List.nil_append, Option.length_toList]
    split <;> simp

instance decidableNeverDoubles (steps : List PollStep) : Decidable (NeverDoubles steps) :=
  decidable_of_iff (forall before, before ∈ steps.inits -> (({} : Loops).run before).all.length ≤ 1) <| by
    rw [← single_iff_neverDoubles]
    simp only [List.mem_inits]
    constructor
    · intro single before after same
      exact single before ⟨after, same.symm⟩
    · rintro single before ⟨after, same⟩
      exact single before after same.symm

/-! ## Checks behind a stop -/

theorem count_eraseIdx {states : List LoopState} {place : Nat} {state : LoopState}
    (here : states[place]? = some state) :
    states.count .waiting =
      (states.eraseIdx place).count .waiting + (state == .waiting).toNat := by
  rcases List.getElem?_eq_some_iff.mp here with ⟨inside, same⟩
  have split := (List.getElem_cons_eraseIdx_perm inside).count_eq LoopState.waiting
  rw [← split, List.count_cons, same]
  cases state <;> rfl

/-- Behind a stop each step but a start leaves polling stopped, and takes away the free loop that
makes a check in it. -/
theorem stopped_perform {loops : Loops} (stopped : loops.isRunning = false)
    (unheld : loops.held = none) {step : PollStep} (other : step ≠ .start) :
    (loops.perform step).isRunning = false ∧ (loops.perform step).held = none ∧
      (loops.perform step).free.count .waiting + (loops.checks step).toNat ≤
        loops.free.count .waiting := by
  cases step with
  | start => exact absurd rfl other
  | stop => exact ⟨rfl, rfl, Nat.le_refl _⟩
  | goOn place looks =>
      refine ⟨by cases place <;> exact stopped, ?_, ?_⟩
      · cases place with
        | held => simp [perform, goOn, stopped]
        | free place => exact unheld
      · cases place with
        | held => simp [perform, goOn, checks, at?, unheld]
        | free place =>
            simp only [perform, goOn, stopped, checks, at?, Bool.false_eq_true, if_false]
            cases here : loops.free[place]? with
            | none =>
                rw [List.eraseIdx_of_length_le (List.getElem?_eq_none_iff.mp here)]
                exact Nat.le_refl _
            | some state =>
                rw [count_eraseIdx here]
                cases state <;> exact Nat.le_refl _

end Loops

namespace Polled

/-- Between a stop and the next start the loops make at most as many checks as there are free loops
that wait. -/
theorem length_checks_le [CharacterNames] [DocumentReader] {now : Polled}
    (stopped : now.loops.isRunning = false)
    (unheld : now.loops.held = none) {quiet : List PollStep} (unstarted : .start ∉ quiet) :
    (now.checks quiet).length ≤ now.loops.free.count .waiting := by
  induction quiet generalizing now with
  | nil => exact Nat.zero_le _
  | cons step quiet ih =>
      rw [List.mem_cons, not_or] at unstarted
      rcases Loops.stopped_perform stopped unheld (Ne.symm unstarted.1) with
        ⟨stays, stillUnheld, count⟩
      have rest : ((now.perform step).checks quiet).length ≤ _ := ih stays stillUnheld unstarted.2
      have here : (now.check? step).toList.length = (now.loops.checks step).toNat := by
        cases decided : now.loops.checks step with
        | false => rw [check?_eq_none_iff.mpr decided]; rfl
        | true =>
            have some : now.check? step ≠ none := by
              rw [Ne, check?_eq_none_iff, decided]
              exact Bool.noConfusion
            rcases Option.ne_none_iff_exists'.mp some with ⟨check, found⟩
            rw [found]
            rfl
      rw [checks, List.length_append, here]
      exact Nat.le_trans (Nat.add_comm _ _ ▸ Nat.add_le_add_right rest _) count

/-- Polling that begins with no loop has never more than one loop exactly if it is started only while
it does not go on.  Between a stop and the next start the loops make no check exactly if no loop that
was let go of is waiting at the stop, and otherwise as many as there are of those at most.  If polling
was started only while it did not go on, then nothing happens there but to the loops. -/
theorem polling_is_single_and_ends_iff [CharacterNames] [DocumentReader] (reloader : Reloader)
    (tables : Tables)
    (steps : List PollStep) :
    let idle : Polled := ⟨reloader, tables, {}⟩
    let stopped := idle.run (steps ++ [.stop])
    ((forall before after, steps = before ++ after -> (idle.run before).loops.all.length ≤ 1) ↔
      NeverDoubles steps) ∧
    ((forall quiet, .start ∉ quiet -> stopped.checks quiet = []) ↔
      .waiting ∉ (idle.run steps).loops.free) ∧
    (forall quiet, .start ∉ quiet ->
      (stopped.checks quiet).length ≤ (idle.run steps).loops.free.count .waiting) ∧
    (NeverDoubles steps -> forall quiet, .start ∉ quiet -> stopped.checks quiet = [] ∧
      (stopped.run quiet).reloader = (idle.run steps).reloader ∧
      (stopped.run quiet).tables = (idle.run steps).tables) := by
  intro idle stopped
  have behind : stopped = { idle.run steps with loops := (idle.run steps).loops.stop } :=
    run_append idle steps [.stop]
  have bound : forall quiet, .start ∉ quiet ->
      (stopped.checks quiet).length ≤ (idle.run steps).loops.free.count .waiting := by
    intro quiet unstarted
    rw [behind]
    exact length_checks_le rfl rfl unstarted
  have silent : .waiting ∉ (idle.run steps).loops.free ->
      forall quiet, .start ∉ quiet -> stopped.checks quiet = [] := by
    intro free quiet unstarted
    have most := bound quiet unstarted
    rw [List.count_eq_zero.mpr free] at most
    exact List.eq_nil_of_length_eq_zero (Nat.le_zero.mp most)
  refine ⟨?_, ⟨?_, silent⟩, bound, ?_⟩
  · simp only [loops_run]
    exact Loops.single_iff_neverDoubles steps
  · intro quiet waits
    rcases List.getElem?_of_mem waits with ⟨place, here⟩
    have waiting : stopped.loops.at? (.free place) = some .waiting := by
      rw [behind]
      exact here
    have none := quiet [.goOn (.free place) (.steady .absent)] (by simp)
    rw [checks, check?_of_waiting waiting] at none
    cases none
  · intro single quiet unstarted
    have free : .waiting ∉ (idle.run steps).loops.free := by
      rw [loops_run, Loops.free_run_of_neverDoubles single]
      exact List.not_mem_nil
    have none := silent free quiet unstarted
    rw [run_of_checks_eq_nil none, behind]
    exact ⟨by rw [← behind]; exact none, rfl, rfl⟩

/-- Polling started twice, each time with the loop beginning its wait. -/
def startedTwice : List PollStep :=
  [.start, .goOn .held (.steady openingFile), .start, .goOn .held (.steady openingFile)]

/-- Polling started again behind a stop, with the loop beginning its wait. -/
def startedAgain : List PollStep := [.start, .stop, .start, .goOn .held (.steady openingFile)]

/-- With a stop between two starts no loop checks behind the second stop, wherever it goes on. -/
theorem polling_is_single_and_ends_iff_started_again (tables : Tables) :
    ((⟨openingReloader, tables, {}⟩ : Polled).run (startedAgain ++ [.stop])).checks
      [.goOn .held (.steady openingFile), .goOn (.free 0) (.steady openingFile)] = [] := by
  have single : NeverDoubles startedAgain := by decide
  exact ((polling_is_single_and_ends_iff openingReloader tables startedAgain).2.2.2 single _
    (by simp)).1

/-- Behind a second start there are two loops, and the first of them puts new tables in force when
polling has been stopped. -/
theorem free_loop_checks_behind_stop :
    (¬ forall (reloader : Reloader) (tables : Tables) (steps : List PollStep),
      ((⟨reloader, tables, {}⟩ : Polled).run steps).loops.all.length ≤ 1) ∧
    ¬ forall (reloader : Reloader) (tables : Tables) (steps quiet : List PollStep),
      .start ∉ quiet ->
        let stopped := (⟨reloader, tables, {}⟩ : Polled).run (steps ++ [.stop])
        (stopped.run quiet).tables = stopped.tables := by
  rcases exists_given_tables with ⟨first, second, _, given, different⟩
  constructor
  · intro single
    have one := single openingReloader first startedTwice
    rw [loops_run] at one
    have two : (({} : Loops).run startedTwice).all.length = 2 := rfl
    rw [two] at one
    exact absurd one (by decide)
  · intro kept
    let idle : Polled := ⟨openingReloader, first, {}⟩
    let file : FileState := .file 1010 (contentNaming "b")
    let stopped := idle.run (startedTwice ++ [.stop])
    have silent : idle.checks (startedTwice ++ [.stop]) = [] := rfl
    have behind : stopped = { idle with loops := idle.loops.run (startedTwice ++ [.stop]) } :=
      run_of_checks_eq_nil silent
    have waits : stopped.loops.at? (.free 0) = some .waiting := by rw [behind]; rfl
    have remembers : stopped.reloader = openingReloader := by rw [behind]
    have loaded : (stopped.reloader.check (.steady file)).result = .replaced second := by
      rw [remembers]
      exact Reloader.result_checkNow_of_new rfl given digest_openingReloader_ne
    have same : (stopped.perform (.goOn (.free 0) (.steady file))).tables = stopped.tables :=
      kept openingReloader first startedTwice [.goOn (.free 0) (.steady file)] (by simp)
    rw [tables_perform_of_waiting waits, Check.inForce_of_replaced loaded, behind] at same
    exact different same.symm

end Polled
end Switchboard
