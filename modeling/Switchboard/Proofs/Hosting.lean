import Switchboard.Proofs.Restarting
import Switchboard.Proofs.Waking

namespace Switchboard

/-!
# The life of a hook

A hook that is to follow its file begins a watcher with the first call that it routes, and polling
goes on in a loop until the hook is stopped.  The hook lets go of the watcher then, and the next call
that it routes begins another one.

A watcher that a hook has let go of could go on: only if all of its loops have ended does polling end
with the stop.  So the loops of these watchers are followed too.  Which calls are routed is up to the
tables in force, and any loop that goes on may have replaced them.
-/

namespace HookCall

/-- A call is one of the kinds that are routed, and its request names exactly the given model. -/
def AsksFor (call : HookCall) (model : Text) : Prop :=
  (call.kind = Text.ofString "completion" ∨ call.kind = Text.ofString "acompletion") ∧
    Json.member? call.request Chat.modelKey = some (.text model)

end HookCall

/-- What a hook gives back for what routing has come to. -/
def HookAnswer.ofRouting : Except RoutingFault Routed -> HookAnswer
  | .ok sent => .routed sent.request
  | .error fault => .failed fault

/-- A step in the life of a hook. -/
inductive HostStep where
  /-- A call, with what is found at the path of the settings file. -/
  | call (file : FileState) (call : HookCall)
  | stop
  /-- A loop of the watcher that the hook has goes on. -/
  | goOn (place : LoopPlace) (looks : Looks)
  /-- A loop of one of the watchers that the hook has let go of goes on. -/
  | goOnDropped (index : Nat) (place : LoopPlace) (looks : Looks)

/-- A hook, and all loops that have been begun for it. -/
structure Hosted where
  hook : Hook
  /-- The loops of the watcher that the hook has. -/
  loops : Loops := {}
  /-- The watchers that the hook has let go of, each with its loops. -/
  dropped : List (Reloader × Loops) := []

namespace Hook

variable {hook : Hook} {file : FileState} {call : HookCall}

theorem routes_iff : hook.routes call = true ↔ call.AsksFor hook.tables.autoModel := by
  rw [routes, Bool.and_eq_true, HookCall.AsksFor]
  refine and_congr (by simp [routedKinds]) ?_
  rw [Tables.isAutoRequest, Chat.asksFor]
  split
  · rename_i name named
    simp [named]
  · rename_i unnamed
    exact iff_of_false Bool.false_ne_true (unnamed _)

theorem isSome_newWatcher?_iff (file : FileState) :
    (hook.newWatcher? file).isSome = true ↔
      ¬ hook.watcher.isSome = true ∧ hook.reload.enabled = true ∧ hook.path.isSome = true := by
  rw [newWatcher?]
  cases hook.watcher <;> cases hook.path <;> cases hook.reload.enabled <;> simp

theorem isSome_begun?_iff :
    (hook.begun? file call).isSome = true ↔
      call.AsksFor hook.tables.autoModel ∧
        ¬ hook.watcher.isSome = true ∧ hook.reload.enabled = true ∧ hook.path.isSome = true := by
  rw [begun?, ← routes_iff, ← isSome_newWatcher?_iff file]
  cases hook.routes call <;> simp

/-- A call that does not ask for the model in force is passed on, and nothing happens. -/
theorem call_of_not_asksFor (other : ¬ call.AsksFor hook.tables.autoModel) :
    hook.call file call = ⟨hook, .passed, []⟩ := by
  rw [← routes_iff, Bool.not_eq_true] at other
  rw [Hook.call, other]
  rfl

/-- A call that asks for the model in force is answered as the tables in force route it. -/
theorem answer_call_of_asksFor (asks : call.AsksFor hook.tables.autoModel) :
    (hook.call file call).answer = .ofRouting (hook.tables.route call.request) := by
  have kept : (hook.ensureWatcher file).1.tables = hook.tables := by rw [hook_ensureWatcher]
  rw [Hook.call, if_pos (routes_iff.mpr asks), ← kept]
  rcases hook.ensureWatcher file with ⟨behind, notices⟩
  cases outcome : behind.tables.route call.request <;> simp only [outcome, HookAnswer.ofRouting]

end Hook

namespace Hosted

section

variable [CharacterNames] [DocumentReader]

/-- What there is behind a step. -/
def perform (now : Hosted) : HostStep -> Hosted
  | .call file call =>
      { now with
        hook := (now.hook.call file call).hook
        loops := if (now.hook.begun? file call).isSome then ({} : Loops).start else now.loops }
  | .stop =>
      { hook := now.hook.stop
        dropped := now.dropped ++
          (now.hook.watcher.map fun watcher => (watcher.reloader, now.loops.stop)).toList }
  | .goOn place looks =>
      match now.hook.watcher with
      | none => now
      | some watcher =>
          let before : Polled := ⟨watcher.reloader, now.hook.tables, now.loops⟩
          let behind := before.perform (.goOn place looks)
          let watcher := { watcher with reloader := behind.reloader, polling := behind.loops.polling }
          { now with
            hook := { now.hook with tables := behind.tables, watcher := some watcher }
            loops := behind.loops }
  | .goOnDropped index place looks =>
      match now.dropped[index]? with
      | none => now
      | some (reloader, loops) =>
          let before : Polled := ⟨reloader, now.hook.tables, loops⟩
          let behind := before.perform (.goOn place looks)
          { now with
            hook := { now.hook with tables := behind.tables }
            dropped := now.dropped.set index (behind.reloader, behind.loops) }

/-- What there is behind a run. -/
def run (now : Hosted) (steps : List HostStep) : Hosted := steps.foldl perform now

/-- The loops that there are. -/
def allLoops (now : Hosted) : List LoopState :=
  now.dropped.flatMap (fun watcher => watcher.2.all) ++ now.loops.all

theorem run_concat (now : Hosted) (steps : List HostStep) (step : HostStep) :
    now.run (steps ++ [step]) = (now.run steps).perform step :=
  List.foldl_append

theorem isSome_watcher_goOn (now : Hosted) (place : LoopPlace) (looks : Looks) :
    (now.perform (.goOn place looks)).hook.watcher.isSome = now.hook.watcher.isSome := by
  rw [perform]
  cases watched : now.hook.watcher with
  | none => exact congrArg Option.isSome watched
  | some watcher => rfl

end

/-! ## What a step keeps -/

/-- A hook as it can be behind its first steps: with a watcher it has one loop, and no loop is left
of the watchers that it has let go of. -/
structure IsOrderly (now : Hosted) (path : Option (Path × Path)) (reload : ReloadSettings) :
    Prop where
  path : now.hook.path = path
  reload : now.hook.reload = reload
  unwatched : now.hook.watcher = none -> now.loops = {}
  watched : forall watcher, now.hook.watcher = some watcher ->
    watcher.polling = now.loops.polling ∧ now.loops.polling = ⟨true, true, 0⟩
  ended : forall watcher, watcher ∈ now.dropped -> watcher.2 = {}

namespace IsOrderly

variable {now : Hosted} {path : Option (Path × Path)} {reload : ReloadSettings}

section

variable [CharacterNames] [DocumentReader]

/-- A watcher that the hook has let go of has no loop that could do anything. -/
theorem perform_goOnDropped (orderly : now.IsOrderly path reload) (index : Nat)
    (place : LoopPlace) (looks : Looks) : now.perform (.goOnDropped index place looks) = now := by
  simp only [Hosted.perform]
  cases here : now.dropped[index]? with
  | none => rfl
  | some watcher =>
      rcases watcher with ⟨reloader, loops⟩
      have ended := orderly.ended _ (List.mem_of_getElem? here)
      simp only at ended
      subst ended
      have idle : (⟨reloader, now.hook.tables, {}⟩ : Polled).perform (.goOn place looks) =
          ⟨reloader, now.hook.tables, {}⟩ := by
        cases place <;> rfl
      rcases List.getElem?_eq_some_iff.mp here with ⟨inside, same⟩
      simp only [idle]
      rw [← same, List.set_getElem_self]

theorem call (orderly : now.IsOrderly path reload) (file : FileState) (call : HookCall) :
    (now.perform (.call file call)).IsOrderly path reload := by
  rw [Hosted.perform, Hook.hook_call_eq]
  cases begun : now.hook.begun? file call with
  | none => exact orderly
  | some watcher =>
      refine ⟨orderly.path, orderly.reload, ?_, ?_, orderly.ended⟩
      · intro impossible
        cases impossible
      · intro started same
        injection same with same
        subst same
        have polling : watcher.start.polling = ⟨true, true, 0⟩ := by
          rw [Watcher.start, (Hook.of_begun? begun).2.1]
          rfl
        exact ⟨polling, rfl⟩

theorem stop (orderly : now.IsOrderly path reload) :
    (now.perform .stop).IsOrderly path reload := by
  refine ⟨orderly.path, orderly.reload, fun _ => rfl, ?_, ?_⟩
  · intro watcher impossible
    cases impossible
  · intro dropped member
    rcases List.mem_append.mp member with before | last
    · exact orderly.ended dropped before
    · rcases Option.map_eq_some_iff.mp (Option.mem_toList.mp last) with ⟨watcher, watched, same⟩
      have free := congrArg Polling.leftBehind (orderly.watched watcher watched).2
      rw [← same, Loops.stop, List.eq_nil_of_length_eq_zero free]

theorem goOn (orderly : now.IsOrderly path reload) (place : LoopPlace) (looks : Looks) :
    (now.perform (.goOn place looks)).IsOrderly path reload := by
  simp only [Hosted.perform]
  cases watched : now.hook.watcher with
  | none => exact orderly
  | some watcher =>
      have polling := (orderly.watched watcher watched).2
      have running := congrArg Polling.isRunning polling
      refine ⟨orderly.path, orderly.reload, ?_, ?_, orderly.ended⟩
      · intro impossible
        cases impossible
      · intro behind same
        injection same with same
        subst same
        exact ⟨rfl, (Loops.polling_goOn running place).trans polling⟩

theorem perform (orderly : now.IsOrderly path reload) (step : HostStep) :
    (now.perform step).IsOrderly path reload := by
  cases step with
  | call file call => exact orderly.call file call
  | stop => exact orderly.stop
  | goOn place looks => exact orderly.goOn place looks
  | goOnDropped index place looks =>
      rw [orderly.perform_goOnDropped]
      exact orderly

theorem run (orderly : now.IsOrderly path reload) (steps : List HostStep) :
    (now.run steps).IsOrderly path reload := by
  induction steps generalizing now with
  | nil => exact orderly
  | cons step steps ih => exact ih (orderly.perform step)

/-- A loop that waits makes the check that the hook makes if it is asked to. -/
theorem hook_goOn (orderly : now.IsOrderly path reload) {place : LoopPlace}
    (waits : now.loops.at? place = some .waiting) (looks : Looks) :
    some (now.perform (.goOn place looks)).hook = (now.hook.check? looks).map (·.1) := by
  cases watched : now.hook.watcher with
  | none =>
      rw [orderly.unwatched watched] at waits
      cases place <;> cases waits
  | some watcher =>
      let before : Polled := ⟨watcher.reloader, now.hook.tables, now.loops⟩
      rcases orderly.watched watcher watched with ⟨same, polling⟩
      have stays : (before.perform (.goOn place looks)).loops.polling = watcher.polling :=
        (Loops.polling_goOn (congrArg Polling.isRunning polling) place).trans same.symm
      have makes : before.check? (.goOn place looks) = some (watcher.reloader.check looks) :=
        Polled.check?_of_waiting waits looks
      simp only [Hosted.perform, Hook.check?, watched, Option.map_some]
      rw [stays, Polled.perform, makes]
      rfl

end

/-- There is one loop if there is a watcher, and none otherwise. -/
theorem length_allLoops (orderly : now.IsOrderly path reload) :
    now.allLoops.length = if now.hook.watcher.isSome then 1 else 0 := by
  have ended : now.dropped.flatMap (fun watcher => watcher.2.all) = [] := by
    rw [List.flatMap_eq_nil_iff]
    intro watcher member
    rw [orderly.ended watcher member]
    rfl
  rw [allLoops, ended, List.nil_append, ← Loops.loops_polling]
  cases watched : now.hook.watcher with
  | none => rw [orderly.unwatched watched]; rfl
  | some watcher => rw [(orderly.watched watcher watched).2]; rfl

end IsOrderly

/-! ## The life of a hook -/

variable {now : Hosted} {path : Option (Path × Path)} {reload : ReloadSettings}

section

variable [CharacterNames] [DocumentReader]

/-- A call has asked for the model that was in force then, and the hook has not been stopped since. -/
def HasRouted (first : Hosted) (steps : List HostStep) : Prop :=
  HappenedSince .stop (fun before step =>
    Exists fun file : FileState => Exists fun call : HookCall => step = .call file call ∧
      call.AsksFor (first.run before).hook.tables.autoModel) steps

/-- A hook has a watcher if it is to follow a file and a call has been routed since the last stop. -/
theorem isSome_watcher_run_iff (first : Hosted) (orderly : first.IsOrderly path reload)
    (unwatched : first.hook.watcher = none) (steps : List HostStep) :
    (first.run steps).hook.watcher.isSome = true ↔
      reload.enabled = true ∧ path.isSome = true ∧ first.HasRouted steps := by
  induction steps using List.reverseRecOn with
  | nil =>
      have unrouted : ¬ first.HasRouted [] := HappenedSince.not_nil
      simp [run, unwatched, unrouted]
  | append_singleton steps step ih =>
      have before := orderly.run steps
      rw [run_concat, HasRouted, HappenedSince.concat_iff, ← HasRouted]
      cases step with
      | call file call =>
          simp only [perform, Hook.hook_call_eq, Option.isSome_or, Option.isSome_map, Bool.or_eq_true,
            Hook.isSome_begun?_iff, before.path, before.reload, ih, HostStep.call.injEq, ne_eq,
            reduceCtorEq]
          grind
      | stop => simp [perform, Hook.stop]
      | goOn place looks => simpa [isSome_watcher_goOn] using ih
      | goOnDropped index place looks => simpa [before.perform_goOnDropped] using ih

/-- In the life of a hook from its construction on:
* A call of another kind or for another model than the one in force is passed on, and nothing happens.
* Any other call is answered as the tables in force route it, and may begin a watcher.
* There is a watcher exactly if the hook is to follow a file and has routed a call since it was
  constructed or stopped last.
* A call begins one exactly if it is the first of these calls, so never twice without a stop.
* There is one loop exactly as long as there is a watcher, and no other loop. -/
theorem hook_polls_once_from_routed_call_to_stop (tables : Tables) (path : Option (Path × Path))
    (reload : ReloadSettings) (baseline : Option Fingerprint) (steps : List HostStep) :
    let first : Hosted := { hook := { tables, path, reload, baseline } }
    let now := first.run steps
    (forall file call, ¬ call.AsksFor now.hook.tables.autoModel ->
      now.hook.call file call = ⟨now.hook, .passed, []⟩ ∧ now.perform (.call file call) = now) ∧
    (forall file call, call.AsksFor now.hook.tables.autoModel ->
      (now.hook.call file call).answer = .ofRouting (now.hook.tables.route call.request) ∧
      (now.hook.call file call).hook =
        { now.hook with
          watcher := ((now.hook.begun? file call).map Watcher.start).or now.hook.watcher }) ∧
    (now.hook.watcher.isSome = true ↔
      reload.enabled = true ∧ path.isSome = true ∧ first.HasRouted steps) ∧
    (forall file call, (now.hook.begun? file call).isSome = true ↔
      call.AsksFor now.hook.tables.autoModel ∧ reload.enabled = true ∧ path.isSome = true ∧
        ¬ first.HasRouted steps) ∧
    (forall before file call since, steps = before ++ .call file call :: since ->
      ((first.run before).hook.begun? file call).isSome = true -> .stop ∉ since ->
      forall other last, now.hook.begun? other last = none) ∧
    now.allLoops.length = if now.hook.watcher.isSome then 1 else 0 := by
  intro first now
  have initially : first.IsOrderly path reload :=
    ⟨rfl, rfl, fun _ => rfl, fun _ impossible => (Option.some_ne_none _ impossible.symm).elim,
      fun _ impossible => absurd impossible List.not_mem_nil⟩
  have orderly : now.IsOrderly path reload := initially.run steps
  have watched := isSome_watcher_run_iff first initially rfl
  have begins : forall file call, (now.hook.begun? file call).isSome = true ↔
      call.AsksFor now.hook.tables.autoModel ∧ reload.enabled = true ∧ path.isSome = true ∧
        ¬ first.HasRouted steps := by
    intro file call
    rw [Hook.isSome_begun?_iff, orderly.path, orderly.reload, watched steps]
    tauto
  refine ⟨?_, ?_, watched steps, begins, ?_, orderly.length_allLoops⟩
  · intro file call other
    have passed : now.hook.call file call = _ := Hook.call_of_not_asksFor other
    have silent : ¬ (now.hook.begun? file call).isSome = true :=
      fun begun => other ((begins file call).mp begun).1
    refine ⟨passed, ?_⟩
    rw [perform, passed, if_neg silent]
  · intro file call asks
    exact ⟨Hook.answer_call_of_asksFor asks, Hook.hook_call_eq _ _ _⟩
  · intro before file call since same begun unstopped other last
    have asked := (Hook.isSome_begun?_iff.mp begun).1
    have routed : first.HasRouted steps := ⟨before, _, since, same, ⟨file, call, rfl, asked⟩, unstopped⟩
    rw [← Option.not_isSome_iff_eq_none]
    exact fun again => ((begins other last).mp again).2.2.2 routed

end

/-- A routed call, a stop, and the call again. -/
def twoLives : List HostStep :=
  [.call openingFile Hooked.autoCall, .stop, .call openingFile Hooked.autoCall]

/-- There is no loop between the two lives of a hook, and one in the second. -/
theorem hook_polls_once_from_routed_call_to_stop_two_lives :
    Exists fun tables : Tables => Tables.ofContent? rootPath (contentNaming "a") = some tables ∧
      let hook : Hook := { tables, path := some (rootPath, rootPath), reload := { enabled := true } }
      ((⟨hook, {}, []⟩ : Hosted).run (twoLives.take 2)).allLoops.length = 0 ∧
        ((⟨hook, {}, []⟩ : Hosted).run twoLives).allLoops.length = 1 := by
  rcases exists_given_tables with ⟨tables, _, given, _, _⟩
  refine ⟨tables, given, ?_⟩
  intro hook
  let first : Hosted := ⟨hook, {}, []⟩
  have life := hook_polls_once_from_routed_call_to_stop tables (some (rootPath, rootPath))
    { enabled := true } none
  have named : Hooked.autoCall.AsksFor tables.autoModel := by
    have auto : (Tables.ofContent? rootPath (contentNaming "a")).map (·.autoModel) =
        some (Text.ofString "auto") := by
      decide +kernel
    rw [given, Option.map_some, Option.some_inj] at auto
    rw [auto]
    exact ⟨Or.inl rfl, rfl⟩
  have asks : Hooked.autoCall.AsksFor (first.run (twoLives.take 2)).hook.tables.autoModel := by
    have kept : (first.run (twoLives.take 2)).hook.tables =
        (hook.call openingFile Hooked.autoCall).hook.tables := rfl
    rw [kept, Hook.tables_call]
    exact named
  have routed : first.HasRouted twoLives :=
    ⟨twoLives.take 2, _, [], rfl, ⟨openingFile, Hooked.autoCall, rfl, asks⟩, List.not_mem_nil⟩
  constructor
  · exact (life (twoLives.take 2)).2.2.2.2.2
  · rw [(life twoLives).2.2.2.2.2, if_pos ((life twoLives).2.2.1.mpr ⟨rfl, rfl, routed⟩)]

end Hosted
end Switchboard
