import Switchboard.Proofs.Building
import Switchboard.Proofs.Checking

namespace Switchboard

/-!
# Contents that are refused, and contents that break off a check

Most faults of a content are faults of the settings as such: the content is refused, which is
reported, and the tables stay as they are.  Any other fault breaks the check off.  There are four
causes of that, one for each stage of loading: bytes that are no text, a value of the document that
stands for nothing, a key of the outermost mapping that is no text, and a search pattern with a
count too long or beyond any sense or with switches that contradict each other.

Building stops at the first fault, so such a pattern counts only if everything before it is sound.
-/

/-- Whether a result is a fault that is not one of the settings. -/
def stops (ofSettings : ε -> Bool) : Except ε α -> Bool
  | .ok _ => false
  | .error fault => !ofSettings fault

/-- Of a list, some item is bad and all items before it are good. -/
def FirstBad (good bad : α -> Prop) (items : List α) : Prop :=
  Exists fun before : List α => Exists fun item : α => Exists fun after : List α =>
    items = before ++ item :: after ∧ (forall other, other ∈ before -> good other) ∧ bad item

theorem firstBad_nil {good bad : α -> Prop} : ¬ FirstBad good bad [] := by
  intro impossible
  rcases impossible with ⟨before, item, after, same, _⟩
  simp at same

theorem firstBad_cons_iff {good bad : α -> Prop} {item : α} {items : List α} :
    FirstBad good bad (item :: items) ↔ bad item ∨ good item ∧ FirstBad good bad items := by
  constructor
  · intro first
    rcases first with ⟨before, other, after, same, sound, faulty⟩
    cases before with
    | nil =>
        injection same with same
        exact Or.inl (same ▸ faulty)
    | cons head before =>
        injection same with same rest
        subst same
        exact Or.inr ⟨sound item List.mem_cons_self, before, other, after, rest,
          fun member inside => sound member (List.mem_cons_of_mem _ inside), faulty⟩
  · intro either
    rcases either with faulty | ⟨sound, before, other, after, same, others, faulty⟩
    · refine ⟨[], item, items, rfl, ?_, faulty⟩
      intro member impossible
      cases impossible
    · refine ⟨item :: before, other, after, by rw [same]; rfl, ?_, faulty⟩
      intro member inside
      rcases List.mem_cons.mp inside with head | rest
      · rw [head]
        exact sound
      · exact others member rest

/-! ## Patterns and rules -/

namespace Pattern

variable [CharacterNames]

/-- A text that is read as a pattern. -/
def IsReadable (text : Text) : Prop := Exists fun pattern : Pattern => read text = .ok pattern

/-- A text that fails as a pattern in a way that is not a fault of the settings. -/
def Overstrains (text : Text) : Prop :=
  (Exists fun digits : Nat => read text = .error (.repetitionTooLong digits)) ∨
    read text = .error .repetitionTooLarge ∨ read text = .error .switchConflict

end Pattern

namespace RuleSettings

variable [CharacterNames]

/-- Settings that a rule is made of, at whatever place. -/
def IsSound (settings : RuleSettings) : Prop :=
  forall index : Nat, Exists fun rule : Rule => Rule.compile index settings = .ok rule

/-- Settings of a rule that come to a pattern that fails in another way than settings do. -/
def Overstrains (settings : RuleSettings) : Prop :=
  (Text.trim settings.category).isEmpty = false ∧
    FirstBad Pattern.IsReadable Pattern.Overstrains settings.patterns

end RuleSettings

namespace Rule

variable [CharacterNames]

/-- Reading patterns depends on the place of the rule for the wording of faults only. -/
theorem readPatterns_ok_of_ok {index other : Nat} {category name : Text} {texts : List Text}
    {patterns : List Pattern} (read : readPatterns index category texts = .ok patterns) :
    readPatterns other name texts = .ok patterns := by
  induction texts generalizing patterns with
  | nil => exact read
  | cons text texts ih =>
      rw [readPatterns] at read ⊢
      cases first : Pattern.read text with
      | error fault =>
          rw [first] at read
          cases read
      | ok pattern =>
          simp only [first] at read ⊢
          cases rest : readPatterns index category texts with
          | error fault =>
              rw [rest] at read
              cases read
          | ok patterns =>
              rw [rest] at read
              rw [ih rest]
              exact read

theorem stops_readPatterns_iff (index : Nat) (category : Text) (texts : List Text) :
    stops BuildFault.isOfSettings (readPatterns index category texts) = true ↔
      FirstBad Pattern.IsReadable Pattern.Overstrains texts := by
  induction texts with
  | nil => exact iff_of_false (by simp [readPatterns, stops]) firstBad_nil
  | cons text texts ih =>
      rw [firstBad_cons_iff, ← ih, readPatterns, Pattern.IsReadable, Pattern.Overstrains]
      cases first : Pattern.read text with
      | error fault => cases fault <;> simp [stops, BuildFault.ofPattern, BuildFault.isOfSettings]
      | ok pattern =>
          cases rest : readPatterns index category texts <;> simp [stops]

theorem isSound_of_compile {index : Nat} {settings : RuleSettings} {rule : Rule}
    (compiled : compile index settings = .ok rule) : settings.IsSound := by
  intro other
  rw [compile] at compiled ⊢
  simp only at compiled ⊢
  split at compiled
  · cases compiled
  · rename_i named
    rw [if_neg named]
    cases read : readPatterns index (Text.trim settings.category) settings.patterns with
    | error fault =>
        rw [read] at compiled
        cases compiled
    | ok patterns =>
        rw [readPatterns_ok_of_ok read]
        simp only [read] at compiled ⊢
        split at compiled
        · cases compiled
        · rename_i tested
          rw [if_neg tested]
          exact ⟨_, rfl⟩

theorem stops_compile_iff (index : Nat) (settings : RuleSettings) :
    stops BuildFault.isOfSettings (compile index settings) = true ↔ settings.Overstrains := by
  rw [RuleSettings.Overstrains, compile]
  rw [← stops_readPatterns_iff index (Text.trim settings.category)]
  cases empty : (Text.trim settings.category).isEmpty with
  | true => simp [stops, BuildFault.isOfSettings]
  | false =>
      simp only [Bool.false_eq_true, if_false, true_and]
      cases read : readPatterns index (Text.trim settings.category) settings.patterns with
      | error fault => rfl
      | ok patterns =>
          simp only
          split <;> simp [stops, BuildFault.isOfSettings]

theorem stops_compileFrom_iff (index : Nat) (rules : List RuleSettings) :
    stops BuildFault.isOfSettings (compileFrom index rules) = true ↔
      FirstBad RuleSettings.IsSound RuleSettings.Overstrains rules := by
  induction rules generalizing index with
  | nil => exact iff_of_false (by simp [compileFrom, stops]) firstBad_nil
  | cons settings rules ih =>
      rw [firstBad_cons_iff, ← stops_compile_iff index, ← ih (index + 1), compileFrom]
      cases first : compile index settings with
      | error fault =>
          have unsound : ¬ settings.IsSound := by
            intro sound
            rcases sound index with ⟨rule, compiled⟩
            rw [first] at compiled
            cases compiled
          simp [stops, unsound]
      | ok rule =>
          have sound := isSound_of_compile first
          cases rest : compileFrom (index + 1) rules <;> simp [stops, sound]

end Rule

/-! ## Tables -/

namespace Tables

open Text

/-- Settings whose rules are compiled: every tier has a model, and the fallback category is a name
that has a tier. -/
structure AreComplete (settings : RouterSettings) : Prop where
  models : tierWithoutModel? (trimModels settings.tiers) = none
  fallback : (trim settings.fallback).isEmpty = false
  routed : isRouted (trimRouting settings.routing) (trim settings.fallback) = true

variable [CharacterNames]

theorem stops_compile_iff (rules : List RuleSettings) (fallback : Text) :
    stops BuildFault.isOfSettings (RuleList.compile rules fallback) = true ↔
      FirstBad RuleSettings.IsSound RuleSettings.Overstrains rules := by
  rw [← Rule.stops_compileFrom_iff 0, RuleList.compile]
  cases compiled : Rule.compileFrom 0 rules with
  | error fault => rfl
  | ok compiled =>
      simp only
      split <;> simp [stops, BuildFault.isOfSettings]

theorem stops_rulesOf_iff (settings : RouterSettings) :
    stops BuildFault.isOfSettings (rulesOf settings) = true ↔
      AreComplete settings ∧
        FirstBad RuleSettings.IsSound RuleSettings.Overstrains settings.rules := by
  rw [← stops_compile_iff settings.rules (trim settings.fallback), rulesOf]
  constructor
  · intro stopped
    split at stopped
    · cases stopped
    · rename_i models
      simp only at stopped
      split at stopped
      · cases stopped
      · rename_i named
        split at stopped
        · cases stopped
        · rename_i routed
          exact ⟨⟨models, Bool.eq_false_iff.mpr named, by simpa using routed⟩, stopped⟩
  · intro both
    rcases both with ⟨⟨models, named, routed⟩, stopped⟩
    simpa only [models, named, routed, Bool.false_eq_true, Bool.not_true, if_false] using stopped

theorem stops_build_iff (settings : RouterSettings) :
    stops BuildFault.isOfSettings (build settings) = true ↔
      AreComplete settings ∧
        FirstBad RuleSettings.IsSound RuleSettings.Overstrains settings.rules := by
  rw [← stops_rulesOf_iff, build]
  cases rulesOf settings with
  | error fault => rfl
  | ok rules =>
      simp only [finish]
      split
      · simp [stops, BuildFault.isOfSettings]
      · split <;> simp [stops, BuildFault.isOfSettings]

end Tables

/-! ## Contents -/

namespace Settings

/-- A key of the outermost mapping of a document that is no text. -/
def HasOtherKey (document : Datum) : Prop :=
  Exists fun entries => document = .map entries ∧
    Exists fun entry => entry ∈ entries ∧ isTextKey entry.1 = false

theorem ofDocument_of_isEmpty {path : Text} {document : Datum} (empty : document.isEmpty = true) :
    ofDocument path document = ofDocument path (.map []) := by
  rw [ofDocument, ofDocument, empty]
  rfl

theorem stops_entries_iff (path : Text) (entries : List (Datum × Datum)) :
    stops LoadFault.isOfSettings (ofDocument path (.map entries)) = true ↔
      Exists fun entry => entry ∈ entries ∧ isTextKey entry.1 = false := by
  have same : (if (Datum.map entries).isEmpty then Datum.map [] else .map entries) =
      .map entries := by
    cases entries <;> rfl
  rw [ofDocument, same]
  simp only
  split
  · rename_i other
    simpa [stops, LoadFault.isOfSettings] using other
  · rename_i texts
    refine iff_of_false ?_ (by simpa using texts)
    cases check (.map entries) <;> simp [stops, LoadFault.isOfSettings]

theorem stops_ofDocument_iff (path : Text) (document : Datum) :
    stops LoadFault.isOfSettings (ofDocument path document) = true ↔ HasOtherKey document := by
  by_cases empty : document.isEmpty = true
  · -- An empty document passes for an empty mapping, which has no keys.
    rw [ofDocument_of_isEmpty empty, stops_entries_iff]
    refine iff_of_false (by simp) ?_
    intro other
    rcases other with ⟨entries, same, entry, member, _⟩
    rw [same, Datum.isEmpty, List.isEmpty_iff] at empty
    rw [empty] at member
    cases member
  · cases document with
    | map entries => rw [stops_entries_iff, HasOtherKey]; simp
    | _ => simp [ofDocument, empty, stops, LoadFault.isOfSettings, HasOtherKey]

variable [DocumentReader]

theorem stops_ofText_iff (path text : Text) :
    stops LoadFault.isOfSettings (ofText path text) = true ↔
      (Exists fun fault => DocumentReader.read text = .error fault ∧ fault ≠ .malformed) ∨
        Exists fun document => DocumentReader.read text = .ok document ∧ HasOtherKey document := by
  rw [ofText]
  cases read : DocumentReader.read text with
  | ok document =>
      simp only [stops_ofDocument_iff]
      simp
  | error fault => cases fault <;> simp [stops, LoadFault.isOfSettings]

theorem stops_ofContent_iff (path : Text) (content : List UInt8) :
    stops LoadFault.isOfSettings (ofContent path content) = true ↔
      (Exists fun fault => Text.decodeUtf8 content = .error fault) ∨
        Exists fun text => Text.decodeUtf8 content = .ok text ∧
          stops LoadFault.isOfSettings (ofText path (Text.unifyLines text)) = true := by
  rw [ofContent]
  cases Text.decodeUtf8 content <;> simp [stops, LoadFault.isOfSettings]

end Settings

/-- Why a content breaks off loading. -/
inductive BreaksOff [CharacterNames] [DocumentReader] (resolved : Path) (content : List UInt8) :
    Prop where
  /-- The bytes are no text. -/
  | bytes {fault : Text.Utf8Fault} (undecodable : Text.decodeUtf8 content = .error fault)
  /-- A value of the document stands for nothing. -/
  | value {text : Text} {fault : Document.Fault} (decoded : Text.decodeUtf8 content = .ok text)
      (unreadable : DocumentReader.read (Text.unifyLines text) = .error fault)
      (other : fault ≠ .malformed)
  /-- A key of the outermost mapping is no text. -/
  | key {text : Text} {document : Datum} (decoded : Text.decodeUtf8 content = .ok text)
      (read : DocumentReader.read (Text.unifyLines text) = .ok document)
      (other : Settings.HasOtherKey document)
  /-- The first fault in building the tables is a pattern that fails in another way than settings
  do. -/
  | pattern {settings : Settings} (accepted : Settings.ofContent resolved.text content = .ok settings)
      (complete : Tables.AreComplete settings.router)
      (overstrains :
        FirstBad RuleSettings.IsSound RuleSettings.Overstrains settings.router.rules)

theorem breaksOff_iff [CharacterNames] [DocumentReader] (resolved : Path) (content : List UInt8) :
    BreaksOff resolved content ↔
      stops LoadFault.isOfSettings (Settings.ofContent resolved.text content) = true ∨
        Exists fun settings => Settings.ofContent resolved.text content = .ok settings ∧
          stops BuildFault.isOfSettings (Tables.build settings.router) = true := by
  simp only [Settings.stops_ofContent_iff, Settings.stops_ofText_iff, Tables.stops_build_iff]
  constructor
  · intro why
    cases why with
    | bytes undecodable => exact Or.inl (Or.inl ⟨_, undecodable⟩)
    | value decoded unreadable other =>
        exact Or.inl (Or.inr ⟨_, decoded, Or.inl ⟨_, unreadable, other⟩⟩)
    | key decoded read other => exact Or.inl (Or.inr ⟨_, decoded, Or.inr ⟨_, read, other⟩⟩)
    | pattern accepted complete overstrains => exact Or.inr ⟨_, accepted, complete, overstrains⟩
  · intro why
    rcases why with (⟨fault, undecodable⟩ | ⟨text, decoded, ⟨fault, unreadable, other⟩ |
      ⟨document, read, other⟩⟩) | ⟨settings, accepted, complete, overstrains⟩
    · exact .bytes undecodable
    · exact .value decoded unreadable other
    · exact .key decoded read other
    · exact .pattern accepted complete overstrains

namespace Tables

theorem stops_ofFile_iff [CharacterNames] [DocumentReader] (resolved : Path) (stamp : Int)
    (content : List UInt8) :
    stops SetupFault.isOfSettings
        (ofFile resolved (.file stamp content) (.file stamp content)) = true ↔
      BreaksOff resolved content := by
  have load : Settings.load resolved (.file stamp content) (.file stamp content) =
      Settings.ofContent resolved.text content := rfl
  rw [breaksOff_iff, ofFile, load]
  cases Settings.ofContent resolved.text content with
  | error fault => simp [stops, SetupFault.isOfSettings]
  | ok settings =>
      cases built : build settings.router <;> simp [stops, SetupFault.isOfSettings, built]

end Tables

namespace Reloader

variable {reloader : Reloader} {stamp : Int} {content : List UInt8}

/-- Whether a check loads a file: it shows another time stamp and another digest. -/
def IsNew (reloader : Reloader) (stamp : Int) (content : List UInt8) : Prop :=
  reloader.memory.stamp ≠ some stamp ∧ reloader.memory.digest ≠ some (Digest.ofBytes content)

variable [CharacterNames] [DocumentReader]

theorem checkNow_of_new (new : reloader.IsNew stamp content) :
    reloader.checkNow (.file stamp content) =
      { reloader with memory := ⟨some stamp, some (Digest.ofBytes content)⟩ }.reload
        (.file stamp content) (.file stamp content) := by
  have read : reloader.read? (.steady (.file stamp content)) = some content := if_neg new.1
  rw [checkNow, check_of_read read]
  exact if_neg new.2

theorem checkNow_of_old (old : ¬ reloader.IsNew stamp content) :
    (reloader.checkNow (.file stamp content)).result = .unchanged := by
  cases read : reloader.read? (.steady (.file stamp content)) with
  | none =>
      rcases check_of_unread read with ⟨_, _, same⟩
      rw [checkNow, same]
  | some found =>
      have here : some content = some found := content?_of_read read
      injection here with equal
      subst equal
      have different : reloader.memory.stamp ≠ some stamp := by
        intro same
        have unread : reloader.read? (.steady (.file stamp content)) = none := if_pos same
        rw [read] at unread
        cases unread
      have known : reloader.memory.digest = some (Digest.ofBytes content) :=
        Decidable.not_not.mp fun other => old ⟨different, other⟩
      rw [checkNow, check_of_read read]
      simp only [if_pos known]

theorem failed_reload_iff (reloader : Reloader) (found opened : FileState) :
    (Exists fun fault => (reloader.reload found opened).result = .failed fault) ↔
      stops SetupFault.isOfSettings (Tables.ofFile reloader.resolved found opened) = true := by
  rw [reload]
  cases Tables.ofFile reloader.resolved found opened with
  | ok tables => simp [stops]
  | error fault =>
      simp only [stops]
      cases fault.isOfSettings <;> simp

theorem rejected_reload_iff (reloader : Reloader) (found opened : FileState) (fault : SetupFault) :
    (reloader.reload found opened).result = .rejected fault ↔
      Tables.ofFile reloader.resolved found opened = .error fault ∧ fault.isOfSettings = true := by
  rw [reload]
  cases Tables.ofFile reloader.resolved found opened with
  | ok tables => simp
  | error other =>
      simp only [Except.error.injEq]
      constructor
      · intro rejected
        split at rejected
        · rename_i settings
          injection rejected with same
          exact ⟨same, same ▸ settings⟩
        · cases rejected
      · intro both
        rw [both.1, if_pos both.2]

/-- What is refused is reported. -/
theorem reported_of_rejected_reload {found opened : FileState} {fault : SetupFault}
    (rejected : (reloader.reload found opened).result = .rejected fault) :
    .changeRejected reloader.path.text fault.message ∈ (reloader.reload found opened).notices := by
  rcases (rejected_reload_iff reloader found opened fault).mp rejected with ⟨refused, settings⟩
  rw [reload]
  simp only [refused, if_pos settings]
  exact List.mem_append_right _ List.mem_cons_self

theorem failed_checkNow_iff (reloader : Reloader) (stamp : Int) (content : List UInt8) :
    (Exists fun fault => (reloader.checkNow (.file stamp content)).result = .failed fault) ↔
      reloader.IsNew stamp content ∧ BreaksOff reloader.resolved content := by
  by_cases new : reloader.IsNew stamp content
  · rw [checkNow_of_new new, failed_reload_iff, Tables.stops_ofFile_iff]
    simp [new]
  · rw [checkNow_of_old new]
    simp [new]

theorem rejected_checkNow_iff (reloader : Reloader) (stamp : Int) (content : List UInt8)
    (fault : SetupFault) :
    (reloader.checkNow (.file stamp content)).result = .rejected fault ↔
      reloader.IsNew stamp content ∧
        Tables.ofFile reloader.resolved (.file stamp content) (.file stamp content) = .error fault ∧
        fault.isOfSettings = true := by
  by_cases new : reloader.IsNew stamp content
  · rw [checkNow_of_new new, rejected_reload_iff]
    simp [new]
  · rw [checkNow_of_old new]
    simp [new]

theorem reported_of_rejected_checkNow {fault : SetupFault}
    (rejected : (reloader.checkNow (.file stamp content)).result = .rejected fault) :
    .changeRejected reloader.path.text fault.message ∈
      (reloader.checkNow (.file stamp content)).notices := by
  have new := ((rejected_checkNow_iff reloader stamp content fault).mp rejected).1
  rw [checkNow_of_new new] at rejected ⊢
  exact reported_of_rejected_reload rejected

end Reloader

theorem Check.inForce_of_rejected {check : Check} {fault : SetupFault}
    (rejected : check.result = .rejected fault) (live : Tables) : check.inForce live = live := by
  rw [inForce, Watcher.newTables?, rejected]
  rfl

theorem not_stops_iff {ofSettings : ε -> Bool} {result : Except ε α} :
    ((Exists fun value => result = .ok value) ∨
        Exists fun fault => result = .error fault ∧ ofSettings fault = true) ↔
      ¬ stops ofSettings result = true := by
  cases result <;> simp [stops]

/-- A file gives tables or is refused exactly if its content does not break off loading.  A check
breaks off exactly if it loads such a content anew, and refuses exactly what is refused anew; it then
reports the refusal and leaves the tables in force as they are. -/
theorem file_is_accepted_or_refused_iff [CharacterNames] [DocumentReader] (resolved : Path)
    (stamp : Int) (content : List UInt8) :
    let file := FileState.file stamp content
    (((Exists fun tables => Tables.ofFile resolved file file = .ok tables) ∨
        Exists fun fault => Tables.ofFile resolved file file = .error fault ∧
          fault.isOfSettings = true) ↔ ¬ BreaksOff resolved content) ∧
    forall (path : Path) (memory : Fingerprint),
      let reloader : Reloader := ⟨path, resolved, memory⟩
      let check := reloader.checkNow file
      ((Exists fun fault => check.result = .failed fault) ↔
        reloader.IsNew stamp content ∧ BreaksOff resolved content) ∧
      forall fault : SetupFault,
        (check.result = .rejected fault ↔
          reloader.IsNew stamp content ∧ Tables.ofFile resolved file file = .error fault ∧
            fault.isOfSettings = true) ∧
        (check.result = .rejected fault ->
          .changeRejected path.text fault.message ∈ check.notices ∧
            forall live : Tables, check.inForce live = live) := by
  intro file
  constructor
  · rw [← Tables.stops_ofFile_iff resolved stamp content]
    exact not_stops_iff
  · intro path memory reloader check
    refine ⟨Reloader.failed_checkNow_iff reloader stamp content, ?_⟩
    intro fault
    refine ⟨Reloader.rejected_checkNow_iff reloader stamp content fault, ?_⟩
    intro rejected
    exact ⟨Reloader.reported_of_rejected_checkNow rejected, Check.inForce_of_rejected rejected⟩

/-- A text instead of a mapping is refused by a check that has nothing to go by, and reported. -/
theorem file_is_accepted_or_refused_iff_plain_text :
    let file := FileState.file 1000 [0x61]
    let check := (⟨rootPath, rootPath, {}⟩ : Reloader).checkNow file
    Exists fun fault => check.result = .rejected fault ∧
      .changeRejected rootPath.text fault.message ∈ check.notices ∧
        forall live : Tables, check.inForce live = live := by
  intro file check
  have refused : Tables.ofFile rootPath file file =
      .error (.load (.notMapping rootPath.text "str")) := by
    decide +kernel
  have law := (file_is_accepted_or_refused_iff rootPath 1000 [0x61]).2 rootPath {}
  have new : (⟨rootPath, rootPath, {}⟩ : Reloader).IsNew 1000 [0x61] := by
    constructor <;> simp
  have rejected := (law.2 _).1.mpr ⟨new, refused, rfl⟩
  exact ⟨_, rejected, (law.2 _).2 rejected⟩

/-- A byte that begins no character is neither accepted nor refused. -/
theorem file_without_text_is_neither_accepted_nor_refused :
    ¬ forall (resolved : Path) (stamp : Int) (content : List UInt8),
      ((Exists fun tables =>
          Tables.ofFile resolved (.file stamp content) (.file stamp content) = .ok tables) ∨
        Exists fun fault =>
          Tables.ofFile resolved (.file stamp content) (.file stamp content) = .error fault ∧
            fault.isOfSettings = true) ∧
      forall (path : Path) (memory : Fingerprint) (fault : SetupFault),
        ((⟨path, resolved, memory⟩ : Reloader).checkNow (.file stamp content)).result ≠
          .failed fault := by
  intro total
  have outcome : Tables.ofFile rootPath (.file 1000 [0xFF]) (.file 1000 [0xFF]) =
      .error (.load (.undecodable ⟨.badStart, 0xFF, 0, 1⟩)) := rfl
  rcases (total rootPath 1000 [0xFF]).1 with ⟨tables, accepted⟩ | ⟨fault, refused, settings⟩
  · rw [outcome] at accepted
    cases accepted
  · rw [outcome] at refused
    injection refused with same
    rw [← same] at settings
    cases settings

end Switchboard
