import Switchboard.Proofs.Lowering
import Switchboard.Proofs.Matching

namespace Switchboard

open Text

/-!
# Phrases that a message shows letter by letter

A phrase is lowered alone, and a message as a whole.  For every letter but one this is the same, so
a phrase that a message shows as it is written is found in it.  The exception is the capital sigma,
whose form depends on what stands on either side: at the end of a phrase it ends a word, and in a
message the word may go on.

So an occurrence is found at its place exactly if no capital sigma of the phrase takes another form
there.  Only two can: one with nothing before it in the phrase that counts, and one with nothing
behind it that counts.  A phrase without such a sigma is found wherever it occurs, and for any other
phrase there is a message that shows it and that a rule for this phrase does not match.
-/

/-! ## Capital sigmas and their surroundings -/

namespace Text

/-- Every capital sigma of a phrase takes the form between two texts that it takes in the phrase
alone. -/
def KeepsSigmas (before phrase after : Text) : Prop :=
  forall front back : Text, phrase = front ++ capitalSigma :: back ->
    isFinalBetween (before ++ front) (back ++ after) = isFinalBetween front back

/-- A capital sigma stands in front of the phrase, as far as letters go, and no letter goes on
behind it. -/
def HasOpenStart (phrase : Text) : Prop :=
  Exists fun front : Text => Exists fun back : Text => phrase = front ++ capitalSigma :: back ∧
    (forall c, c ∈ front -> isCaseIgnorable c = true) ∧ leadsWithCased back = false

/-- A capital sigma ends a word of the phrase and the phrase itself, as far as letters go. -/
def HasOpenEnd (phrase : Text) : Prop :=
  Exists fun front : Text => Exists fun back : Text => phrase = front ++ capitalSigma :: back ∧
    casedBehind false front = true ∧ forall c, c ∈ back -> isCaseIgnorable c = true

theorem lowerWithin_eq_lower_iff {before phrase after : Text} :
    lowerWithin (casedBehind false before) phrase after = lower phrase ↔
      KeepsSigmas before phrase after := by
  rw [lower_eq_lowerWithin, lowerWithin_eq_iff]
  simp only [KeepsSigmas, isFinalBetween, casedBehind_append, List.append_nil]

/-- A text is lowered part by part, each in its surroundings. -/
theorem lower_parts (before phrase after : Text) : lower (before ++ (phrase ++ after)) =
    lowerWithin false before (phrase ++ after) ++
      (lowerWithin (casedBehind false before) phrase after ++
        lowerWithin (casedBehind (casedBehind false before) phrase) after []) := by
  rw [lower_eq_lowerWithin, lowerWithin_append, lowerWithin_append, List.append_nil,
    List.append_nil]

/-- At the place of a phrase the lowered text goes on with the lowered phrase exactly if the phrase
keeps its sigmas there. -/
theorem lower_at_place_iff (before phrase after : Text) :
    lower phrase <+: (lower (before ++ (phrase ++ after))).drop (lower before).length ↔
      KeepsSigmas before phrase after := by
  have lengthBefore :
      (lower before).length = (lowerWithin false before (phrase ++ after)).length := by
    rw [length_lower, length_lowerWithin]
  have length : (lower phrase).length =
      (lowerWithin (casedBehind false before) phrase after).length := by
    rw [length_lower, length_lowerWithin]
  rw [lower_parts, lengthBefore, List.drop_left, ← lowerWithin_eq_lower_iff]
  constructor
  · rintro ⟨rest, same⟩
    exact (List.append_inj same length).1.symm
  · intro same
    exact ⟨_, congrArg (· ++ _) same.symm⟩

/-- Only a sigma at an open end of a phrase can take another form. -/
theorem keepsSigmas_of_closed {before phrase : Text}
    (start : before = [] ∨ ¬ HasOpenStart phrase) (stop : ¬ HasOpenEnd phrase) (after : Text) :
    KeepsSigmas before phrase after := by
  intro front back parts
  rw [isFinalBetween, isFinalBetween, casedBehind_append]
  by_cases ignorable : forall c, c ∈ front -> isCaseIgnorable c = true
  · rw [casedBehind_of_ignorable ignorable, casedBehind_of_ignorable ignorable, Bool.false_and]
    rcases start with nothing | closed
    · rw [nothing]
      rfl
    · -- A letter with case behind the sigma decides, whatever stands before it.
      have leads : leadsWithCased back = true := by
        by_contra caseless
        exact closed ⟨front, back, parts, ignorable, Bool.eq_false_iff.mpr caseless⟩
      rw [leadsWithCased_append_of_leads leads, Bool.not_true, Bool.and_false]
  · push Not at ignorable
    rcases ignorable with ⟨c, member, seen⟩
    rw [casedBehind_of_seen member (Bool.eq_false_iff.mpr seen) _ false]
    cases cased : casedBehind false front with
    | false => rfl
    | true =>
        have counts : ¬ forall d, d ∈ back -> isCaseIgnorable d = true :=
          fun ignorableBack => stop ⟨front, back, parts, cased, ignorableBack⟩
        push Not at counts
        rcases counts with ⟨d, memberBack, seenBack⟩
        rw [leadsWithCased_of_seen memberBack (Bool.eq_false_iff.mpr seenBack)]

/-! ## A sigma that changes -/

theorem isCaseIgnorable_capitalSigma : isCaseIgnorable capitalSigma = false := by
  decide

theorem capitalSigma_not_mem_of_ignorable {text : Text}
    (ignorable : forall c, c ∈ text -> isCaseIgnorable c = true) : capitalSigma ∉ text := by
  intro member
  have seen := isCaseIgnorable_capitalSigma
  rw [ignorable _ member] at seen
  cases seen

/-- A capital sigma hides what stands behind it. -/
theorem leadsWithCased_append_sigma (text following : Text) :
    leadsWithCased (text ++ capitalSigma :: following) =
      leadsWithCased (text ++ [capitalSigma]) := by
  have member : capitalSigma ∈ text ++ [capitalSigma] := List.mem_append_right _ List.mem_cons_self
  rw [← leadsWithCased_of_seen member isCaseIgnorable_capitalSigma following, List.append_assoc]
  rfl

/-- Around one capital sigma a phrase is lowered alike in a text and alone, if the other sigmas
are. -/
theorem exists_lowered_around {afterCased : Bool} {front back after : Text}
    (keptBefore : forall left right : Text, front = left ++ capitalSigma :: right ->
      casedBehind afterCased left = casedBehind false left)
    (keptBehind : forall left right : Text, back = left ++ capitalSigma :: right ->
      leadsWithCased (right ++ after) = leadsWithCased right) :
    Exists fun first : Text => Exists fun last : Text =>
      lower (front ++ capitalSigma :: back) =
        first ++ sigmaForm (casedBehind false front) back :: last ∧
      lowerWithin afterCased (front ++ capitalSigma :: back) after =
        first ++ sigmaForm (casedBehind afterCased front) (back ++ after) :: last := by
  have around : forall (state : Bool) (following : Text),
      lowerWithin state (front ++ capitalSigma :: back) following =
        lowerWithin state front (capitalSigma :: (back ++ following)) ++
          sigmaForm (casedBehind state front) (back ++ following) ::
            lowerWithin true back following := by
    intro state following
    rw [lowerWithin_append, lowerWithin]
    rfl
  have fronts : lowerWithin afterCased front (capitalSigma :: (back ++ after)) =
      lowerWithin false front (capitalSigma :: (back ++ [])) := by
    apply lowerWithin_eq_iff.mpr
    intro left right parts
    rw [keptBefore left right parts, leadsWithCased_append_sigma,
      leadsWithCased_append_sigma right (back ++ [])]
  have backs : lowerWithin true back after = lowerWithin true back [] := by
    apply lowerWithin_eq_iff.mpr
    intro left right parts
    rw [keptBehind left right parts, List.append_nil]
  refine ⟨lowerWithin false front (capitalSigma :: (back ++ [])), lowerWithin true back [], ?_, ?_⟩
  · rw [lower_eq_lowerWithin, around, List.append_nil]
  · rw [around, fronts, backs]

/-- A text in which one character of a phrase is changed, and that shows this character nowhere
around, does not hold the phrase. -/
theorem not_infix_of_changed {first last before after : Text} {c d : Char} (changed : c ≠ d)
    (freeBefore : c ∉ before) (freeAfter : c ∉ after) :
    ¬ (first ++ c :: last) <:+: before ++ ((first ++ d :: last) ++ after) := by
  intro inside
  have counts := inside.sublist.count_le c
  simp only [List.count_append, List.count_cons_self, List.count_cons_of_ne (Ne.symm changed),
    List.count_eq_zero.mpr freeBefore, List.count_eq_zero.mpr freeAfter] at counts
  omega

/-! ## Texts that show a phrase and do not hold it in lower case -/

/-- Surroundings that lowering leaves alone and that show no small sigma. -/
def IsPlain (text : Text) : Prop :=
  forall c, c ∈ text -> IsLowered c ∧ c ≠ smallSigma ∧ c ≠ finalSigma

instance : DecidablePred IsPlain :=
  fun text => List.decidableBAll (fun c => IsLowered c ∧ c ≠ smallSigma ∧ c ≠ finalSigma) text

/-- Between characters that lowering leaves alone only the phrase is lowered. -/
theorem lower_around {before after : Text} (plainBefore : IsPlain before)
    (plainAfter : IsPlain after) (phrase : Text) : lower (before ++ (phrase ++ after)) =
      before ++ (lowerWithin (casedBehind false before) phrase after ++ after) := by
  rw [lower_parts, lowerWithin_of_isLowered fun c member => (plainBefore c member).1,
    lowerWithin_of_isLowered fun c member => (plainAfter c member).1]

theorem sigmaForm_not_mem {text : Text} (plain : IsPlain text) (afterCased : Bool)
    (following : Text) : sigmaForm afterCased following ∉ text := by
  intro member
  have other := plain _ member
  rcases sigmaForm_cases afterCased following with final | small
  · exact other.2.2 final
  · exact other.2.1 small

/-- If one capital sigma of a phrase takes another form in plain surroundings and the others do not,
the phrase is not held in lower case. -/
theorem not_infix_of_changed_sigma {before front back after : Text} (plainBefore : IsPlain before)
    (plainAfter : IsPlain after)
    (keptBefore : forall left right : Text, front = left ++ capitalSigma :: right ->
      casedBehind (casedBehind false before) left = casedBehind false left)
    (keptBehind : forall left right : Text, back = left ++ capitalSigma :: right ->
      leadsWithCased (right ++ after) = leadsWithCased right)
    (changed : sigmaForm (casedBehind false front) back ≠
      sigmaForm (casedBehind (casedBehind false before) front) (back ++ after)) :
    ¬ lower (front ++ capitalSigma :: back) <:+:
      lower (before ++ ((front ++ capitalSigma :: back) ++ after)) := by
  rcases exists_lowered_around keptBefore keptBehind with ⟨first, last, alone, inside⟩
  rw [lower_around plainBefore plainAfter, alone, inside]
  exact not_infix_of_changed changed (sigmaForm_not_mem plainBefore _ _)
    (sigmaForm_not_mem plainAfter _ _)

/-- A letter, and a mark that is passed over. -/
def letterBefore : Text := ['a', '\'']

/-- A mark that is passed over, and a letter. -/
def letterBehind : Text := ['\'', 'a']

/-- A mark that has no case and is not passed over. -/
def plainMark : Text := ['!']

theorem isPlain_surroundings : IsPlain (letterBefore ++ plainMark ++ letterBehind) := by
  decide

theorem isPlain_letterBefore : IsPlain letterBefore :=
  fun c member => isPlain_surroundings c (List.mem_append_left _ (List.mem_append_left _ member))

theorem isPlain_plainMark : IsPlain plainMark :=
  fun c member => isPlain_surroundings c (List.mem_append_left _ (List.mem_append_right _ member))

theorem isPlain_letterBehind : IsPlain letterBehind :=
  fun c member => isPlain_surroundings c (List.mem_append_right _ member)

/-- Behind a letter, a sigma at an open start ends a word. -/
theorem not_infix_of_hasOpenStart {phrase : Text} (opened : HasOpenStart phrase) :
    ¬ lower phrase <:+: lower (letterBefore ++ (phrase ++ plainMark)) := by
  rcases opened with ⟨front, back, parts, ignorable, caseless⟩
  have mark : leadsWithCased plainMark = false := by decide
  have letter : casedBehind false letterBefore = true := by decide
  have noSigma := capitalSigma_not_mem_of_ignorable ignorable
  rw [parts]
  apply not_infix_of_changed_sigma isPlain_letterBefore isPlain_plainMark
  · intro left right same
    exact absurd (same ▸ List.mem_append_right left List.mem_cons_self) noSigma
  · intro left right _
    exact leadsWithCased_append mark right
  · rw [letter, casedBehind_of_ignorable ignorable, casedBehind_of_ignorable ignorable, sigmaForm,
      sigmaForm, leadsWithCased_append mark, caseless]
    decide

/-- Before a letter, a sigma at an open end stands inside a word. -/
theorem not_infix_of_hasOpenEnd {phrase before : Text} (opened : HasOpenEnd phrase)
    (plainBefore : IsPlain before) (caselessBefore : casedBehind false before = false) :
    ¬ lower phrase <:+: lower (before ++ (phrase ++ letterBehind)) := by
  rcases opened with ⟨front, back, parts, cased, ignorable⟩
  have letter : leadsWithCased letterBehind = true := by decide
  have nothing := leadsWithCased_of_ignorable ignorable []
  have noSigma := capitalSigma_not_mem_of_ignorable ignorable
  rw [parts]
  apply not_infix_of_changed_sigma plainBefore isPlain_letterBehind
  · intro left right _
    rw [caselessBefore]
  · intro left right same
    exact absurd (same ▸ List.mem_append_right left List.mem_cons_self) noSigma
  · rw [List.append_nil] at nothing
    rw [caselessBefore, cased, sigmaForm, sigmaForm, nothing, leadsWithCased_of_ignorable ignorable,
      letter]
    decide

end Text

/-! ## Rules and the phrases they look for -/

/-- Where a rule looks for a phrase. -/
inductive Search where
  | atStart
  | inside
  | bounded

namespace Search

/-- The phrases that a rule looks for in one way. -/
def phrases : Search -> RuleSettings -> List Text
  | atStart, settings => settings.beginnings
  | inside, settings => settings.contains
  | bounded, settings => settings.words

/-- The part of a phrase that counts. -/
def core : Search -> Text -> Text
  | atStart, phrase => trimStart phrase
  | inside, phrase => phrase
  | bounded, phrase => trim phrase

/-- What may stand before a phrase and behind it. -/
def Admits : Search -> Text -> Text -> Prop
  | atStart, before, _ => before = []
  | inside, _, _ => True
  | bounded, before, after => before.getLast?.any isWord = false ∧ after.head?.any isWord = false

/-- A text shows a phrase where it is looked for. -/
def Finds (search : Search) (phrase text : Text) : Prop :=
  Exists fun before : Text => Exists fun after : Text =>
    text = before ++ (phrase ++ after) ∧ search.Admits before after

/-- A capital sigma at an end of the phrase that a message may go on from. -/
def LeavesOpen : Search -> Text -> Prop
  | atStart, phrase => HasOpenEnd phrase
  | inside, phrase => HasOpenStart phrase ∨ HasOpenEnd phrase
  | bounded, phrase => HasOpenStart phrase ∨ HasOpenEnd phrase

/-- The settings of a rule for one phrase and nothing else. -/
def only (search : Search) (category phrase : Text) : RuleSettings :=
  match search with
  | atStart => { category, beginnings := [phrase] }
  | inside => { category, contains := [phrase] }
  | bounded => { category, words := [phrase] }

variable {search : Search} {phrase : Text}

theorem Finds.isInfix {text : Text} (found : search.Finds phrase text) : phrase <:+: text := by
  rcases found with ⟨before, after, parts, _⟩
  rw [parts]
  exact List.infix_append' before phrase after

section

variable [CharacterNames]

theorem applies_of_finds {settings : RuleSettings} (listed : phrase ∈ search.phrases settings)
    (filled : isBlankText phrase = false) {message : Text}
    (found : search.Finds (lower (search.core phrase)) message) : settings.Applies message := by
  rcases found with ⟨before, after, parts, admitted⟩
  cases search with
  | atStart =>
      refine .beginning listed filled ⟨after, ?_⟩
      rw [parts, show before = [] from admitted]
      rfl
  | inside =>
      refine .contained listed filled ⟨before, after, ?_⟩
      rw [parts, List.append_assoc]
      rfl
  | bounded =>
      refine .bounded listed filled ⟨before, after, ?_, admitted⟩
      rw [parts, List.append_assoc]
      rfl

/-- A rule for one phrase matches nothing but messages that hold it. -/
theorem isInfix_of_applies_only {category message : Text}
    (applies : (search.only category phrase).Applies message) :
    lower (search.core phrase) <:+: message := by
  cases search with
  | atStart =>
      cases applies with
      | beginning listed _ starts => exact List.mem_singleton.mp listed ▸ starts.isInfix
      | exact listed | contained listed | bounded listed | pattern listed => cases listed
      | short given => cases given
  | inside =>
      cases applies with
      | contained listed _ inside => exact List.mem_singleton.mp listed ▸ inside
      | exact listed | beginning listed | bounded listed | pattern listed => cases listed
      | short given => cases given
  | bounded =>
      cases applies with
      | bounded listed _ inside =>
          rcases inside with ⟨before, after, parts, _⟩
          exact List.mem_singleton.mp listed ▸ ⟨before, after, parts.symm⟩
      | exact listed | beginning listed | contained listed | pattern listed => cases listed
      | short given => cases given

theorem exists_compile_only (filled : isBlankText phrase = false) :
    Exists fun rule : Rule => Rule.compile 0 (search.only ['c'] phrase) = .ok rule := by
  refine ⟨_, Rule.compile_eq_ok_iff.mpr ⟨?_, [], ?_, ?_, rfl⟩⟩
  · cases search <;> rfl
  · cases search <;> rfl
  · cases search <;> simp [only, Rule.testsOf, phraseTest, dropBlank, filled]

end

theorem trim_around {before after : Text} (core : Text)
    (start : forall c, (before ++ core ++ after).head? = some c -> isBlank c = false)
    (ended : after.getLast?.any isBlank = false) (goesOn : after ≠ []) :
    trim (before ++ (core ++ after)) = before ++ (core ++ after) := by
  rw [← List.append_assoc]
  apply trim_eq_self start
  intro c last
  rw [List.getLast?_append_of_ne_nil _ goesOn] at last
  exact (Option.any_eq_false isBlank _).mp ended c last

/-- What surrounds a phrase with an open end in a message that does not hold it in lower case. -/
theorem exists_missed (opened : search.LeavesOpen (search.core phrase)) :
    Exists fun message : Text => search.Finds (search.core phrase) (trim message) ∧
      ¬ lower (search.core phrase) <:+: normalize message := by
  have missed : forall before after : Text, search.Admits before after ->
      trim (before ++ (search.core phrase ++ after)) = before ++ (search.core phrase ++ after) ->
        ¬ lower (search.core phrase) <:+: lower (before ++ (search.core phrase ++ after)) ->
          Exists fun message : Text => search.Finds (search.core phrase) (trim message) ∧
            ¬ lower (search.core phrase) <:+: normalize message := by
    intro before after admitted trimmed missing
    exact ⟨_, ⟨before, after, trimmed, admitted⟩, by rw [normalize, trimmed]; exact missing⟩
  have marked : casedBehind false plainMark = false := by decide
  have free : letterBefore.getLast?.any isWord = false ∧ plainMark.head?.any isWord = false ∧
      plainMark.getLast?.any isWord = false ∧ letterBehind.head?.any isWord = false := by
    decide
  -- A phrase that may stand anywhere gets a letter on its open side and a mark on the other one.
  have openStart : HasOpenStart (search.core phrase) -> search.Admits letterBefore plainMark -> _ :=
    fun opened admitted => missed letterBefore plainMark admitted
      (trim_around _ (by rintro c ⟨⟩; rfl) rfl (List.cons_ne_nil _ _))
      (not_infix_of_hasOpenStart opened)
  have openEnd : HasOpenEnd (search.core phrase) -> search.Admits plainMark letterBehind -> _ :=
    fun opened admitted => missed plainMark letterBehind admitted
      (trim_around _ (by rintro c ⟨⟩; rfl) rfl (List.cons_ne_nil _ _))
      (not_infix_of_hasOpenEnd opened isPlain_plainMark marked)
  cases search with
  | atStart =>
      refine missed [] letterBehind rfl (trim_around _ ?_ rfl (List.cons_ne_nil _ _))
        (not_infix_of_hasOpenEnd opened (fun c none => absurd none List.not_mem_nil) rfl)
      intro c first
      rw [List.nil_append, List.head?_append] at first
      cases head : (trimStart phrase).head? with
      | none =>
          rw [core, head] at first
          cases first
          rfl
      | some d =>
          rw [core, head] at first
          cases first
          exact head?_trimStartOf phrase c head
  | inside =>
      exact opened.elim (fun start => openStart start trivial) fun stop => openEnd stop trivial
  | bounded =>
      exact opened.elim (fun start => openStart start ⟨free.1, free.2.1⟩)
        fun stop => openEnd stop ⟨free.2.2.1, free.2.2.2⟩

/-- In lower case a phrase is still found, if no capital sigma of it takes another form. -/
theorem finds_lower {before after : Text} (admitted : search.Admits before after)
    (kept : KeepsSigmas before phrase after) :
    search.Finds (lower phrase) (lower (before ++ (phrase ++ after))) := by
  refine ⟨_, _, by rw [lower_parts, lowerWithin_eq_lower_iff.mpr kept], ?_⟩
  cases search with
  | atStart =>
      rw [show before = [] from admitted]
      rfl
  | inside => exact trivial
  | bounded => exact ⟨lowersOut_isWord.getLast? admitted.1, lowersOut_isWord.head? admitted.2⟩

theorem keepsSigmas_of_not_leavesOpen (closed : ¬ search.LeavesOpen phrase) {before after : Text}
    (admitted : search.Admits before after) : KeepsSigmas before phrase after := by
  cases search with
  | atStart => exact keepsSigmas_of_closed (Or.inl admitted) closed after
  | inside => exact keepsSigmas_of_closed (Or.inr (not_or.mp closed).1) (not_or.mp closed).2 after
  | bounded => exact keepsSigmas_of_closed (Or.inr (not_or.mp closed).1) (not_or.mp closed).2 after

end Search

open Search

/-- Where a message shows a phrase, its lower-case form goes on with that of the phrase exactly if
every capital sigma of the phrase takes the same form in both, and then each rule that looks there
for the phrase matches the message.  All rules that look for a phrase match all messages that show
it exactly if no capital sigma is left at an open end of it. -/
theorem verbatim_phrase_matches_iff [CharacterNames] (search : Search) {phrase : Text}
    (filled : isBlankText phrase = false) :
    let core := search.core phrase
    (forall message before after : Text, trim message = before ++ (core ++ after) ->
      search.Admits before after ->
        (lower core <+: (normalize message).drop (lower before).length ↔
          KeepsSigmas before core after) ∧
        (KeepsSigmas before core after ->
          forall (index : Nat) (settings : RuleSettings) (rule : Rule),
            Rule.compile index settings = .ok rule -> phrase ∈ search.phrases settings ->
              rule.isMatch (normalize message) = true)) ∧
    ((forall (index : Nat) (settings : RuleSettings) (rule : Rule),
        Rule.compile index settings = .ok rule -> phrase ∈ search.phrases settings ->
          forall message : Text, search.Finds core (trim message) ->
            rule.isMatch (normalize message) = true) ↔
      ¬ search.LeavesOpen core) := by
  intro core
  have found : forall message before after : Text, trim message = before ++ (core ++ after) ->
      search.Admits before after -> KeepsSigmas before core after ->
        forall (index : Nat) (settings : RuleSettings) (rule : Rule),
          Rule.compile index settings = .ok rule -> phrase ∈ search.phrases settings ->
            rule.isMatch (normalize message) = true := by
    intro message before after parts admitted kept index settings rule compiled listed
    rw [Rule.isMatch_iff compiled, normalize, parts]
    exact applies_of_finds listed filled (finds_lower admitted kept)
  refine ⟨?_, ?_, ?_⟩
  · intro message before after parts admitted
    refine ⟨?_, found message before after parts admitted⟩
    rw [normalize, parts]
    exact lower_at_place_iff before core after
  · intro everywhere opened
    rcases exists_missed opened with ⟨message, shown, missing⟩
    have accepted : Exists fun rule : Rule =>
        Rule.compile 0 (search.only ['c'] phrase) = .ok rule := exists_compile_only filled
    rcases accepted with ⟨rule, compiled⟩
    have listed : phrase ∈ search.phrases (search.only ['c'] phrase) := by
      cases search <;> exact List.mem_cons_self
    have matched := everywhere 0 _ rule compiled listed message shown
    exact missing (isInfix_of_applies_only ((Rule.isMatch_iff compiled _).mp matched))
  · intro closed index settings rule compiled listed message shown
    rcases shown with ⟨before, after, parts, admitted⟩
    exact found message before after parts admitted
      (keepsSigmas_of_not_leavesOpen closed admitted) index settings rule compiled listed

/-- A word whose capital sigma ends it in the message as in the phrase: a comma goes on with no
word. -/
theorem verbatim_phrase_matches_iff_word_of_its_own :
    Exists fun rule : Rule =>
      Rule.compile 0 { category := ['g'], words := [ofString "ΟΔΟΣ "] } = .ok rule ∧
        KeepsSigmas (ofString "η ") (ofString "ΟΔΟΣ") (ofString ", α") ∧
        rule.isMatch (normalize (ofString " η ΟΔΟΣ, α")) = true := by
  have law := verbatim_phrase_matches_iff .bounded
    (show isBlankText (ofString "ΟΔΟΣ ") = false from rfl)
  have kept : KeepsSigmas (ofString "η ") (ofString "ΟΔΟΣ") (ofString ", α") :=
    lowerWithin_eq_lower_iff.mp rfl
  refine ⟨_, rfl, kept, ?_⟩
  exact (law.1 (ofString " η ΟΔΟΣ, α") (ofString "η ") (ofString ", α") rfl ⟨rfl, rfl⟩).2 kept 0
    { category := ['g'], words := [ofString "ΟΔΟΣ "] } _ rfl (List.mem_singleton_self _)

/-- A phrase in capitals that a message starts with and that a rule for it does not find: alone its
sigma is final, and in the message the word goes on. -/
theorem verbatim_phrase_missed_within_word :
    Exists fun list : RuleList => Exists fun rule : Rule =>
      RuleList.compile [{ category := ['g'], contains := [ofString "ΟΔΟΣ"] }] ['c'] = .ok list ∧
        list.rules = [rule] ∧ Search.inside.Finds (ofString "ΟΔΟΣ") (trim (ofString "ΟΔΟΣΑ")) ∧
        rule.isMatch (normalize (ofString "ΟΔΟΣΑ")) = false ∧
        list.classify (ofString "ΟΔΟΣΑ") = ['c'] :=
  ⟨_, _, rfl, rfl, ⟨[], ['Α'], rfl, trivial⟩, rfl, rfl⟩

end Switchboard
