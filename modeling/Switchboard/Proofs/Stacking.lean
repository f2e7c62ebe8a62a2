import Switchboard.Proofs.Totality

namespace Switchboard

open Text

/-!
# Tags stacked at the start of a message

Where only tags at the start count, extraction takes all tags that are stacked there, with the
blanks between them, and leaves a text with no tag at its start.  Stripping a message of several
texts does this to the first text that is not blank.  If something is left of that text, no tag is
at the start of the message any more.  If that text was nothing but stacked tags, the message goes
on with the text behind it, and a tag at its start is now a tag at the start of the message.

So what routing passes on is without a tag that counts exactly if the stack of tags does not go on
behind the first text that is not blank.
-/

namespace Tag

/-- A text of nothing but tags and blanks around them. -/
inductive IsStack : Text -> Prop where
  | blank {text : Text} (blank : isBlankText text = true) : IsStack text
  | tag {border written rest : Text} (blank : isBlankText border = true)
      (isWord : IsTagWord written) (stack : IsStack rest) :
      IsStack (border ++ (tagged written ++ rest))

theorem IsStack.border_append {border text : Text} (blank : isBlankText border = true)
    (stack : IsStack text) : IsStack (border ++ text) := by
  have blankAppend : forall other, isBlankText other = true -> isBlankText (border ++ other) = true := by
    intro other otherBlank
    rw [isBlankText, List.all_append, ← isBlankText, ← isBlankText, blank, otherBlank]
    rfl
  cases stack with
  | blank textBlank => exact .blank (blankAppend text textBlank)
  | tag innerBlank isWord stack =>
      rw [← List.append_assoc]
      exact .tag (blankAppend _ innerBlank) isWord stack

/-! ## Taking a stack of tags -/

theorem trimStart_tagged_append (written rest : Text) :
    trimStart (tagged written ++ rest) = tagged written ++ rest := rfl

theorem length_trimStart_le (text : Text) : (trimStart text).length <= text.length :=
  (List.dropWhile_sublist isBlank).length_le

theorem dropStacked_of_none {count : Nat} {text : Text} (absent : read? text = none) :
    dropStacked count text = text := by
  cases count with
  | zero => rfl
  | succ count => rw [dropStacked, absent]

theorem dropStacked_tagged_append {written : Text} (isWord : IsTagWord written) (count : Nat)
    (rest : Text) : dropStacked (count + 1) (tagged written ++ rest) =
      dropStacked count (trimStart rest) := by
  rw [dropStacked, read?_tagged_append isWord]
  simp only [← length_tagged, List.drop_left]

/-- A text starts with no tag, or with a tag that one step takes. -/
theorem tagged_or_none (text : Text) : read? text = none ∨
    Exists fun written : Text => Exists fun rest : Text =>
      IsTagWord written ∧ text = tagged written ++ rest := by
  cases found : read? text with
  | none => exact Or.inl rfl
  | some written =>
      rcases read?_eq_some_iff.1 found with ⟨isWord, rest, parts⟩
      exact Or.inr ⟨written, rest, isWord, parts⟩

theorem length_trimStart_lt {written rest : Text} {count : Nat}
    (enough : (tagged written ++ rest).length <= count + 1) :
    (trimStart rest).length <= count := by
  have shorter := length_trimStart_le rest
  rw [List.length_append, length_tagged, width] at enough
  omega

/-- No tag is left at the start. -/
theorem read?_dropStacked {count : Nat} {text : Text} (enough : text.length <= count) :
    read? (dropStacked count text) = none := by
  induction count generalizing text with
  | zero =>
      rw [List.length_eq_zero_iff.mp (Nat.le_zero.mp enough)]
      rfl
  | succ count inductionHypothesis =>
      rcases tagged_or_none text with absent | ⟨written, rest, isWord, parts⟩
      · rw [dropStacked_of_none absent]
        exact absent
      · rw [parts] at enough
        rw [parts, dropStacked_tagged_append isWord]
        exact inductionHypothesis (length_trimStart_lt enough)

/-- No blank is left at the start. -/
theorem trimStart_dropStacked {count : Nat} {text : Text} (trimmed : trimStart text = text) :
    trimStart (dropStacked count text) = dropStacked count text := by
  induction count generalizing text with
  | zero => exact trimmed
  | succ count inductionHypothesis =>
      rcases tagged_or_none text with absent | ⟨written, rest, isWord, parts⟩
      · rw [dropStacked_of_none absent]
        exact trimmed
      · rw [parts, dropStacked_tagged_append isWord]
        exact inductionHypothesis (trimStartOf_idem rest)

/-- Nothing is left exactly of a stack. -/
theorem isStack_of_dropStacked {count : Nat} {text : Text}
    (nothing : dropStacked count text = []) : IsStack text := by
  induction count generalizing text with
  | zero =>
      have empty : text = [] := nothing
      rw [empty]
      exact .blank rfl
  | succ count inductionHypothesis =>
      rcases tagged_or_none text with absent | ⟨written, rest, isWord, parts⟩
      · rw [dropStacked_of_none absent] at nothing
        rw [nothing]
        exact .blank rfl
      · rw [parts, dropStacked_tagged_append isWord] at nothing
        rcases exists_append_trimStartOf isBlank rest with ⟨border, restParts, blank⟩
        have below : IsStack rest := by
          rw [restParts]
          exact (inductionHypothesis nothing).border_append ((isBlankText_iff border).mpr blank)
        have whole : IsStack ([] ++ (tagged written ++ rest)) := .tag rfl isWord below
        rw [parts]
        exact whole

theorem IsStack.dropStacked_eq_nil {text : Text} (stack : IsStack text) {count : Nat}
    (enough : (trimStart text).length <= count) : dropStacked count (trimStart text) = [] := by
  induction stack generalizing count with
  | blank blank =>
      rw [(trimStart_eq_nil_iff _).mpr blank]
      exact dropStacked_of_none rfl
  | tag blank isWord stack inductionHypothesis =>
      rw [trimStart_blank_append blank, trimStart_tagged_append] at enough ⊢
      cases count with
      | zero => cases enough
      | succ count =>
          rw [dropStacked_tagged_append isWord]
          exact inductionHypothesis (length_trimStart_lt enough)

theorem trimStart_stacked (text : Text) :
    trimStart (dropStacked text.length (trimStart text)) =
      dropStacked text.length (trimStart text) :=
  trimStart_dropStacked (trimStartOf_idem text)

/-- Extraction at the start leaves nothing exactly of a stack. -/
theorem cleaned_start_eq_nil_iff (text : Text) : cleaned .start text = [] ↔ IsStack text := by
  rw [cleaned, trim, trimStart_stacked]
  constructor
  · intro nothing
    have blank := forall_of_trimEndOf_eq_nil nothing
    have empty := (trimStart_eq_nil_iff _).mpr ((isBlankText_iff _).mpr blank)
    rw [trimStart_stacked] at empty
    rcases exists_append_trimStartOf isBlank text with ⟨border, parts, borderBlank⟩
    rw [parts]
    exact (isStack_of_dropStacked empty).border_append ((isBlankText_iff border).mpr borderBlank)
  · intro stack
    rw [stack.dropStacked_eq_nil (length_trimStart_le text)]
    rfl

/-- Extraction at the start leaves a trimmed text with no tag at its start. -/
theorem deciding?_cleaned_start (text : Text) : deciding? .start (cleaned .start text) = none := by
  have trimmed := trimStart_stacked text
  have absent := read?_dropStacked (length_trimStart_le text)
  rcases exists_trimEndOf_append isBlank (dropStacked text.length (trimStart text)) with
    ⟨border, parts, _⟩
  rw [deciding?, cleaned, trim, trimmed, trimEnd, trimStart, trimStartOf_trimEndOf trimmed]
  rw [parts] at absent
  exact read?_eq_none_of_append absent

theorem isBlankText_cleaned_iff (text : Text) :
    isBlankText (cleaned .start text) = true ↔ IsStack text := by
  rw [← cleaned_start_eq_nil_iff, ← trimStart_eq_nil_iff, cleaned, trim, trimStart_stacked,
    trimStart, trimEnd, trimStartOf_trimEndOf (trimStart_stacked text)]

/-! ## Messages of several texts -/

/-- A tag stands at the start of a text, blanks not counting. -/
def StartsWithTag (text : Text) : Prop :=
  Exists fun written : Text => IsTagWord written ∧ tagged written <+: trimStart text

theorem startsWithTag_iff (text : Text) : StartsWithTag text ↔ deciding? .start text ≠ none := by
  rw [deciding?]
  constructor
  · rintro ⟨written, isWord, rest, parts⟩ absent
    rw [← parts, read?_tagged_append isWord] at absent
    cases absent
  · intro found
    rcases Option.ne_none_iff_exists'.mp found with ⟨written, read⟩
    rcases read?_eq_some_iff.1 read with ⟨isWord, rest, parts⟩
    exact ⟨written, isWord, rest, parts.symm⟩

/-- The first text that is not blank is a stack of tags, and the texts behind it start with a
tag. -/
def StackGoesOn (texts : List Text) : Prop :=
  Exists fun before : List Text => Exists fun first : Text => Exists fun after : List Text =>
    texts = before ++ first :: after ∧ (forall text, text ∈ before -> isBlankText text = true) ∧
      isBlankText first = false ∧ IsStack first ∧ StartsWithTag (joinWith ['\n'] after)

theorem firstFilled?_append {before : List Text}
    (blank : forall text, text ∈ before -> isBlankText text = true) (rest : List Text) :
    firstFilled? (before ++ rest) = firstFilled? rest := by
  induction before with
  | nil => rfl
  | cons text before inductionHypothesis =>
      rw [List.cons_append, firstFilled?_cons_blank _ (blank text List.mem_cons_self)]
      exact inductionHypothesis fun other member => blank other (List.mem_cons_of_mem text member)

theorem exists_of_firstFilled? {texts : List Text} {first : Text}
    (found : firstFilled? texts = some first) :
    Exists fun before : List Text => Exists fun after : List Text =>
      texts = before ++ first :: after ∧ (forall text, text ∈ before -> isBlankText text = true) ∧
        isBlankText first = false := by
  rcases List.find?_eq_some_iff_append.mp found with ⟨filled, before, after, parts, blank⟩
  refine ⟨before, after, parts, fun text member => ?_, ?_⟩
  · simpa using blank text member
  · simpa using filled

theorem changeFirst_append (change : Text -> Text) {before : List Text}
    (blank : forall text, text ∈ before -> isBlankText text = true) {first : Text}
    (filled : isBlankText first = false) (after : List Text) :
    changeFirst change (before ++ first :: after) = before ++ change first :: after := by
  induction before with
  | nil => rw [List.nil_append, changeFirst, filled, if_neg Bool.false_ne_true, List.nil_append]
  | cons text before inductionHypothesis =>
      rw [List.cons_append, changeFirst, if_pos (blank text List.mem_cons_self),
        inductionHypothesis fun other member => blank other (List.mem_cons_of_mem text member)]
      rfl

/-- The text that the tags are taken out of, and what decides on the message afterwards. -/
theorem deciding?_changeFirst {before after : List Text} {first : Text}
    (blank : forall text, text ∈ before -> isBlankText text = true)
    (filled : isBlankText first = false) {written : Text}
    (found : deciding? .start (joinWith ['\n'] (before ++ first :: after)) = some written) :
    deciding? .start (joinWith ['\n'] (changeFirst (remaining .start) (before ++ first :: after))) =
      (firstFilled? (cleaned .start first :: after)).bind (deciding? .start) := by
  rw [deciding?_start_lines, firstFilled?_append blank, firstFilled?_cons_filled after filled,
    Option.bind_some] at found
  have changed : remaining .start first = cleaned .start first := by
    rw [remaining, found]
  rw [changeFirst_append _ blank filled, changed, deciding?_start_lines, firstFilled?_append blank]

theorem startsWithTag_changeFirst_iff {texts : List Text} {written : Text}
    (found : deciding? .start (joinWith ['\n'] texts) = some written) :
    StartsWithTag (joinWith ['\n'] (changeFirst (remaining .start) texts)) ↔ StackGoesOn texts := by
  rw [startsWithTag_iff]
  constructor
  · intro counts
    have decided := found
    rw [deciding?_start_lines] at decided
    rcases Option.bind_eq_some_iff.mp decided with ⟨first, isFirst, _⟩
    rcases exists_of_firstFilled? isFirst with ⟨before, after, parts, blank, filled⟩
    rw [parts] at found
    rw [parts, deciding?_changeFirst blank filled found] at counts
    refine ⟨before, first, after, parts, blank, filled, ?_⟩
    cases gone : isBlankText (cleaned .start first) with
    | true =>
        rw [firstFilled?_cons_blank after gone, ← deciding?_start_lines] at counts
        exact ⟨(isBlankText_cleaned_iff first).mp gone, (startsWithTag_iff _).mpr counts⟩
    | false =>
        rw [firstFilled?_cons_filled after gone, Option.bind_some, deciding?_cleaned_start] at counts
        exact False.elim (counts rfl)
  · rintro ⟨before, first, after, parts, blank, filled, stack, starts⟩
    rw [parts] at found
    rw [parts, deciding?_changeFirst blank filled found,
      firstFilled?_cons_blank after ((isBlankText_cleaned_iff first).mpr stack),
      ← deciding?_start_lines]
    exact (startsWithTag_iff _).mp starts

end Tag

namespace Tables

open Tag

/-- At the start, what is routed again is what stripping the first text has left. -/
theorem latestText_of_stripped {tables : Tables} (atStart : tables.tags.position = .start)
    {request stripped : Chat.Request} (returned : tables.stripRequest request = .ok stripped)
    (model : Text) : Chat.latestText (Chat.withModel stripped model) =
      joinWith ['\n'] (changeFirst (remaining .start) (Chat.texts (Chat.latestContent request))) := by
  rcases stripRequest_eq_ok returned with ⟨content, strip, _, latest⟩
  rw [atStart] at strip
  rw [Chat.latestText, Chat.latestContent_withModel, latest, Chat.contentText,
    (stripTexts_start_eq_ok_iff.1 (stripContent_eq_ok_iff.1 strip).1).1]

/-- A message without a tag that counts is returned as it is, and passed on as it is. -/
theorem deciding?_eq_none_iff_extract (position : TagPosition) (text : Text) :
    deciding? position text = none ↔ extract position text = .ok ⟨none, text⟩ := by
  constructor
  · exact extract_of_none
  · intro returned
    rcases extract_cases returned with ⟨absent, _⟩ | ⟨written, picked, _, _, same⟩
    · exact absent
    · injection same with impossible _
      cases impossible

theorem route_without_tag {tables : Tables} (closed : tables.IsClosed) {request : Chat.Request}
    (absent : tables.counting? (Chat.latestText request) = none) :
    Exists fun routed : Routed => tables.route request = .ok routed ∧
      routed.decision.isPicked = false ∧ Chat.messages routed.request = Chat.messages request := by
  rcases exists_decideByRules closed (Chat.latestText request) with ⟨decision, returned, byRules, _⟩
  refine ⟨_, route_of_rules ((decide_of_none absent).trans returned) byRules, byRules, ?_⟩
  exact Chat.messages_withModel request decision.model

/-- Where tags count at the start and one of them has picked the tier, the request that is passed on
has no tag that counts, and is routed by the rules and unchanged the second time, exactly if the
stack of tags does not go on behind the first text that is not blank. -/
theorem routed_start_has_no_tag_iff [CharacterNames] {settings : RouterSettings} {tables : Tables}
    (built : build settings = .ok tables) (enabled : tables.tags.enabled = true)
    (atStart : tables.tags.position = .start) {request : Chat.Request} {routed : Routed}
    (returned : tables.route request = .ok routed) (picked : routed.decision.isPicked = true) :
    (extract .start (Chat.latestText routed.request) =
          .ok ⟨none, Chat.latestText routed.request⟩ ∧
        Exists fun again : Routed => tables.route routed.request = .ok again ∧
          again.decision.isPicked = false ∧
          Chat.messages again.request = Chat.messages routed.request) ↔
      ¬ StackGoesOn (Chat.texts (Chat.latestContent request)) := by
  rcases route_of_picked returned picked with ⟨written, stripped, _, counting, strip, whole⟩
  have found := (enabled_of_counting? counting).2
  rw [atStart] at found
  rw [← startsWithTag_changeFirst_iff found, ← latestText_of_stripped atStart strip, ← whole,
    startsWithTag_iff, Ne, not_not, ← deciding?_eq_none_iff_extract]
  refine and_iff_left_of_imp fun absent => ?_
  apply route_without_tag (isClosed_of_build built)
  rw [counting?, enabled, atStart]
  exact absent

/-- A stack of two tags in a text of its own, behind a blank text and before a text without one. -/
theorem routed_start_has_no_tag_iff_separate_stack :
    Exists fun tables : Tables => Exists fun routed : Routed =>
      build (plainSettings { position := .start }) = .ok tables ∧
        tables.route (Chat.userRequest [ofString " ", ofString "[low] [high]", ofString "hi"]) =
          .ok routed ∧
        routed.decision.isPicked = true ∧
        extract .start (Chat.latestText routed.request) =
          .ok ⟨none, Chat.latestText routed.request⟩ := by
  rcases exists_plain_route { position := .start } rfl
    [ofString " ", ofString "[low] [high]", ofString "hi"] rfl (by decide +kernel) with
    ⟨tables, routed, built, tags, returned, picked⟩
  refine ⟨tables, routed, built, returned, picked, ?_⟩
  refine ((routed_start_has_no_tag_iff built (by rw [tags]) (by rw [tags]) returned picked).mpr
    ?_).1
  have first : deciding? .start (joinWith ['\n']
      [ofString " ", ofString "[low] [high]", ofString "hi"]) = some (ofString "low") := rfl
  rw [Chat.texts_userRequest, ← startsWithTag_changeFirst_iff first, startsWithTag_iff]
  exact fun counts => counts rfl

/-- A tag in the text behind a stack counts again in what is passed on. -/
theorem routed_start_keeps_tag_behind_stack :
    ¬ forall (settings : RouterSettings) (tables : Tables), build settings = .ok tables ->
      tables.tags.enabled = true -> tables.tags.position = .start ->
      forall (request : Chat.Request) (routed : Routed), tables.route request = .ok routed ->
        routed.decision.isPicked = true ->
        extract .start (Chat.latestText routed.request) =
          .ok ⟨none, Chat.latestText routed.request⟩ := by
  intro leaksNothing
  rcases exists_plain_route { position := .start } rfl
    [ofString "[low]", ofString "[high] hi"] rfl (by decide +kernel) with
    ⟨tables, routed, built, tags, returned, picked⟩
  have atStart : tables.tags.position = .start := by rw [tags]
  have nothing := leaksNothing _ tables built (by rw [tags]) atStart _ routed returned picked
  rcases route_of_picked returned picked with ⟨_, stripped, _, _, strip, whole⟩
  rw [whole, latestText_of_stripped atStart strip, Chat.texts_userRequest] at nothing
  have again : extract .start (joinWith ['\n'] (changeFirst (remaining .start)
      [ofString "[low]", ofString "[high] hi"])) = .ok ⟨some .top, ofString "hi"⟩ := rfl
  rw [again] at nothing
  cases nothing

end Tables
end Switchboard
