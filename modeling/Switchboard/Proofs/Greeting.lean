import Mathlib
import Switchboard.Proofs.Letters
import Switchboard.Proofs.Matching
import Switchboard.Proofs.Padding
import Switchboard.Proofs.Recognizing

namespace Switchboard

open Text Pattern
open scoped Computability

/-!
# Greetings are whole messages

The first built-in rule answers messages that are only there to see whether somebody answers: a few
words, greetings with marks behind them and questions whether somebody is there.  Its patterns ask for
the start and the end of the text, so each of them stands for a language, up to letter case.

The end of a text is also in front of a line feed that ends it.  A normalised message does not end
with a line feed, and no character of these languages matches a blank other than the space.  So a
greeting within a longer message is none, and neither is one on a line of its own.
-/

/-! ## Languages up to letter case -/

/-- The words of a language with characters that a relation takes for theirs. -/
def respelled (same : Char -> Char -> Bool) (words : Language Char) : Language Char :=
  {text | Exists fun word : Text =>
    word ∈ words ∧ List.Forall₂ (fun c d => same c d = true) word text}

section Respelled

variable {same : Char -> Char -> Bool} {words others : Language Char}

theorem mem_respelled_iff {text : Text} : text ∈ respelled same words ↔ Exists fun word : Text =>
    word ∈ words ∧ List.Forall₂ (fun c d => same c d = true) word text :=
  Iff.rfl

theorem forall₂_append_iff {R : Char -> Char -> Prop} {first second text : Text} :
    List.Forall₂ R (first ++ second) text ↔ Exists fun front : Text => Exists fun back : Text =>
      text = front ++ back ∧ List.Forall₂ R first front ∧ List.Forall₂ R second back := by
  constructor
  · intro related
    induction first generalizing text with
    | nil => exact ⟨[], text, rfl, .nil, related⟩
    | cons c first inductionHypothesis =>
        rcases List.forall₂_cons_left_iff.mp related with ⟨d, rest, here, later, same⟩
        rcases inductionHypothesis later with ⟨front, back, parts, relatedFront, relatedBack⟩
        exact ⟨d :: front, back, by rw [same, parts]; rfl, .cons here relatedFront, relatedBack⟩
  · rintro ⟨front, back, rfl, relatedFront, relatedBack⟩
    exact List.rel_append relatedFront relatedBack

theorem respelled_one : respelled same 1 = 1 := by
  ext text
  constructor
  · rintro ⟨word, empty, related⟩
    rw [(Language.mem_one word).mp empty, List.forall₂_nil_left_iff] at related
    exact related
  · intro empty
    rw [(Language.mem_one text).mp empty]
    exact ⟨[], Language.nil_mem_one, .nil⟩

theorem respelled_add :
    respelled same (words + others) = respelled same words + respelled same others := by
  ext text
  simp only [mem_respelled_iff, Language.mem_add, or_and_right, exists_or]

theorem respelled_mul :
    respelled same (words * others) = respelled same words * respelled same others := by
  ext text
  constructor
  · rintro ⟨_, ⟨first, inWords, second, inOthers, rfl⟩, related⟩
    rcases forall₂_append_iff.mp related with ⟨front, back, rfl, relatedFront, relatedBack⟩
    exact Language.append_mem_mul ⟨first, inWords, relatedFront⟩
      ⟨second, inOthers, relatedBack⟩
  · rintro ⟨front, ⟨first, inWords, relatedFront⟩, back, ⟨second, inOthers, relatedBack⟩,
      rfl⟩
    exact ⟨first ++ second, Language.append_mem_mul inWords inOthers,
      forall₂_append_iff.mpr ⟨front, back, rfl, relatedFront, relatedBack⟩⟩

theorem respelled_pow (count : Nat) :
    respelled same (words ^ count) = respelled same words ^ count := by
  induction count with
  | zero => rw [pow_zero, pow_zero, respelled_one]
  | succ count inductionHypothesis => rw [pow_succ, pow_succ, respelled_mul, inductionHypothesis]

theorem respelled_kstar : respelled same words∗ = (respelled same words)∗ := by
  ext text
  rw [Language.kstar_eq_iSup_pow (respelled same words), Language.mem_iSup]
  simp only [← respelled_pow]
  constructor
  · rintro ⟨word, member, related⟩
    rw [Language.kstar_eq_iSup_pow, Language.mem_iSup] at member
    rcases member with ⟨count, member⟩
    exact ⟨count, word, member, related⟩
  · rintro ⟨count, word, member, related⟩
    refine ⟨word, ?_, related⟩
    rw [Language.kstar_eq_iSup_pow, Language.mem_iSup]
    exact ⟨count, member⟩

end Respelled

/-! ## Languages of phrases -/

/-- The language of the given words. -/
def oneOf (words : List Text) : Language Char := {word | word ∈ words}

theorem mem_oneOf_iff {words : List Text} {word : Text} : word ∈ oneOf words ↔ word ∈ words :=
  Iff.rfl

namespace Pattern

/-- The mode in which the patterns of rules match, unless they say otherwise: without regard to letter
case. -/
def anyCase : Mode := ⟨true, false, false, false⟩

theorem same_anyCase (c d : Char) : anyCase.same c.toNat d = sameLetter c d := by
  have valid : c.toNat.isValidChar := c.valid
  simp [Mode.same, anyCase, valid]

theorem language_char (c : Char) :
    (Node.char c.toNat false).language anyCase = single (sameLetter c) := by
  simp only [Node.language, same_anyCase, Bool.bne_false]

theorem mem_language_phrase_iff {phrase text : Text} :
    text ∈ (Node.phrase phrase).language anyCase ↔
      List.Forall₂ (fun c d => sameLetter c d = true) phrase text := by
  induction phrase generalizing text with
  | nil => exact (Language.mem_one text).trans List.forall₂_nil_left_iff.symm
  | cons c phrase inductionHypothesis =>
      rw [Node.phrase, List.map_cons, language_ofList_cons, language_char, Language.mem_mul,
        List.forall₂_cons_left_iff]
      constructor
      · rintro ⟨_, ⟨d, rfl, here⟩, rest, later, rfl⟩
        exact ⟨d, rest, here, inductionHypothesis.mp later, rfl⟩
      · rintro ⟨d, rest, here, later, rfl⟩
        exact ⟨[d], ⟨d, rfl, here⟩, rest, inductionHypothesis.mpr later, rfl⟩

theorem language_phrase (phrase : Text) :
    (Node.phrase phrase).language anyCase = respelled sameLetter (oneOf [phrase]) := by
  ext text
  rw [mem_language_phrase_iff, mem_respelled_iff]
  simp only [mem_oneOf_iff, List.mem_singleton, exists_eq_left]

theorem language_phrases {words : List Text} (some_word : words ≠ []) :
    (Node.anyOf (words.map Node.phrase)).language anyCase = respelled sameLetter (oneOf words) := by
  ext text
  rw [mem_language_anyOf_iff (by simpa using some_word), mem_respelled_iff]
  simp only [List.mem_map, exists_exists_and_eq_and, mem_language_phrase_iff, mem_oneOf_iff]

/-- A set of characters has the language of the words of one of them. -/
theorem language_marks {marks : List Char}
    (basic : (marks.all fun mark => mark.toNat <= basicPlaneEnd) = true) :
    (Node.set (marks.map fun mark => .one mark.toNat) false).language anyCase =
      respelled sameLetter (oneOf (marks.map fun mark => [mark])) := by
  have holds : forall d : Char,
      (anyCase.inSet (marks.map fun mark => .one mark.toNat) false d = true ↔
        Exists fun mark : Char => mark ∈ marks ∧ sameLetter mark d = true) := by
    intro d
    rw [Mode.inSet, Bool.bne_false, List.any_map, List.any_eq_true]
    refine exists_congr fun mark => and_congr_right fun listed => ?_
    have low : ¬ basicPlaneEnd < mark.toNat := by
      simpa using List.all_eq_true.mp basic mark listed
    have member : anyCase.holds d (.one mark.toNat) = anyCase.same mark.toNat d := by
      simp [Mode.holds, Mode.isMember, low]
    rw [Function.comp_apply, member, same_anyCase]
  ext text
  constructor
  · rintro ⟨d, rfl, passed⟩
    rcases (holds d).mp passed with ⟨mark, listed, same⟩
    exact ⟨[mark], List.mem_map.mpr ⟨mark, listed, rfl⟩, .cons same .nil⟩
  · rintro ⟨_, listed, related⟩
    rcases List.mem_map.mp listed with ⟨mark, member, rfl⟩
    rcases List.forall₂_cons_left_iff.mp related with ⟨d, rest, same, empty, rfl⟩
    rw [List.forall₂_nil_left_iff.mp empty]
    exact ⟨d, rfl, (holds d).mpr ⟨mark, member, same⟩⟩

end Pattern

/-! ## The built-in patterns -/

/-- A few words with marks behind them. -/
def greeting : Language Char :=
  oneOf (phrases ["hi", "hey", "hello", "ping"]) *
    (oneOf (phrases ["!", "."]) * (oneOf (phrases ["!", "."]))∗)

/-- A question whether the one asked is there. -/
def presence : Language Char :=
  (1 + oneOf (phrases ["are "])) * oneOf (phrases ["you", "u"]) * oneOf (phrases [" "]) *
    oneOf (phrases ["there", "alive", "up", "awake"]) * (1 + oneOf (phrases ["?"]))

/-- A question whether anyone is there. -/
def company : Language Char :=
  (1 + oneOf (phrases ["is "])) * oneOf (phrases ["any"]) * oneOf (phrases ["one", "body"]) *
    oneOf (phrases [" "]) * oneOf (phrases ["there", "home"]) * (1 + oneOf (phrases ["?"]))

namespace Pattern

/-- Alternatives of words, in a group with a number. -/
def Node.choice (number : Nat) (words : List String) : Node :=
  .group number (.anyOf ((phrases words).map .phrase))

/-- What may be left out. -/
def Node.optional (body : Node) : Node := .loop .greedy 0 (some 1) body

/-- The nodes of the pattern of greetings. -/
def greetingNodes : List Node :=
  [.choice 1 ["hi", "hey", "hello", "ping"],
   .loop .greedy 1 none (.set (['!', '.'].map fun mark => .one mark.toNat) false)]

/-- The nodes of the pattern of questions whether the one asked is there. -/
def presenceNodes : List Node :=
  [.optional (.choice 1 ["are "]), .choice 2 ["you", "u"], .phrase (ofString " "),
   .choice 3 ["there", "alive", "up", "awake"], .optional (.phrase (ofString "?"))]

/-- The nodes of the pattern of questions whether anyone is there. -/
def companyNodes : List Node :=
  .optional (.choice 1 ["is "]) :: ((ofString "any").map fun c => .char c.toNat false) ++
    [.choice 2 ["one", "body"], .phrase (ofString " "), .choice 3 ["there", "home"],
     .optional (.phrase (ofString "?"))]

theorem language_word (word : String) :
    (Node.phrase (ofString word)).language anyCase = respelled sameLetter (oneOf (phrases [word])) :=
  language_phrase (ofString word)

theorem language_choice (number : Nat) {words : List String} (some_word : words ≠ []) :
    (Node.choice number words).language anyCase = respelled sameLetter (oneOf (phrases words)) :=
  language_phrases (by simpa [phrases] using some_word)

theorem language_greetingNodes :
    (Node.ofList greetingNodes).language anyCase = respelled sameLetter greeting := by
  have marks : phrases ["!", "."] = ['!', '.'].map fun mark => [mark] := by decide +kernel
  rw [greetingNodes, language_ofList_cons, language_choice 1 (List.cons_ne_nil _ _), greeting,
    respelled_mul, respelled_mul, respelled_kstar, marks, ← language_marks (by decide)]
  exact congrArg _ (language_repeated _ _)

theorem language_presenceNodes :
    (Node.ofList presenceNodes).language anyCase = respelled sameLetter presence := by
  simp only [presenceNodes, language_ofList_cons, language_ofList_nil, Node.optional,
    language_optional, language_choice _ (List.cons_ne_nil _ _), language_word, presence,
    respelled_mul, respelled_add, respelled_one, mul_assoc, mul_one]

theorem language_companyNodes :
    (Node.ofList companyNodes).language anyCase = respelled sameLetter company := by
  have any : (Node.ofList ((ofString "any").map fun c => .char c.toNat false)).language anyCase =
      respelled sameLetter (oneOf (phrases ["any"])) := language_word "any"
  simp only [companyNodes, List.cons_append, language_ofList_cons, language_ofList_append, any,
    language_ofList_nil, Node.optional, language_optional,
    language_choice _ (List.cons_ne_nil _ _), language_word, company, respelled_mul, respelled_add,
    respelled_one, mul_assoc, mul_one]

end Pattern

/-- The settings of the rule for messages that only see whether somebody answers. -/
def heartbeats : RuleSettings := builtinRules.head (List.cons_ne_nil _ _)

/-- The patterns of that rule, all of which ask for whole texts. -/
def heartbeatPatterns : List Pattern :=
  [greetingNodes, presenceNodes, companyNodes].map fun nodes => ⟨Node.whole nodes, anyCase⟩

section

variable [CharacterNames]

theorem read_heartbeats : heartbeats.patterns.map Pattern.read = heartbeatPatterns.map .ok := by
  cbv

/-! ## The rule -/

omit [CharacterNames] in
/-- A normalised message does not end with a blank. -/
theorem getLast?_normalize (message : Text) :
    forall c, (normalize message).getLast? = some c -> isBlank c = false := by
  have kept : trim (normalize message) = normalize message := trim_lower_trim message
  rw [← kept]
  exact getLast?_trim _

omit [CharacterNames] in
/-- In normalised messages a pattern for whole texts is found without a line feed at the end. -/
theorem isFoundIn_normalize_iff {nodes : List Node} (plain : (Node.ofList nodes).isPlain = true)
    (message : Text) :
    (Pattern.mk (Node.whole nodes) anyCase).isFoundIn (normalize message) = true ↔
      normalize message ∈ (Node.ofList nodes).language anyCase := by
  rw [isFoundIn_whole_iff plain rfl]
  refine or_iff_left ?_
  rintro ⟨word, _, parts⟩
  have last := getLast?_normalize message '\n' (by rw [parts, List.getLast?_concat])
  exact absurd last (by decide)

omit [CharacterNames] in
theorem heartbeatPatterns_found_iff (message : Text) :
    (Exists fun pattern : Pattern => pattern ∈ heartbeatPatterns ∧
      pattern.isFoundIn (normalize message) = true) ↔
      normalize message ∈ respelled sameLetter (greeting + presence + company) := by
  simp only [heartbeatPatterns, List.map_cons, List.map_nil, List.exists_mem_cons_iff]
  rw [isFoundIn_normalize_iff (by decide +kernel), isFoundIn_normalize_iff (by decide +kernel),
    isFoundIn_normalize_iff (by decide +kernel), language_greetingNodes, language_presenceNodes,
    language_companyNodes, respelled_add, respelled_add, Language.mem_add, Language.mem_add, or_assoc]
  simp

omit [CharacterNames] in
theorem heartbeats_exact {phrase : Text} (listed : phrase ∈ heartbeats.exact) :
    normalize phrase = phrase ∧ isBlankText phrase = false := by
  have checked : (heartbeats.exact.all fun phrase =>
      decide (normalize phrase = phrase ∧ isBlankText phrase = false)) = true := by
    decide +kernel
  exact of_decide_eq_true (List.all_eq_true.mp checked phrase listed)

theorem heartbeats_applies_iff (message : Text) :
    heartbeats.Applies (normalize message) ↔ normalize message ∈ heartbeats.exact ∨
      normalize message ∈ respelled sameLetter (greeting + presence + company) := by
  rw [← heartbeatPatterns_found_iff, ← exists_read_iff read_heartbeats]
  constructor
  · intro why
    cases why with
    | exact listed _ same =>
        rw [same, (heartbeats_exact listed).1]
        exact Or.inl listed
    | beginning listed => exact absurd listed List.not_mem_nil
    | contained listed => exact absurd listed List.not_mem_nil
    | bounded listed => exact absurd listed List.not_mem_nil
    | pattern listed read found => exact Or.inr ⟨_, listed, _, read, found⟩
    | short bounded => cases bounded
  · rintro (listed | ⟨_, listed, _, read, found⟩)
    · have normal := heartbeats_exact listed
      exact .exact listed normal.2 normal.1.symm
    · exact .pattern listed read found

theorem heartbeats_not_empty : ¬ heartbeats.Applies [] := by
  rw [← any_testsOf_iff read_heartbeats]
  decide +kernel

end

/-! ## One line -/

/-- The words of a language are made of characters with a property. -/
def IsMadeOf (words : Language Char) (holds : Char -> Prop) : Prop :=
  forall word, word ∈ words -> forall c, c ∈ word -> holds c

section MadeOf

variable {holds : Char -> Prop} {words others : Language Char}

theorem isMadeOf_oneOf {signs : List Char} {texts : List Text}
    (checked : (texts.all fun text => text.all signs.contains) = true) :
    IsMadeOf (oneOf texts) (· ∈ signs) := by
  intro text listed c member
  have signsOnly := List.all_eq_true.mp (List.all_eq_true.mp checked text listed) c member
  exact List.contains_iff_mem.mp signsOnly

theorem isMadeOf_one : IsMadeOf 1 holds := by
  intro word empty
  rw [(Language.mem_one word).mp empty]
  exact fun c member => absurd member List.not_mem_nil

namespace IsMadeOf

theorem add (first : IsMadeOf words holds) (second : IsMadeOf others holds) :
    IsMadeOf (words + others) holds :=
  fun word member => ((Language.mem_add _ _ word).mp member).elim (first word) (second word)

theorem mul (first : IsMadeOf words holds) (second : IsMadeOf others holds) :
    IsMadeOf (words * others) holds := by
  rintro _ ⟨left, inWords, right, inOthers, rfl⟩ c member
  exact (List.mem_append.mp member).elim (first left inWords c) (second right inOthers c)

theorem kstar (each : IsMadeOf words holds) : IsMadeOf words∗ holds := by
  rintro _ ⟨parts, rfl, inWords⟩ c member
  rcases List.mem_flatten.mp member with ⟨part, listed, inPart⟩
  exact each part (inWords part listed) c inPart

theorem respelled {same : Char -> Char -> Bool} {spelled : Char -> Prop}
    (each : IsMadeOf words holds) (spread : forall c d, holds c -> same c d = true -> spelled d) :
    IsMadeOf (respelled same words) spelled := by
  rintro text ⟨word, member, related⟩
  have signs : forall c, c ∈ word -> holds c := each word member
  clear member
  induction related with
  | nil => exact fun d listed => absurd listed List.not_mem_nil
  | cons here _ inductionHypothesis =>
      have parts := List.forall_mem_cons.mp signs
      exact List.forall_mem_cons.mpr ⟨spread _ _ parts.1 here, inductionHypothesis parts.2⟩

end IsMadeOf

end MadeOf

/-- The characters that greetings are written with. -/
def greetingSigns : List Char := "abcdefghijklmnopqrstuvwxyz !.?".toList

theorem foldChar_of_isBlank {c : Char} (blank : isBlank c = true) : foldChar c = c := by
  have other : c ≠ Char.ofNat 0x130 := by
    rintro rfl
    exact absurd blank (by decide)
  rw [foldChar, if_neg other, lowerChar_of_isBlank blank]

/-- The only blank that greetings hold is the space, also up to letter case. -/
theorem eq_space_of_sameLetter {sign c : Char} (listed : sign ∈ greetingSigns)
    (same : sameLetter sign c = true) (blank : isBlank c = true) : c = ' ' := by
  have checked : (greetingSigns.all fun sign => decide (foldChar sign = sign ∧ sign.toNat <= 0x7F ∧
      (isBlank sign = true -> sign = ' ') ∧
        forall code, code ∈ partners sign.toNat -> isBlank (Char.ofNat code) = false)) = true := by
    decide +kernel
  rcases of_decide_eq_true (List.all_eq_true.mp checked sign listed) with
    ⟨folded, low, space, partnersFilled⟩
  rw [sameLetter, folded, foldChar_of_isBlank blank, Bool.or_eq_true_iff] at same
  rcases same with equal | shared
  · rw [← eq_of_beq equal] at blank ⊢
    exact space blank
  · have filled := partnersFilled _ (mem_partners_of_shareUpper low shared)
    rw [Char.ofNat_toNat, blank] at filled
    cases filled

theorem isMadeOf_heartbeats : IsMadeOf (greeting + presence + company) (· ∈ greetingSigns) := by
  unfold greeting presence company
  repeat' first
    | exact isMadeOf_one
    | exact isMadeOf_oneOf (by decide +kernel)
    | apply IsMadeOf.add
    | apply IsMadeOf.mul
    | apply IsMadeOf.kstar

namespace RuleList

/-- With the built-in rules the heartbeat rule answers exactly the twelve words and what is, as a
whole, a greeting or one of the questions, up to letter case.  No such message has more than one
line: the only blank in it is the space. -/
theorem heartbeats_are_whole_messages [CharacterNames] {fallback : Text} {list : RuleList}
    (compiled : compile builtinRules fallback = .ok list) (given : Option Text) :
    let message := given.getD []
    let text := normalize message
    (list.answer? message = some (0, ofString "heartbeat") ↔
      text ∈ phrases ["hi", "hello", "hey", "yo", "sup", "ping", "test", "ok", "okay", "thanks",
          "thank you", "thx"] ∨
        text ∈ respelled sameLetter (greeting + presence + company)) ∧
      (list.answer? message = some (0, ofString "heartbeat") ->
        forall c, c ∈ text -> isBlank c = true -> c = ' ') := by
  intro message text
  have answered : list.answer? message = some (0, ofString "heartbeat") ↔
      text ∈ heartbeats.exact ∨ text ∈ respelled sameLetter (greeting + presence + company) := by
    rw [answer?_eq_some_iff compiled, ← heartbeats_applies_iff]
    constructor
    · rintro ⟨_, here, first, _⟩
      have same : heartbeats = here := Option.some.inj first.found
      rw [same]
      exact first.applies
    · intro applies
      refine ⟨?_, heartbeats, ⟨rfl, applies, ?_⟩, by decide +kernel⟩
      · intro empty
        exact heartbeats_not_empty (empty ▸ applies)
      · intro earlier _ least
        exact absurd least (Nat.not_lt_zero _)
  refine ⟨answered, ?_⟩
  intro found c member blank
  rcases answered.mp found with listed | respelling
  · have checked : (heartbeats.exact.all fun phrase =>
        phrase.all fun c => !isBlank c || c == ' ') = true := by
      decide +kernel
    have spaced := List.all_eq_true.mp (List.all_eq_true.mp checked text listed) c member
    simpa [blank] using spaced
  · have spaced : IsMadeOf (respelled sameLetter (greeting + presence + company))
        fun c => isBlank c = true -> c = ' ' :=
      isMadeOf_heartbeats.respelled fun _ _ => eq_space_of_sameLetter
    exact spaced text respelling c member blank

/-- A question with a long s, which matches an s, in both cases and with blanks around it. -/
def oddQuestion : Text := ofString " I\u017f ANYONE home?\n"

theorem question_mem_company : ofString "is " ++ ofString "any" ++ ofString "one" ++ ofString " " ++
    ofString "home" ++ ofString "?" ∈ company := by
  have listed : forall (word : String) (words : List String), word ∈ words ->
      ofString word ∈ oneOf (phrases words) := fun _ _ => List.mem_map_of_mem
  have optional : ofString "is " ∈ 1 + oneOf (phrases ["is "]) := Or.inr (listed _ _ (by decide))
  exact Language.append_mem_mul (Language.append_mem_mul (Language.append_mem_mul
    (Language.append_mem_mul (Language.append_mem_mul optional (listed _ _ (by decide)))
      (listed _ _ (by decide))) (listed _ _ (by decide))) (listed _ _ (by decide)))
    (Or.inr (listed _ _ (by decide)))

/-- The rule answers a question that is written in an odd way with blanks around it.  It does not
answer a greeting that stands on a line of its own. -/
theorem heartbeats_are_whole_messages_lines :
    Exists fun list : RuleList => compile builtinRules (ofString "simple-chat") = .ok list ∧
      list.answer? oddQuestion = some (0, ofString "heartbeat") ∧
      list.answer? (ofString "hello!\nhello!") ≠ some (0, ofString "heartbeat") := by
  have accepted : (compile builtinRules (ofString "simple-chat")).toOption.isSome = true := by
    decide +kernel
  rcases Option.isSome_iff_exists.mp accepted with ⟨list, found⟩
  have compiled := toOption_eq_some_iff.mp found
  refine ⟨list, compiled, ?_, ?_⟩
  · refine (heartbeats_are_whole_messages compiled (some oddQuestion)).1.mpr (Or.inr ?_)
    exact ⟨_, Or.inr question_mem_company, by decide +kernel⟩
  · intro answered
    have spaced := (heartbeats_are_whole_messages compiled
      (some (ofString "hello!\nhello!"))).2 answered
    exact absurd (spaced '\n' (by decide +kernel) (by decide)) (by decide)

end RuleList

end Switchboard
