import Mathlib.Computability.Language
import Switchboard.Proofs.Bounding

namespace Switchboard
namespace Pattern

open Text
open scoped Computability

/-!
# The languages of patterns

The matcher tries the ways to match one after another, each together with what follows, and takes the
first that succeeds.  For the nodes that only consume characters, which way is tried first makes no
difference to whether one succeeds.  Such a node has a language, and matching it succeeds exactly if
the text goes on with a word of this language behind which what follows succeeds.

Two things have to be kept apart from the words.  Groups leave marks behind, so what follows must not
look at them (`IsMarkBlind`).  And a greedy repetition ends with a round that matches nothing; leaving
such rounds out changes no word, and the rounds that are left are no more than there are characters.

A pattern that asks for the start before such nodes and for the end behind them is found exactly in
the words of their language, up to one line feed at the end of the text.
-/

/-! ## What a matcher recognizes -/

/-- Whether what follows succeeds does not depend on what groups have matched. -/
def IsMarkBlind (next : Next) : Prop :=
  forall (place : Place) (marks : List (Nat × Nat)),
    (next { place with marks := marks }).isSome = (next place).isSome

/-- The place behind a part of the text that follows. -/
def Place.past (place : Place) (front back : Text) : Place :=
  { place with
    before := front.reverse ++ place.before
    after := back
    position := place.position + front.length }

theorem Place.past_past (place : Place) (front middle back rest : Text) :
    (place.past front rest).past middle back = place.past (front ++ middle) back := by
  simp [Place.past, Nat.add_assoc]

/-- The text goes on with a word of a language, and what follows succeeds behind the word. -/
def GoesOn (language : Language Char) (place : Place) (next : Next) : Prop :=
  Exists fun front : Text => Exists fun back : Text => place.after = front ++ back ∧
    front ∈ language ∧ (next (place.past front back)).isSome = true

/-- Matching succeeds exactly if the text goes on with a word of a language. -/
def Recognizes (matcher : Matcher) (language : Language Char) : Prop :=
  forall (place : Place) (next : Next), IsMarkBlind next ->
    ((matcher place next).isSome = true ↔ GoesOn language place next)

section GoingOn

variable {language first second : Language Char} {place other : Place} {next further : Next}

theorem goesOn_congr (same : other.after = place.after)
    (alike : forall front back : Text,
      (further (other.past front back)).isSome = (next (place.past front back)).isSome) :
    GoesOn language other further ↔ GoesOn language place next := by
  simp only [GoesOn, same, alike]

theorem goesOn_one_iff : GoesOn 1 place next ↔ (next place).isSome = true := by
  constructor
  · rintro ⟨front, back, parts, empty, succeeds⟩
    rw [Language.mem_one] at empty
    subst empty
    rw [List.nil_append] at parts
    rwa [← parts] at succeeds
  · intro succeeds
    exact ⟨[], place.after, rfl, Language.nil_mem_one, succeeds⟩

theorem goesOn_add_iff :
    GoesOn (first + second) place next ↔ GoesOn first place next ∨ GoesOn second place next := by
  simp only [GoesOn, Language.mem_add, or_and_right, and_or_left, exists_or]

theorem goesOn_mul_iff :
    GoesOn (first * second) place next ↔ Exists fun front : Text => Exists fun back : Text =>
      place.after = front ++ back ∧ front ∈ first ∧
        GoesOn second (place.past front back) next := by
  constructor
  · rintro ⟨front, back, parts, member, succeeds⟩
    rcases Language.mem_mul.mp member with ⟨left, inFirst, right, inSecond, same⟩
    subst same
    refine ⟨left, right ++ back, by rw [parts, List.append_assoc], inFirst, right, back, rfl,
      inSecond, ?_⟩
    rwa [Place.past_past]
  · rintro ⟨left, rest, parts, inFirst, right, back, partsRest, inSecond, succeeds⟩
    refine ⟨left ++ right, back, ?_, Language.append_mem_mul inFirst inSecond, ?_⟩
    · rw [parts, List.append_assoc]
      exact congrArg (left ++ ·) partsRest
    · rwa [Place.past_past] at succeeds

end GoingOn

namespace Recognizes

variable {body other : Matcher} {language others : Language Char}

/-- Whether a matcher succeeds does not depend on marks either. -/
theorem isMarkBlind (recognizes : Recognizes body language) {next : Next}
    (blind : IsMarkBlind next) : IsMarkBlind fun place => body place next := by
  intro place marks
  rw [Bool.eq_iff_iff, recognizes _ _ blind, recognizes _ _ blind]
  exact goesOn_congr rfl fun front back => blind (place.past front back) marks

theorem nothing : Recognizes (fun place next => next place) 1 :=
  fun _ _ _ => goesOn_one_iff.symm

theorem seq (first : Recognizes body language) (second : Recognizes other others) :
    Recognizes (fun place next => body place fun middle => other middle next)
      (language * others) := by
  intro place next blind
  rw [first _ _ (second.isMarkBlind blind), goesOn_mul_iff]
  simp only [GoesOn, second _ _ blind]

theorem alt (first : Recognizes body language) (second : Recognizes other others) :
    Recognizes (fun place next => match body place next with
      | some result => some result
      | none => other place next) (language + others) := by
  intro place next blind
  rw [goesOn_add_iff, ← first _ _ blind, ← second _ _ blind]
  dsimp only
  cases body place next <;> simp

theorem group (inner : Recognizes body language) (opening closing : Nat) :
    Recognizes (fun place next => body (place.mark opening) fun after => next (after.mark closing))
      language := by
  intro place next blind
  have behind : IsMarkBlind fun after => next (after.mark closing) := by
    intro after marks
    exact (blind after _).trans (blind after _).symm
  rw [inner _ _ behind]
  exact goesOn_congr rfl fun front back => blind (place.past front back) _

theorem exactly (inner : Recognizes body language) (count : Nat) :
    Recognizes (Matcher.exactly body count) (language ^ count) := by
  induction count with
  | zero =>
      rw [pow_zero]
      exact nothing
  | succ count inductionHypothesis =>
      rw [pow_succ']
      exact inner.seq inductionHypothesis

end Recognizes

/-! ## Single characters -/

/-- The words of one character that passes a test. -/
def single (test : Char -> Bool) : Language Char :=
  {word | Exists fun c : Char => word = [c] ∧ test c = true}

theorem recognizes_single (test : Char -> Bool) :
    Recognizes (fun place next => (place.forward? test).bind next) (single test) := by
  intro place next _
  dsimp only [Place.forward?]
  constructor
  · intro succeeds
    cases after : place.after with
    | nil =>
        rw [after] at succeeds
        cases succeeds
    | cons c rest =>
        rw [after] at succeeds
        cases passed : test c with
        | false => simp [passed] at succeeds
        | true =>
            simp only [passed, if_true, Option.bind_some] at succeeds
            exact ⟨[c], rest, after, ⟨c, rfl, passed⟩, succeeds⟩
  · rintro ⟨_, rest, after, ⟨c, rfl, passed⟩, succeeds⟩
    rw [after]
    simp only [List.singleton_append, passed, if_true, Option.bind_some]
    exact succeeds

/-! ## Repetitions -/

/-- The words made of words of a language, as many as a bound allows. -/
def upTo (bound : Option Nat) (language : Language Char) : Language Char :=
  {word | Exists fun count : Nat =>
    (forall most : Nat, bound = some most -> count <= most) ∧ word ∈ language ^ count}

theorem nil_mem_upTo (bound : Option Nat) (language : Language Char) : [] ∈ upTo bound language :=
  ⟨0, fun _ _ => Nat.zero_le _, by rw [pow_zero]; exact Language.nil_mem_one⟩

theorem upTo_zero (language : Language Char) : upTo (some 0) language = 1 := by
  ext word
  constructor
  · rintro ⟨count, within, member⟩
    rw [Nat.le_zero.mp (within 0 rfl), pow_zero] at member
    exact member
  · intro member
    exact (Language.mem_one word).mp member ▸ nil_mem_upTo _ _

/-- One round is left out or not. -/
theorem upTo_one (language : Language Char) : upTo (some 1) language = 1 + language := by
  ext word
  rw [Language.mem_add]
  constructor
  · rintro ⟨count, within, member⟩
    rcases Nat.le_one_iff_eq_zero_or_eq_one.mp (within 1 rfl) with zero | one
    · rw [zero, pow_zero] at member
      exact Or.inl member
    · rw [one, pow_one] at member
      exact Or.inr member
  · rintro (empty | member)
    · exact (Language.mem_one word).mp empty ▸ nil_mem_upTo _ _
    · refine ⟨1, fun most bounded => (Option.some.inj bounded).le, ?_⟩
      rw [pow_one]
      exact member

theorem upTo_none (language : Language Char) : upTo none language = language∗ := by
  ext word
  rw [Language.kstar_eq_iSup_pow, Language.mem_iSup]
  constructor
  · rintro ⟨count, _, member⟩
    exact ⟨count, member⟩
  · rintro ⟨count, member⟩
    exact ⟨count, fun _ bounded => (Option.some_ne_none _ bounded.symm).elim, member⟩

theorem append_mem_upTo {bound : Option Nat} {language : Language Char} (more : bound ≠ some 0)
    {front back : Text} (member : front ∈ language)
    (rest : back ∈ upTo (Matcher.oneLess bound) language) :
    front ++ back ∈ upTo bound language := by
  rcases rest with ⟨count, within, members⟩
  refine ⟨count + 1, ?_, ?_⟩
  · intro most same
    have below := within (most - 1) (by rw [same]; rfl)
    have positive : most ≠ 0 := fun zero => more (zero ▸ same)
    omega
  · rw [pow_succ']
    exact Language.append_mem_mul member members

/-- A word that is not empty starts with a round that is not empty. -/
theorem exists_append_of_mem_upTo {bound : Option Nat} {language : Language Char} {word : Text}
    (member : word ∈ upTo bound language) (filled : word ≠ []) :
    Exists fun front : Text => Exists fun back : Text => word = front ++ back ∧
      front ≠ [] ∧ front ∈ language ∧ back ∈ upTo (Matcher.oneLess bound) language := by
  rcases member with ⟨count, within, members⟩
  induction count with
  | zero =>
      rw [pow_zero, Language.mem_one] at members
      exact absurd members filled
  | succ count inductionHypothesis =>
      rw [pow_succ', Language.mem_mul] at members
      rcases members with ⟨front, here, back, rest, same⟩
      by_cases empty : front = []
      · rw [empty, List.nil_append] at same
        exact inductionHypothesis (fun most bounded => Nat.le_of_succ_le (within most bounded))
          (same ▸ rest)
      · refine ⟨front, back, same.symm, empty, here, count, ?_, rest⟩
        intro less bounded
        rcases Option.map_eq_some_iff.mp bounded with ⟨most, same, lowered⟩
        have below := within most same
        omega

/-- The text goes on with no round or with one that is not empty and the rounds behind it. -/
theorem goesOn_upTo_iff {bound : Option Nat} {language : Language Char} (more : bound ≠ some 0)
    {place : Place} {next : Next} :
    GoesOn (upTo bound language) place next ↔ (next place).isSome = true ∨
      Exists fun front : Text => Exists fun back : Text => place.after = front ++ back ∧
        front ≠ [] ∧ front ∈ language ∧
          GoesOn (upTo (Matcher.oneLess bound) language) (place.past front back) next := by
  constructor
  · rintro ⟨word, rest, parts, member, succeeds⟩
    by_cases empty : word = []
    · subst empty parts
      exact Or.inl succeeds
    · rcases exists_append_of_mem_upTo member empty with
        ⟨front, middle, same, filled, here, members⟩
      subst same
      rw [List.append_assoc] at parts
      rw [← Place.past_past place front middle rest (middle ++ rest)] at succeeds
      exact Or.inr ⟨front, middle ++ rest, parts, filled, here, middle, rest, rfl, members,
        succeeds⟩
  · rintro (succeeds | ⟨front, back, parts, _, here, middle, rest, partsBehind, members, succeeds⟩)
    · exact ⟨[], place.after, rfl, nil_mem_upTo _ _, succeeds⟩
    · rw [Place.past_past] at succeeds
      refine ⟨front ++ middle, rest, ?_, append_mem_upTo more here members, succeeds⟩
      rw [parts, List.append_assoc]
      exact congrArg (front ++ ·) partsBehind

/-- A round that has matched nothing is the last one. -/
theorem greedy_stalled (body : Matcher) (rounds : Nat) (left : Option Nat) (place : Place)
    (next : Next) :
    Matcher.greedy body rounds left (some place.position) place next = next place := by
  cases rounds with
  | zero => rfl
  | succ rounds => simp [Matcher.greedy, Matcher.mayRepeat]

/-- Where another round may start, it is tried before what follows. -/
theorem isSome_greedy_iff {body : Matcher} {left last : Option Nat} {place : Place}
    (more : Matcher.mayRepeat left last place = true) (rounds : Nat) (next : Next) :
    (Matcher.greedy body (rounds + 1) left last place next).isSome = true ↔
      (body place fun after => Matcher.greedy body rounds (Matcher.oneLess left)
        (some place.position) after next).isSome = true ∨ (next place).isSome = true := by
  rw [Matcher.greedy, if_pos more]
  cases body place _ <;> simp

namespace Recognizes

variable {body : Matcher} {language : Language Char} (inner : Recognizes body language)

include inner

theorem isMarkBlind_greedy {next : Next} (blind : IsMarkBlind next) (rounds : Nat)
    (left last : Option Nat) :
    IsMarkBlind fun place => Matcher.greedy body rounds left last place next := by
  induction rounds generalizing left last with
  | zero => exact blind
  | succ rounds inductionHypothesis =>
      intro place marks
      dsimp only
      cases more : Matcher.mayRepeat left last place with
      | false =>
          have stopped : Matcher.mayRepeat left last { place with marks := marks } = false := more
          rw [Matcher.greedy, Matcher.greedy, more, stopped]
          exact blind place marks
      | true =>
          have further := inner.isMarkBlind
            (inductionHypothesis (Matcher.oneLess left) (some place.position)) place marks
          have again : Matcher.mayRepeat left last { place with marks := marks } = true := more
          rw [Bool.eq_iff_iff, isSome_greedy_iff more, isSome_greedy_iff again, ← blind place marks]
          exact or_congr_left (Bool.eq_iff_iff.mp further)

/-- Where a round may start, the text goes on with words of as many rounds as are left. -/
theorem greedy_iff {next : Next} (blind : IsMarkBlind next) {rounds : Nat} {left last : Option Nat}
    {place : Place} (enough : place.after.length < rounds) (moved : last ≠ some place.position) :
    (Matcher.greedy body rounds left last place next).isSome = true ↔
      GoesOn (upTo left language) place next := by
  induction rounds generalizing left last place with
  | zero => exact absurd enough (Nat.not_lt_zero _)
  | succ rounds inductionHypothesis =>
      by_cases ended : left = some 0
      · rw [ended, upTo_zero, goesOn_one_iff]
        simp [Matcher.greedy, Matcher.mayRepeat]
      · have more : Matcher.mayRepeat left last place = true := by
          simp [Matcher.mayRepeat, ended, moved]
        -- Behind a round that matches something fewer characters are left.
        have later : forall front back : Text, place.after = front ++ back -> front ≠ [] ->
            ((Matcher.greedy body rounds (Matcher.oneLess left) (some place.position)
              (place.past front back) next).isSome = true ↔
              GoesOn (upTo (Matcher.oneLess left) language) (place.past front back) next) := by
          intro front back parts filled
          have positive := List.length_pos_iff.mpr filled
          have farther : (place.past front back).position = place.position + front.length := rfl
          apply inductionHypothesis
          · rw [parts, List.length_append] at enough
            exact (by omega : back.length < rounds)
          · rw [farther, ne_eq, Option.some.injEq]
            omega
        rw [isSome_greedy_iff more, inner _ _ (inner.isMarkBlind_greedy blind _ _ _),
          goesOn_upTo_iff ended, or_comm]
        constructor
        · rintro (succeeds | ⟨front, back, parts, member, succeeds⟩)
          · exact Or.inl succeeds
          · by_cases empty : front = []
            · subst empty parts
              rw [← greedy_stalled body rounds (Matcher.oneLess left) place next]
              exact Or.inl succeeds
            · exact Or.inr ⟨front, back, parts, empty, member,
                (later front back parts empty).mp succeeds⟩
        · rintro (succeeds | ⟨front, back, parts, filled, member, further⟩)
          · exact Or.inl succeeds
          · exact Or.inr ⟨front, back, parts, member, (later front back parts filled).mpr further⟩

/-- A greedy repetition matches the rounds it must match and as many others as it may. -/
theorem loop (least : Nat) (most : Option Nat) :
    Recognizes (Matcher.loop .greedy least most body)
      (language ^ least * upTo (most.map (· - least)) language) := by
  refine (inner.exactly least).seq ?_
  intro place next blind
  exact inner.greedy_iff blind (Nat.lt_succ_self _) (Option.some_ne_none _).symm

end Recognizes
/-! ## The language of a node -/

/-- Whether a node only consumes characters and leaves every way to do so open. -/
def Node.isPlain : Node -> Bool
  | .empty => true
  | .char _ _ => true
  | .any => true
  | .set _ _ => true
  | .seq first second => first.isPlain && second.isPlain
  | .alt first second => first.isPlain && second.isPlain
  | .group _ body => body.isPlain
  | .scoped _ body => body.isPlain
  | .loop .greedy _ _ body => body.isPlain
  | _ => false

/-- The words that a plain node matches in a mode. -/
def Node.language : Node -> Mode -> Language Char
  | .empty, _ => 1
  | .char code negated, mode => single fun c => mode.same code c != negated
  | .any, mode => single fun c => mode.dotAll || c != '\n'
  | .set members negated, mode => single (mode.inSet members negated)
  | .seq first second, mode => first.language mode * second.language mode
  | .alt first second, mode => first.language mode + second.language mode
  | .group _ body, mode => body.language mode
  | .scoped change body, mode => body.language (mode.change change)
  | .loop _ least most body, mode =>
      body.language mode ^ least * upTo (most.map (· - least)) (body.language mode)
  | _, _ => 0

theorem recognizes_language {node : Node} (plain : node.isPlain = true) (mode : Mode) :
    Recognizes (node.run mode) (node.language mode) := by
  induction node generalizing mode with
  | empty => exact Recognizes.nothing
  | char code negated => exact recognizes_single _
  | any => exact recognizes_single _
  | set members negated => exact recognizes_single _
  | seq first second firstHypothesis secondHypothesis =>
      have both := Bool.and_eq_true_iff.mp plain
      exact (firstHypothesis both.1 mode).seq (secondHypothesis both.2 mode)
  | alt first second firstHypothesis secondHypothesis =>
      have both := Bool.and_eq_true_iff.mp plain
      exact (firstHypothesis both.1 mode).alt (secondHypothesis both.2 mode)
  | group number body inductionHypothesis =>
      exact (inductionHypothesis plain mode).group _ _
  | «scoped» change body inductionHypothesis => exact inductionHypothesis plain _
  | loop greed least most body inductionHypothesis =>
      cases greed with
      | greedy => exact (inductionHypothesis plain mode).loop least most
      | lazy => cases plain
      | possessive => cases plain
  | anchor | atomic | ahead | behind | backref | cond => cases plain

theorem language_ofList_nil (mode : Mode) : (Node.ofList []).language mode = 1 := rfl

theorem language_ofList_cons (node : Node) (nodes : List Node) (mode : Mode) :
    (Node.ofList (node :: nodes)).language mode =
      node.language mode * (Node.ofList nodes).language mode := by
  cases nodes with
  | nil => exact (mul_one _).symm
  | cons second rest => rfl

theorem language_ofList_append (nodes more : List Node) (mode : Mode) :
    (Node.ofList (nodes ++ more)).language mode =
      (Node.ofList nodes).language mode * (Node.ofList more).language mode := by
  induction nodes with
  | nil => exact (one_mul _).symm
  | cons node nodes inductionHypothesis =>
      rw [List.cons_append, language_ofList_cons, language_ofList_cons, inductionHypothesis,
        mul_assoc]

/-- A word of alternatives is a word of one of them. -/
theorem mem_language_anyOf_iff {nodes : List Node} (some_node : nodes ≠ []) (mode : Mode)
    (word : Text) :
    word ∈ (Node.anyOf nodes).language mode ↔
      Exists fun node : Node => node ∈ nodes ∧ word ∈ node.language mode := by
  induction nodes with
  | nil => exact absurd rfl some_node
  | cons node nodes inductionHypothesis =>
      cases nodes with
      | nil =>
          rw [List.exists_mem_cons_iff]
          simp [Node.anyOf]
      | cons second rest =>
          rw [List.exists_mem_cons_iff, ← inductionHypothesis (List.cons_ne_nil second rest)]
          exact Language.mem_add _ _ _

theorem language_optional (body : Node) (mode : Mode) :
    (Node.loop .greedy 0 (some 1) body).language mode = 1 + body.language mode := by
  rw [Node.language, pow_zero, one_mul]
  exact upTo_one _

theorem language_repeated (body : Node) (mode : Mode) :
    (Node.loop .greedy 1 none body).language mode = body.language mode * (body.language mode)∗ := by
  rw [Node.language, pow_one]
  exact congrArg _ (upTo_none _)

/-! ## Patterns for whole texts -/

theorem run_ofList_append (nodes more : List Node) (mode : Mode) (place : Place) (next : Next) :
    (Node.ofList (nodes ++ more)).run mode place next =
      (Node.ofList nodes).run mode place fun middle => (Node.ofList more).run mode middle next := by
  induction nodes generalizing place with
  | nil => rfl
  | cons node nodes inductionHypothesis =>
      rw [List.cons_append, run_ofList_cons, run_ofList_cons]
      exact congrArg (node.run mode place) (funext inductionHypothesis)

/-- The nodes between the start and the end. -/
def Node.whole (nodes : List Node) : Node :=
  .ofList (.anchor .lineStart :: (nodes ++ [.anchor .lineEnd]))

theorem isMarkBlind_lineEnd (mode : Mode) : IsMarkBlind ((Node.anchor .lineEnd).run mode · some) := by
  intro place marks
  have same : Place.satisfies { place with marks := marks } mode .lineEnd =
      place.satisfies mode .lineEnd := rfl
  simp only [Node.run, same]
  cases place.satisfies mode .lineEnd <;> rfl

/-- Behind plain nodes the end of the text is reached, or one line feed before it. -/
theorem goesOn_lineEnd_iff {language : Language Char} {mode : Mode} (oneLine : mode.byLine = false)
    (place : Place) :
    GoesOn language place ((Node.anchor .lineEnd).run mode · some) ↔ place.after ∈ language ∨
      Exists fun word : Text => word ∈ language ∧ place.after = word ++ ['\n'] := by
  have ends : forall word back : Text,
      (((Node.anchor .lineEnd).run mode (place.past word back) some).isSome = true ↔
        back = [] ∨ back = ['\n']) := by
    intro word back
    by_cases ended : back = [] ∨ back = ['\n'] <;>
      simp [Node.run, Place.satisfies, Place.past, oneLine, ended]
  simp only [GoesOn, ends]
  constructor
  · rintro ⟨word, _, parts, member, rfl | rfl⟩
    · rw [parts, List.append_nil]
      exact Or.inl member
    · exact Or.inr ⟨word, member, parts⟩
  · rintro (member | ⟨word, member, parts⟩)
    · exact ⟨place.after, [], (List.append_nil _).symm, member, Or.inl rfl⟩
    · exact ⟨word, ['\n'], parts, member, Or.inr rfl⟩

/-- Plain nodes between the start and the end are found in the words of their language, behind which
a line feed may end the text. -/
theorem isFoundIn_whole_iff {nodes : List Node} (plain : (Node.ofList nodes).isPlain = true)
    {mode : Mode} (oneLine : mode.byLine = false) (text : Text) :
    (Pattern.mk (Node.whole nodes) mode).isFoundIn text = true ↔
      text ∈ (Node.ofList nodes).language mode ∨ Exists fun word : Text =>
        word ∈ (Node.ofList nodes).language mode ∧ text = word ++ ['\n'] := by
  have inner := fun place => (recognizes_language plain mode place _ (isMarkBlind_lineEnd mode)).trans
    (goesOn_lineEnd_iff oneLine place)
  have only_first : forall front back : Text,
      (Pattern.mk (Node.whole nodes) mode).MatchesBehind front back ↔ front = [] ∧
        (back ∈ (Node.ofList nodes).language mode ∨ Exists fun word : Text =>
          word ∈ (Node.ofList nodes).language mode ∧ back = word ++ ['\n']) := by
    intro front back
    have start : forall next : Next,
        (Node.anchor .lineStart).run mode ⟨front.reverse, back, front.length, []⟩ next =
          if front.isEmpty then next ⟨front.reverse, back, front.length, []⟩ else none := by
      intro next
      simp [Node.run, Place.satisfies, oneLine]
    unfold MatchesBehind Node.whole
    simp only [run_ofList_cons, run_ofList_append, start]
    cases front with
    | nil => exact (inner ⟨[], back, 0, []⟩).trans (by simp)
    | cons c front => simp
  rw [isFoundIn_iff_matchesBehind]
  simp only [only_first]
  constructor
  · rintro ⟨_, back, parts, rfl, found⟩
    rwa [parts]
  · exact fun found => ⟨[], text, rfl, rfl, found⟩

end Pattern
end Switchboard
