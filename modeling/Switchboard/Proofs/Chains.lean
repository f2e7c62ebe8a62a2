import Switchboard.Proofs.Reading

namespace Switchboard
namespace Tag

open Text

/-!
# Free chains of tags

Tags that stand right behind one another form a chain, and a chain is free when nothing before it
turns its first bracket into an index expression.  Only the first tag of a chain is recognisable:
each of the others stands behind a closing bracket.

A chain is described by the text around it, without reference to how tags are searched
(`IsFreeChain`).  The list of free chains goes through the text one character at a time and asks at
each place that is not glued whether a tag starts there; `mem_freeChains_iff` says that it holds
exactly the chains so described.  The description leaves no choice, because a tag word has no
bracket in it and the run of tags is the longest one.
-/

/-- Tags written one right behind the other. -/
def taggedAll (words : List Text) : Text := words.flatMap tagged

theorem taggedAll_cons (first : Text) (more : List Text) :
    taggedAll (first :: more) = tagged first ++ taggedAll more :=
  List.flatMap_cons

/-- A text that does not start with a tag. -/
def StartsWithNoTag (text : Text) : Prop :=
  forall written, IsTagWord written -> ¬ tagged written <+: text

theorem startsWithNoTag_iff (text : Text) : StartsWithNoTag text ↔ read? text = none := by
  constructor
  · intro absent
    cases found : read? text with
    | none => rfl
    | some written =>
        rcases read?_eq_some_iff.1 found with ⟨isWord, rest, parts⟩
        exact False.elim (absent written isWord ⟨rest, parts.symm⟩)
  · rintro unread written isWord ⟨rest, parts⟩
    rw [← parts, read?_tagged_append isWord rest] at unread
    cases unread

/-! ## The longest run of tags -/

/-- The words of the tags that a text starts with, each right behind the one before; at most a
given number of them. -/
def adjacent : Nat -> Text -> List Text
  | 0, _ => []
  | count + 1, text =>
      match read? text with
      | none => []
      | some written => written :: adjacent count (text.drop (width written))

theorem adjacent_succ_of_some {text first : Text} (count : Nat) (found : read? text = some first) :
    adjacent (count + 1) text = first :: adjacent count (text.drop (width first)) := by
  rw [adjacent, found]

theorem isTagWord_of_mem_adjacent {count : Nat} {text written : Text}
    (member : written ∈ adjacent count text) : IsTagWord written := by
  induction count generalizing text with
  | zero => cases member
  | succ count inductionHypothesis =>
      rw [adjacent] at member
      split at member
      · cases member
      · rename_i first found
        rcases List.mem_cons.mp member with same | later
        · rw [same]
          exact (read?_eq_some_iff.1 found).1
        · exact inductionHypothesis later

/-- The tags that a text starts with come first in it, and no tag follows them. -/
theorem exists_eq_taggedAll_adjacent_append {count : Nat} {text : Text}
    (enough : text.length <= count) :
    Exists fun rest : Text => text = taggedAll (adjacent count text) ++ rest ∧ read? rest = none := by
  induction count generalizing text with
  | zero =>
      rw [List.length_eq_zero_iff.mp (Nat.le_zero.mp enough)]
      exact ⟨[], rfl, rfl⟩
  | succ count inductionHypothesis =>
      cases found : read? text with
      | none =>
          rw [adjacent, found]
          exact ⟨text, rfl, found⟩
      | some first =>
          rcases (read?_eq_some_iff.1 found).2 with ⟨behind, parts⟩
          have dropped : text.drop (width first) = behind := by
            rw [parts, ← length_tagged, List.drop_left]
          have shorter : behind.length <= count := by
            rw [parts, List.length_append, length_tagged, width] at enough
            omega
          rcases inductionHypothesis shorter with ⟨rest, restParts, absent⟩
          refine ⟨rest, ?_, absent⟩
          rw [adjacent_succ_of_some count found, dropped, taggedAll_cons, List.append_assoc,
            ← restParts]
          exact parts

/-- A run of tags that no tag follows is the longest one. -/
theorem adjacent_taggedAll_append {words : List Text} (areWords : forall w, w ∈ words -> IsTagWord w)
    {rest : Text} (absent : read? rest = none) {count : Nat} (enough : words.length <= count) :
    adjacent count (taggedAll words ++ rest) = words := by
  induction words generalizing count with
  | nil =>
      cases count with
      | zero => rfl
      | succ count =>
          have unread : read? (taggedAll [] ++ rest) = none := absent
          rw [adjacent, unread]
  | cons first more inductionHypothesis =>
      cases count with
      | zero => cases enough
      | succ count =>
          have firstIsWord := areWords first List.mem_cons_self
          have below := inductionHypothesis (fun w member => areWords w (List.mem_cons_of_mem _ member))
            (Nat.le_of_succ_le_succ enough)
          rw [taggedAll_cons, List.append_assoc,
            adjacent_succ_of_some count (read?_tagged_append firstIsWord _), ← length_tagged,
            List.drop_left, below]

theorem length_le_length_taggedAll (words : List Text) : words.length <= (taggedAll words).length := by
  induction words with
  | nil => exact Nat.le_refl 0
  | cons first more inductionHypothesis =>
      rw [taggedAll_cons, List.length_append, length_tagged, List.length_cons, width]
      omega

/-- The tags that a text starts with. -/
def run (text : Text) : List Text := adjacent text.length text

theorem run_taggedAll_append {words : List Text} (areWords : forall w, w ∈ words -> IsTagWord w)
    {rest : Text} (absent : read? rest = none) : run (taggedAll words ++ rest) = words := by
  apply adjacent_taggedAll_append areWords absent
  rw [List.length_append]
  exact Nat.le_add_right_of_le (length_le_length_taggedAll words)

theorem exists_eq_taggedAll_run_append (text : Text) :
    Exists fun rest : Text => text = taggedAll (run text) ++ rest ∧ read? rest = none :=
  exists_eq_taggedAll_adjacent_append (Nat.le_refl text.length)

/-- A text is tags and a rest that no tag starts. -/
theorem exists_eq_taggedAll_append (text : Text) :
    Exists fun words : List Text => Exists fun rest : Text =>
      (forall w, w ∈ words -> IsTagWord w) ∧ read? rest = none ∧ text = taggedAll words ++ rest := by
  rcases exists_eq_taggedAll_run_append text with ⟨rest, parts, absent⟩
  exact ⟨run text, rest, fun _ => isTagWord_of_mem_adjacent, absent, parts⟩

/-! ## Chains in a text -/

/-- A chain of tags: where it starts and the words of its tags in order. -/
structure Chain where
  start : Nat
  words : List Text
deriving Repr, DecidableEq

/-- The characters that a chain takes up. -/
def Chain.span (chain : Chain) : Span :=
  ⟨chain.start, chain.start + (taggedAll chain.words).length⟩

/-- A longest run of adjacent tags that starts the text or stands behind a character which is no
word character and no closing bracket. -/
def IsFreeChain (text : Text) (chain : Chain) : Prop :=
  chain.words ≠ [] ∧ (forall written, written ∈ chain.words -> IsTagWord written) ∧
    Exists fun before : Text => Exists fun after : Text =>
      text = before ++ (taggedAll chain.words ++ after) ∧ chain.start = before.length ∧
        StartsWithNoTag after ∧
        forall c, before.getLast? = some c -> isWord c = false ∧ c ≠ ']'

/-- The free chains of a text that starts at a position, given whether the character before it
glues. -/
def freeChainsFrom (position : Nat) (glued : Bool) : Text -> List Chain
  | [] => []
  | c :: text =>
      match if glued then none else read? (c :: text) with
      | none => freeChainsFrom (position + 1) (glues c) text
      | some _ => ⟨position, run (c :: text)⟩ :: freeChainsFrom (position + 1) (glues c) text

/-- The free chains of a text from left to right. -/
def freeChains (text : Text) : List Chain := freeChainsFrom 0 false text

theorem glues_eq_false_iff (c : Char) : glues c = false ↔ isWord c = false ∧ c ≠ ']' := by
  rw [glues, Bool.or_eq_false_iff, beq_eq_false_iff_ne]

/-- A text starts with a tag exactly when its longest run of tags is not empty. -/
theorem run_ne_nil_iff (text : Text) : run text ≠ [] ↔ read? text ≠ none := by
  rcases exists_eq_taggedAll_run_append text with ⟨rest, parts, absent⟩
  constructor
  · intro nonempty unread
    cases words : run text with
    | nil => exact nonempty words
    | cons first more =>
        have firstIsWord : IsTagWord first := isTagWord_of_mem_adjacent (words ▸ List.mem_cons_self)
        rw [parts, words, taggedAll_cons, List.append_assoc, read?_tagged_append firstIsWord] at unread
        cases unread
  · intro found empty
    rw [empty] at parts
    exact found (parts ▸ absent)

/-- A free chain of a text that continues another one: a chain at its very start is free only if
the character before it does not glue. -/
def IsFreeChainFrom (position : Nat) (glued : Bool) (text : Text) (chain : Chain) : Prop :=
  chain.words ≠ [] ∧ (forall written, written ∈ chain.words -> IsTagWord written) ∧
    Exists fun before : Text => Exists fun after : Text =>
      text = before ++ (taggedAll chain.words ++ after) ∧
        chain.start = position + before.length ∧ read? after = none ∧
        (before = [] -> glued = false) ∧ forall c, before.getLast? = some c -> glues c = false

theorem mem_freeChainsFrom_cons {position : Nat} {glued : Bool} {c : Char} {text : Text}
    {chain : Chain} :
    chain ∈ freeChainsFrom position glued (c :: text) ↔
      (glued = false ∧ run (c :: text) ≠ [] ∧ chain = ⟨position, run (c :: text)⟩) ∨
        chain ∈ freeChainsFrom (position + 1) (glues c) text := by
  rw [freeChainsFrom, run_ne_nil_iff]
  cases glued with
  | true => simp
  | false => cases found : read? (c :: text) <;> simp

/-- The chain at the very start of a text is its longest run of tags. -/
theorem isFreeChainFrom_start_iff {position : Nat} {glued : Bool} {text : Text} {chain : Chain} :
    (glued = false ∧ run text ≠ [] ∧ chain = ⟨position, run text⟩) ↔
      chain.words ≠ [] ∧ (forall written, written ∈ chain.words -> IsTagWord written) ∧
        chain.start = position ∧ glued = false ∧
          Exists fun after : Text => text = taggedAll chain.words ++ after ∧ read? after = none := by
  constructor
  · rintro ⟨free, nonempty, same⟩
    rw [same]
    exact ⟨nonempty, fun _ => isTagWord_of_mem_adjacent, rfl, free, exists_eq_taggedAll_run_append text⟩
  · rintro ⟨nonempty, areWords, start, free, after, parts, absent⟩
    have words : run text = chain.words := parts ▸ run_taggedAll_append areWords absent
    exact ⟨free, words ▸ nonempty, by rw [words, ← start]⟩

theorem isFreeChainFrom_cons {position : Nat} {glued : Bool} {c : Char} {text : Text}
    {chain : Chain} :
    IsFreeChainFrom position glued (c :: text) chain ↔
      (glued = false ∧ run (c :: text) ≠ [] ∧ chain = ⟨position, run (c :: text)⟩) ∨
        IsFreeChainFrom (position + 1) (glues c) text chain := by
  rw [isFreeChainFrom_start_iff]
  constructor
  · rintro ⟨nonempty, areWords, before, after, parts, start, absent, atStart, behind⟩
    cases before with
    | nil => exact Or.inl ⟨nonempty, areWords, start, atStart rfl, after, parts, absent⟩
    | cons d before =>
        injection parts with headEq tailEq
        subst headEq
        right
        refine ⟨nonempty, areWords, before, after, tailEq, ?_, absent, ?_, ?_⟩
        · rw [start, List.length_cons]
          omega
        · intro empty
          subst empty
          exact behind c rfl
        · intro last isLast
          apply behind last
          rw [List.getLast?_cons, isLast]
          rfl
  · rintro (⟨nonempty, areWords, start, free, after, parts, absent⟩ |
      ⟨nonempty, areWords, before, after, parts, start, absent, atStart, behind⟩)
    · refine ⟨nonempty, areWords, [], after, parts, start, absent, fun _ => free, ?_⟩
      intro last impossible
      cases impossible
    · refine ⟨nonempty, areWords, c :: before, after, congrArg (c :: ·) parts, ?_, absent, ?_, ?_⟩
      · rw [start, List.length_cons]
        omega
      · intro impossible
        cases impossible
      · intro last isLast
        cases lastBefore : before.getLast? with
        | none =>
            rw [List.getLast?_cons, lastBefore] at isLast
            cases isLast
            exact atStart (List.getLast?_eq_none_iff.mp lastBefore)
        | some d =>
            rw [List.getLast?_cons, lastBefore] at isLast
            cases isLast
            exact behind d lastBefore

theorem mem_freeChainsFrom_iff {position : Nat} {glued : Bool} {text : Text} {chain : Chain} :
    chain ∈ freeChainsFrom position glued text ↔ IsFreeChainFrom position glued text chain := by
  -- Position and mark are general: both change from one character to the next.
  induction text generalizing position glued with
  | nil =>
      constructor
      · intro member
        cases member
      · rintro ⟨nonempty, areWords, before, after, parts, _⟩
        have empty := List.append_eq_nil_iff.mp (List.append_eq_nil_iff.mp parts.symm).2
        have short := length_le_length_taggedAll chain.words
        rw [empty.1] at short
        exact False.elim (nonempty (List.length_eq_zero_iff.mp (Nat.le_zero.mp short)))
  | cons c text inductionHypothesis =>
      rw [mem_freeChainsFrom_cons, isFreeChainFrom_cons, inductionHypothesis]

/-- The list holds exactly the free chains of the text. -/
theorem mem_freeChains_iff {text : Text} {chain : Chain} :
    chain ∈ freeChains text ↔ IsFreeChain text chain := by
  rw [freeChains, mem_freeChainsFrom_iff]
  simp only [IsFreeChainFrom, IsFreeChain, startsWithNoTag_iff, glues_eq_false_iff, Nat.zero_add,
    implies_true, true_and]

end Tag
end Switchboard
