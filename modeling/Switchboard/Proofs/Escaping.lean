import Switchboard.Proofs.Bounding
import Switchboard.Proofs.Matching
import Switchboard.Proofs.Parsing

namespace Switchboard

open Text

/-!
# Bounded phrases as a pattern

Bounded phrases are searched for by a pattern that is put together as a tree.  It is the pattern that
a text writes: the phrases with a backslash before every character that a pattern gives a meaning,
with bars between them, between two conditions.  Whatever the phrases are made of, this text is read
without a fault, and as that tree.

So the phrases can be given in any order, one of them may start another, and any of them may hold
marks, blanks or line breaks: the pattern is found exactly where one of the phrases stands bounded.

A pattern can also write a character by its name.  What a text is read as does not depend on the way
in which each of its characters is written.
-/

namespace Pattern

/-! ## Escaped texts -/

/-- The characters that are written with a backslash before them. -/
def reserved : Text := "()[]\x7b\x7d?*+-|^$\\.&~# \t\n\r\x0b\x0c".toList

/-- A character as a pattern writes it that means this character. -/
def escapeChar (c : Char) : Text := if reserved.contains c then ['\\', c] else [c]

/-- A text as a pattern writes it that means this text. -/
def escape (text : Text) : Text := text.flatMap escapeChar

/-- No reserved character has a letter's or a digit's meaning behind a backslash. -/
theorem escape_tables_of_reserved : forall c, c ∈ reserved ->
    Escape.anchor? c = none ∧ Escape.class? c = none ∧
      (Escape.control? c = none ∨ Escape.control? c = some c.toNat) ∧ Escape.hexCount? c = none ∧
        (c ≠ 'N' ∧ c ≠ '0' ∧ c.isDigit = false ∧ c.isAlpha = false) :=
  List.forall_iff_forall_mem.mp (by decide)

section

variable [CharacterNames]

theorem reads_escaped {c : Char} (member : c ∈ reserved) :
    Reads (Escape.outsideSet c) IsSound [] (.char c.toNat false) := by
  rcases escape_tables_of_reserved c member with
    ⟨noAnchor, noClass, control, noHex, notNamed, notOctal, noDigit, noLetter⟩
  rw [Escape.outsideSet, noAnchor, noClass]
  rcases control with noControl | code
  · rw [noControl, noHex]
    simp only [notNamed, notOctal, noDigit, noLetter, Escape.plain, if_false, Bool.false_eq_true]
    exact reads_pure _ _
  · rw [code]
    exact reads_pure _ _

omit [CharacterNames] in
/-- Whatever is not escaped stands for itself. -/
theorem isSpecial_eq_false {c : Char} (free : c ∉ reserved) : isSpecial c = false := by
  have covered : forall d, d ∈ ".\\[\x7b()*+?^$|".toList -> d ∈ reserved :=
    List.forall_iff_forall_mem.mp (by decide)
  rw [Bool.eq_false_iff]
  exact fun special => free (covered c (List.contains_iff_mem.mp special))

omit [CharacterNames] in
theorem escapeChar_of_mem {c : Char} (member : c ∈ reserved) : escapeChar c = ['\\', c] :=
  if_pos (List.contains_iff_mem.mpr member)

omit [CharacterNames] in
theorem escapeChar_of_not_mem {c : Char} (free : c ∉ reserved) : escapeChar c = [c] :=
  if_neg (by rw [List.contains_iff_mem]; exact free)

omit [CharacterNames] in
theorem isSound_escapeChar (c : Char) : IsSound (escapeChar c) := by
  by_cases member : c ∈ reserved
  · rw [escapeChar_of_mem member]
    intro lone
    cases lone
  · rw [escapeChar_of_not_mem member]
    intro lone
    exact member (by rw [(List.cons.inj lone).1]; decide)

/-! ## Characters by their names -/

/-- A character as a pattern writes it by a name. -/
def byName (name : Text) : Text := '\\' :: 'N' :: '\x7b' :: (name ++ ['\x7d'])

/-- A name by which a pattern can write a character. -/
structure Spells (name : Text) (c : Char) : Prop where
  known : CharacterNames.find? name = some c
  filled : name ≠ []
  plain : forall d, d ∈ name -> d ≠ '\\' ∧ d ≠ '\x7d'

omit [CharacterNames] in
theorem isSound_closed (name : Text) : IsSound (name ++ ['\x7d']) := by
  intro lone
  have ends := congrArg List.getLast? lone
  rw [List.getLast?_concat] at ends
  cases ends

omit [CharacterNames] in
/-- A name is taken one character after the other, up to its terminator. -/
theorem reads_nameUpTo {name : Text} (plain : forall d, d ∈ name -> d ≠ '\\' ∧ d ≠ '\x7d')
    (taken : Text) (filled : taken ++ name ≠ []) (what : String) {count : Nat}
    (enough : name.length < count) :
    Reads (Read.nameUpTo '\x7d' what count taken) IsSound (name ++ ['\x7d']) (taken ++ name) := by
  induction name generalizing taken count with
  | nil =>
      rcases Nat.exists_eq_add_one.mpr enough with ⟨below, same⟩
      rw [List.append_nil] at filled ⊢
      rw [same, Read.nameUpTo]
      refine (reads_take (by decide)).bind [] ?_ fun _ sound => sound
      rw [List.isEmpty_eq_false_iff.mpr filled]
      exact reads_pure _ taken
  | cons d name inductionHypothesis =>
      rcases Nat.exists_eq_add_one.mpr (Nat.zero_lt_of_lt enough) with ⟨below, same⟩
      rw [List.forall_mem_cons] at plain
      rcases plain with ⟨⟨noEscape, goesOn⟩, plainBehind⟩
      have going : Token.isPlain ⟨false, d⟩ (fun c => c == '\x7d') = false := by
        rw [Token.isPlain, beq_eq_false_iff_ne.mpr goesOn]
        rfl
      have enoughBelow : name.length < below := by
        rw [same, List.length_cons] at enough
        exact Nat.lt_of_succ_lt_succ enough
      have behind := inductionHypothesis plainBehind (taken ++ [d]) (by simp) enoughBelow
      rw [List.append_assoc] at behind
      rw [same, Read.nameUpTo]
      refine (reads_take noEscape).bind (name ++ ['\x7d']) ?_ fun rest sound =>
        (isSound_closed name).append sound
      simp only [going, Bool.false_eq_true, if_false]
      exact behind

theorem Spells.reads_named {name : Text} {c : Char} (spells : Spells name c) :
    Reads Escape.named IsSound ('\x7b' :: (name ++ ['\x7d'])) c.toNat := by
  have nameRead : Reads (Read.name '\x7d' "character name") IsSound (name ++ ['\x7d']) name := by
    intro reader rest position sound
    have enough : name.length < (name ++ ['\x7d'] ++ rest).length + 1 := by
      simp only [List.length_append, List.length_singleton]
      omega
    rw [Read.name, run_bind_of_ok (run_get _)]
    exact reads_nameUpTo spells.plain [] spells.filled _ enough reader rest position sound
  rw [Escape.named]
  refine (reads_accept (by decide)).bind (name ++ ['\x7d']) ?_ fun rest sound =>
    (isSound_closed name).append sound
  rw [← List.append_nil (name ++ ['\x7d'])]
  refine nameRead.bind [] ?_ fun _ sound => sound
  simp only [spells.known]
  exact reads_pure IsSound c.toNat

/-- A character as a pattern may write it to mean this character. -/
inductive Writes : Text -> Char -> Prop where
  | escaped (c : Char) : Writes (escapeChar c) c
  | byName {name : Text} {c : Char} (spells : Spells name c) : Writes (byName name) c

namespace Writes

variable {part : Text} {c : Char}

theorem isSound (writes : Writes part c) : IsSound part := by
  cases writes with
  | escaped c => exact isSound_escapeChar c
  | byName spells =>
      intro lone
      cases lone

theorem length_pos (writes : Writes part c) : 0 < part.length := by
  cases writes with
  | escaped c =>
      rw [escapeChar]
      split
      · exact Nat.zero_lt_succ 1
      · exact Nat.zero_lt_one
  | byName spells => exact Nat.zero_lt_succ _

/-- However it is written, a character is read as the next item of a sequence. -/
theorem reads_sequence (writes : Writes part c) {allowance : Nat} {leading : Bool}
    {items : List Node} {rest : Text} {value : Node} (sound : IsSound rest)
    (behind : Reads (readSequence allowance false leading (.char c.toNat false :: items))
      EndsSequence rest value) :
    Reads (readSequence (allowance + 1) false leading items) EndsSequence (part ++ rest) value := by
  cases writes with
  | escaped c =>
      by_cases member : c ∈ reserved
      · rw [escapeChar_of_mem member]
        exact reads_sequence_escape (reads_escaped member) isSound_nil sound behind
      · rw [escapeChar_of_not_mem member]
        exact reads_sequence_char (isSpecial_eq_false member) sound behind
  | byName spells =>
      have meant := spells.reads_named.map fun code => Node.char code false
      exact reads_sequence_escape meant (isSound_cons (by decide) _) sound behind

end Writes

section

variable {parts : List Text} {text : Text}

theorem isSound_flatten (written : List.Forall₂ Writes parts text) : IsSound parts.flatten := by
  induction written with
  | nil => exact isSound_nil
  | cons writes _ inductionHypothesis => exact writes.isSound.append inductionHypothesis

theorem length_le_length_flatten (written : List.Forall₂ Writes parts text) :
    text.length <= parts.flatten.length := by
  induction written with
  | nil => exact Nat.le_refl 0
  | cons writes _ inductionHypothesis =>
      have filled := writes.length_pos
      rw [List.flatten_cons, List.length_append, List.length_cons]
      omega

/-- A text is read back from whatever writes its characters. -/
theorem reads_sequence_flatten (written : List.Forall₂ Writes parts text) {allowance : Nat}
    (enough : text.length < allowance) (leading : Bool) (items : List Node) :
    Reads (readSequence allowance false leading items) EndsSequence parts.flatten
      (Node.ofList (items.reverse ++ text.map fun c => .char c.toNat false)) := by
  induction written generalizing allowance items with
  | nil =>
      rcases Nat.exists_eq_add_one.mpr enough with ⟨below, same⟩
      rw [same, List.map_nil, List.append_nil]
      exact reads_sequence_end below false leading items
  | @cons part c parts text writes written inductionHypothesis =>
      rcases Nat.exists_eq_add_one.mpr (Nat.zero_lt_of_lt enough) with ⟨below, same⟩
      have enoughBelow : text.length < below := by
        rw [same, List.length_cons] at enough
        exact Nat.lt_of_succ_lt_succ enough
      have behind := inductionHypothesis enoughBelow (.char c.toNat false :: items)
      rw [List.reverse_cons, List.append_assoc] at behind
      rw [same, List.flatten_cons]
      exact writes.reads_sequence (isSound_flatten written) behind

theorem isBranch_flatten (written : List.Forall₂ Writes parts text) :
    IsBranch parts.flatten (Node.phrase text) where
  sound := isSound_flatten written
  reads _ leading enough :=
    reads_sequence_flatten written
      (Nat.lt_of_le_of_lt (length_le_length_flatten written) enough) leading []

end

theorem isBranch_escape (text : Text) : IsBranch (escape text) (Node.phrase text) := by
  rw [escape, List.flatMap_def]
  apply isBranch_flatten
  rw [List.forall₂_map_left_iff, List.forall₂_same]
  exact fun c _ => .escaped c

/-! ## Bounded phrases -/

theorem isBranch_wordChar : IsBranch ['\\', 'w'] .wordChar where
  sound := by
    intro lone
    cases lone
  reads allowance leading enough := by
    rcases Nat.exists_eq_add_of_lt enough with ⟨more, same⟩
    have word : Reads (Escape.outsideSet 'w') IsSound [] .wordChar := fun _ _ _ _ => rfl
    rw [same, Nat.add_assoc, Nat.add_comm]
    refine reads_sequence_escape word isSound_nil isSound_nil ?_
    exact reads_sequence_end (more + 1) false leading [.wordChar]

theorem reads_wordChar {allowance : Nat} (enough : 4 < allowance) :
    Reads (readAlternatives allowance false false) EndsBranches ['\\', 'w'] .wordChar :=
  reads_alternatives (.cons isBranch_wordChar .nil) (List.cons_ne_nil _ _) enough

/-- Phrases as a pattern writes them that means one of these phrases. -/
def alternativesText (phrases : List Text) : Text := joinWith ['|'] (phrases.map escape)

theorem areBranches_escape (phrases : List Text) :
    List.Forall₂ IsBranch (phrases.map escape) (phrases.map Node.phrase) := by
  rw [List.forall₂_map_left_iff, List.forall₂_map_right_iff, List.forall₂_same]
  exact fun phrase _ => isBranch_escape phrase

theorem isSound_alternativesText (phrases : List Text) : IsSound (alternativesText phrases) :=
  isSound_joinWith (areBranches_escape phrases)

theorem reads_alternativesText {phrases : List Text} (some_phrase : phrases ≠ []) {allowance : Nat}
    (enough : (alternativesText phrases).length + 2 < allowance) :
    Reads (readAlternatives allowance false false) EndsBranches (alternativesText phrases)
      (Node.anyOf (phrases.map Node.phrase)) :=
  reads_alternatives (areBranches_escape phrases) (by simpa using some_phrase) enough

/-- The phrases, between a condition on what stands before them and one on what follows. -/
def boundedText (phrases : List Text) : Text :=
  ofString "(?<!\\w)(?:" ++ alternativesText phrases ++ ofString ")(?!\\w)"

omit [CharacterNames] in
theorem boundedText_eq_groups (phrases : List Text) : boundedText phrases =
    '(' :: (('?' :: '<' :: '!' :: (['\\', 'w'] ++ [')'])) ++
      '(' :: (('?' :: ':' :: (alternativesText phrases ++ [')'])) ++
        '(' :: (('?' :: '!' :: (['\\', 'w'] ++ [')'])) ++ []))) := by
  simp [boundedText, ofString]

theorem isBranch_bounded {phrases : List Text} (some_phrase : phrases ≠ []) :
    IsBranch (boundedText phrases) (Node.bounded phrases) where
  sound := isSound_cons (by decide) _
  reads allowance leading enough := by
    rw [boundedText_eq_groups] at enough ⊢
    simp only [List.length_append, List.length_cons, List.length_nil] at enough
    -- Each of the three groups takes a step, and so does the end of the sequence.
    rcases Nat.exists_eq_add_of_le' (by omega : 4 <= allowance) with ⟨left, same⟩
    rw [same] at enough ⊢
    have before : Reads (readAlternatives (left + 2) false false) EndsBranches ['\\', 'w']
        .wordChar := reads_wordChar (by omega)
    have alternatives := reads_alternativesText some_phrase
      (by omega : (alternativesText phrases).length + 2 < left + 1)
    have behind : Reads (readAlternatives left false false) EndsBranches ['\\', 'w'] .wordChar :=
      reads_wordChar (by omega)
    refine reads_sequence_group (reads_group_behind before isBranch_wordChar.sound)
      (isSound_cons (by decide) _) (isSound_cons (by decide) _) ?_
    refine reads_sequence_group (reads_group_scoped alternatives (isSound_alternativesText phrases))
      (isSound_cons (by decide) _) (isSound_cons (by decide) _) ?_
    refine reads_sequence_group (reads_group_ahead behind isBranch_wordChar.sound)
      (isSound_cons (by decide) _) isSound_nil ?_
    exact reads_sequence_end left false leading _

end

theorem check_phrase (text : Text) : (Node.phrase text).check false = .ok () := by
  apply check_ofList
  rw [List.forall_mem_map]
  exact fun _ _ => rfl

theorem check_bounded (phrases : List Text) : (Node.bounded phrases).check false = .ok () := by
  have phrasesFine : (Node.anyOf (phrases.map Node.phrase)).check false = .ok () := by
    apply check_anyOf
    rw [List.forall_mem_map]
    exact fun phrase _ => check_phrase phrase
  have parts : (Node.bounded phrases).check false =
      (Node.anyOf (phrases.map Node.phrase)).check false >>= fun _ => .ok () := rfl
  rw [parts, phrasesFine]
  rfl

end Pattern

open Pattern

/-- A text of which each character is written plainly, behind a backslash or by a name that the
look-up knows, is read as a pattern for this text. -/
theorem readIn_flatten [CharacterNames] {parts : List Text} {text : Text}
    (written : List.Forall₂ Writes parts text) (ignoreCase : Bool) :
    Pattern.readIn ignoreCase parts.flatten =
      .ok ⟨Node.phrase text, ⟨ignoreCase, false, false, false⟩⟩ :=
  readIn_of_branch (isBranch_flatten written) (check_phrase text) ignoreCase

/-- The text of bounded phrases is read as the pattern that is searched for. -/
theorem readIn_boundedText [CharacterNames] {phrases : List Text} (some_phrase : phrases ≠ []) :
    Pattern.readIn false (boundedText phrases) = .ok (boundedPattern phrases) :=
  readIn_of_branch (isBranch_bounded some_phrase) (check_bounded phrases) false

/-- The phrases of a rule that are searched for where they are bounded. -/
def boundedPhrases (phrases : List Text) : List Text :=
  (dropBlank phrases).map fun phrase => lower (trim phrase)

theorem exists_boundedPhrases_iff (phrases : List Text) (hit : Text -> Prop) :
    (Exists fun phrase : Text => phrase ∈ boundedPhrases phrases ∧ hit phrase) ↔
      Exists fun phrase : Text => phrase ∈ phrases ∧ isBlankText phrase = false ∧
        hit (lower (trim phrase)) := by
  simp [boundedPhrases, mem_dropBlank_iff, and_assoc]

theorem boundedPhrases_ne_nil {phrases : List Text} (some_filled : Exists fun phrase : Text =>
    phrase ∈ phrases ∧ isBlankText phrase = false) : boundedPhrases phrases ≠ [] := by
  rcases some_filled with ⟨phrase, listed, filled⟩
  have member := (exists_boundedPhrases_iff phrases fun _ => True).mpr
    ⟨phrase, listed, filled, trivial⟩
  rcases member with ⟨prepared, member, _⟩
  exact List.ne_nil_of_mem member

/-- The pattern of the phrases of a rule can be read, and is what the rule searches for.  It is found
in a text exactly if a phrase that is not blank occurs there bounded.  Where it matches depends on no
other phrase that goes on from the same place, and the order of the phrases shows in no answer. -/
theorem bounded_phrases_found_iff [CharacterNames] {phrases : List Text}
    (some_filled : Exists fun phrase : Text => phrase ∈ phrases ∧ isBlankText phrase = false) :
    Exists fun pattern : Pattern =>
      Pattern.readIn false (boundedText (boundedPhrases phrases)) = .ok pattern ∧
      (phraseTest phrases (fun phrase => lower (trim phrase)) fun prepared =>
        .hasBounded (boundedPattern prepared)) = [.hasBounded pattern] ∧
      (forall text : Text, pattern.isFoundIn text = true ↔
        Exists fun phrase : Text => phrase ∈ phrases ∧ isBlankText phrase = false ∧
          IsBoundedIn (lower (trim phrase)) text) ∧
      (forall front back : Text, pattern.MatchesBehind front back ↔
        front.getLast?.any isWord = false ∧ Exists fun phrase : Text => phrase ∈ phrases ∧
          isBlankText phrase = false ∧ Exists fun rest : Text =>
            back = lower (trim phrase) ++ rest ∧ rest.head?.any isWord = false) ∧
      forall others : List Text, others.Perm phrases -> Exists fun other : Pattern =>
        Pattern.readIn false (boundedText (boundedPhrases others)) = .ok other ∧
          forall text : Text, other.isFoundIn text = pattern.isFoundIn text := by
  have some_phrase := boundedPhrases_ne_nil some_filled
  have found_iff : forall {listed : List Text}, boundedPhrases listed ≠ [] -> forall text : Text,
      (boundedPattern (boundedPhrases listed)).isFoundIn text = true ↔
        Exists fun phrase : Text => phrase ∈ listed ∧ isBlankText phrase = false ∧
          IsBoundedIn (lower (trim phrase)) text := fun some_listed text =>
    (isFoundIn_boundedPattern_iff some_listed text).trans
      (exists_boundedPhrases_iff _ fun phrase => IsBoundedIn phrase text)
  refine ⟨boundedPattern (boundedPhrases phrases), readIn_boundedText some_phrase, ?_,
    found_iff some_phrase, fun front back => ?_, fun others reordered => ?_⟩
  · have filled : dropBlank phrases ≠ [] := by simpa [boundedPhrases] using some_phrase
    rw [phraseTest, if_neg (by rwa [List.isEmpty_iff])]
    rfl
  · rw [matchesBehind_boundedPattern_iff some_phrase, exists_boundedPhrases_iff phrases fun phrase =>
      Exists fun rest : Text => back = phrase ++ rest ∧ rest.head?.any isWord = false]
  · have some_other : boundedPhrases others ≠ [] := by
      apply boundedPhrases_ne_nil
      simpa only [reordered.mem_iff] using some_filled
    refine ⟨_, readIn_boundedText some_other, fun text => ?_⟩
    rw [Bool.eq_iff_iff, found_iff some_other, found_iff some_phrase]
    simp only [reordered.mem_iff]

/-- A blank phrase, a phrase that starts another one, and one that ends in marks. -/
theorem bounded_phrases_found_iff_marks :
    Exists fun pattern : Pattern =>
      Pattern.readIn false (ofString "(?<!\\w)(?:compile|compiler|c\\+\\+)(?!\\w)") = .ok pattern ∧
        pattern.isFoundIn (ofString "the compiler!") = true ∧
        pattern.isFoundIn (ofString "is c++ fast") = true := by
  have some_filled : Exists fun phrase : Text => phrase ∈
      [ofString "compile", ofString " ", ofString "Compiler ", ofString "c++"] ∧
        isBlankText phrase = false :=
    ⟨ofString "compile", List.mem_cons_self, rfl⟩
  rcases bounded_phrases_found_iff some_filled with ⟨pattern, read, _, found, _⟩
  refine ⟨pattern, read, ?_, ?_⟩
  · refine (found _).mpr ⟨ofString "Compiler ", by decide, rfl, ofString "the ", ofString "!", ?_⟩
    exact ⟨rfl, rfl, rfl⟩
  · refine (found _).mpr ⟨ofString "c++", by decide, rfl, ofString "is ", ofString " fast", ?_⟩
    exact ⟨rfl, rfl, rfl⟩

end Switchboard
