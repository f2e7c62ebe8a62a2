import Switchboard.Proofs.Lines
import Switchboard.Pattern.Grammar

namespace Switchboard
namespace Pattern

open Text

/-!
# How patterns are read

Reading a part of a pattern is described from the side of the text: what is written, which value it
is read as, and which texts may stand behind it (`Reads`).  Such descriptions are put together as
the readings are (`Reads.bind`), so each construct of the grammar has one, made from those of its
parts.

What may stand behind a part is never anything.  The reader looks one token ahead, so nowhere may a
lone backslash be left over, and a sequence goes on until a bar, a parenthesis or the end stops it.
The allowances of the grammar count the steps inside a part, and its length is always enough.
-/

/-! ## Readings -/

/-- A reader that has a text left, from a position on. -/
def Reader.facing (reader : Reader) (rest : Text) (position : Nat) : Reader :=
  { reader with rest := rest, position := position }

/-- What may stand behind a token: anything but a backslash that ends the pattern. -/
def IsSound (rest : Text) : Prop := rest ≠ ['\\']

theorem isSound_nil : IsSound [] := (List.cons_ne_nil _ _).symm

/-- Whatever starts with another character than a backslash is sound. -/
theorem isSound_cons {c : Char} (plain : c ≠ '\\') (rest : Text) : IsSound (c :: rest) :=
  fun lone => plain (List.cons.inj lone).1

theorem IsSound.append {written rest : Text} (sound : IsSound written) (soundRest : IsSound rest) :
    IsSound (written ++ rest) := by
  intro lone
  rcases List.append_eq_singleton_iff.mp lone with ⟨_, back⟩ | ⟨front, _⟩
  · exact soundRest back
  · exact sound front

/-- A reading takes a written text, gives a value and changes nothing else, whatever allowed text
follows. -/
def Reads (reading : Read α) (allowed : Text -> Prop) (written : Text) (value : α) : Prop :=
  forall (reader : Reader) (rest : Text) (position : Nat), allowed rest ->
    reading.run (reader.facing (written ++ rest) position) =
      .ok (value, reader.facing rest (position + written.length))

theorem run_bind_of_ok {first : Read α} {second : α -> Read β} {reader later : Reader} {value : α}
    (done : first.run reader = .ok (value, later)) :
    (first >>= second).run reader = (second value).run later := by
  rw [StateT.run_bind, done]
  rfl

theorem run_get (reader : Reader) : (get : Read Reader).run reader = .ok (reader, reader) := rfl

theorem run_modify (change : Reader -> Reader) (reader : Reader) :
    (modify change : Read Unit).run reader = .ok ((), change reader) := rfl

theorem reads_pure (allowed : Text -> Prop) (value : α) : Reads (pure value) allowed [] value :=
  fun _ _ _ _ => rfl

theorem Reads.bind {first : Read α} {second : α -> Read β} {allowed allowedBehind : Text -> Prop}
    {front : Text} {value : α} {result : β} (here : Reads first allowed front value) (back : Text)
    (behind : Reads (second value) allowedBehind back result)
    (fits : forall rest, allowedBehind rest -> allowed (back ++ rest)) :
    Reads (first >>= second) allowedBehind (front ++ back) result := by
  intro reader rest position follows
  rw [List.append_assoc, run_bind_of_ok (here reader (back ++ rest) position (fits rest follows)),
    behind reader rest _ follows, List.length_append, Nat.add_assoc]

theorem Reads.map {reading : Read α} {allowed : Text -> Prop} {written : Text} {value : α}
    (reads : Reads reading allowed written value) (change : α -> β) :
    Reads (reading >>= fun value => pure (change value)) allowed written (change value) := by
  intro reader rest position follows
  rw [run_bind_of_ok (reads reader rest position follows)]
  rfl

/-- What is read may depend on the state, as long as the result does not. -/
theorem Reads.ofState {second : Reader -> Read α} {allowed : Text -> Prop} {written : Text}
    {value : α} (behind : forall reader, Reads (second reader) allowed written value) :
    Reads (get >>= second) allowed written value := by
  intro reader rest position follows
  rw [run_bind_of_ok (run_get _)]
  exact behind _ reader rest position follows

theorem run_moveTo (reader : Reader) (width : Nat) {rest : Text} (sound : IsSound rest) :
    (Read.moveTo rest width).run reader =
      .ok ((), reader.facing rest (reader.position + width)) := by
  rw [Read.moveTo, run_bind_of_ok (run_get reader)]
  split
  · exact absurd rfl sound
  · rfl

theorem reads_take {c : Char} (plain : c ≠ '\\') : Reads Read.take IsSound [c] (some ⟨false, c⟩) := by
  intro reader rest position sound
  rw [Read.take, run_bind_of_ok (run_get _)]
  simp only [Reader.facing, List.singleton_append]
  split
  · rename_i parts
    cases parts
  · rename_i parts
    cases parts
    exact absurd rfl plain
  · rename_i parts
    cases parts
    exact run_bind_of_ok (run_moveTo _ 1 sound)

theorem reads_take_escaped (c : Char) : Reads Read.take IsSound ['\\', c] (some ⟨true, c⟩) := by
  intro reader rest position sound
  rw [Read.take, run_bind_of_ok (run_get _)]
  exact run_bind_of_ok (run_moveTo _ 2 sound)

/-- Looking at the next token takes nothing. -/
theorem reads_next {c : Char} (plain : c ≠ '\\') :
    Reads Read.next (fun rest => rest.head? = some c) [] (some ⟨false, c⟩) := by
  intro reader rest position starts
  rw [Read.next, run_bind_of_ok (run_get _)]
  rcases List.head?_eq_some_iff.mp starts with ⟨behind, parts⟩
  simp only [Reader.facing, parts, List.nil_append]
  split
  · rename_i impossible
    cases impossible
  · rename_i same
    cases same
    exact absurd rfl plain
  · rename_i same
    cases same
    rfl

theorem reads_next_escaped (c : Char) :
    Reads Read.next (fun rest => ['\\', c] <+: rest) [] (some ⟨true, c⟩) := by
  rintro reader rest position ⟨behind, parts⟩
  rw [← parts]
  rfl

theorem reads_nextIs {c : Char} (plain : c ≠ '\\') :
    Reads (Read.nextIs c) (fun rest => rest.head? = some c) [] true := by
  have same : Token.isPlain ⟨false, c⟩ (fun d => d == c) = true := by
    rw [Token.isPlain, beq_self_eq_true]
    rfl
  refine (reads_next plain).bind [] ?_ fun _ starts => starts
  simp only [same]
  exact reads_pure _ true

theorem reads_nextIs_not (c : Char) :
    Reads (Read.nextIs c) (fun rest => rest.head? ≠ some c) [] false := by
  intro reader rest position differs
  rw [Read.nextIs, Read.next, bind_assoc, run_bind_of_ok (run_get _)]
  simp only [Reader.facing, List.nil_append]
  split
  · rfl
  · rfl
  · rename_i d behind _
    have other : (d == c) = false := by
      rw [beq_eq_false_iff_ne]
      intro same
      exact differs (by rw [same]; rfl)
    simp only [pure_bind, Token.isPlain, other]
    rfl

theorem Reads.discard {reading : Read α} {allowed : Text -> Prop} {written : Text} {value : α}
    (reads : Reads reading allowed written value) :
    Reads (discard reading) allowed written () := by
  intro reader rest position follows
  exact congrArg (Except.map fun done => (PUnit.unit, done.2)) (reads reader rest position follows)

theorem reads_accept {c : Char} (plain : c ≠ '\\') : Reads (Read.accept c) IsSound [c] true := by
  refine (reads_nextIs plain).bind [c] ?_ fun _ _ => rfl
  exact (reads_take plain).discard.bind _ (reads_pure IsSound true) fun _ sound => sound

theorem reads_accept_not (c : Char) :
    Reads (Read.accept c) (fun rest => rest.head? ≠ some c) [] false :=
  (reads_nextIs_not c).bind _ (reads_pure _ false) fun _ differs => differs

/-! ## Sequences -/

/-- Where a sequence ends: at a bar, at a closing parenthesis or with the pattern. -/
def EndsSequence (rest : Text) : Prop := forall c, rest.head? = some c -> c = '|' ∨ c = ')'

theorem EndsSequence.isSound {rest : Text} (ends : EndsSequence rest) : IsSound rest := by
  intro lone
  rcases ends '\\' (by rw [lone]; rfl) with impossible | impossible
  · cases impossible
  · cases impossible

theorem reads_sequence_end [CharacterNames] (allowance : Nat) (verbose leading : Bool)
    (items : List Node) :
    Reads (readSequence (allowance + 1) verbose leading items) EndsSequence []
      (Node.ofList items.reverse) := by
  intro reader rest position ends
  rw [readSequence]
  cases rest with
  | nil => rfl
  | cons c behind =>
      rcases ends c rfl with same | same
      · rw [same]
        rfl
      · rw [same]
        rfl

section Items

variable {allowance : Nat} {leading : Bool} {items : List Node} {node : Node} {written : Text}
  {value : Node}

variable [CharacterNames]

/-- An escape may go on behind its letter. -/
theorem reads_sequence_escape {c : Char} {more : Text}
    (means : Reads (Escape.outsideSet c) IsSound more node) (soundMore : IsSound more)
    (sound : IsSound written)
    (behind : Reads (readSequence allowance false leading (node :: items)) EndsSequence written
      value) :
    Reads (readSequence (allowance + 1) false leading items) EndsSequence
      ('\\' :: c :: (more ++ written)) value := by
  rw [readSequence]
  refine (reads_next_escaped c).bind ('\\' :: c :: (more ++ written)) ?_
    fun rest _ => ⟨more ++ written ++ rest, rfl⟩
  refine (reads_take_escaped c).discard.bind (more ++ written) ?_
    fun rest ends => (soundMore.append sound).append ends.isSound
  exact means.bind _ behind fun rest ends => sound.append ends.isSound

theorem reads_sequence_char {c : Char} (free : isSpecial c = false) (sound : IsSound written)
    (behind : Reads (readSequence allowance false leading (.char c.toNat false :: items))
      EndsSequence written value) :
    Reads (readSequence (allowance + 1) false leading items) EndsSequence (c :: written) value := by
  have apart : forall d, isSpecial d = true -> c ≠ d := by
    rintro d special rfl
    rw [special] at free
    cases free
  have plain := apart '\\' (by decide)
  have goesOn : Token.isPlain ⟨false, c⟩ (fun d => d == '|' || d == ')') = false := by
    simp [Token.isPlain, apart '|' (by decide), apart ')' (by decide)]
  have single : isRepeatMark c = false := by
    simp [isRepeatMark, apart '*' (by decide), apart '+' (by decide), apart '?' (by decide),
      apart '\x7b' (by decide)]
  rw [readSequence]
  refine (reads_next plain).bind (c :: written) ?_ fun _ _ => rfl
  simp only [goesOn, Bool.false_eq_true, if_false, Bool.false_and, single,
    apart '(' (by decide), apart '[' (by decide)]
  refine (reads_take plain).discard.bind written ?_ fun rest ends =>
    sound.append ends.isSound
  split
  · exact absurd rfl (apart '.' (by decide))
  · exact absurd rfl (apart '^' (by decide))
  · exact absurd rfl (apart '$' (by decide))
  · exact behind

theorem reads_sequence_group {group : Text}
    (inner : Reads (readGroup allowance false) IsSound group (.item node))
    (soundGroup : IsSound group) (sound : IsSound written)
    (behind : Reads (readSequence allowance false leading (node :: items)) EndsSequence written
      value) :
    Reads (readSequence (allowance + 1) false leading items) EndsSequence
      ('(' :: (group ++ written)) value := by
  have plain : '(' ≠ '\\' := by decide
  rw [readSequence]
  refine (reads_next plain).bind ('(' :: (group ++ written)) ?_ fun _ _ => rfl
  refine (reads_take plain).discard.bind (group ++ written) ?_ fun rest ends =>
    (soundGroup.append sound).append ends.isSound
  exact inner.bind written behind fun rest ends => sound.append ends.isSound

end Items

/-! ## Alternatives -/

/-- Where alternatives end: at a closing parenthesis or with the pattern. -/
def EndsBranches (rest : Text) : Prop := forall c, rest.head? = some c -> c = ')'

theorem EndsBranches.endsSequence {rest : Text} (ends : EndsBranches rest) : EndsSequence rest :=
  fun c starts => Or.inr (ends c starts)

theorem EndsBranches.ne_bar {rest : Text} (ends : EndsBranches rest) : rest.head? ≠ some '|' := by
  intro bar
  cases ends '|' bar

section

variable [CharacterNames]

/-- A written text that is read as a node wherever a sequence may stand, given an allowance that its
length does not exceed. -/
structure IsBranch (written : Text) (node : Node) : Prop where
  sound : IsSound written
  reads : forall (allowance : Nat) (leading : Bool), written.length < allowance ->
    Reads (readSequence allowance false leading []) EndsSequence written node

theorem isSound_joinWith {parts : List Text} {nodes : List Node}
    (branches : List.Forall₂ IsBranch parts nodes) : IsSound (joinWith ['|'] parts) := by
  cases branches with
  | nil => exact isSound_nil
  | @cons part _ parts _ branch branches =>
      by_cases last : parts = []
      · rw [last]
        exact branch.sound
      · rw [joinWith_cons _ _ last]
        exact branch.sound.append (isSound_cons (by decide) _)

theorem reads_last_branch {allowance : Nat} {top leading : Bool} {written : Text} {node : Node}
    (branch : IsBranch written node) (enough : written.length < allowance) :
    Reads (readBranches (allowance + 1) top false leading) EndsBranches written [node] := by
  rw [readBranches, ← List.append_nil written]
  refine (branch.reads allowance _ enough).bind _ ?_ fun _ ends => ends.endsSequence
  exact (reads_accept_not '|').bind [] (reads_pure _ [node]) fun _ ends => ends.ne_bar

theorem reads_next_branch {allowance : Nat} {leading : Bool} {written rest : Text} {node : Node}
    {nodes : List Node} (branch : IsBranch written node) (enough : written.length < allowance)
    (sound : IsSound rest)
    (others : Reads (readBranches allowance false false false) EndsBranches rest nodes) :
    Reads (readBranches (allowance + 1) false false leading) EndsBranches (written ++ '|' :: rest)
      (node :: nodes) := by
  rw [readBranches]
  refine (branch.reads allowance _ enough).bind _ ?_ fun _ _ c starts => Or.inl ?_
  · refine (reads_accept (c := '|') (by decide)).bind rest ?_ fun _ ends =>
      sound.append ends.endsSequence.isSound
    exact Reads.ofState fun _ => others.map (node :: ·)
  · exact (Option.some.inj starts).symm

/-- Alternatives are read one after another. -/
theorem reads_branches {parts : List Text} {nodes : List Node}
    (branches : List.Forall₂ IsBranch parts nodes) (some_part : parts ≠ []) {allowance : Nat}
    (enough : (joinWith ['|'] parts).length + 1 < allowance) (leading : Bool) :
    Reads (readBranches allowance false false leading) EndsBranches (joinWith ['|'] parts) nodes := by
  induction branches generalizing allowance leading with
  | nil => exact absurd rfl some_part
  | @cons part node parts nodes branch branches inductionHypothesis =>
      rcases Nat.exists_eq_add_one.mpr (Nat.zero_lt_of_lt enough) with ⟨below, same⟩
      rw [same] at enough ⊢
      by_cases last : parts = []
      · subst last
        cases branches
        exact reads_last_branch branch (Nat.lt_of_succ_lt_succ enough)
      · rw [joinWith_cons _ _ last] at enough ⊢
        simp only [List.length_append, List.length_singleton] at enough
        exact reads_next_branch branch (by omega) (isSound_joinWith branches)
          (inductionHypothesis last (by omega) false)

theorem reads_alternatives {parts : List Text} {nodes : List Node}
    (branches : List.Forall₂ IsBranch parts nodes) (some_part : parts ≠ []) {allowance : Nat}
    (enough : (joinWith ['|'] parts).length + 2 < allowance) :
    Reads (readAlternatives allowance false false) EndsBranches (joinWith ['|'] parts)
      (Node.anyOf nodes) := by
  rcases Nat.exists_eq_add_one.mpr (Nat.zero_lt_of_lt enough) with ⟨below, same⟩
  rw [same] at enough ⊢
  rw [readAlternatives]
  exact (reads_branches branches some_part (Nat.lt_of_succ_lt_succ enough) true).map Node.anyOf

end

/-! ## Groups -/

theorem reads_closing (opened : Nat) : Reads (closing opened) IsSound [')'] () :=
  (reads_accept (by decide)).bind [] (reads_pure IsSound ()) fun _ sound => sound

section Groups

variable {allowance : Nat} {body : Text} {node : Node}

theorem endsBranches_closing (rest : Text) : EndsBranches (')' :: rest) :=
  fun _ starts => (Option.some.inj starts).symm

theorem isSound_enclosed (sound : IsSound body) (rest : Text) : IsSound (body ++ [')'] ++ rest) := by
  rw [List.append_assoc]
  exact sound.append (isSound_cons (by decide) rest)

/-- The body of a group and the parenthesis that closes it. -/
theorem reads_enclosed {reading : Read Node} (inner : Reads reading EndsBranches body node)
    (opened : Nat) (result : Node -> GroupResult) :
    Reads (reading >>= fun body => closing opened >>= fun _ => pure (result body)) IsSound
      (body ++ [')']) (result node) := by
  refine inner.bind [')'] ?_ fun rest _ => endsBranches_closing rest
  exact (reads_closing opened).map fun _ => result node

variable [CharacterNames]

/-- A group that only keeps its body together. -/
theorem reads_group_scoped
    (inner : Reads (readAlternatives allowance false false) EndsBranches body node)
    (sound : IsSound body) :
    Reads (readGroup (allowance + 1) false) IsSound ('?' :: ':' :: (body ++ [')']))
      (.item (.scoped .none node)) := by
  rw [readGroup]
  refine Reads.ofState fun _ => ?_
  refine (reads_accept (c := '?') (by decide)).bind (':' :: (body ++ [')'])) ?_ fun _ _ =>
    isSound_cons (by decide) _
  refine (reads_take (c := ':') (by decide)).bind (body ++ [')']) ?_ fun rest _ =>
    isSound_enclosed sound rest
  exact reads_enclosed inner _ fun body => .item (.scoped .none body)

/-- A condition that its body does not follow. -/
theorem reads_group_ahead
    (inner : Reads (readAlternatives allowance false false) EndsBranches body node)
    (sound : IsSound body) :
    Reads (readGroup (allowance + 1) false) IsSound ('?' :: '!' :: (body ++ [')']))
      (.item (.ahead true node)) := by
  rw [readGroup]
  refine Reads.ofState fun _ => ?_
  refine (reads_accept (c := '?') (by decide)).bind ('!' :: (body ++ [')'])) ?_ fun _ _ =>
    isSound_cons (by decide) _
  refine (reads_take (c := '!') (by decide)).bind (body ++ [')']) ?_ fun rest _ =>
    isSound_enclosed sound rest
  exact reads_enclosed inner _ fun body => .item (.ahead true body)

omit [CharacterNames] in
theorem reads_lookbehind (opened : Nat) (negated : Bool) {reading : Read Node}
    (inner : Reads reading EndsBranches body node) :
    Reads (readLookbehind opened negated reading) IsSound (body ++ [')'])
      (.item (.behind negated node.width node)) := by
  intro reader rest position sound
  -- The body is read by a reader with a mark, and the mark is taken back behind it.
  let marked : Reader :=
    { reader with lookbehindFrom := some (reader.lookbehindFrom.getD reader.groupCount) }
  have bodyRead := inner marked (')' :: rest) position (endsBranches_closing rest)
  have closed := reads_closing opened reader rest (position + body.length) sound
  rw [List.append_assoc, List.length_append, ← Nat.add_assoc, readLookbehind]
  refine (run_bind_of_ok (run_get _)).trans ?_
  refine (run_bind_of_ok (run_modify _ _)).trans ?_
  refine (run_bind_of_ok bodyRead).trans ?_
  refine (run_bind_of_ok (run_modify _ _)).trans ?_
  exact run_bind_of_ok closed

/-- A condition that its body does not stand before. -/
theorem reads_group_behind
    (inner : Reads (readAlternatives allowance false false) EndsBranches body node)
    (sound : IsSound body) :
    Reads (readGroup (allowance + 1) false) IsSound ('?' :: '<' :: '!' :: (body ++ [')']))
      (.item (.behind true node.width node)) := by
  rw [readGroup]
  refine Reads.ofState fun _ => ?_
  refine (reads_accept (c := '?') (by decide)).bind ('<' :: '!' :: (body ++ [')'])) ?_
    fun _ _ => isSound_cons (by decide) _
  refine (reads_take (c := '<') (by decide)).bind ('!' :: (body ++ [')'])) ?_
    fun _ _ => isSound_cons (by decide) _
  refine (reads_take (c := '!') (by decide)).bind (body ++ [')']) ?_ fun rest _ =>
    isSound_enclosed sound rest
  exact reads_lookbehind _ true inner

end Groups

/-! ## Whole patterns -/

/-- The reader that a whole pattern is read with. -/
def Reader.start : Reader := ⟨[], 0, [], [], [], none, []⟩

/-- A text that is read as a branch is, as a whole pattern, read as the same node. -/
theorem run_readWhole [CharacterNames] {text : Text} {node : Node} (branch : IsBranch text node) :
    (readWhole text).run .start = .ok (node, Reader.start.facing [] text.length) := by
  have branchRead : Reads (readAlternatives (4 * text.length + 16) true false) EndsBranches text
      node := by
    rw [readAlternatives]
    exact (reads_last_branch branch (by omega)).map Node.anyOf
  have whole := branchRead .start [] 0 fun _ impossible => by cases impossible
  rw [List.append_nil, Nat.zero_add] at whole
  rw [readWhole]
  refine (run_bind_of_ok (run_moveTo .start 0 branch.sound)).trans ?_
  refine (run_bind_of_ok whole).trans ?_
  exact run_bind_of_ok (run_get _)

theorem readIn_of_branch [CharacterNames] {text : Text} {node : Node} (branch : IsBranch text node)
    (fine : node.check false = .ok ()) (ignoreCase : Bool) :
    Pattern.readIn ignoreCase text = .ok ⟨node, ⟨ignoreCase, false, false, false⟩⟩ := by
  have whole := run_readWhole branch
  rw [Reader.start] at whole
  rw [Pattern.readIn, whole]
  exact congrArg (fun checked => checked >>= fun _ =>
    Except.ok (⟨node, ⟨ignoreCase, false, false, false⟩⟩ : Pattern)) fine

theorem check_ofList {template : Bool} {nodes : List Node}
    (fine : forall node, node ∈ nodes -> node.check template = .ok ()) :
    (Node.ofList nodes).check template = .ok () := by
  induction nodes with
  | nil => rfl
  | cons node nodes inductionHypothesis =>
      rw [List.forall_mem_cons] at fine
      cases nodes with
      | nil => exact fine.1
      | cons next rest =>
          rw [Node.ofList, Node.check, fine.1]
          · exact inductionHypothesis fine.2
          · exact List.cons_ne_nil _ _

theorem check_anyOf {template : Bool} {nodes : List Node}
    (fine : forall node, node ∈ nodes -> node.check template = .ok ()) :
    (Node.anyOf nodes).check template = .ok () := by
  induction nodes with
  | nil => rfl
  | cons node nodes inductionHypothesis =>
      rw [List.forall_mem_cons] at fine
      cases nodes with
      | nil => exact fine.1
      | cons next rest =>
          rw [Node.anyOf, Node.check, fine.1]
          · exact inductionHypothesis fine.2
          · exact List.cons_ne_nil _ _

end Pattern
end Switchboard
