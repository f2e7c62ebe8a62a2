import Mathlib.Data.List.Induction
import Mathlib.Data.List.DropRight
import Switchboard.Command.Arguments
import Switchboard.Proofs.Bounding

namespace Switchboard

open Text

/-!
# What an argument is depends on those before it

The option for the path takes the next argument as its value, whatever that is: the value may be
written like the option or like an option with a value of its own.  So an argument is a value
exactly if right before it stands the option and that is no value itself, and nothing short of the
whole run of options before an argument decides.

From this alone follows what a command line says.  Its words are the arguments that are neither
options nor values, in order; its path is that of the last option; and it breaks off exactly if the
argument behind its end would be a value, which is the case if an odd number of options stands at
its end.  Where no value is awaited the arguments fall into two parts that say nothing about each
other, so an option put there with its value adds no word and takes none away.
-/

namespace ClassifyRequest

/-- Whether the argument at a place is the value of the option right before it. -/
def isValueAt (arguments : List Text) : Nat -> Bool
  | 0 => false
  | place + 1 => arguments[place]? == some pathOption && !isValueAt arguments place

/-- Whether an argument is the option with its value behind an equals sign. -/
def isInlined (argument : Text) : Bool := startsWith (pathOption ++ ['=']) argument

/-- The argument at a place, if it is a word: neither an option nor the value of one. -/
def wordAt? (arguments : List Text) (place : Nat) : Option Text :=
  if isValueAt arguments place then none
  else arguments[place]?.filter fun argument => argument != pathOption && !isInlined argument

/-- The path of the option at a place, if there is an option: the next argument, or what stands
behind the first equals sign. -/
def pathAt? (arguments : List Text) (place : Nat) : Option Text :=
  if isValueAt arguments place then none
  else if arguments[place]? = some pathOption then arguments[place + 1]?
  else (arguments[place]?.filter isInlined).bind fun argument =>
    (cutAt? '=' argument).map (·.2)

/-- The words of arguments. -/
def wordsOf (arguments : List Text) : List Text :=
  (List.range arguments.length).filterMap (wordAt? arguments)

/-- The paths that options give. -/
def pathsOf (arguments : List Text) : List Text :=
  (List.range arguments.length).filterMap (pathAt? arguments)

/-- How often the option stands at the end of arguments, one time right behind the other. -/
def optionsAtEnd (arguments : List Text) : Nat :=
  (arguments.rtakeWhile (· == pathOption)).length

/-- An option with its value. -/
inductive IsOption : List Text -> Prop where
  | apart (path : Text) : IsOption [pathOption, path]
  | inlined (path : Text) : IsOption [pathOption ++ '=' :: path]

/-- What an argument gives inline stands behind its first equals sign. -/
theorem inlinePath?_eq (argument : Text) : inlinePath? argument =
    ((some argument).filter isInlined).bind fun argument => (cutAt? '=' argument).map (·.2) := by
  rw [Option.filter_some, isInlined, startsWith]
  cases given : dropLeading? (pathOption ++ ['=']) argument with
  | none => exact given
  | some path =>
      have parts : argument = pathOption ++ '=' :: path := by
        rw [dropLeading?_eq_some_iff.mp given, List.append_assoc]
        rfl
      have cut : cutAt? '=' argument = some (pathOption, path) :=
        cutAt?_eq_some_iff.mpr ⟨parts, by decide⟩
      simp only [Option.isSome_some, if_true, Option.bind_some, cut]
      exact given

/-! ## Arguments in two parts -/

section Parts

variable {front back : List Text}

theorem isValueAt_append_left {place : Nat} (inside : place <= front.length) :
    isValueAt (front ++ back) place = isValueAt front place := by
  induction place with
  | zero => rfl
  | succ place inductionHypothesis =>
      rw [isValueAt, isValueAt, List.getElem?_append_left inside,
        inductionHypothesis (Nat.le_of_succ_le inside)]

/-- What is picked from two parts is what is picked from each of them. -/
theorem filterMap_range_append {whole left right : Nat -> Option Text}
    (before : forall place, place < front.length -> whole place = left place)
    (behind : forall place, whole (front.length + place) = right place) :
    (List.range (front ++ back).length).filterMap whole =
      (List.range front.length).filterMap left ++ (List.range back.length).filterMap right := by
  rw [List.length_append, List.range_add, List.filterMap_append, List.filterMap_map]
  congr 1
  · exact List.filterMap_congr fun place member => before place (List.mem_range.mp member)
  · exact List.filterMap_congr fun place _ => behind place

variable (complete : isValueAt front front.length = false)

include complete

theorem isValueAt_append_right (place : Nat) :
    isValueAt (front ++ back) (front.length + place) = isValueAt back place := by
  induction place with
  | zero =>
      rw [Nat.add_zero, isValueAt_append_left (Nat.le_refl _), complete]
      rfl
  | succ place inductionHypothesis =>
      rw [← Nat.add_assoc, isValueAt, isValueAt, inductionHypothesis,
        List.getElem?_append_right (Nat.le_add_right _ _), Nat.add_sub_cancel_left]

theorem wordsOf_append : wordsOf (front ++ back) = wordsOf front ++ wordsOf back := by
  apply filterMap_range_append
  · intro place inside
    rw [wordAt?, wordAt?, isValueAt_append_left (Nat.le_of_lt inside),
      List.getElem?_append_left inside]
  · intro place
    rw [wordAt?, wordAt?, isValueAt_append_right complete,
      List.getElem?_append_right (Nat.le_add_right _ _), Nat.add_sub_cancel_left]

theorem pathsOf_append : pathsOf (front ++ back) = pathsOf front ++ pathsOf back := by
  apply filterMap_range_append
  · intro place inside
    rw [pathAt?, pathAt?, isValueAt_append_left (Nat.le_of_lt inside),
      List.getElem?_append_left inside]
    cases value : isValueAt front place with
    | true => rfl
    | false =>
        by_cases option : front[place]? = some pathOption
        · -- The first part does not end in an option that awaits its value.
          have further : place + 1 < front.length := by
            apply Nat.lt_of_le_of_ne inside
            intro last
            rw [← last, isValueAt, option, value] at complete
            exact absurd complete (by simp)
          rw [if_pos option, if_pos option, List.getElem?_append_left further]
        · rw [if_neg option, if_neg option]
  · intro place
    rw [pathAt?, pathAt?, isValueAt_append_right complete, Nat.add_assoc,
      List.getElem?_append_right (Nat.le_add_right _ _), Nat.add_sub_cancel_left,
      List.getElem?_append_right (Nat.le_add_right _ _), Nat.add_sub_cancel_left]

end Parts

/-! ## The whole of the arguments -/

theorem isValueAt_concat (arguments : List Text) (last : Text) :
    isValueAt (arguments ++ [last]) (arguments ++ [last]).length =
      (last == pathOption && !isValueAt arguments arguments.length) := by
  rw [List.length_append, List.length_singleton, isValueAt, List.getElem?_concat_length,
    isValueAt_append_left (Nat.le_refl _)]
  rfl

/-- A value is awaited behind the end exactly if an odd number of options stands there. -/
theorem isValueAt_length (arguments : List Text) :
    isValueAt arguments arguments.length = decide (optionsAtEnd arguments % 2 = 1) := by
  induction arguments using List.reverseRecOn with
  | nil => rfl
  | append_singleton arguments last inductionHypothesis =>
      rw [isValueAt_concat, inductionHypothesis]
      by_cases option : last = pathOption
      · have more : optionsAtEnd (arguments ++ [last]) = optionsAtEnd arguments + 1 := by
          rw [optionsAtEnd, List.rtakeWhile_concat, if_pos (beq_iff_eq.mpr option),
            List.length_append]
          rfl
        rw [more, option, beq_self_eq_true, Bool.true_and, ← decide_not]
        congr 1
        exact propext (by omega)
      · have none_left : optionsAtEnd (arguments ++ [last]) = 0 := by
          rw [optionsAtEnd, List.rtakeWhile_concat, if_neg (by simpa using option)]
          rfl
        rw [none_left, beq_eq_false_iff_ne.mpr option]
        rfl

/-! ## Reading -/

/-- What arguments say, given the path in front of them. -/
def saidBy (path : Option Text) (arguments : List Text) :
    Except ArgumentFault (Option Text × List Text) :=
  if isValueAt arguments arguments.length then .error .pathMissing
  else .ok ((pathsOf arguments).getLast?.or path, wordsOf arguments)

/-- Behind arguments that await no value the others are read as if they stood alone, with the path
that has been given last. -/
theorem saidBy_append {front : List Text} (complete : isValueAt front front.length = false)
    (path : Option Text) (back : List Text) :
    saidBy path (front ++ back) =
      (saidBy ((pathsOf front).getLast?.or path) back).map fun said =>
        (said.1, wordsOf front ++ said.2) := by
  rw [saidBy, saidBy, List.length_append, isValueAt_append_right complete, pathsOf_append complete,
    wordsOf_append complete, List.getLast?_append, Option.or_assoc]
  cases isValueAt back back.length <;> rfl

section Single

variable {argument : Text}

theorem isValueAt_single (notOption : argument ≠ pathOption) :
    isValueAt [argument] [argument].length = false := by
  have last := isValueAt_concat [] argument
  rw [beq_eq_false_iff_ne.mpr notOption] at last
  exact last

theorem wordsOf_single (notOption : argument ≠ pathOption) :
    wordsOf [argument] = if isInlined argument then [] else [argument] := by
  have here : wordAt? [argument] 0 = if isInlined argument then none else some argument := by
    rw [wordAt?]
    cases inlined : isInlined argument <;> simp [isValueAt, notOption, inlined]
  change [0].filterMap (wordAt? [argument]) = _
  cases inlined : isInlined argument <;> simp [here, inlined]

theorem pathsOf_single (notOption : argument ≠ pathOption) :
    pathsOf [argument] = (inlinePath? argument).toList := by
  have here : pathAt? [argument] 0 = inlinePath? argument := by
    rw [inlinePath?_eq, pathAt?]
    simp [isValueAt, notOption]
  change [0].filterMap (pathAt? [argument]) = _
  rw [← here]
  cases given : pathAt? [argument] 0 <;> simp [given]

end Single

theorem isValueAt_pair (value : Text) : isValueAt [pathOption, value] 2 = false := by
  have last := isValueAt_concat [pathOption] value
  have awaited : isValueAt [pathOption] [pathOption].length = true := rfl
  rw [awaited, Bool.not_true, Bool.and_false] at last
  exact last

theorem wordsOf_pair (value : Text) : wordsOf [pathOption, value] = [] := rfl

theorem pathsOf_pair (value : Text) : pathsOf [pathOption, value] = [value] := rfl

/-- An option with its value only sets the path. -/
theorem saidBy_option (path : Option Text) (next : Text) (rest : List Text) :
    saidBy path (pathOption :: next :: rest) = saidBy (some next) rest := by
  have parts := saidBy_append (isValueAt_pair next) path rest
  rw [pathsOf_pair, wordsOf_pair] at parts
  refine parts.trans ?_
  change (saidBy (some next) rest).map id = _
  rw [Except.map_id]
  rfl

section Argument

variable {argument : Text} (notOption : argument ≠ pathOption) (path : Option Text)
  (rest : List Text)

include notOption

theorem saidBy_inlined {inlined : Text} (given : inlinePath? argument = some inlined) :
    saidBy path (argument :: rest) = saidBy (some inlined) rest := by
  have isInline : isInlined argument = true := congrArg Option.isSome given
  have parts := saidBy_append (isValueAt_single notOption) path rest
  rw [pathsOf_single notOption, given, wordsOf_single notOption, if_pos isInline] at parts
  refine parts.trans ?_
  change (saidBy (some inlined) rest).map id = _
  rw [Except.map_id]
  rfl

theorem saidBy_word (absent : inlinePath? argument = none) :
    saidBy path (argument :: rest) =
      (saidBy path rest).map fun said => (said.1, argument :: said.2) := by
  have isWord : isInlined argument = false := congrArg Option.isSome absent
  have parts := saidBy_append (isValueAt_single notOption) path rest
  rw [pathsOf_single notOption, absent, wordsOf_single notOption, isWord] at parts
  exact parts

end Argument

/-- Reading arguments from front to back finds the words and the options by their places. -/
theorem read_eq (path : Option Text) (arguments : List Text) :
    read path arguments = saidBy path arguments := by
  fun_induction read path arguments with
  | case1 path => rfl
  | case2 path => rfl
  | case3 path argument notOption inlined given =>
      rw [saidBy_inlined notOption path [] given]
      rfl
  | case4 path argument notOption absent =>
      rw [saidBy_word notOption path [] absent]
      rfl
  | case5 path next rest inductionHypothesis => rw [saidBy_option, inductionHypothesis]
  | case6 path argument next rest notOption inlined given inductionHypothesis =>
      rw [saidBy_inlined notOption path _ given, inductionHypothesis]
  | case7 path argument next rest notOption absent fault failed inductionHypothesis =>
      rw [saidBy_word notOption path _ absent, ← inductionHypothesis, failed]
      rfl
  | case8 path argument next rest notOption absent last words returned inductionHypothesis =>
      rw [saidBy_word notOption path _ absent, ← inductionHypothesis, returned]
      rfl

theorem ofArguments_eq (arguments : List Text) :
    ofArguments arguments =
      if isValueAt arguments arguments.length then .error .pathMissing
      else .ok ⟨(pathsOf arguments).getLast?, joinWith [' '] (wordsOf arguments)⟩ := by
  rw [ofArguments, read_eq, saidBy, Option.or_none]
  cases isValueAt arguments arguments.length <;> rfl

theorem map_message_ofArguments (arguments : List Text) :
    (ofArguments arguments).map (·.message) =
      if isValueAt arguments arguments.length then .error .pathMissing
      else .ok (joinWith [' '] (wordsOf arguments)) := by
  rw [ofArguments_eq]
  cases isValueAt arguments arguments.length <;> rfl

/-! ## Options put in between -/

/-- An option with its value awaits no other one and holds no word. -/
theorem IsOption.complete {option : List Text} (given : IsOption option) :
    isValueAt option option.length = false ∧ wordsOf option = [] := by
  cases given with
  | apart path => exact ⟨isValueAt_pair path, wordsOf_pair path⟩
  | inlined path =>
      have other : pathOption ++ '=' :: path ≠ pathOption := by
        intro same
        exact List.cons_ne_nil _ _ (List.append_right_eq_self.mp same)
      have isInline : isInlined (pathOption ++ '=' :: path) = true :=
        (startsWith_iff _ _).mpr ⟨path, by rw [List.append_assoc]; rfl⟩
      exact ⟨isValueAt_single other, by rw [wordsOf_single other, if_pos isInline]⟩

theorem message_of_inserted {front option : List Text} (given : IsOption option)
    (complete : isValueAt front front.length = false) (back : List Text) :
    (ofArguments (front ++ option ++ back)).map (·.message) =
      (ofArguments (front ++ back)).map (·.message) := by
  have both : isValueAt (front ++ option) (front ++ option).length = false := by
    rw [List.length_append, isValueAt_append_right complete, given.complete.1]
  rw [map_message_ofArguments, map_message_ofArguments, wordsOf_append both, wordsOf_append complete,
    wordsOf_append complete, given.complete.2, List.append_nil, List.length_append,
    isValueAt_append_right both, List.length_append, isValueAt_append_right complete]

/-- Arguments break off exactly if an odd number of options stands at their end.  Otherwise the
message is made of the arguments that are neither options nor values of options, in their order, and
the path is that of the last option.  Wherever no value is awaited, an option put in with its value
leaves the message as it is. -/
theorem arguments_say_words_and_last_path (arguments : List Text) :
    (ofArguments arguments = if optionsAtEnd arguments % 2 = 1 then .error .pathMissing
      else .ok ⟨(pathsOf arguments).getLast?, joinWith [' '] (wordsOf arguments)⟩) ∧
    forall place, place <= arguments.length -> isValueAt arguments place = false ->
      forall option, IsOption option ->
        (ofArguments (arguments.take place ++ option ++ arguments.drop place)).map (·.message) =
          (ofArguments arguments).map (·.message) := by
  constructor
  · rw [ofArguments_eq, isValueAt_length]
    simp only [decide_eq_true_eq]
  · intro place inside noValue option given
    have complete : isValueAt (arguments.take place) (arguments.take place).length = false := by
      have parts := List.take_append_drop place arguments
      rw [← noValue, List.length_take_of_le inside]
      conv_rhs => rw [← parts]
      exact (isValueAt_append_left (by rw [List.length_take_of_le inside])).symm
    rw [message_of_inserted given complete, List.take_append_drop]

/-- An option whose value is written like the option, and one with two equals signs. -/
def trickyArguments : List Text :=
  ["--config", "--config", "hi", "--config=a=b", "there"].map ofString

/-- The value is no option, and an option that is put in behind the first word stays out of the
message although its value is written like an option. -/
theorem arguments_say_words_and_last_path_tricky :
    ofArguments trickyArguments = .ok ⟨some (ofString "a=b"), ofString "hi there"⟩ ∧
      (ofArguments (["--config", "--config", "hi", "--config", "--config=x", "--config=a=b",
        "there"].map ofString)).map (·.message) = .ok (ofString "hi there") ∧
      ofArguments (["hi", "--config", "--config", "--config"].map ofString) =
        .error .pathMissing := by
  have said := arguments_say_words_and_last_path trickyArguments
  have whole : ofArguments trickyArguments = .ok ⟨some (ofString "a=b"), ofString "hi there"⟩ :=
    said.1
  have inserted := said.2 3 (by decide) rfl _ (.apart (ofString "--config=x"))
  rw [whole] at inserted
  exact ⟨whole, inserted, (arguments_say_words_and_last_path _).1⟩

end ClassifyRequest
end Switchboard
