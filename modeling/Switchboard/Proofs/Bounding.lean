import Switchboard.Rule.Test

namespace Switchboard

open Text

/-!
# Where phrases occur

Tests look for phrases at the start of a message, anywhere in it, and bounded by characters that
belong to no word.  The first two are the prefix and infix relations of lists.  Bounded phrases are
searched for by a pattern with a condition on either side and the phrases as alternatives between.

The matcher runs a node together with what follows it and takes the first alternative from which the
rest succeeds.  So a phrase that starts at the same place and fails the condition behind it hides no
other one: the pattern is found exactly if one of the phrases occurs bounded, in whatever order they
are tried.
-/

namespace Text

theorem dropLeading?_eq_some_iff {beginning text rest : Text} :
    dropLeading? beginning text = some rest ↔ text = beginning ++ rest := by
  induction beginning generalizing text with
  | nil => simp [dropLeading?]
  | cons b beginning ih =>
      cases text with
      | nil => simp [dropLeading?]
      | cons c text =>
          by_cases same : b = c
          · simp [dropLeading?, same, ih]
          · simp [dropLeading?, same, Ne.symm same]

theorem startsWith_iff (beginning text : Text) :
    startsWith beginning text = true ↔ beginning <+: text := by
  rw [startsWith, Option.isSome_iff_exists]
  constructor
  · rintro ⟨rest, found⟩
    exact ⟨rest, (dropLeading?_eq_some_iff.mp found).symm⟩
  · rintro ⟨rest, same⟩
    exact ⟨rest, dropLeading?_eq_some_iff.mpr same.symm⟩

theorem includes_iff (needle text : Text) : includes needle text = true ↔ needle <:+: text := by
  induction text with
  | nil => simp [includes, startsWith_iff]
  | cons c text ih =>
      rw [includes, Bool.or_eq_true, startsWith_iff, ih, List.infix_cons_iff]

theorem cutAt?_eq_none_iff {separator : Char} {text : Text} :
    cutAt? separator text = none ↔ separator ∉ text := by
  induction text with
  | nil => exact iff_of_true rfl List.not_mem_nil
  | cons c text inductionHypothesis =>
      rw [cutAt?, List.mem_cons, not_or]
      by_cases here : c = separator
      · rw [if_pos here]
        exact iff_of_false (Option.some_ne_none _) fun absent => absent.1 here.symm
      · rw [if_neg here, Option.map_eq_none_iff, inductionHypothesis]
        exact ⟨fun behind => ⟨Ne.symm here, behind⟩, fun absent => absent.2⟩

/-- A text is cut where the separator stands for the first time. -/
theorem cutAt?_eq_some_iff {separator : Char} {text front back : Text} :
    cutAt? separator text = some (front, back) ↔
      text = front ++ separator :: back ∧ separator ∉ front := by
  induction text generalizing front back with
  | nil => simp [cutAt?]
  | cons c text inductionHypothesis =>
      rw [cutAt?]
      by_cases here : c = separator
      · rw [if_pos here, Option.some_inj, Prod.mk.injEq]
        cases front with
        | nil => simp [here]
        | cons d front =>
            refine iff_of_false (fun same => List.cons_ne_nil d front same.1.symm) ?_
            rintro ⟨parts, absent⟩
            have first : c = d := (List.cons.inj parts).1
            exact absent (by rw [← here, first]; exact List.mem_cons_self)
      · rw [if_neg here, Option.map_eq_some_iff]
        constructor
        · rintro ⟨⟨before, after⟩, cut, same⟩
          rcases Prod.mk.inj same with ⟨sameFront, sameBack⟩
          rcases inductionHypothesis.mp cut with ⟨parts, absent⟩
          rw [← sameFront, ← sameBack, parts]
          refine ⟨rfl, fun member => ?_⟩
          rcases List.mem_cons.mp member with first | later
          · exact here first.symm
          · exact absent later
        · rintro ⟨parts, absent⟩
          cases front with
          | nil => exact absurd (List.cons.inj parts).1 here
          | cons d front =>
              rcases List.cons.inj parts with ⟨first, rest⟩
              refine ⟨(front, back), inductionHypothesis.mpr ⟨rest, ?_⟩, by rw [first]⟩
              exact fun member => absent (List.mem_cons_of_mem d member)

/-- A phrase occurs with no word character right before it and none right after it. -/
def IsBoundedIn (phrase text : Text) : Prop :=
  Exists fun before : Text => Exists fun after : Text =>
    text = before ++ phrase ++ after ∧ before.getLast?.any isWord = false ∧
      after.head?.any isWord = false

end Text

namespace Pattern

/-- A node is found exactly if it matches behind some beginning of the text. -/
theorem findFrom_iff (node : Node) (mode : Mode) (before : Text) (position : Nat) (text : Text) :
    node.findFrom mode before position text = true ↔
      Exists fun front : Text => Exists fun back : Text => text = front ++ back ∧
        (node.run mode ⟨front.reverse ++ before, back, position + front.length, []⟩ some).isSome =
          true := by
  induction text generalizing before position with
  | nil =>
      unfold Node.findFrom
      constructor
      · intro found
        exact ⟨[], [], rfl, found⟩
      · rintro ⟨front, back, parts, found⟩
        rcases List.append_eq_nil_iff.mp parts.symm with ⟨noFront, noBack⟩
        subst noFront noBack
        exact found
  | cons c text ih =>
      unfold Node.findFrom
      rw [Bool.or_eq_true, ih]
      constructor
      · rintro (here | ⟨front, back, parts, found⟩)
        · exact ⟨[], c :: text, rfl, here⟩
        · refine ⟨c :: front, back, by rw [parts]; rfl, ?_⟩
          simpa [Nat.add_assoc, Nat.add_comm 1] using found
      · rintro ⟨front, back, parts, found⟩
        cases front with
        | nil =>
            left
            rw [List.nil_append] at parts
            rw [parts]
            exact found
        | cons d front =>
            rw [List.cons_append] at parts
            injection parts with same rest
            subst same
            right
            refine ⟨front, back, rest, ?_⟩
            simpa [Nat.add_assoc, Nat.add_comm 1] using found

/-! ## Phrases -/

theorem run_ofList_cons (node : Node) (nodes : List Node) (mode : Mode) (place : Place)
    (next : Next) :
    (Node.ofList (node :: nodes)).run mode place next =
      node.run mode place fun middle => (Node.ofList nodes).run mode middle next := by
  cases nodes <;> rfl

/-- The alternatives are tried in order, each with what follows. -/
theorem run_anyOf {nodes : List Node} (some_node : nodes ≠ []) (mode : Mode) (place : Place)
    (next : Next) :
    (Node.anyOf nodes).run mode place next =
      nodes.findSome? fun node => node.run mode place next := by
  induction nodes with
  | nil => exact absurd rfl some_node
  | cons node nodes ih =>
      cases nodes with
      | nil =>
          rw [List.findSome?_singleton]
          rfl
      | cons second rest =>
          have others := ih (List.cons_ne_nil second rest)
          have first : (Node.anyOf (node :: second :: rest)).run mode place next =
              (node.alt (Node.anyOf (second :: rest))).run mode place next := rfl
          rw [first, Node.run]
          simp only [others, List.findSome?_cons]
          cases node.run mode place next <;> rfl

/-- A phrase matches what it spells. -/
theorem run_phrase {mode : Mode} (exact_case : mode.ignoreCase = false) (phrase : Text)
    (place : Place) (next : Next) :
    (Node.phrase phrase).run mode place next =
      (dropLeading? phrase place.after).bind fun rest =>
        next ⟨phrase.reverse ++ place.before, rest, place.position + phrase.length,
          place.marks⟩ := by
  induction phrase generalizing place with
  | nil => rfl
  | cons c phrase ih =>
      have tail : forall middle : Place,
          (Node.ofList (phrase.map fun c => Node.char c.toNat false)).run mode middle next =
            (Node.phrase phrase).run mode middle next := fun _ => rfl
      rw [Node.phrase, List.map_cons, run_ofList_cons]
      simp only [tail, ih, Node.run, Place.forward?]
      cases after : place.after with
      | nil => rfl
      | cons d rest =>
          by_cases same : c = d
          · subst same
            have spelled : mode.same c.toNat c = true := by simp [Mode.same, exact_case]
            simp [spelled, dropLeading?, Nat.add_assoc, Nat.add_comm 1]
          · have other : mode.same c.toNat d = false := by
              have different : d.toNat ≠ c.toNat := by
                intro equal
                exact same (Char.toNat_inj.mp equal.symm)
              simp [Mode.same, exact_case, different]
            simp [other, dropLeading?, same]

/-! ## Conditions on either side -/

/-- The mode in which bounded phrases are searched for. -/
def exactMode : Mode := ⟨false, false, false, false⟩

theorem run_wordChar (place : Place) :
    (Node.wordChar.run exactMode place some).isSome = place.after.head?.any isWord := by
  unfold Node.wordChar
  simp only [Node.run, Place.forward?]
  cases place.after with
  | nil => rfl
  | cons c rest =>
      have member : exactMode.inSet [.cls .word false] false c = isWord c := by
        simp [Mode.inSet, Mode.holds, Mode.inClass, exactMode]
      simp only [member, List.head?_cons, Option.any_some]
      cases isWord c <;> rfl

theorem assertion_not (found : Option Place) (place : Place) (next : Next) :
    Matcher.assertion true found place next = if found.isSome then none else next place := by
  cases found <;> rfl

theorem run_not_ahead (place : Place) (next : Next) :
    (Node.ahead true .wordChar).run exactMode place next =
      if place.after.head?.any isWord then none else next place := by
  simp only [Node.run, assertion_not, run_wordChar]

theorem run_not_behind {place : Place} (counted : place.position = place.before.length)
    (next : Next) :
    (Node.behind true .one .wordChar).run exactMode place next =
      if place.before.head?.any isWord then none else next place := by
  simp only [Node.run, assertion_not, Width.one]
  cases before : place.before with
  | nil =>
      have first : place.back? 1 = none := by simp [Place.back?, counted, before]
      rw [first]
      rfl
  | cons c rest =>
      have back : place.back? 1 = some { place with
          before := rest, after := c :: place.after, position := place.position - 1 } := by
        simp [Place.back?, counted, before]
      rw [back, Option.bind_some, run_wordChar]
      rfl

/-- The pattern of bounded phrases matches at a place exactly if one of them goes on from there and
both conditions hold. -/
theorem run_bounded {phrases : List Text} (some_phrase : phrases ≠ []) {place : Place}
    (counted : place.position = place.before.length) :
    ((Node.bounded phrases).run exactMode place some).isSome = true ↔
      place.before.head?.any isWord = false ∧ Exists fun phrase : Text => phrase ∈ phrases ∧
        Exists fun rest : Text => place.after = phrase ++ rest ∧
          rest.head?.any isWord = false := by
  have some_node : phrases.map Node.phrase ≠ [] := by simpa using some_phrase
  have matched : (Node.bounded phrases).run exactMode place some =
      if place.before.head?.any isWord then none
      else phrases.findSome? fun phrase => (dropLeading? phrase place.after).bind fun rest =>
        if rest.head?.any isWord then none
        else some ⟨phrase.reverse ++ place.before, rest, place.position + phrase.length,
          place.marks⟩ := by
    have parts : (Node.bounded phrases).run exactMode place some =
        (Node.behind true .one .wordChar).run exactMode place fun middle =>
          (Node.anyOf (phrases.map Node.phrase)).run exactMode middle fun last =>
            (Node.ahead true .wordChar).run exactMode last some := rfl
    rw [parts, run_not_behind counted]
    have exact_case : exactMode.ignoreCase = false := rfl
    simp only [run_anyOf some_node, List.findSome?_map, Function.comp_def, run_phrase exact_case,
      run_not_ahead]
  rw [matched]
  cases place.before.head?.any isWord with
  | true => simp
  | false =>
      simp only [Bool.false_eq_true, if_false, List.findSome?_isSome_iff, true_and]
      constructor
      · rintro ⟨phrase, member, found⟩
        cases left : dropLeading? phrase place.after with
        | none =>
            rw [left] at found
            cases found
        | some rest =>
            rw [left, Option.bind_some] at found
            refine ⟨phrase, member, rest, dropLeading?_eq_some_iff.mp left, ?_⟩
            cases word : rest.head?.any isWord with
            | false => rfl
            | true =>
                rw [word] at found
                cases found
      · rintro ⟨phrase, member, rest, parts, free⟩
        refine ⟨phrase, member, ?_⟩
        rw [dropLeading?_eq_some_iff.mpr parts, Option.bind_some, free]
        rfl

end Pattern

/-- A pattern matches in a text right behind a beginning of it. -/
def Pattern.MatchesBehind (pattern : Pattern) (front back : Text) : Prop :=
  (pattern.node.run pattern.mode ⟨front.reverse, back, front.length, []⟩ some).isSome = true

theorem isFoundIn_iff_matchesBehind (pattern : Pattern) (text : Text) :
    pattern.isFoundIn text = true ↔ Exists fun front : Text => Exists fun back : Text =>
      text = front ++ back ∧ pattern.MatchesBehind front back := by
  simpa [Pattern.isFoundIn, Pattern.MatchesBehind] using
    Pattern.findFrom_iff pattern.node pattern.mode [] 0 text

/-- At each place the pattern of bounded phrases matches exactly if one of them goes on from there,
bounded on both sides. -/
theorem matchesBehind_boundedPattern_iff {phrases : List Text} (some_phrase : phrases ≠ [])
    (front back : Text) :
    (boundedPattern phrases).MatchesBehind front back ↔ front.getLast?.any isWord = false ∧
      Exists fun phrase : Text => phrase ∈ phrases ∧ Exists fun rest : Text =>
        back = phrase ++ rest ∧ rest.head?.any isWord = false := by
  have place : front.reverse.head? = front.getLast? := List.head?_reverse
  rw [← place]
  exact Pattern.run_bounded some_phrase List.length_reverse.symm

/-- The pattern of bounded phrases is found exactly if one of the phrases occurs bounded. -/
theorem isFoundIn_boundedPattern_iff {phrases : List Text} (some_phrase : phrases ≠ [])
    (text : Text) :
    (boundedPattern phrases).isFoundIn text = true ↔
      Exists fun phrase : Text => phrase ∈ phrases ∧ IsBoundedIn phrase text := by
  rw [isFoundIn_iff_matchesBehind]
  simp only [matchesBehind_boundedPattern_iff some_phrase]
  constructor
  · rintro ⟨front, _, parts, free, phrase, member, rest, rfl, freeBehind⟩
    exact ⟨phrase, member, front, rest, by rw [parts, List.append_assoc], free, freeBehind⟩
  · rintro ⟨phrase, member, before, after, parts, free, freeBehind⟩
    exact ⟨before, phrase ++ after, by rw [parts, List.append_assoc], free, phrase, member, after, rfl,
      freeBehind⟩

end Switchboard
