import Mathlib.Data.List.DropRight
import Switchboard.Text.Blank

namespace Switchboard
namespace Text

/-!
# Trimming takes off a border and nothing else

A trimmed text is the text without a border of dropped characters.  The laws here say that such a
border can be put on or taken off without changing what trimming gives, and that trimming one end
of a composed text stays inside the outer part as soon as that part survives it.

Everything is stated for an arbitrary class of dropped characters, because two classes are in use:
the blanks within a line that a removed tag takes with it, and all blanks at the ends of a message.
-/

variable (drop : Char -> Bool)

/-- A text is its end-trimmed form and a border. -/
theorem exists_trimEndOf_append (text : Text) :
    Exists fun border : Text =>
      text = trimEndOf drop text ++ border ∧ forall c, c ∈ border -> drop c = true :=
  ⟨text.rtakeWhile drop, List.rdropWhile_append_rtakeWhile.symm,
    fun _ member => List.mem_rtakeWhile_imp member⟩

/-- A text is a border and its start-trimmed form. -/
theorem exists_append_trimStartOf (text : Text) :
    Exists fun border : Text =>
      text = border ++ trimStartOf drop text ∧ forall c, c ∈ border -> drop c = true :=
  ⟨text.takeWhile drop, List.takeWhile_append_dropWhile.symm,
    fun _ member => List.mem_takeWhile_imp member⟩

variable {drop}

theorem trimEndOf_append_border (text : Text) {border : Text}
    (dropped : forall c, c ∈ border -> drop c = true) :
    trimEndOf drop (text ++ border) = trimEndOf drop text := by
  rw [trimEndOf, List.reverse_append, List.dropWhile_append_of_pos]
  · rfl
  · intro c member
    exact dropped c (List.mem_reverse.mp member)

theorem trimStartOf_border_append (text : Text) {border : Text}
    (dropped : forall c, c ∈ border -> drop c = true) :
    trimStartOf drop (border ++ text) = trimStartOf drop text :=
  List.dropWhile_append_of_pos dropped

theorem trimEndOf_eq_nil {border : Text} (dropped : forall c, c ∈ border -> drop c = true) :
    trimEndOf drop border = [] :=
  List.rdropWhile_eq_nil_iff.mpr dropped

theorem trimStartOf_eq_nil {border : Text} (dropped : forall c, c ∈ border -> drop c = true) :
    trimStartOf drop border = [] :=
  List.dropWhile_eq_nil_iff.mpr dropped

theorem forall_of_trimEndOf_eq_nil {text : Text} (empty : trimEndOf drop text = []) :
    forall c, c ∈ text -> drop c = true :=
  List.rdropWhile_eq_nil_iff.mp empty

theorem forall_of_trimStartOf_eq_nil {text : Text} (empty : trimStartOf drop text = []) :
    forall c, c ∈ text -> drop c = true :=
  List.dropWhile_eq_nil_iff.mp empty

/-- Trimming the end stays inside the right part, unless it consumes that part. -/
theorem trimEndOf_append_of_ne_nil (left : Text) {right : Text}
    (survives : trimEndOf drop right ≠ []) :
    trimEndOf drop (left ++ right) = left ++ trimEndOf drop right := by
  have survivesReversed : right.reverse.dropWhile drop ≠ [] := by
    intro empty
    exact survives (by rw [trimEndOf, empty]; rfl)
  rw [trimEndOf, List.reverse_append, List.dropWhile_append]
  rw [if_neg (by rw [List.isEmpty_iff]; exact survivesReversed)]
  rw [List.reverse_append, List.reverse_reverse]
  rfl

/-- Trimming the start stays inside the left part, unless it consumes that part. -/
theorem trimStartOf_append_of_ne_nil {left : Text} (right : Text)
    (survives : trimStartOf drop left ≠ []) :
    trimStartOf drop (left ++ right) = trimStartOf drop left ++ right := by
  rw [trimStartOf, List.dropWhile_append, if_neg (by rw [List.isEmpty_iff]; exact survives)]
  rfl

theorem trimEndOf_idem (text : Text) :
    trimEndOf drop (trimEndOf drop text) = trimEndOf drop text :=
  List.rdropWhile_idempotent drop text

theorem trimStartOf_idem (text : Text) :
    trimStartOf drop (trimStartOf drop text) = trimStartOf drop text :=
  List.dropWhile_idempotent drop text

/-- What is left of a text after its start is trimmed does not start with a dropped character. -/
theorem head?_trimStartOf (text : Text) :
    forall c, (trimStartOf drop text).head? = some c -> drop c = false := by
  intro c first
  have kept := List.head?_dropWhile_not drop text
  rw [trimStartOf] at first
  rw [first] at kept
  simpa using kept

/-- What is left of a text after its end is trimmed does not end with a dropped character. -/
theorem getLast?_trimEndOf (text : Text) :
    forall c, (trimEndOf drop text).getLast? = some c -> drop c = false := by
  intro c last
  apply head?_trimStartOf text.reverse c
  rwa [trimEndOf, List.getLast?_reverse] at last

/-- A text that trimming the end leaves as it is has no end that trimming changes. -/
theorem trimEndOf_suffix (front : Text) {back : Text}
    (kept : trimEndOf drop (front ++ back) = front ++ back) : trimEndOf drop back = back := by
  apply List.rdropWhile_eq_self_iff.mpr
  intro nonempty
  have last := List.rdropWhile_eq_self_iff.mp kept (List.append_ne_nil_of_right_ne_nil front nonempty)
  rwa [List.getLast_append_of_ne_nil _ nonempty] at last

/-- A text that trimming the start leaves as it is has no start that trimming changes. -/
theorem trimStartOf_prefix {front : Text} (back : Text)
    (kept : trimStartOf drop (front ++ back) = front ++ back) : trimStartOf drop front = front := by
  cases front with
  | nil => rfl
  | cons c front =>
      have head : (trimStartOf drop (c :: front ++ back)).head? = some c := by
        rw [kept]
        rfl
      have first := head?_trimStartOf (c :: front ++ back) c head
      exact List.dropWhile_cons_of_neg (by rw [first]; exact Bool.false_ne_true)

/-- Trimming the end of a text whose start is trimmed leaves its start trimmed. -/
theorem trimStartOf_trimEndOf {text : Text} (kept : trimStartOf drop text = text) :
    trimStartOf drop (trimEndOf drop text) = trimEndOf drop text := by
  rcases exists_trimEndOf_append drop text with ⟨border, parts, _⟩
  apply trimStartOf_prefix border
  rw [← parts]
  exact kept

section Borders

variable {Value : Type} (value : Text -> Value)

/-- What does not show a border before a text does not show that the start was trimmed. -/
theorem value_trimStartOf (hides : forall (text : Text) {border : Text},
    (forall c, c ∈ border -> drop c = true) -> value (border ++ text) = value text) (text : Text) :
    value (trimStartOf drop text) = value text := by
  rcases exists_append_trimStartOf drop text with ⟨border, parts, dropped⟩
  conv_rhs => rw [parts]
  exact (hides _ dropped).symm

/-- What does not show a border behind a text does not show that the end was trimmed. -/
theorem value_trimEndOf (hides : forall (text : Text) {border : Text},
    (forall c, c ∈ border -> drop c = true) -> value (text ++ border) = value text) (text : Text) :
    value (trimEndOf drop text) = value text := by
  rcases exists_trimEndOf_append drop text with ⟨border, parts, dropped⟩
  conv_rhs => rw [parts]
  exact (hides _ dropped).symm

/-- What shows blanks neither before nor behind a text does not show that it was trimmed. -/
theorem value_trim (hidesBefore : forall (text : Text) {border : Text},
      (forall c, c ∈ border -> isBlank c = true) -> value (border ++ text) = value text)
    (hidesBehind : forall (text : Text) {border : Text},
      (forall c, c ∈ border -> isBlank c = true) -> value (text ++ border) = value text)
    (text : Text) : value (trim text) = value text :=
  calc value (trim text) = value (trimStart text) := value_trimEndOf value hidesBehind (trimStart text)
    _ = value text := value_trimStartOf value hidesBefore text

end Borders

/-! ## Both ends -/

/-- A blank border before a text does not show once the text is trimmed. -/
theorem trim_border_append (text : Text) {border : Text}
    (blank : forall c, c ∈ border -> isBlank c = true) : trim (border ++ text) = trim text := by
  rw [trim, trimStart, trimStartOf_border_append text blank]
  rfl

/-- A blank border behind a text does not show once the text is trimmed. -/
theorem trim_append_border (text : Text) {border : Text}
    (blank : forall c, c ∈ border -> isBlank c = true) : trim (text ++ border) = trim text := by
  by_cases empty : trimStartOf isBlank text = []
  · have allBlank : forall c, c ∈ text ++ border -> isBlank c = true := by
      intro c member
      rcases List.mem_append.mp member with inside | outside
      · exact forall_of_trimStartOf_eq_nil empty c inside
      · exact blank c outside
    rw [trim, trim, trimStart, trimStart, trimStartOf_eq_nil allBlank, empty]
  · rw [trim, trimStart, trimStartOf_append_of_ne_nil border empty, trimEnd,
      trimEndOf_append_border _ blank]
    rfl

theorem trim_trim (text : Text) : trim (trim text) = trim text :=
  value_trim trim trim_border_append trim_append_border text

/-- A trimmed text does not start with a blank. -/
theorem head?_trim (text : Text) : forall c, (trim text).head? = some c -> isBlank c = false := by
  have kept : trimStart (trim text) = trim text := trimStartOf_trimEndOf (trimStartOf_idem text)
  rw [← kept]
  exact head?_trimStartOf (trim text)

/-- A trimmed text does not end with a blank. -/
theorem getLast?_trim (text : Text) :
    forall c, (trim text).getLast? = some c -> isBlank c = false :=
  getLast?_trimEndOf (trimStart text)

/-- A text with no blank at its ends is trimmed. -/
theorem trim_eq_self {text : Text} (start : forall c, text.head? = some c -> isBlank c = false)
    (stop : forall c, text.getLast? = some c -> isBlank c = false) : trim text = text := by
  have startKept : trimStart text = text := by
    cases text with
    | nil => rfl
    | cons c rest => exact List.dropWhile_cons_of_neg (by rw [start c rfl]; exact Bool.false_ne_true)
  rw [trim, startKept]
  apply List.rdropWhile_eq_self_iff.mpr
  intro nonempty
  rw [stop _ (List.getLast?_eq_some_getLast nonempty)]
  exact Bool.false_ne_true

/-- A line blank is a blank. -/
theorem isBlank_of_isLineBlank {c : Char} (lineBlank : isLineBlank c = true) :
    isBlank c = true := by
  rcases Bool.or_eq_true_iff.mp lineBlank with space | tab
  · rw [eq_of_beq space]
    rfl
  · rw [eq_of_beq tab]
    rfl

theorem isLineBlank_of_isBlank_eq_false {c : Char} (filled : isBlank c = false) :
    isLineBlank c = false := by
  cases lineBlank : isLineBlank c with
  | false => rfl
  | true =>
      rw [isBlank_of_isLineBlank lineBlank] at filled
      cases filled

theorem isBlankText_iff (text : Text) : isBlankText text = true ↔ forall c, c ∈ text -> isBlank c = true :=
  List.all_eq_true

end Text
end Switchboard
