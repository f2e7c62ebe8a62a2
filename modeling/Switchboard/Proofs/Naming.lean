import Switchboard.Files.Path

namespace Switchboard

open Text

/-!
# Paths and their texts

The text of a path is read as that path again.  A path that has been read has only names that count,
and a name never holds a slash, so the slashes of the text are the ones that it was written with:
those of its start, and one between neighbours.  That a name is not empty keeps the slashes of the
start apart from those in between.
-/

namespace Text

/-! ## Parts between slashes -/

theorem splitOn_eq (separator : Char) (text : Text) :
    splitOn separator text = List.splitOn separator text := by
  induction text with
  | nil => rfl
  | cons c text ih =>
      rw [splitOn, List.splitOn_cons_eq_if_modifyHead, ih]
      simp only [beq_iff_eq]
      split
      · rfl
      · cases parts : List.splitOn separator text with
        | nil => exact absurd parts (List.splitOn_ne_nil separator text)
        | cons part parts => rfl

theorem joinWith_eq (separator : Text) (parts : List Text) :
    joinWith separator parts = separator.intercalate parts := by
  fun_induction joinWith separator parts with
  | case1 => rfl
  | case2 part => exact (List.append_nil part).symm
  | case3 part parts several ih =>
      cases parts with
      | nil => exact absurd rfl several
      | cons next rest => rw [ih, List.append_assoc]; rfl

/-- The parts that a text is joined of are those between the separators, if none of them holds
one. -/
theorem splitOn_joinWith {separator : Char} {parts : List Text} (nonempty : parts ≠ [])
    (whole : forall part, part ∈ parts -> separator ∉ part) :
    splitOn separator (joinWith [separator] parts) = parts := by
  rw [splitOn_eq, joinWith_eq]
  exact List.splitOn_intercalate separator whole nonempty

theorem not_mem_of_mem_splitOn {separator : Char} {part text : Text}
    (member : part ∈ splitOn separator text) : separator ∉ part := by
  induction text generalizing part with
  | nil =>
      rw [List.mem_singleton.mp member]
      exact List.not_mem_nil
  | cons c text ih =>
      rw [splitOn] at member
      split at member
      · rcases List.mem_cons.mp member with empty | later
        · rw [empty]
          exact List.not_mem_nil
        · exact ih later
      · rename_i other
        split at member
        · rw [List.mem_singleton.mp member]
          exact fun same => other (List.mem_singleton.mp same).symm
        · rename_i first rest parts
          rcases List.mem_cons.mp member with extended | later
          · rw [extended]
            intro inside
            rcases List.mem_cons.mp inside with same | inside
            · exact other same.symm
            · exact ih (parts ▸ List.mem_cons_self) inside
          · exact ih (parts ▸ List.mem_cons_of_mem first later)

end Text

namespace Path

/-- A path as it is read from a text: every name counts, and none holds a slash. -/
structure IsNormal (path : Path) : Prop where
  counted : forall name, name ∈ path.names -> counts name = true
  whole : forall name, name ∈ path.names -> '/' ∉ name

theorem isNormal_ofText (text : Text) : (ofText text).IsNormal where
  counted := fun _ member => (List.mem_filter.mp member).2
  whole := fun _ member => not_mem_of_mem_splitOn (List.mem_filter.mp member).1

theorem ne_nil_of_counts {name : Text} (counted : counts name = true) : name ≠ [] := by
  rintro rfl
  cases counted

/-! ## The names as they are written -/

/-- The names of a path, as they are written behind its start. -/
def body (path : Path) : Text := joinWith ['/'] path.names

/-- The text of a path is that of its start and its names, unless it has neither. -/
theorem eq_here_or_text_eq (path : Path) :
    path = ⟨.here, []⟩ ∨
      (path.start = .here -> path.names ≠ []) ∧ path.text = startText path.start ++ path.body := by
  rcases path with ⟨start, names⟩
  cases start with
  | here =>
      cases names with
      | nil => exact Or.inl rfl
      | cons name names => exact Or.inr ⟨fun _ => List.cons_ne_nil _ _, rfl⟩
  | root => exact Or.inr ⟨nofun, rfl⟩
  | doubleRoot => exact Or.inr ⟨nofun, rfl⟩

namespace IsNormal

variable {path : Path}

/-- The first name begins with a character that is no slash. -/
theorem exists_cons_body (normal : path.IsNormal) (named : path.names ≠ []) :
    Exists fun c : Char => Exists fun rest : Text => path.body = c :: rest ∧ c ≠ '/' := by
  rcases path with ⟨start, names⟩
  cases names with
  | nil => exact absurd rfl named
  | cons name names =>
      have counted := normal.counted name List.mem_cons_self
      have whole := normal.whole name List.mem_cons_self
      cases name with
      | nil => exact absurd rfl (ne_nil_of_counts counted)
      | cons c name =>
          refine ⟨c, ?_⟩
          have apart : c ≠ '/' := fun same => whole (same ▸ List.mem_cons_self)
          cases names with
          | nil => exact ⟨name, rfl, apart⟩
          | cons next names => exact ⟨_, rfl, apart⟩

theorem takeWhile_body (normal : path.IsNormal) : path.body.takeWhile (· == '/') = [] := by
  by_cases named : path.names = []
  · rw [body, named]
    rfl
  · rcases normal.exists_cons_body named with ⟨c, rest, written, apart⟩
    rw [written]
    exact List.takeWhile_cons_of_neg (by simpa using apart)

/-- The parts between the slashes of the names as they are written are the names. -/
theorem filter_splitOn_body (normal : path.IsNormal) :
    (splitOn '/' path.body).filter counts = path.names := by
  by_cases named : path.names = []
  · rw [body, named]
    rfl
  · rw [body, splitOn_joinWith named normal.whole]
    exact List.filter_eq_self.mpr normal.counted

end IsNormal

/-! ## Reading the text of a path -/

/-- The slashes of a start give nothing but empty parts, which do not count. -/
theorem filter_splitOn_startText_append (start : PathStart) (text : Text) :
    (splitOn '/' (startText start ++ text)).filter counts = (splitOn '/' text).filter counts := by
  cases start <;> rfl

theorem startOf_startText_append (start : PathStart) {text : Text}
    (apart : text.takeWhile (· == '/') = []) : startOf (startText start ++ text) = start := by
  cases start <;> simp [startOf, startText, apart]

/-- The text of a path is read as the path. -/
theorem ofText_text {path : Path} (normal : path.IsNormal) : ofText path.text = path := by
  rcases eq_here_or_text_eq path with nowhere | ⟨_, written⟩
  · rw [nowhere]
    rfl
  · -- The names as written begin with no slash, so those in front are all of the start.
    rw [written, ofText, startOf_startText_append path.start normal.takeWhile_body,
      filter_splitOn_startText_append, normal.filter_splitOn_body]

end Path
end Switchboard
