import Switchboard.Proofs.Chains
import Switchboard.Proofs.Trimming
import Switchboard.Tag.Removal

namespace Switchboard
namespace Tag

open Text

/-!
# The layout of a text around its free chains

A layout shows a text as the pieces that lie between its free chains, together with the words of
the chains.  Every text has one, it is computed from left to right, and its pieces hold no free
chain of their own.

Two lists of spans are read off a layout: the first tags of the chains, which is what one search
finds, and the whole chains.  Removing either list joins the same pieces, except that after the
removal of the first tags alone the tags behind them still stand in front of their pieces.

Blanks cut layouts apart: no tag extends over a blank and no blank glues, so the layout of a text is
put together from the layouts on both sides of any blank in it.
-/

/-- The pieces of a text between free chains. -/
inductive Layout where
  /-- A text without a free chain. -/
  | plain (text : Text)
  /-- A piece without a free chain, a free chain, and the layout of the text behind it. -/
  | cut (head first : Text) (more : List Text) (behind : Layout)

namespace Layout

/-- The text that is laid out. -/
def text : Layout -> Text
  | plain text => text
  | cut head first more behind => head ++ (tagged first ++ (taggedAll more ++ behind.text))

/-- The piece before the first chain. -/
def head : Layout -> Text
  | plain text => text
  | cut head _ _ _ => head

/-- The pieces between the chains. -/
def pieces : Layout -> List Text
  | plain text => [text]
  | cut head _ _ behind => head :: behind.pieces

/-- The words of the chains. -/
def chains : Layout -> List (List Text)
  | plain _ => []
  | cut _ first more behind => (first :: more) :: behind.chains

/-- A text put in front of the first piece. -/
def prepend (front : Text) : Layout -> Layout
  | plain text => plain (front ++ text)
  | cut head first more behind => cut (front ++ head) first more behind

/-- Two layouts, the last piece of one running on into the first piece of the other. -/
def append : Layout -> Layout -> Layout
  | plain text, right => right.prepend text
  | cut head first more behind, right => cut head first more (behind.append right)

end Layout

/-- The layout of a text, given whether the character before it glues. -/
def layout (glued : Bool) : Text -> Layout
  | [] => .plain []
  | c :: text =>
      match if glued then none else read? (c :: text) with
      | none => (layout (glues c) text).prepend [c]
      | some first =>
          let behind := (c :: text).drop (width first)
          .cut [] first (run behind) (layout true (behind.drop (taggedAll (run behind)).length))
termination_by text => text.length
decreasing_by
  · exact Nat.lt_succ_self _
  · simp only [width, List.length_drop, List.length_cons]
    omega

/-! ## Going through a text by its chains -/

theorem layout_nil (glued : Bool) : layout glued [] = .plain [] := by
  rw [layout]

theorem layout_keep {glued : Bool} {c : Char} {text : Text}
    (kept : (if glued then none else read? (c :: text)) = none) :
    layout glued (c :: text) = (layout (glues c) text).prepend [c] := by
  rw [layout, kept]

/-- Whether a character that glues stands in front of a text matters only to a tag at its start. -/
theorem layout_true_of_absent {text : Text} (absent : read? text = none) :
    layout true text = layout false text := by
  cases text with
  | nil => rw [layout_nil, layout_nil]
  | cons c text =>
      have keptGlued : layout true (c :: text) = (layout (glues c) text).prepend [c] := layout_keep rfl
      have keptFree : layout false (c :: text) = (layout (glues c) text).prepend [c] :=
        layout_keep absent
      rw [keptGlued, keptFree]

theorem layout_chain {first : Text} {more : List Text} {rest : Text} (isWord : IsTagWord first)
    (areWords : forall w, w ∈ more -> IsTagWord w) (absent : read? rest = none) :
    layout false (tagged first ++ (taggedAll more ++ rest)) =
      .cut [] first more (layout true rest) := by
  have found := read?_tagged_append isWord (taggedAll more ++ rest)
  have behind : (tagged first ++ (taggedAll more ++ rest)).drop (width first) =
      taggedAll more ++ rest := by
    rw [← length_tagged, List.drop_left]
  cases parts : tagged first ++ (taggedAll more ++ rest) with
  | nil => cases parts
  | cons c text =>
      rw [parts] at found behind
      rw [layout, if_neg Bool.false_ne_true, found]
      simp only [behind, run_taggedAll_append areWords absent, List.drop_left]

/-- A text is empty, starts with a character that no free chain starts at, or starts with a free
chain. -/
theorem chain_induction {motive : Bool -> Text -> Prop} (nil : forall glued, motive glued [])
    (keep : forall glued c text, (if glued then none else read? (c :: text)) = none ->
      motive (glues c) text -> motive glued (c :: text))
    (chain : forall first more rest, IsTagWord first -> (forall w, w ∈ more -> IsTagWord w) ->
      read? rest = none -> motive true rest ->
        motive false (tagged first ++ (taggedAll more ++ rest)))
    (glued : Bool) (text : Text) : motive glued text := by
  induction size : text.length using Nat.strong_induction_on generalizing glued text with
  | _ size inductionHypothesis =>
    cases text with
    | nil => exact nil glued
    | cons c text =>
        cases found : if glued then none else read? (c :: text) with
        | none =>
            refine keep glued c text found (inductionHypothesis text.length ?_ _ text rfl)
            rw [← size]
            exact Nat.lt_succ_self _
        | some first =>
            cases glued with
            | true => cases found
            | false =>
                rcases read?_eq_some_iff.1 found with ⟨isWord, behind, parts⟩
                rcases exists_eq_taggedAll_run_append behind with ⟨rest, behindParts, absent⟩
                rw [parts, behindParts]
                refine chain first (run behind) rest isWord (fun _ => isTagWord_of_mem_adjacent) absent
                  (inductionHypothesis rest.length ?_ true rest rfl)
                rw [← size, parts, behindParts, List.length_append, length_tagged,
                  List.length_append, width]
                omega

namespace Layout

theorem text_prepend (front : Text) (l : Layout) : (l.prepend front).text = front ++ l.text := by
  cases l with
  | plain text => rfl
  | cut head first more behind => exact List.append_assoc _ _ _

end Layout

theorem text_layout (glued : Bool) (text : Text) : (layout glued text).text = text := by
  induction glued, text using chain_induction with
  | nil glued =>
      rw [layout_nil]
      rfl
  | keep glued c text kept inductionHypothesis =>
      rw [layout_keep kept, Layout.text_prepend, inductionHypothesis]
      rfl
  | chain first more rest isWord areWords absent inductionHypothesis =>
      rw [layout_chain isWord areWords absent, Layout.text, inductionHypothesis]
      rfl

/-- A layout without a chain is the text alone. -/
theorem eq_of_layout_plain {glued : Bool} {text piece : Text}
    (parts : layout glued text = .plain piece) : piece = text := by
  have whole := text_layout glued text
  rw [parts] at whole
  exact whole

/-! ## Blanks cut layouts apart -/

namespace Layout

theorem prepend_nil (l : Layout) : l.prepend [] = l := by
  cases l <;> rfl

theorem prepend_prepend (first second : Text) (l : Layout) :
    (l.prepend second).prepend first = l.prepend (first ++ second) := by
  cases l with
  | plain text => exact congrArg plain (List.append_assoc first second text).symm
  | cut head word more behind =>
      exact congrArg (cut · word more behind) (List.append_assoc first second head).symm

theorem append_plain_nil (l : Layout) : l.append (plain []) = l := by
  induction l with
  | plain text => exact congrArg plain (List.append_nil text)
  | cut head word more behind inductionHypothesis =>
      exact congrArg (cut head word more) inductionHypothesis

theorem plain_append (text : Text) (right : Layout) : (plain text).append right = right.prepend text :=
  rfl

theorem prepend_append (front : Text) (left right : Layout) :
    (left.append right).prepend front = (left.prepend front).append right := by
  cases left with
  | plain text => exact prepend_prepend front text right
  | cut head word more behind => rfl

theorem append_assoc (left middle right : Layout) :
    (left.append middle).append right = left.append (middle.append right) := by
  induction left with
  | plain text => exact (prepend_append text middle right).symm
  | cut head word more behind inductionHypothesis =>
      exact congrArg (cut head word more) inductionHypothesis

end Layout

theorem layout_blank_cons (glued : Bool) {c : Char} (text : Text) (blank : isBlank c = true) :
    layout glued (c :: text) = (layout false text).prepend [c] := by
  rw [layout_keep, glues_of_isBlank blank]
  rw [read?_blank_cons text blank, ite_self]

theorem layout_append_blank (glued : Bool) (text rest : Text) {c : Char} (blank : isBlank c = true) :
    layout glued (text ++ c :: rest) =
      (layout glued text).append ((layout false rest).prepend [c]) := by
  induction glued, text using chain_induction with
  | nil glued =>
      rw [layout_nil, Layout.append, Layout.prepend_nil]
      exact layout_blank_cons glued rest blank
  | keep glued d text kept inductionHypothesis =>
      have keptToo : (if glued then none else read? (d :: (text ++ c :: rest))) = none := by
        rw [← List.cons_append, read?_append_blank (d :: text) rest blank]
        exact kept
      rw [List.cons_append, layout_keep keptToo, inductionHypothesis, Layout.prepend_append,
        layout_keep kept]
  | chain first more text isWord areWords absent inductionHypothesis =>
      have absentToo : read? (text ++ c :: rest) = none := by
        rw [read?_append_blank text rest blank]
        exact absent
      rw [List.append_assoc, List.append_assoc, layout_chain isWord areWords absentToo,
        inductionHypothesis, layout_chain isWord areWords absent]
      rfl

/-- Blanks before a text run into its first piece. -/
theorem layout_border_append (text : Text) {border : Text}
    (blank : forall c, c ∈ border -> isBlank c = true) :
    layout false (border ++ text) = (layout false text).prepend border := by
  induction border with
  | nil => exact (Layout.prepend_nil _).symm
  | cons c border inductionHypothesis =>
      have below := inductionHypothesis fun d member => blank d (List.mem_cons_of_mem c member)
      rw [List.cons_append, layout_blank_cons false _ (blank c List.mem_cons_self), below,
        Layout.prepend_prepend]
      rfl

theorem layout_blank {border : Text} (blank : forall c, c ∈ border -> isBlank c = true) :
    layout false border = .plain border := by
  have whole := layout_border_append [] blank
  rw [List.append_nil, layout_nil] at whole
  rw [whole, Layout.prepend, List.append_nil]

/-- Blanks behind a text run on from its last piece. -/
theorem layout_append_border (glued : Bool) (text : Text) {border : Text}
    (blank : forall c, c ∈ border -> isBlank c = true) :
    layout glued (text ++ border) = (layout glued text).append (.plain border) := by
  cases border with
  | nil => rw [List.append_nil, Layout.append_plain_nil]
  | cons c border =>
      have below := layout_blank fun d member => blank d (List.mem_cons_of_mem c member)
      rw [layout_append_blank glued text border (blank c List.mem_cons_self), below]
      rfl

/-! ## The pieces hold no free chain -/

namespace Layout

/-- The layout of a text: its pieces hold no free chain, and its chains are longest runs of tags. -/
def Clean : Bool -> Layout -> Prop
  | glued, plain text => layout glued text = plain text
  | glued, cut head first more behind =>
      layout glued head = plain head ∧ IsTagWord first ∧ (forall w, w ∈ more -> IsTagWord w) ∧
        read? behind.head = none ∧ Clean true behind

theorem exists_text_eq_head_append (l : Layout) :
    Exists fun back : Text => l.text = l.head ++ back := by
  cases l with
  | plain text => exact ⟨[], (List.append_nil text).symm⟩
  | cut head first more behind => exact ⟨_, rfl⟩

end Layout

theorem kept_of_append {glued : Bool} (text rest : Text)
    (kept : (if glued then none else read? (text ++ rest)) = none) :
    (if glued then none else read? text) = none := by
  cases glued with
  | true => rfl
  | false => exact read?_eq_none_of_append kept

theorem layout_clean (glued : Bool) (text : Text) : (layout glued text).Clean glued := by
  induction glued, text using chain_induction with
  | nil glued =>
      rw [layout_nil]
      exact layout_nil glued
  | keep glued c text kept inductionHypothesis =>
      rw [layout_keep kept]
      cases parts : layout (glues c) text with
      | plain inner =>
          have same := eq_of_layout_plain parts
          subst same
          exact (layout_keep kept).trans (by rw [parts]; rfl)
      | cut head first more behind =>
          -- The first piece is read with the whole text behind it, and alone it must not change.
          have whole := text_layout (glues c) text
          rw [parts] at inductionHypothesis whole
          rcases inductionHypothesis with ⟨clean, rest⟩
          have keptToo : (if glued then none else read? (c :: head)) = none := by
            apply kept_of_append (c :: head) (tagged first ++ (taggedAll more ++ behind.text))
            rw [List.cons_append, show head ++ _ = text from whole]
            exact kept
          exact ⟨(layout_keep keptToo).trans (by rw [clean]; rfl), rest⟩
  | chain first more rest isWord areWords absent inductionHypothesis =>
      rw [layout_chain isWord areWords absent]
      rcases (layout true rest).exists_text_eq_head_append with ⟨back, parts⟩
      rw [text_layout] at parts
      exact ⟨layout_nil false, isWord, areWords, read?_eq_none_of_append (parts ▸ absent),
        inductionHypothesis⟩

/-! ## What one search finds -/

theorem tagged_append (written text : Text) :
    tagged written ++ text = '[' :: (written ++ ']' :: text) := by
  rw [tagged, List.cons_append, List.append_assoc]
  rfl

theorem glues_closing : glues ']' = true := Bool.or_true _

section Search

variable {Result : Type} (search : Nat -> Bool -> Text -> List Result)
  (passes : forall position glued c text, (if glued then none else read? (c :: text)) = none ->
    search position glued (c :: text) = search (position + 1) (glues c) text)

include passes

/-- A search that reports nothing where no free chain starts passes over the inside of a tag. -/
theorem pass_letters (position : Nat) (glued : Bool) {letters : Text}
    (noBracket : forall c, c ∈ letters -> c ≠ '[') (text : Text) :
    search position glued (letters ++ ']' :: text) =
      search (position + (letters.length + 1)) true text := by
  induction letters generalizing position glued with
  | nil =>
      have kept : (if glued then none else read? (']' :: text)) = none := by
        rw [read?_of_head_ne text (by decide), ite_self]
      rw [List.nil_append, passes position glued _ text kept, glues_closing]
      rfl
  | cons c letters inductionHypothesis =>
      have kept : (if glued then none else read? (c :: (letters ++ ']' :: text))) = none := by
        rw [read?_of_head_ne _ (noBracket c List.mem_cons_self), ite_self]
      rw [List.cons_append, passes position glued _ _ kept,
        inductionHypothesis _ _ fun d member => noBracket d (List.mem_cons_of_mem c member)]
      exact congrArg (search · true text) (by rw [List.length_cons]; omega)

/-- It also passes over tags that are glued. -/
theorem pass_taggedAll (position : Nat) {words : List Text}
    (areWords : forall w, w ∈ words -> IsTagWord w) (text : Text) :
    search position true (taggedAll words ++ text) =
      search (position + (taggedAll words).length) true text := by
  induction words generalizing position with
  | nil => rfl
  | cons first more inductionHypothesis =>
      have isWord := areWords first List.mem_cons_self
      rw [taggedAll_cons, List.append_assoc, tagged_append, passes position true _ _ rfl,
        pass_letters search passes _ _ (fun c member => (isWord.plain member).2.1),
        inductionHypothesis _ fun w member => areWords w (List.mem_cons_of_mem first member)]
      refine congrArg (search · true text) ?_
      rw [List.length_append, length_tagged, width]
      omega

end Search

namespace Layout

/-- The first tags of the chains, for a text that starts at a position. -/
def found : Nat -> Layout -> List Found
  | _, plain _ => []
  | position, cut head first more behind =>
      ⟨⟨position + head.length, position + head.length + width first⟩, first⟩ ::
        behind.found (position + head.length + (taggedAll (first :: more)).length)

/-- The chains, for a text that starts at a position. -/
def freeChains : Nat -> Layout -> List Chain
  | _, plain _ => []
  | position, cut head first more behind =>
      ⟨position + head.length, first :: more⟩ ::
        behind.freeChains (position + head.length + (taggedAll (first :: more)).length)

theorem found_prepend (position : Nat) (front : Text) (l : Layout) :
    (l.prepend front).found position = l.found (position + front.length) := by
  cases l with
  | plain text => rfl
  | cut head first more behind =>
      rw [prepend, found, found, List.length_append, ← Nat.add_assoc]

theorem freeChains_prepend (position : Nat) (front : Text) (l : Layout) :
    (l.prepend front).freeChains position = l.freeChains (position + front.length) := by
  cases l with
  | plain text => rfl
  | cut head first more behind =>
      rw [prepend, freeChains, freeChains, List.length_append, ← Nat.add_assoc]

theorem words_freeChains (position : Nat) (l : Layout) :
    (l.freeChains position).map (·.words) = l.chains := by
  induction l generalizing position with
  | plain text => rfl
  | cut head first more behind inductionHypothesis =>
      exact congrArg ((first :: more) :: ·) (inductionHypothesis _)

theorem written_found (position : Nat) (l : Layout) :
    (l.found position).map (·.written) = l.chains.filterMap (·[0]?) := by
  induction l generalizing position with
  | plain text => rfl
  | cut head first more behind inductionHypothesis =>
      exact congrArg (first :: ·) (inductionHypothesis _)

end Layout

theorem scan_keep (position : Nat) (glued : Bool) (c : Char) (text : Text)
    (kept : (if glued then none else read? (c :: text)) = none) :
    scan position glued 0 (c :: text) = scan (position + 1) (glues c) 0 text := by
  rw [scan, kept]

theorem scan_of_some (position : Nat) (c : Char) {text written : Text}
    (found : read? (c :: text) = some written) :
    scan position false 0 (c :: text) =
      ⟨⟨position, position + width written⟩, written⟩ ::
        scan (position + 1) (glues c) (written.length + 1) text := by
  rw [scan, if_neg Bool.false_ne_true, found]
  rfl

theorem freeChainsFrom_keep (position : Nat) (glued : Bool) (c : Char) (text : Text)
    (kept : (if glued then none else read? (c :: text)) = none) :
    freeChainsFrom position glued (c :: text) = freeChainsFrom (position + 1) (glues c) text := by
  rw [freeChainsFrom, kept]

theorem freeChainsFrom_of_some (position : Nat) (c : Char) {text written : Text}
    (found : read? (c :: text) = some written) :
    freeChainsFrom position false (c :: text) =
      ⟨position, run (c :: text)⟩ :: freeChainsFrom (position + 1) (glues c) text := by
  rw [freeChainsFrom, if_neg Bool.false_ne_true, found]

/-- The characters that belong to the tag found last are skipped. -/
theorem scan_inside (position : Nat) (glued : Bool) (letters : Text) (c : Char) (text : Text) :
    scan position glued (letters.length + 1) (letters ++ c :: text) =
      scan (position + (letters.length + 1)) (glues c) 0 text := by
  induction letters generalizing position glued with
  | nil => rfl
  | cons d letters inductionHypothesis =>
      rw [List.cons_append, List.length_cons, scan, inductionHypothesis]
      exact congrArg (scan · (glues c) 0 text) (by omega)

/-- One search finds the first tag of every free chain. -/
theorem scan_eq_found (position : Nat) (glued : Bool) (text : Text) :
    scan position glued 0 text = (layout glued text).found position := by
  induction glued, text using chain_induction generalizing position with
  | nil glued =>
      rw [layout_nil]
      rfl
  | keep glued c text kept inductionHypothesis =>
      rw [scan_keep position glued c text kept, layout_keep kept, Layout.found_prepend,
        inductionHypothesis]
      rfl
  | chain first more rest isWord areWords absent inductionHypothesis =>
      -- The first tag is reported and skipped; those behind it are glued and passed over.
      have found := read?_tagged_append isWord (taggedAll more ++ rest)
      rw [layout_chain isWord areWords absent, Layout.found]
      rw [tagged_append] at found ⊢
      rw [scan_of_some position '[' found, scan_inside, glues_closing,
        pass_taggedAll (scan · · 0 ·) scan_keep _ areWords, inductionHypothesis]
      refine congrArg₂ List.cons rfl (congrArg (Layout.found · (layout true rest)) ?_)
      rw [taggedAll_cons, List.length_append, length_tagged, width, List.length_nil]
      omega

/-- Asking at every place gives the chains of the layout. -/
theorem freeChainsFrom_eq (position : Nat) (glued : Bool) (text : Text) :
    freeChainsFrom position glued text = (layout glued text).freeChains position := by
  induction glued, text using chain_induction generalizing position with
  | nil glued =>
      rw [layout_nil]
      rfl
  | keep glued c text kept inductionHypothesis =>
      rw [freeChainsFrom_keep position glued c text kept, layout_keep kept,
        Layout.freeChains_prepend, inductionHypothesis]
      rfl
  | chain first more rest isWord areWords absent inductionHypothesis =>
      have found := read?_tagged_append isWord (taggedAll more ++ rest)
      have allWords : forall w, w ∈ first :: more -> IsTagWord w := by
        intro w member
        rcases List.mem_cons.mp member with same | later
        · exact same ▸ isWord
        · exact areWords w later
      have words : run (tagged first ++ (taggedAll more ++ rest)) = first :: more := by
        rw [← List.append_assoc, ← taggedAll_cons]
        exact run_taggedAll_append allWords absent
      rw [layout_chain isWord areWords absent, Layout.freeChains]
      rw [tagged_append] at found words ⊢
      rw [freeChainsFrom_of_some position '[' found, words,
        pass_letters freeChainsFrom freeChainsFrom_keep _ _ (fun c member => (isWord.plain member).2.1),
        pass_taggedAll freeChainsFrom freeChainsFrom_keep _ areWords, inductionHypothesis]
      refine congrArg₂ List.cons rfl (congrArg (Layout.freeChains · (layout true rest)) ?_)
      rw [taggedAll_cons, List.length_append, length_tagged, width, List.length_nil]
      omega

theorem findAll_eq (text : Text) : findAll text = (layout false text).found 0 :=
  scan_eq_found 0 false text

theorem freeChains_eq (text : Text) : freeChains text = (layout false text).freeChains 0 :=
  freeChainsFrom_eq 0 false text

end Tag
end Switchboard
