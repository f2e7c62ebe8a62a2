import Switchboard.Text.Basic

namespace Switchboard
namespace Text

/-!
Classes of characters given by ranges of code points.
-/

/-- Code point ranges, ascending and disjoint, both ends included. -/
abbrev Ranges := List (Nat × Nat)

/-- Whether a code point lies in one of the ranges; the search stops at the first range above
it. -/
def Ranges.holds : Ranges -> Nat -> Bool
  | [], _ => false
  | (first, last) :: rest, code =>
      if code < first then false
      else if code <= last then true
      else Ranges.holds rest code

end Text
end Switchboard
