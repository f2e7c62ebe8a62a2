import Switchboard.Text.Basic

namespace Switchboard

/-!
The names of characters.

A character may have a name, such as that of the bullet, and a pattern may use it in the place of
the character.  The table of names is not part of this library.  What reads patterns takes the
look-up from its surroundings, and all that is said about patterns, rules and tables holds for any
look-up.
-/

/-- A look-up of characters by their names. -/
class CharacterNames where
  /-- The character that a name stands for, if it is the name of one. -/
  find? : Text -> Option Char

/-- The look-up without a table. -/
instance : CharacterNames := ⟨fun _ => none⟩

end Switchboard
