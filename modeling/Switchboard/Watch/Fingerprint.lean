import Switchboard.Files.Digest
import Switchboard.Files.State

namespace Switchboard

/-!
What is remembered of a file to notice that it has changed: its time stamp and the digest of its
content.
-/

/-- The time stamp and the digest of a file, as far as they are known. -/
structure Fingerprint where
  stamp : Option Int := none
  digest : Option Text := none
deriving Repr, DecidableEq

namespace Fingerprint

/-- The fingerprint of a file whose time stamp is looked at before its content is read. If either
fails, nothing is known. -/
def take (looked opened : FileState) : Fingerprint :=
  match looked.stamp?, opened.content? with
  | some stamp, some content => ⟨some stamp, some (Digest.ofBytes content)⟩
  | _, _ => {}

/-- The fingerprint of a file that stays as it is. -/
def ofState (state : FileState) : Fingerprint := take state state

end Fingerprint
end Switchboard
