/-
# Identities

The readable description of an avatar, sent apart from its pose because it seldom
changes.
-/

import AvatarRelay.Wire.Format

namespace AvatarRelay

/-- The readable description of an avatar. -/
structure Identity where
  displayName : String
  modelUrl : String
  attachments : List String
  deriving DecidableEq, Inhabited, Repr

namespace Identity

def named (displayName : String) : Identity :=
  ⟨displayName, "", []⟩

def format : Format Identity :=
  (Format.text.pair (Format.text.pair Format.text.list)).map
    (fun (displayName, modelUrl, attachments) => ⟨displayName, modelUrl, attachments⟩)
    (fun identity => (identity.displayName, identity.modelUrl, identity.attachments))

end Identity

end AvatarRelay
