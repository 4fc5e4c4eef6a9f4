import EdwardsSignature.Error

/-!
# Signing modes

How signatures are made is a *mode*. There is one, in which nonces are derived and not drawn.
-/

namespace EdwardsSignature

/-- The signing modes. -/
inductive Mode where
  /-- Nonces are derived from the key and the input. -/
  | rfc8032
deriving DecidableEq, Inhabited

namespace Mode

/-- The name of a mode. -/
def name : Mode → String
  | rfc8032 => "rfc8032"

/-- The mode of the given name. -/
def ofName (name : String) : Except Error Mode :=
  if name = rfc8032.name then .ok rfc8032 else .error (.unsupportedMode name)

/-- The structural text of a mode. -/
def describe : Mode → String
  | rfc8032 => "Rfc8032"

end Mode

end EdwardsSignature
