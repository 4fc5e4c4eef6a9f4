import EdwardsSignature.Text.Structural

/-!
# Errors

What can go wrong when a key is decoded, when a scheme is made, and when it signs or verifies, by its
cause (`Error`). Each error has a message for people (`Error.message`) and a structural text
(`Error.describe`).
-/

namespace EdwardsSignature

open Text

/-- The check by which verification rejects a signature. -/
inductive Rejection where
  /-- The first half of the signature is not the encoding of a point. -/
  | commitment
  /-- The second half of the signature is not a reduced scalar. -/
  | response
  /-- The halves do not satisfy the verification equation. -/
  | equation
deriving DecidableEq

/-- The check, as the message names it. -/
def Rejection.label : Rejection → String
  | .commitment => "R"
  | .response => "S"
  | .equation => "equation"

/-- The structural text of a check. -/
def Rejection.describe : Rejection → String
  | .commitment => "R"
  | .response => "S"
  | .equation => "Equation"

/-- What can go wrong with keys and schemes. -/
inductive Error where
  /-- A key, a seed or a signature has the wrong size. -/
  | wrongLength (context : String) (expected actual : Nat)
  /-- The bytes are not the encoding of a point of the curve. -/
  | notAPoint (context : String)
  /-- The signing mode is not known. -/
  | unsupportedMode (mode : String)
  /-- The key is not a key of the curve. -/
  | keyMismatch (curve : String)
  /-- The context does not fit into the domain. -/
  | contextTooLong (max actual : Nat)
  /-- There is no private key to sign with. -/
  | privateKeyRequired
  /-- The input is not a digest, though it is said to be one. -/
  | invalidPrehash (expected actual : Nat)
  /-- The signature is rejected. -/
  | notAuthentic (rejection : Rejection)
deriving DecidableEq

namespace Error

/-- The message for an input of the wrong size. -/
def lengthMessage (context : String) (expected actual : Nat) : String :=
  context ++ ": invalid length (expected " ++ Structural.number expected ++ ", got "
    ++ Structural.number actual ++ ")"

/-- The message that tells people of the error. -/
def message : Error → String
  | wrongLength context expected actual => lengthMessage context expected actual
  | notAPoint context => context ++ ": not a valid Ed25519 point encoding"
  | unsupportedMode mode => "Unsupported mode " ++ Structural.text mode ++ ": mode must be 'rfc8032'"
  | keyMismatch curve => "EdDSA can only be used with Ed25519 keys, got a " ++ curve ++ " key"
  | contextTooLong max actual =>
    "Context for EdDSA must not be longer than " ++ Structural.number max ++ " bytes, got "
      ++ Structural.number actual
  | privateKeyRequired => "Private key is needed to sign"
  | invalidPrehash expected actual =>
    "Prehashed input must be a " ++ Structural.number expected ++ "-byte SHA-512 digest, got "
      ++ Structural.number actual ++ " bytes"
  | notAuthentic rejection => "The signature is not authentic (" ++ rejection.label ++ ")"

/-- The structural text of an error. -/
def describe : Error → String
  | wrongLength context expected actual =>
    Structural.record "Length" [("context", Structural.text context),
      ("expected", Structural.number expected), ("actual", Structural.number actual)]
  | notAPoint context => Structural.record "Decode" [("context", Structural.text context)]
  | unsupportedMode mode => Structural.applied "UnsupportedMode" (Structural.text mode)
  | keyMismatch curve => Structural.applied "KeyMismatch" (Structural.text curve)
  | contextTooLong max actual =>
    Structural.record "ContextTooLong" [("max", Structural.number max),
      ("actual", Structural.number actual)]
  | privateKeyRequired => "PrivateKeyRequired"
  | invalidPrehash expected actual =>
    Structural.record "InvalidPrehash" [("expected", Structural.number expected),
      ("actual", Structural.number actual)]
  | notAuthentic rejection => Structural.applied "InvalidSignature" rejection.describe

end Error

end EdwardsSignature
