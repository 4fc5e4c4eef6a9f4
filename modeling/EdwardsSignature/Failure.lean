import EdwardsSignature.Error

/-!
# Failures

What the plain signature functions tell their callers when they fail: what is invalid, in which
*context*, and a message or, for a wrong length, the lengths. The errors of keys and schemes become
failures by `Failure.ofError`, which keeps their messages. Callers may put another context or message
in place of the one there is.
-/

namespace EdwardsSignature

open Text

/-- What is invalid, and in which context. -/
inductive Failure where
  /-- A key is invalid. -/
  | invalidKey (context message : String)
  /-- A signature is invalid. -/
  | invalidSignature (context message : String)
  /-- An input has the wrong length. -/
  | invalidLength (context : String) (expected actual : Nat)
  /-- A parameter is invalid. -/
  | invalidParameter (context message : String)
deriving DecidableEq

namespace Failure

/-- The context of the failure. -/
def context : Failure → String
  | invalidKey context _ => context
  | invalidSignature context _ => context
  | invalidLength context _ _ => context
  | invalidParameter context _ => context

/-- The failure in another context. -/
def withContext (context : String) : Failure → Failure
  | invalidKey _ message => invalidKey context message
  | invalidSignature _ message => invalidSignature context message
  | invalidLength _ expected actual => invalidLength context expected actual
  | invalidParameter _ message => invalidParameter context message

/-- The failure with another message; a wrong length has none and stays as it is. -/
def withMessage (message : String) : Failure → Failure
  | invalidKey context _ => invalidKey context message
  | invalidSignature context _ => invalidSignature context message
  | invalidLength context expected actual => invalidLength context expected actual
  | invalidParameter context _ => invalidParameter context message

/-- The text that tells people of the failure. -/
def text : Failure → String
  | invalidKey context message => "Invalid key: " ++ context ++ ": " ++ message
  | invalidSignature context message => "Invalid signature: " ++ context ++ ": " ++ message
  | invalidLength context expected actual => Error.lengthMessage context expected actual
  | invalidParameter context message => context ++ ": " ++ message

/-- The structural text of a failure. -/
def describe : Failure → String
  | invalidKey context message =>
    Structural.record "InvalidKey" [("context", Structural.text context),
      ("message", Structural.text message)]
  | invalidSignature context message =>
    Structural.record "InvalidSignature" [("context", Structural.text context),
      ("message", Structural.text message)]
  | invalidLength context expected actual =>
    Structural.record "InvalidLength" [("context", Structural.text context),
      ("expected", Structural.number expected), ("actual", Structural.number actual)]
  | invalidParameter context message =>
    Structural.record "InvalidParameter" [("context", Structural.text context),
      ("message", Structural.text message)]

/-- The failure that an error amounts to. -/
def ofError (e : Error) : Failure :=
  match e with
  | .wrongLength context expected actual => invalidLength context expected actual
  | .notAPoint context => invalidKey context e.message
  | .unsupportedMode _ => invalidParameter "mode" e.message
  | .keyMismatch _ => invalidKey "curve" e.message
  | .contextTooLong _ _ => invalidParameter "context" e.message
  | .privateKeyRequired => invalidKey "sign" e.message
  | .invalidPrehash _ _ => invalidParameter "prehash" e.message
  | .notAuthentic _ => invalidSignature "Ed25519 verify" e.message

end Failure

end EdwardsSignature
