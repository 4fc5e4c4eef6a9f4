import EdwardsSignature.Key.Basic
import EdwardsSignature.Scheme.Input
import EdwardsSignature.Scheme.Mode

/-!
# Signature schemes

A *scheme* binds a key and a context. It signs and verifies inputs, in one of three flavours:

| input      | context   | flavour    |
|------------|-----------|------------|
| message    | empty     | plain      |
| message    | not empty | in context |
| digest     | any       | prehashed  |

What tells the flavours apart is the *domain* (`Scheme.domain`), which goes ahead of all else that is
hashed. It is empty in the plain flavour. Otherwise it has the tag of the curve, a byte for whether
the input is a digest, and the context after a byte for its length.

A scheme is made of a key by `Scheme.ofKey`, or by `Scheme.ofKeyNamed` if the mode is given by name,
which admits just the keys of the curve that have a public half, and the contexts whose length fits
into a byte.
-/

namespace EdwardsSignature

/-- A key and a context that are bound together. -/
structure Scheme where
  /-- The curve. -/
  curve : Parameters
  /-- The key that signatures are made and verified against. -/
  publicKey : PublicKey
  /-- The key that signatures are made with, if any. -/
  privateKey : Option PrivateKey
  /-- The context. -/
  context : Bytes
  /-- The signing mode. -/
  mode : Mode

namespace Scheme

/-- The scheme of a key, a mode and a context. -/
def ofKey (key : Key) (mode : Mode) (context : Bytes) : Except Error Scheme :=
  let curve? := (Parameters.find? key.curveName).filter (·.name = Parameters.ed25519.name)
  match curve?, key.publicHalf with
  | some curve, some publicKey =>
    if context.length ≤ curve.maxContextSize then
      .ok { curve, publicKey, privateKey := key.privateHalf, context, mode }
    else .error (.contextTooLong curve.maxContextSize context.length)
  | _, _ => .error (.keyMismatch key.curveName)

/-- The scheme of a key, the name of a mode, and a context. -/
def ofKeyNamed (key : Key) (modeName : String) (context : Bytes) : Except Error Scheme :=
  match Mode.ofName modeName with
  | .error e => .error e
  | .ok mode => ofKey key mode context

/-- The scheme has a key to sign with. -/
def canSign (s : Scheme) : Bool := s.privateKey.isSome

/-- What is hashed ahead of all else, given whether the input is a digest. -/
def domain (s : Scheme) (prehashed : Bool) : Bytes :=
  if !prehashed && s.context.isEmpty then []
  else s.curve.domainTag ++ (if prehashed then 1 else 0) :: UInt8.ofNat s.context.length :: s.context

/-- The structural text of a scheme, which does not show the keys. -/
def describe (s : Scheme) : String :=
  Text.Structural.record "SignatureScheme" [("mode", s.mode.describe),
    ("context_len", Text.Structural.number s.context.length),
    ("can_sign", Text.Structural.flag s.canSign)]

end Scheme

end EdwardsSignature
