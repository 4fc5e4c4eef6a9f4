import EdwardsSignature.Bytes.Basic

/-!
# Parameters of curves

What a signature scheme needs to know of a curve beyond its points: the sizes of signatures and
contexts, and the tag that keeps signatures of different flavours apart. Curves are looked up by name,
in a table (`Parameters.find?`).
-/

namespace EdwardsSignature

/-- The parameters of a curve. -/
structure Parameters where
  /-- The name of the curve, in lower case. -/
  name : String
  /-- The number of bytes in a signature. -/
  signatureSize : Nat
  /-- The number of bytes in the longest context. -/
  maxContextSize : Nat
  /-- What is hashed ahead of everything else, except in the plain flavour. -/
  domainTag : Bytes
deriving DecidableEq

namespace Parameters

/-- The text `SigEd25519 no Ed25519 collisions`, in ASCII. -/
def ed25519Tag : Bytes :=
  [0x53, 0x69, 0x67, 0x45, 0x64, 0x32, 0x35, 0x35, 0x31, 0x39, 0x20, 0x6e, 0x6f, 0x20, 0x45, 0x64,
   0x32, 0x35, 0x35, 0x31, 0x39, 0x20, 0x63, 0x6f, 0x6c, 0x6c, 0x69, 0x73, 0x69, 0x6f, 0x6e, 0x73]

/-- The curve of Ed25519. -/
def ed25519 : Parameters where
  name := "ed25519"
  signatureSize := 64
  maxContextSize := 255
  domainTag := ed25519Tag

/-- The curves there are. -/
def table : List Parameters := [ed25519]

/-- The names are the same but for the case of ASCII letters. -/
def sameName (a b : String) : Bool := a.toList.map Char.toLower == b.toList.map Char.toLower

/-- The curve of the given name, in whatever case its ASCII letters are. -/
def find? (name : String) : Option Parameters := table.find? fun c => sameName c.name name

end Parameters

end EdwardsSignature
