import EdwardsSignature.Bytes.Basic

/-!
# Agreement of byte strings

Whether two byte strings are the same, decided by collecting the differences at *all* positions: how
much is looked at depends on the lengths alone, and not on the contents.

* `Bytes.agreement`: the verdict as a bit;
* `Bytes.agree`: the verdict as a truth value.
-/

namespace EdwardsSignature

namespace Bytes

/-- The bits in which the bytes at some position differ, for byte strings of the same length. -/
def difference (as bs : Bytes) : UInt8 :=
  (as.zip bs).foldl (fun d ab => d ||| (ab.1 ^^^ ab.2)) 0

/-- `1` for byte strings that are the same, and `0` for others. -/
def agreement (as bs : Bytes) : UInt8 :=
  if as.length = bs.length then (if difference as bs = 0 then 1 else 0) else 0

/-- Whether two byte strings are the same. -/
def agree (as bs : Bytes) : Bool := agreement as bs == 1

end Bytes

/-- Whether octets are the same. -/
def Octets.agree {n : Nat} (o o' : Octets n) : Bool := Bytes.agree o.bytes o'.bytes

end EdwardsSignature
