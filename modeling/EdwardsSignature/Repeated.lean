/-!
# Repeated operations

What `n` copies of an element combine to under an associative operation, found by halving `n`: the
combination of `n / 2` copies is combined with itself, and with one more copy if `n` is odd. Powers in
a field and multiples on a curve are computed in this way (`repeated`).
-/

namespace EdwardsSignature

/-- The combination of `n` copies of `x`, for a number `n` of at most `width` bits. -/
def repeatedWithin {α : Type} (op : α → α → α) (unit x : α) : (width n : Nat) → α
  | 0, _ => unit
  | width + 1, n =>
    let half := repeatedWithin op unit x width (n / 2)
    if n % 2 = 1 then op (op half half) x else op half half

/-- The combination of `n` copies of `x` under the operation `op`, which for no copies is `unit`. -/
def repeated {α : Type} (op : α → α → α) (unit : α) (n : Nat) (x : α) : α :=
  repeatedWithin op unit x (n.log2 + 1) n

end EdwardsSignature
