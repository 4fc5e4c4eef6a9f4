import EdwardsSignature.Text.Quoted

/-!
# The structure of a value as text

The *structural text* of a value shows how it is built: by the name of its constructor, and by what
the constructor is applied to. These are the pieces of such texts; the arguments are the structural
texts of the parts.
-/

namespace EdwardsSignature.Text.Structural

/-- A natural number, in decimal digits. -/
def number (n : Nat) : String := String.ofList (Nat.toDigits 10 n)

/-- A truth value. -/
def flag (b : Bool) : String := if b then "true" else "false"

/-- Text, in quotes. -/
def text (s : String) : String := Quoted.encode s

/-- A list. -/
def list (items : List String) : String := "[" ++ ", ".intercalate items ++ "]"

/-- A constructor applied to one argument. -/
def applied (name argument : String) : String := name ++ "(" ++ argument ++ ")"

/-- One field of a record. -/
def field (name value : String) : String := name ++ ": " ++ value

/-- A record of named fields. -/
def record (name : String) (fields : List (String × String)) : String :=
  name ++ " \x7b " ++ ", ".intercalate (fields.map fun f => field f.1 f.2) ++ " \x7d"

end EdwardsSignature.Text.Structural
