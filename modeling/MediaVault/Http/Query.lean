import MediaVault.Http.Percent

/-!
# Query strings

A query is a list of `name=value` pairs joined by `&`, in the encoding of
forms.  Reading one parameter fails when it occurs more than once.
-/

namespace MediaVault.Query

/-- Split one pair at its first `=`; without one the value is empty. -/
def splitPair (pair : List UInt8) : List UInt8 × List UInt8 :=
  (pair.takeWhile (· != 0x3D), (pair.dropWhile (· != 0x3D)).drop 1)

/-- The decoded pairs of a query; empty ones are skipped. -/
def pairs (query : String) : List (String × String) :=
  (((Text.utf8 query).splitOn 0x26).filter fun pair => !pair.isEmpty).map fun pair =>
    let halves := splitPair pair
    (Percent.decodeForm halves.1, Percent.decodeForm halves.2)

/-- A parameter that occurs more than once. -/
structure DuplicateField where
  name : String
deriving Repr, DecidableEq

namespace DuplicateField

/-- The wording of the error. -/
def message (d : DuplicateField) : String :=
  "duplicate field `" ++ d.name ++ "`"

end DuplicateField

/-- The value of a parameter that may occur at most once. -/
def param (name : String) (query : Option String) : Except DuplicateField (Option String) :=
  match (pairs (query.getD "")).filter (·.1 == name) with
  | [] => .ok none
  | [pair] => .ok (some pair.2)
  | _ => .error ⟨name⟩

end MediaVault.Query
