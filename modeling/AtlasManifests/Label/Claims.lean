import AtlasManifests.Label.Basic

/-! # Claims on names

Different texts can have the same name. The names in use are kept by kind of
object: `reserve` takes a name as it is, and `claim` puts a token of its source
behind a name that is taken, trying one seed after the other.
-/
namespace AtlasManifests

/-- The names in use, each with the kind of its object. -/
structure Claims where
  taken : List (String × String)

namespace Claims

/-- No names in use. -/
def empty : Claims := ⟨[]⟩

variable (claims : Claims)

/-- Whether a name is in use for a kind. -/
def isTaken (kind name : String) : Bool := claims.taken.contains (kind, name)

/-- The claims with one name more. -/
def add (kind name : String) : Claims := ⟨(kind, name) :: claims.taken⟩

/-- Take a name as it is. Gives whether it was free. -/
def reserve (kind name : String) : Bool × Claims :=
  if claims.isTaken kind name then (false, claims) else (true, claims.add kind name)

/-- The name with a token of the seed behind it. -/
def candidate (name seed : String) : String := Label.withSuffix name (Label.token seed)

/-- The first free candidate among those of some number of seeds, each the one
before with a mark behind it. -/
def search (kind name : String) : Nat → String → Option String
  | 0, _ => none
  | tries + 1, seed =>
    let found := candidate name seed
    if claims.isTaken kind found then search kind name tries (seed ++ "#") else some found

/-- As many seeds as there are tokens, and one for every name in use besides. -/
def seeds : Nat := 4294967296 + claims.taken.length

/-- Take a name, or the first free candidate for it if it is in use already. -/
def claim (kind name source : String) : Option (String × Claims) :=
  if claims.isTaken kind name then
    (claims.search kind name claims.seeds source).map fun found => (found, claims.add kind found)
  else some (name, claims.add kind name)

/-- Only the name just taken is new. -/
theorem isTaken_add (kind name kind' name' : String) :
    (claims.add kind name).isTaken kind' name' =
      (decide ((kind', name') = (kind, name)) || claims.isTaken kind' name') := by
  by_cases h : (kind', name') = (kind, name) <;> simp [isTaken, add, h]

end Claims

end AtlasManifests
