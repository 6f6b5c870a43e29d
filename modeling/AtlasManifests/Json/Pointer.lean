import AtlasManifests.Json.Basic

/-! # JSON pointers

Paths into a value as in RFC 6901: a slash before each step, `~1` for a slash and
`~0` for a tilde inside of one.
-/
namespace AtlasManifests.Json

/-- The texts between the slashes of a path. -/
def pointerSteps : List Char → List (List Char)
  | [] => [[]]
  | c :: rest =>
    if c = '/' then [] :: pointerSteps rest
    else
      match pointerSteps rest with
      | [] => [[c]]
      | step :: later => (c :: step) :: later

/-- A step of a pointer with its escapes replaced. -/
def unescapeStep : List Char → List Char
  | '~' :: '1' :: rest => '/' :: unescapeStep rest
  | '~' :: '0' :: rest => '~' :: unescapeStep rest
  | c :: rest => c :: unescapeStep rest
  | [] => []

/-- The index that a step gives into an array: digits without a leading zero. -/
def index? (step : String) : Option Nat :=
  let cs := step.toList
  if cs.isEmpty || !cs.all Char.isDigit || (cs.length != 1 && cs.head? == some '0') then none
  else some (cs.foldl (fun n c => 10 * n + (c.toNat - 48)) 0)

/-- The value one step below a value. -/
def child? (step : String) : Json → Option Json
  | .obj members => members.lookup step
  | .arr items => do items[← index? step]?
  | _ => none

/-- A step that is no index leads to a member only. -/
theorem child?_eq_get? {step : String} (h : index? step = none) (j : Json) :
    j.child? step = j.get? step := by
  cases j with
  | arr items => rw [child?, h]; rfl
  | _ => rfl

/-- The value that a list of steps leads to. -/
def walk? (j : Json) (steps : List String) : Option Json :=
  steps.foldlM (fun value step => value.child? step) j

/-- The value that a pointer leads to. -/
def pointer? (j : Json) (path : String) : Option Json :=
  match path.toList with
  | [] => some j
  | '/' :: rest => j.walk? ((pointerSteps rest).map fun step => String.ofList (unescapeStep step))
  | _ => none

end AtlasManifests.Json
