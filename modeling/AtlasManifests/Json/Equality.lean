import AtlasManifests.Json.Basic

/-! # Equality of JSON values

Whether two values are equal is decided member by member.
-/
namespace AtlasManifests

namespace Json

mutual

/-- Whether two values are the same. -/
def same : Json → Json → Bool
  | .null, .null => true
  | .bool a, .bool b => a == b
  | .num m, .num n => m == n
  | .str s, .str t => s == t
  | .arr items, .arr others => sameItems items others
  | .obj members, .obj others => sameMembers members others
  | _, _ => false

/-- Whether two lists hold the same values. -/
def sameItems : List Json → List Json → Bool
  | [], [] => true
  | item :: rest, other :: others => same item other && sameItems rest others
  | _, _ => false

/-- Whether two lists hold the same members. -/
def sameMembers : List (String × Json) → List (String × Json) → Bool
  | [], [] => true
  | (name, value) :: rest, (otherName, other) :: others =>
    name == otherName && same value other && sameMembers rest others
  | _, _ => false

end

mutual

theorem same_iff : ∀ a b : Json, same a b = true ↔ a = b
  | .null, b => by cases b <;> simp [same]
  | .bool _, b => by cases b <;> simp [same]
  | .num _, b => by cases b <;> simp [same]
  | .str _, b => by cases b <;> simp [same]
  | .arr items, b => by
    cases b with
    | arr others => rw [same, sameItems_iff items others, arr.injEq]
    | null | bool _ | num _ | str _ | obj _ => simp [same]
  | .obj members, b => by
    cases b with
    | obj others => rw [same, sameMembers_iff members others, obj.injEq]
    | null | bool _ | num _ | str _ | arr _ => simp [same]

theorem sameItems_iff : ∀ items others : List Json, sameItems items others = true ↔ items = others
  | [], [] => by simp [sameItems]
  | [], _ :: _ => by simp [sameItems]
  | _ :: _, [] => by simp [sameItems]
  | item :: rest, other :: others => by
    rw [sameItems, Bool.and_eq_true, same_iff item other, sameItems_iff rest others,
      List.cons.injEq]

theorem sameMembers_iff :
    ∀ members others : List (String × Json), sameMembers members others = true ↔ members = others
  | [], [] => by simp [sameMembers]
  | [], _ :: _ => by simp [sameMembers]
  | _ :: _, [] => by simp [sameMembers]
  | (name, value) :: rest, (otherName, other) :: others => by
    rw [sameMembers, Bool.and_eq_true, Bool.and_eq_true, beq_iff_eq, same_iff value other,
      sameMembers_iff rest others, List.cons.injEq, Prod.mk.injEq]

end

instance : DecidableEq Json := fun a b => decidable_of_iff _ (same_iff a b)

end Json

end AtlasManifests
