import Schemata.Json.Value

/-!
# One document over another

Two objects are laid over each other member by member, at every depth; anything else is replaced by what lies over it.
-/

namespace Schemata.Json

mutual

/-- The document that shows when one lies over another. -/
def overlay (upper lower : Json) : Json :=
  match upper with
  | .obj members =>
    match lower with
    | .obj base => .obj (membersOver members base)
    | _ => .obj members
  | v => v
termination_by structural upper

/-- The members that show when some lie over others. -/
def membersOver (upper : List (String × Json)) (lower : Members) : Members :=
  match upper with
  | [] => lower
  | (key, v) :: rest =>
    membersOver rest (lower.insert key
      (match lower.get? key with
        | some w => overlay v w
        | none => v))
termination_by structural upper

end

/-- An object with a value at the end of a path of keys, and nothing else. -/
def nest (path : List String) (v : Json) : Json :=
  path.foldr (fun key inner => .obj [(key, inner)]) v

@[simp] theorem overlay_null (lower : Json) : overlay .null lower = .null := rfl
@[simp] theorem overlay_bool (b : Bool) (lower : Json) : overlay (.bool b) lower = .bool b := rfl
@[simp] theorem overlay_num (n : Number) (lower : Json) : overlay (.num n) lower = .num n := rfl
@[simp] theorem overlay_str (s : String) (lower : Json) : overlay (.str s) lower = .str s := rfl
@[simp] theorem overlay_arr (items : List Json) (lower : Json) : overlay (.arr items) lower = .arr items := rfl

@[simp] theorem overlay_obj_obj (members base : List (String × Json)) :
    overlay (.obj members) (.obj base) = .obj (membersOver members base) := rfl

@[simp] theorem membersOver_nil (lower : Members) : membersOver [] lower = lower := rfl

end Schemata.Json
