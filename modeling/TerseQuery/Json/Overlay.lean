import TerseQuery.Json.Basic

/-!
# Overlaying one value on another

Records are overlaid field by field, to any depth. Anything else is replaced.
-/
namespace TerseQuery.Json

mutual

/-- The value `top` laid over the value `base`. -/
def overlay (base top : Json) : Json :=
  match top with
  | .record fields =>
    match base with
    | .record below => .record (overlayFields below fields)
    | _ => .record fields
  | other => other

/-- Fields laid one after the other over the fields of a record. -/
def overlayFields (base : List (String × Json)) : List (String × Json) → List (String × Json)
  | [] => base
  | (name, value) :: rest =>
    match findEntry name base with
    | some below => overlayFields (insertEntry name (overlay below value) base) rest
    | none => overlayFields (insertEntry name value base) rest

end

@[simp] theorem overlay_of_not_record {base top : Json} (h : ∀ fields, top ≠ .record fields) :
    overlay base top = top := by
  cases top <;> simp_all [overlay]

end TerseQuery.Json
