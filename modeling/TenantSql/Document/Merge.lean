import TenantSql.Document.Value
import TenantSql.Error

/-!
Laying one document over another. Tables are merged entry by entry, arrays are appended, and of two other
values of one type the one on top stays. Two values of different types are a conflict; of several
conflicts the one under the first key, in ascending order, is reported.
-/

namespace TenantSql.Value

/-- A value of the same type takes the place of another. -/
def replacing (path : String) (base top : Value) : Except MergeConflict Value :=
  if base.typeName = top.typeName then .ok top else .error ⟨path, base.typeName, top.typeName⟩

mutual
/-- The value with `top` laid over `base`, both found at `path`. -/
def merge (path : String) (base top : Value) : Except MergeConflict Value :=
  match top with
  | .table entries =>
    match base with
    | .table held => (mergeEntries path held entries).map .table
    | _ => .error ⟨path, base.typeName, "table"⟩
  | .array items =>
    match base with
    | .array held => .ok (.array (held ++ items))
    | _ => .error ⟨path, base.typeName, "array"⟩
  | .string text => replacing path base (.string text)
  | .integer value => replacing path base (.integer value)
  | .float kind => replacing path base (.float kind)
  | .boolean value => replacing path base (.boolean value)
  | .datetime text => replacing path base (.datetime text)
  | .unreadable => replacing path base .unreadable

/-- The entries with others laid over them, one after the other. -/
def mergeEntries (path : String) (held : List (String × Value)) :
    List (String × Value) → Except MergeConflict (List (String × Value))
  | [] => .ok held
  | (key, value) :: rest =>
    match held.lookup key with
    | none => mergeEntries path (Assoc.put key value held) rest
    | some base => do
      let merged ← merge (path ++ "." ++ key) base value
      mergeEntries path (Assoc.put key merged held) rest
end

end TenantSql.Value
