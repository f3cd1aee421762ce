import PageScript.Record
import PageScript.Table

namespace PageScript.Settings

/-!
# Layers of settings

Settings come in layers.  A higher layer goes over a lower one field by field:
records are merged, and any other value of the higher layer replaces the lower one.
A field keeps the place that it has in the lower layer.
-/

mutual

/-- A value of a higher layer over the value of a lower one. -/
def laidOver : Value → Value → Value
  | .table higher, lower =>
      if (Value.table higher).isRecord && lower.isRecord then
        .table (laidOverEntries higher lower.entries)
      else
        .table higher
  | higher, _ => higher

/-- The bindings of a higher layer over those of a lower one. -/
def laidOverEntries : List (Value × Value) → List (Value × Value) → List (Value × Value)
  | [], lower => lower
  | (key, value) :: rest, lower =>
      let merged :=
        match (Table.mk lower).get? key with
        | some covered => laidOver value covered
        | none => value
      laidOverEntries rest (Table.insertEntry key merged lower)

end

/-- Layers merged into one, where earlier layers go over later ones. -/
def merged : List Value → Value
  | [] => .table []
  | highest :: rest => laidOver highest (merged rest)

end PageScript.Settings
