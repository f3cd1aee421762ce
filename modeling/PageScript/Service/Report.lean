import PageScript.Fault
import PageScript.Table
import PageScript.Validation.Coercion

namespace PageScript.Service

/-!
# Reports

Every service answers with a report: whether it succeeded, what it did, warnings,
and an error when it failed.  Further entries hold what is not about the operation
itself, such as recorded spans.  A report can be checked from data.
-/

open Validation

/-- Why an operation failed. -/
structure ReportError where
  code : String
  message : String
  detail : List (String × Value) := []

/-- The answer of a service. -/
structure Report where
  succeeded : Bool
  operation : String
  data : List (String × Value) := []
  warnings : List String := []
  error : Option ReportError := none
  extra : Option (List (String × Value)) := none

/-- An error as a record. -/
def ReportError.record (error : ReportError) : Value :=
  Value.record
    [("code", .text error.code), ("message", .text error.message),
     ("detail", Value.record error.detail)]

namespace Report

/-- A record that may be missing. -/
def optionalRecord : Option (List (String × Value)) → Value
  | some fields => Value.record fields
  | none => .null

/-- A report as a record. -/
def record (report : Report) : Value :=
  Value.record
    [("ok", .truth report.succeeded), ("op", .text report.operation),
     ("data", Value.record report.data), ("warnings", Value.texts report.warnings),
     ("error",
       match report.error with
       | some error => error.record
       | none => .null),
     ("meta", optionalRecord report.extra)]

/-- The value of a field of the data. -/
def field? (report : Report) (name : String) : Option Value :=
  (report.data.find? fun field => field.1 == name).map (·.2)

/-- The name of a key where an issue was found. -/
def keyPlace : Value → String
  | .truth holds => if holds then "1" else "0"
  | key => key.displayString

/-- Fields whose names are texts. -/
def namedFields : List (Value × Value) → Checked (List (String × Value))
  | [] => .ok []
  | (.text name, value) :: rest => (namedFields rest).map ((name, value) :: ·)
  | (key, _) :: rest =>
      Checked.both (fun _ fields => fields)
        (.error [⟨.notText, [keyPlace key, "[key]"]⟩] : Checked Unit) (namedFields rest)

/-- A field that holds a record. -/
def openRecord (value : Value) : Checked (List (String × Value)) :=
  match table value with
  | .ok entries => namedFields entries
  | .error issues => .error issues

/-- A field that may be absent. -/
def orAbsent {α : Type} (check : Value → Checked α) : Value → Checked (Option α)
  | .null => .ok none
  | value => (check value).map some

/-- A field that holds an error. -/
def errorField : Value → Checked ReportError
  | .table entries =>
      Checked.apply
        (Checked.both ReportError.mk (required "code" text entries)
          (required "message" text entries))
        (optional "detail" [] openRecord entries)
  | _ => refuse (.notSection "ServiceError")

/-- The report that data describes. -/
def ofEntries (entries : List (Value × Value)) : Checked Report :=
  let started :=
    Checked.both Report.mk (required "ok" truth entries) (required "op" text entries)
  let told :=
    Checked.apply (Checked.apply started (optional "data" [] openRecord entries))
      (optional "warnings" [] (list text) entries)
  Checked.apply (Checked.apply told (optional "error" none (orAbsent errorField) entries))
    (optional "meta" none (orAbsent openRecord) entries)

/-- The warnings that a report can hold, which are texts. -/
def checkedWarnings (warnings : List Value) : Except Fault (List String) :=
  (Checked.within "warnings" (list text (.list warnings))).mapError .invalid

/-- A report with the spans of the call that made it. -/
def withSpans (spans : Value) (report : Report) : Report :=
  { report with
    extra := some ((Table.ofList (report.extra.getD [])).insert "telemetry" spans).entries }

end Report

end PageScript.Service
