import ServerGrid.Failure
import ServerGrid.Json.Record

/-!
# Responses

The envelope that answers a request. Failures are told in its `error` field, so that its HTTP status
is always 200. Extra entries stand beside the fields at the top level.
-/

namespace ServerGrid

/-- The answer to a request. -/
structure Response where
  draw : UInt64
  recordsTotal : UInt64
  recordsFiltered : UInt64
  data : List Json
  error : Option String
  /-- The statements that were sent, while debugging. -/
  queries : Option (List String)
  /-- The request, while debugging. -/
  input : Option Json
  /-- Further entries of the envelope. -/
  extra : Keyed Json
  deriving DecidableEq, Repr

namespace Response

def isError (r : Response) : Bool := r.error.isSome

/-! ## JSON -/

/-- An entry that is left out when its value is absent. -/
def optionalEntry {α : Type} (key : String) (encode : α → Json) : Option α → Keyed Json
  | none => []
  | some x => [(key, encode x)]

/-- The entries of the envelope; extra entries follow as they are. -/
def entries (r : Response) : Keyed Json :=
  [("draw", Json.ofUInt64 r.draw),
    ("recordsTotal", Json.ofUInt64 r.recordsTotal),
    ("recordsFiltered", Json.ofUInt64 r.recordsFiltered),
    ("data", .array r.data)] ++
  optionalEntry "error" .string r.error ++
  optionalEntry "queries" (fun queries => .array (queries.map .string)) r.queries ++
  optionalEntry "input" id r.input ++
  r.extra

def toJson (r : Response) : Json := .object r.entries

def fieldNames : List String :=
  ["draw", "recordsTotal", "recordsFiltered", "data", "error", "queries", "input"]

/-- Read an envelope from an object; entries that are no fields are extra. -/
def ofJson? : Json → Option Response
  | .object entries => do
    let draw ← Json.required? entries "draw" Json.toUInt64?
    let recordsTotal ← Json.required? entries "recordsTotal" Json.toUInt64?
    let recordsFiltered ← Json.required? entries "recordsFiltered" Json.toUInt64?
    let data ← Json.required? entries "data" (Json.toList? Json.toJson?)
    let error ← Json.field? entries "error" (Json.toOption? Json.toString?) none
    let queries ←
      Json.field? entries "queries" (Json.toOption? (Json.toList? Json.toString?)) none
    let input ← Json.field? entries "input" (Json.toOption? Json.toJson?) none
    let extra := entries.filter fun (key, _) => !fieldNames.contains key
    return { draw, recordsTotal, recordsFiltered, data, error, queries, input, extra }
  | _ => none

/-- The envelope as an HTTP response. -/
def toHttp (r : Response) : HttpResponse := .json 200 r.toJson

end Response

end ServerGrid
