import ServerGrid.Json.Printer

/-!
# Failures

Why a run fails, as causes with one text each. What the database said is kept for logs and for
debugging; clients are told no more than that the database failed.
-/

namespace ServerGrid

/-- What a database driver reports. -/
inductive DriverError where
  | custom (message : String)
  | type (message : String)
  | recordNotFound (message : String)
  | query (message : String)
  deriving DecidableEq, Repr

def DriverError.text : DriverError → String
  | .custom message => "Custom Error: " ++ message
  | .type message => "Type Error: " ++ message
  | .recordNotFound message => "RecordNotFound Error: " ++ message
  | .query message => "Query Error: " ++ message

/-- Why a query cannot be compiled. -/
inductive CompileFault where
  /-- A sort directive points past the columns. -/
  | unknownColumn (index : UInt64)
  /-- A sort template has another number of placeholders than of bindings. -/
  | bindingMismatch (column : String) (placeholders bindings : Nat)
  | other (message : String)
  deriving DecidableEq, Repr

def CompileFault.text : CompileFault → String
  | .unknownColumn index =>
    "Order directive references unknown column index " ++ index.toNat.repr
  | .bindingMismatch column placeholders bindings =>
    "Order template for `" ++ column ++ "` has " ++ placeholders.repr ++ " placeholders but " ++
      bindings.repr ++ " bindings"
  | .other message => message

/-- Why a run fails. -/
inductive Failure where
  | compilation (fault : CompileFault)
  | execution (error : DriverError)
  | configuration (message : String)
  deriving DecidableEq, Repr

/-- A response as it goes over the wire. -/
structure HttpResponse where
  status : Nat
  contentType : String
  body : String
  deriving DecidableEq, Repr

def HttpResponse.json (status : Nat) (body : Json) : HttpResponse :=
  ⟨status, "application/json", body.text⟩

namespace Failure

/-- What clients may be told. -/
def clientText : Failure → String
  | .compilation fault => fault.text
  | .execution _ => "A database error occurred"
  | .configuration message => message

/-- What may be told while debugging. -/
def debugText : Failure → String
  | .execution error => error.text
  | failure => failure.clientText

/-- The driver's report behind a failure, if there is one. -/
def cause? : Failure → Option DriverError
  | .execution error => some error
  | .compilation _ | .configuration _ => none

/-- The HTTP status: a query that cannot be compiled is the client's fault. -/
def status : Failure → Nat
  | .compilation _ => 400
  | .execution _ | .configuration _ => 500

/-- A failure as an HTTP response, without details. -/
def toHttp (f : Failure) : HttpResponse :=
  .json f.status (.object [("error", .string f.clientText)])

end Failure

end ServerGrid
