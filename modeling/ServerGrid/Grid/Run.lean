import ServerGrid.Count
import ServerGrid.Database
import ServerGrid.Grid
import ServerGrid.Ordering
import ServerGrid.Paging
import ServerGrid.Response
import ServerGrid.Search
import ServerGrid.Sql.Inlined

/-!
# Running a grid

A run counts the rows, narrows the query, counts again if that changed anything, orders, pages,
fetches and shapes. Nothing is narrowed, ordered or paged when the total is zero. The first failure
ends the run; what was sent and logged up to then stays. While debugging, a statement whose text
cannot be logged ends the call itself, and the caller is not answered at all (`served`).
-/

namespace ServerGrid

/-- What a run changes. -/
structure RunState where
  session : Session
  query : BaseQuery
  /-- The texts of the statements, while debugging, of those that have one. -/
  log : List String
  filterApplied : Bool
  /-- The offset of the page, from which rows are numbered. -/
  offset : UInt64

/-- A step of a run, which may fail and keeps its changes when it does. -/
abbrev Run := ExceptT Failure (StateM RunState)

/-- The counts and the rows of a run. -/
structure PageData where
  total : UInt64
  filtered : UInt64
  data : List Json
  deriving DecidableEq, Repr

/-- What is reported of a count that is not a number. -/
def undecodableCount : DriverError :=
  .type "A null value was encountered while decoding \"aggregate\""

/-- The count in fetched rows: that of the first row, zero without rows and for a negative one. -/
def countIn : List Row → Except DriverError UInt64
  | [] => .ok 0
  | row :: _ =>
    match row.get? countColumn with
    | some (.bigInt (some n)) => .ok (if 0 ≤ n.toInt then .ofNat n.toInt.toNat else 0)
    | _ => .error undecodableCount

namespace Grid

/-- The dialect that fragments are written in. -/
def activeDialect (g : Grid) (backend : Backend) : Dialect :=
  g.dialect.getD (.ofBackend backend)

/-- The resolver for the tables of a query. -/
def resolver (g : Grid) (backend : Backend) (q : BaseQuery) : Resolver :=
  ⟨q.scope, g.activeDialect backend⟩

/-! ## The steps of a run -/

/-- Log a statement while debugging, and send it. -/
def execute (g : Grid) (backend : Backend) (statement : Statement) : Run (List Row) := do
  -- before it is sent, so that one that fails is listed too
  if g.config.debug then
    modify fun s => { s with log := s.log ++ (statement.inlined? backend).toList }
  let (session, result) := (← get).session.send statement
  modify fun s => { s with session := session }
  match result with
  | .ok rows => return rows
  | .error error => throw (.execution error)

/-- Count the rows of the query as it is. -/
def count (g : Grid) (backend : Backend) : Run UInt64 := do
  let rows ← g.execute backend ((← get).query.countStatement backend)
  match countIn rows with
  | .ok n => return n
  | .error error => throw (.execution error)

/-- The query after the callback and the searches, and whether anything narrowed it. -/
def filtered (g : Grid) (backend : Backend) (q : BaseQuery) : BaseQuery × Bool :=
  -- the callback may add to the statement itself
  let q := q.isolate
  let (q, called) :=
    match g.filterCallback with
    | some callback => (callback q, true)
    | none => (q, false)
  let ctx : SearchContext :=
    { request := g.request, registry := g.registry, resolver := g.resolver backend q
      config := g.config }
  let (q, byColumn) := q.searchColumns ctx
  let (q, byKeyword) := if g.searchesGlobally then q.searchGlobally ctx else (q, false)
  (q, called || byColumn || byKeyword)

def filterRecords (g : Grid) (backend : Backend) : Run Unit :=
  modify fun s =>
    let (q, applied) := g.filtered backend s.query
    { s with query := q, filterApplied := s.filterApplied || applied }

/-- The query after the callback, or after the ordering that the request asks for. -/
def ordered (g : Grid) (backend : Backend) (q : BaseQuery) :
    BaseQuery × Except CompileFault Unit :=
  match g.orderCallback with
  | some callback => (callback q, .ok ())
  | none =>
    q.applyOrdering
      { request := g.request, registry := g.registry, resolver := g.resolver backend q
        config := g.config }

def orderRecords (g : Grid) (backend : Backend) : Run Unit := do
  let (q, result) := g.ordered backend (← get).query
  modify fun s => { s with query := q }
  match result with
  | .ok () => return ()
  | .error fault => throw (.compilation fault)

def pageRecords (g : Grid) : Run Unit :=
  if g.skipsPaging then return ()
  else modify fun s =>
    match s.query.applyPaging g.request with
    | (q, some page) => { s with query := q, offset := page.offset }
    | (q, none) => { s with query := q }

/-- Narrow, count, order and page; the result is the filtered count. -/
def prepare (g : Grid) (backend : Backend) (total : UInt64) : Run UInt64 := do
  g.filterRecords backend
  -- the first count still stands when nothing narrowed the query
  let filtered ←
    match g.filteredRecords with
    | some filtered => pure filtered
    | none => if (← get).filterApplied then g.count backend else pure total
  g.orderRecords backend
  g.pageRecords
  return filtered

def run (g : Grid) (backend : Backend) : Run PageData := do
  let total ←
    match g.totalRecords with
    | some total => pure total
    | none => g.count backend
  let filtered ← if 0 < total then g.prepare backend total else pure total
  let statement := (← get).query.build backend (g.activeDialect backend)
  let rows ← g.execute backend statement
  return { total, filtered, data := g.shape.apply (rows.map Row.toJson) (← get).offset }

/-! ## Responses -/

def start (g : Grid) (replies : List Reply) : RunState where
  session := .start replies
  query := g.query
  log := []
  filterApplied := false
  offset := 0

/-- The request, while debugging. -/
def input (g : Grid) : Option Json := if g.config.debug then some g.request.toJson else none

def respond (g : Grid) (page : PageData) (s : RunState) : Response where
  draw := g.request.draw
  recordsTotal := page.total
  recordsFiltered := page.filtered
  data := page.data
  error := none
  queries := if g.config.debug then some s.log else none
  input := g.input
  extra := g.extra

/-- What the response says of a failure: its details only while debugging. -/
def errorText (g : Grid) (f : Failure) : String :=
  if g.config.debug then "Exception Message:\n\n" ++ f.debugText else g.config.clientMessage

def respondFailure (g : Grid) (f : Failure) (s : RunState) : Response where
  draw := g.request.draw
  recordsTotal := 0
  recordsFiltered := 0
  data := []
  error := some (g.errorText f)
  queries := if g.config.debug then some s.log else none
  input := g.input
  extra := []

/-- A result with the statements that were sent. -/
structure Outcome (α : Type) where
  result : α
  sent : List Statement

/-- Answer the request after a run to its end; a failure is told in the response. -/
def make (g : Grid) (backend : Backend) (replies : List Reply) : Outcome Response :=
  match (g.run backend).run.run (g.start replies) with
  | (.ok page, s) => ⟨g.respond page s, s.session.sent⟩
  | (.error f, s) => ⟨g.respondFailure f s, s.session.sent⟩

/-- Answer the request after a run to its end; a failure is the result. -/
def tryMake (g : Grid) (backend : Backend) (replies : List Reply) :
    Outcome (Except Failure Response) :=
  match (g.run backend).run.run (g.start replies) with
  | (.ok page, s) => ⟨.ok (g.respond page s), s.session.sent⟩
  | (.error f, s) => ⟨.error f, s.session.sent⟩

/-! ## Calls -/

/-- Whether a statement gets past the log: while debugging, only one whose text can be told. -/
def lists (g : Grid) (backend : Backend) (statement : Statement) : Bool :=
  !g.config.debug || (statement.inlined? backend).isSome

/-- What is left of a call that ends at the first statement which does not get past the log. -/
def Outcome.cut {α : Type} (lists : Statement → Bool) (o : Outcome α) : Outcome (Option α) where
  result := if o.sent.all lists then some o.result else none
  sent := o.sent.takeWhile lists

/-- The call as the caller sees it, where a failure is told in the response. -/
def served (g : Grid) (backend : Backend) (replies : List Reply) : Outcome (Option Response) :=
  (g.make backend replies).cut (g.lists backend)

/-- The call as the caller sees it, where a failure is the result. -/
def tryServed (g : Grid) (backend : Backend) (replies : List Reply) :
    Outcome (Option (Except Failure Response)) :=
  (g.tryMake backend replies).cut (g.lists backend)

end Grid

def BaseQuery.fetchCount (q : BaseQuery) (backend : Backend) (replies : List Reply) :
    Grid.Outcome (Except Failure UInt64) :=
  match (Session.start replies).send (q.countStatement backend) with
  | (session, .ok rows) => ⟨(countIn rows).mapError .execution, session.sent⟩
  | (session, .error error) => ⟨.error (.execution error), session.sent⟩

end ServerGrid
