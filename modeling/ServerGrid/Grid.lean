import ServerGrid.Column.Registry
import ServerGrid.Config
import ServerGrid.Request
import ServerGrid.RowShape

/-!
# Grids

A grid answers one request: it holds the base query, the request and what the application has
declared.
-/

namespace ServerGrid

/-- A change of the base query by the application. -/
abbrev QueryCallback := BaseQuery → BaseQuery

/-- One request with everything needed to answer it. -/
structure Grid where
  query : BaseQuery
  request : Request
  config : Config
  /-- The dialect of raw fragments; without one, that of the backend. -/
  dialect : Option Dialect
  registry : Registry
  shape : RowShape
  /-- Runs before the searches. -/
  filterCallback : Option QueryCallback
  /-- Whether the global keyword is searched. -/
  searchesGlobally : Bool
  /-- Takes the place of the ordering. -/
  orderCallback : Option QueryCallback
  skipsPaging : Bool
  /-- The total to tell instead of counting. -/
  totalRecords : Option UInt64
  /-- The filtered count to tell instead of counting. -/
  filteredRecords : Option UInt64
  /-- Further entries of the response. -/
  extra : Keyed Json

namespace Grid

/-- A grid without any declarations. -/
def new (query : BaseQuery) (request : Request) : Grid where
  query := query
  request := request
  config := .default
  dialect := none
  registry := .empty
  shape := .plain
  filterCallback := none
  searchesGlobally := true
  orderCallback := none
  skipsPaging := false
  totalRecords := none
  filteredRecords := none
  extra := []

def withConfig (g : Grid) (config : Config) : Grid := { g with config := config }

def withDialect (g : Grid) (dialect : Dialect) : Grid := { g with dialect := some dialect }

/-! ## Filtering and ordering -/

/-- Filter by a callback; the global keyword is still searched if `globalSearch` says so. -/
def filter (g : Grid) (callback : QueryCallback) (globalSearch : Bool) : Grid :=
  { g with filterCallback := some callback, searchesGlobally := globalSearch }

def filterColumn (g : Grid) (column : String) (callback : FilterCallback) : Grid :=
  { g with registry := g.registry.registerFilter column callback }

def order (g : Grid) (callback : QueryCallback) : Grid := { g with orderCallback := some callback }

def orderColumn (g : Grid) (column sql : String) (bindings : List Value) : Grid :=
  { g with registry := g.registry.registerOrder column ⟨sql, bindings⟩ }

/-- Order columns by one raw template, in which `:column` takes the name of each. -/
def orderColumns (g : Grid) (columns : List String) (sql : String) (bindings : List Value) : Grid :=
  columns.foldl (fun g column =>
    g.orderColumn column (Text.replaceAll ":column" column sql) bindings) g

/-- Keep columns from the default search and ordering. -/
def hide (g : Grid) (columns : List String) : Grid :=
  { g with registry := g.registry.hide columns }

/-- Restrict the default search and ordering to columns. -/
def allowOnly (g : Grid) (columns : List String) : Grid :=
  { g with registry := g.registry.allowOnly columns }

def modifyQuery (g : Grid) (f : QueryCallback) : Grid := { g with query := f g.query }

/-! ## Rows and the response -/

def addColumn (g : Grid) (name : String) (content : Content) (position : Option Nat) : Grid :=
  { g with shape := g.shape.addColumn name content position }

def editColumn (g : Grid) (name : String) (content : Content) : Grid :=
  { g with shape := g.shape.editColumn name content }

def removeColumns (g : Grid) (names : List String) : Grid :=
  { g with shape := names.foldl .removeColumn g.shape }

def numberRows (g : Grid) : Grid := { g with shape := g.shape.numberRows }

def setRowId (g : Grid) (rowId : RowId) : Grid := { g with shape := g.shape.setRowId rowId }

def withExtra (g : Grid) (key : String) (value : Json) : Grid :=
  { g with extra := g.extra.set key value }

def skipPaging (g : Grid) : Grid := { g with skipsPaging := true }

def setTotalRecords (g : Grid) (n : UInt64) : Grid := { g with totalRecords := some n }

def setFilteredRecords (g : Grid) (n : UInt64) : Grid := { g with filteredRecords := some n }

end Grid

end ServerGrid
