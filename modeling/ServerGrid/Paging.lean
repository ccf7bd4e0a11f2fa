import ServerGrid.BaseQuery
import ServerGrid.Request

/-!
# Paging

The page that a request asks for: a missing or negative start counts as the first row, and a missing
or non-positive length as ten rows. Length -1 asks for every row.
-/

namespace ServerGrid

/-- The page length when the client sends none that is positive. -/
def defaultPageLength : UInt64 := 10

/-- The page for a start and a length as the client sent them. -/
def Page.ofRequest (start length : Option Int64) : Page where
  offset :=
    match start with
    | some n => if 0 ≤ n.toInt then .ofNat n.toInt.toNat else 0
    | none => 0
  limit :=
    match length with
    | some n => if 0 < n.toInt then .ofNat n.toInt.toNat else defaultPageLength
    | none => defaultPageLength

/-- The page that a request asks for, `none` for every row. -/
def Request.page? (r : Request) : Option Page :=
  if r.isPaged then some (.ofRequest r.start r.length) else none

/-- Fetch the page that a request asks for, and tell which one. -/
def BaseQuery.applyPaging (q : BaseQuery) (r : Request) : BaseQuery × Option Page :=
  match r.page? with
  | some page => (q.paginate page, some page)
  | none => (q, none)

end ServerGrid
