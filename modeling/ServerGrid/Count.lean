import ServerGrid.BaseQuery

/-!
# Count statements

The rows of a statement are counted from outside, with the statement as a derived table. Unless the
text of the statement contains a word that makes the select list matter, the list gives way to a
constant.
-/

namespace ServerGrid

/-- The column that the count is read from. -/
def countColumn : String := "aggregate"

/-- The words that keep the select list. -/
def complexMarkers : List String := ["union", "having", "distinct", "order by", "group by"]

/-- Whether a text contains one of the words, in any case and anywhere. -/
def isComplexQuery (sql : String) : Bool :=
  let lower := Text.lowercase sql
  complexMarkers.any fun marker => Text.contains marker lower

namespace Select

/-- The statement with a constant in place of its select list. -/
def withConstantItem (s : Select) : Select :=
  { s with items := [.raw "'1'" (some "row_count")] }

/-- The statement whose rows are counted. -/
def counted (s : Select) (backend : Backend) : Select :=
  if isComplexQuery (s.statement backend).sql then s else s.withConstantItem

def countOf (s : Select) : Select :=
  { Select.empty with
    items := [.raw "COUNT(*)" (some countColumn)]
    source := .derived s "count_row_table" }

end Select

/-- The statement that counts the rows of a base query, without its sort keys and page. -/
def BaseQuery.countStatement (q : BaseQuery) (backend : Backend) : Statement :=
  (q.statement.counted backend).countOf.statement backend

end ServerGrid
