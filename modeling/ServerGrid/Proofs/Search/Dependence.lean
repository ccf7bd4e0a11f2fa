import ServerGrid.Ordering
import ServerGrid.Search

/-!
# What searches and orderings depend on

A search reads what it is given through the conditions that it adds, and an ordering through the
sort keys of its directives. Main statements: `searchColumns_congr`, `searchGlobally_congr` and
`orderDirectives_congr`, and `orderDirectives_filter`, which leaves out directives without a sort
key.
-/

namespace ServerGrid.BaseQuery

section Search

variable (ctx ctx' : SearchContext)

theorem searchColumns_congr (h : ctx.columnCondition = ctx'.columnCondition) (q : BaseQuery) :
    q.searchColumns ctx = q.searchColumns ctx' :=
  congrArg q.addNonEmpty h

theorem searchTerms_congr (h : ∀ term, ctx.termCondition term = ctx'.termCondition term) :
    ∀ (terms : List String) (found : BaseQuery × Bool),
      searchTerms ctx found terms = searchTerms ctx' found terms
  | [], _ => rfl
  | term :: rest, (q, applied) => by
    simp only [searchTerms, h term]
    exact searchTerms_congr h rest _

theorem searchGlobally_congr (hsearchable : ctx.request.isSearchable = ctx'.request.isSearchable)
    (hterms : ctx.terms = ctx'.terms)
    (hterm : ∀ term, ctx.termCondition term = ctx'.termCondition term) (q : BaseQuery) :
    q.searchGlobally ctx = q.searchGlobally ctx' := by
  unfold searchGlobally
  rw [hsearchable, hterms, searchTerms_congr ctx ctx' hterm]

end Search

section Order

variable (ctx ctx' : OrderContext)

theorem orderDirectives_congr (h : ∀ d, ctx.clause d = ctx'.clause d) :
    ∀ (directives : List OrderDirective) (q : BaseQuery),
      q.orderDirectives ctx directives = q.orderDirectives ctx' directives
  | [], _ => rfl
  | d :: rest, q => by
    rw [orderDirectives, orderDirectives, h d]
    split
    · rfl
    · exact orderDirectives_congr h rest q
    · exact orderDirectives_congr h rest _

variable {ctx}

/-- Directives without a sort key may be left out. -/
theorem orderDirectives_filter {keeps : OrderDirective → Bool}
    (h : ∀ d, keeps d = false → ctx.clause d = .ok none) :
    ∀ (directives : List OrderDirective) (q : BaseQuery),
      q.orderDirectives ctx (directives.filter keeps) = q.orderDirectives ctx directives
  | [], _ => rfl
  | d :: rest, q => by
    cases hd : keeps d with
    | false =>
      rw [List.filter_cons_of_neg (Bool.eq_false_iff.1 hd), orderDirectives, h d hd]
      exact orderDirectives_filter h rest q
    | true =>
      rw [List.filter_cons_of_pos hd, orderDirectives, orderDirectives]
      split
      · rfl
      · exact orderDirectives_filter h rest q
      · exact orderDirectives_filter h rest _

end Order

end ServerGrid.BaseQuery
