import ServerGrid.Proofs.Grid.Course
import ServerGrid.Proofs.Query.Windows
import ServerGrid.Proofs.Response.Rows

/-!
# What rows are numbered from

Rows are numbered from the page that the engine applied. When it applied none (there is nothing to
page, paging is skipped, or every row is asked for), they are numbered from the first one, but the
query may carry a page of its own, which is fetched all the same. Main statement: `numbered_iff`,
the numbers follow the offset of the statement that was sent exactly when the engine applied its
page or that offset is zero.
-/

namespace ServerGrid

/-- The offset that the paging clause of a query tells, zero without one. -/
def BaseQuery.offset (q : BaseQuery) : UInt64 := (q.page.map (·.offset)).getD 0

/-- Offsets come from signed numbers, so that there is a number after each. -/
theorem Page.toNat_offset_succ_lt (start length : Option Int64) :
    (Page.ofRequest start length).offset.toNat + 1 < UInt64.size := by
  have hsize : UInt64.size = 2 ^ 64 := rfl
  have hoffset := toNat_offset_lt start length
  omega

namespace Grid

/-- Whether the engine applies its page. -/
def pages (g : Grid) (replies : List Reply) : Bool := g.hasRows replies && g.page?.isSome

section Offset

variable {g : Grid} {backend : Backend} {replies : List Reply}

theorem toNat_offset_succ_lt_of_page? {page : Page} (h : g.page? = some page) :
    page.offset.toNat + 1 < UInt64.size := by
  unfold page? at h
  split at h
  · cases h
  · unfold Request.page? at h
    split at h
    · cases h
      exact Page.toNat_offset_succ_lt _ _
    · cases h

theorem offset_paged {page : Page} (h : g.page? = some page) (q : BaseQuery) :
    (g.paged q).offset = page.offset := by
  rw [paged, h]
  rfl

/-- Rows are numbered from the offset of the page that the engine applied, or from zero. -/
theorem offset_of_settled {s : Settled} (h : g.settled backend replies = .ok s) :
    s.offset = (if g.pages replies then (g.fetchedQuery backend replies).offset else 0) ∧
      s.offset.toNat + 1 < UInt64.size := by
  have hzero : (0 : UInt64).toNat + 1 < UInt64.size := by decide
  have hsettling := g.settling backend replies
  rw [h] at hsettling
  unfold pages fetchedQuery
  cases hsettling with
  | arranged htotal hpos hfiltered hordered =>
    rw [hasRows_of_total htotal, decide_eq_true hpos]
    cases hpage : g.page? with
    | none => exact ⟨rfl, hzero⟩
    | some page => exact ⟨(offset_paged hpage _).symm, toNat_offset_succ_lt_of_page? hpage⟩
  | untouched htotal hnone =>
    rw [hasRows_of_total htotal, decide_eq_false hnone]
    exact ⟨rfl, hzero⟩

end Offset

/-- **What rows are numbered from.** A run that succeeds has fetched its page last, by a statement
that ends with the paging clause of its query. The rows carry the numbers that follow the offset of
that clause exactly when there are no rows, or when the engine applied its page or the offset is
zero, as long as there are such numbers. -/
theorem numbered_iff (g : Grid) (backend : Backend) (replies : List Reply) (r : Response)
    (hnumbered : g.shape.numbered = true) (hr : (g.tryMake backend replies).result = .ok r) :
    let fetched := g.fetchedQuery backend replies
    (g.tryMake backend replies).sent.getLast? =
        some (fetched.build backend (g.activeDialect backend)) ∧
      (∃ text, (fetched.build backend (g.activeDialect backend)).sql =
        text ++ BaseQuery.pageSuffix (g.activeDialect backend) fetched.page) ∧
      ((∀ (k : Nat) (row : Json), r.data[k]? = some row →
          rowIndex? row = some (Json.ofInt (fetched.offset.toNat + k + 1 : Nat))) ↔
        r.data = [] ∨ (g.pages replies = true ∨ fetched.offset = 0) ∧
          fetched.offset.toNat + r.data.length < UInt64.size) := by
  intro fetched
  rw [result_tryMake] at hr
  cases houtcome : g.outcome backend replies with
  | error f =>
    rw [houtcome] at hr
    cases hr
  | ok page =>
    rw [houtcome] at hr
    cases hr
    obtain ⟨s, rows, hsettled, -, rfl⟩ := of_outcome houtcome
    obtain ⟨hprepared, -⟩ := of_settled hsettled
    obtain ⟨hoffset, hroom⟩ := offset_of_settled hsettled
    refine ⟨?_, ⟨_, rfl⟩, ?_⟩
    · rw [tryMake_eq, statements_of_prepared hprepared]
      exact List.getLast?_concat
    · refine (g.shape.rowIndex?_apply_iff hnumbered rows hroom fetched.offset.toNat).trans ?_
      refine or_congr_right (and_congr_left fun _ => ?_)
      rw [UInt64.toNat_inj, hoffset]
      cases g.pages replies with
      | true => simp [fetched]
      | false => simp [fetched, eq_comm]

/-- The users with their numbers, from a start and with a length. -/
def numberedUsers (query : BaseQuery) (start length : Int64) : Grid :=
  (Grid.new query { Request.empty with
    draw := 1, start := some start, length := some length }).numberRows

/-- A count of the users, and the identifiers of some. -/
def usersFound (ids : List Int64) : List Reply :=
  [.rows [[("aggregate", .bigInt (some 100))]],
    .rows (ids.map fun id => [("id", .bigInt (some id))])]

/-- The page after forty rows is numbered from there. -/
theorem numbered_iff_thirdPage :
    let g := numberedUsers (.ofTable "users") 40 2
    let r := (g.make .sqlite (usersFound [41, 42])).result
    r.data.length = 2 ∧
      ∀ (k : Nat) (row : Json), r.data[k]? = some row →
        rowIndex? row = some (Json.ofInt (40 + k + 1 : Nat)) := by
  intro g r
  have hlength : r.data.length = 2 := by decide +kernel
  have hoffset : (g.fetchedQuery .sqlite (usersFound [41, 42])).offset.toNat = 40 := by
    decide +kernel
  have hiff := (numbered_iff g .sqlite (usersFound [41, 42]) r rfl
    (tryMake_of_not_isError _ _ _ (by decide +kernel))).2.2
  rw [hoffset, hlength] at hiff
  exact ⟨hlength, hiff.2 (.inr ⟨.inl (by decide +kernel), by decide⟩)⟩

/-- When every row is asked for, a query with a page of its own is fetched with it, but its rows are
numbered from the first one. -/
theorem numbered_from_first_past_offset :
    let g := numberedUsers ((BaseQuery.ofTable "users").paginate ⟨20, 10⟩) 0 (-1)
    let made := g.make .sqlite (usersFound [21])
    made.result.isError = false ∧
      made.sent.getLast?.map (·.sql) =
        some "SELECT \"users\".* FROM \"users\" LIMIT 10 OFFSET 20" ∧
      made.result.data.map rowIndex? = [some (Json.ofInt 1)] ∧
      ¬∀ (k : Nat) (row : Json), made.result.data[k]? = some row →
        rowIndex? row = some (Json.ofInt (20 + k + 1 : Nat)) := by
  intro g made
  have hdata : made.result.data =
      [.object [("id", Json.ofInt 21), ("DT_RowIndex", Json.ofInt 1)]] := by decide +kernel
  refine ⟨by decide +kernel, by decide +kernel, ?_, fun h => ?_⟩
  · rw [hdata]
    rfl
  · rw [hdata] at h
    exact absurd (h 0 _ rfl) (by decide)

end Grid

end ServerGrid
