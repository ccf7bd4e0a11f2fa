import ServerGrid.Proofs.Grid.Course

/-!
# What failures tell

A run can fail on each of its statements and on its ordering, after statements were logged, counts
were answered and sort keys were added. Without debugging nothing of that is told: the response is
the one for the draw and the configured message alone (`Response.failed`), and a failure of the
database has one HTTP response. Main statement: `failures_alike`, for two runs of any grids.
-/

namespace ServerGrid

/-- The response to a request that failed, when nothing is told but a message. -/
def Response.failed (draw : UInt64) (message : String) : Response where
  draw := draw
  recordsTotal := 0
  recordsFiltered := 0
  data := []
  error := some message
  queries := none
  input := none
  extra := []

namespace Grid

section Failed

variable {g : Grid} {backend : Backend} {replies : List Reply} {f : Failure}

/-- While debugging, the response tells of the failure, of the statements and of the request. -/
theorem make_of_error (h : (g.tryMake backend replies).result = .error f) :
    (g.make backend replies).result =
      { Response.failed g.request.draw (g.errorText f) with
        queries := (g.make backend replies).result.queries
        input := g.input } := by
  rw [result_tryMake_error_iff] at h
  rw [make_eq, h]
  rfl

theorem make_of_error_of_not_debug (hdebug : g.config.debug = false)
    (h : (g.tryMake backend replies).result = .error f) :
    (g.make backend replies).result = .failed g.request.draw g.config.clientMessage := by
  have hqueries : (g.make backend replies).result.queries = none := by
    rw [queries_make, hdebug]
    rfl
  have hinput : g.input = none := by
    rw [input, hdebug]
    rfl
  have htext : g.errorText f = g.config.clientMessage := by
    rw [errorText, hdebug]
    rfl
  rw [make_of_error h, hqueries, hinput, htext]
  rfl

end Failed

/-- **Failures are alike.** Runs that fail without debugging are answered the same when the draws
and the configured messages are, whatever the grids, the databases and the causes may be; and all
failures of a database have the same HTTP response. -/
theorem failures_alike :
    (∀ (g g' : Grid) (backend backend' : Backend) (replies replies' : List Reply) (f f' : Failure),
      g.request.draw = g'.request.draw → g.config.errorMessage = g'.config.errorMessage →
      g.config.debug = false → g'.config.debug = false →
      (g.tryMake backend replies).result = .error f →
      (g'.tryMake backend' replies').result = .error f' →
        (g.make backend replies).result = (g'.make backend' replies').result ∧
          (g.make backend replies).result =
            .failed g.request.draw (g.config.errorMessage.getD "Server Error")) ∧
    ∀ error error' : DriverError,
      (Failure.execution error).toHttp = (Failure.execution error').toHttp := by
  refine ⟨?_, fun error error' => rfl⟩
  intro g g' backend backend' replies replies' f f' hdraw hmessage hdebug hdebug' hf hf'
  have hfailed := make_of_error_of_not_debug hdebug hf
  have hsame : (g.make backend replies).result = (g'.make backend' replies').result :=
    calc (g.make backend replies).result
        = .failed g.request.draw g.config.clientMessage := hfailed
      _ = .failed g'.request.draw g'.config.clientMessage := by
        rw [hdraw, Config.clientMessage, hmessage, Config.clientMessage]
      _ = (g'.make backend' replies').result := (make_of_error_of_not_debug hdebug' hf').symm
  exact ⟨hsame, hfailed⟩

/-- The users by a column that was not sent. -/
def misorderedUsers : Grid :=
  (Grid.new (.ofTable "users") { Request.empty with
    draw := 7
    columns := [⟨"name", none, true, true, ⟨"ann", false⟩⟩]
    order := [⟨4, "asc"⟩] }).withExtra "tenant" (.string "acme")

/-- Both counts of the users. -/
def userCounts : List Reply :=
  [.rows [[("aggregate", .bigInt (some 5))]], .rows [[("aggregate", .bigInt (some 2))]]]

/-- The posts with their numbers. -/
def numberedPosts : Grid :=
  (Grid.new (.ofTable "posts") { Request.empty with draw := 7 }).numberRows

/-- A run that fails on the ordering after both counts, and one of another grid that fails on the
database at once. -/
theorem failures_alike_users_posts :
    (misorderedUsers.make .sqlite userCounts).sent.length = 2 ∧
      (numberedPosts.make .postgres [.failed (.query "no such table")]).sent.length = 1 ∧
      (misorderedUsers.make .sqlite userCounts).result =
        (numberedPosts.make .postgres [.failed (.query "no such table")]).result := by
  obtain ⟨f, hordering⟩ := (isError_make_iff misorderedUsers .sqlite userCounts).1
    (by decide +kernel)
  obtain ⟨f', hdatabase⟩ := (isError_make_iff numberedPosts .postgres
    [.failed (.query "no such table")]).1 (by decide +kernel)
  refine ⟨by decide +kernel, by decide +kernel, ?_⟩
  exact (failures_alike.1 misorderedUsers numberedPosts .sqlite .postgres userCounts
    [.failed (.query "no such table")] f f' rfl rfl rfl rfl hordering hdatabase).1

end Grid

end ServerGrid
