import ServerGrid.Proofs.Grid.TwoRuns

/-!
# The course of a run

What a database answers is said by the position of the statement (`Session.answer`), and a state in
the course of a run by the statements that were sent (`Grid.reached`). Every step takes such a state
to such a state (`run_count`, `run_orderRecords` and their like). So a run is told without the
states in between: by the counts that are sent first (`Grid.counts`), by what is known once the page
is fetched (`Grid.settled`) and by what comes of it (`Grid.outcome`). Main statement: `run_start`.
-/

namespace ServerGrid

/-! ## Answers by position -/

namespace Session

/-- What the statement at an index is answered. -/
def answer (replies : List Reply) (index : Nat) : Except DriverError (List Row) :=
  match replies[index]? with
  | none => .error exhausted
  | some (.rows rows) => .ok rows
  | some (.failed error) => .error error

/-- The count that the statement at an index is answered. -/
def countAnswer (replies : List Reply) (index : Nat) : Except DriverError UInt64 :=
  answer replies index >>= countIn

/-- A session in which statements were sent. -/
def after (replies : List Reply) (sent : List Statement) : Session :=
  ⟨replies.drop sent.length, sent⟩

theorem send_after (replies : List Reply) (sent : List Statement) (st : Statement) :
    (after replies sent).send st = (after replies (sent ++ [st]), answer replies sent.length) := by
  have hnext : replies.drop (sent ++ [st]).length = (replies.drop sent.length).tail := by
    rw [List.length_append, List.length_singleton, List.tail_drop]
  have hhead : replies[sent.length]? = (replies.drop sent.length).head? := List.head?_drop.symm
  unfold send after answer
  rw [hnext, hhead]
  cases replies.drop sent.length with
  | nil => rfl
  | cons reply rest => cases reply <;> rfl

end Session

namespace Grid

open Run

/-! ## What steps do to the state -/

theorem run_count (g : Grid) (backend : Backend) (s : RunState) :
    (g.count backend).run.run s =
      (((s.session.send (s.query.countStatement backend)).2 >>= countIn).mapError .execution,
        { s with
          session := (s.session.send (s.query.countStatement backend)).1
          log := if g.config.debug then
            s.log ++ ((s.query.countStatement backend).inlined? backend).toList else s.log }) := by
  rcases hsend : s.session.send (s.query.countStatement backend) with ⟨session, result⟩
  unfold count
  simp only [run_bind, run_get, run_execute, hsend]
  cases result with
  | error error => rfl
  | ok rows =>
    have hsent : (Except.ok rows : Except DriverError (List Row)).mapError Failure.execution =
        .ok rows := rfl
    have hbind : (Except.ok rows >>= countIn) = countIn rows := rfl
    simp only [hsent, hbind]
    cases countIn rows <;> rfl

theorem run_orderRecords (g : Grid) (backend : Backend) (s : RunState) :
    (g.orderRecords backend).run.run s =
      ((g.ordered backend s.query).2.mapError .compilation,
        { s with query := (g.ordered backend s.query).1 }) := by
  rcases hordered : g.ordered backend s.query with ⟨q, result⟩
  unfold orderRecords
  simp only [run_bind, run_get, hordered, run_modify]
  cases result <;> rfl

/-- The page that is fetched, `none` for every row. -/
def page? (g : Grid) : Option Page := if g.skipsPaging then none else g.request.page?

/-- The query with its page. -/
def paged (g : Grid) (q : BaseQuery) : BaseQuery :=
  match g.page? with
  | some page => q.paginate page
  | none => q

theorem run_pageRecords (g : Grid) (s : RunState) :
    g.pageRecords.run.run s = (.ok (), { s with
      query := g.paged s.query
      offset := (g.page?.map (·.offset)).getD s.offset }) := by
  unfold pageRecords paged page?
  split
  · rfl
  · rw [run_modify, BaseQuery.applyPaging]
    cases g.request.page? <;> rfl

/-! ## States by what was sent -/

/-- A state in the course of a run, when statements were sent. -/
def reached (g : Grid) (backend : Backend) (replies : List Reply) (sent : List Statement)
    (q : BaseQuery) (applied : Bool) (offset : UInt64) : RunState where
  session := .after replies sent
  query := q
  log := if g.config.debug then sent.filterMap (·.inlined? backend) else []
  filterApplied := applied
  offset := offset

section Reached

variable {g : Grid} {backend : Backend} {replies : List Reply} {sent : List Statement}
  {q : BaseQuery} {applied : Bool} {offset : UInt64}

theorem start_eq : g.start replies = g.reached backend replies [] g.query false 0 := by
  unfold start reached
  rw [List.filterMap_nil, ite_self]
  rfl

theorem log_reached_concat (st : Statement) :
    (if g.config.debug then
        (g.reached backend replies sent q applied offset).log ++ (st.inlined? backend).toList
      else (g.reached backend replies sent q applied offset).log) =
      (g.reached backend replies (sent ++ [st]) q applied offset).log := by
  unfold reached
  cases g.config.debug with
  | false => rfl
  | true =>
    rw [List.filterMap_append, List.filterMap_cons]
    cases st.inlined? backend <;> rfl

theorem run_execute_reached (st : Statement) :
    (g.execute backend st).run.run (g.reached backend replies sent q applied offset) =
      ((Session.answer replies sent.length).mapError .execution,
        g.reached backend replies (sent ++ [st]) q applied offset) := by
  rw [run_execute, log_reached_concat]
  simp only [reached, Session.send_after]

theorem run_count_reached :
    (g.count backend).run.run (g.reached backend replies sent q applied offset) =
      ((Session.countAnswer replies sent.length).mapError .execution,
        g.reached backend replies (sent ++ [q.countStatement backend]) q applied offset) := by
  rw [run_count]
  simp only [log_reached_concat]
  simp only [reached, Session.send_after]
  rfl

theorem run_filterRecords_reached :
    (g.filterRecords backend).run.run (g.reached backend replies sent q applied offset) =
      (.ok (), g.reached backend replies sent (g.filtered backend q).1
        (applied || (g.filtered backend q).2) offset) := rfl

/-- Ordering and paging send nothing. -/
theorem run_arranged_reached (filtered : UInt64) :
    (do g.orderRecords backend; g.pageRecords; pure filtered : Run UInt64).run.run
        (g.reached backend replies sent q applied offset) =
      match (g.ordered backend q).2 with
      | .error fault => (.error (.compilation fault),
          g.reached backend replies sent (g.ordered backend q).1 applied offset)
      | .ok () => (.ok filtered, g.reached backend replies sent
          (g.paged (g.ordered backend q).1) applied ((g.page?.map (·.offset)).getD offset)) := by
  have hquery : (g.reached backend replies sent q applied offset).query = q := rfl
  rw [run_bind, run_orderRecords, hquery]
  cases (g.ordered backend q).2 with
  | error fault => rfl
  | ok =>
    change (do g.pageRecords; pure filtered : Run UInt64).run.run _ = _
    rw [run_bind, run_pageRecords]
    rfl

end Reached

/-! ## A run without the states in between -/

/-- The query that the page is fetched by when there are rows. -/
def answered (g : Grid) (backend : Backend) (q : BaseQuery) : BaseQuery :=
  g.paged (g.ordered backend (g.filtered backend q).1).1

/-- The filtered count, when it is taken at all. -/
def filteredCounts (g : Grid) (backend : Backend) (q : BaseQuery) : List Statement :=
  if g.filteredRecords.isNone && (g.filtered backend q).2 then
    [(g.filtered backend q).1.countStatement backend] else []

/-- The count of the base query, when it is taken at all. -/
def totalCounts (g : Grid) (backend : Backend) : List Statement :=
  if g.totalRecords.isNone then [g.query.countStatement backend] else []

/-- The total, as it was told or as it was counted first. -/
def total (g : Grid) (replies : List Reply) : Except DriverError UInt64 :=
  match g.totalRecords with
  | some total => .ok total
  | none => Session.countAnswer replies 0

/-- The filtered count, as it was told or as it was counted after the total. -/
def filteredTotal (g : Grid) (backend : Backend) (replies : List Reply) (total : UInt64) :
    Except DriverError UInt64 :=
  match g.filteredRecords with
  | some filtered => .ok filtered
  | none =>
    if (g.filtered backend g.query).2 then
      Session.countAnswer replies (g.totalCounts backend).length
    else .ok total

/-- Whether there are any rows, as far as that is known. -/
def hasRows (g : Grid) (replies : List Reply) : Bool :=
  match g.total replies with
  | .ok total => 0 < total
  | .error _ => false

/-- The counts of a run. -/
def counts (g : Grid) (backend : Backend) (replies : List Reply) : List Statement :=
  g.totalCounts backend ++ if g.hasRows replies then g.filteredCounts backend g.query else []

/-- What is known when the page is fetched. -/
structure Settled where
  total : UInt64
  filtered : UInt64
  query : BaseQuery
  /-- The offset that rows are numbered from. -/
  offset : UInt64

/-- What is known when the page is fetched, or why it is not. -/
def settled (g : Grid) (backend : Backend) (replies : List Reply) : Except Failure Settled := do
  let total ← (g.total replies).mapError .execution
  if 0 < total then
    let filtered ← (g.filteredTotal backend replies total).mapError .execution
    let () ← (g.ordered backend (g.filtered backend g.query).1).2.mapError .compilation
    return ⟨total, filtered, g.answered backend g.query, (g.page?.map (·.offset)).getD 0⟩
  else return ⟨total, total, g.query, 0⟩

/-- The statement that fetches the page, when it is sent at all. -/
def fetches (g : Grid) (backend : Backend) (replies : List Reply) : List Statement :=
  match g.settled backend replies with
  | .ok s => [s.query.build backend (g.activeDialect backend)]
  | .error _ => []

/-- The statements of a run. -/
def statements (g : Grid) (backend : Backend) (replies : List Reply) : List Statement :=
  g.counts backend replies ++ g.fetches backend replies

/-- What comes of a run. -/
def outcome (g : Grid) (backend : Backend) (replies : List Reply) : Except Failure PageData := do
  let s ← g.settled backend replies
  let rows ← (Session.answer replies (g.counts backend replies).length).mapError .execution
  return ⟨s.total, s.filtered, g.shape.apply (rows.map Row.toJson) s.offset⟩

/-- How it comes that the page is fetched, or that it is not. -/
inductive Settling (g : Grid) (backend : Backend) (replies : List Reply) :
    Except Failure Settled → Prop
  | uncounted {error : DriverError} (htotal : g.total replies = .error error) :
      Settling g backend replies (.error (.execution error))
  | unfiltered {total : UInt64} {error : DriverError} (htotal : g.total replies = .ok total)
      (hpos : 0 < total) (hfiltered : g.filteredTotal backend replies total = .error error) :
      Settling g backend replies (.error (.execution error))
  | unordered {total filtered : UInt64} {fault : CompileFault}
      (htotal : g.total replies = .ok total) (hpos : 0 < total)
      (hfiltered : g.filteredTotal backend replies total = .ok filtered)
      (hordered : (g.ordered backend (g.filtered backend g.query).1).2 = .error fault) :
      Settling g backend replies (.error (.compilation fault))
  | arranged {total filtered : UInt64} (htotal : g.total replies = .ok total) (hpos : 0 < total)
      (hfiltered : g.filteredTotal backend replies total = .ok filtered)
      (hordered : (g.ordered backend (g.filtered backend g.query).1).2 = .ok ()) :
      Settling g backend replies
        (.ok ⟨total, filtered, g.answered backend g.query, (g.page?.map (·.offset)).getD 0⟩)
  | untouched {total : UInt64} (htotal : g.total replies = .ok total) (hzero : ¬0 < total) :
      Settling g backend replies (.ok ⟨total, total, g.query, 0⟩)

theorem settling (g : Grid) (backend : Backend) (replies : List Reply) :
    g.Settling backend replies (g.settled backend replies) := by
  unfold settled
  cases htotal : g.total replies with
  | error error => exact .uncounted htotal
  | ok total =>
    by_cases hpos : 0 < total
    · change g.Settling backend replies (if 0 < total then _ else _)
      rw [if_pos hpos]
      cases hfiltered : g.filteredTotal backend replies total with
      | error error => exact .unfiltered htotal hpos hfiltered
      | ok filtered =>
        cases hordered : (g.ordered backend (g.filtered backend g.query).1).2 with
        | error fault => exact .unordered htotal hpos hfiltered hordered
        | ok => exact .arranged htotal hpos hfiltered hordered
    · change g.Settling backend replies (if 0 < total then _ else _)
      rw [if_neg hpos]
      exact .untouched htotal hpos

section Run

variable {g : Grid} {backend : Backend} {replies : List Reply}

/-! ### What was sent -/

theorem counts_of_error {error : DriverError} (htotal : g.total replies = .error error) :
    g.counts backend replies = g.totalCounts backend := by
  unfold counts hasRows
  rw [htotal]
  exact List.append_nil _

theorem counts_of_total {total : UInt64} (htotal : g.total replies = .ok total) :
    g.counts backend replies =
      g.totalCounts backend ++ if 0 < total then g.filteredCounts backend g.query else [] := by
  unfold counts hasRows
  rw [htotal]
  simp only [decide_eq_true_eq]

/-- A run that fails before the page is fetched has sent the counts. -/
theorem of_settled_error {f : Failure} (h : g.settled backend replies = .error f) :
    g.outcome backend replies = .error f ∧
      g.statements backend replies = g.counts backend replies := by
  unfold outcome statements fetches
  rw [h]
  exact ⟨rfl, List.append_nil _⟩

theorem of_settled_ok {s : Settled} (h : g.settled backend replies = .ok s) :
    (g.outcome backend replies = do
      let rows ← (Session.answer replies (g.counts backend replies).length).mapError .execution
      return ⟨s.total, s.filtered, g.shape.apply (rows.map Row.toJson) s.offset⟩) ∧
      g.statements backend replies =
        g.counts backend replies ++ [s.query.build backend (g.activeDialect backend)] := by
  unfold outcome statements fetches
  rw [h]
  exact ⟨rfl, rfl⟩

/-! ### The run itself -/

theorem run_prepare (total : UInt64) :
    (g.prepare backend total).run.run
        (g.reached backend replies (g.totalCounts backend) g.query false 0) =
      match g.filteredTotal backend replies total with
      | .error error => (.error (.execution error),
          g.reached backend replies (g.totalCounts backend ++ g.filteredCounts backend g.query)
            (g.filtered backend g.query).1 (g.filtered backend g.query).2 0)
      | .ok filtered =>
        match (g.ordered backend (g.filtered backend g.query).1).2 with
        | .error fault => (.error (.compilation fault),
            g.reached backend replies (g.totalCounts backend ++ g.filteredCounts backend g.query)
              (g.ordered backend (g.filtered backend g.query).1).1
              (g.filtered backend g.query).2 0)
        | .ok () => (.ok filtered,
            g.reached backend replies (g.totalCounts backend ++ g.filteredCounts backend g.query)
              (g.answered backend g.query) (g.filtered backend g.query).2
              ((g.page?.map (·.offset)).getD 0)) := by
  unfold prepare filteredTotal filteredCounts
  rw [run_bind, run_filterRecords_reached]
  simp only [Bool.false_or]
  cases g.filteredRecords with
  | some filtered =>
    simp only [Option.isNone_some, Bool.false_and, Bool.false_eq_true, ite_false, List.append_nil]
    exact run_arranged_reached filtered
  | none =>
    simp only [Option.isNone_none, Bool.true_and]
    rw [run_bind, run_get]
    -- whether anything is counted is read from the state
    change (if (g.filtered backend g.query).2 = true then _ else _ : Run UInt64).run.run _ = _
    cases (g.filtered backend g.query).2 with
    | true =>
      simp only [ite_true]
      rw [run_bind, run_count_reached]
      cases Session.countAnswer replies (g.totalCounts backend).length with
      | error error => rfl
      | ok filtered => exact run_arranged_reached filtered
    | false =>
      simp only [Bool.false_eq_true, ite_false, List.append_nil]
      exact run_arranged_reached total

theorem run_fetch_reached (total filtered : UInt64) {sent : List Statement} {q : BaseQuery}
    {applied : Bool} {offset : UInt64} :
    (g.fetch backend total filtered).run.run
        (g.reached backend replies sent q applied offset) =
      ((do
          let rows ← (Session.answer replies sent.length).mapError .execution
          return ⟨total, filtered, g.shape.apply (rows.map Row.toJson) offset⟩),
        g.reached backend replies (sent ++ [q.build backend (g.activeDialect backend)]) q applied
          offset) := by
  unfold fetch
  rw [run_bind, run_get]
  change (g.execute backend (q.build backend (g.activeDialect backend)) >>= _).run.run _ = _
  rw [run_bind, run_execute_reached]
  cases Session.answer replies sent.length <;> rfl

theorem run_eq_total : (g.run backend).run.run (g.start replies) =
    match g.total replies with
    | .error error => (.error (.execution error),
        g.reached backend replies (g.totalCounts backend) g.query false 0)
    | .ok total => (g.answer backend total).run.run
        (g.reached backend replies (g.totalCounts backend) g.query false 0) := by
  rw [run_eq_answer, run_bind, start_eq]
  unfold total totalCounts
  cases g.totalRecords with
  | some total => rfl
  | none =>
    simp only [run_count_reached, Option.isNone_none, if_true, List.length_nil, List.nil_append]
    cases Session.countAnswer replies 0 <;> rfl

/-- **A run without the states in between.** What comes of it is the outcome, and the statements of
the run have been sent, and logged while debugging. -/
theorem run_start (g : Grid) (backend : Backend) (replies : List Reply) :
    ∃ q applied offset, (g.run backend).run.run (g.start replies) =
      (g.outcome backend replies,
        g.reached backend replies (g.statements backend replies) q applied offset) := by
  rw [run_eq_total]
  have h := g.settling backend replies
  generalize hsettled : g.settled backend replies = result at h
  cases h with
  | uncounted htotal =>
    obtain ⟨houtcome, hstatements⟩ := of_settled_error hsettled
    rw [houtcome, hstatements, counts_of_error htotal, htotal]
    exact ⟨_, _, _, rfl⟩
  | unfiltered htotal hpos hfiltered =>
    obtain ⟨houtcome, hstatements⟩ := of_settled_error hsettled
    rw [houtcome, hstatements, counts_of_total htotal, if_pos hpos, htotal]
    simp only [answer, if_pos hpos, run_bind, run_prepare, hfiltered]
    exact ⟨_, _, _, rfl⟩
  | unordered htotal hpos hfiltered hordered =>
    obtain ⟨houtcome, hstatements⟩ := of_settled_error hsettled
    rw [houtcome, hstatements, counts_of_total htotal, if_pos hpos, htotal]
    simp only [answer, if_pos hpos, run_bind, run_prepare, hfiltered, hordered]
    exact ⟨_, _, _, rfl⟩
  | arranged htotal hpos hfiltered hordered =>
    obtain ⟨houtcome, hstatements⟩ := of_settled_ok hsettled
    rw [houtcome, hstatements, counts_of_total htotal, if_pos hpos, htotal]
    simp only [answer, if_pos hpos, run_bind, run_prepare, hfiltered, hordered]
    exact ⟨_, _, _, run_fetch_reached _ _⟩
  | untouched htotal hzero =>
    obtain ⟨houtcome, hstatements⟩ := of_settled_ok hsettled
    rw [houtcome, hstatements, counts_of_total htotal, if_neg hzero, List.append_nil, htotal]
    simp only [answer, if_neg hzero]
    rw [run_bind]
    exact ⟨_, _, _, run_fetch_reached _ _⟩

end Run

/-! ## Responses -/

variable (g : Grid) (backend : Backend) (replies : List Reply)

/-- What a response reads of the last state of a run: what was sent and logged. -/
def finished : RunState :=
  g.reached backend replies (g.statements backend replies) g.query false 0

theorem make_eq : g.make backend replies =
    ⟨match g.outcome backend replies with
      | .ok page => g.respond page (g.finished backend replies)
      | .error f => g.respondFailure f (g.finished backend replies),
      g.statements backend replies⟩ := by
  obtain ⟨q, applied, offset, hrun⟩ := run_start g backend replies
  unfold make
  rw [hrun]
  cases g.outcome backend replies <;> rfl

theorem tryMake_eq : g.tryMake backend replies =
    ⟨(g.outcome backend replies).map (g.respond · (g.finished backend replies)),
      g.statements backend replies⟩ := by
  obtain ⟨q, applied, offset, hrun⟩ := run_start g backend replies
  unfold tryMake
  rw [hrun]
  cases g.outcome backend replies <;> rfl

variable {g backend replies}

/-- Grids that match come to the same. -/
theorem Match.outcome_eq {γ : Type} {view : Statement → γ} {related : BaseQuery → BaseQuery → Prop}
    {g' : Grid} (h : Grid.Match backend view related g g') (replies : List Reply) :
    g.outcome backend replies = g'.outcome backend replies := by
  obtain ⟨q, applied, offset, hrun⟩ := run_start g backend replies
  obtain ⟨q', applied', offset', hrun'⟩ := run_start g' backend replies
  have hsame := (h.agree_run _ _ (h.start replies)).1
  rw [hrun, hrun'] at hsame
  exact hsame

/-- Grids that match statement by statement send the same. -/
theorem Match.statements_eq {related : BaseQuery → BaseQuery → Prop} {g' : Grid}
    (h : Grid.Match backend id related g g') (replies : List Reply) :
    g.statements backend replies = g'.statements backend replies := by
  have hsent := view_sent_make h replies
  rw [List.map_id, List.map_id, make_eq, make_eq] at hsent
  exact hsent

/-- A run that succeeds has fetched the page. -/
theorem of_outcome {page : PageData} (h : g.outcome backend replies = .ok page) :
    ∃ s rows, g.settled backend replies = .ok s ∧
      Session.answer replies (g.counts backend replies).length = .ok rows ∧
      page = ⟨s.total, s.filtered, g.shape.apply (rows.map Row.toJson) s.offset⟩ := by
  cases hsettled : g.settled backend replies with
  | error f =>
    rw [(of_settled_error hsettled).1] at h
    cases h
  | ok s =>
    rw [(of_settled_ok hsettled).1] at h
    cases hanswer : Session.answer replies (g.counts backend replies).length with
    | error error =>
      rw [hanswer] at h
      cases h
    | ok rows =>
      rw [hanswer] at h
      cases h
      exact ⟨s, rows, rfl, rfl, rfl⟩

theorem sent_make_of_ok (h : (g.make backend replies).result.error = none) :
    (g.make backend replies).sent =
      (if g.totalRecords.isNone then [g.query.countStatement backend] else []) ++
        if 0 < (g.make backend replies).result.recordsTotal then
          g.filteredCounts backend g.query ++
            [(g.answered backend g.query).build backend (g.activeDialect backend)]
        else [g.query.build backend (g.activeDialect backend)] := by
  rw [make_eq] at h ⊢
  cases houtcome : g.outcome backend replies with
  | error f =>
    rw [houtcome] at h
    cases h
  | ok page =>
    obtain ⟨s, rows, hsettled, -, rfl⟩ := of_outcome houtcome
    have h := g.settling backend replies
    rw [hsettled] at h
    change g.statements backend replies = g.totalCounts backend ++ if 0 < s.total then _ else _
    rw [(of_settled_ok hsettled).2]
    cases h with
    | arranged htotal hpos hfiltered hordered =>
      rw [counts_of_total htotal, if_pos hpos, if_pos hpos, List.append_assoc]
    | untouched htotal hzero =>
      rw [counts_of_total htotal, if_neg hzero, if_neg hzero, List.append_nil]

end Grid

end ServerGrid
