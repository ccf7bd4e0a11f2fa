import ServerGrid.Proofs.Grid.Trace
import ServerGrid.Proofs.Search.Dependence

/-!
# What a run sends, and what it tells of it

A run sends its counts and then fetches the page, and it stops at the first statement that fails
(`Grid.StatementFails`) or when the ordering cannot be compiled. So the page is fetched exactly when
nothing before it failed (`Grid.Prepared`), and how a run ends says where it stopped. Of a run that
is answered, the log lists the statements (`queries_make`), whether it is kept changes nothing else
(`sameAnswer_withDebug`), and a failure is told as an error (`isError_make_iff`).
-/

namespace ServerGrid.Grid

/-! ## How the counts are answered -/

/-- A count is told, or it is what the next statement is answered. -/
inductive Taken (replies : List Reply) (before : Nat) :
    List Statement → Except DriverError UInt64 → Prop
  | told (n : UInt64) : Taken replies before [] (.ok n)
  | asked (st : Statement) : Taken replies before [st] (Session.countAnswer replies before)

/-- The statements before an index are answered by a number. -/
def CountedBefore (replies : List Reply) (index : Nat) : Prop :=
  ∀ i < index, ∃ n, Session.countAnswer replies i = .ok n

theorem CountedBefore.ne_error {replies : List Reply} {index later : Nat}
    (h : CountedBefore replies later) (hindex : index < later) (error : DriverError) :
    Session.countAnswer replies index ≠ .error error := by
  obtain ⟨n, hn⟩ := h index hindex
  rw [hn]
  exact nofun

namespace Taken

variable {replies : List Reply} {before : Nat} {sent : List Statement}
  {result : Except DriverError UInt64}

theorem length_le (h : Taken replies before sent result) : sent.length ≤ 1 := by
  cases h with
  | told n => exact Nat.zero_le 1
  | asked st => exact Nat.le_refl 1

theorem of_error {error : DriverError} (h : Taken replies before sent result)
    (herror : result = .error error) :
    sent.length = 1 ∧ Session.countAnswer replies before = .error error := by
  cases h with
  | told n => cases herror
  | asked st => exact ⟨rfl, herror⟩

theorem countedBefore {n : UInt64} (h : Taken replies before sent result)
    (hbefore : CountedBefore replies before) (hok : result = .ok n) :
    CountedBefore replies (before + sent.length) := by
  cases h with
  | told => exact hbefore
  | asked st =>
    intro i hi
    rcases Nat.lt_or_eq_of_le (Nat.le_of_lt_succ hi) with hlt | rfl
    · exact hbefore i hlt
    · exact ⟨n, hok⟩

end Taken

section Counts

variable (g : Grid) (backend : Backend) (replies : List Reply)

theorem taken_total : Taken replies 0 (g.totalCounts backend) (g.total replies) := by
  unfold totalCounts total
  cases g.totalRecords with
  | some told => exact .told told
  | none => exact .asked _

theorem taken_filteredTotal (total : UInt64) :
    Taken replies (g.totalCounts backend).length (g.filteredCounts backend g.query)
      (g.filteredTotal backend replies total) := by
  unfold filteredCounts filteredTotal
  cases g.filteredRecords with
  | some told => exact .told told
  | none =>
    cases (g.filtered backend g.query).2 with
    | false => exact .told total
    | true => exact .asked _

theorem length_counts_le : (g.counts backend replies).length ≤ 2 := by
  have htotal := (g.taken_total backend replies).length_le
  have hfiltered := (g.taken_filteredTotal backend replies 0).length_le
  unfold counts
  rw [List.length_append]
  split
  · omega
  · rw [List.length_nil]
    omega

variable {g backend replies}

theorem countedBefore_total {total : UInt64} (h : g.total replies = .ok total) :
    CountedBefore replies (g.totalCounts backend).length := by
  have hnone : CountedBefore replies 0 := fun i hi => absurd hi (Nat.not_lt_zero i)
  have hcounted := (g.taken_total backend replies).countedBefore hnone h
  rwa [Nat.zero_add] at hcounted

/-- A run that fails on the database before the page is fetched fails at its last count. -/
theorem of_settled_execution {error : DriverError}
    (h : g.settled backend replies = .error (.execution error)) :
    ∃ last, (g.counts backend replies).length = last + 1 ∧ CountedBefore replies last ∧
      Session.countAnswer replies last = .error error := by
  have hsettling := g.settling backend replies
  rw [h] at hsettling
  cases hsettling with
  | uncounted htotal =>
    obtain ⟨hlength, hanswer⟩ := (g.taken_total backend replies).of_error htotal
    refine ⟨0, ?_, fun i hi => absurd hi (Nat.not_lt_zero i), hanswer⟩
    rw [counts_of_error htotal, hlength]
  | unfiltered htotal hpos hfiltered =>
    obtain ⟨hlength, hanswer⟩ := (g.taken_filteredTotal backend replies _).of_error hfiltered
    refine ⟨_, ?_, countedBefore_total htotal, hanswer⟩
    rw [counts_of_total htotal, if_pos hpos, List.length_append, hlength]

/-- Every count of a run that fails otherwise, or not at all, is answered by a number. -/
theorem countedBefore_counts
    (h : ∀ error, g.settled backend replies ≠ .error (.execution error)) :
    CountedBefore replies (g.counts backend replies).length := by
  have hall : ∀ {total filtered : UInt64}, g.total replies = .ok total → 0 < total →
      g.filteredTotal backend replies total = .ok filtered →
        CountedBefore replies (g.counts backend replies).length := by
    intro total filtered htotal hpos hfiltered
    rw [counts_of_total htotal, if_pos hpos, List.length_append]
    exact (g.taken_filteredTotal backend replies total).countedBefore
      (countedBefore_total htotal) hfiltered
  have hsettling := g.settling backend replies
  generalize g.settled backend replies = result at h hsettling
  cases hsettling with
  | uncounted htotal => exact absurd rfl (h _)
  | unfiltered htotal hpos hfiltered => exact absurd rfl (h _)
  | unordered htotal hpos hfiltered hordered => exact hall htotal hpos hfiltered
  | arranged htotal hpos hfiltered hordered => exact hall htotal hpos hfiltered
  | untouched htotal hzero =>
    rw [counts_of_total htotal, if_neg hzero, List.append_nil]
    exact countedBefore_total htotal

end Counts

/-! ## Where a run stops -/

section Stops

variable (g : Grid) (backend : Backend) (replies : List Reply)

/-- Nothing fails before the page is fetched: every count is answered by a number, and the ordering,
if there is anything to order, can be compiled. -/
def Prepared : Prop :=
  CountedBefore replies (g.counts backend replies).length ∧
    (g.hasRows replies = true → (g.ordered backend (g.filtered backend g.query).1).2 = .ok ())

/-- The statement at an index fails: the driver says so, or the answer to a count is no number. -/
def StatementFails (index : Nat) (error : DriverError) : Prop :=
  if index < (g.counts backend replies).length then
    Session.countAnswer replies index = .error error
  else Session.answer replies index = .error error

/-- The query that the page is fetched by. -/
def fetchedQuery : BaseQuery :=
  if g.hasRows replies then g.answered backend g.query else g.query

/-- The statement that fetches the page. -/
def fetchStatement : Statement :=
  (g.fetchedQuery backend replies).build backend (g.activeDialect backend)

variable {g backend replies}

theorem hasRows_of_total {total : UInt64} (h : g.total replies = .ok total) :
    g.hasRows replies = decide (0 < total) := by
  unfold hasRows
  rw [h]

/-- What is known to fetch the page by. -/
theorem of_settled {s : Settled} (h : g.settled backend replies = .ok s) :
    g.Prepared backend replies ∧ s.query = g.fetchedQuery backend replies := by
  have hcounts : CountedBefore replies (g.counts backend replies).length :=
    countedBefore_counts fun error herror => nomatch h.symm.trans herror
  have hsettling := g.settling backend replies
  rw [h] at hsettling
  unfold Prepared fetchedQuery
  cases hsettling with
  | arranged htotal hpos hfiltered hordered =>
    rw [hasRows_of_total htotal, decide_eq_true hpos]
    exact ⟨⟨hcounts, fun _ => hordered⟩, rfl⟩
  | untouched htotal hzero =>
    rw [hasRows_of_total htotal, decide_eq_false hzero]
    exact ⟨⟨hcounts, fun hrows => absurd hrows Bool.false_ne_true⟩, rfl⟩

/-- A run that fails on the ordering has had its counts answered. -/
theorem of_settled_compilation {fault : CompileFault}
    (h : g.settled backend replies = .error (.compilation fault)) :
    CountedBefore replies (g.counts backend replies).length ∧ g.hasRows replies = true ∧
      (g.ordered backend (g.filtered backend g.query).1).2 = .error fault := by
  have hcounts : CountedBefore replies (g.counts backend replies).length :=
    countedBefore_counts fun error herror => nomatch h.symm.trans herror
  have hsettling := g.settling backend replies
  rw [h] at hsettling
  cases hsettling with
  | unordered htotal hpos hfiltered hordered =>
    rw [hasRows_of_total htotal, decide_eq_true hpos]
    exact ⟨hcounts, rfl, hordered⟩

theorem settled_ne_configuration (message : String) :
    g.settled backend replies ≠ .error (.configuration message) := by
  intro h
  have hsettling := g.settling backend replies
  rw [h] at hsettling
  cases hsettling

/-- Once the counts are answered, only the ordering can keep the page from being fetched. -/
theorem settled_of_countedBefore (h : CountedBefore replies (g.counts backend replies).length) :
    (∃ s, g.settled backend replies = .ok s) ∨
      ∃ fault, g.settled backend replies = .error (.compilation fault) := by
  cases hsettled : g.settled backend replies with
  | ok s => exact .inl ⟨s, rfl⟩
  | error f =>
    cases f with
    | compilation fault => exact .inr ⟨fault, rfl⟩
    | configuration message => exact absurd hsettled (settled_ne_configuration message)
    | execution error =>
      obtain ⟨last, hlength, -, hanswer⟩ := of_settled_execution hsettled
      exact absurd hanswer (h.ne_error (by omega) error)

theorem settled_of_prepared (h : g.Prepared backend replies) :
    ∃ s, g.settled backend replies = .ok s := by
  obtain ⟨hcounts, hordered⟩ := h
  rcases settled_of_countedBefore hcounts with hsettled | ⟨fault, hsettled⟩
  · exact hsettled
  · obtain ⟨-, hrows, hfault⟩ := of_settled_compilation hsettled
    rw [hordered hrows] at hfault
    cases hfault

theorem settled_compilation_iff {fault : CompileFault} :
    g.settled backend replies = .error (.compilation fault) ↔
      CountedBefore replies (g.counts backend replies).length ∧ g.hasRows replies = true ∧
        (g.ordered backend (g.filtered backend g.query).1).2 = .error fault := by
  constructor
  · exact of_settled_compilation
  · rintro ⟨hcounts, hrows, hordered⟩
    rcases settled_of_countedBefore hcounts with ⟨s, hsettled⟩ | ⟨fault', hsettled⟩
    · rw [(of_settled hsettled).1.2 hrows] at hordered
      cases hordered
    · obtain ⟨-, -, hfault⟩ := of_settled_compilation hsettled
      rw [hordered] at hfault
      cases hfault
      exact hsettled

theorem statements_of_prepared (h : g.Prepared backend replies) :
    g.statements backend replies =
      g.counts backend replies ++ [g.fetchStatement backend replies] := by
  obtain ⟨s, hsettled⟩ := settled_of_prepared h
  rw [(of_settled_ok hsettled).2, (of_settled hsettled).2]
  rfl

theorem statements_of_not_prepared (h : ¬g.Prepared backend replies) :
    g.statements backend replies = g.counts backend replies := by
  cases hsettled : g.settled backend replies with
  | ok s => exact absurd (of_settled hsettled).1 h
  | error f => exact (of_settled_error hsettled).2

theorem length_statements_le : (g.statements backend replies).length ≤ 3 := by
  have hcounts := length_counts_le g backend replies
  by_cases h : g.Prepared backend replies
  · rw [statements_of_prepared h, List.length_append, List.length_singleton]
    omega
  · rw [statements_of_not_prepared h]
    omega

/-- A count that fails is the last statement, and the page is not fetched. -/
theorem of_countAnswer_error {index : Nat} {error : DriverError}
    (hindex : index < (g.counts backend replies).length)
    (hcount : Session.countAnswer replies index = .error error) :
    (g.counts backend replies).length = index + 1 ∧
      g.settled backend replies = .error (.execution error) := by
  cases hsettled : g.settled backend replies with
  | ok s => exact absurd hcount ((of_settled hsettled).1.1.ne_error hindex error)
  | error f =>
    cases f with
    | configuration message => exact absurd hsettled (settled_ne_configuration message)
    | compilation fault =>
      exact absurd hcount ((of_settled_compilation hsettled).1.ne_error hindex error)
    | execution reported =>
      obtain ⟨last, hlength, hbefore, hanswer⟩ := of_settled_execution hsettled
      rcases Nat.lt_or_ge index last with hlt | hge
      · exact absurd hcount (hbefore.ne_error hlt error)
      · have hlast : index = last := by omega
        rw [hlast, hanswer] at hcount
        cases hcount
        exact ⟨by omega, rfl⟩

/-- A statement that fails is the last one, and the run fails with it. -/
theorem of_statementFails {index : Nat} {error : DriverError}
    (hindex : index < (g.statements backend replies).length)
    (hfails : g.StatementFails backend replies index error) :
    (g.statements backend replies).length = index + 1 ∧
      g.outcome backend replies = .error (.execution error) := by
  unfold StatementFails at hfails
  split at hfails
  · next hcount =>
    obtain ⟨hlength, hsettled⟩ := of_countAnswer_error hcount hfails
    obtain ⟨houtcome, hstatements⟩ := of_settled_error hsettled
    rw [hstatements]
    exact ⟨hlength, houtcome⟩
  · next hpage =>
    -- a statement after the counts is the page
    by_cases h : g.Prepared backend replies
    · obtain ⟨s, hsettled⟩ := settled_of_prepared h
      rw [statements_of_prepared h, List.length_append, List.length_singleton] at hindex ⊢
      have hlast : index = (g.counts backend replies).length := by omega
      rw [hlast] at hfails
      rw [(of_settled_ok hsettled).1, hfails, hlast]
      exact ⟨rfl, rfl⟩
    · rw [statements_of_not_prepared h] at hindex
      exact absurd hindex hpage

/-- A run that fails on the database has a statement that failed. -/
theorem exists_statementFails {error : DriverError}
    (h : g.outcome backend replies = .error (.execution error)) :
    ∃ index < (g.statements backend replies).length,
      g.StatementFails backend replies index error := by
  cases hsettled : g.settled backend replies with
  | ok s =>
    obtain ⟨houtcome, hstatements⟩ := of_settled_ok hsettled
    refine ⟨(g.counts backend replies).length, ?_, ?_⟩
    · rw [hstatements, List.length_append, List.length_singleton]
      omega
    · unfold StatementFails
      rw [if_neg (Nat.lt_irrefl _)]
      rw [houtcome] at h
      cases hanswer : Session.answer replies (g.counts backend replies).length with
      | ok rows =>
        rw [hanswer] at h
        cases h
      | error reported =>
        rw [hanswer] at h
        cases h
        rfl
  | error f =>
    obtain ⟨houtcome, hstatements⟩ := of_settled_error hsettled
    rw [houtcome] at h
    cases h
    obtain ⟨last, hlength, -, hanswer⟩ := of_settled_execution hsettled
    have hlast : last < (g.counts backend replies).length := by omega
    rw [hstatements]
    refine ⟨last, hlast, ?_⟩
    unfold StatementFails
    rw [if_pos hlast]
    exact hanswer

/-- The page fails on the database only, so that a run fails otherwise before it. -/
theorem settled_of_outcome {f : Failure} (h : g.outcome backend replies = .error f)
    (hf : ∀ error, f ≠ .execution error) : g.settled backend replies = .error f := by
  cases hsettled : g.settled backend replies with
  | error reported =>
    rw [(of_settled_error hsettled).1] at h
    cases h
    rfl
  | ok s =>
    rw [(of_settled_ok hsettled).1] at h
    cases hanswer : Session.answer replies (g.counts backend replies).length with
    | ok rows =>
      rw [hanswer] at h
      cases h
    | error reported =>
      rw [hanswer] at h
      cases h
      exact absurd rfl (hf reported)

theorem outcome_compilation_iff {fault : CompileFault} :
    g.outcome backend replies = .error (.compilation fault) ↔
      CountedBefore replies (g.counts backend replies).length ∧ g.hasRows replies = true ∧
        (g.ordered backend (g.filtered backend g.query).1).2 = .error fault := by
  rw [← settled_compilation_iff]
  constructor
  · intro h
    exact settled_of_outcome h fun _ => Failure.noConfusion
  · intro h
    exact (of_settled_error h).1

theorem not_prepared_of_compilation {fault : CompileFault}
    (h : g.outcome backend replies = .error (.compilation fault)) :
    ¬g.Prepared backend replies := by
  intro hprepared
  obtain ⟨s, hsettled⟩ := settled_of_prepared hprepared
  exact nomatch hsettled.symm.trans (settled_of_outcome h fun _ => Failure.noConfusion)

theorem outcome_ne_configuration (message : String) :
    g.outcome backend replies ≠ .error (.configuration message) := fun h =>
  settled_ne_configuration message (settled_of_outcome h fun _ => Failure.noConfusion)

end Stops

/-! ## Debugging -/

/-- The grid with debugging on or off. -/
def withDebug (g : Grid) (debug : Bool) : Grid :=
  { g with config := { g.config with debug := debug } }

theorem match_withDebug (g : Grid) (debug : Bool) (backend : Backend) :
    Grid.Match backend id Eq g (g.withDebug debug) := by
  let config : Config := { g.config with debug := debug }
  refine match_of_reads g backend g.request config ?_ ?_ ?_ rfl
  · intro resolver q
    let ctx : SearchContext := ⟨g.request, g.registry, resolver, config⟩
    exact q.searchColumns_congr ctx _ rfl
  · intro resolver q
    let ctx : SearchContext := ⟨g.request, g.registry, resolver, config⟩
    exact q.searchGlobally_congr ctx ⟨g.request, g.registry, resolver, g.config⟩ rfl rfl
      fun _ => rfl
  · intro resolver q
    let ctx : OrderContext := ⟨g.request, g.registry, resolver, config⟩
    exact BaseQuery.orderDirectives_congr ctx ⟨g.request, g.registry, resolver, g.config⟩
      (fun _ => rfl) g.request.directives q

/-- Responses with the same counts and rows, whatever they tell of the run. -/
structure SameAnswer (r r' : Response) : Prop where
  draw : r.draw = r'.draw
  recordsTotal : r.recordsTotal = r'.recordsTotal
  recordsFiltered : r.recordsFiltered = r'.recordsFiltered
  data : r.data = r'.data
  isError : r.isError = r'.isError

section Responses

variable (g : Grid) (backend : Backend) (replies : List Reply)

theorem sent_make : (g.make backend replies).sent = g.statements backend replies := by
  rw [make_eq]

theorem result_tryMake : (g.tryMake backend replies).result =
    (g.outcome backend replies).map (g.respond · (g.finished backend replies)) := by
  rw [tryMake_eq]

theorem result_tryMake_error_iff (f : Failure) :
    (g.tryMake backend replies).result = .error f ↔ g.outcome backend replies = .error f := by
  rw [result_tryMake]
  cases g.outcome backend replies with
  | error reported => simp [Except.map]
  | ok page => simp [Except.map]

theorem queries_make : (g.make backend replies).result.queries =
    if g.config.debug then some ((g.statements backend replies).filterMap (·.inlined? backend))
    else none := by
  have hlog : g.config.debug = true → (g.finished backend replies).log =
      (g.statements backend replies).filterMap (·.inlined? backend) := fun hdebug => if_pos hdebug
  rw [make_eq]
  cases hdebug : g.config.debug with
  | false => cases g.outcome backend replies <;> simp [respond, respondFailure, hdebug]
  | true =>
    cases g.outcome backend replies <;> simp [respond, respondFailure, hdebug, hlog hdebug]

theorem sameAnswer_withDebug (debug : Bool) :
    SameAnswer ((g.withDebug debug).make backend replies).result
      (g.make backend replies).result := by
  have hsame := (match_withDebug g debug backend).outcome_eq replies
  rw [make_eq, make_eq, ← hsame]
  cases g.outcome backend replies with
  | ok page => exact ⟨rfl, rfl, rfl, rfl, rfl⟩
  | error f => exact ⟨rfl, rfl, rfl, rfl, rfl⟩

theorem make_of_tryMake {r : Response} (h : (g.tryMake backend replies).result = .ok r) :
    (g.make backend replies).result = r := by
  rw [result_tryMake] at h
  rw [make_eq]
  cases houtcome : g.outcome backend replies with
  | error f =>
    rw [houtcome] at h
    cases h
  | ok page =>
    rw [houtcome] at h
    cases h
    rfl

theorem isError_make_iff : (g.make backend replies).result.isError = true ↔
    ∃ f, (g.tryMake backend replies).result = .error f := by
  rw [make_eq, result_tryMake]
  cases g.outcome backend replies with
  | error f => exact ⟨fun _ => ⟨f, rfl⟩, fun _ => rfl⟩
  | ok page =>
    constructor
    · intro h
      cases h
    · rintro ⟨f, h⟩
      cases h

theorem tryMake_of_not_isError (h : (g.make backend replies).result.isError = false) :
    (g.tryMake backend replies).result = .ok (g.make backend replies).result := by
  cases hresult : (g.tryMake backend replies).result with
  | error f =>
    rw [(isError_make_iff g backend replies).2 ⟨f, hresult⟩] at h
    cases h
  | ok r => rw [make_of_tryMake g backend replies hresult]

end Responses

end ServerGrid.Grid
