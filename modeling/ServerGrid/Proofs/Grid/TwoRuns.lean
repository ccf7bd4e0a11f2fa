import ServerGrid.Grid.Run

/-!
# Two runs side by side

Steps agree when related states give the same result and stay related (`Run.Agree`). Grids match
(`Grid.Match`) when what each of them does to related queries gives related queries, and when the
statements for related queries look the same under a view. Main statement: `view_sent_make`, grids
that match send statements that look the same, one after the other.
-/

namespace ServerGrid

variable {α β γ : Type}

/-! ## Agreeing steps -/

namespace Run

/-- From states that are related by `P` both steps give the same result, and leave states that are
related by `Q`. -/
def Agree (P Q : RunState → RunState → Prop) (x x' : Run α) : Prop :=
  ∀ s s', P s s' →
    (x.run.run s).1 = (x'.run.run s').1 ∧ Q (x.run.run s).2 (x'.run.run s').2

theorem run_bind (x : Run α) (f : α → Run β) (s : RunState) :
    (x >>= f).run.run s =
      match x.run.run s with
      | (.ok a, s) => (f a).run.run s
      | (.error e, s) => (.error e, s) := by
  change StateT.run (ExceptT.bindCont f (x.run.run s).1) (x.run.run s).2 = _
  obtain ⟨result, after⟩ := x.run.run s
  cases result <;> rfl

theorem run_get (s : RunState) : (get : Run RunState).run.run s = (.ok s, s) := rfl

theorem run_modify (f : RunState → RunState) (s : RunState) :
    (modify f : Run Unit).run.run s = (.ok (), f s) := rfl

variable {P Q R : RunState → RunState → Prop}

theorem agree_pure (a : α) : Agree P P (pure a) (pure a) :=
  fun _ _ h => ⟨rfl, h⟩

theorem agree_throw (e : Failure) : Agree P P (throw e : Run α) (throw e) :=
  fun _ _ h => ⟨rfl, h⟩

theorem agree_modify {f f' : RunState → RunState} (h : ∀ s s', P s s' → Q (f s) (f' s')) :
    Agree P Q (modify f : Run Unit) (modify f') :=
  fun s s' hs => ⟨rfl, h s s' hs⟩

/-- A failure of the first step must leave what the second one would. -/
theorem Agree.bind {x x' : Run α} {f f' : α → Run β} (hx : Agree P Q x x')
    (hf : ∀ a, Agree Q R (f a) (f' a)) (hfail : ∀ s s', Q s s' → R s s') :
    Agree P R (x >>= f) (x' >>= f') := by
  intro s s' hs
  have hboth := hx s s' hs
  rw [run_bind, run_bind]
  generalize x.run.run s = found at hboth
  generalize x'.run.run s' = found' at hboth
  obtain ⟨result, after⟩ := found
  obtain ⟨result', after'⟩ := found'
  obtain ⟨rfl, hafter⟩ := hboth
  cases result with
  | ok a => exact hf a after after' hafter
  | error e => exact ⟨rfl, hfail after after' hafter⟩

theorem Agree.seq {x x' : Run α} {f f' : α → Run β} (hx : Agree P Q x x')
    (hf : ∀ a, Agree Q Q (f a) (f' a)) : Agree P Q (x >>= f) (x' >>= f') :=
  hx.bind hf fun _ _ h => h

/-- What follows a look at the states may use how they are related. -/
theorem agree_get_bind {f f' : RunState → Run β} (h : ∀ t t', P t t' → Agree P Q (f t) (f' t')) :
    Agree P Q (get >>= f) (get >>= f') :=
  fun s s' hs => h s s' hs s s' hs

end Run

/-! ## Sessions -/

namespace Session

theorem sent_send (a : Session) (st : Statement) : (a.send st).1.sent = a.sent ++ [st] := by
  unfold send
  cases a.replies with
  | nil => rfl
  | cons reply rest => cases reply <;> rfl

/-- What a database answers does not depend on the statement. -/
theorem send_congr {a b : Session} (h : a.replies = b.replies) (st st' : Statement) :
    (a.send st).2 = (b.send st').2 ∧ (a.send st).1.replies = (b.send st').1.replies := by
  unfold send
  rw [h]
  cases b.replies with
  | nil => exact ⟨rfl, rfl⟩
  | cons reply rest => cases reply <;> exact ⟨rfl, rfl⟩

end Session

/-! ## States and grids -/

/-- States after which the database answers the same, with related queries, that have sent
statements which look the same. What was logged may differ. -/
structure RunState.Match (view : Statement → γ) (related : BaseQuery → BaseQuery → Prop)
    (s s' : RunState) : Prop where
  replies : s.session.replies = s'.session.replies
  sent : s.session.sent.map view = s'.session.sent.map view
  query : related s.query s'.query
  filterApplied : s.filterApplied = s'.filterApplied
  offset : s.offset = s'.offset

/-- Grids that start from the same query and keep queries related. -/
structure Grid.Match (backend : Backend) (view : Statement → γ)
    (related : BaseQuery → BaseQuery → Prop) (g g' : Grid) : Prop where
  query : g.query = g'.query
  totalRecords : g.totalRecords = g'.totalRecords
  filteredRecords : g.filteredRecords = g'.filteredRecords
  skipsPaging : g.skipsPaging = g'.skipsPaging
  shape : g.shape = g'.shape
  refl : ∀ q, related q q
  -- from equal queries only, since a callback may tell related ones apart
  filtered : ∀ q, related (g.filtered backend q).1 (g'.filtered backend q).1 ∧
    (g.filtered backend q).2 = (g'.filtered backend q).2
  ordered : ∀ q q', related q q' →
    related (g.ordered backend q).1 (g'.ordered backend q').1 ∧
      (g.ordered backend q).2 = (g'.ordered backend q').2
  paged : ∀ q q', related q q' →
    related (q.applyPaging g.request).1 (q'.applyPaging g'.request).1 ∧
      (q.applyPaging g.request).2 = (q'.applyPaging g'.request).2
  count : ∀ q q', related q q' → view (q.countStatement backend) = view (q'.countStatement backend)
  build : ∀ q q', related q q' → view (q.build backend (g.activeDialect backend)) =
    view (q'.build backend (g'.activeDialect backend))

namespace Grid

variable {view : Statement → γ} {related : BaseQuery → BaseQuery → Prop} {backend : Backend}
  {g g' : Grid}

open Run

/-! ## The steps of a run -/

theorem run_execute (g : Grid) (backend : Backend) (st : Statement) (s : RunState) :
    (g.execute backend st).run.run s = ((s.session.send st).2.mapError .execution,
      { s with
        session := (s.session.send st).1
        log := if g.config.debug then s.log ++ (st.inlined? backend).toList else s.log }) := by
  rcases hsend : s.session.send st with ⟨session, result⟩
  unfold execute
  cases g.config.debug with
  | false =>
    rw [if_neg Bool.false_ne_true, run_bind, run_get]
    simp only [hsend, run_bind, run_modify]
    cases result with
    | ok rows => rfl
    | error error => rfl
  | true =>
    rw [if_pos rfl, run_bind, run_modify]
    simp only [run_bind, run_get, hsend, run_modify]
    cases result with
    | ok rows => rfl
    | error error => rfl

/-- Statements that look the same get the same answer. -/
theorem agree_execute {st st' : Statement} (h : view st = view st') :
    Agree (RunState.Match view related) (RunState.Match view related) (g.execute backend st)
      (g'.execute backend st') := by
  intro s s' hs
  obtain ⟨hanswer, hreplies⟩ := Session.send_congr hs.replies st st'
  rw [run_execute, run_execute]
  refine ⟨congrArg (Except.mapError Failure.execution) hanswer, hreplies, ?_, hs.query,
    hs.filterApplied, hs.offset⟩
  change List.map view (s.session.send st).1.sent = List.map view (s'.session.send st').1.sent
  rw [Session.sent_send, Session.sent_send, List.map_append, List.map_append, hs.sent,
    List.map_singleton, List.map_singleton, h]

theorem agree_count (hcount : ∀ q q', related q q' →
      view (q.countStatement backend) = view (q'.countStatement backend)) :
    Agree (RunState.Match view related) (RunState.Match view related) (g.count backend)
      (g'.count backend) := by
  refine agree_get_bind fun t t' ht => ?_
  refine (agree_execute (hcount t.query t'.query ht.query)).seq fun rows => ?_
  split
  · exact agree_pure _
  · exact agree_throw _

/-- The end of a run: the page is fetched and shaped. -/
def fetch (g : Grid) (backend : Backend) (total filtered : UInt64) : Run PageData := do
  let rows ← g.execute backend ((← get).query.build backend (g.activeDialect backend))
  return { total, filtered, data := g.shape.apply (rows.map Row.toJson) (← get).offset }

/-- A run once the total is known. -/
def answer (g : Grid) (backend : Backend) (total : UInt64) : Run PageData := do
  let filtered ← if 0 < total then g.prepare backend total else pure total
  g.fetch backend total filtered

theorem run_eq_answer (g : Grid) (backend : Backend) : g.run backend =
    (match g.totalRecords with
      | some total => pure total
      | none => g.count backend) >>= g.answer backend := by
  unfold run
  cases g.totalRecords with
  | none => rfl
  | some total => rfl

section Match

variable (h : Grid.Match backend view related g g')
include h

theorem Match.agree_filterRecords :
    Agree (RunState.Match view Eq) (RunState.Match view related) (g.filterRecords backend)
      (g'.filterRecords backend) := by
  refine agree_modify fun s s' hs => ?_
  obtain ⟨hquery, happlied⟩ := h.filtered s.query
  refine ⟨hs.replies, hs.sent, ?_, ?_, hs.offset⟩
  · rw [← hs.query]
    exact hquery
  · change (s.filterApplied || (g.filtered backend s.query).2) =
      (s'.filterApplied || (g'.filtered backend s'.query).2)
    rw [happlied, hs.filterApplied, hs.query]

theorem Match.agree_orderRecords :
    Agree (RunState.Match view related) (RunState.Match view related) (g.orderRecords backend)
      (g'.orderRecords backend) := by
  refine agree_get_bind fun t t' ht => ?_
  have hboth := h.ordered t.query t'.query ht.query
  generalize g.ordered backend t.query = found at hboth
  generalize g'.ordered backend t'.query = found' at hboth
  obtain ⟨q, result⟩ := found
  obtain ⟨q', result'⟩ := found'
  obtain ⟨hquery, rfl⟩ := hboth
  refine (agree_modify fun s s' hs => ?_).seq fun _ => ?_
  · exact ⟨hs.replies, hs.sent, hquery, hs.filterApplied, hs.offset⟩
  · cases result with
    | ok => exact agree_pure ()
    | error fault => exact agree_throw _

theorem Match.agree_pageRecords :
    Agree (RunState.Match view related) (RunState.Match view related) g.pageRecords
      g'.pageRecords := by
  unfold pageRecords
  rw [h.skipsPaging]
  split
  · exact agree_pure ()
  · refine agree_modify fun s s' hs => ?_
    have hboth := h.paged s.query s'.query hs.query
    generalize s.query.applyPaging g.request = found at hboth
    generalize s'.query.applyPaging g'.request = found' at hboth
    obtain ⟨q, page⟩ := found
    obtain ⟨q', page'⟩ := found'
    obtain ⟨hquery, rfl⟩ := hboth
    cases page with
    | none => exact ⟨hs.replies, hs.sent, hquery, hs.filterApplied, hs.offset⟩
    | some page => exact ⟨hs.replies, hs.sent, hquery, hs.filterApplied, rfl⟩

theorem Match.agree_prepare (total : UInt64) :
    Agree (RunState.Match view Eq) (RunState.Match view related) (g.prepare backend total)
      (g'.prepare backend total) := by
  have hrest : ∀ filtered : UInt64, Agree (RunState.Match view related)
      (RunState.Match view related)
      (do g.orderRecords backend; g.pageRecords; pure filtered)
      (do g'.orderRecords backend; g'.pageRecords; pure filtered) :=
    fun filtered => h.agree_orderRecords.seq fun _ =>
      h.agree_pageRecords.seq fun _ => agree_pure filtered
  refine h.agree_filterRecords.seq fun _ => ?_
  rw [h.filteredRecords]
  split
  · next filtered _ => exact (agree_pure filtered).seq hrest
  · refine agree_get_bind fun t t' ht => ?_
    rw [ht.filterApplied]
    split
    · exact (agree_count h.count).seq hrest
    · exact (agree_pure total).seq hrest

theorem Match.agree_fetch (total filtered : UInt64) :
    Agree (RunState.Match view related) (RunState.Match view related)
      (g.fetch backend total filtered) (g'.fetch backend total filtered) := by
  refine agree_get_bind fun t t' ht => ?_
  refine (agree_execute (h.build t.query t'.query ht.query)).seq fun rows => ?_
  refine agree_get_bind fun t t' ht => ?_
  rw [h.shape, ht.offset]
  exact agree_pure _

theorem Match.weaken (s s' : RunState) (hs : RunState.Match view Eq s s') :
    RunState.Match view related s s' :=
  ⟨hs.replies, hs.sent, hs.query ▸ h.refl s.query, hs.filterApplied, hs.offset⟩

theorem Match.agree_answer (total : UInt64) :
    Agree (RunState.Match view Eq) (RunState.Match view related) (g.answer backend total)
      (g'.answer backend total) := by
  unfold answer
  split
  · exact (h.agree_prepare total).seq (h.agree_fetch total)
  · exact (agree_pure total).bind
      (fun filtered s s' hs => h.agree_fetch total filtered s s' (h.weaken s s' hs)) h.weaken

theorem Match.agree_run :
    Agree (RunState.Match view Eq) (RunState.Match view related) (g.run backend)
      (g'.run backend) := by
  rw [run_eq_answer, run_eq_answer, h.totalRecords]
  split
  · next total _ => exact (agree_pure total).bind h.agree_answer h.weaken
  · exact (agree_count fun q q' hq => by rw [hq]).bind h.agree_answer h.weaken

theorem Match.start (replies : List Reply) :
    RunState.Match view Eq (g.start replies) (g'.start replies) :=
  ⟨rfl, rfl, h.query, rfl, rfl⟩

/-- **Grids that match send statements that look the same.** -/
theorem view_sent_make (replies : List Reply) :
    (g.make backend replies).sent.map view = (g'.make backend replies).sent.map view := by
  have hsent : ∀ g : Grid, (g.make backend replies).sent =
      ((g.run backend).run.run (g.start replies)).2.session.sent := by
    intro g
    unfold make
    obtain ⟨result, s⟩ := (g.run backend).run.run (g.start replies)
    cases result <;> rfl
  rw [hsent, hsent]
  exact (h.agree_run _ _ (h.start replies)).2.sent

end Match

/-! ## What the steps of a grid read -/

/-- A grid reads its request and its configuration through searches, the ordering and the page. -/
theorem match_of_reads (g : Grid) (backend : Backend) (request : Request) (config : Config)
    (hcolumns : ∀ resolver (q : BaseQuery),
      q.searchColumns ⟨request, g.registry, resolver, config⟩ =
        q.searchColumns ⟨g.request, g.registry, resolver, g.config⟩)
    (hglobally : ∀ resolver (q : BaseQuery),
      q.searchGlobally ⟨request, g.registry, resolver, config⟩ =
        q.searchGlobally ⟨g.request, g.registry, resolver, g.config⟩)
    (horder : ∀ resolver (q : BaseQuery),
      q.applyOrdering ⟨request, g.registry, resolver, config⟩ =
        q.applyOrdering ⟨g.request, g.registry, resolver, g.config⟩)
    (hpage : request.page? = g.request.page?) :
    Grid.Match backend id Eq g { g with request := request, config := config } where
  query := rfl
  totalRecords := rfl
  filteredRecords := rfl
  skipsPaging := rfl
  shape := rfl
  refl := fun _ => rfl
  filtered := by
    intro q
    have hsame : { g with request := request, config := config }.filtered backend q =
        g.filtered backend q := by
      unfold filtered
      simp only [hcolumns, hglobally]
      rfl
    rw [hsame]
    exact ⟨rfl, rfl⟩
  ordered := by
    rintro q _ rfl
    have hsame : { g with request := request, config := config }.ordered backend q =
        g.ordered backend q := by
      unfold ordered
      simp only [horder]
      rfl
    rw [hsame]
    exact ⟨rfl, rfl⟩
  paged := by
    rintro q _ rfl
    unfold BaseQuery.applyPaging
    rw [hpage]
    exact ⟨rfl, rfl⟩
  count := by
    rintro q _ rfl
    rfl
  build := by
    rintro q _ rfl
    rfl

end Grid

end ServerGrid
