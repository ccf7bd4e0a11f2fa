import Mathlib.Data.List.TakeWhile
import ServerGrid.Proofs.Grid.Course

/-!
# What the caller has of a run

While debugging, a statement is logged with its values written in before it is sent, which takes a
value for every mark that is found in its text (`Statement.Filled`). A run all of whose statements
can be logged (`Grid.Listed`) is answered, and it has sent them. Any other run is cut short at the
first statement that cannot, and the caller is not answered. Main statement: `traced`, the course of
a run as its caller sees it. That debugging changes nothing but what is told of the run is true of
the runs that can be listed, and only of them.
-/

namespace ServerGrid

/-! ## Marks and values -/

namespace Token

/-- The numbers behind `$` marks. -/
def numbers : List Token → List Nat
  | [] | [_] => []
  | token :: next :: rest =>
    match token, next with
    | .mark '$', .word w =>
      match number? w with
      | some n => n :: numbers rest
      | none => numbers (next :: rest)
    | _, _ => numbers (next :: rest)

theorem isSome_inlineInOrder?_iff (backend : Backend) (values : List Value) (tokens : List Token) :
    (inlineInOrder? backend values tokens).isSome = true ↔
      tokens.count (.mark '?') ≤ values.length := by
  fun_induction inlineInOrder? backend values tokens with
  | case1 values => simp
  | case2 rest => simp
  | case3 v values rest ih => simp [ih]
  | case4 values token rest hnone hsome ih =>
    have hne : token ≠ .mark '?' := by
      rintro rfl
      cases values with
      | nil => exact hnone rfl rfl
      | cons v values => exact hsome v values rfl rfl
    rw [Option.map_eq_map, Option.isSome_map, List.count_cons_of_ne hne, ih]

theorem isSome_inlineByNumber?_iff (backend : Backend) (values : List Value) (tokens : List Token) :
    (inlineByNumber? backend values tokens).isSome = true ↔
      ∀ n ∈ numbers tokens, 0 < n ∧ n ≤ values.length := by
  fun_induction inlineByNumber? backend values tokens with
  | case1 => simp [numbers]
  | case2 token => simp [numbers]
  | case3 rest w hzero => simp [numbers, hzero]
  | case4 rest w n hnumber ih =>
    simp only [numbers, hnumber, List.forall_mem_cons, ← ih, Nat.succ_pos, true_and]
    cases hv : values[n]? with
    | none =>
      have hshort : values.length < n + 1 :=
        Nat.lt_succ_of_le (List.getElem?_eq_none_iff.1 hv)
      simp [Nat.not_le.2 hshort]
    | some v =>
      have hlong : n + 1 ≤ values.length := (List.getElem?_eq_some_iff.1 hv).1
      simp [hlong]
  | case5 rest w hnumber ih => simp [numbers, hnumber, ih]
  | case6 token next rest hne ih =>
    have hnumbers : numbers (token :: next :: rest) = numbers (next :: rest) := by
      rw [numbers]
      exact hne
    rw [Option.map_eq_map, Option.isSome_map, hnumbers, ih]

end Token

/-- Every mark in the text of a statement has a value. -/
def Statement.Filled (backend : Backend) (s : Statement) : Prop :=
  match backend with
  | .postgres => ∀ n ∈ Token.numbers (Token.scan s.sql), 0 < n ∧ n ≤ s.values.length
  | .sqlite | .mysql => (Token.scan s.sql).count (.mark '?') ≤ s.values.length

theorem Statement.isSome_inlined?_iff {backend : Backend} {s : Statement} :
    (s.inlined? backend).isSome = true ↔ s.Filled backend := by
  unfold inlined?
  rw [Option.map_eq_map, Option.isSome_map]
  cases backend with
  | postgres => exact Token.isSome_inlineByNumber?_iff _ _ _
  | mysql => exact Token.isSome_inlineInOrder?_iff _ _ _
  | sqlite => exact Token.isSome_inlineInOrder?_iff _ _ _

instance (backend : Backend) (s : Statement) : Decidable (s.Filled backend) :=
  decidable_of_iff _ Statement.isSome_inlined?_iff

namespace Grid

/-! ## Calls that are cut short -/

namespace Outcome

variable {α : Type} {lists : Statement → Bool} {o : Outcome α}

theorem cut_of_all (h : o.sent.all lists = true) : o.cut lists = ⟨some o.result, o.sent⟩ := by
  unfold cut
  rw [if_pos h, List.takeWhile_eq_self_iff.2 (List.all_eq_true.1 h)]

theorem result_cut_eq_some_iff {a : α} :
    (o.cut lists).result = some a ↔ o.sent.all lists = true ∧ o.result = a := by
  unfold cut
  by_cases h : o.sent.all lists = true
  · simp [h]
  · simp [h]

theorem result_cut_of_not_all (h : ¬o.sent.all lists = true) : (o.cut lists).result = none :=
  if_neg h

theorem prefix_sent_cut : (o.cut lists).sent <+: o.sent := List.takeWhile_prefix _

/-- Nothing is kept back only when everything gets past the log. -/
theorem all_of_length_le (h : o.sent.length ≤ (o.cut lists).sent.length) :
    o.sent.all lists = true :=
  List.all_eq_true.2 (List.takeWhile_eq_self_iff.1 (prefix_sent_cut.eq_of_length_le h))

/-- The first statement that is kept back does not get past the log. -/
theorem exists_of_not_all (h : ¬o.sent.all lists = true) :
    ∃ st rest, o.sent = (o.cut lists).sent ++ st :: rest ∧ lists st = false := by
  have hsplit : (o.cut lists).sent ++ o.sent.dropWhile lists = o.sent :=
    List.takeWhile_append_dropWhile
  have hfirst := List.head?_dropWhile_not lists o.sent
  cases hrest : o.sent.dropWhile lists with
  | nil => exact absurd (List.all_eq_true.2 (List.dropWhile_eq_nil_iff.1 hrest)) h
  | cons st rest =>
    rw [hrest] at hsplit hfirst
    exact ⟨st, rest, hsplit.symm, hfirst⟩

end Outcome

/-! ## Statements that can be logged -/

section Listed

variable (g : Grid) (backend : Backend) (replies : List Reply)

/-- Whenever statements are logged, all those of the run can be. -/
def Listed : Prop :=
  g.config.debug = true → ∀ st ∈ g.statements backend replies, st.Filled backend

variable {g backend replies}

theorem lists_eq_true_iff {st : Statement} :
    g.lists backend st = true ↔ (g.config.debug = true → st.Filled backend) := by
  unfold lists
  rw [← Statement.isSome_inlined?_iff]
  cases g.config.debug <;> simp

theorem all_lists_iff :
    (g.statements backend replies).all (g.lists backend) = true ↔ g.Listed backend replies := by
  simp only [List.all_eq_true, lists_eq_true_iff]
  exact ⟨fun h hdebug st hst => h st hst hdebug, fun h st hst hdebug => h hdebug st hst⟩

/-- Texts that can all be told are listed one for one. -/
theorem map_eq_map_some_of_isSome {α β : Type} {f : α → Option β} :
    ∀ {l : List α}, (∀ a ∈ l, (f a).isSome = true) → l.map f = (l.filterMap f).map some
  | [], _ => rfl
  | a :: l, h => by
    rw [List.forall_mem_cons] at h
    obtain ⟨b, hb⟩ := Option.isSome_iff_exists.1 h.1
    rw [List.map_cons, List.filterMap_cons_some hb, List.map_cons, hb,
      map_eq_map_some_of_isSome h.2]

end Listed

/-! ## Answered calls -/

section Served

variable {g : Grid} {backend : Backend} {replies : List Reply}

theorem sent_tryMake : (g.tryMake backend replies).sent = g.statements backend replies := by
  rw [tryMake_eq]

theorem served_of_listed (h : g.Listed backend replies) : g.served backend replies =
    ⟨some (g.make backend replies).result, g.statements backend replies⟩ := by
  have hall : (g.make backend replies).sent.all (g.lists backend) = true := by
    rw [sent_make]
    exact all_lists_iff.2 h
  rw [← sent_make]
  exact Outcome.cut_of_all hall

/-- An answer is that of a run to its end. -/
theorem result_served_iff {r : Response} : (g.served backend replies).result = some r ↔
    g.Listed backend replies ∧ (g.make backend replies).result = r := by
  rw [← all_lists_iff, ← sent_make]
  exact Outcome.result_cut_eq_some_iff

theorem result_tryServed_iff {r : Except Failure Response} :
    (g.tryServed backend replies).result = some r ↔
      g.Listed backend replies ∧ (g.tryMake backend replies).result = r := by
  rw [← all_lists_iff, ← sent_tryMake]
  exact Outcome.result_cut_eq_some_iff

theorem result_tryServed_error_iff {f : Failure} :
    (g.tryServed backend replies).result = some (.error f) ↔
      g.Listed backend replies ∧ g.outcome backend replies = .error f := by
  rw [result_tryServed_iff, result_tryMake_error_iff]

theorem prefix_sent_served :
    (g.served backend replies).sent <+: g.statements backend replies := by
  rw [← sent_make]
  exact Outcome.prefix_sent_cut

theorem sent_tryServed_eq :
    (g.tryServed backend replies).sent = (g.served backend replies).sent := by
  change (g.tryMake backend replies).sent.takeWhile _ = (g.make backend replies).sent.takeWhile _
  rw [sent_tryMake, sent_make]

/-- A run that is not answered was cut short at a statement with a mark without a value. -/
theorem of_not_listed (h : ¬g.Listed backend replies) :
    (g.tryServed backend replies).result = none ∧ ∃ st rest,
      g.statements backend replies = (g.served backend replies).sent ++ st :: rest ∧
        ¬st.Filled backend := by
  have hmake : ¬(g.make backend replies).sent.all (g.lists backend) = true := by
    rwa [sent_make, all_lists_iff]
  have htry : ¬(g.tryMake backend replies).sent.all (g.lists backend) = true := by
    rwa [sent_tryMake, all_lists_iff]
  obtain ⟨st, rest, hsent, hst⟩ := Outcome.exists_of_not_all hmake
  refine ⟨Outcome.result_cut_of_not_all htry, st, rest, ?_, fun hfilled => ?_⟩
  · rw [← sent_make]
    exact hsent
  · rw [lists_eq_true_iff.2 fun _ => hfilled] at hst
    cases hst

/-- A statement that was sent and fails is the last one of the run, so that the run is answered. -/
theorem of_statementFails_served {index : Nat} {error : DriverError}
    (hindex : index < (g.served backend replies).sent.length)
    (hfails : g.StatementFails backend replies index error) :
    (g.served backend replies).sent.length = index + 1 ∧
      (g.tryServed backend replies).result = some (.error (.execution error)) := by
  have hprefix : (g.served backend replies).sent <+: g.statements backend replies :=
    prefix_sent_served
  have hle := hprefix.length_le
  obtain ⟨hlength, houtcome⟩ := of_statementFails (by omega) hfails
  have hall : (g.make backend replies).sent.all (g.lists backend) = true := by
    refine Outcome.all_of_length_le ?_
    rw [sent_make, hlength]
    exact hindex
  rw [sent_make, all_lists_iff] at hall
  exact ⟨by omega, result_tryServed_error_iff.2 ⟨hall, houtcome⟩⟩

/-- The log that is told lists what was sent. -/
theorem queries_of_result_served {r : Response} (h : (g.served backend replies).result = some r) :
    if g.config.debug then ∃ texts, r.queries = some texts ∧
      (g.served backend replies).sent.map (·.inlined? backend) = texts.map some
    else r.queries = none := by
  obtain ⟨hlisted, rfl⟩ := result_served_iff.1 h
  rw [served_of_listed hlisted, queries_make]
  split
  · next hdebug =>
    refine ⟨_, rfl, map_eq_map_some_of_isSome fun st hst => ?_⟩
    exact Statement.isSome_inlined?_iff.2 (hlisted hdebug st hst)
  · rfl

end Served

/-! ## The course of a run -/

/-- Calls that send the same and are answered with the same counts and rows. -/
def SameServed (o o' : Outcome (Option Response)) : Prop :=
  o.sent = o'.sent ∧ ∃ r r', o.result = some r ∧ o'.result = some r' ∧ SameAnswer r r'

/-- What is sent for a call, and what its caller is told of it. -/
structure Traced (g : Grid) (backend : Backend) (replies : List Reply) : Prop where
  /-- The page is fetched after the counts when nothing fails before it, -/
  fetched : g.Prepared backend replies → g.statements backend replies =
    g.counts backend replies ++ [g.fetchStatement backend replies]
  /-- and only then. -/
  stopped : ¬g.Prepared backend replies → g.statements backend replies = g.counts backend replies
  /-- These statements are sent if all of them can be logged, and only then is the call answered. -/
  sent_of_listed : g.Listed backend replies →
    (g.served backend replies).sent = g.statements backend replies
  answered_iff : (g.served backend replies).result.isSome = true ↔ g.Listed backend replies
  /-- Otherwise only those before the first one with a mark without a value are. -/
  unanswered : ¬g.Listed backend replies →
    (g.tryServed backend replies).result = none ∧ ∃ st rest,
      g.statements backend replies = (g.served backend replies).sent ++ st :: rest ∧
        ¬st.Filled backend
  length_le : (g.served backend replies).sent.length ≤ 3
  /-- A statement that fails is the last one, and the run fails with it, -/
  last : ∀ index < (g.served backend replies).sent.length, ∀ error,
    g.StatementFails backend replies index error →
      (g.served backend replies).sent.length = index + 1 ∧
        (g.tryServed backend replies).result = some (.error (.execution error))
  /-- and so only does a run fail on the database. -/
  execution : ∀ error, (g.tryServed backend replies).result = some (.error (.execution error)) →
    ∃ index < (g.served backend replies).sent.length,
      g.StatementFails backend replies index error
  /-- A run fails on a query when there are rows whose ordering cannot be compiled, -/
  compilation : ∀ fault,
    (g.tryServed backend replies).result = some (.error (.compilation fault)) ↔
      g.Listed backend replies ∧ CountedBefore replies (g.counts backend replies).length ∧
        g.hasRows replies = true ∧
          (g.ordered backend (g.filtered backend g.query).1).2 = .error fault
  /-- after which nothing is sent, -/
  uncompiled : ∀ fault,
    (g.tryServed backend replies).result = some (.error (.compilation fault)) →
      (g.served backend replies).sent = g.counts backend replies
  /-- and otherwise it does not fail. -/
  configuration : ∀ message,
    (g.tryServed backend replies).result ≠ some (.error (.configuration message))
  /-- The log is told while debugging, with the text of every statement that was sent. -/
  queries : ∀ r, (g.served backend replies).result = some r →
    if g.config.debug then ∃ texts, r.queries = some texts ∧
      (g.served backend replies).sent.map (·.inlined? backend) = texts.map some
    else r.queries = none
  /-- Debugging changes neither what is sent nor what is answered just when every statement can be
  logged. -/
  undisturbed_iff :
    SameServed ((g.withDebug true).served backend replies)
        ((g.withDebug false).served backend replies) ↔
      (g.withDebug true).Listed backend replies
  sent_tryServed : (g.tryServed backend replies).sent = (g.served backend replies).sent
  served_of_ok : ∀ r, (g.tryServed backend replies).result = some (.ok r) →
    (g.served backend replies).result = some r
  isError_iff : (∃ r, (g.served backend replies).result = some r ∧ r.isError = true) ↔
    ∃ f, (g.tryServed backend replies).result = some (.error f)

/-- **The course of a run.** -/
theorem traced (g : Grid) (backend : Backend) (replies : List Reply) :
    g.Traced backend replies where
  fetched := statements_of_prepared
  stopped := statements_of_not_prepared
  sent_of_listed h := by
    rw [served_of_listed h]
  answered_iff := by
    rw [Option.isSome_iff_exists]
    constructor
    · rintro ⟨r, hr⟩
      exact (result_served_iff.1 hr).1
    · intro h
      exact ⟨_, result_served_iff.2 ⟨h, rfl⟩⟩
  unanswered h := of_not_listed h
  length_le := Nat.le_trans prefix_sent_served.length_le length_statements_le
  last index hindex error hfails := of_statementFails_served hindex hfails
  execution error h := by
    obtain ⟨hlisted, houtcome⟩ := result_tryServed_error_iff.1 h
    rw [served_of_listed hlisted]
    exact exists_statementFails houtcome
  compilation fault := by
    rw [result_tryServed_error_iff, outcome_compilation_iff]
  uncompiled fault h := by
    obtain ⟨hlisted, houtcome⟩ := result_tryServed_error_iff.1 h
    rw [served_of_listed hlisted]
    exact statements_of_not_prepared (not_prepared_of_compilation houtcome)
  configuration message h :=
    outcome_ne_configuration message (result_tryServed_error_iff.1 h).2
  queries r h := queries_of_result_served h
  undisturbed_iff := by
    have hoff : (g.withDebug false).Listed backend replies := fun h => nomatch h
    constructor
    · rintro ⟨-, r, r', hr, -⟩
      exact (result_served_iff.1 hr).1
    · intro h
      rw [served_of_listed h, served_of_listed hoff]
      exact ⟨((match_withDebug (g.withDebug false) true backend).statements_eq replies).symm,
        _, _, rfl, rfl, sameAnswer_withDebug (g.withDebug false) backend replies true⟩
  sent_tryServed := sent_tryServed_eq
  served_of_ok r h := by
    obtain ⟨hlisted, hr⟩ := result_tryServed_iff.1 h
    exact result_served_iff.2 ⟨hlisted, make_of_tryMake g backend replies hr⟩
  isError_iff := by
    constructor
    · rintro ⟨r, hr, herror⟩
      obtain ⟨hlisted, rfl⟩ := result_served_iff.1 hr
      obtain ⟨f, hf⟩ := (isError_make_iff g backend replies).1 herror
      exact ⟨f, result_tryServed_iff.2 ⟨hlisted, hf⟩⟩
    · rintro ⟨f, hf⟩
      obtain ⟨hlisted, hf⟩ := result_tryServed_iff.1 hf
      exact ⟨_, result_served_iff.2 ⟨hlisted, rfl⟩, (isError_make_iff g backend replies).2 ⟨f, hf⟩⟩

/-- Users by two columns, as the client named them. -/
def sortedOddly (debug : Bool) : Grid :=
  (Grid.new (.ofTable "users") { Request.empty with
    columns := ["a\\", "b?"].map fun name => ⟨name, none, true, true, .blank⟩
    order := [⟨0, "asc"⟩, ⟨1, "asc"⟩] }).withDebug debug

/-- In the text of the page the backslash at the end of a name hides the quote that closes it, so
that the mark of the next name stands outside of the quotes and finds no value. While debugging, the
page is not fetched, and the caller is not answered. -/
theorem not_sameServed_sortedOddly :
    let replies : List Reply := [.rows [[("aggregate", .bigInt (some 5))]], .rows []]
    let count : Statement := ⟨"SELECT COUNT(*) AS \"aggregate\" FROM " ++
      "(SELECT '1' AS \"row_count\" FROM \"users\") AS \"count_row_table\"", []⟩
    let page : Statement := ⟨"SELECT \"users\".* FROM \"users\" " ++
      "ORDER BY \"users\".\"a\\\" asc, \"users\".\"b?\" asc LIMIT 10 OFFSET 0", []⟩
    let plain := (sortedOddly false).served .sqlite replies
    let debugged := (sortedOddly true).served .sqlite replies
    plain.sent = [count, page] ∧ plain.result.isSome = true ∧ ¬page.Filled .sqlite ∧
      debugged.sent = [count] ∧ debugged.result.isNone = true ∧ ¬SameServed debugged plain := by
  intro replies count page plain debugged
  have hplain : plain.sent = [count, page] := by decide +kernel
  have hdebugged : debugged.sent = [count] := by decide +kernel
  refine ⟨hplain, ?_, by decide +kernel, hdebugged, by decide +kernel, fun h => ?_⟩
  · have hlisted : (sortedOddly false).Listed .sqlite replies := fun h => nomatch h
    exact Option.isSome_iff_exists.2 ⟨_, result_served_iff.2 ⟨hlisted, rfl⟩⟩
  · have hlength := congrArg List.length h.1
    rw [hplain, hdebugged] at hlength
    cases hlength

end Grid

end ServerGrid
