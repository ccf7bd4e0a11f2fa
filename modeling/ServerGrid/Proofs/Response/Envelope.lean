import Mathlib.Data.List.Nodup
import ServerGrid.Grid.Run
import ServerGrid.Proofs.Json.Record

/-!
# What an envelope says

The fields of an envelope come first and under distinct names (`Response.fieldEntries`), so an extra
entry alone can take the name of a field. Main statement: `Grid.faithful_make_iff`, a response can
be told from its object exactly when it reports a failure or no extra entry was registered under the
name of a field.
-/

namespace ServerGrid

namespace Response

/-- The entries of the fields. -/
def fieldEntries (r : Response) : Keyed Json :=
  [("draw", Json.ofUInt64 r.draw),
    ("recordsTotal", Json.ofUInt64 r.recordsTotal),
    ("recordsFiltered", Json.ofUInt64 r.recordsFiltered),
    ("data", .array r.data)] ++
  optionalEntry "error" .string r.error ++
  optionalEntry "queries" (fun queries => .array (queries.map .string)) r.queries ++
  optionalEntry "input" id r.input

/-- An envelope that its object tells everything about. -/
structure Faithful (r : Response) : Prop where
  distinct : (Keyed.keys r.entries).Nodup
  /-- Under the names of the fields stand the fields, and nothing else. -/
  own : r.entries.filter (fun entry => fieldNames.contains entry.1) = r.fieldEntries
  decodes : ofJson? r.toJson = some r

theorem entries_eq (r : Response) : r.entries = r.fieldEntries ++ r.extra := rfl

/-! ## Entries of the fields -/

variable {α : Type} {r : Response}

theorem get?_optionalEntry (key key' : String) (encode : α → Json) (o : Option α) :
    Keyed.get? (optionalEntry key encode o) key' = if key = key' then o.map encode else none := by
  cases o with
  | none => exact (ite_self none).symm
  | some x => rfl

theorem keys_optionalEntry_sublist (key : String) (encode : α → Json) (o : Option α) :
    (Keyed.keys (optionalEntry key encode o)).Sublist [key] := by
  cases o with
  | none => exact List.nil_sublist _
  | some x => exact List.Sublist.refl _

theorem keys_fieldEntries_sublist (r : Response) :
    (Keyed.keys r.fieldEntries).Sublist fieldNames := by
  have hfixed : (Keyed.keys [("draw", Json.ofUInt64 r.draw),
      ("recordsTotal", Json.ofUInt64 r.recordsTotal),
      ("recordsFiltered", Json.ofUInt64 r.recordsFiltered),
      ("data", .array r.data)]).Sublist ["draw", "recordsTotal", "recordsFiltered", "data"] :=
    List.Sublist.refl _
  simp only [fieldEntries, Keyed.keys, List.map_append]
  exact ((hfixed.append (keys_optionalEntry_sublist ..)).append
    (keys_optionalEntry_sublist ..)).append (keys_optionalEntry_sublist ..)

theorem nodup_keys_fieldEntries (r : Response) : (Keyed.keys r.fieldEntries).Nodup :=
  r.keys_fieldEntries_sublist.nodup (by decide)

theorem fst_mem_fieldNames {entry : String × Json} (h : entry ∈ r.fieldEntries) :
    entry.1 ∈ fieldNames :=
  r.keys_fieldEntries_sublist.subset (List.mem_map_of_mem h)

theorem filter_entries (r : Response) :
    r.entries.filter (fun entry => fieldNames.contains entry.1) =
      r.fieldEntries ++ r.extra.filter (fun entry => fieldNames.contains entry.1) := by
  rw [entries_eq, List.filter_append]
  congr 1
  exact List.filter_eq_self.2 fun entry h => List.contains_iff_mem.2 (fst_mem_fieldNames h)

/-- A field that may be left out is looked up past the entries of the other ones. -/
theorem get?_optional_fields (r : Response) :
    r.fieldEntries.get? "error" = r.error.map .string ∧
      r.fieldEntries.get? "queries" =
        r.queries.map (fun queries => .array (queries.map .string)) ∧
      r.fieldEntries.get? "input" = r.input.map id := by
  refine ⟨?_, ?_, ?_⟩
  all_goals simp [fieldEntries, Keyed.get?_append, get?_optionalEntry, Keyed.get?]

/-! ## Reading an envelope back -/

section

variable (hextra : ∀ name ∈ fieldNames, name ∉ Keyed.keys r.extra)
include hextra

theorem get?_entries {name : String} (hname : name ∈ fieldNames) :
    r.entries.get? name = r.fieldEntries.get? name := by
  rw [entries_eq, Keyed.get?_append, Keyed.get?_of_not_mem (hextra name hname), Option.or_none]

theorem filter_entries_extra :
    r.entries.filter (fun entry => !fieldNames.contains entry.1) = r.extra := by
  have hfields : r.fieldEntries.filter (fun entry => !fieldNames.contains entry.1) = [] := by
    refine List.filter_eq_nil_iff.2 fun entry hentry => ?_
    rw [List.contains_iff_mem.2 (fst_mem_fieldNames hentry)]
    exact Bool.false_ne_true
  rw [entries_eq, List.filter_append, hfields, List.nil_append]
  refine List.filter_eq_self.2 fun entry hentry => ?_
  rw [Bool.not_eq_true', ← Bool.not_eq_true, List.contains_iff_mem]
  intro hname
  exact hextra entry.1 hname (List.mem_map_of_mem hentry)

theorem ofJson?_toJson (hinput : r.input ≠ some .null) : ofJson? r.toJson = some r := by
  have hfield (name : String) (h : name ∈ fieldNames) : r.entries.get? name =
      r.fieldEntries.get? name := get?_entries hextra h
  have hdraw := Json.required?_of_get? Json.toUInt64? (hfield "draw" (by decide))
    (Json.toUInt64?_ofUInt64 r.draw)
  have htotal := Json.required?_of_get? Json.toUInt64? (hfield "recordsTotal" (by decide))
    (Json.toUInt64?_ofUInt64 r.recordsTotal)
  have hfiltered := Json.required?_of_get? Json.toUInt64? (hfield "recordsFiltered" (by decide))
    (Json.toUInt64?_ofUInt64 r.recordsFiltered)
  have hdata : Json.required? r.entries "data" (Json.toList? Json.toJson?) = some r.data := by
    have hitems := Json.toList?_map Json.toJson? id (fun _ => rfl) r.data
    rw [List.map_id] at hitems
    exact Json.required?_of_get? _ (hfield "data" (by decide)) hitems
  obtain ⟨herror, hqueries, hinputField⟩ := r.get?_optional_fields
  rw [← hfield _ (by decide)] at herror hqueries hinputField
  have herror' := Json.optional?_of_get? Json.toString? herror fun _ _ => ⟨by simp, rfl⟩
  have hqueries' := Json.optional?_of_get? (Json.toList? Json.toString?) hqueries
    fun queries _ => ⟨by simp, Json.toList?_map Json.toString? .string (fun _ => rfl) queries⟩
  -- an input of `null` would be read as none
  have hinput' := Json.optional?_of_get? Json.toJson? hinputField fun input h =>
    ⟨fun hnull => hinput (h.trans (congrArg some hnull)), rfl⟩
  unfold ofJson? toJson
  simp only [hdraw, htotal, hfiltered, hdata, herror', hqueries', hinput',
    filter_entries_extra hextra]
  rfl

end

/-- Only extra entries can make an envelope ambiguous. -/
theorem faithful_iff (hdistinct : (Keyed.keys r.extra).Nodup) (hinput : r.input ≠ some .null) :
    r.Faithful ↔ ∀ name ∈ fieldNames, name ∉ Keyed.keys r.extra := by
  constructor
  · intro h name hname hkey
    have hown := h.own
    rw [filter_entries, List.append_right_eq_self, List.filter_eq_nil_iff] at hown
    obtain ⟨entry, hentry, rfl⟩ := List.mem_map.1 hkey
    exact hown entry hentry (List.contains_iff_mem.2 hname)
  · intro hextra
    refine ⟨?_, ?_, ofJson?_toJson hextra hinput⟩
    · rw [entries_eq, Keyed.keys, List.map_append]
      refine List.Nodup.append r.nodup_keys_fieldEntries hdistinct fun name hname => ?_
      exact hextra name (r.keys_fieldEntries_sublist.subset hname)
    · rw [filter_entries, List.append_right_eq_self, List.filter_eq_nil_iff]
      intro entry hentry hname
      exact hextra entry.1 (List.contains_iff_mem.1 hname) (List.mem_map_of_mem hentry)

end Response

/-! ## Responses of a run -/

namespace Grid

/-- The grid with just the given extra entries, registered in order. -/
def withEntries (g : Grid) (registered : List (String × Json)) : Grid :=
  registered.foldl (fun g (key, value) => g.withExtra key value) { g with extra := [] }

theorem withEntries_eq (g : Grid) (registered : List (String × Json)) :
    g.withEntries registered = { g with extra := Keyed.ofList registered } := by
  have hfold : ∀ entries : Keyed Json,
      registered.foldl (fun g (key, value) => g.withExtra key value) { g with extra := entries } =
        { g with extra := registered.foldl (fun es (key, value) => es.set key value) entries } := by
    induction registered with
    | nil => exact fun _ => rfl
    | cons pair rest ih => exact fun entries => ih (entries.set pair.1 pair.2)
  exact hfold []

/-- A failure leaves the extra entries out. -/
theorem extra_make (g : Grid) (backend : Backend) (replies : List Reply) :
    (g.make backend replies).result.extra =
      if (g.make backend replies).result.isError then [] else g.extra := by
  unfold make
  rcases (g.run backend).run.run (g.start replies) with ⟨page | failure, s⟩
  · rfl
  · rfl

theorem input_make (g : Grid) (backend : Backend) (replies : List Reply) :
    (g.make backend replies).result.input = g.input := by
  unfold make
  rcases (g.run backend).run.run (g.start replies) with ⟨page | failure, s⟩
  · rfl
  · rfl

theorem input_ne_null (g : Grid) : g.input ≠ some .null := by
  unfold input
  split
  · exact fun h => nomatch Option.some.inj h
  · exact nofun

/-- **When a response says what it means.** Its object has distinct names, with its fields under
their names, and is read back as the response, exactly when the response reports a failure or no
extra entry was registered under the name of a field. -/
theorem faithful_make_iff (g : Grid) (registered : List (String × Json)) (backend : Backend)
    (replies : List Reply) :
    let r := ((g.withEntries registered).make backend replies).result
    r.Faithful ↔ r.isError = true ∨ ∀ entry ∈ registered, entry.1 ∉ Response.fieldNames := by
  intro r
  have hextra : r.extra = if r.isError then [] else Keyed.ofList registered := by
    simp only [r, extra_make, withEntries_eq]
  have hinput : r.input ≠ some .null := by
    rw [input_make]
    exact input_ne_null _
  cases herror : r.isError with
  | true =>
    rw [herror, if_pos rfl] at hextra
    have hnone : ∀ name ∈ Response.fieldNames, name ∉ Keyed.keys r.extra := by
      rw [hextra]
      exact fun name _ => List.not_mem_nil
    have hdistinct : (Keyed.keys r.extra).Nodup := by
      rw [hextra]
      exact List.nodup_nil
    exact iff_of_true ((Response.faithful_iff hdistinct hinput).2 hnone) (.inl rfl)
  | false =>
    rw [herror, if_neg Bool.false_ne_true] at hextra
    rw [Response.faithful_iff (hextra ▸ Keyed.nodup_keys_ofList registered) hinput, hextra]
    simp only [Keyed.mem_keys_ofList, Bool.false_eq_true, false_or]
    constructor
    · exact fun h entry hentry hname => h entry.1 hname ⟨entry, hentry, rfl⟩
    · rintro h name hname ⟨entry, hentry, rfl⟩
      exact h entry hentry hname

/-- A registered `draw` stands in the object beside the one of the request. -/
theorem registered_draw_twice :
    let g := Grid.new (.ofTable "users") { Request.empty with draw := 1 }
    let r := ((g.withEntries [("draw", .ofInt 99)]).make .sqlite
      [.rows [[("aggregate", .bigInt (some 0))]], .rows []]).result
    r.isError = false ∧
      r.toJson.text = "\x7b\"draw\":1,\"recordsTotal\":0,\"recordsFiltered\":0,\"data\":[]," ++
        "\"draw\":99\x7d" ∧
      ¬(Keyed.keys r.entries).Nodup ∧ Response.ofJson? r.toJson ≠ some r := by
  decide +kernel

end Grid

end ServerGrid
