import ServerGrid.Proofs.Response.Envelope

/-!
# Requests that come back

Every record of a request, and a configuration, is read back from the object that it is written as:
each field finds its own entry, so that no default takes its place, and `null` is read as absent.
Main statement: `sent_make_echo`, the request that a debugging response holds can be sent again, and
then asks the database for the same.
-/

namespace ServerGrid

/-! ## Requests -/

theorem SearchTerm.ofJson?_toJson (s : SearchTerm) : ofJson? s.toJson = some s := by
  simp [ofJson?, toJson, Json.record?, Json.field?, Keyed.get?, Json.toString?, Json.toBool?]

theorem ColumnRequest.ofJson?_toJson (c : ColumnRequest) : ofJson? c.toJson = some c := by
  simp [ofJson?, toJson, Json.record?, Json.field?, Keyed.get?, Json.toString?, Json.toBool?,
    Json.toOption?_string, SearchTerm.ofJson?_toJson]

theorem OrderRequest.ofJson?_toJson (o : OrderRequest) : ofJson? o.toJson = some o := by
  simp [ofJson?, toJson, Json.record?, Json.required?, Json.field?, Keyed.get?, Json.toString?,
    Json.toUInt64?_ofUInt64]

theorem Request.ofJson?_toJson (r : Request) : ofJson? r.toJson = some r := by
  have hcolumns := Json.toList?_map _ _ ColumnRequest.ofJson?_toJson r.columns
  have horder := Json.toList?_map _ _ OrderRequest.ofJson?_toJson r.order
  simp [ofJson?, toJson, Json.record?, Json.field?, Keyed.get?, Json.toUInt64?_ofUInt64, hcolumns,
    horder, Json.toOption?_signed, SearchTerm.ofJson?_toJson]

/-! ## Configurations -/

theorem Config.ofJson?_toJson (c : Config) : ofJson? c.toJson = some c := by
  obtain ⟨_, _, _, _, _, _, _, _, errorMessage⟩ := c
  -- an absent message is written as `null`
  cases errorMessage with
  | none => rfl
  | some message => rfl

/-! ## The echo of a request -/

namespace Grid

/-- While debugging, a response holds its request, whatever the run comes to. -/
theorem input_make_of_debug (g : Grid) (backend : Backend) (replies : List Reply)
    (hdebug : g.config.debug = true) :
    (g.make backend replies).result.input = some g.request.toJson := by
  rw [input_make, input, if_pos hdebug]

/-- **Requests and configurations survive their encoding.** Each is read back from its own JSON as
it was. So the request that a debugging response holds can be read and sent again, and the same grid
then sends the database the same statements. -/
theorem sent_make_echo :
    (∀ r : Request, Request.ofJson? r.toJson = some r) ∧
    (∀ c : Config, Config.ofJson? c.toJson = some c) ∧
    ∀ (g : Grid) (backend : Backend) (replies : List Reply), g.config.debug = true →
      ∃ echo again, (g.make backend replies).result.input = some echo ∧
        Request.ofJson? echo = some again ∧
        ({ g with request := again }.make backend replies).sent =
          (g.make backend replies).sent := by
  refine ⟨Request.ofJson?_toJson, Config.ofJson?_toJson, fun g backend replies hdebug => ?_⟩
  exact ⟨g.request.toJson, g.request, g.input_make_of_debug backend replies hdebug,
    Request.ofJson?_toJson g.request, rfl⟩

/-- A request with the greatest draw, a negative start, and columns that differ from every
default. -/
def debuggedUsers : Grid :=
  (Grid.new (.ofTable "users")
    { draw := 18446744073709551615
      columns := [⟨"name", none, true, false, ⟨"jo", false⟩⟩,
        ⟨"", some "users.rank", false, true, ⟨" ^A", true⟩⟩]
      order := [⟨1, "DESC "⟩, ⟨18446744073709551615, ""⟩]
      start := some (-5)
      length := none
      search := ⟨"  ann  lee", false⟩ }).withConfig { Config.default with debug := true }

/-- A run that fails on its ordering after both counts still tells its request. -/
theorem sent_make_echo_users :
    let replies : List Reply := [.rows [[("aggregate", .bigInt (some 5))]],
      .rows [[("aggregate", .bigInt (some 2))]]]
    debuggedUsers.config.debug = true ∧
      ∃ echo again, (debuggedUsers.make .postgres replies).result.input = some echo ∧
        Request.ofJson? echo = some again ∧
        ({ debuggedUsers with request := again }.make .postgres replies).sent.length = 2 := by
  intro replies
  have hdebug : debuggedUsers.config.debug = true := rfl
  obtain ⟨echo, again, hecho, hagain, hsent⟩ := sent_make_echo.2.2 debuggedUsers .postgres replies
    hdebug
  refine ⟨hdebug, echo, again, hecho, hagain, ?_⟩
  rw [hsent]
  decide +kernel

end Grid

end ServerGrid
