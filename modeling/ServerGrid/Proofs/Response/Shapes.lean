import Mathlib.Data.List.Induction
import ServerGrid.Proofs.Response.Entries
import ServerGrid.RowShape

/-!
# Rows of a declared shape

What is done to rows is declared call by call, and only the calls of each kind count, in their order
(`ofCalls_eq`). Every step changes a row at the keys that some call concerns and nowhere else
(`reworks_shaped_ofCalls`), and columns are removed after everything but the numbering. Main
statement: `applyRow_ofCalls`, a row in its shape has distinct keys, none of the removed ones, and
at the keys that no call concerns what was fetched.
-/

namespace ServerGrid

namespace RowShape

/-! ## Calls -/

/-- One thing that the application declares about rows. -/
inductive Call where
  | add (name : String) (content : Content) (position : Option Nat)
  | edit (name : String) (content : Content)
  | remove (name : String)
  | setRowId (source : RowId)
  | number

def declare (s : RowShape) : Call → RowShape
  | .add name content position => s.addColumn name content position
  | .edit name content => s.editColumn name content
  | .remove name => s.removeColumn name
  | .setRowId source => s.setRowId source
  | .number => s.numberRows

/-- The shape that calls declare, in order. -/
def ofCalls (calls : List Call) : RowShape := calls.foldl declare plain

namespace Call

def added? : Call → Option AddedColumn
  | .add name content position => some ⟨name, content, position⟩
  | _ => none

def edited? : Call → Option (String × Content)
  | .edit name content => some (name, content)
  | _ => none

def removed? : Call → Option String
  | .remove name => some name
  | _ => none

def rowId? : Call → Option RowId
  | .setRowId source => some source
  | _ => none

def isNumber : Call → Bool
  | .number => true
  | _ => false

/-- A call concerns the column that it names, or the key that the row id or the number stands at. -/
def concerns (key : String) : Call → Bool
  | .add name _ _ | .edit name _ | .remove name => name == key
  | .setRowId _ => rowIdKey == key
  | .number => rowIndexKey == key

end Call

/-- Calls that are the same of each kind, in any mixture of the kinds. Of the row ids only the last
one counts. -/
structure SameKinds (calls calls' : List Call) : Prop where
  added : calls.filterMap Call.added? = calls'.filterMap Call.added?
  edited : calls.filterMap Call.edited? = calls'.filterMap Call.edited?
  removed : calls.filterMap Call.removed? = calls'.filterMap Call.removed?
  rowId : (calls.filterMap Call.rowId?).getLast? = (calls'.filterMap Call.rowId?).getLast?
  number : calls.any Call.isNumber = calls'.any Call.isNumber

theorem ofCalls_concat (calls : List Call) (call : Call) :
    ofCalls (calls ++ [call]) = (ofCalls calls).declare call := by
  rw [ofCalls, List.foldl_concat, ← ofCalls]

/-- **A shape holds the calls of each kind, in their order.** -/
theorem ofCalls_eq (calls : List Call) : ofCalls calls =
    { added := calls.filterMap Call.added?
      edited := calls.filterMap Call.edited?
      removed := calls.filterMap Call.removed?
      rowId := (calls.filterMap Call.rowId?).getLast?
      numbered := calls.any Call.isNumber } := by
  induction calls using List.reverseRecOn with
  | nil => rfl
  | append_singleton calls call ih =>
    rw [ofCalls_concat, ih]
    cases call <;>
      simp [declare, addColumn, editColumn, removeColumn, setRowId, numberRows, Call.added?,
        Call.edited?, Call.removed?, Call.rowId?, Call.isNumber, List.filterMap_append]

theorem ofCalls_congr {calls calls' : List Call} (h : SameKinds calls calls') :
    ofCalls calls = ofCalls calls' := by
  rw [ofCalls_eq, ofCalls_eq, h.added, h.edited, h.removed, h.rowId, h.number]

/-! ## Steps -/

section Steps

variable (s : RowShape) {touched : String → Bool} {before fields : Keyed Json}
  (h : Keyed.Reworks touched before fields)
include h

theorem reworks_addAll (hadded : ∀ c ∈ s.added, touched c.name = true) :
    Keyed.Reworks touched before (s.addAll fields) :=
  List.foldlRecOn s.added _ h fun _ hentries c hc =>
    hentries.insertAt (hadded c hc) _ c.position

theorem reworks_editAll (hedited : ∀ e ∈ s.edited, touched e.1 = true) :
    Keyed.Reworks touched before (s.editAll fields) :=
  List.foldlRecOn s.edited _ h fun _ hentries e he => hentries.set (hedited e he) _

theorem reworks_identify (hrowId : s.rowId.isSome = true → touched rowIdKey = true) :
    Keyed.Reworks touched before (s.identify fields) := by
  unfold identify
  split
  · exact h
  · next hsource =>
    split
    · exact h.set (hrowId (by rw [hsource]; rfl)) _
    · exact h
  · next hsource => exact h.set (hrowId (by rw [hsource]; rfl)) _

theorem reworks_removeAll (hremoved : ∀ name ∈ s.removed, touched name = true) :
    Keyed.Reworks touched before (s.removeAll fields) :=
  List.foldlRecOn s.removed _ h fun _ hentries name hname => hentries.erase (hremoved name hname)

theorem reworks_number (hnumbered : s.numbered = true → touched rowIndexKey = true)
    (index : UInt64) : Keyed.Reworks touched before (s.number index fields) := by
  unfold number
  split
  · next hnumber => exact h.set (hnumbered hnumber) _
  · exact h

end Steps

theorem nodup_keys_addAll (s : RowShape) {fields : Keyed Json} (h : (Keyed.keys fields).Nodup) :
    (Keyed.keys (s.addAll fields)).Nodup := by
  have hreworks : Keyed.Reworks (fun _ => true) fields (s.addAll fields) :=
    s.reworks_addAll .refl fun _ _ => rfl
  exact hreworks.nodup h

theorem keys_removeAll (s : RowShape) (fields : Keyed Json) : Keyed.keys (s.removeAll fields) =
    (Keyed.keys fields).filter fun key => !s.removed.contains key := by
  unfold removeAll
  generalize s.removed = removed
  induction removed generalizing fields with
  | nil => exact (List.filter_eq_self.2 fun _ _ => rfl).symm
  | cons name rest ih =>
    rw [List.foldl_cons, ih, Keyed.keys_erase, List.filter_filter]
    refine List.filter_congr fun key _ => ?_
    rw [List.contains_cons, Bool.not_or, Bool.and_comm]
    rfl

/-! ## Whole rows -/

section Rows

variable (s : RowShape) (fields : Keyed Json) (index : UInt64)

/-- The entries of a row after every step. -/
def shaped : Keyed Json := s.number index (s.removeAll (s.identify (s.editAll (s.addAll fields))))

theorem applyRow_object : s.applyRow (.object fields) index = .object (s.shaped fields index) := rfl

theorem mem_keys_shaped_of_mem_removed {name : String} (hname : name ∈ s.removed)
    (hkey : name ∈ Keyed.keys (s.shaped fields index)) :
    name = rowIndexKey ∧ s.numbered = true := by
  have hgone : ∀ entries, name ∉ Keyed.keys (s.removeAll entries) := by
    intro entries hmem
    rw [keys_removeAll, List.mem_filter, List.contains_iff_mem.2 hname] at hmem
    exact Bool.false_ne_true hmem.2
  unfold shaped number at hkey
  split at hkey
  · next hnumbered =>
    exact (Keyed.mem_keys_set.1 hkey).elim (fun hmem => absurd hmem (hgone _))
      fun heq => ⟨heq, hnumbered⟩
  · exact absurd hkey (hgone _)

end Rows

/-- Some call concerns the key. -/
def declares (calls : List Call) (key : String) : Bool := calls.any (Call.concerns key)

theorem declares_of_mem_filterMap {β : Type} {kind? : Call → Option β} {key : β → String}
    (hkind : ∀ call b, kind? call = some b → call.concerns (key b) = true) {calls : List Call} :
    ∀ b ∈ calls.filterMap kind?, declares calls (key b) = true := by
  intro b hb
  obtain ⟨call, hcall, hsome⟩ := List.mem_filterMap.1 hb
  exact List.any_eq_true.2 ⟨call, hcall, hkind call b hsome⟩

/-- **Every step keeps to the keys that some call concerns.** -/
theorem reworks_shaped_ofCalls (calls : List Call) (fields : Keyed Json) (index : UInt64) :
    Keyed.Reworks (declares calls) fields ((ofCalls calls).shaped fields index) := by
  rw [ofCalls_eq]
  refine reworks_number _ (reworks_removeAll _ (reworks_identify _ (reworks_editAll _
    (reworks_addAll _ .refl ?added) ?edited) ?rowId) ?removed) ?numbered index
  case added =>
    refine declares_of_mem_filterMap fun call c hc => ?_
    cases call <;> cases hc
    exact beq_self_eq_true _
  case edited =>
    refine declares_of_mem_filterMap fun call e he => ?_
    cases call <;> cases he
    exact beq_self_eq_true _
  case rowId =>
    intro hsome
    obtain ⟨source, hsource⟩ := Option.isSome_iff_exists.1 hsome
    have hconcerns : ∀ call source, Call.rowId? call = some source →
        call.concerns rowIdKey = true := by
      intro call source hcall
      cases call <;> cases hcall
      rfl
    exact declares_of_mem_filterMap hconcerns source (List.mem_of_getLast? hsource)
  case removed =>
    refine declares_of_mem_filterMap fun call name hname => ?_
    cases call <;> cases hname
    exact beq_self_eq_true _
  case numbered =>
    intro hnumbered
    obtain ⟨call, hcall, hnumber⟩ := List.any_eq_true.1 hnumbered
    refine List.any_eq_true.2 ⟨call, hcall, ?_⟩
    cases call <;> cases hnumber
    rfl

/-- **A row changes at the declared keys only, and what is removed stays away.** The keys stay
distinct; a removed name is only there as the number of the row; the entries at keys that no call
concerns are those of the fetched row, in their order. Calls that are the same of each kind do the
same, however they are mixed. -/
theorem applyRow_ofCalls (calls : List Call) {fields : Keyed Json}
    (h : (Keyed.keys fields).Nodup) (index : UInt64) :
    (∃ row, (ofCalls calls).applyRow (.object fields) index = .object row ∧
      (Keyed.keys row).Nodup ∧
      (∀ name ∈ calls.filterMap Call.removed?, name ∈ Keyed.keys row →
        name = rowIndexKey ∧ calls.any Call.isNumber = true) ∧
      row.filter (!declares calls ·.1) = fields.filter (!declares calls ·.1)) ∧
    (∀ calls', SameKinds calls calls' →
      (ofCalls calls').applyRow (.object fields) index =
        (ofCalls calls).applyRow (.object fields) index) := by
  have hreworks := reworks_shaped_ofCalls calls fields index
  refine ⟨⟨_, applyRow_object _ fields index, hreworks.nodup h, fun name hname hkey => ?_,
    hreworks.filter_eq⟩, fun calls' hsame => ?_⟩
  · have hshape := ofCalls_eq calls
    have hmem : name ∈ (ofCalls calls).removed := by
      rw [hshape]
      exact hname
    obtain ⟨heq, hnumbered⟩ := mem_keys_shaped_of_mem_removed _ fields index hmem hkey
    rw [hshape] at hnumbered
    exact ⟨heq, hnumbered⟩
  · rw [ofCalls_congr hsame]

/-- Calls that remove a column which others set, and number the rows. -/
def withoutPassword : List Call :=
  [.remove "password", .number, .edit "password" (.computed id), .setRowId (.column "id"),
    .remove rowIndexKey, .add "password" (.fixed .null) (some 0)]

/-- The password is gone and the name is left as it was, also when the calls come in another
order. -/
theorem applyRow_ofCalls_withoutPassword :
    let fields : Keyed Json :=
      [("id", .ofInt 7), ("name", .string "ann"), ("password", .string "x")]
    let mixed : List Call :=
      [.add "password" (.fixed .null) (some 0), .edit "password" (.computed id),
        .setRowId (.column "id"), .remove "password", .remove rowIndexKey, .number]
    (Keyed.keys fields).Nodup ∧ SameKinds withoutPassword mixed ∧
      (∃ row, (ofCalls withoutPassword).applyRow (.object fields) 1 = .object row ∧
        (Keyed.keys row).Nodup ∧ "password" ∉ Keyed.keys row ∧
        row.filter (!declares withoutPassword ·.1) =
          [("id", .ofInt 7), ("name", .string "ann")]) ∧
      (ofCalls mixed).applyRow (.object fields) 1 =
        (ofCalls withoutPassword).applyRow (.object fields) 1 := by
  intro fields mixed
  have hnodup : (Keyed.keys fields).Nodup := by decide
  have hsame : SameKinds withoutPassword mixed := ⟨rfl, rfl, rfl, rfl, rfl⟩
  obtain ⟨⟨row, hrow, hdistinct, hremoved, hkept⟩, hmixed⟩ :=
    applyRow_ofCalls withoutPassword hnodup 1
  refine ⟨hnodup, hsame, ⟨row, hrow, hdistinct, fun hkey => ?_, hkept⟩, hmixed mixed hsame⟩
  exact absurd (hremoved "password" (.head _) hkey).1 (by decide)

end RowShape

end ServerGrid
