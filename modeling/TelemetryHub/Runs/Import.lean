import TelemetryHub.Lib.Composite
import TelemetryHub.Runs.DueColumns
import TelemetryHub.Edits.Import

/-!
# The table that is imported

An imported table is a checklist with a column for each header and a task for each row, and the
texts of a row are in the columns of their headers, however the headers are named and ordered.
-/

namespace TelemetryHub

open Lib CoreM

/-! ## Lists in order -/

/-- What has keys in strict order is sorted to that order. -/
theorem sortBy_strict {α : Type} (key : α → Int) {records sorted : List α} (perm : records.Perm sorted)
    (strict : (sorted.map key).Pairwise (· < ·)) : sortBy (fun left right => compare (key left) (key right)) records = sorted := by
  have apart : (sorted.map key).Nodup := strict.imp fun less => Int.ne_of_lt less
  have order : ∀ left right, (compare (key left) (key right) ≠ .gt) ↔ key left ≤ key right := fun left right => compare_le_iff_le
  have : Std.Total fun left right : α => compare (key left) (key right) ≠ .gt :=
    ⟨fun a b => by simpa only [order] using Int.le_total (key a) (key b)⟩
  have : IsTrans α fun left right : α => compare (key left) (key right) ≠ .gt :=
    ⟨fun a b c => by simpa only [order] using Int.le_trans⟩
  have inOrder : (sortBy (fun left right => compare (key left) (key right)) records).Pairwise
      fun left right => compare (key left) (key right) ≠ .gt := List.pairwise_insertionSort _ _
  have sortedBy := (sortBy_perm (fun left right => compare (key left) (key right)) records).trans perm
  refine List.Perm.eq_of_pairwise (fun a b ha hb first second => ?_) inOrder ?_ sortedBy
  · refine List.inj_on_of_nodup_map apart (sortedBy.mem_iff.1 ha) hb ?_
    exact Int.le_antisymm ((order a b).1 first) ((order b a).1 second)
  · exact (List.pairwise_map.1 strict).imp fun less => (order _ _).2 (Int.le_of_lt less)

/-- Of pairs with different keys each is found. -/
theorem lookupLast_eq_some {K V : Type} [BEq K] [LawfulBEq K] {pairs : List (K × V)} (apart : (pairs.map Prod.fst).Nodup) {key : K}
    {value : V} : lookupLast pairs key = some value ↔ (key, value) ∈ pairs := by
  rw [lookupLast, List.lookup_eq_some_iff, ← List.mem_reverse]
  constructor
  · rintro ⟨front, back, split, -⟩
    rw [split]
    exact List.mem_append_right _ List.mem_cons_self
  · intro mem
    obtain ⟨front, back, split⟩ := List.append_of_mem mem
    refine ⟨front, back, split, fun pair early => ?_⟩
    have apart := (List.reverse_perm pairs).map Prod.fst |>.nodup_iff.2 apart
    rw [split, List.map_append, List.map_cons] at apart
    have other := (List.nodup_append.1 apart).2.2 _ (List.mem_map_of_mem early) _ List.mem_cons_self
    simpa using Ne.symm other

/-! ## The columns of a table -/

section

variable [Host]

/-- Where the column of a header is: behind the column of the due time, where no header is due. -/
def csvPlace (dueIndex : Option Nat) (index : Nat) : Nat := if dueIndex.isSome then index else index + 1

/-- The names of the columns. -/
def csvNames (headers : List String) (dueIndex : Option Nat) : List String := if dueIndex.isSome then headers else "Due" :: headers

omit [Host] in
theorem csvPlace_inj {dueIndex : Option Nat} {i j : Nat} (same : csvPlace dueIndex i = csvPlace dueIndex j) : i = j := by
  unfold csvPlace at same
  split at same
  · exact same
  · omega

/-- A column of the import: it has its name and no display order. -/
def CsvColumn (name : String) (column : Value) : Prop := column = csvDueColumn name ∨ column = csvTextColumn name

omit [Host] in
theorem CsvColumn.order {name : String} {column : Value} (h : CsvColumn name column) (index : Nat) : givenOrder column index = index + 1 := by
  have unplaced : column.get "display_order" = none := by
    rcases h with rfl | rfl
    · simp [csvDueColumn, Value.get, Value.asObject, List.lookup_cons]
    · simp [csvTextColumn, Value.get, Value.asObject, List.lookup_cons]
  rw [givenOrder, unplaced]
  rfl

theorem CsvColumn.named {name : String} {column : Value} (h : CsvColumn name column) (trimmed : trim name = name) (some_ : name.isEmpty = false) :
    optionalText column ["column_name"] = some name := by
  have field : column.get "column_name" = some (.string name) := by
    rcases h with rfl | rfl
    · simp [csvDueColumn, Value.get, Value.asObject, toValue]
    · simp [csvTextColumn, Value.get, Value.asObject, toValue]
  have object : ∃ fields, column.asObject = some fields := by
    rcases h with rfl | rfl
    · exact ⟨_, rfl⟩
    · exact ⟨_, rfl⟩
  obtain ⟨fields, object⟩ := object
  simp [optionalText, optionalTextOrEmpty, findText, object, field, valueAsStr, trimmed, some_]

omit [Host] in
/-- The columns are those of the names. -/
theorem csvColumns_named {headers : List String} (some_ : ∀ header ∈ headers, header.isEmpty = false) (dueIndex : Option Nat) :
    List.Forall₂ CsvColumn (csvNames headers dueIndex) (csvColumns headers dueIndex).1 := by
  unfold csvNames csvColumns
  cases dueIndex with
  | none =>
    refine .cons (.inl rfl) ?_
    rw [List.forall₂_map_right_iff]
    exact List.forall₂_same.2 fun _ _ => .inr rfl
  | some due =>
    dsimp only
    rw [Option.isSome_some, if_pos rfl, List.forall₂_map_right_iff, ← List.zipIdx_map_fst 0 headers, List.forall₂_map_left_iff,
      List.zipIdx_map_fst]
    refine List.forall₂_same.2 fun entry mem => ?_
    split
    · rw [some_ entry.1 (List.mem_of_getElem? (List.mem_zipIdx_iff_getElem?.1 mem)), if_neg Bool.false_ne_true]
      exact .inl rfl
    · exact .inr rfl

omit [Host] in
/-- The display orders of the headers that are not due. -/
theorem mem_csvColumns_orders {headers : List String} {dueIndex : Option Nat} {index order : Nat} :
    (index, order) ∈ (csvColumns headers dueIndex).2 ↔
      index < headers.length ∧ dueIndex ≠ some index ∧ order = csvPlace dueIndex index + 1 := by
  have indices : (∃ header, (header, index) ∈ headers.zipIdx) ↔ index < headers.length := by
    simp only [List.mem_zipIdx_iff_getElem?]
    exact ⟨fun ⟨_, there⟩ => (List.getElem?_eq_some_iff.1 there).1, fun bound => ⟨_, List.getElem?_eq_getElem bound⟩⟩
  rw [← indices]
  unfold csvColumns csvPlace
  cases dueIndex with
  | none =>
    dsimp only
    rw [List.mem_map]
    constructor
    · rintro ⟨⟨header, _⟩, mem, same⟩
      obtain ⟨rfl, rfl⟩ := Prod.mk.inj same
      exact ⟨⟨header, mem⟩, nofun, rfl⟩
    · rintro ⟨⟨header, mem⟩, -, rfl⟩
      exact ⟨(header, index), mem, rfl⟩
  | some due =>
    dsimp only
    rw [List.mem_map]
    constructor
    · rintro ⟨⟨header, _⟩, mem, same⟩
      obtain ⟨rfl, rfl⟩ := Prod.mk.inj same
      obtain ⟨mem, other⟩ := List.mem_filter.1 mem
      exact ⟨⟨header, mem⟩, fun same => of_decide_eq_true other (Option.some.inj same).symm, rfl⟩
    · rintro ⟨⟨header, mem⟩, other, rfl⟩
      exact ⟨(header, index), List.mem_filter.2 ⟨mem, decide_eq_true fun same => other (congrArg some same.symm)⟩, rfl⟩

omit [Host] in
theorem csvColumns_orders_nodup (headers : List String) (dueIndex : Option Nat) :
    ((csvColumns headers dueIndex).2.map Prod.fst).Nodup := by
  have indices : (headers.zipIdx.map Prod.snd).Nodup := by
    rw [List.zipIdx_map_snd]
    exact List.nodup_range'
  unfold csvColumns
  cases dueIndex with
  | none =>
    rw [List.map_map]
    exact indices
  | some due =>
    rw [List.map_map]
    exact (List.filter_sublist.map Prod.snd).nodup indices

/-- The columns as they are written: the names, and the places as display orders. -/
theorem csvColumns_written {checklistUid : String} {now : Int} {names : List String} {columns : List Value}
    (named : List.Forall₂ CsvColumn names columns) (texts : ∀ name ∈ names, trim name = name ∧ name.isEmpty = false)
    {index : Nat} {records : List ChecklistColumnRecord}
    (each : List.Forall₂ (fun entry column => ∃ uid, column = (ColumnOwner.checklist checklistUid).column now entry.2 entry.1 uid)
      (columns.zipIdx index) records) :
    records.map ChecklistColumnRecord.columnName = names ∧
      records.map ChecklistColumnRecord.displayOrder = (List.range' (index + 1) names.length).map Nat.cast := by
  induction named generalizing index records with
  | nil =>
    cases each
    exact ⟨rfl, rfl⟩
  | cons first _ ih =>
    rename_i name value names values _
    cases each with
    | cons here rest =>
      obtain ⟨uid, rfl⟩ := here
      obtain ⟨text, texts⟩ := List.forall_mem_cons.1 texts
      obtain ⟨names', orders⟩ := ih texts rest
      have named : ((ColumnOwner.checklist checklistUid).column now index value uid).columnName = name :=
        congrArg (fun text => text.getD "Column") (first.named text.1 text.2)
      have order : ((ColumnOwner.checklist checklistUid).column now index value uid).displayOrder = ((index + 1 : Nat) : Int) := by
        rw [ColumnOwner.column_order, first.order]
        rfl
      rw [List.map_cons, List.map_cons, names', orders, named, order]
      exact ⟨rfl, rfl⟩

/-- The checklist of a table has the columns of the names, each at its place. -/
theorem ChecklistCreated.layout {core core' : RchCore} (whole : SheetsWhole core) {checklistUid : String}
    (absent : core.checklists.get checklistUid = none) {names : List String} {columns : List Value}
    (named : List.Forall₂ CsvColumn names columns) (texts : ∀ name ∈ names, trim name = name ∧ name.isEmpty = false)
    (created : ChecklistCreated checklistUid columns core core') :
    (core'.columnsForChecklist checklistUid).map ChecklistColumnRecord.columnName = names ∧
      (core'.columnsForChecklist checklistUid).map ChecklistColumnRecord.displayOrder = (List.range' 1 names.length).map Nat.cast ∧
      ((core'.columnsForChecklist checklistUid).map ChecklistColumnRecord.columnUid).Nodup := by
  obtain ⟨now, put⟩ := created.columns
  obtain ⟨records, each, perm⟩ := put.own trivial
  have unknown : (ColumnOwner.checklist checklistUid).known core = false := Dict.contains_eq_false.2 absent
  have empty : core.checklistColumns.values.filter (ColumnOwner.checklist checklistUid).has = [] := whole.unknown_empty unknown
  rw [empty, List.append_nil] at perm
  obtain ⟨written, orders⟩ := csvColumns_written named texts each
  have listed : core'.columnsForChecklist checklistUid = records := by
    refine sortBy_strict ChecklistColumnRecord.displayOrder perm ?_
    rw [orders]
    exact List.pairwise_map.2 ((List.pairwise_lt_range' 1 Nat.one_pos).imp fun less => Int.ofNat_lt.2 less)
  have filed : Filed ChecklistColumnRecord.columnUid id core'.checklistColumns := by
    intro uid column stored
    rcases put.source stored with before | ⟨index, value, rfl⟩
    · exact (whole.columnKeys uid column before).symm
    · exact ((ColumnOwner.checklist checklistUid).column_key now index value uid).symm
  refine ⟨listed ▸ written, listed ▸ orders, ?_⟩
  exact ((sortBy_perm _ _).map _).nodup_iff.2 ((List.filter_sublist.map _).nodup filed.nodup_keys)

omit [Host] in
/-- The column of a display order is at its place. -/
theorem column_at {columns : List ChecklistColumnRecord} {n : Nat}
    (orders : columns.map ChecklistColumnRecord.displayOrder = (List.range' 1 n).map Nat.cast) {column : ChecklistColumnRecord}
    {place : Nat} : (column ∈ columns ∧ column.displayOrder = ((place + 1 : Nat) : Int)) ↔ columns[place]? = some column := by
  have order : ∀ i column, columns[i]? = some column → column.displayOrder = ((i + 1 : Nat) : Int) := by
    intro i column there
    have mapped := congrArg (fun list => list[i]?) orders
    rw [List.getElem?_map, there, Option.map_some, List.getElem?_map] at mapped
    obtain ⟨m, there', same⟩ := Option.map_eq_some_iff.1 mapped.symm
    obtain ⟨bound, rfl⟩ := List.getElem?_eq_some_iff.1 there'
    rw [← same, List.getElem_range', Nat.one_mul, Nat.add_comm]
  constructor
  · rintro ⟨mem, same⟩
    obtain ⟨i, there⟩ := List.mem_iff_getElem?.1 mem
    have place' := (order i column there).symm.trans same
    rw [show place = i by omega, there]
  · exact fun there => ⟨List.mem_of_getElem? there, order place column there⟩

/-- The columns of the headers that are not due, as they are looked up by their display orders. -/
def csvHeaderUids (columns : List ChecklistColumnRecord) (orders : List (Nat × Nat)) : List (Nat × String) :=
  orders.filterMap fun (index, order) =>
    (lookupLast (columns.map fun column => (column.displayOrder, column.columnUid)) (order : Int)).map fun columnUid => (index, columnUid)

omit [Host] in
theorem mem_csvHeaderUids {columns : List ChecklistColumnRecord} {n : Nat}
    (orders : columns.map ChecklistColumnRecord.displayOrder = (List.range' 1 n).map Nat.cast) {headers : List String}
    {dueIndex : Option Nat} {index : Nat} {uid : String} :
    (index, uid) ∈ csvHeaderUids columns (csvColumns headers dueIndex).2 ↔
      index < headers.length ∧ dueIndex ≠ some index ∧
        ∃ column, columns[csvPlace dueIndex index]? = some column ∧ column.columnUid = uid := by
  have apart : ((columns.map fun column => (column.displayOrder, column.columnUid)).map Prod.fst).Nodup := by
    rw [List.map_map]
    show (columns.map ChecklistColumnRecord.displayOrder).Nodup
    rw [orders]
    exact (List.nodup_range').map fun _ _ same => Int.ofNat.inj same
  have found : ∀ order : Nat, lookupLast (columns.map fun column => (column.displayOrder, column.columnUid)) ((order + 1 : Nat) : Int) = some uid ↔
      ∃ column, columns[order]? = some column ∧ column.columnUid = uid := by
    intro order
    rw [lookupLast_eq_some apart, List.mem_map]
    constructor
    · rintro ⟨column, mem, pair⟩
      obtain ⟨same, rfl⟩ := Prod.mk.inj pair
      exact ⟨column, (column_at orders).1 ⟨mem, same⟩, rfl⟩
    · rintro ⟨column, there, rfl⟩
      obtain ⟨mem, same⟩ := (column_at orders).2 there
      exact ⟨column, mem, by rw [same]⟩
  unfold csvHeaderUids
  rw [List.mem_filterMap]
  constructor
  · rintro ⟨⟨index', order⟩, mem, header⟩
    obtain ⟨uid', looked, same⟩ := Option.map_eq_some_iff.1 header
    obtain ⟨rfl, rfl⟩ := Prod.mk.inj same
    obtain ⟨bound, other, rfl⟩ := mem_csvColumns_orders.1 mem
    exact ⟨bound, other, (found _).1 looked⟩
  · rintro ⟨bound, other, column⟩
    refine ⟨(index, csvPlace dueIndex index + 1), mem_csvColumns_orders.2 ⟨bound, other, rfl⟩, ?_⟩
    exact Option.map_eq_some_iff.2 ⟨uid, (found _).2 column, rfl⟩

omit [Host] in
/-- No two headers are in one column. -/
theorem csvHeaderUids_nodup {columns : List ChecklistColumnRecord} {n : Nat}
    (orders : columns.map ChecklistColumnRecord.displayOrder = (List.range' 1 n).map Nat.cast)
    (apart : (columns.map ChecklistColumnRecord.columnUid).Nodup) (headers : List String) (dueIndex : Option Nat) :
    ((csvHeaderUids columns (csvColumns headers dueIndex).2).map Prod.snd).Nodup := by
  have fewer : ∀ orders : List (Nat × Nat), ((csvHeaderUids columns orders).map Prod.fst).Sublist (orders.map Prod.fst) := by
    intro orders
    induction orders with
    | nil => exact .slnil
    | cons entry rest ih =>
      obtain ⟨index, order⟩ := entry
      unfold csvHeaderUids at ih ⊢
      rw [List.filterMap_cons]
      dsimp only
      cases lookupLast (columns.map fun column => (column.displayOrder, column.columnUid)) (order : Int) with
      | none => exact ih.cons _
      | some uid => exact ih.cons_cons _
  have pairs : (csvHeaderUids columns (csvColumns headers dueIndex).2).Nodup :=
    .of_map _ ((fewer _).nodup (csvColumns_orders_nodup headers dueIndex))
  refine pairs.map_on fun first mem second mem' same => ?_
  obtain ⟨-, -, column, there, uid⟩ := (mem_csvHeaderUids orders).1 mem
  obtain ⟨-, -, column', there', uid'⟩ := (mem_csvHeaderUids orders).1 mem'
  have place : csvPlace dueIndex first.1 = csvPlace dueIndex second.1 := by
    have at_ : (columns.map ChecklistColumnRecord.columnUid)[csvPlace dueIndex first.1]? =
        (columns.map ChecklistColumnRecord.columnUid)[csvPlace dueIndex second.1]? := by
      rw [List.getElem?_map, List.getElem?_map, there, there', Option.map_some, Option.map_some, uid, uid', same]
    refine (List.getElem?_inj ?_ apart).1 at_
    rw [List.length_map]
    exact (List.getElem?_eq_some_iff.1 there).1
  exact Prod.ext (csvPlace_inj place) same

/-! ## Headers -/

omit [Host] in
/-- The name of a header without a text is a name. -/
theorem columnNumber_text (n : Nat) : trim ("Column " ++ toString n) = "Column " ++ toString n ∧ ("Column " ++ toString n).isEmpty = false := by
  have chars : ("Column " ++ toString n).toList = "Column ".toList ++ Nat.toDigits 10 n := by
    rw [String.toList_append]
    exact congrArg _ Nat.toList_repr
  have trimmed : Trimmed ("Column " ++ toString n).toList := by
    rw [chars]
    refine ⟨fun c first => ?_, fun c last => ?_⟩
    · obtain rfl := Option.some.inj first
      rfl
    · rw [List.getLast?_append_of_ne_nil _ Nat.toDigits_ne_nil] at last
      exact isWhitespace_digit (Nat.isDigit_of_mem_toDigits (by decide) (by decide) (List.mem_of_getLast? last))
  refine ⟨by rw [trim, trimChars_of_trimmed trimmed, String.ofList_toList], ?_⟩
  refine Bool.eq_false_of_not_eq_true fun empty => ?_
  rw [String.isEmpty_iff.1 empty] at chars
  cases chars

omit [Host] in
/-- Every header has a name. -/
theorem csvHeaders_texts {headerRow : List String} (trimmed : ∀ text ∈ headerRow, trim text = text) (width : Nat) :
    ∀ header ∈ csvHeaders headerRow width, trim header = header ∧ header.isEmpty = false := by
  intro header mem
  obtain ⟨index, -, rfl⟩ := List.mem_map.1 mem
  cases given : (headerRow[index]?).filter fun value => !(trim value).isEmpty with
  | none => exact columnNumber_text (index + 1)
  | some text =>
    obtain ⟨there, some_⟩ := Option.filter_eq_some_iff.1 given
    have same := trimmed text (List.mem_of_getElem? there)
    rw [same] at some_
    exact ⟨same, by simpa using some_⟩

omit [Host] in
theorem csvNames_texts {headers : List String} (texts : ∀ header ∈ headers, trim header = header ∧ header.isEmpty = false)
    (dueIndex : Option Nat) : ∀ name ∈ csvNames headers dueIndex, trim name = name ∧ name.isEmpty = false := by
  unfold csvNames
  split
  · exact texts
  · have due : trim "Due" = "Due" ∧ "Due".isEmpty = false := by decide
    exact List.forall_mem_cons.2 ⟨due, texts⟩

/-! ## The table in the core -/

omit [Host] in
/-- The tasks of a checklist by their numbers, as they are listed. -/
def RchCore.tasksByNumber (core : RchCore) (checklistUid : String) : List ChecklistTaskRecord :=
  sortBy (fun left right => compare left.number right.number)
    (core.checklistTasks.values.filter fun task => task.checklistUid == checklistUid)

omit [Host] in
/-- The values of the cells of a task in a column. -/
def RchCore.valuesAt (core : RchCore) (taskUid columnUid : String) : List (Option String) :=
  (core.cellsAt taskUid columnUid).map ChecklistCellRecord.value

/-- The task has the texts of the row, each in the column of its header, and the minutes of the
due one. -/
structure RowKept (core : RchCore) (checklistUid : String) (headers : List String) (dueIndex : Option Nat) (row : List String)
    (task : ChecklistTaskRecord) : Prop where
  texts : ∀ index column, index < headers.length → dueIndex ≠ some index →
    (core.columnsForChecklist checklistUid)[csvPlace dueIndex index]? = some column →
      core.valuesAt task.taskUid column.columnUid = [(row[index]?).filter fun text => !text.isEmpty]
  due : ∀ column, (core.columnsForChecklist checklistUid)[dueIndex.getD 0]? = some column →
    core.valuesAt task.taskUid column.columnUid = [none]
  others : ∀ cell ∈ core.checklistCells.values, cell.taskUid = task.taskUid →
    cell.columnUid ∈ (core.columnsForChecklist checklistUid).map ChecklistColumnRecord.columnUid
  minutes : ∀ index text minutes, dueIndex = some index → index < headers.length → row[index]? = some text →
    parseDueMinutes text = some minutes → task.dueRelativeMinutes = some minutes
  legacy : task.legacyValue = (((csvRow headers.length row).zipIdx.find? fun entry =>
    !entry.1.isEmpty && dueIndex != some entry.2).map Prod.fst)

/-- The checklist is the table: its columns are those of the headers, and its tasks are the rows
in their order, with the numbers from one on. -/
structure TableKept (core : RchCore) (checklistUid : String) (headers : List String) (dueIndex : Option Nat) (rows : List (List String)) :
    Prop where
  names : (core.columnsForChecklist checklistUid).map ChecklistColumnRecord.columnName = csvNames headers dueIndex
  numbers : (core.tasksByNumber checklistUid).map ChecklistTaskRecord.number = (List.range' 1 rows.length).map Nat.cast
  rows : List.Forall₂ (RowKept core checklistUid headers dueIndex) rows (core.tasksByNumber checklistUid)

omit [Host] in
/-- The tasks of the rows, in the order of the rows. -/
theorem RowIn.tasks {target : CsvTarget} {core : RchCore} {done : List (List String × Nat)} {taskUids : List String}
    (rows : List.Forall₂ (RowIn target core) done taskUids) :
    ∃ tasks : List ChecklistTaskRecord, tasks.map ChecklistTaskRecord.taskUid = taskUids ∧
      List.Forall₂ (fun entry task => core.checklistTasks.get task.taskUid = some task ∧ RowIn target core entry task.taskUid ∧
        TaskOfRow target.checklistUid (csvRow target.width entry.1) target.dueIndex (entry.2 + 1) task) done tasks := by
  induction rows with
  | nil => exact ⟨[], rfl, .nil⟩
  | cons first _ ih =>
    obtain ⟨tasks, same, each⟩ := ih
    obtain ⟨task, stored, key, made⟩ := first.task
    exact ⟨task :: tasks, by rw [List.map_cons, key, same], .cons ⟨key ▸ stored, key ▸ first, made⟩ each⟩

omit [Host] in
/-- The tasks of the checklist by their numbers are those of the rows. -/
theorem Imported.tasksByNumber {target : CsvTarget} {taskRows : List (List String)} {core : RchCore}
    (imported : Imported target taskRows.zipIdx core) :
    (core.tasksByNumber target.checklistUid).map ChecklistTaskRecord.number = (List.range' 1 taskRows.length).map Nat.cast ∧
      List.Forall₂ (fun entry task => core.checklistTasks.get task.taskUid = some task ∧ RowIn target core entry task.taskUid ∧
        TaskOfRow target.checklistUid (csvRow target.width entry.1) target.dueIndex (entry.2 + 1) task) taskRows.zipIdx
        (core.tasksByNumber target.checklistUid) := by
  obtain ⟨taskUids, rows, all⟩ := imported.rows
  obtain ⟨tasks, same, each⟩ := RowIn.tasks rows
  have numbers : tasks.map ChecklistTaskRecord.number = (List.range' 1 taskRows.length).map Nat.cast := by
    have mapped : tasks.map ChecklistTaskRecord.number = taskRows.zipIdx.map fun entry => ((entry.2 + 1 : Nat) : Int) := by
      clear same rows all
      generalize taskRows.zipIdx = done at each
      induction each with
      | nil => rfl
      | cons first _ ih => rw [List.map_cons, List.map_cons, ih, first.2.2.number]
    have counted : taskRows.zipIdx.map (fun entry => entry.2 + 1) = List.range' 1 taskRows.length := by
      have shifted : taskRows.zipIdx.map (fun entry => entry.2 + 1) = (taskRows.zipIdx.map Prod.snd).map (1 + ·) := by
        rw [List.map_map]
        exact List.map_congr_left fun entry _ => Nat.add_comm entry.2 1
      rw [shifted, List.zipIdx_map_snd, List.map_add_range']
    rw [mapped, ← counted, List.map_map]
    rfl
  have stored_ : ∀ task ∈ tasks, core.checklistTasks.get task.taskUid = some task ∧ task.checklistUid = target.checklistUid := by
    clear same numbers
    generalize taskRows.zipIdx = done at each
    induction each with
    | nil => exact fun _ mem => nomatch mem
    | cons first _ ih =>
      refine List.forall_mem_cons.2 ⟨⟨first.1, first.2.2.owner⟩, ih⟩
  have strict : (tasks.map ChecklistTaskRecord.number).Pairwise (· < ·) := by
    rw [numbers]
    exact List.pairwise_map.2 ((List.pairwise_lt_range' 1 Nat.one_pos).imp fun less => Int.ofNat_lt.2 less)
  have perm : (core.checklistTasks.values.filter fun task => task.checklistUid == target.checklistUid).Perm tasks := by
    have filed : Filed ChecklistTaskRecord.taskUid id core.checklistTasks := fun uid task stored => (imported.keys uid task stored).symm
    have apart : (core.checklistTasks.values.filter fun task => task.checklistUid == target.checklistUid).Nodup :=
      List.filter_sublist.nodup (.of_map _ filed.nodup_keys)
    refine (List.perm_ext_iff_of_nodup apart (.of_map _ (strict.imp fun less => Int.ne_of_lt less))).2 fun task => ?_
    rw [List.mem_filter, Dict.mem_values, beq_iff_eq]
    constructor
    · rintro ⟨⟨uid, stored⟩, owner⟩
      have mem := all uid task stored owner
      rw [← same] at mem
      obtain ⟨task', mem, key⟩ := List.mem_map.1 mem
      obtain ⟨there, -⟩ := stored_ task' mem
      rw [key, stored] at there
      exact Option.some.inj there ▸ mem
    · intro mem
      obtain ⟨there, owner⟩ := stored_ task mem
      exact ⟨⟨_, there⟩, owner⟩
  have listed : core.tasksByNumber target.checklistUid = tasks := sortBy_strict ChecklistTaskRecord.number perm strict
  rw [listed]
  exact ⟨numbers, each⟩

/-- Where a table goes once its checklist is there. -/
def csvTarget (columns : List ChecklistColumnRecord) (checklistUid : String) (headers : List String) (dueIndex : Option Nat) : CsvTarget where
  checklistUid
  columns
  width := headers.length
  dueIndex
  headers := csvHeaderUids columns (csvColumns headers dueIndex).2

omit [Host] in
theorem csvRow_get (row : List String) {width index : Nat} (bound : index < width) : (csvRow width row)[index]? = some ((row[index]?).getD "") := by
  rw [csvRow, List.getElem?_map, List.getElem?_range bound, Option.map_some]

section

variable {columns : List ChecklistColumnRecord} {n : Nat} (checklistUid : String) (headers : List String) {dueIndex : Option Nat}

omit [Host] in
theorem csvTarget_sound (orders : columns.map ChecklistColumnRecord.displayOrder = (List.range' 1 n).map Nat.cast)
    (apart : (columns.map ChecklistColumnRecord.columnUid).Nodup) : (csvTarget columns checklistUid headers dueIndex).Sound := by
  refine ⟨apart, fun header mem => ?_⟩
  obtain ⟨-, -, column, there, same⟩ := (mem_csvHeaderUids orders).1 mem
  exact List.mem_map.2 ⟨column, List.mem_of_getElem? there, same⟩

omit [Host] in
/-- The value in the column of a header that is not due is the text of the row. -/
theorem csvTarget_text (orders : columns.map ChecklistColumnRecord.displayOrder = (List.range' 1 n).map Nat.cast)
    (apart : (columns.map ChecklistColumnRecord.columnUid).Nodup) (row : List String) {index : Nat} (bound : index < headers.length)
    (other : dueIndex ≠ some index) {column : ChecklistColumnRecord} (there : columns[csvPlace dueIndex index]? = some column) :
    (csvTarget columns checklistUid headers dueIndex).values row column.columnUid = (row[index]?).filter fun text => !text.isEmpty := by
  have mem : (index, column.columnUid) ∈ csvHeaderUids columns (csvColumns headers dueIndex).2 :=
    (mem_csvHeaderUids orders).2 ⟨bound, other, column, there, rfl⟩
  refine (written_header (csvHeaderUids_nodup orders apart headers dueIndex) mem _ rfl).trans ?_
  show ((csvRow headers.length row)[index]?).filter _ = _
  rw [csvRow_get row bound]
  cases row[index]? with
  | none => rfl
  | some text => rfl

omit [Host] in
/-- The due column has no text. -/
theorem csvTarget_due (orders : columns.map ChecklistColumnRecord.displayOrder = (List.range' 1 n).map Nat.cast)
    (apart : (columns.map ChecklistColumnRecord.columnUid).Nodup) (row : List String) {column : ChecklistColumnRecord}
    (there : columns[dueIndex.getD 0]? = some column) :
    (csvTarget columns checklistUid headers dueIndex).values row column.columnUid = none := by
  refine written_other (fun mem => ?_) _
  obtain ⟨header, mem, same⟩ := List.mem_map.1 mem
  obtain ⟨-, other, column', there', same'⟩ := (mem_csvHeaderUids orders).1 mem
  have at_ : (columns.map ChecklistColumnRecord.columnUid)[csvPlace dueIndex header.1]? =
      (columns.map ChecklistColumnRecord.columnUid)[dueIndex.getD 0]? := by
    rw [List.getElem?_map, List.getElem?_map, there, there', Option.map_some, Option.map_some, same', same]
  have place : csvPlace dueIndex header.1 = dueIndex.getD 0 := by
    refine (List.getElem?_inj ?_ apart).1 at_
    rw [List.length_map]
    exact (List.getElem?_eq_some_iff.1 there').1
  cases dueIndex with
  | none => exact absurd place (Nat.succ_ne_zero _)
  | some due => exact other (congrArg some place.symm)

omit [Host] in
/-- With all its rows in the table is there. -/
theorem Imported.table (orders : columns.map ChecklistColumnRecord.displayOrder = (List.range' 1 n).map Nat.cast)
    (apart : (columns.map ChecklistColumnRecord.columnUid).Nodup)
    (names : columns.map ChecklistColumnRecord.columnName = csvNames headers dueIndex) {taskRows : List (List String)} {core : RchCore}
    (imported : Imported (csvTarget columns checklistUid headers dueIndex) taskRows.zipIdx core) :
    TableKept core checklistUid headers dueIndex taskRows := by
  obtain ⟨numbers, each⟩ := imported.tasksByNumber
  have listed : core.columnsForChecklist checklistUid = columns := imported.columns
  have row : ∀ (entry : List String × Nat) task, core.checklistTasks.get task.taskUid = some task ∧
      RowIn (csvTarget columns checklistUid headers dueIndex) core entry task.taskUid ∧
        TaskOfRow checklistUid (csvRow headers.length entry.1) dueIndex (entry.2 + 1) task →
      RowKept core checklistUid headers dueIndex entry.1 task := by
    rintro entry task ⟨stored, row, made⟩
    have uid : ∀ {place : Nat} {column}, columns[place]? = some column → column.columnUid ∈ columns.map ChecklistColumnRecord.columnUid :=
      fun there => List.mem_map_of_mem (List.mem_of_getElem? there)
    refine ⟨fun index column bound other there => ?_, fun column there => ?_, fun cell mem mine => ?_, ?_, made.legacy⟩
    · rw [listed] at there
      rw [← csvTarget_text checklistUid headers orders apart entry.1 bound other there]
      exact (row.cells _ (uid there)).values
    · rw [listed] at there
      rw [← csvTarget_due checklistUid headers orders apart entry.1 there]
      exact (row.cells _ (uid there)).values
    · obtain ⟨key, there⟩ := Dict.mem_values.1 mem
      obtain ⟨task', stored', column⟩ := imported.placed key cell there
      rw [mine, stored] at stored'
      rw [listed]
      exact column (Option.some.inj stored' ▸ made.owner)
    · intro index text minutes due bound there parsed
      rw [made.minutes, csvMinutes, due, Option.bind_some, csvRow_get entry.1 bound, there, Option.getD_some, Option.bind_some, parsed,
        Option.getD_some]
  refine ⟨listed ▸ names, numbers, ?_⟩
  rw [← List.zipIdx_map_fst 0 taskRows, List.forall₂_map_left_iff]
  exact each.imp row

end

/-- The draws of an import: one for the checklist, one for each column, and for each row one for
the task and one for each cell. -/
def csvDraws (headers : List String) (dueIndex : Option Nat) (rows : Nat) : Nat :=
  1 + (csvNames headers dueIndex).length + rows * (1 + (csvNames headers dueIndex).length)

/-- The rows of a table as it is read: each text without byte-order marks and outer blanks, and
the rows without a text left out. -/
def csvRows (records : List (List String)) : List (List String) :=
  (records.map fun record => record.map csvCell).filter fun row => row.any fun cell => !cell.isEmpty

/-- The width of a table. -/
def csvWidth (rows : List (List String)) : Nat := rows.foldl (fun width row => max width row.length) 0

omit [Host] in
theorem csvRows_trimmed (records : List (List String)) : ∀ row ∈ csvRows records, ∀ text ∈ row, trim text = text := by
  intro row mem text there
  obtain ⟨record, -, rfl⟩ := List.mem_map.1 (List.mem_filter.1 mem).1
  obtain ⟨cell, -, rfl⟩ := List.mem_map.1 there
  exact trim_trim _

theorem csvRowsFromArgs_read {args : Value} {rows : List (List String)} (read : csvRowsFromArgs args = .ok rows) :
    ∃ encoded decoded records, requiredText args ["csv_base64"] = .ok encoded ∧ Host.base64Decode encoded = some decoded ∧
      Host.csvRecords (Host.decodeUtf8 decoded) = (records, none) ∧ rows = csvRows records := by
  obtain ⟨encoded, given, read⟩ := bind_eq_ok.1 read
  dsimp only at read
  split at read
  · rename_i decoded found
    split at read
    · exact nomatch read
    · rename_i none_
      have clean : (Host.csvRecords (Host.decodeUtf8 decoded)).2 = none := Option.eq_none_iff_forall_not_mem.2 none_
      exact ⟨encoded, decoded, _, given, found, Prod.ext rfl clean, (Except.ok.inj read).symm⟩
  · exact nomatch read

/-- The checklist of a table before its first row. -/
theorem ChecklistCreated.imported {core core' : RchCore} (whole : SheetsWhole core) {checklistUid : String}
    (absent : core.checklists.get checklistUid = none) {columns : List Value} (created : ChecklistCreated checklistUid columns core core')
    (headers : List String) (dueIndex : Option Nat) :
    Imported (csvTarget (core'.columnsForChecklist checklistUid) checklistUid headers dueIndex) [] core' := by
  have others : ∀ uid task, core'.checklistTasks.get uid = some task → task.checklistUid ≠ checklistUid := by
    intro uid task stored owner
    obtain ⟨old, there, row⟩ := ChecklistTaskRecord.row_kept (created.tasks uid).symm stored
    obtain ⟨checklist, stored'⟩ := Dict.contains_iff.1 (whole.taskOwners uid old there)
    have owner' : old.checklistUid = checklistUid := (congrArg ChecklistTaskRecord.checklistUid row).trans owner
    rw [owner', absent] at stored'
    exact nomatch stored'
  refine ⟨rfl, created.checklist, fun uid task stored => ?_, created.cells ▸ whole.cellKeys, fun uid cell stored => ?_,
    [], .nil, fun uid task stored owner => absurd owner (others uid task stored)⟩
  · obtain ⟨old, there, row⟩ := ChecklistTaskRecord.row_kept (created.tasks uid).symm stored
    exact (congrArg ChecklistTaskRecord.taskUid row).symm.trans (whole.taskKeys uid old there)
  · rw [created.cells] at stored
    obtain ⟨task, -, there, -⟩ := whole.cellPlaces cell (Dict.mem_values.2 ⟨uid, stored⟩)
    obtain ⟨new, there', -⟩ := ChecklistTaskRecord.row_kept (created.tasks cell.taskUid) there
    exact ⟨new, there', fun owner => absurd owner (others _ new there')⟩

/-- The import of a table that is read, from a whole core. -/
theorem importTable_returns (command : MissionCommandEnvelope) (filename : String) {core₀ : RchCore} {draws : Nat → Uuid}
    (whole : SheetsWhole core₀) {headers : List String} (texts : ∀ header ∈ headers, trim header = header ∧ header.isEmpty = false)
    (some_ : headers ≠ []) {dueIndex : Option Nat} {columns : List Value} {orders : List (Nat × Nat)}
    (split : csvColumns headers dueIndex = (columns, orders)) {taskRows : List (List String)} (trimmed : ∀ row ∈ taskRows, ∀ text ∈ row, trim text = text)
    (fresh : FreshUids (csvDraws headers dueIndex taskRows.length) core₀ draws) :
    Proc.Spec drawsSeen (do
        let checklist ← createChecklistFromArgs (csvCreateCommand command filename columns) "ONLINE" "SYNCED"
        let createdColumns := ((← core).columnsForChecklist checklist.uid).map fun column => (column.displayOrder, column.columnUid)
        let headerColumnUids := orders.filterMap fun header =>
          (lookupLast createdColumns (header.2 : Int)).map fun columnUid => (header.1, columnUid)
        taskRows.zipIdx.forM (importCsvRow command checklist.uid headers.length dueIndex headerColumnUids)
        let imported ← Proc.orThrow ((← core).checklists.get checklist.uid) (.invalidPayload "Checklist import failed")
        return (← core).checklistValue imported : CoreM Value) (core₀, draws)
      (Proc.Returns fun _ v => ∃ checklistUid, core₀.checklists.get checklistUid = none ∧
        TableKept v.1 checklistUid headers dueIndex taskRows) := by
  have named := csvColumns_named (fun header mem => (texts header mem).2) dueIndex
  obtain rfl : (csvColumns headers dueIndex).2 = orders := by rw [split]
  obtain rfl : (csvColumns headers dueIndex).1 = columns := by rw [split]
  have length := named.length_eq
  have nonempty : (csvColumns headers dueIndex).1 ≠ [] := by
    rw [← List.length_pos_iff_ne_nil, ← length, csvNames]
    split
    · exact List.length_pos_iff_ne_nil.2 some_
    · exact Nat.succ_pos _
  have absent := fresh.checklists 0 (by unfold csvDraws; omega)
  rw [csvDraws, length] at fresh
  refine Proc.Returns.bind (createCsvChecklist_returns command filename nonempty _ fresh) ?_
  rintro checklist ⟨core₁, draws₁⟩ ⟨uid, created, fresh⟩
  obtain ⟨names, orders, apart⟩ := created.layout whole absent named (csvNames_texts texts dueIndex)
  have columns : (core₁.columnsForChecklist (draws 0).simple).length = (csvColumns headers dueIndex).1.length := by
    rw [← length, ← names, List.length_map]
  rw [uid]
  refine seenRead (Proc.Returns.bind (importCsvRows_returns command (csvTarget_sound _ headers orders apart) trimmed
    (created.imported whole absent headers dueIndex) ?_) ?_)
  · rw [← columns] at fresh
    exact fresh
  · rintro _ ⟨core₂, draws₂⟩ imported
    refine seenRead (Proc.Returns.required fun stored _ => seenRead (Proc.Returns.pure ?_))
    exact ⟨_, absent, imported.table _ _ orders apart names⟩

/-- The import, from a whole core. -/
theorem importChecklistCsv_returns (command : MissionCommandEnvelope) {core₀ : RchCore} {draws : Nat → Uuid} (whole : SheetsWhole core₀) :
    Proc.Spec drawsSeen (importChecklistCsv command) (core₀, draws) (Proc.Returns fun _ v => ∃ headerRow taskRows,
      csvRowsFromArgs command.args = .ok (headerRow :: taskRows) ∧ taskRows ≠ [] ∧
        (FreshUids (csvDraws (csvHeaders headerRow (csvWidth (headerRow :: taskRows)))
            (csvDueHeaderIndex (csvHeaders headerRow (csvWidth (headerRow :: taskRows)))) taskRows.length) core₀ draws →
          ∃ checklistUid, core₀.checklists.get checklistUid = none ∧
            TableKept v.1 checklistUid (csvHeaders headerRow (csvWidth (headerRow :: taskRows)))
              (csvDueHeaderIndex (csvHeaders headerRow (csvWidth (headerRow :: taskRows)))) taskRows)) := by
  unfold importChecklistCsv
  dsimp only
  refine Proc.Returns.checked fun rows parsed => ?_
  split
  · rename_i headerRow firstRow otherRows
    have width : (headerRow :: firstRow :: otherRows).foldl (fun width row => max width row.length) 0 =
        csvWidth (headerRow :: firstRow :: otherRows) := rfl
    rw [width]
    refine Proc.Returns.guard fun wide => ?_
    obtain ⟨-, -, records, -, -, -, same⟩ := csvRowsFromArgs_read parsed
    have trimmed : ∀ row ∈ headerRow :: firstRow :: otherRows, ∀ text ∈ row, trim text = text :=
      fun row mem => csvRows_trimmed records row (same ▸ mem)
    obtain ⟨headerTrimmed, trimmed⟩ := List.forall_mem_cons.1 trimmed
    have texts := csvHeaders_texts headerTrimmed (csvWidth (headerRow :: firstRow :: otherRows))
    have filled : csvHeaders headerRow (csvWidth (headerRow :: firstRow :: otherRows)) ≠ [] := by
      rw [← List.length_pos_iff_ne_nil, csvHeaders, List.length_map, List.length_range]
      exact Nat.pos_of_ne_zero wide
    obtain ⟨columns, orders, split⟩ : ∃ columns orders, csvColumns (csvHeaders headerRow (csvWidth (headerRow :: firstRow :: otherRows)))
        (csvDueHeaderIndex (csvHeaders headerRow (csvWidth (headerRow :: firstRow :: otherRows)))) = (columns, orders) := ⟨_, _, rfl⟩
    rw [split]
    dsimp only
    by_cases fresh : FreshUids (csvDraws (csvHeaders headerRow (csvWidth (headerRow :: firstRow :: otherRows)))
        (csvDueHeaderIndex (csvHeaders headerRow (csvWidth (headerRow :: firstRow :: otherRows)))) (firstRow :: otherRows).length) core₀ draws
    · with_reducible refine (importTable_returns command _ whole texts filled split trimmed fresh).mono ?_
      intro r v h value returned
      exact ⟨headerRow, firstRow :: otherRows, parsed, List.cons_ne_nil _ _, fun _ => h value returned⟩
    · exact fun w _ _ => ⟨fun value _ => ⟨headerRow, firstRow :: otherRows, parsed, List.cons_ne_nil _ _, fun given => absurd given fresh⟩, trivial⟩
  · exact Proc.Returns.throw

/-- A successful import of a table leaves a new checklist that is the table: its columns are those
of the headers, its tasks are the rows that are not blank in their order, and every text is in
the column of its header and nowhere else but for the legacy value of its task. -/
theorem csv_import_kept {command : MissionCommandEnvelope} {w w' : World} {value : Value}
    (run : CommandRun CommandEntry.DrawsFresh RchCore.new w.core) (done : (importChecklistCsv command).run w = (.ok value, w')) :
    ∃ encoded decoded records headerRow taskRows,
      requiredText command.args ["csv_base64"] = .ok encoded ∧ Host.base64Decode encoded = some decoded ∧
        Host.csvRecords (Host.decodeUtf8 decoded) = (records, none) ∧ csvRows records = headerRow :: taskRows ∧ taskRows ≠ [] ∧
        (FreshUids (csvDraws (csvHeaders headerRow (csvWidth (headerRow :: taskRows)))
            (csvDueHeaderIndex (csvHeaders headerRow (csvWidth (headerRow :: taskRows)))) taskRows.length) w.core w.draws →
          ∃ checklistUid, w.core.checklists.get checklistUid = none ∧
            TableKept w'.core checklistUid (csvHeaders headerRow (csvWidth (headerRow :: taskRows)))
              (csvDueHeaderIndex (csvHeaders headerRow (csvWidth (headerRow :: taskRows)))) taskRows) := by
  have spec := (importChecklistCsv_returns command (run_sheetsWhole run) w rfl trivial).1
  rw [done] at spec
  obtain ⟨headerRow, taskRows, parsed, some_, kept⟩ := spec value rfl
  obtain ⟨encoded, decoded, records, given, found, read, rows⟩ := csvRowsFromArgs_read parsed
  exact ⟨encoded, decoded, records, headerRow, taskRows, given, found, read, rows.symm, some_, kept⟩

end

/-! ## A drill -/

instance (k : Nat) (core : RchCore) (draws : Nat → Uuid) : Decidable (FreshUids k core draws) :=
  decidable_of_iff (FreshDraws k core draws ∧ (∀ n < k, core.checklists.get (draws n).simple = none) ∧
      ∀ n < k, core.checklistTasks.get (draws n).simple = none)
    ⟨fun ⟨fresh, checklists, tasks⟩ => ⟨fresh, checklists, tasks⟩, fun fresh => ⟨fresh.toFreshDraws, fresh.checklists, fresh.tasks⟩⟩

/-- The text `Due,Name` over `5,pump`, in bytes. -/
def pumpBytes : List UInt8 := [68, 117, 101, 44, 78, 97, 109, 101, 10, 53, 44, 112, 117, 109, 112]

/-- The text `Name` over an `a` and a `b` with a byte-order mark between them, in bytes. -/
def markBytes : List UInt8 := [78, 97, 109, 101, 10, 97, 239, 187, 191, 98]

/-- A host that reads the two tables. -/
@[reducible] def Host.tables : Host :=
  { Host.blank with
    base64Decode := fun text =>
      if text = "RHVlLE5hbWUKNSxwdW1w" then some pumpBytes else if text = "TmFtZQph77u/Yg==" then some markBytes else none
    decodeUtf8 := fun bytes => if bytes = pumpBytes then "Due,Name\n5,pump" else if bytes = markBytes then "Name\na\uFEFFb" else ""
    csvRecords := fun text =>
      if text = "Due,Name\n5,pump" then ([["Due", "Name"], ["5", "pump"]], none)
      else if text = "Name\na\uFEFFb" then ([["Name"], ["a\uFEFFb"]], none) else ([], none)
    fileStem := fun name => if name = "checklist.csv" then some "checklist" else none }

/-- The import of a table. -/
def importTable (encoded : String) : MissionCommandEnvelope := drillCommand "1" "checklist.import.csv" [("csv_base64", .string encoded)]

/-- The world in which a table is imported first of all. -/
def importDrill (encoded : String) : Except RchCoreError Value × World :=
  @Proc.run _ _ _ (@importChecklistCsv Host.tables (importTable encoded)) (@drillWorld Host.tables [])

/-- The table of a pump is there. -/
theorem csv_import_kept_drill :
    ∃ checklistUid, TableKept (importDrill "RHVlLE5hbWUKNSxwdW1w").2.core checklistUid ["Due", "Name"] (some 0) [["5", "pump"]] := by
  let _ := Host.tables
  have succeeds : (importDrill "RHVlLE5hbWUKNSxwdW1w").1.toOption.isSome = true := by decide +kernel
  cases returned : (importDrill "RHVlLE5hbWUKNSxwdW1w").1 with
  | error e =>
    rw [returned] at succeeds
    exact nomatch succeeds
  | ok value =>
    have done : importDrill "RHVlLE5hbWUKNSxwdW1w" = (.ok value, (importDrill "RHVlLE5hbWUKNSxwdW1w").2) := by rw [← returned]
    obtain ⟨encoded, decoded, records, headerRow, taskRows, given, found, read, rows, -, kept⟩ :=
      @csv_import_kept Host.tables (importTable "RHVlLE5hbWUKNSxwdW1w") (drillWorld []) _ value (.refl _) done
    have text : requiredText (importTable "RHVlLE5hbWUKNSxwdW1w").args ["csv_base64"] = .ok "RHVlLE5hbWUKNSxwdW1w" := by decide +kernel
    obtain rfl := Except.ok.inj (text.symm.trans given)
    have bytes : Host.base64Decode "RHVlLE5hbWUKNSxwdW1w" = some pumpBytes := by decide +kernel
    obtain rfl := Option.some.inj (bytes.symm.trans found)
    have table : Host.csvRecords (Host.decodeUtf8 pumpBytes) = ([["Due", "Name"], ["5", "pump"]], none) := by decide +kernel
    obtain rfl := (Prod.mk.inj (table.symm.trans read)).1
    have lines : csvRows [["Due", "Name"], ["5", "pump"]] = [["Due", "Name"], ["5", "pump"]] := by decide +kernel
    obtain ⟨rfl, rfl⟩ := List.cons.inj (lines.symm.trans rows)
    obtain ⟨checklistUid, -, there⟩ := kept (by decide +kernel)
    have headers : csvHeaders ["Due", "Name"] (csvWidth [["Due", "Name"], ["5", "pump"]]) = ["Due", "Name"] ∧
        csvDueHeaderIndex ["Due", "Name"] = some 0 := by decide +kernel
    rw [headers.1, headers.2] at there
    exact ⟨checklistUid, there⟩

/-- A byte-order mark within a text is gone from the cell. -/
theorem byte_order_mark_dropped :
    (importDrill "TmFtZQph77u/Yg==").1.toOption.isSome = true ∧ trim "a\uFEFFb" = "a\uFEFFb" ∧
      (importDrill "TmFtZQph77u/Yg==").2.core.checklistCells.values.filterMap ChecklistCellRecord.value = ["ab"] := by
  refine ⟨by decide +kernel, by decide +kernel, by decide +kernel⟩

end TelemetryHub
