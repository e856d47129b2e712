/-
Statements and their results (`dispatch`, `do_query`, `do_execute`, `do_simple`, the column
extraction and `DbError` in `crates/fabric-backends/src/db.rs`).

The client answers a query with a result set: the columns of the statement and its rows. The
code sees the rows alone, each with the columns it belongs to, so a result without rows has
no columns for it, and it writes a row as an object under the column names, so of two columns
with one name the later is left. `query_keyed` says that nothing else is lost.
-/
import Runlet.Db.Columns
import Runlet.Db.Params
import Runlet.Lib.Result
import Runlet.Metering

set_option autoImplicit false

namespace Runlet.Db

open Runlet.Json Runlet.Wire

/-! ## 1. The client -/

structure Column where
  name : String
  ty : ColumnType
  deriving DecidableEq, Repr

/-- `tokio_postgres::Row`: a cell for each column. -/
structure Row where
  columns : List Column
  cells : List Cell
  typed : cells.map Cell.ty = columns.map Column.ty

/-- The answer to a row-returning statement. -/
structure ResultSet where
  columns : List Column
  rows : List Row
  aligned : ∀ row ∈ rows, row.columns = columns

/-- `tokio_postgres::Error`. -/
structure DriverError where
  /-- The SQLSTATE, where the server gave one. -/
  code : Option String
  message : String

/-- A future under its deadline. -/
inductive Answer (α : Type)
  | value (out : α)
  | failed (err : DriverError)
  | elapsed

/-- `tokio_postgres::Client`, during one call. -/
structure Client where
  query : String → List ParamValue → Answer ResultSet
  execute : String → List ParamValue → Answer ℕ
  batch_execute : String → Answer Unit

/-- `serde_json`. -/
structure Serde where
  /-- `from_str::<Vec<Value>>`. -/
  from_str : String → Except String (List Value)
  to_string : Value → Except String String

/-! ## 2. Errors -/

structure DbError where
  fault : Fault
  message : String
  details : Option Value

def DB_FALLBACK : Fault := ⟨"DB_ERROR", true, .operator⟩

def DB_CONNECTION_FAULT : Fault := ⟨"DB_CONNECTION", true, .operator⟩

def DB_TIMEOUT : Fault := ⟨"DB_TIMEOUT", true, .operator⟩

/-- `classify_by_class`: the first two bytes of the code, where they are two characters. -/
def classify_by_class (code : String) : Fault :=
  match code.toList with
  | '0' :: '8' :: _ => DB_CONNECTION_FAULT
  | '2' :: '3' :: _ => ⟨"DB_CONSTRAINT", false, .developer⟩
  | '4' :: '2' :: _ => ⟨"DB_QUERY", false, .developer⟩
  | _ => DB_FALLBACK

def classify (err : DriverError) : Fault :=
  match err.code with
  | none => DB_FALLBACK
  | some "40001" => ⟨"DB_SERIALIZATION", true, .operator⟩
  | some "40P01" => ⟨"DB_DEADLOCK", true, .operator⟩
  | some "57014" => ⟨"DB_CANCELED", true, .operator⟩
  | some other => classify_by_class other

def DbError.fallback (message : String) : DbError := ⟨DB_FALLBACK, message, none⟩

def DbError.from_driver (err : DriverError) : DbError where
  fault := classify err
  message := err.message
  details := err.code.map fun state => .object [("sqlstate", .string state)]

def DbError.timeout : DbError :=
  ⟨DB_TIMEOUT, "database query exceeded the execution deadline", none⟩

def DbError.into_resource_error (err : DbError) : EgressError where
  code := err.fault.code
  message := err.message
  source := "db"
  details := err.details
  retryable := err.fault.retryable
  owner := err.fault.owner

/-! ## 3. Query and execute -/

def block_on_db {α : Type} : Answer α → Except DbError α
  | .value out => .ok out
  | .failed err => .error (.from_driver err)
  | .elapsed => .error .timeout

section Dispatch

variable (serde : Serde) (driver : Driver) (client : Client)

def parse_params (params_json : String) : Except String (List ParamValue) :=
  match serde.from_str params_json with
  | .ok values => .ok (values.map (ParamValue.from_value serde.to_string))
  | .error err => .error s!"invalid params JSON: {err}"

/-- `extract_columns`: the columns of the first row. -/
def extract_columns (rows : List Row) : List String :=
  (rows.head?.map fun first => first.columns.map Column.name).getD []

/-- The entries of a row, as they are inserted. -/
def row_entries (row : Row) : List (String × Value) :=
  (row.columns.map Column.name).zip (row.cells.map (column_to_json driver))

def row_to_json (row : Row) : Value := .object (insert_all (row_entries driver row) [])

def rows_to_json (rows : List Row) (max_rows : ℕ) : List Value × Bool :=
  let truncated := decide (max_rows < rows.length)
  let limit := if truncated then max_rows else rows.length
  ((rows.take limit).map (row_to_json driver), truncated)

/-- The document a query answers with. -/
def query_result (rows : List Row) (max_rows : ℕ) : Value :=
  let columns := extract_columns rows
  let (json_rows, truncated) := rows_to_json driver rows max_rows
  let row_count := json_rows.length
  .object [("columns", .array (columns.map .string)), ("rows", .array json_rows),
    ("row_count", of_u64 row_count), ("truncated", .bool truncated)]

def do_query (sql params_json : String) (max_rows : ℕ) : Except DbError String := do
  let params ← (parse_params serde params_json).mapError DbError.fallback
  let set ← block_on_db (client.query sql params)
  (serde.to_string (query_result driver set.rows max_rows)).mapError fun err =>
    .fallback s!"serialize error: {err}"

def do_execute (sql params_json : String) : Except DbError String := do
  let params ← (parse_params serde params_json).mapError DbError.fallback
  let affected ← block_on_db (client.execute sql params)
  .ok ("\x7b\"rows_affected\":" ++ toString affected ++ "\x7d")

def do_simple (cmd : String) : Except DbError String := do
  let _ ← block_on_db (client.batch_execute cmd)
  .ok "\x7b\"ok\":true\x7d"

def dispatch (action query params_json : String) (max_rows : ℕ) : Except DbError String :=
  match action with
  | "query" => do_query serde driver client query params_json max_rows
  | "execute" => do_execute serde client query params_json
  | "begin" => do_simple client "BEGIN"
  | "commit" => do_simple client "COMMIT"
  | "rollback" => do_simple client "ROLLBACK"
  | other => .error (.fallback s!"unknown db action: {other}")

end Dispatch

/-! ## 4. Faults -/

/-- What can be retried is the operator's, and what cannot is the developer's. -/
def Consistent (fault : Fault) : Prop := fault.retryable = true ↔ fault.owner = .operator

instance (fault : Fault) : Decidable (Consistent fault) := inferInstanceAs (Decidable (_ ↔ _))

/-- What an error of the driver is called agrees with whether it is worth a retry. -/
theorem classify_consistent (err : DriverError) : Consistent (classify err) := by
  rw [classify]
  split
  · decide
  · decide
  · decide
  · decide
  · rw [classify_by_class]
    split <;> decide

/-- So does what an answer that failed is called. -/
theorem block_on_db_consistent {α : Type} {answer : Answer α} {err : DbError}
    (h : block_on_db answer = .error err) : Consistent err.fault := by
  cases answer with
  | value out => cases h
  | failed driver =>
      rw [← Except.error.inj h]
      exact classify_consistent driver
  | elapsed =>
      rw [← Except.error.inj h]
      decide

theorem fallback_consistent (message : String) : Consistent (DbError.fallback message).fault := by
  show Consistent DB_FALLBACK
  decide

/-- A statement with parameters: they are not understood, it fails, or its answer does. -/
theorem with_params_consistent {α : Type} {parsed : Except String (List ParamValue)}
    {run : List ParamValue → Answer α} {finish : α → Except DbError String}
    (hfinish : ∀ out err, finish out = .error err → Consistent err.fault) {err : DbError}
    (h : (do
      let params ← parsed.mapError DbError.fallback
      let out ← block_on_db (run params)
      finish out) = .error err) : Consistent err.fault := by
  rcases Result.bind_eq_error.mp h with hparams | ⟨params, -, hrun⟩
  · obtain ⟨message, -, hmessage⟩ := Result.mapError_eq_error.mp hparams
    rw [← hmessage]
    exact fallback_consistent message
  · rcases Result.bind_eq_error.mp hrun with hanswer | ⟨out, -, hout⟩
    · exact block_on_db_consistent hanswer
    · exact hfinish out err hout

/-- Every error of a call says so: whichever step of the call fails, its fault can be retried
exactly if it is the operator's. -/
theorem dispatch_consistent {serde : Serde} {driver : Driver} {client : Client}
    {action query params_json : String} {max_rows : ℕ} {err : DbError}
    (h : dispatch serde driver client action query params_json max_rows = .error err) :
    Consistent err.fault := by
  have hsimple : ∀ cmd, do_simple client cmd = .error err → Consistent err.fault := by
    intro cmd hcmd
    rcases Result.bind_eq_error.mp hcmd with hanswer | ⟨_, -, hok⟩
    · exact block_on_db_consistent hanswer
    · cases hok
  unfold dispatch at h
  split at h
  -- the last step can fail here, at the serializer
  · refine with_params_consistent ?_ h
    intro set err' herr
    obtain ⟨message, -, hmessage⟩ := Result.mapError_eq_error.mp herr
    rw [← hmessage]
    exact fallback_consistent _
  · refine with_params_consistent ?_ h
    intro affected err' herr
    cases herr
  · exact hsimple _ h
  · exact hsimple _ h
  · exact hsimple _ h
  · rw [← Except.error.inj h]
    exact fallback_consistent _

/-! ## 5. What a result keeps -/

section Complete

variable (driver : Driver)

/-- The values of a row are told by its object and the column names: no other row under these
names has the same object. -/
def Recoverable (row : Row) : Prop :=
  ∀ row' : Row, row'.columns.map Column.name = row.columns.map Column.name →
    row_to_json driver row' = row_to_json driver row →
      row'.cells.map (column_to_json driver) = row.cells.map (column_to_json driver)

/-- The first rows, as many as are returned. -/
def ResultSet.returned (set : ResultSet) (max_rows : ℕ) : List Row :=
  set.rows.take (min max_rows set.rows.length)

/-- The document of a query says all of its result set that `max_rows` lets through. -/
structure Complete (set : ResultSet) (max_rows : ℕ) (out : Value) : Prop where
  columns : out.get_key "columns" = some (.array (set.columns.map fun col => .string col.name))
  rows : out.get_key "rows" = some (.array ((set.returned max_rows).map (row_to_json driver)))
  recoverable : ∀ row ∈ set.returned max_rows, Recoverable driver row
  row_count : out.get_key "row_count" = some (of_u64 (min max_rows set.rows.length))
  truncated : ∃ flag, out.get_key "truncated" = some (.bool flag)
    ∧ (flag = true ↔ max_rows < set.rows.length)

/-- What the document does say: everything else, and a row's values by their names. Of the
columns of one name, an object has the last. -/
structure Keyed (set : ResultSet) (max_rows : ℕ) (out : Value) : Prop where
  columns : set.rows ≠ [] →
    out.get_key "columns" = some (.array (set.columns.map fun col => .string col.name))
  rows : out.get_key "rows" = some (.array ((set.returned max_rows).map (row_to_json driver)))
  row_count : out.get_key "row_count" = some (of_u64 (min max_rows set.rows.length))
  truncated : ∃ flag, out.get_key "truncated" = some (.bool flag)
    ∧ (flag = true ↔ max_rows < set.rows.length)
  keyed : ∀ row ∈ set.returned max_rows, ∀ i,
    ∀ (hcolumn : i < row.columns.length) (hcell : i < row.cells.length),
      row.columns[i].name ∉ (row.columns.drop (i + 1)).map Column.name →
        (row_to_json driver row).get_key row.columns[i].name
          = some (column_to_json driver row.cells[i])
  recoverable : ∀ row ∈ set.returned max_rows,
    Recoverable driver row ↔ (set.columns.map Column.name).Nodup

end Complete

section Rows

variable {driver : Driver} {row : Row}

theorem row_length (row : Row) : row.cells.length = row.columns.length := by
  rw [← List.length_map Cell.ty, row.typed, List.length_map]

theorem row_entries_keys (row : Row) :
    (row_entries driver row).map Prod.fst = row.columns.map Column.name := by
  rw [row_entries, List.map_fst_zip]
  rw [List.length_map, List.length_map, row_length]

theorem row_entries_values (row : Row) :
    (row_entries driver row).map Prod.snd = row.cells.map (column_to_json driver) := by
  rw [row_entries, List.map_snd_zip]
  rw [List.length_map, List.length_map, row_length]

/-- Names that stand once are keys to the values. -/
theorem recoverable_of_nodup (hnodup : (row.columns.map Column.name).Nodup) :
    Recoverable driver row := by
  intro row' hnames hobject
  rw [row_to_json, row_to_json, Value.object.injEq] at hobject
  rw [← @row_entries_keys driver row', ← @row_entries_keys driver row] at hnames
  rw [← @row_entries_keys driver row] at hnodup
  rw [← row_entries_values, ← row_entries_values, insert_all_inj hnames hnodup hobject]

/-- Names that are not all different have one that comes again. -/
theorem exists_repeated {names : List String} (h : ¬ names.Nodup) :
    ∃ i, ∃ hi : i < names.length, names[i] ∈ names.drop (i + 1) := by
  induction names with
  | nil => exact absurd List.nodup_nil h
  | cons name rest ih =>
      by_cases hmem : name ∈ rest
      · exact ⟨0, Nat.zero_lt_succ _, hmem⟩
      · have hrest : ¬ rest.Nodup := fun hnodup => h (List.nodup_cons.mpr ⟨hmem, hnodup⟩)
        obtain ⟨i, hi, hlater⟩ := ih hrest
        exact ⟨i + 1, Nat.succ_lt_succ hi, hlater⟩

/-- The row with a boolean in one of its places. -/
def Row.replace (row : Row) (i : ℕ) (name : String) (flag : Bool) : Row where
  columns := row.columns.set i ⟨name, .BOOL⟩
  cells := row.cells.set i (Cell.of .BOOL (.bool flag) rfl)
  typed := by
    rw [List.map_set, List.map_set, row.typed]
    rfl

/-- A value that is replaced leaves the names. -/
theorem Row.replace_names (row : Row) {i : ℕ} (hi : i < row.columns.length) (flag : Bool) :
    (row.replace i row.columns[i].name flag).columns.map Column.name
      = row.columns.map Column.name := by
  rw [Row.replace, List.map_set, ← List.getElem_map Column.name, List.set_getElem_self]
  rwa [List.length_map]

/-- It leaves the other values. -/
theorem Row.replace_values (row : Row) (i : ℕ) (name : String) (flag : Bool) :
    (row.replace i name flag).cells.map (column_to_json driver)
      = (row.cells.map (column_to_json driver)).set i (.bool flag) := by
  rw [Row.replace, List.map_set]
  rfl

/-- A change in the second of two lists is a change of the pair. -/
theorem zip_set {α β : Type} {as : List α} {i : ℕ} (hi : i < as.length) (bs : List β) (b : β) :
    as.zip (bs.set i b) = (as.zip bs).set i (as[i], b) := by
  induction as generalizing i bs with
  | nil => cases hi
  | cons a as ih =>
      cases bs with
      | nil => rfl
      | cons b' bs =>
          cases i with
          | zero => rfl
          | succ i =>
              rw [List.set_cons_succ, List.zip_cons_cons, ih (Nat.lt_of_succ_lt_succ hi)]
              rfl

/-- A name that comes again hides the value under it: any other would do. So two rows that differ
in that value alone are written as the same object. -/
theorem nodup_of_recoverable (h : Recoverable driver row) :
    (row.columns.map Column.name).Nodup := by
  by_contra hdup
  obtain ⟨i, hi, hlater⟩ := exists_repeated hdup
  have hcolumn : i < row.columns.length := by rwa [List.length_map] at hi
  have hcell : i < (row.cells.map (column_to_json driver)).length := by
    rwa [List.length_map, row_length]
  -- a value that is not there
  obtain ⟨flag, hflag⟩ : ∃ flag, Value.bool flag
      ≠ (row.cells.map (column_to_json driver)).get ⟨i, hcell⟩ := by
    by_cases htrue : Value.bool true = (row.cells.map (column_to_json driver)).get ⟨i, hcell⟩
    · refine ⟨false, ?_⟩
      rw [← htrue]
      decide
    · exact ⟨true, htrue⟩
  have hnames := row.replace_names hcolumn flag
  have hobject : row_to_json driver (row.replace i row.columns[i].name flag)
      = row_to_json driver row := by
    have hentries : row_entries driver (row.replace i row.columns[i].name flag)
        = (row_entries driver row).set i ((row.columns.map Column.name)[i], .bool flag) := by
      rw [row_entries, hnames, Row.replace_values, zip_set hi]
      rfl
    have hentry : i < (row_entries driver row).length := by
      rw [← List.length_map Prod.fst, row_entries_keys]
      exact hi
    have hkey : (row_entries driver row)[i].1 = (row.columns.map Column.name)[i] := by
      have hsame := List.getElem_of_eq (@row_entries_keys driver row) (by rwa [List.length_map])
      rwa [List.getElem_map] at hsame
    have hlater' : (row_entries driver row)[i].1
        ∈ ((row_entries driver row).drop (i + 1)).map Prod.fst := by
      rw [hkey, List.map_drop, row_entries_keys]
      exact hlater
    rw [row_to_json, row_to_json, hentries, ← hkey, insert_all_set hentry hlater']
  have hvalues := h _ hnames hobject
  rw [Row.replace_values] at hvalues
  apply hflag
  rw [List.get_eq_getElem, ← List.getElem_of_eq hvalues (by rwa [List.length_set]), List.getElem_set_self]

theorem recoverable_iff : Recoverable driver row ↔ (row.columns.map Column.name).Nodup :=
  ⟨nodup_of_recoverable, recoverable_of_nodup⟩

/-- Under a name is the last value of that name. -/
theorem get_key_row_to_json {i : ℕ} (hcolumn : i < row.columns.length)
    (hcell : i < row.cells.length)
    (hlast : row.columns[i].name ∉ (row.columns.drop (i + 1)).map Column.name) :
    (row_to_json driver row).get_key row.columns[i].name
      = some (column_to_json driver row.cells[i]) := by
  have hentry : i < (row_entries driver row).length := by
    rw [← List.length_map Prod.fst, row_entries_keys, List.length_map]
    exact hcolumn
  have hget : (row_entries driver row)[i]
      = (row.columns[i].name, column_to_json driver row.cells[i]) := by
    rw [← List.getElem_map Column.name, ← List.getElem_map (column_to_json driver)]
    exact List.getElem_zip
  have hlast' : (row_entries driver row)[i].1
      ∉ ((row_entries driver row).drop (i + 1)).map Prod.fst := by
    rw [hget, List.map_drop, row_entries_keys, ← List.map_drop]
    exact hlast
  have hvalue := @get_insert_all (row_entries driver row) [] i hentry hlast'
  rw [hget] at hvalue
  exact hvalue

/-- With a row there are columns, and they are those of the query. -/
theorem extract_columns_aligned (set : ResultSet) (h : set.rows ≠ []) :
    extract_columns set.rows = set.columns.map Column.name := by
  obtain ⟨first, rest, hrows⟩ := List.exists_cons_of_ne_nil h
  have hfirst : first.columns = set.columns := set.aligned first (hrows ▸ List.mem_cons_self)
  rw [hrows, extract_columns, ← hfirst]
  rfl

/-- Whether it cuts or not, the limit is the lesser of the two. -/
theorem rows_to_json_eq (rows : List Row) (max_rows : ℕ) :
    rows_to_json driver rows max_rows
      = ((rows.take (min max_rows rows.length)).map (row_to_json driver),
          decide (max_rows < rows.length)) := by
  rw [rows_to_json]
  by_cases hcut : max_rows < rows.length
  · rw [decide_eq_true hcut, if_pos rfl, Nat.min_eq_left (Nat.le_of_lt hcut)]
  · rw [decide_eq_false hcut, if_neg Bool.false_ne_true, Nat.min_eq_right (Nat.not_lt.mp hcut)]

end Rows

/-- The document as its parts. -/
theorem query_result_eq (driver : Driver) (set : ResultSet) (max_rows : ℕ) :
    query_result driver set.rows max_rows
      = .object [("columns", .array ((extract_columns set.rows).map .string)),
        ("rows", .array ((set.returned max_rows).map (row_to_json driver))),
        ("row_count", of_u64 (min max_rows set.rows.length)),
        ("truncated", .bool (decide (max_rows < set.rows.length)))] := by
  have hcount : ((set.returned max_rows).map (row_to_json driver)).length
      = min max_rows set.rows.length := by
    rw [List.length_map, ResultSet.returned, List.length_take]
    omega
  rw [query_result, rows_to_json_eq]
  show Value.object [_, _, ("row_count", of_u64 ((set.returned max_rows).map _).length), _] = _
  rw [hcount]
  rfl

/-- **Query results.** A query that is answered returns the first rows, their number and
whether some are left out, for any number of rows; with a row the columns, too. A row is an
object under the column names, and its values can be told from it exactly when no name
repeats. -/
theorem query_keyed (serde : Serde) (driver : Driver) (client : Client)
    (sql params_json : String) (max_rows : ℕ) (params : List ParamValue) (set : ResultSet)
    (hparams : parse_params serde params_json = .ok params)
    (hset : client.query sql params = .value set) :
    do_query serde driver client sql params_json max_rows
        = (serde.to_string (query_result driver set.rows max_rows)).mapError
            (fun err => DbError.fallback s!"serialize error: {err}")
      ∧ Keyed driver set max_rows (query_result driver set.rows max_rows) := by
  constructor
  · rw [do_query, hparams]
    show (block_on_db (client.query sql params) >>= _) = _
    rw [hset]
    rfl
  -- the parts of the document are those of the specification but for the columns and rows
  rw [query_result_eq]
  refine ⟨?_, rfl, rfl, ⟨_, rfl, decide_eq_true_iff⟩, ?_, ?_⟩
  · intro hrows
    rw [extract_columns_aligned set hrows, List.map_map]
    rfl
  · intro row _ i hcolumn hcell hlast
    exact get_key_row_to_json hcolumn hcell hlast
  · intro row hrow
    rw [recoverable_iff, set.aligned row (List.mem_of_mem_take hrow)]

/-- What the backend records of a query, reading its own document again: the rows that are
returned, and whether some are not. -/
theorem query_metered {serde : Serde} {driver : Driver} {client : Client} {meter : Metering.Serde}
    {world : Metering.World} {sql params_json text : String} {max_rows : ℕ} {set : ResultSet}
    (hworld : ∀ action sql params_json, world.db action sql params_json
      = (dispatch serde driver client action sql params_json max_rows).mapError
          DbError.into_resource_error)
    (hquery : do_query serde driver client sql params_json max_rows = .ok text)
    (hread : meter.from_str text = .ok (query_result driver set.rows max_rows))
    (hrows : set.rows.length < 2 ^ 64) (metrics : List DbMetric) :
    (Metering.db_call meter world "query" sql params_json metrics).2
      = metrics ++ [⟨"query", world.duration_us, min max_rows set.rows.length, 0,
          decide (max_rows < set.rows.length)⟩] := by
  have hanswer : world.db "query" sql params_json = .ok text := by
    rw [hworld, dispatch, hquery]
    rfl
  have hcount : (UInt64.ofNat (min max_rows set.rows.length)).toNat
      = min max_rows set.rows.length :=
    UInt64.toNat_ofNat_of_lt' (Nat.lt_of_le_of_lt (Nat.min_le_right _ _) hrows)
  have hinfo : Metering.extract_metric_info meter "query" text
      = (min max_rows set.rows.length, 0, decide (max_rows < set.rows.length)) := by
    rw [Metering.extract_metric_info, hread, query_result_eq]
    show ((UInt64.ofNat (min max_rows set.rows.length)).toNat, 0, _) = _
    rw [hcount]
    rfl
  rw [Metering.db_call, hanswer]
  show metrics ++ [⟨_, _, (Metering.extract_metric_info meter "query" text).1,
    (Metering.extract_metric_info meter "query" text).2.1,
    (Metering.extract_metric_info meter "query" text).2.2⟩] = _
  rw [hinfo]

/-- Two integers in one row. -/
def two_integers (first second : String) : Row where
  columns := [⟨first, .INT4⟩, ⟨second, .INT4⟩]
  cells := [Cell.of .INT4 (.int4 1) rfl, Cell.of .INT4 (.int4 2) rfl]
  typed := rfl

/-- The answer to a statement with two integer columns. -/
def integers (first second : String) (count : ℕ) : ResultSet where
  columns := [⟨first, .INT4⟩, ⟨second, .INT4⟩]
  rows := List.replicate count (two_integers first second)
  aligned row hrow := by rw [List.eq_of_mem_replicate hrow]; rfl

/-- A client that answers every query with one result set. -/
def answering (set : ResultSet) : Client where
  query _ _ := .value set
  execute _ _ := .value 0
  batch_execute _ := .value ()

/-- No parameters, and one document. -/
def one_document (doc : Value) (text : String) : Serde where
  from_str params_json := if params_json = "[]" then .ok [] else .error "expected value"
  to_string v := if v = doc then .ok text else .error "another document"

/-- `SELECT 1 AS id, 2 AS owner`, of two rows with room for one. -/
def cut_document : Value :=
  .object [("columns", .array [.string "id", .string "owner"]),
    ("rows", .array [.object [("id", of_u64 1), ("owner", of_u64 2)]]),
    ("row_count", of_u64 1), ("truncated", .bool true)]

def cut_text : String :=
  "\x7b\"columns\":[\"id\",\"owner\"],\"rows\":[\x7b\"id\":1,\"owner\":2\x7d],"
    ++ "\"row_count\":1,\"truncated\":true\x7d"

/-- Two rows of which one is returned. -/
theorem query_keyed_cut :
    do_query (one_document cut_document cut_text) plain_driver
        (answering (integers "id" "owner" 2)) "SELECT id, owner FROM docs" "[]" 1 = .ok cut_text
      ∧ Keyed plain_driver (integers "id" "owner" 2) 1 cut_document := by
  have hdocument : query_result plain_driver (integers "id" "owner" 2).rows 1 = cut_document := rfl
  have hquery := query_keyed (one_document cut_document cut_text) plain_driver
    (answering (integers "id" "owner" 2)) "SELECT id, owner FROM docs" "[]" 1 []
    (integers "id" "owner" 2) rfl rfl
  rw [hdocument] at hquery
  have htext : (one_document cut_document cut_text).to_string cut_document = .ok cut_text := by
    unfold one_document
    dsimp only
    rw [if_pos rfl]
  refine ⟨?_, hquery.2⟩
  rw [hquery.1, htext]
  rfl

/-- `SELECT 1 AS id, 2 AS id`: the first value is not in the answer. And without rows the
columns are not. -/
theorem join_loses_a_column :
    query_result plain_driver (integers "id" "id" 1).rows 1000
        = .object [("columns", .array [.string "id", .string "id"]),
          ("rows", .array [.object [("id", of_u64 2)]]),
          ("row_count", of_u64 1), ("truncated", .bool false)]
      ∧ ¬ Complete plain_driver (integers "id" "id" 1) 1000
          (query_result plain_driver (integers "id" "id" 1).rows 1000)
      ∧ query_result plain_driver (integers "id" "owner" 0).rows 1000
        = .object [("columns", .array []), ("rows", .array []), ("row_count", of_u64 0),
          ("truncated", .bool false)]
      ∧ ¬ Complete plain_driver (integers "id" "owner" 0) 1000
          (query_result plain_driver (integers "id" "owner" 0).rows 1000) := by
  refine ⟨rfl, ?_, rfl, ?_⟩
  · intro h
    have hnodup := nodup_of_recoverable (h.recoverable (two_integers "id" "id") List.mem_cons_self)
    exact absurd hnodup (by decide)
  · intro h
    exact absurd h.columns (by decide)

end Runlet.Db
