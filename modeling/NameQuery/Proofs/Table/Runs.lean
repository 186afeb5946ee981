import NameQuery.Proofs.Table.Store
import NameQuery.Resolver

/-!
# Clients of a store

Clients share a store. Each of them has operations to ask, one after the other (`System.waiting`), and
a step lets any one of them ask its next operation and takes the answer (`System.Step`). A run is any
number of steps from a store without tables, so it is one of the ways in which the operations of the
clients can be interleaved (`Run`). Its log has the operations in the order in which they were
answered, each with its client and its answer.

What is proved of every run (`Run.keeps_records`): the log accounts for each table. A table has the
records of the operations that stored one in it, in the order of the log, and there is no other table;
what a client stored stands in the order in which the client asked. Only such an operation changes a
store: reading does not, and neither does anything that fails.
-/

set_option autoImplicit false

namespace NameQuery

/-- The query for every row of a table as it is. -/
def Query.everyRow : Query := ⟨"*", "", "", 0, 0, []⟩

/-! ## Operations -/

/-- What a client asks of a store. What is registered with a resolver can do anything to a store, so
only calls of other names are operations. -/
inductive Operation
  | insert (table : String) (row : Record)
  | insertJson (table : String) (data : Json)
  | size (table : String)
  | find (table : String) (q : Query)
  | call (r : Resolver Store) (name : String) (args : List Value)
      (unregistered : r.methods.lookup name = none)

/-- What a store answers where it does not refuse. -/
inductive Reply
  | stored
  | size (n : Nat)
  | found (answer : Found)

/-- The record that an operation is to store, and the table for it. Of JSON data only an object is a
record. -/
def Operation.row? : Operation → Option (String × Record)
  | .insert table row => some (table, row)
  | .insertJson table (.object members) => some (table, .ofList members)
  | _ => none

/-- The record that an operation is to store in a table. -/
def Operation.rowFor? (table : String) (op : Operation) : Option Record :=
  op.row?.bind fun (name, row) => if name = table then some row else none

namespace Store

/-- An operation of a store: the answer, and the store after it. -/
def perform (s : Store) : Operation → Except Failure Reply × Store
  | .insert table row => (.ok .stored, s.insert table row)
  | .insertJson table data =>
    match s.insertJson table data with
    | .ok s' => (.ok .stored, s')
    | .error why => (.error why, s)
  | .size table => (.ok (.size (s.size table)), s)
  | .find table q => ((s.find table q).map .found, s)
  | .call r name args _ => ((r.call s name args).map .found, s)

variable {s : Store} {op : Operation} {table : String} {row : Record}

/-- Storing a record succeeds, and the record stands at the end of its table. -/
theorem perform_of_row? (h : op.row? = some (table, row)) :
    s.perform op = (.ok .stored, s.insert table row) := by
  cases op with
  | insert name r =>
    cases h
    rfl
  | insertJson name data =>
    cases data with
    | object members =>
      cases h
      rfl
    | _ => cases h
  | _ => cases h

/-- An operation without a record leaves the store as it is. -/
theorem perform_snd_of_row?_eq_none (h : op.row? = none) : (s.perform op).2 = s := by
  cases op with
  | insert name r => cases h
  | insertJson name data =>
    cases data with
    | object members => cases h
    | _ => rfl
  | _ => rfl

/-- A table after a record was added to one. -/
theorem lookup_addRow (table : String) (row : Record) (tables : List (String × List Record))
    (other : String) :
    (addRow table row tables).lookup other =
      if other = table then some ((tables.lookup table).getD [] ++ [row]) else tables.lookup other := by
  induction tables with
  | nil =>
    by_cases h : other = table
    · simp [addRow, h]
    · simp [addRow, h, List.lookup_cons, beq_false_of_ne h]
  | cons first tables ih =>
    obtain ⟨name, rows⟩ := first
    by_cases same : table = name
    · subst same
      by_cases h : other = table
      · simp [addRow, h]
      · simp [addRow, h, List.lookup_cons, beq_false_of_ne h]
    · simp only [addRow, if_neg same, List.lookup_cons, beq_false_of_ne same]
      by_cases h : other = name
      · subst h
        simp [Ne.symm same]
      · simpa [beq_false_of_ne h] using ih

/-- An inserted row is the last one of its table, and no other table is changed. -/
theorem rows?_insert (other : String) :
    (s.insert table row).rows? other =
      if other = table then some ((s.rows? table).getD [] ++ [row]) else s.rows? other :=
  lookup_addRow table row s.tables other

/-- Every row of a table is found. -/
theorem select_everyRow (rows : List Record) : select Query.everyRow rows = rows := by
  have unfiltered : rows.filter (agreesOn Query.everyRow.filterFields Query.everyRow.values) = rows := by
    apply List.filter_eq_self.mpr
    intro row _
    rfl
  have unordered : ordered Query.everyRow.orderFields rows = rows := by
    apply List.mergeSort_of_pairwise
    exact List.pairwise_of_forall fun _ _ => rfl
  have whole : rows.map (Record.project Query.everyRow.columns) = rows := List.map_id rows
  rw [select, unfiltered, unordered]
  exact whole

/-- The query for every row gives the rows of a table as they are. -/
theorem find_everyRow (s : Store) (table : String) :
    s.find table Query.everyRow =
      match s.rows? table with
      | none => .error (.noSuchTable table)
      | some rows => .ok (.many rows) := by
  have counted : Query.everyRow.checkBindings = .ok () := rfl
  rw [find, counted]
  cases s.rows? table with
  | none => rfl
  | some rows => exact congrArg (fun rows => Except.ok (Found.many rows)) (select_everyRow rows)

/-- A query fails exactly if its values are not as many as its predicates or its table does not
exist. -/
theorem find_fails_iff {q : Query} :
    (∃ why, s.find table q = .error why) ↔
      q.placeholderCount ≠ q.values.length ∨ s.rows? table = none := by
  by_cases counted : q.placeholderCount = q.values.length
  · rw [find, Query.checkBindings, if_pos counted]
    cases s.rows? table with
    | none => exact ⟨fun _ => .inr rfl, fun _ => ⟨_, rfl⟩⟩
    | some rows =>
      constructor
      · intro fails
        obtain ⟨why, failed⟩ := fails
        cases failed
      · intro h
        cases h with
        | inl other => exact absurd counted other
        | inr absent => cases absent
  · rw [find, Query.checkBindings, if_neg counted]
    exact ⟨fun _ => .inl counted, fun _ => ⟨_, rfl⟩⟩

end Store

/-! ## Runs -/

/-- An operation that a store has answered. -/
structure Exchange (ι : Type) where
  client : ι
  operation : Operation
  answer : Except Failure Reply

/-- The record that an exchange stored in a table, with its client. -/
def Exchange.entry? {ι : Type} (table : String) (e : Exchange ι) : Option (ι × Record) :=
  match e.answer with
  | .ok _ => (e.operation.rowFor? table).map fun row => (e.client, row)
  | .error _ => none

/-- What was stored in a table: the records of the exchanges that succeeded, each with its client. -/
def entries {ι : Type} (table : String) (log : List (Exchange ι)) : List (ι × Record) :=
  log.filterMap (Exchange.entry? table)

/-- A store and the operations that its clients have still to ask. -/
structure System (ι : Type) where
  store : Store
  waiting : ι → List Operation

section Runs

variable {ι : Type} [DecidableEq ι]

/-- One client asks its next operation. -/
inductive System.Step (σ : System ι) : Exchange ι → System ι → Prop
  | ask {client : ι} {op : Operation} {rest : List Operation} (next : σ.waiting client = op :: rest) :
      Step σ ⟨client, op, (σ.store.perform op).1⟩
        ⟨(σ.store.perform op).2, Function.update σ.waiting client rest⟩

/-- Steps from a store without tables, with the log of what was asked and answered. -/
inductive Run (programs : ι → List Operation) : List (Exchange ι) → System ι → Prop
  | start : Run programs [] ⟨{}, programs⟩
  | step {log : List (Exchange ι)} {σ σ' : System ι} {e : Exchange ι} (run : Run programs log σ)
      (step : σ.Step e σ') : Run programs (log ++ [e]) σ'

variable {programs : ι → List Operation} {log : List (Exchange ι)} {σ σ' : System ι} {e : Exchange ι}

/-! ## What a step does -/

/-- A client that stores a record is told so: success is as the operation says. -/
theorem System.Step.entry?_eq (h : σ.Step e σ') (table : String) :
    e.entry? table = (e.operation.rowFor? table).map fun row => (e.client, row) := by
  cases h with
  | @ask client op rest next =>
    cases hrow : op.row? with
    | none =>
      simp only [Exchange.entry?, Operation.rowFor?, hrow, Option.bind_none, Option.map_none]
      split <;> rfl
    | some target => simp only [Exchange.entry?, Store.perform_of_row? hrow]

/-- What a step stores is at the end of its table, and all other tables are as they were. -/
theorem System.Step.rows? (h : σ.Step e σ') (table : String) :
    σ'.store.rows? table =
      match e.entry? table with
      | some entry => some ((σ.store.rows? table).getD [] ++ [entry.2])
      | none => σ.store.rows? table := by
  rw [h.entry?_eq]
  cases h with
  | @ask client op rest next =>
    cases hrow : op.row? with
    | none =>
      rw [Store.perform_snd_of_row?_eq_none hrow]
      simp only [Operation.rowFor?, hrow, Option.bind_none, Option.map_none]
    | some target =>
      obtain ⟨name, row⟩ := target
      simp only [Store.perform_of_row? hrow, Operation.rowFor?, hrow, Option.bind_some, Store.rows?_insert]
      by_cases here : name = table
      · subst here
        simp
      · simp [here, Ne.symm here]

/-- A step that fails, or that has no record to store, leaves every table as it is. -/
theorem System.Step.store_eq (h : σ.Step e σ')
    (idle : (∃ why, e.answer = .error why) ∨ e.operation.row? = none) : σ'.store = σ.store := by
  cases h with
  | @ask client op rest next =>
    cases hrow : op.row? with
    | none => exact Store.perform_snd_of_row?_eq_none hrow
    | some target =>
      rcases idle with ⟨why, failed⟩ | none
      · rw [Store.perform_of_row? hrow] at failed
        cases failed
      · cases hrow.symm.trans none

/-- A client has asked one operation more, and the others none. -/
theorem System.Step.waiting_eq (h : σ.Step e σ') (client : ι) :
    σ.waiting client = (if e.client = client then [e.operation] else []) ++ σ'.waiting client := by
  cases h with
  | @ask asking op rest next =>
    by_cases same : asking = client
    · subst same
      simp [next]
    · simp [same, Function.update_of_ne (Ne.symm same)]

/-! ## What a run does -/

omit [DecidableEq ι] in

/-- An exchange adds to the entries of a table what it inserts there. -/
theorem entries_concat (table : String) (log : List (Exchange ι)) (e : Exchange ι) :
    entries table (log ++ [e]) = entries table log ++ (e.entry? table).toList := by
  simp [entries, List.filterMap_append, List.filterMap_cons]
  cases e.entry? table <;> rfl

/-- A table has what was stored in it, and exists if something was. -/
theorem Run.rows? (run : Run programs log σ) (table : String) :
    σ.store.rows? table =
      if entries table log = [] then none else some ((entries table log).map (·.2)) := by
  induction run with
  | start => rfl
  | @step log σ σ' e _ step ih =>
    rw [step.rows?, ih, entries_concat]
    cases e.entry? table with
    | none => simp
    | some entry =>
      by_cases none : entries table log = []
      · simp [none]
      · simp [none]

/-- A table is there exactly if something was inserted into it. -/
theorem Run.rows?_eq_none_iff (run : Run programs log σ) (table : String) :
    σ.store.rows? table = none ↔ entries table log = [] := by
  rw [run.rows? table]
  by_cases none : entries table log = []
  · simp [none]
  · simp [none]

/-- The operations of a client are those that it has asked and those that it has still to ask. -/
theorem Run.programs_eq (run : Run programs log σ) (client : ι) :
    programs client = (log.filter (·.client = client)).map (·.operation) ++ σ.waiting client := by
  induction run with
  | start => rfl
  | @step log σ σ' e _ step ih =>
    rw [ih, step.waiting_eq client]
    by_cases same : e.client = client
    · simp [same]
    · simp [same]

/-- What a client stored in a table are the records of the operations that it asked. -/
theorem Run.entries_of_client (run : Run programs log σ) (client : ι) (table : String) :
    ((entries table log).filter (·.1 = client)).map (·.2) =
      ((log.filter (·.client = client)).map (·.operation)).filterMap (·.rowFor? table) := by
  induction run with
  | start => rfl
  | @step log σ σ' e _ step ih =>
    rw [entries_concat, step.entry?_eq, List.filter_append, List.map_append, ih, List.filter_append,
      List.map_append, List.filterMap_append]
    congr 1
    by_cases same : e.client = client
    · cases hrow : e.operation.rowFor? table <;> simp [same, hrow]
    · cases hrow : e.operation.rowFor? table <;> simp [same]

/-! ## What a run keeps -/

/-- A store accounts for the log of its clients. -/
structure KeepsRecords (programs : ι → List Operation) (log : List (Exchange ι)) (σ : System ι) :
    Prop where
  /-- A table has as many records as were stored in it. -/
  size : ∀ table, σ.store.size table = (entries table log).length
  /-- All that was stored in a table is found there, in the order of the log; a table in which nothing
  was stored does not exist. -/
  all : ∀ table, σ.store.find table .everyRow =
    if entries table log = [] then .error (.noSuchTable table)
    else .ok (.many ((entries table log).map (·.2)))
  /-- What a client stored stands in the order in which it asked. -/
  order : ∀ client, ∃ asked, programs client = asked ++ σ.waiting client ∧
    ∀ table, ((entries table log).filter (·.1 = client)).map (·.2) = asked.filterMap (·.rowFor? table)
  /-- A client that has a record to store succeeds. -/
  stores : ∀ e σ', σ.Step e σ' → ∀ target, e.operation.row? = some target → e.answer = .ok .stored
  /-- JSON data that is no object is refused. -/
  refuses : ∀ e σ', σ.Step e σ' → ∀ table data, e.operation = .insertJson table data →
    (∀ members, data ≠ .object members) →
      e.answer = .error (.database s!"expected a JSON object, got {data.compact}")
  /-- A query is refused for the number of its values, or since nothing was stored in the table. -/
  finds : ∀ e σ', σ.Step e σ' → ∀ table q, e.operation = .find table q →
    ((∃ why, e.answer = .error why) ↔
      q.placeholderCount ≠ q.values.length ∨ entries table log = [])
  /-- What fails and what has no record to store leaves all tables as they are. -/
  unchanged : ∀ e σ', σ.Step e σ' →
    (∃ why, e.answer = .error why) ∨ e.operation.row? = none → σ'.store = σ.store

/-- **A store loses and repeats nothing**, in whatever way the operations of its clients are
interleaved and at every point of a run. -/
theorem Run.keeps_records (run : Run programs log σ) : KeepsRecords programs log σ where
  size table := by
    rw [Store.size, run.rows? table]
    by_cases none : entries table log = []
    · simp [none]
    · simp [none]
  all table := by
    rw [Store.find_everyRow, run.rows? table]
    by_cases none : entries table log = []
    · simp [none]
    · simp [none]
  order client := ⟨_, run.programs_eq client, fun table => run.entries_of_client client table⟩
  stores e σ' step target row := by
    cases step with
    | ask next => exact congrArg Prod.fst (Store.perform_of_row? row)
  refuses e σ' step table data asked other := by
    cases step with
    | ask next =>
      dsimp only at asked
      subst asked
      cases data with
      | object members => exact absurd rfl (other members)
      | _ => rfl
  finds e σ' step table q asked := by
    rw [← run.rows?_eq_none_iff table, ← Store.find_fails_iff]
    cases step with
    | ask next =>
      dsimp only at asked
      subst asked
      show (∃ why, (σ.store.find table q).map Reply.found = .error why) ↔ _
      cases σ.store.find table q with
      | ok answer => exact ⟨fun ⟨_, failed⟩ => (nomatch failed), fun ⟨_, failed⟩ => (nomatch failed)⟩
      | error why => exact ⟨fun _ => ⟨_, rfl⟩, fun _ => ⟨_, rfl⟩⟩
  unchanged e σ' step idle := step.store_eq idle

end Runs

/-- Two clients, of which one has data that is no record and the other asks for a table that does not
exist. -/
def twoClients : Bool → List Operation
  | false => [.insertJson "users" (.object [("name", .string "anna")]), .insertJson "users" (.bool true)]
  | true => [.find "posts" .everyRow, .insert "users" (.ofList [("name", .string "mike")])]

theorem Run.keeps_records_of_two_clients :
    ∃ log σ, Run twoClients log σ ∧ log.map (·.client) = [true, false, true, false] ∧
      σ.store.size "users" = 2 ∧
      σ.store.find "users" .everyRow = .ok (.many
        [.ofList [("name", .string "anna")], .ofList [("name", .string "mike")]]) ∧
      σ.store.find "posts" .everyRow = .error (.noSuchTable "posts") := by
  have run := (Run.start : Run twoClients [] ⟨{}, twoClients⟩)
    |>.step (@System.Step.ask Bool _ _ true _ _ rfl) |>.step (@System.Step.ask Bool _ _ false _ _ rfl)
    |>.step (@System.Step.ask Bool _ _ true _ _ rfl) |>.step (@System.Step.ask Bool _ _ false _ _ rfl)
  have kept := run.keeps_records
  exact ⟨_, _, run, rfl, kept.size "users", kept.all "users", kept.all "posts"⟩

end NameQuery
