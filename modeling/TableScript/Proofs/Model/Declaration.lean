import Mathlib.Data.List.Induction
import TableScript.Catalog

namespace TableScript.Catalog

variable {catalog : Catalog} {calls : List Table} {table : Table} {key : TableKey}

/-- The catalog behind a call: what is refused leaves it as it is. -/
def offer (catalog : Catalog) (table : Table) : Catalog :=
  match catalog.declare table with
  | .ok after => after
  | .error _ => catalog

/-- The catalog behind a sequence of calls that begins with no tables. -/
def ofCalls (calls : List Table) : Catalog :=
  calls.foldl offer empty

theorem declare_eq_error_iff {refusal : AlreadyDeclared} :
    catalog.declare table = .error refusal ↔
      refusal = ⟨table⟩ ∧ table.key ∈ catalog.tables.map Table.key := by
  rw [← contains_iff]
  unfold declare
  split
  · rename_i absent
    simp [absent]
  · rename_i present
    simp only [Except.error.injEq, Bool.not_eq_false] at present ⊢
    exact ⟨fun same => ⟨same.symm, present⟩, fun refused => refused.1.symm⟩

theorem tables_offer (catalog : Catalog) (table : Table) :
    (catalog.offer table).tables =
      if table.key ∈ catalog.tables.map Table.key then catalog.tables
      else catalog.tables ++ [table] := by
  unfold offer
  split
  · rename_i after declared
    rw [tables_of_declare declared, if_neg]
    intro there
    have refused := declare_eq_error_iff.mpr ⟨rfl, there⟩
    rw [declared] at refused
    cases refused
  · rename_i refusal refused
    rw [if_pos (declare_eq_error_iff.mp refused).2]

theorem ofCalls_concat (calls : List Table) (table : Table) :
    ofCalls (calls ++ [table]) = (ofCalls calls).offer table := by
  rw [ofCalls, List.foldl_append]
  rfl

/-- What was handed in once is there, whether it was the first of its schema and name or not. -/
theorem mem_keys_ofCalls : key ∈ (ofCalls calls).tables.map Table.key ↔ key ∈ calls.map Table.key := by
  induction calls using List.reverseRecOn with
  | nil => rfl
  | append_singleton calls table ih =>
      rw [ofCalls_concat, tables_offer, List.map_append, List.mem_append, ← ih]
      split
      · rename_i there
        refine ⟨.inl, fun member => member.elim id fun last => ?_⟩
        rwa [List.mem_singleton.mp last]
      · rw [List.map_append, List.mem_append]

theorem tables_ofCalls_concat (calls : List Table) (table : Table) :
    (ofCalls (calls ++ [table])).tables =
      if table.key ∈ calls.map Table.key then (ofCalls calls).tables
      else (ofCalls calls).tables ++ [table] := by
  rw [ofCalls_concat, tables_offer]
  simp only [mem_keys_ofCalls]

/-- The tables are those that were the first of their schema and name, in the order of the calls. -/
theorem tables_ofCalls (calls : List Table) :
    (ofCalls calls).tables =
      (calls.zipIdx.filter fun call => call.1.key ∉ (calls.take call.2).map Table.key).map Prod.fst := by
  induction calls using List.reverseRecOn with
  | nil => rfl
  | append_singleton calls table ih =>
      have earlier : calls.zipIdx.filter (fun call =>
          decide (call.1.key ∉ ((calls ++ [table]).take call.2).map Table.key)) =
            calls.zipIdx.filter fun call => call.1.key ∉ (calls.take call.2).map Table.key := by
        refine List.filter_congr fun call member => ?_
        have inside := List.snd_lt_of_mem_zipIdx member
        rw [List.take_append_of_le_length (by omega)]
      have last : ([table].zipIdx calls.length).filter (fun call =>
          decide (call.1.key ∉ ((calls ++ [table]).take call.2).map Table.key)) =
            if table.key ∈ calls.map Table.key then [] else [(table, calls.length)] := by
        rw [List.zipIdx_singleton, List.filter_cons, List.filter_nil, List.take_left]
        by_cases known : table.key ∈ calls.map Table.key <;> simp [known]
      rw [tables_ofCalls_concat, ih, List.zipIdx_append, List.filter_append, List.map_append, earlier,
        Nat.zero_add, last]
      split <;> simp

/-- A lookup by the key finds the first fitting table that was ever handed in. -/
theorem find?_tables_ofCalls (fits : TableKey → Bool) :
    (ofCalls calls).tables.find? (fits ·.key) = calls.find? (fits ·.key) := by
  induction calls using List.reverseRecOn with
  | nil => rfl
  | append_singleton calls table ih =>
      rw [tables_ofCalls_concat, List.find?_append, ← ih]
      split
      · -- The table that was refused fits no better than the one with its key that is there.
        rename_i known
        obtain ⟨other, member, same⟩ := List.mem_map.mp (mem_keys_ofCalls.mpr known)
        cases fitting : fits table.key with
        | false => simp [fitting]
        | true =>
            have found : ((ofCalls calls).tables.find? (fits ·.key)).isSome = true :=
              List.find?_isSome.mpr ⟨other, member, by rw [same, fitting]⟩
            rw [Option.or_of_isSome found]
      · rw [List.find?_append]

theorem contains_ofCalls_iff : (ofCalls calls).contains key = true ↔ key ∈ calls.map Table.key :=
  contains_iff.trans mem_keys_ofCalls

theorem get?_ofCalls (calls : List Table) (key : TableKey) :
    (ofCalls calls).get? key = calls.find? (·.key == key) :=
  find?_tables_ofCalls (· == key)

theorem find?_ofCalls (calls : List Table) (name : String) (schema : Option String) :
    (ofCalls calls).find? name schema =
      match schema with
      | some _ => calls.find? (·.key == ⟨schema, name⟩)
      | none => (calls.find? (·.key == ⟨none, name⟩)).or (calls.find? (·.name == name)) := by
  have named : (ofCalls calls).tables.find? (·.name == name) = calls.find? (·.name == name) :=
    find?_tables_ofCalls (·.name == name)
  cases schema with
  | some written => exact get?_ofCalls calls ⟨some written, name⟩
  | none =>
      rw [find?, get?_ofCalls, named]
      exact Option.orElse_eq_or

/-- Behind whatever calls, a catalog has kept the first table of each schema and name, in the order of the
calls, and nothing else. A further call is refused exactly if a table with its schema and name was handed in
before, and then all stays as it is. A schema and name are known exactly if a call had them. A name with a
schema means the first table that was handed in with both; a name without one means the first that has none,
and if there is none, the first of that name. A column is looked for in the table that the name means. The
empty schema is a schema like any other. -/
theorem ofCalls_keepsFirst (calls : List Table) :
    (ofCalls calls).tables =
      (calls.zipIdx.filter fun call => call.1.key ∉ (calls.take call.2).map Table.key).map Prod.fst ∧
    (∀ table,
      (∀ refusal, (ofCalls calls).declare table = .error refusal ↔
        refusal = ⟨table⟩ ∧ table.key ∈ calls.map Table.key) ∧
      (ofCalls (calls ++ [table])).tables =
        if table.key ∈ calls.map Table.key then (ofCalls calls).tables
        else (ofCalls calls).tables ++ [table]) ∧
    (∀ name schema, (ofCalls calls).contains ⟨schema, name⟩ = true ↔
      ∃ table ∈ calls, table.schema = schema ∧ table.name = name) ∧
    (∀ name written, (ofCalls calls).find? name (some written) =
      calls.find? fun table => table.schema == some written && table.name == name) ∧
    (∀ name, (ofCalls calls).find? name none =
      (calls.find? fun table => table.schema == none && table.name == name).or
        (calls.find? fun table => table.name == name)) ∧
    ∀ name column schema, (ofCalls calls).findColumn? name column schema =
      ((ofCalls calls).find? name schema).bind fun table => table.column? column := by
  have fits : ∀ name schema, (fun table : Table => table.schema == schema && table.name == name) =
      fun table => table.key == ⟨schema, name⟩ := by
    intro name schema
    funext table
    rw [Bool.eq_iff_iff]
    simp [Table.key]
  refine ⟨tables_ofCalls calls, fun table => ⟨fun refusal => ?_, tables_ofCalls_concat calls table⟩, ?_, ?_,
    ?_, fun _ _ _ => rfl⟩
  · rw [declare_eq_error_iff, mem_keys_ofCalls]
  · intro name schema
    rw [contains_ofCalls_iff]
    simp [Table.key]
  · intro name written
    rw [fits]
    exact find?_ofCalls calls name (some written)
  · intro name
    rw [fits]
    exact find?_ofCalls calls name none

/-- The empty schema is not none, but a name without a schema may mean a table in it. -/
example : let table : Table := { id := "t", name := "t", schema := some "" }
    (ofCalls [table]).contains ⟨none, "t"⟩ = false ∧ (ofCalls [table]).find? "t" none = some table := by
  decide

end TableScript.Catalog
