namespace TableScript.Entries

/-- A new key goes to the end; a known one keeps its place and takes the new value. -/
def put {α : Type} (key : String) (value : α) : List (String × α) → List (String × α)
  | [] => [(key, value)]
  | (other, old) :: rest =>
      if other = key then (other, value) :: rest else (other, old) :: put key value rest

def ofPairs {α : Type} (pairs : List (String × α)) : List (String × α) :=
  pairs.foldl (fun entries pair => put pair.1 pair.2 entries) []

theorem keys_put {α : Type} (key : String) (value : α) (entries : List (String × α)) :
    (put key value entries).map Prod.fst =
      if key ∈ entries.map Prod.fst then entries.map Prod.fst
      else entries.map Prod.fst ++ [key] := by
  induction entries with
  | nil => rfl
  | cons entry rest ih =>
      by_cases same : entry.1 = key
      · simp [put, same]
      · have different : ¬ key = entry.1 := fun equal => same equal.symm
        by_cases known : key ∈ rest.map Prod.fst
        · simp only [put, if_neg same, List.map_cons, ih, known, List.mem_cons, different, or_true,
            if_true]
        · simp only [put, if_neg same, List.map_cons, ih, known, List.mem_cons, different, or_self,
            if_false, List.cons_append]

end TableScript.Entries

namespace TableScript

/-- The value of an option as it comes from outside, where nothing says that it has the right type. -/
inductive OptionValue where
  | bool (value : Bool)
  | integer (value : Int)
  | text (value : String)
  | other
deriving Repr, DecidableEq

end TableScript
