import TableScript.Proofs.Read.Legible.Basic
import TableScript.Proofs.Wording

namespace TableScript

def Policy.quiet (policy : Policy) : Policy :=
  { policy with reportUnknownSettings := false }

/-- How a message begins that says that a setting is not known. -/
def SettingOwner.unknown (owner : SettingOwner) : String :=
  "Unknown " ++ owner.label ++ " setting: "

def Diagnostic.namesUnknownSetting (diagnostic : Diagnostic) : Bool :=
  [SettingOwner.table, .column, .reference].any fun owner =>
    (Text.after? owner.unknown.toList diagnostic.message.toList).isSome

/-- The journal without warnings of settings that are not known. -/
def Journal.muted (journal : Journal) : Journal :=
  journal.filter fun diagnostic => diagnostic.isError || !diagnostic.namesUnknownSetting

namespace Problem

def isUnknownSetting : Problem → Bool
  | unknownSetting _ _ => true
  | _ => false

/-- No other message begins like one of a setting that is not known. -/
theorem after?_unknown_message {problem : Problem} (other : problem.isUnknownSetting = false)
    (owner : SettingOwner) : Text.after? owner.unknown.toList problem.message.toList = none := by
  have begins := after?_wording (unknownSetting owner "") (by cases owner <;> decide) problem
  have outlined : problem.outline ≠ unknownSetting owner "" := by
    intro same
    cases problem with
    | unknownSetting => cases other
    | _ => cases same
  rwa [if_neg outlined] at begins

theorem after?_unknown_self (owner : SettingOwner) (key : String) :
    Text.after? owner.unknown.toList (unknownSetting owner key).message.toList = some key.toList := by
  have text : (unknownSetting owner key).message.toList = owner.unknown.toList ++ key.toList :=
    String.toList_append
  rw [text, Text.after?_append]

theorem namesUnknownSetting_eq {problem : Problem} {diagnostic : Diagnostic}
    (message : diagnostic.message = problem.message) :
    diagnostic.namesUnknownSetting = problem.isUnknownSetting := by
  rw [Diagnostic.namesUnknownSetting, message]
  cases known : problem.isUnknownSetting with
  | false =>
      simp only [List.any_cons, List.any_nil, after?_unknown_message known, Option.isSome_none,
        Bool.or_self]
  | true =>
      cases problem with
      | unknownSetting owner key =>
          rw [List.any_eq_true]
          exact ⟨owner, by cases owner <;> decide, by rw [after?_unknown_self]; rfl⟩
      | _ => cases known

theorem namesUnknownSetting_foundAt (problem : Problem) (line : SourceLine) (offset : Nat) :
    (problem.foundAt line offset).namesUnknownSetting = problem.isUnknownSetting :=
  namesUnknownSetting_eq rfl

theorem isUnknownSetting_of_error {problem : Problem} (grave : problem.severity = .error) :
    problem.isUnknownSetting = false := by
  cases problem with
  | unknownSetting => cases grave
  | _ => rfl

end Problem

theorem TableHeader.isUnknownSetting_of_mem_nameProblems (header : TableHeader) {catalog : Catalog}
    {found : Problem × Nat} (member : found ∈ header.nameProblems catalog) :
    found.1.isUnknownSetting = false := by
  have wrong := nameProblem_of_mem member
  generalize found.1 = problem at wrong
  cases wrong <;> rfl

theorem Journal.muted_append (journal more : Journal) :
    muted (journal ++ more) = muted journal ++ muted more :=
  List.filter_append journal more

/-- Of what is found wrong with a line nothing else is left out. -/
theorem Journal.muted_map_foundAt (problems : List Problem) (line : SourceLine) (offset : Nat) :
    muted (problems.map (·.foundAt line offset)) =
      (problems.filter (!·.isUnknownSetting)).map (·.foundAt line offset) := by
  rw [muted, List.filter_map]
  congr 1
  refine List.filter_congr fun problem _ => ?_
  rw [Function.comp_apply, problem.namesUnknownSetting_foundAt]
  cases known : problem.isUnknownSetting with
  | false => rw [Bool.not_false, Bool.or_true]
  | true =>
      cases problem with
      | unknownSetting => rfl
      | _ => cases known

/-- What is reported of a setting, and what is reported quietly. For a setting with a meaning there is no
difference; of one without it is reported loudly that it is not known. -/
inductive Setting.Reported (policy : Policy) (owner : SettingOwner) (setting : Setting) (known : Prop) :
    List Problem → List Problem → Prop where
  | meant {found : List Problem} (holds : known)
      (others : ∀ problem ∈ found, problem.isUnknownSetting = false) :
      Reported policy owner setting known found found
  | unmeant (fails : ¬known) :
      Reported policy owner setting known
        (if policy.reportUnknownSettings then [.unknownSetting owner setting.key] else []) []

namespace Setting

section

variable {policy : Policy} {owner other : SettingOwner} {setting : Setting} {known : Prop}
  {loud quiet : List Problem} {key : String}

theorem Reported.quiet_eq (reported : setting.Reported policy owner known loud quiet) :
    quiet = loud.filter (!·.isUnknownSetting) := by
  cases reported with
  | meant _ others =>
      refine (List.filter_eq_self.mpr fun problem member => ?_).symm
      rw [others problem member]
      rfl
  | unmeant _ => cases policy.reportUnknownSettings <;> rfl

theorem Reported.mem_iff (reported : setting.Reported policy owner known loud quiet) :
    .unknownSetting other key ∈ loud ↔
      policy.reportUnknownSettings = true ∧ ¬known ∧ other = owner ∧ key = setting.key := by
  cases reported with
  | meant holds others =>
      refine iff_of_false (fun member => ?_) fun ⟨_, fails, _⟩ => fails holds
      cases others _ member
  | unmeant fails => simp [fails]

end

variable (policy : Policy) (setting : Setting)

theorem reported_column :
    setting.Reported policy .column (setting.name ∈ Column.settingNames) (setting.columnProblems policy)
      (setting.columnProblems policy.quiet) := by
  unfold columnProblems
  dsimp only
  split
  · rename_i plain
    simp only [Bool.or_eq_true, decide_eq_true_eq, or_assoc] at plain
    have known : setting.name ∈ Column.settingNames := by
      rcases plain with named | named | named | named | named <;> simp [Column.settingNames, named]
    exact .meant known (List.forall_mem_nil _)
  · split
    · split
      · exact .meant (by simp_all [Column.settingNames]) (List.forall_mem_singleton.mpr rfl)
      · exact .meant (by simp_all [Column.settingNames]) (List.forall_mem_nil _)
    · split
      · split
        · exact .meant (by simp_all [Column.settingNames]) (List.forall_mem_nil _)
        · exact .meant (by simp_all [Column.settingNames]) (List.forall_mem_singleton.mpr rfl)
      · exact .unmeant (by simp_all [Column.settingNames])

theorem reported_table :
    setting.Reported policy .table (setting.name ∈ Table.settingNames) (setting.tableProblems policy)
      (setting.tableProblems policy.quiet) := by
  by_cases note : setting.name = "note"
  · have nothing : ∀ policy, setting.tableProblems policy = [] := fun _ => by simp [tableProblems, note]
    rw [nothing, nothing]
    exact .meant (List.mem_singleton.mpr note) (List.forall_mem_nil _)
  · have unknown : ∀ policy : Policy, setting.tableProblems policy =
        if policy.reportUnknownSettings then [.unknownSetting .table setting.key] else [] :=
      fun _ => by simp [tableProblems, note]
    rw [unknown, unknown]
    exact .unmeant (mt List.mem_singleton.mp note)

theorem reported_reference :
    setting.Reported policy .reference ((setting.isDelete || setting.isUpdate) = true)
      (setting.referenceProblems policy) (setting.referenceProblems policy.quiet) := by
  unfold referenceProblems
  split
  · rename_i acts
    split
    · exact .meant acts (List.forall_mem_singleton.mpr rfl)
    · split
      · exact .meant acts (List.forall_mem_nil _)
      · exact .meant acts (List.forall_mem_singleton.mpr rfl)
  · rename_i other
    exact .unmeant other

end Setting

end TableScript
