import Mathlib.Data.List.Forall2
import TypeTokenWrappers.Proofs.Config.RoundTrip
import TypeTokenWrappers.Proofs.Config.Substitution
import TypeTokenWrappers.Proofs.Text.Taken

/-! # Variables that are missing

A configuration cannot be read if one of its paths names a variable that is not set and gives
no default. Which placeholders there are is seen in the paths as they were written, so the
values of the variables decide nothing: no value brings in a placeholder, and none hides one. -/

namespace TypeTokenWrappers.Config

namespace Placeholder

/-! ## Placeholders from left to right -/

/-- The placeholders of a text from left to right: one wherever one is written, if the one in
front of it has ended there. -/
inductive Found : List Char → List Placeholder → Prop where
  | nothing : Found [] []
  | plain {char : Char} {rest : List Char} {found : List Placeholder}
      (apart : ∀ placeholder : Placeholder, placeholder.Proper →
        ∀ after, char :: rest ≠ placeholder.written ++ after)
      (others : Found rest found) : Found (char :: rest) found
  | hole {placeholder : Placeholder} {after : List Char} {found : List Placeholder}
      (proper : placeholder.Proper) (others : Found after found) :
      Found (placeholder.written ++ after) (placeholder :: found)

theorem findFrom_eq_drop (skip : Nat) (text : List Char) :
    findFrom skip text = findFrom 0 (text.drop skip) := by
  induction text generalizing skip with
  | nil => cases skip <;> rfl
  | cons char rest induction =>
      cases skip with
      | zero => rfl
      | succ skip => exact induction skip

theorem findFrom_written {placeholder : Placeholder} (proper : placeholder.Proper)
    (after : List Char) :
    findFrom 0 (placeholder.written ++ after) = placeholder :: findFrom 0 after := by
  have front := atFront?_of_proper proper after
  obtain ⟨behind, written⟩ := written_cons proper
  rw [written, List.cons_append] at front ⊢
  rw [findFrom, front]
  simp [findFrom_eq_drop, written]

theorem findFrom_plain {char : Char} {rest : List Char}
    (apart : ∀ placeholder : Placeholder, placeholder.Proper →
      ∀ after, char :: rest ≠ placeholder.written ++ after) :
    findFrom 0 (char :: rest) = findFrom 0 rest := by
  have none : atFront? (char :: rest) = none := by
    rw [Option.eq_none_iff_forall_ne_some]
    intro placeholder found
    obtain ⟨proper, after, split⟩ := atFront?_eq_some_iff.mp found
    exact apart placeholder proper after split
  rw [findFrom, none]

theorem found_findFrom (text : List Char) : Found text (findFrom 0 text) := by
  -- A placeholder takes more than one character, so the text behind it is what counts.
  induction length : text.length using Nat.strongRecOn generalizing text with
  | ind size induction =>
      subst length
      cases text with
      | nil => exact .nothing
      | cons char rest =>
          cases found : atFront? (char :: rest) with
          | none =>
              have apart (placeholder : Placeholder) (proper : placeholder.Proper)
                  (after : List Char) : char :: rest ≠ placeholder.written ++ after := by
                intro split
                rw [split, atFront?_of_proper proper] at found
                cases found
              rw [findFrom_plain apart]
              exact .plain apart (induction rest.length (Nat.lt_succ_self _) rest rfl)
          | some placeholder =>
              obtain ⟨proper, after, split⟩ := atFront?_eq_some_iff.mp found
              obtain ⟨behind, written⟩ := written_cons proper
              have shorter : after.length < (char :: rest).length := by
                rw [split, written, List.length_append, List.length_cons]
                omega
              rw [split, findFrom_written proper]
              exact .hole proper (induction after.length shorter after rfl)

theorem found_iff {text : List Char} {found : List Placeholder} :
    Found text found ↔ findFrom 0 text = found := by
  constructor
  · intro holds
    induction holds with
    | nothing => rfl
    | plain apart _ induction => rw [findFrom_plain apart, induction]
    | hole proper _ induction => rw [findFrom_written proper, induction]
  · rintro rfl
    exact found_findFrom text

/-! ## The first one that stands for nothing -/

/-- Whether a placeholder names a variable that is not set, and has no default. -/
def Missing (environment : Environment) (placeholder : Placeholder) : Prop :=
  environment placeholder.name = none ∧ placeholder.default = none

instance (environment : Environment) (placeholder : Placeholder) :
    Decidable (placeholder.Missing environment) :=
  inferInstanceAs (Decidable (_ ∧ _))

variable {environment : Environment} {front back : List Placeholder}

/-- Whether a result is decided by these placeholders: the first one that is missing is the
error, and without one there is none. -/
def Decides (environment : Environment) (placeholders : List Placeholder)
    (result : Except Error α) : Prop :=
  match placeholders.find? (·.Missing environment) with
  | none => ∃ value, result = .ok value
  | some placeholder => result = .error (.variableNotSet placeholder.name)

theorem decides_ok (value : α) : Decides environment [] (.ok value : Except Error α) :=
  ⟨value, rfl⟩

theorem Decides.bind {first : Except Error α} {second : α → Except Error β}
    (decides : Decides environment front first)
    (continues : ∀ value, Decides environment back (second value)) :
    Decides environment (front ++ back) (first >>= second) := by
  rw [Decides] at decides ⊢
  rw [List.find?_append]
  cases missing : front.find? (·.Missing environment) with
  | none =>
      rw [missing] at decides
      obtain ⟨value, rfl⟩ := decides
      exact continues value
  | some placeholder =>
      rw [missing] at decides
      rw [decides]
      rfl

/-- What is made of a result afterwards decides nothing. -/
theorem Decides.last {first : Except Error α} (decides : Decides environment front first)
    (change : α → β) : Decides environment front (first >>= fun value => pure (change value)) := by
  rw [← List.append_nil front]
  exact decides.bind fun value => decides_ok (change value)

theorem decides_resolve (placeholder : Placeholder) :
    Decides environment [placeholder] (placeholder.resolve environment) := by
  rw [Decides, resolve]
  cases set : environment placeholder.name with
  | some value => simp [Missing, set]
  | none =>
      cases default : placeholder.default with
      | some default => simp [Missing, set, default]
      | none => simp [Missing, set, default]

/-- The text in which placeholders are replaced decides nothing. -/
theorem decides_foldlM (placeholders : List Placeholder) (text : List Char) :
    Decides environment placeholders (placeholders.foldlM (replaceIn environment) text) := by
  induction placeholders generalizing text with
  | nil => exact decides_ok text
  | cons placeholder others induction =>
      rw [List.foldlM_cons]
      exact ((decides_resolve placeholder).last _).bind induction

section Outcome

variable {placeholders : List Placeholder} {result : Except Error α}

theorem Decides.fails_iff (decides : Decides environment placeholders result) :
    (∃ error, result = .error error) ↔
      ∃ placeholder ∈ placeholders, placeholder.Missing environment := by
  rw [Decides] at decides
  cases missing : placeholders.find? (·.Missing environment) with
  | none =>
      rw [missing] at decides
      obtain ⟨value, rfl⟩ := decides
      rw [List.find?_eq_none] at missing
      simpa using missing
  | some placeholder =>
      rw [missing] at decides
      refine iff_of_true ⟨_, decides⟩ ⟨placeholder, List.mem_of_find?_eq_some missing, ?_⟩
      simpa using List.find?_some missing

/-- The first placeholder that is missing is told. -/
theorem Decides.eq_error (decides : Decides environment placeholders result)
    {before after : List Placeholder} {placeholder : Placeholder}
    (split : placeholders = before ++ placeholder :: after)
    (set : ∀ earlier ∈ before, ¬ earlier.Missing environment)
    (missing : placeholder.Missing environment) :
    result = .error (.variableNotSet placeholder.name) := by
  have first : placeholders.find? (·.Missing environment) = some placeholder := by
    rw [List.find?_eq_some_iff_append]
    exact ⟨by simpa using missing, before, after, split, by simpa using set⟩
  rw [Decides, first] at decides
  exact decides

/-- The values of variables have no part in whether there is an error, and which. -/
theorem Decides.same {other : Environment} {otherResult : Except Error β}
    (decides : Decides environment placeholders result)
    (decidesOther : Decides other placeholders otherResult)
    (same : ∀ name, environment name = none ↔ other name = none) :
    (∃ value otherValue, result = .ok value ∧ otherResult = .ok otherValue) ∨
      ∃ error, result = .error error ∧ otherResult = .error error := by
  have missing (placeholder : Placeholder) :
      placeholder.Missing other ↔ placeholder.Missing environment :=
    and_congr_left' (same placeholder.name).symm
  simp only [Decides, missing] at decidesOther
  rw [Decides] at decides
  cases first : placeholders.find? (·.Missing environment) with
  | none =>
      rw [first] at decides decidesOther
      obtain ⟨value, found⟩ := decides
      obtain ⟨otherValue, foundOther⟩ := decidesOther
      exact .inl ⟨value, otherValue, found, foundOther⟩
  | some placeholder =>
      rw [first] at decides decidesOther
      exact .inr ⟨_, decides, decidesOther⟩

end Outcome

end Placeholder

open Placeholder

variable {environment : Environment}

theorem decides_substitute (value : String) :
    Decides environment (findAll value) (substitute environment value) :=
  (decides_foldlM (findAll value) value.toList).last String.ofList

theorem decides_mapM (values : List String) :
    Decides environment (values.flatMap findAll) (values.mapM (substitute environment)) := by
  induction values with
  | nil => exact decides_ok []
  | cons value others induction =>
      rw [List.mapM_cons, List.flatMap_cons]
      exact (decides_substitute value).bind fun first => induction.last (first :: ·)

theorem decides_resolvePlaceholders (config : Config) :
    Decides environment (config.substitutedValues.flatMap findAll)
      (config.resolvePlaceholders environment) := by
  rw [substitutedValues, List.cons_append, List.flatMap_cons, List.flatMap_append]
  exact (decides_substitute config.output.path).bind fun path =>
    (decides_mapM config.classpath.jars).bind fun jars =>
      (decides_mapM config.classpath.directories).last _

/-- Placeholders are replaced in paths only. -/
theorem untouched_of_resolvePlaceholders {config result : Config}
    (resolved : config.resolvePlaceholders environment = .ok result) :
    result.scan = config.scan ∧ result.output.package = config.output.package := by
  obtain ⟨path, _, rest⟩ := bind_ok_iff.mp resolved
  obtain ⟨jars, _, rest⟩ := bind_ok_iff.mp rest
  obtain ⟨directories, _, rest⟩ := bind_ok_iff.mp rest
  cases rest
  exact ⟨rfl, rfl⟩

/-- Whether these are the placeholders in the paths of a configuration: from left to right in
each, those of the output path first, then those of the archives and of the directories. -/
def Lists (config : Config) (placeholders : List Placeholder) : Prop :=
  ∃ found, List.Forall₂ (fun path found => Found path.toList found)
    (config.output.path :: config.classpath.jars ++ config.classpath.directories) found ∧
    placeholders = found.flatten

theorem lists_iff {config : Config} {placeholders : List Placeholder} :
    config.Lists placeholders ↔ placeholders = config.substitutedValues.flatMap findAll := by
  have each (paths : List String) (found : List (List Placeholder)) :
      List.Forall₂ (fun path found => Found path.toList found) paths found ↔
        paths.map findAll = found := by
    have lists := List.forall₂_map_left_iff (R := fun one other : List Placeholder => one = other)
      (f := findAll) (l := paths) (u := found)
    rw [List.forall₂_eq_eq_eq] at lists
    simp only [found_iff]
    exact lists.symm
  simp only [Lists, each, exists_eq_left']
  rfl

/-- A configuration that is written in a document cannot be read under an environment if and
only if a placeholder in one of its paths, as they were written, names a variable that is not
set and has no default. The error is that of the first such placeholder. Nothing but the paths
is changed. Under two environments in which the same variables are set, both succeed or both
fail with the same error, whatever the values are. -/
theorem parse_missing {document : String} {config : Config}
    (written : read document = .ok config) :
    ∃ placeholders, config.Lists placeholders ∧ ∀ environment,
      ((∃ error, parse environment document = .error error) ↔
        ∃ placeholder ∈ placeholders, placeholder.Missing environment) ∧
      (∀ before placeholder after, placeholders = before ++ placeholder :: after →
        (∀ earlier ∈ before, ¬ earlier.Missing environment) → placeholder.Missing environment →
        parse environment document = .error (.variableNotSet placeholder.name)) ∧
      (∀ result, parse environment document = .ok result →
        result.scan = config.scan ∧ result.output.package = config.output.package) ∧
      ∀ other : Environment, (∀ name, environment name = none ↔ other name = none) →
        (∃ result otherResult, parse environment document = .ok result ∧
          parse other document = .ok otherResult) ∨
        ∃ error, parse environment document = .error error ∧
          parse other document = .error error := by
  have parsed (environment : Environment) :
      parse environment document = config.resolvePlaceholders environment := by
    rw [parse, written]
    rfl
  have decides (environment : Environment) : Decides environment _
      (config.resolvePlaceholders environment) := decides_resolvePlaceholders config
  simp only [parsed]
  refine ⟨_, lists_iff.mpr rfl, fun environment => ⟨(decides environment).fails_iff, ?_, ?_, ?_⟩⟩
  · intro before placeholder after split set missing
    exact (decides environment).eq_error split set missing
  · exact fun result => untouched_of_resolvePlaceholders
  · exact fun other same => (decides environment).same (decides other) same

/-- Placeholders with and without a default, one that begins with the text of another one, and
some where nothing is replaced. -/
def requiringConfig : Config where
  scan := { jarPrefix := "$\x7bS\x7d" }
  output := { path := "$\x7bA:-b\x7d/$\x7bB\x7d", package := "$\x7bP\x7d" }
  classpath := { jars := ["$\x7bA\x7d"], directories := ["$\x7b$\x7bC\x7d\x7d"] }

theorem parse_missing_requiringConfig :
    read requiringConfig.toToml = .ok requiringConfig ∧
      parse (Environment.ofList [("A", "$\x7bD\x7d")]) requiringConfig.toToml =
        .error (.variableNotSet "B") ∧
      parse (Environment.ofList [("A", "$\x7bD\x7d"), ("B", "")]) requiringConfig.toToml =
        .error (.variableNotSet "$\x7bC") := by
  have written := read_toToml requiringConfig
  obtain ⟨placeholders, lists, decided⟩ := parse_missing written
  rw [lists_iff] at lists
  have found : placeholders = [⟨"A", some "b", "$\x7bA:-b\x7d".toList⟩,
      ⟨"B", none, "$\x7bB\x7d".toList⟩, ⟨"A", none, "$\x7bA\x7d".toList⟩,
      ⟨"$\x7bC", none, "$\x7b$\x7bC\x7d".toList⟩] := by
    rw [lists]
    decide +kernel
  refine ⟨written, ?_, ?_⟩
  · exact (decided _).2.1 (placeholders.take 1) ⟨"B", none, "$\x7bB\x7d".toList⟩
      (placeholders.drop 2) (by rw [found]; rfl) (by rw [found]; decide +kernel)
      (by decide +kernel)
  · exact (decided _).2.1 (placeholders.take 3) ⟨"$\x7bC", none, "$\x7b$\x7bC\x7d".toList⟩
      (placeholders.drop 4) (by rw [found]; rfl) (by rw [found]; decide +kernel)
      (by decide +kernel)

end TypeTokenWrappers.Config
