import Mathlib.Data.List.Induction
import Mathlib.Data.List.Nodup
import TypeTokenWrappers.Signature.Basic

/-! # What a section declares

Each name is declared once, at the place where it stands first, with the bounds that
stand with it last. -/

namespace TypeTokenWrappers.Signature

/-! ## Names by first occurrence -/

section Names

variable {α : Type} [BEq α] [LawfulBEq α]

theorem eraseDups_append_singleton (items : List α) (last : α) :
    (items ++ [last]).eraseDups =
      if last ∈ items then items.eraseDups else items.eraseDups ++ [last] := by
  rw [List.eraseDups_append]
  split
  case isTrue member => simp [List.removeAll, member]
  case isFalse other => simp [List.removeAll, other, List.eraseDups_cons]

theorem nodup_eraseDups (items : List α) : items.eraseDups.Nodup := by
  induction items using List.reverseRecOn with
  | nil => exact List.nodup_nil
  | append_singleton items last induction =>
      rw [eraseDups_append_singleton]
      split
      case isTrue => exact induction
      case isFalse other =>
        apply induction.append (List.nodup_singleton last)
        rw [List.disjoint_singleton, List.mem_eraseDups]
        exact other

theorem eraseDups_eq_singleton_iff {items : List α} {item : α} :
    items.eraseDups = [item] ↔ items ≠ [] ∧ ∀ other ∈ items, other = item := by
  have distinct := nodup_eraseDups items
  constructor
  · intro single
    refine ⟨?_, fun other member => ?_⟩
    · rintro rfl
      cases single
    · rw [← List.mem_eraseDups, single] at member
      exact List.mem_singleton.mp member
  · rintro ⟨nonempty, same⟩
    have inside : ∀ other ∈ items.eraseDups, other = item :=
      fun other member => same other (List.mem_eraseDups.mp member)
    cases rest : items.eraseDups with
    | nil =>
        rcases List.exists_mem_of_ne_nil items nonempty with ⟨other, member⟩
        rw [← List.mem_eraseDups, rest] at member
        cases member
    | cons first others =>
        rw [rest] at inside distinct
        rcases List.forall_mem_cons.mp inside with ⟨rfl, alike⟩
        cases others with
        | nil => rfl
        | cons second others =>
            cases alike second (List.mem_cons_self ..)
            exact absurd (List.mem_cons_self ..) (List.nodup_cons.mp distinct).1

end Names

/-! ## Bounds of the last occurrence -/

/-- The bound names that stand with the last parameter of this name. -/
def lastBounds (parameters : List Parameter) (name : String) : List String :=
  ((parameters.filter fun parameter => parameter.name = name).getLast?.map
    Parameter.boundNames).getD []

theorem lastBounds_append_singleton (parameters : List Parameter) (last : Parameter)
    (name : String) : lastBounds (parameters ++ [last]) name =
      if last.name = name then last.boundNames else lastBounds parameters name := by
  rw [lastBounds, List.filter_append]
  split
  case isTrue same => simp [same]
  case isFalse other => simp [other, lastBounds]

theorem lastBounds_of_last {before after : List Parameter} {parameter : Parameter}
    (last : ∀ later ∈ after, later.name ≠ parameter.name) :
    lastBounds (before ++ parameter :: after) parameter.name = parameter.boundNames := by
  have none : (after.filter fun later => later.name = parameter.name) = [] := by
    rw [List.filter_eq_nil_iff]
    intro later member
    simpa using last later member
  rw [lastBounds, List.filter_append, List.filter_cons_of_pos (by simp), none]
  simp

namespace Declared

theorem declare_map {names : List String} (distinct : names.Nodup) (name : String)
    (bounds : List String) (boundsOf : String → List String) :
    declare name bounds (names.map fun other => (other, boundsOf other)) =
      (if name ∈ names then names else names ++ [name]).map fun other =>
        (other, if name = other then bounds else boundsOf other) := by
  induction names with
  | nil => simp [declare]
  | cons first names induction =>
      rcases List.nodup_cons.mp distinct with ⟨fresh, distinct⟩
      rw [List.map_cons, declare]
      split
      case isTrue same =>
        have others : names.map (fun other => (other, boundsOf other)) =
            names.map fun other => (other, if name = other then bounds else boundsOf other) := by
          apply List.map_congr_left
          intro other member
          rw [if_neg]
          rintro rfl
          exact fresh (same ▸ member)
        rw [if_pos (same ▸ List.mem_cons_self ..), List.map_cons, same, if_pos rfl, others]
      case isFalse other =>
        have elsewhere : name ∈ first :: names ↔ name ∈ names := by
          rw [List.mem_cons, or_iff_right (Ne.symm other)]
        rw [induction distinct]
        simp only [elsewhere]
        split
        case isTrue => rw [List.map_cons, if_neg (Ne.symm other)]
        case isFalse => rw [List.cons_append, List.map_cons, if_neg (Ne.symm other)]

theorem ofParameters_append_singleton (parameters : List Parameter) (last : Parameter) :
    ofParameters (parameters ++ [last]) =
      declare last.name last.boundNames (ofParameters parameters) := by
  rw [ofParameters, List.foldl_append]
  rfl

theorem ofParameters_eq (parameters : List Parameter) :
    ofParameters parameters = (parameters.map (·.name)).eraseDups.map fun name =>
      (name, lastBounds parameters name) := by
  -- Declaring goes from front to back, so what is declared grows at the end of the list.
  induction parameters using List.reverseRecOn with
  | nil => rfl
  | append_singleton parameters last induction =>
      rw [ofParameters_append_singleton, induction, declare_map (nodup_eraseDups _),
        List.map_append, List.map_singleton, eraseDups_append_singleton]
      simp only [lastBounds_append_singleton, List.mem_eraseDups]

end Declared

theorem typeParameter_eq (name : String) (bounds : List String) :
    typeParameter (name, bounds) =
      ⟨name, if bounds = [] then none else some (", ".intercalate bounds)⟩ := by
  cases bounds <;> rfl

theorem declaredParameters_eq (parameters : List Parameter) :
    declaredParameters parameters = (parameters.map (·.name)).eraseDups.map fun name =>
      typeParameter (name, lastBounds parameters name) := by
  rw [declaredParameters, Declared.ofParameters_eq, List.map_map]
  rfl

theorem names_declaredParameters (parameters : List Parameter) :
    (declaredParameters parameters).map (·.name) = (parameters.map (·.name)).eraseDups := by
  rw [declaredParameters_eq, List.map_map]
  simp only [Function.comp_def, typeParameter_eq, List.map_id']

theorem declaredParameters_ne_nil {parameters : List Parameter} (nonempty : parameters ≠ []) :
    declaredParameters parameters ≠ [] := by
  rcases List.exists_mem_of_ne_nil parameters nonempty with ⟨parameter, member⟩
  intro nothing
  have names := names_declaredParameters parameters
  rw [nothing, List.map_nil] at names
  have declared : parameter.name ∈ (parameters.map (·.name)).eraseDups :=
    List.mem_eraseDups.mpr (List.mem_map.mpr ⟨parameter, member, rfl⟩)
  rw [← names] at declared
  cases declared

/-- One name without bounds is declared if all parameters have that name and the last
of them names no class in its interface bounds. -/
theorem declaredParameters_eq_singleton_iff {before : List Parameter} {last : Parameter}
    {name : String} : declaredParameters (before ++ [last]) = [⟨name, none⟩] ↔
      (∀ parameter ∈ before ++ [last], parameter.name = name) ∧ last.boundNames = [] := by
  have bounds : lastBounds (before ++ [last]) last.name = last.boundNames :=
    lastBounds_of_last (List.forall_mem_nil _)
  have names : ((before ++ [last]).map (·.name)).eraseDups = [name] ↔
      ∀ parameter ∈ before ++ [last], parameter.name = name := by
    rw [eraseDups_eq_singleton_iff, List.forall_mem_map]
    exact and_iff_right (by simp)
  rw [declaredParameters_eq]
  constructor
  · intro single
    rcases List.map_eq_singleton_iff.mp single with ⟨found, alone, equal⟩
    rw [typeParameter_eq, TypeParameter.mk.injEq] at equal
    rcases equal with ⟨rfl, unbounded⟩
    have same := names.mp alone
    refine ⟨same, ?_⟩
    rw [← same last (by simp), bounds] at unbounded
    exact Decidable.byContradiction fun some => by simp [some] at unbounded
  · rintro ⟨same, none⟩
    rw [names.mpr same, List.map_singleton, typeParameter_eq, ← same last (by simp), bounds,
      if_pos none]

end TypeTokenWrappers.Signature
