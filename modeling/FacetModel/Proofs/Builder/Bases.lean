import FacetModel.Proofs.Builder.Hierarchy
import FacetModel.Proofs.Builder.Registration

/-!
# Declared and registered base types

A type may be declared with any base type (`Registry.HasBase`). In a reachable builder the
registered types have just the base types that they are declared with, as far as these are declared
themselves (`Builder.Reachable.hasBase_iff`), in whatever order the types came in.
-/

namespace FacetModel

namespace Registry

/-- A declared structural type has a base type, which need not be declared. -/
def HasBase (r : Registry) (name base : String) : Prop :=
  ∃ t, r.structural? name = some t ∧ t.base = some base

/-- The base type of a type, if that is declared as well. -/
def declaredBase? (r : Registry) (t : StructuralType) : Option String :=
  t.base.filter fun base => (r.structural? base).isSome

end Registry

namespace Builder

variable {b : Builder} {name base : String}

/-- Only declared types are registered. -/
theorem TypesSound.isStructuralType_of_undeclared {waiting : List String} (h : b.TypesSound waiting)
    (hname : b.registry.structural? name = none) : b.isStructuralType name = false := by
  rw [isStructuralType_eq_false_iff, Option.eq_none_iff_forall_ne_some]
  rintro p hp
  obtain ⟨t, ht, -⟩ := h.declared name p hp
  cases hname.symm.trans ht

/-- Only declared types are known. -/
theorem TypesSound.knows_eq {waiting : List String} (h : b.TypesSound waiting) (name : String) :
    b.knows name = (b.registry.structural? name).isSome := by
  rw [knows]
  cases hdeclared : b.registry.structural? name with
  | some t => rfl
  | none => rw [h.isStructuralType_of_undeclared hdeclared, Bool.or_false]

/-- A type is registered with the base type that it is declared with, whatever else is registered
then. -/
theorem TypesSound.pendingOf_eq {waiting : List String} (h : b.TypesSound waiting)
    (t : StructuralType) :
    b.pendingOf t = { namespaceName := t.namespaceName, kind := t.kind,
                      baseType := b.registry.declaredBase? t, keys := t.keys } := by
  rw [pendingOf, Registry.declaredBase?, funext h.knows_eq]

/-- Registered types have the base types that they are declared with. -/
def BasesDeclared (b : Builder) : Prop :=
  ∀ name p, b.types.get? name = some p →
    ∃ t, b.registry.structural? name = some t ∧ p.baseType = b.registry.declaredBase? t

/-- Whatever is added to a builder, types that were registered keep their base types, and new ones
get the declared ones. -/
theorem BasesDeclared.take (h : b.BasesDeclared) (hsound : b.TypesSound []) (s : BuilderStep) :
    (b.take s).BasesDeclared := by
  intro name p hp
  rcases b.take_types_cases s with ⟨names, heq⟩ | ⟨names, heq⟩ | hsame
  · rw [heq] at hp ⊢
    have hfrom := b.registeredFrom_register names
    rw [hfrom.registry]
    -- a registered type is kept as it was, and a new one comes in as it is declared
    cases hold : b.types.get? name with
    | some q =>
      cases hp.symm.trans (hfrom.kept name q hold)
      exact h name p hold
    | none =>
      obtain ⟨t, ht, rfl⟩ := hfrom.new name p hp hold
      exact ⟨t, ht, by rw [hsound.pendingOf_eq]⟩
  · obtain ⟨htypes, hregistry⟩ := addEnumTypes_types b names
    rw [heq, htypes] at hp
    rw [heq, hregistry]
    exact h name p hp
  · obtain ⟨q, hq, -, hbase⟩ := hsame.get?_types hp
    rw [hsame.registry, ← hbase]
    exact h name q hq

theorem Reachable.basesDeclared (h : b.Reachable) : b.BasesDeclared := by
  induction h with
  | start registry namespaceName containerName => exact nofun
  | step h s ih => exact ih.take h.typesSound s

/-- **Base types of registered types** are those that they are declared with. -/
theorem Reachable.hasBase_iff (h : b.Reachable) :
    b.HasBase name base ↔ b.isStructuralType name = true ∧ b.registry.HasBase name base ∧
      (b.registry.structural? base).isSome = true := by
  rw [Builder.hasBase_iff, isStructuralType_iff]
  constructor
  · rintro ⟨p, hp, hbase⟩
    obtain ⟨t, ht, hdeclared⟩ := h.basesDeclared name p hp
    rw [hdeclared, Registry.declaredBase?, Option.filter_eq_some_iff] at hbase
    exact ⟨⟨p, hp⟩, ⟨t, ht, hbase.1⟩, hbase.2⟩
  · rintro ⟨⟨p, hp⟩, ⟨t, ht, hbase⟩, hknown⟩
    obtain ⟨u, hu, hdeclared⟩ := h.basesDeclared name p hp
    cases ht.symm.trans hu
    rw [Registry.declaredBase?] at hdeclared
    exact ⟨p, hp, hdeclared.trans (Option.filter_eq_some_iff.2 ⟨hbase, hknown⟩)⟩

end Builder

end FacetModel
