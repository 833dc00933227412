import Declgen.Proofs.Pass.Visits
import Mathlib.Data.List.Forall2

/-!
# The type of a node

`Denotes` gives the types that a node can have. Only the name of an anonymous declaration is left open: the
shape of the node, the answers of the hook and the names in memory settle all else.
-/

namespace Declgen

/-- The type that an answer of the hook stands for. -/
def ExternalType.expr (type : ExternalType) : TypeExpr :=
  if type.path.isEmpty then .external none type.name else .external (some (importAlias type.path)) type.name

theorem Pass.external_fst (p : Pass) (type : ExternalType) : (p.external type).1 = type.expr := by
  unfold external ExternalType.expr
  split <;> rfl

/-- `t` is a type of the node, where `names` are in memory. -/
inductive Denotes (hook : Hook) (names : Allocator) : Node → TypeExpr → Prop where
  | external {node type} : hook node = some type → Denotes hook names node type.expr
  | array {inner t} : hook (.array inner) = none → Denotes hook names inner t →
      Denotes hook names (.array inner) (.vec t)
  | map {key value k v} : hook (.map key value) = none → Denotes hook names key k →
      Denotes hook names value v → Denotes hook names (.map key value) (.map k v)
  | nullable {inner t} : hook (.nullable inner) = none → Denotes hook names inner t →
      Denotes hook names (.nullable inner) (if inner.isContainer then t else .optional t)
  | plain {node t} : hook node = none → node.plain? = some t → Denotes hook names node t
  | date : hook .date = none → Denotes hook names .date .dateTime
  | declared {node d name} : hook node = none → node.declaration? = some d →
      (d.qualified ≠ "" → names.lookup? d.qualified = some name) → Denotes hook names node (d.mention name)

theorem Denotes.mono {hook : Hook} {a b : Allocator} (h : a.Extends b) {node : Node} {t : TypeExpr}
    (hnode : Denotes hook a node t) : Denotes hook b node t := by
  induction hnode with
  | external hhook => exact .external hhook
  | array hhook _ ih => exact .array hhook ih
  | map hhook _ _ ihk ihv => exact .map hhook ihk ihv
  | nullable hhook _ ih => exact .nullable hhook ih
  | plain hhook hplain => exact .plain hhook hplain
  | date hhook => exact .date hhook
  | declared hhook hdeclares hname => exact .declared hhook hdeclares fun hne => h.lookup (hname hne)

theorem Allocator.lookup?_of_allocate {a b : Allocator} {qualified name : String} {place : Context}
    (h : a.allocate qualified place = some (name, b)) (hne : qualified ≠ "") :
    b.lookup? qualified = some name := by
  have hanswers := allocate_answers h
  have hsubject : a.subject? qualified place = some qualified := by simp [subject?, hne]
  rw [hsubject] at hanswers
  exact hanswers.lookup?

theorem Visits.denotes {hook : Hook} {sites : List Site} {p q : Pass} {types : List TypeExpr}
    (h : Visits hook sites p types q) : List.Forall₂ (fun s t => Denotes hook q.names s.node t) sites types := by
  induction h with
  | nil => exact .nil
  | external hhook _ ih =>
    rw [Pass.external_fst]
    exact .cons (.external hhook) ih
  | array hhook _ ih =>
    obtain ⟨hinner, hrest⟩ := List.forall₂_cons.mp ih
    exact .cons (.array hhook hinner) hrest
  | map hhook _ ih =>
    obtain ⟨hkey, hvalueRest⟩ := List.forall₂_cons.mp ih
    obtain ⟨hvalue, hrest⟩ := List.forall₂_cons.mp hvalueRest
    exact .cons (.map hhook hkey hvalue) hrest
  | nullable hhook _ ih =>
    obtain ⟨hinner, hrest⟩ := List.forall₂_cons.mp ih
    exact .cons (.nullable hhook hinner) hrest
  | plain hhook hplain _ ih => exact .cons (.plain hhook hplain) ih
  | date hhook _ ih => exact .cons (.date hhook) ih
  | known hhook hdeclares hmemo hrest ih =>
    have hname := hrest.grows.names.lookup (Pass.memoized?_eq_some_iff.mp hmemo).2
    exact .cons (.declared hhook hdeclares fun _ => hname) ih
  | @object _ qualified entries _ _ _ _ _ _ _ _ hhook _ hname hfields hrest _ ih =>
    have hgrows := hfields.grows.names.trans hrest.grows.names
    exact .cons (@Denotes.declared _ _ _ (.object qualified entries) _ hhook rfl
      fun hne => hgrows.lookup (Allocator.lookup?_of_allocate hname hne)) ih
  | @constants _ _ qualified base members _ _ _ _ _ _ hhook hdeclares _ hname hrest ih =>
    exact .cons (@Denotes.declared _ _ _ (.constants qualified base members) _ hhook hdeclares
      fun hne => hrest.grows.names.lookup (Allocator.lookup?_of_allocate hname hne)) ih

end Declgen
