/-!
# Sorting by a key

A stable sort: what has the same key keeps its order. Text keys are compared by code point.
-/

namespace Declgen

/-- Puts `a` before the first item whose key is not less. -/
def insertBy {α : Type} (key : α → String) (a : α) : List α → List α
  | [] => [a]
  | b :: rest => if key b < key a then b :: insertBy key a rest else a :: b :: rest

def sortBy {α : Type} (key : α → String) : List α → List α
  | [] => []
  | a :: rest => insertBy key a (sortBy key rest)

theorem insertBy_perm {α : Type} (key : α → String) (a : α) (l : List α) :
    (insertBy key a l).Perm (a :: l) := by
  induction l with
  | nil => exact List.Perm.refl _
  | cons b rest ih =>
    simp only [insertBy]
    split
    · exact (ih.cons b).trans (List.Perm.swap a b rest)
    · exact List.Perm.refl _

/-- Sorting loses and adds nothing. -/
theorem sortBy_perm {α : Type} (key : α → String) (l : List α) : (sortBy key l).Perm l := by
  induction l with
  | nil => exact List.Perm.refl _
  | cons a rest ih => exact (insertBy_perm key a _).trans (ih.cons a)

theorem mem_sortBy {α : Type} {key : α → String} {a : α} {l : List α} : a ∈ sortBy key l ↔ a ∈ l :=
  (sortBy_perm key l).mem_iff

/-- A map that keeps the keys commutes with inserting. -/
theorem map_insertBy {α β : Type} {key : α → String} {key' : β → String} {f : α → β}
    (h : ∀ a, key' (f a) = key a) (a : α) (l : List α) :
    (insertBy key a l).map f = insertBy key' (f a) (l.map f) := by
  induction l with
  | nil => rfl
  | cons b rest ih =>
    simp only [insertBy, List.map_cons, h]
    split <;> simp [ih]

theorem map_sortBy {α β : Type} {key : α → String} {key' : β → String} {f : α → β}
    (h : ∀ a, key' (f a) = key a) (l : List α) : (sortBy key l).map f = sortBy key' (l.map f) := by
  induction l with
  | nil => rfl
  | cons a rest ih => simp [sortBy, map_insertBy h, ih]

end Declgen
