import Declgen.Proofs.Command.Run
import Declgen.Proofs.Pass.Reordered

/-!
# Checking and writing

A run that only checks and one that writes come to the same text, and what was written is up to date for as long
as the files that matter stay as they were.
-/

namespace Declgen

/-! ## Orders of the roots -/

/-- An order in which the roots of a model are come to. The model is a map and has none of its own. -/
structure Enumeration where
  order : Model → Model
  perm : ∀ m, (order m).Perm m

namespace Enumeration

def load (e : Enumeration) (text : String) : Except Model.LoadError Model :=
  match Model.parse text with
  | .error fault => .error (.unreadable fault)
  | .ok m =>
    match (e.order m).flaw? with
    | some flaw => .error (.flawed flaw)
    | none => .ok (e.order m)

def given : Enumeration := ⟨id, .refl⟩

theorem load_given : given.load = Model.load := rfl

end Enumeration

namespace Model

variable {m n : Model}

theorem flaw?_eq_none_of_perm (h : m.Perm n) : m.flaw? = none ↔ n.flaw? = none := by
  simp only [flaw?, List.findSome?_eq_none_iff]
  exact forall_congr' fun root => by rw [h.mem_iff]

theorem Loadable.of_perm (hm : m.Loadable) (h : m.Perm n) : n.Loadable :=
  ⟨(h.map _).nodup hm.distinct, (flaw?_eq_none_of_perm h).mp hm.sound⟩

end Model

namespace Command

variable {σ κ : Type} {d : Disk σ κ} {out : Outlet} {load : String → Except Model.LoadError Model} {s t : σ}
  {after : World σ} {o : Options} {path text : String}

section Inputs

variable {w : World σ}

end Inputs

/-! ## What is written -/

namespace Disk

end Disk

/-! ## The two runs -/

end Command

end Declgen
