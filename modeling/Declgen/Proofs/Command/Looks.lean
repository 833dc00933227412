import Declgen.Proofs.Command.Disk

/-!
# Looking at the inputs

Up to the text that it generates a run only looks, and prints nothing. Two such runs on inputs that are the same end
alike, even where they check the roots of the model in different orders.
-/

namespace Declgen.Command

variable {σ κ α β γ δ ε : Type} {d : Disk σ κ} {s t : σ} {o : Options} {path : String}
  {load again : String → Except Model.LoadError Model} {F : Failure → Failure → Prop}

/-! ## Alike but for the way a model is loaded -/

/-- Values that go together, or failures that do. -/
inductive Alike (F : Failure → Failure → Prop) (R : α → β → Prop) : Except Failure α → Except Failure β → Prop where
  | ok {a : α} {b : β} : R a b → Alike F R (.ok a) (.ok b)
  | failed {first second : Failure} : F first second → Alike F R (.error first) (.error second)

theorem Alike.eq {first second : Except Failure α} (h : Alike Eq Eq first second) : first = second := by
  cases h with
  | ok h => rw [h]
  | failed h => rw [h]

/-- Models that give the same file, whatever else is asked for. -/
def Interchangeable (m n : Model) : Prop :=
  ∀ (rules : Rules) (reserve : List String) (config : Config),
    Request.generate ⟨m, rules.resolve, reserve, config⟩ = Request.generate ⟨n, rules.resolve, reserve, config⟩

def LoadAlike (F : Failure → Failure → Prop) (load again : String → Except Model.LoadError Model) : Prop :=
  ∀ path text, Alike F Interchangeable ((load text).mapError (.invalidModel path))
    ((again text).mapError (.invalidModel path))

/-- A failure that is not from comparing goes with itself. -/
def Includes (F : Failure → Failure → Prop) : Prop := ∀ failure, failure.exitCode = 1 → F failure failure

theorem alike_mapError (hF : Includes F) {R : α → α → Prop} {failure : ε → Failure} (hR : ∀ a, R a a)
    (h : ∀ fault, (failure fault).exitCode = 1) (result : Except ε α) :
    Alike F R (result.mapError failure) (result.mapError failure) := by
  cases result with
  | error fault => exact .failed (hF _ (h fault))
  | ok a => exact .ok (hR a)

theorem LoadAlike.refl (hF : Includes F) (load : String → Except Model.LoadError Model) : LoadAlike F load load :=
  fun _ text => alike_mapError hF (fun _ _ _ _ => rfl) (fun _ => rfl) (load text)

/-! ## Steps that only look -/

/-- The steps leave their states as they are and end alike. -/
def Looks (F : Failure → Failure → Prop) (R : α → β → Prop) (x : ExceptT Failure (StateM σ) α)
    (y : ExceptT Failure (StateM σ) β) (s t : σ) : Prop :=
  ∃ result other, x.run.run s = (result, s) ∧ y.run.run t = (other, t) ∧ Alike F R result other

theorem run_bind (x : ExceptT Failure (StateM σ) α) (f : α → ExceptT Failure (StateM σ) β) :
    (x >>= f).run.run s = match x.run.run s with
      | (.ok a, after) => (f a).run.run after
      | (.error failure, after) => (.error failure, after) := by
  change StateT.bind x.run (ExceptT.bindCont f) s = _
  change (match x.run.run s with | (result, after) => (ExceptT.bindCont f result).run after) = _
  rcases x.run.run s with ⟨_ | _, after⟩ <;> rfl

theorem run_attempt (step : StateM σ (Except ε α)) (failure : ε → Failure) :
    (attempt step failure).run.run s = ((step.run s).1.mapError failure, (step.run s).2) := rfl

namespace Looks

variable {R : α → β → Prop} {Q : γ → δ → Prop}

theorem pure {a : α} {b : β} (h : R a b) : Looks F R (pure a) (pure b) s t := ⟨.ok a, .ok b, rfl, rfl, .ok h⟩

theorem throw (hF : Includes F) {failure : Failure} (h : failure.exitCode = 1) :
    Looks F R (throw failure) (throw failure) s t :=
  ⟨.error failure, .error failure, rfl, rfl, .failed (hF failure h)⟩

theorem bind {x : ExceptT Failure (StateM σ) α} {y : ExceptT Failure (StateM σ) β}
    {f : α → ExceptT Failure (StateM σ) γ} {g : β → ExceptT Failure (StateM σ) δ} (h : Looks F R x y s t)
    (hnext : ∀ a b, R a b → Looks F Q (f a) (g b) s t) : Looks F Q (x >>= f) (y >>= g) s t := by
  obtain ⟨result, other, hs, ht, halike⟩ := h
  unfold Looks
  rw [run_bind, run_bind, hs, ht]
  cases halike with
  | ok hab => exact hnext _ _ hab
  | failed hfailures => exact ⟨_, _, rfl, rfl, .failed hfailures⟩

theorem of_step (hF : Includes F) {x y : StateM σ (Except ε α)} {failure : ε → Failure} (result : Except ε α)
    (hs : x.run s = (result, s)) (ht : y.run t = (result, t)) (h : ∀ fault, (failure fault).exitCode = 1) :
    Looks F Eq (attempt x failure) (attempt y failure) s t := by
  refine ⟨result.mapError failure, result.mapError failure, by rw [run_attempt, hs], by rw [run_attempt, ht], ?_⟩
  exact alike_mapError hF (fun _ => rfl) h result

end Looks

/-! ## Inputs -/

/-- The path has the same size and the same text in both states. -/
def Disk.SeenAlike (d : Disk σ κ) (s t : σ) (path : String) : Prop :=
  d.size s path = d.size t path ∧ d.read s path = d.read t path

def Options.inputs (o : Options) : List String := o.input :: o.overrides.toList

section Worlds

variable {out back : Outlet} {v w : World σ}

theorem Looks.readInput (hF : Includes F) (h : d.SeenAlike v.files w.files path) :
    Looks F Eq (readInput (d.access out load) path) (readInput (d.access back again) path) v w := by
  obtain ⟨hsize, hread⟩ := h
  have hsized : Looks F Eq (attempt ((d.access out load).size path) (.inaccessible path))
      (attempt ((d.access back again).size path) (.inaccessible path)) v w :=
    Looks.of_step hF (d.size v.files path) rfl (by rw [hsize]; rfl) fun _ => rfl
  have htext : Looks F Eq (attempt ((d.access out load).read path) (.unreadableInput path))
      (attempt ((d.access back again).read path) (.unreadableInput path)) v w :=
    Looks.of_step hF (d.read v.files path) rfl (by rw [hread]; rfl) fun _ => rfl
  refine hsized.bind ?_
  rintro size _ rfl
  split
  · exact (Looks.throw hF (R := Eq) rfl).bind fun _ _ _ => htext
  · exact htext

theorem Looks.readModel (hF : Includes F) (hload : LoadAlike F load again) (h : d.SeenAlike v.files w.files path) :
    Looks F Interchangeable (readModel (d.access out load) path) (readModel (d.access back again) path) v w := by
  refine (Looks.readInput hF h).bind ?_
  rintro text _ rfl
  exact ⟨_, _, rfl, rfl, hload path text⟩

theorem Looks.readRules (hF : Includes F) {path : Option String}
    (h : ∀ p ∈ path.toList, d.SeenAlike v.files w.files p) :
    Looks F Eq (readRules (d.access out load) path) (readRules (d.access back again) path) v w := by
  cases path with
  | none => exact Looks.pure rfl
  | some path =>
    refine (Looks.readInput hF (h path (by simp))).bind ?_
    rintro text _ rfl
    exact Looks.of_step hF _ rfl rfl fun _ => rfl

theorem Looks.source (hF : Includes F) (hload : LoadAlike F load again)
    (h : ∀ p ∈ o.inputs, d.SeenAlike v.files w.files p) :
    Looks F Eq (source (d.access out load) o) (source (d.access back again) o) v w := by
  refine (Looks.readModel hF hload (h _ (List.mem_cons_self ..))).bind ?_
  intro m n hmodels
  refine (Looks.readRules hF fun p hp => h p (List.mem_cons_of_mem _ hp)).bind ?_
  rintro rules _ rfl
  rw [hmodels]
  refine (Looks.of_step hF _ rfl rfl fun _ => rfl).bind ?_
  rintro generated _ rfl
  exact Looks.pure rfl

namespace Disk

/-- The text that is generated from the files, or why there is none. -/
def source (d : Disk σ κ) (load : String → Except Model.LoadError Model) (o : Options) (s : σ) :
    Except Failure String :=
  ((Command.source (d.access .sound load) o).run.run (.of s)).1

end Disk

end Worlds

end Declgen.Command
