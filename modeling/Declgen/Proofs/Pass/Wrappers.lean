import Declgen.Proofs.Pass.Again
import Declgen.Proofs.Pass.Refines

/-!
# Options, boxes and containers

What may be absent needs a type with an empty value: an option, or a list or a map, which have one of their own. And
what holds a struct by value is as large as the struct, so a cycle of structs needs something in between.
-/

namespace Declgen

variable {hook : Hook}

/-! ## Types with an empty value -/

def TypeExpr.canBeEmpty : TypeExpr → Bool
  | .option _ | .vec _ | .map _ _ => true
  | _ => false

@[simp] theorem TypeExpr.canBeEmpty_optional (t : TypeExpr) : t.optional.canBeEmpty = true := by
  cases t <;> rfl

@[simp] theorem ExternalType.canBeEmpty_expr (type : ExternalType) : type.expr.canBeEmpty = false := by
  unfold ExternalType.expr
  split <;> rfl

section Denotes

variable {names : Allocator} {node : Node} {t : TypeExpr}

theorem Denotes.eq_expr (h : Denotes hook names node t) {type : ExternalType} (hhook : hook node = some type) :
    t = type.expr := by
  cases h with
  | external hanswer => rw [Option.some.inj (hanswer.symm.trans hhook)]
  | _ => simp_all

theorem Denotes.canBeEmpty_of_container (h : Denotes hook names node t) (hnode : node.isContainer = true)
    (hhook : hook node = none) : t.canBeEmpty = true := by
  cases h with
  | external hanswer => simp [hanswer] at hhook
  | array | map => rfl
  | nullable | date => simp [Node.isContainer] at hnode
  | plain _ hplain => cases node <;> simp_all [Node.isContainer, Node.plain?]
  | declared _ hd => cases node <;> simp_all [Node.isContainer, Node.declaration?]

end Denotes

theorem Node.visit_nullable {inner : Node} (h : hook (.nullable inner) = none) (place : Context) (p : Pass) :
    (Node.nullable inner).visit hook place p =
      (inner.visit hook place p).map fun out => (if inner.isContainer then out.1 else out.1.optional, out.2) := by
  rw [Node.visit, h]
  cases inner.visit hook place p <;> rfl

theorem Node.visit_expr {node : Node} {place : Context} {p q : Pass} {t : TypeExpr} {type : ExternalType}
    (hhook : hook node = some type) (h : node.visit hook place p = some (t, q)) : p.external type = (t, q) := by
  rw [Node.visit_of_external hhook] at h
  exact Option.some.inj h

/-- A nullable node has a type if the node inside has one. The type has an empty value, unless the node inside is an
array or a map and the hook answers it: then the answer stands alone, and nothing is left of the wrapper. -/
theorem nullable_kept_iff (hook : Hook) (inner : Node) (place : Context) (p : Pass)
    (h : hook (.nullable inner) = none) :
    ((Node.nullable inner).visit hook place p = none ↔ inner.visit hook place p = none) ∧
    ∀ t q, (Node.nullable inner).visit hook place p = some (t, q) →
      (t.canBeEmpty = true ↔ (inner.isContainer = true → hook inner = none)) ∧
      (t.canBeEmpty = false → ∃ type, hook inner = some type ∧ p.external type = (t, q)) := by
  rw [Node.visit_nullable h]
  refine ⟨Option.map_eq_none_iff, ?_⟩
  intro t q hvisit
  obtain ⟨⟨s, r⟩, hinner, hout⟩ := Option.map_eq_some_iff.mp hvisit
  obtain ⟨rfl, rfl⟩ := Prod.mk.inj hout
  obtain ⟨hdenotes, -⟩ := List.forall₂_cons.mp (Node.visits_of_visit hinner).denotes
  by_cases hcontainer : inner.isContainer = true
  · simp only [hcontainer, if_true]
    cases hhook : hook inner with
    | none => simp [hdenotes.canBeEmpty_of_container hcontainer hhook]
    | some type =>
      refine ⟨?_, fun _ => ⟨type, rfl, Node.visit_expr hhook hinner⟩⟩
      simp [hdenotes.eq_expr hhook]
  · simp [hcontainer]

/-- Lists are named `Bag`. Here a list is inside of two wrappers, and the outer one wraps no container. -/
def bagRules : Rules := ⟨[], [("array", ⟨"", "Bag"⟩)]⟩

theorem nullable_kept_twice : ∃ q, (Node.nullable (.nullable (.array .any))).visit bagRules.resolve
    (.root "p.A" .value) (.start (.new [] 1)) = some (.option (.external none "Bag"), q) ∧
    (TypeExpr.option (.external none "Bag")).canBeEmpty = true := by
  have hhook : bagRules.resolve (.nullable (.nullable (.array .any))) = none := by decide +kernel
  have hvisit : (Node.nullable (.nullable (.array .any))).visit bagRules.resolve (.root "p.A" .value)
      (.start (.new [] 1)) = some (.option (.external none "Bag"), .start (.new [] 1)) := rfl
  obtain ⟨-, hkept⟩ := nullable_kept_iff bagRules.resolve (.nullable (.array .any)) (.root "p.A" .value)
    (.start (.new [] 1)) hhook
  exact ⟨_, hvisit, (hkept _ _ hvisit).1.mpr (by simp [Node.isContainer])⟩

/-- With a single wrapper the answer is all that there is, and it may not be absent. -/
theorem nullable_dropped : ¬∀ (hook : Hook) (inner : Node) (place : Context) (p q : Pass) (t : TypeExpr),
    hook (.nullable inner) = none → (Node.nullable inner).visit hook place p = some (t, q) → t.canBeEmpty = true := by
  intro h
  have hhook : bagRules.resolve (.nullable (.array .any)) = none := by decide +kernel
  have hvisit : (Node.nullable (.array .any)).visit bagRules.resolve (.root "p.A" .value) (.start (.new [] 1)) =
      some (.external none "Bag", .start (.new [] 1)) := rfl
  have hempty := h _ _ _ _ _ _ hhook hvisit
  simp [TypeExpr.canBeEmpty] at hempty

/-! ## Structs by value -/

namespace TypeExpr

/-- The types right below a type. -/
def children : TypeExpr → List TypeExpr
  | .vec inner | .option inner | .boxed inner => [inner]
  | .map key value => [key, value]
  | _ => []

/-- What is below has a place of its own, so its size adds nothing. -/
def isIndirect : TypeExpr → Bool
  | .vec _ | .map _ _ | .boxed _ => true
  | _ => false

/-- Wherever a struct is inside of `t`, it is right below a box, a list or a map. -/
def Sheltered (t : TypeExpr) : Prop :=
  ∀ part ∈ t.parts, ∀ name, .struct name ∈ part.children → part.isIndirect = true

/-- The structs that a value of the type holds in itself. -/
def byValue : TypeExpr → List String
  | .struct name => [name]
  | .option inner => inner.byValue
  | _ => []

theorem sheltered_of_leaf {t : TypeExpr} (hparts : t.parts = [t]) (hchildren : t.children = []) : t.Sheltered := by
  unfold Sheltered
  rw [hparts]
  simp [hchildren]

theorem sheltered_expr (type : ExternalType) : type.expr.Sheltered := by
  unfold ExternalType.expr
  split <;> exact sheltered_of_leaf rfl rfl

theorem sheltered_mention (d : Declaration) (name : String) : (d.mention name).Sheltered := by
  cases d <;> exact sheltered_of_leaf rfl rfl

theorem sheltered_plain {node : Node} {t : TypeExpr} (h : node.plain? = some t) : t.Sheltered := by
  rcases Node.eq_of_plain? h with ⟨primitive, rfl⟩ | rfl <;> exact sheltered_of_leaf rfl rfl

theorem Sheltered.vec {inner : TypeExpr} (h : inner.Sheltered) : (vec inner).Sheltered :=
  List.forall_mem_cons.mpr ⟨fun _ _ => rfl, h⟩

theorem Sheltered.map {key value : TypeExpr} (hkey : key.Sheltered) (hvalue : value.Sheltered) :
    (map key value).Sheltered :=
  List.forall_mem_cons.mpr ⟨fun _ _ => rfl, List.forall_mem_append.mpr ⟨hkey, hvalue⟩⟩

theorem Sheltered.optional {inner : TypeExpr} (h : inner.Sheltered) : inner.optional.Sheltered := by
  cases inner with
  | struct name =>
    refine List.forall_mem_cons.mpr ⟨?_, List.forall_mem_cons.mpr ⟨fun _ _ => rfl, h⟩⟩
    intro other hmem
    simp [children] at hmem
  | _ =>
    refine List.forall_mem_cons.mpr ⟨?_, h⟩
    intro other hmem
    simp [children] at hmem

theorem eq_of_mem_byValue {t : TypeExpr} (ht : t.Sheltered) {name : String} (h : name ∈ t.byValue) :
    t = .struct name := by
  induction t with
  | struct other => rw [List.mem_singleton.mp h]
  | option inner ih =>
    obtain ⟨houter, hinner⟩ := List.forall_mem_cons.mp ht
    -- A struct right below an option would have no shelter.
    obtain rfl := ih hinner h
    simp [children, isIndirect] at houter
  | _ => simp [byValue] at h

end TypeExpr

section Denotes

variable {names : Allocator} {node : Node} {t : TypeExpr}

theorem Denotes.sheltered (h : Denotes hook names node t) : t.Sheltered := by
  induction h with
  | external _ => exact TypeExpr.sheltered_expr _
  | array _ _ ih => exact ih.vec
  | map _ _ _ ihk ihv => exact ihk.map ihv
  | nullable _ _ ih =>
    split
    · exact ih
    · exact ih.optional
  | plain _ hplain => exact TypeExpr.sheltered_plain hplain
  | date => exact TypeExpr.sheltered_of_leaf rfl rfl
  | declared => exact TypeExpr.sheltered_mention _ _

theorem ExternalType.expr_ne_struct (type : ExternalType) (name : String) : type.expr ≠ .struct name := by
  unfold expr
  split <;> simp

theorem Denotes.ne_struct_of_container (h : Denotes hook names node t) (hnode : node.isContainer = true)
    (name : String) : t ≠ .struct name := by
  cases hhook : hook node with
  | none =>
    rintro rfl
    simpa [TypeExpr.canBeEmpty] using h.canBeEmpty_of_container hnode hhook
  | some type =>
    rw [h.eq_expr hhook]
    exact type.expr_ne_struct name

theorem Denotes.struct_iff (h : Denotes hook names node t) :
    (∃ name, t = .struct name) ↔ node.kind = .object ∧ hook node = none := by
  cases h with
  | @external node type hhook => simp [hhook, type.expr_ne_struct]
  | array hhook _ | map hhook _ _ | date hhook => simp [Node.kind]
  | @nullable inner s hhook hinner =>
    refine iff_of_false ?_ (by simp [Node.kind])
    rintro ⟨name, hname⟩
    split at hname
    · exact hinner.ne_struct_of_container ‹_› name hname
    · cases s <;> simp [TypeExpr.optional] at hname
  | plain _ hplain =>
    have hkind : node.kind ≠ .object := by cases node <;> simp_all [Node.plain?, Node.kind]
    rcases Node.eq_of_plain? hplain with ⟨primitive, rfl⟩ | rfl <;> simp [hkind]
  | @declared _ d name hhook hd =>
    cases node with
    | object qualified entries =>
      obtain rfl := Option.some.inj hd
      simp [Declaration.mention, Node.kind, hhook]
    | string qualified members | number qualified _ members =>
      cases members with
      | nil => simp [Node.declaration?] at hd
      | cons m ms =>
        obtain rfl := Option.some.inj hd
        simp [Declaration.mention, Node.kind]
    | _ => simp [Node.declaration?] at hd

end Denotes

/-! ## Cycles -/

namespace Artifacts

/-- Each struct holds the next one by value, in the field that is given with it, from `first` on up to `last`. -/
inductive Chain (a : Artifacts) : String → List (ObjectArtifact × FieldArtifact) → String → Prop where
  | nil {name : String} : Chain a name [] name
  | cons {o : ObjectArtifact} {f : FieldArtifact} {held last : String}
      {links : List (ObjectArtifact × FieldArtifact)} :
      o ∈ a.objects → f ∈ o.fields → held ∈ f.type.byValue → Chain a held links last →
      Chain a o.name ((o, f) :: links) last

/-- A struct that holds itself by value, in one step or in several. -/
def Cycle (a : Artifacts) (links : List (ObjectArtifact × FieldArtifact)) : Prop :=
  links ≠ [] ∧ ∃ name, a.Chain name links name

theorem Chain.link {a : Artifacts} {first last : String} {links : List (ObjectArtifact × FieldArtifact)}
    (h : a.Chain first links last) : ∀ link ∈ links,
      link.1 ∈ a.objects ∧ link.2 ∈ link.1.fields ∧ ∃ held, held ∈ link.2.type.byValue := by
  induction h with
  | nil => simp
  | cons ho hf hheld _ ih => exact List.forall_mem_cons.mpr ⟨⟨ho, hf, _, hheld⟩, ih⟩

theorem mem_fieldTypes {a : Artifacts} {o : ObjectArtifact} (ho : o ∈ a.objects) {f : FieldArtifact}
    (hf : f ∈ o.fields) : f.type ∈ a.fieldTypes :=
  List.mem_flatMap.mpr ⟨o, ho, List.mem_map_of_mem hf⟩

end Artifacts

/-! ## A whole pass -/

/-- The field `f` of the struct `o` comes from the entry `e` of an object of the model. -/
def MadeOf (made : List (Finding × Artifact)) (e : Entry Node) (o : ObjectArtifact) (f : FieldArtifact) : Prop :=
  ∃ claim? qualified entries, (⟨claim?, .object qualified entries⟩, .struct o) ∈ made ∧
    (e, f) ∈ (sortBy (·.name) entries).zip o.fields

/-- What a pass has made of what, and how its structs hold each other. -/
structure Pass.Shelters (p : Pass) (hook : Hook) (m : Model) (made : List (Finding × Artifact)) : Prop where
  findings : made.map (·.1) = m.survey hook
  artifacts : p.found.sorted.all.Perm (made.map (·.2))
  gives : ∀ x ∈ made, x.1.Gives hook p.names x.2
  /-- Every field is made of an entry. -/
  fields : ∀ o ∈ p.found.sorted.objects, ∀ f ∈ o.fields, ∃ e, MadeOf made e o f
  /-- A field is a struct itself just where the model has an object there. -/
  direct : ∀ e o f, MadeOf made e o f →
    ((∃ name, f.type = .struct name) ↔ e.type.kind = .object ∧ hook e.type = none)
  /-- Everywhere else a struct is right below a box, a list or a map. -/
  sheltered : ∀ t ∈ p.found.sorted.fieldTypes, t.Sheltered
  /-- So a cycle is one of objects that are fields of each other in the model. -/
  cycles : ∀ links, p.found.sorted.Cycle links → ∀ link ∈ links, ∀ e, MadeOf made e link.1 link.2 →
    e.type.kind = .object ∧ hook e.type = none

section Run

variable {m : Model} {prereserved : List String} {tries : Nat} {p : Pass} {made : List (Finding × Artifact)}

theorem MadeOf.gives (hgives : ∀ x ∈ made, x.1.Gives hook p.names x.2) {e : Entry Node} {o : ObjectArtifact}
    {f : FieldArtifact} (h : MadeOf made e o f) : e.Gives hook p.names f := by
  obtain ⟨claim?, qualified, entries, hmem, hzip⟩ := h
  exact (List.forall₂_iff_zip.mp (hgives _ hmem).declared).2 hzip

theorem exists_madeOf (hartifacts : p.found.sorted.all.Perm (made.map (·.2)))
    (hgives : ∀ x ∈ made, x.1.Gives hook p.names x.2) {o : ObjectArtifact} (ho : o ∈ p.found.sorted.objects)
    {f : FieldArtifact} (hf : f ∈ o.fields) : ∃ e, MadeOf made e o f := by
  have hstruct : .struct o ∈ made.map (·.2) :=
    hartifacts.subset (List.mem_append_left _ (List.mem_map_of_mem ho))
  obtain ⟨⟨⟨claim?, d⟩, a⟩, hmem, rfl⟩ := List.mem_map.mp hstruct
  have hdeclared := (hgives _ hmem).declared
  cases d with
  | constants => exact hdeclared.elim
  | object qualified entries =>
    obtain ⟨hlength, -⟩ := List.forall₂_iff_zip.mp hdeclared
    obtain ⟨i, hi, rfl⟩ := List.getElem_of_mem hf
    have hentry : i < (sortBy (·.name) entries).length := hlength ▸ hi
    refine ⟨(sortBy (·.name) entries)[i], claim?, qualified, entries, hmem, ?_⟩
    have hzip : i < ((sortBy (·.name) entries).zip o.fields).length := by
      rw [List.length_zip]
      omega
    exact List.mem_iff_getElem.mpr ⟨i, hzip, List.getElem_zip⟩

/-- Structs are held by value only where the model says so, in whatever order a pass comes to them. -/
theorem run_shelters (m : Model) (hook : Hook) (prereserved : List String) (tries : Nat) (p : Pass)
    (h : Pass.run m hook prereserved tries = some p) : ∃ made, p.Shelters hook m made := by
  obtain ⟨-, artifacts, hpairs, hperm⟩ := run_gives h
  obtain ⟨hlength, hzip⟩ := List.forall₂_iff_zip.mp hpairs
  have hartifacts : p.found.sorted.all.Perm (((m.survey hook).zip artifacts).map (·.2)) := by
    rw [List.map_snd_zip (Nat.le_of_eq hlength.symm)]
    exact hperm
  have hgives : ∀ x ∈ (m.survey hook).zip artifacts, x.1.Gives hook p.names x.2 := fun x hx => hzip hx
  have hfields : ∀ o ∈ p.found.sorted.objects, ∀ f ∈ o.fields, ∃ e, MadeOf ((m.survey hook).zip artifacts) e o f :=
    fun o ho f hf => exists_madeOf hartifacts hgives ho hf
  have hsheltered : ∀ t ∈ p.found.sorted.fieldTypes, t.Sheltered := by
    intro t ht
    obtain ⟨o, ho, hmem⟩ := List.mem_flatMap.mp ht
    obtain ⟨f, hf, rfl⟩ := List.mem_map.mp hmem
    obtain ⟨e, he⟩ := hfields o ho f hf
    exact (he.gives hgives).type.sheltered
  refine ⟨(m.survey hook).zip artifacts, List.map_fst_zip (Nat.le_of_eq hlength), hartifacts, hgives, hfields,
    fun e o f he => (he.gives hgives).type.struct_iff, hsheltered, ?_⟩
  rintro links ⟨-, name, hchain⟩ link hlink e he
  obtain ⟨ho, hf, held, hheld⟩ := hchain.link link hlink
  -- What is held by value in a sheltered field is the field itself.
  have hself := TypeExpr.eq_of_mem_byValue (hsheltered _ (Artifacts.mem_fieldTypes ho hf)) hheld
  exact (he.gives hgives).type.struct_iff.mp ⟨held, hself⟩

end Run

/-- Two structs that hold each other by value, with mentions of each other that are boxed and listed. -/
def ringModel : Model := [("p.A", .object "p.A" [
  ⟨"b", .object "p.B" [
    ⟨"a", .object "p.A" [], ""⟩, ⟨"all", .nullable (.array (.object "p.A" [])), ""⟩,
    ⟨"next", .nullable (.object "p.B" []), ""⟩], ""⟩])]

theorem run_shelters_ring : ∃ p made links, Pass.run ringModel .none [] 1 = some p ∧ p.Shelters .none ringModel made ∧
    p.found.sorted.Cycle links ∧ links.map (fun link => (link.1.name, link.2.name)) = [("A", "b"), ("B", "a")] := by
  have h : (Pass.run ringModel .none [] 1).map (·.found.sorted.objects) = some [
      ⟨"A", [⟨"b", .struct "B", ""⟩]⟩,
      ⟨"B", [⟨"a", .struct "A", ""⟩, ⟨"all", .vec (.struct "A"), ""⟩,
        ⟨"next", .option (.boxed (.struct "B")), ""⟩]⟩] := by
    decide +kernel
  obtain ⟨p, hp, hobjects⟩ := Option.map_eq_some_iff.mp h
  obtain ⟨made, hmade⟩ := run_shelters ringModel .none [] 1 p hp
  let a : ObjectArtifact := ⟨"A", [⟨"b", .struct "B", ""⟩]⟩
  let b : ObjectArtifact := ⟨"B", [⟨"a", .struct "A", ""⟩, ⟨"all", .vec (.struct "A"), ""⟩,
    ⟨"next", .option (.boxed (.struct "B")), ""⟩]⟩
  have hback : p.found.sorted.Chain "B" [(b, ⟨"a", .struct "A", ""⟩)] "A" :=
    .cons (o := b) (by simp [hobjects, b]) (by simp [b]) (by simp [TypeExpr.byValue]) .nil
  have hround : p.found.sorted.Chain "A" [(a, ⟨"b", .struct "B", ""⟩), (b, ⟨"a", .struct "A", ""⟩)] "A" :=
    .cons (o := a) (by simp [hobjects, a]) (by simp [a]) (by simp [TypeExpr.byValue]) hback
  exact ⟨p, made, _, hp, hmade, ⟨by simp, "A", hround⟩, rfl⟩

end Declgen
