import Declgen.Proofs.Pass.Visits

/-!
# A finished pass is complete

While a pass is under way, some structs have a name and are not generated yet: those whose fields are being
visited. `UnderWay` counts them, and at the end there are none. So every name that was handed out is the name
of one artifact, and what a field mentions is there.
-/

namespace Declgen

/-! ## What a type mentions -/

/-- A type, and all types inside it. -/
def TypeExpr.parts : TypeExpr → List TypeExpr
  | .vec inner => .vec inner :: inner.parts
  | .map key value => .map key value :: (key.parts ++ value.parts)
  | .option inner => .option inner :: inner.parts
  | .boxed inner => .boxed inner :: inner.parts
  | t => [t]

/-! ## Types with all they need -/

namespace Pass

/-- `p` has all that `t` mentions: the names are handed out, the aliases imported, and dates are in use. -/
def Backs (p : Pass) : TypeExpr → Prop
  | .struct name | .typeAlias name => name ∈ p.names.reserved
  | .external (some importAlias) _ => importAlias ∈ p.found.imports.map (·.importAlias)
  | .vec inner | .option inner | .boxed inner => p.Backs inner
  | .map key value => p.Backs key ∧ p.Backs value
  | .dateTime => p.found.usesDateTime = true
  | .external none _ | .primitive _ | .any => True

theorem Backs.mono {p q : Pass} (h : p.Extends q) {t : TypeExpr} (ht : p.Backs t) : q.Backs t := by
  induction t with
  | struct name | typeAlias name => exact h.names.reserved ht
  | external importAlias name =>
    cases importAlias with
    | none => trivial
    | some importAlias => exact h.found.imports ht
  | vec inner ih | option inner ih | boxed inner ih => exact ih ht
  | map key value ihk ihv => exact ⟨ihk ht.1, ihv ht.2⟩
  | dateTime => exact h.found.dates ht
  | primitive _ | any => trivial

theorem Backs.part {p : Pass} {t s : TypeExpr} (ht : p.Backs t) (hs : s ∈ t.parts) : p.Backs s := by
  induction t with
  | vec inner ih | option inner ih | boxed inner ih =>
    rcases List.mem_cons.mp hs with rfl | hs
    · exact ht
    · exact ih ht hs
  | map key value ihk ihv =>
    rcases List.mem_cons.mp hs with rfl | hs
    · exact ht
    · rcases List.mem_append.mp hs with hs | hs
      · exact ihk ht.1 hs
      · exact ihv ht.2 hs
  | _ =>
    obtain rfl := List.mem_singleton.mp hs
    exact ht

theorem Backs.optional {p : Pass} {t : TypeExpr} (ht : p.Backs t) : p.Backs t.optional := by
  cases t <;> exact ht

theorem Backs.mention {p : Pass} {name : String} (h : name ∈ p.names.reserved) (d : Declaration) :
    p.Backs (d.mention name) := by
  cases d <;> exact h

theorem Backs.plain {p : Pass} {node : Node} {t : TypeExpr} (h : node.plain? = some t) : p.Backs t := by
  rcases Node.eq_of_plain? h with ⟨primitive, rfl⟩ | rfl <;> trivial

/-! ## While the pass is under way -/

/-- The names in `pending` are handed out and the structs of these names are still to come. -/
structure UnderWay (p : Pass) (pending : List String) : Prop where
  sound : p.names.Sound
  balance : p.names.reserved.Perm (p.found.names ++ pending)
  imports : (p.found.imports.map (·.importAlias)).Nodup
  aliased : ∀ i ∈ p.found.imports, i.importAlias = importAlias i.path
  backed : ∀ t ∈ p.found.fieldTypes, p.Backs t

namespace UnderWay

variable {p : Pass} {pending : List String}

theorem start (prereserved : List String) (tries : Nat) :
    (Pass.start (.new prereserved tries)).UnderWay [] where
  sound := .new prereserved tries
  balance := List.Perm.refl _
  imports := List.nodup_nil
  aliased := by simp [Pass.start, Artifacts.empty]
  backed := by simp [Pass.start, Artifacts.empty, Artifacts.fieldTypes]

theorem external (h : p.UnderWay pending) (type : ExternalType) :
    (p.external type).2.UnderWay pending ∧ (p.external type).2.Backs (p.external type).1 := by
  unfold Pass.external
  split
  · exact ⟨h, trivial⟩
  · have hgrows := Pass.extends_found (p := p)
      (Artifacts.extends_addImport p.found (importAlias type.path) type.path)
    refine ⟨⟨h.sound, ?_, Artifacts.nodup_addImport h.imports _ _, ?_, ?_⟩,
      Artifacts.mem_aliases_addImport _ _⟩
    · simpa [Artifacts.names] using h.balance
    · intro i hi
      rcases Artifacts.mem_imports_of_addImport hi with hi | rfl
      · exact h.aliased i hi
      · rfl
    · intro t ht
      exact (h.backed t (by simpa [Artifacts.fieldTypes] using ht)).mono hgrows

theorem requireDateTime (h : p.UnderWay pending) :
    { p with found := p.found.requireDateTime }.UnderWay pending :=
  ⟨h.sound, h.balance, h.imports, h.aliased, fun t ht =>
    (h.backed t ht).mono (Pass.extends_found (Artifacts.extends_requireDateTime _))⟩

theorem allocate (h : p.UnderWay pending) {qualified name : String} {place : Context} {names : Allocator}
    (hmemo : p.memoized? qualified = none) (hname : p.names.allocate qualified place = some (name, names)) :
    { p with names }.UnderWay (name :: pending) := by
  have hanswers := Allocator.allocate_answers hname
  refine ⟨hanswers.sound h.sound, ?_, h.imports, h.aliased,
    fun t ht => (h.backed t ht).mono (Pass.extends_names hanswers.grows)⟩
  obtain ⟨rfl, -, -⟩ := handOut_of_memoized hmemo hname
  exact (h.balance.cons name).trans List.perm_middle.symm

theorem addObject {name : String} (h : p.UnderWay (name :: pending)) {fields : List FieldArtifact}
    (hfields : ∀ t ∈ fields.map (·.type), p.Backs t) :
    { p with found := p.found.addObject ⟨name, fields⟩ }.UnderWay pending := by
  have hgrows := Pass.extends_found (p := p) (Artifacts.extends_addObject p.found ⟨name, fields⟩)
  have hnames := Artifacts.names_addObject_perm p.found ⟨name, fields⟩
  refine ⟨h.sound, ?_, h.imports, h.aliased, ?_⟩
  · exact (h.balance.trans List.perm_middle).trans (hnames.symm.append_right pending)
  · intro t ht
    rcases Artifacts.mem_fieldTypes_addObject.mp ht with ht | ht
    · exact (h.backed t ht).mono hgrows
    · exact (hfields t ht).mono hgrows

theorem addConstant {c : ConstantArtifact} (h : p.UnderWay (c.name :: pending)) :
    { p with found := p.found.addConstant c }.UnderWay pending := by
  refine ⟨h.sound, ?_, h.imports, h.aliased, fun t ht =>
    (h.backed t ht).mono (Pass.extends_found (Artifacts.extends_addConstant _ _))⟩
  have hnames := Artifacts.names_addConstant_perm p.found c
  exact (h.balance.trans List.perm_middle).trans (hnames.symm.append_right pending)

end UnderWay

end Pass

theorem mem_types_of_mem_fieldArtifacts {entries : List (Entry Node)} {types : List TypeExpr} {t : TypeExpr}
    (h : t ∈ (fieldArtifacts entries types).map (·.type)) : t ∈ types := by
  induction entries generalizing types with
  | nil => simp [fieldArtifacts] at h
  | cons e rest ih =>
    cases types with
    | nil => simp [fieldArtifacts] at h
    | cons s types =>
      simp only [fieldArtifacts, List.zipWith_cons_cons, List.map_cons, List.mem_cons] at h
      rcases h with rfl | h
      · exact List.mem_cons_self
      · exact List.mem_cons_of_mem _ (ih h)

/-- Visits leave the structs that are to come as they are, and give types with all they need. -/
theorem Visits.underWay {hook : Hook} {sites : List Site} {p q : Pass} {types : List TypeExpr}
    (h : Visits hook sites p types q) {pending : List String} (hp : p.UnderWay pending) :
    q.UnderWay pending ∧ ∀ t ∈ types, q.Backs t := by
  induction h generalizing pending with
  | nil => exact ⟨hp, by simp⟩
  | @external _ _ _ type _ _ _ _ hrest ih =>
    obtain ⟨hp', ht⟩ := hp.external type
    obtain ⟨hq, hts⟩ := ih hp'
    exact ⟨hq, List.forall_mem_cons.mpr ⟨ht.mono hrest.grows, hts⟩⟩
  | array _ _ ih =>
    obtain ⟨hq, hts⟩ := ih hp
    obtain ⟨ht, hts⟩ := List.forall_mem_cons.mp hts
    exact ⟨hq, List.forall_mem_cons.mpr ⟨ht, hts⟩⟩
  | map _ _ ih =>
    obtain ⟨hq, hts⟩ := ih hp
    obtain ⟨hk, hv, hts⟩ := by simpa only [List.forall_mem_cons] using hts
    exact ⟨hq, List.forall_mem_cons.mpr ⟨⟨hk, hv⟩, hts⟩⟩
  | nullable _ _ ih =>
    obtain ⟨hq, hts⟩ := ih hp
    obtain ⟨ht, hts⟩ := List.forall_mem_cons.mp hts
    refine ⟨hq, List.forall_mem_cons.mpr ⟨?_, hts⟩⟩
    split
    · exact ht
    · exact ht.optional
  | plain _ hplain _ ih =>
    obtain ⟨hq, hts⟩ := ih hp
    exact ⟨hq, List.forall_mem_cons.mpr ⟨.plain hplain, hts⟩⟩
  | date _ hrest ih =>
    obtain ⟨hq, hts⟩ := ih hp.requireDateTime
    exact ⟨hq, List.forall_mem_cons.mpr ⟨hrest.grows.found.dates rfl, hts⟩⟩
  | known _ _ hmemo hrest ih =>
    obtain ⟨hq, hts⟩ := ih hp
    have hname := hp.sound.mem_reserved (Pass.memoized?_eq_some_iff.mp hmemo).2
    exact ⟨hq, List.forall_mem_cons.mpr ⟨.mention (hrest.grows.names.reserved hname) _, hts⟩⟩
  | object _ hmemo hname hfields hrest ihfields ih =>
    obtain ⟨hp', hfieldTypes⟩ := ihfields (hp.allocate hmemo hname)
    obtain ⟨hq, hts⟩ := ih (hp'.addObject fun t ht => hfieldTypes t (mem_types_of_mem_fieldArtifacts ht))
    have hreserved := (Allocator.allocate_answers hname).mem_reserved hp.sound
    have hgrows := hfields.grows.names.reserved hreserved
    exact ⟨hq, List.forall_mem_cons.mpr ⟨hrest.grows.names.reserved hgrows, hts⟩⟩
  | @constants _ _ qualified base members name _ _ _ _ _ _ _ hmemo hname hrest ih =>
    have hp' := hp.allocate hmemo hname
    obtain ⟨hq, hts⟩ := ih (hp'.addConstant (c := constantBlock name qualified base members))
    have hreserved := (Allocator.allocate_answers hname).mem_reserved hp.sound
    exact ⟨hq, List.forall_mem_cons.mpr ⟨hrest.grows.names.reserved hreserved, hts⟩⟩

/-! ## At the end -/

theorem run_underWay {model : Model} {hook : Hook} {prereserved : List String} {tries : Nat} {p : Pass}
    (h : Pass.run model hook prereserved tries = some p) : p.UnderWay [] := by
  obtain ⟨types, hvisits⟩ := run_visits h
  exact (hvisits.underWay (.start prereserved tries)).1

/-- A pass whose names and mentions come out even. -/
structure Pass.Complete (p : Pass) : Prop where
  distinct : p.found.names.Nodup
  /-- There is one artifact for each name that was handed out, and no other. -/
  handedOut : p.found.names.Perm p.names.reserved
  remembered : ∀ qualified name, p.names.lookup? qualified = some name → name ∈ p.found.names
  mentioned : ∀ t ∈ p.found.fieldTypes, ∀ name,
    .struct name ∈ t.parts ∨ .typeAlias name ∈ t.parts → name ∈ p.found.names
  imported : ∀ t ∈ p.found.fieldTypes, ∀ importAlias name, .external (some importAlias) name ∈ t.parts →
    p.found.imports.countP (·.importAlias == importAlias) = 1
  dated : ∀ t ∈ p.found.fieldTypes, .dateTime ∈ t.parts → p.found.usesDateTime = true

theorem Pass.UnderWay.complete {p : Pass} (h : p.UnderWay []) : p.Complete where
  distinct := by simpa using h.balance.nodup h.sound.nodup
  handedOut := by simpa using h.balance.symm
  remembered qualified name hlookup := by
    simpa using h.balance.subset (h.sound.mem_reserved hlookup)
  mentioned t ht name hname := by
    have hreserved : name ∈ p.names.reserved := by
      rcases hname with hname | hname
      · exact (h.backed t ht).part hname
      · exact (h.backed t ht).part hname
    simpa using h.balance.subset hreserved
  imported t ht importAlias name hmention := by
    have hmem : importAlias ∈ p.found.imports.map (·.importAlias) := (h.backed t ht).part hmention
    have hcount := h.imports.count (a := importAlias)
    rw [if_pos hmem, List.count, List.countP_map] at hcount
    exact hcount
  dated t ht hdate := (h.backed t ht).part hdate

/-- A pass that gets through is complete, whatever the model, the hook and the identifiers bound elsewhere. -/
theorem run_complete (model : Model) (hook : Hook) (prereserved : List String) (tries : Nat) (p : Pass)
    (h : Pass.run model hook prereserved tries = some p) : p.Complete :=
  (run_underWay h).complete

/-- Two nodes of one identifier. One mentions itself and has an enumeration, a date, an anonymous object and a
type from elsewhere below it. -/
def linkedModel : Model := [
  ("pkg.Node", .object "pkg.Node" [
    ⟨"next", .nullable (.object "pkg.Node" []), ""⟩,
    ⟨"states", .map (.string "pkg.State" [⟨"StateOn", "on"⟩]) (.object "" [⟨"since", .date, ""⟩]), ""⟩,
    ⟨"cost", .array .any, ""⟩]),
  ("old.Node", .object "old.Node" [⟨"state", .string "pkg.State" [⟨"StateOn", "on"⟩], ""⟩])]

def moneyHook : Hook := fun node => if node.kind = .any then some ⟨"crate::money", "Money"⟩ else none

theorem run_complete_linked :
    ∃ p, Pass.run linkedModel moneyHook ["other.State"] 1 = some p ∧ p.Complete := by
  have h : (Pass.run linkedModel moneyHook ["other.State"] 1).isSome = true := by decide +kernel
  obtain ⟨p, hp⟩ := Option.isSome_iff_exists.mp h
  exact ⟨p, hp, run_complete linkedModel moneyHook ["other.State"] 1 p hp⟩

end Declgen
