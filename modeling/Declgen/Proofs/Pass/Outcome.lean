import Declgen.Proofs.Pass.Hygiene
import Declgen.Proofs.Render.File

/-!
# Which models are generated

Without a hook a pass finds nothing from elsewhere, and each constant block has values of its own kind. So the
tokens of the artifacts are always those of a file. A name, a value or a derive can be at fault, and then the first
fault is told.
-/

namespace Declgen

/-! ## What a pass finds without a hook -/

/-- Text goes with text, and numbers with numbers. -/
def Primitive.Takes : Primitive → ConstantValue → Prop
  | .string, .str _ => True
  | .number _, .num _ => True
  | _, _ => False

/-- Nothing comes from elsewhere, and values are of the kind of their blocks. -/
structure Artifacts.Inward (a : Artifacts) : Prop where
  imports : a.imports = []
  types : ∀ t ∈ a.fieldTypes, t.isLocal = true
  values : ∀ c ∈ a.constants, ∀ e ∈ c.entries, c.base.Takes e.value

namespace Artifacts.Inward

variable {a : Artifacts}

theorem empty : Artifacts.empty.Inward := ⟨rfl, by simp [Artifacts.empty, fieldTypes], by simp [Artifacts.empty]⟩

theorem requireDateTime (h : a.Inward) : a.requireDateTime.Inward := ⟨h.imports, h.types, h.values⟩

theorem addObject (h : a.Inward) {o : ObjectArtifact} (ho : ∀ t ∈ o.fields.map (·.type), t.isLocal = true) :
    (a.addObject o).Inward := by
  refine ⟨h.imports, fun t ht => ?_, h.values⟩
  rcases mem_fieldTypes_addObject.mp ht with ht | ht
  · exact h.types t ht
  · exact ho t ht

theorem addConstant (h : a.Inward) {c : ConstantArtifact} (hc : ∀ e ∈ c.entries, c.base.Takes e.value) :
    (a.addConstant c).Inward := by
  refine ⟨h.imports, h.types, fun d hd => ?_⟩
  rcases List.mem_append.mp hd with hd | hd
  · exact h.values d hd
  · obtain rfl := List.mem_singleton.mp hd
    exact hc

theorem sorted (h : a.Inward) : a.sorted.Inward := by
  refine ⟨?_, fun t ht => h.types t (mem_fieldTypes_sorted.mp ht), fun c hc => h.values c (mem_sortBy.mp hc)⟩
  rw [Artifacts.sorted, h.imports]
  rfl

end Artifacts.Inward

theorem takes_of_declaration? {node : Node} {qualified : String} {base : Primitive}
    {members : List (Member ConstantValue)} (h : node.declaration? = some (.constants qualified base members))
    (name : String) : ∀ e ∈ (constantBlock name qualified base members).entries, base.Takes e.value := by
  have hmembers : ∀ m ∈ members, base.Takes m.value := by
    cases node with
    | string _ ms | number _ _ ms =>
      simp only [Node.declaration?] at h
      split at h
      · simp at h
      · obtain ⟨-, rfl, rfl⟩ := Declaration.constants.inj (Option.some.inj h)
        intro m hm
        obtain ⟨_, -, rfl⟩ := List.mem_map.mp hm
        trivial
    | _ => simp [Node.declaration?] at h
  intro e he
  obtain ⟨m, hm, rfl⟩ := List.mem_map.mp he
  exact hmembers m hm

theorem isLocal_of_plain {node : Node} {t : TypeExpr} (h : node.plain? = some t) : t.isLocal = true := by
  rcases Node.eq_of_plain? h with ⟨primitive, rfl⟩ | rfl <;> rfl

theorem isLocal_optional {t : TypeExpr} (h : t.isLocal = true) : t.optional.isLocal = true := by
  cases t <;> exact h

theorem Visits.inward {sites : List Site} {p q : Pass} {types : List TypeExpr} (h : Visits .none sites p types q)
    (hp : p.found.Inward) : q.found.Inward ∧ ∀ t ∈ types, t.isLocal = true := by
  induction h with
  | nil => exact ⟨hp, by simp⟩
  | external hhook => simp [Hook.none] at hhook
  | array _ _ ih =>
    obtain ⟨hq, hts⟩ := ih hp
    obtain ⟨ht, hts⟩ := List.forall_mem_cons.mp hts
    exact ⟨hq, List.forall_mem_cons.mpr ⟨ht, hts⟩⟩
  | map _ _ ih =>
    obtain ⟨hq, hts⟩ := ih hp
    obtain ⟨hk, hv, hts⟩ := by simpa only [List.forall_mem_cons] using hts
    exact ⟨hq, List.forall_mem_cons.mpr ⟨by simp [TypeExpr.isLocal, hk, hv], hts⟩⟩
  | nullable _ _ ih =>
    obtain ⟨hq, hts⟩ := ih hp
    obtain ⟨ht, hts⟩ := List.forall_mem_cons.mp hts
    refine ⟨hq, List.forall_mem_cons.mpr ⟨?_, hts⟩⟩
    split
    · exact ht
    · exact isLocal_optional ht
  | plain _ hplain _ ih =>
    obtain ⟨hq, hts⟩ := ih hp
    exact ⟨hq, List.forall_mem_cons.mpr ⟨isLocal_of_plain hplain, hts⟩⟩
  | date _ _ ih =>
    obtain ⟨hq, hts⟩ := ih hp.requireDateTime
    exact ⟨hq, List.forall_mem_cons.mpr ⟨rfl, hts⟩⟩
  | @known _ _ d _ _ _ _ _ _ _ _ _ ih =>
    obtain ⟨hq, hts⟩ := ih hp
    exact ⟨hq, List.forall_mem_cons.mpr ⟨by cases d <;> rfl, hts⟩⟩
  | object _ _ _ _ _ ihfields ih =>
    obtain ⟨hp', hfields⟩ := ihfields hp
    obtain ⟨hq, hts⟩ := ih (hp'.addObject fun t ht => hfields t (mem_types_of_mem_fieldArtifacts ht))
    exact ⟨hq, List.forall_mem_cons.mpr ⟨rfl, hts⟩⟩
  | @constants _ _ _ _ _ name _ _ _ _ _ _ hdeclares _ _ _ ih =>
    obtain ⟨hq, hts⟩ := ih (hp.addConstant (takes_of_declaration? hdeclares name))
    exact ⟨hq, List.forall_mem_cons.mpr ⟨rfl, hts⟩⟩

theorem run_inward {model : Model} {prereserved : List String} {tries : Nat} {p : Pass}
    (h : Pass.run model .none prereserved tries = some p) : p.found.Inward := by
  obtain ⟨types, hvisits⟩ := run_visits h
  exact (hvisits.inward .empty).1

/-! ## What can be at fault -/

/-- Names are identifiers, numbers are in the range of their blocks, and derives are paths. -/
structure Artifacts.Writable (a : Artifacts) (config : Config) : Prop where
  blocks : ∀ c ∈ a.constants, Source.isIdentifier c.name = true
  constants : ∀ c ∈ a.constants, ∀ e ∈ c.entries, Source.isIdentifier e.name = true
  numbers : ∀ c ∈ a.constants, ∀ e ∈ c.entries, ∀ repr n, c.base = .number repr → e.value = .num n →
    (Render.number? repr n).isSome = true
  derives : ∀ d ∈ config.derives, ((Source.tokens? d).bind Source.path?).isSome = true
  structs : ∀ o ∈ a.objects, Source.isIdentifier o.name = true
  fields : ∀ o ∈ a.objects, ∀ name ∈ Render.fieldNames (o.fields.map (·.name)), Source.isIdentifier name = true

/-- The faults that can be the first. A mention is at fault only if the struct it stands for comes later. -/
inductive Artifacts.Admits (a : Artifacts) (config : Config) : RenderFault → Prop where
  | block {c} : c ∈ a.constants → Source.isIdentifier c.name = false →
    a.Admits config (.invalidIdentifier c.name .constantBlock)
  | constant {c e} : c ∈ a.constants → e ∈ c.entries → Source.isIdentifier e.name = false →
    a.Admits config (.invalidIdentifier e.name .constant)
  | number {c e repr n} : c ∈ a.constants → e ∈ c.entries → c.base = .number repr → e.value = .num n →
    Render.number? repr n = none → a.Admits config (.invalidLiteral e.name (.num n) (.number repr))
  | derive {d} : d ∈ config.derives → (Source.tokens? d).bind Source.path? = none →
    a.Admits config (.invalidDerive d)
  | struct {o} : o ∈ a.objects → Source.isIdentifier o.name = false →
    a.Admits config (.invalidIdentifier o.name .struct)
  | field {o f name} : o ∈ a.objects → (f, name) ∈ o.namedFields → Source.isIdentifier name = false →
    a.Admits config (.invalidIdentifier name (.field f.name o.name))
  | mention {before o after f name} : a.objects = before ++ o :: after → f ∈ o.fields →
    .struct name ∈ f.type.parts ∨ .typeAlias name ∈ f.type.parts → name ∈ after.map (·.name) →
    Source.isIdentifier name = false → a.Admits config (.invalidIdentifier name .reference)

/-- What is wrong with a type in itself, and not with what is inside of it. -/
def TypeExpr.ownFaults : TypeExpr → List RenderFault
  | .vec _ | .map _ _ | .option _ | .boxed _ => []
  | t => t.faults

theorem TypeExpr.faults_eq_flatMap_parts (t : TypeExpr) : t.faults = t.parts.flatMap ownFaults := by
  induction t with
  | vec inner ih | option inner ih | boxed inner ih =>
    simp only [faults, parts, List.flatMap_cons, ownFaults, ih, List.nil_append]
  | map key value ihk ihv =>
    simp only [faults, parts, List.flatMap_cons, List.flatMap_append, ownFaults, ihk, ihv, List.nil_append]
  | _ => simp only [parts, List.flatMap_cons, List.flatMap_nil, ownFaults, List.append_nil]

theorem TypeExpr.external_not_mem_parts {t : TypeExpr} (hlocal : t.isLocal = true) (importAlias : Option String)
    (name : String) : .external importAlias name ∉ t.parts := by
  induction t with
  | external => simp [isLocal] at hlocal
  | map key value ihk ihv =>
    obtain ⟨hk, hv⟩ := Bool.and_eq_true_iff.mp hlocal
    simp [parts, ihk hk, ihv hv]
  | vec inner ih | option inner ih | boxed inner ih => simpa [parts] using ih hlocal
  | _ => simp [parts]

theorem mem_faults_of_isLocal {t : TypeExpr} (hlocal : t.isLocal = true) {fault : RenderFault}
    (h : fault ∈ t.faults) :
    ∃ name, (.struct name ∈ t.parts ∨ .typeAlias name ∈ t.parts) ∧ Source.isIdentifier name = false ∧
      fault = .invalidIdentifier name .reference := by
  rw [t.faults_eq_flatMap_parts] at h
  obtain ⟨part, hpart, hfault⟩ := List.mem_flatMap.mp h
  cases part with
  | struct name =>
    obtain ⟨hname, rfl⟩ := mem_nameFaults.mp hfault
    exact ⟨name, .inl hpart, hname, rfl⟩
  | typeAlias name =>
    obtain ⟨hname, rfl⟩ := mem_nameFaults.mp hfault
    exact ⟨name, .inr hpart, hname, rfl⟩
  | external importAlias name => exact absurd hpart (TypeExpr.external_not_mem_parts hlocal importAlias name)
  | _ => simp [TypeExpr.ownFaults, TypeExpr.faults] at hfault

/-! ## The first fault -/

theorem head?_append_eq_some {α : Type} {xs ys : List α} {a : α} (h : (xs ++ ys).head? = some a) :
    xs.head? = some a ∨ xs = [] ∧ ys.head? = some a := by
  cases xs with
  | nil => exact .inr ⟨rfl, h⟩
  | cons x xs => exact .inl h

theorem exists_of_head?_flatMap {α β : Type} {f : α → List β} {l : List α} {b : β}
    (h : (l.flatMap f).head? = some b) :
    ∃ before a after, l = before ++ a :: after ∧ (∀ x ∈ before, f x = []) ∧ (f a).head? = some b := by
  rw [List.head?_flatMap, List.findSome?_eq_some_iff] at h
  obtain ⟨before, a, after, hl, ha, hbefore⟩ := h
  exact ⟨before, a, after, hl, fun x hx => List.head?_eq_none_iff.mp (hbefore x hx), ha⟩

namespace Artifacts

variable {a : Artifacts} {config : Config} {fault : RenderFault}

theorem Inward.admits_of_block (ha : a.Inward) {c : ConstantArtifact} (hc : c ∈ a.constants)
    (h : fault ∈ c.faults) : a.Admits config fault := by
  rcases List.mem_append.mp h with h | h
  · obtain ⟨hname, rfl⟩ := mem_nameFaults.mp h
    exact .block hc hname
  · obtain ⟨e, he, h⟩ := List.mem_flatMap.mp h
    rcases List.mem_append.mp h with h | h
    · obtain ⟨hname, rfl⟩ := mem_nameFaults.mp h
      exact .constant hc he hname
    · have htakes := ha.values c hc e he
      split at h
      · simp at h
      · rename_i hnone
        obtain rfl := List.mem_singleton.mp h
        -- Text always has a value, so only a number can lack one.
        cases hbase : c.base with
        | bool => simp [hbase, Primitive.Takes] at htakes
        | string =>
          cases hvalue : e.value with
          | num n => simp [hbase, hvalue, Primitive.Takes] at htakes
          | str s => simp [hbase, hvalue, Render.value?] at hnone
        | number repr =>
          cases hvalue : e.value with
          | str s => simp [hbase, hvalue, Primitive.Takes] at htakes
          | num n => exact .number hc he hbase hvalue (by simpa [hbase, hvalue, Render.value?] using hnone)

theorem admits_of_derive (h : fault ∈ config.faults) : a.Admits config fault := by
  obtain ⟨d, hd, h⟩ := List.mem_flatMap.mp h
  split at h
  · simp at h
  · rename_i hnone
    obtain rfl := List.mem_singleton.mp h
    exact .derive hd (Option.not_isSome_iff_eq_none.mp hnone)

variable (hmentioned : ∀ t ∈ a.fieldTypes, ∀ name,
  .struct name ∈ t.parts ∨ .typeAlias name ∈ t.parts → name ∈ a.names)
include hmentioned

/-- A mention that is at fault before anything else stands for a struct that comes later: constant blocks and
the structs before it have been written. -/
theorem Inward.admits_of_object (ha : a.Inward) (hblocks : ∀ c ∈ a.constants, c.faults = [])
    {before after : List ObjectArtifact} {o : ObjectArtifact} (hobjects : a.objects = before ++ o :: after)
    (hbefore : ∀ x ∈ before, x.faults = []) (h : o.faults.head? = some fault) : a.Admits config fault := by
  have ho : o ∈ a.objects := by simp [hobjects]
  rcases head?_append_eq_some h with h | ⟨hstruct, h⟩
  · obtain ⟨hname, rfl⟩ := mem_nameFaults.mp (List.mem_of_mem_head? h)
    exact .struct ho hname
  · obtain ⟨⟨f, w⟩, hf, h⟩ := List.mem_flatMap.mp (List.mem_of_mem_head? h)
    rcases List.mem_append.mp h with h | h
    · obtain ⟨hname, rfl⟩ := mem_nameFaults.mp h
      exact .field ho hf hname
    · have hfield : f ∈ o.fields := (List.of_mem_zip hf).1
      have htype : f.type ∈ a.fieldTypes := List.mem_flatMap.mpr ⟨o, ho, List.mem_map_of_mem hfield⟩
      obtain ⟨name, hparts, hname, rfl⟩ := mem_faults_of_isLocal (ha.types _ htype) h
      refine .mention hobjects hfield hparts ?_ hname
      have hwritten {b : String} (hb : nameFaults b .struct = []) : b ≠ name := by
        rintro rfl
        simp [nameFaults_eq_nil.mp hb] at hname
      rcases List.mem_append.mp (hmentioned _ htype name hparts) with hobject | hblock
      · obtain ⟨x, hx, rfl⟩ := List.mem_map.mp hobject
        rw [hobjects] at hx
        rcases List.mem_append.mp hx with hx | hx
        · exact absurd rfl (hwritten (List.append_eq_nil_iff.mp (hbefore x hx)).1)
        · rcases List.mem_cons.mp hx with rfl | hx
          · exact absurd rfl (hwritten hstruct)
          · exact List.mem_map_of_mem hx
      · obtain ⟨c, hc, rfl⟩ := List.mem_map.mp hblock
        have hidentifier := nameFaults_eq_nil.mp (List.append_eq_nil_iff.mp (hblocks c hc)).1
        simp [hidentifier] at hname

theorem Inward.admits_of_first (ha : a.Inward) (h : (a.faults config).head? = some fault) :
    a.Admits config fault := by
  rw [faults, ha.imports, List.flatMap_nil, List.nil_append] at h
  rcases head?_append_eq_some h with h | ⟨hblocks, h⟩
  · obtain ⟨c, hc, h⟩ := List.mem_flatMap.mp (List.mem_of_mem_head? h)
    exact ha.admits_of_block hc h
  · rcases head?_append_eq_some h with h | ⟨-, h⟩
    · exact admits_of_derive (List.mem_of_mem_head? h)
    · obtain ⟨before, o, after, hobjects, hbefore, h⟩ := exists_of_head?_flatMap h
      exact ha.admits_of_object hmentioned (List.flatMap_eq_nil_iff.mp hblocks) hobjects hbefore h

omit hmentioned in
theorem Writable.not_admits (h : a.Writable config) (fault : RenderFault) : ¬a.Admits config fault := by
  intro hfault
  cases hfault with
  | block hc hname => simp [h.blocks _ hc] at hname
  | constant hc he hname => simp [h.constants _ hc _ he] at hname
  | number hc he hbase hvalue hnone =>
    have hsome := h.numbers _ hc _ he _ _ hbase hvalue
    simp [hnone] at hsome
  | derive hd hnone =>
    have hsome := h.derives _ hd
    simp [hnone] at hsome
  | struct ho hname => simp [h.structs _ ho] at hname
  | field ho hf hname => simp [h.fields _ ho _ (List.of_mem_zip hf).2] at hname
  | mention hobjects _ _ hafter hname =>
    obtain ⟨x, hx, rfl⟩ := List.mem_map.mp hafter
    have hstruct := h.structs x (by simp [hobjects, hx])
    simp [hstruct] at hname

omit hmentioned in
theorem writable_of_faults_eq_nil (h : a.faults config = []) : a.Writable config := by
  obtain ⟨-, h⟩ := List.append_eq_nil_iff.mp h
  obtain ⟨hblocks, h⟩ := List.append_eq_nil_iff.mp h
  obtain ⟨hderives, hobjects⟩ := List.append_eq_nil_iff.mp h
  have hblock : ∀ c ∈ a.constants, c.faults = [] := List.flatMap_eq_nil_iff.mp hblocks
  have hentry : ∀ c ∈ a.constants, ∀ e ∈ c.entries, e.faults c.base = [] := fun c hc =>
    List.flatMap_eq_nil_iff.mp (List.append_eq_nil_iff.mp (hblock c hc)).2
  have hobject : ∀ o ∈ a.objects, o.faults = [] := List.flatMap_eq_nil_iff.mp hobjects
  refine ⟨?_, ?_, ?_, ?_, ?_, ?_⟩
  · exact fun c hc => nameFaults_eq_nil.mp (List.append_eq_nil_iff.mp (hblock c hc)).1
  · exact fun c hc e he => nameFaults_eq_nil.mp (List.append_eq_nil_iff.mp (hentry c hc e he)).1
  · intro c hc e he repr n hbase hvalue
    have hsome := (List.append_eq_nil_iff.mp (hentry c hc e he)).2
    rw [hbase, hvalue] at hsome
    split at hsome
    · assumption
    · simp at hsome
  · intro d hd
    have hsome := List.flatMap_eq_nil_iff.mp hderives d hd
    split at hsome
    · assumption
    · simp at hsome
  · exact fun o ho => nameFaults_eq_nil.mp (List.append_eq_nil_iff.mp (hobject o ho)).1
  · intro o ho name hname
    have hfields := List.flatMap_eq_nil_iff.mp (List.append_eq_nil_iff.mp (hobject o ho)).2
    have hnames : o.namedFields.map (·.2) = Render.fieldNames (o.fields.map (·.name)) :=
      List.map_snd_zip (by simp [Render.length_fieldNames])
    rw [← hnames] at hname
    obtain ⟨f, hf, rfl⟩ := List.mem_map.mp hname
    exact nameFaults_eq_nil.mp (List.append_eq_nil_iff.mp (hfields f hf)).1

theorem Inward.faults_eq_nil_iff (ha : a.Inward) : a.faults config = [] ↔ a.Writable config := by
  refine ⟨writable_of_faults_eq_nil, fun hwritable => ?_⟩
  cases hfaults : a.faults config with
  | nil => rfl
  | cons fault rest =>
    have hadmits : a.Admits config fault := ha.admits_of_first hmentioned (by rw [hfaults, List.head?_cons])
    exact absurd hadmits (hwritable.not_admits fault)

end Artifacts

/-! ## When names run out -/

theorem Pass.object_eq_none {qualified : String} {entries : List (Entry Visit)} {ctx : Context} {p : Pass}
    (hmemo : p.memoized? qualified = none) (h : p.names.allocate qualified ctx = none) :
    Pass.object qualified entries ctx p = none := by
  simp [Pass.object, hmemo, h]

theorem run_eq_none {q : String} {prereserved : List String} {tries : Nat} (hq : q ≠ "")
    (hclaimed : (Allocator.new prereserved tries).isClaimed q = true)
    (htaken : ∀ digits ∈ Digest.texts Allocator.suffixLength,
      (Allocator.new prereserved tries).isTaken (QualifiedName.bare q ++ "_" ++ String.ofList digits) = true) :
    Pass.run [(q, .object q [])] .none prereserved tries = none := by
  have hempty : (!q.isEmpty) = true := by simpa using hq
  have hlookup : (Allocator.new prereserved tries).lookup? q = none := rfl
  have hmemo : (Pass.start (Allocator.new prereserved tries)).memoized? q = none := by
    simp [Pass.memoized?, Pass.start, hlookup]
  have hname : (Allocator.new prereserved tries).allocate q (.root q .value) = none := by
    rw [Allocator.allocate, if_pos hempty, Allocator.named_of_unknown hlookup, if_pos hclaimed,
      Allocator.suffixed_eq_none htaken]
    rfl
  have hvisit : Node.visit .none (.object q []) (.root q .value) (.start (.new prereserved tries)) = none :=
    Pass.object_eq_none hmemo hname
  have hsort : sortBy (·.1) [(q, Node.object q [])] = [(q, .object q [])] := rfl
  rw [Pass.run, hsort, Pass.roots, hvisit]
  rfl

theorem Request.generate_of_run_none {r : Request}
    (h : Pass.run r.model r.hook r.reserve Allocator.defaultTries = none) : r.generate = .error .noFreeName := by
  simp only [Request.generate, h]

/-! ## The outcome -/

theorem run_mentioned {model : Model} {hook : Hook} {prereserved : List String} {tries : Nat} {p : Pass}
    (h : Pass.run model hook prereserved tries = some p) : ∀ t ∈ p.found.sorted.fieldTypes, ∀ name,
      .struct name ∈ t.parts ∨ .typeAlias name ∈ t.parts → name ∈ p.found.sorted.names := by
  intro t ht name hname
  have hcomplete := (run_underWay h).complete
  exact Artifacts.mem_names_sorted.mpr
    (hcomplete.mentioned t (Artifacts.mem_fieldTypes_sorted.mp ht) name hname)

theorem file_stopsAt {a : Artifacts} (ha : a.Inward) (config : Config) :
    match a.faults config with
    | [] => ∃ source, Render.file config a = .ok source
    | fault :: _ => Render.file config a = .error (.unrendered fault) := by
  have htokens := Render.fileTokens_stopsAt config a
  cases hfaults : a.faults config with
  | nil =>
    rw [hfaults] at htokens
    obtain ⟨ts, hts⟩ := htokens
    exact Render.file_of_fileTokens ha.imports ha.types hts
  | cons fault rest =>
    rw [hfaults] at htokens
    have herror : Render.fileTokens config a = .error fault := htokens
    simp only [Render.file, herror]

theorem Request.generate_of_run {r : Request} {p : Pass} (hhook : r.hook = .none)
    (hrun : Pass.run r.model r.hook r.reserve Allocator.defaultTries = some p) :
    ((∃ source, r.generate = .ok ⟨source, p.found.sorted⟩) ↔ p.found.sorted.Writable r.config) ∧
      ∀ fault, r.generate = .error fault →
        ∃ first, fault = .unrendered first ∧ (p.found.sorted.faults r.config).head? = some first ∧
          p.found.sorted.Admits r.config first := by
  have hgenerate : r.generate =
      (Render.file r.config p.found.sorted >>= fun source => .ok ⟨source, p.found.sorted⟩) := by
    simp only [Request.generate, hrun]
  have hmentioned := run_mentioned hrun
  rw [hhook] at hrun
  have ha := (run_inward hrun).sorted
  have hfile := file_stopsAt ha r.config
  rw [hgenerate, ← ha.faults_eq_nil_iff hmentioned]
  cases hfaults : p.found.sorted.faults r.config with
  | nil =>
    rw [hfaults] at hfile
    obtain ⟨source, hsource⟩ := hfile
    rw [hsource]
    exact ⟨⟨fun _ => rfl, fun _ => ⟨source, rfl⟩⟩, fun fault h => by simp at h⟩
  | cons first rest =>
    rw [hfaults] at hfile
    have herror : Render.file r.config p.found.sorted = .error (.unrendered first) := hfile
    have hadmits : p.found.sorted.Admits r.config first :=
      ha.admits_of_first hmentioned (by rw [hfaults, List.head?_cons])
    rw [herror]
    refine ⟨⟨fun ⟨source, h⟩ => by simp at h, fun h => by simp at h⟩, fun fault h => ?_⟩
    obtain rfl := Except.error.inj h
    exact ⟨first, rfl, rfl, hadmits⟩

/-- Without a hook a file is generated just when its artifacts can be written, and otherwise the first fault in the
order of the file is told, unless names run out. -/
theorem Request.generate_outcome (r : Request) (hhook : r.hook = .none) :
    match Pass.run r.model r.hook r.reserve Allocator.defaultTries with
    | none => r.generate = .error .noFreeName
    | some p =>
      ((∃ source, r.generate = .ok ⟨source, p.found.sorted⟩) ↔ p.found.sorted.Writable r.config) ∧
        ∀ fault, r.generate = .error fault →
          ∃ first, fault = .unrendered first ∧ (p.found.sorted.faults r.config).head? = some first ∧
            p.found.sorted.Admits r.config first := by
  cases hrun : Pass.run r.model r.hook r.reserve Allocator.defaultTries with
  | none => exact Request.generate_of_run_none hrun
  | some p => exact Request.generate_of_run hhook hrun

/-- Containers in containers, a block with a number below zero, a keyword for a field and a struct that mentions
itself. -/
def crateRequest : Request where
  model := [("p.Crate", .object "p.Crate" [
    ⟨"level", .map (.string "" []) (.array (.nullable (.number "p.Level" .int8 [⟨"LevelLow", .int (-5)⟩]))), ""⟩,
    ⟨"type", .nullable (.object "p.Crate" []), "json:\"next,omitempty\""⟩])]
  hook := .none
  reserve := []
  config := .default

def crateArtifacts : Artifacts where
  objects := [⟨"Crate", [
    ⟨"level", .map (.primitive .string) (.vec (.option (.typeAlias "Level"))), ""⟩,
    ⟨"type", .option (.boxed (.struct "Crate")), "json:\"next,omitempty\""⟩]⟩]
  constants := [⟨"Level", .number .int8, [⟨"LevelLow", .num (.int (-5))⟩]⟩]
  imports := []
  usesDateTime := false

theorem generate_outcome_crate : ∃ source, crateRequest.generate = .ok ⟨source, crateArtifacts⟩ := by
  have hfound : (Pass.run crateRequest.model crateRequest.hook crateRequest.reserve Allocator.defaultTries).map
      (·.found.sorted) = some crateArtifacts := by decide +kernel
  obtain ⟨p, hp, hartifacts⟩ := Option.map_eq_some_iff.mp hfound
  have houtcome := Request.generate_outcome crateRequest rfl
  rw [hp] at houtcome
  rw [← hartifacts]
  refine houtcome.1.mpr ?_
  rw [hartifacts]
  refine ⟨by decide, by decide, ?_, by decide +kernel, by decide, by decide +kernel⟩
  intro c hc e he repr n hbase hvalue
  obtain rfl := List.mem_singleton.mp hc
  obtain rfl := List.mem_singleton.mp he
  obtain rfl := Primitive.number.inj hbase
  obtain rfl := ConstantValue.num.inj hvalue
  decide +kernel

/-- A struct whose name is no identifier, and one before it that mentions it. -/
def hyphenRequest : Request where
  model := [("p.A", .object "p.A" [⟨"x", .object "p.b-c" [], ""⟩])]
  hook := .none
  reserve := []
  config := .default

/-- A struct whose identifier is bound elsewhere, and so are all its suffixed names. -/
def crowdedRequest : Request where
  model := [("p.A", .object "p.A" [])]
  hook := .none
  reserve := "q.A" :: (Digest.texts Allocator.suffixLength).map fun digits => "A_" ++ String.ofList digits
  config := .default

theorem mem_crowd {name : String} : name ∈ crowdedRequest.reserve ↔
    name = "q.A" ∨ ∃ digits ∈ Digest.texts Allocator.suffixLength, "A_" ++ String.ofList digits = name := by
  rw [crowdedRequest, List.mem_cons, List.mem_map]

theorem dot_not_mem_crowd {digits : List Char} (h : digits ∈ Digest.texts Allocator.suffixLength) :
    '.' ∉ ("A_" ++ String.ofList digits).toList := by
  intro hmem
  have hhex : '.' ∈ digits := by simpa using hmem
  exact absurd (Digest.isHex_of_mem_texts h '.' hhex) (by decide)

theorem isClaimed_crowded (tries : Nat) : (Allocator.new crowdedRequest.reserve tries).isClaimed "p.A" = true := by
  have hbare : QualifiedName.bare "q.A" = QualifiedName.bare "p.A" := by decide
  refine Allocator.isClaimed_of_prereserved (mem_crowd.mpr (.inl rfl)) hbare fun hmem => ?_
  rcases mem_crowd.mp hmem with heq | ⟨digits, hdigits, heq⟩
  · exact absurd heq (by decide)
  · refine dot_not_mem_crowd hdigits ?_
    rw [heq]
    decide

theorem isTaken_crowded (tries : Nat) {digits : List Char} (h : digits ∈ Digest.texts Allocator.suffixLength) :
    (Allocator.new crowdedRequest.reserve tries).isTaken ("A_" ++ String.ofList digits) = true := by
  have hmem : "A_" ++ String.ofList digits ∈ crowdedRequest.reserve := mem_crowd.mpr (.inr ⟨digits, h, rfl⟩)
  have htaken : (Allocator.new crowdedRequest.reserve tries).isTaken
      (QualifiedName.bare ("A_" ++ String.ofList digits)) = true := Allocator.isTaken_of_prereserved hmem
  rwa [QualifiedName.bare_of_not_mem (dot_not_mem_crowd h)] at htaken

theorem run_crowded (tries : Nat) :
    Pass.run crowdedRequest.model crowdedRequest.hook crowdedRequest.reserve tries = none := by
  have hbase : QualifiedName.bare "p.A" ++ "_" = "A_" := by decide
  refine run_eq_none (by decide) (isClaimed_crowded _) fun digits h => ?_
  rw [hbase]
  exact isTaken_crowded _ h

theorem generate_crowded : crowdedRequest.generate = .error .noFreeName :=
  Request.generate_of_run_none (run_crowded _)

/-- In the one file it is the mention that is told, not the struct. For the other there is no name to be found. -/
theorem generate_tells_mention :
    (hyphenRequest.hook = .none ∧
      hyphenRequest.generate = .error (.unrendered (.invalidIdentifier "b-c" .reference))) ∧
    crowdedRequest.hook = .none ∧ crowdedRequest.generate = .error .noFreeName := by
  refine ⟨⟨rfl, ?_⟩, rfl, generate_crowded⟩
  decide +kernel

end Declgen
