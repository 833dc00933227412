import Declgen.Proofs.Json.Reader
import Declgen.Render.File

/-!
# Faults in the order of a file

All that is wrong with artifacts, in the order in which a file is written. Writing stops at the first of it.
-/

namespace Declgen

/-! ## What is wrong -/

def nameFaults (name : String) (role : Role) : List RenderFault :=
  if Source.isIdentifier name then [] else [.invalidIdentifier name role]

theorem mem_nameFaults {name : String} {role : Role} {fault : RenderFault} :
    fault ∈ nameFaults name role ↔ Source.isIdentifier name = false ∧ fault = .invalidIdentifier name role := by
  unfold nameFaults
  split <;> simp_all

theorem nameFaults_eq_nil {name : String} {role : Role} :
    nameFaults name role = [] ↔ Source.isIdentifier name = true := by
  unfold nameFaults
  split <;> simp_all

def outsideFaults (text : String) : List RenderFault :=
  if (Source.tokens? text).isSome then [] else [.untokenizable text]

def ImportRecord.faults (i : ImportRecord) : List RenderFault :=
  outsideFaults i.path ++ nameFaults i.importAlias .importAlias

/-- The name of a constant comes before its value. -/
def ConstantEntry.faults (base : Primitive) (e : ConstantEntry) : List RenderFault :=
  nameFaults e.name .constant ++
    if (Render.value? base e.value).isSome then [] else [.invalidLiteral e.name e.value base]

def ConstantArtifact.faults (c : ConstantArtifact) : List RenderFault :=
  nameFaults c.name .constantBlock ++ c.entries.flatMap (·.faults c.base)

def Config.faults (config : Config) : List RenderFault :=
  config.derives.flatMap fun d =>
    if ((Source.tokens? d).bind Source.path?).isSome then [] else [.invalidDerive d]

/-- A key comes before its value. -/
def TypeExpr.faults : TypeExpr → List RenderFault
  | .struct name | .typeAlias name => nameFaults name .reference
  | .external none name => outsideFaults name
  | .external (some importAlias) name => outsideFaults name ++ nameFaults importAlias .importAlias
  | .vec inner | .option inner | .boxed inner => inner.faults
  | .map key value => key.faults ++ value.faults
  | .primitive _ | .dateTime | .any => []

/-- The fields of a struct, with the identifiers they go by. -/
def ObjectArtifact.namedFields (o : ObjectArtifact) : List (FieldArtifact × String) :=
  o.fields.zip (Render.fieldNames (o.fields.map (·.name)))

/-- The identifier of a field comes before its type. -/
def ObjectArtifact.faults (o : ObjectArtifact) : List RenderFault :=
  nameFaults o.name .struct ++
    o.namedFields.flatMap fun f => nameFaults f.2 (.field f.1.name o.name) ++ f.1.type.faults

/-- Imports, constant blocks, derives and structs. -/
def Artifacts.faults (a : Artifacts) (config : Config) : List RenderFault :=
  a.imports.flatMap (·.faults) ++
    (a.constants.flatMap (·.faults) ++ (config.faults ++ a.objects.flatMap (·.faults)))

/-! ## Writing stops at the first fault -/

namespace Render

variable {α β : Type}

/-- The outcome is the first of the faults, and there is an answer if there are none. -/
def StopsAt (x : Except RenderFault α) : List RenderFault → Prop
  | [] => ∃ a, x = .ok a
  | fault :: _ => x = .error fault

theorem stopsAt_ok (a : α) : StopsAt (.ok a) [] := ⟨a, rfl⟩

theorem StopsAt.bind {x : Except RenderFault α} {f : α → Except RenderFault β} {first next : List RenderFault}
    (hx : StopsAt x first) (hf : ∀ a, StopsAt (f a) next) : StopsAt (x >>= f) (first ++ next) := by
  cases first with
  | nil =>
    obtain ⟨a, rfl⟩ := hx
    exact hf a
  | cons fault rest =>
    obtain rfl : x = .error fault := hx
    rfl

theorem StopsAt.bind_ok {x : Except RenderFault α} {f : α → Except RenderFault β} {faults : List RenderFault}
    (hx : StopsAt x faults) (hf : ∀ a, StopsAt (f a) []) : StopsAt (x >>= f) faults := by
  have h := hx.bind hf
  rwa [List.append_nil] at h

theorem StopsAt.isOk_iff {x : Except RenderFault α} {faults : List RenderFault} (h : StopsAt x faults) :
    (∃ a, x = .ok a) ↔ faults = [] := by
  cases faults with
  | nil => exact iff_of_true h rfl
  | cons fault rest =>
    obtain rfl : x = .error fault := h
    simp

theorem StopsAt.error_iff {x : Except RenderFault α} {faults : List RenderFault} (h : StopsAt x faults)
    {fault : RenderFault} : x = .error fault ↔ faults.head? = some fault := by
  cases faults with
  | nil =>
    obtain ⟨a, rfl⟩ := h
    simp
  | cons first rest =>
    obtain rfl : x = .error first := h
    simp

theorem stopsAt_mapM {f : α → Except RenderFault β} {faults : α → List RenderFault}
    (hf : ∀ a, StopsAt (f a) (faults a)) (l : List α) : StopsAt (l.mapM f) (l.flatMap faults) := by
  induction l with
  | nil => exact stopsAt_ok []
  | cons a rest ih =>
    rw [List.mapM_cons, List.flatMap_cons]
    exact (hf a).bind fun b => ih.bind_ok fun bs => stopsAt_ok (b :: bs)

/-! ## Each part of a file -/

theorem identifier_stopsAt (name : String) (role : Role) :
    StopsAt (identifier name role) (nameFaults name role) := by
  unfold identifier nameFaults
  split
  · exact stopsAt_ok _
  · rfl

theorem outside_stopsAt (text : String) : StopsAt (outside text) (outsideFaults text) := by
  unfold outside outsideFaults
  cases Source.tokens? text with
  | none => rfl
  | some ts => exact stopsAt_ok ts

theorem importTokens_stopsAt (i : ImportRecord) : StopsAt (importTokens i) i.faults :=
  (outside_stopsAt i.path).bind fun _ =>
    (identifier_stopsAt i.importAlias .importAlias).bind_ok fun _ => stopsAt_ok _

theorem memberTokens_stopsAt (base : Primitive) (type : List Source.Token) (e : ConstantEntry) :
    StopsAt (memberTokens base type e) (e.faults base) := by
  refine (identifier_stopsAt e.name .constant).bind fun name => ?_
  cases value? base e.value with
  | none => rfl
  | some value => exact stopsAt_ok _

theorem constantTokens_stopsAt (c : ConstantArtifact) : StopsAt (constantTokens c) c.faults := by
  refine (identifier_stopsAt c.name .constantBlock).bind fun name => ?_
  exact (stopsAt_mapM (memberTokens_stopsAt c.base _) c.entries).bind_ok fun _ => stopsAt_ok _

theorem deriveTokens_stopsAt (d : String) : StopsAt (deriveTokens d)
    (if ((Source.tokens? d).bind Source.path?).isSome then [] else [.invalidDerive d]) := by
  unfold deriveTokens
  cases (Source.tokens? d).bind Source.path? with
  | none => rfl
  | some p => exact stopsAt_ok _

theorem derives_stopsAt (config : Config) : StopsAt (derives config) config.faults :=
  (stopsAt_mapM deriveTokens_stopsAt config.derives).bind_ok fun _ => stopsAt_ok _

theorem typeTokens_stopsAt (t : TypeExpr) : StopsAt (typeTokens t) t.faults := by
  induction t with
  | primitive _ | dateTime | any => exact stopsAt_ok _
  | struct name | typeAlias name => exact (identifier_stopsAt name .reference).bind_ok fun _ => stopsAt_ok _
  | external importAlias name =>
    cases importAlias with
    | none => exact (outside_stopsAt name).bind_ok fun _ => stopsAt_ok _
    | some a =>
      exact (outside_stopsAt name).bind fun _ =>
        (identifier_stopsAt a .importAlias).bind_ok fun _ => stopsAt_ok _
  | vec inner ih | option inner ih | boxed inner ih => exact ih.bind_ok fun _ => stopsAt_ok _
  | map key value ihk ihv => exact ihk.bind fun _ => ihv.bind_ok fun _ => stopsAt_ok _

theorem objectTokens_stopsAt (config : Config) (derives : List Source.Token) (o : ObjectArtifact) :
    StopsAt (objectTokens config derives o) o.faults := by
  refine (identifier_stopsAt o.name .struct).bind fun name => ?_
  refine (stopsAt_mapM (fun f => ?_) o.namedFields).bind_ok fun _ => stopsAt_ok _
  exact (identifier_stopsAt f.2 (.field f.1.name o.name)).bind fun _ =>
    (typeTokens_stopsAt f.1.type).bind_ok fun _ => stopsAt_ok _

theorem fileTokens_stopsAt (config : Config) (a : Artifacts) : StopsAt (fileTokens config a) (a.faults config) := by
  refine (stopsAt_mapM importTokens_stopsAt a.imports).bind fun imports => ?_
  refine (stopsAt_mapM constantTokens_stopsAt a.constants).bind fun constants => ?_
  refine (derives_stopsAt config).bind fun ds => ?_
  exact (stopsAt_mapM (objectTokens_stopsAt config ds) a.objects).bind_ok fun _ => stopsAt_ok _

end Render

end Declgen
