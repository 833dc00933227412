import Declgen.Proofs.Json.RoundTrip
import Declgen.Proofs.Model.Loadable

/-!
# Nodes and models read back

The interchange form of a node says all there is to the node. So a node is read back from its text, and a model
that the loader would let through is loaded back from its text, where the text does not nest too deep.
-/

namespace Declgen

open Json (Delimited)

namespace Node

/-! ## The interchange form -/

/-- The fields that follow the kind in the interchange form. -/
def fields : Node → List (String × Json)
  | .array inner | .nullable inner => [("inner", inner.toJson)]
  | .map key value => [("key", key.toJson), ("value", value.toJson)]
  | .object name entries => [("name", .str name), ("entries", .arr (entriesJson entries))]
  | .string name members => ("name", .str name) :: enumJson .str members
  | .number name repr members => ("name", .str name) :: ("repr", .str repr.name) :: enumJson .num members
  | .boolean | .date | .any => []

/-- The nodes right below a node. -/
def children : Node → List Node
  | .array inner | .nullable inner => [inner]
  | .map key value => [key, value]
  | .object _ entries => entries.map (·.type)
  | .string _ _ | .number _ _ _ | .boolean | .date | .any => []

theorem toJson_eq (node : Node) : node.toJson = .obj (("kind", .str node.kind.name) :: node.fields) := by
  cases node <;> rfl

theorem entriesJson_eq_map (entries : List (Entry Node)) : entriesJson entries = entries.map fun e =>
    .obj [("name", .str e.name), ("type", e.type.toJson), ("tag", .str e.tag)] := by
  induction entries with
  | nil => rfl
  | cons e rest ih => rw [entriesJson, ih, List.map_cons]

theorem fst_enumJson {α : Type} {value : α → Json} {members : List (Member α)} :
    ∀ m ∈ enumJson value members, m.1 = "enum" := by
  cases members <;> simp [enumJson]

theorem fst_ne_kind {node : Node} : ∀ m ∈ node.fields, m.1 ≠ "kind" := by
  have henum : "enum" ≠ "kind" := by decide
  cases node with
  | string name members =>
    refine List.forall_mem_cons.mpr ⟨(by decide : "name" ≠ "kind"), fun m hm => ?_⟩
    rw [fst_enumJson m hm]
    exact henum
  | number name repr members =>
    refine List.forall_mem_cons.mpr ⟨(by decide : "name" ≠ "kind"), ?_⟩
    refine List.forall_mem_cons.mpr ⟨(by decide : "repr" ≠ "kind"), fun m hm => ?_⟩
    rw [fst_enumJson m hm]
    exact henum
  | _ => simp [fields]

theorem depth_of_mem_entriesJson {entries : List (Entry Node)} {e : Entry Node} (he : e ∈ entries) :
    e.type.toJson.depth ≤ Json.depthOfItems (entriesJson entries) := by
  induction entries with
  | nil => simp at he
  | cons f rest ih =>
    rw [entriesJson, Json.depthOfItems]
    rcases List.mem_cons.mp he with rfl | he
    · simp only [Json.depth, Json.depthOfMembers]
      omega
    · have hrest := ih he
      omega

theorem depth_of_mem_children {node child : Node} (h : child ∈ node.children) :
    child.toJson.depth < node.toJson.depth := by
  cases node with
  | array inner | nullable inner =>
    obtain rfl := List.mem_singleton.mp h
    simp only [toJson, Json.depth, Json.depthOfMembers]
    omega
  | map key value =>
    simp only [toJson, Json.depth, Json.depthOfMembers]
    rcases List.mem_cons.mp h with rfl | h
    · omega
    · obtain rfl := List.mem_singleton.mp h
      omega
  | object name entries =>
    obtain ⟨e, he, rfl⟩ := List.mem_map.mp h
    have hdepth := depth_of_mem_entriesJson he
    simp only [toJson, Json.depth, Json.depthOfMembers]
    omega
  | _ => simp [children] at h

/-! ## Decoding -/

section Decoding

variable {α : Type}

theorem listOf_map {item : Json → Decoded α} {json : α → Json} {l : List α}
    (h : ∀ a ∈ l, item (json a) = .ok a) : listOf item (.arr (l.map json)) = .ok l := by
  induction l with
  | nil => rfl
  | cons a rest ih =>
    obtain ⟨ha, hrest⟩ := List.forall_mem_cons.mp h
    have hmap : (rest.map json).mapM item = .ok rest := ih hrest
    simp [listOf, ha, hmap]

theorem memberOf_memberJson {value : Json → Decoded α} {json : α → Json} {m : Member α}
    (h : value (json m.value) = .ok m.value) : memberOf value (memberJson json m) = .ok m := by
  simp [memberOf, memberJson, fill, textOf, required, h]

theorem membersOf_map {value : Json → Decoded α} (json : α → Json) (h : ∀ a, value (json a) = .ok a)
    (members : List (Member α)) : membersOf value (.arr (members.map (memberJson json))) = .ok members :=
  listOf_map fun m _ => memberOf_memberJson (h m.value)

theorem entryOf_json {node : Json → Decoded Node} {e : Entry Node} (h : node e.type.toJson = .ok e.type) :
    entryOf node (.obj [("name", .str e.name), ("type", e.type.toJson), ("tag", .str e.tag)]) = .ok e := by
  simp [entryOf, fill, textOf, required, h]

end Decoding

theorem ofBody_fields {decode : Json → Decoded Node} {node : Node}
    (h : ∀ child ∈ node.children, decode child.toJson = .ok child) :
    ofBody decode node.kind (.named node.fields) = .ok node := by
  cases node with
  | array inner | nullable inner =>
    have hinner := h inner List.mem_cons_self
    simp [ofBody, kind, fields, innerOf, fill, required, hinner]
  | map key value =>
    have hkey := h key List.mem_cons_self
    have hvalue := h value (List.mem_cons_of_mem _ List.mem_cons_self)
    simp [ofBody, kind, fields, mapOf, fill, required, hkey, hvalue]
  | object name entries =>
    have hentries : listOf (entryOf decode) (.arr (entriesJson entries)) = .ok entries := by
      rw [entriesJson_eq_map]
      exact listOf_map fun e he => entryOf_json (h e.type (List.mem_map_of_mem he))
    simp [ofBody, kind, fields, objectOf, fill, textOf, hentries]
  | string name members =>
    cases members with
    | nil => simp [ofBody, kind, fields, stringOf, enumJson, fill, textOf]
    | cons m ms =>
      have hmembers : membersOf textOf (.arr (memberJson .str m :: ms.map (memberJson .str))) = .ok (m :: ms) :=
        membersOf_map Json.str (fun _ => rfl) (m :: ms)
      simp [ofBody, kind, fields, stringOf, enumJson, fill, textOf, hmembers]
  | number name repr members =>
    have hrepr : reprOf true (.str repr.name) = .ok repr := by
      simp [reprOf, reprNamed, Representation.ofName?_name]
    cases members with
    | nil => simp [ofBody, kind, fields, numericOf, enumJson, fill, textOf, required, hrepr]
    | cons m ms =>
      have hmembers : membersOf numberOf (.arr (memberJson .num m :: ms.map (memberJson .num))) = .ok (m :: ms) :=
        membersOf_map Json.num (fun _ => rfl) (m :: ms)
      simp [ofBody, kind, fields, numericOf, enumJson, fill, textOf, required, hrepr, hmembers]
  | boolean | date | any => rfl

theorem kindAmong_some {k : Kind} {members : List (String × Json)} (h : ∀ m ∈ members, m.1 ≠ "kind") :
    kindAmong (some k) members = .ok k := by
  induction members with
  | nil => rfl
  | cons m rest ih =>
    obtain ⟨hm, hrest⟩ := List.forall_mem_cons.mp h
    rw [kindAmong, if_neg hm, ih hrest]

theorem withoutKind_eq {k : Json} {members : List (String × Json)} (h : ∀ m ∈ members, m.1 ≠ "kind") :
    withoutKind (("kind", k) :: members) = members := by
  have hkept : withoutKind members = members := List.filter_eq_self.mpr fun m hm => by simpa using h m hm
  rw [withoutKind, List.filter_cons_of_neg (by simp)]
  exact hkept

theorem kindNamed_name (k : Kind) : kindNamed k.name = .ok k := by
  simp [kindNamed, Kind.ofName?_name]

theorem ofJson_toJson (node : Node) {nesting : Nat} (h : node.toJson.depth ≤ nesting) :
    ofJson nesting node.toJson = .ok node := by
  induction nesting generalizing node with
  | zero =>
    rw [toJson_eq] at h
    exact absurd h (Nat.not_succ_le_zero _)
  | succ n ih =>
    have hchildren : ∀ child ∈ node.children, ofJson n child.toJson = .ok child := fun child hchild =>
      ih child (Nat.le_of_lt_succ (Nat.lt_of_lt_of_le (depth_of_mem_children hchild) h))
    have hkind : kindAmong none (("kind", .str node.kind.name) :: node.fields) = .ok node.kind := by
      simp [kindAmong, kindOf, kindNamed_name, kindAmong_some fst_ne_kind]
    rw [toJson_eq, ofJson]
    simp only [hkind, ok_bind, withoutKind_eq fst_ne_kind]
    exact ofBody_fields hchildren

/-! ## Numbers -/

mutual
/-- The values of the numeric enumerations in a node. -/
def numbers : Node → List Number
  | .array inner | .nullable inner => numbers inner
  | .map key value => numbers key ++ numbers value
  | .object _ entries => numbersOfEntries entries
  | .number _ _ members => members.map (·.value)
  | .string _ _ | .boolean | .date | .any => []

def numbersOfEntries : List (Entry Node) → List Number
  | [] => []
  | e :: rest => numbers e.type ++ numbersOfEntries rest
end

theorem numbersOfMembers_enumJson {α : Type} (json : α → Json) (number : α → List Number)
    (h : ∀ a, (json a).numbers = number a) (members : List (Member α)) :
    Json.numbersOfMembers (enumJson json members) = members.flatMap fun m => number m.value := by
  have hitems : ∀ ms : List (Member α), Json.numbersOfItems (ms.map (memberJson json)) =
      ms.flatMap fun m => number m.value := by
    intro ms
    induction ms with
    | nil => rfl
    | cons m ms ih => simp [Json.numbersOfItems, ih, memberJson, Json.numbers, Json.numbersOfMembers, h]
  cases members with
  | nil => rfl
  | cons m ms =>
    rw [enumJson, Json.numbersOfMembers, Json.numbers, hitems]
    · exact List.append_nil _
    · simp

theorem numbers_toJson (node : Node) : node.toJson.numbers = node.numbers := by
  induction node using Node.induction with
  | array inner ih | nullable inner ih =>
    simpa [toJson, Json.numbers, Json.numbersOfMembers, numbers] using ih
  | map key value ihk ihv => simp [toJson, Json.numbers, Json.numbersOfMembers, numbers, ihk, ihv]
  | object name entries ih =>
    have hentries : Json.numbersOfItems (entriesJson entries) = numbersOfEntries entries := by
      induction entries with
      | nil => rfl
      | cons e rest ihrest =>
        obtain ⟨he, hrest⟩ := List.forall_mem_cons.mp ih
        simp [entriesJson, Json.numbersOfItems, Json.numbers, Json.numbersOfMembers, numbersOfEntries, he,
          ihrest hrest]
    simp [toJson, Json.numbers, Json.numbersOfMembers, numbers, hentries]
  | string name members =>
    have henum := numbersOfMembers_enumJson Json.str (fun _ => []) (fun _ => rfl) members
    simp [toJson, Json.numbers, Json.numbersOfMembers, numbers, henum]
  | number name repr members =>
    have henum := numbersOfMembers_enumJson Json.num (fun x => [x]) (fun _ => rfl) members
    rw [← List.map_eq_flatMap] at henum
    simp [toJson, Json.numbers, Json.numbersOfMembers, numbers, henum]
  | boolean | date | any => rfl

/-! ## Reading -/

theorem kindValue_write (k : Kind) (rest : List Char) :
    kindValue (Json.writeString k.name ++ rest) = .ok (k, rest) := by
  have hstring := Json.string_writeString k.name rest
  have hvalue : Json.stringValue "variant identifier" (Json.writeString k.name ++ rest) =
      .ok (k.name, rest) := by
    simp [Json.stringValue, Json.writeString, Json.skipBlanks, Json.isBlank, hstring]
  simp [kindValue, hvalue, kindNamed_name]

theorem takesMembers_outerMember {n : Nat} {k : Kind} {members : List (String × Json)}
    (hkind : ∀ m ∈ members, m.1 ≠ "kind") (h : ∀ m ∈ members, m.2.Fits n) (sofar : List (String × Json)) :
    Json.TakesMembers (outerMember n) (some k, sofar) members (some k, members.reverse ++ sofar) := by
  induction members generalizing sofar with
  | nil => exact .nil
  | cons m rest ih =>
    obtain ⟨hm, hrest⟩ := List.forall_mem_cons.mp hkind
    obtain ⟨hfits, hfitsRest⟩ := List.forall_mem_cons.mp h
    rw [List.reverse_cons, List.append_assoc]
    refine .cons (fun after hafter => ?_) (ih hrest hfitsRest (m :: sofar))
    rw [outerMember, if_neg hm, Json.afterColon_colon, Json.value_write m.2 hfits hafter]
    rfl

theorem read_write {node : Node} {nesting : Nat} (h : node.toJson.Fits nesting) (rest : List Char) :
    read nesting (Json.write node.toJson ++ rest) = .ok (node, rest) := by
  cases nesting with
  | zero =>
    have hdepth := h.depth
    rw [toJson_eq] at hdepth
    exact absurd hdepth (Nat.not_succ_le_zero _)
  | succ n =>
    have hfields : ∀ m ∈ node.fields, m.2.Fits n := fun m hm =>
      Json.Fits.members (toJson_eq node ▸ h) m (List.mem_cons_of_mem _ hm)
    have htakes : Json.TakesMembers (outerMember n) (none, []) (("kind", .str node.kind.name) :: node.fields)
        (some node.kind, node.fields.reverse) := by
      have hrest := takesMembers_outerMember (k := node.kind) fst_ne_kind hfields []
      rw [List.append_nil] at hrest
      refine .cons (fun after _ => ?_) hrest
      rw [outerMember, if_pos rfl, Json.afterColon_colon, Json.write, kindValue_write]
      rfl
    have hmembers := htakes.members rest
    have hchildren : ∀ child ∈ node.children, ofJson (n + 1) child.toJson = .ok child := fun child hchild =>
      ofJson_toJson child (Nat.le_trans (Nat.le_of_lt (depth_of_mem_children hchild)) h.depth)
    have hopen : Json.skipBlanks (Json.write node.toJson ++ rest) =
        '{' :: (Json.writeMembers (("kind", .str node.kind.name) :: node.fields) ++ '}' :: rest) := by
      rw [toJson_eq]
      simp [Json.write, Json.skipBlanks, Json.isBlank]
    unfold read
    rw [hopen]
    refine bind_eq_ok_iff.mpr ⟨_, hmembers, ?_⟩
    simp [required, ofBody_fields hchildren]

end Node

namespace Model

/-- The values of the numeric enumerations in a model. -/
def numbers (m : Model) : List Number := m.flatMap fun root => root.2.numbers

theorem insert_of_not_mem {m : Model} {key : String} (h : key ∉ m.map (·.1)) (node : Node) :
    m.insert key node = m ++ [(key, node)] := by
  induction m with
  | nil => rfl
  | cons root rest ih =>
    have hne : key ≠ root.1 := fun heq => h (heq ▸ List.mem_cons_self)
    have hrest : key ∉ List.map (·.1) rest := fun hmem => h (List.mem_cons_of_mem _ hmem)
    have hfalse : (root.1 == key) = false := by simpa using hne.symm
    rw [insert, hfalse]
    simp [ih hrest]

theorem takesMembers_insert {n : Nat} {roots : List (String × Node)}
    (h : ∀ root ∈ roots, root.2.toJson.Fits n) (sofar : Model)
    (hkeys : ((sofar ++ roots).map (·.1)).Nodup) :
    Json.TakesMembers
      (fun (m : Model) key cs => Json.afterColon (Node.read n) cs >>= fun out => .ok (m.insert key out.1, out.2))
      sofar (roots.map fun root => (root.1, root.2.toJson)) (sofar ++ roots) := by
  induction roots generalizing sofar with
  | nil =>
    rw [List.append_nil]
    exact .nil
  | cons root rest ih =>
    obtain ⟨hroot, hrest⟩ := List.forall_mem_cons.mp h
    have hnew : root.1 ∉ sofar.map (·.1) := by
      rw [List.map_append, List.map_cons] at hkeys
      intro hmem
      exact (List.nodup_append.mp hkeys).2.2 _ hmem _ List.mem_cons_self rfl
    have hsplit : sofar ++ root :: rest = (sofar ++ [root]) ++ rest := by simp
    rw [hsplit] at hkeys ⊢
    refine .cons (fun after hafter => ?_) (ih hrest (sofar ++ [root]) hkeys)
    rw [Json.afterColon_colon, Node.read_write hroot, ok_bind, insert_of_not_mem hnew]

theorem read_write {m : Model} (hm : m.Distinct) {nesting : Nat} (h : m.toJson.Fits nesting)
    (rest : List Char) : read nesting (Json.write m.toJson ++ rest) = .ok (m, rest) := by
  cases nesting with
  | zero => exact absurd h.depth (Nat.not_succ_le_zero _)
  | succ n =>
    have hroots : ∀ root ∈ m, root.2.toJson.Fits n := fun root hroot =>
      Json.Fits.members h _ (List.mem_map_of_mem hroot)
    have hmembers := (takesMembers_insert hroots [] hm).members rest
    have hopen : Json.skipBlanks (Json.write m.toJson ++ rest) =
        '{' :: (Json.writeMembers (m.map fun root => (root.1, root.2.toJson)) ++ '}' :: rest) := by
      simp [toJson, Json.write, Json.skipBlanks, Json.isBlank]
    unfold read
    rw [hopen]
    exact hmembers

theorem numbers_toJson (m : Model) : m.toJson.numbers = m.numbers := by
  unfold toJson numbers
  rw [Json.numbers]
  induction m with
  | nil => rfl
  | cons root rest ih => rw [List.map_cons, Json.numbersOfMembers, ih, Node.numbers_toJson, List.flatMap_cons]

end Model

/-- A node whose text nests no deeper than the reader allows is parsed back from it. A model that satisfies what
the loader checks is loaded back from its text. Integers are to fit 64 bits, and floating-point numbers to read
back from their own texts. -/
theorem json_reads_back :
    (∀ node : Node, (∀ x ∈ node.numbers, x.ReadsBack) → node.toJson.depth ≤ Json.nestingLimit →
      Node.parse (Json.render node.toJson) = .ok node) ∧
    (∀ m : Model, m.Loadable → (∀ x ∈ m.numbers, x.ReadsBack) → m.toJson.depth ≤ Json.nestingLimit →
      Model.load (Json.render m.toJson) = .ok m) := by
  constructor
  · intro node hnumbers hdepth
    have hfits : node.toJson.Fits Json.nestingLimit := ⟨hdepth, (Node.numbers_toJson node).symm ▸ hnumbers⟩
    exact Json.whole_of_append (Node.read_write hfits [])
  · intro m hload hnumbers hdepth
    have hfits : m.toJson.Fits Json.nestingLimit := ⟨hdepth, (Model.numbers_toJson m).symm ▸ hnumbers⟩
    have hparse : Model.parse (Json.render m.toJson) = .ok m :=
      Json.whole_of_append (Model.read_write hload.distinct hfits [])
    unfold Model.load
    rw [hparse]
    simp [hload.sound]

/-- An object with an enumeration of all sorts of numbers, and with names that are escaped in a text. -/
def meterNode : Node := .object "pkg.Meter" [
  ⟨"step", .number "pkg.Step" .float64 [
    ⟨"StepHalf", .float ⟨true, 4503599627370496, -53⟩⟩,
    ⟨"StepDown", .int (-7)⟩,
    ⟨"StepFar", .int 18446744073709551615⟩],
    "json:\"s\""⟩,
  ⟨"log\n", .map (.string "" []) (.nullable (.array .date)), ""⟩]

theorem Number.readsBack_of_toOption {x : Number.Double}
    (h : (Json.number x.chars).toOption = some (.float x, [])) : (Number.float x).ReadsBack :=
  toOption_eq_some_iff.mp h

theorem readsBack_of_meterNode : ∀ x ∈ meterNode.numbers, x.ReadsBack := by
  intro x hx
  simp only [meterNode, Node.numbers, Node.numbersOfEntries, List.map_cons, List.map_nil, List.append_nil] at hx
  rcases List.mem_cons.mp hx with rfl | hx
  · exact Number.readsBack_of_toOption (by decide +kernel)
  rcases List.mem_cons.mp hx with rfl | hx
  · exact (by decide : Number.fitsInteger (-7) = true)
  · obtain rfl := List.mem_singleton.mp hx
    exact (by decide : Number.fitsInteger 18446744073709551615 = true)

def meterModel : Model := [("pkg.Meter", meterNode), ("pkg.Flag", .boolean)]

theorem json_reads_back_meter :
    Node.parse (Json.render meterNode.toJson) = .ok meterNode ∧
      Model.load (Json.render meterModel.toJson) = .ok meterModel := by
  have hload : meterModel.Loadable := ⟨by unfold Model.Distinct; decide, by decide +kernel⟩
  have hnumbers : ∀ x ∈ meterModel.numbers, x.ReadsBack := by
    have hnone : meterModel.numbers = meterNode.numbers := by
      simp [meterModel, Model.numbers, Node.numbers]
    rw [hnone]
    exact readsBack_of_meterNode
  exact ⟨json_reads_back.1 meterNode readsBack_of_meterNode (by decide +kernel),
    json_reads_back.2 meterModel hload hnumbers (by decide +kernel)⟩

end Declgen
