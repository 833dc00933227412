import Declgen.Proofs.Artifact
import Declgen.Proofs.Ordered
import Declgen.Proofs.Render.Faults
import Declgen.Proofs.Render.Items

/-!
# Files are read back

The tokens of artifacts that mention nothing from elsewhere are the tokens of items, so a file is made of them.
-/

namespace Declgen.Render

open Source
open Source.Token (BalancedRows)

theorem forall₂_of_mapM {α β : Type} {f : α → Except RenderFault β} {l : List α} {bs : List β}
    (h : l.mapM f = .ok bs) : List.Forall₂ (fun a b => f a = .ok b) l bs := by
  induction l generalizing bs with
  | nil =>
    obtain rfl := Except.ok.inj h
    exact .nil
  | cons a rest ih =>
    rw [List.mapM_cons] at h
    obtain ⟨c, hc, hrest⟩ := bind_eq_ok_iff.mp h
    obtain ⟨cs, hcs, hout⟩ := bind_eq_ok_iff.mp hrest
    obtain rfl := Except.ok.inj hout
    exact .cons hc (ih hcs)

theorem exists_of_mem_mapM {α β : Type} {f : α → Except RenderFault β} {l : List α} {bs : List β}
    (h : l.mapM f = .ok bs) {b : β} (hb : b ∈ bs) : ∃ a ∈ l, f a = .ok b :=
  exists_mem_of_forall₂ (forall₂_of_mapM h).flip hb

/-! ## Several items -/

/-- The tokens are those of items, one after the other. -/
def AreItems (ts : List Token) : Prop :=
  ∃ rows : List (List Token), (∀ row ∈ rows, IsItem row) ∧ ts = rows.flatten

theorem areItems_nil : AreItems [] := ⟨[], by simp, rfl⟩

theorem IsItem.areItems {row : List Token} (h : IsItem row) : AreItems row := ⟨[row], by simpa using h, by simp⟩

theorem AreItems.append {xs ys : List Token} (hx : AreItems xs) (hy : AreItems ys) : AreItems (xs ++ ys) := by
  obtain ⟨xrows, hxrows, rfl⟩ := hx
  obtain ⟨yrows, hyrows, rfl⟩ := hy
  exact ⟨xrows ++ yrows, List.forall_mem_append.mpr ⟨hxrows, hyrows⟩, by simp⟩

theorem areItems_flatten {parts : List (List Token)} (h : ∀ part ∈ parts, AreItems part) :
    AreItems parts.flatten := by
  induction parts with
  | nil => exact areItems_nil
  | cons part rest ih =>
    obtain ⟨hpart, hrest⟩ := List.forall_mem_cons.mp h
    exact hpart.append (ih hrest)

theorem length_le_length_flatten {rows : List (List Token)} (h : ∀ row ∈ rows, row ≠ []) :
    rows.length ≤ rows.flatten.length := by
  induction rows with
  | nil => simp
  | cons row rest ih =>
    obtain ⟨hrow, hrest⟩ := List.forall_mem_cons.mp h
    have hpos := List.length_pos_iff.mpr hrow
    have := ih hrest
    simp only [List.length_cons, List.flatten_cons, List.length_append]
    omega

/-- The row is read as `i` by a level that is deep enough, before what follows it there. -/
def ReadAs (row : List Token) (i : Item) : Prop :=
  ∃ depth rest, row.length ≤ depth ∧ Parser.item (Parser.level depth) (row ++ rest) = some (i, rest)

theorem IsStruct.fieldCount?_eq {count : Nat} {row : List Token} (h : IsStruct count row) {i : Item}
    (hi : ReadAs row i) : fieldCount? i.declaration = some count := by
  obtain ⟨depth, rest, hdepth, hread⟩ := hi
  obtain ⟨j, hj, hcount⟩ := h.reads depth hdepth rest
  obtain ⟨rfl, -⟩ := Prod.mk.inj (Option.some.inj (hread.symm.trans hj))
  exact hcount

theorem items?_flatten {rows : List (List Token)} (hrows : ∀ row ∈ rows, IsItem row) :
    ∃ is, items? rows.flatten = some is ∧ List.Forall₂ ReadAs rows is := by
  have hread : ∀ row ∈ rows, row ≠ [] ∧
      ∀ more, Parser.Yields (Parser.item (Parser.any rows.flatten)) row more (ReadAs row) := by
    intro row hrow
    have hlength : row.length ≤ rows.flatten.length + 1 :=
      Nat.le_succ_of_le (List.sublist_flatten_of_mem hrow).length_le
    refine ⟨(hrows row hrow).nonempty, fun more => ?_⟩
    obtain ⟨i, hi⟩ := (hrows row hrow).reads (rows.flatten.length + 1) hlength more
    exact ⟨i, hi, _, more, hlength, hi⟩
  obtain ⟨is, his, hR⟩ :=
    Parser.repeated_yields hread (length_le_length_flatten fun row hrow => (hread row hrow).1)
  exact ⟨is, by simp [Source.items?, his], hR⟩

/-! ## What is written -/

theorem isAttribute_derives {config : Config} {ts : List Token} (h : derives config = .ok ts) : IsAttribute ts := by
  obtain ⟨paths, hpaths, hout⟩ := bind_eq_ok_iff.mp h
  obtain rfl := Except.ok.inj hout
  split
  · exact .inl rfl
  · refine isAttribute_attribute (by decide) fun row hrow => ?_
    obtain ⟨d, -, hd⟩ := exists_of_mem_mapM hpaths hrow
    unfold deriveTokens at hd
    split at hd
    · obtain rfl := Except.ok.inj hd
      exact Written.path_balanced _ _
    · simp at hd

theorem isAttribute_serde (f : FieldArtifact) (name : String) : IsAttribute (serde f name) := by
  have hargs : BalancedRows (serdeArguments f name) := by
    unfold serdeArguments
    simp only
    split
    · simp
    · refine Token.BalancedRows.append ?_ ?_
      · split <;> simp [setting]
      · split
        · cases emptyTest? f.type <;> simp [setting]
        · simp
  unfold serde
  split
  · exact .inl rfl
  · exact isAttribute_attribute (by decide) hargs

theorem isAttribute_allow : IsAttribute (attribute_ "allow" [[.plain "non_upper_case_globals"]]) :=
  isAttribute_attribute (by decide) (by simp)

/-! ### Constants -/

theorem exists_of_memberTokens {base : Primitive} {type : List Token} {e : ConstantEntry} {row : List Token}
    (h : memberTokens base type e = .ok row) : Source.isIdentifier e.name = true ∧
      ∃ value, value? base e.value = some value ∧ row = attribute_ "allow" [[.plain "non_upper_case_globals"]] ++
        .plain "pub" :: .plain "const" :: .identifier e.name :: .sign ':' :: type ++ .sign '=' :: value ++
          [.sign ';'] := by
  obtain ⟨name, hname, hmore⟩ := bind_eq_ok_iff.mp h
  obtain ⟨hidentifier, rfl⟩ := identifier_eq_ok_iff.mp hname
  split at hmore
  · simp at hmore
  · rename_i value hvalue
    obtain rfl := Except.ok.inj hmore
    exact ⟨hidentifier, value, hvalue, rfl⟩

theorem isItem_memberTokens {base : Primitive} {t : Token} (ht : t.isName = true) {e : ConstantEntry}
    {row : List Token} (h : memberTokens base (memberType base t) e = .ok row) : IsItem row := by
  obtain ⟨hname, value, hvalue, rfl⟩ := exists_of_memberTokens h
  exact isItem_constant (Token.isName_identifier hname) isAttribute_allow (memberType_reads base ht)
    (isValue_of_value? hvalue)

theorem exists_of_constantTokens {c : ConstantArtifact} {ts : List Token} (h : constantTokens c = .ok ts) :
    Source.isIdentifier c.name = true ∧ ∃ front members, ts = front ++ members.flatten ∧ IsItem front ∧
      List.Forall₂ (fun e row => memberTokens c.base (memberType c.base (.identifier c.name)) e = .ok row ∧ IsItem row)
        c.entries members := by
  obtain ⟨t, hname, hmore⟩ := bind_eq_ok_iff.mp h
  obtain ⟨members, hmembers, hout⟩ := bind_eq_ok_iff.mp hmore
  obtain rfl := Except.ok.inj hout
  obtain ⟨hidentifier, rfl⟩ := identifier_eq_ok_iff.mp hname
  have ht := Token.isName_identifier hidentifier
  refine ⟨hidentifier, _, members, rfl, isItem_alias ht (isType_name (isName_sourceName c.base)), ?_⟩
  exact (forall₂_of_mapM hmembers).imp fun e row he => ⟨he, isItem_memberTokens ht he⟩

theorem areItems_constantTokens {c : ConstantArtifact} {ts : List Token} (h : constantTokens c = .ok ts) :
    AreItems ts := by
  obtain ⟨-, front, members, rfl, hfront, hmembers⟩ := exists_of_constantTokens h
  refine hfront.areItems.append (areItems_flatten fun row hrow => ?_)
  obtain ⟨e, -, -, hitem⟩ := exists_mem_of_forall₂ hmembers.flip hrow
  exact hitem.areItems

/-! ### Structs -/

section Objects

variable {config : Config} {extra : TypeExpr → Nat}

theorem exists_of_fieldTokens {object : String} {f : FieldArtifact × String} {row : List Token}
    (h : fieldTokens config object f = .ok row) : Source.isIdentifier f.2 = true ∧
      ∃ type, typeTokens f.1.type = .ok type ∧
        row = (if config.serializes then serde f.1 f.2 else []) ++
          .plain "pub" :: .identifier f.2 :: .sign ':' :: type := by
  obtain ⟨t, hname, hmore⟩ := bind_eq_ok_iff.mp h
  obtain ⟨type, htype, hout⟩ := bind_eq_ok_iff.mp hmore
  obtain rfl := Except.ok.inj hout
  obtain ⟨hidentifier, rfl⟩ := identifier_eq_ok_iff.mp hname
  exact ⟨hidentifier, type, htype, rfl⟩

theorem exists_of_objectTokens {ds : List Token} {o : ObjectArtifact} {ts : List Token}
    (h : objectTokens config ds o = .ok ts) : Source.isIdentifier o.name = true ∧ ∃ rows,
      List.Forall₂ (fun f row => fieldTokens config o.name f = .ok row)
        (o.fields.zip (fieldNames (o.fields.map (·.name)))) rows ∧
      ts = ds ++ [.plain "pub", .plain "struct", .identifier o.name] ++
        Token.inBrackets .curly (Token.commas rows) := by
  obtain ⟨t, hname, hmore⟩ := bind_eq_ok_iff.mp h
  obtain ⟨rows, hrows, hout⟩ := bind_eq_ok_iff.mp hmore
  obtain rfl := Except.ok.inj hout
  obtain ⟨hidentifier, rfl⟩ := identifier_eq_ok_iff.mp hname
  exact ⟨hidentifier, rows, forall₂_of_mapM hrows, rfl⟩

theorem map_fst_zip_fieldNames (o : ObjectArtifact) :
    (o.fields.zip (fieldNames (o.fields.map (·.name)))).map Prod.fst = o.fields :=
  List.map_fst_zip (by simp [length_fieldNames])

theorem map_snd_zip_fieldNames (o : ObjectArtifact) :
    (o.fields.zip (fieldNames (o.fields.map (·.name)))).map Prod.snd = fieldNames (o.fields.map (·.name)) :=
  List.map_snd_zip (by simp [length_fieldNames])

theorem isAttribute_field (config : Config) (f : FieldArtifact) (name : String) :
    IsAttribute (if config.serializes then serde f name else []) := by
  split
  · exact isAttribute_serde f name
  · exact .inl rfl

theorem areFields_fieldTokens {object : String} {f : FieldArtifact × String}
    (hextra : ∀ row, typeTokens f.1.type = .ok row → IsSpliced (extra f.1.type) row) {row : List Token}
    (h : fieldTokens config object f = .ok row) : AreFields (extra f.1.type + 1) row := by
  obtain ⟨hname, type, htype, rfl⟩ := exists_of_fieldTokens h
  exact (hextra type htype).areFields (isAttribute_field config f.1 f.2) (Token.isName_identifier hname)

theorem isStruct_objectTokens {ds : List Token} (hds : IsAttribute ds) {o : ObjectArtifact}
    (hextra : ∀ f ∈ o.fields, ∀ row, typeTokens f.type = .ok row → IsSpliced (extra f.type) row) {ts : List Token}
    (h : objectTokens config ds o = .ok ts) : IsStruct (o.fields.map fun f => extra f.type + 1).sum ts := by
  obtain ⟨hname, rows, hrows, rfl⟩ := exists_of_objectTokens h
  let named := o.fields.zip (fieldNames (o.fields.map (·.name)))
  have hfields : List.Forall₂ AreFields (named.map fun f => extra f.1.type + 1) rows := by
    rw [List.forall₂_map_left_iff]
    have hin := (List.forall₂_and_left named rows).mpr ⟨fun f => id, hrows⟩
    refine hin.imp fun f row hrow => areFields_fieldTokens ?_ hrow.2
    exact hextra f.1 (List.of_mem_zip hrow.1).1
  have hcounts : (named.map fun f => extra f.1.type + 1) = o.fields.map fun f => extra f.type + 1 := by
    rw [← map_fst_zip_fieldNames o, List.map_map]
    rfl
  rw [← hcounts]
  exact isStruct_of_areFields (Token.isName_identifier hname) hds hfields

/-! ### Files -/

/-- Imports that are items and types with some fields behind them make a file. Each struct in it has the fields of its
object, and those behind their types. -/
theorem items?_of_fileTokens {a : Artifacts} (himports : ∀ i ∈ a.imports, ∀ row, importTokens i = .ok row → IsItem row)
    (hextra : ∀ t ∈ a.fieldTypes, ∀ row, typeTokens t = .ok row → IsSpliced (extra t) row) {ts : List Token}
    (h : fileTokens config a = .ok ts) :
    ∃ front structs, items? ts = some (front ++ structs) ∧ List.Forall₂
      (fun o i => fieldCount? i.declaration = some (o.fields.map fun f => extra f.type + 1).sum) a.objects structs := by
  unfold fileTokens at h
  obtain ⟨imports, hrows, h⟩ := bind_eq_ok_iff.mp h
  obtain ⟨constants, hconstants, h⟩ := bind_eq_ok_iff.mp h
  obtain ⟨ds, hds, h⟩ := bind_eq_ok_iff.mp h
  obtain ⟨objects, hobjects, h⟩ := bind_eq_ok_iff.mp h
  obtain rfl := Except.ok.inj h
  have hdate : AreItems (if a.usesDateTime then dateImport else []) := by
    split
    · exact isItem_dateImport.areItems
    · exact areItems_nil
  have huses : AreItems imports.flatten := areItems_flatten fun part hpart => by
    obtain ⟨i, hi, hrow⟩ := exists_of_mem_mapM hrows hpart
    exact (himports i hi part hrow).areItems
  have hblocks : AreItems constants.flatten := areItems_flatten fun part hpart => by
    obtain ⟨c, -, hc⟩ := exists_of_mem_mapM hconstants hpart
    exact areItems_constantTokens hc
  obtain ⟨before, hbefore, hfront⟩ := (hdate.append huses).append hblocks
  have hstructs : List.Forall₂ (fun o row => IsStruct (o.fields.map fun f => extra f.type + 1).sum row)
      a.objects objects := by
    have hin := (List.forall₂_and_left a.objects objects).mpr ⟨fun o => id, forall₂_of_mapM hobjects⟩
    refine hin.imp fun o row hrow => isStruct_objectTokens (isAttribute_derives hds) ?_ hrow.2
    exact fun f hf => hextra f.type (List.mem_flatMap.mpr ⟨o, hrow.1, List.mem_map_of_mem hf⟩)
  have hitems : ∀ row ∈ before ++ objects, IsItem row := by
    refine List.forall_mem_append.mpr ⟨hbefore, fun row hrow => ?_⟩
    obtain ⟨o, -, hstruct⟩ := exists_mem_of_forall₂ hstructs.flip hrow
    exact hstruct.isItem
  obtain ⟨is, his, hread⟩ := items?_flatten hitems
  have hlast := (List.forall₂_drop_append is before objects hread.flip).flip
  refine ⟨is.take before.length, is.drop before.length, ?_, ?_⟩
  · rw [List.take_append_drop, hfront, ← List.flatten_append]
    exact his
  · exact forall₂_trans (fun o row i hstruct hi => hstruct.fieldCount?_eq hi) hstructs hlast

end Objects

theorem file_of_fileTokens {config : Config} {a : Artifacts} (himports : a.imports = [])
    (hlocal : ∀ t ∈ a.fieldTypes, t.isLocal = true) {ts : List Token} (h : fileTokens config a = .ok ts) :
    ∃ source, file config a = .ok source := by
  have hspliced : ∀ t ∈ a.fieldTypes, ∀ row, typeTokens t = .ok row → IsSpliced 0 row :=
    fun t ht row hrow => (isType_typeTokens (hlocal t ht) hrow).isSpliced
  obtain ⟨front, structs, his, -⟩ := items?_of_fileTokens (by simp [himports]) hspliced h
  unfold file
  rw [h]
  simp only [his]
  exact ⟨_, rfl⟩

end Declgen.Render
