import Declgen.Command.Run

/-!
# Disks

What the command can rely on where files are kept: looking changes nothing, a write that fails changes nothing
either, and a write that is done changes the file that its path leads to and no other. The tree is such a disk.
-/

namespace Declgen.Command

/-- Files in a state `σ`, told apart by `κ`. More than one path may lead to a file. -/
structure Disk (σ κ : Type) where
  size : σ → String → Except FileFault Nat
  read : σ → String → Except FileFault String
  /-- A write gives the state after it. One that fails gives none. -/
  write : σ → String → String → Except FileFault σ
  /-- The file that a path leads to. -/
  file? : σ → String → Option κ
  content? : σ → κ → Option ByteArray
  size_eq : ∀ {s path bytes}, (file? s path).bind (content? s) = some bytes → size s path = .ok bytes.size
  read_eq_ok_iff : ∀ {s path text}, read s path = .ok text ↔ (file? s path).bind (content? s) = some text.toUTF8
  write_done : ∀ {s path text after}, write s path text = .ok after → ∃ file, file? after path = some file ∧
    content? after file = some text.toUTF8 ∧ (∀ other, other ≠ file → content? after other = content? s other) ∧
    ∀ p other, file? s p = some other → file? after p = some other

namespace Disk

variable {σ κ : Type}

/-- The file that the path leads to has the text in it, and no other file has changed. -/
def Wrote (d : Disk σ κ) (s : σ) (path text : String) (after : σ) : Prop :=
  ∃ file, d.file? after path = some file ∧ d.content? after file = some text.toUTF8 ∧
    ∀ other, other ≠ file → d.content? after other = d.content? s other

end Disk

/-! ## What is printed -/

/-- Where a printed text goes: how many of its bytes get out, and what is said of it if that fails. All may be gone
without a word. -/
structure Outlet where
  taken : String → Nat
  fault? : String → Option FileFault

namespace Outlet

/-- What gets out of a text: its first bytes. -/
def part (out : Outlet) (text : String) : ByteArray := text.toUTF8.extract 0 (out.taken text)

def result (out : Outlet) (text : String) : Except FileFault Unit := (out.fault? text).elim (.ok ()) .error

/-- Every text gets out as a whole. -/
def sound : Outlet := ⟨fun text => text.toUTF8.size, fun _ => none⟩

/-- Nothing gets out of a text that is not taken. -/
def Whole (out : Outlet) : Prop := ∀ text fault, out.fault? text = some fault → out.part text = .empty

end Outlet

/-! ## Runs on a disk -/

variable {σ κ : Type}

def World.of (s : σ) : World σ := ⟨s, .empty⟩

def Disk.access (d : Disk σ κ) (out : Outlet) (load : String → Except Model.LoadError Model) :
    Access (StateM (World σ)) where
  size path := return d.size (← get).files path
  read path := return d.read (← get).files path
  write path text := do
    let world ← get
    match d.write world.files path text with
    | .ok files =>
      set { world with files }
      return .ok ()
    | .error fault => return .error fault
  print text := do
    modify fun world => { world with printed := world.printed ++ out.part text }
    return out.result text
  load := load

/-! ## The tree -/

namespace Files

variable {f g : Files} {place other : Place} {entry : FileEntry}

theorem lookup_filter_ne {α : Type} {key other : Place} (h : other ≠ key) (l : List (Place × α)) :
    (l.filter (·.1 != key)).lookup other = l.lookup other := by
  induction l with
  | nil => rfl
  | cons e rest ih =>
    obtain ⟨k, v⟩ := e
    by_cases hk : k = key
    · have hne : (other == k) = false := by simpa [hk] using h
      simp [hk, ih, List.lookup_cons, hk ▸ hne]
    · simp [hk, ih, List.lookup_cons]

theorem entry?_put_of_ne (h : other ≠ place) : entry? (f.put place entry) other = f.entry? other := by
  have hne : (other == place) = false := by simpa using h
  unfold entry? put
  simp only [List.lookup_cons, hne, lookup_filter_ne h]

theorem entry?_put_self (h : place.isOuter = false) : entry? (f.put place entry) place = some entry := by
  unfold entry? put
  simp [h]

theorem isOuter_below {name : String} (hempty : name ≠ "") (hup : name ≠ "..") :
    Place.isOuter (place ++ [name]) = false := by
  simp only [Place.isOuter, List.all_append, List.all_cons, List.all_nil, Bool.and_true, Bool.or_eq_false_iff,
    Bool.and_eq_false_iff, beq_eq_false_iff_ne]
  refine ⟨.inr hup, ?_⟩
  intro h
  cases place with
  | nil => exact hempty (by simpa using h)
  | cons => simp at h

/-! ### Ways -/

theorem descend_below {name : String} (h : f.entry? place = some .directory) (hempty : name ≠ "") (hhere : name ≠ ".")
    (hup : name ≠ "..") : f.descend place name = .ok (place ++ [name]) := by
  simp [descend, h, hempty, hhere, hup]

theorem entry?_of_descend {name : String} (h : f.descend place name = .ok other) :
    f.entry? place = some .directory := by
  unfold descend at h
  split at h
  · simp at h
  · simp at h
  · assumption

theorem foldlM_descend_of_directories (h : ∀ p, f.entry? p = some .directory → g.entry? p = some .directory)
    {names : List String} (hway : names.foldlM f.descend place = .ok other) :
    names.foldlM g.descend place = .ok other := by
  induction names generalizing place with
  | nil => exact hway
  | cons name rest ih =>
    rw [List.foldlM_cons] at hway ⊢
    cases hstep : f.descend place name with
    | error fault =>
      rw [hstep] at hway
      simp [bind, Except.bind] at hway
    | ok below =>
      have hdirectory := entry?_of_descend hstep
      have hsame : g.descend place name = f.descend place name := by simp only [descend, hdirectory, h _ hdirectory]
      rw [hstep] at hway
      rw [hsame, hstep]
      exact ih hway

theorem walk_of_directories (h : ∀ p, f.entry? p = some .directory → g.entry? p = some .directory)
    {names : List String} (hway : f.walk names = .ok place) : g.walk names = .ok place := by
  unfold walk at hway ⊢
  split at hway
  · simp at hway
  · rw [if_neg ‹_›]
    exact foldlM_descend_of_directories h hway

theorem walk_concat {names : List String} {name : String} (h : f.walk names = .ok place) (hempty : name ≠ "") :
    f.walk (names ++ [name]) = f.descend place name := by
  unfold walk at h ⊢
  have hlast : names ++ [name] ≠ [""] := by
    intro heq
    have := congrArg List.getLast? heq
    simp [hempty] at this
  have hhead : (names ++ [name]).head? = some "" ↔ names.head? = some "" := by
    cases names with
    | nil => simp [hempty]
    | cons => simp
  split at h
  · simp at h
  · rw [if_neg hlast, List.foldlM_append]
    simp only [hhead]
    rw [h]
    exact bind_pure (f.descend place name)

/-! ### Files -/

def content? (f : Files) (place : Place) : Option ByteArray :=
  match f.entry? place with
  | some (.file content) => some content
  | _ => none

def file? (f : Files) (path : String) : Option Place :=
  (f.locate path).toOption.filter fun place => (f.content? place).isSome

theorem content?_eq_some_iff {content : ByteArray} :
    f.content? place = some content ↔ f.entry? place = some (.file content) := by
  unfold content?
  split <;> simp_all

theorem file?_eq_some_iff {path : String} :
    f.file? path = some place ↔ f.locate path = .ok place ∧ (f.content? place).isSome = true := by
  unfold file?
  cases f.locate path <;> simp [Except.toOption, Option.filter_eq_some_iff]

theorem find_eq_ok_iff {path : String} :
    f.find path = .ok entry ↔ ∃ p, f.locate path = .ok p ∧ f.entry? p = some entry := by
  unfold find
  cases f.locate path with
  | error fault => simp [bind, Except.bind]
  | ok p =>
    simp only [bind, Except.bind, Except.ok.injEq, exists_eq_left']
    split <;> simp_all

theorem bytesAt?_eq_some_iff {path : String} {content : ByteArray} :
    (f.file? path).bind f.content? = some content ↔ f.find path = .ok (.file content) := by
  rw [Option.bind_eq_some_iff, find_eq_ok_iff]
  simp only [file?_eq_some_iff, content?_eq_some_iff]
  constructor
  · rintro ⟨p, ⟨hway, -⟩, hentry⟩
    exact ⟨p, hway, hentry⟩
  · rintro ⟨p, hway, hentry⟩
    exact ⟨p, ⟨hway, by simp [content?, hentry]⟩, hentry⟩

theorem fromUTF8?_eq_some_iff {bytes : ByteArray} {text : String} :
    String.fromUTF8? bytes = some text ↔ bytes = text.toUTF8 := by
  unfold String.fromUTF8?
  constructor
  · intro h
    split at h
    · obtain rfl := Option.some.inj h
      rfl
    · simp at h
  · rintro rfl
    exact dif_pos text.isValidUTF8

theorem read_eq_ok_iff {path text : String} :
    f.read path = .ok text ↔ (f.file? path).bind f.content? = some text.toUTF8 := by
  rw [bytesAt?_eq_some_iff, read]
  cases f.find path with
  | error fault => simp [bind, Except.bind]
  | ok entry =>
    cases entry with
    | directory => simp [bind, Except.bind]
    | file content =>
      simp only [bind, Except.bind, Except.ok.injEq, FileEntry.file.injEq, ← fromUTF8?_eq_some_iff]
      cases String.fromUTF8? content <;> simp

theorem size_eq {path : String} {content : ByteArray} (h : (f.file? path).bind f.content? = some content) :
    f.size path = .ok content.size := by
  simp [size, bytesAt?_eq_some_iff.mp h, bind, Except.bind]

/-! ### Writes -/

theorem parts_of_target {path name : String} {parent : List String} (h : target path = (parent, some name)) :
    parts path = parent ++ [name] ∧ name ≠ "" ∧ name ≠ "." ∧ name ≠ ".." := by
  unfold target at h
  simp only at h
  split at h
  · simp at h
  · rename_i last rest hnames
    obtain ⟨rfl, hname⟩ := Prod.mk.inj h
    split at hname
    · rename_i hplain
      obtain rfl := Option.some.inj hname
      simp only [Bool.and_eq_true, bne_iff_ne, ne_eq] at hplain
      obtain ⟨⟨hslashes, hhere⟩, hup⟩ := hplain
      have hsplit := List.takeWhile_append_dropWhile (p := (· == "")) (l := (parts path).reverse)
      rw [List.isEmpty_iff.mp hslashes, hnames, List.nil_append] at hsplit
      have hempty : last ≠ "" := by
        have := List.head?_dropWhile_not (· == "") (parts path).reverse
        rw [hnames] at this
        simpa using this
      refine ⟨?_, hempty, hhere, hup⟩
      have := congrArg List.reverse hsplit
      simpa using this.symm
    · simp at hname

theorem exists_of_write {path : String} {content : ByteArray} (h : f.write path content = .ok g) :
    ∃ p, p.isOuter = false ∧ f.entry? p ≠ some .directory ∧ g = f.put p (.file content) ∧
      f.walk (parts path) = .ok p := by
  unfold write at h
  rcases htarget : target path with ⟨parent, name⟩
  rw [htarget] at h
  simp only [bind, Except.bind] at h
  split at h
  · simp at h
  rename_i place hway
  split at h
  · simp at h
  · simp at h
  rename_i hdirectory
  cases name with
  | none => simp at h
  | some name =>
    obtain ⟨hparts, hempty, hhere, hup⟩ := parts_of_target htarget
    simp only at h
    split at h
    · simp at h
    rename_i hfree
    refine ⟨place ++ [name], isOuter_below hempty hup, hfree, (Except.ok.inj h).symm, ?_⟩
    -- A path of one name is written in `.`, which is where the walk of no names ends.
    have hparent : f.walk parent = .ok place := by
      cases parent with
      | cons => exact hway
      | nil => exact hway
    rw [hparts, walk_concat hparent hempty]
    exact descend_below hdirectory hempty hhere hup

theorem directory_put (hfree : f.entry? place ≠ some .directory) :
    ∀ p, f.entry? p = some .directory → entry? (f.put place entry) p = some .directory := by
  intro p hp
  have hne : p ≠ place := by
    rintro rfl
    exact hfree hp
  rwa [entry?_put_of_ne hne]

theorem write_done {path text : String} (h : f.write path text.toUTF8 = .ok g) : ∃ p, g.file? path = some p ∧
    g.content? p = some text.toUTF8 ∧ (∀ other, other ≠ p → g.content? other = f.content? other) ∧
    ∀ q other, f.file? q = some other → g.file? q = some other := by
  obtain ⟨p, houter, hfree, rfl, hway⟩ := exists_of_write h
  have hdirectories := @directory_put f p (.file text.toUTF8) hfree
  have hcontent : (f.put p (.file text.toUTF8)).content? p = some text.toUTF8 :=
    content?_eq_some_iff.mpr (entry?_put_self houter)
  have hothers : ∀ other, other ≠ p → (f.put p (.file text.toUTF8)).content? other = f.content? other := by
    intro other hne
    simp only [content?, entry?_put_of_ne hne]
  refine ⟨p, file?_eq_some_iff.mpr ⟨walk_of_directories hdirectories hway, by rw [hcontent]; rfl⟩, hcontent,
    hothers, ?_⟩
  -- No directory goes, so every way that led to a file still leads there.
  intro q other hq
  obtain ⟨hlocate, hfile⟩ := file?_eq_some_iff.mp hq
  refine file?_eq_some_iff.mpr ⟨walk_of_directories hdirectories hlocate, ?_⟩
  by_cases hne : other = p
  · rw [hne, hcontent]
    rfl
  · rwa [hothers other hne]

end Files

def tree : Disk Files Place where
  size := Files.size
  read := Files.read
  write f path text := f.write path text.toUTF8
  file? := Files.file?
  content? := Files.content?
  size_eq := Files.size_eq
  read_eq_ok_iff := Files.read_eq_ok_iff
  write_done := Files.write_done

end Declgen.Command
