import Declgen.Proofs.Json.Scalar

/-!
# Values read back

A value that nests no deeper than the reader allows is read back from its text, whatever follows it there. Of
floating-point numbers it is taken for granted that each reads back from its own text.
-/

namespace Declgen

namespace Json

/-! ## Items and members -/

/-- The text of a value starts with a character that no reader of a container passes over. -/
def Opens (v : Json) : Prop := ∃ c text, write v = c :: text ∧ isBlank c = false ∧ c ≠ ']'

/-- `item` takes the values `vs` one after the other, from the state `s` to the state `t`. -/
inductive TakesItems {σ : Type} (item : σ → Reader σ) : σ → List Json → σ → Prop where
  | nil {s : σ} : TakesItems item s [] s
  | cons {s t u : σ} {v : Json} {vs : List Json} :
      v.Opens → (∀ rest, Delimited rest → item s (write v ++ rest) = .ok (t, rest)) →
      TakesItems item t vs u → TakesItems item s (v :: vs) u

/-- `member` takes the members `ms`, each from its colon on, from the state `s` to the state `t`. -/
inductive TakesMembers {σ : Type} (member : σ → String → Reader σ) : σ → List (String × Json) → σ → Prop where
  | nil {s : σ} : TakesMembers member s [] s
  | cons {s t u : σ} {key : String} {v : Json} {ms : List (String × Json)} :
      (∀ rest, Delimited rest → member s key (':' :: (write v ++ rest)) = .ok (t, rest)) →
      TakesMembers member t ms u → TakesMembers member s ((key, v) :: ms) u

/-- What follows the first item, up to the closing bracket. -/
def itemsTail : List Json → List Char
  | [] => []
  | vs => ',' :: writeItems vs

def membersTail : List (String × Json) → List Char
  | [] => []
  | ms => ',' :: writeMembers ms

theorem writeItems_cons (v : Json) (vs : List Json) : writeItems (v :: vs) = write v ++ itemsTail vs := by
  cases vs <;> simp [writeItems, itemsTail]

theorem writeMembers_cons (key : String) (v : Json) (ms : List (String × Json)) :
    writeMembers ((key, v) :: ms) = writeString key ++ ':' :: (write v ++ membersTail ms) := by
  cases ms <;> simp [writeMembers, membersTail]

theorem length_le_itemsTail (vs : List Json) : vs.length ≤ (itemsTail vs).length := by
  induction vs with
  | nil => exact Nat.le_refl _
  | cons v vs ih =>
    rw [itemsTail, writeItems_cons, List.length_cons, List.length_cons, List.length_append]
    · omega
    · simp

theorem length_le_membersTail (ms : List (String × Json)) : ms.length ≤ (membersTail ms).length := by
  induction ms with
  | nil => exact Nat.le_refl _
  | cons m ms ih =>
    rw [membersTail, writeMembers_cons]
    · simp only [List.length_cons, List.length_append]
      omega
    · simp

theorem delimited_itemsTail (vs : List Json) (rest : List Char) : Delimited (itemsTail vs ++ ']' :: rest) := by
  cases vs with
  | nil => exact .cons (by decide) rest
  | cons v vs => exact .cons (by decide) _

theorem delimited_membersTail (ms : List (String × Json)) (rest : List Char) :
    Delimited (membersTail ms ++ '}' :: rest) := by
  cases ms with
  | nil => exact .cons (by decide) rest
  | cons m ms => exact .cons (by decide) _

theorem skipBlanks_cons {c : Char} (h : isBlank c = false) (cs : List Char) : skipBlanks (c :: cs) = c :: cs := by
  simp [skipBlanks, h]

theorem nextItem_first {v : Json} (h : v.Opens) (rest : List Char) :
    nextItem true (write v ++ rest) = .ok (some (write v ++ rest)) := by
  obtain ⟨c, text, hwrite, hblank, hclose⟩ := h
  rw [hwrite, List.cons_append]
  unfold nextItem
  rw [skipBlanks_cons hblank]
  split
  · contradiction
  · rename_i heq
    exact (hclose (List.cons.inj heq).1).elim
  · rename_i heq
    rw [← heq]
    rfl

theorem nextItem_later {v : Json} (h : v.Opens) (rest : List Char) :
    nextItem false (',' :: (write v ++ rest)) = .ok (some (write v ++ rest)) := by
  obtain ⟨c, text, hwrite, hblank, hclose⟩ := h
  rw [hwrite, List.cons_append]
  have hcomma : isBlank ',' = false := by decide
  simp [nextItem, skipBlanks_cons hcomma, skipBlanks_cons hblank, hclose]

theorem nextKey_first (key : String) (rest : List Char) :
    nextKey true (writeString key ++ rest) = .ok (some (writeString key ++ rest)) := rfl

theorem nextKey_later (key : String) (rest : List Char) :
    nextKey false (',' :: (writeString key ++ rest)) = .ok (some (writeString key ++ rest)) := rfl

theorem key_writeString (s : String) (rest : List Char) : key (writeString s ++ rest) = .ok (s, rest) := by
  have hstring := string_writeString s rest
  simpa [key, writeString] using hstring

theorem afterColon_colon {α : Type} (value : Reader α) (cs : List Char) :
    afterColon value (':' :: cs) = value cs := rfl

section Containers

variable {σ : Type} {s t : σ}

theorem itemStep_of_next {item : σ → Reader σ} {first : Bool} {cs text rest : List Char}
    (hnext : nextItem first cs = .ok (some text)) (hitem : item s text = .ok (t, rest)) :
    itemStep item (first, s) cs = .ok (((false, t), false), rest) := by
  simp [itemStep, hnext, hitem]

theorem TakesItems.loop {item : σ → Reader σ} {vs : List Json} (h : TakesItems item s vs t)
    {budget : List Char} (hbudget : vs.length ≤ budget.length) (rest : List Char) :
    Json.loop (itemStep item) budget (false, s) (itemsTail vs ++ ']' :: rest) = .ok ((false, t), rest) := by
  induction h generalizing budget with
  | nil => exact loop_of_last rfl budget
  | @cons s t u v vs hopens hitem _ ih =>
    have hnext : nextItem false (itemsTail (v :: vs) ++ ']' :: rest) =
        .ok (some (write v ++ (itemsTail vs ++ ']' :: rest))) := by
      rw [itemsTail, writeItems_cons, List.cons_append, List.append_assoc]
      · exact nextItem_later hopens _
      · simp
    have hstep := itemStep_of_next hnext (hitem _ (delimited_itemsTail vs rest))
    obtain ⟨left, hleft, hloop⟩ := loop_of_more hstep hbudget
    rw [hloop]
    exact ih hleft

theorem TakesItems.items {item : σ → Reader σ} {vs : List Json} (h : TakesItems item s vs t)
    (rest : List Char) : Json.items item s (writeItems vs ++ ']' :: rest) = .ok (t, rest) := by
  have hloop : ∃ first, Json.loop (itemStep item) (writeItems vs ++ ']' :: rest) (true, s)
      (writeItems vs ++ ']' :: rest) = .ok ((first, t), rest) := by
    cases h with
    | nil => exact ⟨true, loop_of_last rfl _⟩
    | cons hopens hitem hrest =>
      rename_i u v vs
      have hstep := itemStep_of_next (nextItem_first hopens (itemsTail vs ++ ']' :: rest))
        (hitem _ (delimited_itemsTail vs rest))
      have hlength := length_le_itemsTail vs
      have hbudget : vs.length + 1 ≤ (write v ++ (itemsTail vs ++ ']' :: rest)).length := by
        simp only [List.length_append, List.length_cons]
        omega
      rw [writeItems_cons, List.append_assoc]
      obtain ⟨left, hleft, hloop⟩ := loop_of_more hstep hbudget
      exact ⟨false, hloop.trans (hrest.loop hleft rest)⟩
  obtain ⟨first, hloop⟩ := hloop
  unfold Json.items
  rw [hloop]
  rfl

theorem memberStep_of_next {member : σ → String → Reader σ} {first : Bool} {key : String}
    {cs text rest : List Char} (hnext : nextKey first cs = .ok (some (writeString key ++ text)))
    (hmember : member s key text = .ok (t, rest)) :
    memberStep member (first, s) cs = .ok (((false, t), false), rest) := by
  simp [memberStep, hnext, key_writeString, hmember]

theorem TakesMembers.loop {member : σ → String → Reader σ} {ms : List (String × Json)}
    (h : TakesMembers member s ms t) {budget : List Char} (hbudget : ms.length ≤ budget.length)
    (rest : List Char) :
    Json.loop (memberStep member) budget (false, s) (membersTail ms ++ '}' :: rest) =
      .ok ((false, t), rest) := by
  induction h generalizing budget with
  | nil => exact loop_of_last rfl budget
  | @cons s t u key v ms hmember _ ih =>
    have hnext : nextKey false (membersTail ((key, v) :: ms) ++ '}' :: rest) =
        .ok (some (writeString key ++ ':' :: (write v ++ (membersTail ms ++ '}' :: rest)))) := by
      rw [membersTail, writeMembers_cons, List.cons_append, List.append_assoc, List.cons_append, List.append_assoc]
      · exact nextKey_later key _
      · simp
    have hstep := memberStep_of_next hnext (hmember _ (delimited_membersTail ms rest))
    obtain ⟨left, hleft, hloop⟩ := loop_of_more hstep hbudget
    rw [hloop]
    exact ih hleft

theorem TakesMembers.members {member : σ → String → Reader σ} {ms : List (String × Json)}
    (h : TakesMembers member s ms t) (rest : List Char) :
    Json.members member s (writeMembers ms ++ '}' :: rest) = .ok (t, rest) := by
  have hloop : ∃ first, Json.loop (memberStep member) (writeMembers ms ++ '}' :: rest) (true, s)
      (writeMembers ms ++ '}' :: rest) = .ok ((first, t), rest) := by
    cases h with
    | nil => exact ⟨true, loop_of_last rfl _⟩
    | cons hmember hrest =>
      rename_i u key v ms
      have hstep := memberStep_of_next (nextKey_first key (':' :: (write v ++ (membersTail ms ++ '}' :: rest))))
        (hmember _ (delimited_membersTail ms rest))
      have hlength := length_le_membersTail ms
      have hbudget : ms.length + 1 ≤
          (writeString key ++ ':' :: (write v ++ (membersTail ms ++ '}' :: rest))).length := by
        simp only [List.length_append, List.length_cons]
        omega
      rw [writeMembers_cons, List.append_assoc, List.cons_append, List.append_assoc]
      obtain ⟨left, hleft, hloop⟩ := loop_of_more hstep hbudget
      exact ⟨false, hloop.trans (hrest.loop hleft rest)⟩
  obtain ⟨first, hloop⟩ := hloop
  unfold Json.members
  rw [hloop]
  rfl

end Containers

/-! ## Values -/

mutual
/-- The numbers in a value. -/
def numbers : Json → List Number
  | .num x => [x]
  | .arr items => numbersOfItems items
  | .obj members => numbersOfMembers members
  | .null | .bool _ | .str _ => []

def numbersOfItems : List Json → List Number
  | [] => []
  | v :: rest => numbers v ++ numbersOfItems rest

def numbersOfMembers : List (String × Json) → List Number
  | [] => []
  | m :: rest => numbers m.2 ++ numbersOfMembers rest
end

/-- A value that can be read back where `nesting` more containers are allowed. -/
structure Fits (v : Json) (nesting : Nat) : Prop where
  depth : v.depth ≤ nesting
  numbers : ∀ x ∈ v.numbers, x.ReadsBack

theorem Fits.items {vs : List Json} {nesting : Nat} (h : (arr vs).Fits (nesting + 1)) :
    ∀ v ∈ vs, v.Fits nesting := by
  have hdepth : depthOfItems vs ≤ nesting := Nat.le_of_succ_le_succ h.depth
  have hnumbers : ∀ x ∈ numbersOfItems vs, x.ReadsBack := h.numbers
  clear h
  induction vs with
  | nil => simp
  | cons v vs ih =>
    rw [depthOfItems] at hdepth
    rw [numbersOfItems] at hnumbers
    refine List.forall_mem_cons.mpr ⟨⟨by omega, fun x hx => hnumbers x (List.mem_append_left _ hx)⟩, ?_⟩
    exact ih (by omega) fun x hx => hnumbers x (List.mem_append_right _ hx)

theorem Fits.members {ms : List (String × Json)} {nesting : Nat} (h : (obj ms).Fits (nesting + 1)) :
    ∀ m ∈ ms, m.2.Fits nesting := by
  have hdepth : depthOfMembers ms ≤ nesting := Nat.le_of_succ_le_succ h.depth
  have hnumbers : ∀ x ∈ numbersOfMembers ms, x.ReadsBack := h.numbers
  clear h
  induction ms with
  | nil => simp
  | cons m ms ih =>
    rw [depthOfMembers] at hdepth
    rw [numbersOfMembers] at hnumbers
    refine List.forall_mem_cons.mpr ⟨⟨by omega, fun x hx => hnumbers x (List.mem_append_left _ hx)⟩, ?_⟩
    exact ih (by omega) fun x hx => hnumbers x (List.mem_append_right _ hx)

theorem exists_startsNumber {cs : List Char} {x : Number} {rest : List Char} (h : number cs = .ok (x, rest)) :
    ∃ c text, cs = c :: text ∧ startsNumber c = true := by
  obtain ⟨⟨n, after⟩, hn, -⟩ := bind_eq_ok_iff.mp h
  unfold numeral at hn
  split at hn
  · exact ⟨_, _, rfl, rfl⟩
  · obtain ⟨⟨whole, after⟩, hwhole, -⟩ := bind_eq_ok_iff.mp hn
    unfold wholeDigits at hwhole
    split at hwhole
    · exact ⟨_, _, rfl, rfl⟩
    · unfold digits1 at hwhole
      split at hwhole
      · simp at hwhole
      · split at hwhole
        · rename_i hc
          exact ⟨_, _, rfl, by simp [startsNumber, hc]⟩
        · simp at hwhole

theorem startsNumber_ne {c : Char} (h : startsNumber c = true) :
    isBlank c = false ∧ c ≠ ']' ∧ c ≠ '[' ∧ c ≠ '{' ∧ c ≠ '"' ∧ c ≠ 'n' ∧ c ≠ 't' ∧ c ≠ 'f' := by
  have hne : ∀ d, startsNumber d = false → c ≠ d := by
    rintro d hd rfl
    simp [h] at hd
  refine ⟨?_, hne _ (by decide), hne _ (by decide), hne _ (by decide), hne _ (by decide), hne _ (by decide),
    hne _ (by decide), hne _ (by decide)⟩
  have hspace := hne ' ' (by decide)
  have htab := hne '\t' (by decide)
  have hreturn := hne '\r' (by decide)
  have hnewline := hne '\n' (by decide)
  simp [isBlank, hspace, htab, hreturn, hnewline]

theorem Fits.opens {v : Json} {nesting : Nat} (h : v.Fits nesting) : v.Opens := by
  cases v with
  | null => exact ⟨_, _, rfl, by decide, by decide⟩
  | bool b => cases b <;> exact ⟨_, _, rfl, by decide, by decide⟩
  | num x =>
    have hnumber := number_chars (h.numbers x List.mem_cons_self) Delimited.nil
    rw [List.append_nil] at hnumber
    obtain ⟨c, text, htext, hstarts⟩ := exists_startsNumber hnumber
    obtain ⟨hblank, hclose, -⟩ := startsNumber_ne hstarts
    exact ⟨c, text, htext, hblank, hclose⟩
  | str s => exact ⟨_, _, rfl, by decide, by decide⟩
  | arr items => exact ⟨_, _, rfl, by decide, by decide⟩
  | obj members => exact ⟨_, _, rfl, by decide, by decide⟩

@[elab_as_elim]
theorem induction {P : Json → Prop} (null : P .null) (bool : ∀ b, P (.bool b)) (num : ∀ x, P (.num x))
    (str : ∀ s, P (.str s)) (arr : ∀ items, (∀ v ∈ items, P v) → P (.arr items))
    (obj : ∀ members, (∀ m ∈ members, P m.2) → P (.obj members)) (v : Json) : P v :=
  @Json.rec P (fun items => ∀ v ∈ items, P v) (fun members => ∀ m ∈ members, P m.2) (fun m => P m.2)
    null bool num str arr obj (by simp) (fun _ _ hv hrest => List.forall_mem_cons.mpr ⟨hv, hrest⟩)
    (by simp) (fun _ _ hm hrest => List.forall_mem_cons.mpr ⟨hm, hrest⟩) (fun _ _ h => h) v

theorem takesItems_value {n : Nat} {vs : List Json}
    (h : ∀ v ∈ vs, v.Opens ∧ ∀ rest, Delimited rest → value n (write v ++ rest) = .ok (v, rest))
    (sofar : List Json) :
    TakesItems (fun vs cs => value n cs >>= fun out => .ok (out.1 :: vs, out.2)) sofar vs
      (vs.reverse ++ sofar) := by
  induction vs generalizing sofar with
  | nil => exact .nil
  | cons v vs ih =>
    obtain ⟨⟨hopens, hread⟩, hrest⟩ := List.forall_mem_cons.mp h
    rw [List.reverse_cons, List.append_assoc]
    refine .cons hopens (fun rest hdelimited => ?_) (ih hrest (v :: sofar))
    rw [hread rest hdelimited]
    rfl

theorem takesMembers_value {n : Nat} {ms : List (String × Json)}
    (h : ∀ m ∈ ms, ∀ rest, Delimited rest → value n (write m.2 ++ rest) = .ok (m.2, rest))
    (sofar : List (String × Json)) :
    TakesMembers (fun ms key cs => afterColon (value n) cs >>= fun out => .ok ((key, out.1) :: ms, out.2))
      sofar ms (ms.reverse ++ sofar) := by
  induction ms generalizing sofar with
  | nil => exact .nil
  | cons m ms ih =>
    obtain ⟨hread, hrest⟩ := List.forall_mem_cons.mp h
    rw [List.reverse_cons, List.append_assoc]
    refine .cons (fun rest hdelimited => ?_) (ih hrest (m :: sofar))
    rw [afterColon_colon, hread rest hdelimited]
    rfl

theorem value_write (v : Json) {nesting : Nat} (h : v.Fits nesting) {rest : List Char}
    (hrest : Delimited rest) : value nesting (write v ++ rest) = .ok (v, rest) := by
  induction v using Json.induction generalizing nesting rest with
  | null => cases nesting <;> rfl
  | bool b => cases b <;> cases nesting <;> rfl
  | num x =>
    have hnumber := number_chars (h.numbers x List.mem_cons_self) hrest
    obtain ⟨c, text, htext, hstarts⟩ := exists_startsNumber hnumber
    obtain ⟨hblank, -, hlist, hobject, hquote, hn, ht, hf⟩ := startsNumber_ne hstarts
    rw [write]
    rw [htext] at hnumber ⊢
    unfold value
    rw [skipBlanks_cons hblank]
    simp [scalar, hstarts, hnumber, hlist, hobject]
  | str s =>
    have hstring := string_writeString s rest
    cases nesting <;> simp [value, write, writeString, skipBlanks, isBlank, scalar, hstring]
  | arr items ih =>
    cases nesting with
    | zero => exact absurd h.depth (Nat.not_succ_le_zero _)
    | succ n =>
      have htakes := takesItems_value (n := n) (fun v hv =>
        ⟨(h.items v hv).opens, fun rest hrest => ih v hv (h.items v hv) hrest⟩) []
      have hitems := htakes.items rest
      rw [List.append_nil] at hitems
      have hopen : skipBlanks (write (arr items) ++ rest) = '[' :: (writeItems items ++ ']' :: rest) := by
        simp [write, skipBlanks, isBlank]
      unfold value
      rw [hopen]
      refine bind_eq_ok_iff.mpr ⟨_, hitems, ?_⟩
      simp only [List.reverse_reverse]
  | obj members ih =>
    cases nesting with
    | zero => exact absurd h.depth (Nat.not_succ_le_zero _)
    | succ n =>
      have htakes := takesMembers_value (n := n) (fun m hm rest hrest => ih m hm (h.members m hm) hrest) []
      have hmembers := htakes.members rest
      rw [List.append_nil] at hmembers
      have hopen : skipBlanks (write (obj members) ++ rest) = '{' :: (writeMembers members ++ '}' :: rest) := by
        simp [write, skipBlanks, isBlank]
      unfold value
      rw [hopen]
      refine bind_eq_ok_iff.mpr ⟨_, hmembers, ?_⟩
      simp only [List.reverse_reverse]

theorem whole_of_append {α : Type} {reader : Reader α} {a : α} {cs : List Char}
    (h : reader (cs ++ []) = .ok (a, [])) : whole reader (String.ofList cs) = .ok a := by
  rw [List.append_nil] at h
  unfold whole
  rw [String.toList_ofList, h, ok_bind]
  exact if_pos rfl

end Json

end Declgen
