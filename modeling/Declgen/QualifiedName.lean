/-!
# Qualified names

A qualified name is a module and an identifier with a dot between them. The module may hold dots itself, so
only the text after the last one is the identifier, and a name without a dot is an identifier alone.
-/

namespace Declgen.QualifiedName

/-- The text after the last dot. -/
def bareChars (cs : List Char) : List Char := (cs.reverse.takeWhile (· != '.')).reverse

/-- The text before the last dot, or nothing. -/
def moduleChars (cs : List Char) : List Char := (cs.reverse.dropWhile (· != '.')).tail.reverse

def bare (name : String) : String := String.ofList (bareChars name.toList)

def module_ (name : String) : String := String.ofList (moduleChars name.toList)

/-- A name without a dot is an identifier alone. -/
theorem bare_of_not_mem {name : String} (h : '.' ∉ name.toList) : bare name = name := by
  have hall : ∀ c ∈ name.toList.reverse, (c != '.') = true := by
    intro c hc
    rw [bne_iff_ne]
    rintro rfl
    exact h (List.mem_reverse.mp hc)
  have hwhole : (name.toList.reverse ++ []).takeWhile (· != '.') = name.toList.reverse ++ [] :=
    List.takeWhile_append_of_pos hall
  rw [List.append_nil] at hwhole
  rw [bare, bareChars, hwhole, List.reverse_reverse, String.ofList_toList]

end Declgen.QualifiedName
