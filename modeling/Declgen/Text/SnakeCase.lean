import Declgen.Text.Cluster
import Declgen.Text.LetterCase

/-!
# Snake case

A name is cut into words at separators and at changes of letter case, and its words are joined in
lowercase by underscores. A digit run is a word of its own, and of a run of capitals before a small letter
the last one starts the next word.
-/

namespace Declgen.Text

inductive ClusterKind where
  | separator | digit | upper | lower | other
deriving DecidableEq

def clusterKind (cluster : List Char) : ClusterKind :=
  if cluster = ['_'] || cluster = ['-'] || cluster = [' '] then .separator
  else if cluster.all Char.isDigit then .digit
  else
    let up := upper cluster
    let low := lower cluster
    if up = low then .other
    else if cluster = up then .upper
    else if cluster = low then .lower
    else .other

/-- A word ends after a cluster of the first kind when clusters of these kinds follow. -/
def endsWord : ClusterKind → List ClusterKind → Bool
  | .lower, .upper :: _ | .lower, .digit :: _ | .upper, .digit :: _
  | .digit, .lower :: _ | .digit, .upper :: _ => true
  | .upper, .upper :: .lower :: _ => true
  | _, _ => false

/-- Cuts clusters into words; `current` is the word so far. Words may be empty. -/
def wordsFrom (current : List Char) : List (List Char) → List (List Char)
  | [] => [current]
  | c :: rest =>
    if clusterKind c = .separator then current :: wordsFrom [] rest
    else if endsWord (clusterKind c) ((rest.take 2).map clusterKind) then
      (current ++ c) :: wordsFrom [] rest
    else wordsFrom (current ++ c) rest

def words (cs : List Char) : List (List Char) := wordsFrom [] (clusters cs)

def snakeCase (s : String) : String :=
  String.ofList (['_'].intercalate ((words s.toList).map lower))

end Declgen.Text
