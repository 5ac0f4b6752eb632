import Bindery.Proofs.Block

/-!
# Texts one after the other

A text that ends with a line feed and is followed by another text has the lines
of both, one after the other.  If the second text opens with no attribute, no
record goes on from one text into the other, so the records follow each other
too.  Those of the second text stand further down.
-/

namespace Bindery

/-! ## Lines -/

namespace Text

theorem linesFrom_append (line first second : List Char) :
    linesFrom line (first ++ '\n' :: second) =
      linesFrom line (first ++ ['\n']) ++ linesFrom [] second := by
  induction first generalizing line with
  | nil => rfl
  | cons c rest ih =>
      by_cases feed : c = '\n'
      · subst feed
        exact congrArg (dropReturn line.reverse :: ·) (ih [])
      · simp only [List.cons_append, linesFrom, ih]

theorem lines_append {first : String} (ends : first.toList.getLast? = some '\n')
    (second : String) : lines (first ++ second) = lines first ++ lines second := by
  rcases List.getLast?_eq_some_iff.mp ends with ⟨front, split⟩
  rw [lines, lines, String.toList_append, split, List.append_assoc, List.singleton_append,
    linesFrom_append, List.map_append]
  rfl

theorem lines_feed_append (first second : String) :
    lines (first ++ "\n" ++ second) = lines (first ++ "\n") ++ lines second := by
  apply lines_append
  rw [String.toList_append]
  exact List.getLast?_concat

end Text

/-! ## Records -/

namespace Record

theorem ofDump_append {first second : String} (ends : first.toList.getLast? = some '\n')
    (starts : ∀ line ∈ (Text.lines second).head?, isAttribute line.toList = false) :
    (ofDump (first ++ second)).1 =
      (ofDump first).1 ++ (ofDump second).1.map (moved · (Text.lines first).length) := by
  simp only [ofDump, Text.lines_append ends, Block.blocksFrom_append 0 _ starts,
    Block.blocksFrom_add 0, List.map_append, List.filterMap_append, List.map_map,
    List.filterMap_map, List.map_filterMap]
  congr
  funext block
  exact block.record_moved _

end Record

end Bindery
