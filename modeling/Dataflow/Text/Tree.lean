namespace Dataflow.Text

/-!
# Trees as text

A tree is drawn with one line for each node, children below their parent and connected to it by lines.
-/

/-- A tree of labels. -/
inductive Tree where
  | node (label : String) (children : List Tree)

namespace Tree

mutual

/-- The lines of a tree; the second text leads all lines but the first. -/
def lines : Tree → String → List String
  | .node label children, lead => label :: childLines children lead

/-- The lines of the children of a node, the last of which ends the line that connects them. -/
def childLines : List Tree → String → List String
  | [], _ => []
  | [child], lead => connect (lead ++ "└─ ") (child.lines (lead ++ "   "))
  | child :: other :: rest, lead =>
      connect (lead ++ "├─ ") (child.lines (lead ++ "│  ")) ++ childLines (other :: rest) lead

/-- Lines of which the first is connected to the parent. -/
def connect (connector : String) : List String → List String
  | [] => []
  | first :: rest => (connector ++ first) :: rest

end

/-- The drawing of a tree, every line of it ended. -/
def render (tree : Tree) : String :=
  String.join ((tree.lines "").map (· ++ "\n"))

end Tree

end Dataflow.Text
