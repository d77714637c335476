import Reckon.Grammar.Rule

/-!
# Parse trees

A parse tree has a node for every rule on the way down and a token for every terminal that is
not punctuation.
-/

namespace Reckon.Grammar

inductive ParseTree where
  | node (rule : Rule) (children : List ParseTree)
  | token (terminal : Terminal) (word : List Char)
  deriving Repr

namespace ParseTree

/-- The name of the rule or terminal at the root. -/
def label : ParseTree → String
  | node rule _ => rule.label
  | token terminal _ => terminal.label

/-- The tokens that a terminal leaves for a word. -/
def ofWord (terminal : Terminal) (word : List Char) : List ParseTree :=
  if terminal.isPunctuation then [] else [token terminal word]

mutual

/-- The first subtree, from the root down and from left to right, with the given label. -/
def find? (wanted : String) : ParseTree → Option ParseTree
  | node rule children =>
      if rule.label = wanted then
        some (node rule children)
      else
        findIn? wanted children
  | token terminal word =>
      if terminal.label = wanted then some (token terminal word) else none

def findIn? (wanted : String) : List ParseTree → Option ParseTree
  | [] => none
  | tree :: trees => (tree.find? wanted).or (findIn? wanted trees)

end

end ParseTree

end Reckon.Grammar
