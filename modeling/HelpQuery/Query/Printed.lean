import HelpQuery.Query.Tree
import HelpQuery.Text.Quoted

/-!
# Printed trees

Two texts of a tree: the query string on one line, in the usual notation of boolean queries, and
the tree view with one line for each leaf, group and clause, indented by depth.
-/

namespace HelpQuery

namespace Atom

/-- An atom in a query string. -/
def queryString : Atom → String
  | term text => text
  | wildcard pattern => pattern
  | phrase terms => "\"" ++ " ".intercalate terms ++ "\""

/-- The name of an atom's kind in the tree view. -/
def viewName : Atom → String
  | term _ => "Term"
  | wildcard _ => "Wildcard"
  | phrase _ => "Phrase"

/-- What an atom looks for, quoted. -/
def viewText : Atom → String
  | term text => Text.quote text
  | wildcard pattern => Text.quote pattern
  | phrase terms => Text.quoteList terms

end Atom

/-- The name of a requirement in the tree view. -/
def Requirement.viewName : Requirement → String
  | required => "Required"
  | prohibited => "Prohibited"
  | optional => "Optional"

namespace Tree

mutual

/-- The tree on one line, such as `+(title:java^5 contents:java) -contents:swing`. -/
def queryString : Tree → String
  | leaf field atom boost => field ++ ":" ++ atom.queryString ++ boostSuffix boost
  | boolean cs => " ".intercalate (clauseStrings cs)

/-- The clauses of a group with their marks, groups among them in parentheses. -/
def clauseStrings : List (Clause Tree) → List String
  | [] => []
  | ⟨requirement, query⟩ :: rest =>
    (requirement.mark ++
      if query.isGroup then "(" ++ query.queryString ++ ")" else query.queryString)
      :: clauseStrings rest

end

/-- A line at a depth of the tree view, two spaces for each level. -/
def viewLine (depth : Nat) (text : String) : String :=
  String.ofList (List.replicate (2 * depth) ' ') ++ text

mutual

/-- The lines of the tree view, starting at a depth. -/
def viewLines (depth : Nat) : Tree → List String
  | leaf field atom boost =>
    [viewLine depth
      (atom.viewName ++ "(" ++ field ++ ":" ++ atom.viewText ++ ", boost=" ++ boost.text ++ ")")]
  | boolean cs => viewLine depth "Boolean" :: clauseViewLines depth cs

/-- The lines of the clauses of a group at a depth. -/
def clauseViewLines (depth : Nat) : List (Clause Tree) → List String
  | [] => []
  | ⟨requirement, query⟩ :: rest =>
    viewLine (depth + 1) requirement.viewName :: viewLines (depth + 2) query
      ++ clauseViewLines depth rest

end

/-- The tree view, every line ended by a line feed. -/
def view (tree : Tree) : String := String.join ((tree.viewLines 0).map (· ++ "\n"))

end Tree

end HelpQuery
