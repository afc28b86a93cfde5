import DocStore.Pattern.Syntax

/-!
This module contains the joining of the branches of an alternation: what all branches begin with
stands once before them, and branches of one character each are a class.
-/

namespace DocStore.Pattern

def factor : List Node → List (List Node) → List Node × List (List Node)
  | [], others => ([], [] :: others)
  | n :: first, others =>
    if others.all fun b => b.head?.any n.sameLeaf then
      let (common, branches) := factor first (others.map List.tail)
      (n :: common, branches)
    else ([], (n :: first) :: others)

def classItems? : List Node → Option (List ClassItem)
  | [.char false c] => some [.char c]
  | [.charClass false items] => some items
  | _ => none

def joinBranches : List (List Node) → List Node
  | [] => []
  | [nodes] => nodes
  | first :: others =>
    let (common, branches) := factor first others
    match branches.mapM classItems? with
    | some items => common ++ [.charClass false items.flatten.eraseDups]
    | none => common ++ [.alternation branches]

end DocStore.Pattern
