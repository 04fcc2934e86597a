import Preseed.Files.Basic

/-! # Listings

What a directory lists is told by the places of files and directories; what the files hold has no part in
it. -/

namespace Preseed

/-- An item without its content. -/
def FileNode.emptied : FileNode → FileNode
  | file _ => file []
  | directory => directory

namespace FileTree

/-- The tree with every file emptied. -/
def emptied (t : FileTree) : FileTree :=
  { items := t.items.map fun i => (i.1, i.2.emptied) }

theorem lookup_emptied (items : List (List String × FileNode)) (here : List String) :
    (items.map fun i => (i.1, i.2.emptied)).lookup here = (items.lookup here).map FileNode.emptied := by
  induction items with
  | nil => rfl
  | cons i items ih =>
      rw [List.map_cons, List.lookup_cons, List.lookup_cons, ih]
      cases here == i.1 <;> rfl

theorem node?_emptied (t : FileTree) (here : List String) :
    t.emptied.node? here = (t.node? here).map FileNode.emptied := by
  have hany : t.emptied.items.any (here.isPrefixOf ·.1) = t.items.any (here.isPrefixOf ·.1) := by
    rw [emptied, List.any_map]
    rfl
  unfold node?
  rw [hany, emptied, lookup_emptied]
  split
  · rfl
  · cases t.items.lookup here with
    | some node => rfl
    | none =>
        dsimp only [Option.map_none]
        split <;> rfl

theorem walk_emptied (t : FileTree) (here parts : List String) :
    t.emptied.walk here parts = t.walk here parts := by
  induction parts generalizing here with
  | nil => rfl
  | cons part parts ih =>
      rw [walk, walk, node?_emptied]
      cases t.node? here with
      | none => rfl
      | some node =>
          cases node with
          | file content => rfl
          | directory => simp only [Option.map_some, FileNode.emptied, ih]

theorem find_emptied (t : FileTree) (path : String) :
    t.emptied.find path = (t.find path).map fun i => (i.1, i.2.emptied) := by
  unfold find
  rw [walk_emptied]
  cases path.isEmpty with
  | true => rfl
  | false =>
      cases t.walk (origin path) (components path) with
      | error e => rfl
      | ok here =>
          simp only [Bool.false_eq_true, if_false, bind, Except.bind, pure, Except.pure, node?_emptied]
          cases t.node? here <;> rfl

theorem names_emptied (t : FileTree) (here : List String) : t.emptied.names here = t.names here := by
  rw [names, emptied, List.filterMap_map]
  rfl

theorem list_emptied (t : FileTree) (path : String) : t.emptied.list path = t.list path := by
  unfold list
  rw [find_emptied]
  cases t.find path with
  | error e => rfl
  | ok found =>
      obtain ⟨here, node⟩ := found
      cases node with
      | file content => rfl
      | directory =>
          simp only [Except.map, FileNode.emptied, bind, Except.bind, names_emptied, node?_emptied]
          refine congrArg Except.ok (List.map_congr_left fun name _ => ?_)
          cases t.node? (here ++ [name]) with
          | none => rfl
          | some node => cases node <;> rfl

/-- Two trees list the same items everywhere if they differ in what files hold only. -/
theorem list_congr {t u : FileTree} (h : t.emptied = u.emptied) (path : String) :
    t.list path = u.list path := by
  rw [← list_emptied t, h, list_emptied]

end FileTree

end Preseed
