import StateGuard.Python.Syntax

/-!
# The nodes around a node

A walk is transitive, and where every node has one parent (`OneParent`) the nodes around a node
form a chain (`comparable`).  So a node stands in one statement only: `owner_unique`.

The induction is on the number of levels of a node, which falls from a node to its children.
-/

namespace Python

/-! ## Levels -/

theorem length_joinLevels (left right : List (List Node)) :
    (joinLevels left right).length = max left.length right.length := by
  induction left generalizing right with
  | nil => simp [joinLevels]
  | cons l left ih =>
    cases right with
    | nil => simp [joinLevels]
    | cons r right => simp only [joinLevels, List.length_cons, ih]; omega

theorem length_le_joinAll {forest : List (List Node)} {forests : List (List (List Node))}
    (h : forest ∈ forests) : forest.length ≤ (joinAll forests).length := by
  induction forests with
  | nil => cases h
  | cons first rest ih =>
    rw [joinAll_cons, length_joinLevels]
    rcases List.mem_cons.1 h with rfl | h
    · exact Nat.le_max_left _ _
    · exact Nat.le_trans (ih h) (Nat.le_max_right _ _)

theorem levels_lt_of_mem_children {n child : Node} (h : child ∈ n.children) :
    child.levels.length < n.levels.length := by
  rw [levels_eq n, List.length_cons]
  exact Nat.lt_succ_of_le (length_le_joinAll (List.mem_map.2 ⟨child, h, rfl⟩))

/-- What holds of a node when it holds of its children holds of every node. -/
theorem node_induction {motive : Node → Prop}
    (step : ∀ n, (∀ child ∈ n.children, motive child) → motive n) (n : Node) : motive n :=
  step n fun child _ => node_induction step child
termination_by n.levels.length
decreasing_by exact levels_lt_of_mem_children ‹_›

/-! ## Walks -/

theorem mem_walk_self (n : Node) : n ∈ walk n := mem_walk.2 (Or.inl rfl)

theorem mem_walk_of_child {n child below : Node} (hchild : child ∈ n.children)
    (h : below ∈ walk child) : below ∈ walk n :=
  mem_walk.2 (Or.inr ⟨child, hchild, h⟩)

theorem mem_walk_trans {n between below : Node} (hbetween : between ∈ walk n)
    (h : below ∈ walk between) : below ∈ walk n := by
  induction n using node_induction with
  | step n ih =>
    rcases mem_walk.1 hbetween with rfl | ⟨child, hchild, hin⟩
    · exact h
    · exact mem_walk_of_child hchild (ih child hchild hin)

theorem mem_walk_child {n between child : Node} (hbetween : between ∈ walk n)
    (h : child ∈ between.children) : child ∈ walk n :=
  mem_walk_trans hbetween (mem_walk_of_child h (mem_walk_self child))

/-- What is below a node is the node itself, or the child of one that is below it. -/
theorem exists_parent_of_mem_walk {n below : Node} (h : below ∈ walk n) :
    below = n ∨ ∃ parent ∈ walk n, below ∈ parent.children := by
  induction n using node_induction with
  | step n ih =>
    rcases mem_walk.1 h with rfl | ⟨child, hchild, hin⟩
    · exact Or.inl rfl
    · rcases ih child hchild hin with rfl | ⟨parent, hparent, hbelow⟩
      · exact Or.inr ⟨n, mem_walk_self n, hchild⟩
      · exact Or.inr ⟨parent, mem_walk_of_child hchild hparent, hbelow⟩

theorem levels_le_of_mem_walk {n below : Node} (h : below ∈ walk n) :
    below.levels.length ≤ n.levels.length := by
  induction n using node_induction with
  | step n ih =>
    rcases mem_walk.1 h with rfl | ⟨child, hchild, hin⟩
    · exact Nat.le_refl _
    · exact Nat.le_trans (ih child hchild hin) (Nat.le_of_lt (levels_lt_of_mem_children hchild))

/-- No node is below one of its children. -/
theorem notMem_walk_child {n child : Node} (h : child ∈ n.children) : n ∉ walk child :=
  fun hin => absurd (levels_le_of_mem_walk hin) (Nat.not_le_of_lt (levels_lt_of_mem_children h))

/-! ## One parent -/

/-- In the tree of a node, every node that is an object has one parent. -/
structure OneParent (root : Node) : Prop where
  parent : ∀ first ∈ walk root, ∀ second ∈ walk root, ∀ child, child.info?.isSome →
    child ∈ first.children → child ∈ second.children → first = second

section

variable {root : Node}

/-- Of two nodes around one node, one is around the other, if what is below the first are
objects. -/
theorem comparable (tree : OneParent root) {first second below : Node} (hfirst : first ∈ walk root)
    (hsecond : second ∈ walk root)
    (hobjects : ∀ n ∈ walk first, n.info?.isSome)
    (h : below ∈ walk first) (h' : below ∈ walk second) :
    first ∈ walk second ∨ second ∈ walk first := by
  induction first using node_induction with
  | step first ih =>
    rcases mem_walk.1 h with rfl | ⟨child, hchild, hin⟩
    · exact Or.inl h'
    · have hsub : ∀ n ∈ walk child, n.info?.isSome := fun n hn =>
        hobjects n (mem_walk_of_child hchild hn)
      rcases ih child hchild (mem_walk_child hfirst hchild) hsub hin with hunder | hover
      · rcases exists_parent_of_mem_walk hunder with rfl | ⟨parent, hparent, hbelow⟩
        · exact Or.inr (mem_walk_of_child hchild (mem_walk_self _))
        · have heq : first = parent :=
            tree.parent first hfirst parent (mem_walk_trans hsecond hparent) child
              (hsub child (mem_walk_self child)) hchild hbelow
          exact Or.inl (heq ▸ hparent)
      · exact Or.inr (mem_walk_of_child hchild hover)

/-! ## Expressions -/

/-- Whether a node is an expression, or a keyword argument. -/
def Node.isExpr : Node → Bool
  | .expr _ | .keyword _ => true
  | _ => false

theorem isExpr_of_mem_children {n child : Node} (hn : n.isExpr) (h : child ∈ n.children) :
    child.isExpr := by
  cases n with
  | expr e =>
    cases e <;> simp only [Node.children, List.mem_append, List.mem_cons, List.mem_map,
      List.not_mem_nil, or_false] at h <;> grind [Node.isExpr]
  | keyword k =>
    rw [Node.children, List.mem_singleton] at h
    subst h
    rfl
  | arg | arguments | pattern | stmt | matchCase | handler => simp [Node.isExpr] at hn

theorem isExpr_of_mem_walk {n below : Node} (hn : n.isExpr) (h : below ∈ walk n) :
    below.isExpr := by
  induction n using node_induction with
  | step n ih =>
    rcases mem_walk.1 h with rfl | ⟨child, hchild, hin⟩
    · exact hn
    · exact ih child hchild (isExpr_of_mem_children hn hchild) hin

theorem info?_of_isExpr {n : Node} (hn : n.isExpr) : n.info?.isSome := by
  cases n with
  | expr | keyword => rfl
  | arg | arguments | pattern | stmt | matchCase | handler => simp [Node.isExpr] at hn

/-- A node below an expression of a statement is below no expression of another statement. -/
theorem owner_unique (tree : OneParent root) {first second : Stmt} {e e' : Expr} {below : Node}
    (hfirst : .stmt first ∈ walk root) (hsecond : .stmt second ∈ walk root)
    (he : .expr e ∈ (Node.stmt first).children) (he' : .expr e' ∈ (Node.stmt second).children)
    (h : below ∈ walk (.expr e)) (h' : below ∈ walk (.expr e')) : first = second := by
  have hin := mem_walk_child hfirst he
  have hin' := mem_walk_child hsecond he'
  have hobjects : ∀ n ∈ walk (.expr e), n.info?.isSome := fun n hn =>
    info?_of_isExpr (isExpr_of_mem_walk rfl hn)
  -- an expression below another has an expression for its parent, and no statement
  have hsame : ∀ {s s' : Stmt} {inner outer : Expr}, .stmt s ∈ walk root →
      .expr inner ∈ (Node.stmt s).children → .stmt s' ∈ walk root →
      .expr outer ∈ (Node.stmt s').children → Node.expr inner ∈ walk (.expr outer) → s = s' := by
    intro s s' inner outer hs hinner hs' houter hbelow
    rcases exists_parent_of_mem_walk hbelow with heq | ⟨parent, hparent, hchild⟩
    · have hstmt : Node.stmt s = .stmt s' :=
        tree.parent _ hs _ hs' (.expr inner) rfl hinner (heq ▸ houter)
      exact Node.stmt.inj hstmt
    · have hstmt : Node.stmt s = parent := tree.parent _ hs parent
        (mem_walk_trans (mem_walk_child hs' houter) hparent) (.expr inner) rfl hinner hchild
      have hexpr := isExpr_of_mem_walk (n := .expr outer) rfl hparent
      rw [← hstmt] at hexpr
      cases hexpr
  rcases comparable tree hin hin' hobjects h h' with hunder | hover
  · exact hsame hfirst he hsecond he' hunder
  · exact (hsame hsecond he' hfirst he hover).symm

end

end Python
