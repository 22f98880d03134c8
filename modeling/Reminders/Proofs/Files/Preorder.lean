import Mathlib.Logic.Relation

namespace Reminders

/-!
# Depth-first preorder

A graph is given by the successors of each node, in order.  Nodes that are taken one after another,
each new one followed at once by what its successors lead to, come up in preorder.  A node that came
up before is passed over, with everything behind it; whatever it leads to has come up or is about
to, so nothing that can be reached is missed.
-/

variable {α : Type} {successors : α -> List α}

/-- The new nodes that come up when some nodes are taken one after another, `seen` being the nodes
that came up before. -/
inductive Preorder (successors : α -> List α) : (seen todo order : List α) -> Prop
  | done {seen : List α} : Preorder successors seen [] []
  | again {node : α} {seen rest order : List α} (old : node ∈ seen)
      (others : Preorder successors seen rest order) : Preorder successors seen (node :: rest) order
  | first {node : α} {seen rest below later : List α} (isNew : node ∉ seen)
      (descend : Preorder successors (node :: seen) (successors node) below)
      (others : Preorder successors (below.reverse ++ node :: seen) rest later) :
      Preorder successors seen (node :: rest) (node :: below ++ later)

namespace Preorder

variable {seen todo order : List α}

/-- Whatever comes up can be reached from a node that is taken. -/
theorem exists_reaches (preorder : Preorder successors seen todo order) {node : α}
    (member : node ∈ order) :
    Exists fun taken => taken ∈ todo ∧
      Relation.ReflTransGen (fun left right => right ∈ successors left) taken node := by
  induction preorder with
  | done => cases member
  | again _ _ inductionHypothesis =>
      rcases inductionHypothesis member with ⟨taken, listed, reaches⟩
      exact ⟨taken, List.mem_cons_of_mem _ listed, reaches⟩
  | @first top _ rest below later _ _ _ belowHypothesis laterHypothesis =>
      rcases List.mem_append.mp member with inBelow | inLater
      · rcases List.mem_cons.mp inBelow with rfl | deeper
        · exact ⟨node, List.mem_cons_self, .refl⟩
        · rcases belowHypothesis deeper with ⟨taken, listed, reaches⟩
          exact ⟨top, List.mem_cons_self, reaches.head listed⟩
      · rcases laterHypothesis inLater with ⟨taken, listed, reaches⟩
        exact ⟨taken, List.mem_cons_of_mem _ listed, reaches⟩

/-- Everything that is taken came up before or comes up, and so do the successors of whatever comes
up. -/
theorem closed (preorder : Preorder successors seen todo order) :
    (forall node, node ∈ todo -> node ∈ order ∨ node ∈ seen) ∧
      forall node, node ∈ order -> forall other, other ∈ successors node ->
        other ∈ order ∨ other ∈ seen := by
  induction preorder with
  | done => simp
  | again old _ inductionHypothesis =>
      refine ⟨fun node listed => ?_, inductionHypothesis.2⟩
      rcases List.mem_cons.mp listed with rfl | later
      · exact Or.inr old
      · exact inductionHypothesis.1 node later
  | @first top seen rest below later _ _ _ belowHypothesis laterHypothesis =>
      have fromBelow {node : α} (outcome : node ∈ below ∨ node ∈ top :: seen) :
          node ∈ top :: below ++ later ∨ node ∈ seen := by
        rcases outcome with deeper | old
        · exact Or.inl (List.mem_append_left _ (List.mem_cons_of_mem top deeper))
        · rcases List.mem_cons.mp old with rfl | older
          · exact Or.inl List.mem_cons_self
          · exact Or.inr older
      have fromLater {node : α} (outcome : node ∈ later ∨ node ∈ below.reverse ++ top :: seen) :
          node ∈ top :: below ++ later ∨ node ∈ seen := by
        rcases outcome with inLater | old
        · exact Or.inl (List.mem_append_right _ inLater)
        · rcases List.mem_append.mp old with deeper | older
          · exact fromBelow (Or.inl (List.mem_reverse.mp deeper))
          · exact fromBelow (Or.inr older)
      refine ⟨fun node listed => ?_, fun node listed other edge => ?_⟩
      · rcases List.mem_cons.mp listed with rfl | waiting
        · exact Or.inl List.mem_cons_self
        · exact fromLater (laterHypothesis.1 node waiting)
      · rcases List.mem_append.mp listed with inBelow | inLater
        · rcases List.mem_cons.mp inBelow with rfl | deeper
          · exact fromBelow (belowHypothesis.1 other edge)
          · exact fromBelow (belowHypothesis.2 node deeper other edge)
        · exact fromLater (laterHypothesis.2 node inLater other edge)

/-- When nothing came up before, the nodes that come up are those that can be reached. -/
theorem mem_iff (preorder : Preorder successors [] todo order) {node : α} :
    node ∈ order ↔ Exists fun taken => taken ∈ todo ∧
      Relation.ReflTransGen (fun left right => right ∈ successors left) taken node := by
  refine ⟨preorder.exists_reaches, ?_⟩
  rintro ⟨taken, listed, reaches⟩
  have closed := preorder.closed
  simp only [List.not_mem_nil, or_false] at closed
  induction reaches with
  | refl => exact closed.1 taken listed
  | tail _ edge inductionHypothesis => exact closed.2 _ inductionHypothesis _ edge

/-- There is only one preorder. -/
theorem unique {other : List α} (preorder : Preorder successors seen todo order)
    (second : Preorder successors seen todo other) : order = other := by
  induction preorder generalizing other with
  | done => cases second; rfl
  | again old _ inductionHypothesis =>
      cases second with
      | again _ others => exact inductionHypothesis others
      | first isNew _ _ => exact absurd old isNew
  | first isNew _ _ belowHypothesis laterHypothesis =>
      cases second with
      | again old _ => exact absurd old isNew
      | first _ descend others =>
          cases belowHypothesis descend
          rw [laterHypothesis others]

/-- Nodes that are taken one after another may be split in two. -/
theorem split {front back : List α} (preorder : Preorder successors seen (front ++ back) order) :
    Exists fun ahead => Exists fun behind => order = ahead ++ behind ∧
      Preorder successors seen front ahead ∧
      Preorder successors (ahead.reverse ++ seen) back behind := by
  induction front generalizing seen order with
  | nil => exact ⟨[], order, rfl, .done, preorder⟩
  | cons node rest inductionHypothesis =>
      cases preorder with
      | again old others =>
          rcases inductionHypothesis others with ⟨ahead, behind, rfl, front, back⟩
          exact ⟨ahead, behind, rfl, .again old front, back⟩
      | @first _ _ _ below later isNew descend others =>
          rcases inductionHypothesis others with ⟨ahead, behind, rfl, front, back⟩
          refine ⟨node :: below ++ ahead, behind, by simp, .first isNew descend front, ?_⟩
          simpa using back

/-- A stack may hold the successors of a new node above the nodes that wait behind it. -/
theorem push {node : α} (isNew : node ∉ seen)
    (preorder : Preorder successors (node :: seen) (successors node ++ todo) order) :
    Preorder successors seen (node :: todo) (node :: order) := by
  rcases preorder.split with ⟨below, later, rfl, descend, others⟩
  exact .first isNew descend others

end Preorder

end Reminders
