/-
Values that are thrown away. A statement throws away the value of its expression, and a sequence the values
of all its expressions but the last one, whose value is that of the sequence. So a value is thrown away
exactly if sequences hand it on outwards, each one ending with the one before, up to a place whose parent
drops it. The search follows the parents that the pass over the tree has written down, and comes to an end
in no more rounds than there are places on the way to the root.
-/
import CatchAudit.Proofs.Analysis.Completion
import CatchAudit.Proofs.Analysis.LoopTarget
import CatchAudit.Proofs.Syntax.Linking
import Mathlib.Logic.Relation

namespace CatchAudit

/-- Every `SequenceExpression` of the tree has a list of `expressions` that is not empty. -/
def Node.SequencesFilled (program : Node) : Prop :=
  ∀ q ∈ (Place.root program).walk,
    q.node.isKind "SequenceExpression" = true → q.node.HasField "expressions" Field.isFilledList

instance (program : Node) : Decidable program.SequencesFilled := inferInstanceAs (Decidable (∀ q ∈ _, _ → _))

namespace Place

variable {program : Node} {parents links : ParentLinks} {p q c : Place} {name : String}

/-! ## The last item of a list -/

/-- The last item of the field `name`, if this is a list that ends with a node. -/
def lastNode? (p : Place) (name : String) : Option Place :=
  match p.node.field? name with
  | some (.list items) => match items.getLast? with
    | some (.node n) => some (p.child ⟨name, some (items.length - 1)⟩ n)
    | _ => none
  | _ => none

/-- Where names differ, no other child stands where the last node of a list does. -/
theorem eq_lastNode_of_address {items : List Field} {n : Node} (hnames : (q.node.fields.map Prod.fst).Nodup)
    (hitems : q.node.field? name = some (.list items)) (hlast : items.getLast? = some (.node n)) (hc : c ∈ q.children)
    (h : (q.child ⟨name, some (items.length - 1)⟩ n).address = c.address) :
    q.child ⟨name, some (items.length - 1)⟩ n = c := by
  obtain ⟨step, m, hm, rfl⟩ := mem_children.1 hc
  obtain ⟨rfl, -⟩ := List.cons.inj h
  obtain ⟨others, hothers, hitem⟩ := Node.field?_of_item hnames hm
  cases hitems.symm.trans hothers
  rw [List.getLast?_eq_getElem?] at hlast
  cases hlast.symm.trans hitem
  rfl

/-- Comparing addresses, as `isPlace` does, tells whether a child is the last node. -/
theorem lastItem_isPlace_iff (hreserved : isReserved name = false) (hnames : (q.node.fields.map Prod.fst).Nodup)
    (h : q.node.HasField name Field.isFilledList) (hc : c ∈ q.children) :
    ∃ last, q.lastItem name = .ok last ∧ (last.isPlace c = true ↔ q.lastNode? name = some c) := by
  obtain ⟨f, hf, hlist⟩ := Node.hasField_iff.1 h
  obtain ⟨items, rfl, hne⟩ := Field.isFilledList_iff.1 hlist
  have hlast := List.getLast?_eq_some_getLast hne
  unfold lastItem lastNode?
  rw [field_eq hreserved hf, hf]
  simp only [operand, bind, Except.bind, hlast]
  cases hitem : items.getLast hne with
  | node n =>
    refine ⟨_, rfl, ?_⟩
    rw [Option.some.injEq, Operand.isPlace, same, beq_iff_eq]
    exact ⟨eq_lastNode_of_address hnames hf (hitem ▸ hlast) hc, congrArg address⟩
  | list inner => exact ⟨_, rfl, by simp [Operand.isPlace]⟩
  | data d => exact ⟨_, rfl, by simp [Operand.isPlace]⟩

/-! ## Values on their way outwards -/

/-- The parent `b` of `a` is a sequence that ends with `a`, so that the value of `a` is that of `b`. -/
structure HandsOn (parents : ParentLinks) (a b : Place) : Prop where
  parent : parents a.address = some b
  sequence : b.node.isKind "SequenceExpression" = true
  last : b.lastNode? "expressions" = some a

/-- The parent drops the value: it is an `ExpressionStatement`, or a `SequenceExpression` that does not end here. -/
def Dropped (parents : ParentLinks) (a : Place) : Prop :=
  ∃ b, parents a.address = some b ∧ (b.node.isKind "ExpressionStatement" = true ∨
    b.node.isKind "SequenceExpression" = true ∧ b.lastNode? "expressions" ≠ some a)

/-- `SequenceExpression`s hand the value on, none or one after the other, to a place where it is `Dropped`. -/
def ThrownAway (parents : ParentLinks) (p : Place) : Prop :=
  ∃ a, Relation.ReflTransGen (HandsOn parents) p a ∧ Dropped parents a

theorem handsOn_iff (h : parents c.address = some q) : HandsOn parents c q ↔
    q.node.isKind "SequenceExpression" = true ∧ q.lastNode? "expressions" = some c :=
  ⟨fun hon => ⟨hon.sequence, hon.last⟩, fun hon => ⟨h, hon.1, hon.2⟩⟩

theorem dropped_iff (h : parents c.address = some q) : Dropped parents c ↔
    q.node.isKind "ExpressionStatement" = true ∨
      q.node.isKind "SequenceExpression" = true ∧ q.lastNode? "expressions" ≠ some c := by
  simp [Dropped, h]

theorem thrownAway_iff : ThrownAway parents p ↔
    Dropped parents p ∨ ∃ q, HandsOn parents p q ∧ ThrownAway parents q := by
  constructor
  · rintro ⟨a, hpa, hdropped⟩
    rcases hpa.cases_head with rfl | ⟨q, hpq, hqa⟩
    · exact .inl hdropped
    · exact .inr ⟨q, hpq, a, hqa, hdropped⟩
  · rintro (hdropped | ⟨q, hpq, a, hqa, hdropped⟩)
    · exact ⟨p, .refl, hdropped⟩
    · exact ⟨a, .head hpq hqa, hdropped⟩

theorem not_thrownAway_of_root (h : parents p.address = none) : ¬ ThrownAway parents p := by
  rw [thrownAway_iff]
  rintro (⟨q, hparent, -⟩ | ⟨q, hon, -⟩)
  · cases h.symm.trans hparent
  · cases h.symm.trans hon.parent

/-! ## One round of the search -/

/-- What the parent `q` says about the value of `c`. It says nothing if this is the value of `q` itself. -/
def verdict? (q c : Place) : Except Fault (Option Bool) :=
  if q.node.isKind "ExpressionStatement" then .ok (some true)
  else if q.node.isKind "SequenceExpression" then do
    let last ← q.lastItem "expressions"
    return if last.isPlace c then none else some true
  else .ok (some false)

/-- If `verdict?` says nothing about a child, the answer for the parent counts. -/
theorem isUnusedExpression_child (hc : c ∈ q.children) :
    c.isUnusedExpression = verdict? q c >>= fun verdict => verdict.elim q.isUnusedExpression .ok := by
  obtain ⟨step, n, -, rfl⟩ := mem_children.1 hc
  unfold verdict? isUnusedExpression child
  rw [unusedFrom]
  split
  · rfl
  · split
    · cases q.lastItem "expressions" with
      | error e => rfl
      | ok last =>
        dsimp only [bind, Except.bind, pure, Except.pure]
        split
        · rfl
        · rfl
    · rfl

theorem verdict?_ok (hnames : (q.node.fields.map Prod.fst).Nodup)
    (hsequence : q.node.isKind "SequenceExpression" = true → q.node.HasField "expressions" Field.isFilledList)
    (hc : c ∈ q.children) (hparent : parents c.address = some q) :
    ∃ verdict, verdict? q c = .ok verdict ∧ (verdict = none ↔ HandsOn parents c q) ∧
      (verdict = some true ↔ Dropped parents c) := by
  rw [handsOn_iff hparent, dropped_iff hparent]
  unfold verdict?
  by_cases hstatement : q.node.isKind "ExpressionStatement" = true
  · have hother : q.node.isKind "SequenceExpression" = false := Node.isKind_eq_false hstatement (by decide)
    exact ⟨some true, if_pos hstatement, by simp [hother], by simp [hstatement]⟩
  rw [if_neg hstatement]
  by_cases hkind : q.node.isKind "SequenceExpression" = true
  · obtain ⟨last, hlast, hplace⟩ := lastItem_isPlace_iff (by decide) hnames (hsequence hkind) hc
    rw [if_pos hkind, hlast]
    exact ⟨_, rfl, by simp [hkind, ← hplace], by simp [hstatement, hkind, ← hplace]⟩
  · exact ⟨some false, if_neg hkind, by simp [hkind], by simp [hstatement, hkind]⟩

/-! ## The search -/

/-- `isUnusedExpression` has an answer, and it says whether the value is `ThrownAway`. -/
def Answered (parents : ParentLinks) (p : Place) : Prop :=
  ∃ unused, p.isUnusedExpression = .ok unused ∧ (unused = true ↔ ThrownAway parents p)

theorem answered_root (h : parents (root program).address = none) : Answered parents (root program) :=
  ⟨false, rfl, iff_of_false Bool.false_ne_true (not_thrownAway_of_root h)⟩

/-- An `Answered` parent gives an answered child. -/
theorem Answered.child (h : Answered parents q) (hnames : (q.node.fields.map Prod.fst).Nodup)
    (hsequence : q.node.isKind "SequenceExpression" = true → q.node.HasField "expressions" Field.isFilledList)
    (hc : c ∈ q.children) (hparent : parents c.address = some q) : Answered parents c := by
  obtain ⟨outer, houter, hiff⟩ := h
  obtain ⟨verdict, hverdict, hnone, htrue⟩ := verdict?_ok hnames hsequence hc hparent
  unfold Answered
  rw [isUnusedExpression_child hc, hverdict, thrownAway_iff, ← htrue]
  cases verdict with
  | none =>
    -- the value is that of the parent, which is the only place it is handed on to
    have hon : HandsOn parents c q := hnone.1 rfl
    refine ⟨outer, houter, hiff.trans ⟨fun h => .inr ⟨q, hon, h⟩, ?_⟩⟩
    rintro (⟨⟨⟩⟩ | ⟨b, hb, h⟩)
    cases hparent.symm.trans hb.parent
    exact h
  | some unused =>
    refine ⟨unused, rfl, Option.some_inj.symm.trans ⟨.inl, ?_⟩⟩
    rintro (h | ⟨b, hb, -⟩)
    · exact h
    · cases hparent.symm.trans hb.parent
      cases hnone.2 hb

/-- Every place is `Answered`, by induction on the way from the root to the place. -/
theorem answered (hfields : program.DistinctFields) (hsequences : program.SequencesFilled)
    (hp : (root program).Within p) : Answered (linkParents links program) p := by
  induction hp with
  | self => exact answered_root (linkParents_apply hfields .self)
  | @child q c hw hc ih =>
    exact ih.child (hw.nodup_names hfields) (hsequences q (mem_walk.2 hw)) hc (linkParents_child hfields hw hc)

/-- The search of `isUnusedExpression` along parents that are written down, in at most so many rounds. There is no
answer if they run out. -/
def unusedAlong (parents : ParentLinks) : (rounds : Nat) → Place → Except Fault (Option Bool)
  | 0, _ => .ok none
  | rounds + 1, p => match parents p.address with
    | none => .ok (some false)
    | some q => verdict? q p >>= fun verdict => verdict.elim (unusedAlong parents rounds q) (.ok ∘ some)

/-- A round of `unusedAlong` for each place on the way to the root is enough. -/
theorem unusedAlong_eq (hfields : program.DistinctFields) (hp : (root program).Within p) :
    ∀ {rounds : Nat}, p.chain.length ≤ rounds →
      unusedAlong (linkParents links program) rounds p = some <$> p.isUnusedExpression := by
  induction hp with
  | self =>
    intro rounds h
    obtain ⟨spare, rfl⟩ := Nat.exists_eq_add_of_le' h
    rw [chain_root, List.length_singleton, unusedAlong, linkParents_apply hfields .self]
    rfl
  | @child q c hw hc ih =>
    intro rounds h
    rw [chain_of_mem_children hc, List.length_cons] at h
    obtain ⟨spare, rfl⟩ := Nat.exists_eq_add_of_le' h
    have hq := ih (Nat.le_add_left q.chain.length spare)
    rw [← Nat.add_assoc, unusedAlong, linkParents_child hfields hw hc, isUnusedExpression_child hc]
    dsimp only
    rcases verdict? q c with e | _ | unused
    · rfl
    · exact hq
    · rfl

/-- In a tree with `DistinctFields` and `SequencesFilled`, the search of `isUnusedExpression` comes to an end and has
an answer at every place: the value is `ThrownAway`, which is to say that it is handed on, as the value of one
sequence after the other, to a place where a statement or a sequence drops it. -/
theorem isUnusedExpression_iff_thrownAway (hfields : program.DistinctFields) (hsequences : program.SequencesFilled)
    (links : ParentLinks) (hp : p ∈ (root program).walk) :
    ∃ unused, p.isUnusedExpression = .ok unused ∧
      (∀ rounds, p.chain.length ≤ rounds → unusedAlong (linkParents links program) rounds p = .ok (some unused)) ∧
      (unused = true ↔ ThrownAway (linkParents links program) p) := by
  obtain ⟨unused, hunused, hiff⟩ : Answered (linkParents links program) p := answered hfields hsequences (mem_walk.1 hp)
  refine ⟨unused, hunused, fun rounds hrounds => ?_, hiff⟩
  rw [unusedAlong_eq hfields (mem_walk.1 hp) hrounds, hunused]
  rfl

end Place

/-! `(a, (b, c)); let d = (a, (b, c));`, where `c` is at place 6 and at place 14. -/

namespace Discarded.Sample

def identifier (start : Int) : Field := .node (.plain "Identifier" start (start + 1) [])

def sequence (start : Int) : Field :=
  .node (.plain "SequenceExpression" start (start + 9) [("expressions", .list [identifier start,
    .node (.plain "SequenceExpression" (start + 4) (start + 8) [
      ("expressions", .list [identifier (start + 4), identifier (start + 7)])])])])

def program : Node :=
  .plain "Program" 0 33 [("body", .list [
    .node (.plain "ExpressionStatement" 0 12 [("expression", sequence 1)]),
    .node (.plain "VariableDeclaration" 13 33 [("declarations", .list [
      .node (.plain "VariableDeclarator" 17 32 [("id", identifier 17), ("init", sequence 22)])])])])]

def dropped : Place := .nth program 6

def stored : Place := .nth program 14

end Discarded.Sample

open Discarded.Sample in
/-- The values of `dropped` and `stored` are handed on by two sequences each, and only the first one is dropped after
that. -/
theorem Place.isUnusedExpression_iff_thrownAway_sample :
    program.DistinctFields ∧ program.SequencesFilled ∧ dropped ∈ (root program).walk ∧ stored ∈ (root program).walk ∧
    dropped.isUnusedExpression = .ok true ∧
    unusedAlong (linkParents (fun _ => none) program) 5 dropped = .ok (some true) ∧
    ThrownAway (linkParents (fun _ => none) program) dropped ∧
    stored.isUnusedExpression = .ok false ∧ ¬ ThrownAway (linkParents (fun _ => none) program) stored := by
  have hnames : ∀ p ∈ (root program).walk, (p.node.fields.map Prod.fst).Nodup := by decide
  have hfields : program.DistinctFields := by
    intro a ha
    obtain ⟨p, hp, rfl⟩ := exists_mem_walk ha
    exact hnames p hp
  have hsequences : program.SequencesFilled := by decide
  have hlength : (root program).walk.length = 15 := rfl
  have hdropped : dropped ∈ (root program).walk := nth_mem_walk (by omega)
  have hstored : stored ∈ (root program).walk := nth_mem_walk (by omega)
  have htrue : dropped.isUnusedExpression = .ok true := rfl
  have hfalse : stored.isUnusedExpression = .ok false := rfl
  obtain ⟨unused, hunused, hrounds, hiff⟩ :=
    isUnusedExpression_iff_thrownAway hfields hsequences (fun _ => none) hdropped
  obtain ⟨other, hother, -, hiff'⟩ := isUnusedExpression_iff_thrownAway hfields hsequences (fun _ => none) hstored
  cases hunused.symm.trans htrue
  cases hother.symm.trans hfalse
  exact ⟨hfields, hsequences, hdropped, hstored, htrue, hrounds 5 le_rfl, hiff.1 rfl, hfalse,
    fun h => Bool.false_ne_true (hiff'.2 h)⟩

end CatchAudit
