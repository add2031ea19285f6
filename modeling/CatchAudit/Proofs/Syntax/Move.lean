/-
Moving the offsets of a tree. A tree whose offsets are mapped has the same form as before: the same walk,
the same fields under the same names. If the map is strictly increasing, spans nest as before, so that
analysis cannot tell the trees apart.
-/
import CatchAudit.Proofs.Analysis.Likeness
import CatchAudit.Proofs.Syntax.Ancestry

namespace CatchAudit

def Span.move (f : Int → Int) (s : Span) : Span := ⟨f s.start, f s.stop⟩

namespace Node

mutual
/-- The same tree with the offsets of all spans mapped by `Span.move`. -/
def move (f : Int → Int) : Node → Node
  | .mk kind span location fields => .mk kind (span.move f) location (moveFields f fields)

def moveFields (f : Int → Int) : List (String × Field) → List (String × Field)
  | [] => []
  | (name, x) :: rest => (name, moveField f x) :: moveFields f rest

def moveField (f : Int → Int) : Field → Field
  | .node n => .node (n.move f)
  | .list items => .list (moveItems f items)
  | .data d => .data d

def moveItems (f : Int → Int) : List Field → List Field
  | [] => []
  | x :: rest => moveField f x :: moveItems f rest
end

variable (f : Int → Int) (n : Node)

@[simp] theorem move_kind : (n.move f).kind = n.kind := by
  cases n
  simp [move, kind]

@[simp] theorem move_span : (n.move f).span = n.span.move f := by
  cases n
  simp [move, span]

@[simp] theorem move_location : (n.move f).location = n.location := by
  cases n
  simp [move, location]

@[simp] theorem move_fields : (n.move f).fields = moveFields f n.fields := by
  cases n
  simp [move, fields]

theorem moveItems_eq_map : ∀ items : List Field, moveItems f items = items.map (moveField f)
  | [] => by simp [moveItems]
  | x :: rest => by simp [moveItems, moveItems_eq_map rest]

theorem memberOf?_moveFields (name : String) : ∀ fields : List (String × Field),
    memberOf? name (moveFields f fields) = (memberOf? name fields).map (moveField f)
  | [] => by simp [moveFields, memberOf?]
  | (key, x) :: rest => by
    unfold moveFields memberOf?
    split
    · rfl
    · exact memberOf?_moveFields name rest

theorem move_field? (name : String) : (n.move f).field? name = (n.field? name).map (moveField f) := by
  unfold field?
  rw [move_fields, memberOf?_moveFields]

theorem itemNodes_moveItems (name : String) : ∀ (i : Nat) (items : List Field),
    Field.itemNodes name i (moveItems f items) = (Field.itemNodes name i items).map fun c => (c.1, c.2.move f)
  | _, [] => by simp [moveItems, Field.itemNodes]
  | i, .node m :: rest => by simp [moveItems, moveField, Field.itemNodes, itemNodes_moveItems name (i + 1) rest]
  | i, .list _ :: rest => by simp [moveItems, moveField, Field.itemNodes, itemNodes_moveItems name (i + 1) rest]
  | i, .data _ :: rest => by simp [moveItems, moveField, Field.itemNodes, itemNodes_moveItems name (i + 1) rest]

theorem children_moveField (name : String) (x : Field) :
    (moveField f x).children name = (x.children name).map fun c => (c.1, c.2.move f) := by
  cases x with
  | node m => simp [moveField, Field.children]
  | list items => simp [moveField, Field.children, itemNodes_moveItems]
  | data d => simp [moveField, Field.children]

theorem move_children : (n.move f).children = n.children.map fun c => (c.1, c.2.move f) := by
  unfold children
  rw [move_fields]
  induction n.fields with
  | nil => simp [moveFields]
  | cons field rest ih => simp [moveFields, children_moveField, ih]

end Node

theorem Span.contains_move {f : Int → Int} (hf : StrictMono f) (s t : Span) :
    (s.move f).contains (t.move f) = s.contains t := by
  rw [Bool.eq_iff_iff, contains_iff, contains_iff]
  exact and_congr hf.le_iff_le hf.le_iff_le

/-- A node and what `move` makes of it. -/
def Node.Moved (f : Int → Int) (a b : Node) : Prop := b = a.move f

/-- An increasing map of the offsets makes no difference to analysis: it is a `Likeness`. -/
theorem Node.likeness_moved {f : Int → Int} (hf : StrictMono f) : Likeness (Moved f) where
  kind := by
    rintro a _ rfl
    exact (move_kind f a).symm
  contains := by
    rintro a _ c _ rfl rfl
    rw [move_span, move_span, Span.contains_move hf]
  field? := by
    rintro a _ rfl name
    rw [move_field?]
    rcases a.field? name with _ | _ | items | d
    · exact .none
    · exact .some (.node rfl)
    · have hitem : ∀ x, Field.ItemAlike (Moved f) x (moveField f x) := by
        intro x
        cases x with
        | node c => exact .node rfl
        | list xs => exact .list (by rw [moveItems_eq_map, List.isEmpty_map])
        | data d => exact .data (.refl d)
      have hall : List.Forall₂ (Field.ItemAlike (Moved f)) items (moveItems f items) := by
        rw [moveItems_eq_map, List.forall₂_map_right_iff, List.forall₂_same]
        exact fun x _ => hitem x
      exact .some (.list hall)
    · exact .some (.data (.refl d))

/-! ## Places -/

namespace Place

def move (f : Int → Int) (p : Place) : Place := ⟨p.node.move f, p.frames.map fun fr => ⟨fr.parent.move f, fr.step⟩⟩

variable (f : Int → Int)

theorem move_children (p : Place) : (p.move f).children = p.children.map (move f) := by
  unfold children
  rw [show (p.move f).node = p.node.move f from rfl, Node.move_children, List.map_map, List.map_map]
  rfl

/-- The `walk` over the moved tree takes the same way. -/
theorem move_walk (p : Place) : (p.move f).walk = p.walk.map (move f) := by
  rw [walk_eq_preorder, walk_eq_preorder]
  induction p using Place.induction with
  | step p ih =>
    rw [preorder_eq, preorder_eq p, move_children, List.flatMap_map, List.map_cons, List.map_flatMap]
    congr 1
    exact List.flatMap_congr ih

theorem alike_move (p : Place) : p.Alike (Node.Moved f) (p.move f) := by
  refine ⟨rfl, ?_⟩
  show List.Forall₂ _ p.frames (p.frames.map _)
  rw [List.forall₂_map_right_iff, List.forall₂_same]
  exact fun fr _ => ⟨rfl, rfl⟩

theorem Alike.eq_move {p q : Place} (h : p.Alike (Node.Moved f) q) : q = p.move f := by
  obtain ⟨a, fs⟩ := p
  obtain ⟨b, gs⟩ := q
  obtain ⟨rfl, hframes⟩ := h
  refine congrArg (Place.mk _) ?_
  dsimp only at hframes ⊢
  induction hframes with
  | nil => rfl
  | @cons fr gr _ _ hfr _ ih =>
    obtain ⟨parent, step⟩ := fr
    obtain ⟨parent', step'⟩ := gr
    obtain ⟨rfl, rfl⟩ := hfr
    rw [ih]
    rfl

end Place

end CatchAudit
