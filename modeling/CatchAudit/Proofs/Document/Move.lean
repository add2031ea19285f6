/-
Moving the offsets of a dump. Where ranges are pairs of whole numbers, and so are the `start` and `end` of
nodes without a range, a map of whole numbers can be applied to all of them, in the tree and in the
references of the scopes; everything else stays. The tree that is then described is the tree from before
with its offsets mapped.
-/
import CatchAudit.Proofs.Document.Members
import CatchAudit.Proofs.Document.Role
import CatchAudit.Proofs.Syntax.Build
import CatchAudit.Proofs.Syntax.Move

namespace CatchAudit

namespace Document

/-- Documents of the role `.range` are pairs of whole numbers, those of the role `.bound` are whole numbers. -/
def WholeOffsets : Role → Document → Prop
  | .range, d => ∃ a b, d = .list [.int a, .int b]
  | .bound, d => ∃ i, d = .int i
  | _, _ => True

mutual
/-- The same document with its offsets mapped by `f`, as its role says where they are. -/
def move (f : Int → Int) (r : Role) : Document → Document
  | .int i => .int (if r = .bound then f i else i)
  | .list items => .list (moveItems f r.item items)
  | .object members => .object (moveMembers f (r.member members) members)
  | d => d

def moveItems (f : Int → Int) (r : Role) : List Document → List Document
  | [] => []
  | d :: rest => d.move f r :: moveItems f r rest

def moveMembers (f : Int → Int) (role : String → Role) : List (String × Document) → List (String × Document)
  | [] => []
  | (name, d) :: rest => (name, d.move f (role name)) :: moveMembers f role rest
end

variable (f : Int → Int)

theorem moveItems_eq_map (r : Role) (items : List Document) : moveItems f r items = items.map (move f r) := by
  induction items with
  | nil => simp [moveItems]
  | cons d rest ih => simp [moveItems, ih]

theorem memberOf?_moveMembers (role : String → Role) (name : String) (members : List (String × Document)) :
    memberOf? name (moveMembers f role members) = (memberOf? name members).map (move f (role name)) := by
  induction members with
  | nil => simp [moveMembers, memberOf?]
  | cons m rest ih =>
    unfold moveMembers memberOf?
    split
    · next hkey => rw [hkey, Option.map_some]
    · exact ih

theorem move_member? (r : Role) {members : List (String × Document)} (name : String) :
    ((object members).move f r).member? name = (memberOf? name members).map (move f (r.member members name)) := by
  rw [move]
  exact memberOf?_moveMembers f _ name members

mutual
/-- What a loader never looks into, of the role `.plain`, stays. -/
theorem move_plain : ∀ d : Document, d.move f .plain = d
  | .list items => by rw [move, show Role.plain.item = .plain from rfl, moveItems_plain items]
  | .object members => by
    rw [move, show Role.plain.member members = fun _ => .plain from rfl, moveMembers_plain members]
  | .int i => by rw [move, if_neg (by decide)]
  | .null | .bool _ | .float _ | .text _ | .moment _ => by simp [move]

theorem moveItems_plain : ∀ items : List Document, moveItems f .plain items = items
  | [] => by rw [moveItems]
  | d :: rest => by rw [moveItems, move_plain d, moveItems_plain rest]

theorem moveMembers_plain : ∀ members : List (String × Document), moveMembers f (fun _ => .plain) members = members
  | [] => by rw [moveMembers]
  | (name, d) :: rest => by rw [moveMembers, move_plain d, moveMembers_plain rest]
end

mutual
theorem size_move : ∀ (r : Role) (d : Document), (d.move f r).size = d.size
  | r, .list items => by rw [move, size, size, sizeItems_move r.item items]
  | r, .object members => by rw [move, size, size, sizeMembers_move (r.member members) members]
  | r, .int i => by simp [move, size]
  | _, .null | _, .bool _ | _, .float _ | _, .text _ | _, .moment _ => by simp [move]

theorem sizeItems_move : ∀ (r : Role) (items : List Document), sizeItems (moveItems f r items) = sizeItems items
  | r, [] => by rw [moveItems]
  | r, d :: rest => by rw [moveItems, sizeItems, sizeItems, size_move r d, sizeItems_move r rest]

theorem sizeMembers_move : ∀ (role : String → Role) (members : List (String × Document)),
    sizeMembers (moveMembers f role members) = sizeMembers members
  | role, [] => by rw [moveMembers]
  | role, (name, d) :: rest => by
    rw [moveMembers, sizeMembers, sizeMembers, size_move (role name) d, sizeMembers_move role rest]
end

/-- A range is read as the pair of its ends. -/
theorem pair_of_range {d : Document} (h : d.Everywhere WholeOffsets .range) :
    ∃ a b, d = .list [.int a, .int b] ∧ d.move f .range = .list [.int (f a), .int (f b)] := by
  obtain ⟨a, b, rfl⟩ := h.self
  exact ⟨a, b, rfl, by simp [move, moveItems, Role.item]⟩

theorem int_of_bound {d : Document} (h : d.Everywhere WholeOffsets .bound) :
    ∃ i, d = .int i ∧ d.move f .bound = .int (f i) := by
  obtain ⟨i, rfl⟩ := h.self
  exact ⟨i, rfl, by simp [move]⟩

end Document

/-! ## The tree -/

namespace Node

open Document

variable (f : Int → Int) {members : List (String × Document)}

theorem readSpan_move (kind : Document) (h : EverywhereUnder WholeOffsets (Role.nodeMember members) members) :
    readSpan kind (moveMembers f (Role.nodeMember members) members) = (readSpan kind members).map (Span.move f) := by
  have hmember : ∀ {name d}, memberOf? name members = some d →
      d.Everywhere WholeOffsets (Role.nodeMember members name) :=
    fun hd => everywhereUnder_iff.1 h _ (mem_of_memberOf? hd)
  unfold readSpan
  rw [memberOf?_moveMembers, memberOf?_moveMembers, memberOf?_moveMembers]
  rcases hrange : memberOf? "range" members with _ | range
  · have hstart : Role.nodeMember members "start" = .bound := by simp [Role.nodeMember, hrange]
    have hend : Role.nodeMember members "end" = .bound := by simp [Role.nodeMember, hrange]
    rcases hs : memberOf? "start" members with _ | start
    · simp [Except.map]
    · rcases he : memberOf? "end" members with _ | stop
      · simp [Except.map]
      · obtain ⟨i, rfl, hi⟩ := int_of_bound f (hstart ▸ hmember hs)
        obtain ⟨j, rfl, hj⟩ := int_of_bound f (hend ▸ hmember he)
        simp only [Option.map_some, Option.map_none, hstart, hend, hi, hj]
        rfl
  · obtain ⟨a, b, rfl, hmove⟩ := pair_of_range f (hmember hrange)
    simp only [Option.map_some, show Role.nodeMember members "range" = .range from rfl, hmove]
    rfl

theorem readHeader_move (h : EverywhereUnder WholeOffsets (Role.nodeMember members) members) :
    readHeader (moveMembers f (Role.nodeMember members) members) =
      (readHeader members).map fun header => (header.1, header.2.1.move f, header.2.2) := by
  unfold readHeader
  rw [memberOf?_moveMembers, memberOf?_moveMembers, show Role.nodeMember members "type" = .plain from rfl,
    show Role.nodeMember members "loc" = .plain from rfl]
  rcases memberOf? "type" members with _ | kind
  · rfl
  · have hloc : ((memberOf? "loc" members).map (Document.move f .plain)) = memberOf? "loc" members := by
      cases memberOf? "loc" members <;> simp [move_plain]
    simp only [Option.map_some, move_plain, readSpan_move f kind h, hloc]
    rcases readSpan kind members with e | span
    · rfl
    · rcases readLocation ((memberOf? "loc" members).getD .null) with e | location <;> rfl

mutual
theorem buildFields_move : ∀ {role : String → Role} {members : List (String × Document)},
    (∀ name, headerNames.contains name = false → role name = .tree) → EverywhereUnder WholeOffsets role members →
    buildFields (moveMembers f role members) = (buildFields members).map (moveFields f)
  | role, [], _, _ => by simp [moveMembers, buildFields, moveFields, Except.map]
  | role, (name, d) :: rest, hrole, h => by
    have ih : buildFields (moveMembers f role rest) = _ := buildFields_move hrole h.2
    rw [moveMembers, buildFields, buildFields]
    split
    · exact ih
    · next hname =>
      have htree := hrole name (by simpa using hname)
      have hd : d.Everywhere WholeOffsets .tree := htree ▸ h.1
      rw [htree, buildField_move hd, ih]
      rcases buildField d with e | x
      · rfl
      · rcases buildFields rest with e | fields <;> simp [Except.map, bind, Except.bind, pure, Except.pure, moveFields]

theorem buildField_move : ∀ {d : Document}, d.Everywhere WholeOffsets .tree →
    buildField (d.move f .tree) = (buildField d).map (moveField f)
  | .object members, h => by
    by_cases htype : (memberOf? "type" members).isSome = true
    · have hrole : Role.tree.member members = Role.nodeMember members := by
        funext name
        rw [Role.member, if_pos htype]
      have hunder : EverywhereUnder WholeOffsets (Role.nodeMember members) members := hrole ▸ h.2
      have hfields := buildFields_move (nodeMember_eq_tree members) hunder
      rw [Document.move, hrole, buildField, buildField, if_pos htype, readHeader_move f hunder, hfields, if_pos]
      · rcases readHeader members with e | ⟨kind, span, location⟩
        · rfl
        · rcases buildFields members with e | fields
          · rfl
          · simp [Except.map, bind, Except.bind, pure, Except.pure, moveField, move]
      · rwa [memberOf?_moveMembers, Option.isSome_map]
    · have hrole : Role.tree.member members = fun _ => .plain := by
        funext name
        rw [Role.member, if_neg htype]
      rw [Document.move, hrole, moveMembers_plain, buildField, if_neg htype]
      simp [Except.map, moveField]
  | .list items, h => by
    rw [Document.move, show Role.tree.item = .tree from rfl, buildField, buildField, buildItems_move h.2]
    rcases buildItems items with e | xs <;> simp [Except.map, bind, Except.bind, pure, Except.pure, moveField]
  | .int i, _ => by
    rw [Document.move, if_neg (by decide)]
    simp [buildField, Except.map, moveField]
  | .null, _ | .bool _, _ | .float _, _ | .text _, _ | .moment _, _ => by
    simp [Document.move, buildField, Except.map, moveField]

theorem buildItems_move : ∀ {items : List Document}, EverywhereIn WholeOffsets .tree items →
    buildItems (Document.moveItems f .tree items) = (buildItems items).map (moveItems f)
  | [], _ => by simp [Document.moveItems, buildItems, moveItems, Except.map]
  | d :: rest, h => by
    rw [Document.moveItems, buildItems, buildItems, buildField_move h.1, buildItems_move h.2]
    rcases buildField d with e | x
    · rfl
    · rcases buildItems rest with e | xs <;> simp [Except.map, bind, Except.bind, pure, Except.pure, moveItems]
end

/-- The tree that `Node.ofDocument` builds of the moved document is the moved tree. -/
theorem build_move {d : Document} {n : Node} (h : d.Everywhere WholeOffsets .tree) (hn : ofDocument d = .ok n) :
    ofDocument (d.move f .tree) = .ok (n.move f) := by
  rw [ofDocument_ok_iff] at hn ⊢
  rw [buildField_move f h, hn]
  simp [Except.map, moveField]

end Node

end CatchAudit
