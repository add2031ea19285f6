/-
What the parts of a dump are for. The role of a document says what the roles of its members and items
are: in the tree every object with a kind is a node, in the scopes some members refer to nodes, and
both nodes and references have ranges. What a loader never looks into has no role of its own.
-/
import CatchAudit.Document.Access
import Mathlib.Tactic

namespace CatchAudit

inductive Role where
  | dump
  /-- A node of the tree, or a list or data in one of its fields. -/
  | tree
  | scope
  | binding
  | definition
  | use
  /-- A reference to a node. -/
  | link
  | range
  /-- An offset: an item of a range, or one end of a node without a range. -/
  | bound
  /-- A list of documents with this role. -/
  | each (role : Role)
  | plain
  deriving DecidableEq

namespace Role

/-- The role of a node's member. Its `start` and `end` count only if there is no range. -/
def nodeMember (members : List (String × Document)) (name : String) : Role :=
  if name = "type" ∨ name = "loc" then .plain
  else if name = "range" then .range
  else if name = "start" ∨ name = "end" then
    if (memberOf? "range" members).isSome then .plain else .bound
  else .tree

/-- The role of the member with this name, in roles in which the other members do not matter. -/
def part (r : Role) (name : String) : Role :=
  match r with
  | .dump => if name = "ast" then .tree else if name = "scopes" then .scope else .plain
  | .scope =>
    if name = "block" then .link
    else if name = "variables" then .each .binding
    else if name = "childScopes" then .each .scope
    else .plain
  | .binding =>
    if name = "identifiers" then .each .link
    else if name = "defs" then .each .definition
    else if name = "references" then .each .use
    else .plain
  | .definition => if name = "name" ∨ name = "node" then .link else .plain
  | .use => if name = "identifier" then .link else .plain
  | .link => if name = "range" then .range else .plain
  | _ => .plain

/-- The role of the member with this name. -/
def member (r : Role) (members : List (String × Document)) (name : String) : Role :=
  match r with
  | .tree => if (memberOf? "type" members).isSome then nodeMember members name else .plain
  | r => r.part name

/-- Entries of the scopes. Their parts are references, lists, or not looked into. -/
def isEntry : Role → Bool
  | .scope | .binding | .definition | .use => true
  | _ => false

/-- The role of an item. -/
def item : Role → Role
  | .tree => .tree
  | .range => .bound
  | .each role => role
  | _ => .plain

theorem member_eq_part {r : Role} (h : r.isEntry = true) (members : List (String × Document)) (name : String) :
    r.member members name = r.part name := by
  cases r with
  | tree => cases h
  | _ => rfl

theorem part_ne_range {r : Role} (h : r.isEntry = true) (name : String) :
    r.part name ≠ .range ∧ r.part name ≠ .bound := by
  cases r with
  | scope => unfold part; dsimp only; split_ifs <;> decide
  | binding => unfold part; dsimp only; split_ifs <;> decide
  | definition => unfold part; dsimp only; split_ifs <;> decide
  | use => unfold part; dsimp only; split_ifs <;> decide
  | _ => cases h

/-- Lists in entries are lists of entries or of references. -/
theorem each_part {r r' : Role} {name : String} (h : r.part name = .each r') :
    r.isEntry = true ∧ (r' = .link ∨ r'.isEntry = true) := by
  cases r with
  | dump => unfold part at h; dsimp only at h; split_ifs at h
  | scope => unfold part at h; dsimp only at h; split_ifs at h <;> cases h <;> decide
  | binding => unfold part at h; dsimp only at h; split_ifs at h <;> cases h <;> decide
  | definition => unfold part at h; dsimp only at h; split_ifs at h
  | use => unfold part at h; dsimp only at h; split_ifs at h
  | link => unfold part at h; dsimp only at h; split_ifs at h
  | _ => cases h

theorem ne_range_of_entry {r : Role} (h : r = .link ∨ r.isEntry = true) : r ≠ .range ∧ r ≠ .bound := by
  cases r <;> simp [isEntry] at h ⊢

end Role

namespace Document

mutual
/-- Every part of a document with a role has, with the role of that part, the property. -/
def Everywhere (Q : Role → Document → Prop) (r : Role) : Document → Prop
  | .list items => Q r (.list items) ∧ EverywhereIn Q r.item items
  | .object members => Q r (.object members) ∧ EverywhereUnder Q (r.member members) members
  | d => Q r d

def EverywhereIn (Q : Role → Document → Prop) (r : Role) : List Document → Prop
  | [] => True
  | d :: rest => d.Everywhere Q r ∧ EverywhereIn Q r rest

def EverywhereUnder (Q : Role → Document → Prop) (role : String → Role) : List (String × Document) → Prop
  | [] => True
  | (name, d) :: rest => d.Everywhere Q (role name) ∧ EverywhereUnder Q role rest
end

variable {Q : Role → Document → Prop} {r : Role} {d : Document}

theorem Everywhere.self (h : d.Everywhere Q r) : Q r d := by
  cases d with
  | list items => exact h.1
  | object members => exact h.1
  | _ => exact h

theorem everywhereIn_iff : ∀ {items : List Document}, EverywhereIn Q r items ↔ ∀ d ∈ items, d.Everywhere Q r
  | [] => by simp [EverywhereIn]
  | d :: rest => by
    have ih : EverywhereIn Q r rest ↔ _ := everywhereIn_iff
    simp [EverywhereIn, ih]

theorem everywhereUnder_iff {role : String → Role} : ∀ {members : List (String × Document)},
    EverywhereUnder Q role members ↔ ∀ m ∈ members, m.2.Everywhere Q (role m.1)
  | [] => by simp [EverywhereUnder]
  | (name, d) :: rest => by
    have ih : EverywhereUnder Q role rest ↔ _ := everywhereUnder_iff
    simp [EverywhereUnder, ih]

theorem Everywhere.item {items : List Document} (h : (list items).Everywhere Q r) (hd : d ∈ items) :
    d.Everywhere Q r.item := everywhereIn_iff.1 h.2 d hd

theorem Everywhere.member {members : List (String × Document)} {name : String}
    (h : (object members).Everywhere Q r) (hd : memberOf? name members = some d) :
    d.Everywhere Q (r.member members name) := everywhereUnder_iff.1 h.2 (name, d) (mem_of_memberOf? hd)

mutual
theorem Everywhere.and {P : Role → Document → Prop} : ∀ {r : Role} {d : Document}, d.Everywhere P r → d.Everywhere Q r →
    d.Everywhere (fun r d => P r d ∧ Q r d) r
  | _, .list _, h, h' => ⟨⟨h.1, h'.1⟩, h.2.and h'.2⟩
  | _, .object _, h, h' => ⟨⟨h.1, h'.1⟩, h.2.and h'.2⟩
  | _, .null, h, h' | _, .bool _, h, h' | _, .int _, h, h' | _, .float _, h, h' | _, .text _, h, h'
  | _, .moment _, h, h' => ⟨h, h'⟩

theorem EverywhereIn.and {P : Role → Document → Prop} : ∀ {r : Role} {items : List Document}, EverywhereIn P r items →
    EverywhereIn Q r items → EverywhereIn (fun r d => P r d ∧ Q r d) r items
  | _, [], _, _ => trivial
  | _, _ :: _, h, h' => ⟨h.1.and h'.1, h.2.and h'.2⟩

theorem EverywhereUnder.and {P : Role → Document → Prop} : ∀ {role : String → Role}
    {members : List (String × Document)}, EverywhereUnder P role members → EverywhereUnder Q role members →
    EverywhereUnder (fun r d => P r d ∧ Q r d) role members
  | _, [], _, _ => trivial
  | _, _ :: _, h, h' => ⟨h.1.and h'.1, h.2.and h'.2⟩
end

end Document

end CatchAudit
