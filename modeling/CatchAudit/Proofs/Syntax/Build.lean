/-
Trees that are built from documents. A document is a tree exactly when, as a field, it would be a node; and
the fields of a node are what its members are built into, apart from those of the header.
-/
import CatchAudit.Proofs.Document.Role
import CatchAudit.Proofs.Outcome
import CatchAudit.Syntax.Build

namespace CatchAudit.Node

variable {d : Document} {n : Node} {members : List (String × Document)}

theorem ofDocument_ok_iff : ofDocument d = .ok n ↔ buildField d = .ok (.node n) := by
  cases d with
  | object members =>
    rw [ofDocument, buildField]
    by_cases htype : (memberOf? "type" members).isSome = true
    · rw [if_pos htype]
      rcases readHeader members with e | ⟨kind, span, location⟩
      · simp [bind, Except.bind]
      · rcases buildFields members with e | fields <;> simp [bind, Except.bind, pure, Except.pure]
    · have hnone : memberOf? "type" members = none := by simpa using htype
      rw [if_neg htype]
      simp [readHeader, hnone, bind, Except.bind]
  | list items =>
    rcases h : buildItems items with e | xs <;>
      simp [ofDocument, buildField, h, bind, Except.bind, pure, Except.pure]
  | _ => simp [ofDocument, buildField]

/-- What is not among the `headerNames` is a field. -/
theorem nodeMember_eq_tree (members : List (String × Document)) (name : String)
    (h : headerNames.contains name = false) : Role.nodeMember members name = .tree := by
  simp [headerNames] at h
  simp [Role.nodeMember, h]

end CatchAudit.Node
