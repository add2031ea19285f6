/-
The usage analysis asks whether a place lies inside a pending right-hand side, and answers by spans. On
trees whose spans fit their shape the answer is the one that parent links give: every pending
right-hand side has the assigned variable as its sibling, so that no place above it has the same span.
Hence the whole analysis comes out the same with links in place of spans.
-/
import CatchAudit.Analysis.Usage
import CatchAudit.Proofs.Outcome
import CatchAudit.Proofs.Syntax.Ancestry

namespace CatchAudit

/-! ## The analysis over any test -/

/-- A test whether an operand encloses a place. -/
abbrev EnclosureTest := Operand → Place → Except Fault Bool

namespace EnclosureTest

/-- The test that the analysis makes, by `Operand.contains`. -/
def bySpan : EnclosureTest := fun right p => right.contains p

open Classical in
/-- The test by parent links: the operand is the place or one of its ancestors. What is no node has no
links; `other` says what becomes of it. -/
noncomputable def byLinks (other : Shape → Except Fault Bool) : EnclosureTest
  | .place r, p => .ok (decide (r ∈ p.chain))
  | x, _ => other x.shape

/-- Asking what is no node fails, as it does with `bySpan`. -/
def refuse (shape : Shape) : Except Fault Bool := .error (.noOperation shape "contains")

end EnclosureTest

namespace Place

def storableFromBy (test : EnclosureTest) (right : Operand) (n : Node) : List Frame → Except Fault Bool
  | [] => .ok false
  | f :: rest => do
    let parent : Place := ⟨f.parent, rest⟩
    if ← test right parent then
      match (← closureShape ⟨n, f :: rest⟩ parent).verdict? with
      | some kept => return kept
      | none => storableFromBy test right f.parent rest
    else return false

def isInsideStorableBy (test : EnclosureTest) (identifier : Place) (right : Operand) : Except Fault Bool := do
  match ← identifier.upperFunction? with
  | none => return false
  | some function => do
    if ← test right function then storableFromBy test right function.node function.frames else return false

theorem storableFromBy_bySpan (right : Operand) : ∀ (n : Node) (frames : List Frame),
    storableFromBy .bySpan right n frames = storableFrom right n frames
  | _, [] => rfl
  | n, f :: rest => by
    unfold storableFromBy storableFrom
    simp only [storableFromBy_bySpan right f.parent rest]
    rfl

theorem isInsideStorableBy_bySpan (identifier : Place) (right : Operand) :
    isInsideStorableBy .bySpan identifier right = identifier.isInsideStorable right := by
  unfold isInsideStorableBy isInsideStorable isStorable
  simp only [storableFromBy_bySpan]
  rfl

end Place

namespace Reference

def nextPendingBy (test : EnclosureTest) (forest : Forest) (ref : Reference) (pending : Option Operand) :
    Except Fault (Option Operand) :=
  match pending with
  | none => ref.opens forest
  | some right => do
    if ← test right ref.identifier then return some right else ref.opens forest

def isReadForItselfBy (test : EnclosureTest) (ref : Reference) (pending : Option Operand) : Except Fault Bool :=
  if !ref.read then .ok false
  else do
    if ← ref.isSelfUpdate then return true
    else match pending with
      | none => return false
      | some right => do
        if ← test right ref.identifier then
          return !(← Place.isInsideStorableBy test ref.identifier right)
        else return false

theorem isReadForItselfBy_bySpan (ref : Reference) (pending : Option Operand) :
    ref.isReadForItselfBy .bySpan pending = ref.isReadForItself pending := by
  unfold isReadForItselfBy isReadForItself
  simp only [Place.isInsideStorableBy_bySpan]
  rfl

end Reference

namespace Usage

def stepBy (test : EnclosureTest) (forest : Forest) (u : Usage) (ref : Reference) : Except Fault Usage := do
  if ← ref.isForIn then return ⟨u.pending, true⟩
  else
    let forItself ← ref.isReadForItselfBy test u.pending
    let pending ← ref.nextPendingBy test forest u.pending
    return ⟨pending, ref.read && !forItself⟩

def anyUseBy (test : EnclosureTest) (forest : Forest) (u : Usage) : List Reference → Except Fault Bool
  | [] => .ok false
  | ref :: rest => do
    let u ← u.stepBy test forest ref
    if u.used then return true else anyUseBy test forest u rest

theorem stepBy_bySpan (forest : Forest) (u : Usage) (ref : Reference) :
    u.stepBy .bySpan forest ref = u.step forest ref := by
  unfold stepBy step
  simp only [Reference.isReadForItselfBy_bySpan]
  rfl

theorem anyUseBy_bySpan (forest : Forest) : ∀ (u : Usage) (refs : List Reference),
    u.anyUseBy .bySpan forest refs = u.anyUse forest refs
  | _, [] => rfl
  | u, ref :: rest => by
    unfold anyUseBy anyUse
    simp only [stepBy_bySpan, anyUseBy_bySpan forest _ rest]

end Usage

def Variable.isUsedBy (test : EnclosureTest) (forest : Forest) (v : Variable) : Except Fault Bool :=
  Usage.start.anyUseBy test forest v.references

/-! ## Two tests compared -/

section Compare

variable {R : (α : Type) → Except Fault α → Except Fault α → Prop} {test test' : EnclosureTest}

theorem Place.storableFromBy_compare (hR : Stepwise R) {right : Operand} : ∀ {n : Node} {frames : List Frame},
    (∀ q ∈ chainFrom n frames, R Bool (test right q) (test' right q)) →
    R Bool (storableFromBy test right n frames) (storableFromBy test' right n frames)
  | _, [], _ => hR.refl _
  | n, f :: rest, h => by
    have hrest : ∀ q ∈ chainFrom f.parent rest, R Bool (test right q) (test' right q) :=
      fun q hq => h q (List.mem_cons_of_mem _ hq)
    unfold storableFromBy
    refine hR.bind (hrest _ (mem_chain_self ⟨f.parent, rest⟩)) fun inside _ => ?_
    cases inside with
    | false => exact hR.refl _
    | true =>
      refine hR.bind (hR.refl _) fun shape _ => ?_
      cases shape.verdict? with
      | some kept => exact hR.refl _
      | none => exact storableFromBy_compare hR hrest

theorem Place.mem_of_firstFunction? : ∀ {ps : List Place} {p : Place}, firstFunction? ps = .ok (some p) → p ∈ ps
  | [], _, h => by cases h
  | q :: rest, p, h => by
    obtain ⟨function, -, h⟩ := bind_ok h
    cases function with
    | true => cases h; exact List.mem_cons_self ..
    | false => exact List.mem_cons_of_mem _ (mem_of_firstFunction? h)

theorem Place.isInsideStorableBy_compare (hR : Stepwise R) {identifier : Place} {right : Operand}
    (h : ∀ q ∈ identifier.chain, R Bool (test right q) (test' right q)) :
    R Bool (isInsideStorableBy test identifier right) (isInsideStorableBy test' identifier right) := by
  unfold isInsideStorableBy
  refine hR.bind (hR.refl _) fun function hf => ?_
  cases function with
  | none => exact hR.refl _
  | some function =>
    -- the tests are made on ancestors of the identifier only
    have hmem : function ∈ identifier.chain := mem_of_firstFunction? hf
    refine hR.bind (h function hmem) fun inside _ => ?_
    cases inside with
    | false => exact hR.refl _
    | true => exact storableFromBy_compare hR fun q hq => h q (chain_subset hmem hq)

namespace Reference

variable {ref : Reference} {pending : Option Operand}

theorem isReadForItselfBy_compare (hR : Stepwise R)
    (h : ∀ right ∈ pending, ∀ q ∈ ref.identifier.chain, R Bool (test right q) (test' right q)) :
    R Bool (ref.isReadForItselfBy test pending) (ref.isReadForItselfBy test' pending) := by
  unfold isReadForItselfBy
  split
  · exact hR.refl _
  · refine hR.bind (hR.refl _) fun update _ => ?_
    cases update with
    | true => exact hR.refl _
    | false =>
      cases pending with
      | none => exact hR.refl _
      | some right =>
        refine hR.bind (h right rfl _ ref.identifier.mem_chain_self) fun inside _ => ?_
        cases inside with
        | false => exact hR.refl _
        | true => exact hR.bind (Place.isInsideStorableBy_compare hR (h right rfl)) fun _ _ => hR.refl _

theorem nextPendingBy_compare (hR : Stepwise R) (forest : Forest)
    (h : ∀ right ∈ pending, ∀ q ∈ ref.identifier.chain, R Bool (test right q) (test' right q)) :
    R (Option Operand) (ref.nextPendingBy test forest pending) (ref.nextPendingBy test' forest pending) := by
  cases pending with
  | none => exact hR.refl _
  | some right =>
    unfold nextPendingBy
    refine hR.bind (h right rfl _ ref.identifier.mem_chain_self) fun inside _ => ?_
    cases inside <;> exact hR.refl _

end Reference

theorem Usage.stepBy_compare (hR : Stepwise R) (forest : Forest) {u : Usage} {ref : Reference}
    (h : ∀ right ∈ u.pending, ∀ q ∈ ref.identifier.chain, R Bool (test right q) (test' right q)) :
    R Usage (u.stepBy test forest ref) (u.stepBy test' forest ref) := by
  unfold stepBy
  refine hR.bind (hR.refl _) fun forIn _ => ?_
  cases forIn with
  | true => exact hR.refl _
  | false =>
    refine hR.bind (ref.isReadForItselfBy_compare hR h) fun forItself _ => ?_
    exact hR.bind (ref.nextPendingBy_compare hR forest h) fun _ _ => hR.refl _

/-- An invariant of the pending right-hand side under which two tests agree makes whole runs agree: `anyUseBy`, which
stops at the first use, and the fold of `stepBy` over every reference. -/
theorem Usage.run_compare (hR : Stepwise R) {forest : Forest} (I : Option Operand → Prop) :
    ∀ {refs : List Reference} {u : Usage}, I u.pending →
      (∀ ref ∈ refs, ∀ pending, I pending → ∀ right ∈ pending, ∀ q ∈ ref.identifier.chain,
        R Bool (test right q) (test' right q)) →
      (∀ ref ∈ refs, ∀ u u' : Usage, I u.pending → u.stepBy test forest ref = .ok u' → I u'.pending) →
      R Bool (u.anyUseBy test forest refs) (u.anyUseBy test' forest refs) ∧
        R Usage (refs.foldlM (stepBy test forest) u) (refs.foldlM (stepBy test' forest) u)
  | [], u, _, _, _ => ⟨hR.refl _, hR.refl _⟩
  | ref :: rest, u, hu, hagree, hstep => by
    have hhead := stepBy_compare hR forest (hagree ref (List.mem_cons_self ..) u.pending hu)
    -- the invariant is all that the rest of the run needs to know of this step
    have ih : ∀ u', u.stepBy test forest ref = .ok u' → _ := fun u' hu' =>
      Usage.run_compare hR I (hstep ref (List.mem_cons_self ..) u u' hu hu')
        (fun r hr => hagree r (List.mem_cons_of_mem _ hr)) (fun r hr => hstep r (List.mem_cons_of_mem _ hr))
    constructor
    · unfold anyUseBy
      refine hR.bind hhead fun u' hu' => ?_
      cases u'.used with
      | true => exact hR.refl _
      | false => exact (ih u' hu').1
    · rw [List.foldlM_cons, List.foldlM_cons]
      exact hR.bind hhead fun u' hu' => (ih u' hu').2

end Compare

/-! ## Pending right-hand sides -/

namespace Place

/-- A field that is a `.place` is a child, by the step of that field. -/
theorem field_place {p q : Place} {name : String} (h : p.field name = .ok (.place q)) :
    q ∈ p.children ∧ ∃ n, q = p.child ⟨name, none⟩ n := by
  unfold field at h
  split at h
  · cases h
  · cases hf : p.node.field? name with
    | none => simp [operand?, hf] at h
    | some f =>
      cases f with
      | list items => simp [operand?, hf, operand] at h
      | data d => simp [operand?, hf, operand] at h
      | node n =>
        simp only [operand?, hf, operand, Option.map_some, Except.ok.injEq, Operand.place.injEq] at h
        subst h
        refine ⟨mem_children.2 ⟨_, n, ?_, rfl⟩, n, rfl⟩
        exact List.mem_flatMap.2 ⟨(name, .node n), mem_of_memberOf? hf, List.mem_singleton_self _⟩

/-- A place that stands in a field has the owner of the field as its `parent?`. -/
theorem parent?_of_field {p q : Place} {name : String} (h : p.field name = .ok (.place q)) : q.parent? = some p := by
  obtain ⟨-, n, rfl⟩ := field_place h
  rfl

theorem operand?_of_field {p : Place} {name : String} {x : Operand} (h : p.field name = .ok x) :
    p.operand? name = some x := by
  unfold field at h
  split at h
  · cases h
  · split at h
    · next hx =>
      cases h
      exact hx
    · cases h

theorem Within.parent?_eq_some {program : Node} {p q : Place} (hp : (root program).Within p)
    (hq : p.parent? = some q) : (root program).Within q := by
  cases hp with
  | self => cases hq
  | @child r _ hw hc =>
    rw [parent?_of_mem_children hc] at hq
    cases hq
    exact hw

end Place

/-- A right-hand side that may be pending: if it is a node, it is one of the `children` of a place of the tree and has
a sibling. -/
def Operand.HasSibling (program : Node) : Operand → Prop
  | .place r => ∃ q d, (Place.root program).Within q ∧ r ∈ q.children ∧ d ∈ q.children ∧ d ≠ r
  | _ => True

/-- The right-hand side that `Reference.opens` gives has the identifier of the reference as its sibling. -/
theorem Reference.opens_hasSibling {program : Node} {forest : Forest} {ref : Reference} {right : Operand}
    (hr : (Place.root program).Within ref.identifier) (h : ref.opens forest = .ok (some right)) :
    right.HasSibling program := by
  unfold opens at h
  cases hp : ref.identifier.parent? with
  | none => rw [hp] at h; cases h
  | some parent =>
    rw [hp] at h
    dsimp only at h
    cases hg : parent.parent? with
    | none => rw [hg] at h; cases h
    | some grandparent =>
      rw [hg] at h
      dsimp only at h
      split at h
      · obtain ⟨left, hleft, h⟩ := bind_ok h
        split at h
        · cases h
        · rename_i hplace
          obtain ⟨later, -, h⟩ := bind_ok h
          cases later with
          | true => cases h
          | false =>
            obtain ⟨value, hvalue, h⟩ := bind_ok h
            cases value with
            | list items => cases h; trivial
            | data d => cases d <;> cases h <;> trivial
            | place r =>
              cases h
              cases left with
              | list items => simp [Operand.isPlace] at hplace
              | data d => simp [Operand.isPlace] at hplace
              | place l =>
                -- two fields of one assignment, under different names
                obtain ⟨hl, m, rfl⟩ := Place.field_place hleft
                obtain ⟨hr', n, rfl⟩ := Place.field_place hvalue
                refine ⟨parent, _, hr.parent?_eq_some hp, hr', hl, ?_⟩
                simp [Place.child]
      · cases h

/-- One `Usage.step` keeps what is pending a right-hand side with `HasSibling`. -/
theorem Usage.step_hasSibling {program : Node} {forest : Forest} {u u' : Usage} {ref : Reference}
    (hr : (Place.root program).Within ref.identifier) (hu : ∀ right ∈ u.pending, right.HasSibling program)
    (h : u.step forest ref = .ok u') : ∀ right ∈ u'.pending, right.HasSibling program := by
  obtain ⟨forIn, -, h⟩ := bind_ok h
  cases forIn with
  | true => cases h; exact hu
  | false =>
    obtain ⟨forItself, -, h⟩ := bind_ok h
    obtain ⟨pending, hp, h⟩ := bind_ok h
    cases h
    intro right hright
    cases hright
    unfold Reference.nextPending at hp
    cases hu' : u.pending with
    | none => rw [hu'] at hp; exact ref.opens_hasSibling hr hp
    | some old =>
      rw [hu'] at hp
      obtain ⟨inside, -, hp⟩ := bind_ok hp
      cases inside with
      | true => cases hp; exact hu _ hu'
      | false => exact ref.opens_hasSibling hr hp

/-! ## Spans and links -/

section Links

variable {program : Node} {right : Operand} {q : Place}

theorem EnclosureTest.bySpan_place {r : Place} (h : program.Nested) (hr : (Operand.place r).HasSibling program)
    (hq : (Place.root program).Within q) (other : Shape → Except Fault Bool) :
    bySpan (.place r) q = byLinks other (.place r) q := by
  classical
  obtain ⟨parent, d, hparent, hr, hd, hne⟩ := hr
  have hiff := h.contains_iff_mem_chain hparent hr hd hne hq
  simp only [bySpan, byLinks, Operand.contains, Except.ok.injEq]
  rw [Bool.eq_iff_iff, decide_eq_true_iff]
  exact hiff

/-- On what may be pending, `bySpan` and `byLinks refuse` answer alike, and fail alike. -/
theorem EnclosureTest.bySpan_eq_byLinks (h : program.Nested) (hr : right.HasSibling program)
    (hq : (Place.root program).Within q) : bySpan right q = byLinks refuse right q := by
  cases right with
  | place r => exact bySpan_place h hr hq refuse
  | list items => rfl
  | data d => rfl

/-- Whatever is done with what is no node, an answer of `bySpan` is the answer of `byLinks`. -/
theorem EnclosureTest.byLinks_ok (h : program.Nested) (hr : right.HasSibling program)
    (hq : (Place.root program).Within q) (other : Shape → Except Fault Bool) :
    ∀ b, bySpan right q = .ok b → byLinks other right q = .ok b := by
  intro b hb
  cases right with
  | place r => rw [← bySpan_place h hr hq other]; exact hb
  | list items => cases hb
  | data d => cases hb

/-- Whole runs over references of the tree, with `bySpan` and with a test that answers like it on what `HasSibling`.
-/
theorem Usage.run_bySpan_compare {R : (α : Type) → Except Fault α → Except Fault α → Prop} (hR : Stepwise R)
    {test : EnclosureTest} (forest : Forest) {refs : List Reference}
    (htest : ∀ right q, right.HasSibling program → (Place.root program).Within q →
      R Bool (EnclosureTest.bySpan right q) (test right q))
    (hrefs : ∀ ref ∈ refs, (Place.root program).Within ref.identifier) :
    R Bool (start.anyUse forest refs) (start.anyUseBy test forest refs) ∧
      R Usage (refs.foldlM (step forest) start) (refs.foldlM (stepBy test forest) start) := by
  have hspan : step forest = stepBy .bySpan forest :=
    funext fun u => funext fun ref => (stepBy_bySpan forest u ref).symm
  rw [← anyUseBy_bySpan, hspan]
  refine run_compare hR (fun pending => ∀ right ∈ pending, right.HasSibling program) ?_ ?_ ?_
  · intro right hright
    cases hright
  · intro ref href pending hpending right hright q hq
    exact htest right q (hpending right hright) ((hrefs ref href).of_mem_chain hq)
  · intro ref href u u' hu hu'
    rw [stepBy_bySpan] at hu'
    exact step_hasSibling (hrefs ref href) hu hu'

end Links

/-- On a tree that is `Nested`, so that spans fit its shape, `isUsed` of a variable of that tree gives the same
outcome with parent links in place of spans, and has the same right-hand side pending after every reference. Where
what is pending is no node, `byLinks` may be taken to fail like spans, or to answer in any way: then each outcome by
spans that is no fault is the outcome by links. -/
theorem isUsed_span_eq_links {program : Node} (h : program.Nested) (forest : Forest) (v : Variable)
    (hv : ∀ ref ∈ v.references, ref.identifier ∈ (Place.root program).walk) :
    v.isUsed forest = v.isUsedBy (.byLinks EnclosureTest.refuse) forest ∧
    (∀ refs, refs <+: v.references → refs.foldlM (Usage.step forest) .start =
      refs.foldlM (Usage.stepBy (.byLinks EnclosureTest.refuse) forest) .start) ∧
    ∀ other, (∀ b, v.isUsed forest = .ok b → v.isUsedBy (.byLinks other) forest = .ok b) ∧
      ∀ refs, refs <+: v.references → ∀ u, refs.foldlM (Usage.step forest) .start = .ok u →
        refs.foldlM (Usage.stepBy (.byLinks other) forest) .start = .ok u := by
  have hin : ∀ {refs}, refs <+: v.references → ∀ ref ∈ refs, (Place.root program).Within ref.identifier :=
    fun hpre ref href => Place.mem_walk.1 (hv ref (hpre.subset href))
  have hequal := fun {refs} (hpre : refs <+: v.references) => Usage.run_bySpan_compare stepwise_eq forest
    (fun _ _ => EnclosureTest.bySpan_eq_byLinks h) (hin hpre)
  have hresult := fun other {refs} (hpre : refs <+: v.references) => Usage.run_bySpan_compare stepwise_ok forest
    (fun _ _ hright hq => EnclosureTest.byLinks_ok h hright hq other) (hin hpre)
  refine ⟨(hequal List.prefix_rfl).1, fun refs hpre => (hequal hpre).2, fun other => ?_⟩
  exact ⟨(hresult other List.prefix_rfl).1, fun refs hpre => (hresult other hpre).2⟩

/-! ## A sample

In `e=g(e);` the read of `e` stands in the right-hand side that the write opens. The statement and the
program have the same span. -/

namespace Enclosure.Sample

def call : Node :=
  .plain "CallExpression" 2 6 [("callee", .node (.plain "Identifier" 2 3 [])),
    ("arguments", .list [.node (.plain "Identifier" 4 5 [])])]

def assignment : Node :=
  .plain "AssignmentExpression" 0 6 [("left", .node (.plain "Identifier" 0 1 [])), ("right", .node call)]

def program : Node :=
  .plain "Program" 0 7 [("body", .list [.node (.plain "ExpressionStatement" 0 7 [("expression", .node assignment)])])]

/-- The target is place number 3 of the program, the argument number 6. -/
def assigned : Variable where
  name := "e"
  scope := 0
  definitions := []
  identifiers := []
  references := [⟨.nth program 3, 0, false, true, ⟨0, 0⟩⟩, ⟨.nth program 6, 0, true, false, ⟨0, 0⟩⟩]

def forest : Forest := (Forest.empty.create .global (.root program) none).addVariable 0 assigned

theorem references_mem_walk : ∀ ref ∈ assigned.references, ref.identifier ∈ (Place.root program).walk := by
  have htarget : 3 < (Place.root program).walk.length := by decide
  have hargument : 6 < (Place.root program).walk.length := by decide
  intro ref href
  simp only [assigned, List.mem_cons, List.not_mem_nil, or_false] at href
  rcases href with rfl | rfl
  · exact Place.nth_mem_walk htarget
  · exact Place.nth_mem_walk hargument

end Enclosure.Sample

open Enclosure.Sample in
theorem isUsed_span_eq_links_sample :
    program.Nested ∧ assigned.isUsed forest = .ok false ∧
      assigned.isUsedBy (.byLinks EnclosureTest.refuse) forest = .ok false := by
  have hnested : program.Nested := ⟨by decide, by decide, by decide⟩
  have hused : assigned.isUsed forest = .ok false := by rfl
  refine ⟨hnested, hused, ?_⟩
  rw [← hused]
  exact (isUsed_span_eq_links hnested forest assigned references_mem_walk).1.symm

end CatchAudit
