/-
Loops and functions around a place. The search for a loop and the search for a function both go outwards
from the place, each with a stop of its own. They see the same boundary: a place is in a loop exactly if
it is one, or stands in one, whose nearest function is that of the place. A function is its own nearest
function, so that no loop around it counts; and where there is no function at all, every loop counts.
-/
import CatchAudit.Proofs.Analysis.LoopTarget
import CatchAudit.Proofs.Analysis.Segments

namespace CatchAudit

/-! ## Kinds -/

namespace Node

variable {n : Node}

theorem hasKindIn_succeeds (h : Succeeds n.kind.asKey) (names : List String) : Succeeds (n.hasKindIn names) :=
  h.bind fun _ _ => succeeds_ok _

/-- Whether `hasKindIn` has an answer does not depend on the names that it is asked for. -/
theorem hasKindIn_succeeds_of {names others : List String} (h : Succeeds (n.hasKindIn names)) :
    Succeeds (n.hasKindIn others) := by
  obtain ⟨b, hb⟩ := h
  obtain ⟨kind, hkind, -⟩ := bind_ok hb
  exact hasKindIn_succeeds ⟨kind, hkind⟩ others

theorem not_isLoop_of_isFunction (h : n.isFunction = .ok true) : n.isLoop ≠ .ok true := by
  intro hloop
  have hf : functionKinds.any n.isKind = true := (eq_of_hasKindIn h).symm
  have hl : loopKinds.any n.isKind = true := (eq_of_hasKindIn hloop).symm
  obtain ⟨name, hname, hkind⟩ := List.any_eq_true.1 hf
  obtain ⟨other, hother, hkind'⟩ := List.any_eq_true.1 hl
  have hne : name ≠ other := by
    rintro rfl
    simp [functionKinds] at hname
    rcases hname with rfl | rfl | rfl <;> simp [loopKinds] at hother
  cases hkind'.symm.trans (isKind_eq_false hkind hne)

end Node

namespace Place

variable {p a : Place} {above : List Place} {f : Option Place}

/-! ## Chains -/

/-- A place does not stand above itself. -/
theorem not_mem_chain_of_above {n : Node} {frame : Frame} {rest : List Frame} (ha : a ∈ chainFrom frame.parent rest) :
    ⟨n, frame :: rest⟩ ∉ a.chain := by
  intro h
  have hle := length_frames_le (chainFrom_subset ha h)
  simp only [List.length_cons] at hle
  omega

/-! ## The two searches -/

theorem loopFirst_function (h : p.node.isFunction = .ok true) : loopFirst (p :: above) = .ok false := by
  rw [loopFirst, h]
  rfl

theorem loopFirst_loop (h : p.node.isFunction = .ok false) (hloop : p.node.isLoop = .ok true) :
    loopFirst (p :: above) = .ok true := by
  rw [loopFirst, h, hloop]
  rfl

theorem loopFirst_other (h : p.node.isFunction = .ok false) (hloop : p.node.isLoop = .ok false) :
    loopFirst (p :: above) = loopFirst above := by
  rw [loopFirst, h, hloop]
  rfl

theorem firstFunction?_function (h : p.node.isFunction = .ok true) : firstFunction? (p :: above) = .ok (some p) := by
  rw [firstFunction?, h]
  rfl

theorem firstFunction?_other (h : p.node.isFunction = .ok false) :
    firstFunction? (p :: above) = firstFunction? above := by
  rw [firstFunction?, h]
  rfl

/-- The loops among places that have `f` as their nearest function. -/
def LoopOf (places : List Place) (f : Option Place) : Prop :=
  ∃ a ∈ places, a.node.isLoop = .ok true ∧ a.upperFunction? = .ok f

/-- One place more below: for `loopFirst` a function hides all loops, a loop that is no function counts, and any other
place leaves the answer as it is. -/
theorem loopFirst_cons_iff (hchain : p.chain = p :: above) (habove : ∀ a ∈ above, p ∉ a.chain)
    (ih : ∀ g, firstFunction? above = .ok g → ∃ found, loopFirst above = .ok found ∧ (found = true ↔ LoopOf above g))
    (h : firstFunction? (p :: above) = .ok f) :
    ∃ found, loopFirst (p :: above) = .ok found ∧ (found = true ↔ LoopOf (p :: above) f) := by
  obtain ⟨function, hfunction, -⟩ := bind_ok h
  have hupper : p.upperFunction? = .ok f := by rw [upperFunction?, hchain, h]
  cases function with
  | true =>
    rw [firstFunction?_function hfunction] at h
    cases h
    refine ⟨false, loopFirst_function hfunction, iff_of_false Bool.false_ne_true ?_⟩
    rintro ⟨a, ha, hloop, ha'⟩
    rcases List.mem_cons.1 ha with rfl | ha
    · exact Node.not_isLoop_of_isFunction hfunction hloop
    · exact habove a ha (mem_of_firstFunction? ha')
  | false =>
    rw [firstFunction?_other hfunction] at h
    obtain ⟨loop, hloop⟩ : Succeeds p.node.isLoop := Node.hasKindIn_succeeds_of ⟨false, hfunction⟩
    cases loop with
    | true => exact ⟨true, loopFirst_loop hfunction hloop, iff_of_true rfl ⟨p, List.mem_cons_self, hloop, hupper⟩⟩
    | false =>
      obtain ⟨found, hfound, hiff⟩ := ih f h
      refine ⟨found, (loopFirst_other hfunction hloop).trans hfound, hiff.trans ⟨?_, ?_⟩⟩
      · rintro ⟨a, ha, hrest⟩
        exact ⟨a, List.mem_cons_of_mem _ ha, hrest⟩
      · rintro ⟨a, ha, haloop, ha'⟩
        rcases List.mem_cons.1 ha with rfl | ha
        · cases hloop.symm.trans haloop
        · exact ⟨a, ha, haloop, ha'⟩

/-- `loopFirst` finds a loop exactly if `LoopOf` has one, by induction on the frames of the place, outwards. -/
theorem loopFirst_chainFrom_iff : ∀ {n : Node} {frames : List Frame} {f : Option Place},
    firstFunction? (chainFrom n frames) = .ok f →
      ∃ found, loopFirst (chainFrom n frames) = .ok found ∧ (found = true ↔ LoopOf (chainFrom n frames) f)
  | n, [], f, h => by
    refine loopFirst_cons_iff (p := ⟨n, []⟩) rfl (fun a ha => by cases ha) (fun g _ => ⟨false, rfl, ?_⟩) h
    simp [LoopOf]
  | n, frame :: rest, f, h =>
    loopFirst_cons_iff (p := ⟨n, frame :: rest⟩) rfl (fun a ha => not_mem_chain_of_above ha)
      (fun _ hg => loopFirst_chainFrom_iff hg) h

theorem firstFunction?_of_keys : ∀ {ps : List Place}, (∀ a ∈ ps, Succeeds a.node.kind.asKey) →
    Succeeds (firstFunction? ps)
  | [], _ => succeeds_ok _
  | p :: rest, h => by
    refine (Node.hasKindIn_succeeds (h p List.mem_cons_self) _).bind fun function _ => ?_
    cases function with
    | true => exact succeeds_ok _
    | false => exact firstFunction?_of_keys fun a ha => h a (List.mem_cons_of_mem _ ha)

/-- Where kinds can be keys, such as texts, `upperFunction?` finds the nearest function or tells that there is none.
Wherever it has an answer, `isInLoop` has one, and the place is in a loop exactly if it or one above it is a loop with
the same nearest function, or with none as well. -/
theorem isInLoop_iff_same_function (p : Place) :
    ((∀ a ∈ p.chain, Succeeds a.node.kind.asKey) → Succeeds p.upperFunction?) ∧
    ∀ f, p.upperFunction? = .ok f → ∃ found, p.isInLoop = .ok found ∧
      (found = true ↔ ∃ a ∈ p.chain, a.node.isLoop = .ok true ∧ a.upperFunction? = p.upperFunction?) := by
  refine ⟨firstFunction?_of_keys, fun f hf => ?_⟩
  rw [hf]
  exact loopFirst_chainFrom_iff hf

/-! `while (a) function f() { for (;;) b }`, with a loop around the function and one in it. -/

namespace Sample

def program : Node :=
  .plain "WhileStatement" 0 36 [
    ("test", .node (.plain "Identifier" 7 8 [])),
    ("body", .node (.plain "FunctionDeclaration" 10 36 [
      ("body", .node (.plain "ForStatement" 25 34 [("body", .node (.plain "Identifier" 33 34 []))]))]))]

def function : Place := nth program 2

def identifier : Place := nth program 4

end Sample

/-- `Sample.identifier` is in the loop of its function. `Sample.function` is in no loop, since it hides the one around
it. -/
theorem isInLoop_iff_same_function_sample :
    Sample.identifier.upperFunction? = .ok (some Sample.function) ∧ Sample.identifier.isInLoop = .ok true ∧
    Sample.function.upperFunction? = .ok (some Sample.function) ∧
    ¬ ∃ a ∈ Sample.function.chain, a.node.isLoop = .ok true ∧ a.upperFunction? = Sample.function.upperFunction? := by
  have hidentifier : Sample.identifier.upperFunction? = .ok (some Sample.function) := rfl
  have hfunction : Sample.function.upperFunction? = .ok (some Sample.function) := rfl
  obtain ⟨found, hfound, hiff⟩ := (isInLoop_iff_same_function Sample.identifier).2 _ hidentifier
  obtain ⟨outer, houter, hiff'⟩ := (isInLoop_iff_same_function Sample.function).2 _ hfunction
  have htrue : found = true := hiff.2 ⟨nth Sample.program 3, .tail _ (.head _), rfl, rfl⟩
  have hfalse : outer = false := Except.ok.inj (houter.symm.trans (show Sample.function.isInLoop = .ok false from rfl))
  refine ⟨hidentifier, htrue ▸ hfound, hfunction, fun hloop => ?_⟩
  cases hfalse.symm.trans (hiff'.2 hloop)

end Place

end CatchAudit
