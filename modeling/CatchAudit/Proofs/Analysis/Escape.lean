/-
Reads inside functions that are kept for later. The analysis asks about the nearest function around a read
only. Where a function further out is kept, the walk outwards from the nearest one comes to it, unless a
step before that is decisive; from there on both walks are one. So the read counts as a use, except where
the nearest function is called on the spot or thrown away inside of the one that is kept.
-/
import CatchAudit.Proofs.Analysis.Completion

namespace CatchAudit

namespace Place

variable {p q g f r : Place} {n : Node} {frames : List Frame}

/-! ## Ways outwards -/

/-- What `closureShape` says at the first decisive step, among so many steps outwards from a node with these frames;
none if no step is decisive. -/
def firstVerdict (n : Node) : (frames : List Frame) → (steps : Nat) → Except Fault (Option Bool)
  | f :: rest, steps + 1 => do
    match (← closureShape ⟨n, f :: rest⟩ ⟨f.parent, rest⟩).verdict? with
    | some kept => return some kept
    | none => firstVerdict f.parent rest steps
  | _, _ => .ok none

/-- What the first decisive step says on the way from a place out to `g`, which is the place or stands
above it. -/
def verdictUpTo (p g : Place) : Except Fault (Option Bool) :=
  firstVerdict p.node p.frames (p.frames.length - g.frames.length)

/-- The walk from a function to a place `g` above it, all of it inside the right-hand side: the first decisive
step settles it, and if there is none, the walk from `g` does. -/
theorem storableFrom_up : ∀ {n : Node} {frames : List Frame}, g ∈ chainFrom n frames →
    (∀ q ∈ chainFrom n frames, g ∈ q.chain → r.contains q = true) →
    storableFrom (.place r) n frames = (do
      match ← firstVerdict n frames (frames.length - g.frames.length) with
      | some kept => return kept
      | none => g.isStorable (.place r))
  | n, [], hg, _ => by
    rw [chainFrom, List.mem_singleton] at hg
    subst hg
    rfl
  | n, f :: rest, hg, hinside => by
    rw [chainFrom] at hg
    rcases List.mem_cons.1 hg with rfl | hg
    · -- no step is left to make
      rw [Nat.sub_self]
      rfl
    · have hsteps : (f :: rest).length - g.frames.length = rest.length - g.frames.length + 1 := by
        have := length_frames_le hg
        rw [List.length_cons]
        omega
      have hparent : r.contains ⟨f.parent, rest⟩ = true :=
        hinside _ (List.mem_cons_of_mem _ (mem_chain_self ⟨f.parent, rest⟩)) hg
      have ih := storableFrom_up hg fun q hq => hinside q (List.mem_cons_of_mem _ hq)
      have htest : Operand.contains ⟨f.parent, rest⟩ (.place r) = .ok true := congrArg Except.ok hparent
      rw [storableFrom, hsteps, firstVerdict]
      simp only [htest, bind, Except.bind, if_true]
      cases closureShape ⟨n, f :: rest⟩ ⟨f.parent, rest⟩ with
      | error e => rfl
      | ok shape =>
        dsimp only
        cases shape.verdict? with
        | some kept => rfl
        | none => exact ih

/-- What `firstFunction?` finds stands at or below any function that encloses the place. -/
theorem firstFunction?_below (hfunction : g.node.isFunction = .ok true) : ∀ {n : Node} {frames : List Frame}
    {found : Option Place}, g ∈ chainFrom n frames → firstFunction? (chainFrom n frames) = .ok found →
    ∃ f ∈ chainFrom n frames, found = some f ∧ g ∈ f.chain
  | n, [], found, hg, h => by
    rw [chainFrom, List.mem_singleton] at hg
    subst hg
    obtain ⟨function, hf, h⟩ := bind_ok h
    cases hfunction.symm.trans hf
    cases h
    exact ⟨_, List.mem_singleton_self _, rfl, mem_chain_self _⟩
  | n, f :: rest, found, hg, h => by
    obtain ⟨function, hf, h⟩ := bind_ok h
    cases function with
    | true =>
      cases h
      exact ⟨_, List.mem_cons_self, rfl, hg⟩
    | false =>
      rcases List.mem_cons.1 hg with rfl | hg
      · cases hfunction.symm.trans hf
      · obtain ⟨p, hp, hfound, hgp⟩ := firstFunction?_below hfunction hg h
        exact ⟨p, List.mem_cons_of_mem _ hp, hfound, hgp⟩

/-! ## Functions that are kept -/

/-- `g` is a function around the place that lies inside the right-hand side `r` and is kept for later. -/
structure KeptAround (r p g : Place) : Prop where
  around : g ∈ p.chain
  isFunction : g.node.isFunction = .ok true
  inside : r.contains g = true
  kept : g.isStorable (.place r) = .ok true

variable {program : Node}

/-- What lies between the place and the function that is `KeptAround` it lies inside the right-hand side. -/
theorem KeptAround.contains (h : KeptAround r p g) (hp : (root program).Within p)
    (hinside : ∀ p ∈ (root program).walk, ∀ c ∈ p.children, p.contains c = true) (hq : q ∈ p.chain)
    (hg : g ∈ q.chain) : r.contains q = true :=
  contains_trans h.inside ((hp.of_mem_chain hq).contains_of_mem_chain hinside hg)

/-- From the nearest function `f` on, the first decisive step on the way to the function that is kept settles
it; if there is none, the nearest function is kept as well. -/
theorem KeptAround.isInsideStorable_eq (h : KeptAround r p g) (hp : (root program).Within p)
    (hinside : ∀ p ∈ (root program).walk, ∀ c ∈ p.children, p.contains c = true)
    (hf : p.upperFunction? = .ok (some f)) :
    p.isInsideStorable (.place r) = (f.verdictUpTo g).map fun verdict => verdict.getD true := by
  have hmem : f ∈ p.chain := mem_of_firstFunction? hf
  obtain ⟨f', -, heq, hgf⟩ := firstFunction?_below h.isFunction h.around hf
  cases heq
  have htest : Operand.contains f (.place r) = .ok true := congrArg Except.ok (h.contains hp hinside hmem hgf)
  have hway : f.isStorable (.place r) = (do
      match ← f.verdictUpTo g with
      | some kept => return kept
      | none => g.isStorable (.place r)) :=
    storableFrom_up hgf fun q hq hgq => h.contains hp hinside (chain_subset hmem hq) hgq
  unfold isInsideStorable
  simp only [hf, htest, hway, h.kept, bind, Except.bind, if_true]
  cases f.verdictUpTo g with
  | error e => rfl
  | ok verdict => cases verdict <;> rfl

end Place

namespace Reference

open Place

variable {program : Node} {ref : Reference} {r g : Place}

/-- A read inside a function that is `KeptAround` it serves nothing but the variable's own new value, by
`isReadForItself`, exactly if `verdictUpTo` gives `false` for the nearest function around it: on the way from there
out to the one that is kept, the first decisive step is a call on the spot or throws the value away. It is a use
exactly if this way holds no decisive step or another one. In trees whose nodes have the fields that are read off them
there is nothing else. -/
theorem isReadForItself_of_keptAround (hinside : ∀ p ∈ (root program).walk, ∀ c ∈ p.children, p.contains c = true)
    (hmem : ref.identifier ∈ (root program).walk) (hread : ref.read = true) (hupdate : ref.isSelfUpdate = .ok false)
    (hkept : KeptAround r ref.identifier g) :
    (ref.isReadForItself (some (.place r)) = .ok true ↔
        ∃ f, ref.identifier.upperFunction? = .ok (some f) ∧ f.verdictUpTo g = .ok (some false)) ∧
      (ref.isReadForItself (some (.place r)) = .ok false ↔
        ∃ f, ref.identifier.upperFunction? = .ok (some f) ∧
          (f.verdictUpTo g = .ok none ∨ f.verdictUpTo g = .ok (some true))) ∧
      (program.WellShaped → Succeeds (ref.isReadForItself (some (.place r)))) := by
  have hp := mem_walk.1 hmem
  have htest : Operand.contains ref.identifier (.place r) = .ok true :=
    congrArg Except.ok (hkept.contains hp hinside (mem_chain_self _) hkept.around)
  have hanswer : ref.isReadForItself (some (.place r)) =
      (ref.identifier.isInsideStorable (.place r)).map fun kept => !kept := by
    unfold isReadForItself
    rw [hread]
    simp only [hupdate, htest, bind, Except.bind, if_true, Bool.not_true, Bool.false_eq_true, if_false]
    cases ref.identifier.isInsideStorable (.place r) <;> rfl
  -- without a nearest function there is no answer, since one function encloses the identifier
  have hnearest : ∀ {b : Bool}, ref.isReadForItself (some (.place r)) = .ok b ↔
      ∃ f, ref.identifier.upperFunction? = .ok (some f) ∧
        (f.verdictUpTo g).map (fun verdict => !verdict.getD true) = .ok b := by
    intro b
    rw [hanswer]
    constructor
    · intro h
      cases hf : ref.identifier.upperFunction? with
      | error e =>
        unfold isInsideStorable at h
        rw [hf] at h
        cases h
      | ok found =>
        obtain ⟨f, -, rfl, -⟩ := firstFunction?_below hkept.isFunction hkept.around hf
        refine ⟨f, rfl, ?_⟩
        rw [hkept.isInsideStorable_eq hp hinside hf] at h
        cases hv : f.verdictUpTo g <;> rw [hv] at h <;> exact h
    · rintro ⟨f, hf, h⟩
      rw [hkept.isInsideStorable_eq hp hinside hf]
      cases hv : f.verdictUpTo g <;> rw [hv] at h <;> exact h
  refine ⟨?_, ?_, fun hshaped => isReadForItself_succeeds hshaped hp fun right hright => ?_⟩
  · rw [hnearest]
    refine exists_congr fun f => and_congr_right fun _ => ?_
    rcases f.verdictUpTo g with e | _ | _ | _ <;> simp [Except.map]
  · rw [hnearest]
    refine exists_congr fun f => and_congr_right fun _ => ?_
    rcases f.verdictUpTo g with e | _ | _ | _ <;> simp [Except.map]
  · cases hright
    exact ⟨r, rfl⟩

end Reference

/-! ## A sample

In `e=w(function(){(function(){l(e)})();});` the function at place number 6 is handed on, and the one at place
number 10 is called on the spot inside of it. The read stands at place number 15. -/

namespace Escape.Sample

open Place

def function (start stop body : Int) (call : Node) : Node :=
  .plain "FunctionExpression" start stop [("body", .node (.plain "BlockStatement" body stop
    [("body", .list [.node (.plain "ExpressionStatement" (body + 1) (stop - 1) [("expression", .node call)])])]))]

def read : Node :=
  .plain "CallExpression" 27 31
    [("callee", .node (.plain "Identifier" 27 28 [])), ("arguments", .list [.node (.plain "Identifier" 29 30 [])])]

def called : Node :=
  .plain "CallExpression" 15 35 [("callee", .node (function 16 32 26 read)), ("arguments", .list [])]

def right : Node :=
  .plain "CallExpression" 2 38
    [("callee", .node (.plain "Identifier" 2 3 [])), ("arguments", .list [.node (function 4 37 14 called)])]

def assignment : Node :=
  .plain "AssignmentExpression" 0 38 [("left", .node (.plain "Identifier" 0 1 [])), ("right", .node right)]

def program : Node :=
  .plain "Program" 0 39 [("body", .list [.node (.plain "ExpressionStatement" 0 39 [("expression", .node assignment)])])]

def opening : Reference := ⟨.nth program 3, 0, false, true, ⟨0, 0⟩⟩

def inner : Reference := ⟨.nth program 15, 2, true, false, ⟨0, 0⟩⟩

def assigned : Variable where
  name := "e"
  scope := 0
  definitions := []
  identifiers := []
  references := [opening, inner]

def forest : Forest :=
  let handed := ((Forest.empty.create .global (.root program) none).addVariable 0 assigned).create .function
    (.nth program 6) (some 0)
  handed.create .function (.nth program 10) (some 1)

theorem keptAround : KeptAround (.nth program 4) inner.identifier (.nth program 6) :=
  ⟨List.mem_of_getElem? (i := 8) rfl, rfl, rfl, rfl⟩

theorem inside : ∀ p ∈ (root program).walk, ∀ c ∈ p.children, p.contains c = true := by decide

theorem mem_walk_inner : inner.identifier ∈ (root program).walk :=
  Place.nth_mem_walk (show 15 < (root program).walk.length by decide)

end Escape.Sample

open Place Escape.Sample in
/-- In `program` the first decisive step, from the inner function to its call, says that the function is not kept. -/
theorem Reference.isReadForItself_of_keptAround_sample :
    (Place.nth program 10).verdictUpTo (.nth program 6) = .ok (some false) ∧
      inner.isReadForItself (some (.place (.nth program 4))) = .ok true := by
  have hverdict : (Place.nth program 10).verdictUpTo (.nth program 6) = .ok (some false) := by rfl
  refine ⟨hverdict, ?_⟩
  exact (isReadForItself_of_keptAround inside mem_walk_inner rfl rfl keptAround).1.2 ⟨_, rfl, hverdict⟩

open Place Escape.Sample in
/-- The right-hand side is pending, and the function that is handed on out of it encloses the read `inner`; all the
same the read serves nothing but the new value of `assigned`, which counts as never used. -/
theorem Reference.isReadForItself_of_called_inside :
    opening.nextPending forest none = .ok (some (.place (.nth program 4))) ∧ inner.isSelfUpdate = .ok false ∧
      KeptAround (.nth program 4) inner.identifier (.nth program 6) ∧
      inner.isReadForItself (some (.place (.nth program 4))) = .ok true ∧ assigned.isUsed forest = .ok false :=
  ⟨rfl, rfl, keptAround, rfl, rfl⟩

end CatchAudit
