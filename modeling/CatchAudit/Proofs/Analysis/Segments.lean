/-
What it means that a variable is used, said without going through its references one by one. The list of
references falls into segments. Each has a head; if the head is the target of an assignment that opens a
right-hand side, the references that follow and lie inside that right-hand side belong to the segment
too. The variable is unused exactly if no reference heads a loop that is left at once, every head that is
read is an update thrown away, and every other read is such an update or stands in no function that may
be kept for later.

The invariant of the run is that the pending right-hand side is the one that the head of the current
segment has opened.
-/
import CatchAudit.Proofs.Analysis.Enclosure
import CatchAudit.Proofs.Document.Key

namespace CatchAudit

/-! ## Loops below the nearest function -/

theorem Node.eq_of_hasKindIn {names : List String} {n : Node} {b : Bool} (h : n.hasKindIn names = .ok b) :
    b = names.any n.isKind := by
  obtain ⟨kind, hkey, h⟩ := bind_ok h
  rw [(Document.keyValue?_of_asKey hkey).1] at h
  cases h
  rfl

namespace Place

/-- The place and the places above it, as far as the nearest function, which is left out. -/
def belowFunction (p : Place) : List Place := p.chain.takeWhile fun q => !Node.functionKinds.any q.node.isKind

/-- The place is a loop or stands in one, in the same function: one of `belowFunction` is a loop. -/
def LiesInLoop (p : Place) : Prop := ∃ q ∈ p.belowFunction, Node.loopKinds.any q.node.isKind = true

theorem loopFirst_ok : ∀ {ps : List Place} {b : Bool}, loopFirst ps = .ok b →
    (b = true ↔ ∃ q ∈ ps.takeWhile fun q => !Node.functionKinds.any q.node.isKind,
      Node.loopKinds.any q.node.isKind = true)
  | [], b, h => by
    cases h
    simp
  | p :: rest, b, h => by
    obtain ⟨function, hfunction, h⟩ := bind_ok h
    have hfunction : function = Node.functionKinds.any p.node.isKind := Node.eq_of_hasKindIn hfunction
    cases function with
    | true =>
      cases h
      simp [← hfunction]
    | false =>
      obtain ⟨loop, hloop, h⟩ := bind_ok h
      have hloop : loop = Node.loopKinds.any p.node.isKind := Node.eq_of_hasKindIn hloop
      rw [List.takeWhile_cons_of_pos (by rw [← hfunction]; rfl), List.exists_mem_cons_iff, ← hloop]
      cases loop with
      | true =>
        cases h
        simp
      | false =>
        rw [loopFirst_ok h]
        simp

theorem isInLoop_ok {p : Place} {b : Bool} (h : p.isInLoop = .ok b) : b = true ↔ p.LiesInLoop := loopFirst_ok h

end Place

/-! ## Right-hand sides that references open -/

namespace Reference

/-- The reference is the target of an assignment that stands as a statement, `r` is the node assigned; the
reference stands in the function of the variable, and in no loop there. -/
structure OpensIn (forest : Forest) (v : Variable) (ref : Reference) (assignment statement r : Place) : Prop where
  parent : ref.identifier.parent? = some assignment
  outer : assignment.parent? = some statement
  isAssignment : assignment.node.isKind "AssignmentExpression" = true
  isStatement : statement.node.isKind "ExpressionStatement" = true
  target : ∃ left, assignment.field "left" = .ok left ∧ left.isPlace ref.identifier = true
  right : assignment.field "right" = .ok (.place r)
  sameFunction : forest.variableScope ref.scope = forest.variableScope v.scope
  noLoop : ¬ ref.identifier.LiesInLoop

/-- The reference opens the right-hand side `r`. -/
def Opens (forest : Forest) (v : Variable) (ref : Reference) (r : Place) : Prop :=
  ∃ assignment statement, ref.OpensIn forest v assignment statement r

variable {forest : Forest} {v : Variable} {ref : Reference} {r : Place}

theorem Opens.unique {r' : Place} (h : ref.Opens forest v r) (h' : ref.Opens forest v r') : r = r' := by
  obtain ⟨assignment, statement, h⟩ := h
  obtain ⟨assignment', statement', h'⟩ := h'
  cases h.parent.symm.trans h'.parent
  cases h.right.symm.trans h'.right
  rfl

theorem canBeUsedLater_ok (hresolved : ref.resolved.scope = v.scope) {later : Bool}
    (h : ref.canBeUsedLater forest = .ok later) :
    later = false ↔ forest.variableScope ref.scope = forest.variableScope v.scope ∧ ¬ ref.identifier.LiesInLoop := by
  unfold canBeUsedLater at h
  rw [hresolved] at h
  split at h
  · next hsame =>
    rw [← Place.isInLoop_ok h]
    simp [hsame]
  · next hother =>
    cases h
    simp [hother]

/-- Where `Reference.opens` has an answer, that is a node exactly if the reference `Opens` it. -/
theorem opens_ok (hresolved : ref.resolved.scope = v.scope) {found : Option Operand}
    (h : ref.opens forest = .ok found) (r : Place) : found = some (.place r) ↔ ref.Opens forest v r := by
  unfold opens at h
  cases hparent : ref.identifier.parent? with
  | none =>
    rw [hparent] at h
    cases h
    refine iff_of_false (by simp) ?_
    rintro ⟨assignment, statement, hopens⟩
    cases hparent.symm.trans hopens.parent
  | some parent =>
    rw [hparent] at h
    dsimp only at h
    cases houter : parent.parent? with
    | none =>
      rw [houter] at h
      cases h
      refine iff_of_false (by simp) ?_
      rintro ⟨assignment, statement, hopens⟩
      cases hparent.symm.trans hopens.parent
      cases houter.symm.trans hopens.outer
    | some grandparent =>
      rw [houter] at h
      dsimp only at h
      -- all that is asked is about these two places
      have hthese : ref.Opens forest v r ↔ ref.OpensIn forest v parent grandparent r := by
        constructor
        · rintro ⟨assignment, statement, hopens⟩
          cases hparent.symm.trans hopens.parent
          cases houter.symm.trans hopens.outer
          exact hopens
        · exact fun hopens => ⟨parent, grandparent, hopens⟩
      rw [hthese]
      split at h
      · next hkinds =>
        rw [Bool.and_eq_true] at hkinds
        obtain ⟨left, hleft, h⟩ := bind_ok h
        split at h
        · next hother =>
          cases h
          refine iff_of_false (by simp) fun hopens => ?_
          obtain ⟨left', hleft', hplace⟩ := hopens.target
          cases hleft.symm.trans hleft'
          simp [hplace] at hother
        · next hplace =>
          rw [Bool.not_eq_true', Bool.not_eq_false] at hplace
          obtain ⟨later, hlater, h⟩ := bind_ok h
          have hiff := canBeUsedLater_ok hresolved hlater
          cases later with
          | true =>
            cases h
            refine iff_of_false (by simp) fun hopens => ?_
            cases hiff.2 ⟨hopens.sameFunction, hopens.noLoop⟩
          | false =>
            obtain ⟨hsame, hloop⟩ := hiff.1 rfl
            obtain ⟨right, hright, h⟩ := bind_ok h
            have hfound : found = some (.place r) ↔ right = .place r := by
              split at h
              · cases h
                simp
              · cases h
                simp
            rw [hfound]
            constructor
            · rintro rfl
              exact ⟨hparent, houter, hkinds.1, hkinds.2, ⟨left, hleft, hplace⟩, hright, hsame, hloop⟩
            · intro hopens
              cases hright.symm.trans hopens.right
              rfl
      · next hkinds =>
        cases h
        refine iff_of_false (by simp) fun hopens => hkinds ?_
        rw [hopens.isAssignment, hopens.isStatement]
        rfl

end Reference

/-! ## Segments -/

/-- A reference, the right-hand side that it opens, if any, and the references inside that. -/
structure Segment where
  head : Reference
  right : Option Place
  inner : List Reference

def Segment.references (s : Segment) : List Reference := s.head :: s.inner

/-- The references are cut into `Segment`s from left to right: behind a head that opens a right-hand side goes the
longest run of references inside it. -/
inductive Cut (forest : Forest) (v : Variable) : List Reference → List Segment → Prop
  | nil : Cut forest v [] []
  | opened {head : Reference} {r : Place} {rest : List Reference} {segments : List Segment}
      (opens : head.Opens forest v r)
      (others : Cut forest v (rest.dropWhile fun x => r.contains x.identifier) segments) :
      Cut forest v (head :: rest) (⟨head, some r, rest.takeWhile fun x => r.contains x.identifier⟩ :: segments)
  | alone {head : Reference} {rest : List Reference} {segments : List Segment}
      (closed : ∀ r, ¬ head.Opens forest v r) (others : Cut forest v rest segments) :
      Cut forest v (head :: rest) (⟨head, none, []⟩ :: segments)

namespace Cut

variable {forest : Forest} {v : Variable} {refs : List Reference} {segments : List Segment}

/-- Every list of references can be `Cut`. -/
theorem exists_segments (forest : Forest) (v : Variable) (refs : List Reference) :
    ∃ segments, Cut forest v refs segments := by
  induction hn : refs.length using Nat.strong_induction_on generalizing refs with
  | _ n ih =>
    cases refs with
    | nil => exact ⟨[], .nil⟩
    | cons head rest =>
      by_cases hopens : ∃ r, head.Opens forest v r
      · obtain ⟨r, hr⟩ := hopens
        have hlt : (rest.dropWhile fun x => r.contains x.identifier).length < n := by
          have := (List.dropWhile_suffix (l := rest) fun x => r.contains x.identifier).length_le
          simp only [List.length_cons] at hn
          omega
        obtain ⟨segments, hsegments⟩ := ih _ hlt _ rfl
        exact ⟨_, .opened hr hsegments⟩
      · obtain ⟨segments, hsegments⟩ := ih rest.length (by simp at hn; omega) rest rfl
        exact ⟨_, .alone (fun r hr => hopens ⟨r, hr⟩) hsegments⟩

/-- There is one way to `Cut`. -/
theorem unique {segments' : List Segment} (h : Cut forest v refs segments) (h' : Cut forest v refs segments') :
    segments = segments' := by
  induction h generalizing segments' with
  | nil =>
    cases h'
    rfl
  | opened opens _ ih =>
    cases h' with
    | opened opens' others' =>
      cases opens.unique opens'
      rw [ih others']
    | alone closed' _ => exact absurd opens (closed' _)
  | alone closed _ ih =>
    cases h' with
    | opened opens' _ => exact absurd opens' (closed _)
    | alone _ others' => rw [ih others']

/-- A `Cut` loses nothing and keeps the order. -/
theorem flatMap_references (h : Cut forest v refs segments) : segments.flatMap Segment.references = refs := by
  induction h with
  | nil => rfl
  | opened _ _ ih => simp [Segment.references, ih]
  | alone _ _ ih => simp [Segment.references, ih]

/-- References follow a head only inside of what it has opened, `s.right`. -/
theorem exists_right (h : Cut forest v refs segments) {s : Segment} (hs : s ∈ segments) {x : Reference}
    (hx : x ∈ s.inner) : ∃ r, s.right = some r := by
  induction h with
  | nil => cases hs
  | opened _ _ ih =>
    rcases List.mem_cons.1 hs with rfl | hs
    · exact ⟨_, rfl⟩
    · exact ih hs
  | alone _ _ ih =>
    rcases List.mem_cons.1 hs with rfl | hs
    · cases hx
    · exact ih hs

end Cut

/-! ## One reference -/

namespace Reference

variable {forest : Forest} {v : Variable} {ref : Reference} {r : Place}

/-- What a head must be like for `isUsed` to go on. -/
def QuietHead (ref : Reference) : Prop :=
  ref.isForIn ≠ .ok true ∧ (ref.read = true → ref.isSelfUpdate = .ok true)

/-- What a reference inside the right-hand side `r` must be like for the variable to stay unused. -/
def QuietInside (r : Place) (ref : Reference) : Prop :=
  ref.isForIn ≠ .ok true ∧
    (ref.read = true → ref.isSelfUpdate = .ok true ∨ ref.identifier.isInsideStorable (.place r) = .ok false)

/-- The pending right-hand side, if it is a node, does not contain the reference. -/
def Outside (pending : Option Operand) (ref : Reference) : Prop :=
  ∀ r, pending = some (.place r) → r.contains ref.identifier = false

theorem isReadForItself_inside (hr : r.contains ref.identifier = true) {forItself : Bool}
    (h : ref.isReadForItself (some (.place r)) = .ok forItself) :
    (ref.read && !forItself) = false ↔
      (ref.read = true → ref.isSelfUpdate = .ok true ∨ ref.identifier.isInsideStorable (.place r) = .ok false) := by
  unfold isReadForItself at h
  cases hread : ref.read with
  | false => simp
  | true =>
    simp only [hread, Bool.not_true, Bool.false_eq_true, if_false] at h
    obtain ⟨update, hupdate, h⟩ := bind_ok h
    cases update with
    | true =>
      cases h
      simp [hupdate]
    | false =>
      obtain ⟨inside, hinside, h⟩ := bind_ok h
      have hinside : inside = true := (Except.ok.inj hinside).symm.trans hr
      rw [hinside] at h
      obtain ⟨kept, hkept, h⟩ := bind_ok h
      cases h
      simp [hupdate, hkept]

theorem isReadForItself_outside {pending : Option Operand} (hout : ref.Outside pending) {forItself : Bool}
    (h : ref.isReadForItself pending = .ok forItself) :
    (ref.read && !forItself) = false ↔ (ref.read = true → ref.isSelfUpdate = .ok true) := by
  unfold isReadForItself at h
  cases hread : ref.read with
  | false => simp
  | true =>
    simp only [hread, Bool.not_true, Bool.false_eq_true, if_false] at h
    obtain ⟨update, hupdate, h⟩ := bind_ok h
    cases update with
    | true =>
      cases h
      simp [hupdate]
    | false =>
      have hfalse : forItself = false := by
        cases pending with
        | none =>
          cases h
          rfl
        | some right =>
          obtain ⟨inside, hinside, h⟩ := bind_ok h
          cases right with
          | place r =>
            have hinside : inside = false := (Except.ok.inj hinside).symm.trans (hout r rfl)
            rw [hinside] at h
            cases h
            rfl
          | list items => cases hinside
          | data d => cases hinside
      simp [hupdate, hfalse]

theorem nextPending_inside (hr : r.contains ref.identifier = true) {next : Option Operand}
    (h : ref.nextPending forest (some (.place r)) = .ok next) : next = some (.place r) := by
  obtain ⟨inside, hinside, h⟩ := bind_ok h
  have hinside : inside = true := (Except.ok.inj hinside).symm.trans hr
  rw [hinside] at h
  cases h
  rfl

/-- A reference that stands `Outside` of what is pending decides alone what is pending next. -/
theorem nextPending_outside {pending next : Option Operand} (hout : ref.Outside pending)
    (h : ref.nextPending forest pending = .ok next) : ref.opens forest = .ok next := by
  cases pending with
  | none => exact h
  | some right =>
    obtain ⟨inside, hinside, h⟩ := bind_ok h
    cases right with
    | place r =>
      have hinside : inside = false := (Except.ok.inj hinside).symm.trans (hout r rfl)
      rw [hinside] at h
      exact h
    | list items => cases hinside
    | data d => cases hinside

end Reference

/-! ## Runs -/

namespace Usage

variable {forest : Forest} {v : Variable} {u u' : Usage} {ref : Reference} {r : Place} {used : Bool}

/-- A `Usage.step`: for the variable of a loop, by `isForIn`, it finds a use; otherwise the read and what is pending
are settled apart. -/
theorem step_ok (h : u.step forest ref = .ok u') :
    (ref.isForIn = .ok true ∧ u'.used = true) ∨
      (ref.isForIn = .ok false ∧ ref.nextPending forest u.pending = .ok u'.pending ∧
        ∃ forItself, ref.isReadForItself u.pending = .ok forItself ∧ u'.used = (ref.read && !forItself)) := by
  obtain ⟨forIn, hforIn, h⟩ := bind_ok h
  cases forIn with
  | true =>
    cases h
    exact .inl ⟨hforIn, rfl⟩
  | false =>
    obtain ⟨forItself, hforItself, h⟩ := bind_ok h
    obtain ⟨pending, hpending, h⟩ := bind_ok h
    cases h
    exact .inr ⟨hforIn, hpending, forItself, hforItself, rfl⟩

/-- A reference inside what is pending leaves it pending, and is no use if it is `QuietInside`. -/
theorem step_inside (hpending : u.pending = some (.place r)) (hr : r.contains ref.identifier = true)
    (h : u.step forest ref = .ok u') :
    (u'.used = false ↔ ref.QuietInside r) ∧ (u'.used = false → u'.pending = some (.place r)) := by
  unfold Reference.QuietInside
  rcases step_ok h with ⟨hforIn, hused⟩ | ⟨hforIn, hnext, forItself, hforItself, hused⟩
  · simp [hforIn, hused]
  · rw [hpending] at hnext hforItself
    have hread := ref.isReadForItself_inside hr hforItself
    refine ⟨?_, fun _ => ref.nextPending_inside hr hnext⟩
    rw [hused, hread]
    simp [hforIn]

/-- A reference `Outside` what is pending is a head: what it `Opens` is pending next. -/
theorem step_head (hresolved : ref.resolved.scope = v.scope) (hout : ref.Outside u.pending)
    (h : u.step forest ref = .ok u') :
    (u'.used = false ↔ ref.QuietHead) ∧
      (u'.used = false → ∀ r, u'.pending = some (.place r) ↔ ref.Opens forest v r) := by
  unfold Reference.QuietHead
  rcases step_ok h with ⟨hforIn, hused⟩ | ⟨hforIn, hnext, forItself, hforItself, hused⟩
  · simp [hforIn, hused]
  · have hread := ref.isReadForItself_outside hout hforItself
    refine ⟨?_, fun _ => ref.opens_ok hresolved (ref.nextPending_outside hout hnext)⟩
    rw [hused, hread]
    simp [hforIn]

/-- References inside what is pending: `anyUse` ends with a use among them, or goes on behind them with the same
right-hand side pending. -/
theorem anyUse_inside {rest : List Reference} : ∀ {inner : List Reference} {u : Usage},
    u.pending = some (.place r) → (∀ x ∈ inner, r.contains x.identifier = true) →
    u.anyUse forest (inner ++ rest) = .ok used →
    ((∀ x ∈ inner, x.QuietInside r) ∧
        ∃ u' : Usage, u'.pending = some (.place r) ∧ u'.anyUse forest rest = .ok used) ∨
      ((¬ ∀ x ∈ inner, x.QuietInside r) ∧ used = true)
  | [], u, hpending, _, h => .inl ⟨by simp, u, hpending, h⟩
  | x :: inner, u, hpending, hinner, h => by
    obtain ⟨hx, hinner⟩ := List.forall_mem_cons.1 hinner
    obtain ⟨mid, hstep, h⟩ := bind_ok h
    obtain ⟨hquiet, hnext⟩ := step_inside hpending hx hstep
    rw [List.forall_mem_cons]
    cases hused : mid.used with
    | true =>
      rw [hused] at h hquiet
      cases h
      exact .inr ⟨fun hall => absurd (hquiet.2 hall.1) (by simp), rfl⟩
    | false =>
      rw [hused] at h
      have hx' := hquiet.1 hused
      rcases anyUse_inside (hnext hused) hinner h with ⟨hall, hrest⟩ | ⟨hnot, hused'⟩
      · exact .inl ⟨⟨hx', hall⟩, hrest⟩
      · exact .inr ⟨fun hall => hnot hall.2, hused'⟩

/-- The head of a `Segment`: `anyUse` ends with its use, or goes on behind it with what it `Opens` pending. -/
theorem anyUse_head {rest : List Reference} (hresolved : ref.resolved.scope = v.scope) (hout : ref.Outside u.pending)
    (h : u.anyUse forest (ref :: rest) = .ok used) :
    (ref.QuietHead ∧ ∃ u' : Usage, (∀ r, u'.pending = some (.place r) ↔ ref.Opens forest v r) ∧
        u'.anyUse forest rest = .ok used) ∨
      (¬ ref.QuietHead ∧ used = true) := by
  obtain ⟨mid, hstep, h⟩ := bind_ok h
  obtain ⟨hquiet, hnext⟩ := step_head hresolved hout hstep
  cases hused : mid.used with
  | true =>
    rw [hused] at h hquiet
    cases h
    exact .inr ⟨fun hall => absurd (hquiet.2 hall) (by simp), rfl⟩
  | false =>
    rw [hused] at h
    exact .inl ⟨hquiet.1 hused, mid, hnext hused, h⟩

/-- Where the first reference is a head, `anyUse` finds no use exactly if all segments of the `Cut` are quiet. -/
theorem anyUse_eq_false_iff {refs : List Reference} {segments : List Segment} (hcut : Cut forest v refs segments) :
    ∀ {u : Usage}, (∀ x ∈ refs, x.resolved.scope = v.scope) → (∀ x ∈ refs.head?, x.Outside u.pending) →
    u.anyUse forest refs = .ok used →
    (used = false ↔ ∀ s ∈ segments, s.head.QuietHead ∧ ∀ r ∈ s.right, ∀ x ∈ s.inner, x.QuietInside r) := by
  induction hcut with
  | nil =>
    intro u _ _ h
    cases h
    simp
  | @opened head r rest segments opens _ ih =>
    intro u hresolved hout h
    obtain ⟨hhead, hresolved⟩ := List.forall_mem_cons.1 hresolved
    rw [List.forall_mem_cons]
    rcases anyUse_head hhead (hout head rfl) h with ⟨hquiet, mid, hnext, h⟩ | ⟨hnot, rfl⟩
    · -- the right-hand side is pending for the longest run of references inside it
      have hpending := (hnext r).2 opens
      rw [← List.takeWhile_append_dropWhile (p := fun x => r.contains x.identifier) (l := rest)] at h
      have hinner : ∀ x ∈ rest.takeWhile fun x => r.contains x.identifier, r.contains x.identifier = true :=
        List.all_eq_true.1 List.all_takeWhile
      rcases anyUse_inside hpending hinner h with ⟨hall, u', hpending', h⟩ | ⟨hnot, rfl⟩
      · have hresolved' : ∀ x ∈ rest.dropWhile fun x => r.contains x.identifier, x.resolved.scope = v.scope :=
          fun x hx => hresolved x ((List.dropWhile_sublist _).subset hx)
        have hout' : ∀ x ∈ (rest.dropWhile fun x => r.contains x.identifier).head?, x.Outside u'.pending := by
          intro x hx r' hr'
          cases hpending'.symm.trans hr'
          have := List.head?_dropWhile_not (fun x => r.contains x.identifier) rest
          rw [Option.mem_def.1 hx] at this
          simpa using this
        rw [ih hresolved' hout' h]
        simp only [Option.mem_def, Option.some.injEq, forall_eq']
        exact ⟨fun hsegments => ⟨⟨hquiet, hall⟩, hsegments⟩, fun hsegments => hsegments.2⟩
      · exact iff_of_false (by simp) fun hsegments => hnot (hsegments.1.2 r rfl)
    · exact iff_of_false (by simp) fun hsegments => hnot hsegments.1.1
  | @alone head rest segments closed _ ih =>
    intro u hresolved hout h
    obtain ⟨hhead, hresolved⟩ := List.forall_mem_cons.1 hresolved
    rw [List.forall_mem_cons]
    rcases anyUse_head hhead (hout head rfl) h with ⟨hquiet, mid, hnext, h⟩ | ⟨hnot, rfl⟩
    · -- no node is pending, so that the next reference is a head as well
      have hout' : ∀ x ∈ rest.head?, x.Outside mid.pending :=
        fun x _ r hr => absurd ((hnext r).1 hr) (closed r)
      rw [ih hresolved hout' h]
      simp [hquiet]
    · exact iff_of_false (by simp) fun hsegments => hnot hsegments.1.1

end Usage

/-! ## Variables -/

/-- No use by itself: if the head is read, it is an update that is thrown away, and so are the reads of `inner`,
unless they stand in no function that may be kept for later. -/
structure Segment.Idle (s : Segment) : Prop where
  head : s.head.read = true → s.head.isSelfUpdate = .ok true
  inner : ∀ r, s.right = some r → ∀ x ∈ s.inner, x.read = true →
    x.isSelfUpdate = .ok true ∨ x.identifier.isInsideStorable (.place r) = .ok false

/-- Where `isUsed` has a result, the references are `Cut` into segments in one way, and the variable is unused exactly
if no reference is the variable of a loop that is left at once, by `isForIn`, and all segments are `Idle`. -/
theorem Variable.isUsed_eq_false_iff_segments {forest : Forest} {v : Variable} {used : Bool}
    (hresolved : ∀ ref ∈ v.references, ref.resolved.scope = v.scope) (h : v.isUsed forest = .ok used) :
    ∃ segments, Cut forest v v.references segments ∧
      (∀ segments', Cut forest v v.references segments' → segments' = segments) ∧
      (used = false ↔ (∀ ref ∈ v.references, ref.isForIn ≠ .ok true) ∧ ∀ s ∈ segments, s.Idle) := by
  obtain ⟨segments, hcut⟩ := Cut.exists_segments forest v v.references
  refine ⟨segments, hcut, fun segments' hcut' => hcut'.unique hcut, ?_⟩
  have hstart : ∀ x ∈ v.references.head?, x.Outside Usage.start.pending := by
    intro x _ r hr
    cases hr
  rw [Usage.anyUse_eq_false_iff hcut hresolved hstart h, ← hcut.flatMap_references]
  constructor
  · intro hquiet
    refine ⟨?_, fun s hs => ⟨(hquiet s hs).1.2, fun r hr x hx => ((hquiet s hs).2 r hr x hx).2⟩⟩
    intro ref href
    obtain ⟨s, hs, href⟩ := List.mem_flatMap.1 href
    rcases List.mem_cons.1 href with rfl | href
    · exact (hquiet s hs).1.1
    · obtain ⟨r, hr⟩ := hcut.exists_right hs href
      exact ((hquiet s hs).2 r hr ref href).1
  · rintro ⟨hforIn, hidle⟩ s hs
    have hforIn' : ∀ ref ∈ s.references, ref.isForIn ≠ .ok true :=
      fun ref href => hforIn ref (List.mem_flatMap.2 ⟨s, hs, href⟩)
    refine ⟨⟨hforIn' _ List.mem_cons_self, (hidle s hs).head⟩, fun r hr x hx => ?_⟩
    exact ⟨hforIn' x (List.mem_cons_of_mem _ hx), (hidle s hs).inner r hr x hx⟩

/-- In `e=g(e);` the write opens the call, place number 4, and the read stands inside. -/
def Enclosure.Sample.segment : Segment where
  head := ⟨.nth program 3, 0, false, true, ⟨0, 0⟩⟩
  right := some (.nth program 4)
  inner := [⟨.nth program 6, 0, true, false, ⟨0, 0⟩⟩]

open Enclosure.Sample in
theorem Variable.isUsed_eq_false_iff_segments_sample :
    assigned.isUsed forest = .ok false ∧ Cut forest assigned assigned.references [segment] ∧ segment.Idle := by
  have hused : assigned.isUsed forest = .ok false := by rfl
  have hresolved : ∀ ref ∈ assigned.references, ref.resolved.scope = assigned.scope := by
    simp [assigned]
  have hloop : ¬ (Place.nth program 3).LiesInLoop := by
    rw [← Place.isInLoop_ok (b := false) rfl]
    simp
  have hopens : segment.head.Opens forest assigned (.nth program 4) :=
    ⟨.nth program 2, .nth program 1, rfl, rfl, rfl, rfl, ⟨.place (.nth program 3), rfl, rfl⟩, rfl, rfl, hloop⟩
  have hcut : Cut forest assigned assigned.references [segment] := .opened hopens .nil
  obtain ⟨segments, -, hunique, hiff⟩ := isUsed_eq_false_iff_segments hresolved hused
  have hsegments := hunique _ hcut
  subst hsegments
  exact ⟨hused, hcut, (hiff.1 rfl).2 segment (by simp)⟩

end CatchAudit
