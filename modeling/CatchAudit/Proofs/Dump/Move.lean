/-
Only the order of offsets matters. When the offsets of a dump are mapped by a strictly increasing function,
the dump is loaded as before and the same is skipped; analysis fails with the same fault or reports
the same diagnostics at the mapped offsets; and reports list them in the same order.
-/
import CatchAudit.Output.Compact
import CatchAudit.Proofs.Document.Move
import CatchAudit.Proofs.Dump.Links
import CatchAudit.Proofs.Dump.Simulation
import CatchAudit.Proofs.Rule.Diagnostics
import CatchAudit.Proofs.Rule.Likeness
import CatchAudit.Proofs.Syntax.Reach

namespace CatchAudit

namespace Dump

open Document

variable {f : Int → Int} {program : Node}

/-! ## References -/

theorem checkKinds_move : ∀ places : List Place, checkKinds (places.map (Place.move f)) = checkKinds places
  | [] => rfl
  | p :: rest => by
    rw [List.map_cons, checkKinds, checkKinds, checkKinds_move rest]
    show ((p.node.move f).kind.asKey >>= _) = _
    rw [Node.move_kind]

theorem agrees_move (hf : StrictMono f) (p : Place) (kind : Document) (span : Span) :
    (p.move f).key.agrees ⟨kind, span.move f⟩ = p.key.agrees ⟨kind, span⟩ := by
  have hspan : p.node.span.move f = span.move f ↔ p.node.span = span := by
    simp only [Span.move, Span.mk.injEq, hf.injective.eq_iff]
    obtain ⟨start, stop⟩ := span
    cases p.node.span
    simp
  rw [Bool.eq_iff_iff, agrees_iff, agrees_iff]
  show (p.node.move f).span = span.move f ∧ (p.node.move f).kind.equal kind = true ↔ _
  rw [Node.move_span, Node.move_kind, hspan]
  rfl

theorem keep_move (hf : StrictMono f) (kind : Document) (span : Span) (known : Option Place) (p : Place) :
    keep ⟨kind, span.move f⟩ (known.map (Place.move f)) (p.move f) =
      (keep ⟨kind, span⟩ known p).map (Place.move f) := by
  unfold keep
  rw [agrees_move hf]
  split
  · cases known with
    | none => rfl
    | some q =>
      dsimp only [Option.map_some]
      rw [← (Node.likeness_moved hf).isShorthandKey (Place.alike_move f q)]
      split <;> rfl
  · rfl

/-- By `lookup` a mapped key means the mapped place. -/
theorem lookup_move (hf : StrictMono f) (kind : Document) (span : Span) (places : List Place) :
    lookup (places.map (Place.move f)) ⟨kind, span.move f⟩ = (lookup places ⟨kind, span⟩).map (Place.move f) := by
  have hfold : ∀ (places : List Place) (known : Option Place),
      (places.map (Place.move f)).foldl (keep ⟨kind, span.move f⟩) (known.map (Place.move f)) =
        (places.foldl (keep ⟨kind, span⟩) known).map (Place.move f) := by
    intro places
    induction places with
    | nil => exact fun _ => rfl
    | cons p rest ih =>
      intro known
      rw [List.map_cons, List.foldl_cons, List.foldl_cons, keep_move hf, ih]
  exact hfold places none

theorem resolve_move (hf : StrictMono f) (places : List Place) {d : Document} (h : d.Everywhere WholeOffsets .link) :
    resolve (places.map (Place.move f)) (d.move f .link) = (resolve places d).map (Option.map (Place.move f)) := by
  cases d with
  | object members =>
    have htype : ((object members).move f .link).member? "type" = memberOf? "type" members := by
      rw [move_member?, show Role.link.member members "type" = .plain from rfl]
      cases memberOf? "type" members <;> simp [move_plain]
    have hranges : ((object members).move f .link).member? "range" = (memberOf? "range" members).map (move f .range) :=
      move_member? f .link "range"
    rcases hkind : (object members).member? "type" with _ | kind
    · rw [resolve_of_missing (.inl (htype.trans hkind)), resolve_of_missing (.inl hkind)]
      rfl
    · rcases hrange : (object members).member? "range" with _ | range
      · rw [resolve_of_missing (.inr (hranges.trans (congrArg _ hrange))), resolve_of_missing (.inr hrange)]
        rfl
      · obtain ⟨a, b, rfl, hmove⟩ := pair_of_range f (h.member hrange)
        have hranges := hranges.trans (congrArg _ hrange)
        rw [Option.map_some, hmove] at hranges
        rw [resolve_of_parts (htype.trans hkind) hranges, resolve_of_parts hkind hrange]
        rcases kind.asKey with e | key
        · rfl
        · exact congrArg Except.ok (lookup_move hf key ⟨a, b⟩ places)
  | _ => rfl

/-! ## Loading -/

/-- Documents of a role with `WholeOffsets` and the same documents with their offsets mapped by `f`. -/
def MovedAs (f : Int → Int) (r : Role) (d d' : Document) : Prop := d' = d.move f r ∧ d.Everywhere WholeOffsets r

theorem wholeOffsets_of_ne {r : Role} {d : Document} (hrange : r ≠ .range) (hbound : r ≠ .bound) :
    WholeOffsets r d := by
  cases r with
  | range => exact absurd rfl hrange
  | bound => exact absurd rfl hbound
  | _ => trivial

theorem MovedAs.member? {r : Role} {d d' : Document} (hr : r.isEntry = true) (h : MovedAs f r d d') (name : String) :
    Option.Rel (MovedAs f (r.part name)) (d.member? name) (d'.member? name) := by
  obtain ⟨rfl, hd⟩ := h
  cases d with
  | object members =>
    rw [move_member?, Role.member_eq_part hr]
    show Option.Rel _ (memberOf? name members) _
    rcases hx : memberOf? name members with _ | x
    · exact .none
    · exact .some ⟨rfl, Role.member_eq_part hr members name ▸ hd.member hx⟩
  | _ => exact .none

theorem movedAs_null {r : Role} (hrange : r ≠ .range) (hbound : r ≠ .bound) : MovedAs f r .null .null :=
  ⟨rfl, wholeOffsets_of_ne hrange hbound⟩

theorem movedAs_items {r : Role} {ds : List Document} (h : EverywhereIn WholeOffsets r ds) :
    List.Forall₂ (MovedAs f r) ds (moveItems f r ds) := by
  rw [moveItems_eq_map, List.forall₂_map_right_iff, List.forall₂_same]
  exact fun d hd => ⟨rfl, everywhereIn_iff.1 h d hd⟩

theorem movedAs_texts {α : Type} {r : Role} (hrange : r ≠ .range) (hbound : r ≠ .bound) (g : α → String) (xs : List α) :
    List.Forall₂ (MovedAs f r) (xs.map fun x => text (g x)) (xs.map fun x => text (g x)) := by
  rw [List.forall₂_map_left_iff, List.forall₂_map_right_iff, List.forall₂_same]
  exact fun x _ => ⟨rfl, wholeOffsets_of_ne hrange hbound⟩

theorem moveMembers_names (role : String → Role) (members : List (String × Document)) :
    (moveMembers f role members).map Prod.fst = members.map Prod.fst := by
  induction members with
  | nil => simp [moveMembers]
  | cons m rest ih => simp [moveMembers, ih]

/-- The contents of a document that is gone through by `iterate` stay in order, each with its offsets mapped. -/
theorem MovedAs.iterate {r : Role} {d d' : Document} (hr : r ≠ .range ∧ r ≠ .bound) (h : MovedAs f (.each r) d d') :
    Yields (List.Forall₂ (MovedAs f r)) d.iterate d'.iterate := by
  obtain ⟨rfl, hd⟩ := h
  intro ds hds
  cases d with
  | list items =>
    cases hds
    exact ⟨_, rfl, movedAs_items hd.2⟩
  | text s =>
    cases hds
    exact ⟨_, rfl, movedAs_texts hr.1 hr.2 _ _⟩
  | object members =>
    cases hds
    refine ⟨members.map fun m => text m.1, ?_, movedAs_texts hr.1 hr.2 _ _⟩
    have hnames : (moveMembers f ((Role.each r).member members) members).map (fun m => text m.1) =
        members.map fun m => text m.1 := by
      simpa [Function.comp_def] using
        congrArg (List.map text) (moveMembers_names (f := f) ((Role.each r).member members) members)
    exact congrArg Except.ok hnames
  | _ => cases hds

theorem MovedAs.object {r : Role} {d d' : Document} (h : MovedAs f r d d') (hd : ∃ xs, d = .object xs) :
    ∃ ys, d' = .object ys := by
  obtain ⟨rfl, -⟩ := h
  obtain ⟨xs, rfl⟩ := hd
  exact ⟨_, rfl⟩

theorem MovedAs.get {r : Role} {d d' : Document} (hr : r.isEntry = true) (h : MovedAs f r d d') (name : String) :
    Yields (MovedAs f (r.part name)) (d.get name) (d'.get name) := by
  obtain ⟨hrange, hbound⟩ := Role.part_ne_range hr name
  exact get_yields h.object (h.member? hr name) (movedAs_null hrange hbound)

theorem MovedAs.items {r r' : Role} {d d' : Document} {name : String} (hr : r.part name = .each r')
    (h : MovedAs f r d d') : Yields (List.Forall₂ (MovedAs f r')) (items d name) (items d' name) := by
  obtain ⟨hentry, hitem⟩ := Role.each_part hr
  refine items_yields h.object (h.member? hentry name) fun x x' hx => ?_
  rw [hr] at hx
  exact hx.iterate (Role.ne_range_of_entry hitem)

/-- Loading reads the moved document as it reads the document: a `Simulation`. -/
theorem simulation_move (hf : StrictMono f) (program : Node) :
    Simulation (MovedAs f) (Reached program (Node.Moved f)) (Place.root program).walk
      (Place.root (program.move f)).walk := by
  have hwalk : (Place.root (program.move f)).walk = (Place.root program).walk.map (Place.move f) :=
    Place.move_walk f (Place.root program)
  rw [hwalk]
  refine ⟨?_, fun name hr h => h.get hr name, fun _ hr h => h.items hr, fun name hr h => h.member? hr name,
    ?_, ?_, ?_, ?_⟩
  · rw [checkKinds_move]
    exact fun a ha => ⟨a, ha, trivial⟩
  · rintro d _ ⟨rfl, hd⟩ found hfound
    rw [resolve_move hf _ hd, hfound]
    refine ⟨_, rfl, ?_⟩
    cases found with
    | none => exact .none
    | some p =>
      exact .some ((Place.alike_move f p).reached (Place.inTree_of_mem_walk (mem_of_target? (resolve_ok hfound)).1))
  · rintro d _ ⟨rfl, -⟩
    rw [move_plain]
    exact .refl d
  · rintro d _ ⟨rfl, -⟩
    rw [move_plain]
    exact fun key hkey => ⟨key, hkey, rfl⟩
  · rintro d _ ⟨rfl, -⟩
    exact (size_move f .scope d).symm

theorem eq_of_skip_alike {s s' : Skip} (h : s.Alike (MovedAs f .plain) s') : s = s' := by
  cases h with
  | scopeBlock hd => rw [hd.1, move_plain]
  | scopeKind hd => rw [hd.1, move_plain]
  | definitionKind name hd => rw [hd.1, move_plain]
  | _ => rfl

/-- A dump is loaded by `ofDocument` with its offsets mapped, what is built is alike, and the same is skipped. -/
theorem load_move (hf : StrictMono f) {d source : Document} {dump : Dump} (hd : d.Everywhere WholeOffsets .dump)
    (h : (ofDocument d source).1 = .ok dump) :
    ∃ dump', (ofDocument (d.move f .dump) source).1 = .ok dump' ∧
      dump.forest.Alike (Reached dump.program (Node.Moved f)) dump'.forest ∧ dump'.skipped = dump.skipped := by
  cases d with
  | object members =>
    have hmember : ∀ {name x}, memberOf? name members = some x →
        ((object members).move f .dump).member? name = some (x.move f (Role.dump.part name)) := by
      intro name x hx
      rw [move_member?, hx]
      rfl
    obtain ⟨dump', hload, hforest, hskipped⟩ := ofDocument_simulation (MovedAs f)
      (fun program => Reached program (Node.Moved f)) ((object members).move f .dump) h
      (fun ast program hast hprogram =>
        ⟨_, _, hmember hast, Node.build_move f (hd.member hast) hprogram, simulation_move hf program⟩)
      (fun scopes hscopes => ⟨_, hmember hscopes, rfl, hd.member hscopes⟩)
    have heq : dump.skipped = dump'.skipped := by
      rw [← List.forall₂_eq_eq_eq]
      exact hskipped.imp fun _ _ => eq_of_skip_alike
    exact ⟨dump', hload, hforest, heq.symm⟩
  | _ => cases h

end Dump

/-! ## Analysis -/

/-- The same diagnostic at the offsets that `f` gives. -/
def Diagnostic.move (f : Int → Int) (d : Diagnostic) : Diagnostic := { d with node := d.node.move f }

namespace UnhandledCatch

variable {f : Int → Int} {program : Node} {forest forest' : Forest} {severity : Severity} {ds ds' : List Diagnostic}

theorem eq_move_of_alike {d d' : Diagnostic} (h : Diagnostic.Alike (Reached program (Node.Moved f)) d d') :
    d' = d.move f ∧ program.Reaches d.node := by
  obtain ⟨ruleId, kind, messageId, message, node, data, severity⟩ := d
  obtain ⟨ruleId', kind', messageId', message', node', data', severity'⟩ := d'
  obtain ⟨rfl, rfl, rfl, rfl, ⟨rfl, hreaches⟩, rfl, rfl⟩ := h
  exact ⟨rfl, hreaches⟩

theorem missingPart_move (hf : StrictMono f) (h : forest.Alike (Reached program (Node.Moved f)) forest')
    (severity : Severity) :
    List.Forall₂ (Diagnostic.Alike (Reached program (Node.Moved f))) (missingPart forest severity)
      (missingPart forest' severity) := by
  unfold missingPart missingBindings
  split
  · exact .nil
  · have hscope := h.scope? 0
    generalize forest.scope? 0 = s at hscope
    generalize forest'.scope? 0 = s' at hscope
    cases hscope with
    | none => exact .nil
    | @some s s' hs =>
      have hwalk : List.Forall₂ (Place.Alike (Reached program (Node.Moved f))) s.block.walk s'.block.walk := by
        rw [hs.block.of_reached.eq_move, Place.move_walk, List.forall₂_map_right_iff, List.forall₂_same]
        exact fun p hp => (Place.alike_move f p).reached ((Place.mem_walk.1 hp).inTree hs.block.inTree)
      exact reportMissing_alike ((Node.likeness_moved hf).reached program) hwalk severity

/-- What is reported of forests that are `Alike` is reported at the mapped offsets, and all of it stands in the tree.
-/
theorem eq_move_of_partsAlike (hf : StrictMono f) (hforest : forest.Alike (Reached program (Node.Moved f)) forest')
    (h : PartsAlike (Reached program (Node.Moved f)) forest forest' severity ds ds') :
    ds' = ds.map (Diagnostic.move f) ∧ ∀ d ∈ ds, program.Reaches d.node := by
  obtain ⟨us, us', rfl, rfl, hus⟩ := h
  have hall : List.Forall₂ (fun d d' => d' = d.move f ∧ program.Reaches d.node) (us ++ missingPart forest severity)
      (us' ++ missingPart forest' severity) :=
    List.rel_append (hus.imp fun d d' hd => eq_move_of_alike hd.toAlike)
      ((missingPart_move hf hforest severity).imp fun d d' hd => eq_move_of_alike hd)
  generalize us ++ missingPart forest severity = ds at hall
  generalize us' ++ missingPart forest' severity = ds' at hall
  induction hall with
  | nil => exact ⟨rfl, fun d hd => by cases hd⟩
  | cons hd _ ih =>
    rw [List.map_cons, hd.1, ih.1]
    exact ⟨rfl, List.forall_mem_cons.2 ⟨hd.2, ih.2⟩⟩

end UnhandledCatch

/-- On forests that are `Alike` the outcome of `analyze` is the same fault, or the same diagnostics at the mapped
offsets; all of them stand in the tree, and the log is the same. -/
theorem analyze_move {f : Int → Int} {program : Node} {forest forest' : Forest} (hf : StrictMono f)
    (h : forest.Alike (Reached program (Node.Moved f)) forest') (options : RuleOptions) (severity : Severity)
    (ruleName : String) :
    (analyze forest' options severity ruleName).outcome =
        ((analyze forest options severity ruleName).outcome.1.map (List.map (Diagnostic.move f)),
          (analyze forest options severity ruleName).outcome.2) ∧
      ∀ ds, (analyze forest options severity ruleName).outcome.1 = .ok ds → ∀ d ∈ ds, program.Reaches d.node := by
  have hagrees := UnhandledCatch.analyze_agrees
    ((Node.likeness_moved hf).reached program) h options severity ruleName []
  unfold Logged.outcome
  generalize (analyze forest options severity ruleName).run [] = x at hagrees
  generalize (analyze forest' options severity ruleName).run [] = x' at hagrees
  rcases x with ⟨e | ds, log⟩ <;> rcases x' with ⟨e' | ds', log'⟩
  · obtain ⟨rfl, rfl⟩ := hagrees
    exact ⟨rfl, fun ds hds => by cases hds⟩
  · exact hagrees.1.elim
  · exact hagrees.1.elim
  · obtain ⟨hparts, rfl⟩ := hagrees
    obtain ⟨rfl, hreaches⟩ := UnhandledCatch.eq_move_of_partsAlike hf h hparts
    refine ⟨rfl, fun ds₀ hds₀ => ?_⟩
    cases hds₀
    exact hreaches

/-! ## Reports -/

/-- The location, if there is one, begins in a line from 1 on and at a column, both whole numbers. -/
def Node.WholeLocation (n : Node) : Prop :=
  ∀ l, n.location = some l → ∃ line column, l.start = ⟨.int line, .int column⟩ ∧ 1 ≤ line

namespace Diagnostic

variable {f : Int → Int}

/-- A diagnostic has its line and column as its `position?`, or comes first, by its offset. -/
theorem position?_cases (f : Int → Int) {d : Diagnostic} (h : d.node.WholeLocation) :
    (∃ line column, 1 ≤ line ∧ d.position? = some (line, column) ∧ (d.move f).position? = some (line, column)) ∨
      d.position? = some (0, d.node.span.start) ∧ (d.move f).position? = some (0, f d.node.span.start) := by
  have hlocation : (d.move f).node.location = d.node.location := Node.move_location f d.node
  have hspan : (d.move f).node.span = d.node.span.move f := Node.move_span f d.node
  unfold position? sortKey
  rw [hlocation, hspan]
  rcases hl : d.node.location with _ | l
  · exact .inr ⟨rfl, rfl⟩
  · obtain ⟨line, column, hstart, hline⟩ := h l hl
    dsimp only
    rw [hstart]
    exact .inl ⟨line, column, hline, rfl, rfl⟩

theorem notAfter_move (hf : StrictMono f) {a b : Diagnostic} (ha : a.node.WholeLocation) (hb : b.node.WholeLocation) :
    (a.move f).notAfter (b.move f) = a.notAfter b := by
  unfold notAfter
  rcases position?_cases f ha with ⟨i, c, hi, ha, ha'⟩ | ⟨ha, ha'⟩ <;>
    rcases position?_cases f hb with ⟨j, e, hj, hb, hb'⟩ | ⟨hb, hb'⟩ <;> rw [ha, ha', hb, hb']
  · -- only one of the two has a location, so that the lines decide
    have hne : (i == 0) = false := beq_false_of_ne (by omega)
    simp only [hne, Bool.false_and]
  · have hne : ((0 : Int) == j) = false := beq_false_of_ne (by omega)
    simp only [hne, Bool.false_and]
  · simp [hf.le_iff_le]

theorem column_move (d : Diagnostic) : (d.move f).column = d.column := by
  have hlocation : (d.move f).node.location = d.node.location := Node.move_location f d.node
  unfold column
  rw [hlocation]

theorem line_move (d : Diagnostic) : (d.move f).line = d.line := by
  have hlocation : (d.move f).node.location = d.node.location := Node.move_location f d.node
  unfold line
  rw [hlocation]

/-- In what `Diagnostic.toDocument` writes only the range differs. -/
theorem toDocument_move (d : Diagnostic) : (d.move f).toDocument = d.toDocument.map (Document.move f .link) := by
  have hkind : (d.move f).node.kind = d.node.kind := Node.move_kind f d.node
  have hspan : (d.move f).node.span = d.node.span.move f := Node.move_span f d.node
  unfold toDocument
  rw [column_move, line_move, hkind, hspan]
  rcases d.column with e | column
  · rfl
  · refine congrArg Except.ok ?_
    simp [Document.move, Document.moveMembers, Document.moveItems, Document.move_plain,
      Role.member, Role.part, Role.item,
      Span.move, Diagnostic.move]
    exact (Document.moveMembers_plain f d.data).symm

theorem diagnosticLine_move (file : String) (d : Diagnostic) :
    Compact.diagnosticLine file (d.move f) = Compact.diagnosticLine file d := by
  unfold Compact.diagnosticLine
  rw [column_move, line_move]
  rfl

end Diagnostic

namespace FileReport

variable {f : Int → Int} {file : Path} {ds : List Diagnostic} {error : Option String}

theorem sorted_move (hf : StrictMono f) (h : ∀ d ∈ ds, d.node.WholeLocation) :
    sorted ⟨file, ds.map (Diagnostic.move f), error⟩ =
      (sorted ⟨file, ds, error⟩).map (List.map (Diagnostic.move f)) := by
  have hwhole : ∀ d ∈ ds, d.position?.isSome = true ∧ (d.move f).position?.isSome = true := by
    intro d hd
    rcases Diagnostic.position?_cases f (h d hd) with ⟨i, c, -, hp, hp'⟩ | ⟨hp, hp'⟩ <;>
      rw [hp, hp'] <;> exact ⟨rfl, rfl⟩
  unfold sorted
  rw [if_pos, if_pos]
  · rw [← List.map_mergeSort fun a ha b hb => (Diagnostic.notAfter_move hf (h a ha) (h b hb)).symm]
    rfl
  · exact List.all_eq_true.2 fun d hd => (hwhole d hd).1
  · rw [List.all_map]
    exact List.all_eq_true.2 fun d hd => (hwhole d hd).2

/-- The `Compact.reportLines` of a report stay as they are. -/
theorem reportLines_move (hf : StrictMono f) (h : ∀ d ∈ ds, d.node.WholeLocation) :
    Compact.reportLines ⟨file, ds.map (Diagnostic.move f), error⟩ = Compact.reportLines ⟨file, ds, error⟩ := by
  have hlines : ∀ xs : List Diagnostic, (xs.map (Diagnostic.move f)).mapM (Compact.diagnosticLine file.text) =
      xs.mapM (Compact.diagnosticLine file.text) := by
    intro xs
    rw [List.mapM_map]
    congr 1
    funext d
    exact Diagnostic.diagnosticLine_move file.text d
  have hsorted :
      (sorted ⟨file, ds.map (Diagnostic.move f), error⟩ >>= fun xs => xs.mapM (Compact.diagnosticLine file.text)) =
      sorted ⟨file, ds, error⟩ >>= fun xs => xs.mapM (Compact.diagnosticLine file.text) := by
    rw [sorted_move hf h]
    rcases sorted ⟨file, ds, error⟩ with e | xs
    · rfl
    · exact hlines xs
  have hfailed : failed ⟨file, ds.map (Diagnostic.move f), error⟩ = failed ⟨file, ds, error⟩ := rfl
  unfold Compact.reportLines
  rw [hfailed]
  dsimp only
  rw [hsorted]

/-- The messages that `FileReport.toDocument` writes stay in order. -/
theorem toDocument_move (hf : StrictMono f) (h : ∀ d ∈ ds, d.node.WholeLocation) :
    Agree (fun x x' : Document => x'.holdings "messages" = (x.holdings "messages").map (Document.move f .link))
      (toDocument ⟨file, ds, error⟩) (toDocument ⟨file, ds.map (Diagnostic.move f), error⟩) := by
  have hmessages : ∀ xs : List Diagnostic, Agree (fun ms ms' => ms' = ms.map (Document.move f .link))
      (xs.mapM Diagnostic.toDocument) ((xs.map (Diagnostic.move f)).mapM Diagnostic.toDocument) := by
    intro xs
    induction xs with
    | nil => exact rfl
    | cons d rest ih =>
      rw [List.map_cons, List.mapM_cons, List.mapM_cons, Diagnostic.toDocument_move]
      rcases d.toDocument with e | x
      · exact rfl
      · exact ih.bind fun ms ms' hms => by rw [hms]; rfl
  unfold toDocument
  rw [sorted_move hf h]
  rcases sorted ⟨file, ds, error⟩ with e | xs
  · exact rfl
  · exact (hmessages xs).bind fun ms ms' hms => hms

end FileReport

namespace Dump

open Document

/-- A dump with its offsets mapped by a strictly increasing function, `Document.move`, is loaded by `ofDocument` like
the dump itself, and the same is skipped. Then `analyze` ends with the same fault, or with the same diagnostics at the
mapped offsets; and where locations are whole numbers and lines count from 1, by `WholeLocation`, reports list them in
the same order. -/
theorem ofDocument_move {f : Int → Int} (hf : StrictMono f) {d source : Document} {dump : Dump}
    (hd : d.Everywhere WholeOffsets .dump) (h : (ofDocument d source).1 = .ok dump) :
    ∃ dump', (ofDocument (d.move f .dump) source).1 = .ok dump' ∧ dump'.skipped = dump.skipped ∧
      ∀ options severity ruleName,
        (analyze dump'.forest options severity ruleName).outcome.1 =
          (analyze dump.forest options severity ruleName).outcome.1.map (List.map (Diagnostic.move f)) ∧
        ((∀ p ∈ (Place.root dump.program).walk, p.node.WholeLocation) →
          ∀ ds, (analyze dump.forest options severity ruleName).outcome.1 = .ok ds → ∀ file error,
            FileReport.sorted ⟨file, ds.map (Diagnostic.move f), error⟩ =
              (FileReport.sorted ⟨file, ds, error⟩).map (List.map (Diagnostic.move f)) ∧
            Compact.reportLines ⟨file, ds.map (Diagnostic.move f), error⟩ = Compact.reportLines ⟨file, ds, error⟩ ∧
            Agree (fun x x' : Document => x'.holdings "messages" = (x.holdings "messages").map (Document.move f .link))
              (FileReport.toDocument ⟨file, ds, error⟩)
              (FileReport.toDocument ⟨file, ds.map (Diagnostic.move f), error⟩)) := by
  obtain ⟨dump', hload, hforest, hskipped⟩ := load_move hf hd h
  refine ⟨dump', hload, hskipped, fun options severity ruleName => ?_⟩
  obtain ⟨houtcome, hreaches⟩ := analyze_move hf hforest options severity ruleName
  refine ⟨congrArg Prod.fst houtcome, fun hlocations ds hds file error => ?_⟩
  have hwhole : ∀ d ∈ ds, d.node.WholeLocation := by
    intro d hmem
    obtain ⟨p, hp, heq⟩ := Place.exists_mem_walk (hreaches ds hds d hmem)
    exact heq ▸ hlocations p hp
  exact ⟨FileReport.sorted_move hf hwhole, FileReport.reportLines_move hf hwhole, FileReport.toDocument_move hf hwhole⟩

/-- In `Sample.document` one binding is reported, at offsets that are doubled and moved by one. -/
theorem ofDocument_move_sample :
    ∃ dump dump', (ofDocument Sample.document .null).1 = .ok dump ∧
      (ofDocument (Sample.document.move (fun i => 2 * i + 1) .dump) .null).1 = .ok dump' ∧
      dump'.skipped = dump.skipped ∧
      ∃ ds, (analyze dump.forest .default .error UnhandledCatch.ruleName).outcome.1 = .ok ds ∧
        ds.map (fun d => d.node.span) = [⟨22, 23⟩] ∧
        (analyze dump'.forest .default .error UnhandledCatch.ruleName).outcome.1 =
          .ok (ds.map (Diagnostic.move fun i => 2 * i + 1)) := by
  have hd : Sample.document.Everywhere WholeOffsets .dump := by
    simp [Sample.document, Sample.ast, Sample.scopes, Sample.scope, Sample.node, Sample.reference, Sample.binding,
      Sample.assignment, Everywhere, EverywhereUnder, EverywhereIn, WholeOffsets, Role.member, Role.part,
      Role.nodeMember, Role.item, memberOf?]
  have hf : StrictMono fun i : Int => 2 * i + 1 := fun a b hab => by dsimp only; omega
  obtain ⟨dump, ds, hdump, hds, hspans⟩ : ∃ dump ds, (ofDocument Sample.document .null).1 = .ok dump ∧
      (analyze dump.forest .default .error UnhandledCatch.ruleName).outcome.1 = .ok ds ∧
      ds.map (fun d => d.node.span) = [⟨22, 23⟩] :=
    ⟨_, _, rfl, UnhandledCatch.analyze_of_single (by decide) rfl rfl rfl, rfl⟩
  obtain ⟨dump', hload, hskipped, hanalyze⟩ := ofDocument_move hf hd hdump
  refine ⟨dump, dump', hdump, hload, hskipped, ds, hds, hspans, ?_⟩
  rw [(hanalyze .default .error UnhandledCatch.ruleName).1, hds]
  rfl

end Dump

end CatchAudit
