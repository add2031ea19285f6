/-
The order of members does not matter. When the members of the objects of a dump are reordered, at any
depth, nodes are found in another order; but where every kind with a span has one meaning, references
resolve to the same nodes. So the dump is loaded as before, analysis fails with the same fault or
reports the same unhandled bindings in the same order, and the same catch clauses without a binding in
some order.
-/
import CatchAudit.Proofs.Dump.Links
import CatchAudit.Proofs.Dump.Simulation
import CatchAudit.Proofs.Rule.Diagnostics
import CatchAudit.Proofs.Rule.Likeness
import CatchAudit.Proofs.Syntax.Reorder

namespace CatchAudit

namespace Dump

open Document

/-! ## Keys with one meaning -/

/-- Of the places that share the key of some place, exactly one is no shorthand key. -/
def OneMeaning (places : List Place) : Prop :=
  ∀ p ∈ places, places.countP (fun q => q.key.agrees p.key && !q.isShorthandKey) = 1

instance (places : List Place) : Decidable (OneMeaning places) :=
  inferInstanceAs (Decidable (∀ p ∈ places, places.countP (fun q => q.key.agrees p.key && !q.isShorthandKey) = 1))

section

variable {places places' : List Place} {key : NodeKey} {p q : Place} {rest : List Place}

/-- As long as `keep` knows nothing but shorthand keys, the first place that is none is taken. -/
theorem foldl_keep_of_filter : ∀ {places : List Place} {known : Option Place},
    (∀ k, known = some k → k.isShorthandKey = true) →
    places.filter (fun p => p.key.agrees key && !p.isShorthandKey) = q :: rest →
    places.foldl (keep key) known = some q
  | [], _, _, h => by cases h
  | p :: ps, known, hknown, h => by
    rw [List.foldl_cons]
    by_cases hagrees : p.key.agrees key = true
    · have hkeep : keep key known p = some p := by
        unfold keep
        rw [if_pos hagrees]
        cases known with
        | none => rfl
        | some k => simp [hknown k rfl]
      rw [hkeep]
      by_cases hshorthand : p.isShorthandKey = true
      · refine foldl_keep_of_filter ?_ ?_
        · rintro k ⟨⟩
          exact hshorthand
        · rwa [List.filter_cons_of_neg (by simp [hshorthand])] at h
      · rw [List.filter_cons_of_pos (by simp [hagrees, hshorthand])] at h
        cases h
        exact foldl_keep_of_not_shorthand (by simpa using hshorthand) ps
    · have hkeep : keep key known p = known := by
        unfold keep
        rw [if_neg hagrees]
      rw [hkeep]
      refine foldl_keep_of_filter hknown ?_
      rwa [List.filter_cons_of_neg (by simp [hagrees])] at h

theorem lookup_of_filter (h : places.filter (fun p => p.key.agrees key && !p.isShorthandKey) = q :: rest) :
    lookup places key = some q := foldl_keep_of_filter (fun k hk => by cases hk) h

/-- A key that `agrees` with that of a place agrees with the same places. -/
theorem agrees_eq_of_agrees (hp : p.key.agrees key = true) (hq : q.node.kind.asKey = .ok q.node.kind)
    (hpkey : p.node.kind.asKey = .ok p.node.kind) : q.key.agrees key = q.key.agrees p.key := by
  obtain ⟨hspan, hequal⟩ := agrees_iff.1 hp
  obtain ⟨-, v, hv⟩ := keyValue?_of_asKey hpkey
  obtain ⟨-, w, hw⟩ := keyValue?_of_asKey hq
  have hkey : key.kind.keyValue? = p.node.kind.keyValue? := ((equal_iff_of_keyValue? hv).1 hequal).trans hv.symm
  have hkind : q.node.kind.equal key.kind = true ↔ q.node.kind.equal p.node.kind = true := by
    rw [equal_iff_of_keyValue? hw, equal_iff_of_keyValue? hw, hkey]
  rw [Bool.eq_iff_iff, agrees_iff, agrees_iff, ← hspan]
  exact and_congr_right fun _ => hkind

/-- Where places correspond in any order and keys have `OneMeaning`, a key means corresponding places, by `lookup`. -/
theorem lookup_rel {N : Node → Node → Prop} (hN : Likeness N) (hspan : ∀ {a b}, N a b → a.span = b.span)
    (hkinds : checkKinds places = .ok ()) (hone : OneMeaning places)
    (h : Multiset.Rel (Place.Alike N) (places : Multiset Place) places') (key : NodeKey) :
    Option.Rel (Place.Alike N) (lookup places key) (lookup places' key) := by
  have hkey : ∀ {p q : Place}, p.Alike N q → p.key = q.key := by
    intro p q hpq
    unfold Place.key
    rw [hN.kind hpq.node, hspan hpq.node]
  rcases hp : lookup places key with _ | p
  · have hnone : lookup places' key = none := by
      rw [← Option.not_isSome_iff_eq_none, lookup_isSome_iff]
      rintro ⟨q, hq, hagrees⟩
      obtain ⟨p, hmem, hpq⟩ := Multiset.exists_mem_of_rel_of_mem (Multiset.rel_flip.2 h) (Multiset.mem_coe.2 hq)
      have hsome : (lookup places key).isSome = true :=
        lookup_isSome_iff.2 ⟨p, Multiset.mem_coe.1 hmem, hkey hpq ▸ hagrees⟩
      rw [hp] at hsome
      cases hsome
    rw [hnone]
    exact .none
  · -- exactly one place of each list has the key and is no shorthand key, and these two correspond
    obtain ⟨hmem, hagrees⟩ := mem_of_lookup hp
    have hcount : places.countP (fun q => q.key.agrees key && !q.isShorthandKey) = 1 := by
      rw [← hone p hmem]
      refine List.countP_congr fun q hq => ?_
      rw [agrees_eq_of_agrees hagrees (asKey_of_checkKinds hkinds q hq) (asKey_of_checkKinds hkinds p hmem)]
    obtain ⟨r, hr⟩ := List.length_eq_one_iff.1 (List.countP_eq_length_filter ▸ hcount)
    have hfilter := rel_filter (p := fun q => q.key.agrees key && !q.isShorthandKey)
      (q := fun q => q.key.agrees key && !q.isShorthandKey) h fun a b hab => by rw [hkey hab, hN.isShorthandKey hab]
    rw [hr, ← Multiset.cons_coe, Multiset.coe_nil] at hfilter
    obtain ⟨r', others, halike, hothers, heq⟩ := Multiset.rel_cons_left.1 hfilter
    rw [Multiset.rel_zero_left.1 hothers] at heq
    rw [← hp, lookup_of_filter hr, lookup_of_filter (Multiset.coe_eq_singleton.1 heq)]
    exact .some halike

end

/-! ## Loading -/

/-- Documents of a role that are read alike: the same up to the order of members. Where the names of an object
are gone through, any text stands for any other. -/
def ReadAlike (r : Role) (d d' : Document) : Prop :=
  ReorderedAs r d d' ∨ (r = .link ∨ r.isEntry = true) ∧ ∃ s t, d = .text s ∧ d' = .text t

section

variable {r r' : Role} {d d' : Document}

theorem ReadAlike.reorderedAs (h : ReadAlike r d d') (hlink : r ≠ .link) (hentry : r.isEntry = false) :
    ReorderedAs r d d' := by
  rcases h with h | ⟨hr | hr, -⟩
  · exact h
  · exact absurd hr hlink
  · rw [hentry] at hr
    cases hr

theorem ReadAlike.object (h : ReadAlike r d d') (hd : ∃ xs, d = .object xs) : ∃ ys, d' = .object ys := by
  rcases h with h | ⟨-, s, t, rfl, -⟩
  · exact h.1.alike.object_iff.1 hd
  · obtain ⟨xs, hxs⟩ := hd
    cases hxs

theorem ReadAlike.member? (hr : r.isEntry = true) (h : ReadAlike r d d') (name : String) :
    Option.Rel (ReadAlike (r.part name)) (d.member? name) (d'.member? name) := by
  rcases h with h | ⟨-, s, t, rfl, rfl⟩
  · cases d with
    | object xs =>
      obtain ⟨ys, rfl, hmember⟩ := h.object
      have hname := hmember name
      rw [Role.member_eq_part hr] at hname
      show Option.Rel _ (memberOf? name xs) (memberOf? name ys)
      generalize memberOf? name xs = x at hname
      generalize memberOf? name ys = y at hname
      cases hname with
      | none => exact .none
      | some hxy => exact .some (.inl hxy)
    | list items =>
      obtain ⟨ys, rfl, -⟩ := h.list
      exact .none
    | _ =>
      rw [h.1.eq_of_key rfl]
      exact .none
  · exact .none

theorem readAlike_null (hr : r ≠ .range) : ReadAlike r .null .null := .inl ⟨.refl _, regular_of_key rfl hr⟩

theorem readAlike_texts {α β : Type} (hr : r = .link ∨ r.isEntry = true) {f : α → String} {g : β → String} :
    ∀ {xs : List α} {ys : List β}, xs.length = ys.length →
      List.Forall₂ (ReadAlike r) (xs.map fun x => text (f x)) (ys.map fun y => text (g y))
  | [], [], _ => .nil
  | _ :: _, _ :: _, h => .cons (.inr ⟨hr, _, _, rfl, rfl⟩) (readAlike_texts hr (Nat.succ.inj h))

theorem ReadAlike.iterate (hr : r = .link ∨ r.isEntry = true) (h : ReadAlike (.each r) d d') :
    Yields (List.Forall₂ (ReadAlike r)) d.iterate d'.iterate := by
  have h := h.reorderedAs nofun rfl
  intro ds hds
  cases d with
  | list items =>
    obtain ⟨ys, rfl, hitems⟩ := h.list
    cases hds
    exact ⟨ys, rfl, hitems.imp fun _ _ hd => .inl hd⟩
  | text s =>
    rw [h.1.eq_of_key rfl]
    cases hds
    exact ⟨_, rfl, readAlike_texts hr rfl⟩
  | object xs =>
    obtain ⟨ys, zs, rfl, hmembers, hperm⟩ := reordered_object h.1
    cases hds
    exact ⟨_, rfl, readAlike_texts hr (hmembers.length_eq.trans hperm.length_eq)⟩
  | _ => cases hds

theorem ReadAlike.get (hr : r.isEntry = true) (h : ReadAlike r d d') (name : String) :
    Yields (ReadAlike (r.part name)) (d.get name) (d'.get name) :=
  get_yields h.object (h.member? hr name) (readAlike_null (Role.part_ne_range hr name).1)

theorem ReadAlike.items {name : String} (hr : r.part name = .each r') (h : ReadAlike r d d') :
    Yields (List.Forall₂ (ReadAlike r')) (items d name) (items d' name) := by
  obtain ⟨hentry, hitem⟩ := Role.each_part hr
  refine items_yields h.object (h.member? hentry name) fun x x' hx => ?_
  rw [hr] at hx
  exact hx.iterate hitem

theorem ReadAlike.size_eq (h : ReadAlike r d d') : d.size = d'.size := by
  rcases h with h | ⟨-, s, t, rfl, rfl⟩
  · exact h.1.size_eq
  · rfl

theorem ReadAlike.resolve {N : Node → Node → Prop} {places places' : List Place}
    (hlookup : ∀ key, Option.Rel (Place.Alike N) (lookup places key) (lookup places' key)) (h : ReadAlike .link d d') :
    Yields (Option.Rel (Place.Alike N)) (resolve places d) (resolve places' d') := by
  have hmissing : ∀ {x y}, x = Except.ok none → y = Except.ok none →
      Yields (Option.Rel (Place.Alike N)) (x : Except Fault (Option Place)) (y : Except Fault (Option Place)) := by
    rintro _ _ rfl rfl found hfound
    cases hfound
    exact ⟨none, rfl, .none⟩
  rcases h with h | ⟨-, s, t, rfl, rfl⟩
  · cases d with
    | object xs =>
      obtain ⟨ys, rfl, hmember⟩ := h.object
      have hkind := hmember "type"
      have hrange := hmember "range"
      -- a kind or a range is missing on both sides or on neither
      rcases hx : memberOf? "type" xs with _ | kind <;> rcases hx' : memberOf? "type" ys with _ | kind' <;>
        rw [hx, hx'] at hkind <;> cases hkind
      · exact hmissing (resolve_of_missing (.inl hx)) (resolve_of_missing (.inl hx'))
      · next hkind =>
        rcases hy : memberOf? "range" xs with _ | range <;> rcases hy' : memberOf? "range" ys with _ | range' <;>
          rw [hy, hy'] at hrange <;> cases hrange
        · exact hmissing (resolve_of_missing (.inr hy)) (resolve_of_missing (.inr hy'))
        · next hrange =>
          rw [resolve_of_parts (d := .object xs) hx hy, resolve_of_parts (d := .object ys) hx' hy']
          refine ReorderedAs.pair hrange |>.bind fun ends ends' hends => ?_
          refine hends.1.toInteger.bind fun start _ hstart => hends.2.toInteger.bind fun stop _ hstop => ?_
          refine hkind.1.asKey.bind fun key _ hkey => ?_
          cases hstart
          cases hstop
          cases hkey
          exact fun found hfound => ⟨_, rfl, by cases hfound; exact hlookup _⟩
    | list items =>
      obtain ⟨ys, rfl, -⟩ := h.list
      exact hmissing rfl rfl
    | _ =>
      rw [h.1.eq_of_key rfl]
      exact hmissing rfl rfl
  · exact hmissing rfl rfl

end

theorem checkKinds_of_asKey : ∀ {places : List Place}, (∀ p ∈ places, p.node.kind.asKey = .ok p.node.kind) →
    checkKinds places = .ok ()
  | [], _ => rfl
  | p :: rest, h => by
    rw [checkKinds, h p (List.mem_cons_self ..), checkKinds_of_asKey fun q hq => h q (List.mem_cons_of_mem _ hq)]
    rfl

theorem asKey_of_reaches {program a : Node} (hkinds : checkKinds (Place.root program).walk = .ok ())
    (h : program.Reaches a) : a.kind.asKey = .ok a.kind := by
  obtain ⟨p, hp, rfl⟩ := Place.exists_mem_walk h
  exact asKey_of_checkKinds hkinds p hp

/-- Loading reads the reordered document as it reads the document: a `Simulation`. -/
theorem simulation_reordered {program program' : Node} (h : program.Reordered program')
    (hkinds : checkKinds (Place.root program).walk = .ok ()) (hone : OneMeaning (Place.root program).walk) :
    Simulation ReadAlike (Reached program Node.Reordered) (Place.root program).walk (Place.root program').walk := by
  have hN := Node.likeness_reordered fun a => asKey_of_reaches hkinds (a := a)
  have hroot : (Place.root program).Alike (Reached program Node.Reordered) (Place.root program') := ⟨⟨h, .self⟩, .nil⟩
  have hwalk := hroot.rel_walk_reached
  have hkinds' : checkKinds (Place.root program').walk = .ok () := by
    refine checkKinds_of_asKey fun q hq => ?_
    obtain ⟨p, hp, hpq⟩ := Multiset.exists_mem_of_rel_of_mem (Multiset.rel_flip.2 hwalk) (Multiset.mem_coe.2 hq)
    rw [← hN.kind hpq.node]
    exact asKey_of_checkKinds hkinds p (Multiset.mem_coe.1 hp)
  exact {
    kinds := fun _ _ => ⟨(), hkinds', trivial⟩
    get := fun name hr hd => hd.get hr name
    items := fun _ hr hd => hd.items hr
    member? := fun name hr hd => hd.member? hr name
    resolve := fun hd => hd.resolve (lookup_rel hN (fun hab => hab.1.span_eq) hkinds hone hwalk)
    plain := fun hd => (hd.reorderedAs (by decide) rfl).1.alike
    key := fun hd => (hd.reorderedAs (by decide) rfl).1.asKey
    size := fun hd => hd.size_eq }

theorem load_reordered {d d' source : Document} {dump : Dump} (hd : ReorderedAs .dump d d')
    (h : (ofDocument d source).1 = .ok dump) (hone : OneMeaning (Place.root dump.program).walk) :
    ∃ dump', (ofDocument d' source).1 = .ok dump' ∧
      dump.forest.Alike (Reached dump.program Node.Reordered) dump'.forest := by
  obtain ⟨ast, _, _, hast, -, hprogram, hbuilt⟩ := built_of_ofDocument h
  cases d with
  | object xs =>
    obtain ⟨ys, rfl, hmember⟩ := hd.object
    have hpart : ∀ {name x}, memberOf? name xs = some x →
        ∃ y, memberOf? name ys = some y ∧ ReorderedAs (Role.dump.part name) x y := by
      intro name x hx
      have hname := hmember name
      rw [hx] at hname
      rcases hy : memberOf? name ys with _ | y <;> rw [hy] at hname <;> cases hname
      next hxy => exact ⟨y, rfl, hxy⟩
    obtain ⟨ast', hast', htree⟩ := hpart hast
    obtain ⟨program', hprogram', hreordered⟩ := Node.ofDocument_yields htree _ hprogram
    have hsimulation := simulation_reordered hreordered hbuilt.kinds hone
    obtain ⟨dump', hload, hforest, -⟩ := ofDocument_simulation ReadAlike
      (fun program => Reached program Node.Reordered) (.object ys) h
      (fun ast₀ program hast₀ hprogram₀ => by
        cases Option.some.inj (hast.symm.trans hast₀)
        cases Except.ok.inj (hprogram.symm.trans hprogram₀)
        exact ⟨ast', program', hast', hprogram', hsimulation⟩)
      (fun scopes hscopes => by
        obtain ⟨scopes', hscopes', hscope⟩ := hpart hscopes
        exact ⟨scopes', hscopes', .inl hscope⟩)
    exact ⟨dump', hload, hforest⟩
  | _ => cases h

end Dump

/-! ## Diagnostics -/

/-- The same diagnostic about the same node; the line, which is as the dump gives it, up to the order of members. -/
structure Diagnostic.Same (d d' : Diagnostic) : Prop where
  ruleId : d.ruleId = d'.ruleId
  kind : d.kind = d'.kind
  messageId : d.messageId = d'.messageId
  message : d.message = d'.message
  data : d.data = d'.data
  severity : d.severity = d'.severity
  nodeKind : d.node.kind = d'.node.kind
  span : d.node.span = d'.node.span
  line : d.line.Reordered d'.line
  column : d.column = d'.column

section

variable {program : Node} {forest forest' : Forest}

theorem Diagnostic.Alike.same {d d' : Diagnostic} (hN : Likeness (Reached program Node.Reordered))
    (h : Diagnostic.Alike (Reached program Node.Reordered) d d') : d.Same d' := by
  have hlocation := h.node.1.location
  refine ⟨h.ruleId, h.kind, h.messageId, h.message, h.data, h.severity, hN.kind h.node, h.node.1.span_eq, ?_, ?_⟩
  · unfold line
    generalize d.node.location = l at hlocation
    generalize d'.node.location = l' at hlocation
    cases hlocation with
    | none => exact Document.Reordered.refl _
    | some hl => exact hl.line
  · unfold column
    generalize d.node.location = l at hlocation
    generalize d'.node.location = l' at hlocation
    cases hlocation with
    | none => rfl
    | some hl => exact hl.column.successor_eq

namespace UnhandledCatch

theorem kind_missingPart (forest : Forest) (severity : Severity) :
    ∀ d ∈ missingPart forest severity, d.kind = .missingBinding := by
  intro d h
  unfold missingPart missingBindings at h
  split at h
  · cases h
  · split at h
    · cases h
    · obtain ⟨p, -, rfl⟩ := List.mem_map.1 h
      rfl

/-- The `missingPart` of an analysis, about catch clauses without a binding, is found in another order. -/
theorem missingPart_rel (hN : Likeness (Reached program Node.Reordered))
    (h : forest.Alike (Reached program Node.Reordered) forest') (severity : Severity) :
    Multiset.Rel (Diagnostic.Alike (Reached program Node.Reordered)) (missingPart forest severity : Multiset Diagnostic)
      (missingPart forest' severity) := by
  unfold missingPart missingBindings
  split
  · exact .zero
  · have hscope := h.scope? 0
    generalize forest.scope? 0 = s at hscope
    generalize forest'.scope? 0 = s' at hscope
    cases hscope with
    | none => exact .zero
    | some hs =>
      have hbare := rel_filter hs.block.rel_walk_reached fun p q hpq => hN.isBareCatch hpq
      rw [← Multiset.map_coe, ← Multiset.map_coe, Multiset.rel_map]
      exact hbare.mono fun p _ q _ hpq => ⟨rfl, rfl, rfl, rfl, hpq.node, rfl, rfl⟩

theorem kind_of_unhandledAlike {N : Node → Node → Prop} {us us' : List Diagnostic}
    (h : List.Forall₂ (Diagnostic.UnhandledAlike N) us us') :
    (∀ d ∈ us, d.kind = .unhandledBinding) ∧ ∀ d ∈ us', d.kind = .unhandledBinding := by
  induction h with
  | nil => exact ⟨nofun, nofun⟩
  | cons hd _ ih =>
    exact ⟨List.forall_mem_cons.2 ⟨hd.unhandled, ih.1⟩, List.forall_mem_cons.2 ⟨hd.kind.symm.trans hd.unhandled, ih.2⟩⟩

/-- The two kinds of diagnostics can be told apart again by their `kind`. -/
theorem filter_kind {us ms : List Diagnostic} (hus : ∀ d ∈ us, d.kind = .unhandledBinding)
    (hms : ∀ d ∈ ms, d.kind = .missingBinding) :
    (us ++ ms).filter (·.kind = .unhandledBinding) = us ∧ (us ++ ms).filter (·.kind = .missingBinding) = ms := by
  have hus' : ∀ d ∈ us, d.kind ≠ .missingBinding := fun d hd => by simp [hus d hd]
  have hms' : ∀ d ∈ ms, d.kind ≠ .unhandledBinding := fun d hd => by simp [hms d hd]
  constructor
  · rw [List.filter_append, List.filter_eq_self.2 (by simpa using hus), List.filter_eq_nil_iff.2 (by simpa using hms'),
      List.append_nil]
  · rw [List.filter_append, List.filter_eq_nil_iff.2 (by simpa using hus'), List.filter_eq_self.2 (by simpa using hms),
      List.nil_append]

end UnhandledCatch

end

namespace Dump

open Document

/-- A dump with pairs for ranges, in which every kind with a span has `OneMeaning`, is loaded by `ofDocument` with its
members `Reordered` as well. Then `analyze` ends with the same fault, or with the same diagnostics: those of unhandled
bindings in the same order, those of catch clauses without a binding in some order. That `DistinctNames` holds is so
of every document that is read. -/
theorem ofDocument_reordered {d d' source : Document} {dump : Dump} (hnames : d.Everywhere DistinctNames .dump)
    (hranges : d.Everywhere PairRanges .dump) (h : (ofDocument d source).1 = .ok dump)
    (hone : OneMeaning (Place.root dump.program).walk) (hreordered : d.Reordered d') :
    ∃ dump', (ofDocument d' source).1 = .ok dump' ∧ ∀ options severity ruleName,
      Agree (fun ds ds' =>
          List.Forall₂ Diagnostic.Same (ds.filter (·.kind = .unhandledBinding))
            (ds'.filter (·.kind = .unhandledBinding)) ∧
          Multiset.Rel Diagnostic.Same (ds.filter (·.kind = .missingBinding) : Multiset Diagnostic)
            (ds'.filter (·.kind = .missingBinding)))
        (analyze dump.forest options severity ruleName).outcome.1
        (analyze dump'.forest options severity ruleName).outcome.1 := by
  obtain ⟨_, _, _, -, -, -, hbuilt⟩ := built_of_ofDocument h
  have hN := Node.likeness_reordered fun a => asKey_of_reaches hbuilt.kinds (a := a)
  obtain ⟨dump', hload, hforest⟩ := load_reordered ⟨hreordered, hnames.and hranges⟩ h hone
  refine ⟨dump', hload, fun options severity ruleName => ?_⟩
  refine (UnhandledCatch.analyze_agrees hN hforest options severity ruleName []).1.mono ?_
  rintro _ _ ⟨us, us', rfl, rfl, hus⟩
  obtain ⟨hkinds, hkinds'⟩ := UnhandledCatch.kind_of_unhandledAlike hus
  obtain ⟨hunhandled, hmissing⟩ :=
    UnhandledCatch.filter_kind hkinds (UnhandledCatch.kind_missingPart dump.forest severity)
  obtain ⟨hunhandled', hmissing'⟩ :=
    UnhandledCatch.filter_kind hkinds' (UnhandledCatch.kind_missingPart dump'.forest severity)
  rw [hunhandled, hunhandled', hmissing, hmissing']
  exact ⟨hus.imp fun _ _ hx => hx.toAlike.same hN,
    (UnhandledCatch.missingPart_rel hN hforest severity).mono fun _ _ _ _ hx => hx.same hN⟩

/-! Two catch clauses without a binding, and a property that is written once for its name and its value. With the
members of the root and of the property turned around, the clauses and the two identifiers are found in the
opposite order. -/

namespace Sample

def identifier : Document := node "Identifier" 5 6 [("name", .text "e")]

def property : List (String × Document) := [
  ("type", .text "Property"), ("range", .list [.int 5, .int 6]), ("shorthand", .bool true),
  ("key", identifier), ("value", identifier)]

def program (property : Document) : List (String × Document) := [
  ("type", .text "Program"), ("range", .list [.int 0, .int 9]), ("first", node "CatchClause" 1 2 []),
  ("second", node "CatchClause" 3 4 []), ("third", property)]

def caught : Document :=
  scope 1 "global" (reference "Program" 0 9) [] [
    scope 2 "catch" (reference "CatchClause" 1 2) [.object [
      ("name", .text "e"),
      ("identifiers", .list [reference "Identifier" 5 6]),
      ("defs", .list [.object [
        ("type", .text "CatchClause"),
        ("name", reference "Identifier" 5 6),
        ("node", reference "CatchClause" 1 2)]])]] []]

def shorthand : Document := .object [("ast", .object (program (.object property))), ("scopes", caught)]

def turned : Document :=
  .object [("scopes", caught), ("ast", .object (program (.object property.reverse)).reverse)]

theorem turned_reordered : shorthand.Reordered turned := by
  have hreverse : ∀ members, (object members).Reordered (object members.reverse) := by
    intro members
    simp only [Reordered]
    exact ⟨members, .refl members, (List.reverse_perm members).symm⟩
  have hprogram : (object (program (object property))).Reordered
      (object (program (object property.reverse)).reverse) := by
    simp only [Reordered]
    refine ⟨program (object property.reverse), ?_, (List.reverse_perm _).symm⟩
    simpa [program, ReorderedMembers, Reordered.refl] using hreverse property
  simp only [shorthand, turned, Reordered]
  refine ⟨[("ast", .object (program (.object property.reverse)).reverse), ("scopes", caught)], ?_, List.Perm.swap ..⟩
  simpa [ReorderedMembers, Reordered.refl] using hprogram

end Sample

/-- Of `Sample.turned` the unhandled binding is reported first, as it is of `Sample.shorthand`, and the two clauses
change places. -/
theorem ofDocument_reordered_sample :
    ∃ dump dump' ds ds', (ofDocument Sample.shorthand .null).1 = .ok dump ∧
      (ofDocument Sample.turned .null).1 = .ok dump' ∧
      (analyze dump.forest .default .error UnhandledCatch.ruleName).outcome.1 = .ok ds ∧
      (analyze dump'.forest .default .error UnhandledCatch.ruleName).outcome.1 = .ok ds' ∧
      ds.map (fun d => d.node.span) = [⟨5, 6⟩, ⟨1, 2⟩, ⟨3, 4⟩] ∧
      ds'.map (fun d => d.node.span) = [⟨5, 6⟩, ⟨3, 4⟩, ⟨1, 2⟩] ∧
      List.Forall₂ Diagnostic.Same (ds.filter (·.kind = .unhandledBinding)) (ds'.filter (·.kind = .unhandledBinding)) ∧
      Multiset.Rel Diagnostic.Same (ds.filter (·.kind = .missingBinding) : Multiset Diagnostic)
        (ds'.filter (·.kind = .missingBinding)) := by
  have hnames : Sample.shorthand.Everywhere DistinctNames .dump := by
    simp [Sample.shorthand, Sample.program, Sample.property, Sample.identifier, Sample.caught, Sample.scope,
      Sample.node, Sample.reference, Everywhere, EverywhereUnder, EverywhereIn, DistinctNames]
  have hranges : Sample.shorthand.Everywhere PairRanges .dump := by
    simp [Sample.shorthand, Sample.program, Sample.property, Sample.identifier, Sample.caught, Sample.scope,
      Sample.node, Sample.reference, Everywhere, EverywhereUnder, EverywhereIn, PairRanges, Role.member, Role.part,
      Role.nodeMember, Role.item, memberOf?]
  have hone : ∀ n, Node.ofDocument (.object (Sample.program (.object Sample.property))) = .ok n →
      OneMeaning (Place.root n).walk := by
    rintro n ⟨⟩
    decide
  obtain ⟨dump, ds, hdump, hds, hspans, hdump_one⟩ : ∃ dump ds, (ofDocument Sample.shorthand .null).1 = .ok dump ∧
      (analyze dump.forest .default .error UnhandledCatch.ruleName).outcome.1 = .ok ds ∧
      ds.map (fun d => d.node.span) = [⟨5, 6⟩, ⟨1, 2⟩, ⟨3, 4⟩] ∧ OneMeaning (Place.root dump.program).walk :=
    ⟨_, _, rfl, UnhandledCatch.analyze_of_single (by decide) rfl rfl rfl, rfl, hone _ rfl⟩
  obtain ⟨dump', ds', hdump', hds', hspans'⟩ : ∃ dump' ds', (ofDocument Sample.turned .null).1 = .ok dump' ∧
      (analyze dump'.forest .default .error UnhandledCatch.ruleName).outcome.1 = .ok ds' ∧
      ds'.map (fun d => d.node.span) = [⟨5, 6⟩, ⟨3, 4⟩, ⟨1, 2⟩] :=
    ⟨_, _, rfl, UnhandledCatch.analyze_of_single (by decide) rfl rfl rfl, rfl⟩
  obtain ⟨turned, hload, hanalyze⟩ := ofDocument_reordered hnames hranges hdump hdump_one Sample.turned_reordered
  cases hload.symm.trans hdump'
  have hagree := hanalyze .default .error UnhandledCatch.ruleName
  rw [hds, hds'] at hagree
  exact ⟨dump, _, ds, ds', hdump, hdump', hds, hds', hspans, hspans', hagree⟩

end Dump

end CatchAudit
