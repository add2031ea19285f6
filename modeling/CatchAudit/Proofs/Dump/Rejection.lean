/-
How loading a document fails. Every fault met on the way is expected: it means that the dump is
malformed and becomes a rejection that names the source, or it is about an infinite number for an
offset, and then it is not turned into a rejection. So a document is loaded or rejected exactly when
building does not stop at an infinite number, which only documents with an infinite offset can do.
-/
import CatchAudit.Proofs.Document.Offsets

namespace CatchAudit

/-! ## The syntax tree -/

/-- Missing kinds and spans are always expected. -/
def BuildError.Expected (root : Document) : BuildError → Prop
  | .missingKind | .missingSpan _ => True
  | .fault f => f.Expected root

namespace Node

variable {root : Document}

theorem toBuild_answers {α : Type} {Q : α → Prop} {x : Except Fault α} (h : Answers (Fault.Expected root) Q x) :
    Answers (BuildError.Expected root) Q (toBuild x) := by
  cases x with
  | error f => exact h
  | ok a => exact h

theorem readSpan_answers (kind : Document) {members : List (String × Document)} (h : root.Below (.object members)) :
    Answers (BuildError.Expected root) (fun _ => True) (readSpan kind members) := by
  unfold readSpan
  split
  · next range hrange =>
    refine toBuild_answers (Document.pair_answers.bind fun ⟨a, b⟩ hpair => Document.offsets_answers fun hinf => ?_)
    exact h (.range (hpair hinf ▸ hrange) hinf)
  · split
    · next a b hstart hend =>
      refine toBuild_answers (Document.offsets_answers fun hinf => ?_)
      rcases hinf with ha | hb
      · exact h (.bound (.inl rfl) hstart ha)
      · exact h (.bound (.inr rfl) hend hb)
    · trivial

theorem readPosition_answers (d : Document) (name : String) :
    Answers (Fault.Expected root) (fun _ => True) (readPosition d name) :=
  (Document.require_answers name).bind fun _ _ => (Document.require_answers "line").bind fun _ _ =>
    (Document.require_answers name).bind fun _ _ => (Document.require_answers "column").bind fun _ _ => trivial

theorem readLocation_answers (d : Document) : Answers (Fault.Expected root) (fun _ => True) (readLocation d) := by
  unfold readLocation
  split
  · exact (readPosition_answers d "start").bind fun _ _ => (readPosition_answers d "end").bind fun _ _ => trivial
  · trivial

theorem readHeader_answers {members : List (String × Document)} (h : root.Below (.object members)) :
    Answers (BuildError.Expected root) (fun _ => True) (readHeader members) := by
  unfold readHeader
  split
  · trivial
  · next kind _ =>
    exact (readSpan_answers kind h).bind fun _ _ => (toBuild_answers (readLocation_answers _)).bind fun _ _ => trivial

mutual
theorem buildFields_answers : ∀ {members : List (String × Document)}, (∀ m ∈ members, root.Below m.2) →
    Answers (BuildError.Expected root) (fun _ => True) (buildFields members)
  | [], _ => trivial
  | (name, d) :: rest, h => by
    have hrest := buildFields_answers fun m hm => h m (List.mem_cons_of_mem _ hm)
    unfold buildFields
    split
    · exact hrest
    · exact (buildField_answers (h _ (List.mem_cons_self ..))).bind fun _ _ => hrest.bind fun _ _ => trivial

theorem buildField_answers : ∀ {d : Document}, root.Below d →
    Answers (BuildError.Expected root) (fun _ => True) (buildField d)
  | .object members, h => by
    unfold buildField
    split
    · exact (readHeader_answers h).bind fun _ _ =>
        (buildFields_answers fun m hm => h.of_mem hm).bind fun _ _ => trivial
    · trivial
  | .list items, h => by
    unfold buildField
    exact (buildItems_answers fun d hd => h.of_item hd).bind fun _ _ => trivial
  | .null, _ | .bool _, _ | .int _, _ | .float _, _ | .text _, _ | .moment _, _ => trivial

theorem buildItems_answers : ∀ {items : List Document}, (∀ d ∈ items, root.Below d) →
    Answers (BuildError.Expected root) (fun _ => True) (buildItems items)
  | [], _ => trivial
  | d :: rest, h => by
    have hrest := buildItems_answers fun d hd => h d (List.mem_cons_of_mem _ hd)
    unfold buildItems
    exact (buildField_answers (h _ (List.mem_cons_self ..))).bind fun _ _ => hrest.bind fun _ _ => trivial
end

theorem ofDocument_answers {d : Document} (h : root.Below d) :
    Answers (BuildError.Expected root) (fun _ => True) (Node.ofDocument d) := by
  cases d with
  | object members =>
    exact (readHeader_answers h).bind fun _ _ =>
      (buildFields_answers fun m hm => h.of_mem hm).bind fun _ _ => trivial
  | _ => trivial

end Node

/-! ## The scopes -/

namespace Dump

variable {root : Document} {places : List Place}

/-- The entries of all scopes lie below `root`. -/
def Building.Below (root : Document) (b : Building) : Prop := ∀ e ∈ b.entries, root.Below e

/-- A step of building that meets `Expected` faults only. -/
abbrev Tame (root : Document) {α : Type} (Q : α → Prop) (x : Build α) : Prop :=
  Ensures (Building.Below root) (Fault.Expected root) Q x

theorem resolve_answers {d : Document} (h : root.Below d) :
    Answers (Fault.Expected root) (fun _ => True) (resolve places d) := by
  unfold resolve
  split
  · next kind range _ hrange =>
    cases d with
    | object members =>
      -- an infinite item means that the range is a list, so the object itself has the infinite offset
      refine Document.pair_answers.bind fun ⟨a, b⟩ hpair => ?_
      have hinf : a.IsInfinite ∨ b.IsInfinite → root.HasInfiniteOffset :=
        fun hinf => h (.range (hpair hinf ▸ hrange) hinf)
      exact (Document.toInteger_answers fun ha => hinf (.inl ha)).bind fun _ _ =>
        (Document.toInteger_answers fun hb => hinf (.inr hb)).bind fun _ _ =>
          Document.asKey_answers.bind fun _ _ => trivial
    | _ => cases hrange
  · trivial

/-! Each step of building has one lemma; a step that calls others chains theirs. -/

theorem get_tame {d : Document} (name : String) (h : root.Below d) : Tame root root.Below (liftM (d.get name)) :=
  Ensures.lift (Document.get_answers name h)

theorem resolve_tame {d : Document} (h : root.Below d) :
    Tame root (fun _ => True) (liftM (resolve places d)) :=
  Ensures.lift (resolve_answers h)

theorem items_tame {d : Document} (name : String) (h : root.Below d) :
    Tame root (fun items => ∀ d ∈ items, root.Below d) (liftM (items d name)) :=
  Ensures.lift ((Document.getD_answers name h).bind fun _ hd => Document.iterate_answers hd)

theorem skip_tame (what : Skip) : Tame root (fun _ => True) (skip what) := Ensures.modify fun _ hb => hb

theorem readKind_tame (d : Document) : Tame root (fun _ => True) (readKind d) := by
  unfold readKind
  split
  · exact Ensures.pure trivial
  · exact (skip_tame _).bind fun _ _ => Ensures.pure trivial

theorem addScope_tame (kind : ScopeKind) (block : Place) (upper : Option Nat) {entry : Document}
    (h : root.Below entry) : Tame root (fun _ => True) (addScope kind block upper entry) := by
  refine Ensures.get.bind fun b _ => (Ensures.modify ?_).bind fun _ _ => ?_
  · intro b hb e he
    rcases List.mem_append.1 he with he | he
    · exact hb e he
    · rw [List.mem_singleton.1 he]
      exact h
  · split
    · exact Ensures.pure trivial
    · exact (Ensures.lift Document.asKey_answers).bind fun _ _ =>
        (Ensures.modify fun _ hb => hb).bind fun _ _ => Ensures.pure trivial

theorem addChild_tame (upper : Nat) {entry : Document} (h : root.Below entry) :
    Tame root (fun made => ∀ m ∈ made.toList, root.Below m.2) (addChild places upper entry) := by
  refine (get_tame "block" h).bind fun _ hb =>
    (resolve_tame hb).bind fun block? _ => ?_
  cases block? with
  | none =>
    refine (get_tame "id" h).bind fun _ _ => (skip_tame _).bind fun _ _ => ?_
    exact Ensures.pure fun m hm => by cases hm
  | some block =>
    refine (get_tame "type" h).bind fun _ _ => (readKind_tame _).bind fun kind _ =>
      (addScope_tame kind block (some upper) h).bind fun s _ => Ensures.pure ?_
    intro m hm
    rw [Option.toList_some, List.mem_singleton] at hm
    rw [hm]
    exact h

theorem addChildren_tame (upper : Nat) : ∀ {entries : List Document}, (∀ e ∈ entries, root.Below e) →
    Tame root (fun made => ∀ m ∈ made, root.Below m.2) (addChildren places upper entries)
  | [], _ => Ensures.pure fun m hm => by cases hm
  | entry :: rest, h => by
    refine (addChild_tame upper (h _ (List.mem_cons_self ..))).bind fun made hmade =>
      (addChildren_tame upper fun e he => h e (List.mem_cons_of_mem _ he)).bind fun others hothers =>
        Ensures.pure fun m hm => ?_
    rcases List.mem_append.1 hm with hm | hm
    · exact hmade m hm
    · exact hothers m hm

theorem addScopes_tame : ∀ (fuel : Nat) {stack : List (Nat × Document)}, (∀ m ∈ stack, root.Below m.2) →
    Tame root (fun _ => True) (addScopes places fuel stack)
  | _, [], _ => by
    unfold addScopes
    exact Ensures.pure trivial
  | 0, _ :: _, _ => Ensures.pure trivial
  | fuel + 1, (s, entry) :: rest, h => by
    refine (Ensures.lift (Document.getD_answers "childScopes" (h _ (List.mem_cons_self ..)))).bind fun _ hd =>
      (Ensures.lift (Document.iterate_answers hd)).bind fun _ hitems =>
        (addChildren_tame s hitems).bind fun children hchildren => addScopes_tame fuel fun m hm => ?_
    rcases List.mem_append.1 hm with hm | hm
    · exact hchildren m hm
    · exact h m (List.mem_cons_of_mem _ hm)

/-! ## The variables -/

theorem addIdentifiers_tame (name : String) : ∀ {ds : List Document}, (∀ d ∈ ds, root.Below d) →
    Tame root (fun _ => True) (addIdentifiers places name ds)
  | [], _ => Ensures.pure trivial
  | d :: rest, h => by
    have hrest := addIdentifiers_tame name fun d hd => h d (List.mem_cons_of_mem _ hd)
    refine (resolve_tame (h _ (List.mem_cons_self ..))).bind fun p? _ => ?_
    cases p? with
    | none => exact (skip_tame _).bind fun _ _ => hrest
    | some p => exact hrest.bind fun _ _ => Ensures.pure trivial

theorem readDefinition_tame (name : String) {d : Document} (h : root.Below d) :
    Tame root (fun _ => True) (readDefinition places name d) := by
  refine (get_tame "type" h).bind fun kindName _ => ?_
  split
  · exact (skip_tame _).bind fun _ _ => Ensures.pure trivial
  · refine (get_tame "name" h).bind fun _ hname =>
      (resolve_tame hname).bind fun p? _ => ?_
    cases p? with
    | none => exact (skip_tame _).bind fun _ _ => Ensures.pure trivial
    | some p =>
      exact (get_tame "node" h).bind fun _ hnode =>
        (resolve_tame hnode).bind fun _ _ => Ensures.pure trivial

theorem readReference_tame (v : VariableId) (name : String) {d : Document} (h : root.Below d) :
    Tame root (fun _ => True) (readReference places v name d) := by
  refine (get_tame "identifier" h).bind fun _ hid =>
    (resolve_tame hid).bind fun p? _ =>
      (get_tame "from" h).bind fun _ _ =>
        (Ensures.lift Document.asKey_answers).bind fun _ _ => Ensures.get.bind fun _ _ => ?_
  split
  · exact (get_tame "read" h).bind fun _ _ =>
      (get_tame "write" h).bind fun _ _ => Ensures.pure trivial
  · exact (skip_tame _).bind fun _ _ => Ensures.pure trivial

theorem addDefinitions_tame (name : String) : ∀ {ds : List Document}, (∀ d ∈ ds, root.Below d) →
    Tame root (fun _ => True) (addDefinitions places name ds)
  | [], _ => Ensures.pure trivial
  | _ :: _, h =>
    (readDefinition_tame name (h _ (List.mem_cons_self ..))).bind fun _ _ =>
      (addDefinitions_tame name fun d hd => h d (List.mem_cons_of_mem _ hd)).bind fun _ _ => Ensures.pure trivial

theorem addReferences_tame (v : VariableId) (name : String) : ∀ {ds : List Document}, (∀ d ∈ ds, root.Below d) →
    Tame root (fun _ => True) (addReferences places v name ds)
  | [], _ => Ensures.pure trivial
  | _ :: _, h =>
    (readReference_tame v name (h _ (List.mem_cons_self ..))).bind fun _ _ =>
      (addReferences_tame v name fun d hd => h d (List.mem_cons_of_mem _ hd)).bind fun _ _ => Ensures.pure trivial

theorem addVariable_tame (s : Nat) {entry : Document} (h : root.Below entry) :
    Tame root (fun _ => True) (addVariable places s entry) := by
  refine (get_tame "name" h).bind fun d _ => ?_
  cases d with
  | text name =>
    exact Ensures.get.bind fun _ _ =>
      (items_tame "identifiers" h).bind fun _ hids => (addIdentifiers_tame name hids).bind fun _ _ =>
      (items_tame "defs" h).bind fun _ hdefs => (addDefinitions_tame name hdefs).bind fun _ _ =>
      (items_tame "references" h).bind fun _ hrefs =>
        (addReferences_tame _ name hrefs).bind fun _ _ => Ensures.modify fun _ hb => hb
  | _ => exact skip_tame _

theorem addVariables_tame (s : Nat) : ∀ {entries : List Document}, (∀ e ∈ entries, root.Below e) →
    Tame root (fun _ => True) (addVariables places s entries)
  | [], _ => Ensures.pure trivial
  | _ :: _, h =>
    (addVariable_tame s (h _ (List.mem_cons_self ..))).bind fun _ _ =>
      addVariables_tame s fun e he => h e (List.mem_cons_of_mem _ he)

theorem addAllVariables_tame : ∀ (s : Nat) {entries : List Document}, (∀ e ∈ entries, root.Below e) →
    Tame root (fun _ => True) (addAllVariables places s entries)
  | _, [], _ => Ensures.pure trivial
  | s, _ :: _, h =>
    (items_tame "variables" (h _ (List.mem_cons_self ..))).bind fun _ hitems =>
      (addVariables_tame s hitems).bind fun _ _ =>
        addAllVariables_tame (s + 1) fun e he => h e (List.mem_cons_of_mem _ he)

/-! ## The root -/

theorem checkKinds_answers : ∀ {ps : List Place}, Answers (Fault.Expected root) (fun _ => True) (checkKinds ps)
  | [] => trivial
  | _ :: _ => Document.asKey_answers.bind fun _ _ => checkKinds_answers

theorem addRoot_tame {entry : Document} (h : root.Below entry) :
    Tame root (fun _ => True) (addRoot places entry) := by
  refine (Ensures.lift checkKinds_answers).bind fun _ _ => ?_
  cases entry with
  | object members =>
    refine (get_tame "block" h).bind fun _ hb =>
      (resolve_tame hb).bind fun block? _ => ?_
    cases block? with
    | none => exact Ensures.pure trivial
    | some block =>
      refine (get_tame "type" h).bind fun _ _ => (readKind_tame _).bind fun kind _ =>
        (addScope_tame kind block none h).bind fun s _ => (addScopes_tame _ ?_).bind fun _ _ =>
          Ensures.get.bind fun b hb => (addAllVariables_tame 0 hb).bind fun _ _ => Ensures.pure trivial
      -- the stack starts with the root entry alone
      intro m hm
      rw [List.mem_singleton.1 hm]
      exact h
  | _ => exact Ensures.pure trivial

/-! ## Loading -/

/-- The source that a rejection names: the `source` of the document when that is truthy, else the one given. -/
def sourceOf (d source : Document) : Document :=
  match d.member? "source" with
  | some own => if own.truthy then own else source
  | none => source

/-- The fault at which building stops: of the tree, or else of the scopes over it. -/
def stop? (ast scopes : Document) : Option Fault :=
  match Node.ofDocument ast with
  | .error (.fault f) => some f
  | .error _ => none
  | .ok program => match ((addRoot (Place.root program).walk scopes).run Building.start).1 with
    | .error f => some f
    | .ok _ => none

/-- The document has a tree and scopes, and the first fault met in building them is that an infinite
number has no whole part. -/
def StopsAtInfinity (d : Document) : Prop :=
  ∃ ast scopes, d.member? "ast" = some ast ∧ d.member? "scopes" = some scopes ∧
    stop? ast scopes = some .infinityToInteger

/-- The outcome is a dump, or a `.rejected` that names the source. -/
def LoadedOrRejected (source : Document) (outcome : Except LoadError Dump) : Prop :=
  (∃ dump, outcome = .ok dump) ∨ ∃ reason, outcome = .error (.rejected ⟨source, reason⟩)

theorem stop?_expected {ast scopes : Document} {f : Fault} (hast : root.Below ast) (hscopes : root.Below scopes)
    (h : stop? ast scopes = some f) : f.Expected root := by
  have htree := Node.ofDocument_answers hast
  unfold stop? at h
  rcases hn : Node.ofDocument ast with (_ | _ | f') | program <;> rw [hn] at h htree
  · cases h
  · cases h
  · cases h
    exact htree
  · have hroot : Answers (Fault.Expected root) (fun _ => True)
        ((addRoot (Place.root program).walk scopes).run Building.start).1 :=
      (addRoot_tame hscopes Building.start fun e he => by cases he).2
    simp only at h
    rcases hr : ((addRoot (Place.root program).walk scopes).run Building.start).1 with f' | problem
      <;> rw [hr] at h hroot
    · cases h
      exact hroot
    · cases h

theorem withScopes_outcome (program : Node) (scopes source : Document) :
    match ((addRoot (Place.root program).walk scopes).run Building.start).1 with
    | .error f => (withScopes program scopes source).1 = .error (ofFault source f)
    | .ok _ => LoadedOrRejected source (withScopes program scopes source).1 := by
  unfold withScopes
  rcases (addRoot (Place.root program).walk scopes).run Building.start with ⟨f | _ | _ | _, built⟩
  · rfl
  · exact .inl ⟨_, rfl⟩
  · exact .inr ⟨.scopesNotAnObject, rfl⟩
  · exact .inr ⟨.rootBlockNotInTree, rfl⟩

/-- A document with a tree and scopes fails with the fault that `stop?` gives, if there is one. -/
theorem ofDocument_of_parts {d ast scopes : Document} (source : Document) (hast : d.member? "ast" = some ast)
    (hscopes : d.member? "scopes" = some scopes) :
    match stop? ast scopes with
    | some f => (ofDocument d source).1 = .error (ofFault (sourceOf d source) f)
    | none => LoadedOrRejected (sourceOf d source) (ofDocument d source).1 := by
  cases d with
  | object members =>
    have hast : memberOf? "ast" members = some ast := hast
    have hscopes : memberOf? "scopes" members = some scopes := hscopes
    unfold stop?
    rcases hn : Node.ofDocument ast with (_ | kind | f) | program
    · exact .inr ⟨.nodeWithoutKind, by simp only [ofDocument, hast, hscopes, hn]; rfl⟩
    · exact .inr ⟨.nodeWithoutSpan kind, by simp only [ofDocument, hast, hscopes, hn]; rfl⟩
    · simp only [ofDocument, hast, hscopes, hn]
      rfl
    · have hload : ofDocument (.object members) source =
          withScopes program scopes (sourceOf (.object members) source) := by
        simp only [ofDocument, hast, hscopes, hn]
        rfl
      have hout := withScopes_outcome program scopes (sourceOf (.object members) source)
      rw [hload]
      dsimp only
      rcases hr : ((addRoot (Place.root program).walk scopes).run Building.start).1 with f | problem
        <;> rw [hr] at hout
      · exact hout
      · exact hout
  | _ => cases hast

/-- By `ofDocument` a document is loaded when it has a tree and scopes, and `withScopes` can build the scopes over the
tree. -/
theorem ofDocument_ok_iff {d source : Document} {dump : Dump} :
    (ofDocument d source).1 = .ok dump ↔ ∃ ast scopes program, d.member? "ast" = some ast ∧
      d.member? "scopes" = some scopes ∧ Node.ofDocument ast = .ok program ∧
      (withScopes program scopes (sourceOf d source)).1 = .ok dump := by
  constructor
  · intro h
    cases d with
    | object members =>
      unfold ofDocument at h
      dsimp only at h
      split at h
      · next ast scopes hast hscopes =>
        split at h
        · cases h
        · next program hprogram => exact ⟨ast, scopes, program, hast, hscopes, hprogram, h⟩
      · cases h
    | _ => cases h
  · rintro ⟨ast, scopes, program, hast, hscopes, hprogram, h⟩
    cases d with
    | object members =>
      have hast : memberOf? "ast" members = some ast := hast
      have hscopes : memberOf? "scopes" members = some scopes := hscopes
      simp only [ofDocument, hast, hscopes, hprogram]
      exact h
    | _ => cases hast

/-- `ofDocument` meets no infinite number and gives a dump or a rejection, or the document `StopsAtInfinity`, at a
number which then is an offset in it. -/
theorem ofDocument_cases (d source : Document) :
    ¬ StopsAtInfinity d ∧ LoadedOrRejected (sourceOf d source) (ofDocument d source).1 ∨
      StopsAtInfinity d ∧ d.HasInfiniteOffset ∧ (ofDocument d source).1 = .error (.escaped .infinityToInteger) := by
  by_cases hparts : ∃ ast scopes, d.member? "ast" = some ast ∧ d.member? "scopes" = some scopes
  · obtain ⟨ast, scopes, hast, hscopes⟩ := hparts
    have hstops : StopsAtInfinity d ↔ stop? ast scopes = some .infinityToInteger := by
      constructor
      · rintro ⟨ast', scopes', hast', hscopes', h⟩
        cases hast.symm.trans hast'
        cases hscopes.symm.trans hscopes'
        exact h
      · exact fun h => ⟨ast, scopes, hast, hscopes, h⟩
    have hbelow : ∀ {name : String} {part : Document}, d.member? name = some part → d.Below part := by
      intro name part hpart
      cases d with
      | object members => exact Document.below_self.of_mem (mem_of_memberOf? hpart)
      | _ => cases hpart
    have hout := ofDocument_of_parts source hast hscopes
    rw [hstops]
    rcases hs : stop? ast scopes with _ | f <;> rw [hs] at hout
    · exact .inl ⟨by simp, hout⟩
    · -- the fault is a malformation, and then not about infinity, or it is the one that escapes
      rcases stop?_expected (hbelow hast) (hbelow hscopes) hs with hmal | ⟨rfl, hinf⟩
      · refine .inl ⟨?_, .inr ⟨.malformed f, ?_⟩⟩
        · rintro ⟨⟩
          cases hmal
        · rw [hout, ofFault, if_pos hmal]
      · exact .inr ⟨rfl, hinf, hout⟩
  · refine .inl ⟨fun ⟨ast, scopes, hast, hscopes, _⟩ => hparts ⟨ast, scopes, hast, hscopes⟩, .inr ?_⟩
    cases d with
    | object members =>
      refine ⟨.missingPart, ?_⟩
      simp only [ofDocument]
      split
      · next ast scopes hast hscopes => exact absurd ⟨ast, scopes, hast, hscopes⟩ hparts
      · rfl
    | _ => exact ⟨.notAnObject, rfl⟩

/-- By `ofDocument` a document is loaded, or rejected with a message that begins with its source if it has one,
exactly if it does not stop building with `StopsAtInfinity`. When it does stop there, the number is an offset in the
document, and the fault is `.escaped`, not turned into a rejection. -/
theorem ofDocument_loads_or_rejects_iff (d source : Document) :
    ((∃ dump, (ofDocument d source).1 = .ok dump) ∨
        (∃ e, (ofDocument d source).1 = .error (.rejected e) ∧ ((sourceOf d source).truthy = true →
          ∃ rest, (LoadError.rejected e).message = (sourceOf d source).display ++ ": " ++ rest)) ↔
      ¬ StopsAtInfinity d) ∧
    (StopsAtInfinity d →
      d.HasInfiniteOffset ∧ (ofDocument d source).1 = .error (.escaped .infinityToInteger)) := by
  rcases ofDocument_cases d source with ⟨hno, hout⟩ | ⟨hyes, hinf, hout⟩
  · refine ⟨iff_of_true ?_ hno, fun h => absurd h hno⟩
    rcases hout with ⟨dump, hdump⟩ | ⟨reason, hreason⟩
    · exact .inl ⟨dump, hdump⟩
    · exact .inr ⟨_, hreason, fun htruthy => ⟨reason.message, if_pos htruthy⟩⟩
  · refine ⟨iff_of_false ?_ (not_not_intro hyes), fun _ => ⟨hinf, hout⟩⟩
    rw [hout]
    rintro (⟨dump, h⟩ | ⟨e, h, -⟩)
    · cases h
    · cases h

/-- The end of the range of the tree is an infinite number, and the fault leaves `ofDocument`. -/
theorem ofDocument_infinite_range :
    (ofDocument (.object [
      ("ast", .object [("type", .text "Program"), ("range", .list [.int 0, .float (.infinite false)])]),
      ("scopes", .object [])]) (.text "dump.scope.json")).1 = .error (.escaped .infinityToInteger) := rfl

end Dump

end CatchAudit
